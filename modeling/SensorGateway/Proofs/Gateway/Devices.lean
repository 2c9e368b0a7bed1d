import SensorGateway.Proofs.Gateway.Effects

/-!
The sessions of a gateway, seen from one device. A device has one session at
most; one without a session has not begun. `DeviceStep` is what a gateway does for one
device: the session moves, its timers follow, and nothing happens to any other
device.
-/

namespace SensorGateway.Gateway

def phaseAt (gateway : Gateway) (address : Address) : Session.Phase :=
  ((gateway.session? address).map (·.phase)).getD .idle

def known (gateway : Gateway) : List Identity :=
  gateway.sessions.map (·.address.identity)

variable {gateway : Gateway} {address other : Address} {session : Session}

/-- It does not matter under which of its addresses a device is looked for. -/
theorem session?_congr (h : address.same other = true) :
    gateway.session? address = gateway.session? other := by
  unfold session?
  congr 1
  funext session
  exact Address.same_congr h _

theorem phaseAt_congr (h : address.same other = true) :
    gateway.phaseAt address = gateway.phaseAt other := by
  unfold phaseAt
  rw [session?_congr h]

theorem mem_of_session? (h : gateway.session? address = some session) :
    session ∈ gateway.sessions := List.mem_of_find?_eq_some h

theorem same_of_session? (h : gateway.session? address = some session) :
    session.address.same address = true := by
  have hfound := List.find?_some h
  exact hfound

theorem phaseAt_of_session? (h : gateway.session? address = some session) :
    gateway.phaseAt address = session.phase := by
  simp [phaseAt, h]

theorem phaseAt_of_none (h : gateway.session? address = none) :
    gateway.phaseAt address = .idle := by
  simp [phaseAt, h]

/-- If no device has two sessions, every session is the one of its device. -/
theorem session?_of_mem (hnodup : gateway.known.Nodup) (hmem : session ∈ gateway.sessions) :
    gateway.session? session.address = some session := by
  cases hfound : gateway.session? session.address with
  | none =>
    have hnone := List.find?_eq_none.mp hfound session hmem
    simp at hnone
  | some found =>
    have hsame := Address.same_iff.mp (same_of_session? hfound)
    rw [List.inj_on_of_nodup_map hnodup (mem_of_session? hfound) hmem hsame]

/-! ### Changing a session -/

/-- No device becomes known, or unknown, as its session changes. -/
theorem known_setSession (gateway : Gateway) (session : Session) :
    (gateway.setSession session).known = gateway.known := by
  simp only [known, setSession, List.map_map]
  apply List.map_congr_left
  intro found _
  simp only [Function.comp]
  split
  next hsame => exact (Address.same_iff.mp hsame).symm
  next => rfl

theorem session?_setSession_map :
    (gateway.setSession session).session? other =
      (gateway.session? other).map fun entry =>
        if entry.address.same session.address then session else entry := by
  unfold session? setSession
  rw [List.find?_map]
  congr 2
  funext entry
  simp only [Function.comp]
  split
  next hentry => exact (Address.same_congr_left hentry other).symm
  next => rfl

/-- A session that takes the place of another one of its device is found there. -/
theorem session?_setSession (h : session.address.same address = true)
    (hsome : (gateway.session? address).isSome = true) :
    (gateway.setSession session).session? address = some session := by
  obtain ⟨entry, hentry⟩ := Option.isSome_iff_exists.mp hsome
  have hsame : entry.address.same session.address = true := by
    rw [Address.same_congr h]
    exact same_of_session? hentry
  rw [session?_setSession_map, hentry, Option.map_some, if_pos hsame]

/-- The sessions of other devices stay as they are. -/
theorem session?_setSession_other (h : session.address.same other = false) :
    (gateway.setSession session).session? other = gateway.session? other := by
  rw [session?_setSession_map]
  cases hentry : gateway.session? other with
  | none => rfl
  | some entry =>
    have hsame : entry.address.same session.address = false := by
      rw [Address.same_congr_left (same_of_session? hentry), Address.same_comm, h]
    rw [Option.map_some, if_neg (by simp [hsame])]

/-! ### Adding and removing sessions -/

def addSession (gateway : Gateway) (session : Session) : Gateway :=
  { gateway with sessions := gateway.sessions ++ [session] }

/-- A session that is added is found unless there was one of the device before. -/
theorem session?_addSession (gateway : Gateway) (session : Session) (other : Address) :
    (gateway.addSession session).session? other =
      (gateway.session? other).or (if session.address.same other then some session else none) := by
  unfold session? addSession
  rw [List.find?_append, List.find?_singleton]

theorem known_addSession (gateway : Gateway) (session : Session) :
    (gateway.addSession session).known = gateway.known ++ [session.address.identity] := by
  simp [known, addSession]

/-- A device that has no session may be given one. -/
theorem nodup_addSession (hnone : gateway.session? session.address = none)
    (hnodup : gateway.known.Nodup) : (gateway.addSession session).known.Nodup := by
  rw [known_addSession, List.nodup_append]
  refine ⟨hnodup, List.nodup_singleton _, ?_⟩
  intro identity hin last hlast heq
  obtain ⟨entry, hentry, rfl⟩ := List.mem_map.mp hin
  rw [List.mem_singleton.mp hlast] at heq
  exact List.find?_eq_none.mp hnone entry hentry (Address.same_iff.mpr heq)

theorem known_removeSession (gateway : Gateway) (address : Address) :
    (gateway.removeSession address).known.Sublist gateway.known :=
  List.filter_sublist.map _

theorem session?_removeSession (h : address.same other = true) :
    (gateway.removeSession address).session? other = none := by
  unfold session? removeSession
  rw [List.find?_eq_none]
  intro entry hentry
  have hremoved := (List.mem_filter.mp hentry).2
  rw [Address.same_congr h] at hremoved
  simpa using hremoved

theorem session?_removeSession_other (h : address.same other = false) :
    (gateway.removeSession address).session? other = gateway.session? other := by
  unfold session? removeSession
  rw [List.find?_filter]
  congr 1
  funext entry
  cases hentry : entry.address.same other with
  | false => simp
  | true =>
    have hkept : entry.address.same address = false := by
      rw [Address.same_congr_left hentry, Address.same_comm, h]
    simp [hkept]

end SensorGateway.Gateway
