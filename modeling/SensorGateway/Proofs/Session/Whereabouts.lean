import SensorGateway.Proofs.Session.Links
import SensorGateway.Proofs.Session.Silence

/-!
Where a device is. Every message of a device tells over which link it came and under
which address the device was seen, which may say where the device is and how its
frames are wrapped, or may not. `lastLink` and `lastSighting` read off a history what
was told last, and a session is found to know just that: a message of the broker or a
signal says nothing about the device, so that whatever the session does in answer to
one still goes where the device itself was heard last.
-/

namespace SensorGateway

namespace Address

/-- An address gives way to another one of the same device that leads anywhere. -/
theorem refresh_eq {mine seen : Address} (h : seen.identity = mine.identity) :
    mine.refresh seen = if seen.endpoint.isSome then seen else mine := by
  cases mine with
  | gateway id =>
    cases seen with
    | gateway id' => rfl
    | device device => cases h
  | device device =>
    cases seen with
    | gateway id => cases h
    | device device' =>
      obtain ⟨id, endpoint, encapsulation⟩ := device'
      cases h
      cases endpoint <;> rfl

end Address

namespace Session

/-! ### What a history tells -/

/-- The address under which a device was seen in a turn, and the link over which it was
heard. -/
def Turn.heard? (turn : Turn) : Option (Address × LinkName) :=
  match turn.input with
  | .sensor seen _ link => some (seen, link)
  | .broker _ | .signal _ => none

def lastLink (turns : List Turn) : Option LinkName :=
  ((turns.filterMap (·.heard?)).getLast?).map (·.2)

/-- The last address under which a device was seen that tells where it is. -/
def lastSighting (turns : List Turn) : Option Address :=
  ((turns.filterMap (·.heard?)).map (·.1)).reverse.find? (·.endpoint.isSome)

/-- Whether an address leads to where a device was last seen, in the envelope in which
its frames came from there. If the device was never seen anywhere it leads nowhere. -/
def LeadsTo (turns : List Turn) (address : Address) : Prop :=
  match lastSighting turns with
  | some seen =>
      address.endpoint = seen.endpoint ∧ address.encapsulation = seen.encapsulation
  | none => address.endpoint = none

variable {config : Config} {turns past own : List Turn} {turn : Turn} {session : Session}
variable {identity : Identity}

theorem lastLink_snoc (turns : List Turn) (turn : Turn) :
    lastLink (turns ++ [turn]) = (turn.heard?.map (·.2)).or (lastLink turns) := by
  unfold lastLink
  rw [List.filterMap_append]
  cases hheard : turn.heard? <;> simp [hheard]

theorem lastSighting_snoc (turns : List Turn) (turn : Turn) :
    lastSighting (turns ++ [turn]) =
      ((turn.heard?.map (·.1)).filter (·.endpoint.isSome)).or (lastSighting turns) := by
  unfold lastSighting
  rw [List.filterMap_append]
  cases hheard : turn.heard? with
  | none => simp [hheard]
  | some heard =>
    cases hplace : heard.1.endpoint <;> simp [hheard, hplace, Option.filter]

/-- A turn that is no message of the device tells nothing about where it is. -/
theorem leadsTo_snoc_of_silent (hsilent : turn.heard? = none) (address : Address) :
    LeadsTo (turns ++ [turn]) address ↔ LeadsTo turns address := by
  unfold LeadsTo
  rw [lastSighting_snoc, hsilent]
  rfl

/-- An address that takes over where its device was seen leads there. -/
theorem leadsTo_snoc_of_heard {address seen : Address} {link : LinkName}
    (hheard : turn.heard? = some (seen, link)) (hsame : seen.identity = address.identity)
    (h : LeadsTo turns address) : LeadsTo (turns ++ [turn]) (address.refresh seen) := by
  unfold LeadsTo at h ⊢
  rw [lastSighting_snoc, hheard, Address.refresh_eq hsame]
  cases hplace : seen.endpoint with
  | none => simpa [Option.filter, hplace] using h
  | some endpoint => simp [Option.filter, hplace]

/-! ### What a session knows -/

structure Located (identity : Identity) (turns : List Turn) (session : Session) : Prop where
  identity : session.address.identity = identity
  link : session.link = lastLink turns
  leads : LeadsTo turns session.address

/-- The address under which a device is heard in a turn is its own. -/
def Turn.IsOf (identity : Identity) (turn : Turn) : Prop :=
  ∀ heard ∈ turn.heard?, heard.1.identity = identity

theorem link_hear (config : Config) (turn : Turn) (session : Session) :
    (session.hear config turn).link = (turn.heard?.map (·.2)).or session.link := by
  obtain ⟨now, line, input⟩ := turn
  cases input <;> rfl

theorem address_hear (config : Config) (turn : Turn) (session : Session) :
    (session.hear config turn).address =
      match turn.heard? with
      | some heard => session.address.refresh heard.1
      | none => session.address := by
  obtain ⟨now, line, input⟩ := turn
  cases input <;> rfl

/-- A session that is told where its device is knows it. -/
theorem Located.hear (h : Located identity turns session) (config : Config)
    (hturn : turn.IsOf identity) :
    Located identity (turns ++ [turn]) (session.hear config turn) := by
  have hlink : (session.hear config turn).link = lastLink (turns ++ [turn]) := by
    rw [link_hear, lastLink_snoc, h.link]
  cases hheard : turn.heard? with
  | none =>
    have haddress : (session.hear config turn).address = session.address := by
      rw [address_hear, hheard]
    refine ⟨haddress ▸ h.identity, hlink, ?_⟩
    rw [haddress, leadsTo_snoc_of_silent hheard]
    exact h.leads
  | some heard =>
    have haddress : (session.hear config turn).address = session.address.refresh heard.1 := by
      rw [address_hear, hheard]
    have hsame : heard.1.identity = session.address.identity :=
      (hturn heard hheard).trans h.identity.symm
    refine ⟨?_, hlink, ?_⟩
    · rw [haddress, Address.identity_refresh]
      exact h.identity
    · rw [haddress]
      exact leadsTo_snoc_of_heard hheard hsame h.leads

/-- The first message of a device tells all there is to know. -/
theorem located_fresh (config : Config) {seen : Address} {link : LinkName}
    (hheard : turn.heard? = some (seen, link)) :
    Located seen.identity [turn] ((fresh (turn.context config) seen).hear config turn) := by
  have haddress : ((fresh (turn.context config) seen).hear config turn).address = seen := by
    rw [address_hear, hheard]
    exact seen.refresh_self
  have hsighting : lastSighting [turn] = (some seen).filter (·.endpoint.isSome) := by
    have hlast := lastSighting_snoc [] turn
    rw [hheard] at hlast
    exact hlast.trans Option.or_none
  refine ⟨congrArg _ haddress, ?_, ?_⟩
  · rw [link_hear, hheard]
    exact ((lastLink_snoc [] turn).trans (by rw [hheard]; rfl)).symm
  · unfold LeadsTo
    rw [haddress, hsighting]
    cases hplace : seen.endpoint with
    | none => simp [Option.filter, hplace]
    | some endpoint => simp [Option.filter, hplace]

/-- What a session does in a turn makes no difference to what it knows. -/
theorem Located.take {t : Transition} (h : Located identity turns (session.hear config turn))
    (haccounted : t.Accounted (session.hear config turn)) : Located identity turns t.session :=
  ⟨haccounted.address ▸ h.identity, haccounted.link ▸ h.link, haccounted.address ▸ h.leads⟩

/-- A message goes where the device was last heard, which is where the session is to
be reached from then on. -/
theorem Located.delivery (h : Located identity turns (session.hear config turn))
    {link : LinkName} {target : Address} {message : Sensor.Message}
    (hin : .device link target message ∈ (session.take config turn).effects) :
    target = (session.take config turn).session.address ∧ lastLink turns = some link ∧
      LeadsTo turns target := by
  have haccounted := session.take_accounted config turn
  obtain ⟨hlink, rfl⟩ := haccounted.deliveries link target message hin
  exact ⟨haccounted.address.symm, h.link.symm.trans hlink, h.leads⟩

/-! ### The history of one session -/

/-- The turns of a session: the device had none before, and has had one ever since it
took the first of them. -/
structure Tenure (config : Config) (past own : List Turn) : Prop where
  absent : ¬ HeardSinceEviction config past
  present : ∀ first last rest, own = first ++ last :: rest → first ≠ [] →
    HeardSinceEviction config (past ++ first)

/-- A tenure begins with the first turn of a device that has no session. -/
theorem tenure_first (habsent : ¬ HeardSinceEviction config past) (turn : Turn) :
    Tenure config past [turn] := by
  refine ⟨habsent, fun first last rest hown hfirst => ?_⟩
  cases first with
  | nil => exact (hfirst rfl).elim
  | cons word first => cases first <;> cases hown

theorem Tenure.snoc (h : Tenure config past own)
    (hpresent : HeardSinceEviction config (past ++ own)) (turn : Turn) :
    Tenure config past (own ++ [turn]) := by
  refine ⟨h.absent, fun first last rest hown hfirst => ?_⟩
  rcases rest.eq_nil_or_concat with rfl | ⟨rest, final, rfl⟩
  · obtain ⟨rfl, -⟩ := List.append_singleton_inj.mp hown
    exact hpresent
  · rw [List.concat_eq_append, ← List.cons_append, ← List.append_assoc] at hown
    obtain ⟨rfl, -⟩ := List.append_singleton_inj.mp hown
    exact h.present first last rest rfl hfirst

end Session

end SensorGateway
