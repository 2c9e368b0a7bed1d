import SensorGateway.Proofs.Gateway.Holdings
import SensorGateway.Proofs.Gateway.Timeouts

/-!
Devices do not notice each other. What a gateway has of a device after any run is
what the device would have made of its own turns alone: of the envelopes that
are for it and of the signals that are for everyone. Two runs in which a device
takes the same turns are therefore the same to it, whatever other devices, the
broker and the gateway itself do in between.
-/

namespace SensorGateway.Gateway

structure Handling where
  circumstances : Circumstances
  envelope : Envelope

def Handling.endsAll (handling : Handling) : Bool :=
  handling.envelope == ⟨none, .signal .shutDown⟩

def Handling.turnFor? (address : Address) (handling : Handling) : Option Session.Turn :=
  let circumstances := handling.circumstances
  let turn (input : Session.Input) : Session.Turn :=
    ⟨circumstances.now, circumstances.network.line address.identity, input⟩
  match handling.envelope.payload, handling.envelope.address with
  | .sensor message link, some seen =>
      if seen.same address then some (turn (.sensor seen message link)) else none
  | .broker message, some owner =>
      if owner.same address then some (turn (.broker message)) else none
  | .signal signal, some target =>
      if target.same address then some (turn (.signal signal)) else none
  | .signal signal, none => some (turn (.signal signal))
  | .sensor .., none | .broker _, none => none

/-- A gateway with what has happened on the links, after it has handled some
envelopes. Whatever is on the queue, any envelope may be the next one, except
for the end of the gateway. -/
inductive Trace (config : Config) : List Handling → Progress → Prop where
  | create {gateway : Gateway} (hcreate : create config = .ok gateway) :
      Trace config [] (.start gateway)
  | bootstrap {handled : List Handling} {progress : Progress} (circumstances : Circumstances)
      (htrace : Trace config handled progress) :
      Trace config handled
        ((progress.gateway.bootstrap circumstances).1.after progress.events)
  /-- The queue makes no difference. -/
  | queue {handled : List Handling} {progress : Progress} (queue : Queue)
      (htrace : Trace config handled progress) :
      Trace config handled (progress.update fun gateway => { gateway with queue })
  | handle {handled : List Handling} {progress : Progress} (handling : Handling)
      (htrace : Trace config handled progress) (hgoes : handling.endsAll = false) :
      Trace config (handled ++ [handling])
        ((progress.gateway.dispatch handling.circumstances
          handling.envelope).progress.after progress.events)

/-! ### What every step keeps -/

/-- A gateway for a configuration in which no device has two sessions and the
gateway itself has none. -/
structure Tidy (config : Config) (gateway : Gateway) : Prop where
  config : gateway.config = config
  nodup : gateway.known.Nodup
  foreign : gateway.config.gatewayAddress.identity ∉ gateway.known

variable {config : Config} {gateway : Gateway} {progress : Progress} {circumstances : Circumstances}
variable {other : Address}

/-- The gateway has no session of its own. -/
theorem Tidy.isOwn_session (h : gateway.Tidy config) {session : Session}
    (hmem : session ∈ gateway.sessions) : gateway.isOwn session.address = false := by
  rw [isOwn, Bool.eq_false_iff, ne_eq, Address.same_iff]
  intro heq
  exact h.foreign (heq ▸ List.mem_map_of_mem hmem)

theorem Tidy.foreign_session (h : gateway.Tidy config) {session : Session}
    (hmem : session ∈ gateway.sessions) :
    session.address.same config.gatewayAddress = false := by
  have hforeign := h.isOwn_session hmem
  rwa [isOwn, h.config] at hforeign

/-- A session that takes a step stays the one of its device. -/
theorem Tidy.stepSession (h : progress.gateway.Tidy config) (network : Network)
    (t : Session.Transition) : (progress.stepSession network t).gateway.Tidy config := by
  have hknown := known_setSession progress.gateway t.session
  rw [stepSession_gateway]
  exact ⟨h.config, hknown.symm ▸ h.nodup, hknown.symm ▸ h.foreign⟩

theorem Tidy.removeSession (h : gateway.Tidy config) (address : Address) :
    (gateway.removeSession address).Tidy config :=
  ⟨h.config, h.nodup.sublist (known_removeSession gateway address),
    fun hin => h.foreign ((known_removeSession gateway address).subset hin)⟩

/-- A gateway stays tidy with the first session of a device. -/
theorem Tidy.addSession (h : gateway.Tidy config) {session : Session}
    (hforeign : gateway.isOwn session.address = false)
    (hnone : gateway.session? session.address = none) :
    (gateway.addSession session).Tidy config := by
  refine ⟨h.config, nodup_addSession hnone h.nodup, fun hin => ?_⟩
  rw [known_addSession, List.mem_append, List.mem_singleton] at hin
  rw [isOwn, Bool.eq_false_iff, ne_eq, Address.same_iff] at hforeign
  exact hin.elim h.foreign fun heq => hforeign heq.symm

theorem Tidy.signalSession (h : progress.gateway.Tidy config) (circumstances : Circumstances)
    (signal : Signal) (session : Session) :
    (signalSession circumstances signal progress session).gateway.Tidy config := by
  have hstep := h.stepSession circumstances.network
    (session.take progress.gateway.config (signalTurn circumstances session.address signal))
  rw [signalSession_eq]
  simp only
  split
  · exact hstep.removeSession session.address
  · exact hstep

theorem Tidy.signalSessions (h : progress.gateway.Tidy config) (circumstances : Circumstances)
    (signal : Signal) (sessions : List Session) :
    (sessions.foldl (Gateway.signalSession circumstances signal) progress).gateway.Tidy config := by
  induction sessions generalizing progress with
  | nil => exact h
  | cons session sessions ih => exact ih (h.signalSession circumstances signal session)

theorem Tidy.stepUplink (h : progress.gateway.Tidy config) (context : Uplink.Context)
    (step : Uplink.Context → Uplink → Uplink.Outcome) :
    (progress.stepUplink context step).1.gateway.Tidy config := by
  unfold Progress.stepUplink
  simp only
  rw [Progress.performUplink_gateway]
  exact ⟨h.config, h.nodup, h.foreign⟩

theorem Tidy.ofUplink (h : gateway.Tidy config) (circumstances : Circumstances)
    (step : Uplink.Context → Uplink → Uplink.Outcome) :
    (Outcome.ofUplink ((Progress.start gateway).stepUplink
      (gateway.uplinkContext circumstances) step)).progress.gateway.Tidy config := by
  have hstart : (Progress.start gateway).gateway.Tidy config := h
  exact hstart.stepUplink _ step

/-! ### Envelopes -/

/-- Sessions of different devices take a signal one after the other, and a device
notices its own turn only. -/
theorem holding_foldl_signalSession (h : progress.gateway.Tidy config)
    (circumstances : Circumstances) (signal : Signal) (sessions : List Session)
    (hsome : ∀ session ∈ sessions, progress.gateway.session? session.address = some session)
    (hdistinct : (sessions.map (·.address.identity)).Nodup) :
    (sessions.foldl (signalSession circumstances signal) progress).holding other =
      if sessions.any (·.address.same other) then
        (progress.holding other).take config (signalTurn circumstances other signal)
      else progress.holding other := by
  induction sessions generalizing progress with
  | nil => rfl
  | cons session sessions ih =>
    rw [List.map_cons, List.nodup_cons] at hdistinct
    have hapart : ∀ later ∈ sessions, session.address.same later.address = false := by
      intro later hlater
      rw [Bool.eq_false_iff, ne_eq, Address.same_iff]
      intro heq
      exact hdistinct.1 (List.mem_map.mpr ⟨later, hlater, heq.symm⟩)
    have hkept : ∀ later ∈ sessions, (signalSession circumstances signal progress
        session).gateway.session? later.address = some later := by
      intro later hlater
      have hother : (signalSession circumstances signal progress session).holding later.address =
          progress.holding later.address :=
        holding_signalSession_other circumstances signal (hapart later hlater)
      exact (congrArg Holding.session hother).trans (hsome later (List.mem_cons_of_mem _ hlater))
    have hrest := ih (h.signalSession circumstances signal session) hkept hdistinct.2
    rw [List.foldl_cons, hrest, List.any_cons]
    cases hsame : session.address.same other with
    | false => rw [holding_signalSession_other circumstances signal hsame, Bool.false_or]
    | true =>
      have hnone : sessions.any (·.address.same other) = false := by
        rw [List.any_eq_false]
        intro later hlater hlast
        have hboth := hapart later hlater
        rw [Address.same_congr_left hsame, Address.same_comm, hlast] at hboth
        cases hboth
      have htaken := holding_signalSession circumstances signal
        (hsome session List.mem_cons_self) hsame
      rw [hnone, htaken, h.config]
      rfl

/-- A signal for everyone is a turn of every device. -/
theorem holding_signalSessions (h : progress.gateway.Tidy config) (circumstances : Circumstances)
    (signal : Signal) :
    (signalSessions circumstances signal progress).holding other =
      (progress.holding other).take config (signalTurn circumstances other signal) := by
  have hsome : ∀ session ∈ progress.gateway.sessions,
      progress.gateway.session? session.address = some session :=
    fun session hin => session?_of_mem h.nodup hin
  unfold signalSessions
  rw [holding_foldl_signalSession h circumstances signal _ hsome h.nodup]
  split
  · rfl
  next hnone =>
    have habsent : (progress.holding other).session = none := by
      rw [Bool.not_eq_true, List.any_eq_false] at hnone
      exact List.find?_eq_none.mpr hnone
    rw [Holding.take_of_none habsent rfl]

/-- What the uplink does changes nothing for a device. -/
theorem holding_ofUplink (h : gateway.Tidy config) (circumstances : Circumstances)
    (step : Uplink.Context → Uplink → Uplink.Outcome)
    (hown : (step (gateway.uplinkContext circumstances) gateway.uplink).1.Own
      (gateway.uplinkContext circumstances))
    (hforeign : other.same config.gatewayAddress = false) :
    (Outcome.ofUplink ((Progress.start gateway).stepUplink
      (gateway.uplinkContext circumstances) step)).progress.holding other =
        (Progress.start gateway).holding other := by
  have hapart : gateway.isOwn other = false := by
    rw [isOwn, h.config]
    exact hforeign
  exact Progress.holding_stepUplink hown rfl hapart

theorem same_of_isOwn (h : gateway.Tidy config) {address : Address}
    (hown : gateway.isOwn address = true) (hforeign : other.same config.gatewayAddress = false) :
    address.same other = false := by
  rw [isOwn, h.config] at hown
  rw [Address.same_congr_left hown, Address.same_comm, hforeign]

/-- The step of a session makes no difference to any other device. -/
theorem holding_take_other {session : Session} (network : Network) (turn : Session.Turn)
    (hother : session.address.same other = false) :
    (progress.stepSession network (session.take config turn)).holding other =
      progress.holding other :=
  Progress.holding_stepSession_other network (session.take_writesHome config turn)
    ((session.same_take config turn other).trans hother)

/-- The session of a device takes a turn. -/
theorem holding_take (h : progress.gateway.Tidy config) {session : Session} {address : Address}
    (network : Network) (turn : Session.Turn)
    (hsome : progress.gateway.session? address = some session)
    (hstays : session.endsWith config turn = false) :
    (progress.stepSession network (session.take config turn)).holding other =
      if address.same other then (progress.holding other).take config turn
      else progress.holding other := by
  have hsession : session.address.same address = true := same_of_session? hsome
  split
  next hsame =>
    have hknown : progress.gateway.session? other = some session :=
      (session?_congr hsame).symm.trans hsome
    have hholding : (progress.holding other).session = some session := hknown
    have htaken : (session.take config turn).session.address.same other = true := by
      rw [session.same_take, Address.same_congr_left hsession, hsame]
    have hstep := Progress.holding_stepSession network (session.take_writesHome config turn) htaken
      (by rw [hknown]; rfl)
    rw [hstep, h.config, Holding.take_of_some hholding, hstays]
  next hother =>
    rw [Bool.not_eq_true, ← Address.same_congr_left hsession] at hother
    exact holding_take_other network turn hother

/-- A device that was never heard is left with a fresh session. -/
theorem holding_addSession (gateway : Gateway) (session : Session)
    (hnone : gateway.session? session.address = none) :
    (Progress.start (gateway.addSession session)).holding other =
      if session.address.same other then
        { (Progress.start gateway).holding other with session := some session }
      else (Progress.start gateway).holding other := by
  have hfound := gateway.session?_addSession session other
  split
  next hsame =>
    have habsent : gateway.session? other = none := (session?_congr hsame).symm.trans hnone
    rw [habsent, if_pos hsame] at hfound
    exact congrArg (Holding.mk · _ _) hfound
  next hother =>
    rw [if_neg hother, Option.or_none] at hfound
    exact congrArg (Holding.mk · _ _) hfound

/-- A device that has no session gets one with its first turn. -/
theorem holding_newcomer (h : gateway.Tidy config) {session : Session} {turn : Session.Turn}
    (network : Network) (hturn : turn.newcomer? config = some session)
    (hforeign : gateway.isOwn session.address = false)
    (hnone : gateway.session? session.address = none)
    (hstays : session.endsWith config turn = false) :
    ((Progress.start (gateway.addSession session)).stepSession network
      (session.take config turn)).holding other =
      if session.address.same other then
        ((Progress.start gateway).holding other).take config turn
      else (Progress.start gateway).holding other := by
  have htidy : (Progress.start (gateway.addSession session)).gateway.Tidy config :=
    h.addSession hforeign hnone
  have hknown : (gateway.addSession session).session? session.address = some session := by
    rw [session?_addSession, hnone, Address.same_self, if_pos rfl]
    rfl
  rw [holding_take htidy network turn hknown hstays, holding_addSession gateway session hnone]
  split
  next hsame =>
    have habsent : ((Progress.start gateway).holding other).session = none :=
      (session?_congr hsame).symm.trans hnone
    rw [Holding.take_newcomer habsent hturn, Holding.take_of_some rfl]
    rfl
  next => rfl

/-- A device that has no session does not get one from others. -/
theorem holding_absent {address : Address} {turn : Session.Turn}
    (hnone : gateway.session? address = none) (hturn : turn.newcomer? config = none) :
    (Progress.start gateway).holding other =
      if address.same other then ((Progress.start gateway).holding other).take config turn
      else (Progress.start gateway).holding other := by
  split
  next hsame =>
    have habsent : ((Progress.start gateway).holding other).session = none :=
      (session?_congr hsame).symm.trans hnone
    exact (Holding.take_of_none habsent hturn).symm
  next => rfl

/-- A message of one device is a turn of this device and of no other. -/
theorem holding_dispatchSensor (h : gateway.Tidy config)
    (hforeign : other.same config.gatewayAddress = false) (address : Address)
    (message : Sensor.Message) (link : LinkName) :
    (gateway.dispatchSensor circumstances address message link).progress.holding other =
      if address.same other then
        ((Progress.start gateway).holding other).take config
          ⟨circumstances.now, circumstances.network.line address.identity,
            .sensor address message link⟩
      else (Progress.start gateway).holding other := by
  let turn : Session.Turn := ⟨circumstances.now, circumstances.network.line address.identity,
    .sensor address message link⟩
  have hstart : (Progress.start gateway).gateway.Tidy config := h
  have hcontext : gateway.sessionContext circumstances address = turn.context config := by
    rw [← h.config]
    rfl
  unfold dispatchSensor
  simp only [hcontext]
  split
  next hown =>
    rw [same_of_isOwn h hown hforeign]
    exact holding_ofUplink h circumstances _ (Uplink.onSensor_own message) hforeign
  next hnot =>
    split
    next session hfound => exact holding_take hstart circumstances.network turn hfound rfl
    next hnone =>
      let fresh := Session.fresh (turn.context config) address
      have htaken : fresh.take config turn =
          Session.onSensor (turn.context config) message link fresh :=
        Session.take_fresh config turn rfl
      have hbegins : turn.newcomer? config = some fresh := rfl
      have habsent : gateway.session? fresh.address = none := hnone
      have hstep : ((Progress.start (gateway.addSession fresh)).stepSession circumstances.network
          (fresh.take config turn)).holding other = _ :=
        holding_newcomer h circumstances.network hbegins (Bool.not_eq_true _ ▸ hnot) habsent rfl
      rw [htaken] at hstep
      exact hstep

/-- So is a message of the broker for it, as long as it has a session. -/
theorem holding_dispatchBroker (h : gateway.Tidy config)
    (hforeign : other.same config.gatewayAddress = false) (address : Address)
    (message : Broker.Message) :
    (gateway.dispatchBroker circumstances address message).progress.holding other =
      if address.same other then
        ((Progress.start gateway).holding other).take config
          ⟨circumstances.now, circumstances.network.line address.identity, .broker message⟩
      else (Progress.start gateway).holding other := by
  let turn : Session.Turn := ⟨circumstances.now, circumstances.network.line address.identity,
    .broker message⟩
  have hstart : (Progress.start gateway).gateway.Tidy config := h
  have hcontext : gateway.sessionContext circumstances address = turn.context config := by
    rw [← h.config]
    rfl
  unfold dispatchBroker
  simp only [hcontext]
  split
  next hown =>
    rw [same_of_isOwn h hown hforeign]
    exact holding_ofUplink h circumstances _ (Uplink.onBroker_own message) hforeign
  next =>
    split
    next session hfound => exact holding_take hstart circumstances.network turn hfound rfl
    next hnone => exact holding_absent hnone rfl

/-- And so is a signal for it. -/
theorem holding_dispatchSignal (h : gateway.Tidy config)
    (hforeign : other.same config.gatewayAddress = false) (address : Address) (signal : Signal) :
    (gateway.dispatchSignal circumstances address signal).progress.holding other =
      if address.same other then
        ((Progress.start gateway).holding other).take config
          (signalTurn circumstances address signal)
      else (Progress.start gateway).holding other := by
  unfold dispatchSignal
  simp only
  split
  next hown =>
    rw [same_of_isOwn h hown hforeign]
    exact holding_ofUplink h circumstances _ (Uplink.onSignal_own signal) hforeign
  next =>
    split
    next session hfound =>
      have hsession : session.address.same address = true := same_of_session? hfound
      have hsome : (Progress.start gateway).gateway.session? session.address = some session :=
        (session?_congr hsession).trans hfound
      change (signalSession circumstances signal (.start gateway) session).holding other = _
      split
      next hsame =>
        have hturn : signalTurn circumstances address signal =
            signalTurn circumstances other signal := by
          unfold signalTurn
          rw [Address.same_iff.mp hsame]
        have hsame : session.address.same other = true := by
          rw [Address.same_congr_left hsession, hsame]
        rw [holding_signalSession circumstances signal hsome hsame, hturn, ← h.config]
        rfl
      next hother =>
        rw [Bool.not_eq_true, ← Address.same_congr_left hsession] at hother
        exact holding_signalSession_other circumstances signal hother
    next hnone => exact holding_absent hnone rfl

/-- A signal for everyone is a turn of every device, unless it ends the gateway. -/
theorem holding_broadcastSignal (h : gateway.Tidy config)
    (hforeign : other.same config.gatewayAddress = false) {signal : Signal}
    (hgoes : signal ≠ .shutDown) :
    (gateway.broadcastSignal circumstances signal).progress.holding other =
      ((Progress.start gateway).holding other).take config
        (signalTurn circumstances other signal) := by
  have hstart : (Progress.start gateway).gateway.Tidy config := h
  let context := gateway.uplinkContext circumstances
  have hown : (gateway.uplink.onSignal context signal).1.Own context := Uplink.onSignal_own signal
  have huplink := holding_ofUplink h circumstances
    (fun context => Uplink.onSignal context signal) hown hforeign
  have htidy := hstart.stepUplink context fun context => Uplink.onSignal context signal
  unfold broadcastSignal
  rw [if_neg hgoes]
  exact (holding_signalSessions htidy circumstances signal).trans
    (congrArg (Holding.take config · (signalTurn circumstances other signal)) huplink)

/-- An envelope is a turn of the device that it is for. -/
theorem Holding.foldl_turn (config : Config) (circumstances : Circumstances)
    (address other : Address) (input : Session.Input) (holding : Holding) :
    (if address.same other then
        some (Session.Turn.mk circumstances.now
          (circumstances.network.line other.identity) input)
      else none).toList.foldl (Holding.take config) holding =
      if address.same other then
        holding.take config
          ⟨circumstances.now, circumstances.network.line address.identity, input⟩
      else holding := by
  split
  next hsame =>
    rw [Address.same_iff.mp hsame]
    rfl
  next => rfl

/-- What an envelope makes of the holding of a device is what the device makes of
its turn, if the envelope is one for it. -/
theorem holding_dispatch (h : gateway.Tidy config)
    (hforeign : other.same config.gatewayAddress = false) {handling : Handling}
    (hgoes : handling.endsAll = false) :
    (gateway.dispatch handling.circumstances handling.envelope).progress.holding other =
      (handling.turnFor? other).toList.foldl (Holding.take config)
        ((Progress.start gateway).holding other) := by
  obtain ⟨circumstances, address, payload⟩ := handling
  cases address with
  | none =>
    cases payload with
    | sensor message link => rfl
    | broker message => rfl
    | signal signal =>
      have hsignal : signal ≠ .shutDown := by
        rintro rfl
        cases hgoes
      exact holding_broadcastSignal h hforeign hsignal
  | some address =>
    have hturn := Holding.foldl_turn config circumstances address other
    cases payload with
    | sensor message link =>
      exact (holding_dispatchSensor h hforeign address message link).trans (hturn _ _).symm
    | broker message =>
      exact (holding_dispatchBroker h hforeign address message).trans (hturn _ _).symm
    | signal signal =>
      exact (holding_dispatchSignal h hforeign address signal).trans (hturn _ _).symm

/-! ### Whole runs -/

theorem Tidy.dispatchSensor (h : gateway.Tidy config) (circumstances : Circumstances)
    (address : Address) (message : Sensor.Message) (link : LinkName) :
    (gateway.dispatchSensor circumstances address message
      link).progress.gateway.Tidy config := by
  unfold Gateway.dispatchSensor
  simp only
  split
  · exact h.ofUplink circumstances _
  next hnot =>
    split
    · have hstart : (Progress.start gateway).gateway.Tidy config := h
      exact hstart.stepSession _ _
    next hnone =>
      let fresh := Session.fresh (gateway.sessionContext circumstances address) address
      have hforeign : gateway.isOwn fresh.address = false := Bool.not_eq_true _ ▸ hnot
      have hadded : (Progress.start (gateway.addSession fresh)).gateway.Tidy config :=
        h.addSession hforeign hnone
      exact hadded.stepSession _ _

theorem Tidy.dispatchBroker (h : gateway.Tidy config) (circumstances : Circumstances)
    (address : Address) (message : Broker.Message) :
    (gateway.dispatchBroker circumstances address message).progress.gateway.Tidy config := by
  unfold Gateway.dispatchBroker
  simp only
  split
  · exact h.ofUplink circumstances _
  · split
    · have hstart : (Progress.start gateway).gateway.Tidy config := h
      exact hstart.stepSession _ _
    · exact h

theorem Tidy.dispatchSignal (h : gateway.Tidy config) (circumstances : Circumstances)
    (address : Address) (signal : Signal) :
    (gateway.dispatchSignal circumstances address signal).progress.gateway.Tidy config := by
  unfold Gateway.dispatchSignal
  simp only
  split
  · exact h.ofUplink circumstances _
  · split
    · have hstart : (Progress.start gateway).gateway.Tidy config := h
      exact hstart.signalSession circumstances signal _
    · exact h

theorem Tidy.broadcastSignal (h : gateway.Tidy config) (circumstances : Circumstances)
    {signal : Signal} (hsignal : signal ≠ .shutDown) :
    (gateway.broadcastSignal circumstances signal).progress.gateway.Tidy config := by
  have hstart : (Progress.start gateway).gateway.Tidy config := h
  have hstepped := hstart.stepUplink (gateway.uplinkContext circumstances)
    fun context => Uplink.onSignal context signal
  unfold Gateway.broadcastSignal
  rw [if_neg hsignal]
  exact hstepped.signalSessions circumstances signal _

/-- Handling an envelope leaves a gateway tidy. -/
theorem Tidy.dispatch (h : gateway.Tidy config) {handling : Handling}
    (hgoes : handling.endsAll = false) :
    (gateway.dispatch handling.circumstances handling.envelope).progress.gateway.Tidy config := by
  obtain ⟨circumstances, address, payload⟩ := handling
  cases address with
  | none =>
    cases payload with
    | sensor message link => exact h
    | broker message => exact h
    | signal signal =>
      have hsignal : signal ≠ .shutDown := by
        rintro rfl
        cases hgoes
      exact h.broadcastSignal circumstances hsignal
  | some address =>
    cases payload with
    | sensor message link => exact h.dispatchSensor circumstances address message link
    | broker message => exact h.dispatchBroker circumstances address message
    | signal signal => exact h.dispatchSignal circumstances address signal

theorem tidy_create (hcreate : create config = .ok gateway) : gateway.Tidy config := by
  unfold create at hcreate
  split at hcreate
  · cases hcreate
  · cases hcreate
    exact ⟨rfl, List.nodup_nil, List.not_mem_nil⟩

/-- At first no device has anything. -/
theorem holding_create (hcreate : create config = .ok gateway) :
    (Progress.start gateway).holding other = .none := by
  unfold create at hcreate
  split at hcreate
  · cases hcreate
  · cases hcreate
    rfl

/-- Whatever was handled, the gateway is tidy. -/
theorem Trace.tidy {handled : List Handling} (h : Trace config handled progress) :
    progress.gateway.Tidy config := by
  induction h with
  | create hcreate => exact tidy_create hcreate
  | @bootstrap handled progress circumstances htrace ih =>
    have hstart : (Progress.start progress.gateway).gateway.Tidy config := ih
    exact hstart.stepUplink _ _
  | queue queue htrace ih => exact ⟨ih.config, ih.nodup, ih.foreign⟩
  | handle handling htrace hgoes ih => exact ih.dispatch hgoes

/-- What a gateway has of a device is what the device makes of its own turns. -/
theorem Trace.holding {handled : List Handling} (h : Trace config handled progress)
    (hforeign : other.same config.gatewayAddress = false) :
    progress.holding other =
      (handled.filterMap (·.turnFor? other)).foldl (Holding.take config) .none := by
  induction h with
  | create hcreate => exact holding_create hcreate
  | @bootstrap handled progress circumstances htrace ih =>
    have hbegun := holding_ofUplink htrace.tidy circumstances Uplink.connect
      Uplink.connect_own hforeign
    rw [← ih, Progress.holding_after, ← Progress.holding_start progress]
    exact congrArg (Holding.after (progress.dealings other)) hbegun
  | queue queue htrace ih => exact ih
  | @handle handled progress handling htrace hgoes ih =>
    have hhandled := holding_dispatch htrace.tidy hforeign hgoes
    have hlast : [handling].filterMap (·.turnFor? other) = (handling.turnFor? other).toList := by
      cases hturn : handling.turnFor? other <;> simp [hturn]
    rw [List.filterMap_append, List.foldl_append, ← ih, hlast, Progress.holding_after, hhandled,
      ← Holding.foldl_take_after, ← Progress.holding_start progress]
    rfl

/-- An envelope for a device neither stops the gateway nor makes it fail. -/
theorem result_dispatch (gateway : Gateway) (circumstances : Circumstances) {address : Address}
    (hforeign : gateway.isOwn address = false) (payload : Payload) :
    (gateway.dispatch circumstances ⟨some address, payload⟩).result = .ok .continue := by
  cases payload with
  | sensor message link =>
    change (gateway.dispatchSensor circumstances address message link).result = _
    unfold dispatchSensor
    simp only [hforeign, Bool.false_eq_true, if_false]
    split <;> rfl
  | broker message =>
    change (gateway.dispatchBroker circumstances address message).result = _
    unfold dispatchBroker
    simp only [hforeign, Bool.false_eq_true, if_false]
    split <;> rfl
  | signal signal =>
    change (gateway.dispatchSignal circumstances address signal).result = _
    unfold dispatchSignal
    simp only [hforeign, Bool.false_eq_true, if_false]
    split <;> rfl

/-- What a device notices of a gateway depends on its own turns only: two runs in
which it takes the same ones leave it with the same session, the same timers
and the same dealings on its links. And whatever is sent to it or for it, the
gateway goes on. -/
theorem device_isolated (device : DeviceAddress) :
    (∀ (config : Config) (handled handled' : List Handling) (progress progress' : Progress),
      Trace config handled progress → Trace config handled' progress' →
      handled.filterMap (·.turnFor? (.device device)) =
        handled'.filterMap (·.turnFor? (.device device)) →
      progress.gateway.session? (.device device) = progress'.gateway.session? (.device device) ∧
        progress.dealings (.device device) = progress'.dealings (.device device) ∧
        progress.gateway.timers.timersAt (.device device) =
          progress'.gateway.timers.timersAt (.device device)) ∧
    ∀ (gateway : Gateway) (circumstances : Circumstances) (payload : Payload),
      (gateway.dispatch circumstances ⟨some (.device device), payload⟩).result =
        .ok .continue := by
  constructor
  · intro config handled handled' progress progress' htrace htrace' hturns
    have hsame : progress.holding (.device device) = progress'.holding (.device device) := by
      rw [htrace.holding rfl, htrace'.holding rfl, hturns]
    exact ⟨congrArg Holding.session hsame, congrArg Holding.dealings hsame,
      congrArg Holding.timers hsame⟩
  · intro gateway circumstances payload
    exact result_dispatch gateway circumstances rfl payload

/-- A device that asks for a will notices nothing of another one that did so
before. -/
theorem device_isolated_askWithWill :
    ∃ progress progress' : Progress,
      Trace {} [⟨⟨0, {}⟩, askWithWill (.plain ⟨.v4 10 0 0 7, 1234, 0⟩)⟩] progress ∧
      Trace {} [⟨⟨5, {}⟩, askWithWill (.plain ⟨.v4 10 0 0 8, 1234, 0⟩)⟩,
        ⟨⟨0, {}⟩, askWithWill (.plain ⟨.v4 10 0 0 7, 1234, 0⟩)⟩] progress' ∧
      progress.gateway.sessions.length ≠ progress'.gateway.sessions.length ∧
      progress.gateway.session? (.plain ⟨.v4 10 0 0 7, 1234, 0⟩) =
        progress'.gateway.session? (.plain ⟨.v4 10 0 0 7, 1234, 0⟩) := by
  have hcreated : Trace {} [] _ := .create rfl
  have halone := hcreated.handle ⟨⟨0, {}⟩, askWithWill (.plain ⟨.v4 10 0 0 7, 1234, 0⟩)⟩ rfl
  have hother := hcreated.handle ⟨⟨5, {}⟩, askWithWill (.plain ⟨.v4 10 0 0 8, 1234, 0⟩)⟩ rfl
  have hboth := hother.handle ⟨⟨0, {}⟩, askWithWill (.plain ⟨.v4 10 0 0 7, 1234, 0⟩)⟩ rfl
  let endpoint : Endpoint := ⟨.v4 10 0 0 7, 1234, 0⟩
  have hsame := (device_isolated ⟨endpoint.bytes, some endpoint, none⟩).1 _ _ _ _ _ halone hboth rfl
  exact ⟨_, _, halone, hboth, by decide, hsame.1⟩

end SensorGateway.Gateway
