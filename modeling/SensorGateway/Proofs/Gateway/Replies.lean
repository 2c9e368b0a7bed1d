import SensorGateway.Proofs.Gateway.SessionTable
import SensorGateway.Proofs.Gateway.Stop
import SensorGateway.Proofs.Session.Whereabouts

/-!
Where the messages for a device go. Nobody but its session writes to a device, and the
session goes by what the device itself has told since the session began. Envelopes of
the broker and of the timers bear an address of the device too, the one it had when its
link was opened or its timer was started, but nothing is learnt from it.
-/

namespace SensorGateway

open Session (Turn HeardSinceEviction Tenure Located LeadsTo lastLink)

/-! ### Sessions over whole histories -/

namespace Holding

variable {config : Config} {turns : List Turn} {turn : Turn} {session : Session}
variable {identity : Identity}

/-- Whatever session there is of a device after a history, it knows what the device told
since the session began. -/
def Knows (config : Config) (identity : Identity) (turns : List Turn) (session : Session) :
    Prop :=
  ∃ past own, turns = past ++ own ∧ Tenure config past own ∧ Located identity own session

/-- The session that takes a turn, which may be the one that the turn begins, knows what
the turn tells. -/
theorem knows_hear
    (hknown : ∀ session ∈ (ofTurns config turns).session, Knows config identity turns session)
    (hturn : turn.IsOf identity)
    (htakes : (ofTurns config turns).session.or (turn.newcomer? config) = some session) :
    Knows config identity (turns ++ [turn]) (session.hear config turn) := by
  cases hheld : (ofTurns config turns).session with
  | some held =>
    rw [hheld] at htakes
    cases htakes
    obtain ⟨past, own, rfl, htenure, hlocated⟩ := hknown session hheld
    have hpresent : HeardSinceEviction config (past ++ own) := by
      rw [← isSome_ofTurns, hheld]
      rfl
    exact ⟨past, own ++ [turn], List.append_assoc .., htenure.snoc hpresent turn,
      hlocated.hear config hturn⟩
  | none =>
    rw [hheld] at htakes
    have habsent : ¬ HeardSinceEviction config turns := by
      rw [← isSome_ofTurns, hheld]
      exact nofun
    obtain ⟨now, line, input⟩ := turn
    cases input with
    | sensor seen message link =>
      cases htakes
      have hsame : seen.identity = identity := hturn (seen, link) rfl
      refine ⟨turns, [_], rfl, Session.tenure_first habsent _, ?_⟩
      rw [← hsame]
      exact Session.located_fresh config rfl
    | broker message => cases htakes
    | signal signal => cases htakes

/-- A session has taken its last turn as what it was before, or as a fresh one. -/
theorem session_take (config : Config) (turns : List Turn) (turn : Turn) :
    ∀ session ∈ (ofTurns config (turns ++ [turn])).session,
      ∃ before, (ofTurns config turns).session.or (turn.newcomer? config) = some before ∧
        session = (before.take config turn).session := by
  intro session hin
  rw [ofTurns_snoc] at hin
  cases htakes : (ofTurns config turns).session.or (turn.newcomer? config) with
  | none =>
    obtain ⟨hnone, hnew⟩ := Option.or_eq_none_iff.mp htakes
    rw [take_of_none hnone hnew, hnone] at hin
    cases hin
  | some before =>
    rw [take_of_or htakes] at hin
    simp only [follow] at hin
    split at hin
    · cases hin
    · cases hin
      exact ⟨before, rfl, rfl⟩

/-- By induction over the history: what is known is brought up to date with each turn. -/
theorem knows_ofTurns (hturns : ∀ turn ∈ turns, turn.IsOf identity) :
    ∀ session ∈ (ofTurns config turns).session, Knows config identity turns session := by
  induction turns using List.reverseRecOn with
  | nil => exact fun _ hin => by cases hin
  | append_singleton turns turn ih =>
    intro session hin
    have hknown := ih fun earlier hearlier => hturns earlier (List.mem_append_left _ hearlier)
    have hturn : turn.IsOf identity := hturns turn (by simp)
    obtain ⟨before, htakes, rfl⟩ := session_take config turns turn session hin
    obtain ⟨past, own, hsplit, htenure, hlocated⟩ := knows_hear hknown hturn htakes
    exact ⟨past, own, hsplit, htenure, hlocated.take (before.take_accounted config turn)⟩

/-- A session that is given up says nothing any more. -/
theorem stays_of_delivery {link : LinkName} {target : Address} {message : Sensor.Message}
    (hin : .device link target message ∈ (session.take config turn).effects) :
    session.endsWith config turn = false := by
  rw [Bool.eq_false_iff]
  intro hends
  obtain ⟨now, line, input⟩ := turn
  cases input with
  | sensor seen message link => cases hends
  | broker message => cases hends
  | signal signal =>
    have hlast : session.endsAt (Turn.context config ⟨now, line, .signal signal⟩) signal =
      true := hends
    unfold Session.take Session.onSignal at hin
    simp only [hlast, if_true] at hin
    cases hin with
    | tail _ hin => cases hin with
      | tail _ hin => cases hin

end Holding

/-! ### Nobody else writes to a device -/

namespace Progress

variable {config : Config} {progress : Progress} {session : Session}

/-- The messages that were written to devices: over which link, to whom, and what. -/
def deliveries (progress : Progress) : List (LinkName × Address × Sensor.Message) :=
  progress.events.filterMap fun
    | .device link target message _ => some (link, target, message)
    | .broker .. | .broadcast .. | .openLink .. | .closeLink .. => none

/-- Whether a message is taken by the link makes no difference. -/
theorem deliveries_stepSession (network : Network) (t : Session.Transition) :
    (progress.stepSession network t).deliveries = progress.deliveries ++
      t.effects.filterMap fun
        | .device link target message => some (link, target, message)
        | .broker _ | .arm _ | .disarm _ | .disarmAll | .forGateway .. => none := by
  unfold deliveries
  rw [stepSession_events, List.filterMap_append, List.filterMap_filterMap]
  congr 2
  funext effect
  cases effect <;> rfl

/-- The uplink writes to no device. -/
theorem deliveries_stepUplink {context : Uplink.Context}
    {step : Uplink.Context → Uplink → Uplink.Outcome}
    (hown : (step context progress.gateway.uplink).1.Own context) :
    (progress.stepUplink context step).1.deliveries = progress.deliveries := by
  unfold deliveries Progress.stepUplink
  simp only
  rw [performUplink_events, List.filterMap_append, List.filterMap_filterMap]
  refine (congrArg _ (List.filterMap_eq_nil_iff.mpr fun effect hin => ?_)).trans
    (List.append_nil _)
  cases effect with
  | event event =>
    cases event with
    | device link target message result => exact (hown _ hin).elim
    | _ => rfl
  | _ => rfl

/-- What is written to a device is done for it. -/
theorem mem_dealings_of_delivery {link : LinkName} {target : Address} {message : Sensor.Message}
    (hin : (link, target, message) ∈ progress.deliveries) :
    .device link target message ∈ progress.dealings target := by
  obtain ⟨event, hevent, hdelivery⟩ := List.mem_filterMap.mp hin
  refine List.mem_filterMap.mpr ⟨event, hevent, ?_⟩
  cases event with
  | device link' target' message' result =>
    cases hdelivery
    simp only [Event.effectAt?, Address.same_self, if_true]
  | _ => cases hdelivery

def Outward (config : Config) (progress : Progress) : Prop :=
  ∀ delivery ∈ progress.deliveries, delivery.2.1.same config.gatewayAddress = false

theorem outward_start (config : Config) (gateway : Gateway) : (start gateway).Outward config :=
  fun _ hin => (List.not_mem_nil hin).elim

/-- A session writes to its device, which is not the gateway. -/
theorem Outward.stepSession (h : progress.Outward config) (network : Network) (before : Config)
    (turn : Turn) (hforeign : session.address.same config.gatewayAddress = false) :
    (progress.stepSession network (session.take before turn)).Outward config := by
  intro delivery hin
  rw [deliveries_stepSession] at hin
  rcases List.mem_append.mp hin with hold | hnew
  · exact h delivery hold
  · obtain ⟨effect, heffect, hdelivery⟩ := List.mem_filterMap.mp hnew
    cases effect with
    | device link target message =>
      cases hdelivery
      rw [session.take_writesHome before turn link target message heffect, session.same_take]
      exact hforeign
    | _ => cases hdelivery

theorem Outward.stepUplink (h : progress.Outward config) {context : Uplink.Context}
    {step : Uplink.Context → Uplink → Uplink.Outcome}
    (hown : (step context progress.gateway.uplink).1.Own context) :
    (progress.stepUplink context step).1.Outward config := by
  unfold Outward
  rw [deliveries_stepUplink hown]
  exact h

theorem Outward.signalSession (h : progress.Outward config) (circumstances : Circumstances)
    (signal : Signal) (hforeign : session.address.same config.gatewayAddress = false) :
    (Gateway.signalSession circumstances signal progress session).Outward config := by
  have hstepped := h.stepSession circumstances.network progress.gateway.config
    (Gateway.signalTurn circumstances session.address signal) hforeign
  rw [Gateway.signalSession_eq]
  simp only
  split
  · exact hstepped
  · exact hstepped

theorem Outward.foldl_signalSession (h : progress.Outward config) (circumstances : Circumstances)
    (signal : Signal) (sessions : List Session)
    (hforeign : ∀ session ∈ sessions, session.address.same config.gatewayAddress = false) :
    (sessions.foldl (Gateway.signalSession circumstances signal) progress).Outward config := by
  induction sessions generalizing progress with
  | nil => exact h
  | cons session sessions ih =>
    obtain ⟨hfirst, hrest⟩ := List.forall_mem_cons.mp hforeign
    exact ih (h.signalSession circumstances signal hfirst) hrest

end Progress

namespace Gateway

open Progress (outward_start)

variable {config : Config} {gateway : Gateway} {session : Session}
variable {circumstances : Circumstances} {address : Address}

/-- A signal for everyone is one for the uplink and then for each session. -/
theorem outward_signalAll (h : gateway.Tidy config) (circumstances : Circumstances)
    (signal : Signal) :
    (signalSessions circumstances signal
      ((Progress.start gateway).stepUplink (gateway.uplinkContext circumstances)
        fun context => Uplink.onSignal context signal).1).Outward config := by
  have hstart : (Progress.start gateway).gateway.Tidy config := h
  have htidy := hstart.stepUplink (gateway.uplinkContext circumstances)
    fun context => Uplink.onSignal context signal
  have hstepped : ((Progress.start gateway).stepUplink (gateway.uplinkContext circumstances)
      fun context => Uplink.onSignal context signal).1.Outward config :=
    (outward_start config gateway).stepUplink (Uplink.onSignal_own signal)
  exact hstepped.foldl_signalSession circumstances signal _ fun _ hmem =>
    htidy.foreign_session hmem

theorem outward_ofUplink (config : Config) (gateway : Gateway) (circumstances : Circumstances)
    (step : Uplink.Context → Uplink → Uplink.Outcome)
    (hown : (step (gateway.uplinkContext circumstances) gateway.uplink).1.Own
      (gateway.uplinkContext circumstances)) :
    (Outcome.ofUplink ((Progress.start gateway).stepUplink
      (gateway.uplinkContext circumstances) step)).progress.Outward config :=
  (outward_start config gateway).stepUplink hown

theorem outward_dispatchSensor (h : gateway.Tidy config) (message : Sensor.Message)
    (link : LinkName) :
    (gateway.dispatchSensor circumstances address message link).progress.Outward config := by
  let turn : Turn :=
    ⟨circumstances.now, circumstances.network.line address.identity, .sensor address message link⟩
  unfold Gateway.dispatchSensor
  simp only
  split
  · exact outward_ofUplink config gateway circumstances _ (Uplink.onSensor_own message)
  next hnot =>
    split
    next session hfound =>
      exact (outward_start config gateway).stepSession circumstances.network gateway.config turn
        (h.foreign_session (mem_of_session? hfound))
    next =>
      let fresh := Session.fresh (gateway.sessionContext circumstances address) address
      have htaken : fresh.take gateway.config turn =
          Session.onSensor (gateway.sessionContext circumstances address) message link fresh :=
        Session.take_fresh gateway.config turn rfl
      have hforeign : fresh.address.same config.gatewayAddress = false := by
        rw [isOwn, h.config, Bool.not_eq_true] at hnot
        exact hnot
      have hstepped := (outward_start config (gateway.addSession fresh)).stepSession
        circumstances.network gateway.config turn hforeign
      exact htaken ▸ hstepped

theorem outward_dispatchBroker (h : gateway.Tidy config) (message : Broker.Message) :
    (gateway.dispatchBroker circumstances address message).progress.Outward config := by
  unfold Gateway.dispatchBroker
  simp only
  split
  · exact outward_ofUplink config gateway circumstances _ (Uplink.onBroker_own message)
  · split
    next session hfound =>
      exact (outward_start config gateway).stepSession circumstances.network gateway.config
        ⟨circumstances.now, circumstances.network.line address.identity, .broker message⟩
        (h.foreign_session (mem_of_session? hfound))
    next => exact outward_start config gateway

theorem outward_dispatchSignal (h : gateway.Tidy config) (signal : Signal) :
    (gateway.dispatchSignal circumstances address signal).progress.Outward config := by
  unfold Gateway.dispatchSignal
  simp only
  split
  · exact outward_ofUplink config gateway circumstances _ (Uplink.onSignal_own signal)
  · split
    next session hfound =>
      exact (outward_start config gateway).signalSession circumstances signal
        (h.foreign_session (mem_of_session? hfound))
    next => exact outward_start config gateway

/-- Whatever the gateway is told, it does not write to itself. -/
theorem outward_dispatch (h : gateway.Tidy config) (circumstances : Circumstances)
    (envelope : Envelope) :
    (gateway.dispatch circumstances envelope).progress.Outward config := by
  obtain ⟨address, payload⟩ := envelope
  cases address with
  | none =>
    cases payload with
    | sensor message link => exact outward_start config gateway
    | broker message => exact outward_start config gateway
    | signal signal =>
      change (gateway.broadcastSignal circumstances signal).progress.Outward config
      unfold Gateway.broadcastSignal
      split
      · exact outward_signalAll h circumstances .shutDown
      · exact outward_signalAll h circumstances signal
  | some address =>
    cases payload with
    | sensor message link => exact outward_dispatchSensor h message link
    | broker message => exact outward_dispatchBroker h message
    | signal signal => exact outward_dispatchSignal h signal

/-! ### Where messages go -/

/-- A device is told of itself under its own address. -/
theorem isOf_turnFor {handling : Handling} {turn : Turn}
    (hturn : handling.turnFor? address = some turn) : turn.IsOf address.identity := by
  obtain ⟨circumstances, seen, payload⟩ := handling
  intro heard hheard
  cases seen with
  | none =>
    cases payload with
    | sensor message link => cases hturn
    | broker message => cases hturn
    | signal signal =>
      cases hturn
      cases hheard
  | some seen =>
    cases payload with
    | sensor message link =>
      simp only [Handling.turnFor?, Option.ite_none_right_eq_some] at hturn
      obtain ⟨hsame, hturn⟩ := hturn
      cases hturn
      cases hheard
      exact Address.same_iff.mp hsame
    | broker message =>
      simp only [Handling.turnFor?, Option.ite_none_right_eq_some] at hturn
      cases hturn.2
      cases hheard
    | signal signal =>
      simp only [Handling.turnFor?, Option.ite_none_right_eq_some] at hturn
      cases hturn.2
      cases hheard

/-- Whatever a device was told or said, it was under an address of its own. -/
theorem isOf_history (handled : List Handling) (address : Address) :
    ∀ turn ∈ history handled address, turn.IsOf address.identity := by
  intro turn hin
  obtain ⟨handling, -, hturn⟩ := List.mem_filterMap.mp hin
  exact isOf_turnFor hturn

/-- Also the end of the gateway is a turn of the device, apart from its timers. -/
theorem holding_dispatch_apart (h : gateway.Tidy config)
    (hforeign : address.same config.gatewayAddress = false) (handling : Handling) :
    let after := (gateway.dispatch handling.circumstances handling.envelope).progress.holding
      address
    let taken := (handling.turnFor? address).toList.foldl (Holding.take config)
      ((Progress.start gateway).holding address)
    after.session = taken.session ∧ after.dealings = taken.dealings := by
  cases hends : handling.endsAll with
  | false =>
    rw [holding_dispatch h hforeign hends]
    exact ⟨rfl, rfl⟩
  | true =>
    obtain ⟨circumstances, envelope⟩ := handling
    have hdown : envelope = ⟨none, .signal .shutDown⟩ := eq_of_beq hends
    subst hdown
    have hstart : (Progress.start gateway).gateway.Tidy config := h
    have hstopped : (gateway.dispatch circumstances
        ⟨none, .signal .shutDown⟩).progress.holding address = _ :=
      holding_shutDownAll_device hstart circumstances hforeign
    rw [hstopped]
    exact ⟨rfl, rfl⟩

/-- A message for a device is what its session does in the turn that an envelope is, and
the session is still there afterwards. -/
theorem delivery_dispatch (h : gateway.Tidy config) (handling : Handling) {link : LinkName}
    {target : Address} {message : Sensor.Message}
    (hin : (link, target, message) ∈
      (gateway.dispatch handling.circumstances handling.envelope).progress.deliveries) :
    target.same config.gatewayAddress = false ∧
    ∃ turn session, handling.turnFor? target = some turn ∧
      (gateway.session? target).or (turn.newcomer? config) = some session ∧
      .device link target message ∈ (session.take config turn).effects ∧
      (gateway.dispatch handling.circumstances
        handling.envelope).progress.gateway.session? target =
          some (session.take config turn).session := by
  have hforeign : target.same config.gatewayAddress = false :=
    outward_dispatch h handling.circumstances handling.envelope _ hin
  obtain ⟨hsession, hdealings⟩ := holding_dispatch_apart h hforeign handling
  have hdone : .device link target message ∈ ((gateway.dispatch handling.circumstances
      handling.envelope).progress.holding target).dealings := Progress.mem_dealings_of_delivery hin
  rw [hdealings] at hdone
  cases hturn : handling.turnFor? target with
  | none =>
    rw [hturn] at hdone
    cases hdone
  | some turn =>
    rw [hturn] at hdone hsession
    cases htakes : (gateway.session? target).or (turn.newcomer? config) with
    | none =>
      obtain ⟨hnone, hnew⟩ := Option.or_eq_none_iff.mp htakes
      have habsent : ((Progress.start gateway).holding target).session = none := hnone
      rw [Option.toList_some, List.foldl_cons, List.foldl_nil,
        Holding.take_of_none habsent hnew] at hdone
      cases hdone
    | some session =>
      have hheld : ((Progress.start gateway).holding target).session.or (turn.newcomer? config) =
          some session := htakes
      rw [Option.toList_some, List.foldl_cons, List.foldl_nil,
        Holding.take_of_or hheld] at hdone hsession
      have heffect : .device link target message ∈ (session.take config turn).effects :=
        (List.mem_filter.mp hdone).1
      have hstays := Holding.stays_of_delivery heffect
      rw [hstays] at hsession
      exact ⟨hforeign, turn, session, rfl, htakes, heffect, hsession⟩

/-- The address that an envelope of the broker or a signal bears only tells whom it is for:
where it says that the device is makes no difference. -/
theorem dispatch_congr (gateway : Gateway) (circumstances : Circumstances)
    {address other : Address} (hsame : address.same other = true) {payload : Payload}
    (hpayload : ∀ message link, payload ≠ .sensor message link) :
    gateway.dispatch circumstances ⟨some address, payload⟩ =
      gateway.dispatch circumstances ⟨some other, payload⟩ := by
  have hown : gateway.isOwn address = gateway.isOwn other := Address.same_congr_left hsame _
  have hcontext : gateway.sessionContext circumstances address =
      gateway.sessionContext circumstances other := by
    unfold sessionContext
    rw [Address.same_iff.mp hsame]
  cases payload with
  | sensor message link => exact (hpayload message link rfl).elim
  | broker message =>
    change gateway.dispatchBroker circumstances address message =
      gateway.dispatchBroker circumstances other message
    unfold dispatchBroker
    rw [hown, session?_congr hsame, hcontext]
  | signal signal =>
    change gateway.dispatchSignal circumstances address signal =
      gateway.dispatchSignal circumstances other signal
    unfold dispatchSignal
    rw [hown, session?_congr hsame]

variable {handled : List Handling} {progress : Progress}

/-- Every session knows what its device has told since the session began. -/
theorem Trace.knows (htrace : Trace config handled progress)
    (hmem : session ∈ progress.gateway.sessions) :
    Holding.Knows config session.address.identity (history handled session.address) session :=
  Holding.knows_ofTurns (isOf_history handled session.address) session
    (htrace.session_ofTurns hmem)

/-- Every message for a device goes out over the link on which the device was last heard
since its session began, to where it was last seen in that time, wrapped the way its
frames came from there, whatever the gateway is told and by whom. Every session knows
this at any time, envelopes of the broker and signals only say whom they are for, and
the uplink writes to no device. A gateway that fails is closed as one that is told to stop. -/
theorem replies_follow_device (htrace : Trace config handled progress) :
    (∀ handling link target message,
      let outcome := progress.gateway.dispatch handling.circumstances handling.envelope
      (link, target, message) ∈ outcome.progress.deliveries →
      (∃ session ∈ outcome.progress.gateway.sessions, session.address = target) ∧
        ∃ past own, history (handled ++ [handling]) target = past ++ own ∧
          Tenure config past own ∧ lastLink own = some link ∧ LeadsTo own target) ∧
    (∀ session ∈ progress.gateway.sessions,
      Holding.Knows config session.address.identity (history handled session.address) session) ∧
    (∀ circumstances address other payload, address.same other = true →
      (∀ message link, payload ≠ .sensor message link) →
      progress.gateway.dispatch circumstances ⟨some address, payload⟩ =
        progress.gateway.dispatch circumstances ⟨some other, payload⟩) ∧
    (∀ circumstances, (progress.gateway.bootstrap circumstances).1.deliveries = []) ∧
    ∀ circumstances, shutDownAll circumstances progress =
      (progress.gateway.dispatch circumstances ⟨none, .signal .shutDown⟩).progress.after
        progress.events := by
  refine ⟨fun handling link target message hin => ?_, fun session hmem => htrace.knows hmem,
    fun circumstances address other payload hsame hpayload =>
      dispatch_congr progress.gateway circumstances hsame hpayload,
    fun circumstances => Progress.deliveries_stepUplink Uplink.connect_own,
    fun circumstances => shutDownAll_eq circumstances progress⟩
  obtain ⟨hforeign, turn, session, hturn, htakes, heffect, hafter⟩ :=
    delivery_dispatch htrace.tidy handling hin
  have hheld : progress.gateway.session? target =
      (Holding.ofTurns config (history handled target)).session :=
    congrArg Holding.session (htrace.holding_eq hforeign)
  rw [hheld] at htakes
  obtain ⟨past, own, hsplit, htenure, hlocated⟩ := Holding.knows_hear
    (Holding.knows_ofTurns (isOf_history handled target)) (isOf_turnFor hturn) htakes
  obtain ⟨htarget, hlink, hleads⟩ := hlocated.delivery heffect
  refine ⟨⟨_, mem_of_session? hafter, htarget.symm⟩, past, own, ?_, htenure, hlink, hleads⟩
  rw [history_snoc, hturn]
  exact hsplit

/-- A node is connected through one forwarder and then heard through another one. -/
def connectAndRoam (first second : Address) : List Handling :=
  [⟨⟨0, {}⟩, ⟨some first, .sensor (.connect
      { flags := {}, protocolId := 1, duration := 60, clientId := "d" }) "udp:20000"⟩⟩,
    ⟨⟨1, {}⟩, ⟨some first, .broker (.connack Broker.Message.accepted)⟩⟩,
    ⟨⟨2, {}⟩, ⟨some second, .sensor (.pingRequest none) "udp:20001"⟩⟩]

/-- The answer of the broker comes on a link that was opened for the first address, and goes
to the second one. -/
theorem replies_follow_device_connectAndRoam :
    let first : Address := .enveloped [7] ⟨.v4 10 0 0 1, 1234, 0⟩ (.forwarder 0)
    let second : Address := .enveloped [7] ⟨.v4 10 0 0 2, 1234, 0⟩ .legacy
    ∃ progress, Trace {} (connectAndRoam first second) progress ∧
      (progress.gateway.dispatch ⟨3, {}⟩
        ⟨some first, .broker .pingResponse⟩).progress.deliveries =
          [("udp:20001", second, .pingResponse)] ∧
      ∃ past own,
        history (connectAndRoam first second ++
          [⟨⟨3, {}⟩, ⟨some first, .broker .pingResponse⟩⟩]) second = past ++ own ∧
        Tenure {} past own ∧ lastLink own = some "udp:20001" ∧ LeadsTo own second := by
  intro first second
  have hcreated : Trace {} [] _ := .create rfl
  have hasked := hcreated.handle (connectAndRoam first second)[0] rfl
  have hconnected := hasked.handle (connectAndRoam first second)[1] rfl
  have hroamed := hconnected.handle (connectAndRoam first second)[2] rfl
  obtain ⟨hfollows, -⟩ := replies_follow_device hroamed
  obtain ⟨-, hwhere⟩ := hfollows ⟨⟨3, {}⟩, ⟨some first, .broker .pingResponse⟩⟩ "udp:20001" second
    .pingResponse (by decide +kernel)
  exact ⟨_, hroamed, by decide +kernel, hwhere⟩

end Gateway

end SensorGateway
