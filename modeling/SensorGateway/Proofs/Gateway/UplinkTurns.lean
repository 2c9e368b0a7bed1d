import SensorGateway.Proofs.Gateway.UplinkLinks
import SensorGateway.Proofs.Session.Speech

/-!
What is left of handling an envelope when the devices are taken out. To the uplink every
envelope is a turn of its own or none, and `Advances` says that it is all the uplink gets
to know: where the uplink is afterwards, what has happened on its links and what is put
on the queue follow from this turn alone. Sessions add nothing but a message that was not
for them, which goes back on the queue for the gateway itself.
-/

namespace SensorGateway

/-- Whether something that happened is the affair of the gateway itself. -/
def Event.isOwn (config : Config) : Event → Bool
  | .broker owner _ => owner.same config.gatewayAddress
  | .device .. => false
  | .broadcast .. | .openLink .. | .closeLink .. => true

/-- The envelope by which a message that a device sent to its session comes to the gateway
after all, if it is not for the session. -/
def Envelope.readdressed? (config : Config) (envelope : Envelope) : Option Envelope :=
  match envelope.payload, envelope.address with
  | .sensor message link, some address =>
      if address.same config.gatewayAddress then none
      else if message.isForGateway then
        some ⟨some config.gatewayAddress, .sensor message link⟩
      else none
  | _, _ => none

/-- A message comes to the gateway after all if a device sent it to its session and it is
not for that. -/
theorem Envelope.readdressed?_eq_some {config : Config} {envelope readdressed : Envelope} :
    envelope.readdressed? config = some readdressed ↔
      ∃ address message link, envelope = ⟨some address, .sensor message link⟩ ∧
        address.same config.gatewayAddress = false ∧ message.isForGateway = true ∧
        readdressed = ⟨some config.gatewayAddress, .sensor message link⟩ := by
  constructor
  · intro h
    obtain ⟨address, payload⟩ := envelope
    cases payload with
    | broker message => cases address <;> cases h
    | signal signal => cases address <;> cases h
    | sensor message link =>
      cases address with
      | none => cases h
      | some address =>
        obtain ⟨hforeign, h⟩ := Option.ite_none_left_eq_some.mp h
        obtain ⟨hgateway, hsome⟩ := Option.ite_none_right_eq_some.mp h
        exact ⟨address, message, link, rfl, Bool.not_eq_true _ ▸ hforeign, hgateway,
          (Option.some.inj hsome).symm⟩
  · rintro ⟨address, message, link, rfl, hforeign, hgateway, rfl⟩
    simp only [readdressed?, hforeign, hgateway, Bool.false_eq_true, if_false, if_true]

/-- What a turn of the uplink puts on the queue: nothing, unless it is a beat with which it is
time to look for silent devices. -/
theorem Uplink.envelopes_take (config : Config) (turn : Turn) (uplink : Uplink) :
    (uplink.take config turn).1.effects.filterMap (·.envelope?) =
      if turn.beats config uplink = true ∧
          IsDue config.checkingPeriod config.keepAlivePeriod uplink.checkElapsed then
        [⟨none, .signal .checkInactivity⟩]
      else [] := by
  cases hbeats : turn.beats config uplink with
  | true =>
    obtain ⟨frame, htaken⟩ := take_of_beats hbeats
    have hevents (events : List Event) :
        (events.map Effect.event).filterMap (·.envelope?) = [] := by
      rw [List.filterMap_map, List.filterMap_eq_nil_iff]
      exact fun _ _ => rfl
    rw [htaken, List.cons_append, List.filterMap_cons_none rfl, List.filterMap_append,
      hevents, List.nil_append]
    simp only [looks, true_and]
    split
    · rfl
    · rfl
  | false =>
    have hsteady := take_steady hbeats
    rw [if_neg (by simp), List.filterMap_eq_nil_iff]
    intro effect hin
    cases effect with
    | checkInactivity => cases hsteady.effects _ hin
    | _ => rfl

/-! ### Turns of a session -/

namespace Session

def Input.readdressed? (config : Config) : Input → Option Envelope
  | .sensor _ message link =>
      if message.isForGateway then some ⟨some config.gatewayAddress, .sensor message link⟩
      else none
  | .broker _ | .signal _ => none

/-- A message for the gateway is passed on, and nothing else is done with it. -/
theorem Transition.sensor_of_isForGateway {context : Context} {message : Sensor.Message}
    {link : LinkName} {t : Transition} (h : message.isForGateway = true) :
    t.sensor context message link = t.emit (.forGateway message link) := by
  cases message with
  | searchGateway radius => rfl
  | publish publication => exact Transition.sensor_of_minusOne (beq_iff_eq.mp h)
  | _ => cases h

/-- A turn puts on the queue what its input says, and nothing else. -/
theorem envelopes_take (config : Config) (turn : Turn) (session : Session) :
    (session.take config turn).effects.filterMap (·.envelope? config) =
      (turn.input.readdressed? config).toList := by
  have hspeaks := take_speaks config turn session
  cases hputs : turn.input.readdressed? config with
  | some envelope =>
    obtain ⟨now, line, input⟩ := turn
    cases input with
    | broker message => cases hputs
    | signal signal => cases hputs
    | sensor seen message link =>
      obtain ⟨hgateway, henvelope⟩ := Option.ite_none_right_eq_some.mp hputs
      simp only [take, onSensor]
      rw [Transition.sensor_of_isForGateway hgateway, ← henvelope]
      rfl
  | none =>
    rw [Option.toList_none, List.filterMap_eq_nil_iff]
    intro effect hin
    cases effect with
    | forGateway message link =>
      have hpassed : message ∈ (session.take config turn).passedOn :=
        List.mem_filterMap.mpr ⟨_, hin, rfl⟩
      obtain ⟨⟨seen, origin, hinput⟩, hgateway⟩ := hspeaks.passedOn message hpassed
      rw [hinput, Input.readdressed?, if_pos hgateway] at hputs
      cases hputs
    | _ => rfl

end Session

namespace Progress

variable {before after last : Progress} {sessions : List Session}

/-- What some sessions have done, as far as the uplink may notice: envelopes were put on the
queue. What happened on links is no affair of the gateway, unless a session goes by its
address. -/
structure Beside (sessions : List Session) (puts : List Envelope) (before after : Progress) :
    Prop where
  config : after.gateway.config = before.gateway.config
  uplink : after.gateway.uplink = before.gateway.uplink
  queue : after.gateway.queue = puts.foldl Queue.put before.gateway.queue
  events : (∀ session ∈ sessions,
      session.address.same before.gateway.config.gatewayAddress = false) →
    after.events.filter (·.isOwn before.gateway.config) =
      before.events.filter (·.isOwn before.gateway.config)

theorem Beside.refl (progress : Progress) : Beside [] [] progress progress :=
  ⟨rfl, rfl, rfl, fun _ => rfl⟩

theorem Beside.trans {others : List Session} {puts later : List Envelope}
    (h : Beside sessions puts before after) (h' : Beside others later after last) :
    Beside (sessions ++ others) (puts ++ later) before last := by
  refine ⟨h'.config.trans h.config, h'.uplink.trans h.uplink, ?_, fun hforeign => ?_⟩
  · rw [h'.queue, h.queue, List.foldl_append]
  · have hlast := h'.events fun session hin =>
      h.config.symm ▸ hforeign session (List.mem_append_right _ hin)
    rw [h.config] at hlast
    exact hlast.trans (h.events fun session hin => hforeign session (List.mem_append_left _ hin))

/-- What a session does on links is not the affair of the gateway. -/
theorem isOwn_event {config : Config} {effect : Session.Effect} {event : Event}
    {network : Network} {address : Address}
    (hforeign : address.same config.gatewayAddress = false)
    (hevent : effect.event? network address = some event) : event.isOwn config = false := by
  cases effect with
  | broker use =>
    cases hevent
    exact hforeign
  | device link target message =>
    cases hevent
    rfl
  | _ => cases hevent

/-- A session that takes a turn. -/
theorem beside_stepSession (network : Network) (turn : Session.Turn) (session : Session)
    (progress : Progress) :
    Beside [session] (turn.input.readdressed? progress.gateway.config).toList progress
      (progress.stepSession network (session.take progress.gateway.config turn)) := by
  refine ⟨?_, ?_, ?_, fun hforeign => ?_⟩
  · rw [Gateway.stepSession_gateway]
    rfl
  · rw [Gateway.stepSession_gateway]
    rfl
  · rw [Gateway.stepSession_gateway, ← Session.envelopes_take _ turn session]
  · have hapart := (session.same_take progress.gateway.config turn _).trans
      (hforeign session (List.mem_singleton_self session))
    have hnone : ((session.take progress.gateway.config turn).effects.filterMap
        (·.event? network (session.take progress.gateway.config turn).session.address)).filter
          (·.isOwn progress.gateway.config) = [] := by
      rw [List.filter_eq_nil_iff]
      intro event hin
      obtain ⟨effect, -, hevent⟩ := List.mem_filterMap.mp hin
      simp [isOwn_event hapart hevent]
    rw [stepSession_events, List.filter_append, hnone, List.append_nil]

/-- A session that takes a signal is beside the uplink. -/
theorem beside_signalSession (circumstances : Circumstances) (signal : Signal) (session : Session)
    (progress : Progress) :
    Beside [session] [] progress
      (Gateway.signalSession circumstances signal progress session) := by
  have hstep := beside_stepSession circumstances.network
    (Gateway.signalTurn circumstances session.address signal) session progress
  rw [Gateway.signalSession_eq]
  simp only
  split
  · exact ⟨hstep.config, hstep.uplink, hstep.queue, hstep.events⟩
  · exact hstep

theorem beside_signalSessions (circumstances : Circumstances) (signal : Signal)
    (sessions : List Session) (progress : Progress) :
    Beside sessions [] progress
      (sessions.foldl (Gateway.signalSession circumstances signal) progress) := by
  induction sessions generalizing progress with
  | nil => exact .refl progress
  | cons session sessions ih =>
    exact (beside_signalSession circumstances signal session progress).trans (ih _)

end Progress

/-! ### Handling an envelope -/

namespace Gateway

def Handling.uplinkTurn? (config : Config) (handling : Handling) : Option Uplink.Turn :=
  let turn (input : Uplink.Input) : Uplink.Turn := ⟨handling.circumstances.network, input⟩
  match handling.envelope.payload, handling.envelope.address with
  | .sensor message _, some seen =>
      if seen.same config.gatewayAddress then some (turn (.sensor message)) else none
  | .broker message, some owner =>
      if owner.same config.gatewayAddress then some (turn (.broker message)) else none
  | .signal signal, some target =>
      if target.same config.gatewayAddress then some (turn (.signal signal)) else none
  | .signal signal, none => some (turn (.signal signal))
  | .sensor .., none | .broker _, none => none

def told (gateway : Gateway) (handling : Handling) : Uplink.Outcome :=
  match handling.uplinkTurn? gateway.config with
  | some turn => gateway.uplink.take gateway.config turn
  | none => (.start gateway.uplink, .ok ())

def puts (gateway : Gateway) (handling : Handling) : List Envelope :=
  (handling.envelope.readdressed? gateway.config).toList ++
    (gateway.told handling).1.effects.filterMap (·.envelope?)

/-- What handling an envelope comes to for the uplink and the queue. -/
structure Advances (gateway : Gateway) (handling : Handling) (progress : Progress) : Prop where
  config : progress.gateway.config = gateway.config
  uplink : progress.gateway.uplink = (gateway.told handling).1.uplink
  queue : progress.gateway.queue = (gateway.puts handling).foldl Queue.put gateway.queue
  events : (∀ session ∈ gateway.sessions, gateway.isOwn session.address = false) →
    progress.events.filter (·.isOwn gateway.config) = (gateway.told handling).1.events

variable {gateway : Gateway} {handling : Handling} {circumstances : Circumstances}
variable {progress : Progress}

theorem told_of_some {turn : Uplink.Turn}
    (h : handling.uplinkTurn? gateway.config = some turn) :
    gateway.told handling = gateway.uplink.take gateway.config turn := by
  unfold told
  rw [h]

/-- An uplink that is told nothing does nothing. -/
theorem told_of_none (h : handling.uplinkTurn? gateway.config = none) :
    gateway.told handling = (.start gateway.uplink, .ok ()) := by
  unfold told
  rw [h]

/-- What is put on the queue was passed on by a session, or is a look for silent devices. -/
theorem mem_puts {envelope : Envelope} (h : envelope ∈ gateway.puts handling) :
    handling.envelope.readdressed? gateway.config = some envelope ∨
      envelope = ⟨none, .signal .checkInactivity⟩ := by
  rcases List.mem_append.mp h with hpassed | htold
  · exact .inl (Option.mem_toList.mp hpassed)
  · obtain ⟨effect, -, heffect⟩ := List.mem_filterMap.mp htold
    cases effect with
    | checkInactivity => exact .inr (Option.some.inj heffect).symm
    | _ => cases heffect

/-- What is passed on to the gateway was no turn of the uplink yet. -/
theorem puts_of_readdressed? {readdressed : Envelope}
    (h : handling.envelope.readdressed? gateway.config = some readdressed) :
    gateway.puts handling = [readdressed] := by
  obtain ⟨circumstances, envelope⟩ := handling
  obtain ⟨address, message, link, rfl, hforeign, -⟩ := Envelope.readdressed?_eq_some.mp h
  have hnone : Handling.uplinkTurn? gateway.config
      ⟨circumstances, some address, .sensor message link⟩ = none :=
    if_neg (Bool.eq_false_iff.mp hforeign)
  rw [puts, told_of_none hnone, h]
  rfl

/-- Nothing but sessions was at work. -/
theorem Advances.of_beside {sessions : List Session}
    (huplink : handling.uplinkTurn? gateway.config = none)
    (h : Progress.Beside sessions (handling.envelope.readdressed? gateway.config).toList
      (.start gateway) progress)
    (hforeign : (∀ session ∈ gateway.sessions, gateway.isOwn session.address = false) →
      ∀ session ∈ sessions, gateway.isOwn session.address = false) :
    gateway.Advances handling progress := by
  have htold := told_of_none huplink
  refine ⟨h.config, ?_, ?_, fun hsessions => ?_⟩
  · rw [htold, h.uplink]
    rfl
  · have hputs : gateway.puts handling =
        (handling.envelope.readdressed? gateway.config).toList := by
      unfold puts
      rw [htold]
      exact List.append_nil _
    rw [hputs, h.queue]
    rfl
  · rw [htold]
    exact h.events (hforeign hsessions)

theorem Advances.nothing (huplink : handling.uplinkTurn? gateway.config = none)
    (hreaddressed : handling.envelope.readdressed? gateway.config = none) :
    gateway.Advances handling (.start gateway) := by
  refine .of_beside huplink ?_ fun _ _ hin => (List.not_mem_nil hin).elim
  rw [hreaddressed]
  exact .refl _

/-- What the uplink does is its own affair. -/
theorem filter_isOwn_of_own {context : Uplink.Context} {t : Uplink.Transition}
    (h : t.Own context) : t.events.filter (·.isOwn context.config) = t.events := by
  rw [List.filter_eq_self]
  intro event hin
  obtain ⟨effect, heffect, hevent⟩ := List.mem_filterMap.mp hin
  have hown := h effect heffect
  cases effect with
  | event happened =>
    cases hevent
    cases event with
    | broker owner use =>
      have howner : owner = context.config.gatewayAddress := hown
      rw [howner]
      exact Address.same_self _
    | device => exact hown.elim
    | _ => rfl
  | _ => cases hevent

/-- The uplink takes its turn first, and whatever follows is the affair of sessions. -/
theorem Advances.of_turn (turn : Uplink.Turn) {sessions : List Session}
    (huplink : handling.uplinkTurn? gateway.config = some turn)
    (hreaddressed : handling.envelope.readdressed? gateway.config = none)
    {step : Uplink.Context → Uplink → Uplink.Outcome}
    (hstep : step (gateway.uplinkContext circumstances) gateway.uplink =
      gateway.uplink.take gateway.config turn)
    (h : Progress.Beside sessions [] ((Progress.start gateway).stepUplink
      (gateway.uplinkContext circumstances) step).1 progress)
    (hforeign : (∀ session ∈ gateway.sessions, gateway.isOwn session.address = false) →
      ∀ session ∈ sessions, gateway.isOwn session.address = false) :
    gateway.Advances handling progress := by
  have htold := told_of_some huplink
  obtain ⟨hconfig, hafter, hqueue, hevents⟩ := h
  unfold Progress.stepUplink at hconfig hafter hqueue hevents
  simp only [hstep, Progress.start] at hconfig hafter hqueue hevents
  rw [Progress.performUplink_gateway] at hconfig hafter hqueue
  refine ⟨hconfig, ?_, ?_, fun hsessions => ?_⟩
  · rw [htold, hafter]
    rfl
  · rw [hqueue, puts, htold, hreaddressed]
    rfl
  · rw [Progress.performUplink_gateway] at hevents
    have hown := filter_isOwn_of_own (gateway.uplink.take_own gateway.config turn)
    rw [htold]
    refine (hevents (hforeign hsessions)).trans ?_
    rw [Progress.performUplink_events]
    exact hown

theorem Advances.ofUplink (turn : Uplink.Turn)
    (huplink : handling.uplinkTurn? gateway.config = some turn)
    (hreaddressed : handling.envelope.readdressed? gateway.config = none)
    {step : Uplink.Context → Uplink → Uplink.Outcome}
    (hstep : step (gateway.uplinkContext circumstances) gateway.uplink =
      gateway.uplink.take gateway.config turn) :
    gateway.Advances handling (Outcome.ofUplink ((Progress.start gateway).stepUplink
      (gateway.uplinkContext circumstances) step)).progress :=
  .of_turn turn huplink hreaddressed hstep (.refl _) fun _ _ hin => (List.not_mem_nil hin).elim

/-- A device takes a turn. -/
theorem Advances.device {address : Address} {session : Session} (turn : Session.Turn)
    (huplink : handling.uplinkTurn? gateway.config = none)
    (hreaddressed : handling.envelope.readdressed? gateway.config =
      turn.input.readdressed? gateway.config)
    (hfound : gateway.session? address = some session) :
    gateway.Advances handling ((Progress.start gateway).stepSession circumstances.network
      (session.take gateway.config turn)) := by
  have hstep := Progress.beside_stepSession circumstances.network turn session (.start gateway)
  refine .of_beside huplink (hreaddressed ▸ hstep) fun hsessions other hin => ?_
  rw [List.mem_singleton.mp hin]
  exact hsessions session (mem_of_session? hfound)

theorem advances_dispatchSensor (circumstances : Circumstances) (address : Address)
    (message : Sensor.Message) (link : LinkName) :
    gateway.Advances ⟨circumstances, some address, .sensor message link⟩
      (gateway.dispatchSensor circumstances address message link).progress := by
  let turn : Session.Turn :=
    ⟨circumstances.now, circumstances.network.line address.identity, .sensor address message link⟩
  unfold dispatchSensor
  simp only
  split
  next hown =>
    refine Advances.ofUplink ⟨circumstances.network, .sensor message⟩ ?_ ?_ rfl
    · exact if_pos hown
    · exact if_pos hown
  next hforeign =>
    split
    next session hfound =>
      exact Advances.device turn (if_neg hforeign) (if_neg hforeign) hfound
    next hnone =>
      let fresh := Session.fresh (gateway.sessionContext circumstances address) address
      have hstep := Progress.beside_stepSession circumstances.network turn fresh
        (.start (gateway.addSession fresh))
      have htaken : fresh.take gateway.config turn =
          Session.onSensor (gateway.sessionContext circumstances address) message link fresh :=
        Session.take_fresh gateway.config turn rfl
      have hreaddressed :
          Envelope.readdressed? gateway.config ⟨some address, .sensor message link⟩ =
            turn.input.readdressed? gateway.config := if_neg hforeign
      have hknown : (Progress.start (gateway.addSession fresh)).gateway.config =
          gateway.config := rfl
      rw [hknown, htaken, ← hreaddressed] at hstep
      have hbeside : Progress.Beside [fresh] _ (.start gateway) _ :=
        ⟨hstep.config, hstep.uplink, hstep.queue, hstep.events⟩
      refine Advances.of_beside (if_neg hforeign) hbeside fun _ other hin => ?_
      rw [List.mem_singleton.mp hin]
      exact Bool.not_eq_true _ ▸ hforeign

theorem advances_dispatchBroker (circumstances : Circumstances) (address : Address)
    (message : Broker.Message) :
    gateway.Advances ⟨circumstances, some address, .broker message⟩
      (gateway.dispatchBroker circumstances address message).progress := by
  let turn : Session.Turn :=
    ⟨circumstances.now, circumstances.network.line address.identity, .broker message⟩
  unfold dispatchBroker
  simp only
  split
  next hown =>
    refine Advances.ofUplink ⟨circumstances.network, .broker message⟩ ?_ rfl rfl
    exact if_pos hown
  next hforeign =>
    split
    next session hfound => exact Advances.device turn (if_neg hforeign) rfl hfound
    next => exact Advances.nothing (if_neg hforeign) rfl

theorem advances_dispatchSignal (circumstances : Circumstances) (address : Address)
    (signal : Signal) :
    gateway.Advances ⟨circumstances, some address, .signal signal⟩
      (gateway.dispatchSignal circumstances address signal).progress := by
  unfold dispatchSignal
  simp only
  split
  next hown =>
    refine Advances.ofUplink ⟨circumstances.network, .signal signal⟩ ?_ rfl rfl
    exact if_pos hown
  next hforeign =>
    split
    next session hfound =>
      have hbeside := Progress.beside_signalSession circumstances signal session (.start gateway)
      refine Advances.of_beside (if_neg hforeign) hbeside fun hsessions other hin => ?_
      rw [List.mem_singleton.mp hin]
      exact hsessions session (mem_of_session? hfound)
    next => exact Advances.nothing (if_neg hforeign) rfl

/-- A signal for everyone is a turn of the uplink first, and then of every session. -/
theorem advances_broadcastSignal (circumstances : Circumstances) (signal : Signal) :
    gateway.Advances ⟨circumstances, none, .signal signal⟩
      (gateway.broadcastSignal circumstances signal).progress := by
  let turn : Uplink.Turn := ⟨circumstances.network, .signal signal⟩
  let stepped := ((Progress.start gateway).stepUplink (gateway.uplinkContext circumstances)
    fun context => Uplink.onSignal context signal).1
  have hsessions : stepped.gateway.sessions = gateway.sessions := by
    unfold stepped Progress.stepUplink
    simp only
    rw [Progress.performUplink_gateway]
    rfl
  have hbeside := Progress.beside_signalSessions circumstances signal stepped.gateway.sessions
    stepped
  have hforeign : (∀ session ∈ gateway.sessions, gateway.isOwn session.address = false) →
      ∀ session ∈ stepped.gateway.sessions, gateway.isOwn session.address = false := by
    rw [hsessions]
    exact id
  unfold broadcastSignal
  split
  next hdown =>
    cases hdown
    have hended : Progress.Beside _ [] stepped (shutDownAll circumstances (.start gateway)) :=
      ⟨hbeside.config, hbeside.uplink, hbeside.queue, hbeside.events⟩
    exact Advances.of_turn turn rfl rfl rfl hended hforeign
  next => exact Advances.of_turn turn rfl rfl rfl hbeside hforeign

/-- However an envelope is handled, the uplink takes the turn that is in it and the queue
gets what the envelope puts there. -/
theorem advances_dispatch (gateway : Gateway) (handling : Handling) :
    gateway.Advances handling
      (gateway.dispatch handling.circumstances handling.envelope).progress := by
  obtain ⟨circumstances, address, payload⟩ := handling
  cases address with
  | none =>
    cases payload with
    | signal signal => exact advances_broadcastSignal circumstances signal
    | sensor message link => exact Advances.nothing rfl rfl
    | broker message => exact Advances.nothing rfl rfl
  | some address =>
    cases payload with
    | sensor message link => exact advances_dispatchSensor circumstances address message link
    | broker message => exact advances_dispatchBroker circumstances address message
    | signal signal => exact advances_dispatchSignal circumstances address signal

end Gateway

end SensorGateway
