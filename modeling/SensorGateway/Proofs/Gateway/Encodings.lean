import SensorGateway.Proofs.Config.Validation
import SensorGateway.Proofs.Gateway.Stop
import SensorGateway.Proofs.Gateway.World
import SensorGateway.Proofs.Session.Encodings

/-!
The frames of the messages for the broker. The gateway keeps texts of its devices, of
the broker and of its configuration, and puts messages together from them later on.
All that it reads comes out of frames and has room in one; what it keeps of that has
room therefore, and so has every message that it makes of it. `run_hands_frames` says
this of whole runs, of the links of the devices and of the gateway's own link.

What is configured has no frame to come from, and `validate` does not look at how long
it is. That it has room has to be assumed: `not_all_handed_frames` is about a name of
the protocol that has none.
-/

namespace SensorGateway

open Broker (HasRoom)

/-- Whether a message was read of a frame. There are none for signals. -/
def Payload.IsRead : Payload → Prop
  | sensor message _ => ∃ frame, Sensor.Message.decode frame = .ok message
  | broker message => ∃ frame, Broker.Message.decode frame = .ok message
  | signal _ => True

def Session.Input.IsRead : Session.Input → Prop
  | sensor _ message link => Payload.IsRead (.sensor message link)
  | broker message => Payload.IsRead (.broker message)
  | signal _ => True

/-- What was read of a frame has room in one. -/
theorem Session.Input.IsRead.fitsFields {input : Session.Input} (h : input.IsRead) :
    input.FitsFields := by
  cases input with
  | sensor seen message link =>
    obtain ⟨frame, hframe⟩ := h
    exact Sensor.Message.fitsFields_of_decode hframe
  | broker message =>
    obtain ⟨frame, hframe⟩ := h
    cases message with
    | publish publication => exact Broker.Message.hasRoom_of_decode hframe
    | _ => exact trivial
  | signal signal => exact trivial

/-! ### Messages of the uplink -/

namespace Uplink

variable {context : Context} {heard : Option Sensor.Message}

theorem hasRoom_clientId (config : Config) : HasRoom (clientId config) := by
  have hall : ∀ id : Fin 256, HasRoom ("Gateway_" ++ toString id.val) := by decide +kernel
  exact hall config.gatewayId.toFin

/-- A topic that the gateway knows has room in a field: it is configured, or short. -/
theorem hasRoom_topic {config : Config} (hconfig : config.FitsFields) {type : Sensor.TopicIdType}
    {id : UInt16} {name : String} (h : Transition.topic? config type id = some name) :
    HasRoom name := by
  have hnames : ∀ name, config.topicTable.Holds name → HasRoom name :=
    fun _ => hconfig.hasRoom_topicTable
  cases type with
  | normal => cases h
  | predefined =>
    have hresolves : config.topicTable.resolve? .predefined id = some name := h
    exact Session.hasRoom_resolve hnames hresolves
  | short =>
    have hresolves : config.topicTable.resolve? .short id = some name := h
    exact Session.hasRoom_resolve hnames hresolves

theorem will_hasRoom {config : Config} (hconfig : config.FitsFields)
    (hqos : config.connect.willQos ≤ 2) {will : Broker.Will}
    (h : config.connect.will = some will) : will.HasRoom := by
  unfold ConnectSettings.will at h
  split at h
  next hflag =>
    obtain ⟨htopic, hmessage⟩ := hconfig.will hflag
    cases h
    exact ⟨htopic, Broker.length_bytes_le hmessage, hqos⟩
  next => cases h

/-- For every message that the uplink may hand to its broker link there is a frame. -/
theorem Hands.encodable {message : Broker.Message} (hhands : Hands context heard message)
    (hconfig : context.config.FitsFields) (hqos : context.config.connect.willQos ≤ 2)
    (hheard : ∀ message ∈ heard, message.FitsFields) : message.Encodable := by
  cases hhands with
  | connect =>
    exact Broker.Message.encodable_connect hconfig.protocolName (hasRoom_clientId context.config)
      (fun _ => will_hasRoom hconfig hqos) rfl rfl
  | ping => exact Session.encodable_of_isPlain rfl
  | disconnect => exact Session.encodable_of_isPlain rfl
  | publish htold htopic =>
    exact Broker.Message.encodable_publish (hasRoom_topic hconfig htopic) (Nat.zero_le 2)
      (hheard _ htold)

end Uplink

/-! ### What is kept -/

/-- Whether everything that a gateway knows or has still to read has room in frames. -/
structure Gateway.Legible (gateway : Gateway) : Prop where
  config : gateway.config.FitsFields
  willQos : gateway.config.connect.willQos ≤ 2
  sessions : ∀ session ∈ gateway.sessions, session.Sendable
  waiting : ∀ envelope ∈ gateway.queue.toList, envelope.payload.IsRead

def Progress.handed (progress : Progress) : List Broker.Message :=
  progress.events.filterMap (·.handed?)

/-- Whether there is a frame for everything that was handed to a broker link, and will be
one for what comes next. -/
structure Progress.Legible (progress : Progress) : Prop where
  gateway : progress.gateway.Legible
  handed : ∀ message ∈ progress.handed, message.Encodable

theorem Queue.forall_foldl_put {P : Envelope → Prop} {queue : Queue} {puts : List Envelope}
    (hqueue : ∀ envelope ∈ queue.toList, P envelope) (hputs : ∀ envelope ∈ puts, P envelope) :
    ∀ envelope ∈ (puts.foldl put queue).toList, P envelope := by
  intro envelope hin
  have hperm := (perm_foldl_put puts queue).subset hin
  exact (List.mem_append.mp hperm).elim (hputs envelope) (hqueue envelope)

namespace Gateway

variable {config : Config} {gateway : Gateway} {session : Session}

/-- A gateway whose configuration fits has nothing yet that would not. -/
theorem legible_create (hcreate : create config = .ok gateway) (hconfig : config.FitsFields) :
    gateway.Legible := by
  unfold create at hcreate
  split at hcreate
  next => cases hcreate
  next hvalid =>
    cases hcreate
    exact ⟨hconfig, (Config.valid_of_validate hvalid).willQos,
      fun _ hin => (List.not_mem_nil hin).elim,
      fun _ hin => (List.not_mem_nil hin).elim⟩

theorem Legible.addSession (h : gateway.Legible) (hsession : session.Sendable) :
    (gateway.addSession session).Legible where
  config := h.config
  willQos := h.willQos
  sessions := by
    intro other hin
    rcases List.mem_append.mp hin with hold | hnew
    · exact h.sessions other hold
    · rw [List.mem_singleton.mp hnew]
      exact hsession
  waiting := h.waiting

theorem Legible.setSession (h : gateway.Legible) (hsession : session.Sendable) :
    (gateway.setSession session).Legible where
  config := h.config
  willQos := h.willQos
  sessions := by
    intro other hin
    obtain ⟨before, hbefore, heq⟩ := List.mem_map.mp hin
    split at heq
    · exact heq ▸ hsession
    · exact heq ▸ h.sessions before hbefore
  waiting := h.waiting

theorem Legible.removeSession (h : gateway.Legible) (address : Address) :
    (gateway.removeSession address).Legible :=
  ⟨h.config, h.willQos, fun other hin => h.sessions other (List.mem_filter.mp hin).1, h.waiting⟩

theorem Legible.queue (h : gateway.Legible) {puts : List Envelope}
    (hputs : ∀ envelope ∈ puts, envelope.payload.IsRead) :
    Legible { gateway with queue := puts.foldl Queue.put gateway.queue } :=
  ⟨h.config, h.willQos, h.sessions, Queue.forall_foldl_put h.waiting hputs⟩

/-- The envelope that is taken was read, and so were the others. -/
theorem Legible.take (h : gateway.Legible) {envelope : Envelope} {queue : Queue}
    (htake : gateway.queue.take? = some (envelope, queue)) :
    envelope.payload.IsRead ∧ Legible { gateway with queue } := by
  have hwaiting := h.waiting
  rw [Queue.toList_of_take? htake] at hwaiting
  obtain ⟨hfirst, hrest⟩ := List.forall_mem_cons.mp hwaiting
  exact ⟨hfirst, h.config, h.willQos, h.sessions, hrest⟩

end Gateway

/-! ### What is done -/

namespace Progress

variable {progress next : Progress} {session : Session} {turn : Session.Turn}

theorem legible_start {gateway : Gateway} (h : gateway.Legible) : (start gateway).Legible :=
  ⟨h, fun _ hin => (List.not_mem_nil hin).elim⟩

theorem handed_after (events : List Event) (progress : Progress) :
    (progress.after events).handed = events.filterMap (·.handed?) ++ progress.handed :=
  List.filterMap_append

theorem Legible.after (h : next.Legible) {events : List Event}
    (hevents : ∀ message ∈ events.filterMap (·.handed?), message.Encodable) :
    (next.after events).Legible := by
  refine ⟨h.gateway, fun message hin => ?_⟩
  rw [handed_after] at hin
  exact (List.mem_append.mp hin).elim (hevents message) (h.handed message)

theorem Legible.updateTimers (h : progress.Legible) (f : Timers → Timers) :
    (progress.updateTimers f).Legible :=
  ⟨⟨h.gateway.config, h.gateway.willQos, h.gateway.sessions, h.gateway.waiting⟩, h.handed⟩

theorem Legible.removeSession (h : progress.Legible) (address : Address) :
    (progress.update (·.removeSession address)).Legible :=
  ⟨h.gateway.removeSession address, h.handed⟩

/-- What a session hands to its broker link is what the gateway hands over. -/
theorem handed_stepSession (network : Network) (t : Session.Transition) :
    (progress.stepSession network t).handed = progress.handed ++ t.handed := by
  have hsame (effect : Session.Effect) :
      (effect.event? network t.session.address).bind (·.handed?) = effect.handed? := by
    cases effect with
    | broker use => cases use <;> rfl
    | _ => rfl
  unfold handed
  rw [stepSession_events, List.filterMap_append, List.filterMap_filterMap]
  simp only [hsame]
  rfl

/-- The turn of a session. What the session passes on was read as well. -/
theorem Legible.take (h : progress.Legible) (network : Network) (hsession : session.Sendable)
    (hread : turn.input.IsRead) :
    (progress.stepSession network (session.take progress.gateway.config turn)).Legible := by
  let t := session.take progress.gateway.config turn
  have hspeaks := Session.take_speaks progress.gateway.config turn session
  have hset := h.gateway.setSession (hsession.take progress.gateway.config hread.fitsFields)
  have hputs : ∀ envelope ∈ t.effects.filterMap (·.envelope? progress.gateway.config),
      envelope.payload.IsRead := by
    intro envelope hin
    obtain ⟨effect, heffect, hsome⟩ := List.mem_filterMap.mp hin
    cases effect with
    | forGateway message link =>
      cases hsome
      have hpassed : message ∈ t.passedOn := List.mem_filterMap.mpr ⟨_, heffect, rfl⟩
      obtain ⟨⟨seen, origin, hinput⟩, -⟩ := hspeaks.passedOn message hpassed
      rw [hinput] at hread
      exact hread
    | _ => cases hsome
  constructor
  · rw [Gateway.stepSession_gateway]
    exact ⟨hset.config, hset.willQos, hset.sessions, (hset.queue hputs).waiting⟩
  · intro message hin
    rw [handed_stepSession] at hin
    rcases List.mem_append.mp hin with hold | hnew
    · exact h.handed message hold
    · exact hsession.encodable h.gateway.config hread.fitsFields message hnew

theorem handed_stepUplink (context : Uplink.Context)
    (step : Uplink.Context → Uplink → Uplink.Outcome) :
    (progress.stepUplink context step).1.handed = progress.handed ++
      (step context progress.gateway.uplink).1.effects.filterMap (·.handed?) := by
  have hsame (effect : Uplink.Effect) : effect.event?.bind (·.handed?) = effect.handed? := by
    cases effect <;> rfl
  unfold handed Progress.stepUplink
  simp only
  rw [performUplink_events, List.filterMap_append, List.filterMap_filterMap]
  simp only [hsame]
  rfl

theorem Legible.stepUplink (h : progress.Legible) {context : Uplink.Context}
    {step : Uplink.Context → Uplink → Uplink.Outcome} {heard : Option Sensor.Message}
    (hconfig : context.config = progress.gateway.config)
    (hspeaks : (step context progress.gateway.uplink).1.Speaks context heard)
    (hheard : ∀ message ∈ heard, message.FitsFields) :
    (progress.stepUplink context step).1.Legible := by
  let t := (step context progress.gateway.uplink).1
  have hputs : ∀ envelope ∈ t.effects.filterMap (·.envelope?), envelope.payload.IsRead := by
    intro envelope hin
    obtain ⟨effect, -, hsome⟩ := List.mem_filterMap.mp hin
    cases effect with
    | checkInactivity =>
      cases hsome
      exact trivial
    | _ => cases hsome
  constructor
  · unfold Progress.stepUplink
    simp only
    rw [performUplink_gateway]
    exact ⟨h.gateway.config, h.gateway.willQos, h.gateway.sessions,
      (h.gateway.queue hputs).waiting⟩
  · intro message hin
    rw [handed_stepUplink] at hin
    rcases List.mem_append.mp hin with hold | hnew
    · exact h.handed message hold
    · obtain ⟨effect, heffect, hsome⟩ := List.mem_filterMap.mp hnew
      have hhands := hspeaks.handed effect heffect message hsome
      exact hhands.encodable (hconfig ▸ h.gateway.config) (hconfig ▸ h.gateway.willQos) hheard

theorem Legible.signalSession (h : progress.Legible) (circumstances : Circumstances)
    (signal : Signal) (hsession : session.Sendable) :
    (Gateway.signalSession circumstances signal progress session).Legible := by
  let turn := Gateway.signalTurn circumstances session.address signal
  have hread : turn.input.IsRead := trivial
  have hstepped := h.take circumstances.network hsession hread
  rw [Gateway.signalSession_eq]
  simp only
  split
  · exact hstepped.removeSession session.address
  · exact hstepped

/-- It stays legible over any sessions that take a signal one after the other. -/
theorem Legible.foldl_signalSession (h : progress.Legible) (circumstances : Circumstances)
    (signal : Signal) (sessions : List Session)
    (hsessions : ∀ session ∈ sessions, session.Sendable) :
    (sessions.foldl (Gateway.signalSession circumstances signal) progress).Legible := by
  induction sessions generalizing progress with
  | nil => exact h
  | cons session sessions ih =>
    obtain ⟨hfirst, hrest⟩ := List.forall_mem_cons.mp hsessions
    exact ih (h.signalSession circumstances signal hfirst) hrest

theorem Legible.signalSessions (h : progress.Legible) (circumstances : Circumstances)
    (signal : Signal) : (Gateway.signalSessions circumstances signal progress).Legible :=
  h.foldl_signalSession circumstances signal _ h.gateway.sessions

theorem Legible.signalUplink (h : progress.Legible) (circumstances : Circumstances)
    (signal : Signal) :
    (progress.stepUplink (progress.gateway.uplinkContext circumstances)
      fun context => Uplink.onSignal context signal).1.Legible :=
  h.stepUplink rfl (Uplink.onSignal_speaks signal) fun _ hin => (Option.not_mem_none _ hin).elim

theorem Legible.shutDownAll (h : progress.Legible) (circumstances : Circumstances) :
    (Gateway.shutDownAll circumstances progress).Legible := by
  have hwithout : (Gateway.withoutUplink circumstances progress).Legible :=
    h.signalUplink circumstances .shutDown
  rw [Gateway.shutDownAll_def]
  exact (hwithout.signalSessions circumstances .shutDown).updateTimers _

end Progress

/-! ### Envelopes -/

namespace Gateway

open Progress (legible_start)

variable {gateway : Gateway} {circumstances : Circumstances} {address : Address}

theorem Legible.ofUplink (h : gateway.Legible) (circumstances : Circumstances)
    (step : Uplink.Context → Uplink → Uplink.Outcome) {heard : Option Sensor.Message}
    (hspeaks : (step (gateway.uplinkContext circumstances) gateway.uplink).1.Speaks
      (gateway.uplinkContext circumstances) heard)
    (hheard : ∀ message ∈ heard, message.FitsFields) :
    (Outcome.ofUplink ((Progress.start gateway).stepUplink
      (gateway.uplinkContext circumstances) step)).progress.Legible :=
  (legible_start h).stepUplink rfl hspeaks hheard

theorem Legible.dispatchSensor (h : gateway.Legible) {message : Sensor.Message} {link : LinkName}
    (hread : Payload.IsRead (.sensor message link)) :
    (gateway.dispatchSensor circumstances address message link).progress.Legible := by
  let turn : Session.Turn :=
    ⟨circumstances.now, circumstances.network.line address.identity, .sensor address message link⟩
  have hinput : turn.input.IsRead := hread
  have hstart := legible_start h
  unfold Gateway.dispatchSensor
  simp only
  split
  · refine h.ofUplink circumstances _ (Uplink.onSensor_speaks message) fun heard heq => ?_
    cases heq
    exact hinput.fitsFields
  · split
    next session hfound =>
      exact hstart.take circumstances.network (h.sessions session (mem_of_session? hfound)) hinput
    next =>
      let fresh := Session.fresh (gateway.sessionContext circumstances address) address
      have hfresh : fresh.Sendable := Session.sendable_fresh h.config address
      have htaken : fresh.take gateway.config turn =
          Session.onSensor (gateway.sessionContext circumstances address) message link fresh :=
        Session.take_fresh gateway.config turn rfl
      have hstepped :=
        (legible_start (h.addSession hfresh)).take circumstances.network hfresh hinput
      exact htaken ▸ hstepped

theorem Legible.dispatchBroker (h : gateway.Legible) {message : Broker.Message}
    (hread : Payload.IsRead (.broker message)) :
    (gateway.dispatchBroker circumstances address message).progress.Legible := by
  have hstart := legible_start h
  unfold Gateway.dispatchBroker
  simp only
  split
  · exact h.ofUplink circumstances _ (Uplink.onBroker_speaks message)
      fun _ hin => (Option.not_mem_none _ hin).elim
  · split
    next session hfound =>
      let turn : Session.Turn :=
        ⟨circumstances.now, circumstances.network.line address.identity, .broker message⟩
      have hinput : turn.input.IsRead := hread
      exact hstart.take circumstances.network (h.sessions session (mem_of_session? hfound)) hinput
    next => exact hstart

theorem Legible.dispatchSignal (h : gateway.Legible) (signal : Signal) :
    (gateway.dispatchSignal circumstances address signal).progress.Legible := by
  have hstart := legible_start h
  unfold Gateway.dispatchSignal
  simp only
  split
  · exact hstart.signalUplink circumstances signal
  · split
    next session hfound =>
      exact hstart.signalSession circumstances signal (h.sessions session (mem_of_session? hfound))
    next => exact hstart

theorem Legible.broadcastSignal (h : gateway.Legible) (signal : Signal) :
    (gateway.broadcastSignal circumstances signal).progress.Legible := by
  have hstart := legible_start h
  unfold Gateway.broadcastSignal
  split
  · exact hstart.shutDownAll circumstances
  · exact (hstart.signalUplink circumstances signal).signalSessions circumstances signal

/-- Handling an envelope keeps a gateway legible if the message of it was read of a frame. -/
theorem Legible.dispatch (h : gateway.Legible) (circumstances : Circumstances)
    {envelope : Envelope} (hread : envelope.payload.IsRead) :
    (gateway.dispatch circumstances envelope).progress.Legible := by
  obtain ⟨address, payload⟩ := envelope
  cases address with
  | none =>
    cases payload with
    | sensor message link => exact legible_start h
    | broker message => exact legible_start h
    | signal signal => exact h.broadcastSignal signal
  | some address =>
    cases payload with
    | sensor message link => exact h.dispatchSensor hread
    | broker message => exact h.dispatchBroker hread
    | signal signal => exact h.dispatchSignal signal

/-! ### Runs -/

def ArriveRead (rounds : List Round) : Prop :=
  ∀ round ∈ rounds, ∀ envelope ∈ round.arrivals, envelope.payload.IsRead

/-- A gateway that serves stays legible, whatever it reads. -/
theorem Legible.serve (h : gateway.Legible) {rounds : List Round} (hread : ArriveRead rounds) :
    (gateway.serve rounds).progress.Legible := by
  induction rounds generalizing gateway with
  | nil => exact legible_start h
  | cons round rounds ih =>
    obtain ⟨harrivals, hlater⟩ := List.forall_mem_cons.mp hread
    have harrived := h.queue harrivals
    unfold Gateway.serve dispatchNext
    simp only [foldl_put_eq]
    cases htake : (round.arrivals.foldl Queue.put gateway.queue).take? with
    | none => exact ih harrived hlater
    | some next =>
      obtain ⟨envelope, queue⟩ := next
      obtain ⟨hfirst, hrest⟩ := harrived.take htake
      have hhandled := hrest.dispatch round.circumstances hfirst
      simp only [Option.map_some]
      split
      next => exact (ih hhandled.gateway hlater).after hhandled.handed
      next => exact hhandled

/-- So a whole run hands over only what fits a frame, if all that arrives was read of one. -/
theorem Legible.run (h : gateway.Legible) (opening : Circumstances) {rounds : List Round}
    (hread : ArriveRead rounds) (closing : Circumstances) :
    (gateway.run opening rounds closing).progress.Legible := by
  have hbegun : (gateway.bootstrap opening).1.Legible :=
    (legible_start h).stepUplink rfl Uplink.connect_speaks
      fun _ hin => (Option.not_mem_none _ hin).elim
  have hserved := (hbegun.gateway.serve hread).after hbegun.handed
  have hclosed {outcome : Outcome} (h : outcome.progress.Legible) :
      (outcome.closeOnError closing).progress.Legible := by
    unfold Outcome.closeOnError
    split
    · exact h.shutDownAll closing
    · exact h
  unfold Gateway.run
  simp only
  split
  · exact hclosed hbegun
  · exact hclosed hserved

/-- If what is configured has room in frames and every message that arrives was read of
one, there is a frame for every message that is handed to a broker link, from the
beginning of a run to its end. -/
theorem run_hands_frames {config : Config} (hcreate : create config = .ok gateway)
    (hconfig : config.FitsFields) (opening : Circumstances) {rounds : List Round}
    (hread : ArriveRead rounds) (closing : Circumstances) :
    ∀ message ∈ (gateway.run opening rounds closing).progress.handed,
      ∃ frame, message.encode = .ok frame := by
  have hlegible : gateway.Legible := legible_create hcreate hconfig
  intro message hin
  exact (hlegible.run opening hread closing).handed message hin

/-- A device wants to be connected. Its CONNECT was read of the frame
`[7, 4, 0, 1, 0, 60, 100]`. -/
def connectDevice (device : Address) : List Round :=
  [⟨[⟨some device, .sensor (.connect
    { flags := {}, protocolId := 1, duration := 60, clientId := "d" }) "udp:20000"⟩], ⟨0, {}⟩⟩]

/-- The gateway asks the broker to connect it, and then to connect the device. -/
theorem run_hands_frames_connectDevice :
    ∃ gateway, ∃ device : Address, create {} = .ok gateway ∧
      let handed := (gateway.run ⟨0, {}⟩ (connectDevice device) ⟨1, {}⟩).progress.handed
      handed.length = 2 ∧ ∀ message ∈ handed, ∃ frame, message.encode = .ok frame := by
  let gateway : Gateway :=
    { config := {}, uplink := {}, sessions := [], timers := .none, queue := .empty }
  let device : Address := .plain ⟨.v4 10 0 0 7, 1234, 0⟩
  have hcreate : create {} = .ok gateway := rfl
  have hconfig : Config.FitsFields {} :=
    ⟨by decide, fun hflag => Bool.noConfusion hflag, fun _ hin => (List.not_mem_nil hin).elim⟩
  have hread : ArriveRead (connectDevice device) := by
    intro round hround envelope henvelope
    cases List.mem_singleton.mp hround
    cases List.mem_singleton.mp henvelope
    exact ⟨[7, 4, 0, 1, 0, 60, 100], by decide +kernel⟩
  exact ⟨gateway, device, hcreate, by decide +kernel,
    run_hands_frames hcreate hconfig ⟨0, {}⟩ hread ⟨1, {}⟩⟩

/-! ### Names without room -/

/-- A gateway that can open its broker link begins with its own CONNECT. -/
theorem bootstrap_hands_connect (opening : Circumstances)
    (hopens : (gateway.uplinkContext opening).line.openFailure = none) :
    .connect (Uplink.brokerConnect gateway.config) ∈ (gateway.bootstrap opening).1.handed := by
  let context := gateway.uplinkContext opening
  let asks : Broker.Message := .connect (Uplink.brokerConnect context.config)
  let opened := ((Uplink.Transition.start gateway.uplink).openBroker context).2
  have hnone : ((Uplink.Transition.start gateway.uplink).openBroker context).1 = none := by
    unfold Uplink.Transition.openBroker
    simp only
    split
    · rfl
    · exact hopens
  have hopened : (Uplink.Transition.start gateway.uplink).openBroker context = (none, opened) :=
    Prod.ext hnone rfl
  have hsent : asks ∈ (opened.sendBroker context asks).2.effects.filterMap (·.handed?) :=
    List.mem_filterMap.mpr ⟨_, List.mem_append_right _ (List.mem_singleton_self _), rfl⟩
  unfold bootstrap
  rw [Progress.handed_stepUplink]
  refine List.mem_append_right _ ?_
  change asks ∈ (gateway.uplink.connect context).1.effects.filterMap (·.handed?)
  unfold Uplink.connect
  rw [hopened]
  simp only
  rcases hresult : opened.sendBroker context asks with ⟨result, sent⟩
  rw [hresult] at hsent
  cases result with
  | ok frame => exact hsent
  | error error =>
    obtain ⟨effect, heffect, hsome⟩ := List.mem_filterMap.mp hsent
    exact List.mem_filterMap.mpr ⟨effect, List.mem_append_left _ heffect, hsome⟩

/-- What was handed to a broker link as a run began was handed to it in the run. -/
theorem handed_bootstrap_subset (opening : Circumstances) (rounds : List Round)
    (closing : Circumstances) :
    (gateway.bootstrap opening).1.handed ⊆
      (gateway.run opening rounds closing).progress.handed := by
  have hclosed (outcome : Outcome) :
      outcome.progress.handed ⊆ (outcome.closeOnError closing).progress.handed := by
    unfold Outcome.closeOnError
    split
    · change _ ⊆ (shutDownAll closing outcome.progress).handed
      rw [shutDownAll_eq, Progress.handed_after]
      exact List.subset_append_left _ _
    · exact List.Subset.refl _
  unfold Gateway.run
  simp only
  refine List.Subset.trans ?_ (hclosed _)
  split
  · exact List.Subset.refl _
  · change _ ⊆ (Progress.after _ _).handed
    rw [Progress.handed_after]
    exact List.subset_append_left _ _

def longName (length : Nat) : String := String.ofList (List.replicate length 'a')

theorem utf8ByteSize_longName (length : Nat) : (longName length).utf8ByteSize = length := by
  unfold longName
  rw [String.utf8ByteSize_ofList]
  induction length with
  | zero => rfl
  | succ length ih =>
    rw [List.replicate_succ, String.utf8Len_cons, ih]
    rfl

/-- So the name of the protocol has to have room, as it is part of the first message. -/
theorem hasRoom_protocolName_of_run {opening closing : Circumstances} {rounds : List Round}
    (hopens : (gateway.uplinkContext opening).line.openFailure = none)
    (hframes : ∀ message ∈ (gateway.run opening rounds closing).progress.handed,
      ∃ frame, message.encode = .ok frame) : HasRoom gateway.config.connect.protocolName := by
  have hhanded := handed_bootstrap_subset opening rounds closing
    (gateway.bootstrap_hands_connect opening hopens)
  obtain ⟨hfields, -⟩ := Broker.Message.encode_isOk_iff.mp (hframes _ hhanded)
  have hname := hfields (Text.bytes gateway.config.connect.protocolName) List.mem_cons_self
  rw [Text.length_bytes] at hname
  exact hname

/-- No configuration is refused for a name without room, for which there is no frame. -/
theorem not_all_handed_frames :
    ¬ ∀ (config : Config) (gateway : Gateway) (opening : Circumstances) (rounds : List Round)
      (closing : Circumstances), create config = .ok gateway → ArriveRead rounds →
        ∀ message ∈ (gateway.run opening rounds closing).progress.handed,
          ∃ frame, message.encode = .ok frame := by
  intro hall
  let config : Config := { connect := { protocolName := longName 65536 } }
  let gateway : Gateway :=
    { config, uplink := {}, sessions := [], timers := .none, queue := .empty }
  have hcreate : create config = .ok gateway := rfl
  have hnone : ArriveRead [] := fun _ hin => (List.not_mem_nil hin).elim
  have hroom : HasRoom gateway.config.connect.protocolName :=
    hasRoom_protocolName_of_run rfl (hall config gateway ⟨0, {}⟩ [] ⟨1, {}⟩ hcreate hnone)
  have hlong : gateway.config.connect.protocolName = longName 65536 := rfl
  rw [hlong, HasRoom, utf8ByteSize_longName] at hroom
  exact absurd hroom (by decide)

end Gateway

end SensorGateway
