import SensorGateway.Proofs.Config.Validation
import SensorGateway.Proofs.Gateway.Journal
import SensorGateway.Proofs.Session.References

/-!
What devices want of the gateway itself. A device that is not connected may search for a
gateway and publish at level minus one. Both come to the session of the device like any other
message, and the session passes them on: it puts them on the queue once more, for the gateway.
On this second way nothing is lost, nothing comes twice and nothing overtakes anything, since
messages are a queue of their own behind the signals; the session only learns that its device
is there. What the gateway then does depends on its own state and on the configuration alone.
-/

namespace SensorGateway

def Envelope.isForUplink (config : Config) (envelope : Envelope) : Bool :=
  match envelope.payload, envelope.address with
  | .sensor .., some owner => owner.same config.gatewayAddress
  | _, _ => false

/-- Whether the gateway publishes for a device under this topic. It knows the topics of its
configuration and the short ones. -/
def Config.Relays (config : Config) (publication : Sensor.Publish) (topic : String) : Prop :=
  match publication.flags.topicIdType with
  | .normal => False
  | .predefined => ⟨publication.topicId, topic⟩ ∈ config.predefinedTopics
  | .short => topic = Topic.shortName publication.topicId

theorem Config.Valid.topic?_eq_some {config : Config} (h : config.Valid)
    {publication : Sensor.Publish} {topic : String} :
    Uplink.Transition.topic? config publication.flags.topicIdType publication.topicId =
      some topic ↔ config.Relays publication topic := by
  unfold Uplink.Transition.topic? Config.Relays
  cases publication.flags.topicIdType with
  | normal => exact ⟨nofun, False.elim⟩
  | predefined => exact h.resolve?_predefined
  | short => exact Option.some_inj.trans eq_comm

namespace Uplink

variable {context : Context} {uplink : Uplink} {publication : Sensor.Publish} {topic : String}

/-- What is published for a device, if the broker link takes it. -/
theorem events_relayed (hlevel : publication.flags.qos = .minusOne)
    (hconnected : uplink.connected = true)
    (htopic : Transition.topic? context.config publication.flags.topicIdType
      publication.topicId = some topic)
    (hok : (uplink.onSensor context (.publish publication)).2 = .ok ()) :
    ∃ frame stillOpen, (uplink.onSensor context (.publish publication)).1.events =
      [.broker context.config.gatewayAddress
        (.sending true (.publish (relayed publication topic)) (.ok frame) stillOpen)] := by
  rw [onSensor_of_topic hlevel hconnected htopic] at hok ⊢
  cases hsend : (context.line.send uplink.brokerOpen (.publish (relayed publication topic))).1 with
  | error error =>
    rw [Transition.forward_of_lost hsend] at hok
    cases hok
  | ok frame =>
    rw [Transition.forward_of_taken hsend]
    refine ⟨frame, (context.line.send uplink.brokerOpen
      (.publish (relayed publication topic))).2, ?_⟩
    rw [← hsend, ← Broker.Line.open_of_taken hsend]
    rfl

/-- Without a connection, or without a topic, nothing is published. -/
theorem events_not_relayed (hlevel : publication.flags.qos = .minusOne)
    (hnone : ∀ topic, ¬ (uplink.connected = true ∧
      Transition.topic? context.config publication.flags.topicIdType publication.topicId =
        some topic)) :
    (uplink.onSensor context (.publish publication)).1.events = [] := by
  cases htopic : Transition.topic? context.config publication.flags.topicIdType
      publication.topicId with
  | none =>
    rw [onSensor_of_no_topic htopic]
    rfl
  | some topic =>
    have hlost : ¬ (Transition.start uplink).uplink.connected = true :=
      fun hconnected => hnone topic ⟨hconnected, htopic⟩
    have hnothing : uplink.onSensor context (.publish publication) =
        (Transition.start uplink, .ok ()) := (if_pos hlevel).trans (if_neg hlost)
    rw [hnothing]
    rfl

/-- A search is answered on every device link. -/
theorem events_searched (radius : UInt8) :
    (uplink.onSensor context (.searchGateway radius)).1.events =
      uplink.links.map fun link =>
        .broadcast link radius (.gatewayInfo context.config.gatewayId [])
          (context.network.broadcast link (.gatewayInfo context.config.gatewayId [])) := by
  simp only [onSensor, Transition.broadcast_eq, Transition.events, Transition.start,
    List.nil_append, List.filterMap_map]
  rw [← List.filterMap_eq_map]
  rfl

end Uplink

namespace Gateway

variable {config : Config} {gateway first last : Gateway} {handling : Handling}
variable {entries : List Gateway.Entry} {address : Address} {message : Sensor.Message}

/-! ### One envelope -/

/-- A gateway that has heard a device over a link. Of its session it notes that the device is
there and how it is to be reached; a device that was never heard gets a session. -/
def hearing (circumstances : Circumstances) (address : Address) (link : LinkName)
    (gateway : Gateway) : Gateway :=
  let context := gateway.sessionContext circumstances address
  match gateway.session? address with
  | some session =>
      gateway.setSession
        { session with
          address := session.address.refresh address
          deadline := context.deadline
          link := some link }
  | none => gateway.addSession { Session.fresh context address with link := some link }

/-- A session that has just been added is put in the place of itself only. -/
theorem setSession_addSession {fresh session : Session}
    (hnone : gateway.session? fresh.address = none) (hsame : session.address = fresh.address) :
    (gateway.addSession fresh).setSession session = gateway.addSession session := by
  have hothers : (gateway.sessions.map fun other =>
      if other.address.same session.address then session else other) = gateway.sessions := by
    conv_rhs => rw [← List.map_id gateway.sessions]
    refine List.map_congr_left fun other hin => if_neg ?_
    rw [hsame]
    exact List.find?_eq_none.mp hnone other hin
  have hself : fresh.address.same session.address = true := hsame ▸ Address.same_self _
  unfold addSession setSession
  simp only [List.map_append, hothers, List.map_cons, List.map_nil, hself, if_true]

/-- A session passes on what is for the gateway, and does nothing else. -/
theorem dispatch_of_isForGateway (hforeign : gateway.isOwn address = false)
    (hgateway : message.isForGateway = true) (circumstances : Circumstances) (link : LinkName) :
    (gateway.dispatch circumstances ⟨some address, .sensor message link⟩).progress =
      ⟨(gateway.hearing circumstances address link).put
        ⟨some gateway.config.gatewayAddress, .sensor message link⟩, []⟩ := by
  change (gateway.dispatchSensor circumstances address message link).progress = _
  unfold dispatchSensor hearing
  simp only [hforeign, Bool.false_eq_true, if_false]
  cases hfound : gateway.session? address with
  | some session =>
    simp only [Session.onSensor, Session.Transition.sensor_of_isForGateway hgateway]
    rfl
  | none =>
    simp only [Session.onSensor, Session.Transition.sensor_of_isForGateway hgateway]
    let fresh := Session.fresh (gateway.sessionContext circumstances address) address
    let heard : Session := { fresh with link := some link }
    have hset : (gateway.addSession fresh).setSession heard = gateway.addSession heard :=
      setSession_addSession hfound rfl
    change _ = (⟨(gateway.addSession heard).put _, []⟩ : Progress)
    rw [← hset]
    rfl

/-- What the uplink does with a message for the gateway is all that happens. -/
theorem dispatch_own_sensor (hown : gateway.isOwn address = true) (circumstances : Circumstances)
    (message : Sensor.Message) (link : LinkName) :
    let outcome := gateway.dispatch circumstances ⟨some address, .sensor message link⟩
    let step := gateway.uplink.onSensor (gateway.uplinkContext circumstances) message
    outcome.progress.events = step.1.events ∧
      (∀ flow, outcome.result = .ok flow → step.2 = .ok ()) := by
  intro outcome step
  have houtcome : outcome = .ofUplink ((Progress.start gateway).stepUplink
      (gateway.uplinkContext circumstances) fun context => Uplink.onSensor context message) :=
    if_pos hown
  rw [houtcome]
  refine ⟨?_, fun flow hok => ?_⟩
  · unfold Outcome.ofUplink Progress.stepUplink
    simp only
    rw [Progress.performUplink_events]
    rfl
  · obtain ⟨value, hvalue, -⟩ := Except.map_eq_ok.mp hok
    exact hvalue

/-! ### From the queue to the queue and back -/

/-- The message for the gateway that was put on the queue: a session passed it on, or it was
for the gateway from the beginning. -/
def Entry.passedOn? (config : Config) : Entry → Option Envelope
  | .arrived envelope => if envelope.isForUplink config then some envelope else none
  | .handled _ handling => handling.envelope.readdressed? config

/-- An envelope puts no other message for the gateway on the queue than the one that it is. -/
theorem filter_puts (handling : Handling) :
    (gateway.puts handling).filter (·.isForUplink gateway.config) =
      (handling.envelope.readdressed? gateway.config).toList := by
  cases hreaddressed : handling.envelope.readdressed? gateway.config with
  | some readdressed =>
    obtain ⟨address, message, link, -, -, -, rfl⟩ := Envelope.readdressed?_eq_some.mp hreaddressed
    rw [puts_of_readdressed? hreaddressed]
    exact List.filter_cons_of_pos (Address.same_self _)
  | none =>
    unfold puts
    rw [hreaddressed]
    cases hturn : handling.uplinkTurn? gateway.config with
    | none =>
      rw [told_of_none hturn]
      rfl
    | some turn =>
      rw [told_of_some hturn, Uplink.envelopes_take]
      split <;> rfl

/-- What was passed on is what the gateway took from the queue for itself. -/
theorem Works.passedOn (h : Works first entries last) (htidy : first.Tidy config)
    (hfirst : first.queue.isEmpty = true) (hlast : last.queue.isEmpty = true) :
    entries.filterMap (·.passedOn? config) =
      (entries.filterMap (·.taken?)).filter (·.isForUplink config) := by
  have hkeeps (envelope : Envelope) (hkept : envelope.isForUplink config = true) :
      envelope.isSignal = false := by
    obtain ⟨address, payload⟩ := envelope
    cases payload with
    | signal signal => cases address <;> cases hkept
    | _ => rfl
  have hmessages := h.messages hkeeps
  rw [Queue.isEmpty_eq, List.isEmpty_iff] at hfirst hlast
  rw [hfirst, hlast, List.filter_nil, List.nil_append, List.append_nil] at hmessages
  rw [← hmessages, List.filter_flatMap, List.filterMap_eq_flatMap_toList]
  refine List.flatMap_congr fun entry hin => ?_
  cases entry with
  | arrived envelope =>
    simp only [Entry.passedOn?, Entry.puts, List.filter_singleton]
    cases envelope.isForUplink config <;> rfl
  | handled before handling =>
    obtain rfl := (h.tidy_of_mem htidy hin).config
    exact (filter_puts handling).symm

/-- Whatever devices want of the gateway itself, nothing of it is lost or done twice. In a run
that ends with nothing left to handle and does not fail, what was passed on to the gateway is
what it took from the queue for itself, in the same order. A session passes a message on once
and notes that its device was heard; nothing happens on any link. For a publication the gateway
publishes once if it is connected and knows the topic, and does nothing otherwise; a search is
answered once on every device link, whatever becomes of it on the others. -/
theorem relays_reach_gateway (hcreate : create config = .ok gateway)
    (opening closing : Circumstances) (rounds : List Round) {flow : Flow}
    (hends : (gateway.run opening rounds closing).result = .ok flow)
    (hempty : (gateway.run opening rounds closing).progress.gateway.queue.isEmpty = true) :
    let entries := gateway.journalIn opening rounds
    entries.filterMap (·.passedOn? config) =
        (entries.filterMap (·.taken?)).filter (·.isForUplink config) ∧
      ∀ before circumstances envelope, .handled before ⟨circumstances, envelope⟩ ∈ entries →
        let after := (before.dispatch circumstances envelope).progress
        (∃ puts : List Envelope, after.gateway.queue = puts.foldl Queue.put before.queue ∧
          puts.filter (·.isForUplink config) = (envelope.readdressed? config).toList) ∧
        (∀ address message link, envelope = ⟨some address, .sensor message link⟩ →
          address.same config.gatewayAddress = false → message.isForGateway = true →
          after = ⟨(before.hearing circumstances address link).put
            ⟨some config.gatewayAddress, .sensor message link⟩, []⟩) ∧
        (∀ owner publication link,
          envelope = ⟨some owner, .sensor (.publish publication) link⟩ →
          owner.same config.gatewayAddress = true → publication.flags.qos = .minusOne →
          (∀ topic, before.uplink.connected = true ∧ config.Relays publication topic →
            ∃ frame stillOpen, after.events = [.broker config.gatewayAddress (.sending true
              (.publish (Uplink.relayed publication topic)) (.ok frame) stillOpen)]) ∧
          ((∀ topic, ¬ (before.uplink.connected = true ∧ config.Relays publication topic)) →
            after.events = [])) ∧
        ∀ owner radius link, envelope = ⟨some owner, .sensor (.searchGateway radius) link⟩ →
          owner.same config.gatewayAddress = true →
          after.events = before.uplink.links.map fun link =>
            .broadcast link radius (.gatewayInfo config.gatewayId [])
              (circumstances.network.broadcast link (.gatewayInfo config.gatewayId [])) := by
  intro entries
  obtain ⟨hjournal, hserved, hprogress⟩ := journalIn_of_ok hends
  have htidy := tidy_bootstrap hcreate opening
  have hworks := works_journal rounds (gateway.bootstrap opening).1.gateway
  rw [← hjournal] at hworks
  rw [hprogress] at hempty
  have hbegun : (gateway.bootstrap opening).1.gateway.queue.isEmpty = true := by
    rw [World.queue_bootstrap, World.queue_create hcreate]
    rfl
  refine ⟨hworks.passedOn htidy hbegun hempty, ?_⟩
  intro before circumstances envelope hin after
  obtain rfl := (hworks.tidy_of_mem htidy hin).config
  have hvalid : before.config.Valid := valid_of_create hcreate
  have hserving : .handled before ⟨circumstances, envelope⟩ ∈
      (gateway.bootstrap opening).1.gateway.journal rounds := by
    rw [← hjournal]
    exact hin
  obtain ⟨flow, hok⟩ := result_of_mem_journal rounds _ hserved hserving
  refine ⟨?_, ?_, ?_, ?_⟩
  · exact ⟨before.puts ⟨circumstances, envelope⟩,
      (advances_dispatch before ⟨circumstances, envelope⟩).queue, filter_puts _⟩
  · rintro address message link rfl hforeign hgateway
    exact dispatch_of_isForGateway hforeign hgateway circumstances link
  · rintro owner publication link rfl hown hlevel
    obtain ⟨hevents, hresult⟩ := dispatch_own_sensor hown circumstances (.publish publication) link
    simp only [after, hevents]
    constructor
    · rintro topic ⟨hconnected, htopic⟩
      exact Uplink.events_relayed hlevel hconnected (hvalid.topic?_eq_some.mpr htopic)
        (hresult flow hok)
    · intro hnone
      refine Uplink.events_not_relayed hlevel fun topic hrelays => hnone topic ?_
      exact ⟨hrelays.1, hvalid.topic?_eq_some.mp hrelays.2⟩
  · rintro owner radius link rfl hown
    obtain ⟨hevents, -⟩ := dispatch_own_sensor hown circumstances (.searchGateway radius) link
    exact hevents.trans (Uplink.events_searched radius)

def alarmConfig : Config := { predefinedTopics := [⟨1, "alarm"⟩] }

def alarmGateway : Gateway :=
  { config := alarmConfig, uplink := {}, sessions := [], timers := .none, queue := .empty }

/-- What a device publishes that never connects. -/
def alarm : Sensor.Message :=
  .publish ⟨{ qos := .minusOne, topicIdType := .predefined }, 1, 0, [7]⟩

def alarming (device : Address) : List Round :=
  [⟨[⟨some alarmConfig.gatewayAddress, .broker (.connack Broker.Message.accepted)⟩], ⟨0, {}⟩⟩,
    ⟨[⟨some device, .sensor alarm "udp:20000"⟩,
      ⟨some device, .sensor (.searchGateway 2) "udp:20000"⟩], ⟨1, {}⟩⟩] ++
    List.replicate 3 ⟨[], ⟨2, {}⟩⟩

/-- Both come to the gateway, once and in this order. The alarm goes to the broker, the search
is answered. -/
theorem relays_reach_gateway_alarming :
    ∃ gateway, create alarmConfig = .ok gateway ∧
      let entries := gateway.journalIn ⟨0, {}⟩ (alarming meter)
      let relayed : Envelope := ⟨some alarmConfig.gatewayAddress, .sensor alarm "udp:20000"⟩
      let search : Envelope :=
        ⟨some alarmConfig.gatewayAddress, .sensor (.searchGateway 2) "udp:20000"⟩
      (entries.filterMap (·.taken?)).filter (·.isForUplink alarmConfig) = [relayed, search] ∧
      (∃ before frame stillOpen, .handled before ⟨⟨2, {}⟩, relayed⟩ ∈ entries ∧
        (before.dispatch ⟨2, {}⟩ relayed).progress.events =
          [.broker alarmConfig.gatewayAddress (.sending true
            (.publish ⟨false, 0, false, "alarm", 0, [7]⟩) (.ok frame) stillOpen)]) ∧
      ∃ before frame, .handled before ⟨⟨2, {}⟩, search⟩ ∈ entries ∧
        (before.dispatch ⟨2, {}⟩ search).progress.events =
          [.broadcast "udp:20000" 2 (.gatewayInfo 1 []) (.ok frame)] := by
  have hcreate : create alarmConfig = .ok alarmGateway := by
    unfold create
    rw [show alarmConfig.validate = .ok () by decide]
    rfl
  have hends : (alarmGateway.run ⟨0, {}⟩ (alarming meter) ⟨3, {}⟩).result = .ok .continue := by
    decide +kernel
  have hempty :
      (alarmGateway.run ⟨0, {}⟩ (alarming meter) ⟨3, {}⟩).progress.gateway.queue.isEmpty =
        true := by
    decide +kernel
  obtain ⟨hpassed, hdoes⟩ :=
    relays_reach_gateway hcreate ⟨0, {}⟩ ⟨3, {}⟩ (alarming meter) hends hempty
  refine ⟨alarmGateway, hcreate, hpassed.symm.trans (by decide +kernel), ?_, ?_⟩
  · obtain ⟨before, hentry, hconnected⟩ : ∃ before : Gateway,
        (alarmGateway.journalIn ⟨0, {}⟩ (alarming meter))[6]? = some (.handled before
          ⟨⟨2, {}⟩, ⟨some alarmConfig.gatewayAddress, .sensor alarm "udp:20000"⟩⟩) ∧
        before.uplink.connected = true := ⟨_, rfl, rfl⟩
    have hin := List.mem_of_getElem? hentry
    obtain ⟨-, -, hpublishes, -⟩ := hdoes _ _ _ hin
    obtain ⟨hforwards, -⟩ := hpublishes _ _ _ rfl rfl rfl
    obtain ⟨frame, stillOpen, hevents⟩ :=
      hforwards "alarm" ⟨hconnected, List.mem_singleton_self _⟩
    exact ⟨before, frame, stillOpen, hin, hevents⟩
  · obtain ⟨before, hentry, hlinks⟩ : ∃ before : Gateway,
        (alarmGateway.journalIn ⟨0, {}⟩ (alarming meter))[7]? = some (.handled before
          ⟨⟨2, {}⟩, ⟨some alarmConfig.gatewayAddress, .sensor (.searchGateway 2) "udp:20000"⟩⟩) ∧
        before.uplink.links = ["udp:20000"] := ⟨_, rfl, rfl⟩
    have hin := List.mem_of_getElem? hentry
    obtain ⟨-, -, -, hanswers⟩ := hdoes _ _ _ hin
    have hevents := hanswers _ _ _ rfl rfl
    rw [hlinks] at hevents
    exact ⟨before, _, hin, hevents⟩

end Gateway

end SensorGateway
