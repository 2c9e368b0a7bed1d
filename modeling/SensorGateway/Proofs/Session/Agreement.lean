import SensorGateway.Proofs.Session.Ledger

/-!
A session and its ledger take the same steps. `Session.ledger` reads off from the
phase of a session which marks are set and what is kept. There is one lemma for
every handler, which says that the handler of the ledger leads to the ledger of
what the handler of the session leads to; `ledger_run` puts them together.
-/

namespace SensorGateway.Session

def Registration.register (registration : Registration) : Sensor.Register :=
  ⟨registration.topicId, registration.msgId, registration.publication.topic⟩

def Phase.kept : Phase → Kept
  | idle | awaitingConnack => {}
  | awaitingWillTopic request _ => { connect := some request }
  | awaitingWillMessage request will _ => { connect := some request, willTopic := some will }
  | connected exchanges =>
      { register := exchanges.registration.map (·.register)
        brokerPublish := exchanges.registration.map (·.publication)
        publish := exchanges.publish
        subscribe := exchanges.subscribe
        unsubscribe := exchanges.unsubscribe }

/-- The ledger of a session: what it shows of itself. -/
def ledger (session : Session) : Ledger where
  address := session.address
  clientId := session.clientId
  link := session.link
  brokerOpen := session.brokerOpen
  topics := session.topics
  state := session.state
  marks :=
    { willTopic := session.awaits .willTopic
      willMessage := session.awaits .willMessage
      connack := session.awaits .connack
      regack := session.awaits .regack
      suback := session.awaits .suback
      unsuback := session.awaits .unsuback
      puback := session.awaits .puback
      willTopicTries := session.tries .willTopic
      willMessageTries := session.tries .willMessage
      registerTries := session.tries .regack }
  kept := session.phase.kept
  deadline := session.deadline
  nextMsgId := session.nextMsgId

namespace Transition

def ledger (transition : Transition) : Ledger.Transition :=
  ⟨transition.session.ledger, transition.effects, []⟩

variable (t : Transition)

theorem ledger_toDevice (message : Sensor.Message) :
    t.ledger.toDevice message = (t.toDevice message).ledger := by
  obtain ⟨⟨_, _, link, _, _, _, _, _, _⟩, _⟩ := t
  cases link <;> rfl

theorem ledger_emit (effect : Effect) : t.ledger.emit effect = (t.emit effect).ledger := rfl

theorem ledger_openBroker (line : Broker.Line) :
    t.ledger.openBroker line = ((t.openBroker line).1, (t.openBroker line).2.ledger) := rfl

theorem ledger_sendBroker (line : Broker.Line) (message : Broker.Message) :
    t.ledger.sendBroker line message =
      ((t.sendBroker line message).1, (t.sendBroker line message).2.ledger) := rfl

theorem ledger_tearDown : t.ledger.tearDown = t.tearDown.ledger := by
  obtain ⟨⟨_, _, link, _, _, phase, _, _, _⟩, _⟩ := t
  cases link <;> rfl

theorem ledger_connectionLost : t.ledger.connectionLost = t.connectionLost.ledger := by
  have hdown := ledger_tearDown t
  obtain ⟨⟨_, _, link, _, _, phase, tornDown, _, _⟩, _⟩ := t
  cases phase with
  | idle => cases tornDown <;> rfl
  | awaitingWillTopic request tries => cases tornDown <;> exact hdown
  | awaitingWillMessage request will tries => cases tornDown <;> exact hdown
  | awaitingConnack => cases tornDown <;> exact hdown
  | connected exchanges => exact hdown

theorem ledger_forward (line : Broker.Line) (message : Broker.Message) :
    t.ledger.forward line message =
      ((t.forward line message).1, (t.forward line message).2.ledger) := by
  unfold Ledger.Transition.forward forward
  rw [ledger_sendBroker]
  rcases t.sendBroker line message with ⟨taken, next⟩
  cases taken with
  | true => rfl
  | false => simp only [ledger_connectionLost]

/-- What is done for a connected device only. -/
theorem ledger_whenConnected (step : Exchanges → Transition → Transition)
    (ledgerStep : Ledger.Transition → Ledger.Transition)
    (h : ∀ exchanges, t.session.phase = .connected exchanges →
      ledgerStep t.ledger = (step exchanges t).ledger) :
    t.ledger.whenConnected ledgerStep = (t.whenConnected step).ledger := by
  have hrefuse := ledger_toDevice t (.disconnect none)
  obtain ⟨⟨_, _, _, _, _, phase, tornDown, _, _⟩, _⟩ := t
  cases phase with
  | connected exchanges => exact h exchanges rfl
  | idle => cases tornDown <;> exact hrefuse
  | awaitingWillTopic request tries => cases tornDown <;> exact hrefuse
  | awaitingWillMessage request will tries => cases tornDown <;> exact hrefuse
  | awaitingConnack => cases tornDown <;> exact hrefuse

theorem ledger_relay (context : Context) (message : Broker.Message) :
    t.ledger.relay context message = (t.relay context message).ledger := by
  unfold Ledger.Transition.relay relay
  apply ledger_whenConnected
  intro exchanges _
  simp only [ledger_forward]

/-- Only the mark for the answer of the broker tells the two phases apart. -/
theorem ledger_enter_awaitingConnack (h : t.session.phase = .idle) :
    (t.ledger.mark fun marks => { marks with connack := true }) =
      (t.enter .awaitingConnack).ledger := by
  obtain ⟨⟨_, _, _, _, _, phase, tornDown, _, _⟩, _⟩ := t
  change phase = .idle at h
  subst h
  cases tornDown <;> rfl

theorem ledger_connectBroker (context : Context) (request : Sensor.Connect)
    (will : Option Broker.Will) (h : t.session.phase = .idle) :
    t.ledger.connectBroker context request will =
      (t.connectBroker context request will).ledger := by
  have henter : t.enter .idle = t := by
    obtain ⟨⟨_, _, _, _, _, phase, _, _, _⟩, _⟩ := t
    change phase = .idle at h
    subst h
    rfl
  let connect : Broker.Message := .connect (brokerConnect context request will)
  have hphase : ((t.openBroker context.line).2.sendBroker context.line connect).2.session.phase =
      .idle := h
  unfold Ledger.Transition.connectBroker connectBroker
  rw [ledger_openBroker, henter]
  rcases hopen : t.openBroker context.line with ⟨isOpen, opened⟩
  rw [hopen] at hphase
  cases isOpen with
  | false => rfl
  | true =>
    rcases hsend : opened.sendBroker context.line connect with ⟨taken, sent⟩
    rw [hsend] at hphase
    simp only [connect] at hsend
    simp only [ledger_sendBroker, hsend]
    cases taken with
    | false => rfl
    | true => exact ledger_enter_awaitingConnack sent hphase

theorem ledger_establish (context : Context) (request : Sensor.Connect)
    (h : t.session.phase = .idle) :
    (if request.flags.will then
        (t.ledger.keep fun kept => { kept with connect := some request })
          |>.toDevice .willTopicRequest
          |>.mark (fun marks => { marks with willTopic := true, willTopicTries := 1 })
          |>.emit (.arm .willTopicTimeout)
      else t.ledger.connectBroker context request none) =
      (t.establish context request).ledger := by
  unfold establish
  split
  · obtain ⟨⟨_, _, link, _, _, _, _, _, _⟩, _⟩ := t
    cases h
    cases link <;> rfl
  · exact ledger_connectBroker t context request none h

/-- A ledger gets on with a CONNECT as its session does. -/
theorem ledger_connect (context : Context) (request : Sensor.Connect) :
    t.ledger.connect context request = (t.connect context request).ledger := by
  obtain ⟨⟨address, _, link, isOpen, topics, phase, tornDown, deadline, nextMsgId⟩, effects⟩ := t
  cases phase with
  | connected exchanges => cases link <;> rfl
  | idle =>
    have h := ledger_establish
      ⟨⟨address, request.clientId, link, isOpen, topics, .idle, tornDown, deadline, nextMsgId⟩,
        effects⟩ context request rfl
    cases tornDown <;> exact h
  | awaitingConnack =>
    have h := ledger_establish
      (closeBroker
        ⟨⟨address, request.clientId, link, isOpen, topics, .idle, tornDown, deadline, nextMsgId⟩,
          effects⟩) context request rfl
    cases tornDown <;> exact h
  | awaitingWillTopic request tries => cases tornDown <;> rfl
  | awaitingWillMessage request will tries => cases tornDown <;> rfl

theorem ledger_willTopic (will : Sensor.WillTopic) :
    t.ledger.willTopic will = (t.willTopic will).ledger := by
  obtain ⟨⟨_, _, link, _, _, phase, _, _, _⟩, _⟩ := t
  cases phase with
  | awaitingWillTopic request tries => cases link <;> rfl
  | idle => rfl
  | awaitingWillMessage request will tries => rfl
  | awaitingConnack => rfl
  | connected exchanges => rfl

theorem ledger_willMessage (context : Context) (data : Bytes) :
    t.ledger.willMessage context data = (t.willMessage context data).ledger := by
  obtain ⟨⟨address, clientId, link, isOpen, topics, phase, tornDown, deadline, nextMsgId⟩,
    effects⟩ := t
  cases phase with
  | awaitingWillMessage request will tries =>
    exact ledger_connectBroker
      ⟨⟨address, clientId, link, isOpen, topics, .idle, tornDown, deadline, nextMsgId⟩,
        effects ++ [.disarm .willMessageTimeout]⟩ context request (brokerWill will data) rfl
  | idle => rfl
  | awaitingWillTopic request tries => rfl
  | awaitingConnack => rfl
  | connected exchanges => rfl

theorem ledger_register (registration : Sensor.Register) :
    t.ledger.register registration = (t.register registration).ledger :=
  ledger_toDevice (t.update fun session =>
    { session with topics := (t.session.topics.register registration.topic).2 }) _

variable {exchanges : Exchanges}

theorem ledger_endRegistration (h : t.session.phase = .connected exchanges) :
    t.ledger.endRegistration = (t.endRegistration exchanges).ledger := by
  obtain ⟨⟨_, _, _, _, _, phase, _, _, _⟩, _⟩ := t
  change phase = .connected exchanges at h
  subst h
  rfl

theorem ledger_regack (ack : Sensor.TopicAck) (h : t.session.phase = .connected exchanges) :
    t.ledger.regack ack = (t.regack exchanges ack).ledger := by
  have hend := ledger_endRegistration t h
  obtain ⟨⟨_, _, link, _, topics, phase, _, _, _⟩, _⟩ := t
  change phase = .connected exchanges at h
  subst h
  obtain ⟨registration, publish, subscribe, unsubscribe⟩ := exchanges
  cases registration with
  | none => rfl
  | some registration =>
    change (if ack.msgId ≠ registration.msgId then _ else _) =
      ledger (if ack.msgId ≠ registration.msgId then _ else _)
    split
    · rfl
    · split
      · exact hend
      · cases link <;> rfl

/-- A message that the link takes leaves the phase as it is. -/
theorem phase_of_forward {line : Broker.Line} {message : Broker.Message} {next : Transition}
    (h : t.forward line message = (true, next)) : next.session.phase = t.session.phase := by
  unfold forward at h
  rcases hsend : t.sendBroker line message with ⟨taken, sent⟩
  rw [hsend] at h
  cases taken with
  | false => cases h
  | true =>
    obtain rfl : sent = next := (Prod.mk.inj h).2
    exact (congrArg (·.2.session.phase) hsend).symm

/-- What follows once the broker has taken a message. -/
theorem ledger_forward_then (line : Broker.Line) (message : Broker.Message)
    (ledgerStep : Ledger.Transition → Ledger.Transition) (step : Transition → Transition)
    (h : ∀ next : Transition, next.session.phase = t.session.phase →
      ledgerStep next.ledger = (step next).ledger) :
    (match t.ledger.forward line message with
      | (false, next) => next
      | (true, next) => ledgerStep next) =
      ledger (match t.forward line message with
        | (false, next) => next
        | (true, next) => step next) := by
  rw [ledger_forward]
  rcases hforward : t.forward line message with ⟨taken, next⟩
  cases taken with
  | false => rfl
  | true => exact h next (phase_of_forward t hforward)

/-- The answers for which a connected device keeps something. -/
theorem marks_of_connected (h : t.session.phase = .connected exchanges) :
    t.ledger.ledger.marks =
      { regack := exchanges.registration.isSome
        suback := exchanges.subscribe.isSome
        unsuback := exchanges.unsubscribe.isSome
        puback := exchanges.publish.isSome
        registerTries := (exchanges.registration.map (·.tries)).getD 0 } := by
  obtain ⟨⟨_, _, _, _, _, phase, _, _, _⟩, _⟩ := t
  change phase = .connected exchanges at h
  subst h
  rfl

theorem ledger_topics : t.ledger.ledger.topics = t.session.topics := rfl

theorem ledger_publish (context : Context) (publication : Sensor.Publish)
    (h : t.session.phase = .connected exchanges) :
    t.ledger.publish context publication = (t.publish context exchanges publication).ledger := by
  simp only [Ledger.Transition.publish, publish, marks_of_connected t h, ledger_topics]
  split
  · rfl
  · cases t.session.topics.resolve? publication.flags.topicIdType publication.topicId with
    | none => exact ledger_toDevice t _
    | some topic =>
      by_cases hqos : publication.flags.qos = .atLeastOnce
      · simp only [hqos, if_true]
        apply ledger_forward_then
        intro next hphase
        obtain ⟨⟨_, _, _, _, _, phase, _, _, _⟩, _⟩ := next
        obtain rfl : phase = .connected exchanges := hphase.trans h
        rfl
      · simp only [hqos, if_false]
        exact ledger_forward_then t _ _ id id fun _ _ => rfl

theorem ledger_puback (context : Context) (ack : Sensor.TopicAck) :
    t.ledger.puback context ack = (t.puback context ack).ledger := by
  unfold Ledger.Transition.puback puback
  split
  · rfl
  · rw [ledger_forward]

theorem ledger_subscribe (context : Context) (request : Sensor.TopicRequest)
    (h : t.session.phase = .connected exchanges) :
    t.ledger.subscribe context request = (t.subscribe context exchanges request).ledger := by
  simp only [Ledger.Transition.subscribe, subscribe, marks_of_connected t h, ledger_topics]
  split
  · rfl
  · cases t.session.topics.resolveRef? request.topic with
    | none => exact ledger_toDevice t _
    | some name =>
      apply ledger_forward_then
      intro next hphase
      obtain ⟨⟨_, _, _, _, _, phase, _, _, _⟩, _⟩ := next
      obtain rfl : phase = .connected exchanges := hphase.trans h
      rfl

theorem ledger_unsubscribe (context : Context) (request : Sensor.TopicRequest)
    (h : t.session.phase = .connected exchanges) :
    t.ledger.unsubscribe context request = (t.unsubscribe context exchanges request).ledger := by
  simp only [Ledger.Transition.unsubscribe, unsubscribe, marks_of_connected t h, ledger_topics]
  split
  · rfl
  · cases t.session.topics.resolveRef? request.topic with
    | none => rfl
    | some name =>
      apply ledger_forward_then
      intro next hphase
      obtain ⟨⟨_, _, _, _, _, phase, _, _, _⟩, _⟩ := next
      obtain rfl : phase = .connected exchanges := hphase.trans h
      rfl

/-- A ledger shows whether anything is going on in its session. -/
theorem ledger_isBusy :
    (t.ledger.ledger.isConnected || t.ledger.ledger.marks.isEstablishing) =
      (t.session.phase.isConnected || t.session.phase.isEstablishing) := by
  obtain ⟨⟨_, _, _, _, _, phase, tornDown, _, _⟩, _⟩ := t
  cases phase with
  | connected exchanges => rfl
  | idle => cases tornDown <;> rfl
  | awaitingWillTopic request tries => cases tornDown <;> rfl
  | awaitingWillMessage request will tries => cases tornDown <;> rfl
  | awaitingConnack => cases tornDown <;> rfl

theorem ledger_leave (context : Context) :
    (if t.ledger.ledger.brokerOpen then
        (t.ledger.sendBroker context.line .disconnect).2.tearDown
      else t.ledger.tearDown) =
      ledger (if t.session.brokerOpen then (t.sendBroker context.line .disconnect).2.tearDown
        else t.tearDown) := by
  rw [ledger_sendBroker, ledger_tearDown, ledger_tearDown]
  exact (apply_ite ledger _ _ _).symm

theorem ledger_disconnect (context : Context) :
    t.ledger.disconnect context = (t.disconnect context).ledger := by
  have hleave := ledger_leave t context
  obtain ⟨⟨_, _, _, _, _, phase, tornDown, _, _⟩, _⟩ := t
  cases phase with
  | idle => cases tornDown <;> rfl
  | awaitingWillTopic request tries => cases tornDown <;> exact hleave
  | awaitingWillMessage request will tries => cases tornDown <;> exact hleave
  | awaitingConnack => cases tornDown <;> exact hleave
  | connected exchanges => exact hleave

theorem ledger_connack (code : UInt8) : t.ledger.connack code = (t.connack code).ledger := by
  obtain ⟨⟨_, _, link, _, _, phase, tornDown, _, _⟩, _⟩ := t
  cases phase with
  | awaitingConnack =>
    by_cases hcode : code = Broker.Message.accepted
    · subst hcode
      cases link <;> rfl
    · change (if code ≠ Broker.Message.accepted then _ else _) =
        ledger (if code = Broker.Message.accepted then _ else _)
      rw [if_pos hcode, if_neg hcode]
      cases link <;> rfl
  | idle => rfl
  | awaitingWillTopic request tries => rfl
  | awaitingWillMessage request will tries => rfl
  | connected exchanges => rfl

theorem ledger_offerTopic (publication : Broker.Publish)
    (h : t.session.phase = .connected exchanges) :
    t.ledger.offerTopic publication = (t.offerTopic exchanges publication).ledger := by
  simp only [Ledger.Transition.offerTopic, offerTopic, marks_of_connected t h, ledger_topics]
  split
  · rfl
  · rcases t.session.topics.allocate with ⟨id?, topics⟩
    cases id? with
    | none => rfl
    | some topicId =>
      obtain ⟨⟨_, _, link, _, _, phase, _, _, _⟩, _⟩ := t
      change phase = .connected exchanges at h
      subst h
      cases link <;> rfl

theorem ledger_deliver (context : Context) (publication : Broker.Publish)
    (h : t.session.phase = .connected exchanges) :
    t.ledger.deliver context publication = (t.deliver context exchanges publication).ledger := by
  simp only [Ledger.Transition.deliver, deliver, ledger_topics]
  split
  · rfl
  · split
    · rfl
    · cases t.session.topics.id? publication.topic with
      | some topicId => exact ledger_toDevice t _
      | none =>
        cases Topic.shortId? publication.topic with
        | some topicId => exact ledger_toDevice t _
        | none => exact ledger_offerTopic t publication h

theorem ledger_confirmPublish (msgId : UInt16) (h : t.session.phase = .connected exchanges) :
    t.ledger.confirmPublish msgId = (t.confirmPublish exchanges msgId).ledger := by
  obtain ⟨⟨_, _, link, _, _, phase, _, _, _⟩, _⟩ := t
  change phase = .connected exchanges at h
  subst h
  obtain ⟨registration, publish, subscribe, unsubscribe⟩ := exchanges
  cases publish with
  | none => rfl
  | some publication =>
    change (if publication.msgId ≠ msgId then _ else _) =
      ledger (if publication.msgId ≠ msgId then _ else _)
    split
    · rfl
    · cases link <;> rfl

theorem ledger_confirmSubscribe (msgId : UInt16) (granted : UInt8)
    (h : t.session.phase = .connected exchanges) :
    t.ledger.confirmSubscribe msgId granted =
      (t.confirmSubscribe exchanges msgId granted).ledger := by
  obtain ⟨⟨_, _, link, _, _, phase, _, _, _⟩, _⟩ := t
  change phase = .connected exchanges at h
  subst h
  obtain ⟨registration, publish, subscribe, unsubscribe⟩ := exchanges
  cases subscribe with
  | none => rfl
  | some request =>
    change (if request.msgId ≠ msgId then _ else _) =
      ledger (if request.msgId ≠ msgId then _ else _)
    split
    · rfl
    · cases link <;> rfl

theorem ledger_confirmUnsubscribe (msgId : UInt16) (h : t.session.phase = .connected exchanges) :
    t.ledger.confirmUnsubscribe msgId = (t.confirmUnsubscribe exchanges msgId).ledger := by
  obtain ⟨⟨_, _, link, _, _, phase, _, _, _⟩, _⟩ := t
  change phase = .connected exchanges at h
  subst h
  obtain ⟨registration, publish, subscribe, unsubscribe⟩ := exchanges
  cases unsubscribe with
  | none => rfl
  | some request =>
    change (if request.msgId ≠ msgId then _ else _) =
      ledger (if request.msgId ≠ msgId then _ else _)
    split
    · rfl
    · cases link <;> rfl

theorem ledger_willTopicTimeout (context : Context) :
    t.ledger.willTopicTimeout context = (t.willTopicTimeout context).ledger := by
  obtain ⟨⟨_, _, link, _, _, phase, tornDown, _, _⟩, _⟩ := t
  cases phase with
  | awaitingWillTopic request tries =>
    change (if tries.toNat > context.config.maxRetries then _ else _) =
      ledger (if tries.toNat > context.config.maxRetries then _ else _)
    split
    · rfl
    · cases link <;> rfl
  | idle => rfl
  | awaitingWillMessage request will tries => rfl
  | awaitingConnack => rfl
  | connected exchanges => rfl

theorem ledger_willMessageTimeout (context : Context) :
    t.ledger.willMessageTimeout context = (t.willMessageTimeout context).ledger := by
  obtain ⟨⟨_, _, link, _, _, phase, tornDown, _, _⟩, _⟩ := t
  cases phase with
  | awaitingWillMessage request will tries =>
    change (if tries.toNat > context.config.maxRetries then _ else _) =
      ledger (if tries.toNat > context.config.maxRetries then _ else _)
    split
    · rfl
    · cases link <;> rfl
  | idle => rfl
  | awaitingWillTopic request tries => rfl
  | awaitingConnack => rfl
  | connected exchanges => rfl

theorem ledger_regackTimeout (context : Context) :
    t.ledger.regackTimeout context = (t.regackTimeout context).ledger := by
  obtain ⟨⟨_, _, link, _, _, phase, tornDown, _, _⟩, _⟩ := t
  cases phase with
  | connected exchanges =>
    obtain ⟨registration, publish, subscribe, unsubscribe⟩ := exchanges
    cases registration with
    | none => rfl
    | some registration =>
      change (if registration.tries.toNat > context.config.maxRetries then _ else _) =
        ledger (if registration.tries.toNat > context.config.maxRetries then _ else _)
      split
      · rfl
      · cases link <;> rfl
  | idle => rfl
  | awaitingWillTopic request tries => rfl
  | awaitingWillMessage request will tries => rfl
  | awaitingConnack => rfl

theorem ledger_shutDown (context : Context) :
    t.ledger.shutDown context = (t.shutDown context).ledger := by
  simp only [Ledger.Transition.shutDown, shutDown, ledger_isBusy t, ledger_sendBroker]
  have hopen : t.ledger.ledger.brokerOpen = t.session.brokerOpen := rfl
  rw [hopen]
  split <;> rfl

/-- A ledger does with what a device says what its session does. -/
theorem ledger_sensor (context : Context) (message : Sensor.Message) (link : LinkName) :
    t.ledger.sensor context message link = (t.sensor context message link).ledger := by
  cases message with
  | connect request => exact ledger_connect t context request
  | willTopic will => exact ledger_willTopic t will
  | willMessage data => exact ledger_willMessage t context data
  | register registration =>
    exact ledger_whenConnected t _ _ fun _ _ => ledger_register t registration
  | regack ack => exact ledger_whenConnected t _ _ fun _ h => ledger_regack t ack h
  | publish publication =>
    by_cases hlevel : publication.flags.qos = .minusOne
    · have hledger : t.ledger.sensor context (.publish publication) link =
          t.ledger.emit (.forGateway (.publish publication) link) := if_pos hlevel
      rw [hledger, Transition.sensor_of_minusOne hlevel]
      exact ledger_emit t _
    · have hledger : t.ledger.sensor context (.publish publication) link =
          t.ledger.whenConnected (Ledger.Transition.publish context publication) := if_neg hlevel
      rw [hledger, Transition.sensor_of_ne_minusOne hlevel]
      exact ledger_whenConnected t _ _ fun _ h => ledger_publish t context publication h
  | puback ack => exact ledger_whenConnected t _ _ fun _ _ => ledger_puback t context ack
  | pubrec msgId => exact ledger_relay t context _
  | pubrel msgId => exact ledger_relay t context _
  | pubcomp msgId => exact ledger_relay t context _
  | subscribe request =>
    exact ledger_whenConnected t _ _ fun _ h => ledger_subscribe t context request h
  | unsubscribe request =>
    exact ledger_whenConnected t _ _ fun _ h => ledger_unsubscribe t context request h
  | pingRequest clientId => exact ledger_relay t context _
  | pingResponse => exact ledger_relay t context _
  | disconnect duration => exact ledger_disconnect t context
  | _ => rfl

/-- What is passed over unless the device is connected. -/
theorem ledger_ifConnected (step : Exchanges → Transition → Transition)
    (ledgerStep : Ledger.Transition → Ledger.Transition)
    (h : ∀ exchanges, t.session.phase = .connected exchanges →
      ledgerStep t.ledger = (step exchanges t).ledger) :
    (if !t.ledger.ledger.isConnected then t.ledger else ledgerStep t.ledger) =
      ledger (match t.session.phase with
        | .connected exchanges => step exchanges t
        | _ => t) := by
  obtain ⟨⟨_, _, _, _, _, phase, tornDown, _, _⟩, _⟩ := t
  cases phase with
  | connected exchanges => exact h exchanges rfl
  | idle => cases tornDown <;> rfl
  | awaitingWillTopic request tries => cases tornDown <;> rfl
  | awaitingWillMessage request will tries => cases tornDown <;> rfl
  | awaitingConnack => cases tornDown <;> rfl

/-- A ledger does with what the broker says what its session does. -/
theorem ledger_broker (context : Context) (message : Broker.Message) :
    t.ledger.broker context message = (t.broker context message).ledger := by
  have hconnected (ledgerStep : Ledger.Transition → Ledger.Transition)
      (h : ∀ exchanges, t.session.phase = .connected exchanges →
        ledgerStep t.ledger = (t.brokerConnected context exchanges message).ledger) :=
    ledger_ifConnected t (fun exchanges t => t.brokerConnected context exchanges message)
      ledgerStep h
  cases message with
  | connack code => exact ledger_connack t code
  | publish publication => exact hconnected _ fun _ h => ledger_deliver t context publication h
  | puback msgId => exact hconnected _ fun _ h => ledger_confirmPublish t msgId h
  | suback msgId granted => exact hconnected _ fun _ h => ledger_confirmSubscribe t msgId _ h
  | unsuback msgId => exact hconnected _ fun _ h => ledger_confirmUnsubscribe t msgId h
  | pubrec msgId =>
    exact hconnected (·.toDevice (.pubrec msgId)) fun _ _ => ledger_toDevice t _
  | pubrel msgId =>
    exact hconnected (·.toDevice (.pubrel msgId)) fun _ _ => ledger_toDevice t _
  | pubcomp msgId =>
    exact hconnected (·.toDevice (.pubcomp msgId)) fun _ _ => ledger_toDevice t _
  | pingRequest =>
    exact hconnected (·.toDevice (.pingRequest none)) fun _ _ => ledger_toDevice t _
  | pingResponse =>
    exact hconnected (·.toDevice .pingResponse) fun _ _ => ledger_toDevice t _
  | connect request => exact hconnected id fun _ _ => rfl
  | subscribe dup msgId topics => exact hconnected id fun _ _ => rfl
  | unsubscribe dup msgId topics => exact hconnected id fun _ _ => rfl
  | disconnect => exact hconnected id fun _ _ => rfl

/-- A ledger does with a signal what its session does, even if that ends with it. -/
theorem ledger_signal (context : Context) (signal : Signal) :
    t.ledger.signal context signal =
      (if t.session.endsAt context signal then t.closeBroker.emit .disarmAll
        else t.signal context signal).ledger := by
  cases signal with
  | connectionLost => exact ledger_connectionLost t
  | willTopicTimeout => exact ledger_willTopicTimeout t context
  | willMessageTimeout => exact ledger_willMessageTimeout t context
  | regackTimeout => exact ledger_regackTimeout t context
  | shutDown => exact ledger_shutDown t context
  | checkInactivity =>
    have hdeadline : t.ledger.ledger.deadline = t.session.deadline := rfl
    simp only [Ledger.Transition.signal, endsAt, isExpired, beq_self_eq_true, Bool.true_and,
      decide_eq_true_eq, hdeadline]
    split <;> rfl
  | sendKeepAlive => rfl

end Transition

/-- A device that was heard. The deadline is any number here: to compute it is
to count nanoseconds. -/
theorem ledger_heard (session : Session) (seen : Address) (link : LinkName) (deadline : Nat) :
    ({ session.ledger with
        address := session.address.refresh seen
        deadline := deadline
        link := some link } : Ledger) =
      ledger { session with
        address := session.address.refresh seen
        deadline := deadline
        link := some link } := rfl

theorem ledger_alive (session : Session) (deadline : Nat) :
    ({ session.ledger with deadline := deadline } : Ledger) =
      ledger { session with deadline := deadline } := rfl

/-- The ledger of a session takes every turn as the session does. -/
theorem ledger_take (config : Config) (turn : Turn) (session : Session) :
    session.ledger.take config turn = (session.take config turn).ledger := by
  obtain ⟨now, line, input⟩ := turn
  cases input with
  | sensor seen message link =>
    exact (congrArg (fun ledger => (Ledger.Transition.start ledger).sensor _ message link)
      (ledger_heard session seen link _)).trans (Transition.ledger_sensor (.start _) _ message link)
  | broker message =>
    exact (congrArg (fun ledger => (Ledger.Transition.start ledger).broker _ message)
      (ledger_alive session _)).trans (Transition.ledger_broker (.start _) _ message)
  | signal signal => exact Transition.ledger_signal (.start session) _ signal

/-- Whatever a session is told, its ledger takes the same steps. -/
theorem ledger_run (config : Config) (turns : List Turn) (session : Session) :
    session.ledger.run config turns = (session.run config turns).ledger := by
  induction turns generalizing session with
  | nil => rfl
  | cons turn turns ih =>
    have hrest := ih (session.take config turn).session
    simp only [Ledger.run, run, ledger_take]
    simp only [Transition.ledger] at hrest ⊢
    rw [hrest]
    rfl

end SensorGateway.Session
