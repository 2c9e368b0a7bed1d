import SensorGateway.Proofs.Session.Acts

/-!
What a session does not go by. It notes the client id of its device and whether the device was
ever told that it is disconnected, but whatever it is told next, it does the same as a session
that has it otherwise: the broker gets the client id of the CONNECT that is being dealt with,
and whether a session was torn down shows only from outside. There is one lemma for every
handler, and `Twin.run` puts them together.
-/

namespace SensorGateway.Session

/-- Two sessions that differ at most in the client id and in whether the device was ever told
that it is disconnected. -/
structure Twin (first second : Session) : Prop where
  address : first.address = second.address
  link : first.link = second.link
  brokerOpen : first.brokerOpen = second.brokerOpen
  topics : first.topics = second.topics
  phase : first.phase = second.phase
  deadline : first.deadline = second.deadline
  nextMsgId : first.nextMsgId = second.nextMsgId

namespace Transition

structure Twin (t u : Transition) : Prop where
  session : t.session.Twin u.session
  effects : t.effects = u.effects

variable {context : Context} {t u : Transition}

theorem twin_start {first second : Session} (h : first.Twin second) :
    (start first).Twin (start second) := ⟨h, rfl⟩

/-! ### Parts of a step -/

theorem Twin.emit (h : t.Twin u) (effect : Effect) : (t.emit effect).Twin (u.emit effect) :=
  ⟨h.session, congrArg (· ++ [effect]) h.effects⟩

theorem Twin.enter (h : t.Twin u) (phase : Phase) : (t.enter phase).Twin (u.enter phase) :=
  ⟨{ h.session with phase := rfl }, h.effects⟩

theorem Twin.updateTopics (h : t.Twin u) (f : Topic.Table → Topic.Table) :
    (t.update fun session => { session with topics := f session.topics }).Twin
      (u.update fun session => { session with topics := f session.topics }) :=
  ⟨{ h.session with topics := congrArg f h.session.topics }, h.effects⟩

theorem Twin.toDevice (h : t.Twin u) (message : Sensor.Message) :
    (t.toDevice message).Twin (u.toDevice message) := by
  unfold Transition.toDevice
  rw [h.session.link, h.session.address]
  split
  · exact h
  · exact h.emit _

theorem Twin.refuse (h : t.Twin u) : t.refuse.Twin u.refuse := h.toDevice (.disconnect none)

/-- The link behaves in the same way. -/
theorem Twin.openBroker (h : t.Twin u) (line : Broker.Line) :
    ∃ result next next', t.openBroker line = (result, next) ∧
      u.openBroker line = (result, next') ∧ next.Twin next' := by
  unfold Transition.openBroker
  rw [h.session.brokerOpen]
  have hused := h.emit (.broker (.opening u.session.brokerOpen
    (if u.session.brokerOpen then none else line.openFailure)))
  exact ⟨_, _, _, rfl, rfl, { hused.session with brokerOpen := rfl }, hused.effects⟩

theorem Twin.sendBroker (h : t.Twin u) (line : Broker.Line) (message : Broker.Message) :
    ∃ result next next', t.sendBroker line message = (result, next) ∧
      u.sendBroker line message = (result, next') ∧ next.Twin next' := by
  unfold Transition.sendBroker
  rw [h.session.brokerOpen]
  rcases hsend : line.send u.session.brokerOpen message with ⟨result, isOpen⟩
  have hused := h.emit (.broker (.sending u.session.brokerOpen message result isOpen))
  simp only [hsend]
  exact ⟨_, _, _, rfl, rfl, { hused.session with brokerOpen := rfl }, hused.effects⟩

theorem Twin.closeBroker (h : t.Twin u) : t.closeBroker.Twin u.closeBroker := by
  unfold Transition.closeBroker
  rw [h.session.brokerOpen]
  have hused := h.emit (.broker (.closing u.session.brokerOpen))
  exact ⟨{ hused.session with brokerOpen := rfl }, hused.effects⟩

theorem Twin.tearDown (h : t.Twin u) : t.tearDown.Twin u.tearDown := by
  have htold := (h.toDevice (.disconnect none)).emit .disarmAll
  have hforgot : Twin
      (((t.toDevice (.disconnect none)).emit .disarmAll).update fun session =>
        { session with phase := .idle, tornDown := true })
      (((u.toDevice (.disconnect none)).emit .disarmAll).update fun session =>
        { session with phase := .idle, tornDown := true }) :=
    ⟨{ htold.session with phase := rfl }, htold.effects⟩
  exact hforgot.closeBroker

theorem Twin.connectionLost (h : t.Twin u) : t.connectionLost.Twin u.connectionLost := by
  unfold Transition.connectionLost
  rw [h.session.phase]
  split
  · exact h
  · exact h.tearDown

theorem Twin.forward (h : t.Twin u) (line : Broker.Line) (message : Broker.Message) :
    ∃ result next next', t.forward line message = (result, next) ∧
      u.forward line message = (result, next') ∧ next.Twin next' := by
  obtain ⟨taken, sent, sent', hfirst, hsecond, hsent⟩ := h.sendBroker line message
  unfold Transition.forward
  rw [hfirst, hsecond]
  cases taken with
  | true => exact ⟨_, _, _, rfl, rfl, hsent⟩
  | false => exact ⟨_, _, _, rfl, rfl, hsent.connectionLost⟩

/-! ### Messages of the device -/

theorem Twin.connectBroker (h : t.Twin u) (request : Sensor.Connect)
    (will : Option Broker.Will) :
    (t.connectBroker context request will).Twin (u.connectBroker context request will) := by
  obtain ⟨isOpen, opened, opened', hfirst, hsecond, hopened⟩ :=
    (h.enter .idle).openBroker context.line
  unfold Transition.connectBroker
  rw [hfirst, hsecond]
  cases isOpen with
  | false => exact hopened
  | true =>
    obtain ⟨taken, sent, sent', hfirst, hsecond, hsent⟩ :=
      hopened.sendBroker context.line (.connect (brokerConnect context request will))
    simp only [hfirst, hsecond]
    cases taken with
    | false => exact hsent.closeBroker
    | true => exact hsent.enter .awaitingConnack

theorem Twin.establish (h : t.Twin u) (request : Sensor.Connect) :
    (t.establish context request).Twin (u.establish context request) := by
  unfold Transition.establish
  split
  · exact ((h.toDevice _).enter _).emit _
  · exact h.connectBroker request none

theorem Twin.connect (h : t.Twin u) (request : Sensor.Connect) :
    (t.connect context request).Twin (u.connect context request) := by
  have hnamed : Twin (t.update fun session => { session with clientId := request.clientId })
      (u.update fun session => { session with clientId := request.clientId }) :=
    ⟨{ h.session with }, h.effects⟩
  unfold Transition.connect
  simp only [hnamed.session.phase]
  split
  · exact hnamed.toDevice _
  · exact (hnamed.closeBroker.enter .idle).establish request
  · exact hnamed.establish request
  · exact hnamed
  · exact hnamed

theorem Twin.willTopic (h : t.Twin u) (will : Sensor.WillTopic) :
    (t.willTopic will).Twin (u.willTopic will) := by
  unfold Transition.willTopic
  rw [h.session.phase]
  split
  · exact (((h.emit _).toDevice _).enter _).emit _
  · exact h

theorem Twin.willMessage (h : t.Twin u) (data : Bytes) :
    (t.willMessage context data).Twin (u.willMessage context data) := by
  unfold Transition.willMessage
  rw [h.session.phase]
  split
  · exact (h.emit _).connectBroker _ _
  · exact h

theorem Twin.register (h : t.Twin u) (registration : Sensor.Register) :
    (t.register registration).Twin (u.register registration) := by
  unfold Transition.register
  simp only [h.session.topics]
  exact (h.updateTopics fun _ => (u.session.topics.register registration.topic).2).toDevice _

theorem Twin.endRegistration (h : t.Twin u) (exchanges : Exchanges) :
    (t.endRegistration exchanges).Twin (u.endRegistration exchanges) := (h.enter _).emit _

theorem Twin.regack (h : t.Twin u) (exchanges : Exchanges) (ack : Sensor.TopicAck) :
    (t.regack exchanges ack).Twin (u.regack exchanges ack) := by
  unfold Transition.regack
  split
  · exact h
  · split
    · exact h
    · have hended := h.endRegistration exchanges
      simp only
      split
      · exact hended
      · exact (hended.updateTopics fun topics => (topics.assign _ _).2).toDevice _

theorem Twin.publish (h : t.Twin u) (exchanges : Exchanges) (publication : Sensor.Publish) :
    (t.publish context exchanges publication).Twin (u.publish context exchanges publication) := by
  unfold Transition.publish
  simp only [h.session.topics]
  split
  · exact h
  · split
    · exact h.toDevice _
    · next topic _ =>
      obtain ⟨taken, next, next', hfirst, hsecond, hnext⟩ := h.forward context.line (.publish
        { dup := publication.flags.dup, qos := brokerLevel publication.flags.qos
          retain := publication.flags.retain, topic, msgId := publication.msgId
          data := publication.data })
      rw [hfirst, hsecond]
      cases taken with
      | false => exact hnext
      | true =>
        simp only
        split
        · exact hnext.enter _
        · exact hnext

theorem Twin.puback (h : t.Twin u) (ack : Sensor.TopicAck) :
    (t.puback context ack).Twin (u.puback context ack) := by
  unfold Transition.puback
  split
  · exact h.updateTopics fun topics => (topics.removeId ack.topicId).2
  · obtain ⟨taken, next, next', hfirst, hsecond, hnext⟩ :=
      h.forward context.line (.puback ack.msgId)
    rw [hfirst, hsecond]
    exact hnext

theorem Twin.subscribe (h : t.Twin u) (exchanges : Exchanges) (request : Sensor.TopicRequest) :
    (t.subscribe context exchanges request).Twin (u.subscribe context exchanges request) := by
  unfold Transition.subscribe
  simp only [h.session.topics]
  split
  · exact h
  · split
    · exact h.toDevice _
    · next name _ =>
      obtain ⟨taken, next, next', hfirst, hsecond, hnext⟩ := h.forward context.line
        (.subscribe request.flags.dup request.msgId [(name, brokerLevel request.flags.qos)])
      rw [hfirst, hsecond]
      cases taken with
      | false => exact hnext
      | true => exact hnext.enter _

theorem Twin.unsubscribe (h : t.Twin u) (exchanges : Exchanges)
    (request : Sensor.TopicRequest) :
    (t.unsubscribe context exchanges request).Twin (u.unsubscribe context exchanges request) := by
  unfold Transition.unsubscribe
  simp only [h.session.topics]
  split
  · exact h
  · split
    · exact h
    · next name _ =>
      obtain ⟨taken, next, next', hfirst, hsecond, hnext⟩ := h.forward context.line
        (.unsubscribe request.flags.dup request.msgId [name])
      rw [hfirst, hsecond]
      cases taken with
      | false => exact hnext
      | true => exact hnext.enter _

theorem Twin.disconnect (h : t.Twin u) : (t.disconnect context).Twin (u.disconnect context) := by
  unfold Transition.disconnect
  rw [h.session.phase, h.session.brokerOpen]
  split
  · exact h
  · split
    · obtain ⟨taken, sent, sent', hfirst, hsecond, hsent⟩ := h.sendBroker context.line .disconnect
      rw [hfirst, hsecond]
      exact hsent.tearDown
    · exact h.tearDown

/-- What both do if their device is connected. -/
theorem Twin.whenConnected (h : t.Twin u) {step : Exchanges → Transition → Transition}
    (hstep : ∀ exchanges, (step exchanges t).Twin (step exchanges u)) :
    (t.whenConnected step).Twin (u.whenConnected step) := by
  unfold Transition.whenConnected
  rw [h.session.phase]
  split
  · exact hstep _
  · exact h.refuse

theorem Twin.relay (h : t.Twin u) (message : Broker.Message) :
    (t.relay context message).Twin (u.relay context message) := by
  refine h.whenConnected fun _ => ?_
  obtain ⟨taken, next, next', hfirst, hsecond, hnext⟩ := h.forward context.line message
  rw [hfirst, hsecond]
  exact hnext

/-- Twins deal alike with all that a device says. -/
theorem Twin.sensor (h : t.Twin u) (message : Sensor.Message) (link : LinkName) :
    (t.sensor context message link).Twin (u.sensor context message link) := by
  cases message with
  | searchGateway radius => exact h.emit _
  | connect request => exact h.connect request
  | willTopic will => exact h.willTopic will
  | willMessage data => exact h.willMessage data
  | register registration => exact h.whenConnected fun _ => h.register registration
  | regack ack => exact h.whenConnected fun exchanges => h.regack exchanges ack
  | publish publication =>
    by_cases hlevel : publication.flags.qos = .minusOne
    · rw [sensor_of_minusOne hlevel, sensor_of_minusOne hlevel]
      exact h.emit _
    · rw [sensor_of_ne_minusOne hlevel, sensor_of_ne_minusOne hlevel]
      exact h.whenConnected fun exchanges => h.publish exchanges publication
  | puback ack => exact h.whenConnected fun _ => h.puback ack
  | pubrec msgId => exact h.relay _
  | pubrel msgId => exact h.relay _
  | pubcomp msgId => exact h.relay _
  | subscribe request => exact h.whenConnected fun exchanges => h.subscribe exchanges request
  | unsubscribe request => exact h.whenConnected fun exchanges => h.unsubscribe exchanges request
  | pingRequest clientId => exact h.relay _
  | pingResponse => exact h.relay _
  | disconnect duration => exact h.disconnect
  | _ => exact h

/-! ### Messages of the broker -/

theorem Twin.connack (h : t.Twin u) (code : UInt8) : (t.connack code).Twin (u.connack code) := by
  unfold Transition.connack
  rw [h.session.phase]
  split
  · split
    · exact (h.enter _).toDevice _
    · exact h.tearDown
  · exact h

theorem Twin.takeMsgId (h : t.Twin u) :
    t.takeMsgId.1 = u.takeMsgId.1 ∧ t.takeMsgId.2.Twin u.takeMsgId.2 :=
  ⟨h.session.nextMsgId,
    { h.session with
      nextMsgId := congrArg (fun id : UInt16 => if id = 65535 then 1 else id + 1)
        h.session.nextMsgId },
    h.effects⟩

theorem Twin.offerTopic (h : t.Twin u) (exchanges : Exchanges) (publication : Broker.Publish) :
    (t.offerTopic exchanges publication).Twin (u.offerTopic exchanges publication) := by
  unfold Transition.offerTopic
  simp only [h.session.topics]
  split
  · exact h
  · split
    · exact h
    · next topicId topics _ =>
      obtain ⟨hid, htaken⟩ := (h.updateTopics fun _ => topics).takeMsgId
      simp only [hid]
      exact ((htaken.toDevice _).enter _).emit _

theorem Twin.deliver (h : t.Twin u) (exchanges : Exchanges) (publication : Broker.Publish) :
    (t.deliver context exchanges publication).Twin (u.deliver context exchanges publication) := by
  unfold Transition.deliver
  simp only [h.session.topics]
  split
  · exact h
  · split
    · exact h
    · split
      · exact h.toDevice _
      · split
        · exact h.toDevice _
        · exact h.offerTopic exchanges publication

theorem Twin.confirmPublish (h : t.Twin u) (exchanges : Exchanges) (msgId : UInt16) :
    (t.confirmPublish exchanges msgId).Twin (u.confirmPublish exchanges msgId) := by
  unfold Transition.confirmPublish
  split
  · exact h
  · split
    · exact h
    · exact (h.enter _).toDevice _

theorem Twin.confirmSubscribe (h : t.Twin u) (exchanges : Exchanges) (msgId : UInt16)
    (granted : UInt8) :
    (t.confirmSubscribe exchanges msgId granted).Twin
      (u.confirmSubscribe exchanges msgId granted) := by
  unfold Transition.confirmSubscribe
  simp only [h.session.topics]
  split
  · exact h
  · split
    · exact h
    · exact ((h.enter _).updateTopics fun _ => (grantTopic u.session.topics _).2.2).toDevice _

theorem Twin.confirmUnsubscribe (h : t.Twin u) (exchanges : Exchanges) (msgId : UInt16) :
    (t.confirmUnsubscribe exchanges msgId).Twin (u.confirmUnsubscribe exchanges msgId) := by
  unfold Transition.confirmUnsubscribe
  split
  · exact h
  · split
    · exact h
    · extract_lets forget
      exact ((h.enter _).updateTopics forget).toDevice _

theorem Twin.brokerConnected (h : t.Twin u) (exchanges : Exchanges) (message : Broker.Message) :
    (t.brokerConnected context exchanges message).Twin
      (u.brokerConnected context exchanges message) := by
  cases message with
  | publish publication => exact h.deliver exchanges publication
  | puback msgId => exact h.confirmPublish exchanges msgId
  | suback msgId granted => exact h.confirmSubscribe exchanges msgId _
  | unsuback msgId => exact h.confirmUnsubscribe exchanges msgId
  | pubrec | pubrel | pubcomp | pingRequest | pingResponse => exact h.toDevice _
  | connect | connack | subscribe | unsubscribe | disconnect => exact h

/-- Twins deal alike with all that the broker says. -/
theorem Twin.broker (h : t.Twin u) (message : Broker.Message) :
    (t.broker context message).Twin (u.broker context message) := by
  unfold Transition.broker
  rw [h.session.phase]
  split
  · exact h.connack _
  · split
    · exact h.brokerConnected _ message
    · exact h

/-! ### Signals -/

theorem Twin.willTopicTimeout (h : t.Twin u) :
    (t.willTopicTimeout context).Twin (u.willTopicTimeout context) := by
  unfold Transition.willTopicTimeout
  rw [h.session.phase]
  split
  · split
    · exact (h.enter _).emit _
    · exact (h.toDevice _).enter _
  · exact h

theorem Twin.willMessageTimeout (h : t.Twin u) :
    (t.willMessageTimeout context).Twin (u.willMessageTimeout context) := by
  unfold Transition.willMessageTimeout
  rw [h.session.phase]
  split
  · split
    · exact (h.enter _).emit _
    · exact (h.toDevice _).enter _
  · exact h

theorem Twin.regackTimeout (h : t.Twin u) :
    (t.regackTimeout context).Twin (u.regackTimeout context) := by
  unfold Transition.regackTimeout
  rw [h.session.phase]
  split
  · split
    · exact h
    · split
      · exact h.endRegistration _
      · obtain ⟨hid, htaken⟩ := h.takeMsgId
        simp only [hid]
        exact (htaken.toDevice _).enter _
  · exact h

theorem Twin.shutDown (h : t.Twin u) : (t.shutDown context).Twin (u.shutDown context) := by
  unfold Transition.shutDown
  simp only [h.session.phase, h.session.brokerOpen]
  split
  · obtain ⟨taken, sent, sent', hfirst, hsecond, hsent⟩ := h.sendBroker context.line .disconnect
    rw [hfirst, hsecond]
    exact hsent.closeBroker.emit _
  · exact h.closeBroker.emit _

/-- Twins deal alike with every signal. -/
theorem Twin.signal (h : t.Twin u) (signal : Signal) :
    (t.signal context signal).Twin (u.signal context signal) := by
  cases signal with
  | connectionLost => exact h.connectionLost
  | willTopicTimeout => exact h.willTopicTimeout
  | willMessageTimeout => exact h.willMessageTimeout
  | regackTimeout => exact h.regackTimeout
  | shutDown => exact h.shutDown
  | checkInactivity | sendKeepAlive => exact h

end Transition

/-! ### Turns -/

variable {first second : Session}

theorem Twin.hear (h : first.Twin second) (config : Config) (turn : Turn) :
    (first.hear config turn).Twin (second.hear config turn) := by
  unfold Session.hear
  split
  next seen _ _ _ =>
    have haddress : first.address.refresh seen = second.address.refresh seen :=
      congrArg (Address.refresh · seen) h.address
    exact { h with address := haddress, link := rfl, deadline := rfl }
  next => exact { h with deadline := rfl }
  next => exact h

/-- Twins that take the same turn do the same, and are twins afterwards. -/
theorem Twin.take (h : first.Twin second) (config : Config) (turn : Turn) :
    (first.take config turn).Twin (second.take config turn) := by
  have hstart := Transition.twin_start (h.hear config turn)
  cases hinput : turn.input with
  | sensor seen message link =>
    rw [take_sensor config hinput, take_sensor config hinput]
    exact hstart.sensor message link
  | broker message =>
    rw [take_broker config hinput, take_broker config hinput]
    exact hstart.broker message
  | signal signal =>
    have hsame := Transition.twin_start h
    unfold Session.take onSignal endsAt isExpired
    rw [hinput, h.deadline]
    simp only
    split
    · exact hsame.closeBroker.emit .disarmAll
    · exact hsame.signal signal

/-- Twins do the same whatever they are told. -/
theorem Twin.run (h : first.Twin second) (config : Config) (turns : List Turn) :
    (first.run config turns).Twin (second.run config turns) := by
  induction turns generalizing first second with
  | nil => exact Transition.twin_start h
  | cons turn turns ih =>
    obtain ⟨hnext, hdid⟩ := h.take config turn
    obtain ⟨hlast, hrest⟩ := ih hnext
    exact ⟨hlast, congrArg₂ (· ++ ·) hdid hrest⟩

end SensorGateway.Session
