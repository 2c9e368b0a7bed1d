import SensorGateway.Proofs.Session.Deeds

/-!
What a session says, and what it makes it of. Every message for the device or for
the broker is put together from what the session is told in this turn and from
what it knew before. `Tells` and `Hands` list the messages with their sources,
`Learns` the names that come into the table of topic ids, and `take_speaks` says
that there are no others, and that only a message of the device itself is passed
on to the gateway, if it is one that no session deals with. What is known of all
sources is therefore known of every message, whichever handler has sent it.
-/

namespace SensorGateway

/-- Whether a message for a device has nothing in it but codes and ids. -/
def Sensor.Message.isPlain : Sensor.Message → Bool
  | willTopicRequest | willMessageRequest | connack _ | regack _ | puback _ | pubrec _ | pubrel _
  | pubcomp _ | suback _ | unsuback _ | pingRequest none | pingResponse | disconnect none => true
  | _ => false

def Sensor.Message.isForGateway : Sensor.Message → Bool
  | searchGateway _ => true
  | publish publication => publication.flags.qos == .minusOne
  | _ => false

def Broker.Message.isPlain : Broker.Message → Bool
  | puback _ | pubrec _ | pubrel _ | pubcomp _ | pingRequest | pingResponse | disconnect => true
  | _ => false

namespace Session

/-- Whether a publication of the broker leaves room for the rest of a frame, with
its data and with its topic. -/
structure FitsFrame (config : Config) (publication : Broker.Publish) : Prop where
  data : publication.data.length ≤ config.maxFrameLength - 7
  topic : publication.topic.utf8ByteSize ≤ config.maxFrameLength - 6

/-- What a session may tell its device in a turn. -/
inductive Tells (config : Config) (input : Input) (session : Session) : Sensor.Message → Prop where
  | plain {message : Sensor.Message} (hplain : message.isPlain = true) :
      Tells config input session message
  | deliver {publication : Broker.Publish} (type : Sensor.TopicIdType) (topicId : UInt16)
      (hinput : input = .broker (.publish publication)) (hfits : FitsFrame config publication) :
      Tells config input session (Transition.delivery publication type topicId)
  | offer {registration : Registration}
      (hinput : input = .broker (.publish registration.publication))
      (hfits : FitsFrame config registration.publication) :
      Tells config input session (Transition.offer registration)
  /-- The offer that is open is made once more. -/
  | again {registration again : Registration} (hinput : input = .signal .regackTimeout)
      (hsome : session.exchanges.registration = some registration)
      (hsame : again.publication = registration.publication) :
      Tells config input session (Transition.offer again)
  /-- The publication that waited is sent. -/
  | release {registration : Registration}
      (hsome : session.exchanges.registration = some registration) :
      Tells config input session
        (Transition.delivery registration.publication .normal registration.topicId)

inductive Hands (context : Context) (input : Input) (session : Session) :
    Broker.Message → Prop where
  | plain {message : Broker.Message} (hplain : message.isPlain = true) :
      Hands context input session message
  | connect {seen : Address} {request : Sensor.Connect} {link : LinkName}
      (hinput : input = .sensor seen (.connect request) link) :
      Hands context input session (.connect (brokerConnect context request none))
  /-- The device has told its will before the broker is asked. -/
  | connectWithWill {seen : Address} {data : Bytes} {link : LinkName} {request : Sensor.Connect}
      {will : Sensor.WillTopic} {tries : UInt32}
      (hinput : input = .sensor seen (.willMessage data) link)
      (hphase : session.phase = .awaitingWillMessage request will tries) :
      Hands context input session
        (.connect (brokerConnect context request (brokerWill will data)))
  | publish {seen : Address} {publication : Sensor.Publish} {link : LinkName} {topic : String}
      (hinput : input = .sensor seen (.publish publication) link)
      (htopic : session.topics.resolve? publication.flags.topicIdType publication.topicId =
        some topic) :
      Hands context input session (.publish
        { dup := publication.flags.dup, qos := brokerLevel publication.flags.qos
          retain := publication.flags.retain, topic, msgId := publication.msgId
          data := publication.data })
  | subscribe {seen : Address} {request : Sensor.TopicRequest} {link : LinkName} {name : String}
      (hinput : input = .sensor seen (.subscribe request) link)
      (hname : session.topics.resolveRef? request.topic = some name) :
      Hands context input session
        (.subscribe request.flags.dup request.msgId [(name, brokerLevel request.flags.qos)])
  | unsubscribe {seen : Address} {request : Sensor.TopicRequest} {link : LinkName} {name : String}
      (hinput : input = .sensor seen (.unsubscribe request) link)
      (hname : session.topics.resolveRef? request.topic = some name) :
      Hands context input session (.unsubscribe request.flags.dup request.msgId [name])

inductive Learns (input : Input) (session : Session) : String → Prop where
  | register {seen : Address} {registration : Sensor.Register} {link : LinkName}
      (hinput : input = .sensor seen (.register registration) link) :
      Learns input session registration.topic
  | grant {request : RequestInFlight} {name : String}
      (hsome : session.exchanges.subscribe = some request) (htopic : request.topic = .named name) :
      Learns input session name
  | bind {registration : Registration}
      (hsome : session.exchanges.registration = some registration) :
      Learns input session registration.publication.topic

def Effect.passedOn? : Effect → Option Sensor.Message
  | forGateway message _ => some message
  | broker _ | device .. | arm _ | disarm _ | disarmAll => none

namespace Transition

def passedOn (t : Transition) : List Sensor.Message := t.effects.filterMap (·.passedOn?)

/-- What a transition that began with a session has said and learned so far. -/
structure Speaks (context : Context) (input : Input) (origin : Session) (clientId : String)
    (t : Transition) : Prop where
  told : ∀ message ∈ t.told, Tells context.config input origin message
  handed : ∀ message ∈ t.handed, Hands context input origin message
  passedOn : ∀ message ∈ t.passedOn,
    (∃ seen link, input = .sensor seen message link) ∧ message.isForGateway = true
  learned : ∀ name, t.session.topics.Holds name →
    origin.topics.Holds name ∨ Learns input origin name
  clientId : t.session.clientId = clientId

variable {context : Context} {input : Input} {origin : Session} {clientId : String}
variable {t : Transition} {exchanges : Exchanges}

theorem speaks_start (session : Session) :
    (Transition.start session).Speaks context input session session.clientId :=
  ⟨fun _ hin => (List.not_mem_nil hin).elim, fun _ hin => (List.not_mem_nil hin).elim,
    fun _ hin => (List.not_mem_nil hin).elim, fun _ hin => .inl hin, rfl⟩

theorem mem_filterMap_emit {α : Type} {select : Effect → Option α} {effect : Effect} {item : α}
    (h : item ∈ (t.emit effect).effects.filterMap select) :
    item ∈ t.effects.filterMap select ∨ select effect = some item := by
  unfold Transition.emit at h
  rw [List.filterMap_append, List.mem_append] at h
  refine h.imp_right fun hlast => ?_
  obtain ⟨last, hin, hsome⟩ := List.mem_filterMap.mp hlast
  exact List.mem_singleton.mp hin ▸ hsome

/-- Whatever is done, its messages have to have sources. -/
theorem Speaks.emit (h : t.Speaks context input origin clientId) {effect : Effect}
    (htold : ∀ message, effect.told? = some message → Tells context.config input origin message)
    (hhanded : ∀ message, effect.handed? = some message → Hands context input origin message)
    (hpassed : ∀ message, effect.passedOn? = some message →
      (∃ seen link, input = .sensor seen message link) ∧ message.isForGateway = true) :
    (t.emit effect).Speaks context input origin clientId where
  told message hin := (mem_filterMap_emit hin).elim (h.told message) (htold message)
  handed message hin := (mem_filterMap_emit hin).elim (h.handed message) (hhanded message)
  passedOn message hin := (mem_filterMap_emit hin).elim (h.passedOn message) (hpassed message)
  learned := h.learned
  clientId := h.clientId

/-- What is about no message makes no difference. -/
theorem Speaks.quiet (h : t.Speaks context input origin clientId) {effect : Effect}
    (htold : effect.told? = none) (hhanded : effect.handed? = none)
    (hpassed : effect.passedOn? = none) :
    (t.emit effect).Speaks context input origin clientId := by
  refine h.emit ?_ ?_ ?_
  · simp [htold]
  · simp [hhanded]
  · simp [hpassed]

theorem Speaks.update (h : t.Speaks context input origin clientId) {f : Session → Session}
    (htopics : (f t.session).topics = t.session.topics)
    (hclientId : (f t.session).clientId = t.session.clientId) :
    (t.update f).Speaks context input origin clientId :=
  ⟨h.told, h.handed, h.passedOn, fun name hin => h.learned name (htopics ▸ hin),
    hclientId.trans h.clientId⟩

theorem Speaks.enter (h : t.Speaks context input origin clientId) (phase : Phase) :
    (t.enter phase).Speaks context input origin clientId :=
  h.update rfl rfl

/-- A change of the table that brings in no name but one that is learned. -/
theorem Speaks.topics (h : t.Speaks context input origin clientId) {topics : Topic.Table}
    (htopics : ∀ name, topics.Holds name →
      t.session.topics.Holds name ∨ Learns input origin name) :
    (t.update fun session => { session with topics }).Speaks context input origin clientId := by
  refine ⟨h.told, h.handed, h.passedOn, fun name hin => ?_, h.clientId⟩
  rcases htopics name hin with hold | hnew
  · exact h.learned name hold
  · exact .inr hnew

theorem Speaks.toDevice (h : t.Speaks context input origin clientId) {message : Sensor.Message}
    (hmessage : Tells context.config input origin message) :
    (t.toDevice message).Speaks context input origin clientId := by
  unfold Transition.toDevice
  split
  next => exact h
  next link hlink =>
    refine h.emit (fun other hsome => ?_) (fun _ hnone => ?_) fun _ hnone => ?_
    · cases hsome
      exact hmessage
    · cases hnone
    · cases hnone

theorem Speaks.passOn (h : t.Speaks context input origin clientId) {seen : Address}
    {message : Sensor.Message} {link : LinkName} (hinput : input = .sensor seen message link)
    (hgateway : message.isForGateway = true) :
    (t.emit (.forGateway message link)).Speaks context input origin clientId := by
  refine h.emit (fun _ hnone => ?_) (fun _ hnone => ?_) fun other hsome => ?_
  · cases hnone
  · cases hnone
  · cases hsome
    exact ⟨⟨seen, link, hinput⟩, hgateway⟩

theorem Speaks.plain (h : t.Speaks context input origin clientId) {message : Sensor.Message}
    (hplain : message.isPlain = true) :
    (t.toDevice message).Speaks context input origin clientId :=
  h.toDevice (.plain hplain)

/-- A use of the link for which there is no message. -/
theorem Speaks.use (h : t.Speaks context input origin clientId) {use : Broker.LinkUse}
    (hhanded : (Effect.broker use).handed? = none) (isOpen : Bool) :
    Speaks context input origin clientId ((t.emit (.broker use)).update fun session =>
      { session with brokerOpen := isOpen }) :=
  (h.quiet rfl hhanded rfl).update rfl rfl

theorem Speaks.openBroker (h : t.Speaks context input origin clientId) (line : Broker.Line) :
    (t.openBroker line).2.Speaks context input origin clientId :=
  h.use rfl _

theorem Speaks.closeBroker (h : t.Speaks context input origin clientId) :
    t.closeBroker.Speaks context input origin clientId :=
  h.use rfl false

theorem Speaks.sendBroker (h : t.Speaks context input origin clientId) (line : Broker.Line)
    {message : Broker.Message} (hmessage : Hands context input origin message) :
    (t.sendBroker line message).2.Speaks context input origin clientId := by
  refine Speaks.update (f := fun session => { session with brokerOpen := _ })
    (h.emit (fun _ hnone => ?_) (fun other hsome => ?_) fun _ hnone => ?_) rfl rfl
  · cases hnone
  · cases hsome
    exact hmessage
  · cases hnone

theorem Speaks.tearDown (h : t.Speaks context input origin clientId) :
    t.tearDown.Speaks context input origin clientId :=
  have hforgot : Speaks context input origin clientId
      (((t.toDevice (.disconnect none)).emit .disarmAll).update fun session =>
        { session with phase := .idle, tornDown := true }) :=
    ((h.plain rfl).quiet rfl rfl rfl).update rfl rfl
  hforgot.closeBroker

theorem Speaks.connectionLost (h : t.Speaks context input origin clientId) :
    t.connectionLost.Speaks context input origin clientId := by
  unfold Transition.connectionLost
  split
  · exact h
  · exact h.tearDown

theorem Speaks.forward (h : t.Speaks context input origin clientId) {message : Broker.Message}
    (hmessage : Hands context input origin message) :
    (t.forward context.line message).2.Speaks context input origin clientId := by
  have hsent := h.sendBroker context.line hmessage
  unfold Transition.forward
  rcases hsend : t.sendBroker context.line message with ⟨taken, sent⟩
  rw [hsend] at hsent
  cases taken with
  | true => exact hsent
  | false => exact hsent.connectionLost

/-- What follows once the broker has taken a message is that a phase is entered, if
anything follows. -/
theorem Speaks.forward_then (h : t.Speaks context input origin clientId)
    {message : Broker.Message} (hmessage : Hands context input origin message)
    {step : Transition → Transition}
    (hstep : ∀ next, next.Speaks context input origin clientId →
      (step next).Speaks context input origin clientId) :
    Speaks context input origin clientId
      (match t.forward context.line message with
        | (false, next) => next
        | (true, next) => step next) := by
  have hforwarded := h.forward hmessage
  rcases hresult : t.forward context.line message with ⟨taken, next⟩
  rw [hresult] at hforwarded
  cases taken with
  | false => exact hforwarded
  | true => exact hstep next hforwarded

theorem Speaks.whenConnected (h : t.Speaks context input origin clientId)
    {step : Exchanges → Transition → Transition}
    (hstep : ∀ exchanges, t.session.phase = .connected exchanges →
      (step exchanges t).Speaks context input origin clientId) :
    (t.whenConnected step).Speaks context input origin clientId := by
  unfold Transition.whenConnected
  split
  next exchanges hphase => exact hstep exchanges hphase
  next => exact h.plain rfl

theorem Speaks.relay (h : t.Speaks context input origin clientId) {message : Broker.Message}
    (hplain : message.isPlain = true) :
    (t.relay context message).Speaks context input origin clientId :=
  h.whenConnected fun _ _ => h.forward (.plain hplain)

/-! ### Messages of the device -/

/-- A CONNECT tells the broker of the device that has asked for it. -/
theorem Speaks.connectBroker (h : t.Speaks context input origin clientId)
    {request : Sensor.Connect} {will : Option Broker.Will}
    (hasks : Hands context input origin (.connect (brokerConnect context request will))) :
    (t.connectBroker context request will).Speaks context input origin clientId := by
  have hopened := (h.enter .idle).openBroker context.line
  unfold Transition.connectBroker
  rcases hopen : (t.enter .idle).openBroker context.line with ⟨isOpen, opened⟩
  rw [hopen] at hopened
  cases isOpen with
  | false => exact hopened
  | true =>
    have hsent := hopened.sendBroker context.line hasks
    simp only
    rcases hsend : opened.sendBroker context.line (.connect (brokerConnect context request will))
      with ⟨taken, sent⟩
    rw [hsend] at hsent
    cases taken with
    | false => exact hsent.closeBroker
    | true => exact hsent.enter .awaitingConnack

theorem Speaks.establish (h : t.Speaks context input origin clientId) {seen : Address}
    {request : Sensor.Connect} {link : LinkName}
    (hinput : input = .sensor seen (.connect request) link) :
    (t.establish context request).Speaks context input origin clientId := by
  unfold Transition.establish
  split
  · exact ((h.plain rfl).enter _).quiet rfl rfl rfl
  · exact h.connectBroker (.connect hinput)

/-- Whatever becomes of a CONNECT, the session goes by its client id from then on. -/
theorem Speaks.connect (h : t.Speaks context input origin clientId) {seen : Address}
    {request : Sensor.Connect} {link : LinkName}
    (hinput : input = .sensor seen (.connect request) link) :
    (t.connect context request).Speaks context input origin request.clientId := by
  have hnamed : Speaks context input origin request.clientId
      (t.update fun session => { session with clientId := request.clientId }) :=
    ⟨h.told, h.handed, h.passedOn, h.learned, rfl⟩
  unfold Transition.connect
  simp only
  split
  next => exact hnamed.plain rfl
  next => exact (hnamed.closeBroker.enter .idle).establish hinput
  next => exact hnamed.establish hinput
  next => exact hnamed
  next => exact hnamed

theorem Speaks.willTopic (h : t.Speaks context input origin clientId) (will : Sensor.WillTopic) :
    (t.willTopic will).Speaks context input origin clientId := by
  unfold Transition.willTopic
  split
  · exact (((h.quiet rfl rfl rfl).plain rfl).enter _).quiet rfl rfl rfl
  · exact h

theorem Speaks.willMessage (h : t.Speaks context input origin clientId)
    (hsame : t.session.phase = origin.phase) {seen : Address} {data : Bytes} {link : LinkName}
    (hinput : input = .sensor seen (.willMessage data) link) :
    (t.willMessage context data).Speaks context input origin clientId := by
  unfold Transition.willMessage
  split
  next request will tries hphase =>
    exact (h.quiet rfl rfl rfl).connectBroker (.connectWithWill hinput (hsame.symm.trans hphase))
  next => exact h

theorem Speaks.register (h : t.Speaks context input origin clientId) {seen : Address}
    {registration : Sensor.Register} {link : LinkName}
    (hinput : input = .sensor seen (.register registration) link) :
    (t.register registration).Speaks context input origin clientId := by
  have hregistered : Speaks context input origin clientId (t.update fun session =>
      { session with topics := (t.session.topics.register registration.topic).2 }) := by
    refine h.topics fun name hin => ?_
    rcases Topic.Table.holds_register hin with rfl | hold
    · exact .inr (.register hinput)
    · exact .inl hold
  exact hregistered.plain rfl

theorem Speaks.endRegistration (h : t.Speaks context input origin clientId)
    (exchanges : Exchanges) :
    (t.endRegistration exchanges).Speaks context input origin clientId :=
  (h.enter _).quiet rfl rfl rfl

theorem Speaks.regack (h : t.Speaks context input origin clientId)
    (hphase : origin.phase = .connected exchanges) (ack : Sensor.TopicAck) :
    (t.regack exchanges ack).Speaks context input origin clientId := by
  unfold Transition.regack
  split
  next => exact h
  next registration hsome =>
    rw [← exchanges_of_connected hphase] at hsome
    split
    · exact h
    · have hended := h.endRegistration exchanges
      simp only
      split
      · exact hended
      · refine Speaks.toDevice ?_ (.release hsome)
        refine hended.topics fun name hin => ?_
        rcases Topic.Table.holds_assign hin with rfl | hold
        · exact .inr (.bind hsome)
        · exact .inl hold

theorem Speaks.publish (h : t.Speaks context input origin clientId)
    (htopics : t.session.topics = origin.topics) {seen : Address} {publication : Sensor.Publish}
    {link : LinkName} (hinput : input = .sensor seen (.publish publication) link) :
    (t.publish context exchanges publication).Speaks context input origin clientId := by
  simp only [Transition.publish, htopics]
  split
  · exact h
  · split
    next => exact h.plain rfl
    next topic htopic =>
      have hasks : Hands context input origin _ := .publish hinput htopic
      by_cases hqos : publication.flags.qos = .atLeastOnce
      · simp only [hqos, if_true] at hasks ⊢
        exact h.forward_then hasks fun next hnext => hnext.enter _
      · simp only [hqos, if_false]
        exact h.forward_then hasks fun next hnext => hnext

theorem Speaks.puback (h : t.Speaks context input origin clientId) (ack : Sensor.TopicAck) :
    (t.puback context ack).Speaks context input origin clientId := by
  unfold Transition.puback
  split
  · exact h.topics fun name hin => .inl (Topic.Table.holds_removeId hin)
  · exact h.forward (.plain rfl)

theorem Speaks.subscribe (h : t.Speaks context input origin clientId)
    (htopics : t.session.topics = origin.topics) {seen : Address} {request : Sensor.TopicRequest}
    {link : LinkName} (hinput : input = .sensor seen (.subscribe request) link) :
    (t.subscribe context exchanges request).Speaks context input origin clientId := by
  simp only [Transition.subscribe, htopics]
  split
  · exact h
  · split
    next => exact h.plain rfl
    next name hname =>
      exact h.forward_then (.subscribe hinput hname) fun next hnext => hnext.enter _

theorem Speaks.unsubscribe (h : t.Speaks context input origin clientId)
    (htopics : t.session.topics = origin.topics) {seen : Address} {request : Sensor.TopicRequest}
    {link : LinkName} (hinput : input = .sensor seen (.unsubscribe request) link) :
    (t.unsubscribe context exchanges request).Speaks context input origin clientId := by
  simp only [Transition.unsubscribe, htopics]
  split
  · exact h
  · split
    next => exact h
    next name hname =>
      exact h.forward_then (.unsubscribe hinput hname) fun next hnext => hnext.enter _

theorem Speaks.disconnect (h : t.Speaks context input origin clientId) :
    (t.disconnect context).Speaks context input origin clientId := by
  unfold Transition.disconnect
  split
  · exact h
  · split
    · exact (h.sendBroker context.line (.plain rfl)).tearDown
    · exact h.tearDown

def nextClientId (clientId : String) : Sensor.Message → String
  | .connect request => request.clientId
  | _ => clientId

/-- All that is said about a message of the device is accounted for. -/
theorem speaks_sensor (seen : Address) (message : Sensor.Message) (link : LinkName)
    (session : Session) :
    ((Transition.start session).sensor context message link).Speaks context
      (.sensor seen message link) session (nextClientId session.clientId message) := by
  have h : (Transition.start session).Speaks context (.sensor seen message link) session
      session.clientId := speaks_start session
  cases message with
  | searchGateway radius => exact h.passOn rfl rfl
  | connect request => exact h.connect rfl
  | willTopic will => exact h.willTopic will
  | willMessage data => exact h.willMessage rfl rfl
  | register registration => exact h.whenConnected fun _ _ => h.register rfl
  | regack ack => exact h.whenConnected fun _ hphase => h.regack hphase ack
  | publish publication =>
    by_cases hlevel : publication.flags.qos = .minusOne
    · rw [Transition.sensor_of_minusOne hlevel]
      exact h.passOn rfl (beq_iff_eq.mpr hlevel)
    · rw [Transition.sensor_of_ne_minusOne hlevel]
      exact h.whenConnected fun _ _ => h.publish rfl rfl
  | puback ack => exact h.whenConnected fun _ _ => h.puback ack
  | pubrec msgId => exact h.relay rfl
  | pubrel msgId => exact h.relay rfl
  | pubcomp msgId => exact h.relay rfl
  | subscribe request => exact h.whenConnected fun _ _ => h.subscribe rfl rfl
  | unsubscribe request => exact h.whenConnected fun _ _ => h.unsubscribe rfl rfl
  | pingRequest name => exact h.relay rfl
  | pingResponse => exact h.relay rfl
  | disconnect duration => exact h.disconnect
  | _ => exact h

/-! ### Messages of the broker -/

theorem Speaks.connack (h : t.Speaks context input origin clientId) (code : UInt8) :
    (t.connack code).Speaks context input origin clientId := by
  unfold Transition.connack
  split
  · split
    · exact (h.enter _).plain rfl
    · exact h.tearDown
  · exact h

theorem Speaks.takeMsgId (h : t.Speaks context input origin clientId) :
    t.takeMsgId.2.Speaks context input origin clientId :=
  ⟨h.told, h.handed, h.passedOn, h.learned, h.clientId⟩

theorem Speaks.offerTopic (h : t.Speaks context input origin clientId) (exchanges : Exchanges)
    {publication : Broker.Publish} (hinput : input = .broker (.publish publication))
    (hfits : FitsFrame context.config publication) :
    (t.offerTopic exchanges publication).Speaks context input origin clientId := by
  unfold Transition.offerTopic
  split
  · exact h
  · by_cases hfull : t.session.topics.next > 65535
    · simp only [Topic.Table.allocate, hfull, if_true]
      exact h
    · simp only [Topic.Table.allocate, hfull, if_false]
      have hallocated : Speaks context input origin clientId (t.update fun session =>
          { session with topics :=
            { t.session.topics with next := t.session.topics.next + 1 } }) :=
        h.topics fun name hin => .inl hin
      refine Speaks.quiet (Speaks.enter (hallocated.takeMsgId.toDevice ?_) _) rfl rfl rfl
      exact .offer hinput hfits

theorem Speaks.deliver (h : t.Speaks context input origin clientId) (exchanges : Exchanges)
    {publication : Broker.Publish} (hinput : input = .broker (.publish publication)) :
    (t.deliver context exchanges publication).Speaks context input origin clientId := by
  simp only [Transition.deliver]
  split
  · exact h
  next hdata =>
    split
    · exact h
    next htopic =>
      have hfits : FitsFrame context.config publication :=
        ⟨Nat.not_lt.mp hdata, Nat.not_lt.mp htopic⟩
      split
      · exact h.toDevice (.deliver _ _ hinput hfits)
      · split
        · exact h.toDevice (.deliver _ _ hinput hfits)
        · exact h.offerTopic exchanges hinput hfits

theorem Speaks.confirmPublish (h : t.Speaks context input origin clientId) (exchanges : Exchanges)
    (msgId : UInt16) :
    (t.confirmPublish exchanges msgId).Speaks context input origin clientId := by
  unfold Transition.confirmPublish
  split
  · exact h
  · split
    · exact h
    · exact (h.enter _).plain rfl

/-- A subscription brings in the name that was asked for, if it was asked for by
name. -/
theorem holds_grantTopic {topics : Topic.Table} {topic : Sensor.TopicRef} {name : String}
    (h : (grantTopic topics topic).2.2.Holds name) : topic = .named name ∨ topics.Holds name := by
  cases topic with
  | named full =>
    by_cases hwild : Topic.isWildcard full = true
    · simp only [grantTopic, hwild, if_true] at h
      exact .inr h
    · simp only [grantTopic, hwild] at h
      rcases Topic.Table.holds_register h with rfl | hold
      · exact .inl rfl
      · exact .inr hold
  | short first second => exact .inr h
  | predefined id => exact .inr h

theorem Speaks.confirmSubscribe (h : t.Speaks context input origin clientId)
    (hphase : origin.phase = .connected exchanges) (msgId : UInt16) (granted : UInt8) :
    (t.confirmSubscribe exchanges msgId granted).Speaks context input origin clientId := by
  unfold Transition.confirmSubscribe
  split
  next => exact h
  next request hsome =>
    rw [← exchanges_of_connected hphase] at hsome
    split
    · exact h
    · refine Speaks.plain ?_ rfl
      refine (h.enter _).topics fun name hin => ?_
      rcases holds_grantTopic hin with htopic | hold
      · exact .inr (.grant hsome htopic)
      · exact .inl hold

theorem Speaks.confirmUnsubscribe (h : t.Speaks context input origin clientId)
    (exchanges : Exchanges) (msgId : UInt16) :
    (t.confirmUnsubscribe exchanges msgId).Speaks context input origin clientId := by
  unfold Transition.confirmUnsubscribe
  split
  · exact h
  next request _ =>
    split
    · exact h
    · refine Speaks.plain ?_ rfl
      refine (h.enter (.connected { exchanges with unsubscribe := none })).topics
        fun name hin => .inl ?_
      cases htopic : request.topic with
      | named full =>
        simp only [htopic] at hin
        exact Topic.Table.holds_removeName hin
      | short first second =>
        simp only [htopic] at hin
        exact hin
      | predefined id =>
        simp only [htopic] at hin
        exact hin

theorem speaks_brokerConnected (h : t.Speaks context (.broker message) origin clientId)
    (hphase : origin.phase = .connected exchanges) :
    (t.brokerConnected context exchanges message).Speaks context (.broker message) origin
      clientId := by
  cases message with
  | publish publication => exact h.deliver exchanges rfl
  | puback msgId => exact h.confirmPublish exchanges msgId
  | pubrec msgId => exact h.plain rfl
  | pubrel msgId => exact h.plain rfl
  | pubcomp msgId => exact h.plain rfl
  | suback msgId granted => exact h.confirmSubscribe hphase msgId _
  | unsuback msgId => exact h.confirmUnsubscribe exchanges msgId
  | pingRequest => exact h.plain rfl
  | pingResponse => exact h.plain rfl
  | _ => exact h

/-- So is all that is said about a message of the broker. -/
theorem speaks_broker (message : Broker.Message) (session : Session) :
    ((Transition.start session).broker context message).Speaks context (.broker message) session
      session.clientId := by
  have h : (Transition.start session).Speaks context (.broker message) session
      session.clientId := speaks_start session
  unfold Transition.broker
  split
  next code => exact h.connack code
  next =>
    split
    next exchanges hphase => exact speaks_brokerConnected h hphase
    next => exact h

/-! ### Signals -/

theorem Speaks.willTopicTimeout (h : t.Speaks context input origin clientId) :
    (t.willTopicTimeout context).Speaks context input origin clientId := by
  unfold Transition.willTopicTimeout
  split
  · split
    · exact (h.enter .idle).quiet rfl rfl rfl
    · exact (h.plain rfl).enter _
  · exact h

theorem Speaks.willMessageTimeout (h : t.Speaks context input origin clientId) :
    (t.willMessageTimeout context).Speaks context input origin clientId := by
  unfold Transition.willMessageTimeout
  split
  · split
    · exact (h.enter .idle).quiet rfl rfl rfl
    · exact (h.plain rfl).enter _
  · exact h

theorem speaks_regackTimeout (session : Session) :
    ((Transition.start session).regackTimeout context).Speaks context (.signal .regackTimeout)
      session session.clientId := by
  have h : (Transition.start session).Speaks context (.signal .regackTimeout) session
      session.clientId := speaks_start session
  unfold regackTimeout
  split
  next exchanges hphase =>
    split
    next => exact h
    next registration hsome =>
      rw [← exchanges_of_connected hphase] at hsome
      split
      · exact h.endRegistration exchanges
      · have hagain : Tells context.config (.signal .regackTimeout) session (offer
            { registration with msgId := session.nextMsgId, tries := registration.tries + 1 }) :=
          .again rfl hsome rfl
        exact (h.takeMsgId.toDevice hagain).enter _
  next => exact h

theorem Speaks.shutDown (h : t.Speaks context input origin clientId) :
    (t.shutDown context).Speaks context input origin clientId := by
  simp only [Transition.shutDown]
  split
  · exact (h.sendBroker context.line (.plain rfl)).closeBroker.quiet rfl rfl rfl
  · exact h.closeBroker.quiet rfl rfl rfl

/-- So is all that is said about a signal. -/
theorem speaks_signal (signal : Signal) (session : Session) :
    ((Transition.start session).signal context signal).Speaks context (.signal signal) session
      session.clientId := by
  have h : (Transition.start session).Speaks context (.signal signal) session session.clientId :=
    speaks_start session
  cases signal with
  | connectionLost => exact h.connectionLost
  | willTopicTimeout => exact h.willTopicTimeout
  | willMessageTimeout => exact h.willMessageTimeout
  | regackTimeout => exact speaks_regackTimeout session
  | shutDown => exact h.shutDown
  | checkInactivity => exact h
  | sendKeepAlive => exact h

end Transition

/-! ### Whole turns -/

/-- The client id by which a session goes after a turn: the one that its device has
just told, or else the one of before. -/
def Input.clientId (before : String) : Input → String
  | sensor _ message _ => Transition.nextClientId before message
  | broker _ | signal _ => before

/-- Every turn says and learns what its sources have to say. -/
theorem take_speaks (config : Config) (turn : Turn) (session : Session) :
    (session.take config turn).Speaks (turn.context config) turn.input (session.hear config turn)
      (turn.input.clientId session.clientId) := by
  obtain ⟨now, line, input⟩ := turn
  cases input with
  | sensor seen message link => exact Transition.speaks_sensor seen message link _
  | broker message => exact Transition.speaks_broker message _
  | signal signal =>
    simp only [take, hear, onSignal]
    split
    · exact (Transition.speaks_start session).closeBroker.quiet rfl rfl rfl
    · exact Transition.speaks_signal signal session

end Session

end SensorGateway
