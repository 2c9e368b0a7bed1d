import SensorGateway.Session.Device

/-!
What a session does with a message of the broker. Until the broker has taken
the connection, its answer to the CONNECT is all that counts.
-/

namespace SensorGateway.Session

namespace Transition

/-- The broker takes or refuses the connection. -/
def connack (code : UInt8) (transition : Transition) : Transition :=
  match transition.session.phase with
  | .awaitingConnack =>
      if code = Broker.Message.accepted then
        (transition.enter (.connected {})).toDevice (.connack .accepted)
      else transition.tearDown
  | _ => transition

/-- Takes a fresh message id. They are counted from 1 to 65535 and then from 1
again. -/
def takeMsgId (transition : Transition) : UInt16 × Transition :=
  let id := transition.session.nextMsgId
  (id, transition.update fun session =>
    { session with nextMsgId := if id = 65535 then 1 else id + 1 })

/-- The offer of a registration. -/
def offer (registration : Registration) : Sensor.Message :=
  .register ⟨registration.topicId, registration.msgId, registration.publication.topic⟩

/-- The device has no id for the topic of a publication: it is offered one, and
the publication waits for the answer. There is one offer at a time. -/
def offerTopic (exchanges : Exchanges) (publication : Broker.Publish) (transition : Transition) :
    Transition :=
  if exchanges.registration.isSome then transition
  else
    match transition.session.topics.allocate with
    | (none, _) => transition
    | (some topicId, topics) =>
        let (msgId, transition) :=
          (transition.update fun session => { session with topics }).takeMsgId
        let registration : Registration := { topicId, msgId, publication, tries := 1 }
        (transition.toDevice (offer registration))
          |>.enter (.connected { exchanges with registration := some registration })
          |>.emit (.arm .regackTimeout)

/-- The broker publishes for the device. What does not fit a frame is dropped.
The topic goes by its smallest id, or else by its short name, or else an id is
offered to the device first. -/
def deliver (context : Context) (exchanges : Exchanges) (publication : Broker.Publish)
    (transition : Transition) : Transition :=
  let longest := context.config.maxFrameLength
  if publication.data.length > longest - 7 then transition
  else if publication.topic.utf8ByteSize > longest - 6 then transition
  else
    let topics := transition.session.topics
    match topics.id? publication.topic with
    | some topicId =>
        let type := if topics.isPredefined topicId then .predefined else .normal
        transition.toDevice (delivery publication type topicId)
    | none =>
        match Topic.shortId? publication.topic with
        | some topicId => transition.toDevice (delivery publication .short topicId)
        | none => transition.offerTopic exchanges publication

/-- The broker confirms a publication. -/
def confirmPublish (exchanges : Exchanges) (msgId : UInt16) (transition : Transition) :
    Transition :=
  match exchanges.publish with
  | none => transition
  | some publication =>
      if publication.msgId ≠ msgId then transition
      else
        (transition.enter (.connected { exchanges with publish := none })).toDevice
          (.puback ⟨publication.topicId, msgId, .accepted⟩)

/-- What the answer to a subscription tells about its topic. A full name gets an
id, unless it stands for many topics. -/
def grantTopic (topics : Topic.Table) (topic : Sensor.TopicRef) :
    Sensor.TopicIdType × UInt16 × Topic.Table :=
  match topic with
  | .named name =>
      if Topic.isWildcard name then (.normal, 0, topics)
      else
        let (id?, topics) := topics.register name
        (.normal, id?.getD 0, topics)
  | .short first second => (.short, Word.join first second, topics)
  | .predefined id => (.predefined, id, topics)

/-- The broker confirms a subscription and tells the level that it grants. -/
def confirmSubscribe (exchanges : Exchanges) (msgId : UInt16) (granted : UInt8)
    (transition : Transition) : Transition :=
  match exchanges.subscribe with
  | none => transition
  | some request =>
      if request.msgId ≠ msgId then transition
      else
        let (type, topicId, topics) := grantTopic transition.session.topics request.topic
        let qos := (Sensor.QoS.ofLevel? granted).getD .atMostOnce
        (transition.enter (.connected { exchanges with subscribe := none }))
          |>.update (fun session => { session with topics })
          |>.toDevice (.suback
            { flags := .ofData false qos false type, topicId, msgId, returnCode := .accepted })

/-- The broker confirms that a subscription has ended. A full name then loses
its ids. -/
def confirmUnsubscribe (exchanges : Exchanges) (msgId : UInt16) (transition : Transition) :
    Transition :=
  match exchanges.unsubscribe with
  | none => transition
  | some request =>
      if request.msgId ≠ msgId then transition
      else
        let forget (topics : Topic.Table) : Topic.Table :=
          match request.topic with
          | .named _ => (topics.removeName request.name).2
          | _ => topics
        (transition.enter (.connected { exchanges with unsubscribe := none }))
          |>.update (fun session => { session with topics := forget session.topics })
          |>.toDevice (.unsuback msgId)

/-- Deals with a message of the broker for a connected device. -/
def brokerConnected (context : Context) (exchanges : Exchanges) (message : Broker.Message)
    (transition : Transition) : Transition :=
  match message with
  | .publish publication => transition.deliver context exchanges publication
  | .puback msgId => transition.confirmPublish exchanges msgId
  | .pubrec msgId => transition.toDevice (.pubrec msgId)
  | .pubrel msgId => transition.toDevice (.pubrel msgId)
  | .pubcomp msgId => transition.toDevice (.pubcomp msgId)
  | .suback msgId granted => transition.confirmSubscribe exchanges msgId (granted.head?.getD 0)
  | .unsuback msgId => transition.confirmUnsubscribe exchanges msgId
  | .pingRequest => transition.toDevice (.pingRequest none)
  | .pingResponse => transition.toDevice .pingResponse
  | _ => transition

/-- Deals with a message of the broker. -/
def broker (context : Context) (message : Broker.Message) (transition : Transition) :
    Transition :=
  match message with
  | .connack code => transition.connack code
  | _ =>
      match transition.session.phase with
      | .connected exchanges => transition.brokerConnected context exchanges message
      | _ => transition

end Transition

/-- Takes a message of the broker, by which the device counts as alive. -/
def onBroker (context : Context) (message : Broker.Message) (session : Session) : Transition :=
  Transition.start { session with deadline := context.deadline } |>.broker context message

end SensorGateway.Session
