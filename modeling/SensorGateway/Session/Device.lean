import SensorGateway.Session.Basic
import SensorGateway.Topic.Resolve

/-!
What a session does with a message of its device. Only a connected device may
publish, subscribe and so on; the others are told that they are disconnected.
A search for gateways and a publication at level minus one are not for the
broker of this device and go to the gateway, whatever the session is doing.
-/

namespace SensorGateway.Session

/-- The level at which the broker is asked. Minus one counts as 0. -/
def brokerLevel (qos : Sensor.QoS) : UInt8 := qos.level?.getD 0

/-- The will that a device asked for. With an empty topic it asked for none. -/
def brokerWill (will : Sensor.WillTopic) (data : Bytes) : Option Broker.Will :=
  let flags := will.flags.getD {}
  if will.topic.isEmpty then none
  else some { topic := will.topic, data, qos := brokerLevel flags.qos, retain := flags.retain }

/-- The CONNECT by which the broker gets to know a device. -/
def brokerConnect (context : Context) (request : Sensor.Connect) (will : Option Broker.Will) :
    Broker.Connect where
  protocolName := context.config.connect.protocolName
  protocolVersion := context.config.connect.protocolVersion
  clientId := request.clientId
  cleanSession := request.flags.cleanSession
  keepAlive := request.duration
  will := will

namespace Transition

/-- Opens the broker link and asks the broker to connect the device. If either
fails the device is left without an answer and may ask again. -/
def connectBroker (context : Context) (request : Sensor.Connect) (will : Option Broker.Will)
    (transition : Transition) : Transition :=
  match (transition.enter .idle).openBroker context.line with
  | (false, transition) => transition
  | (true, transition) =>
      match transition.sendBroker context.line (.connect (brokerConnect context request will)) with
      | (false, transition) => transition.closeBroker
      | (true, transition) => transition.enter .awaitingConnack

/-- Begins to connect a device: with the broker, or with the will if the device
has one. -/
def establish (context : Context) (request : Sensor.Connect) (transition : Transition) :
    Transition :=
  if request.flags.will then
    (transition.toDevice .willTopicRequest).enter (.awaitingWillTopic request 1)
      |>.emit (.arm .willTopicTimeout)
  else transition.connectBroker context request none

/-- A connected device is told so again. While the broker has not answered, the
connection is begun anew; while the device is asked for its will, a repeated
request is ignored. -/
def connect (context : Context) (request : Sensor.Connect) (transition : Transition) :
    Transition :=
  let transition := transition.update fun session => { session with clientId := request.clientId }
  match transition.session.phase with
  | .connected _ => transition.toDevice (.connack .accepted)
  | .awaitingConnack => (transition.closeBroker.enter .idle).establish context request
  | .idle => transition.establish context request
  | .awaitingWillTopic .. | .awaitingWillMessage .. => transition

def willTopic (will : Sensor.WillTopic) (transition : Transition) : Transition :=
  match transition.session.phase with
  | .awaitingWillTopic request _ =>
      (transition.emit (.disarm .willTopicTimeout)).toDevice .willMessageRequest
        |>.enter (.awaitingWillMessage request will 1)
        |>.emit (.arm .willMessageTimeout)
  | _ => transition

def willMessage (context : Context) (data : Bytes) (transition : Transition) : Transition :=
  match transition.session.phase with
  | .awaitingWillMessage request will _ =>
      (transition.emit (.disarm .willMessageTimeout)).connectBroker context request
        (brokerWill will data)
  | _ => transition

/-- The device wants an id for a name. -/
def register (registration : Sensor.Register) (transition : Transition) : Transition :=
  let (id?, topics) := transition.session.topics.register registration.topic
  let answer : Sensor.TopicAck :=
    match id? with
    | some id => ⟨id, registration.msgId, .accepted⟩
    | none => ⟨0, registration.msgId, .congestion⟩
  (transition.update fun session => { session with topics }).toDevice (.regack answer)

/-- Ends an offer of a topic id. -/
def endRegistration (exchanges : Exchanges) (transition : Transition) : Transition :=
  (transition.enter (.connected { exchanges with registration := none })).emit
    (.disarm .regackTimeout)

/-- A publication as the device gets it, under a topic id of this type. -/
def delivery (publication : Broker.Publish) (type : Sensor.TopicIdType) (topicId : UInt16) :
    Sensor.Message :=
  let qos := (Sensor.QoS.ofLevel? publication.qos).getD .atMostOnce
  .publish
    { flags := .ofData publication.dup qos publication.retain type
      topicId
      msgId := publication.msgId
      data := publication.data }

/-- The device answers an offer. If it takes it, the name gets its id and the
publication that waited is sent. -/
def regack (exchanges : Exchanges) (ack : Sensor.TopicAck) (transition : Transition) :
    Transition :=
  match exchanges.registration with
  | none => transition
  | some registration =>
      if ack.msgId ≠ registration.msgId then transition
      else
        let transition := transition.endRegistration exchanges
        if ack.returnCode ≠ .accepted then transition
        else
          (transition.update fun session =>
            { session with
              topics :=
                (session.topics.assign registration.topicId registration.publication.topic).2 })
            |>.toDevice (delivery registration.publication .normal registration.topicId)

/-- The device publishes. At level 1 the publication is remembered until the
broker confirms it, and another one is ignored until then. -/
def publish (context : Context) (exchanges : Exchanges) (publication : Sensor.Publish)
    (transition : Transition) : Transition :=
  let flags := publication.flags
  if exchanges.publish.isSome ∧ flags.qos = .atLeastOnce then transition
  else
    match transition.session.topics.resolve? flags.topicIdType publication.topicId with
    | none =>
        transition.toDevice (.puback ⟨publication.topicId, publication.msgId, .invalidTopicId⟩)
    | some topic =>
        let message : Broker.Publish :=
          { dup := flags.dup, qos := brokerLevel flags.qos, retain := flags.retain, topic
            msgId := publication.msgId, data := publication.data }
        match transition.forward context.line (.publish message) with
        | (false, transition) => transition
        | (true, transition) =>
            if flags.qos = .atLeastOnce then
              transition.enter (.connected
                { exchanges with publish := some ⟨publication.topicId, publication.msgId⟩ })
            else transition

/-- The device answers a publication. An id that it does not know loses its
name. -/
def puback (context : Context) (ack : Sensor.TopicAck) (transition : Transition) : Transition :=
  if ack.returnCode = .invalidTopicId then
    transition.update fun session =>
      { session with topics := (session.topics.removeId ack.topicId).2 }
  else (transition.forward context.line (.puback ack.msgId)).2

/-- The id that is told in an answer to a subscription to an unknown topic. -/
def unknownTopicId : Sensor.TopicRef → UInt16
  | .predefined id => id
  | _ => 0

def subscribe (context : Context) (exchanges : Exchanges) (request : Sensor.TopicRequest)
    (transition : Transition) : Transition :=
  if exchanges.subscribe.isSome then transition
  else
    match transition.session.topics.resolveRef? request.topic with
    | none =>
        transition.toDevice (.suback
          { flags := .ofData false .atMostOnce false .predefined
            topicId := unknownTopicId request.topic
            msgId := request.msgId
            returnCode := .invalidTopicId })
    | some name =>
        let topics := [(name, brokerLevel request.flags.qos)]
        match transition.forward context.line
            (.subscribe request.flags.dup request.msgId topics) with
        | (false, transition) => transition
        | (true, transition) =>
            transition.enter (.connected
              { exchanges with subscribe := some ⟨request.msgId, request.topic, name⟩ })

def unsubscribe (context : Context) (exchanges : Exchanges) (request : Sensor.TopicRequest)
    (transition : Transition) : Transition :=
  if exchanges.unsubscribe.isSome then transition
  else
    match transition.session.topics.resolveRef? request.topic with
    | none => transition
    | some name =>
        match transition.forward context.line
            (.unsubscribe request.flags.dup request.msgId [name]) with
        | (false, transition) => transition
        | (true, transition) =>
            transition.enter (.connected
              { exchanges with unsubscribe := some ⟨request.msgId, request.topic, name⟩ })

/-- The device leaves. The broker is told if it can be. -/
def disconnect (context : Context) (transition : Transition) : Transition :=
  match transition.session.phase with
  | .idle => transition
  | _ =>
      if transition.session.brokerOpen then
        (transition.sendBroker context.line .disconnect).2.tearDown
      else transition.tearDown

/-- Runs `step` if the device is connected and refuses it otherwise. -/
def whenConnected (transition : Transition) (step : Exchanges → Transition → Transition) :
    Transition :=
  match transition.session.phase with
  | .connected exchanges => step exchanges transition
  | _ => transition.refuse

/-- Hands a message to the broker if the device is connected. -/
def relay (context : Context) (message : Broker.Message) (transition : Transition) :
    Transition :=
  transition.whenConnected fun _ transition => (transition.forward context.line message).2

/-- Deals with a message of the device. -/
def sensor (context : Context) (message : Sensor.Message) (link : LinkName)
    (transition : Transition) : Transition :=
  match message with
  | .searchGateway _ => transition.emit (.forGateway message link)
  | .connect request => transition.connect context request
  | .willTopic will => transition.willTopic will
  | .willMessage data => transition.willMessage context data
  | .register registration => transition.whenConnected fun _ => register registration
  | .regack ack => transition.whenConnected fun exchanges => regack exchanges ack
  | .publish publication =>
      if publication.flags.qos = .minusOne then transition.emit (.forGateway message link)
      else transition.whenConnected fun exchanges => publish context exchanges publication
  | .puback ack => transition.whenConnected fun _ => puback context ack
  | .pubrec msgId => transition.relay context (.pubrec msgId)
  | .pubrel msgId => transition.relay context (.pubrel msgId)
  | .pubcomp msgId => transition.relay context (.pubcomp msgId)
  | .subscribe request =>
      transition.whenConnected fun exchanges => subscribe context exchanges request
  | .unsubscribe request =>
      transition.whenConnected fun exchanges => unsubscribe context exchanges request
  | .pingRequest _ => transition.relay context .pingRequest
  | .pingResponse => transition.relay context .pingResponse
  | .disconnect _ => transition.disconnect context
  | _ => transition

/-- A publication at level minus one is passed on to the gateway. -/
theorem sensor_of_minusOne {context : Context} {publication : Sensor.Publish} {link : LinkName}
    {transition : Transition} (h : publication.flags.qos = .minusOne) :
    transition.sensor context (.publish publication) link =
      transition.emit (.forGateway (.publish publication) link) := if_pos h

/-- Any other publication is for the broker of the device. -/
theorem sensor_of_ne_minusOne {context : Context} {publication : Sensor.Publish}
    {link : LinkName} {transition : Transition} (h : publication.flags.qos ≠ .minusOne) :
    transition.sensor context (.publish publication) link =
      transition.whenConnected fun exchanges => publish context exchanges publication := if_neg h

end Transition

/-- Takes a message of the device, which is then known to be alive and to be
reached over this link. -/
def onSensor (context : Context) (message : Sensor.Message) (link : LinkName)
    (session : Session) : Transition :=
  Transition.start { session with deadline := context.deadline, link := some link }
    |>.sensor context message link

end SensorGateway.Session
