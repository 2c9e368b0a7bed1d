import SensorGateway.Proofs.Session.Run

/-!
A session without phases. The ledger of a session has a mark for every answer
that is waited for, a counter for every request that is repeated, and a place
for every message that is kept until the answer comes. Marks, counters and
places are set and cleared one by one, and nothing about their types keeps them
together. Where a step finds a mark without the message that belongs to it, it
falls back on dropping the mark, and says so.
-/

namespace SensorGateway.Session

/-- The answers that are waited for, and how often the requests were sent. -/
structure Marks where
  willTopic : Bool := false
  willMessage : Bool := false
  connack : Bool := false
  regack : Bool := false
  suback : Bool := false
  unsuback : Bool := false
  puback : Bool := false
  willTopicTries : UInt32 := 0
  willMessageTries : UInt32 := 0
  registerTries : UInt32 := 0

def Marks.isEstablishing (marks : Marks) : Bool :=
  marks.willTopic || marks.willMessage || marks.connack

structure Kept where
  connect : Option Sensor.Connect := none
  willTopic : Option Sensor.WillTopic := none
  register : Option Sensor.Register := none
  brokerPublish : Option Broker.Publish := none
  publish : Option PublishInFlight := none
  subscribe : Option RequestInFlight := none
  unsubscribe : Option RequestInFlight := none

/-- The places where a mark may turn out to have lost its message. -/
inductive Fallback where
  | willMessage | regack | regackTimeout | puback | suback | unsuback
deriving DecidableEq

structure Ledger where
  address : Address
  clientId : String
  link : Option LinkName
  brokerOpen : Bool
  topics : Topic.Table
  state : State
  marks : Marks
  kept : Kept
  deadline : Nat
  nextMsgId : UInt16

namespace Ledger

def isConnected (ledger : Ledger) : Bool := ledger.state == .connected

def begin (config : Config) (address : Address) (now : Nat) : Ledger where
  address := address
  clientId := ""
  link := none
  brokerOpen := false
  topics := config.topicTable
  state := .notConnected
  marks := {}
  kept := {}
  deadline := Context.deadline { config, now, line := {} }
  nextMsgId := 1

/-- A ledger on its way through a step, what the step did so far, and where it
had to fall back. -/
structure Transition where
  ledger : Ledger
  effects : List Effect
  fallbacks : List Fallback

namespace Transition

def start (ledger : Ledger) : Transition := ⟨ledger, [], []⟩

def update (transition : Transition) (f : Ledger → Ledger) : Transition :=
  { transition with ledger := f transition.ledger }

def mark (transition : Transition) (f : Marks → Marks) : Transition :=
  transition.update fun ledger => { ledger with marks := f ledger.marks }

def keep (transition : Transition) (f : Kept → Kept) : Transition :=
  transition.update fun ledger => { ledger with kept := f ledger.kept }

def emit (transition : Transition) (effect : Effect) : Transition :=
  { transition with effects := transition.effects ++ [effect] }

def fallBack (transition : Transition) (fallback : Fallback) : Transition :=
  { transition with fallbacks := transition.fallbacks ++ [fallback] }

def toDevice (transition : Transition) (message : Sensor.Message) : Transition :=
  match transition.ledger.link with
  | none => transition
  | some link => transition.emit (.device link transition.ledger.address message)

def openBroker (transition : Transition) (line : Broker.Line) : Bool × Transition :=
  let wasOpen := transition.ledger.brokerOpen
  let failure := if wasOpen then none else line.openFailure
  (failure.isNone,
    (transition.emit (.broker (.opening wasOpen failure))).update fun ledger =>
      { ledger with brokerOpen := failure.isNone })

def sendBroker (transition : Transition) (line : Broker.Line) (message : Broker.Message) :
    Bool × Transition :=
  let wasOpen := transition.ledger.brokerOpen
  let (result, isOpen) := line.send wasOpen message
  (result.isOk,
    (transition.emit (.broker (.sending wasOpen message result isOpen))).update fun ledger =>
      { ledger with brokerOpen := isOpen })

def closeBroker (transition : Transition) : Transition :=
  (transition.emit (.broker (.closing transition.ledger.brokerOpen))).update fun ledger =>
    { ledger with brokerOpen := false }

/-- Tells the device that it is disconnected and clears every mark, counter and
place. -/
def tearDown (transition : Transition) : Transition :=
  (transition.toDevice (.disconnect none)).update (fun ledger =>
      { ledger with state := .disconnected })
    |>.emit .disarmAll
    |>.mark (fun _ => {})
    |>.keep (fun _ => {})
    |>.closeBroker

def connectionLost (transition : Transition) : Transition :=
  if !transition.ledger.isConnected && !transition.ledger.marks.isEstablishing then transition
  else transition.tearDown

def forward (transition : Transition) (line : Broker.Line) (message : Broker.Message) :
    Bool × Transition :=
  match transition.sendBroker line message with
  | (true, transition) => (true, transition)
  | (false, transition) => (false, transition.connectionLost)

def whenConnected (transition : Transition) (step : Transition → Transition) : Transition :=
  if transition.ledger.isConnected then step transition
  else transition.toDevice (.disconnect none)

def relay (context : Context) (message : Broker.Message) (transition : Transition) :
    Transition :=
  transition.whenConnected fun transition => (transition.forward context.line message).2

def connectBroker (context : Context) (request : Sensor.Connect) (will : Option Broker.Will)
    (transition : Transition) : Transition :=
  match transition.openBroker context.line with
  | (false, transition) => transition
  | (true, transition) =>
      match transition.sendBroker context.line (.connect (brokerConnect context request will)) with
      | (false, transition) => transition.closeBroker
      | (true, transition) => transition.mark fun marks => { marks with connack := true }

/-- A CONNECT while the broker has not answered the last one starts anew. Only
the mark for that answer is cleared by hand. -/
def connect (context : Context) (request : Sensor.Connect) (transition : Transition) :
    Transition :=
  let transition := transition.update fun ledger => { ledger with clientId := request.clientId }
  if transition.ledger.isConnected then transition.toDevice (.connack .accepted)
  else
    let transition :=
      if transition.ledger.marks.connack then
        transition.closeBroker.mark fun marks => { marks with connack := false }
      else transition
    if transition.ledger.marks.isEstablishing then transition
    else if request.flags.will then
      (transition.keep fun kept => { kept with connect := some request })
        |>.toDevice .willTopicRequest
        |>.mark (fun marks => { marks with willTopic := true, willTopicTries := 1 })
        |>.emit (.arm .willTopicTimeout)
    else transition.connectBroker context request none

def willTopic (will : Sensor.WillTopic) (transition : Transition) : Transition :=
  if !transition.ledger.marks.willTopic then transition
  else
    (transition.mark fun marks => { marks with willTopic := false, willTopicTries := 0 })
      |>.emit (.disarm .willTopicTimeout)
      |>.keep (fun kept => { kept with willTopic := some will })
      |>.toDevice .willMessageRequest
      |>.mark (fun marks => { marks with willMessage := true, willMessageTries := 1 })
      |>.emit (.arm .willMessageTimeout)

def willMessage (context : Context) (data : Bytes) (transition : Transition) : Transition :=
  if !transition.ledger.marks.willMessage then transition
  else
    let kept := transition.ledger.kept
    let transition :=
      (transition.mark fun marks => { marks with willMessage := false, willMessageTries := 0 })
        |>.emit (.disarm .willMessageTimeout)
        |>.keep (fun kept => { kept with connect := none, willTopic := none })
    match kept.connect, kept.willTopic with
    | some request, some will => transition.connectBroker context request (brokerWill will data)
    | _, _ => transition.fallBack .willMessage

def register (registration : Sensor.Register) (transition : Transition) : Transition :=
  let (id?, topics) := transition.ledger.topics.register registration.topic
  let answer : Sensor.TopicAck :=
    match id? with
    | some id => ⟨id, registration.msgId, .accepted⟩
    | none => ⟨0, registration.msgId, .congestion⟩
  (transition.update fun ledger => { ledger with topics }).toDevice (.regack answer)

def endRegistration (transition : Transition) : Transition :=
  (transition.mark fun marks => { marks with regack := false, registerTries := 0 })
    |>.keep (fun kept => { kept with register := none, brokerPublish := none })
    |>.emit (.disarm .regackTimeout)

def regack (ack : Sensor.TopicAck) (transition : Transition) : Transition :=
  if !transition.ledger.marks.regack then transition
  else
    match transition.ledger.kept.register, transition.ledger.kept.brokerPublish with
    | some registration, some publication =>
        if ack.msgId ≠ registration.msgId then transition
        else
          let transition := transition.endRegistration
          if ack.returnCode ≠ .accepted then transition
          else
            (transition.update fun ledger =>
              { ledger with
                topics := (ledger.topics.assign registration.topicId registration.topic).2 })
              |>.toDevice (Session.Transition.delivery publication .normal registration.topicId)
    | _, _ => transition.endRegistration.fallBack .regack

def publish (context : Context) (publication : Sensor.Publish) (transition : Transition) :
    Transition :=
  let flags := publication.flags
  if transition.ledger.marks.puback ∧ flags.qos = .atLeastOnce then transition
  else
    match transition.ledger.topics.resolve? flags.topicIdType publication.topicId with
    | none =>
        transition.toDevice (.puback ⟨publication.topicId, publication.msgId, .invalidTopicId⟩)
    | some topic =>
        let message : Broker.Publish :=
          { dup := flags.dup, qos := brokerLevel flags.qos, retain := flags.retain, topic
            msgId := publication.msgId, data := publication.data }
        match transition.forward context.line (.publish message) with
        | (false, transition) => transition
        | (true, transition) =>
            if flags.qos = .atLeastOnce then
              (transition.mark fun marks => { marks with puback := true }).keep fun kept =>
                { kept with publish := some ⟨publication.topicId, publication.msgId⟩ }
            else transition

def puback (context : Context) (ack : Sensor.TopicAck) (transition : Transition) : Transition :=
  if ack.returnCode = .invalidTopicId then
    transition.update fun ledger =>
      { ledger with topics := (ledger.topics.removeId ack.topicId).2 }
  else (transition.forward context.line (.puback ack.msgId)).2

def subscribe (context : Context) (request : Sensor.TopicRequest) (transition : Transition) :
    Transition :=
  if transition.ledger.marks.suback then transition
  else
    match transition.ledger.topics.resolveRef? request.topic with
    | none =>
        transition.toDevice (.suback
          { flags := .ofData false .atMostOnce false .predefined
            topicId := Session.Transition.unknownTopicId request.topic
            msgId := request.msgId
            returnCode := .invalidTopicId })
    | some name =>
        let topics := [(name, brokerLevel request.flags.qos)]
        match transition.forward context.line
            (.subscribe request.flags.dup request.msgId topics) with
        | (false, transition) => transition
        | (true, transition) =>
            (transition.mark fun marks => { marks with suback := true }).keep fun kept =>
              { kept with subscribe := some ⟨request.msgId, request.topic, name⟩ }

def unsubscribe (context : Context) (request : Sensor.TopicRequest) (transition : Transition) :
    Transition :=
  if transition.ledger.marks.unsuback then transition
  else
    match transition.ledger.topics.resolveRef? request.topic with
    | none => transition
    | some name =>
        match transition.forward context.line
            (.unsubscribe request.flags.dup request.msgId [name]) with
        | (false, transition) => transition
        | (true, transition) =>
            (transition.mark fun marks => { marks with unsuback := true }).keep fun kept =>
              { kept with unsubscribe := some ⟨request.msgId, request.topic, name⟩ }

def disconnect (context : Context) (transition : Transition) : Transition :=
  if !transition.ledger.isConnected && !transition.ledger.marks.isEstablishing then transition
  else if transition.ledger.brokerOpen then
    (transition.sendBroker context.line .disconnect).2.tearDown
  else transition.tearDown

def sensor (context : Context) (message : Sensor.Message) (link : LinkName)
    (transition : Transition) : Transition :=
  match message with
  | .searchGateway _ => transition.emit (.forGateway message link)
  | .connect request => transition.connect context request
  | .willTopic will => transition.willTopic will
  | .willMessage data => transition.willMessage context data
  | .register registration => transition.whenConnected (register registration)
  | .regack ack => transition.whenConnected (regack ack)
  | .publish publication =>
      if publication.flags.qos = .minusOne then transition.emit (.forGateway message link)
      else transition.whenConnected (publish context publication)
  | .puback ack => transition.whenConnected (puback context ack)
  | .pubrec msgId => transition.relay context (.pubrec msgId)
  | .pubrel msgId => transition.relay context (.pubrel msgId)
  | .pubcomp msgId => transition.relay context (.pubcomp msgId)
  | .subscribe request => transition.whenConnected (subscribe context request)
  | .unsubscribe request => transition.whenConnected (unsubscribe context request)
  | .pingRequest _ => transition.relay context .pingRequest
  | .pingResponse => transition.relay context .pingResponse
  | .disconnect _ => transition.disconnect context
  | _ => transition

def connack (code : UInt8) (transition : Transition) : Transition :=
  if !transition.ledger.marks.connack then transition
  else
    let transition := transition.mark fun marks => { marks with connack := false }
    if code ≠ Broker.Message.accepted then transition.tearDown
    else
      (transition.update fun ledger => { ledger with state := .connected }).toDevice
        (.connack .accepted)

def takeMsgId (transition : Transition) : UInt16 × Transition :=
  let id := transition.ledger.nextMsgId
  (id, transition.update fun ledger =>
    { ledger with nextMsgId := if id = 65535 then 1 else id + 1 })

def offerTopic (publication : Broker.Publish) (transition : Transition) : Transition :=
  if transition.ledger.marks.regack then transition
  else
    match transition.ledger.topics.allocate with
    | (none, _) => transition
    | (some topicId, topics) =>
        let (msgId, transition) :=
          (transition.update fun ledger => { ledger with topics }).takeMsgId
        let registration : Sensor.Register := ⟨topicId, msgId, publication.topic⟩
        (transition.toDevice (.register registration))
          |>.keep (fun kept =>
            { kept with register := some registration, brokerPublish := some publication })
          |>.mark (fun marks => { marks with regack := true, registerTries := 1 })
          |>.emit (.arm .regackTimeout)

def deliver (context : Context) (publication : Broker.Publish) (transition : Transition) :
    Transition :=
  let longest := context.config.maxFrameLength
  if publication.data.length > longest - 7 then transition
  else if publication.topic.utf8ByteSize > longest - 6 then transition
  else
    let topics := transition.ledger.topics
    match topics.id? publication.topic with
    | some topicId =>
        let type := if topics.isPredefined topicId then .predefined else .normal
        transition.toDevice (Session.Transition.delivery publication type topicId)
    | none =>
        match Topic.shortId? publication.topic with
        | some topicId =>
            transition.toDevice (Session.Transition.delivery publication .short topicId)
        | none => transition.offerTopic publication

def confirmPublish (msgId : UInt16) (transition : Transition) : Transition :=
  if !transition.ledger.marks.puback then transition
  else
    match transition.ledger.kept.publish with
    | none => (transition.mark fun marks => { marks with puback := false }).fallBack .puback
    | some publication =>
        if publication.msgId ≠ msgId then transition
        else
          (transition.mark fun marks => { marks with puback := false })
            |>.keep (fun kept => { kept with publish := none })
            |>.toDevice (.puback ⟨publication.topicId, msgId, .accepted⟩)

/-- The request is taken out first and put back if the answer is not for it. -/
def confirmSubscribe (msgId : UInt16) (granted : UInt8) (transition : Transition) :
    Transition :=
  if !transition.ledger.marks.suback then transition
  else
    match transition.ledger.kept.subscribe with
    | none => (transition.mark fun marks => { marks with suback := false }).fallBack .suback
    | some request =>
        let transition := transition.keep fun kept => { kept with subscribe := none }
        if request.msgId ≠ msgId then
          transition.keep fun kept => { kept with subscribe := some request }
        else
          let (type, topicId, topics) :=
            Session.Transition.grantTopic transition.ledger.topics request.topic
          let qos := (Sensor.QoS.ofLevel? granted).getD .atMostOnce
          (transition.mark fun marks => { marks with suback := false })
            |>.update (fun ledger => { ledger with topics })
            |>.toDevice (.suback
              { flags := .ofData false qos false type, topicId, msgId, returnCode := .accepted })

/-- The request is taken out first and put back if the answer is not for it. -/
def confirmUnsubscribe (msgId : UInt16) (transition : Transition) : Transition :=
  if !transition.ledger.marks.unsuback then transition
  else
    match transition.ledger.kept.unsubscribe with
    | none => (transition.mark fun marks => { marks with unsuback := false }).fallBack .unsuback
    | some request =>
        let transition := transition.keep fun kept => { kept with unsubscribe := none }
        if request.msgId ≠ msgId then
          transition.keep fun kept => { kept with unsubscribe := some request }
        else
          let forget (topics : Topic.Table) : Topic.Table :=
            match request.topic with
            | .named _ => (topics.removeName request.name).2
            | _ => topics
          (transition.mark fun marks => { marks with unsuback := false })
            |>.update (fun ledger => { ledger with topics := forget ledger.topics })
            |>.toDevice (.unsuback msgId)

def broker (context : Context) (message : Broker.Message) (transition : Transition) :
    Transition :=
  match message with
  | .connack code => transition.connack code
  | _ =>
      if !transition.ledger.isConnected then transition
      else
        match message with
        | .publish publication => transition.deliver context publication
        | .puback msgId => transition.confirmPublish msgId
        | .pubrec msgId => transition.toDevice (.pubrec msgId)
        | .pubrel msgId => transition.toDevice (.pubrel msgId)
        | .pubcomp msgId => transition.toDevice (.pubcomp msgId)
        | .suback msgId granted => transition.confirmSubscribe msgId (granted.head?.getD 0)
        | .unsuback msgId => transition.confirmUnsubscribe msgId
        | .pingRequest => transition.toDevice (.pingRequest none)
        | .pingResponse => transition.toDevice .pingResponse
        | _ => transition

def willTopicTimeout (context : Context) (transition : Transition) : Transition :=
  if !transition.ledger.marks.willTopic then transition
  else if transition.ledger.marks.willTopicTries.toNat > context.config.maxRetries then
    (transition.mark fun marks => { marks with willTopic := false, willTopicTries := 0 })
      |>.emit (.disarm .willTopicTimeout)
      |>.keep (fun kept => { kept with connect := none })
  else
    (transition.toDevice .willTopicRequest).mark fun marks =>
      { marks with willTopicTries := marks.willTopicTries + 1 }

def willMessageTimeout (context : Context) (transition : Transition) : Transition :=
  if !transition.ledger.marks.willMessage then transition
  else if transition.ledger.marks.willMessageTries.toNat > context.config.maxRetries then
    (transition.mark fun marks => { marks with willMessage := false, willMessageTries := 0 })
      |>.emit (.disarm .willMessageTimeout)
      |>.keep (fun kept => { kept with connect := none, willTopic := none })
  else
    (transition.toDevice .willMessageRequest).mark fun marks =>
      { marks with willMessageTries := marks.willMessageTries + 1 }

def regackTimeout (context : Context) (transition : Transition) : Transition :=
  if !transition.ledger.marks.regack then transition
  else
    match transition.ledger.kept.register with
    | none => transition.endRegistration.fallBack .regackTimeout
    | some registration =>
        if transition.ledger.marks.registerTries.toNat > context.config.maxRetries then
          transition.endRegistration
        else
          let (msgId, transition) := transition.takeMsgId
          let registration := { registration with msgId }
          (transition.keep fun kept => { kept with register := some registration })
            |>.toDevice (.register registration)
            |>.mark (fun marks => { marks with registerTries := marks.registerTries + 1 })

def shutDown (context : Context) (transition : Transition) : Transition :=
  let busy := transition.ledger.isConnected || transition.ledger.marks.isEstablishing
  let transition :=
    if busy && transition.ledger.brokerOpen then
      (transition.sendBroker context.line .disconnect).2
    else transition
  transition.closeBroker.emit .disarmAll

def signal (context : Context) (signal : Signal) (transition : Transition) : Transition :=
  match signal with
  | .connectionLost => transition.connectionLost
  | .willTopicTimeout => transition.willTopicTimeout context
  | .willMessageTimeout => transition.willMessageTimeout context
  | .regackTimeout => transition.regackTimeout context
  | .checkInactivity =>
      if transition.ledger.deadline < context.now then transition.closeBroker.emit .disarmAll
      else transition
  | .shutDown => transition.shutDown context
  | .sendKeepAlive => transition

end Transition

def take (config : Config) (turn : Turn) (ledger : Ledger) : Transition :=
  let context := turn.context config
  match turn.input with
  | .sensor seen message link =>
      (Transition.start
        { ledger with
          address := ledger.address.refresh seen
          deadline := context.deadline
          link := some link }).sensor context message link
  | .broker message =>
      (Transition.start { ledger with deadline := context.deadline }).broker context message
  | .signal signal => (Transition.start ledger).signal context signal

/-- Where a ledger is after some turns, what was done in them, and where they
had to fall back. -/
def run (config : Config) : List Turn → Ledger → Transition
  | [], ledger => .start ledger
  | turn :: turns, ledger =>
      let first := ledger.take config turn
      let rest := run config turns first.ledger
      ⟨rest.ledger, first.effects ++ rest.effects, first.fallbacks ++ rest.fallbacks⟩

end Ledger

end SensorGateway.Session
