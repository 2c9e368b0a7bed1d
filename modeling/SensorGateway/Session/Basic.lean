import SensorGateway.Config.Basic
import SensorGateway.Link

/-!
The session of one device. Each device has a connection to the broker of its
own, and the session is what stands between the two: it remembers how far the
device has come with connecting, which requests still wait for an answer, and
what the topic ids of the device mean.

A step of a session depends on the session, the configuration, the time and the
broker link of this one device. What it does to the rest of the gateway is
listed as effects, in the order in which they take place.
-/

namespace SensorGateway

namespace Session

/-- A topic id that the gateway has offered to the device together with the
publication that waits for the device to take it. -/
structure Registration where
  topicId : UInt16
  msgId : UInt16
  publication : Broker.Publish
  /-- How often the offer was sent. -/
  tries : UInt32
deriving DecidableEq

/-- A publication of the device that the broker has yet to confirm. -/
structure PublishInFlight where
  topicId : UInt16
  msgId : UInt16
deriving DecidableEq

/-- A request about a topic that the broker has yet to confirm. -/
structure RequestInFlight where
  msgId : UInt16
  topic : Sensor.TopicRef
  /-- The name by which the broker was asked. -/
  name : String
deriving DecidableEq

/-- What a connected session waits for. There is at most one of each kind. -/
structure Exchanges where
  registration : Option Registration := none
  publish : Option PublishInFlight := none
  subscribe : Option RequestInFlight := none
  unsubscribe : Option RequestInFlight := none
deriving DecidableEq

/-- How far a session has come. A device that wants a will is asked for the
topic of it, then for the message, and only then is the broker asked to connect
it. How often the device was asked is counted in 32 bits, which start at 0 again
after the greatest number. -/
inductive Phase where
  | idle
  | awaitingWillTopic (request : Sensor.Connect) (tries : UInt32)
  | awaitingWillMessage (request : Sensor.Connect) (will : Sensor.WillTopic) (tries : UInt32)
  | awaitingConnack
  | connected (exchanges : Exchanges)
deriving DecidableEq

namespace Phase

def isConnected : Phase → Bool
  | connected _ => true
  | _ => false

/-- Whether a request of the device to be connected is being dealt with. -/
def isEstablishing : Phase → Bool
  | awaitingWillTopic .. | awaitingWillMessage .. | awaitingConnack => true
  | _ => false

end Phase

/-- How a session looks from outside. -/
inductive State where
  | notConnected
  | connected
  | disconnected
deriving DecidableEq

/-- The answers that a session may wait for. -/
inductive Handshake where
  | willTopic | willMessage | connack | regack | suback | unsuback | puback
deriving DecidableEq

end Session

structure Session where
  address : Address
  /-- The client id of the last CONNECT of the device. -/
  clientId : String
  /-- The device link over which the device was last heard. -/
  link : Option LinkName
  brokerOpen : Bool
  topics : Topic.Table
  phase : Session.Phase
  /-- Whether the device was ever told that it is disconnected. -/
  tornDown : Bool
  /-- The time, in nanoseconds, up to which the device may stay silent. -/
  deadline : Nat
  nextMsgId : UInt16

namespace Session

/-- What a step of a session depends on besides the session itself. -/
structure Context where
  config : Config
  /-- The time in nanoseconds. -/
  now : Nat
  /-- How the broker link of the session behaves. -/
  line : Broker.Line

/-- What a step of a session does. -/
inductive Effect where
  | broker (use : Broker.LinkUse)
  | device (link : LinkName) (target : Address) (message : Sensor.Message)
  /-- Starts the timer of a handshake, unless it runs. -/
  | arm (signal : Signal)
  | disarm (signal : Signal)
  /-- Ends every timer of this device. -/
  | disarmAll
  /-- A message that is not for the broker of this device but for the gateway. -/
  | forGateway (message : Sensor.Message) (link : LinkName)

/-- The time at which a device that was heard now has been silent for too
long. -/
def Context.deadline (context : Context) : Nat :=
  context.now + context.config.handlerTimeout * 1000000000

/-- The first time, in nanoseconds, that a clock cannot show. It counts the seconds
in 64 bits, one of which is for the sign. -/
def clockEnd : Nat := 9223372036854775808 * 1000000000

/-- Whether a clock can show the deadline. A program that needs a time after the last
one panics. -/
def Context.hasDeadline (context : Context) : Bool :=
  context.deadline < clockEnd

/-- The session of a device that was never heard before. -/
def fresh (context : Context) (address : Address) : Session where
  address := address
  clientId := ""
  link := none
  brokerOpen := false
  topics := context.config.topicTable
  phase := .idle
  tornDown := false
  deadline := context.deadline
  nextMsgId := 1

def isConnected (session : Session) : Bool := session.phase.isConnected

def state (session : Session) : State :=
  if session.isConnected then .connected
  else if session.tornDown then .disconnected
  else .notConnected

/-- The exchanges of a connected session; any other session waits for none. -/
def exchanges (session : Session) : Exchanges :=
  match session.phase with
  | .connected exchanges => exchanges
  | _ => {}

/-- Whether a session waits for this answer. -/
def awaits (session : Session) : Handshake → Bool
  | .willTopic => match session.phase with
      | .awaitingWillTopic .. => true
      | _ => false
  | .willMessage => match session.phase with
      | .awaitingWillMessage .. => true
      | _ => false
  | .connack => match session.phase with
      | .awaitingConnack => true
      | _ => false
  | .regack => session.exchanges.registration.isSome
  | .suback => session.exchanges.subscribe.isSome
  | .unsuback => session.exchanges.unsubscribe.isSome
  | .puback => session.exchanges.publish.isSome

/-- How often the request was sent that this answer is for. Only requests to the
device are sent more than once. -/
def tries (session : Session) : Handshake → UInt32
  | .willTopic => match session.phase with
      | .awaitingWillTopic _ tries => tries
      | _ => 0
  | .willMessage => match session.phase with
      | .awaitingWillMessage _ _ tries => tries
      | _ => 0
  | .regack => (session.exchanges.registration.map (·.tries)).getD 0
  | _ => 0

/-- A session on its way through a step, and what the step did so far. -/
structure Transition where
  session : Session
  effects : List Effect

namespace Transition

def start (session : Session) : Transition := ⟨session, []⟩

def update (transition : Transition) (f : Session → Session) : Transition :=
  { transition with session := f transition.session }

def emit (transition : Transition) (effect : Effect) : Transition :=
  { transition with effects := transition.effects ++ [effect] }

def enter (transition : Transition) (phase : Phase) : Transition :=
  transition.update fun session => { session with phase }

/-- Sends a message to the device. It is lost if the device was never heard. -/
def toDevice (transition : Transition) (message : Sensor.Message) : Transition :=
  match transition.session.link with
  | none => transition
  | some link => transition.emit (.device link transition.session.address message)

/-- Opens the broker link and tells whether it is open then. -/
def openBroker (transition : Transition) (line : Broker.Line) : Bool × Transition :=
  let wasOpen := transition.session.brokerOpen
  let failure := if wasOpen then none else line.openFailure
  (failure.isNone,
    (transition.emit (.broker (.opening wasOpen failure))).update fun session =>
      { session with brokerOpen := failure.isNone })

/-- Hands a message to the broker link and tells whether it was taken. -/
def sendBroker (transition : Transition) (line : Broker.Line) (message : Broker.Message) :
    Bool × Transition :=
  let wasOpen := transition.session.brokerOpen
  let (result, isOpen) := line.send wasOpen message
  (result.isOk,
    (transition.emit (.broker (.sending wasOpen message result isOpen))).update fun session =>
      { session with brokerOpen := isOpen })

def closeBroker (transition : Transition) : Transition :=
  (transition.emit (.broker (.closing transition.session.brokerOpen))).update fun session =>
    { session with brokerOpen := false }

/-- Tells the device that it is disconnected and forgets everything that was
going on. The topic ids stay. -/
def tearDown (transition : Transition) : Transition :=
  (transition.toDevice (.disconnect none)).emit .disarmAll
    |>.update (fun session => { session with phase := .idle, tornDown := true })
    |>.closeBroker

/-- Without its connection to the broker a session is torn down, if there was
anything going on. -/
def connectionLost (transition : Transition) : Transition :=
  match transition.session.phase with
  | .idle => transition
  | _ => transition.tearDown

/-- Hands a message to the broker and tells whether it was taken; if it was not,
the connection counts as lost. -/
def forward (transition : Transition) (line : Broker.Line) (message : Broker.Message) :
    Bool × Transition :=
  match transition.sendBroker line message with
  | (true, transition) => (true, transition)
  | (false, transition) => (false, transition.connectionLost)

/-- Answers a request that only a connected device may make. -/
def refuse (transition : Transition) : Transition :=
  transition.toDevice (.disconnect none)

end Transition

end Session

end SensorGateway
