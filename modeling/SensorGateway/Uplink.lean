import SensorGateway.Config.Validation
import SensorGateway.Link
import SensorGateway.Topic.Resolve

/-!
The gateway's own connection to the broker. It comes up first: the device links
are opened once the broker has taken it, it publishes for devices that are not
connected, and the beat of its pings also times the advertisements to devices
and the search for devices that are gone. Without it the gateway cannot go on,
so that whatever goes wrong here stops the gateway.
-/

namespace SensorGateway

/-- What stops the gateway. -/
inductive GatewayError where
  | config (problem : Config.Problem)
  | link (error : LinkError)
  | connectionRefused (code : UInt8)
  | noDeviceLinks
  | brokerConnectionLost
deriving DecidableEq

namespace GatewayError

def message : GatewayError → String
  | config problem => "configuration error: " ++ problem.message
  | link error => "link error: " ++ error.message
  | connectionRefused code =>
      "broker refused the gateway connection (return code " ++ toString code.toNat ++ ")"
  | noDeviceLinks => "no device link could be opened"
  | brokerConnectionLost => "gateway broker connection lost"

end GatewayError

structure Uplink where
  brokerOpen : Bool := false
  /-- The device links that are open, in the order in which they were opened. -/
  links : List LinkName := []
  connected : Bool := false
  /-- Seconds since the gateway last advertised itself. -/
  advertiseElapsed : Nat := 0
  /-- Seconds since the gateway last looked for devices that are gone. -/
  checkElapsed : Nat := 0
deriving DecidableEq

namespace Uplink

/-- What a step depends on besides the uplink itself. -/
structure Context where
  config : Config
  network : Network

namespace Context

/-- How the broker link of the gateway behaves. -/
def line (context : Context) : Broker.Line :=
  context.network.line context.config.gatewayAddress.identity

end Context

/-- What a step does to the rest of the gateway. -/
inductive Effect where
  | event (event : Event)
  /-- Starts the timer whose beat keeps the connection alive. -/
  | keepAlive
  /-- Ends the timers of the gateway itself. -/
  | disarmAll
  /-- Has every session look at how long its device has been silent. -/
  | checkInactivity

/-- The client id of the gateway at the broker. -/
def clientId (config : Config) : String :=
  "Gateway_" ++ toString config.gatewayId.toNat

/-- A period as it is told in a word; longer ones are cut down to the greatest
word. -/
def periodWord (seconds : Nat) : UInt16 :=
  UInt16.ofNat (min seconds 65535)

/-- Seconds are counted in a word of 64 bits, which starts at 0 again. -/
def addSeconds (elapsed period : Nat) : Nat :=
  (elapsed + period) % UInt64.size

/-- The CONNECT of the gateway itself. -/
def brokerConnect (config : Config) : Broker.Connect where
  protocolName := config.connect.protocolName
  protocolVersion := config.connect.protocolVersion
  clientId := clientId config
  cleanSession := config.connect.cleanSession
  keepAlive := periodWord config.keepAlivePeriod
  will := config.connect.will

/-- An uplink on its way through a step, and what the step did so far. -/
structure Transition where
  uplink : Uplink
  effects : List Effect

/-- A step that may stop the gateway. What it did before stays done. -/
abbrev Outcome := Transition × Except GatewayError Unit

namespace Transition

def start (uplink : Uplink) : Transition := ⟨uplink, []⟩

def update (transition : Transition) (f : Uplink → Uplink) : Transition :=
  { transition with uplink := f transition.uplink }

def emit (transition : Transition) (effect : Effect) : Transition :=
  { transition with effects := transition.effects ++ [effect] }

def emitEvent (transition : Transition) (event : Event) : Transition :=
  transition.emit (.event event)

def useBroker (transition : Transition) (context : Context) (use : Broker.LinkUse) : Transition :=
  transition.emitEvent (.broker context.config.gatewayAddress use)

/-- Opens the broker link and tells why it is not open then. -/
def openBroker (transition : Transition) (context : Context) : Option LinkError × Transition :=
  let wasOpen := transition.uplink.brokerOpen
  let failure := if wasOpen then none else context.line.openFailure
  (failure,
    (transition.useBroker context (.opening wasOpen failure)).update fun uplink =>
      { uplink with brokerOpen := failure.isNone })

/-- Hands a message to the broker link and tells what came of it. -/
def sendBroker (transition : Transition) (context : Context) (message : Broker.Message) :
    Except LinkError Bytes × Transition :=
  let wasOpen := transition.uplink.brokerOpen
  let (result, isOpen) := context.line.send wasOpen message
  (result,
    (transition.useBroker context (.sending wasOpen message result isOpen)).update fun uplink =>
      { uplink with brokerOpen := isOpen })

def closeBroker (transition : Transition) (context : Context) : Transition :=
  (transition.useBroker context (.closing transition.uplink.brokerOpen)).update fun uplink =>
    { uplink with brokerOpen := false }

/-- Hands a message to the broker; if it is not taken the connection counts as
lost. -/
def forward (transition : Transition) (context : Context) (message : Broker.Message) : Outcome :=
  match transition.sendBroker context message with
  | (.ok _, transition) => (transition, .ok ())
  | (.error _, transition) => (transition, .error .brokerConnectionLost)

/-- Sends a message for all devices on every device link. A link that fails does
not keep the others from it. -/
def broadcast (transition : Transition) (context : Context) (radius : UInt8)
    (message : Sensor.Message) : Transition :=
  transition.uplink.links.foldl
    (fun transition link =>
      transition.emitEvent
        (.broadcast link radius message (context.network.broadcast link message)))
    transition

/-- Opens the device links of the configuration, as far as possible. -/
def openLinks (transition : Transition) (context : Context) : Transition :=
  context.config.deviceLinks.foldl
    (fun transition settings =>
      let link := settings.name
      let failure := context.network.openFailure link
      let transition := transition.emitEvent (.openLink link failure)
      if failure.isNone then
        transition.update fun uplink => { uplink with links := uplink.links ++ [link] }
      else transition)
    transition

/-- The broker takes or refuses the connection. -/
def connack (transition : Transition) (context : Context) (code : UInt8) : Outcome :=
  if transition.uplink.connected then (transition, .ok ())
  else if code ≠ Broker.Message.accepted then
    (transition.closeBroker context, .error (.connectionRefused code))
  else
    let transition :=
      (transition.update fun uplink => { uplink with connected := true }).openLinks context
    if transition.uplink.links.isEmpty then (transition, .error .noDeviceLinks)
    else
      match transition.forward context .pingRequest with
      | (transition, .ok ()) => (transition.emit .keepAlive, .ok ())
      | failed => failed

/-- The name that a topic id stands for in a publication at level minus one,
which knows no registered ids. -/
def topic? (config : Config) (type : Sensor.TopicIdType) (id : UInt16) : Option String :=
  match type with
  | .normal => none
  | _ => config.topicTable.resolve? type id

/-- Publishes for a device that is not connected. -/
def relay (transition : Transition) (context : Context) (publication : Sensor.Publish) : Outcome :=
  if transition.uplink.connected then
    match topic? context.config publication.flags.topicIdType publication.topicId with
    | none => (transition, .ok ())
    | some topic =>
        transition.forward context (.publish
          { dup := false, qos := 0, retain := false, topic, msgId := 0, data := publication.data })
  else (transition, .ok ())

/-- Lets the broker hear from the gateway. Each beat also counts towards the
next advertisement and the next look for devices that are gone. -/
def keepAlive (transition : Transition) (context : Context) : Outcome :=
  let config := context.config
  if transition.uplink.connected then
    match transition.forward context .pingRequest with
    | (transition, .error error) => (transition, .error error)
    | (transition, .ok ()) =>
        let advertiseElapsed :=
          addSeconds transition.uplink.advertiseElapsed config.keepAlivePeriod
        let transition :=
          if advertiseElapsed ≥ config.advertisePeriod then
            (transition.update fun uplink => { uplink with advertiseElapsed := 0 })
              |>.broadcast context 0
                (.advertise config.gatewayId (periodWord config.advertisePeriod))
          else transition.update fun uplink => { uplink with advertiseElapsed }
        let checkElapsed := addSeconds transition.uplink.checkElapsed config.keepAlivePeriod
        let transition :=
          if checkElapsed ≥ config.checkingPeriod then
            (transition.update fun uplink => { uplink with checkElapsed := 0 })
              |>.emit .checkInactivity
          else transition.update fun uplink => { uplink with checkElapsed }
        (transition, .ok ())
  else (transition, .ok ())

/-- Tells the broker, if the link to it is open, and closes every link. -/
def shutDown (transition : Transition) (context : Context) : Transition :=
  let transition :=
    if transition.uplink.brokerOpen then (transition.sendBroker context .disconnect).2
    else transition
  let transition := transition.closeBroker context
  let transition :=
    transition.uplink.links.foldl (fun transition link => transition.emitEvent (.closeLink link))
      transition
  (transition.update fun uplink => { uplink with connected := false, links := [] }).emit .disarmAll

end Transition

/-- Opens the broker link and asks the broker to connect the gateway. -/
def connect (context : Context) (uplink : Uplink) : Outcome :=
  match (Transition.start uplink).openBroker context with
  | (some error, transition) => (transition, .error (.link error))
  | (none, transition) =>
      match transition.sendBroker context (.connect (brokerConnect context.config)) with
      | (.ok _, transition) => (transition, .ok ())
      | (.error error, transition) => (transition.closeBroker context, .error (.link error))

/-- Takes a message of the broker. -/
def onBroker (context : Context) (message : Broker.Message) (uplink : Uplink) : Outcome :=
  let transition := Transition.start uplink
  match message with
  | .connack code => transition.connack context code
  | _ => (transition, .ok ())

/-- Takes a message that a device meant for the gateway. A search is answered on
every device link. -/
def onSensor (context : Context) (message : Sensor.Message) (uplink : Uplink) : Outcome :=
  let transition := Transition.start uplink
  match message with
  | .searchGateway radius =>
      (transition.broadcast context radius (.gatewayInfo context.config.gatewayId []), .ok ())
  | .publish publication =>
      if publication.flags.qos = .minusOne then transition.relay context publication
      else (transition, .ok ())
  | _ => (transition, .ok ())

/-- Takes a signal. -/
def onSignal (context : Context) (signal : Signal) (uplink : Uplink) : Outcome :=
  let transition := Transition.start uplink
  match signal with
  | .connectionLost =>
      (transition.update fun uplink => { uplink with connected := false },
        .error .brokerConnectionLost)
  | .sendKeepAlive => transition.keepAlive context
  | .shutDown => (transition.shutDown context, .ok ())
  | _ => (transition, .ok ())

end Uplink

end SensorGateway
