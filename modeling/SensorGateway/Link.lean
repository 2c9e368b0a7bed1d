import SensorGateway.Broker.Frame
import SensorGateway.Datagram
import SensorGateway.Queue
import SensorGateway.Sensor.Frame

/-!
The links over which the gateway talks to devices and to the broker. Whether a
link can be opened and what it does with a message is not for the gateway to
decide; `Network` says how the links behave while one piece of work is done,
and an `Event` says what was tried on a link and what came of it.

A broker link starts closed. Opening it leaves it open unless that fails, a
message is only taken while it is open, and a link may close on its own when a
message is handed to it.
-/

namespace SensorGateway

inductive LinkError where
  | send (reason : String)
  | notOpen
  | noEndpoint (target : Address)
  | codec (error : CodecError)
  | io (reason : String)
deriving DecidableEq

namespace LinkError

def message : LinkError → String
  | send reason => s!"send failed: {reason}"
  | notOpen => "link not open"
  | noEndpoint target => "no transport endpoint known for " ++ target.text
  | codec error => "codec error: " ++ error.message
  | io reason => s!"I/O error: {reason}"

end LinkError

namespace Broker

/-- What an open broker link does with a message: it takes it unless there is a
failure, and may close in either case. -/
structure Handover where
  failure : Option LinkError := none
  staysOpen : Bool := true
deriving DecidableEq

/-- How one broker link behaves. -/
structure Line where
  /-- Why it cannot be opened, if it cannot. -/
  openFailure : Option LinkError := none
  handover : Handover := {}
deriving DecidableEq

/-- One use of a broker link. Each tells whether the link was open before. -/
inductive LinkUse where
  | opening (wasOpen : Bool) (failure : Option LinkError)
  /-- A message, the frame of it if it was taken, and whether the link was open
  afterwards. -/
  | sending (wasOpen : Bool) (message : Message) (result : Except LinkError Bytes) (isOpen : Bool)
  | closing (wasOpen : Bool)

namespace Line

/-- Hands a message to a link: why that failed or the frame that was taken, and
whether the link is open afterwards. A message without a frame does not reach
the link. -/
def send (line : Line) (isOpen : Bool) (message : Message) : Except LinkError Bytes × Bool :=
  match message.encode with
  | .error error => (.error (.codec error), isOpen)
  | .ok frame =>
      if isOpen then
        match line.handover.failure with
        | some error => (.error error, line.handover.staysOpen)
        | none => (.ok frame, line.handover.staysOpen)
      else (.error .notOpen, false)

end Line

end Broker

/-- How the links behave while one piece of work is done. Broker links belong to
a device or to the gateway, device links go by their name. -/
structure Network where
  line : Identity → Broker.Line := fun _ => {}
  /-- Why a device link of this name cannot be opened, if it cannot. -/
  openFailure : LinkName → Option LinkError := fun _ => none
  /-- Why a device link takes no message for a device, if it does not. -/
  sendFailure : LinkName → Option LinkError := fun _ => none
  /-- Why a device link takes no message for all devices, if it does not. -/
  broadcastFailure : LinkName → Option LinkError := fun _ => none

namespace Network

/-- Hands a message for a device to a device link. The result is the datagram
that carries it. -/
def sendDevice (network : Network) (link : LinkName) (target : Address)
    (message : Sensor.Message) : Except LinkError Bytes :=
  match target.endpoint with
  | none => .error (.noEndpoint target)
  | some _ =>
      match message.encode with
      | .error error => .error (.codec error)
      | .ok frame =>
          match network.sendFailure link with
          | some error => .error error
          | none => .ok (Datagram.wrap target frame)

/-- Hands a message for all devices to a device link. The result is the frame,
which travels without an envelope. -/
def broadcast (network : Network) (link : LinkName) (message : Sensor.Message) :
    Except LinkError Bytes :=
  match message.encode with
  | .error error => .error (.codec error)
  | .ok frame =>
      match network.broadcastFailure link with
      | some error => .error error
      | none => .ok frame

end Network

/-- What happens on a link. -/
inductive Event where
  | broker (owner : Address) (use : Broker.LinkUse)
  | device (link : LinkName) (target : Address) (message : Sensor.Message)
      (result : Except LinkError Bytes)
  | broadcast (link : LinkName) (radius : UInt8) (message : Sensor.Message)
      (result : Except LinkError Bytes)
  | openLink (link : LinkName) (failure : Option LinkError)
  | closeLink (link : LinkName)

end SensorGateway
