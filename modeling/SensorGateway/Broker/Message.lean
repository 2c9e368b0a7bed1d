import SensorGateway.CodecError

/-!
The messages that travel between the gateway and a broker.
-/

namespace SensorGateway.Broker

/-- What the broker publishes when a client is lost. -/
structure Will where
  topic : String
  data : Bytes
  qos : UInt8
  retain : Bool
deriving DecidableEq

structure Connect where
  protocolName : String := "MQIsdp"
  protocolVersion : UInt8 := 3
  clientId : String
  cleanSession : Bool := true
  keepAlive : UInt16
  will : Option Will := none
  username : Option String := none
  password : Option String := none
deriving DecidableEq

/-- The message id counts only above quality of service 0. -/
structure Publish where
  dup : Bool
  qos : UInt8
  retain : Bool
  topic : String
  msgId : UInt16
  data : Bytes
deriving DecidableEq

inductive Message where
  | connect (request : Connect)
  | connack (returnCode : UInt8)
  | publish (publication : Publish)
  | puback (msgId : UInt16)
  | pubrec (msgId : UInt16)
  | pubrel (msgId : UInt16)
  | pubcomp (msgId : UInt16)
  | subscribe (dup : Bool) (msgId : UInt16) (topics : List (String × UInt8))
  | suback (msgId : UInt16) (granted : Bytes)
  | unsubscribe (dup : Bool) (msgId : UInt16) (topics : List String)
  | unsuback (msgId : UInt16)
  | pingRequest
  | pingResponse
  | disconnect
deriving DecidableEq

namespace Message

/-- The return code of a connection that the broker takes. -/
def accepted : UInt8 := 0

/-- The number of a type, which stands in the high half of the first byte of a
frame. -/
def typeNumber : Message → UInt8
  | connect .. => 1
  | connack .. => 2
  | publish .. => 3
  | puback .. => 4
  | pubrec .. => 5
  | pubrel .. => 6
  | pubcomp .. => 7
  | subscribe .. => 8
  | suback .. => 9
  | unsubscribe .. => 10
  | unsuback .. => 11
  | pingRequest => 12
  | pingResponse => 13
  | disconnect => 14

/-- The name by which the protocol calls the type of a message. -/
def name : Message → String
  | connect .. => "CONNECT"
  | connack .. => "CONNACK"
  | publish .. => "PUBLISH"
  | puback .. => "PUBACK"
  | pubrec .. => "PUBREC"
  | pubrel .. => "PUBREL"
  | pubcomp .. => "PUBCOMP"
  | subscribe .. => "SUBSCRIBE"
  | suback .. => "SUBACK"
  | unsubscribe .. => "UNSUBSCRIBE"
  | unsuback .. => "UNSUBACK"
  | pingRequest => "PINGREQ"
  | pingResponse => "PINGRESP"
  | disconnect => "DISCONNECT"

end Message

end SensorGateway.Broker
