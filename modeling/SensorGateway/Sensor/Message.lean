import SensorGateway.Sensor.Flags

/-!
The messages that travel between a sensor device and the gateway. Fields that
the gateway keeps or passes on as a whole are records of their own.
-/

namespace SensorGateway.Sensor

/-- The types of message, in the order of their type bytes. -/
inductive MessageType where
  | advertise | searchGateway | gatewayInfo | connect | connack
  | willTopicRequest | willTopic | willMessageRequest | willMessage
  | register | regack | publish | puback | pubcomp | pubrec | pubrel
  | subscribe | suback | unsubscribe | unsuback | pingRequest | pingResponse
  | disconnect | willTopicUpdate | willTopicResponse | willMessageUpdate | willMessageResponse
deriving DecidableEq

namespace MessageType

def byte : MessageType → UInt8
  | advertise => 0x00
  | searchGateway => 0x01
  | gatewayInfo => 0x02
  | connect => 0x04
  | connack => 0x05
  | willTopicRequest => 0x06
  | willTopic => 0x07
  | willMessageRequest => 0x08
  | willMessage => 0x09
  | register => 0x0A
  | regack => 0x0B
  | publish => 0x0C
  | puback => 0x0D
  | pubcomp => 0x0E
  | pubrec => 0x0F
  | pubrel => 0x10
  | subscribe => 0x12
  | suback => 0x13
  | unsubscribe => 0x14
  | unsuback => 0x15
  | pingRequest => 0x16
  | pingResponse => 0x17
  | disconnect => 0x18
  | willTopicUpdate => 0x1A
  | willTopicResponse => 0x1B
  | willMessageUpdate => 0x1C
  | willMessageResponse => 0x1D

/-- The name by which the protocol calls a type. -/
def name : MessageType → String
  | advertise => "ADVERTISE"
  | searchGateway => "SEARCHGW"
  | gatewayInfo => "GWINFO"
  | connect => "CONNECT"
  | connack => "CONNACK"
  | willTopicRequest => "WILLTOPICREQ"
  | willTopic => "WILLTOPIC"
  | willMessageRequest => "WILLMSGREQ"
  | willMessage => "WILLMSG"
  | register => "REGISTER"
  | regack => "REGACK"
  | publish => "PUBLISH"
  | puback => "PUBACK"
  | pubcomp => "PUBCOMP"
  | pubrec => "PUBREC"
  | pubrel => "PUBREL"
  | subscribe => "SUBSCRIBE"
  | suback => "SUBACK"
  | unsubscribe => "UNSUBSCRIBE"
  | unsuback => "UNSUBACK"
  | pingRequest => "PINGREQ"
  | pingResponse => "PINGRESP"
  | disconnect => "DISCONNECT"
  | willTopicUpdate => "WILLTOPICUPD"
  | willTopicResponse => "WILLTOPICRESP"
  | willMessageUpdate => "WILLMSGUPD"
  | willMessageResponse => "WILLMSGRESP"

def all : List MessageType :=
  [advertise, searchGateway, gatewayInfo, connect, connack, willTopicRequest, willTopic,
    willMessageRequest, willMessage, register, regack, publish, puback, pubcomp, pubrec, pubrel,
    subscribe, suback, unsubscribe, unsuback, pingRequest, pingResponse, disconnect,
    willTopicUpdate, willTopicResponse, willMessageUpdate, willMessageResponse]

def ofByte? (byte : UInt8) : Option MessageType :=
  all.find? (·.byte == byte)

theorem ofByte?_byte (type : MessageType) : ofByte? type.byte = some type := by
  cases type <;> rfl

theorem byte_of_ofByte? {byte : UInt8} {type : MessageType}
    (h : ofByte? byte = some type) : type.byte = byte := by
  simpa using List.find?_some h

end MessageType

/-- The topic of a subscription: a full name, a predefined id, or the two bytes
of a short name. -/
inductive TopicRef where
  | named (topic : String)
  | predefined (id : UInt16)
  | short (first second : UInt8)
deriving DecidableEq

def TopicRef.idType : TopicRef → TopicIdType
  | named _ => .normal
  | predefined _ => .predefined
  | short _ _ => .short

/-- A device asks to be connected. -/
structure Connect where
  flags : Flags
  protocolId : UInt8
  duration : UInt16
  clientId : String
deriving DecidableEq

/-- The topic on which the broker is to announce that a device is gone. Without
flags the message asks for the will to be deleted. -/
structure WillTopic where
  flags : Option Flags
  topic : String
deriving DecidableEq

/-- Announces or asks for the id of a topic name. -/
structure Register where
  topicId : UInt16
  msgId : UInt16
  topic : String
deriving DecidableEq

/-- Answers a registration or a publication. -/
structure TopicAck where
  topicId : UInt16
  msgId : UInt16
  returnCode : ReturnCode
deriving DecidableEq

structure Publish where
  flags : Flags
  topicId : UInt16
  msgId : UInt16
  data : Bytes
deriving DecidableEq

/-- Asks for a subscription to be made or ended. -/
structure TopicRequest where
  flags : Flags
  msgId : UInt16
  topic : TopicRef
deriving DecidableEq

/-- Answers a request to subscribe. -/
structure Suback where
  flags : Flags
  topicId : UInt16
  msgId : UInt16
  returnCode : ReturnCode
deriving DecidableEq

inductive Message where
  | advertise (gateway : UInt8) (duration : UInt16)
  | searchGateway (radius : UInt8)
  | gatewayInfo (gateway : UInt8) (address : Bytes)
  | connect (request : Connect)
  | connack (returnCode : ReturnCode)
  | willTopicRequest
  | willTopic (will : WillTopic)
  | willMessageRequest
  | willMessage (data : Bytes)
  | register (registration : Register)
  | regack (ack : TopicAck)
  | publish (publication : Publish)
  | puback (ack : TopicAck)
  | pubcomp (msgId : UInt16)
  | pubrec (msgId : UInt16)
  | pubrel (msgId : UInt16)
  | subscribe (request : TopicRequest)
  | suback (ack : Suback)
  | unsubscribe (request : TopicRequest)
  | unsuback (msgId : UInt16)
  | pingRequest (clientId : Option String)
  | pingResponse
  | disconnect (duration : Option UInt16)
  | willTopicUpdate (will : WillTopic)
  | willTopicResponse (returnCode : ReturnCode)
  | willMessageUpdate (data : Bytes)
  | willMessageResponse (returnCode : ReturnCode)
deriving DecidableEq

def Message.type : Message → MessageType
  | advertise .. => .advertise
  | searchGateway .. => .searchGateway
  | gatewayInfo .. => .gatewayInfo
  | connect .. => .connect
  | connack .. => .connack
  | willTopicRequest => .willTopicRequest
  | willTopic .. => .willTopic
  | willMessageRequest => .willMessageRequest
  | willMessage .. => .willMessage
  | register .. => .register
  | regack .. => .regack
  | publish .. => .publish
  | puback .. => .puback
  | pubcomp .. => .pubcomp
  | pubrec .. => .pubrec
  | pubrel .. => .pubrel
  | subscribe .. => .subscribe
  | suback .. => .suback
  | unsubscribe .. => .unsubscribe
  | unsuback .. => .unsuback
  | pingRequest .. => .pingRequest
  | pingResponse => .pingResponse
  | disconnect .. => .disconnect
  | willTopicUpdate .. => .willTopicUpdate
  | willTopicResponse .. => .willTopicResponse
  | willMessageUpdate .. => .willMessageUpdate
  | willMessageResponse .. => .willMessageResponse

end SensorGateway.Sensor
