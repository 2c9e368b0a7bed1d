import SensorGateway.Sensor.Message
import SensorGateway.Text

/-!
Sensor frames: one byte for the length of the whole frame, one for the type of
message, then the fields of that type. `Message.encode` writes a frame and
`Message.decode` reads one. The reader accepts a frame only if every byte of it
is accounted for, so that apart from the two topic id bits it may ignore in a
CONNECT or a will topic, a message has one frame.
-/

namespace SensorGateway.Sensor

/-- The greatest length that the length byte can tell. -/
def maxFrameLength : Nat := 255

namespace TopicRef

def bytes : TopicRef → Bytes
  | named topic => Text.bytes topic
  | predefined id => Word.bytes id
  | short first second => [first, second]

end TopicRef

namespace WillTopic

/-- Nothing follows the type byte in a request to delete the will. -/
def bytes (will : WillTopic) : Bytes :=
  match will.flags with
  | none => []
  | some flags => flags.byte :: Text.bytes will.topic

end WillTopic

namespace TopicAck

def bytes (ack : TopicAck) : Bytes :=
  Word.bytes ack.topicId ++ Word.bytes ack.msgId ++ [ack.returnCode.byte]

end TopicAck

namespace TopicRequest

/-- The kind of topic written into the flags is that of the topic itself. -/
def bytes (request : TopicRequest) : Bytes :=
  let flags := { request.flags with topicIdType := request.topic.idType }
  flags.byte :: (Word.bytes request.msgId ++ request.topic.bytes)

end TopicRequest

namespace Message

/-- What follows the type byte. -/
def body : Message → Bytes
  | advertise gateway duration => gateway :: Word.bytes duration
  | searchGateway radius => [radius]
  | gatewayInfo gateway address => gateway :: address
  | connect request =>
      request.flags.byte :: request.protocolId ::
        (Word.bytes request.duration ++ Text.bytes request.clientId)
  | connack code | willTopicResponse code | willMessageResponse code => [code.byte]
  | willTopicRequest | willMessageRequest | pingResponse => []
  | willTopic will | willTopicUpdate will => will.bytes
  | willMessage data | willMessageUpdate data => data
  | register registration =>
      Word.bytes registration.topicId ++ Word.bytes registration.msgId ++
        Text.bytes registration.topic
  | regack ack | puback ack => ack.bytes
  | publish publication =>
      publication.flags.byte ::
        (Word.bytes publication.topicId ++ Word.bytes publication.msgId ++ publication.data)
  | pubcomp msgId | pubrec msgId | pubrel msgId | unsuback msgId => Word.bytes msgId
  | subscribe request | unsubscribe request => request.bytes
  | suback ack =>
      ack.flags.byte ::
        (Word.bytes ack.topicId ++ Word.bytes ack.msgId ++ [ack.returnCode.byte])
  | pingRequest clientId =>
      match clientId with
      | none => []
      | some clientId => Text.bytes clientId
  | disconnect duration =>
      match duration with
      | none => []
      | some duration => Word.bytes duration

/-- The frame of a message. A message whose frame would be longer than the
length byte can tell has none. -/
def encode (message : Message) : Except CodecError Bytes :=
  let length := message.body.length + 2
  if length > maxFrameLength then .error (.frameTooLong length)
  else .ok (UInt8.ofNat length :: message.type.byte :: message.body)

end Message

/-- The text of a field that runs to the end of the frame. -/
def readText (bytes : Bytes) : Except CodecError String :=
  match Text.ofBytes? bytes with
  | some text => .ok text
  | none => .error .invalidUtf8

/-- The topic of a subscription, in the form that its flags announce. -/
def TopicRef.ofBytes (type : TopicIdType) (bytes : Bytes) : Except CodecError TopicRef :=
  match type with
  | .normal => (readText bytes).map .named
  | .predefined =>
      match bytes with
      | [high, low] => .ok (.predefined (Word.join high low))
      | _ => .error (.badLength "topic id" bytes.length)
  | .short =>
      match bytes with
      | [first, second] => .ok (.short first second)
      | _ => .error (.badLength "short topic" bytes.length)

/-- The will topic told by the bytes after the type byte. -/
def WillTopic.ofBytes : Bytes → Except CodecError WillTopic
  | [] => .ok ⟨none, ""⟩
  | flags :: topic => (readText topic).map fun topic => ⟨some (.ofByteLenient flags), topic⟩

/-!
The layouts that several types share. A type with a fixed length refuses any
other, the remaining ones only a length below their least; either complaint
tells the length of the whole frame.
-/

namespace Layout

variable {α : Type}

def wrongLength (type : MessageType) (body : Bytes) : Except CodecError α :=
  .error (.badLength type.name (body.length + 2))

def tooShort (type : MessageType) (body : Bytes) : Except CodecError α :=
  .error (.tooShort type.name (body.length + 2))

def empty (type : MessageType) (value : α) : Bytes → Except CodecError α
  | [] => .ok value
  | body => wrongLength type body

def word (type : MessageType) : Bytes → Except CodecError UInt16
  | [high, low] => .ok (Word.join high low)
  | body => wrongLength type body

def returnCode (type : MessageType) : Bytes → Except CodecError ReturnCode
  | [byte] => ReturnCode.ofByte byte
  | body => wrongLength type body

def topicAck (type : MessageType) : Bytes → Except CodecError TopicAck
  | [t1, t0, m1, m0, byte] =>
      (ReturnCode.ofByte byte).map fun code => ⟨Word.join t1 t0, Word.join m1 m0, code⟩
  | body => wrongLength type body

def topicRequest (type : MessageType) : Bytes → Except CodecError TopicRequest
  | byte :: m1 :: m0 :: first :: rest => do
      let flags ← Flags.ofByte byte
      let topic ← TopicRef.ofBytes flags.topicIdType (first :: rest)
      return ⟨flags, Word.join m1 m0, topic⟩
  | body => tooShort type body

def connect : Bytes → Except CodecError Connect
  | flags :: protocolId :: d1 :: d0 :: first :: rest =>
      (readText (first :: rest)).map fun clientId =>
        ⟨.ofByteLenient flags, protocolId, Word.join d1 d0, clientId⟩
  | body => tooShort .connect body

def register : Bytes → Except CodecError Register
  | t1 :: t0 :: m1 :: m0 :: first :: rest =>
      (readText (first :: rest)).map fun topic => ⟨Word.join t1 t0, Word.join m1 m0, topic⟩
  | body => tooShort .register body

def publish : Bytes → Except CodecError Publish
  | byte :: t1 :: t0 :: m1 :: m0 :: data =>
      (Flags.ofByte byte).map fun flags => ⟨flags, Word.join t1 t0, Word.join m1 m0, data⟩
  | body => tooShort .publish body

def suback : Bytes → Except CodecError Suback
  | [byte, t1, t0, m1, m0, codeByte] => do
      let flags ← Flags.ofByte byte
      let code ← ReturnCode.ofByte codeByte
      return ⟨flags, Word.join t1 t0, Word.join m1 m0, code⟩
  | body => wrongLength .suback body

/-- A client id is only told if there is at least one byte of it. -/
def pingRequest : Bytes → Except CodecError (Option String)
  | [] => .ok none
  | body => (readText body).map some

def disconnect : Bytes → Except CodecError (Option UInt16)
  | [] => .ok none
  | body => (word .disconnect body).map some

end Layout

namespace Message

/-- Reads the bytes after the type byte. -/
def ofBody : MessageType → Bytes → Except CodecError Message
  | .advertise, [gateway, d1, d0] => .ok (advertise gateway (Word.join d1 d0))
  | .advertise, body => Layout.wrongLength .advertise body
  | .searchGateway, [radius] => .ok (searchGateway radius)
  | .searchGateway, body => Layout.wrongLength .searchGateway body
  | .gatewayInfo, gateway :: address => .ok (gatewayInfo gateway address)
  | .gatewayInfo, [] => Layout.tooShort .gatewayInfo []
  | .connect, body => (Layout.connect body).map connect
  | .connack, body => (Layout.returnCode .connack body).map connack
  | .willTopicRequest, body => Layout.empty .willTopicRequest willTopicRequest body
  | .willTopic, body => (WillTopic.ofBytes body).map willTopic
  | .willMessageRequest, body => Layout.empty .willMessageRequest willMessageRequest body
  | .willMessage, body => .ok (willMessage body)
  | .register, body => (Layout.register body).map register
  | .regack, body => (Layout.topicAck .regack body).map regack
  | .publish, body => (Layout.publish body).map publish
  | .puback, body => (Layout.topicAck .puback body).map puback
  | .pubcomp, body => (Layout.word .pubcomp body).map pubcomp
  | .pubrec, body => (Layout.word .pubrec body).map pubrec
  | .pubrel, body => (Layout.word .pubrel body).map pubrel
  | .subscribe, body => (Layout.topicRequest .subscribe body).map subscribe
  | .suback, body => (Layout.suback body).map suback
  | .unsubscribe, body => (Layout.topicRequest .unsubscribe body).map unsubscribe
  | .unsuback, body => (Layout.word .unsuback body).map unsuback
  | .pingRequest, body => (Layout.pingRequest body).map pingRequest
  | .pingResponse, body => Layout.empty .pingResponse pingResponse body
  | .disconnect, body => (Layout.disconnect body).map disconnect
  | .willTopicUpdate, body => (WillTopic.ofBytes body).map willTopicUpdate
  | .willTopicResponse, body => (Layout.returnCode .willTopicResponse body).map willTopicResponse
  | .willMessageUpdate, body => .ok (willMessageUpdate body)
  | .willMessageResponse, body =>
      (Layout.returnCode .willMessageResponse body).map willMessageResponse

/-- Reads one whole frame. -/
def decode (frame : Bytes) : Except CodecError Message :=
  match frame with
  | length :: byte :: body =>
      if length.toNat ≠ frame.length then
        .error (.lengthMismatch length.toNat frame.length)
      else
        match MessageType.ofByte? byte with
        | some type => ofBody type body
        | none => .error (.unknownType byte)
  | _ => .error (.tooShort "frame" frame.length)

end Message

end SensorGateway.Sensor
