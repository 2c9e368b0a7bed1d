import SensorGateway.Broker.Field
import SensorGateway.Broker.Message
import SensorGateway.Broker.RemainingLength

/-!
Broker frames: a first byte with the type of message and four flag bits, the
remaining length, and the fields of that type. `Message.encode` writes the
shortest such frame. `Message.decode` is more liberal: it takes a remaining
length that is longer than it need be, flag bits without a meaning, and bytes
after the last field of a CONNECT.
-/

namespace SensorGateway.Broker

namespace Connect

/-- The flags byte of a CONNECT says which of its last fields are there. -/
def flags (request : Connect) : UInt8 :=
  let will : UInt8 :=
    match request.will with
    | none => 0
    | some will => bitIf will.retain 0x20 ||| (will.qos <<< 3) ||| 0x04
  bitIf request.cleanSession 0x02 ||| will |||
    bitIf request.username.isSome 0x80 ||| bitIf request.password.isSome 0x40

/-- A field that is written only if it is there. -/
def textIfSome : Option String → Except CodecError Bytes
  | none => .ok []
  | some value => Field.text value

def body (request : Connect) : Except CodecError Bytes := do
  let protocol ← Field.text request.protocolName
  if let some will := request.will then
    let _ ← Field.qos will.qos
  let clientId ← Field.text request.clientId
  let will ←
    match request.will with
    | none => pure []
    | some will => do
        let topic ← Field.text will.topic
        let data ← Field.block will.data
        pure (topic ++ data)
  let username ← textIfSome request.username
  let password ← textIfSome request.password
  return protocol ++ [request.protocolVersion, request.flags] ++ Word.bytes request.keepAlive ++
    clientId ++ will ++ username ++ password

/-- Bytes after the last field that the flags announce are ignored. -/
def ofBody (bytes : Bytes) : Except CodecError Connect := do
  let short := CodecError.tooShort "CONNECT" bytes.length
  let (protocolName, rest) ← Field.readText short bytes
  let (protocolVersion, rest) ← Field.readByte short rest
  let (flags, rest) ← Field.readByte short rest
  let (keepAlive, rest) ← Field.readWord short rest
  let (clientId, rest) ← Field.readText short rest
  let readWill (rest : Bytes) : Except CodecError (Will × Bytes) := do
    let (topic, rest) ← Field.readText short rest
    let (data, rest) ← Field.readBlock short rest
    let qos ← Field.qos ((flags >>> 3) &&& 3)
    return (⟨topic, data, qos, flags &&& 0x20 != 0⟩, rest)
  let (will, rest) ← Field.readIf (flags &&& 0x04 != 0) readWill rest
  let (username, rest) ← Field.readIf (flags &&& 0x80 != 0) (Field.readText short) rest
  let (password, _) ← Field.readIf (flags &&& 0x40 != 0) (Field.readText short) rest
  return { protocolName, protocolVersion, clientId, keepAlive, will, username, password
           cleanSession := flags &&& 0x02 != 0 }

end Connect

namespace Publish

/-- Duplicate, two bits of quality of service, retain. -/
def flags (publication : Publish) : UInt8 :=
  bitIf publication.dup 8 ||| (publication.qos <<< 1) ||| bitIf publication.retain 1

def body (publication : Publish) : Except CodecError Bytes := do
  let _ ← Field.qos publication.qos
  let topic ← Field.text publication.topic
  let msgId := if publication.qos > 0 then Word.bytes publication.msgId else []
  return topic ++ msgId ++ publication.data

def ofBody (header : UInt8) (bytes : Bytes) : Except CodecError Publish := do
  let short := CodecError.tooShort "PUBLISH" bytes.length
  let qos ← Field.qos ((header >>> 1) &&& 3)
  let (topic, rest) ← Field.readText short bytes
  let (msgId, data) ← if qos > 0 then Field.readWord short rest else .ok (0, rest)
  return { dup := header &&& 8 != 0, qos, retain := header &&& 1 != 0, topic, msgId, data }

end Publish

namespace Subscription

/-- A topic asked for and the greatest quality of service wanted on it. -/
def bytes (entry : String × UInt8) : Except CodecError Bytes := do
  let topic ← Field.text entry.1
  let qos ← Field.qos entry.2
  return topic ++ [qos]

def read (short : CodecError) (input : Bytes) :
    Except CodecError ((String × UInt8) × Bytes) := do
  let (topic, rest) ← Field.readText short input
  let (level, rest) ← Field.readByte short rest
  let qos ← Field.qos level
  return ((topic, qos), rest)

theorem length_read {short : CodecError} {input rest : Bytes} {entry : String × UInt8}
    (h : read short input = .ok (entry, rest)) : rest.length < input.length := by
  unfold read at h
  cases htext : Field.readText short input with
  | error e => simp [htext, bind, Except.bind] at h
  | ok text =>
    obtain ⟨topic, after⟩ := text
    have := Field.length_readText htext
    cases after with
    | nil => simp [htext, bind, Except.bind, Field.readByte] at h
    | cons byte bytes =>
      simp only [htext, bind, Except.bind, Field.readByte] at h
      split at h
      · contradiction
      · simp only [pure, Except.pure, Except.ok.injEq, Prod.mk.injEq] at h
        obtain ⟨-, rfl⟩ := h
        simp only [List.length_cons] at this
        omega

end Subscription

/-- Writes one item after the other. -/
def writeAll {α : Type} (write : α → Except CodecError Bytes) :
    List α → Except CodecError Bytes
  | [] => .ok []
  | item :: items => do
      let first ← write item
      let others ← writeAll write items
      return first ++ others

/-- Reads one item after the other until no bytes are left. -/
def readAll {α : Type} (read : Bytes → Except CodecError (α × Bytes))
    (shrinks : ∀ {input rest : Bytes} {item : α},
      read input = .ok (item, rest) → rest.length < input.length)
    (input : Bytes) : Except CodecError (List α) :=
  if input.isEmpty then .ok []
  else
    match h : read input with
    | .error e => .error e
    | .ok (item, rest) =>
      have : rest.length < input.length := shrinks h
      (readAll read shrinks rest).map (item :: ·)
termination_by input.length

namespace Message

/-- The low half of the first byte. -/
def headerFlags : Message → UInt8
  | publish publication => publication.flags
  | pubrel _ => 2
  | subscribe dup _ _ | unsubscribe dup _ _ => bitIf dup 8 ||| 2
  | _ => 0

/-- The bytes after the remaining length. -/
def body : Message → Except CodecError Bytes
  | connect request => request.body
  | connack returnCode => .ok [0, returnCode]
  | publish publication => publication.body
  | puback msgId | pubrec msgId | pubrel msgId | pubcomp msgId | unsuback msgId =>
      .ok (Word.bytes msgId)
  | subscribe _ msgId topics => do
      let entries ← writeAll Subscription.bytes topics
      return Word.bytes msgId ++ entries
  | suback msgId granted => .ok (Word.bytes msgId ++ granted)
  | unsubscribe _ msgId topics => do
      let entries ← writeAll Field.text topics
      return Word.bytes msgId ++ entries
  | pingRequest | pingResponse | disconnect => .ok []

def encode (message : Message) : Except CodecError Bytes := do
  let body ← message.body
  let length ← RemainingLength.encode body.length
  return ((message.typeNumber <<< 4) ||| message.headerFlags) :: (length ++ body)

/-- The message id that is all there is in a plain acknowledgement. -/
def readAck : Bytes → Except CodecError UInt16
  | [high, low] => .ok (Word.join high low)
  | body => .error (.badLength "ack" body.length)

/-- Takes a body without bytes for `message`. -/
def readEmpty (message : Message) : Bytes → Except CodecError Message
  | [] => .ok message
  | body => .error (.badLength "empty" body.length)

/-- Reads the body of a frame with this first byte. -/
def ofBody (header : UInt8) (body : Bytes) : Except CodecError Message :=
  let dup := header &&& 8 != 0
  let type := header >>> 4
  if type = 1 then (Connect.ofBody body).map connect
  else if type = 2 then
    match body with
    | [_, code] => .ok (connack code)
    | _ => .error (.badLength "CONNACK" body.length)
  else if type = 3 then (Publish.ofBody header body).map publish
  else if type = 4 then (readAck body).map puback
  else if type = 5 then (readAck body).map pubrec
  else if type = 6 then (readAck body).map pubrel
  else if type = 7 then (readAck body).map pubcomp
  else if type = 8 then do
    let short := CodecError.tooShort "SUBSCRIBE" body.length
    let (msgId, rest) ← Field.readWord short body
    let topics ← readAll (Subscription.read short) Subscription.length_read rest
    return subscribe dup msgId topics
  else if type = 9 then do
    let (msgId, granted) ← Field.readWord (.tooShort "SUBACK" body.length) body
    return suback msgId granted
  else if type = 10 then do
    let short := CodecError.tooShort "UNSUBSCRIBE" body.length
    let (msgId, rest) ← Field.readWord short body
    let topics ← readAll (Field.readText short) Field.length_readText rest
    return unsubscribe dup msgId topics
  else if type = 11 then (readAck body).map unsuback
  else if type = 12 then readEmpty pingRequest body
  else if type = 13 then readEmpty pingResponse body
  else if type = 14 then readEmpty disconnect body
  else .error (.unknownType type)

/-- Reads one whole frame. -/
def decode (frame : Bytes) : Except CodecError Message :=
  match frame with
  | header :: rest@(_ :: _) => do
      let (declared, used) ← RemainingLength.decode rest
      let body := rest.drop used
      if body.length ≠ declared then .error (.lengthMismatch declared body.length)
      else ofBody header body
  | _ => .error (.tooShort "frame" frame.length)

end Message

end SensorGateway.Broker
