import SensorGateway.CodecError

/-!
The one-byte fields of a sensor frame: quality of service, the kind of topic
id, the return code, and the flags byte that packs the first two with four
single bits. Every field is written in one way; the strict reader of the flags
byte refuses the one reserved topic id type, the lenient reader takes it for a
normal id in those frames that carry no topic id at all.
-/

namespace SensorGateway.Sensor

/-- Delivery guarantee of a publication. At level minus one a device publishes
without being connected. -/
inductive QoS where
  | atMostOnce
  | atLeastOnce
  | exactlyOnce
  | minusOne
deriving DecidableEq

namespace QoS

/-- The two bits of a level in the flags byte. -/
def bits : QoS → UInt8
  | atMostOnce => 0
  | atLeastOnce => 1
  | exactlyOnce => 2
  | minusOne => 3

/-- Reads the two low bits of a byte. -/
def ofBits (byte : UInt8) : QoS :=
  let low := byte &&& 3
  if low = 0 then atMostOnce
  else if low = 1 then atLeastOnce
  else if low = 2 then exactlyOnce
  else minusOne

/-- The broker knows the levels 0, 1 and 2 only. -/
def ofLevel? (level : UInt8) : Option QoS :=
  if level = 0 then some atMostOnce
  else if level = 1 then some atLeastOnce
  else if level = 2 then some exactlyOnce
  else none

def level? : QoS → Option UInt8
  | minusOne => none
  | level => some level.bits

end QoS

/-- What a topic id field holds: an id given out by a registration, an id fixed
by configuration, or the two characters of a short name. In a subscription
`normal` announces a full topic name instead. -/
inductive TopicIdType where
  | normal
  | predefined
  | short
deriving DecidableEq

namespace TopicIdType

def bits : TopicIdType → UInt8
  | normal => 0
  | predefined => 1
  | short => 2

def ofByte (byte : UInt8) : Except CodecError TopicIdType :=
  if byte = 0 then .ok normal
  else if byte = 1 then .ok predefined
  else if byte = 2 then .ok short
  else .error (.reservedTopicIdType byte)

end TopicIdType

inductive ReturnCode where
  | accepted
  | congestion
  | invalidTopicId
  | notSupported
deriving DecidableEq

namespace ReturnCode

def byte : ReturnCode → UInt8
  | accepted => 0
  | congestion => 1
  | invalidTopicId => 2
  | notSupported => 3

def ofByte (byte : UInt8) : Except CodecError ReturnCode :=
  if byte = 0 then .ok accepted
  else if byte = 1 then .ok congestion
  else if byte = 2 then .ok invalidTopicId
  else if byte = 3 then .ok notSupported
  else .error (.unknownReturnCode byte)

end ReturnCode

structure Flags where
  dup : Bool := false
  qos : QoS := .atMostOnce
  retain : Bool := false
  will : Bool := false
  cleanSession : Bool := false
  topicIdType : TopicIdType := .normal
deriving DecidableEq

namespace Flags

/-- From the high bit down: duplicate, two bits of quality of service, retain,
will, clean session, two bits of topic id type. -/
def byte (flags : Flags) : UInt8 :=
  bitIf flags.dup 0x80 ||| (flags.qos.bits <<< 5) ||| bitIf flags.retain 0x10 |||
    bitIf flags.will 0x08 ||| bitIf flags.cleanSession 0x04 ||| flags.topicIdType.bits

/-- The flags of a byte whose topic id type is already known. -/
def ofByteAs (topicIdType : TopicIdType) (byte : UInt8) : Flags where
  dup := byte &&& 0x80 != 0
  qos := .ofBits (byte >>> 5)
  retain := byte &&& 0x10 != 0
  will := byte &&& 0x08 != 0
  cleanSession := byte &&& 0x04 != 0
  topicIdType := topicIdType

/-- Strict reading, for frames in which the topic id type matters. -/
def ofByte (byte : UInt8) : Except CodecError Flags :=
  (TopicIdType.ofByte (byte &&& 3)).map (ofByteAs · byte)

/-- Lenient reading: the reserved topic id type counts as `normal`. -/
def ofByteLenient (byte : UInt8) : Flags :=
  match TopicIdType.ofByte (byte &&& 3) with
  | .ok topicIdType => ofByteAs topicIdType byte
  | .error _ => ofByteAs .normal byte

/-- The flags of a publication or of an answer to a subscription, which leave
will and clean session clear. -/
def ofData (dup : Bool) (qos : QoS) (retain : Bool) (topicIdType : TopicIdType) : Flags :=
  { dup, qos, retain, topicIdType }

end Flags

end SensorGateway.Sensor
