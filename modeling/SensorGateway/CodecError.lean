import SensorGateway.Bytes

/-!
What can be wrong with a frame of either protocol, or with a message that has
no frame.
-/

namespace SensorGateway

inductive CodecError where
  /-- Fewer bytes than the least that this kind of frame has. -/
  | tooShort (kind : String) (length : Nat)
  /-- The length field does not tell the number of bytes received. -/
  | lengthMismatch (declared actual : Nat)
  /-- The kind of frame has a fixed length and this is another one. -/
  | badLength (kind : String) (length : Nat)
  | unknownType (byte : UInt8)
  | reservedTopicIdType (bits : UInt8)
  | unknownReturnCode (byte : UInt8)
  | invalidQos (level : UInt8)
  | invalidUtf8
  /-- The length does not fit the field that has to tell it. -/
  | frameTooLong (length : Nat)
  /-- A remaining length that goes on after its fourth byte. -/
  | badRemainingLength
deriving DecidableEq

namespace CodecError

def message : CodecError → String
  | tooShort kind length => s!"{kind} frame too short ({length} bytes)"
  | lengthMismatch declared actual =>
      s!"length mismatch: declared {declared}, actual {actual}"
  | badLength kind length => s!"{kind} frame has invalid length {length}"
  | unknownType byte => "unknown message type: 0x" ++ Hex.ofBytes [byte]
  | reservedTopicIdType bits => "reserved topic id type: " ++ toString bits.toNat
  | unknownReturnCode byte => "unknown return code: 0x" ++ Hex.ofBytes [byte]
  | invalidQos level => "invalid QoS level: " ++ toString level.toNat
  | invalidUtf8 => "string field is not valid UTF-8"
  | frameTooLong length => s!"frame too long: {length} bytes"
  | badRemainingLength => "malformed remaining length"

end CodecError

end SensorGateway
