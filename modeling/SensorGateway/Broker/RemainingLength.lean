import SensorGateway.CodecError

/-!
The remaining length of a broker frame: one to four bytes of seven bits each,
low bits first, where the high bit of a byte says that another one follows.
-/

namespace SensorGateway.Broker.RemainingLength

/-- The greatest length that four bytes tell. -/
def max : Nat := 268435455

/-- The shortest field that tells `length`. -/
def bytes (length : Nat) : Bytes :=
  if length < 128 then [UInt8.ofNat length]
  else UInt8.ofNat (128 + length % 128) :: bytes (length / 128)
termination_by length
decreasing_by omega

def encode (length : Nat) : Except CodecError Bytes :=
  if length > max then .error (.frameTooLong length) else .ok (bytes length)

/-- Whether another byte of the field follows this one. -/
def continues (byte : UInt8) : Bool := byte &&& 0x80 != 0

/-- The seven bits of a byte that count. -/
def digit (byte : UInt8) : Nat := (byte &&& 0x7F).toNat

/-- What a look at the beginning of some bytes tells of the length. -/
inductive Reading where
  /-- The length, the bytes of the field and the bytes after it. -/
  | length (value : Nat) (field rest : Bytes)
  /-- The bytes end within the field. -/
  | cut
  /-- The field goes on for too long; the bytes after its last byte. -/
  | malformed (rest : Bytes)
deriving DecidableEq

/-- Reads a field of at most `room` bytes. -/
def readWithin : Nat → Bytes → Reading
  | 0, bytes => .malformed bytes
  | _ + 1, [] => .cut
  | room + 1, byte :: bytes =>
      if continues byte then
        match readWithin room bytes with
        | .length value field rest => .length (digit byte + 128 * value) (byte :: field) rest
        | other => other
      else .length (digit byte) [byte] bytes

/-- Reads a field of at most four bytes. -/
def read (bytes : Bytes) : Reading := readWithin 4 bytes

/-- The length told at the beginning of some bytes, and the number of bytes
that tell it. -/
def decode (bytes : Bytes) : Except CodecError (Nat × Nat) :=
  match read bytes with
  | .length value field _ => .ok (value, field.length)
  | .cut => .error (.tooShort "remaining length" bytes.length)
  | .malformed _ => .error .badRemainingLength

end SensorGateway.Broker.RemainingLength
