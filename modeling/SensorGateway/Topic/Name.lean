import SensorGateway.Text

/-!
Topic names. A name is a list of levels separated by slashes; a level `#` or
`+` makes it a pattern over many topics. A name of exactly two bytes is short:
it fits into a topic id field and needs no registration.
-/

namespace SensorGateway.Topic

/-- The levels of a name. -/
def levels (name : String) : List (List Char) :=
  name.toList.splitOn '/'

/-- Whether a name stands for many topics. -/
def isWildcard (name : String) : Bool :=
  (levels name).any fun level => level == ['#'] || level == ['+']

/-- The topic id field that holds a name of two bytes. -/
def shortId? (name : String) : Option UInt16 :=
  match Text.bytes name with
  | [first, second] => some (Word.join first second)
  | _ => none

/-- The name that a short topic id field holds. -/
def shortName (id : UInt16) : String :=
  Text.ofPairLossy (UInt8.ofNat (id.toNat / 256)) (UInt8.ofNat (id.toNat % 256))

end SensorGateway.Topic
