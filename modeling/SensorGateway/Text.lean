import SensorGateway.Bytes

/-!
Text on the wire is UTF-8. Writing a text always succeeds; reading one can
fail, and a reader that must not fail puts U+FFFD in place of what is not
UTF-8. That lenient reading is only ever applied to the two bytes of a short
topic name, so it is defined on two bytes.
-/

namespace SensorGateway.Text

/-- The bytes of a text. -/
def bytes (text : String) : Bytes :=
  text.toByteArray.data.toList

/-- The text that has these bytes, if they are UTF-8. -/
def ofBytes? (bytes : Bytes) : Option String :=
  String.fromUTF8? ⟨bytes.toArray⟩

theorem ofBytes?_bytes (text : String) : ofBytes? (bytes text) = some text := by
  have h : (⟨(bytes text).toArray⟩ : ByteArray) = text.toByteArray := by
    simp [bytes]
  simp only [ofBytes?, h, String.fromUTF8?, text.isValidUTF8, ↓reduceDIte]
  rfl

theorem bytes_of_ofBytes? {input : Bytes} {text : String}
    (h : ofBytes? input = some text) : bytes text = input := by
  unfold ofBytes? String.fromUTF8? at h
  split at h
  · obtain rfl := Option.some.inj h
    simp [bytes, String.fromUTF8]
  · contradiction

/-- Stands for bytes that are not UTF-8. -/
def replacement : Char := '\uFFFD'

/-- Whether `second` may follow `first` in a character of three or four bytes.
Such a pair is the beginning of a character that was cut short, and counts as
one fault rather than two. -/
def beginsLongCharacter (first second : UInt8) : Bool :=
  let continuation := 0x80 ≤ second && second ≤ 0xBF
  if first == 0xE0 then continuation && 0xA0 ≤ second
  else if first == 0xED then continuation && second ≤ 0x9F
  else if first == 0xF0 then continuation && 0x90 ≤ second
  else if first == 0xF4 then continuation && second ≤ 0x8F
  else 0xE1 ≤ first && first ≤ 0xF3 && continuation

/-- Two bytes as text; each fault becomes one replacement character. -/
def ofPairLossy (first second : UInt8) : String :=
  match ofBytes? [first, second] with
  | some text => text
  | none =>
    let char (byte : UInt8) := if byte < 0x80 then Char.ofNat byte.toNat else replacement
    if beginsLongCharacter first second then String.ofList [replacement]
    else String.ofList [char first, char second]

end SensorGateway.Text
