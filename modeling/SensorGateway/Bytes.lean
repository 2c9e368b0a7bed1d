/-!
Byte strings and the two-byte words that both wire formats are built from.
A word travels with its high byte first. Splitting and joining are inverse,
which is what lets a reader of frames and a writer of frames agree.
-/

namespace SensorGateway

abbrev Bytes := List UInt8

/-- `bit` if `on`, and no bit otherwise. -/
def bitIf (on : Bool) (bit : UInt8) : UInt8 :=
  if on then bit else 0

/-- What holds of each of the 256 bytes holds of every byte. -/
theorem forall_byte {P : UInt8 → Prop} (h : ∀ value : Fin 256, P (UInt8.ofNat value))
    (byte : UInt8) : P byte := by
  simpa using h ⟨byte.toNat, byte.toNat_lt⟩

namespace Word

/-- The word whose high byte is `high` and whose low byte is `low`. -/
def join (high low : UInt8) : UInt16 :=
  UInt16.ofNat (high.toNat * 256 + low.toNat)

/-- The two bytes of a word, high byte first. -/
def bytes (word : UInt16) : Bytes :=
  [UInt8.ofNat (word.toNat / 256), UInt8.ofNat (word.toNat % 256)]

@[simp] theorem length_bytes (word : UInt16) : (bytes word).length = 2 := rfl

theorem join_bytes (word : UInt16) :
    join (UInt8.ofNat (word.toNat / 256)) (UInt8.ofNat (word.toNat % 256)) = word := by
  apply UInt16.toNat_inj.mp
  have := word.toNat_lt
  simp only [join, UInt16.toNat_ofNat', UInt8.toNat_ofNat']
  omega

theorem bytes_join (high low : UInt8) : bytes (join high low) = [high, low] := by
  have hh := high.toNat_lt
  have hl := low.toNat_lt
  have hw : (join high low).toNat = high.toNat * 256 + low.toNat := by
    simp only [join, UInt16.toNat_ofNat']
    omega
  have hhigh : UInt8.ofNat ((join high low).toNat / 256) = high := by
    apply UInt8.toNat_inj.mp
    simp only [hw, UInt8.toNat_ofNat']
    omega
  have hlow : UInt8.ofNat ((join high low).toNat % 256) = low := by
    apply UInt8.toNat_inj.mp
    simp only [hw, UInt8.toNat_ofNat']
    omega
  simp [bytes, hhigh, hlow]

end Word

namespace Hex

/-- The lower-case hexadecimal digit of a value below sixteen. -/
def digit (value : Nat) : Char :=
  if value < 10 then Char.ofNat (48 + value) else Char.ofNat (87 + value)

/-- Two digits per byte. -/
def ofByte (byte : UInt8) : List Char :=
  [digit (byte.toNat / 16), digit (byte.toNat % 16)]

def ofBytes (bytes : Bytes) : String :=
  String.ofList (bytes.flatMap ofByte)

end Hex

end SensorGateway
