import SensorGateway.Text
import SensorGateway.CodecError

/-!
The fields inside a broker frame: bytes, words, and blocks and texts behind a
word that tells their length. A reader gives the field and the bytes after it;
it is told the complaint to make when the bytes end too early.
-/

namespace SensorGateway.Broker.Field

/-- The longest block that its two bytes of length can tell. -/
def maxBlockLength : Nat := 65535

/-- A block of bytes behind its length. -/
def block (data : Bytes) : Except CodecError Bytes :=
  if data.length > maxBlockLength then .error (.frameTooLong data.length)
  else .ok (Word.bytes (UInt16.ofNat data.length) ++ data)

def text (value : String) : Except CodecError Bytes :=
  block (Text.bytes value)

/-- The broker knows the levels 0, 1 and 2. -/
def qos (level : UInt8) : Except CodecError UInt8 :=
  if level > 2 then .error (.invalidQos level) else .ok level

def readByte (short : CodecError) : Bytes → Except CodecError (UInt8 × Bytes)
  | byte :: rest => .ok (byte, rest)
  | _ => .error short

def readWord (short : CodecError) : Bytes → Except CodecError (UInt16 × Bytes)
  | high :: low :: rest => .ok (Word.join high low, rest)
  | _ => .error short

def readBlock (short : CodecError) (bytes : Bytes) : Except CodecError (Bytes × Bytes) := do
  let (length, rest) ← readWord short bytes
  let data := rest.take length.toNat
  if data.length < length.toNat then .error short
  else .ok (data, rest.drop length.toNat)

def readText (short : CodecError) (bytes : Bytes) : Except CodecError (String × Bytes) := do
  let (data, rest) ← readBlock short bytes
  match Text.ofBytes? data with
  | some value => .ok (value, rest)
  | none => .error .invalidUtf8

/-- A field that is there only if a flag says so. -/
def readIf {α : Type} (present : Bool) (read : Bytes → Except CodecError (α × Bytes))
    (bytes : Bytes) : Except CodecError (Option α × Bytes) :=
  if present then (read bytes).map fun (value, rest) => (some value, rest)
  else .ok (none, bytes)

theorem length_readWord {short : CodecError} {bytes rest : Bytes} {word : UInt16}
    (h : readWord short bytes = .ok (word, rest)) : rest.length < bytes.length := by
  unfold readWord at h
  split at h
  · cases h
    simp only [List.length_cons]
    omega
  · contradiction

theorem length_readBlock {short : CodecError} {bytes data rest : Bytes}
    (h : readBlock short bytes = .ok (data, rest)) : rest.length < bytes.length := by
  unfold readBlock at h
  cases hword : readWord short bytes with
  | error e => simp [hword, bind, Except.bind] at h
  | ok read =>
    obtain ⟨length, after⟩ := read
    have := length_readWord hword
    simp only [hword, bind, Except.bind] at h
    split at h
    · contradiction
    · simp only [Except.ok.injEq, Prod.mk.injEq] at h
      obtain ⟨-, rfl⟩ := h
      simp only [List.length_drop]
      omega

theorem length_readText {short : CodecError} {bytes rest : Bytes} {value : String}
    (h : readText short bytes = .ok (value, rest)) : rest.length < bytes.length := by
  unfold readText at h
  cases hblock : readBlock short bytes with
  | error e => simp [hblock, bind, Except.bind] at h
  | ok read =>
    obtain ⟨data, after⟩ := read
    have := length_readBlock hblock
    simp only [hblock, bind, Except.bind] at h
    split at h
    · cases h
      exact this
    · contradiction

end SensorGateway.Broker.Field
