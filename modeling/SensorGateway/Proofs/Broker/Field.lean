import SensorGateway.Proofs.Except
import SensorGateway.Broker.Frame

/-!
For each kind of field there is one law, `Reads`: the reader succeeds exactly on
the inputs that begin with what the writer writes, and it leaves what comes
after. So one statement says both that what was written is read and that what
was read is what is written. Lists of fields that run to the end of a body keep
the law.
-/

namespace SensorGateway.Broker

/-- The reader takes from its input exactly what the writer writes. -/
def Reads {α : Type} (read : Bytes → Except CodecError (α × Bytes))
    (write : α → Except CodecError Bytes) : Prop :=
  ∀ input rest item,
    read input = .ok (item, rest) ↔ ∃ written, write item = .ok written ∧ input = written ++ rest

namespace Field

theorem qos_eq_ok {level value : UInt8} : qos level = .ok value ↔ level ≤ 2 ∧ level = value := by
  unfold qos
  split
  next hgreat =>
    have hlevel : ¬ level ≤ 2 := by simpa using hgreat
    simp [hlevel]
  next hsmall =>
    have hlevel : level ≤ 2 := by simpa using hsmall
    simp [hlevel]

theorem eq_of_qos {level : UInt8} : level ≤ 2 → level = 0 ∨ level = 1 ∨ level = 2 := by
  revert level
  apply forall_byte
  decide +kernel

/-- A block is its length in two bytes and its data, and there is none for data that two
bytes cannot count. -/
theorem block_eq_ok {data written : Bytes} :
    block data = .ok written ↔
      data.length ≤ maxBlockLength ∧ Word.bytes (UInt16.ofNat data.length) ++ data = written := by
  unfold block
  split
  next hlong =>
    simp only [reduceCtorEq, false_iff]
    omega
  next hshort =>
    have hfits : data.length ≤ maxBlockLength := by omega
    simp [hfits]

/-- A block that fits has its length before it. -/
theorem toNat_blockLength {data : Bytes} (h : data.length ≤ maxBlockLength) :
    (UInt16.ofNat data.length).toNat = data.length := by
  rw [UInt16.toNat_ofNat', Nat.mod_eq_of_lt]
  simp only [maxBlockLength] at h
  omega

theorem length_block {data written : Bytes} (h : block data = .ok written) :
    written.length = 2 + data.length := by
  obtain ⟨-, rfl⟩ := block_eq_ok.mp h
  simp

theorem readByte_eq_ok {short : CodecError} {input rest : Bytes} {byte : UInt8} :
    readByte short input = .ok (byte, rest) ↔ input = byte :: rest := by
  cases input with
  | nil => simp [readByte]
  | cons first input => simp [readByte]

theorem readWord_eq_ok {short : CodecError} {input rest : Bytes} {word : UInt16} :
    readWord short input = .ok (word, rest) ↔ input = Word.bytes word ++ rest := by
  constructor
  · intro h
    unfold readWord at h
    split at h
    next high low bytes =>
      cases h
      simp [Word.bytes_join]
    · contradiction
  · rintro rfl
    simp [readWord, Word.bytes, Word.join_bytes]

/-- A block is read of what was written and of nothing else. -/
theorem reads_block (short : CodecError) : Reads (readBlock short) block := by
  intro input rest data
  constructor
  · intro h
    obtain ⟨⟨length, bytes⟩, hword, hdata⟩ := Except.bind_eq_ok.mp h
    obtain rfl := readWord_eq_ok.mp hword
    simp only at hdata
    split at hdata
    · contradiction
    next hlong =>
      cases hdata
      -- As many bytes were there as the word tells, so it is the word that would be written.
      have hlength : (bytes.take length.toNat).length = length.toNat := by
        have := List.length_take_le length.toNat bytes
        omega
      have hfits := length.toNat_lt
      refine ⟨Word.bytes length ++ bytes.take length.toNat, ?_, by simp⟩
      refine block_eq_ok.mpr ⟨?_, by rw [hlength, UInt16.ofNat_toNat]⟩
      rw [hlength, maxBlockLength]
      omega
  · rintro ⟨written, hwritten, rfl⟩
    obtain ⟨hfits, rfl⟩ := block_eq_ok.mp hwritten
    refine Except.bind_eq_ok.mpr ⟨_, readWord_eq_ok.mpr (List.append_assoc ..), ?_⟩
    simp [toNat_blockLength hfits]

theorem reads_text (short : CodecError) : Reads (readText short) text := by
  intro input rest value
  constructor
  · intro h
    obtain ⟨⟨data, after⟩, hblock, h⟩ := Except.bind_eq_ok.mp h
    simp only at h
    split at h
    next value' hvalue =>
      cases h
      rw [text, Text.bytes_of_ofBytes? hvalue]
      exact (reads_block short _ _ _).mp hblock
    · contradiction
  · intro h
    refine Except.bind_eq_ok.mpr ⟨_, (reads_block short _ _ _).mpr h, ?_⟩
    simp [Text.ofBytes?_bytes]

def writeIf {α : Type} (write : α → Except CodecError Bytes) : Option α → Except CodecError Bytes
  | none => .ok []
  | some item => write item

@[simp] theorem writeIf_none {α : Type} (write : α → Except CodecError Bytes) :
    writeIf write none = pure [] := rfl

@[simp] theorem writeIf_some {α : Type} (write : α → Except CodecError Bytes) (item : α) :
    writeIf write (some item) = write item := rfl

/-- An optional field whose reader takes part of it, `told`, from elsewhere. -/
theorem readIf_eq_ok {α : Type} {present : Bool} {read : Bytes → Except CodecError (α × Bytes)}
    {write : α → Except CodecError Bytes} {told : α → Prop}
    (h : ∀ input rest value, read input = .ok (value, rest) ↔
      told value ∧ ∃ written, write value = .ok written ∧ input = written ++ rest)
    {input rest : Bytes} {item : Option α} :
    readIf present read input = .ok (item, rest) ↔
      present = item.isSome ∧ (∀ value, item = some value → told value) ∧
        ∃ written, writeIf write item = .ok written ∧ input = written ++ rest := by
  cases present with
  | false => cases item <;> simp [readIf, pure, Except.pure]
  | true => cases item <;> simp [readIf, Except.map_eq_ok, h]

end Field

/-- An entry of a subscription is read of what was written, and of nothing else. -/
theorem Subscription.reads (short : CodecError) : Reads (read short) bytes := by
  intro input rest entry
  obtain ⟨topic, level⟩ := entry
  constructor
  · intro h
    obtain ⟨⟨topic', afterTopic⟩, htopic, h⟩ := Except.bind_eq_ok.mp h
    obtain ⟨⟨level', afterLevel⟩, hlevel, h⟩ := Except.bind_eq_ok.mp h
    obtain ⟨level'', hqos, h⟩ := Except.bind_eq_ok.mp h
    cases h
    obtain ⟨written, hwritten, rfl⟩ := (Field.reads_text short _ _ _).mp htopic
    obtain rfl := Field.readByte_eq_ok.mp hlevel
    obtain ⟨hsmall, rfl⟩ := Field.qos_eq_ok.mp hqos
    refine ⟨written ++ [level'], ?_, by simp⟩
    simp [bytes, hwritten, hqos, bind, Except.bind, pure, Except.pure]
  · rintro ⟨written, h, rfl⟩
    obtain ⟨name, hname, h⟩ := Except.bind_eq_ok.mp h
    obtain ⟨level', hqos, h⟩ := Except.bind_eq_ok.mp h
    cases h
    obtain ⟨-, rfl⟩ := Field.qos_eq_ok.mp hqos
    have htopic := (Field.reads_text short (name ++ level :: rest) (level :: rest) topic).mpr
      ⟨name, hname, rfl⟩
    simp only at hqos
    simp [read, htopic, Field.readByte, hqos, bind, Except.bind, pure, Except.pure]

section
variable {α : Type} {read : Bytes → Except CodecError (α × Bytes)}
  {shrinks : ∀ {input rest : Bytes} {item : α},
    read input = .ok (item, rest) → rest.length < input.length}

theorem readAll_eq_ok_nil {input : Bytes} : readAll read shrinks input = .ok [] ↔ input = [] := by
  rw [readAll]
  split
  next hempty => simpa using hempty
  next hmore =>
    have hinput : input ≠ [] := by simpa using hmore
    split
    · simp [hinput]
    · simp [hinput, Except.map_eq_ok]

/-- Items are read one after the other until the input ends. -/
theorem readAll_eq_ok_cons {input : Bytes} {item : α} {items : List α} :
    readAll read shrinks input = .ok (item :: items) ↔
      ∃ rest, read input = .ok (item, rest) ∧ readAll read shrinks rest = .ok items := by
  rw [readAll]
  split
  next hempty =>
    obtain rfl : input = [] := by simpa using hempty
    simp only [Except.ok.injEq, reduceCtorEq, false_iff, not_exists, not_and]
    intro rest hread
    exact absurd (shrinks hread) (Nat.not_lt_zero _)
  · split
    next error herror => simp [herror]
    next first rest hread => simp [hread, Except.map_eq_ok, and_left_comm, and_assoc]

/-- A list of items fills a body exactly if the body is what is written for it. -/
theorem Reads.readAll_eq_ok {write : α → Except CodecError Bytes} (h : Reads read write)
    {input : Bytes} {items : List α} :
    readAll read shrinks input = .ok items ↔ writeAll write items = .ok input := by
  induction items generalizing input with
  | nil =>
    rw [readAll_eq_ok_nil, writeAll, Except.ok.injEq, eq_comm]
  | cons item items ih =>
    rw [readAll_eq_ok_cons]
    simp only [h input, ih, writeAll, Except.bind_eq_ok]
    constructor
    · rintro ⟨rest, ⟨written, hwritten, rfl⟩, hrest⟩
      exact ⟨written, hwritten, rest, hrest, rfl⟩
    · rintro ⟨written, hwritten, rest, hrest, hinput⟩
      cases hinput
      exact ⟨rest, ⟨written, hwritten, rfl⟩, hrest⟩

end

end SensorGateway.Broker
