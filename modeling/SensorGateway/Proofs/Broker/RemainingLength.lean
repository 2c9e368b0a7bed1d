import Mathlib.Algebra.Ring.Nat
import SensorGateway.Broker.RemainingLength

/-!
The remaining length as a number to the base 128. A field is a string of bytes
of which all but the last say that another one follows, and what it tells is the
number with these digits, low ones first. Reading takes the field that the bytes
begin with, if it has at most four bytes. Writing gives the shortest of the
fields that tell a number: a field of the same number is as long only if it is
the same one, since the only way to tell a number at greater length is to add
digits that are zero. `lengths_told` says which lengths can be told and how, and
what is read at the beginning of whatever bytes.
-/

namespace SensorGateway.Broker.RemainingLength

/-! ### Digits -/

theorem digit_eq (byte : UInt8) : digit byte = byte.toNat % 128 := by
  revert byte
  apply forall_byte
  decide +kernel

/-- The high bit of a byte says that another one follows. -/
theorem continues_iff (byte : UInt8) : continues byte = true ↔ 128 ≤ byte.toNat := by
  revert byte
  apply forall_byte
  decide +kernel

theorem digit_lt (byte : UInt8) : digit byte < 128 := by
  rw [digit_eq]
  exact Nat.mod_lt _ (by decide)

/-- A byte is its digit and whether it is the last one. -/
theorem eq_of_digit {first second : UInt8} (hdigit : digit first = digit second)
    (hcontinues : continues first = continues second) : first = second := by
  apply UInt8.toNat_inj.mp
  have hfirst := first.toNat_lt
  have hsecond := second.toNat_lt
  have hiff : 128 ≤ first.toNat ↔ 128 ≤ second.toNat := by
    rw [← continues_iff, ← continues_iff, hcontinues]
  rw [digit_eq, digit_eq] at hdigit
  omega

/-! ### Fields -/

def IsField : Bytes → Prop
  | [] => False
  | byte :: bytes => if continues byte then IsField bytes else bytes = []

def value : Bytes → Nat
  | [] => 0
  | byte :: bytes => digit byte + 128 * value bytes

/-- A field of so many bytes tells a number of so many digits. -/
theorem value_lt (field : Bytes) : value field < 128 ^ field.length := by
  induction field with
  | nil => exact Nat.one_pos
  | cons byte bytes ih =>
    have hdigit := digit_lt byte
    simp only [value, List.length_cons, Nat.pow_succ]
    omega

theorem isField_cons {byte : UInt8} {bytes : Bytes} :
    IsField (byte :: bytes) ↔
      (continues byte = true ↔ bytes ≠ []) ∧ (bytes = [] ∨ IsField bytes) := by
  cases hmore : continues byte with
  | true =>
    cases bytes with
    | nil => simp [IsField, hmore]
    | cons next bytes => simp [IsField, hmore]
  | false => simp +contextual [IsField, hmore]

theorem length_pos_of_isField {field : Bytes} (h : IsField field) : 0 < field.length := by
  cases field with
  | nil => exact h.elim
  | cons byte bytes => exact Nat.succ_pos _

/-- Fields of one length that tell the same are the same. -/
theorem eq_of_value {first second : Bytes} (hfirst : IsField first) (hsecond : IsField second)
    (hlength : first.length = second.length) (hvalue : value first = value second) :
    first = second := by
  induction first generalizing second with
  | nil => exact hfirst.elim
  | cons byte bytes ih =>
    cases second with
    | nil => exact hsecond.elim
    | cons other others =>
      have hbyte := digit_lt byte
      have hother := digit_lt other
      simp only [value] at hvalue
      simp only [List.length_cons, Nat.add_right_cancel_iff] at hlength
      have hdigit : digit byte = digit other := by omega
      obtain ⟨hmore, hrest⟩ := isField_cons.mp hfirst
      obtain ⟨hothers, hrest'⟩ := isField_cons.mp hsecond
      -- Both bytes are the last ones or neither is, as there are as many bytes after each.
      have hempty : bytes = [] ↔ others = [] := by
        rw [← List.length_eq_zero_iff, ← List.length_eq_zero_iff, hlength]
      have hcontinues : continues byte = continues other := by
        exact Bool.eq_iff_iff.mpr (hmore.trans ((not_congr hempty).trans hothers.symm))
      rw [eq_of_digit hdigit hcontinues]
      rcases hrest with rfl | hrest
      · rw [hempty.mp rfl]
      · have hothers : others ≠ [] := fun h => by simp [hempty.mpr h, IsField] at hrest
        rw [ih hrest (hrest'.resolve_left hothers) hlength (by omega)]

/-! ### Reading -/

/-- A reader with room for one byte more takes a first byte and, if that says so, reads on. -/
theorem readWithin_cons {room length : Nat} {byte : UInt8} {input field rest : Bytes} :
    readWithin (room + 1) (byte :: input) = .length length field rest ↔
      if continues byte then
        ∃ value field', readWithin room input = .length value field' rest ∧
          field = byte :: field' ∧ length = digit byte + 128 * value
      else field = [byte] ∧ input = rest ∧ digit byte = length := by
  rw [readWithin]
  split
  · cases hread : readWithin room input with
    | length value field' rest' =>
      constructor
      · intro h
        cases h
        exact ⟨value, field', rfl, rfl, rfl⟩
      · rintro ⟨value, field', h, rfl, rfl⟩
        cases h
        rfl
    | cut => simp
    | malformed rest => simp
  · constructor
    · intro h
      cases h
      exact ⟨rfl, rfl, rfl⟩
    · rintro ⟨rfl, rfl, rfl⟩
      rfl

/-- What is read is the shortest beginning that is a field, if it fits. -/
theorem readWithin_eq_length {room length : Nat} {input field rest : Bytes} :
    readWithin room input = .length length field rest ↔
      input = field ++ rest ∧ IsField field ∧ field.length ≤ room ∧ value field = length := by
  induction room generalizing input field length with
  | zero =>
    cases field with
    | nil => simp [readWithin, IsField]
    | cons byte bytes => simp [readWithin]
  | succ room ih =>
    cases input with
    | nil =>
      cases field with
      | nil => simp [readWithin, IsField]
      | cons byte bytes => simp [readWithin]
    | cons byte input =>
      rw [readWithin_cons]
      cases field with
      | nil => simp [IsField]
      | cons first bytes =>
        simp only [ih]
        constructor
        · intro h
          split at h
          next hmore =>
            obtain ⟨length', field', ⟨rfl, hfield, hroom, rfl⟩, hcons, rfl⟩ := h
            cases hcons
            refine ⟨rfl, ?_, Nat.succ_le_succ hroom, rfl⟩
            rwa [IsField, if_pos hmore]
          next hlast =>
            obtain ⟨hcons, rfl, rfl⟩ := h
            cases hcons
            refine ⟨rfl, ?_, Nat.succ_le_succ (Nat.zero_le room), rfl⟩
            rw [IsField, if_neg hlast]
        · rintro ⟨hinput, hfield, hroom, rfl⟩
          cases hinput
          simp only [IsField] at hfield
          split at hfield
          next hmore =>
            rw [if_pos hmore]
            exact ⟨value bytes, bytes, ⟨rfl, hfield, Nat.le_of_succ_le_succ hroom, rfl⟩, rfl, rfl⟩
          next hlast =>
            subst hfield
            rw [if_neg hlast]
            exact ⟨rfl, rfl, rfl⟩

/-- Every byte that there is room for announces another one. -/
theorem readWithin_eq_malformed {room : Nat} {input rest : Bytes} :
    readWithin room input = .malformed rest ↔
      ∃ field, input = field ++ rest ∧ field.length = room ∧ ∀ byte ∈ field, 128 ≤ byte.toNat := by
  induction room generalizing input with
  | zero =>
    simp only [readWithin, Reading.malformed.injEq, List.length_eq_zero_iff]
    constructor
    · rintro rfl
      exact ⟨[], rfl, rfl, nofun⟩
    · rintro ⟨_, rfl, rfl, -⟩
      rfl
  | succ room ih =>
    cases input with
    | nil =>
      simp only [readWithin, reduceCtorEq, false_iff]
      rintro ⟨field, hempty, hlength, -⟩
      obtain ⟨rfl, -⟩ := List.append_eq_nil_iff.mp hempty.symm
      contradiction
    | cons byte input =>
      have hcons : readWithin (room + 1) (byte :: input) = .malformed rest ↔
          128 ≤ byte.toNat ∧ readWithin room input = .malformed rest := by
        rw [readWithin, ← continues_iff]
        cases continues byte with
        | false => simp
        | true => cases readWithin room input <;> simp
      rw [hcons, ih]
      constructor
      · rintro ⟨hbyte, field, rfl, rfl, hlong⟩
        exact ⟨byte :: field, rfl, rfl, List.forall_mem_cons.mpr ⟨hbyte, hlong⟩⟩
      · rintro ⟨field, hinput, hlength, hlong⟩
        cases field with
        | nil => contradiction
        | cons first field =>
          obtain ⟨rfl, rfl⟩ := List.cons.inj hinput
          obtain ⟨hbyte, hlong⟩ := List.forall_mem_cons.mp hlong
          exact ⟨hbyte, field, rfl, Nat.succ.inj hlength, hlong⟩

/-- The bytes end while every one of them announces another one. -/
theorem readWithin_eq_cut {room : Nat} {input : Bytes} :
    readWithin room input = .cut ↔ input.length < room ∧ ∀ byte ∈ input, 128 ≤ byte.toNat := by
  induction room generalizing input with
  | zero => simp [readWithin]
  | succ room ih =>
    cases input with
    | nil => simp [readWithin]
    | cons byte input =>
      have hcons : readWithin (room + 1) (byte :: input) = .cut ↔
          128 ≤ byte.toNat ∧ readWithin room input = .cut := by
        rw [readWithin, ← continues_iff]
        cases continues byte with
        | false => simp
        | true => cases readWithin room input <;> simp
      rw [hcons, ih, List.forall_mem_cons, List.length_cons, Nat.succ_lt_succ_iff]
      exact and_left_comm

/-- The last byte of a field announces none. -/
theorem exists_last_of_isField {field : Bytes} (h : IsField field) :
    ∃ byte ∈ field, byte.toNat < 128 := by
  induction field with
  | nil => exact h.elim
  | cons byte bytes ih =>
    simp only [IsField] at h
    split at h
    · obtain ⟨last, hin, hlast⟩ := ih h
      exact ⟨last, List.mem_cons_of_mem _ hin, hlast⟩
    next hlast =>
      rw [continues_iff, Nat.not_le] at hlast
      exact ⟨byte, List.mem_cons_self, hlast⟩

/-- A length is decoded just where the input begins with a field of four bytes at most. -/
theorem decode_eq_ok {input : Bytes} {length used : Nat} :
    decode input = .ok (length, used) ↔
      ∃ field rest, input = field ++ rest ∧ IsField field ∧ field.length ≤ 4 ∧
        value field = length ∧ field.length = used := by
  have hread : decode input = .ok (length, used) ↔
      ∃ field rest, read input = .length length field rest ∧ field.length = used := by
    unfold decode
    cases read input with
    | length length' field rest => simp +contextual [and_assoc, eq_comm]
    | cut => simp
    | malformed rest => simp
  simp only [hread, read, readWithin_eq_length, and_assoc]

/-- Reading fails only where four bytes, or all if there are fewer, announce another one. -/
theorem exists_decode_iff {input : Bytes} :
    (∃ length used, decode input = .ok (length, used)) ↔
      ∃ byte ∈ input.take 4, byte.toNat < 128 := by
  constructor
  · rintro ⟨length, used, h⟩
    obtain ⟨field, rest, rfl, hfield, hroom, -, -⟩ := decode_eq_ok.mp h
    obtain ⟨byte, hin, hlast⟩ := exists_last_of_isField hfield
    refine ⟨byte, ?_, hlast⟩
    rw [List.take_append, List.take_of_length_le hroom]
    exact List.mem_append_left _ hin
  · rintro ⟨byte, hin, hlast⟩
    have hbyte : ¬ 128 ≤ byte.toNat := Nat.not_le.mpr hlast
    unfold decode read
    cases hread : readWithin 4 input with
    | length length field rest => exact ⟨length, field.length, rfl⟩
    | cut =>
      obtain ⟨-, hlong⟩ := readWithin_eq_cut.mp hread
      exact (hbyte (hlong byte (List.mem_of_mem_take hin))).elim
    | malformed rest =>
      obtain ⟨field, rfl, hlength, hlong⟩ := readWithin_eq_malformed.mp hread
      rw [List.take_left' hlength] at hin
      exact (hbyte (hlong byte hin)).elim

/-- An input of which the first four bytes all announce another one is too short, or else
malformed. -/
theorem decode_eq_error {input : Bytes} (h : ∀ byte ∈ input.take 4, 128 ≤ byte.toNat) :
    decode input = .error
      (if input.length < 4 then .tooShort "remaining length" input.length
        else .badRemainingLength) := by
  unfold decode read
  by_cases hshort : input.length < 4
  · rw [List.take_of_length_le (Nat.le_of_lt hshort)] at h
    rw [if_pos hshort, readWithin_eq_cut.mpr ⟨hshort, h⟩]
  · have hfour : (input.take 4).length = 4 := List.length_take_of_le (Nat.not_lt.mp hshort)
    have hmalformed : readWithin 4 input = .malformed (input.drop 4) :=
      readWithin_eq_malformed.mpr ⟨_, (List.take_append_drop 4 input).symm, hfour, h⟩
    rw [if_neg hshort, hmalformed]

/-- What is read depends on the bytes of the field only. -/
theorem decode_of_take_eq {input other : Bytes} {length used : Nat}
    (h : decode input = .ok (length, used)) (hsame : other.take used = input.take used) :
    decode other = .ok (length, used) := by
  obtain ⟨field, rest, rfl, hfield, hroom, hvalue, rfl⟩ := decode_eq_ok.mp h
  rw [List.take_left] at hsame
  have hsplit : other = field ++ other.drop field.length := by
    rw [← congrArg (· ++ other.drop field.length) hsame, List.take_append_drop]
  exact decode_eq_ok.mpr ⟨field, _, hsplit, hfield, hroom, hvalue, rfl⟩

/-! ### Writing -/

theorem isField_bytes (length : Nat) : IsField (bytes length) := by
  induction length using bytes.induct with
  | case1 length hlast =>
    have hbyte : continues (UInt8.ofNat length) = false := by
      rw [← Bool.not_eq_true, continues_iff, UInt8.toNat_ofNat']
      omega
    rw [bytes, if_pos hlast, IsField, hbyte]
    rfl
  | case2 length hmore ih =>
    have hbyte : continues (UInt8.ofNat (128 + length % 128)) = true := by
      rw [continues_iff, UInt8.toNat_ofNat']
      omega
    rwa [bytes, if_neg hmore, IsField, if_pos hbyte]

/-- What is written of a length tells the length. -/
theorem value_bytes (length : Nat) : value (bytes length) = length := by
  induction length using bytes.induct with
  | case1 length hlast =>
    rw [bytes, if_pos hlast, value, value, digit_eq, UInt8.toNat_ofNat']
    omega
  | case2 length hmore ih =>
    rw [bytes, if_neg hmore, value, ih, digit_eq, UInt8.toNat_ofNat']
    omega

/-- No field of the same number is shorter than the one that is written. -/
theorem length_bytes_value {field : Bytes} (h : IsField field) :
    (bytes (value field)).length ≤ field.length := by
  induction field with
  | nil => exact h.elim
  | cons byte rest ih =>
    have hdigit := digit_lt byte
    obtain ⟨-, hrest⟩ := isField_cons.mp h
    rw [bytes]
    split
    · simp
    next hmore =>
      simp only [value] at hmore ⊢
      have hquotient : (digit byte + 128 * value rest) / 128 = value rest := by omega
      rw [List.length_cons, List.length_cons, hquotient]
      rcases hrest with rfl | hrest
      · simp only [value] at hmore
        omega
      · exact Nat.succ_le_succ (ih hrest)

/-- A greater number does not have a shorter field. -/
theorem length_bytes_mono {smaller greater : Nat} (h : smaller ≤ greater) :
    (bytes smaller).length ≤ (bytes greater).length := by
  induction greater using bytes.induct generalizing smaller with
  | case1 greater hlast =>
    rw [bytes, if_pos (Nat.lt_of_le_of_lt h hlast), bytes, if_pos hlast]
    simp
  | case2 greater hmore ih =>
    rw [bytes.eq_def greater, if_neg hmore, bytes]
    split
    · simp
    · exact Nat.succ_le_succ (ih (Nat.div_le_div_right h))

/-- Four bytes are enough for every length that may be told. -/
theorem length_bytes_le_four {length : Nat} (h : length ≤ max) : (bytes length).length ≤ 4 := by
  have hmax : (bytes max).length = 4 := by simp [bytes, max]
  exact hmax ▸ length_bytes_mono h

/-- A length comes back from what was written of it, whatever stands behind. -/
theorem decode_bytes_append {length : Nat} (h : length ≤ max) (rest : Bytes) :
    decode (bytes length ++ rest) = .ok (length, (bytes length).length) :=
  decode_eq_ok.mpr ⟨_, rest, rfl, isField_bytes length, length_bytes_le_four h,
    value_bytes length, rfl⟩

/-- Four bytes tell no length that is greater than the greatest. -/
theorem value_le_max {field : Bytes} (h : field.length ≤ 4) : value field ≤ max := by
  have hpow : 128 ^ field.length ≤ 128 ^ 4 := Nat.pow_le_pow_right (by decide) h
  have hlt := value_lt field
  simp only [max]
  omega

/-! ### Writing behind what is there -/

/-- Puts the digits of a length one after the other behind what was written before. -/
def push (written : Bytes) (length : Nat) : Bytes :=
  if length / 128 = 0 then written ++ [UInt8.ofNat (length % 128)]
  else push (written ++ [UInt8.ofNat (length % 128) ||| 0x80]) (length / 128)
termination_by length
decreasing_by omega

/-- Puts the field of a length behind what was written before, and tells whether there is one. -/
def append (written : Bytes) (length : Nat) : Except CodecError Unit × Bytes :=
  if length > max then (.error (.frameTooLong length), written)
  else (.ok (), push written length)

/-- The digits of a length go behind what was written before, and leave it as it is. -/
theorem push_eq (written : Bytes) (length : Nat) :
    push written length = written ++ bytes length := by
  induction length using bytes.induct generalizing written with
  | case1 length hlast =>
    have hdigits : length / 128 = 0 := Nat.div_eq_of_lt hlast
    rw [push, if_pos hdigits, Nat.mod_eq_of_lt hlast, bytes, if_pos hlast]
  | case2 length hmore ih =>
    have hdigits : length / 128 ≠ 0 := by omega
    have hbyte : UInt8.ofNat (length % 128) ||| 0x80 = UInt8.ofNat (128 + length % 128) := by
      have hall : ∀ digit : Fin 128, UInt8.ofNat digit ||| 0x80 = UInt8.ofNat (128 + digit) := by
        decide +kernel
      exact hall ⟨length % 128, Nat.mod_lt _ (by decide)⟩
    rw [push, if_neg hdigits, ih, hbyte, bytes.eq_def length, if_neg hmore, List.append_assoc,
      List.singleton_append]

/-- Behind whatever is there the field is the one that a frame is written with, and where there is
no field nothing is written. -/
theorem append_eq (written : Bytes) (length : Nat) :
    append written length =
      match encode length with
      | .error problem => (.error problem, written)
      | .ok field => (.ok (), written ++ field) := by
  unfold append encode
  split
  · rfl
  · rw [push_eq]

/-! ### The shortest form -/

/-- The length at the beginning of these bytes is told in as few of them as can
tell it. -/
def Shortest (input : Bytes) : Prop :=
  ∀ length used, decode input = .ok (length, used) →
    ∀ other used', decode other = .ok (length, used') → used ≤ used'

/-- The shortest field is the one that is written. -/
theorem shortest_iff {field : Bytes} (hfield : IsField field) (hroom : field.length ≤ 4)
    (rest : Bytes) : Shortest (field ++ rest) ↔ field = bytes (value field) := by
  have hdecode : decode (field ++ rest) = .ok (value field, field.length) :=
    decode_eq_ok.mpr ⟨field, rest, rfl, hfield, hroom, rfl, rfl⟩
  constructor
  · intro hshortest
    have hwritten := decode_bytes_append (value_le_max hroom) []
    have hle := hshortest _ _ hdecode _ _ hwritten
    exact eq_of_value hfield (isField_bytes _)
      (Nat.le_antisymm hle (length_bytes_value hfield)) (value_bytes _).symm
  · intro hbytes length used h other used' hother
    cases hdecode.symm.trans h
    obtain ⟨field', rest', -, hfield', -, hvalue, rfl⟩ := decode_eq_ok.mp hother
    rw [hbytes, ← hvalue]
    exact length_bytes_value hfield'

/-! ### Lengths and bytes -/

/-- A length has a field exactly if it is not greater than the greatest one: one to four bytes that
are read as this length wherever they stand before other bytes, and no fewer bytes are. Without a
field nothing is written. A length is read from any bytes of which one of the first four announces
no other, and from the bytes of its field alone. Otherwise the error tells whether there were four
bytes to look at. -/
theorem lengths_told (length : Nat) (input : Bytes) :
    (length ≤ max → ∃ field, encode length = .ok field ∧
      (1 ≤ field.length ∧ field.length ≤ 4) ∧
      (∀ written, append written length = (.ok (), written ++ field)) ∧
      (∀ rest, decode (field ++ rest) = .ok (length, field.length)) ∧
      ∀ other, other.length < field.length → ∀ used, decode other ≠ .ok (length, used)) ∧
    (max < length → encode length = .error (.frameTooLong length) ∧
      ∀ written, append written length = (.error (.frameTooLong length), written)) ∧
    ((∃ length used, decode input = .ok (length, used)) ↔
      ∃ byte ∈ input.take 4, byte.toNat < 128) ∧
    (∀ length used, decode input = .ok (length, used) →
      length ≤ max ∧ (1 ≤ used ∧ used ≤ 4 ∧ used ≤ input.length) ∧
      ∀ other : Bytes, other.take used = input.take used → decode other = .ok (length, used)) ∧
    ((∀ byte ∈ input.take 4, 128 ≤ byte.toNat) → decode input = .error
      (if input.length < 4 then .tooShort "remaining length" input.length
        else .badRemainingLength)) := by
  refine ⟨fun hfits => ?_, fun hlong => ?_, exists_decode_iff, fun length used h => ?_,
    decode_eq_error⟩
  · have hencode : encode length = .ok (bytes length) := if_neg (Nat.not_lt.mpr hfits)
    have hpos := length_pos_of_isField (isField_bytes length)
    refine ⟨bytes length, hencode, ⟨hpos, length_bytes_le_four hfits⟩, fun written => ?_,
      decode_bytes_append hfits, fun other hshorter used h => ?_⟩
    · rw [append_eq, hencode]
    · obtain ⟨field, rest, rfl, hfield, -, rfl, -⟩ := decode_eq_ok.mp h
      have hshortest := length_bytes_value hfield
      rw [List.length_append] at hshorter
      omega
  · have hencode : encode length = .error (.frameTooLong length) := if_pos hlong
    refine ⟨hencode, fun written => ?_⟩
    rw [append_eq, hencode]
  · obtain ⟨field, rest, rfl, hfield, hroom, rfl, rfl⟩ := decode_eq_ok.mp h
    refine ⟨value_le_max hroom, ⟨length_pos_of_isField hfield, hroom, ?_⟩,
      fun other => decode_of_take_eq h⟩
    rw [List.length_append]
    exact Nat.le_add_right _ _

/-- The least length that takes two bytes, told in the midst of others, and four bytes that tell
none. -/
theorem lengths_told_twoBytes :
    append [0x30] 128 = (.ok (), [0x30, 0x80, 0x01]) ∧
      decode [0x80, 0x01, 0xFF] = .ok (128, 2) ∧ (∀ byte used, decode [byte] ≠ .ok (128, used)) ∧
      decode [0xFF, 0xFF, 0xFF, 0xFF] = .error .badRemainingLength := by
  obtain ⟨hfits, -, -, -, hcontinue⟩ := lengths_told 128 [0xFF, 0xFF, 0xFF, 0xFF]
  obtain ⟨field, hencode, -, happend, hdecode, hshortest⟩ := hfits (by decide)
  have hfield : field = [0x80, 0x01] := by
    have hbytes : bytes 128 = [0x80, 0x01] := by simp [bytes]
    exact (Except.ok.inj hencode).symm.trans hbytes
  subst hfield
  exact ⟨happend [0x30], hdecode [0xFF], fun byte => hshortest [byte] (by simp),
    hcontinue (by simp)⟩

end SensorGateway.Broker.RemainingLength
