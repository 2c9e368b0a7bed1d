import SensorGateway.Proofs.Broker.Body
import SensorGateway.Proofs.Broker.RemainingLength

/-!
Frames around bodies. A frame is made of a first byte, a field that tells the
length of the body, and the body. The reader accepts every field of at most four
bytes, the writer writes the shortest; otherwise both leave everything to the
body.
-/

namespace SensorGateway.Broker

/-- A frame that consists of these parts, of which the second tells the length of
the third. -/
structure Framed (frame : Bytes) (header : UInt8) (field body : Bytes) : Prop where
  parts : frame = header :: (field ++ body)
  isField : RemainingLength.IsField field
  room : field.length ≤ 4
  tells : RemainingLength.value field = body.length

namespace Framed

variable {frame : Bytes} {header : UInt8} {field body : Bytes}

/-- The field of the length is what `decode` reads behind the header. -/
theorem decode_length (h : Framed frame header field body) :
    RemainingLength.decode frame.tail = .ok (body.length, field.length) := by
  obtain ⟨rfl, hfield, hroom, htells⟩ := h
  exact RemainingLength.decode_eq_ok.mpr ⟨field, body, rfl, hfield, hroom, htells, rfl⟩

theorem length_body_le (h : Framed frame header field body) : body.length ≤ RemainingLength.max :=
  h.tells ▸ RemainingLength.value_le_max h.room

/-- What is wrong with a frame is wrong with its body. -/
theorem decode_eq (h : Framed frame header field body) :
    Message.decode frame = Message.ofBody header body := by
  have hlength := h.decode_length
  obtain ⟨rfl, hfield, -, -⟩ := h
  obtain ⟨first, others, rfl⟩ : ∃ first others, field = first :: others := by
    cases field with
    | nil => exact hfield.elim
    | cons first others => exact ⟨first, others, rfl⟩
  simp only [List.tail_cons, List.cons_append] at hlength
  simp [Message.decode, hlength, bind, Except.bind]

end Framed

/-- The field tells the number of bytes that come after it. -/
theorem exists_framed (header : UInt8) {rest : Bytes} {length used : Nat}
    (h : RemainingLength.decode rest = .ok (length, used))
    (hlength : (rest.drop used).length = length) :
    ∃ field, Framed (header :: rest) header field (rest.drop used) := by
  obtain ⟨field, body, rfl, hfield, hroom, hvalue, rfl⟩ := RemainingLength.decode_eq_ok.mp h
  refine ⟨field, ?_, hfield, hroom, hvalue.trans hlength.symm⟩
  rw [List.drop_left]

namespace Message

def header (message : Message) : UInt8 :=
  (message.typeNumber <<< 4) ||| message.headerFlags

/-- Every message that is read comes from the body of a frame. -/
theorem decode_eq_ok {frame : Bytes} {message : Message} :
    decode frame = .ok message ↔
      ∃ header field body, Framed frame header field body ∧ ofBody header body = .ok message := by
  constructor
  · intro h
    unfold decode at h
    split at h
    next header first others =>
      obtain ⟨⟨length, used⟩, hlength, h⟩ := Except.bind_eq_ok.mp h
      simp only at h
      split at h
      · contradiction
      next hfits =>
        obtain ⟨field, hframed⟩ := exists_framed header hlength (Decidable.not_not.mp hfits)
        exact ⟨header, field, _, hframed, h⟩
    · contradiction
  · rintro ⟨header, field, body, hframed, h⟩
    exact hframed.decode_eq.trans h

/-- There is a frame for a message if there is a body for it, and if a remaining length can
tell how long that is. -/
theorem encode_eq_ok {frame : Bytes} {message : Message} :
    message.encode = .ok frame ↔
      ∃ body, message.body = .ok body ∧ body.length ≤ RemainingLength.max ∧
        frame = message.header :: (RemainingLength.bytes body.length ++ body) := by
  have hlength : ∀ length field, RemainingLength.encode length = .ok field ↔
      length ≤ RemainingLength.max ∧ field = RemainingLength.bytes length := by
    intro length field
    unfold RemainingLength.encode
    split
    next hlong =>
      simp only [reduceCtorEq, false_iff]
      omega
    next hshort =>
      have hfits : length ≤ RemainingLength.max := by omega
      simp [hfits, eq_comm]
  simp only [encode, Except.bind_eq_ok, hlength, pure, Except.pure, Except.ok.injEq]
  constructor
  · rintro ⟨body, hbody, _, ⟨hfits, rfl⟩, rfl⟩
    exact ⟨body, hbody, hfits, rfl⟩
  · rintro ⟨body, hbody, hfits, rfl⟩
    exact ⟨body, hbody, _, ⟨hfits, rfl⟩, rfl⟩

/-- The writer writes frames. -/
theorem framed_bytes (header : UInt8) {body : Bytes} (h : body.length ≤ RemainingLength.max) :
    Framed (header :: (RemainingLength.bytes body.length ++ body)) header
      (RemainingLength.bytes body.length) body :=
  ⟨rfl, RemainingLength.isField_bytes _, RemainingLength.length_bytes_le_four h,
    RemainingLength.value_bytes _⟩

/-- The type is the high half of the first byte, and the flags do not reach into
it. -/
theorem header_shiftRight {message : Message} {body : Bytes} (h : message.body = .ok body) :
    message.header >>> 4 = message.typeNumber := by
  unfold header
  cases message with
  | publish publication =>
    have hbits : ∀ level : UInt8, level = 0 ∨ level = 1 ∨ level = 2 → ∀ dup retain : Bool,
        (((3 : UInt8) <<< 4) ||| (bitIf dup 8 ||| (level <<< 1) ||| bitIf retain 1)) >>> 4 = 3 := by
      rintro level (rfl | rfl | rfl) <;> decide
    exact hbits _ (Field.eq_of_qos (Publish.body_eq_ok.mp h).1) _ _
  | subscribe dup msgId topics =>
    simp only [typeNumber, headerFlags]
    cases dup <;> decide
  | unsubscribe dup msgId topics =>
    simp only [typeNumber, headerFlags]
    cases dup <;> decide
  | _ =>
    simp only [typeNumber, headerFlags]
    decide

end Message

end SensorGateway.Broker
