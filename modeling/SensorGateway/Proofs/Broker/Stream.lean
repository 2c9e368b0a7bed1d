import SensorGateway.Broker.Stream
import SensorGateway.Proofs.Broker.Frame

/-!
Reading frames from a stream. The remaining length of a frame is added up while
it is read, and again when the frame is decoded; both come to the same length, so
that a frame which was read is found to be whole. What a stream is cut into
depends on the lengths alone: frames are read one after the other whether or not
they can be decoded, and a frame that is not all there ends the stream.
-/

namespace SensorGateway

/-! ### What is wrong with a body -/

/-- The complaints that a frame gives rise to before its body is looked at. -/
def CodecError.IsFraming : CodecError → Prop
  | .tooShort kind _ => kind = "frame" ∨ kind = "remaining length"
  | .lengthMismatch .. | .badRemainingLength => True
  | _ => False

namespace Broker

def BlamesBody {α : Type} (step : Except CodecError α) : Prop :=
  ∀ error, step = .error error → ¬ error.IsFraming

namespace BlamesBody

variable {α β : Type} {step : Except CodecError α} {short : CodecError}

theorem ok (value : α) : BlamesBody (.ok value) := nofun

theorem error {error : CodecError} (h : ¬ error.IsFraming) :
    BlamesBody (.error error : Except CodecError α) := by
  rintro _ ⟨⟩
  exact h

/-- One step after another complains of the body only if both do. -/
theorem bind {next : α → Except CodecError β} (hstep : BlamesBody step)
    (hnext : ∀ value, BlamesBody (next value)) : BlamesBody (step >>= next) := by
  intro error h
  rcases Except.bind_eq_error.mp h with h | ⟨value, -, h⟩
  · exact hstep error h
  · exact hnext value error h

theorem map {f : α → β} (hstep : BlamesBody step) : BlamesBody (step.map f) :=
  fun error h => hstep error (Except.map_eq_error.mp h)

theorem branch {p : Prop} [Decidable p] {other : Except CodecError α} (hstep : BlamesBody step)
    (hother : BlamesBody other) : BlamesBody (if p then step else other) := by
  split
  · exact hstep
  · exact hother

theorem qos (level : UInt8) : BlamesBody (Field.qos level) := by
  unfold Field.qos
  split
  · exact error id
  · exact ok level

theorem readByte (h : ¬ short.IsFraming) (input : Bytes) :
    BlamesBody (Field.readByte short input) := by
  cases input with
  | nil => exact error h
  | cons byte rest => exact ok _

theorem readWord (h : ¬ short.IsFraming) (input : Bytes) :
    BlamesBody (Field.readWord short input) := by
  unfold Field.readWord
  split
  · exact ok _
  · exact error h

theorem readBlock (h : ¬ short.IsFraming) (input : Bytes) :
    BlamesBody (Field.readBlock short input) := by
  refine (readWord h input).bind fun (length, rest) => ?_
  simp only
  split
  · exact error h
  · exact ok _

theorem readText (h : ¬ short.IsFraming) (input : Bytes) :
    BlamesBody (Field.readText short input) := by
  refine (readBlock h input).bind fun (data, rest) => ?_
  simp only
  split
  · exact ok _
  · exact error id

theorem readIf {present : Bool} {read : Bytes → Except CodecError (α × Bytes)}
    (h : ∀ input, BlamesBody (read input)) (input : Bytes) :
    BlamesBody (Field.readIf present read input) := by
  unfold Field.readIf
  split
  · exact (h input).map
  · exact ok _

theorem readAll {read : Bytes → Except CodecError (α × Bytes)}
    {shrinks : ∀ {input rest : Bytes} {item : α},
      read input = .ok (item, rest) → rest.length < input.length}
    (h : ∀ input, BlamesBody (read input)) (input : Bytes) :
    BlamesBody (readAll read shrinks input) := by
  fun_induction Broker.readAll read shrinks input with
  | case1 input hempty => exact ok []
  | case2 input hmore failure hread => exact error (h input failure hread)
  | case3 input hmore item rest hread hless ih => exact ih.map

/-- The reader of a CONNECT never complains of the frame around its body. -/
theorem connect (input : Bytes) : BlamesBody (Connect.ofBody input) := by
  have hshort : ¬ (CodecError.tooShort "CONNECT" input.length).IsFraming := by
    simp [CodecError.IsFraming]
  have hwill : ∀ flags rest,
      BlamesBody (Connect.readWill (.tooShort "CONNECT" input.length) flags rest) := by
    intro flags rest
    refine (readText hshort rest).bind fun _ => ?_
    refine (readBlock hshort _).bind fun _ => ?_
    exact (qos _).bind fun _ => ok _
  refine (readText hshort _).bind fun _ => ?_
  refine (readByte hshort _).bind fun _ => ?_
  refine (readByte hshort _).bind fun (flags, _) => ?_
  refine (readWord hshort _).bind fun _ => ?_
  refine (readText hshort _).bind fun _ => ?_
  refine (readIf (hwill flags) _).bind fun _ => ?_
  refine (readIf (readText hshort) _).bind fun _ => ?_
  refine (readIf (readText hshort) _).bind fun _ => ?_
  exact ok _

theorem publish (header : UInt8) (input : Bytes) : BlamesBody (Publish.ofBody header input) := by
  have hshort : ¬ (CodecError.tooShort "PUBLISH" input.length).IsFraming := by
    simp [CodecError.IsFraming]
  refine (qos _).bind fun level => ?_
  refine (readText hshort _).bind fun (topic, rest) => ?_
  simp only
  split
  · exact (readWord hshort rest).bind fun _ => ok _
  · exact ok _

theorem subscription (h : ¬ short.IsFraming) (input : Bytes) :
    BlamesBody (Subscription.read short input) := by
  refine (readText h _).bind fun _ => ?_
  refine (readByte h _).bind fun _ => ?_
  exact (qos _).bind fun _ => ok _

theorem readAck (input : Bytes) : BlamesBody (Message.readAck input) := by
  unfold Message.readAck
  split
  · exact ok _
  · exact error id

theorem readEmpty (message : Message) (input : Bytes) :
    BlamesBody (Message.readEmpty message input) := by
  cases input with
  | nil => exact ok _
  | cons byte rest => exact error id

/-- Whatever the type, only the body can be wrong. -/
theorem ofBody (header : UInt8) (input : Bytes) : BlamesBody (Message.ofBody header input) := by
  have hshort : ¬ (CodecError.tooShort "SUBSCRIBE" input.length).IsFraming ∧
      ¬ (CodecError.tooShort "SUBACK" input.length).IsFraming ∧
      ¬ (CodecError.tooShort "UNSUBSCRIBE" input.length).IsFraming := by
    simp [CodecError.IsFraming]
  obtain ⟨hsubscribe, hsuback, hunsubscribe⟩ := hshort
  unfold Message.ofBody
  extract_lets dup type
  refine branch (connect input).map ?_
  refine branch ?_ ?_
  · split
    · exact ok _
    · exact error id
  refine branch (publish header input).map ?_
  refine branch (readAck input).map ?_
  refine branch (readAck input).map ?_
  refine branch (readAck input).map ?_
  refine branch (readAck input).map ?_
  refine branch ?_ ?_
  · refine (readWord hsubscribe input).bind fun _ => ?_
    exact (readAll (subscription hsubscribe) _).bind fun _ => ok _
  refine branch ?_ ?_
  · exact (readWord hsuback input).bind fun _ => ok _
  refine branch ?_ ?_
  · refine (readWord hunsubscribe input).bind fun _ => ?_
    exact (readAll (readText hunsubscribe) _).bind fun _ => ok _
  refine branch (readAck input).map ?_
  refine branch (readEmpty .pingRequest input) ?_
  refine branch (readEmpty .pingResponse input) ?_
  refine branch (readEmpty .disconnect input) ?_
  exact error id

end BlamesBody

/-! ### Frames that tell their length -/

/-- The remaining length of a frame tells how many bytes there are. -/
def TellsLength (frame : Bytes) : Prop :=
  ∃ length used, RemainingLength.decode frame.tail = .ok (length, used) ∧
    frame.length = 1 + used + length

/-- A frame tells its length if it has the parts of a frame. -/
theorem tellsLength_iff {frame : Bytes} :
    TellsLength frame ↔ ∃ header field body, Framed frame header field body := by
  constructor
  · rintro ⟨length, used, hdecode, hlength⟩
    cases frame with
    | nil =>
      simp only [List.length_nil] at hlength
      omega
    | cons header rest =>
      have hbody : (rest.drop used).length = length := by
        simp only [List.length_cons] at hlength
        rw [List.length_drop]
        omega
      obtain ⟨field, hframed⟩ := exists_framed header hdecode hbody
      exact ⟨header, field, _, hframed⟩
  · rintro ⟨header, field, body, hframed⟩
    refine ⟨_, _, hframed.decode_length, ?_⟩
    rw [hframed.parts]
    simp only [List.length_cons, List.length_append]
    omega

/-- Such a frame can only be refused for its body. -/
theorem TellsLength.blamesBody {frame : Bytes} (h : TellsLength frame) :
    BlamesBody (Message.decode frame) := by
  obtain ⟨header, field, body, hframed⟩ := tellsLength_iff.mp h
  rw [hframed.decode_eq]
  exact BlamesBody.ofBody header body

theorem TellsLength.of_encode {frame : Bytes} {message : Message}
    (h : message.encode = .ok frame) : TellsLength frame := by
  obtain ⟨body, -, hfits, rfl⟩ := Message.encode_eq_ok.mp h
  exact tellsLength_iff.mpr ⟨_, _, body, Message.framed_bytes _ hfits⟩

/-! ### One frame -/

namespace Stream

/-- Adding up the remaining length byte by byte comes to what it tells. -/
theorem readLength_eq (room length weight : Nat) (begun stream : Bytes) :
    readLength room length weight begun stream =
      match RemainingLength.readWithin room stream with
      | .length value field rest => readBody (length + value * weight) (begun ++ field) rest
      | .cut => .cut
      | .malformed rest => .malformed rest := by
  -- The sum, the weight and the bytes that were read all change from one byte to the next.
  induction room generalizing length weight begun stream with
  | zero => rfl
  | succ room ih =>
    cases stream with
    | nil => rfl
    | cons byte stream =>
      rw [readLength, RemainingLength.readWithin]
      split
      · rw [ih]
        cases RemainingLength.readWithin room stream with
        | length value field rest =>
          have hvalue : length + RemainingLength.digit byte * weight + value * (weight * 128) =
              length + (RemainingLength.digit byte + 128 * value) * weight := by
            rw [Nat.add_mul, Nat.add_assoc, Nat.mul_comm weight, ← Nat.mul_assoc,
              Nat.mul_comm value]
          simp only [hvalue, List.append_assoc, List.cons_append, List.nil_append]
        | cut => rfl
        | malformed rest => rfl
      · rfl

/-- A frame is read as its header, its length and as many bytes as that tells. -/
theorem read_cons (header : UInt8) (stream : Bytes) :
    read (header :: stream) =
      match RemainingLength.read stream with
      | .length value field rest => readBody value (header :: field) rest
      | .cut => .cut
      | .malformed rest => .malformed rest := by
  rw [read, readLength_eq]
  simp [RemainingLength.read]

/-- The frame at the beginning of a stream is the one that tells its length. -/
theorem read_eq_frame {stream frame rest : Bytes} :
    read stream = .frame frame rest ↔ stream = frame ++ rest ∧ TellsLength frame := by
  rw [tellsLength_iff]
  cases stream with
  | nil =>
    constructor
    · nofun
    · rintro ⟨hempty, header, field, body, hframed⟩
      rw [hframed.parts] at hempty
      contradiction
  | cons header stream =>
    have hread : read (header :: stream) = .frame frame rest ↔ ∃ value field after,
        RemainingLength.read stream = .length value field after ∧
          readBody value (header :: field) after = .frame frame rest := by
      rw [read_cons]
      cases RemainingLength.read stream with
      | length value field after =>
        constructor
        · exact fun h => ⟨value, field, after, rfl, h⟩
        · rintro ⟨_, _, _, ⟨⟩, h⟩
          exact h
      | cut => simp
      | malformed rest => simp
    simp only [hread, RemainingLength.read, RemainingLength.readWithin_eq_length, readBody_eq_frame]
    constructor
    · rintro ⟨value, field, after, ⟨rfl, hfield, hroom, rfl⟩, hfits, rfl, rfl⟩
      refine ⟨?_, header, field, _, rfl, hfield, hroom, ?_⟩
      · simp
      · rw [List.length_take, Nat.min_eq_left hfits]
    · rintro ⟨hstream, first, field, body, rfl, hfield, hroom, htells⟩
      obtain ⟨rfl, rfl⟩ := List.cons.inj hstream
      refine ⟨body.length, field, body ++ rest, ⟨?_, hfield, hroom, htells⟩, ?_, ?_, ?_⟩
      · exact List.append_assoc ..
      · simp
      · simp
      · simp

/-- A stream whose second to fifth byte all announce another byte of remaining
length, and what comes after them. -/
def Overlong (stream rest : Bytes) : Prop :=
  ∃ header field, stream = header :: (field ++ rest) ∧ field.length = 4 ∧
    ∀ byte ∈ field, 128 ≤ byte.toNat

/-- A stream is malformed just where its length does not end with its fourth byte. -/
theorem read_eq_malformed {stream rest : Bytes} :
    read stream = .malformed rest ↔ Overlong stream rest := by
  cases stream with
  | nil =>
    constructor
    · intro hmalformed
      cases hmalformed
    · rintro ⟨header, field, hempty, -⟩
      contradiction
  | cons header stream =>
    have hread : read (header :: stream) = .malformed rest ↔
        RemainingLength.read stream = .malformed rest := by
      rw [read_cons]
      cases RemainingLength.read stream with
      | length value field after =>
        simp only [readBody, reduceCtorEq, iff_false]
        split
        all_goals
          intro hmalformed
          cases hmalformed
      | cut => simp
      | malformed rest => simp
    rw [hread, RemainingLength.read, RemainingLength.readWithin_eq_malformed]
    constructor
    · rintro ⟨field, rfl, hlong⟩
      exact ⟨header, field, rfl, hlong⟩
    · rintro ⟨first, field, hstream, hlong⟩
      exact ⟨field, (List.cons.inj hstream).2, hlong⟩

/-- A part of a frame is not a frame. -/
theorem read_eq_cut {cut missing : Bytes} (h : TellsLength (cut ++ missing))
    (hmissing : missing ≠ []) : read cut = .cut := by
  have hwhole : read (cut ++ missing) = .frame (cut ++ missing) [] :=
    read_eq_frame.mpr ⟨(List.append_nil _).symm, h⟩
  cases hread : read cut with
  | frame frame rest =>
    -- Then the whole frame would be read as this one, with something after it.
    obtain ⟨rfl, hframe⟩ := read_eq_frame.mp hread
    have hagain : read (frame ++ rest ++ missing) = .frame frame (rest ++ missing) :=
      read_eq_frame.mpr ⟨List.append_assoc .., hframe⟩
    obtain ⟨-, hnothing⟩ := Reading.frame.inj (hwhole.symm.trans hagain)
    exact absurd (List.append_eq_nil_iff.mp hnothing.symm).2 hmissing
  | cut => rfl
  | malformed rest =>
    -- Then the whole frame would begin with five such bytes too.
    obtain ⟨header, field, rfl, hlong⟩ := read_eq_malformed.mp hread
    have hagain : read (header :: (field ++ rest) ++ missing) = .malformed (rest ++ missing) :=
      read_eq_malformed.mpr ⟨header, field, by simp, hlong⟩
    cases hwhole.symm.trans hagain

/-! ### All frames -/

theorem readAll_of_cut {stream : Bytes} (h : read stream = .cut) :
    readAll stream = ⟨[], .endOfStream, []⟩ := by
  rw [readAll]
  split
  · rfl
  next hread => cases h.symm.trans hread
  next hread => cases h.symm.trans hread

/-- The frames of a stream are its first one and those of the rest. -/
theorem readAll_of_frame {stream frame rest : Bytes} (h : read stream = .frame frame rest) :
    readAll stream = { readAll rest with frames := frame :: (readAll rest).frames } := by
  rw [readAll]
  split
  next hread => cases h.symm.trans hread
  next hread => cases h.symm.trans hread
  next hread =>
    obtain ⟨rfl, rfl⟩ := Reading.frame.inj (h.symm.trans hread)
    rfl

/-- Frames are read one after the other, whatever is in them and whatever comes
after them. -/
theorem readAll_append {frames : List Bytes} (h : ∀ frame ∈ frames, TellsLength frame)
    (stream : Bytes) :
    readAll (frames.flatten ++ stream) =
      { readAll stream with frames := frames ++ (readAll stream).frames } := by
  induction frames with
  | nil => rfl
  | cons frame frames ih =>
    obtain ⟨hframe, hframes⟩ := List.forall_mem_cons.mp h
    have hread : read ((frame :: frames).flatten ++ stream) =
        .frame frame (frames.flatten ++ stream) :=
      read_eq_frame.mpr ⟨by simp, hframe⟩
    rw [readAll_of_frame hread, ih hframes]
    rfl

/-- A stream is made of the frames that are read and of a part that no frame is
read of, for the reason for which reading ends. -/
theorem exists_left (stream : Bytes) :
    ∃ left, stream = (readAll stream).frames.flatten ++ left ∧
      (∀ frame ∈ (readAll stream).frames, TellsLength frame) ∧
      (read left = .cut ∧ (readAll stream).ending = .endOfStream ∧ (readAll stream).rest = [] ∨
        read left = .malformed (readAll stream).rest ∧ (readAll stream).ending = .malformed) := by
  fun_induction readAll stream with
  | case1 stream hread => exact ⟨stream, rfl, nofun, .inl ⟨hread, rfl, rfl⟩⟩
  | case2 stream rest hread => exact ⟨stream, rfl, nofun, .inr ⟨hread, rfl⟩⟩
  | case3 stream frame rest hread hless run ih =>
    obtain ⟨left, hrest, hframes, hending⟩ := ih
    obtain ⟨hstream, hframe⟩ := read_eq_frame.mp hread
    refine ⟨left, ?_, List.forall_mem_cons.mpr ⟨hframe, hframes⟩, hending⟩
    rw [hstream, List.flatten_cons, List.append_assoc, ← hrest]

/-- A stream is read as the frames that it is made of. They are whole, so that
decoding them can only fail for their bodies, and those that fail cost nothing of
what comes after them. Reading ends at a remaining length of more than four bytes,
which is all that is read of what follows the frames, or else at the end of the
stream. So frames that were written one after the other are read one after the
other, and a part of a frame after them is not taken for one. -/
theorem readAll_whole_frames :
    (∀ stream : Bytes,
      let run := readAll stream
      let left := stream.drop run.frames.flatten.length
      run.frames.flatten ++ left = stream ∧
      (∀ frame ∈ run.frames, TellsLength frame ∧
        ∀ error, Message.decode frame = .error error → ¬ error.IsFraming) ∧
      (run.ending = .malformed ↔ ∃ rest, Overlong left rest) ∧
      (run.ending = .endOfStream ↔ ¬ ∃ rest, Overlong left rest) ∧
      (∀ rest, Overlong left rest → run.rest = rest) ∧
      (run.ending = .endOfStream → run.rest = []) ∧
      ∀ frames, (∀ frame ∈ frames, TellsLength frame) →
        readAll (frames.flatten ++ stream) = { run with frames := frames ++ run.frames }) ∧
    ∀ (frames : List Bytes) (cut missing : Bytes),
      (∀ frame ∈ frames, ∃ message : Message, message.encode = .ok frame) →
      (∃ message : Message, message.encode = .ok (cut ++ missing)) → missing ≠ [] →
        readAll (frames.flatten ++ cut) = ⟨frames, .endOfStream, []⟩ := by
  constructor
  · intro stream run left
    obtain ⟨left', hstream, hframes, hending⟩ := exists_left stream
    have hleft : left = left' := by
      show stream.drop run.frames.flatten.length = left'
      rw [hstream]
      exact List.drop_left
    have hwhole : run.frames.flatten ++ left = stream := hleft ▸ hstream.symm
    have hdecodes : ∀ frame ∈ run.frames, TellsLength frame ∧ BlamesBody (Message.decode frame) :=
      fun frame hframe => ⟨hframes frame hframe, (hframes frame hframe).blamesBody⟩
    refine ⟨hwhole, hdecodes, ?_⟩
    simp only [hleft, ← read_eq_malformed]
    have happend : ∀ frames, (∀ frame ∈ frames, TellsLength frame) →
        readAll (frames.flatten ++ stream) = { run with frames := frames ++ run.frames } :=
      fun frames h => readAll_append h stream
    obtain ⟨hread, hend, hrest⟩ | ⟨hread, hend⟩ := hending
    · have hnone : ¬ ∃ rest, read left' = .malformed rest := by
        rintro ⟨rest, hmalformed⟩
        cases hread.symm.trans hmalformed
      have hother : ¬ run.ending = .malformed := fun h => by cases hend.symm.trans h
      exact ⟨iff_of_false hother hnone, iff_of_true hend hnone,
        fun rest h => (hnone ⟨rest, h⟩).elim, fun _ => hrest, happend⟩
    · have hsome : ∃ rest, read left' = .malformed rest := ⟨_, hread⟩
      have hother : ¬ run.ending = .endOfStream := fun h => by cases hend.symm.trans h
      exact ⟨iff_of_true hend hsome, iff_of_false hother (not_not_intro hsome),
        fun rest h => Reading.malformed.inj (hread.symm.trans h), fun h => (hother h).elim, happend⟩
  · intro frames cut missing hframes hcut hmissing
    obtain ⟨message, hmessage⟩ := hcut
    have htells : ∀ frame ∈ frames, TellsLength frame := by
      intro frame hframe
      obtain ⟨message, hencode⟩ := hframes frame hframe
      exact .of_encode hencode
    have hread := read_eq_cut (.of_encode hmessage) hmissing
    rw [readAll_append htells, readAll_of_cut hread, List.append_nil]

/-- A frame of no known type between two others, and then five bytes that no frame
begins with; and an acknowledgement of which the last byte is missing. -/
theorem readAll_whole_frames_unknownType :
    let frames : List Bytes := [[0xC0, 0], [0xF0, 1, 7], [0xD0, 0]]
    (∃ error, Message.decode [0xF0, 1, 7] = .error error ∧ ¬ error.IsFraming) ∧
      readAll (frames.flatten ++ [0x30, 0x80, 0x80, 0x80, 0x80, 5]) = ⟨frames, .malformed, [5]⟩ ∧
      readAll ([[0xC0, 0]].flatten ++ [0x40, 2, 0]) = ⟨[[0xC0, 0]], .endOfStream, []⟩ := by
  intro frames
  obtain ⟨hstream, hcut⟩ := readAll_whole_frames
  have hbad : readAll [0x30, 0x80, 0x80, 0x80, 0x80, 5] = ⟨[], .malformed, [5]⟩ := by cbv
  have htells : ∀ frame ∈ frames, TellsLength frame :=
    List.forall_mem_cons.mpr ⟨⟨0, 1, rfl, rfl⟩,
      List.forall_mem_cons.mpr ⟨⟨1, 1, rfl, rfl⟩,
        List.forall_mem_cons.mpr ⟨⟨0, 1, rfl, rfl⟩, List.forall_mem_nil _⟩⟩⟩
  have hall : readAll (frames.flatten ++ [0x30, 0x80, 0x80, 0x80, 0x80, 5]) =
      ⟨frames, .malformed, [5]⟩ := by
    obtain ⟨-, -, -, -, -, -, happend⟩ := hstream [0x30, 0x80, 0x80, 0x80, 0x80, 5]
    rw [happend frames htells, hbad, List.append_nil]
  have hunknown : Message.decode [0xF0, 1, 7] = .error (.unknownType 15) := by cbv
  have hframing : ¬ CodecError.IsFraming (.unknownType 15) := by
    have hframe : [0xF0, 1, 7] ∈ (readAll (frames.flatten ++
        [0x30, 0x80, 0x80, 0x80, 0x80, 5])).frames := by
      rw [hall]
      decide
    exact ((hstream _).2.1 _ hframe).2 _ hunknown
  refine ⟨⟨_, hunknown, hframing⟩, hall, hcut [[0xC0, 0]] [0x40, 2, 0] [7] ?_ ?_ (by decide)⟩
  · exact List.forall_mem_singleton.mpr ⟨.pingRequest, by cbv⟩
  · exact ⟨.puback 7, by cbv⟩

end Stream

end Broker

end SensorGateway
