import SensorGateway.Proofs.Broker.RoundTrip

/-!
Writing the message of a frame that was accepted. That never fails, and the frame
that is written is read as the same message and is never the longer one. It is
the accepted frame itself unless something in that one is not told by the
message: a remaining length with more bytes than it needs, flags in the first
byte that the type does not have, the byte before a CONNACK's code, flags of a
CONNECT without a meaning, or bytes after its last field. `IsCanonical` looks for
these in the bytes of the frame alone.
-/

namespace SensorGateway.Broker

/-! ### Blocks in the bytes of a body -/

namespace Field

def afterBlock : Bytes → Bytes
  | high :: low :: rest => rest.drop (Word.join high low).toNat
  | _ => []

def afterBlocks : Nat → Bytes → Bytes
  | 0, input => input
  | count + 1, input => afterBlocks count (afterBlock input)

def Blocks (count : Nat) (written : Bytes) : Prop :=
  ∀ rest, afterBlocks count (written ++ rest) = rest

theorem blocks_nil : Blocks 0 [] := fun _ => rfl

theorem afterBlock_word (word : UInt16) (rest : Bytes) :
    afterBlock (Word.bytes word ++ rest) = rest.drop word.toNat := by
  simp [afterBlock, Word.bytes, Word.join_bytes]

theorem blocks_block {data written : Bytes} (h : block data = .ok written) : Blocks 1 written := by
  intro rest
  obtain ⟨hfits, rfl⟩ := block_eq_ok.mp h
  rw [afterBlocks, afterBlocks, List.append_assoc, afterBlock_word, toNat_blockLength hfits,
    List.drop_left]

theorem afterBlocks_add (first second : Nat) (input : Bytes) :
    afterBlocks (first + second) input = afterBlocks second (afterBlocks first input) := by
  induction first generalizing input with
  | zero => rw [Nat.zero_add, afterBlocks]
  | succ first ih => rw [Nat.succ_add, afterBlocks, afterBlocks, ih]

theorem Blocks.append {count count' : Nat} {written written' : Bytes} (h : Blocks count written)
    (h' : Blocks count' written') : Blocks (count + count') (written ++ written') := by
  intro rest
  rw [afterBlocks_add, List.append_assoc, h, h']

/-- A field that need not be there is as many blocks as it is when it is there, or none. -/
theorem blocks_writeIf {α : Type} {write : α → Except CodecError Bytes} {count : Nat}
    (hwrite : ∀ item written, write item = .ok written → Blocks count written)
    {item : Option α} {written : Bytes} (h : writeIf write item = .ok written) :
    Blocks (if item.isSome then count else 0) written := by
  cases item with
  | none =>
    cases h
    exact blocks_nil
  | some item => exact hwrite item written h

end Field

/-- A will is written as its topic and its message. -/
theorem Will.blocks_bytes {will : Will} {written : Bytes} (h : will.bytes = .ok written) :
    Field.Blocks 2 written := by
  obtain ⟨topic, htopic, h⟩ := Except.bind_eq_ok.mp h
  obtain ⟨data, hdata, h⟩ := Except.bind_eq_ok.mp h
  cases h
  exact (Field.blocks_block htopic).append (Field.blocks_block hdata)

/-! ### CONNECT -/

namespace Connect

/-- The flags are behind the name of the protocol and its version. -/
def flagsIn (body : Bytes) : UInt8 :=
  ((Field.afterBlock body).drop 1).headD 0

/-- The client id, two fields of a will, a user name and a password. -/
def blockCount (flags : UInt8) : Nat :=
  1 + (if flags &&& 0x04 != 0 then 2 else 0) + (if flags &&& 0x80 != 0 then 1 else 0) +
    (if flags &&& 0x40 != 0 then 1 else 0)

/-- The bytes after the last field that the flags announce. Before the first one
there are the version, the flags and two bytes of keep-alive time. -/
def afterFields (body : Bytes) : Bytes :=
  Field.afterBlocks (blockCount (flagsIn body)) ((Field.afterBlock body).drop 4)

/-- No flag is without a meaning, and every byte belongs to a field. -/
structure IsPlain (body : Bytes) : Prop where
  reserved : flagsIn body &&& 0x01 = 0
  level : flagsIn body &&& 0x04 = 0 → flagsIn body &&& 0x18 = 0
  retain : flagsIn body &&& 0x04 = 0 → flagsIn body &&& 0x20 = 0
  fields : afterFields body = []

section
variable {request : Connect} {flags : UInt8} {head tail trailing : Bytes}

/-- Behind the name of the protocol there is its version. -/
theorem afterBlock_head (h : request.head = .ok head) (rest : Bytes) :
    Field.afterBlock (head ++ rest) = request.protocolVersion :: rest := by
  obtain ⟨protocol, hprotocol, rfl⟩ := head_eq_ok.mp h
  rw [List.append_assoc]
  exact Field.blocks_block hprotocol _

/-- Behind the flags and the keep-alive time there is one block for each field that they
announce. -/
theorem blocks_tail (hannounces : Announces flags request) (h : request.tail = .ok tail) :
    Field.Blocks (blockCount flags) (tail.drop 2) := by
  obtain ⟨clientId, hclientId, will, hwill, username, husername, password, hpassword, rfl⟩ :=
    tail_eq_ok.mp h
  -- Without its first two bytes, the keep-alive time, the tail is a string of blocks.
  unfold blockCount
  rw [hannounces.will, hannounces.username, hannounces.password]
  exact (((Field.blocks_block hclientId).append
    (Field.blocks_writeIf (fun _ _ => Will.blocks_bytes) hwill)).append
    (Field.blocks_writeIf (fun _ _ => Field.blocks_block) husername)).append
    (Field.blocks_writeIf (fun _ _ => Field.blocks_block) hpassword)

/-- The walk over the blocks finds the flags that the body was read with and the
bytes that were left. -/
theorem isPlain_iff (hannounces : Announces flags request) (hhead : request.head = .ok head)
    (htail : request.tail = .ok tail) :
    IsPlain (head ++ flags :: (tail ++ trailing)) ↔ request.flags = flags ∧ trailing = [] := by
  have hblock := afterBlock_head hhead (flags :: (tail ++ trailing))
  have hflags : flagsIn (head ++ flags :: (tail ++ trailing)) = flags := by
    rw [flagsIn, hblock]
    rfl
  have hkeepAlive : 2 ≤ tail.length := by
    obtain ⟨_, _, _, _, _, _, _, _, rfl⟩ := tail_eq_ok.mp htail
    simp
  have hafter : afterFields (head ++ flags :: (tail ++ trailing)) = trailing := by
    rw [afterFields, hflags, hblock]
    simp only [List.drop_succ_cons]
    rw [List.drop_append_of_le_length hkeepAlive, blocks_tail hannounces htail]
  have hbits : request.flags = flags ↔
      flags &&& 0x01 = 0 ∧ (flags &&& 0x04 = 0 → flags &&& 0x18 = 0) ∧
        (flags &&& 0x04 = 0 → flags &&& 0x20 = 0) := by
    rw [flags_of_announces hannounces]
    clear hannounces htail hblock hflags hafter
    revert flags
    apply forall_byte
    decide +kernel
  constructor
  · rintro ⟨hreserved, hlevel, hretain, hfields⟩
    rw [hflags] at hreserved hlevel hretain
    exact ⟨hbits.mpr ⟨hreserved, hlevel, hretain⟩, hafter.symm.trans hfields⟩
  · rintro ⟨hsame, hnothing⟩
    obtain ⟨hreserved, hlevel, hretain⟩ := hbits.mp hsame
    exact ⟨hflags.symm ▸ hreserved, hflags.symm ▸ hlevel, hflags.symm ▸ hretain,
      hafter.trans hnothing⟩

end

/-- The request that was read of a body can be written. -/
theorem exists_body_of_ofBody {input : Bytes} {request : Connect} (h : ofBody input = .ok request) :
    ∃ written, request.body = .ok written ∧ written.length ≤ input.length ∧
      (written = input ↔ IsPlain input) := by
  obtain ⟨flags, head, tail, trailing, hannounces, hhead, htail, rfl⟩ := ofBody_eq_ok.mp h
  refine ⟨head ++ request.flags :: tail, ?_, ?_, ?_⟩
  · exact body_eq_ok.mpr ⟨fun will hwill => (hannounces.qos will hwill).2, head, tail, hhead, htail,
      rfl⟩
  · simp only [List.length_append, List.length_cons]
    omega
  · rw [isPlain_iff hannounces hhead htail]
    simp

end Connect

/-! ### All types -/

namespace Message

/-- Whether the flags in a first byte are those that the writer gives its type. -/
def isPlainHeader (header : UInt8) : Bool :=
  let type := header >>> 4
  let flags := header &&& 0x0F
  if type = 3 then true
  else if type = 6 then flags == 2
  else if type = 8 || type = 10 then flags == 2 || flags == 10
  else flags == 0

/-- A header of the right type is the written one if its flags are those of the type. -/
theorem header_eq_iff {header : UInt8} {input : Bytes} {message : Message}
    (htype : header >>> 4 = message.typeNumber) (h : message.IsReading header input) :
    message.header = header ↔ isPlainHeader header = true := by
  unfold Message.header
  cases message with
  | publish publication =>
    have hflags := Publish.flags_of_heads (Publish.ofBody_eq_ok.mp h).1
    simp only [typeNumber, headerFlags] at htype ⊢
    rw [hflags]
    clear h hflags
    revert header
    apply forall_byte
    decide +kernel
  | subscribe dup msgId topics =>
    simp only [typeNumber, headerFlags] at htype ⊢
    rw [← h.1]
    clear h
    revert header
    apply forall_byte
    decide +kernel
  | unsubscribe dup msgId topics =>
    simp only [typeNumber, headerFlags] at htype ⊢
    rw [← h.1]
    clear h
    revert header
    apply forall_byte
    decide +kernel
  | _ =>
    simp only [typeNumber, headerFlags] at htype ⊢
    clear h
    revert header
    apply forall_byte
    decide +kernel

/-- Whether a body holds nothing that its message does not tell. -/
structure IsPlainBody (header : UInt8) (body : Bytes) : Prop where
  connack : header >>> 4 = 2 → body.head? = some 0
  connect : header >>> 4 = 1 → Connect.IsPlain body

/-- A body that is written as it was read holds nothing else. -/
theorem isPlainBody_of_body {header : UInt8} {input : Bytes} {message : Message}
    (htype : header >>> 4 = message.typeNumber) (h : message.body = .ok input)
    (hother : message.typeNumber ≠ 1 ∧ message.typeNumber ≠ 2) :
    ∃ written, message.body = .ok written ∧ written.length ≤ input.length ∧
      (written = input ↔ IsPlainBody header input) := by
  refine ⟨input, h, Nat.le_refl _, iff_of_true rfl ⟨fun htwo => ?_, fun hone => ?_⟩⟩
  · exact absurd (htype.symm.trans htwo) hother.2
  · exact absurd (htype.symm.trans hone) hother.1

/-- The message that was read of a body can be written. -/
theorem exists_body {header : UInt8} {input : Bytes} {message : Message}
    (htype : header >>> 4 = message.typeNumber) (h : message.IsReading header input) :
    ∃ written, message.body = .ok written ∧ written.length ≤ input.length ∧
      (written = input ↔ IsPlainBody header input) := by
  cases message with
  | connect request =>
    obtain ⟨written, hwritten, hlength, hsame⟩ := Connect.exists_body_of_ofBody h
    refine ⟨written, hwritten, hlength, hsame.trans ⟨?_, fun hplain => hplain.connect htype⟩⟩
    intro hplain
    refine ⟨fun htwo => ?_, fun _ => hplain⟩
    exact absurd (htype.symm.trans htwo) (by decide : (1 : UInt8) ≠ 2)
  | connack code =>
    obtain ⟨first, rfl⟩ := h
    refine ⟨[0, code], rfl, Nat.le_refl _, ?_, ?_⟩
    · rintro ⟨⟩
      refine ⟨fun _ => rfl, fun hone => ?_⟩
      exact absurd (htype.symm.trans hone) (by decide : (2 : UInt8) ≠ 1)
    · intro hplain
      obtain rfl : first = 0 := Option.some.inj (hplain.connack htype)
      rfl
  | publish publication =>
    have hbody := (Publish.ofBody_eq_ok.mp h).2.2
    exact isPlainBody_of_body htype hbody (by simp [typeNumber])
  | subscribe dup msgId topics => exact isPlainBody_of_body htype h.2 (by simp [typeNumber])
  | unsubscribe dup msgId topics => exact isPlainBody_of_body htype h.2 (by simp [typeNumber])
  | _ => exact isPlainBody_of_body htype h (by simp [typeNumber])

/-- What was read of a frame comes back as it is when it is written. -/
theorem canonical_of_isReading {header : UInt8} {input : Bytes} {message : Message}
    (h : message.IsReading header input) : message.canonical = message := by
  cases message with
  | publish publication =>
    have hmsgId : (if publication.qos = 0 then 0 else publication.msgId) = publication.msgId := by
      split
      next hlevel => exact ((Publish.ofBody_eq_ok.mp h).2.1 hlevel).symm
      · rfl
    simp only [canonical, Publish.canonical, hmsgId]
  | _ => rfl

/-! ### Frames -/

/-- The bytes of a frame after its remaining length. -/
def bodyIn (frame : Bytes) : Bytes :=
  match RemainingLength.decode frame.tail with
  | .ok (_, used) => frame.tail.drop used
  | .error _ => []

/-- Whether a frame holds nothing that its message does not tell. -/
structure IsCanonical (frame : Bytes) : Prop where
  length : RemainingLength.Shortest frame.tail
  header : isPlainHeader (frame.headD 0)
  body : IsPlainBody (frame.headD 0) (bodyIn frame)

section
variable {frame : Bytes} {header : UInt8} {field body : Bytes}

/-- Whether a frame is canonical can be told from its parts. -/
theorem canonical_iff (h : Framed frame header field body) :
    IsCanonical frame ↔ field = RemainingLength.bytes body.length ∧ isPlainHeader header = true ∧
      IsPlainBody header body := by
  have hbody : bodyIn frame = body := by
    rw [bodyIn, h.decode_length]
    simp [h.parts]
  obtain ⟨rfl, hfield, hroom, htells⟩ := h
  have hshortest := RemainingLength.shortest_iff hfield hroom body
  rw [htells] at hshortest
  constructor
  · rintro ⟨hlength, hheader, hplain⟩
    rw [hbody] at hplain
    exact ⟨hshortest.mp hlength, hheader, hplain⟩
  · rintro ⟨hlength, hheader, hplain⟩
    exact ⟨hshortest.mpr hlength, hheader, hbody.symm ▸ hplain⟩

/-- A frame that is written for a shorter body is not longer. -/
theorem length_le_of_body (h : Framed frame header field body) {written : Bytes}
    (hlength : written.length ≤ body.length) (first : UInt8) :
    (first :: (RemainingLength.bytes written.length ++ written)).length ≤ frame.length := by
  obtain ⟨rfl, hfield, -, htells⟩ := h
  have hmono := RemainingLength.length_bytes_mono hlength
  have hshortest := RemainingLength.length_bytes_value hfield
  rw [htells] at hshortest
  simp only [List.length_cons, List.length_append]
  omega

/-- Two frames are one and the same if their headers and bodies are, as long as the length
is told in as few bytes as can tell it. -/
theorem eq_frame_iff (h : Framed frame header field body) {written : Bytes}
    (hlength : written.length ≤ body.length) (first : UInt8) :
    first :: (RemainingLength.bytes written.length ++ written) = frame ↔
      first = header ∧ field = RemainingLength.bytes body.length ∧ written = body := by
  obtain ⟨rfl, hfield, -, htells⟩ := h
  constructor
  · intro hframe
    obtain ⟨hfirst, hrest⟩ := List.cons.inj hframe
    -- Neither part is longer than in the frame, so both are as long.
    have hmono := RemainingLength.length_bytes_mono hlength
    have hshortest := RemainingLength.length_bytes_value hfield
    have htotal := congrArg List.length hrest
    simp only [List.length_append] at htotal
    rw [htells] at hshortest
    have hsame : written.length = body.length := by omega
    obtain ⟨hbytes, hbody⟩ := List.append_inj' hrest hsame
    exact ⟨hfirst, by rw [← hbytes, hsame], hbody⟩
  · rintro ⟨rfl, hbytes, rfl⟩
    rw [← hbytes]

end

/-- A frame that was accepted can be written again, with no more bytes, as a frame
with the same message, and this is the same frame if there was nothing in it that
is not told by the message. -/
theorem accepted_encodes_canonically (frame : Bytes) (message : Message)
    (h : decode frame = .ok message) :
    ∃ written, message.encode = .ok written ∧ written.length ≤ frame.length ∧
      decode written = .ok message ∧ (written = frame ↔ IsCanonical frame) := by
  obtain ⟨header, field, body, hframed, hbody⟩ := decode_eq_ok.mp h
  obtain ⟨htype, hreading⟩ := ofBody_eq_ok.mp hbody
  obtain ⟨written, hwritten, hlength, hsame⟩ := exists_body htype hreading
  have hfits := Nat.le_trans hlength hframed.length_body_le
  have hencode : message.encode =
      .ok (message.header :: (RemainingLength.bytes written.length ++ written)) :=
    encode_eq_ok.mpr ⟨written, hwritten, hfits, rfl⟩
  refine ⟨_, hencode, length_le_of_body hframed hlength _, ?_, ?_⟩
  · rw [decode_of_encode hencode, canonical_of_isReading hreading]
  · rw [eq_frame_iff hframed hlength, canonical_iff hframed, header_eq_iff htype hreading, hsame]
    exact and_left_comm

/-- A CONNECT with a flag and bytes that stand for nothing, behind a remaining
length that could be told in one byte. -/
theorem accepted_encodes_canonically_connect :
    let frame : Bytes := [0x10, 0x8C, 0, 0, 1, 77, 3, 0x03, 0, 60, 0, 1, 97, 9, 9]
    let request : Connect := { protocolName := "M", clientId := "a", keepAlive := 60 }
    let plain : Bytes := [0x10, 10, 0, 1, 77, 3, 0x02, 0, 60, 0, 1, 97]
    decode frame = .ok (connect request) ∧ (connect request).encode = .ok plain ∧
      decode plain = .ok (connect request) ∧ ¬ IsCanonical frame := by
  intro frame request plain
  have hdecode : decode frame = .ok (connect request) := by cbv
  have hencode : (connect request).encode = .ok plain := by cbv
  obtain ⟨written, hwritten, -, hagain, hsame⟩ := accepted_encodes_canonically frame _ hdecode
  obtain rfl : plain = written := Except.ok.inj (hencode.symm.trans hwritten)
  exact ⟨hdecode, hencode, hagain, fun hplain => absurd (hsame.mpr hplain) (by decide)⟩

end Message

end SensorGateway.Broker
