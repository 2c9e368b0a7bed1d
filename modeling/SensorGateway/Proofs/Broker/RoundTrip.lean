import Mathlib
import SensorGateway.Proofs.Broker.Frame

/-!
Writing a message and reading its frame. The frame is read as the message it was
written for, but for the message id of a publication at quality of service 0,
which is not written. A message is written unless one of its parts does not fit:
a field that is longer than its two bytes of length can tell, a quality of
service that there is not, or a body whose length is greater than four bytes can
tell.
-/

namespace SensorGateway.Broker

/-! ### Writers -/

/-- A writer of these fields behind their lengths, of levels that it checks, and
of `plain` other bytes. These decide whether it succeeds and how much it writes. -/
structure Writes (step : Except CodecError Bytes) (fields : List Bytes) (levels : List UInt8)
    (plain : Nat) : Prop where
  succeeds : (∃ written, step = .ok written) ↔
    (∀ field ∈ fields, field.length ≤ Field.maxBlockLength) ∧ ∀ level ∈ levels, level ≤ 2
  length : ∀ written, step = .ok written →
    written.length = plain + (fields.map fun field => 2 + field.length).sum

namespace Writes

theorem ok {written : Bytes} {plain : Nat} (h : written.length = plain) :
    Writes (.ok written) [] [] plain where
  succeeds := by simp
  length := by simp [h]

theorem block (data : Bytes) : Writes (Field.block data) [data] [] 0 where
  succeeds := by simp [Field.block_eq_ok]
  length written h := by simp [Field.length_block h]

theorem text (value : String) : Writes (Field.text value) [Text.bytes value] [] 0 :=
  block (Text.bytes value)

/-- A step that checks a level. -/
theorem qos {level : UInt8} {next : UInt8 → Except CodecError Bytes} {fields : List Bytes}
    {levels : List UInt8} {plain : Nat} (h : Writes (next level) fields levels plain) :
    Writes (Field.qos level >>= next) fields (level :: levels) plain where
  succeeds := by
    simp only [Except.bind_eq_ok, Field.qos_eq_ok, List.forall_mem_cons]
    constructor
    · rintro ⟨written, _, ⟨hlevel, rfl⟩, hwritten⟩
      obtain ⟨hfields, hlevels⟩ := h.succeeds.mp ⟨written, hwritten⟩
      exact ⟨hfields, hlevel, hlevels⟩
    · rintro ⟨hfields, hlevel, hlevels⟩
      obtain ⟨written, hwritten⟩ := h.succeeds.mpr ⟨hfields, hlevels⟩
      exact ⟨written, level, ⟨hlevel, rfl⟩, hwritten⟩
  length written hwritten := by
    obtain ⟨_, hlevel, hwritten⟩ := Except.bind_eq_ok.mp hwritten
    obtain ⟨-, rfl⟩ := Field.qos_eq_ok.mp hlevel
    exact h.length written hwritten

section
variable {step : Except CodecError Bytes} {next : Bytes → Except CodecError Bytes}
  {fields fields' : List Bytes} {levels levels' : List UInt8} {plain plain' extra : Nat}

/-- The next step writes again what the first one has written. -/
theorem bind (hstep : Writes step fields levels plain)
    (hnext : ∀ written, Writes (next written) fields' levels' (extra + written.length + plain')) :
    Writes (step >>= next) (fields ++ fields') (levels ++ levels')
      (extra + (plain + plain')) where
  succeeds := by
    constructor
    · rintro ⟨result, h⟩
      obtain ⟨written, hwritten, hresult⟩ := Except.bind_eq_ok.mp h
      obtain ⟨hfields, hlevels⟩ := hstep.succeeds.mp ⟨written, hwritten⟩
      obtain ⟨hfields', hlevels'⟩ := (hnext written).succeeds.mp ⟨result, hresult⟩
      exact ⟨List.forall_mem_append.mpr ⟨hfields, hfields'⟩,
        List.forall_mem_append.mpr ⟨hlevels, hlevels'⟩⟩
    · rintro ⟨hfields, hlevels⟩
      obtain ⟨hfields, hfields'⟩ := List.forall_mem_append.mp hfields
      obtain ⟨hlevels, hlevels'⟩ := List.forall_mem_append.mp hlevels
      obtain ⟨written, hwritten⟩ := hstep.succeeds.mpr ⟨hfields, hlevels⟩
      obtain ⟨result, hresult⟩ := (hnext written).succeeds.mpr ⟨hfields', hlevels'⟩
      exact ⟨result, Except.bind_eq_ok.mpr ⟨written, hwritten, hresult⟩⟩
  length result h := by
    obtain ⟨written, hwritten, hresult⟩ := Except.bind_eq_ok.mp h
    have hfirst := hstep.length written hwritten
    have hsecond := (hnext written).length result hresult
    simp only [List.map_append, List.sum_append]
    omega

/-- The last step, after which the result is put together. -/
theorem map (hstep : Writes step fields levels plain) {wrap : Bytes → Bytes}
    (h : ∀ written, (wrap written).length = extra + written.length) :
    Writes (do let written ← step; return wrap written) fields levels (extra + plain) := by
  have hwrap : ∀ written, Writes (pure (wrap written)) [] [] (extra + written.length + 0) :=
    fun written => ok (h written)
  simpa using hstep.bind hwrap

end

section
variable {α : Type} {write : α → Except CodecError Bytes} {fields : α → List Bytes}
  {levels : α → List UInt8} {plain : Nat}

/-- Items that are written one after the other take their fields and levels with them. -/
theorem writeAll (h : ∀ item, Writes (write item) (fields item) (levels item) plain)
    (items : List α) :
    Writes (writeAll write items) (items.flatMap fields) (items.flatMap levels)
      (items.length * plain) := by
  induction items with
  | nil =>
    rw [List.length_nil, Nat.zero_mul]
    exact ok rfl
  | cons item items ih =>
    have hboth := (h item).bind fun first =>
      ih.map fun others => (by simp : (first ++ others).length = 0 + first.length + others.length)
    have hplain : (item :: items).length * plain = 0 + (plain + items.length * plain) := by
      rw [List.length_cons, Nat.succ_mul]
      omega
    rw [hplain]
    exact hboth

end

theorem writeIf {α : Type} {write : α → Except CodecError Bytes} {fields : α → List Bytes}
    (h : ∀ item, Writes (write item) (fields item) [] 0) (item : Option α) :
    Writes (Field.writeIf write item) (item.toList.flatMap fields) [] 0 := by
  cases item with
  | none => exact ok rfl
  | some item => simpa using h item

end Writes

/-! ### The parts of a message -/

def Will.fields (will : Will) : List Bytes :=
  [Text.bytes will.topic, will.data]

theorem Will.writes (will : Will) : Writes will.bytes will.fields [] 0 :=
  (Writes.text will.topic).bind fun topic =>
    (Writes.block will.data).map fun data =>
      (by simp : (topic ++ data).length = 0 + topic.length + data.length)

namespace Connect

def tailFields (request : Connect) : List Bytes :=
  Text.bytes request.clientId :: (request.will.toList.flatMap Will.fields ++
    (request.username.toList.map Text.bytes ++ request.password.toList.map Text.bytes))

def fields (request : Connect) : List Bytes :=
  Text.bytes request.protocolName :: request.tailFields

def levels (request : Connect) : List UInt8 :=
  request.will.toList.map Will.qos

theorem writes_head (request : Connect) :
    Writes request.head [Text.bytes request.protocolName] [] 1 :=
  (Writes.text request.protocolName).map fun protocol =>
    (by simp [Nat.add_comm] : (protocol ++ [request.protocolVersion]).length = 1 + protocol.length)

theorem writes_tail (request : Connect) : Writes request.tail request.tailFields [] 2 := by
  rw [tailFields, List.map_eq_flatMap, List.map_eq_flatMap]
  exact (Writes.text request.clientId).bind fun clientId =>
    (Writes.writeIf Will.writes request.will).bind fun will =>
      (Writes.writeIf Writes.text request.username).bind fun username =>
        (Writes.writeIf Writes.text request.password).map fun password =>
          (by simp only [List.length_append, Word.length_bytes] :
            (Word.bytes request.keepAlive ++ clientId ++ will ++ username ++ password).length =
              2 + clientId.length + will.length + username.length + password.length)

theorem writes (request : Connect) : Writes request.body request.fields request.levels 4 := by
  have htail : ∀ head : Bytes, Writes (do
      let tail ← request.tail
      return head ++ request.flags :: tail) request.tailFields [] (1 + head.length + 2) := by
    intro head
    refine request.writes_tail.map fun tail => ?_
    simp only [List.length_append, List.length_cons]
    omega
  rw [body_eq]
  cases hwill : request.will with
  | none =>
    have hlevels : request.levels = [] := by simp [levels, hwill]
    rw [hlevels]
    exact request.writes_head.bind htail
  | some will =>
    have hlevels : request.levels = [will.qos] := by simp [levels, hwill]
    have hrest : ∀ head : Bytes, Writes (do
        let _ ← Field.qos will.qos
        let tail ← request.tail
        return head ++ request.flags :: tail) request.tailFields [will.qos] (1 + head.length + 2) :=
      fun head => (htail head).qos
    rw [hlevels]
    exact request.writes_head.bind hrest

end Connect

namespace Publish

/-- There is no message id at quality of service 0. -/
def canonical (publication : Publish) : Publish :=
  { publication with msgId := if publication.qos = 0 then 0 else publication.msgId }

/-- A publication without the message id that it has no use for is written as before. -/
theorem body_canonical (publication : Publish) : publication.canonical.body = publication.body := by
  unfold body canonical
  by_cases hlevel : publication.qos = 0
  · simp [hlevel]
  · simp [hlevel]

def plainLength (publication : Publish) : Nat :=
  (if publication.qos > 0 then 2 else 0) + publication.data.length

theorem writes (publication : Publish) :
    Writes publication.body [Text.bytes publication.topic] [publication.qos]
      publication.plainLength := by
  have hmsgId : (if publication.qos > 0 then Word.bytes publication.msgId else []).length =
      if publication.qos > 0 then 2 else 0 := by
    split <;> rfl
  have hlength : ∀ topic : Bytes,
      (topic ++ (if publication.qos > 0 then Word.bytes publication.msgId else []) ++
        publication.data).length = publication.plainLength + topic.length := by
    intro topic
    simp only [plainLength, List.length_append, hmsgId]
    omega
  exact Writes.qos ((Writes.text publication.topic).map hlength)

end Publish

theorem Subscription.writes (entry : String × UInt8) :
    Writes (bytes entry) [Text.bytes entry.1] [entry.2] 1 := by
  have hlevel : ∀ topic : Bytes, Writes (do
      let level ← Field.qos entry.2
      return topic ++ [level]) [] [entry.2] (0 + topic.length + 1) :=
    fun topic => Writes.qos (Writes.ok (by simp))
  exact (Writes.text entry.1).bind hlevel

namespace Message

def canonical : Message → Message
  | publish publication => publish publication.canonical
  | message => message

def fields : Message → List Bytes
  | connect request => request.fields
  | publish publication => [Text.bytes publication.topic]
  | subscribe _ _ topics => topics.map fun entry => Text.bytes entry.1
  | unsubscribe _ _ topics => topics.map Text.bytes
  | _ => []

/-- The levels of service, of which there are three. -/
def levels : Message → List UInt8
  | connect request => request.levels
  | publish publication => [publication.qos]
  | subscribe _ _ topics => topics.map Prod.snd
  | _ => []

/-- The number of bytes in the body that belong to no field with a length. -/
def plainLength : Message → Nat
  | connect _ => 4
  | publish publication => publication.plainLength
  | subscribe _ _ topics => 2 + topics.length
  | suback _ granted => 2 + granted.length
  | pingRequest | pingResponse | disconnect => 0
  | _ => 2

def bodyLength (message : Message) : Nat :=
  message.plainLength + (message.fields.map fun field => 2 + field.length).sum

theorem writes (message : Message) :
    Writes message.body message.fields message.levels message.plainLength := by
  cases message with
  | connect request => exact request.writes
  | publish publication => exact publication.writes
  | subscribe dup msgId topics =>
    have hentries := (Writes.writeAll Subscription.writes topics).map fun entries =>
      (List.length_append : (Word.bytes msgId ++ entries).length = 2 + entries.length)
    simp only [← List.map_eq_flatMap, Nat.mul_one] at hentries
    exact hentries
  | unsubscribe dup msgId topics =>
    have hentries := (Writes.writeAll Writes.text topics).map fun entries =>
      (List.length_append : (Word.bytes msgId ++ entries).length = 2 + entries.length)
    have hlevels : topics.flatMap (fun _ => ([] : List UInt8)) = [] :=
      List.flatMap_eq_nil_iff.mpr fun _ _ => rfl
    simp only [← List.map_eq_flatMap, Nat.mul_zero, hlevels] at hentries
    exact hentries
  | suback msgId granted => exact Writes.ok List.length_append
  | _ => exact Writes.ok rfl

/-- A body that is written is as long as was foretold. -/
theorem length_body {message : Message} {written : Bytes} (h : message.body = .ok written) :
    written.length = message.bodyLength :=
  message.writes.length written h

/-! ### Writing and reading -/

/-- The body that is written for a message is read as what comes back. -/
theorem isReading_canonical {message : Message} {body : Bytes} (h : message.body = .ok body) :
    message.canonical.IsReading message.header body := by
  cases message with
  | connect request =>
    obtain ⟨hlevel, head, tail, hhead, htail, rfl⟩ := Connect.body_eq_ok.mp h
    exact Connect.ofBody_eq_ok.mpr ⟨request.flags, head, tail, [],
      Connect.announces_flags hlevel, hhead, htail, by rw [List.append_nil]⟩
  | connack code => exact ⟨0, (Except.ok.inj h).symm⟩
  | publish publication =>
    obtain ⟨hqos, hdup, hretain⟩ := Publish.heads_flags (Publish.body_eq_ok.mp h).1
    refine Publish.ofBody_eq_ok.mpr ⟨⟨hqos, hdup, hretain⟩, ?_, publication.body_canonical.trans h⟩
    exact fun hlevel => if_pos hlevel
  | subscribe dup msgId topics =>
    have hbit : ∀ dup, ((((8 : UInt8) <<< 4) ||| (bitIf dup 8 ||| 2)) &&& 8 != 0) = dup := by
      decide
    exact ⟨hbit dup, h⟩
  | unsubscribe dup msgId topics =>
    have hbit : ∀ dup, ((((10 : UInt8) <<< 4) ||| (bitIf dup 8 ||| 2)) &&& 8 != 0) = dup := by
      decide
    exact ⟨hbit dup, h⟩
  | _ => exact h

/-- A frame that is written is read as its message. -/
theorem decode_of_encode {frame : Bytes} {message : Message} (h : message.encode = .ok frame) :
    decode frame = .ok message.canonical := by
  obtain ⟨body, hbody, hfits, rfl⟩ := encode_eq_ok.mp h
  have htype : message.header >>> 4 = message.canonical.typeNumber := by
    rw [header_shiftRight hbody]
    cases message <;> rfl
  exact decode_eq_ok.mpr ⟨_, _, body, framed_bytes message.header hfits,
    ofBody_eq_ok.mpr ⟨htype, isReading_canonical hbody⟩⟩

/-- A message is written if all of its parts fit. -/
theorem encode_isOk_iff {message : Message} :
    (∃ frame, message.encode = .ok frame) ↔
      (∀ field ∈ message.fields, field.length ≤ Field.maxBlockLength) ∧
        (∀ level ∈ message.levels, level ≤ 2) ∧ message.bodyLength ≤ RemainingLength.max := by
  constructor
  · rintro ⟨frame, h⟩
    obtain ⟨body, hbody, hfits, -⟩ := encode_eq_ok.mp h
    obtain ⟨hfields, hlevels⟩ := message.writes.succeeds.mp ⟨body, hbody⟩
    exact ⟨hfields, hlevels, length_body hbody ▸ hfits⟩
  · rintro ⟨hfields, hlevels, hfits⟩
    obtain ⟨body, hbody⟩ := message.writes.succeeds.mpr ⟨hfields, hlevels⟩
    exact ⟨_, encode_eq_ok.mpr ⟨body, hbody, (length_body hbody).symm ▸ hfits, rfl⟩⟩

/-- What is written is read as the message, without a message id that does not
count, and writing fails only for a field, a level or a body that does not fit. -/
theorem encode_decodes_and_fails_iff (message : Message) :
    (∀ frame, message.encode = .ok frame → decode frame = .ok message.canonical) ∧
    ((∃ error, message.encode = .error error) ↔
      (∃ field ∈ message.fields, 65535 < field.length) ∨ (∃ level ∈ message.levels, 2 < level) ∨
        268435455 < message.bodyLength) := by
  refine ⟨fun frame => decode_of_encode, ?_⟩
  have hfails : (∃ error, message.encode = .error error) ↔
      ¬ ∃ frame, message.encode = .ok frame := by
    cases message.encode <;> simp
  rw [hfails, encode_isOk_iff]
  simp only [Field.maxBlockLength, RemainingLength.max, Classical.not_and_iff_not_or_not,
    Classical.not_forall, Nat.not_le, UInt8.not_le, exists_prop]

/-- A publication whose message id does not count, and a subscription to a level
that there is not. -/
theorem encode_decodes_and_fails_iff_publish :
    let publication : Publish := ⟨false, 0, true, "a/b", 9, [1]⟩
    (publish publication).encode = .ok [0x31, 6, 0, 3, 97, 47, 98, 1] ∧
      decode [0x31, 6, 0, 3, 97, 47, 98, 1] = .ok (publish { publication with msgId := 0 }) ∧
      ∃ error, (subscribe false 1 [("a", 3)]).encode = .error error := by
  intro publication
  have hencode : (publish publication).encode = .ok [0x31, 6, 0, 3, 97, 47, 98, 1] := by cbv
  refine ⟨hencode, (encode_decodes_and_fails_iff _).1 _ hencode, ?_⟩
  refine (encode_decodes_and_fails_iff _).2.mpr (.inr (.inl ⟨3, ?_, by decide⟩))
  exact List.mem_singleton_self 3

end Message

end SensorGateway.Broker
