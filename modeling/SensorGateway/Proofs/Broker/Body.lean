import SensorGateway.Proofs.Broker.Field

/-!
What a body has to be for the reader to make a certain message of it. For most
types it has to be the body that is written for the message. A CONNECT may have
more bytes after its fields and flag bits that stand for nothing, a CONNACK may
have any first byte, and whether a request was sent before is told by the header
alone.
-/

namespace SensorGateway.Broker

/-! ### CONNECT -/

def Will.bytes (will : Will) : Except CodecError Bytes := do
  let topic ← Field.text will.topic
  let data ← Field.block will.data
  return topic ++ data

namespace Connect

/-- What is written before the flags. -/
def head (request : Connect) : Except CodecError Bytes := do
  let protocol ← Field.text request.protocolName
  return protocol ++ [request.protocolVersion]

/-- What is written after the flags. -/
def tail (request : Connect) : Except CodecError Bytes := do
  let clientId ← Field.text request.clientId
  let will ← Field.writeIf Will.bytes request.will
  let username ← Field.writeIf Field.text request.username
  let password ← Field.writeIf Field.text request.password
  return Word.bytes request.keepAlive ++ clientId ++ will ++ username ++ password

theorem head_eq_ok {request : Connect} {written : Bytes} :
    request.head = .ok written ↔
      ∃ protocol, Field.text request.protocolName = .ok protocol ∧
        written = protocol ++ [request.protocolVersion] := by
  simp only [head, Except.bind_eq_ok, pure, Except.pure, Except.ok.injEq, eq_comm (b := written)]

theorem tail_eq_ok {request : Connect} {written : Bytes} :
    request.tail = .ok written ↔
      ∃ clientId, Field.text request.clientId = .ok clientId ∧
        ∃ will, Field.writeIf Will.bytes request.will = .ok will ∧
          ∃ username, Field.writeIf Field.text request.username = .ok username ∧
            ∃ password, Field.writeIf Field.text request.password = .ok password ∧
              written =
                Word.bytes request.keepAlive ++ clientId ++ will ++ username ++ password := by
  simp only [tail, Except.bind_eq_ok, pure, Except.pure, Except.ok.injEq, eq_comm (b := written)]

/-- The flags say which fields there are, and all about them that is told by
flags. -/
structure Announces (flags : UInt8) (request : Connect) : Prop where
  cleanSession : (flags &&& 0x02 != 0) = request.cleanSession
  will : (flags &&& 0x04 != 0) = request.will.isSome
  username : (flags &&& 0x80 != 0) = request.username.isSome
  password : (flags &&& 0x40 != 0) = request.password.isSome
  qos : ∀ will, request.will = some will → (flags >>> 3) &&& 3 = will.qos ∧ will.qos ≤ 2
  retain : ∀ will, request.will = some will → (flags &&& 0x20 != 0) = will.retain

theorem textIfSome_eq (text : Option String) : textIfSome text = Field.writeIf Field.text text := by
  cases text <;> rfl

/-- The fields are written in their order, and the level of a will is looked at
when the protocol has been written. -/
theorem body_eq (request : Connect) :
    request.body = do
      let head ← request.head
      if let some will := request.will then
        let _ ← Field.qos will.qos
      let tail ← request.tail
      return head ++ request.flags :: tail := by
  unfold body head tail
  cases request.will with
  | none => simp [textIfSome_eq]
  | some will => simp [textIfSome_eq, Will.bytes]

theorem body_eq_ok {request : Connect} {written : Bytes} :
    request.body = .ok written ↔
      (∀ will, request.will = some will → will.qos ≤ 2) ∧
        ∃ head tail, request.head = .ok head ∧ request.tail = .ok tail ∧
          written = head ++ request.flags :: tail := by
  rw [body_eq]
  cases hwill : request.will with
  | none =>
    simp only [Except.bind_eq_ok, pure, Except.pure, Except.ok.injEq, reduceCtorEq, false_imp_iff,
      implies_true, true_and, eq_comm (a := written)]
    constructor
    · rintro ⟨head, hhead, tail, htail, hwritten⟩
      exact ⟨head, tail, hhead, htail, hwritten⟩
    · rintro ⟨head, tail, hhead, htail, hwritten⟩
      exact ⟨head, hhead, tail, htail, hwritten⟩
  | some will =>
    simp only [Except.bind_eq_ok, pure, Except.pure, Except.ok.injEq, Field.qos_eq_ok,
      Option.some.injEq]
    constructor
    · rintro ⟨head, hhead, _, ⟨hlevel, -⟩, tail, htail, rfl⟩
      exact ⟨fun _ h => h ▸ hlevel, head, tail, hhead, htail, rfl⟩
    · rintro ⟨hlevel, head, tail, hhead, htail, rfl⟩
      exact ⟨head, hhead, _, ⟨hlevel will rfl, rfl⟩, tail, htail, rfl⟩

def readWill (short : CodecError) (flags : UInt8) (input : Bytes) :
    Except CodecError (Will × Bytes) := do
  let (topic, rest) ← Field.readText short input
  let (data, rest) ← Field.readBlock short rest
  let qos ← Field.qos ((flags >>> 3) &&& 3)
  return (⟨topic, data, qos, flags &&& 0x20 != 0⟩, rest)

/-- A will is read where its level and whether it is retained are those of the flags, and
where the input begins with what is written of it. -/
theorem readWill_eq_ok {short : CodecError} {flags : UInt8} (input rest : Bytes) (will : Will) :
    readWill short flags input = .ok (will, rest) ↔
      (((flags >>> 3) &&& 3 = will.qos ∧ will.qos ≤ 2) ∧ (flags &&& 0x20 != 0) = will.retain) ∧
        ∃ written, will.bytes = .ok written ∧ input = written ++ rest := by
  obtain ⟨topic, data, qos, retain⟩ := will
  simp only [readWill, Will.bytes, Except.bind_eq_ok, Prod.exists, Field.reads_text short _ _ _,
    Field.reads_block short _ _ _, Field.qos_eq_ok, pure, Except.pure, Except.ok.injEq,
    Prod.mk.injEq, Will.mk.injEq]
  constructor
  · rintro ⟨_, _, ⟨topic', htopic, rfl⟩, _, _, ⟨data', hdata, rfl⟩, _, ⟨hlevel, rfl⟩,
      ⟨rfl, rfl, rfl, rfl⟩, rfl⟩
    exact ⟨⟨⟨rfl, hlevel⟩, rfl⟩, topic' ++ data', ⟨topic', htopic, data', hdata, rfl⟩, by simp⟩
  · rintro ⟨⟨⟨rfl, hlevel⟩, rfl⟩, _, ⟨topic', htopic, data', hdata, rfl⟩, rfl⟩
    exact ⟨topic, data' ++ rest, ⟨topic', htopic, by simp⟩, data, rest, ⟨data', hdata, rfl⟩,
      _, ⟨hlevel, rfl⟩, ⟨rfl, rfl, rfl, rfl⟩, rfl⟩

theorem readTextIf_eq_ok {short : CodecError} {present : Bool} {input rest : Bytes}
    {item : Option String} :
    Field.readIf present (Field.readText short) input = .ok (item, rest) ↔
      present = item.isSome ∧
        ∃ written, Field.writeIf Field.text item = .ok written ∧ input = written ++ rest := by
  have hread : ∀ input rest value, Field.readText short input = .ok (value, rest) ↔
      True ∧ ∃ written, Field.text value = .ok written ∧ input = written ++ rest := by
    intro input rest value
    simpa using Field.reads_text short input rest value
  rw [Field.readIf_eq_ok hread]
  simp

/-- A body is read as a request if it has the fields of the request, with flags
that announce them, and whatever may come after. -/
theorem ofBody_eq_ok {input : Bytes} {request : Connect} :
    ofBody input = .ok request ↔
      ∃ flags head tail trailing, Announces flags request ∧ request.head = .ok head ∧
        request.tail = .ok tail ∧ input = head ++ flags :: (tail ++ trailing) := by
  constructor
  · intro h
    obtain ⟨⟨protocolName, afterProtocol⟩, hprotocol, h⟩ := Except.bind_eq_ok.mp h
    obtain ⟨⟨protocolVersion, afterVersion⟩, hversion, h⟩ := Except.bind_eq_ok.mp h
    obtain ⟨⟨flags, afterFlags⟩, hflags, h⟩ := Except.bind_eq_ok.mp h
    obtain ⟨⟨keepAlive, afterKeepAlive⟩, hkeepAlive, h⟩ := Except.bind_eq_ok.mp h
    obtain ⟨⟨clientId, afterClientId⟩, hclientId, h⟩ := Except.bind_eq_ok.mp h
    obtain ⟨⟨will, afterWill⟩, hwill, h⟩ := Except.bind_eq_ok.mp h
    obtain ⟨⟨username, afterUsername⟩, husername, h⟩ := Except.bind_eq_ok.mp h
    obtain ⟨⟨password, trailing⟩, hpassword, h⟩ := Except.bind_eq_ok.mp h
    cases h
    obtain ⟨protocol', hprotocol', hinput⟩ := (Field.reads_text _ _ _ _).mp hprotocol
    obtain ⟨clientId', hclientId', rfl⟩ := (Field.reads_text _ _ _ _).mp hclientId
    obtain ⟨hwillFlag, htold, will', hwill', rfl⟩ := (Field.readIf_eq_ok readWill_eq_ok).mp hwill
    obtain ⟨husernameFlag, username', husername', rfl⟩ := readTextIf_eq_ok.mp husername
    obtain ⟨hpasswordFlag, password', hpassword', rfl⟩ := readTextIf_eq_ok.mp hpassword
    refine ⟨flags, _, _, trailing, ⟨rfl, hwillFlag, husernameFlag, hpasswordFlag, ?_, ?_⟩,
      head_eq_ok.mpr ⟨protocol', hprotocol', rfl⟩,
      tail_eq_ok.mpr ⟨clientId', hclientId', will', hwill', username', husername', password',
        hpassword', rfl⟩, ?_⟩
    · exact fun will h => (htold will h).1
    · exact fun will h => (htold will h).2
    · rw [hinput, Field.readByte_eq_ok.mp hversion, Field.readByte_eq_ok.mp hflags,
        Field.readWord_eq_ok.mp hkeepAlive]
      simp
  · rintro ⟨flags, head, tail, trailing, hannounces, hhead, htail, rfl⟩
    obtain ⟨protocol, hprotocol, rfl⟩ := head_eq_ok.mp hhead
    obtain ⟨clientId, hclientId, will, hwill, username, husername, password, hpassword, rfl⟩ :=
      tail_eq_ok.mp htail
    obtain ⟨hclean, hwillFlag, husernameFlag, hpasswordFlag, hqos, hretain⟩ := hannounces
    simp only [List.append_assoc, List.cons_append, List.nil_append]
    refine Except.bind_eq_ok.mpr
      ⟨_, (Field.reads_text _ _ _ _).mpr ⟨protocol, hprotocol, rfl⟩, ?_⟩
    refine Except.bind_eq_ok.mpr ⟨_, Field.readByte_eq_ok.mpr rfl, ?_⟩
    refine Except.bind_eq_ok.mpr ⟨_, Field.readByte_eq_ok.mpr rfl, ?_⟩
    refine Except.bind_eq_ok.mpr ⟨_, Field.readWord_eq_ok.mpr rfl, ?_⟩
    refine Except.bind_eq_ok.mpr
      ⟨_, (Field.reads_text _ _ _ _).mpr ⟨clientId, hclientId, rfl⟩, ?_⟩
    refine Except.bind_eq_ok.mpr ⟨_, (Field.readIf_eq_ok readWill_eq_ok).mpr
      ⟨hwillFlag, fun will h => ⟨hqos will h, hretain will h⟩, will, hwill, rfl⟩, ?_⟩
    refine Except.bind_eq_ok.mpr
      ⟨_, readTextIf_eq_ok.mpr ⟨husernameFlag, username, husername, rfl⟩, ?_⟩
    refine Except.bind_eq_ok.mpr
      ⟨_, readTextIf_eq_ok.mpr ⟨hpasswordFlag, password, hpassword, rfl⟩, ?_⟩
    rw [hclean]
    rfl

/-- The flags that are written announce what they should. -/
theorem announces_flags {request : Connect}
    (h : ∀ will, request.will = some will → will.qos ≤ 2) : Announces request.flags request := by
  obtain ⟨protocolName, protocolVersion, clientId, cleanSession, keepAlive, will, username,
    password⟩ := request
  cases will with
  | none =>
    have hbits : ∀ clean user pass : Bool,
        let flags := bitIf clean 0x02 ||| 0 ||| bitIf user 0x80 ||| bitIf pass 0x40
        (flags &&& 0x02 != 0) = clean ∧ (flags &&& 0x04 != 0) = false ∧
          (flags &&& 0x80 != 0) = user ∧ (flags &&& 0x40 != 0) = pass := by decide
    obtain ⟨hclean, hwill, huser, hpass⟩ := hbits cleanSession username.isSome password.isSome
    exact ⟨hclean, hwill, huser, hpass, nofun, nofun⟩
  | some will =>
    have hbits : ∀ level : UInt8, level = 0 ∨ level = 1 ∨ level = 2 →
        ∀ clean retain user pass : Bool,
        let flags := bitIf clean 0x02 ||| (bitIf retain 0x20 ||| (level <<< 3) ||| 0x04) |||
          bitIf user 0x80 ||| bitIf pass 0x40
        (flags &&& 0x02 != 0) = clean ∧ (flags &&& 0x04 != 0) = true ∧
          (flags &&& 0x80 != 0) = user ∧ (flags &&& 0x40 != 0) = pass ∧
          (flags >>> 3) &&& 3 = level ∧ (flags &&& 0x20 != 0) = retain := by
      rintro level (rfl | rfl | rfl) <;> decide
    have hlevel := h will rfl
    obtain ⟨hclean, hwill, huser, hpass, hqos, hretain⟩ :=
      hbits will.qos (Field.eq_of_qos hlevel) cleanSession will.retain username.isSome
        password.isSome
    refine ⟨hclean, hwill, huser, hpass, ?_, ?_⟩
    · rintro _ ⟨⟩
      exact ⟨hqos, hlevel⟩
    · rintro _ ⟨⟩
      exact hretain

/-- Of flags that announce a request those bits are written again that stand for
something. -/
theorem flags_of_announces {flags : UInt8} {request : Connect} (h : Announces flags request) :
    request.flags = if flags &&& 0x04 = 0 then flags &&& 0xC2 else flags &&& 0xFE := by
  obtain ⟨hclean, hwill, huser, hpass, hqos, hretain⟩ := h
  unfold Connect.flags
  cases hrequest : request.will with
  | none =>
    rw [hrequest, Option.isSome] at hwill
    rw [← hclean, ← huser, ← hpass]
    clear hclean huser hpass hqos hretain
    revert flags
    apply forall_byte
    decide +kernel
  | some will =>
    rw [hrequest, Option.isSome] at hwill
    rw [← hclean, ← huser, ← hpass]
    simp only [← (hqos will hrequest).1, ← hretain will hrequest]
    clear hclean huser hpass hqos hretain
    revert flags
    apply forall_byte
    decide +kernel

end Connect

/-! ### PUBLISH -/

namespace Publish

theorem body_eq_ok {publication : Publish} {written : Bytes} :
    publication.body = .ok written ↔
      publication.qos ≤ 2 ∧ ∃ topic, Field.text publication.topic = .ok topic ∧
        written = topic ++ (if publication.qos > 0 then Word.bytes publication.msgId else []) ++
          publication.data := by
  simp only [body, Except.bind_eq_ok, Field.qos_eq_ok, pure, Except.pure, Except.ok.injEq,
    eq_comm (b := written)]
  constructor
  · rintro ⟨_, ⟨hlevel, -⟩, topic, htopic, hwritten⟩
    exact ⟨hlevel, topic, htopic, hwritten⟩
  · rintro ⟨hlevel, topic, htopic, hwritten⟩
    exact ⟨_, ⟨hlevel, rfl⟩, topic, htopic, hwritten⟩

/-- The header tells all about a publication but its fields. -/
structure Heads (header : UInt8) (publication : Publish) : Prop where
  qos : (header >>> 1) &&& 3 = publication.qos
  dup : (header &&& 8 != 0) = publication.dup
  retain : (header &&& 1 != 0) = publication.retain

/-- The header that is written for a publication tells all about it but its fields. -/
theorem heads_flags {publication : Publish} (h : publication.qos ≤ 2) :
    Heads (((3 : UInt8) <<< 4) ||| publication.flags) publication := by
  have hbits : ∀ level : UInt8, level = 0 ∨ level = 1 ∨ level = 2 → ∀ dup retain : Bool,
      let header := ((3 : UInt8) <<< 4) ||| (bitIf dup 8 ||| (level <<< 1) ||| bitIf retain 1)
      (header >>> 1) &&& 3 = level ∧ (header &&& 8 != 0) = dup ∧ (header &&& 1 != 0) = retain := by
    rintro level (rfl | rfl | rfl) <;> decide
  obtain ⟨hqos, hdup, hretain⟩ :=
    hbits publication.qos (Field.eq_of_qos h) publication.dup publication.retain
  exact ⟨hqos, hdup, hretain⟩

theorem flags_of_heads {header : UInt8} {publication : Publish} (h : Heads header publication) :
    publication.flags = header &&& 0x0F := by
  obtain ⟨hqos, hdup, hretain⟩ := h
  unfold Publish.flags
  rw [← hqos, ← hdup, ← hretain]
  clear hqos hdup hretain
  revert header
  apply forall_byte
  decide +kernel

/-- A publication is read just where the header tells its flags and the input is the name,
the message id unless the level is 0, and the data. -/
theorem ofBody_eq_ok {header : UInt8} {input : Bytes} {publication : Publish} :
    ofBody header input = .ok publication ↔
      Heads header publication ∧ (publication.qos = 0 → publication.msgId = 0) ∧
        publication.body = .ok input := by
  obtain ⟨dup, qos, retain, topic, msgId, data⟩ := publication
  rw [body_eq_ok]
  constructor
  · intro h
    obtain ⟨level, hlevel, h⟩ := Except.bind_eq_ok.mp h
    obtain ⟨⟨topic', afterTopic⟩, htopic, h⟩ := Except.bind_eq_ok.mp h
    obtain ⟨hsmall, rfl⟩ := Field.qos_eq_ok.mp hlevel
    obtain ⟨written, hwritten, hinput⟩ := (Field.reads_text _ _ _ _).mp htopic
    simp only at h
    split at h
    next hpositive =>
      obtain ⟨⟨msgId', data'⟩, hmsgId, h⟩ := Except.bind_eq_ok.mp h
      cases h
      refine ⟨⟨rfl, rfl, rfl⟩, ?_, hsmall, written, hwritten, ?_⟩
      · intro hzero
        change (header >>> 1) &&& 3 = 0 at hzero
        rw [hzero] at hpositive
        exact absurd hpositive (by decide)
      · rw [hinput, Field.readWord_eq_ok.mp hmsgId, if_pos hpositive, List.append_assoc]
    next hzero =>
      cases h
      refine ⟨⟨rfl, rfl, rfl⟩, fun _ => rfl, hsmall, written, hwritten, ?_⟩
      rw [hinput, if_neg hzero, List.append_nil]
  · rintro ⟨⟨hqos, hdup, hretain⟩, hmsgId, hsmall, written, hwritten, rfl⟩
    simp only [List.append_assoc] at *
    refine Except.bind_eq_ok.mpr ⟨_, Field.qos_eq_ok.mpr ⟨hqos ▸ hsmall, hqos⟩, ?_⟩
    refine Except.bind_eq_ok.mpr
      ⟨_, (Field.reads_text _ _ _ _).mpr ⟨written, hwritten, rfl⟩, ?_⟩
    simp only
    split
    next hpositive =>
      refine Except.bind_eq_ok.mpr ⟨_, Field.readWord_eq_ok.mpr rfl, ?_⟩
      rw [hdup, hretain]
      rfl
    next hzero =>
      have hlevel : qos = 0 := by simpa using hzero
      rw [hdup, hretain, hmsgId hlevel]
      rfl

end Publish

/-! ### All types -/

namespace Message

theorem readAck_eq_ok {input : Bytes} {msgId : UInt16} :
    readAck input = .ok msgId ↔ input = Word.bytes msgId := by
  constructor
  · intro h
    unfold readAck at h
    split at h
    next high low =>
      cases h
      exact (Word.bytes_join high low).symm
    · contradiction
  · rintro rfl
    simp [readAck, Word.bytes, Word.join_bytes]

@[simp] theorem readAck_bytes (msgId : UInt16) : readAck (Word.bytes msgId) = .ok msgId :=
  readAck_eq_ok.mpr rfl

theorem readEmpty_eq_ok {input : Bytes} {message result : Message} :
    readEmpty message input = .ok result ↔ input = [] ∧ message = result := by
  cases input with
  | nil => simp [readEmpty]
  | cons byte input => simp [readEmpty]

theorem body_subscribe_eq_ok {dup : Bool} {msgId : UInt16} {topics : List (String × UInt8)}
    {written : Bytes} :
    (subscribe dup msgId topics).body = .ok written ↔
      ∃ entries, writeAll Subscription.bytes topics = .ok entries ∧
        written = Word.bytes msgId ++ entries := by
  simp only [body, Except.bind_eq_ok, pure, Except.pure, Except.ok.injEq, eq_comm (b := written)]

theorem body_unsubscribe_eq_ok {dup : Bool} {msgId : UInt16} {topics : List String}
    {written : Bytes} :
    (unsubscribe dup msgId topics).body = .ok written ↔
      ∃ entries, writeAll Field.text topics = .ok entries ∧
        written = Word.bytes msgId ++ entries := by
  simp only [body, Except.bind_eq_ok, pure, Except.pure, Except.ok.injEq, eq_comm (b := written)]

/-- What a header of the right type and a body have to be for this message to be
read of them. -/
def IsReading (header : UInt8) (input : Bytes) : Message → Prop
  | connect request => Connect.ofBody input = .ok request
  | connack code => ∃ first, input = [first, code]
  | publish publication => Publish.ofBody header input = .ok publication
  | subscribe dup msgId topics =>
      (header &&& 8 != 0) = dup ∧ (subscribe dup msgId topics).body = .ok input
  | unsubscribe dup msgId topics =>
      (header &&& 8 != 0) = dup ∧ (unsubscribe dup msgId topics).body = .ok input
  | message => message.body = .ok input

section
variable {header : UInt8} {input : Bytes}

theorem isReading_of_readAck {make : UInt16 → Message}
    (h : ∀ msgId, header >>> 4 = (make msgId).typeNumber ∧
      (make msgId).IsReading header (Word.bytes msgId)) :
    ∀ message, (readAck input).map make = .ok message →
      header >>> 4 = message.typeNumber ∧ message.IsReading header input := by
  intro message hread
  obtain ⟨msgId, hmsgId, rfl⟩ := Except.map_eq_ok.mp hread
  exact readAck_eq_ok.mp hmsgId ▸ h msgId

theorem isReading_of_readEmpty {message : Message}
    (h : header >>> 4 = message.typeNumber ∧ message.IsReading header []) :
    ∀ result, readEmpty message input = .ok result →
      header >>> 4 = result.typeNumber ∧ result.IsReading header input := by
  intro result hread
  obtain ⟨rfl, rfl⟩ := readEmpty_eq_ok.mp hread
  exact h

/-- The type in the header is that of the message, and the body is read by its
reader. -/
theorem isReading_of_ofBody : ∀ message, ofBody header input = .ok message →
    header >>> 4 = message.typeNumber ∧ message.IsReading header input := by
  unfold ofBody
  extract_lets dup type
  refine Except.of_ite_eq_ok (fun htype message h => ?_) ?_
  · obtain ⟨request, hrequest, rfl⟩ := Except.map_eq_ok.mp h
    exact ⟨htype, hrequest⟩
  refine Except.of_ite_eq_ok (fun htype message h => ?_) ?_
  · rcases input with _ | ⟨first, _ | ⟨code, _ | ⟨extra, rest⟩⟩⟩ <;> cases h
    exact ⟨htype, first, rfl⟩
  refine Except.of_ite_eq_ok (fun htype message h => ?_) ?_
  · obtain ⟨publication, hpublication, rfl⟩ := Except.map_eq_ok.mp h
    exact ⟨htype, hpublication⟩
  refine Except.of_ite_eq_ok (fun htype => isReading_of_readAck fun _ => ⟨htype, rfl⟩) ?_
  refine Except.of_ite_eq_ok (fun htype => isReading_of_readAck fun _ => ⟨htype, rfl⟩) ?_
  refine Except.of_ite_eq_ok (fun htype => isReading_of_readAck fun _ => ⟨htype, rfl⟩) ?_
  refine Except.of_ite_eq_ok (fun htype => isReading_of_readAck fun _ => ⟨htype, rfl⟩) ?_
  refine Except.of_ite_eq_ok (fun htype message h => ?_) ?_
  · obtain ⟨⟨msgId, rest⟩, hmsgId, h⟩ := Except.bind_eq_ok.mp h
    obtain ⟨topics, htopics, h⟩ := Except.bind_eq_ok.mp h
    cases h
    refine ⟨htype, rfl, body_subscribe_eq_ok.mpr ⟨rest, ?_, Field.readWord_eq_ok.mp hmsgId⟩⟩
    exact (Subscription.reads _).readAll_eq_ok.mp htopics
  refine Except.of_ite_eq_ok (fun htype message h => ?_) ?_
  · obtain ⟨⟨msgId, granted⟩, hmsgId, h⟩ := Except.bind_eq_ok.mp h
    cases h
    exact ⟨htype, congrArg Except.ok (Field.readWord_eq_ok.mp hmsgId).symm⟩
  refine Except.of_ite_eq_ok (fun htype message h => ?_) ?_
  · obtain ⟨⟨msgId, rest⟩, hmsgId, h⟩ := Except.bind_eq_ok.mp h
    obtain ⟨topics, htopics, h⟩ := Except.bind_eq_ok.mp h
    cases h
    refine ⟨htype, rfl, body_unsubscribe_eq_ok.mpr ⟨rest, ?_, Field.readWord_eq_ok.mp hmsgId⟩⟩
    exact (Field.reads_text _).readAll_eq_ok.mp htopics
  refine Except.of_ite_eq_ok (fun htype => isReading_of_readAck fun _ => ⟨htype, rfl⟩) ?_
  refine Except.of_ite_eq_ok (fun htype => isReading_of_readEmpty ⟨htype, rfl⟩) ?_
  refine Except.of_ite_eq_ok (fun htype => isReading_of_readEmpty ⟨htype, rfl⟩) ?_
  refine Except.of_ite_eq_ok (fun htype => isReading_of_readEmpty ⟨htype, rfl⟩) ?_
  nofun

/-- The reader finds every message of which header and input are a reading. -/
theorem ofBody_of_isReading {message : Message}
    (htype : header >>> 4 = message.typeNumber) (h : message.IsReading header input) :
    ofBody header input = .ok message := by
  -- The header picks the reader of the type, which then finds what it reads.
  cases message with
  | connect request =>
    have hreader : ofBody header input = (Connect.ofBody input).map connect := by
      simp [ofBody, htype, typeNumber]
    exact hreader.trans (Except.map_eq_ok.mpr ⟨request, h, rfl⟩)
  | connack code =>
    obtain ⟨first, rfl⟩ := h
    simp [ofBody, htype, typeNumber]
  | publish publication =>
    have hreader : ofBody header input = (Publish.ofBody header input).map publish := by
      simp [ofBody, htype, typeNumber]
    exact hreader.trans (Except.map_eq_ok.mpr ⟨publication, h, rfl⟩)
  | subscribe dup msgId topics =>
    obtain ⟨rfl, hbody⟩ := h
    obtain ⟨entries, hentries, rfl⟩ := body_subscribe_eq_ok.mp hbody
    simp only [ofBody, htype, typeNumber, reduceIte]
    refine Except.bind_eq_ok.mpr ⟨_, Field.readWord_eq_ok.mpr rfl, ?_⟩
    exact Except.bind_eq_ok.mpr
      ⟨topics, (Subscription.reads _).readAll_eq_ok.mpr hentries, rfl⟩
  | suback msgId granted =>
    obtain rfl := Except.ok.inj h
    simp only [ofBody, htype, typeNumber, reduceIte]
    exact Except.bind_eq_ok.mpr ⟨_, Field.readWord_eq_ok.mpr rfl, rfl⟩
  | unsubscribe dup msgId topics =>
    obtain ⟨rfl, hbody⟩ := h
    obtain ⟨entries, hentries, rfl⟩ := body_unsubscribe_eq_ok.mp hbody
    simp only [ofBody, htype, typeNumber, reduceIte]
    refine Except.bind_eq_ok.mpr ⟨_, Field.readWord_eq_ok.mpr rfl, ?_⟩
    exact Except.bind_eq_ok.mpr ⟨topics, (Field.reads_text _).readAll_eq_ok.mpr hentries, rfl⟩
  | _ =>
    obtain rfl := Except.ok.inj h
    simp [ofBody, htype, typeNumber, readEmpty, Except.map]

/-- Each type has its own way to be read, and no other type is read like it. -/
theorem ofBody_eq_ok {message : Message} :
    ofBody header input = .ok message ↔
      header >>> 4 = message.typeNumber ∧ message.IsReading header input :=
  ⟨isReading_of_ofBody message, fun ⟨htype, h⟩ => ofBody_of_isReading htype h⟩

end

end Message

end SensorGateway.Broker
