import SensorGateway.Proofs.Except
import SensorGateway.Proofs.Sensor.RoundTrip

/-!
Reading a frame and writing its message again. The reader insists on every bit
of a frame but two: in a CONNECT or a will topic the kind of topic id stands for
nothing, and where those two bits have the reserved value they are taken for
clear. So the frame that is written again is the one that was read, with these
bits cleared, and the frames that are accepted are those that the writer makes
of messages that come back, up to these bits.
-/

namespace SensorGateway.Sensor

/-! ### Fields -/

theorem readText_eq_ok {bytes : Bytes} {text : String} :
    readText bytes = .ok text ↔ bytes = Text.bytes text := by
  constructor
  · intro h
    unfold readText at h
    split at h
    next value hvalue =>
      cases h
      exact (Text.bytes_of_ofBytes? hvalue).symm
    · contradiction
  · rintro rfl
    exact readText_bytes text

theorem ReturnCode.ofByte_eq_ok {byte : UInt8} {code : ReturnCode} :
    ofByte byte = .ok code ↔ byte = code.byte := by
  constructor
  · intro h
    unfold ofByte at h
    repeat' split at h
    all_goals cases h <;> assumption
  · rintro rfl
    exact code.ofByte_byte

theorem TopicIdType.ofByte_eq_ok {byte : UInt8} {type : TopicIdType} :
    ofByte byte = .ok type ↔ byte = type.bits := by
  constructor
  · intro h
    unfold ofByte at h
    repeat' split at h
    all_goals cases h <;> assumption
  · rintro rfl
    cases type <;> rfl

namespace Flags

/-- A flags byte without the two bits of the reserved topic id type. -/
def clearReserved (byte : UInt8) : UInt8 :=
  if byte &&& 3 = 3 then byte &&& 0xFC else byte

/-- Lenient reading forgets the two bits of a reserved topic id type, and nothing else. -/
theorem byte_ofByteLenient (byte : UInt8) : (ofByteLenient byte).byte = clearReserved byte := by
  revert byte
  apply forall_byte
  decide +kernel

/-- Lenient reading does not look at the reserved bits. -/
theorem ofByteLenient_clearReserved (byte : UInt8) :
    ofByteLenient (clearReserved byte) = ofByteLenient byte := by
  rw [← byte_ofByteLenient, ofByteLenient_byte]

theorem byte_ofByteAs {type : TopicIdType} {byte : UInt8} (h : byte &&& 3 = type.bits) :
    (ofByteAs type byte).byte = byte := by
  revert byte
  apply forall_byte
  cases type <;> decide +kernel

theorem ofByte_eq_ok {byte : UInt8} {flags : Flags} :
    ofByte byte = .ok flags ↔ byte = flags.byte := by
  constructor
  · intro h
    obtain ⟨type, htype, rfl⟩ := Except.map_eq_ok.mp h
    exact (byte_ofByteAs (TopicIdType.ofByte_eq_ok.mp htype)).symm
  · rintro rfl
    exact flags.ofByte_byte

/-- The same for the flags byte with which a body begins. -/
def clearFirst : Bytes → Bytes
  | [] => []
  | byte :: rest => clearReserved byte :: rest

@[simp] theorem length_clearFirst (body : Bytes) : (clearFirst body).length = body.length := by
  cases body <;> rfl

end Flags

/-- A topic is read of its own bytes and type only. -/
theorem TopicRef.ofBytes_eq_ok {type : TopicIdType} {bytes : Bytes} {topic : TopicRef} :
    ofBytes type bytes = .ok topic ↔ topic.idType = type ∧ bytes = topic.bytes := by
  constructor
  · intro h
    cases type with
    | normal =>
      obtain ⟨name, hname, rfl⟩ := Except.map_eq_ok.mp h
      exact ⟨rfl, readText_eq_ok.mp hname⟩
    | predefined =>
      simp only [ofBytes] at h
      split at h
      next high low =>
        cases h
        exact ⟨rfl, (Word.bytes_join high low).symm⟩
      · contradiction
    | short =>
      simp only [ofBytes] at h
      split at h
      next first second =>
        cases h
        exact ⟨rfl, rfl⟩
      · contradiction
  · rintro ⟨rfl, rfl⟩
    exact topic.ofBytes_bytes

/-! ### Layouts -/

namespace Layout

theorem empty_eq_ok {α : Type} {type : MessageType} {value result : α} {body : Bytes} :
    empty type value body = .ok result ↔ body = [] ∧ value = result := by
  cases body with
  | nil => simp [empty]
  | cons byte body => simp [empty, wrongLength]

theorem word_eq_ok {type : MessageType} {body : Bytes} {value : UInt16} :
    word type body = .ok value ↔ body = Word.bytes value := by
  constructor
  · intro h
    unfold word at h
    split at h
    next high low =>
      cases h
      exact (Word.bytes_join high low).symm
    · contradiction
  · rintro rfl
    exact word_bytes type value

theorem returnCode_eq_ok {type : MessageType} {body : Bytes} {code : ReturnCode} :
    returnCode type body = .ok code ↔ body = [code.byte] := by
  constructor
  · intro h
    unfold returnCode at h
    split at h
    next byte => rw [ReturnCode.ofByte_eq_ok.mp h]
    · contradiction
  · rintro rfl
    exact returnCode_byte type code

theorem topicAck_eq_ok {type : MessageType} {body : Bytes} {ack : TopicAck} :
    topicAck type body = .ok ack ↔ body = ack.bytes := by
  constructor
  · intro h
    unfold topicAck at h
    split at h
    next t1 t0 m1 m0 byte =>
      obtain ⟨code, hcode, rfl⟩ := Except.map_eq_ok.mp h
      simp [TopicAck.bytes, Word.bytes_join, ReturnCode.ofByte_eq_ok.mp hcode]
    · contradiction
  · rintro rfl
    exact topicAck_bytes type ack

/-- A request about a topic was read of the bytes that it is written in. -/
theorem bytes_of_topicRequest {type : MessageType} {body : Bytes} {request : TopicRequest}
    (h : topicRequest type body = .ok request) : request.bytes = body := by
  unfold topicRequest at h
  split at h
  next byte m1 m0 first rest =>
    obtain ⟨flags, hflags, h⟩ := Except.bind_eq_ok.mp h
    obtain ⟨topic, htopic, h⟩ := Except.bind_eq_ok.mp h
    cases h
    -- The kind of topic is taken from the flags, so writing it into them changes nothing.
    obtain ⟨hkind, hbytes⟩ := TopicRef.ofBytes_eq_ok.mp htopic
    simp [TopicRequest.bytes, hkind, ← hbytes, Word.bytes_join, Flags.ofByte_eq_ok.mp hflags]
  · contradiction

/-- What was read as a CONNECT is written as it was, without the bits that were passed
over. -/
theorem body_of_connect {body : Bytes} {request : Connect} (h : connect body = .ok request) :
    (Message.connect request).body = Flags.clearFirst body := by
  unfold connect at h
  split at h
  next flags protocolId d1 d0 first rest =>
    obtain ⟨clientId, hclientId, rfl⟩ := Except.map_eq_ok.mp h
    simp [Message.body, Flags.byte_ofByteLenient, Word.bytes_join, ← readText_eq_ok.mp hclientId,
      Flags.clearFirst]
  · contradiction

/-- The reader of a CONNECT does not see the reserved bits, whatever else it
may find wrong. -/
theorem connect_clearFirst (body : Bytes) : connect (Flags.clearFirst body) = connect body := by
  rcases body with _ | ⟨flags, _ | ⟨protocolId, _ | ⟨d1, _ | ⟨d0, _ | ⟨first, rest⟩⟩⟩⟩⟩
  case cons.cons.cons.cons.cons =>
    simp only [Flags.clearFirst, connect, Flags.ofByteLenient_clearReserved]
  all_goals rfl

theorem body_of_register {body : Bytes} {registration : Register}
    (h : register body = .ok registration) : (Message.register registration).body = body := by
  unfold register at h
  split at h
  next t1 t0 m1 m0 first rest =>
    obtain ⟨topic, htopic, rfl⟩ := Except.map_eq_ok.mp h
    simp [Message.body, Word.bytes_join, ← readText_eq_ok.mp htopic]
  · contradiction

theorem body_of_publish {body : Bytes} {publication : Publish}
    (h : publish body = .ok publication) : (Message.publish publication).body = body := by
  unfold publish at h
  split at h
  next byte t1 t0 m1 m0 data =>
    obtain ⟨flags, hflags, rfl⟩ := Except.map_eq_ok.mp h
    simp [Message.body, Word.bytes_join, Flags.ofByte_eq_ok.mp hflags]
  · contradiction

theorem body_of_suback {body : Bytes} {ack : Suback} (h : suback body = .ok ack) :
    (Message.suback ack).body = body := by
  unfold suback at h
  split at h
  next byte t1 t0 m1 m0 codeByte =>
    obtain ⟨flags, hflags, h⟩ := Except.bind_eq_ok.mp h
    obtain ⟨code, hcode, h⟩ := Except.bind_eq_ok.mp h
    cases h
    simp [Message.body, Word.bytes_join, Flags.ofByte_eq_ok.mp hflags,
      ReturnCode.ofByte_eq_ok.mp hcode]
  · contradiction

theorem body_of_pingRequest {body : Bytes} {clientId : Option String}
    (h : pingRequest body = .ok clientId) : (Message.pingRequest clientId).body = body := by
  unfold pingRequest at h
  split at h
  · cases h
    rfl
  · obtain ⟨clientId, hclientId, rfl⟩ := Except.map_eq_ok.mp h
    exact (readText_eq_ok.mp hclientId).symm

theorem body_of_disconnect {body : Bytes} {duration : Option UInt16}
    (h : disconnect body = .ok duration) : (Message.disconnect duration).body = body := by
  unfold disconnect at h
  split at h
  · cases h
    rfl
  · obtain ⟨duration, hduration, rfl⟩ := Except.map_eq_ok.mp h
    exact (word_eq_ok.mp hduration).symm

end Layout

theorem WillTopic.bytes_of_ofBytes {body : Bytes} {will : WillTopic}
    (h : ofBytes body = .ok will) : will.bytes = Flags.clearFirst body := by
  cases body with
  | nil =>
    cases h
    rfl
  | cons flags rest =>
    obtain ⟨topic, htopic, rfl⟩ := Except.map_eq_ok.mp h
    simp [bytes, Flags.byte_ofByteLenient, ← readText_eq_ok.mp htopic, Flags.clearFirst]

/-- The bits that are passed over make no difference to a will topic. -/
theorem WillTopic.ofBytes_clearFirst (body : Bytes) :
    ofBytes (Flags.clearFirst body) = ofBytes body := by
  cases body with
  | nil => rfl
  | cons flags rest => simp only [Flags.clearFirst, ofBytes, Flags.ofByteLenient_clearReserved]

/-! ### Frames -/

namespace Message

/-- The frame without the two bits that the reader passes over: those of the
reserved topic id type in the flags of a CONNECT or a will topic. -/
def clearReserved : Bytes → Bytes
  | length :: type :: flags :: rest =>
      if type = MessageType.connect.byte ∨ type = MessageType.willTopic.byte ∨
          type = MessageType.willTopicUpdate.byte then
        length :: type :: Flags.clearReserved flags :: rest
      else length :: type :: flags :: rest
  | frame => frame

@[simp] theorem length_clearReserved (frame : Bytes) :
    (clearReserved frame).length = frame.length := by
  unfold clearReserved
  split
  · split <;> rfl
  · rfl

theorem clearReserved_connect (length : UInt8) (body : Bytes) :
    clearReserved (length :: MessageType.connect.byte :: body) =
      length :: MessageType.connect.byte :: Flags.clearFirst body := by
  cases body <;> rfl

theorem clearReserved_willTopic (length : UInt8) (body : Bytes) :
    clearReserved (length :: MessageType.willTopic.byte :: body) =
      length :: MessageType.willTopic.byte :: Flags.clearFirst body := by
  cases body <;> rfl

theorem clearReserved_willTopicUpdate (length : UInt8) (body : Bytes) :
    clearReserved (length :: MessageType.willTopicUpdate.byte :: body) =
      length :: MessageType.willTopicUpdate.byte :: Flags.clearFirst body := by
  cases body <;> rfl

/-- A frame of any other type is left as it is. -/
theorem clearReserved_of_ne {length byte : UInt8} {body : Bytes}
    (h : byte ≠ MessageType.connect.byte ∧ byte ≠ MessageType.willTopic.byte ∧
      byte ≠ MessageType.willTopicUpdate.byte) :
    clearReserved (length :: byte :: body) = length :: byte :: body := by
  cases body with
  | nil => rfl
  | cons flags rest => simp [clearReserved, h]

/-- Every layout but those of a CONNECT and a will topic is written as it was
read, to the last byte. -/
theorem body_of_ofBody {type : MessageType} {body : Bytes} {message : Message}
    (h : ofBody type body = .ok message)
    (hstrict : type ≠ .connect ∧ type ≠ .willTopic ∧ type ≠ .willTopicUpdate) :
    message.type = type ∧ message.body = body := by
  cases type with
  | connect => exact absurd rfl hstrict.1
  | willTopic => exact absurd rfl hstrict.2.1
  | willTopicUpdate => exact absurd rfl hstrict.2.2
  | advertise =>
    rcases body with _ | ⟨gateway, _ | ⟨d1, _ | ⟨d0, _ | ⟨extra, rest⟩⟩⟩⟩ <;> cases h
    exact ⟨rfl, congrArg (gateway :: ·) (Word.bytes_join d1 d0)⟩
  | searchGateway =>
    rcases body with _ | ⟨radius, _ | ⟨extra, rest⟩⟩ <;> cases h
    exact ⟨rfl, rfl⟩
  | gatewayInfo =>
    cases body with
    | nil => cases h
    | cons gateway address =>
      cases h
      exact ⟨rfl, rfl⟩
  | willMessage =>
    cases h
    exact ⟨rfl, rfl⟩
  | willMessageUpdate =>
    cases h
    exact ⟨rfl, rfl⟩
  | willTopicRequest =>
    obtain ⟨rfl, rfl⟩ := Layout.empty_eq_ok.mp h
    exact ⟨rfl, rfl⟩
  | willMessageRequest =>
    obtain ⟨rfl, rfl⟩ := Layout.empty_eq_ok.mp h
    exact ⟨rfl, rfl⟩
  | pingResponse =>
    obtain ⟨rfl, rfl⟩ := Layout.empty_eq_ok.mp h
    exact ⟨rfl, rfl⟩
  | connack =>
    obtain ⟨code, hcode, rfl⟩ := Except.map_eq_ok.mp h
    exact ⟨rfl, (Layout.returnCode_eq_ok.mp hcode).symm⟩
  | willTopicResponse =>
    obtain ⟨code, hcode, rfl⟩ := Except.map_eq_ok.mp h
    exact ⟨rfl, (Layout.returnCode_eq_ok.mp hcode).symm⟩
  | willMessageResponse =>
    obtain ⟨code, hcode, rfl⟩ := Except.map_eq_ok.mp h
    exact ⟨rfl, (Layout.returnCode_eq_ok.mp hcode).symm⟩
  | regack =>
    obtain ⟨ack, hack, rfl⟩ := Except.map_eq_ok.mp h
    exact ⟨rfl, (Layout.topicAck_eq_ok.mp hack).symm⟩
  | puback =>
    obtain ⟨ack, hack, rfl⟩ := Except.map_eq_ok.mp h
    exact ⟨rfl, (Layout.topicAck_eq_ok.mp hack).symm⟩
  | pubcomp =>
    obtain ⟨msgId, hmsgId, rfl⟩ := Except.map_eq_ok.mp h
    exact ⟨rfl, (Layout.word_eq_ok.mp hmsgId).symm⟩
  | pubrec =>
    obtain ⟨msgId, hmsgId, rfl⟩ := Except.map_eq_ok.mp h
    exact ⟨rfl, (Layout.word_eq_ok.mp hmsgId).symm⟩
  | pubrel =>
    obtain ⟨msgId, hmsgId, rfl⟩ := Except.map_eq_ok.mp h
    exact ⟨rfl, (Layout.word_eq_ok.mp hmsgId).symm⟩
  | unsuback =>
    obtain ⟨msgId, hmsgId, rfl⟩ := Except.map_eq_ok.mp h
    exact ⟨rfl, (Layout.word_eq_ok.mp hmsgId).symm⟩
  | subscribe =>
    obtain ⟨request, hrequest, rfl⟩ := Except.map_eq_ok.mp h
    exact ⟨rfl, Layout.bytes_of_topicRequest hrequest⟩
  | unsubscribe =>
    obtain ⟨request, hrequest, rfl⟩ := Except.map_eq_ok.mp h
    exact ⟨rfl, Layout.bytes_of_topicRequest hrequest⟩
  | register =>
    obtain ⟨registration, hregistration, rfl⟩ := Except.map_eq_ok.mp h
    exact ⟨rfl, Layout.body_of_register hregistration⟩
  | publish =>
    obtain ⟨publication, hpublication, rfl⟩ := Except.map_eq_ok.mp h
    exact ⟨rfl, Layout.body_of_publish hpublication⟩
  | suback =>
    obtain ⟨ack, hack, rfl⟩ := Except.map_eq_ok.mp h
    exact ⟨rfl, Layout.body_of_suback hack⟩
  | pingRequest =>
    obtain ⟨clientId, hclientId, rfl⟩ := Except.map_eq_ok.mp h
    exact ⟨rfl, Layout.body_of_pingRequest hclientId⟩
  | disconnect =>
    obtain ⟨duration, hduration, rfl⟩ := Except.map_eq_ok.mp h
    exact ⟨rfl, Layout.body_of_disconnect hduration⟩

/-- What was read is written as it was, apart from the reserved bits. -/
theorem clearReserved_of_ofBody {type : MessageType} {body : Bytes} {message : Message}
    (h : ofBody type body = .ok message) (length : UInt8) :
    clearReserved (length :: type.byte :: body) = length :: message.type.byte :: message.body := by
  cases type with
  | connect =>
    obtain ⟨request, hrequest, rfl⟩ := Except.map_eq_ok.mp h
    rw [clearReserved_connect, Layout.body_of_connect hrequest]
    rfl
  | willTopic =>
    obtain ⟨will, hwill, rfl⟩ := Except.map_eq_ok.mp h
    rw [clearReserved_willTopic, ← WillTopic.bytes_of_ofBytes hwill]
    rfl
  | willTopicUpdate =>
    obtain ⟨will, hwill, rfl⟩ := Except.map_eq_ok.mp h
    rw [clearReserved_willTopicUpdate, ← WillTopic.bytes_of_ofBytes hwill]
    rfl
  | _ =>
    obtain ⟨htype, hbody⟩ := body_of_ofBody h (by decide)
    rw [clearReserved_of_ne (by decide), htype, hbody]

/-- Reading a frame of a known type. -/
theorem decode_type (length : UInt8) (type : MessageType) (body : Bytes) :
    decode (length :: type.byte :: body) =
      if length.toNat ≠ body.length + 2 then
        .error (.lengthMismatch length.toNat (body.length + 2))
      else ofBody type body := by
  simp only [decode, MessageType.ofByte?_byte, List.length_cons]

/-- The reader gives the same answer with and without the reserved bits, also
where it refuses the frame. -/
theorem decode_clearReserved (frame : Bytes) : decode (clearReserved frame) = decode frame := by
  rcases frame with _ | ⟨length, _ | ⟨byte, body⟩⟩
  · rfl
  · rfl
  by_cases hconnect : byte = MessageType.connect.byte
  · subst hconnect
    rw [clearReserved_connect, decode_type, decode_type, Flags.length_clearFirst]
    simp only [ofBody, Layout.connect_clearFirst]
  by_cases hwill : byte = MessageType.willTopic.byte
  · subst hwill
    rw [clearReserved_willTopic, decode_type, decode_type, Flags.length_clearFirst]
    simp only [ofBody, WillTopic.ofBytes_clearFirst]
  by_cases hupdate : byte = MessageType.willTopicUpdate.byte
  · subst hupdate
    rw [clearReserved_willTopicUpdate, decode_type, decode_type, Flags.length_clearFirst]
    simp only [ofBody, WillTopic.ofBytes_clearFirst]
  rw [clearReserved_of_ne ⟨hconnect, hwill, hupdate⟩]

/-- The parts of a frame that is accepted. -/
theorem exists_of_decode {frame : Bytes} {message : Message} (h : decode frame = .ok message) :
    ∃ length type body, frame = length :: MessageType.byte type :: body ∧
      length.toNat = body.length + 2 ∧ ofBody type body = .ok message := by
  unfold decode at h
  split at h
  next length byte body =>
    split at h
    · contradiction
    next hlength =>
      split at h
      next type htype =>
        refine ⟨length, type, body, ?_, Decidable.not_not.mp hlength, h⟩
        rw [MessageType.byte_of_ofByte? htype]
      · contradiction
  · contradiction

theorem encode_of_decode {frame : Bytes} {message : Message} (h : decode frame = .ok message) :
    message.encode = .ok (clearReserved frame) := by
  obtain ⟨length, type, body, rfl, hlength, hbody⟩ := exists_of_decode h
  have hframe := clearReserved_of_ofBody hbody length
  have hsame : message.body.length + 2 = length.toNat := by
    have := congrArg List.length hframe
    simp only [length_clearReserved, List.length_cons] at this
    omega
  have hfits : ¬ length.toNat > maxFrameLength := Nat.not_lt.mpr (Nat.le_of_lt_succ length.toNat_lt)
  simp only [encode, hsame, hfits, if_false, hframe, UInt8.ofNat_toNat]

/-- A message that was read comes back as it is. -/
theorem canonical_of_decode {frame : Bytes} {message : Message} (h : decode frame = .ok message) :
    message.frameLength ≤ maxFrameLength ∧ message.Canonical := by
  have hencode := encode_of_decode h
  have hshort : message.frameLength ≤ maxFrameLength := by
    unfold encode at hencode
    simp only [length_body] at hencode
    split at hencode
    · cases hencode
    next hfits => exact Nat.not_lt.mp hfits
  obtain ⟨written, hwritten, -, hread⟩ := message.exists_frame hshort
  have hsame : written = clearReserved frame := Except.ok.inj (hwritten.symm.trans hencode)
  rw [hsame, decode_clearReserved, h] at hread
  split at hread
  · cases hread
  next hnamed =>
    have hcanonical : message.canonical = message := (Except.ok.inj hread).symm
    exact ⟨hshort, message.canonical_iff.mpr ⟨Bool.eq_false_iff.mpr hnamed, hcanonical⟩⟩

/-- Clearing the reserved bits changes at most the third byte of a frame. -/
theorem getElem?_clearReserved (frame : Bytes) {index : Nat} (h : index ≠ 2) :
    (clearReserved frame)[index]? = frame[index]? := by
  unfold clearReserved
  split
  · split
    · match index, h with
      | 0, _ => rfl
      | 1, _ => rfl
      | index + 3, _ => rfl
    · rfl
  · rfl

/-- It leaves the other six bits of that byte. -/
theorem getElem?_two_clearReserved (frame : Bytes) :
    (clearReserved frame)[2]?.map (· &&& 0xFC) = frame[2]?.map (· &&& 0xFC) := by
  have hbyte : ∀ byte : UInt8, Flags.clearReserved byte &&& 0xFC = byte &&& 0xFC := by
    apply forall_byte
    decide +kernel
  unfold clearReserved
  split
  · split
    · exact congrArg some (hbyte _)
    · rfl
  · rfl

/-- Writing the message of an accepted frame gives the frame again, without the
reserved bits; a frame is accepted exactly if, without these bits, it is what is
written for a message that comes back; and two accepted frames with the same
message are the same but for these bits. -/
theorem accepted_iff_written (frame : Bytes) :
    (∀ message, decode frame = .ok message →
      message.encode = .ok (clearReserved frame) ∧
        decode (clearReserved frame) = .ok message) ∧
    ((∃ message, decode frame = .ok message) ↔
      ∃ message : Message, message.encode = .ok (clearReserved frame) ∧
        decode (clearReserved frame) = .ok message) ∧
    (∀ other message, decode frame = .ok message → decode other = .ok message →
      clearReserved other = clearReserved frame ∧
        (∀ index, index ≠ 2 → other[index]? = frame[index]?) ∧
        other[2]?.map (· &&& 0xFC) = frame[2]?.map (· &&& 0xFC)) := by
  have hagain : ∀ message, decode frame = .ok message →
      message.encode = .ok (clearReserved frame) ∧
        decode (clearReserved frame) = .ok message := by
    intro message h
    exact ⟨encode_of_decode h, (decode_clearReserved frame).trans h⟩
  refine ⟨hagain, ⟨?_, ?_⟩, ?_⟩
  · rintro ⟨message, h⟩
    exact ⟨message, hagain message h⟩
  · rintro ⟨message, -, h⟩
    exact ⟨message, (decode_clearReserved frame).symm.trans h⟩
  · intro other message h hother
    have hsame : clearReserved other = clearReserved frame :=
      Except.ok.inj ((encode_of_decode hother).symm.trans (encode_of_decode h))
    refine ⟨hsame, ?_, ?_⟩
    · intro index hindex
      rw [← getElem?_clearReserved other hindex, hsame, getElem?_clearReserved frame hindex]
    · rw [← getElem?_two_clearReserved other, hsame, getElem?_two_clearReserved frame]

/-- A CONNECT with the reserved topic id type, and the one that is written in
its place. -/
theorem accepted_iff_written_connect :
    let request : Connect := ⟨{ cleanSession := true }, 1, 60, "a"⟩
    decode [7, 0x04, 0x07, 1, 0, 60, 97] = .ok (connect request) ∧
      decode [7, 0x04, 0x04, 1, 0, 60, 97] = .ok (connect request) ∧
      (connect request).encode = .ok [7, 0x04, 0x04, 1, 0, 60, 97] ∧
      ∀ index, index ≠ 2 →
        [7, 0x04, 0x04, 1, 0, 60, 97][index]? =
          [7, (0x04 : UInt8), 0x07, 1, 0, 60, 97][index]? := by
  intro request
  have hreserved : decode [7, 0x04, 0x07, 1, 0, 60, 97] = .ok (connect request) := rfl
  have hclear : decode [7, 0x04, 0x04, 1, 0, 60, 97] = .ok (connect request) := rfl
  obtain ⟨hagain, -, hsame⟩ := accepted_iff_written [7, 0x04, 0x07, 1, 0, 60, 97]
  exact ⟨hreserved, hclear, (hagain _ hreserved).1, (hsame _ _ hreserved hclear).2.1⟩

end Message

end SensorGateway.Sensor
