import SensorGateway.Sensor.Frame

/-!
Writing a message and reading its frame. Most messages come back as they were,
but the encoder writes some that the reader takes for something else: the kind of
topic in the flags of a subscription is the one of its topic, whatever the flags
say, a topic without flags is left out, and an empty client id cannot be told
from none. `Message.canonical` is what comes back. Where a name is missing that
the reader insists on, nothing comes back at all.
-/

namespace SensorGateway

namespace Text

theorem length_bytes (text : String) : (bytes text).length = text.utf8ByteSize := by
  simp [bytes]

@[simp] theorem bytes_eq_nil {text : String} : bytes text = [] ↔ text = "" := by
  constructor
  · intro h
    have hread := ofBytes?_bytes text
    rw [h] at hread
    exact (Option.some.inj hread).symm
  · rintro rfl
    rfl

end Text

namespace Sensor

/-! ### Fields -/

@[simp] theorem readText_bytes (text : String) : readText (Text.bytes text) = .ok text := by
  simp [readText, Text.ofBytes?_bytes]

/-- A text that is not empty has a first byte. -/
theorem exists_bytes_eq_cons {text : String} (h : text ≠ "") :
    ∃ first rest, Text.bytes text = first :: rest ∧ readText (first :: rest) = .ok text := by
  obtain ⟨first, rest, hbytes⟩ := List.exists_cons_of_ne_nil (mt Text.bytes_eq_nil.mp h)
  exact ⟨first, rest, hbytes, hbytes ▸ readText_bytes text⟩

@[simp] theorem ReturnCode.ofByte_byte (code : ReturnCode) : ofByte code.byte = .ok code := by
  cases code <;> rfl

@[simp] theorem Flags.ofByte_byte (flags : Flags) : ofByte flags.byte = .ok flags := by
  obtain ⟨dup, qos, retain, will, cleanSession, topicIdType⟩ := flags
  cases dup <;> cases qos <;> cases retain <;> cases will <;> cases cleanSession <;>
    cases topicIdType <;> rfl

/-- Lenient reading comes to what strict reading comes to, if that reads the byte at all. -/
theorem Flags.ofByteLenient_eq {byte : UInt8} {flags : Flags} (h : ofByte byte = .ok flags) :
    ofByteLenient byte = flags := by
  unfold ofByte at h
  unfold ofByteLenient
  cases htype : TopicIdType.ofByte (byte &&& 3) with
  | ok type =>
    rw [htype] at h
    exact Except.ok.inj h
  | error error =>
    rw [htype] at h
    cases h

@[simp] theorem Flags.ofByteLenient_byte (flags : Flags) : ofByteLenient flags.byte = flags :=
  ofByteLenient_eq flags.ofByte_byte

theorem TopicRef.ofBytes_bytes (topic : TopicRef) :
    ofBytes topic.idType topic.bytes = .ok topic := by
  cases topic with
  | named topic => simp [ofBytes, bytes, idType, Except.map]
  | predefined id => simp [ofBytes, bytes, idType, Word.bytes, Word.join_bytes]
  | short first second => rfl

/-- Every topic but a name without characters has bytes. -/
theorem TopicRef.bytes_eq_cons {topic : TopicRef} (h : topic ≠ .named "") :
    ∃ first rest, topic.bytes = first :: rest := by
  cases topic with
  | named topic =>
    obtain ⟨first, rest, hbytes, -⟩ := exists_bytes_eq_cons fun hnil => h (congrArg named hnil)
    exact ⟨first, rest, hbytes⟩
  | predefined id => exact ⟨_, _, rfl⟩
  | short first second => exact ⟨_, _, rfl⟩

/-! ### What comes back -/

/-- The kind of topic in the flags is that of the topic. -/
def TopicRequest.canonical (request : TopicRequest) : TopicRequest :=
  { request with flags := { request.flags with topicIdType := request.topic.idType } }

/-- There is no topic without flags. -/
def WillTopic.canonical (will : WillTopic) : WillTopic :=
  match will.flags with
  | none => ⟨none, ""⟩
  | some _ => will

theorem TopicRequest.canonical_eq_iff (request : TopicRequest) :
    request.canonical = request ↔ request.flags.topicIdType = request.topic.idType := by
  obtain ⟨flags, msgId, topic⟩ := request
  cases flags
  simp [canonical, eq_comm]

theorem WillTopic.canonical_eq_iff (will : WillTopic) :
    will.canonical = will ↔ (will.flags = none → will.topic = "") := by
  obtain ⟨flags, topic⟩ := will
  cases flags <;> simp [canonical, eq_comm]

theorem WillTopic.length_bytes (will : WillTopic) :
    will.bytes.length + 2 =
      match will.flags with
      | none => 2
      | some _ => 3 + will.topic.utf8ByteSize := by
  obtain ⟨flags, topic⟩ := will
  cases flags with
  | none => rfl
  | some flags =>
    simp only [bytes, List.length_cons, Text.length_bytes]
    omega

theorem TopicRequest.length_bytes (request : TopicRequest) :
    request.bytes.length + 2 =
      match request.topic with
      | .named topic => 5 + topic.utf8ByteSize
      | .predefined _ | .short .. => 7 := by
  obtain ⟨flags, msgId, topic⟩ := request
  cases topic with
  | named topic =>
    simp only [bytes, TopicRef.bytes, List.length_cons, List.length_append, Word.length_bytes,
      Text.length_bytes]
    omega
  | predefined id => rfl
  | short first second => rfl

namespace Message

/-- What the reader makes of a message that was written, if it takes it. -/
def canonical : Message → Message
  | willTopic will => willTopic will.canonical
  | willTopicUpdate will => willTopicUpdate will.canonical
  | subscribe request => subscribe request.canonical
  | unsubscribe request => unsubscribe request.canonical
  | pingRequest clientId => pingRequest (clientId.filter (· ≠ ""))
  | message => message

def lacksName : Message → Bool
  | connect request => request.clientId = ""
  | register registration => registration.topic = ""
  | subscribe request | unsubscribe request => request.topic = .named ""
  | _ => false

def Canonical : Message → Prop
  | connect request => request.clientId ≠ ""
  | register registration => registration.topic ≠ ""
  | subscribe request | unsubscribe request =>
      request.topic ≠ .named "" ∧ request.flags.topicIdType = request.topic.idType
  | willTopic will | willTopicUpdate will => will.flags = none → will.topic = ""
  | pingRequest clientId => clientId ≠ some ""
  | _ => True

/-- The length of the whole frame, were there room for it in the length byte. -/
def frameLength : Message → Nat
  | willTopicRequest | willMessageRequest | pingResponse => 2
  | searchGateway _ | connack _ | willTopicResponse _ | willMessageResponse _ => 3
  | pubcomp _ | pubrec _ | pubrel _ | unsuback _ => 4
  | advertise .. => 5
  | regack _ | puback _ => 7
  | suback _ => 8
  | gatewayInfo _ address => 3 + address.length
  | connect request => 6 + request.clientId.utf8ByteSize
  | willTopic will | willTopicUpdate will =>
      match will.flags with
      | none => 2
      | some _ => 3 + will.topic.utf8ByteSize
  | willMessage data | willMessageUpdate data => 2 + data.length
  | register registration => 6 + registration.topic.utf8ByteSize
  | publish publication => 7 + publication.data.length
  | subscribe request | unsubscribe request =>
      match request.topic with
      | .named topic => 5 + topic.utf8ByteSize
      | .predefined _ | .short .. => 7
  | pingRequest clientId => 2 + (clientId.map (·.utf8ByteSize)).getD 0
  | disconnect duration => if duration.isSome then 4 else 2

theorem canonical_iff (message : Message) :
    message.Canonical ↔ message.lacksName = false ∧ message.canonical = message := by
  cases message with
  | subscribe request =>
    simp [Canonical, lacksName, canonical, TopicRequest.canonical_eq_iff]
  | unsubscribe request =>
    simp [Canonical, lacksName, canonical, TopicRequest.canonical_eq_iff]
  | willTopic will => simp [Canonical, lacksName, canonical, WillTopic.canonical_eq_iff]
  | willTopicUpdate will => simp [Canonical, lacksName, canonical, WillTopic.canonical_eq_iff]
  | pingRequest clientId =>
    cases clientId <;> simp [Canonical, lacksName, canonical, Option.filter]
  | _ => simp [Canonical, lacksName, canonical]

theorem length_body (message : Message) : message.body.length + 2 = message.frameLength := by
  cases message with
  | willTopic will => exact will.length_bytes
  | willTopicUpdate will => exact will.length_bytes
  | subscribe request => exact request.length_bytes
  | unsubscribe request => exact request.length_bytes
  | pingRequest clientId =>
    cases clientId with
    | none => rfl
    | some clientId =>
      simp only [body, frameLength, Text.length_bytes, Option.map_some, Option.getD_some]
      omega
  | disconnect duration => cases duration <;> rfl
  | gatewayInfo gateway address =>
    simp only [body, frameLength, List.length_cons]
    omega
  | connect request =>
    simp only [body, frameLength, List.length_cons, List.length_append, Word.length_bytes,
      Text.length_bytes]
    omega
  | register registration =>
    simp only [body, frameLength, List.length_append, Word.length_bytes, Text.length_bytes]
    omega
  | publish publication =>
    simp only [body, frameLength, List.length_cons, List.length_append, Word.length_bytes]
    omega
  | willMessage data => exact Nat.add_comm _ _
  | willMessageUpdate data => exact Nat.add_comm _ _
  | _ => rfl

end Message

/-! ### Reading what was written -/

namespace Layout

theorem connect_body {request : Connect} (h : request.clientId ≠ "") :
    connect (Message.connect request).body = .ok request := by
  obtain ⟨first, rest, hbytes, hread⟩ := exists_bytes_eq_cons h
  simp only [Message.body, Word.bytes, hbytes, List.cons_append, List.nil_append, connect, hread,
    Except.map, Flags.ofByteLenient_byte, Word.join_bytes]

theorem connect_body_empty {request : Connect} (h : request.clientId = "") :
    connect (Message.connect request).body =
      .error (.tooShort MessageType.connect.name (Message.connect request).frameLength) := by
  obtain ⟨flags, protocolId, duration, clientId⟩ := request
  change clientId = "" at h
  subst h
  rfl

theorem register_body {registration : Register} (h : registration.topic ≠ "") :
    register (Message.register registration).body = .ok registration := by
  obtain ⟨first, rest, hbytes, hread⟩ := exists_bytes_eq_cons h
  simp only [Message.body, Word.bytes, hbytes, List.cons_append, List.nil_append, register, hread,
    Except.map, Word.join_bytes]

theorem register_body_empty {registration : Register} (h : registration.topic = "") :
    register (Message.register registration).body =
      .error (.tooShort MessageType.register.name
        (Message.register registration).frameLength) := by
  obtain ⟨topicId, msgId, topic⟩ := registration
  change topic = "" at h
  subst h
  rfl

theorem topicRequest_bytes (type : MessageType) {request : TopicRequest}
    (h : request.topic ≠ .named "") : topicRequest type request.bytes = .ok request.canonical := by
  obtain ⟨first, rest, hbytes⟩ := TopicRef.bytes_eq_cons h
  have hread := TopicRef.ofBytes_bytes request.topic
  rw [hbytes] at hread
  simp only [TopicRequest.bytes, Word.bytes, hbytes, List.cons_append, List.nil_append,
    topicRequest, Flags.ofByte_byte, hread, Word.join_bytes, bind, Except.bind, pure, Except.pure,
    TopicRequest.canonical]

theorem topicRequest_bytes_empty (type : MessageType) {request : TopicRequest}
    (h : request.topic = .named "") :
    topicRequest type request.bytes = .error (.tooShort type.name 5) := by
  obtain ⟨flags, msgId, topic⟩ := request
  change topic = .named "" at h
  subst h
  rfl

@[simp] theorem returnCode_byte (type : MessageType) (code : ReturnCode) :
    returnCode type [code.byte] = .ok code :=
  code.ofByte_byte

@[simp] theorem topicAck_bytes (type : MessageType) (ack : TopicAck) :
    topicAck type ack.bytes = .ok ack := by
  simp [topicAck, TopicAck.bytes, Word.bytes, Word.join_bytes, Except.map]

@[simp] theorem word_bytes (type : MessageType) (value : UInt16) :
    word type (Word.bytes value) = .ok value := by
  simp [word, Word.bytes, Word.join_bytes]

@[simp] theorem publish_body (publication : Publish) :
    publish (Message.publish publication).body = .ok publication := by
  simp [publish, Message.body, Word.bytes, Word.join_bytes, Except.map]

@[simp] theorem suback_body (ack : Suback) : suback (Message.suback ack).body = .ok ack := by
  simp [suback, Message.body, Word.bytes, Word.join_bytes, bind, Except.bind, pure, Except.pure]

@[simp] theorem pingRequest_body (clientId : Option String) :
    pingRequest (Message.pingRequest clientId).body = .ok (clientId.filter (· ≠ "")) := by
  cases clientId with
  | none => rfl
  | some clientId =>
    by_cases h : clientId = ""
    · subst h
      rfl
    · obtain ⟨first, rest, hbytes, hread⟩ := exists_bytes_eq_cons h
      simp [Message.body, hbytes, pingRequest, hread, Except.map, Option.filter, h]

@[simp] theorem disconnect_body (duration : Option UInt16) :
    disconnect (Message.disconnect duration).body = .ok duration := by
  cases duration with
  | none => rfl
  | some duration => simp [Message.body, Word.bytes, disconnect, word, Word.join_bytes, Except.map]

end Layout

@[simp] theorem WillTopic.ofBytes_bytes (will : WillTopic) :
    ofBytes will.bytes = .ok will.canonical := by
  obtain ⟨flags, topic⟩ := will
  cases flags with
  | none => rfl
  | some flags => simp [bytes, ofBytes, Except.map, canonical]

namespace Message

theorem ofBody_body (message : Message) :
    ofBody message.type message.body =
      if message.lacksName then .error (.tooShort message.type.name message.frameLength)
      else .ok message.canonical := by
  cases message with
  | connect request =>
    by_cases h : request.clientId = ""
    · simp [ofBody, type, lacksName, h, Layout.connect_body_empty h, Except.map]
    · simp [ofBody, type, lacksName, h, Layout.connect_body h, Except.map, canonical]
  | register registration =>
    by_cases h : registration.topic = ""
    · simp [ofBody, type, lacksName, h, Layout.register_body_empty h, Except.map]
    · simp [ofBody, type, lacksName, h, Layout.register_body h, Except.map, canonical]
  | subscribe request =>
    by_cases h : request.topic = .named ""
    · simp [ofBody, type, lacksName, body, Layout.topicRequest_bytes_empty _ h, Except.map, h,
        frameLength]
    · simp [ofBody, type, lacksName, body, Layout.topicRequest_bytes _ h, Except.map, h, canonical]
  | unsubscribe request =>
    by_cases h : request.topic = .named ""
    · simp [ofBody, type, lacksName, body, Layout.topicRequest_bytes_empty _ h, Except.map, h,
        frameLength]
    · simp [ofBody, type, lacksName, body, Layout.topicRequest_bytes _ h, Except.map, h, canonical]
  | advertise gateway duration =>
    simp [ofBody, type, lacksName, body, canonical, Word.bytes, Word.join_bytes]
  | pingRequest clientId => simp [ofBody, type, lacksName, canonical, Except.map]
  | publish publication => simp [ofBody, type, lacksName, canonical, Except.map]
  | suback ack => simp [ofBody, type, lacksName, canonical, Except.map]
  | disconnect duration => simp [ofBody, type, lacksName, canonical, Except.map]
  | gatewayInfo gateway address => rfl
  | willTopicRequest => rfl
  | willMessageRequest => rfl
  | pingResponse => rfl
  | _ => simp [ofBody, type, lacksName, body, canonical, Except.map]

/-- A frame that fits is read up to its body. -/
theorem decode_frame (message : Message) (h : message.frameLength ≤ maxFrameLength) :
    decode (UInt8.ofNat message.frameLength :: message.type.byte :: message.body) =
      ofBody message.type message.body := by
  have hlength : (UInt8.ofNat message.frameLength).toNat =
      (UInt8.ofNat message.frameLength :: message.type.byte :: message.body).length := by
    have hbody := message.length_body
    simp only [maxFrameLength] at h
    simp only [UInt8.toNat_ofNat', List.length_cons]
    omega
  unfold decode
  simp only [hlength, ne_eq, not_true_eq_false, if_false, MessageType.ofByte?_byte]

/-- A message that is short enough has a frame. -/
theorem exists_frame (message : Message) (h : message.frameLength ≤ maxFrameLength) :
    ∃ frame, message.encode = .ok frame ∧ frame.length = message.frameLength ∧
      decode frame =
        if message.lacksName then .error (.tooShort message.type.name message.frameLength)
        else .ok message.canonical := by
  have hshort : ¬ message.frameLength > maxFrameLength := Nat.not_lt.mpr h
  refine ⟨UInt8.ofNat message.frameLength :: message.type.byte :: message.body, ?_,
    message.length_body, (message.decode_frame h).trans message.ofBody_body⟩
  simp only [encode, length_body, hshort, if_false]

/-- What writing a message and reading its frame comes to, whatever the message.
There is a frame if it is short enough, and it is read as the canonical form of
the message, or not at all if a name is missing. So a message comes back exactly
if it is canonical. -/
theorem decode_encode (message : Message) :
    match message.encode with
    | .ok frame =>
        message.frameLength ≤ 255 ∧ frame.length = message.frameLength ∧
        (decode frame = .ok message ↔ message.Canonical) ∧
        decode frame =
          if message.lacksName then .error (.tooShort message.type.name message.frameLength)
          else .ok message.canonical
    | .error error => 255 < message.frameLength ∧ error = .frameTooLong message.frameLength := by
  unfold encode
  simp only [length_body]
  split
  next frame hframe =>
    split at hframe
    · cases hframe
    next hshort =>
      have hfits : message.frameLength ≤ maxFrameLength := Nat.not_lt.mp hshort
      rw [← Except.ok.inj hframe]
      have hdecode := (message.decode_frame hfits).trans message.ofBody_body
      refine ⟨hfits, message.length_body, ?_, hdecode⟩
      rw [hdecode, canonical_iff]
      cases message.lacksName with
      | true => simp
      | false => simp
  next error herror =>
    split at herror
    next hlong => exact ⟨hlong, (Except.error.inj herror).symm⟩
    · cases herror

end Message

end Sensor

end SensorGateway
