import SensorGateway.Proofs.Broker.Acceptance
import SensorGateway.Proofs.Sensor.RoundTrip

/-!
Messages for which there is a frame. A field of a frame has room for 65535 bytes, and
the whole body for far more than a few such fields, so that only the fields and the
levels of service of a message have to be looked at.
-/

namespace SensorGateway.Broker

def HasRoom (text : String) : Prop := text.utf8ByteSize ≤ Field.maxBlockLength

instance (text : String) : Decidable (HasRoom text) :=
  inferInstanceAs (Decidable (text.utf8ByteSize ≤ Field.maxBlockLength))

theorem length_bytes_le {text : String} (h : HasRoom text) :
    (Text.bytes text).length ≤ Field.maxBlockLength := by
  rw [Text.length_bytes]
  exact h

structure Will.HasRoom (will : Will) : Prop where
  topic : Broker.HasRoom will.topic
  data : will.data.length ≤ Field.maxBlockLength
  qos : will.qos ≤ 2

namespace Message

def Encodable (message : Message) : Prop := ∃ frame, message.encode = .ok frame

/-- Fields that have room for themselves take no more than so many full ones. -/
theorem sum_fields_le {fields : List Bytes}
    (h : ∀ field ∈ fields, field.length ≤ Field.maxBlockLength) :
    (fields.map fun field => 2 + field.length).sum ≤
      fields.length * (2 + Field.maxBlockLength) := by
  induction fields with
  | nil => exact Nat.zero_le _
  | cons field fields ih =>
    obtain ⟨hfirst, hrest⟩ := List.forall_mem_cons.mp h
    have hsum := ih hrest
    rw [List.map_cons, List.sum_cons, List.length_cons, Nat.succ_mul]
    omega

/-- With a few fields and little else the body cannot be too long. -/
theorem encodable_of_parts {message : Message}
    (hfields : ∀ field ∈ message.fields, field.length ≤ Field.maxBlockLength)
    (hlevels : ∀ level ∈ message.levels, level ≤ 2) (hcount : message.fields.length ≤ 4)
    (hplain : message.plainLength ≤ 2 + Field.maxBlockLength) : message.Encodable := by
  refine encode_isOk_iff.mpr ⟨hfields, hlevels, ?_⟩
  have hsum := sum_fields_le hfields
  have hfew := Nat.mul_le_mul_right (2 + Field.maxBlockLength) hcount
  simp only [bodyLength, RemainingLength.max, Field.maxBlockLength] at *
  omega

/-- A message without fields and levels has a frame. -/
theorem encodable_of_none {message : Message} (hfields : message.fields = [])
    (hlevels : message.levels = []) (hplain : message.plainLength ≤ 2) : message.Encodable := by
  refine encodable_of_parts ?_ ?_ ?_ (Nat.le_trans hplain (Nat.le_add_right 2 _))
  · simp [hfields]
  · simp [hlevels]
  · simp [hfields]

theorem encodable_publish {publication : Publish} (htopic : HasRoom publication.topic)
    (hqos : publication.qos ≤ 2) (hdata : publication.data.length ≤ Field.maxBlockLength) :
    (publish publication).Encodable := by
  refine encodable_of_parts ?_ ?_ (by simp [fields]) ?_
  · simpa [fields] using length_bytes_le htopic
  · simpa [levels] using hqos
  · simp only [plainLength, Publish.plainLength]
    split <;> omega

theorem encodable_subscribe (dup : Bool) (msgId : UInt16) {name : String} {level : UInt8}
    (hname : HasRoom name) (hlevel : level ≤ 2) :
    (subscribe dup msgId [(name, level)]).Encodable := by
  refine encodable_of_parts ?_ ?_ (by simp [fields])
    (by simp [plainLength, Field.maxBlockLength])
  · simpa [fields] using length_bytes_le hname
  · simpa [levels] using hlevel

theorem encodable_unsubscribe (dup : Bool) (msgId : UInt16) {name : String} (hname : HasRoom name) :
    (unsubscribe dup msgId [name]).Encodable := by
  refine encodable_of_parts ?_ (by simp [levels]) (by simp [fields]) (by simp [plainLength])
  simpa [fields] using length_bytes_le hname

/-- A CONNECT fits a frame if its texts fit their fields. -/
theorem encodable_connect {request : Connect} (hprotocol : HasRoom request.protocolName)
    (hclientId : HasRoom request.clientId) (hwill : ∀ will, request.will = some will → will.HasRoom)
    (husername : request.username = none) (hpassword : request.password = none) :
    (connect request).Encodable := by
  have hnamed := length_bytes_le hprotocol
  have hknown := length_bytes_le hclientId
  cases hsome : request.will with
  | none =>
    refine encodable_of_parts ?_ ?_ ?_ (by simp [plainLength, Field.maxBlockLength])
    · simp [fields, Connect.fields, Connect.tailFields, hsome, husername, hpassword, hnamed, hknown]
    · simp [levels, Connect.levels, hsome]
    · simp [fields, Connect.fields, Connect.tailFields, hsome, husername, hpassword]
  | some will =>
    obtain ⟨htopic, hdata, hqos⟩ := hwill will hsome
    have htold := length_bytes_le htopic
    refine encodable_of_parts ?_ ?_ ?_ (by simp [plainLength, Field.maxBlockLength])
    · simp [fields, Connect.fields, Connect.tailFields, Will.fields, hsome, husername, hpassword,
        hnamed, hknown, htold, hdata]
    · simp [levels, Connect.levels, hsome, hqos]
    · simp [fields, Connect.fields, Connect.tailFields, Will.fields, hsome, husername, hpassword]

/-- There is room for the topic of a publication that was read of a frame. -/
theorem hasRoom_of_decode {frame : Bytes} {publication : Publish}
    (h : decode frame = .ok (publish publication)) : HasRoom publication.topic := by
  obtain ⟨header, field, body, -, hbody⟩ := decode_eq_ok.mp h
  obtain ⟨htype, hreading⟩ := ofBody_eq_ok.mp hbody
  obtain ⟨written, hwritten, -⟩ := exists_body htype hreading
  have hfields := (publication.writes.succeeds.mp ⟨written, hwritten⟩).1
  have htopic := hfields _ (List.mem_singleton_self _)
  rw [Text.length_bytes] at htopic
  exact htopic

end Message

end SensorGateway.Broker
