import SensorGateway.Proofs.Broker.Encodable
import SensorGateway.Proofs.Config.Validation
import SensorGateway.Proofs.Sensor.Acceptance
import SensorGateway.Proofs.Session.Deliveries
import SensorGateway.Proofs.Session.Speech

/-!
Why a session hands no message to its broker link for which there is no frame. What
goes into such a message comes from frames of the device, which are short, from names
that the broker publishes under, and from the configuration. Nothing but the length of
what is configured could be too much, and no check looks at it. `Sendable` says that all
that a session keeps has room in a frame, and every turn leaves it so.
-/

namespace SensorGateway

open Broker (HasRoom)

/-- Whether what is configured for the broker has room in the fields of a frame. -/
structure Config.FitsFields (config : Config) : Prop where
  protocolName : HasRoom config.connect.protocolName
  will : config.connect.willFlag = true →
    HasRoom config.connect.willTopic ∧ HasRoom config.connect.willMessage
  topics : ∀ topic ∈ config.predefinedTopics, HasRoom topic.name

/-- The names with which every session begins are the configured ones. -/
theorem Config.FitsFields.hasRoom_topicTable {config : Config} (h : config.FitsFields)
    {name : String}
    (hin : config.topicTable.Holds name) : HasRoom name := by
  obtain ⟨id, hentry⟩ := Topic.Table.holds_ofPredefined hin
  obtain ⟨topic, htopic, heq⟩ := List.mem_map.mp hentry
  cases heq
  exact h.topics topic htopic

namespace Sensor.Message

/-- Whether the texts and the data of a message that may go on to a broker have room in
the fields of a frame. -/
def FitsFields : Message → Prop
  | connect request => HasRoom request.clientId
  | willTopic will => HasRoom will.topic
  | willMessage data => data.length ≤ Broker.Field.maxBlockLength
  | register registration => HasRoom registration.topic
  | publish publication => publication.data.length ≤ Broker.Field.maxBlockLength
  | subscribe request | unsubscribe request => ∀ name, request.topic = .named name → HasRoom name
  | _ => True

/-- The frames of devices are so short that everything in them has room. -/
theorem fitsFields_of_decode {frame : Bytes} {message : Message}
    (h : decode frame = .ok message) : message.FitsFields := by
  obtain ⟨hshort, hcanonical⟩ := canonical_of_decode h
  simp only [maxFrameLength] at hshort
  cases message with
  | connect request =>
    simp only [frameLength] at hshort
    simp only [FitsFields, HasRoom, Broker.Field.maxBlockLength]
    omega
  | willTopic will =>
    simp only [FitsFields, HasRoom, Broker.Field.maxBlockLength]
    cases hflags : will.flags with
    | none =>
      have hnone : will.topic = "" := hcanonical hflags
      simp [hnone]
    | some flags =>
      simp only [frameLength, hflags] at hshort
      omega
  | willMessage data =>
    simp only [frameLength] at hshort
    simp only [FitsFields, Broker.Field.maxBlockLength]
    omega
  | register registration =>
    simp only [frameLength] at hshort
    simp only [FitsFields, HasRoom, Broker.Field.maxBlockLength]
    omega
  | publish publication =>
    simp only [frameLength] at hshort
    simp only [FitsFields, Broker.Field.maxBlockLength]
    omega
  | subscribe request =>
    intro name hname
    simp only [frameLength, hname] at hshort
    simp only [HasRoom, Broker.Field.maxBlockLength]
    omega
  | unsubscribe request =>
    intro name hname
    simp only [frameLength, hname] at hshort
    simp only [HasRoom, Broker.Field.maxBlockLength]
    omega
  | _ => exact trivial

end Sensor.Message

/-- A short name is two bytes, or two characters at most in place of them. -/
theorem hasRoom_ofPairLossy (first second : UInt8) : HasRoom (Text.ofPairLossy first second) := by
  have hsize (char : Char) : char.utf8Size ≤ 4 := char.utf8Size_le_four
  unfold Text.ofPairLossy
  split
  next text htext =>
    have hbytes := congrArg List.length (Text.bytes_of_ofBytes? htext)
    rw [Text.length_bytes] at hbytes
    rw [HasRoom, hbytes]
    exact (by decide : 2 ≤ Broker.Field.maxBlockLength)
  next =>
    have hpair (one other : Char) : HasRoom (String.ofList [one, other]) := by
      have hone := hsize one
      have hother := hsize other
      simp only [HasRoom, Broker.Field.maxBlockLength]
      simp
      omega
    simp only
    split
    · decide
    · exact hpair _ _

namespace Session

def Input.FitsFields : Input → Prop
  | sensor _ message _ => message.FitsFields
  | broker (.publish publication) => HasRoom publication.topic
  | broker _ | signal _ => True

/-- Whether the names that a connected session may come to know have room in a frame. -/
structure Exchanges.Sendable (exchanges : Exchanges) : Prop where
  offered : ∀ registration, exchanges.registration = some registration →
    HasRoom registration.publication.topic
  asked : ∀ request name, exchanges.subscribe = some request → request.topic = .named name →
    HasRoom name

def Phase.Sendable : Phase → Prop
  | idle | awaitingConnack => True
  | awaitingWillTopic request _ => HasRoom request.clientId
  | awaitingWillMessage request will _ => HasRoom request.clientId ∧ HasRoom will.topic
  | connected exchanges => exchanges.Sendable

structure Sendable (session : Session) : Prop where
  names : ∀ name, session.topics.Holds name → HasRoom name
  phase : session.phase.Sendable

variable {config : Config} {context : Context} {input : Input} {session : Session}
variable {t next : Transition} {exchanges : Exchanges}

theorem sendable_fresh (hconfig : context.config.FitsFields) (address : Address) :
    (fresh context address).Sendable :=
  ⟨fun _ => hconfig.hasRoom_topicTable, trivial⟩

/-! ### What a turn leaves behind -/

theorem Exchanges.sendable_empty : ({} : Exchanges).Sendable := ⟨nofun, nofun⟩

theorem sendable_of_connected (hphase : t.session.phase = .connected exchanges)
    (h : t.session.phase.Sendable) : exchanges.Sendable := by
  rw [hphase] at h
  exact h

theorem Asked.sendable {request : Broker.Connect} (h : Asked context request t next) :
    next.session.phase.Sendable := by
  rcases h.phase with hphase | hphase <;> rw [hphase] <;> exact trivial

theorem Establishing.sendable (hdeed : Establishing context input t next)
    (hinput : input.FitsFields) (h : t.session.phase.Sendable) :
    next.session.phase.Sendable := by
  cases hdeed with
  | wish heard _ _ hnext =>
    rw [heard] at hinput
    rw [hnext]
    exact hinput
  | ask _ _ _ hasked => exact hasked.sendable
  | willTopic heard hphase hnext =>
    rw [heard] at hinput
    rw [hphase] at h
    rw [hnext]
    exact ⟨h, hinput⟩
  | willMessage _ _ hasked => exact hasked.sendable
  | retryTopic _ hphase hnext =>
    rw [hphase] at h
    rw [hnext]
    exact h
  | retryMessage _ hphase hnext =>
    rw [hphase] at h
    rw [hnext]
    exact h
  | giveUp _ _ hnext =>
    rw [hnext]
    exact trivial

theorem Delivering.sendable (hdeed : Delivering context input t next)
    (hinput : input.FitsFields) (h : t.session.phase.Sendable) :
    next.session.phase.Sendable := by
  cases hdeed with
  | atOnce _ hphase _ hnext =>
    rw [hnext, Transition.session_toDevice]
    exact h
  | offer heard hphase _ hfree hroom hnext =>
    rw [heard] at hinput
    obtain ⟨-, hasked⟩ := sendable_of_connected hphase h
    rw [hnext, Transition.offerTopic_eq _ hfree hroom]
    refine ⟨fun registration hsome => ?_, hasked⟩
    cases hsome
    exact hinput
  | bind _ hphase _ _ _ hnext =>
    obtain ⟨-, hasked⟩ := sendable_of_connected hphase h
    rw [hnext, Transition.session_toDevice]
    exact ⟨nofun, hasked⟩
  | repeatOffer _ hphase hsome _ hnext =>
    obtain ⟨hoffered, hasked⟩ := sendable_of_connected hphase h
    have hsame := hoffered _ hsome
    rw [hnext]
    refine ⟨fun registration hagain => ?_, hasked⟩
    cases hagain
    exact hsame
  | endOffer hphase _ hnext =>
    obtain ⟨-, hasked⟩ := sendable_of_connected hphase h
    rw [hnext]
    exact ⟨nofun, hasked⟩

theorem Requesting.sendable (hdeed : Requesting context input t next)
    (hinput : input.FitsFields) (h : t.session.phase.Sendable) :
    next.session.phase.Sendable := by
  cases hdeed with
  | publish _ hphase _ _ _ _ _ hnext =>
    obtain ⟨hoffered, hasked⟩ := sendable_of_connected hphase h
    rw [hnext]
    exact ⟨hoffered, hasked⟩
  | subscribe heard hphase _ _ hnext =>
    rw [heard] at hinput
    obtain ⟨hoffered, -⟩ := sendable_of_connected hphase h
    rw [hnext]
    refine ⟨hoffered, fun request name hsome hname => ?_⟩
    cases hsome
    exact hinput name hname
  | unsubscribe _ hphase _ _ hnext =>
    obtain ⟨hoffered, hasked⟩ := sendable_of_connected hphase h
    rw [hnext]
    exact ⟨hoffered, hasked⟩
  | confirmPublish _ hphase _ hnext =>
    obtain ⟨hoffered, hasked⟩ := sendable_of_connected hphase h
    rw [hnext, Transition.session_toDevice]
    exact ⟨hoffered, hasked⟩
  | confirmSubscribe _ hphase _ hnext =>
    obtain ⟨hoffered, -⟩ := sendable_of_connected hphase h
    rw [hnext, Transition.session_toDevice]
    exact ⟨hoffered, nofun⟩
  | confirmUnsubscribe _ hphase _ hnext =>
    obtain ⟨hoffered, hasked⟩ := sendable_of_connected hphase h
    rw [hnext, Transition.session_toDevice]
    exact ⟨hoffered, hasked⟩

/-- Whatever a session does, what it keeps has room in a frame. -/
theorem Deed.sendable (hdeed : Deed context input t next) (hinput : input.FitsFields)
    (h : t.session.phase.Sendable) : next.session.phase.Sendable := by
  cases hdeed with
  | quiet hquiet =>
    rw [hquiet.phase]
    exact h
  | tearDown _ hnext =>
    rw [hnext]
    exact trivial
  | refuse _ hnext =>
    rw [hnext, Transition.refuse, Transition.session_toDevice]
    exact h
  | accept _ _ hnext =>
    rw [hnext, Transition.session_toDevice]
    exact Exchanges.sendable_empty
  | establish hdeed => exact hdeed.sendable hinput h
  | deliver hdeed => exact hdeed.sendable hinput h
  | request hdeed => exact hdeed.sendable hinput h

theorem Sendable.sendable_exchanges (h : session.Sendable) : session.exchanges.Sendable := by
  have hphase := h.phase
  unfold Session.exchanges
  split
  next exchanges hconnected =>
    rw [hconnected] at hphase
    exact hphase
  next => exact Exchanges.sendable_empty

/-- The names that a session learns have room in a frame. -/
theorem Learns.hasRoom {name : String} (hlearns : Learns input session name)
    (hinput : input.FitsFields) (h : session.Sendable) : HasRoom name := by
  cases hlearns with
  | register heard =>
    rw [heard] at hinput
    exact hinput
  | grant hsome htopic => exact h.sendable_exchanges.asked _ _ hsome htopic
  | bind hsome => exact h.sendable_exchanges.offered _ hsome

theorem Sendable.hear (h : session.Sendable) (config : Config) (turn : Turn) :
    (session.hear config turn).Sendable := by
  refine ⟨fun name hin => ?_, ?_⟩
  · rw [topics_hear] at hin
    exact h.names name hin
  · rw [phase_hear]
    exact h.phase

/-- A turn leaves a session with nothing that has no room in a frame. -/
theorem Sendable.take (h : session.Sendable) (config : Config) {turn : Turn}
    (hinput : turn.input.FitsFields) : (session.take config turn).session.Sendable := by
  have hheard := h.hear config turn
  have hspeaks := take_speaks config turn session
  refine ⟨fun name hin => ?_, (take_deed config turn session).sendable hinput hheard.phase⟩
  rcases hspeaks.learned name hin with hold | hnew
  · exact hheard.names name hold
  · exact hnew.hasRoom hinput hheard

/-! ### What a turn hands to the broker link -/

theorem brokerLevel_le (qos : Sensor.QoS) : brokerLevel qos ≤ 2 := by
  cases qos <;> decide

/-- A name has room if all names of the table have: the others are short. -/
theorem hasRoom_resolve {table : Topic.Table} {type : Sensor.TopicIdType} {id : UInt16}
    {name : String} (hnames : ∀ name, table.Holds name → HasRoom name)
    (h : table.resolve? type id = some name) : HasRoom name := by
  cases type with
  | normal =>
    simp only [Topic.Table.resolve?] at h
    split at h
    · cases h
    · exact hnames name (Topic.Table.holds_of_name? h)
  | predefined =>
    simp only [Topic.Table.resolve?] at h
    split at h
    · exact hnames name (Topic.Table.holds_of_name? h)
    · cases h
  | short =>
    cases h
    exact hasRoom_ofPairLossy _ _

theorem hasRoom_resolveRef {table : Topic.Table} {topic : Sensor.TopicRef} {name : String}
    (hnames : ∀ name, table.Holds name → HasRoom name)
    (htopic : ∀ name, topic = .named name → HasRoom name)
    (h : table.resolveRef? topic = some name) : HasRoom name := by
  cases topic with
  | named full =>
    cases h
    exact htopic _ rfl
  | predefined id =>
    have hresolves : table.resolve? .predefined id = some name := h
    exact hasRoom_resolve hnames hresolves
  | short first second =>
    cases h
    exact hasRoom_ofPairLossy first second

theorem brokerWill_hasRoom {will : Sensor.WillTopic} {data : Bytes} (htopic : HasRoom will.topic)
    (hdata : data.length ≤ Broker.Field.maxBlockLength) {merged : Broker.Will}
    (h : brokerWill will data = some merged) : merged.HasRoom := by
  unfold brokerWill at h
  simp only at h
  split at h
  · cases h
  · cases h
    exact ⟨htopic, hdata, brokerLevel_le _⟩

theorem encodable_brokerConnect (hprotocol : HasRoom context.config.connect.protocolName)
    {request : Sensor.Connect} (hclientId : HasRoom request.clientId) {will : Option Broker.Will}
    (hwill : ∀ merged, will = some merged → merged.HasRoom) :
    (Broker.Message.connect (brokerConnect context request will)).Encodable :=
  Broker.Message.encodable_connect hprotocol hclientId hwill rfl rfl

theorem encodable_of_isPlain {message : Broker.Message} (h : message.isPlain = true) :
    message.Encodable := by
  cases message with
  | puback msgId => exact Broker.Message.encodable_of_none rfl rfl (Nat.le_refl 2)
  | pubrec msgId => exact Broker.Message.encodable_of_none rfl rfl (Nat.le_refl 2)
  | pubrel msgId => exact Broker.Message.encodable_of_none rfl rfl (Nat.le_refl 2)
  | pubcomp msgId => exact Broker.Message.encodable_of_none rfl rfl (Nat.le_refl 2)
  | pingRequest => exact Broker.Message.encodable_of_none rfl rfl (Nat.zero_le 2)
  | pingResponse => exact Broker.Message.encodable_of_none rfl rfl (Nat.zero_le 2)
  | disconnect => exact Broker.Message.encodable_of_none rfl rfl (Nat.zero_le 2)
  | _ => cases h

/-- For every message that a session may hand to its broker link there is a frame. -/
theorem Hands.encodable {message : Broker.Message} (hhands : Hands context input session message)
    (hconfig : context.config.FitsFields) (hinput : input.FitsFields) (h : session.Sendable) :
    message.Encodable := by
  cases hhands with
  | plain hplain => exact encodable_of_isPlain hplain
  | connect heard =>
    rw [heard] at hinput
    exact encodable_brokerConnect hconfig.protocolName hinput nofun
  | connectWithWill heard hphase =>
    rw [heard] at hinput
    obtain ⟨hclientId, htopic⟩ : _ ∧ _ := hphase ▸ h.phase
    exact encodable_brokerConnect hconfig.protocolName hclientId fun merged =>
      brokerWill_hasRoom htopic hinput
  | publish heard htopic =>
    rw [heard] at hinput
    exact Broker.Message.encodable_publish (hasRoom_resolve h.names htopic)
      (brokerLevel_le _) hinput
  | subscribe heard hname =>
    rw [heard] at hinput
    exact Broker.Message.encodable_subscribe _ _ (hasRoom_resolveRef h.names hinput hname)
      (brokerLevel_le _)
  | unsubscribe heard hname =>
    rw [heard] at hinput
    exact Broker.Message.encodable_unsubscribe _ _ (hasRoom_resolveRef h.names hinput hname)

/-- All that is handed to the broker in a turn has a frame. -/
theorem Sendable.encodable (h : session.Sendable) (hconfig : config.FitsFields) {turn : Turn}
    (hinput : turn.input.FitsFields) :
    ∀ message ∈ (session.take config turn).handed, message.Encodable := by
  intro message hin
  have hhands := (take_speaks config turn session).handed message hin
  exact hhands.encodable hconfig hinput (h.hear config turn)

end Session

end SensorGateway
