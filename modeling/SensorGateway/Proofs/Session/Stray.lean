import SensorGateway.Proofs.Session.Deeds
import SensorGateway.Proofs.Session.Handshakes
import SensorGateway.Proofs.Session.Timeouts

/-!
Messages that come at the wrong time. What a device may say depends on how far it has come,
an answer counts only if it is waited for and bears the number of the request, and there is
one request of a kind at a time. `Ledger.Stray` lists what comes out of sequence, by the marks
that are set and the messages that are kept. `take_of_stray` says that a session passes over
it: the device was heard, and nothing else is different afterwards. If the device acts as if
it were connected it is told that it is not.
-/

namespace SensorGateway

def Sensor.Message.needsConnection : Message → Bool
  | register _ | regack _ | puback _ | pubrec _ | pubrel _ | pubcomp _ => true
  | publish publication => publication.flags.qos != .minusOne
  | subscribe _ | unsubscribe _ | pingRequest _ | pingResponse => true
  | _ => false

def Sensor.Message.isOfGateway : Message → Bool
  | advertise .. | gatewayInfo .. | connack _ | willTopicRequest | willMessageRequest => true
  | suback _ | unsuback _ | willTopicResponse _ | willMessageResponse _ => true
  | _ => false

def Broker.Message.isOfClient : Message → Bool
  | connect _ | subscribe .. | unsubscribe .. | disconnect => true
  | _ => false

namespace Session

def Marks.isSet (marks : Marks) : Handshake → Bool
  | .willTopic => marks.willTopic
  | .willMessage => marks.willMessage
  | .connack => marks.connack
  | .regack => marks.regack
  | .suback => marks.suback
  | .unsuback => marks.unsuback
  | .puback => marks.puback

/-- The number of the request that an answer is for, if it bears one. -/
def Kept.msgId? (kept : Kept) : Handshake → Option UInt16
  | .regack => kept.register.map (·.msgId)
  | .suback => kept.subscribe.map (·.msgId)
  | .unsuback => kept.unsubscribe.map (·.msgId)
  | .puback => kept.publish.map (·.msgId)
  | .willTopic | .willMessage | .connack => none

def Exchanges.msgId? (exchanges : Exchanges) : Handshake → Option UInt16
  | .regack => exchanges.registration.map (·.msgId)
  | .suback => exchanges.subscribe.map (·.msgId)
  | .unsuback => exchanges.unsubscribe.map (·.msgId)
  | .puback => exchanges.publish.map (·.msgId)
  | .willTopic | .willMessage | .connack => none

def Input.answer? : Input → Option Handshake
  | .sensor _ (.willTopic _) _ => some .willTopic
  | .sensor _ (.willMessage _) _ => some .willMessage
  | .sensor _ (.regack _) _ => some .regack
  | .broker (.connack _) => some .connack
  | .broker (.suback ..) => some .suback
  | .broker (.unsuback _) => some .unsuback
  | .broker (.puback _) => some .puback
  | _ => none

def Input.answered? : Input → Option UInt16
  | .sensor _ (.regack ack) _ => some ack.msgId
  | .broker (.suback msgId _) => some msgId
  | .broker (.unsuback msgId) => some msgId
  | .broker (.puback msgId) => some msgId
  | _ => none

/-- The answer of the broker that a request of the device leads to, if there is to be only
one such request at a time. -/
def Input.request? : Input → Option Handshake
  | .sensor _ (.publish publication) _ =>
      if publication.flags.qos = .atLeastOnce then some .puback else none
  | .sensor _ (.subscribe _) _ => some .suback
  | .sensor _ (.unsubscribe _) _ => some .unsuback
  | _ => none

namespace Ledger

/-- What comes out of sequence. -/
inductive Stray (ledger : Ledger) : Input → Prop where
  /-- What only a connected device may say. -/
  | unconnected {seen : Address} {message : Sensor.Message} {link : LinkName}
      (hneeds : message.needsConnection = true) (hnot : ledger.isConnected = false) :
      Stray ledger (.sensor seen message link)
  /-- The device leaves although it is not there. -/
  | absent {seen : Address} {duration : Option UInt16} {link : LinkName}
      (hnot : ledger.isConnected = false) (hidle : ledger.marks.isEstablishing = false) :
      Stray ledger (.sensor seen (.disconnect duration) link)
  | unasked {input : Input} {handshake : Handshake} (hanswer : input.answer? = some handshake)
      (hclear : ledger.marks.isSet handshake = false) : Stray ledger input
  /-- The answer to another request than the one that waits for it. -/
  | misnumbered {input : Input} {handshake : Handshake} {msgId : UInt16}
      (hanswer : input.answer? = some handshake) (hnumber : input.answered? = some msgId)
      (hother : ledger.kept.msgId? handshake ≠ some msgId) : Stray ledger input
  /-- A request while another one of its kind waits for the answer. -/
  | another {input : Input} {handshake : Handshake} (hrequest : input.request? = some handshake)
      (hset : ledger.marks.isSet handshake = true) : Stray ledger input
  /-- A publication for which an id would have to be offered, while another one is. -/
  | offering {publication : Broker.Publish}
      (hunmapped : ledger.topics.reference? publication.topic = none)
      (hset : ledger.marks.isSet .regack = true) : Stray ledger (.broker (.publish publication))
  /-- What the broker says before it has taken the connection, or after its end. -/
  | unheard {message : Broker.Message} (hother : ∀ code, message ≠ .connack code)
      (hnot : ledger.isConnected = false) : Stray ledger (.broker message)
  | ofGateway {seen : Address} {message : Sensor.Message} {link : LinkName}
      (hgateway : message.isOfGateway = true) : Stray ledger (.sensor seen message link)
  | ofClient {message : Broker.Message} (hclient : message.isOfClient = true) :
      Stray ledger (.broker message)
  /-- The timeout of an answer that is not waited for. -/
  | late {handshake : Handshake} {signal : Signal} (htimeout : handshake.timeout? = some signal)
      (hclear : ledger.marks.isSet handshake = false) : Stray ledger (.signal signal)

/-- The ledger with which a turn begins: a device that was heard is known to be alive, and to
be reached over this link. -/
def hear (config : Config) (turn : Turn) (ledger : Ledger) : Ledger :=
  match turn.input with
  | .sensor seen _ link =>
      { ledger with
        address := ledger.address.refresh seen
        deadline := (turn.context config).deadline
        link := some link }
  | .broker _ => { ledger with deadline := (turn.context config).deadline }
  | .signal _ => ledger

/-- What a device is told that wrongly acts as if it were connected. -/
def rebuff (ledger : Ledger) : Input → List Effect
  | .sensor seen message link =>
      if message.needsConnection && !ledger.isConnected then
        [.device link (ledger.address.refresh seen) (.disconnect none)]
      else []
  | .broker _ | .signal _ => []

end Ledger

/-! ### Sessions and their ledgers -/

theorem ledger_isSet (session : Session) (handshake : Handshake) :
    session.ledger.marks.isSet handshake = session.awaits handshake := by
  cases handshake <;> rfl

theorem ledger_isConnected (session : Session) :
    session.ledger.isConnected = session.phase.isConnected := by
  rw [Bool.eq_iff_iff, ← ledger_state]
  exact beq_iff_eq

/-- A ledger shows that nothing is going on. -/
theorem phase_of_quiet {session : Session} (hnot : session.ledger.isConnected = false)
    (hidle : session.ledger.marks.isEstablishing = false) : session.phase = .idle := by
  rw [ledger_isConnected] at hnot
  rw [ledger_marks] at hidle
  cases hphase : session.phase with
  | idle => rfl
  | connected exchanges => rw [hphase] at hnot; cases hnot
  | _ => rw [hphase] at hidle; cases hidle

theorem ledger_msgId? (session : Session) (handshake : Handshake) :
    session.ledger.kept.msgId? handshake = session.exchanges.msgId? handshake := by
  rw [ledger_kept, Session.exchanges]
  cases session.phase with
  | connected exchanges =>
    cases handshake with
    | regack =>
      rw [Kept.msgId?, Exchanges.msgId?, Phase.kept, Option.map_map]
      rfl
    | _ => rfl
  | _ => cases handshake <;> rfl

/-- An answer that is not waited for has no request whose number it could bear. -/
theorem msgId?_of_unasked {session : Session} {handshake : Handshake}
    (h : session.awaits handshake = false) : session.exchanges.msgId? handshake = none := by
  cases handshake with
  | regack | suback | unsuback | puback =>
    have hnone := Option.isNone_iff_eq_none.mp (Option.isSome_eq_false_iff.mp h)
    exact Option.map_eq_none_iff.mpr hnone
  | willTopic | willMessage | connack => rfl

/-- A ledger hears what its session hears. -/
theorem ledger_hear (config : Config) (turn : Turn) (session : Session) :
    (session.hear config turn).ledger = session.ledger.hear config turn := by
  unfold hear Ledger.hear
  cases turn.input with
  | sensor seen message link => exact (ledger_heard session seen link _).symm
  | broker message => exact (ledger_alive session _).symm
  | signal signal => rfl

/-- That the device was heard makes nothing come in sequence. -/
theorem Ledger.Stray.hear {ledger : Ledger} {input : Input} (h : ledger.Stray input)
    (config : Config) (turn : Turn) : (ledger.hear config turn).Stray input := by
  have hsame : (ledger.hear config turn).isConnected = ledger.isConnected ∧
      (ledger.hear config turn).marks = ledger.marks ∧
      (ledger.hear config turn).kept = ledger.kept ∧
      (ledger.hear config turn).topics = ledger.topics := by
    unfold Ledger.hear Ledger.isConnected
    split <;> exact ⟨rfl, rfl, rfl, rfl⟩
  obtain ⟨hstate, hmarks, hkept, htopics⟩ := hsame
  cases h with
  | unconnected hneeds hnot => exact .unconnected hneeds (hstate.trans hnot)
  | absent hnot hidle => exact .absent (hstate.trans hnot) (hmarks ▸ hidle)
  | unasked hanswer hclear => exact .unasked hanswer (hmarks ▸ hclear)
  | misnumbered hanswer hnumber hother => exact .misnumbered hanswer hnumber (hkept ▸ hother)
  | another hrequest hset => exact .another hrequest (hmarks ▸ hset)
  | offering hunmapped hset => exact .offering (htopics ▸ hunmapped) (hmarks ▸ hset)
  | unheard hother hnot => exact .unheard hother (hstate.trans hnot)
  | ofGateway hgateway => exact .ofGateway hgateway
  | ofClient hclient => exact .ofClient hclient
  | late htimeout hclear => exact .late htimeout (hmarks ▸ hclear)

/-- No look at how long the device has been silent is out of sequence. -/
theorem Ledger.Stray.stays {ledger : Ledger} {signal : Signal}
    (h : ledger.Stray (.signal signal)) : signal ≠ .checkInactivity := by
  rintro rfl
  cases h with
  | unasked hanswer hclear => cases hanswer
  | misnumbered hanswer hnumber hother => cases hanswer
  | another hrequest hset => cases hrequest
  | @late handshake _ htimeout hclear => cases handshake <;> cases htimeout

namespace Transition

variable {context : Context} {t : Transition} {exchanges : Exchanges}

/-! ### Handlers -/

/-- A session in which nothing goes on ignores a DISCONNECT. -/
theorem disconnect_of_idle (h : t.session.phase = .idle) : t.disconnect context = t := by
  unfold disconnect
  rw [h]

theorem willTopic_of_unasked (h : t.session.awaits .willTopic = false) (will : Sensor.WillTopic) :
    t.willTopic will = t := by
  unfold willTopic
  split
  next hphase => simp [awaits, hphase] at h
  next => rfl

theorem willMessage_of_unasked (h : t.session.awaits .willMessage = false) (data : Bytes) :
    t.willMessage context data = t := by
  unfold willMessage
  split
  next hphase => simp [awaits, hphase] at h
  next => rfl

/-- An answer of the broker that was not waited for is ignored. -/
theorem connack_of_unasked (h : t.session.awaits .connack = false) (code : UInt8) :
    t.connack code = t := by
  unfold connack
  split
  next hphase => simp [awaits, hphase] at h
  next => rfl

/-- So is an answer to another offer than the open one. -/
theorem regack_of_other {ack : Sensor.TopicAck}
    (h : exchanges.msgId? .regack ≠ some ack.msgId) : t.regack exchanges ack = t := by
  unfold regack
  split
  next => rfl
  next registration hsome =>
    rw [Exchanges.msgId?, hsome] at h
    exact if_pos fun heq => h (congrArg some heq.symm)

theorem confirmPublish_of_other {msgId : UInt16} (h : exchanges.msgId? .puback ≠ some msgId) :
    t.confirmPublish exchanges msgId = t := by
  unfold confirmPublish
  split
  next => rfl
  next publication hsome =>
    rw [Exchanges.msgId?, hsome] at h
    exact if_pos fun heq => h (congrArg some heq)

theorem confirmSubscribe_of_other {msgId : UInt16} (h : exchanges.msgId? .suback ≠ some msgId)
    (granted : UInt8) : t.confirmSubscribe exchanges msgId granted = t := by
  unfold confirmSubscribe
  split
  next => rfl
  next request hsome =>
    rw [Exchanges.msgId?, hsome] at h
    exact if_pos fun heq => h (congrArg some heq)

theorem confirmUnsubscribe_of_other {msgId : UInt16} (h : exchanges.msgId? .unsuback ≠ some msgId) :
    t.confirmUnsubscribe exchanges msgId = t := by
  unfold confirmUnsubscribe
  split
  next => rfl
  next request hsome =>
    rw [Exchanges.msgId?, hsome] at h
    exact if_pos fun heq => h (congrArg some heq)

/-- While one id is offered, a publication for which another one would be needed is lost. -/
theorem deliver_of_offering {publication : Broker.Publish}
    (hunmapped : t.session.topics.reference? publication.topic = none)
    (hsome : exchanges.registration.isSome = true) :
    t.deliver context exchanges publication = t := by
  rw [deliver_eq, hunmapped]
  simp only [offerTopic, hsome, if_true, ite_self]

/-- A timeout that comes late is ignored. -/
theorem willTopicTimeout_of_unasked (h : t.session.awaits .willTopic = false) :
    t.willTopicTimeout context = t := by
  unfold willTopicTimeout
  split
  next hphase => simp [awaits, hphase] at h
  next => rfl

theorem willMessageTimeout_of_unasked (h : t.session.awaits .willMessage = false) :
    t.willMessageTimeout context = t := by
  unfold willMessageTimeout
  split
  next hphase => simp [awaits, hphase] at h
  next => rfl

theorem regackTimeout_of_unasked (h : t.session.awaits .regack = false) :
    t.regackTimeout context = t := by
  unfold regackTimeout
  split
  next exchanges hphase =>
    simp only [awaits, exchanges_of_connected hphase] at h
    rw [Option.not_isSome_iff_eq_none.mp (Bool.eq_false_iff.mp h)]
  next => rfl

/-! ### Steps -/

/-- A device that is not connected is told so. -/
theorem sensor_eq_refuse {message : Sensor.Message} (hneeds : message.needsConnection = true)
    (hnot : t.session.phase.isConnected = false) (link : LinkName) :
    t.sensor context message link = t.refuse := by
  have hrefuse := whenConnected_eq_refuse hnot
  cases message with
  | publish publication =>
    rw [sensor_of_ne_minusOne (bne_iff_ne.mp hneeds)]
    exact hrefuse _
  | register | regack | puback | subscribe | unsubscribe => exact hrefuse _
  | pubrec | pubrel | pubcomp | pingRequest | pingResponse =>
    exact hrefuse fun _ t => (t.forward context.line _).2
  | _ => cases hneeds

theorem needsConnection_of_answered? {seen : Address} {message : Sensor.Message} {link : LinkName}
    {msgId : UInt16} (h : Input.answered? (.sensor seen message link) = some msgId) :
    message.needsConnection = true := by
  cases message with
  | regack ack => rfl
  | _ => cases h

/-- Requests are for connected devices only. -/
theorem needsConnection_of_request? {seen : Address} {message : Sensor.Message} {link : LinkName}
    {handshake : Handshake} (h : Input.request? (.sensor seen message link) = some handshake) :
    message.needsConnection = true := by
  cases message with
  | publish publication =>
    simp only [Input.request?] at h
    split at h
    next hqos => exact bne_iff_ne.mpr (by rw [hqos]; rintro ⟨⟩)
    next => cases h
  | subscribe request | unsubscribe request => rfl
  | _ => cases h

/-- An answer to another request, or to none, of a device that is connected. -/
theorem sensor_of_misnumbered {seen : Address} {message : Sensor.Message} {link : LinkName}
    {handshake : Handshake} {msgId : UInt16} (hphase : t.session.phase = .connected exchanges)
    (hanswer : Input.answer? (.sensor seen message link) = some handshake)
    (hnumber : Input.answered? (.sensor seen message link) = some msgId)
    (hother : exchanges.msgId? handshake ≠ some msgId) : t.sensor context message link = t := by
  cases message with
  | regack ack =>
    cases hanswer
    cases hnumber
    exact (whenConnected_eq hphase _).trans (regack_of_other hother)
  | _ => cases hnumber

/-- The same of the broker. -/
theorem broker_of_misnumbered {message : Broker.Message} {handshake : Handshake} {msgId : UInt16}
    (hphase : t.session.phase = .connected exchanges)
    (hanswer : Input.answer? (.broker message) = some handshake)
    (hnumber : Input.answered? (.broker message) = some msgId)
    (hother : exchanges.msgId? handshake ≠ some msgId) : t.broker context message = t := by
  cases message with
  | puback id =>
    cases hanswer
    cases hnumber
    exact (broker_eq hphase (by rintro code ⟨⟩)).trans (confirmPublish_of_other hother)
  | suback id granted =>
    cases hanswer
    cases hnumber
    exact (broker_eq hphase (by rintro code ⟨⟩)).trans (confirmSubscribe_of_other hother _)
  | unsuback id =>
    cases hanswer
    cases hnumber
    exact (broker_eq hphase (by rintro code ⟨⟩)).trans (confirmUnsubscribe_of_other hother)
  | _ => cases hnumber

/-- A request of a device that is connected while another one of its kind is open. -/
theorem sensor_of_another {seen : Address} {message : Sensor.Message} {link : LinkName}
    {handshake : Handshake} (hphase : t.session.phase = .connected exchanges)
    (hrequest : Input.request? (.sensor seen message link) = some handshake)
    (hset : t.session.awaits handshake = true) : t.sensor context message link = t := by
  have hsame := exchanges_of_connected hphase
  cases message with
  | publish publication =>
    simp only [Input.request?] at hrequest
    split at hrequest
    next hqos =>
      cases hrequest
      have hopen : exchanges.publish.isSome = true := hsame ▸ hset
      rw [sensor_of_ne_minusOne (by rw [hqos]; rintro ⟨⟩), whenConnected_eq hphase]
      exact if_pos ⟨hopen, hqos⟩
    next => cases hrequest
  | subscribe request =>
    cases hrequest
    have hopen : exchanges.subscribe.isSome = true := hsame ▸ hset
    exact (whenConnected_eq hphase _).trans (if_pos hopen)
  | unsubscribe request =>
    cases hrequest
    have hopen : exchanges.unsubscribe.isSome = true := hsame ▸ hset
    exact (whenConnected_eq hphase _).trans (if_pos hopen)
  | _ => cases hrequest

/-- Whatever its device says out of sequence, a session takes no notice of it, except that it
corrects a device that acts as if it were connected. -/
theorem sensor_of_stray {seen : Address} {message : Sensor.Message} {link : LinkName}
    (h : t.session.ledger.Stray (.sensor seen message link)) :
    t.sensor context message link =
      if message.needsConnection && !t.session.phase.isConnected then t.refuse else t := by
  split
  next hrefused =>
    rw [Bool.and_eq_true, Bool.not_eq_true'] at hrefused
    exact sensor_eq_refuse hrefused.1 hrefused.2 link
  next hheeded =>
    have hconnected (hneeds : message.needsConnection = true) :
        ∃ exchanges, t.session.phase = .connected exchanges := by
      rw [hneeds, Bool.true_and, Bool.not_eq_true, Bool.not_eq_false'] at hheeded
      exact exists_connected hheeded
    cases h with
    | unconnected hneeds hnot =>
      rw [ledger_isConnected] at hnot
      simp [hneeds, hnot] at hheeded
    | absent hnot hidle =>
      exact disconnect_of_idle (phase_of_quiet hnot hidle)
    | unasked hanswer hclear =>
      rw [ledger_isSet] at hclear
      cases message with
      | willTopic will =>
        cases hanswer
        exact willTopic_of_unasked hclear will
      | willMessage data =>
        cases hanswer
        exact willMessage_of_unasked hclear data
      | regack ack =>
        cases hanswer
        obtain ⟨exchanges, hphase⟩ := hconnected rfl
        have hnone := msgId?_of_unasked hclear
        rw [exchanges_of_connected hphase] at hnone
        exact (whenConnected_eq hphase _).trans (regack_of_other (by rw [hnone]; rintro ⟨⟩))
      | _ => cases hanswer
    | misnumbered hanswer hnumber hother =>
      obtain ⟨exchanges, hphase⟩ := hconnected (needsConnection_of_answered? hnumber)
      rw [ledger_msgId?, exchanges_of_connected hphase] at hother
      exact sensor_of_misnumbered hphase hanswer hnumber hother
    | another hrequest hset =>
      obtain ⟨exchanges, hphase⟩ := hconnected (needsConnection_of_request? hrequest)
      rw [ledger_isSet] at hset
      exact sensor_of_another hphase hrequest hset
    | ofGateway hgateway =>
      cases message with
      | advertise | gatewayInfo | connack | willTopicRequest | willMessageRequest => rfl
      | suback | unsuback | willTopicResponse | willMessageResponse => rfl
      | _ => cases hgateway

/-- Whatever the broker says out of sequence, a session takes no notice of it. -/
theorem broker_of_stray {message : Broker.Message} (h : t.session.ledger.Stray (.broker message)) :
    t.broker context message = t := by
  by_cases hconnack : ∃ code, message = .connack code
  · obtain ⟨code, rfl⟩ := hconnack
    cases h with
    | unasked hanswer hclear =>
      cases hanswer
      rw [ledger_isSet] at hclear
      exact connack_of_unasked hclear code
    | misnumbered hanswer hnumber hother => cases hnumber
    | another hrequest hset => cases hrequest
    | unheard hother hnot => exact (hother code rfl).elim
    | ofClient hclient => cases hclient
  · have hother (code : UInt8) : message ≠ .connack code := fun heq => hconnack ⟨code, heq⟩
    cases hbusy : t.session.phase.isConnected with
    | false => exact broker_eq_self hbusy hother
    | true =>
      obtain ⟨exchanges, hphase⟩ := exists_connected hbusy
      have hsame := exchanges_of_connected hphase
      cases h with
      | unasked hanswer hclear =>
        rw [ledger_isSet] at hclear
        have hnone := msgId?_of_unasked hclear
        rw [hsame] at hnone
        obtain ⟨msgId, hnumber⟩ : ∃ msgId, Input.answered? (.broker message) = some msgId := by
          cases message with
          | connack code => exact (hother code rfl).elim
          | suback | unsuback | puback => exact ⟨_, rfl⟩
          | _ => cases hanswer
        exact broker_of_misnumbered hphase hanswer hnumber (by rw [hnone]; rintro ⟨⟩)
      | misnumbered hanswer hnumber hother =>
        rw [ledger_msgId?, hsame] at hother
        exact broker_of_misnumbered hphase hanswer hnumber hother
      | another hrequest hset => cases hrequest
      | offering hunmapped hset =>
        rw [ledger_isSet] at hset
        have hopen : exchanges.registration.isSome = true := hsame ▸ hset
        exact (broker_eq hphase hother).trans (deliver_of_offering hunmapped hopen)
      | unheard hother hnot =>
        rw [ledger_isConnected, hbusy] at hnot
        cases hnot
      | ofClient hclient =>
        refine (broker_eq hphase hother).trans ?_
        cases message with
        | connect | subscribe | unsubscribe | disconnect => rfl
        | _ => cases hclient

/-- A timeout that comes too late makes no difference. -/
theorem signal_of_stray {signal : Signal} (h : t.session.ledger.Stray (.signal signal)) :
    t.signal context signal = t := by
  cases h with
  | unasked hanswer hclear => cases hanswer
  | misnumbered hanswer hnumber hother => cases hanswer
  | another hrequest hset => cases hrequest
  | @late handshake _ htimeout hclear =>
    rw [ledger_isSet] at hclear
    cases handshake with
    | willTopic =>
      cases htimeout
      exact willTopicTimeout_of_unasked hclear
    | willMessage =>
      cases htimeout
      exact willMessageTimeout_of_unasked hclear
    | regack =>
      cases htimeout
      exact regackTimeout_of_unasked hclear
    | connack | suback | unsuback | puback => cases htimeout

end Transition

/-! ### Turns -/

/-- A session passes over what comes out of sequence. -/
theorem take_of_stray (config : Config) {turn : Turn} {session : Session}
    (h : session.ledger.Stray turn.input) :
    session.take config turn =
      ⟨session.hear config turn, session.ledger.rebuff turn.input⟩ := by
  have hstray := h.hear config turn
  rw [← ledger_hear] at hstray
  have hphase := phase_hear config turn session
  cases hinput : turn.input with
  | sensor seen message link =>
    rw [hinput] at hstray
    rw [take_sensor config hinput, Transition.sensor_of_stray hstray]
    simp only [Ledger.rebuff, ledger_isConnected, Transition.start, hphase]
    split
    next =>
      have hlink : (session.hear config turn).link = some link := by
        simp only [hear, hinput]
      have haddress : (session.hear config turn).address = session.address.refresh seen := by
        simp only [hear, hinput]
      simp only [Transition.refuse, Transition.toDevice, hlink, haddress]
      rfl
    next => rfl
  | broker message =>
    rw [hinput] at hstray
    rw [take_broker config hinput, Transition.broker_of_stray hstray]
    rfl
  | signal signal =>
    rw [hinput] at hstray
    rw [take_signal config hinput hstray.stays, Transition.signal_of_stray hstray]
    rfl

end Session

end SensorGateway
