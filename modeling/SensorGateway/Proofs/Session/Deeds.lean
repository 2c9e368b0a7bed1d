import SensorGateway.Proofs.Session.Life
import SensorGateway.Proofs.Topic.Reference

/-!
What comes of a turn. In each of its turns a session does one deed: it leaves
what it is doing as it is, is torn down, gets on with being connected, deals with
a publication for its device or with a request of its device. `Deed` lists the
deeds, each with what must hold for it, and `take_deed` says that there are no
others.

What is said in a turn is sorted by what it is about, and a deed says nothing
that is about something else. Whoever follows one concern through a run has to
look at the deeds of this concern only.
-/

namespace SensorGateway

/-- What a message or another effect is about. -/
inductive Session.Concern where
  /-- That the broker is asked to connect the device. -/
  | connecting
  /-- A publication for the device, or an id that is offered for its topic. -/
  | delivery
  /-- A request of the device to the broker, or that it is granted. -/
  | request
  /-- That the device is told that it is disconnected. -/
  | farewell
  | other
deriving DecidableEq

def Sensor.Message.concern : Sensor.Message → Session.Concern
  | publish _ | register _ => .delivery
  | puback ack => if ack.returnCode = .accepted then .request else .other
  | suback ack => if ack.returnCode = .accepted then .request else .other
  | unsuback _ => .request
  | disconnect _ => .farewell
  | _ => .other

def Broker.Message.isRequest : Broker.Message → Bool
  | publish publication => publication.qos == 1
  | subscribe .. | unsubscribe .. => true
  | _ => false

def Sensor.Message.publication? : Sensor.Message → Option Sensor.Publish
  | publish publication => some publication
  | _ => none

def Sensor.Message.registration? : Sensor.Message → Option Sensor.Register
  | register registration => some registration
  | _ => none

def Broker.Message.connect? : Broker.Message → Option Broker.Connect
  | connect request => some request
  | _ => none

/-- A request that is not taken is none. -/
def Broker.LinkUse.concern : Broker.LinkUse → Session.Concern
  | sending _ message result _ =>
      if message.connect?.isSome then .connecting
      else if message.isRequest && result.isOk then .request
      else .other
  | opening .. | closing _ => .other

namespace Session

namespace Effect

def concern : Effect → Concern
  | broker use => use.concern
  | device _ _ message => message.concern
  | arm _ | disarm _ | disarmAll | forGateway .. => .other

def told? : Effect → Option Sensor.Message
  | device _ _ message => some message
  | broker _ | arm _ | disarm _ | disarmAll | forGateway .. => none

/-- The message that is handed to the broker link, whether it is taken or not. -/
def handed? : Effect → Option Broker.Message
  | broker (.sending _ message _ _) => some message
  | broker (.opening ..) | broker (.closing _) | device .. | arm _ | disarm _ | disarmAll
  | forGateway .. => none

end Effect

namespace Transition

def told (t : Transition) : List Sensor.Message := t.effects.filterMap (·.told?)

def handed (t : Transition) : List Broker.Message := t.effects.filterMap (·.handed?)

def connects (t : Transition) : List Broker.Connect := t.handed.filterMap (·.connect?)

def Adds (concern : Concern) (t next : Transition) : Prop :=
  ∃ effects, next.effects = t.effects ++ effects ∧
    ∀ effect ∈ effects, effect.concern = .other ∨ effect.concern = concern

structure Quiet (t next : Transition) : Prop where
  phase : next.session.phase = t.session.phase
  link : next.session.link = t.session.link
  adds : Adds .other t next

variable {context : Context} {input : Input} {t mid next last : Transition}
variable {exchanges : Exchanges} {concern : Concern}

theorem Adds.refl (concern : Concern) (t : Transition) : Adds concern t t :=
  ⟨[], (List.append_nil _).symm, fun _ hin => (List.not_mem_nil hin).elim⟩

theorem Adds.trans (h : Adds concern t next) (h' : Adds concern next last) :
    Adds concern t last := by
  obtain ⟨first, hfirst, hconcern⟩ := h
  obtain ⟨second, hsecond, hconcern'⟩ := h'
  refine ⟨first ++ second, by rw [hsecond, hfirst, List.append_assoc], fun effect hin => ?_⟩
  rcases List.mem_append.mp hin with hin | hin
  · exact hconcern effect hin
  · exact hconcern' effect hin

/-- What is about nothing may be said at any time. -/
theorem Adds.among (h : Adds .other t next) (concern : Concern) : Adds concern t next := by
  obtain ⟨effects, heq, hother⟩ := h
  exact ⟨effects, heq, fun effect hin => .inl (or_self_iff.mp (hother effect hin))⟩

theorem Adds.emit (h : Adds concern t next) {effect : Effect}
    (heffect : effect.concern = .other ∨ effect.concern = concern) :
    Adds concern t (next.emit effect) := by
  obtain ⟨effects, heq, hconcern⟩ := h
  refine ⟨effects ++ [effect], ?_, fun other hin => ?_⟩
  · simp [Transition.emit, heq]
  · rcases List.mem_append.mp hin with hin | hin
    · exact hconcern other hin
    · exact List.mem_singleton.mp hin ▸ heffect

/-- Only what is done counts, not what becomes of the session. -/
theorem Adds.update (h : Adds concern t next) (f : Session → Session) :
    Adds concern t (next.update f) :=
  h

theorem Adds.toDevice (h : Adds concern t next) {message : Sensor.Message}
    (hmessage : message.concern = .other ∨ message.concern = concern) :
    Adds concern t (next.toDevice message) := by
  unfold Transition.toDevice
  split
  · exact h
  · exact h.emit hmessage

theorem Adds.closeBroker (h : Adds concern t next) : Adds concern t next.closeBroker :=
  (h.emit (.inl rfl)).update _

theorem Adds.filterMap_told (h : Adds concern t next) {α : Type} {f : Sensor.Message → Option α}
    (hf : ∀ message, message.concern = .other ∨ message.concern = concern → f message = none) :
    next.told.filterMap f = t.told.filterMap f := by
  obtain ⟨effects, heq, hconcern⟩ := h
  have hnone : (effects.filterMap (·.told?)).filterMap f = [] := by
    rw [List.filterMap_eq_nil_iff]
    intro message hin
    obtain ⟨effect, heffect, htold⟩ := List.mem_filterMap.mp hin
    cases effect with
    | device link target sent =>
      cases htold
      exact hf message (hconcern _ heffect)
    | _ => cases htold
  rw [told, heq, List.filterMap_append, List.filterMap_append, hnone, List.append_nil]
  rfl

theorem Adds.connects_eq (h : Adds concern t next) (hother : concern ≠ .connecting) :
    next.connects = t.connects := by
  obtain ⟨effects, heq, hconcern⟩ := h
  have hnone : (effects.filterMap (·.handed?)).filterMap (·.connect?) = [] := by
    rw [List.filterMap_eq_nil_iff]
    intro message hin
    obtain ⟨effect, heffect, hhanded⟩ := List.mem_filterMap.mp hin
    cases message with
    | connect request =>
      have hconnecting : effect.concern = .connecting := by
        unfold Effect.handed? at hhanded
        split at hhanded <;> cases hhanded
        rfl
      rcases hconcern effect heffect with heq | heq
      · cases hconnecting.symm.trans heq
      · exact (hother (heq.symm.trans hconnecting)).elim
    | _ => rfl
  rw [connects, handed, heq, List.filterMap_append, List.filterMap_append, hnone, List.append_nil]
  rfl

theorem effects_toDevice (hlink : t.session.link.isSome = true) (message : Sensor.Message) :
    ∃ link, (t.toDevice message).effects =
      t.effects ++ [.device link t.session.address message] := by
  obtain ⟨link, hlink⟩ := Option.isSome_iff_exists.mp hlink
  exact ⟨link, congrArg (·.effects) (toDevice_eq hlink message)⟩

theorem told_toDevice (hlink : t.session.link.isSome = true) (message : Sensor.Message) :
    (t.toDevice message).told = t.told ++ [message] := by
  obtain ⟨link, heffects⟩ := effects_toDevice hlink message
  simp [told, heffects, Effect.told?]

theorem told_emit {effect : Effect} (h : effect.told? = none) : (t.emit effect).told = t.told := by
  simp [told, emit, h]

theorem Quiet.refl (t : Transition) : Quiet t t := ⟨rfl, rfl, .refl .other t⟩

theorem Quiet.trans (h : Quiet t next) (h' : Quiet next last) : Quiet t last :=
  ⟨h'.phase.trans h.phase, h'.link.trans h.link, h.adds.trans h'.adds⟩

theorem quiet_emit {effect : Effect} (h : effect.concern = .other) : Quiet t (t.emit effect) :=
  ⟨rfl, rfl, (Adds.refl .other t).emit (.inl h)⟩

theorem quiet_update {f : Session → Session} (hphase : (f t.session).phase = t.session.phase)
    (hlink : (f t.session).link = t.session.link) : Quiet t (t.update f) :=
  ⟨hphase, hlink, .refl .other t⟩

theorem quiet_toDevice {message : Sensor.Message} (h : message.concern = .other) :
    Quiet t (t.toDevice message) := by
  refine ⟨?_, ?_, (Adds.refl .other t).toDevice (.inl h)⟩
  all_goals rw [session_toDevice]

theorem quiet_closeBroker : Quiet t t.closeBroker := ⟨rfl, rfl, (Adds.refl .other t).closeBroker⟩

theorem concern_sending {wasOpen isOpen : Bool} {message : Broker.Message}
    {result : Except LinkError Bytes} (hconnect : message.connect? = none)
    (hplain : message.isRequest = false ∨ result.isOk = false) :
    (Effect.broker (.sending wasOpen message result isOpen)).concern = .other := by
  have hnone : (message.isRequest && result.isOk) = false := Bool.and_eq_false_iff.mpr hplain
  simp only [Effect.concern, Broker.LinkUse.concern, hconnect, hnone]
  rfl

theorem quiet_sendBroker {line : Broker.Line} {message : Broker.Message}
    (hconnect : message.connect? = none)
    (hplain : message.isRequest = false ∨ (t.sendBroker line message).1 = false) :
    Quiet t (t.sendBroker line message).2 :=
  ⟨rfl, rfl, ((Adds.refl .other t).emit (.inl (concern_sending hconnect hplain))).update _⟩

/-- A message is handed to the link, whether it is taken or not. -/
theorem handed_sendBroker (line : Broker.Line) (message : Broker.Message) :
    (t.sendBroker line message).2.handed = t.handed ++ [message] := by
  simp [handed, sendBroker, emit, update, Effect.handed?]

theorem connects_sendBroker (line : Broker.Line) (request : Broker.Connect) :
    (t.sendBroker line (.connect request)).2.connects = t.connects ++ [request] := by
  rw [connects, handed_sendBroker, List.filterMap_append]
  rfl

end Transition

/-! ### Deeds -/

def Phase.asksForWill : Phase → Bool
  | awaitingWillTopic .. | awaitingWillMessage .. => true
  | idle | awaitingConnack | connected _ => false

open Transition (Adds Quiet)

/-- What comes of asking the broker to connect the device. -/
structure Asked (context : Context) (request : Broker.Connect) (t next : Transition) : Prop where
  phase : next.session.phase = .idle ∨ next.session.phase = .awaitingConnack
  adds : Adds .connecting t next
  connects : next.connects = t.connects ++ [request] ∨
    next.connects = t.connects ∧ context.line.openFailure.isSome = true

/-- How a session gets on with a device that is to be connected. -/
inductive Establishing (context : Context) (input : Input) (t next : Transition) : Prop where
  | wish {seen : Address} {request : Sensor.Connect} {link : LinkName}
      (hinput : input = .sensor seen (.connect request) link)
      (hwill : request.flags.will = true)
      (hfree : t.session.phase = .idle ∨ t.session.phase = .awaitingConnack)
      (hnext : next.session.phase = .awaitingWillTopic request 1) (hadds : Adds .other t next)
      (htold : t.session.link.isSome = true → .willTopicRequest ∈ next.told)
  | ask {seen : Address} {request : Sensor.Connect} {link : LinkName}
      (hinput : input = .sensor seen (.connect request) link)
      (hwill : request.flags.will = false)
      (hfree : t.session.phase = .idle ∨ t.session.phase = .awaitingConnack)
      (hasked : Asked context (brokerConnect context request none) t next)
  | willTopic {seen : Address} {will : Sensor.WillTopic} {link : LinkName}
      {request : Sensor.Connect} {tries : UInt32}
      (hinput : input = .sensor seen (.willTopic will) link)
      (hphase : t.session.phase = .awaitingWillTopic request tries)
      (hnext : next.session.phase = .awaitingWillMessage request will 1)
      (hadds : Adds .other t next)
      (htold : t.session.link.isSome = true → .willMessageRequest ∈ next.told)
  | willMessage {seen : Address} {data : Bytes} {link : LinkName} {request : Sensor.Connect}
      {will : Sensor.WillTopic} {tries : UInt32}
      (hinput : input = .sensor seen (.willMessage data) link)
      (hphase : t.session.phase = .awaitingWillMessage request will tries)
      (hasked : Asked context (brokerConnect context request (brokerWill will data)) t next)
  | retryTopic {request : Sensor.Connect} {tries : UInt32}
      (hinput : input = .signal .willTopicTimeout)
      (hphase : t.session.phase = .awaitingWillTopic request tries)
      (hnext : next.session.phase = .awaitingWillTopic request (tries + 1))
      (hadds : Adds .other t next)
  | retryMessage {request : Sensor.Connect} {will : Sensor.WillTopic} {tries : UInt32}
      (hinput : input = .signal .willMessageTimeout)
      (hphase : t.session.phase = .awaitingWillMessage request will tries)
      (hnext : next.session.phase = .awaitingWillMessage request will (tries + 1))
      (hadds : Adds .other t next)
  | giveUp {signal : Signal} (hinput : input = .signal signal)
      (hphase : t.session.phase.asksForWill = true)
      (hnext : next.session.phase = .idle) (hadds : Adds .other t next)

/-- How a session deals with what the broker publishes. -/
inductive Delivering (context : Context) (input : Input) (t next : Transition) : Prop where
  | atOnce {exchanges : Exchanges} {publication : Broker.Publish} {type : Sensor.TopicIdType}
      {topicId : UInt16} (hinput : input = .broker (.publish publication))
      (hphase : t.session.phase = .connected exchanges)
      (hrefers : t.session.topics.reference? publication.topic = some (type, topicId))
      (hnext : next = t.toDevice (Transition.delivery publication type topicId))
  | offer {exchanges : Exchanges} {publication : Broker.Publish}
      (hinput : input = .broker (.publish publication))
      (hphase : t.session.phase = .connected exchanges)
      (hrefers : t.session.topics.reference? publication.topic = none)
      (hfree : exchanges.registration = none) (hroom : t.session.topics.next ≤ 65535)
      (hnext : next = t.offerTopic exchanges publication)
  | bind {exchanges : Exchanges} {registration : Registration} {seen : Address}
      {ack : Sensor.TopicAck} {link : LinkName} (hinput : input = .sensor seen (.regack ack) link)
      (hphase : t.session.phase = .connected exchanges)
      (hsome : exchanges.registration = some registration)
      (hid : ack.msgId = registration.msgId) (hcode : ack.returnCode = .accepted)
      (hnext : next = ((t.endRegistration exchanges).update fun session =>
        { session with
          topics := (session.topics.assign registration.topicId
            registration.publication.topic).2 }).toDevice
          (Transition.delivery registration.publication .normal registration.topicId))
  | repeatOffer {exchanges : Exchanges} {registration : Registration}
      (hinput : input = .signal .regackTimeout)
      (hphase : t.session.phase = .connected exchanges)
      (hsome : exchanges.registration = some registration)
      (hleft : registration.tries.toNat ≤ context.config.maxRetries)
      (hnext : next = (t.takeMsgId.2.toDevice (Transition.offer
        { registration with msgId := t.session.nextMsgId, tries := registration.tries + 1 })).enter
          (.connected { exchanges with
            registration := some { registration with
              msgId := t.session.nextMsgId, tries := registration.tries + 1 } }))
  | endOffer {exchanges : Exchanges} {registration : Registration}
      (hphase : t.session.phase = .connected exchanges)
      (hsome : exchanges.registration = some registration)
      (hnext : next = t.endRegistration exchanges)

/-- How a session deals with a request that the broker is to confirm. -/
inductive Requesting (context : Context) (input : Input) (t next : Transition) : Prop where
  | publish {exchanges : Exchanges} {seen : Address} {publication : Sensor.Publish}
      {link : LinkName} {message : Broker.Publish} {mid : Transition}
      (hinput : input = .sensor seen (.publish publication) link)
      (hphase : t.session.phase = .connected exchanges) (hfree : exchanges.publish = none)
      (hlevel : publication.flags.qos = .atLeastOnce) (hqos : message.qos = 1)
      (hid : message.msgId = publication.msgId)
      (htaken : t.forward context.line (.publish message) = (true, mid))
      (hnext : next = mid.enter (.connected
        { exchanges with publish := some ⟨publication.topicId, publication.msgId⟩ }))
  | subscribe {exchanges : Exchanges} {seen : Address} {request : Sensor.TopicRequest}
      {link : LinkName} {dup : Bool} {topics : List (String × UInt8)} {name : String}
      {mid : Transition} (hinput : input = .sensor seen (.subscribe request) link)
      (hphase : t.session.phase = .connected exchanges) (hfree : exchanges.subscribe = none)
      (htaken : t.forward context.line (.subscribe dup request.msgId topics) = (true, mid))
      (hnext : next = mid.enter (.connected
        { exchanges with subscribe := some ⟨request.msgId, request.topic, name⟩ }))
  | unsubscribe {exchanges : Exchanges} {seen : Address} {request : Sensor.TopicRequest}
      {link : LinkName} {dup : Bool} {topics : List String} {name : String} {mid : Transition}
      (hinput : input = .sensor seen (.unsubscribe request) link)
      (hphase : t.session.phase = .connected exchanges) (hfree : exchanges.unsubscribe = none)
      (htaken : t.forward context.line (.unsubscribe dup request.msgId topics) = (true, mid))
      (hnext : next = mid.enter (.connected
        { exchanges with unsubscribe := some ⟨request.msgId, request.topic, name⟩ }))
  | confirmPublish {exchanges : Exchanges} {request : PublishInFlight}
      (hinput : input = .broker (.puback request.msgId))
      (hphase : t.session.phase = .connected exchanges) (hsome : exchanges.publish = some request)
      (hnext : next = (t.enter (.connected { exchanges with publish := none })).toDevice
        (.puback ⟨request.topicId, request.msgId, .accepted⟩))
  | confirmSubscribe {exchanges : Exchanges} {request : RequestInFlight} {granted : Bytes}
      {flags : Sensor.Flags} {topicId : UInt16} {topics : Topic.Table}
      (hinput : input = .broker (.suback request.msgId granted))
      (hphase : t.session.phase = .connected exchanges)
      (hsome : exchanges.subscribe = some request)
      (hnext : next = ((t.enter (.connected { exchanges with subscribe := none })).update
        fun session => { session with topics }).toDevice
          (.suback ⟨flags, topicId, request.msgId, .accepted⟩))
  | confirmUnsubscribe {exchanges : Exchanges} {request : RequestInFlight}
      {topics : Topic.Table} (hinput : input = .broker (.unsuback request.msgId))
      (hphase : t.session.phase = .connected exchanges)
      (hsome : exchanges.unsubscribe = some request)
      (hnext : next = ((t.enter (.connected { exchanges with unsubscribe := none })).update
        fun session => { session with topics }).toDevice (.unsuback request.msgId))

/-- What a session does in a turn. -/
inductive Deed (context : Context) (input : Input) (t next : Transition) : Prop where
  | quiet (h : Quiet t next)
  | tearDown {mid : Transition} (h : Quiet t mid) (hnext : next = mid.tearDown)
  /-- A device that is not connected is told so. -/
  | refuse (hphase : t.session.phase.isConnected = false) (hnext : next = t.refuse)
  | accept (hinput : input = .broker (.connack Broker.Message.accepted))
      (hphase : t.session.phase = .awaitingConnack)
      (hnext : next = (t.enter (.connected {})).toDevice (.connack .accepted))
  | establish (h : Establishing context input t next)
  | deliver (h : Delivering context input t next)
  | request (h : Requesting context input t next)

namespace Transition

variable {context : Context} {input : Input} {t mid next : Transition} {exchanges : Exchanges}

theorem deed_nothing : Deed context input t t := .quiet (.refl t)

theorem forward_of_taken {line : Broker.Line} {message : Broker.Message} {frame : Bytes}
    {isOpen : Bool} (hsent : line.send t.session.brokerOpen message = (.ok frame, isOpen)) :
    t.forward line message = (true, ⟨{ t.session with brokerOpen := isOpen },
      t.effects ++ [.broker (.sending t.session.brokerOpen message (.ok frame) isOpen)]⟩) := by
  simp only [forward, sendBroker, hsent]
  rfl

theorem forward_of_lost {line : Broker.Line} {message : Broker.Message} {error : LinkError}
    {isOpen : Bool} (hsent : line.send t.session.brokerOpen message = (.error error, isOpen))
    (hbusy : t.session.phase ≠ .idle) :
    t.forward line message = (false, tearDown ⟨{ t.session with brokerOpen := isOpen },
      t.effects ++ [.broker (.sending t.session.brokerOpen message (.error error) isOpen)]⟩) := by
  simp only [forward, sendBroker, hsent]
  exact congrArg (Prod.mk false) (connectionLost_of_busy hbusy)

/-- A message that the link takes. -/
theorem eq_of_forward_taken {line : Broker.Line} {message : Broker.Message}
    (h : t.forward line message = (true, next)) :
    ∃ frame isOpen, next = (t.emit (.broker
      (.sending t.session.brokerOpen message (.ok frame) isOpen))).update fun session =>
        { session with brokerOpen := isOpen } := by
  rcases hresult : line.send t.session.brokerOpen message with ⟨problem | frame, isOpen⟩
  · simp [forward, sendBroker, hresult, Except.isOk, Except.toBool] at h
  · rw [forward_of_taken hresult] at h
    exact ⟨frame, isOpen, (Prod.mk.inj h).2.symm⟩

/-- A message that the link does not take ends a connection. -/
theorem deed_forward_lost {line : Broker.Line} {message : Broker.Message}
    (hphase : t.session.phase.isConnected = true) (hconnect : message.connect? = none)
    (h : t.forward line message = (false, next)) : Deed context input t next := by
  unfold forward at h
  rcases hsend : t.sendBroker line message with ⟨taken, sent⟩
  rw [hsend] at h
  cases taken with
  | true => cases h
  | false =>
    have hquiet : Quiet t sent := by
      have hsent := quiet_sendBroker hconnect (.inr (congrArg Prod.fst hsend))
      rwa [hsend] at hsent
    have hnext : next = sent.connectionLost := (Prod.mk.inj h).2.symm
    refine .tearDown hquiet (hnext.trans (connectionLost_of_busy fun hidle => ?_))
    rw [← hquiet.phase, hidle] at hphase
    cases hphase

theorem deed_forward {message : Broker.Message} (hphase : t.session.phase.isConnected = true)
    (hconnect : message.connect? = none) (hplain : message.isRequest = false) :
    Deed context input t (t.forward context.line message).2 := by
  rcases hresult : t.forward context.line message with ⟨taken, sent⟩
  cases taken with
  | false => exact deed_forward_lost hphase hconnect hresult
  | true =>
    have hquiet : Quiet t (t.sendBroker context.line message).2 :=
      quiet_sendBroker hconnect (.inl hplain)
    unfold forward at hresult
    rcases hsend : t.sendBroker context.line message with ⟨taken, next⟩
    rw [hsend] at hresult hquiet
    cases taken with
    | false => cases hresult
    | true => exact .quiet ((Prod.mk.inj hresult).2 ▸ hquiet)

/-- What follows once the broker has taken a message. -/
theorem deed_forward_then {message : Broker.Message} {step : Transition → Transition}
    (hphase : t.session.phase = .connected exchanges) (hconnect : message.connect? = none)
    (h : ∀ mid, t.forward context.line message = (true, mid) →
      Deed context input t (step mid)) :
    Deed context input t
      (match t.forward context.line message with
        | (false, next) => next
        | (true, next) => step next) := by
  rcases hresult : t.forward context.line message with ⟨taken, next⟩
  cases taken with
  | false => exact deed_forward_lost (isConnected_of_connected hphase) hconnect hresult
  | true => exact h next hresult

theorem deed_whenConnected {step : Exchanges → Transition → Transition}
    (h : ∀ exchanges, t.session.phase = .connected exchanges →
      Deed context input t (step exchanges t)) :
    Deed context input t (t.whenConnected step) := by
  unfold whenConnected
  split
  next exchanges hphase => exact h exchanges hphase
  next hnot =>
    refine .refuse ?_ rfl
    cases hphase : t.session.phase with
    | connected exchanges => exact (hnot exchanges hphase).elim
    | _ => rfl

theorem whenConnected_eq (hphase : t.session.phase = .connected exchanges)
    (step : Exchanges → Transition → Transition) : t.whenConnected step = step exchanges t := by
  unfold whenConnected
  rw [hphase]

theorem whenConnected_eq_refuse (hphase : t.session.phase.isConnected = false)
    (step : Exchanges → Transition → Transition) : t.whenConnected step = t.refuse := by
  unfold whenConnected
  split
  next exchanges hconnected => rw [hconnected] at hphase; cases hphase
  next => rfl

/-- Whatever the broker says to a connected device, but for an answer to the CONNECT. -/
theorem broker_eq {message : Broker.Message} (hphase : t.session.phase = .connected exchanges)
    (hnot : ∀ code, message ≠ .connack code) :
    t.broker context message = t.brokerConnected context exchanges message := by
  unfold broker
  split
  next code => exact (hnot code rfl).elim
  next => rw [hphase]

theorem broker_eq_self {message : Broker.Message} (hphase : t.session.phase.isConnected = false)
    (hnot : ∀ code, message ≠ .connack code) : t.broker context message = t := by
  unfold broker
  split
  next code => exact (hnot code rfl).elim
  next =>
    split
    next exchanges hconnected => rw [hconnected] at hphase; cases hphase
    next => rfl

theorem deed_relay {message : Broker.Message} (hconnect : message.connect? = none)
    (hplain : message.isRequest = false) : Deed context input t (t.relay context message) :=
  deed_whenConnected fun _ hphase =>
    deed_forward (isConnected_of_connected hphase) hconnect hplain

/-! ### Messages of the device -/

theorem asked_connectBroker (h : Adds .other t mid) (request : Sensor.Connect)
    (will : Option Broker.Will) :
    Asked context (brokerConnect context request will) t
      (mid.connectBroker context request will) := by
  have hopened : Adds .other t ((mid.enter .idle).openBroker context.line).2 :=
    ((h.update _).emit (.inl rfl)).update _
  have hfailed : ((mid.enter .idle).openBroker context.line).1 = false →
      context.line.openFailure.isSome = true := by
    cases hopen : mid.session.brokerOpen <;> simp [openBroker, enter, update, hopen]
  have hphase := (asks_connectBroker (t := mid) context request will).phase
  suffices hasked : Adds .connecting t (mid.connectBroker context request will) ∧
      ((mid.connectBroker context request will).connects =
          t.connects ++ [brokerConnect context request will] ∨
        (mid.connectBroker context request will).connects = t.connects ∧
          context.line.openFailure.isSome = true) from ⟨hphase, hasked.1, hasked.2⟩
  unfold connectBroker
  rcases hopen : (mid.enter .idle).openBroker context.line with ⟨isOpen, opened⟩
  rw [hopen] at hopened hfailed
  have hbefore : opened.connects = t.connects := hopened.connects_eq (by decide)
  cases isOpen with
  | false => exact ⟨hopened.among _, .inr ⟨hbefore, hfailed rfl⟩⟩
  | true =>
    simp only
    have hsent : Adds .connecting t
        (opened.sendBroker context.line (.connect (brokerConnect context request will))).2 :=
      ((hopened.among _).emit (.inr rfl)).update _
    have hconnects := connects_sendBroker (t := opened) context.line
      (brokerConnect context request will)
    rw [hbefore] at hconnects
    rcases hsend : opened.sendBroker context.line (.connect (brokerConnect context request will))
      with ⟨taken, sent⟩
    rw [hsend] at hsent hconnects
    cases taken with
    | true => exact ⟨hsent.update _, .inl hconnects⟩
    | false =>
      have hclosed : sent.closeBroker.connects = sent.connects :=
        quiet_closeBroker.adds.connects_eq (by decide)
      exact ⟨hsent.closeBroker, .inl (hclosed.trans hconnects)⟩

theorem establishing_establish {seen : Address} {request : Sensor.Connect} {link : LinkName}
    (hinput : input = .sensor seen (.connect request) link) (h : Adds .other t mid)
    (hlink : mid.session.link = t.session.link)
    (hfree : t.session.phase = .idle ∨ t.session.phase = .awaitingConnack) :
    Establishing context input t (mid.establish context request) := by
  unfold establish
  cases hwill : request.flags.will with
  | false =>
    rw [if_neg Bool.false_ne_true]
    exact .ask hinput hwill hfree (asked_connectBroker h request none)
  | true =>
    rw [if_pos rfl]
    refine .wish hinput hwill hfree rfl ?_ ?_
    · exact ((h.toDevice (.inl rfl)).update _).emit (.inl rfl)
    · intro hsome
      rw [told_emit rfl]
      have htold := told_toDevice (hlink ▸ hsome) .willTopicRequest
      exact htold ▸ List.mem_append_right _ (List.mem_singleton_self _)

/-- A device that is not about to be asked for a will begins to be connected. -/
theorem establishing_connect {seen : Address} {request : Sensor.Connect} {link : LinkName}
    (hinput : input = .sensor seen (.connect request) link)
    (hfree : t.session.phase = .idle ∨ t.session.phase = .awaitingConnack) :
    Establishing context input t (t.connect context request) := by
  have hnamed : Quiet t (t.update fun session => { session with clientId := request.clientId }) :=
    quiet_update rfl rfl
  rcases hfree with hphase | hphase
  · have hconnect : t.connect context request = (t.update fun session =>
        { session with clientId := request.clientId }).establish context request := by
      simp only [connect, update, hphase]
    rw [hconnect]
    exact establishing_establish hinput hnamed.adds rfl (.inl hphase)
  · have hconnect : t.connect context request = (((t.update fun session =>
        { session with clientId := request.clientId }).closeBroker.enter .idle).establish context
          request) := by
      simp only [connect, update, hphase]
    rw [hconnect]
    exact establishing_establish hinput (hnamed.adds.closeBroker.update _) rfl (.inr hphase)

/-- A connected device is told so again, and one that is asked for its will is not
answered. -/
theorem effects_connect_passedOver {request : Sensor.Connect}
    (hbusy : ¬ (t.session.phase = .idle ∨ t.session.phase = .awaitingConnack)) :
    (t.connect context request).effects = t.effects ∨
      ∃ link target, (t.connect context request).effects =
        t.effects ++ [.device link target (.connack .accepted)] := by
  cases hphase : t.session.phase with
  | idle => exact (hbusy (.inl hphase)).elim
  | awaitingConnack => exact (hbusy (.inr hphase)).elim
  | awaitingWillTopic | awaitingWillMessage =>
    simp only [connect, update, hphase, true_or]
  | connected =>
    simp only [connect, update, hphase, toDevice]
    split
    · exact .inl rfl
    · exact .inr ⟨_, _, rfl⟩

theorem deed_connect {seen : Address} {request : Sensor.Connect} {link : LinkName}
    (hinput : input = .sensor seen (.connect request) link) :
    Deed context input t (t.connect context request) := by
  by_cases hfree : t.session.phase = .idle ∨ t.session.phase = .awaitingConnack
  · exact .establish (establishing_connect hinput hfree)
  · have hnamed : Quiet t
        (t.update fun session => { session with clientId := request.clientId }) :=
      quiet_update rfl rfl
    unfold connect
    simp only
    split
    next => exact .quiet (hnamed.trans (quiet_toDevice rfl))
    next hphase => exact (hfree (.inr hphase)).elim
    next hphase => exact (hfree (.inl hphase)).elim
    next => exact .quiet hnamed
    next => exact .quiet hnamed

theorem deed_willTopic {seen : Address} {will : Sensor.WillTopic} {link : LinkName}
    (hinput : input = .sensor seen (.willTopic will) link) :
    Deed context input t (t.willTopic will) := by
  unfold willTopic
  split
  next request tries hphase =>
    refine .establish (.willTopic hinput hphase rfl ?_ ?_)
    · exact ((((Adds.refl .other t).emit (.inl rfl)).toDevice (.inl rfl)).update _).emit (.inl rfl)
    · intro hsome
      rw [told_emit rfl]
      have htold := told_toDevice (t := t.emit (.disarm .willTopicTimeout)) hsome
        .willMessageRequest
      exact htold ▸ List.mem_append_right _ (List.mem_singleton_self _)
  next => exact deed_nothing

theorem establishing_willMessage {seen : Address} {data : Bytes} {link : LinkName}
    {request : Sensor.Connect} {will : Sensor.WillTopic} {tries : UInt32}
    (hinput : input = .sensor seen (.willMessage data) link)
    (hphase : t.session.phase = .awaitingWillMessage request will tries) :
    Establishing context input t (t.willMessage context data) := by
  simp only [willMessage, hphase]
  exact .willMessage hinput hphase
    (asked_connectBroker ((Adds.refl .other t).emit (.inl rfl)) request _)

theorem deed_willMessage {seen : Address} {data : Bytes} {link : LinkName}
    (hinput : input = .sensor seen (.willMessage data) link) :
    Deed context input t (t.willMessage context data) := by
  by_cases hasked : ∃ request will tries,
      t.session.phase = .awaitingWillMessage request will tries
  · obtain ⟨request, will, tries, hphase⟩ := hasked
    exact .establish (establishing_willMessage hinput hphase)
  · unfold willMessage
    split
    next request will tries hphase => exact (hasked ⟨request, will, tries, hphase⟩).elim
    next => exact deed_nothing

theorem deed_register (registration : Sensor.Register) :
    Deed context input t (t.register registration) :=
  .quiet (Quiet.trans (quiet_update rfl rfl) (quiet_toDevice rfl))

theorem deed_regack {seen : Address} {ack : Sensor.TopicAck} {link : LinkName}
    (hinput : input = .sensor seen (.regack ack) link)
    (hphase : t.session.phase = .connected exchanges) :
    Deed context input t (t.regack exchanges ack) := by
  unfold regack
  split
  next => exact deed_nothing
  next registration hsome =>
    split
    next => exact deed_nothing
    next hid =>
      simp only
      split
      next => exact .deliver (.endOffer hphase hsome rfl)
      next hcode =>
        exact .deliver (.bind hinput hphase hsome (Decidable.not_not.mp hid)
          (Decidable.not_not.mp hcode) rfl)

theorem deed_publish {seen : Address} {publication : Sensor.Publish} {link : LinkName}
    (hinput : input = .sensor seen (.publish publication) link)
    (hphase : t.session.phase = .connected exchanges) :
    Deed context input t (t.publish context exchanges publication) := by
  simp only [publish]
  split
  next => exact deed_nothing
  next hfree =>
    split
    next => exact .quiet (quiet_toDevice rfl)
    next name hname =>
      by_cases hlevel : publication.flags.qos = .atLeastOnce
      · simp only [hlevel, if_true]
        refine deed_forward_then hphase rfl fun mid htaken => .request ?_
        have hnone : exchanges.publish = none := by simpa [hlevel] using hfree
        exact .publish hinput hphase hnone hlevel rfl rfl htaken rfl
      · simp only [hlevel, if_false]
        have hplain : (Broker.Message.publish
            { dup := publication.flags.dup, qos := brokerLevel publication.flags.qos
              retain := publication.flags.retain, topic := name, msgId := publication.msgId
              data := publication.data }).isRequest = false := by
          cases hqos : publication.flags.qos with
          | atLeastOnce => exact (hlevel hqos).elim
          | _ => rfl
        have hforward : Deed context input t (t.forward context.line _).2 :=
          deed_forward (isConnected_of_connected hphase) rfl hplain
        revert hforward
        generalize t.forward context.line _ = result
        rcases result with ⟨_ | _, next⟩ <;> exact id

theorem deed_puback (ack : Sensor.TopicAck) (hphase : t.session.phase.isConnected = true) :
    Deed context input t (t.puback context ack) := by
  unfold puback
  split
  · exact .quiet (quiet_update rfl rfl)
  · exact deed_forward hphase rfl rfl

theorem deed_subscribe {seen : Address} {request : Sensor.TopicRequest} {link : LinkName}
    (hinput : input = .sensor seen (.subscribe request) link)
    (hphase : t.session.phase = .connected exchanges) :
    Deed context input t (t.subscribe context exchanges request) := by
  simp only [subscribe]
  split
  next => exact deed_nothing
  next hfree =>
    split
    next => exact .quiet (quiet_toDevice rfl)
    next name _ =>
      refine deed_forward_then hphase rfl fun mid htaken => .request ?_
      exact .subscribe hinput hphase (by simpa using hfree) htaken rfl

theorem deed_unsubscribe {seen : Address} {request : Sensor.TopicRequest} {link : LinkName}
    (hinput : input = .sensor seen (.unsubscribe request) link)
    (hphase : t.session.phase = .connected exchanges) :
    Deed context input t (t.unsubscribe context exchanges request) := by
  simp only [unsubscribe]
  split
  next => exact deed_nothing
  next hfree =>
    split
    next => exact deed_nothing
    next name _ =>
      refine deed_forward_then hphase rfl fun mid htaken => .request ?_
      exact .unsubscribe hinput hphase (by simpa using hfree) htaken rfl

theorem deed_disconnect : Deed context input t (t.disconnect context) := by
  unfold disconnect
  split
  next => exact deed_nothing
  next =>
    split
    · exact .tearDown (quiet_sendBroker rfl (.inl rfl)) rfl
    · exact .tearDown (.refl t) rfl

/-- Whatever the device says leads to one deed. -/
theorem sensor_deed (seen : Address) (message : Sensor.Message) (link : LinkName) :
    Deed context (.sensor seen message link) t (t.sensor context message link) := by
  cases message with
  | searchGateway radius => exact .quiet (quiet_emit rfl)
  | connect request => exact deed_connect rfl
  | willTopic will => exact deed_willTopic rfl
  | willMessage data => exact deed_willMessage rfl
  | register registration => exact deed_whenConnected fun _ _ => deed_register registration
  | regack ack => exact deed_whenConnected fun _ h => deed_regack rfl h
  | publish publication =>
    by_cases hlevel : publication.flags.qos = .minusOne
    · rw [Transition.sensor_of_minusOne hlevel]
      exact .quiet (quiet_emit rfl)
    · rw [Transition.sensor_of_ne_minusOne hlevel]
      exact deed_whenConnected fun _ h => deed_publish rfl h
  | puback ack => exact deed_whenConnected fun _ h => deed_puback ack (isConnected_of_connected h)
  | pubrec msgId => exact deed_relay rfl rfl
  | pubrel msgId => exact deed_relay rfl rfl
  | pubcomp msgId => exact deed_relay rfl rfl
  | subscribe request => exact deed_whenConnected fun _ h => deed_subscribe rfl h
  | unsubscribe request => exact deed_whenConnected fun _ h => deed_unsubscribe rfl h
  | pingRequest clientId => exact deed_relay rfl rfl
  | pingResponse => exact deed_relay rfl rfl
  | disconnect duration => exact deed_disconnect
  | _ => exact deed_nothing

/-! ### Messages of the broker -/

theorem deed_connack (code : UInt8) :
    Deed context (.broker (.connack code)) t (t.connack code) := by
  unfold connack
  split
  next hphase =>
    split
    next hcode => exact .accept (hcode ▸ rfl) hphase rfl
    next => exact .tearDown (.refl t) rfl
  next => exact deed_nothing

/-- A publication for the device goes by what it can be told of the topic. -/
theorem deliver_eq (publication : Broker.Publish) :
    t.deliver context exchanges publication =
      if publication.data.length > context.config.maxFrameLength - 7 then t
      else if publication.topic.utf8ByteSize > context.config.maxFrameLength - 6 then t
      else
        match t.session.topics.reference? publication.topic with
        | some (type, topicId) => t.toDevice (delivery publication type topicId)
        | none => t.offerTopic exchanges publication := by
  simp only [deliver, Topic.Table.reference?]
  cases t.session.topics.id? publication.topic with
  | some topicId => rfl
  | none => cases Topic.shortId? publication.topic <;> rfl

theorem deed_deliver {publication : Broker.Publish}
    (hinput : input = .broker (.publish publication))
    (hphase : t.session.phase = .connected exchanges) :
    Deed context input t (t.deliver context exchanges publication) := by
  rw [deliver_eq]
  split
  · exact deed_nothing
  · split
    · exact deed_nothing
    · split
      next type topicId hrefers => exact .deliver (.atOnce hinput hphase hrefers rfl)
      next hrefers =>
        by_cases hfree : exchanges.registration = none
        · by_cases hroom : t.session.topics.next ≤ 65535
          · exact .deliver (.offer hinput hphase hrefers hfree hroom rfl)
          · have hnothing : t.offerTopic exchanges publication = t := by
              simp [offerTopic, hfree, Topic.Table.allocate, Nat.not_le.mp hroom]
            rw [hnothing]
            exact deed_nothing
        · have hnothing : t.offerTopic exchanges publication = t := by
            simp [offerTopic, Option.isSome_iff_ne_none, hfree]
          rw [hnothing]
          exact deed_nothing

theorem deed_confirmPublish {msgId : UInt16} (hinput : input = .broker (.puback msgId))
    (hphase : t.session.phase = .connected exchanges) :
    Deed context input t (t.confirmPublish exchanges msgId) := by
  unfold confirmPublish
  split
  next => exact deed_nothing
  next request hsome =>
    split
    next => exact deed_nothing
    next hid =>
      obtain rfl : request.msgId = msgId := Decidable.not_not.mp hid
      exact .request (.confirmPublish hinput hphase hsome rfl)

theorem deed_confirmSubscribe {msgId : UInt16} {granted : Bytes}
    (hinput : input = .broker (.suback msgId granted))
    (hphase : t.session.phase = .connected exchanges) (level : UInt8) :
    Deed context input t (t.confirmSubscribe exchanges msgId level) := by
  unfold confirmSubscribe
  split
  next => exact deed_nothing
  next request hsome =>
    split
    next => exact deed_nothing
    next hid =>
      obtain rfl : request.msgId = msgId := Decidable.not_not.mp hid
      exact .request (.confirmSubscribe hinput hphase hsome rfl)

theorem deed_confirmUnsubscribe {msgId : UInt16} (hinput : input = .broker (.unsuback msgId))
    (hphase : t.session.phase = .connected exchanges) :
    Deed context input t (t.confirmUnsubscribe exchanges msgId) := by
  unfold confirmUnsubscribe
  split
  next => exact deed_nothing
  next request hsome =>
    split
    next => exact deed_nothing
    next hid =>
      obtain rfl : request.msgId = msgId := Decidable.not_not.mp hid
      exact .request (.confirmUnsubscribe hinput hphase hsome rfl)

theorem deed_brokerConnected (message : Broker.Message)
    (hphase : t.session.phase = .connected exchanges) :
    Deed context (.broker message) t (t.brokerConnected context exchanges message) := by
  cases message with
  | publish publication => exact deed_deliver rfl hphase
  | puback msgId => exact deed_confirmPublish rfl hphase
  | suback msgId granted => exact deed_confirmSubscribe rfl hphase _
  | unsuback msgId => exact deed_confirmUnsubscribe rfl hphase
  | pubrec msgId => exact .quiet (quiet_toDevice rfl)
  | pubrel msgId => exact .quiet (quiet_toDevice rfl)
  | pubcomp msgId => exact .quiet (quiet_toDevice rfl)
  | pingRequest => exact .quiet (quiet_toDevice rfl)
  | pingResponse => exact .quiet (quiet_toDevice rfl)
  | _ => exact deed_nothing

/-- Whatever the broker says leads to one deed. -/
theorem broker_deed (message : Broker.Message) :
    Deed context (.broker message) t (t.broker context message) := by
  unfold broker
  split
  next code => exact deed_connack code
  next =>
    split
    next exchanges hphase => exact deed_brokerConnected message hphase
    next => exact deed_nothing

/-! ### Signals -/

theorem deed_connectionLost : Deed context input t t.connectionLost := by
  unfold connectionLost
  split
  · exact deed_nothing
  · exact .tearDown (.refl t) rfl

theorem deed_willTopicTimeout :
    Deed context (.signal .willTopicTimeout) t (t.willTopicTimeout context) := by
  unfold willTopicTimeout
  split
  next request tries hphase =>
    split
    · refine .establish (.giveUp rfl (by rw [hphase]; rfl) rfl ?_)
      exact ((Adds.refl .other t).update _).emit (.inl rfl)
    · refine .establish (.retryTopic rfl hphase rfl ?_)
      exact ((Adds.refl .other t).toDevice (.inl rfl)).update _
  next => exact deed_nothing

theorem deed_willMessageTimeout :
    Deed context (.signal .willMessageTimeout) t (t.willMessageTimeout context) := by
  unfold willMessageTimeout
  split
  next request will tries hphase =>
    split
    · refine .establish (.giveUp rfl (by rw [hphase]; rfl) rfl ?_)
      exact ((Adds.refl .other t).update _).emit (.inl rfl)
    · refine .establish (.retryMessage rfl hphase rfl ?_)
      exact ((Adds.refl .other t).toDevice (.inl rfl)).update _
  next => exact deed_nothing

theorem deed_regackTimeout :
    Deed context (.signal .regackTimeout) t (t.regackTimeout context) := by
  unfold regackTimeout
  split
  next exchanges hphase =>
    split
    next => exact deed_nothing
    next registration hsome =>
      split
      next => exact .deliver (.endOffer hphase hsome rfl)
      next hleft =>
        exact .deliver (.repeatOffer rfl hphase hsome (Nat.not_lt.mp hleft) rfl)
  next => exact deed_nothing

theorem quiet_shutDown : Quiet t (t.shutDown context) := by
  simp only [shutDown]
  split
  · have hsent : Quiet t (t.sendBroker context.line .disconnect).2 :=
      quiet_sendBroker rfl (.inl rfl)
    exact hsent.trans (quiet_closeBroker.trans (quiet_emit rfl))
  · exact quiet_closeBroker.trans (quiet_emit rfl)

/-- Every signal leads to one deed. -/
theorem signal_deed (signal : Signal) :
    Deed context (.signal signal) t (t.signal context signal) := by
  cases signal with
  | connectionLost => exact deed_connectionLost
  | willTopicTimeout => exact deed_willTopicTimeout
  | willMessageTimeout => exact deed_willMessageTimeout
  | regackTimeout => exact deed_regackTimeout
  | shutDown => exact .quiet quiet_shutDown
  | checkInactivity => exact deed_nothing
  | sendKeepAlive => exact deed_nothing

end Transition

/-! ### What a deed is about -/

variable {context : Context} {input : Input} {t next : Transition} {exchanges : Exchanges}

/-- Getting a device connected tells it nothing about publications or requests. -/
theorem Establishing.adds (h : Establishing context input t next) : Adds .connecting t next := by
  cases h with
  | wish _ _ _ _ hadds => exact hadds.among _
  | ask _ _ _ hasked => exact hasked.adds
  | willTopic _ _ _ hadds _ => exact hadds.among _
  | willMessage _ _ hasked => exact hasked.adds
  | retryTopic _ _ _ hadds => exact hadds.among _
  | retryMessage _ _ _ hadds => exact hadds.among _
  | giveUp _ _ _ hadds => exact hadds.among _

/-- Once everything is known about the device the broker is asked for it. -/
theorem Establishing.asked (h : Establishing context input t next) {seen : Address}
    {message : Sensor.Message} {link : LinkName} (hinput : input = .sensor seen message link)
    (hknown : (∃ request : Sensor.Connect,
        message = .connect request ∧ request.flags.will = false) ∨
      ∃ data, message = .willMessage data) :
    ∃ request, Asked context request t next := by
  cases h with
  | ask _ _ _ hasked => exact ⟨_, hasked⟩
  | willMessage _ _ hasked => exact ⟨_, hasked⟩
  | wish hheard hset =>
    rcases hknown with ⟨request, rfl, hunset⟩ | ⟨data, rfl⟩ <;> cases hheard.symm.trans hinput
    cases hset.symm.trans hunset
  | willTopic hheard =>
    rcases hknown with ⟨request, rfl, -⟩ | ⟨data, rfl⟩ <;> cases hheard.symm.trans hinput
  | retryTopic hheard => cases hheard.symm.trans hinput
  | retryMessage hheard => cases hheard.symm.trans hinput
  | giveUp hheard => cases hheard.symm.trans hinput

/-- A device that is yet to be connected is not connected by its own doing. -/
theorem Establishing.not_connected (h : Establishing context input t next) :
    t.session.phase.isConnected = false ∧ next.session.phase.isConnected = false := by
  have hfree {phase : Phase} (h : phase = .idle ∨ phase = .awaitingConnack) :
      phase.isConnected = false := by
    rcases h with rfl | rfl <;> rfl
  cases h with
  | wish _ _ hbefore hnext => exact ⟨hfree hbefore, by rw [hnext]; rfl⟩
  | ask _ _ hbefore hasked => exact ⟨hfree hbefore, hfree hasked.phase⟩
  | willTopic _ hphase hnext => exact ⟨by rw [hphase]; rfl, by rw [hnext]; rfl⟩
  | willMessage _ hphase hasked => exact ⟨by rw [hphase]; rfl, hfree hasked.phase⟩
  | retryTopic _ hphase hnext => exact ⟨by rw [hphase]; rfl, by rw [hnext]; rfl⟩
  | retryMessage _ hphase hnext => exact ⟨by rw [hphase]; rfl, by rw [hnext]; rfl⟩
  | giveUp _ hphase hnext =>
    refine ⟨?_, by rw [hnext]; rfl⟩
    refine Bool.eq_false_iff.mpr fun hconnected => ?_
    obtain ⟨exchanges, hbefore⟩ := exists_connected hconnected
    rw [hbefore] at hphase
    cases hphase

theorem Transition.adds_offerTopic (exchanges : Exchanges) (publication : Broker.Publish) :
    Adds .delivery t (t.offerTopic exchanges publication) := by
  unfold offerTopic
  split
  · exact .refl _ t
  · split
    · exact .refl _ t
    · exact ((((Adds.refl .delivery t).update _).update _).toDevice (.inr rfl)).update _
        |>.emit (.inl rfl)

theorem Delivering.adds (h : Delivering context input t next) : Adds .delivery t next := by
  cases h with
  | atOnce _ _ _ hnext => exact hnext ▸ (Adds.refl .delivery t).toDevice (.inr rfl)
  | offer _ _ _ _ _ hnext => exact hnext ▸ Transition.adds_offerTopic _ _
  | bind _ _ _ _ _ hnext =>
    exact hnext ▸
      (((Adds.refl .delivery t).update _).emit (.inl rfl) |>.update _).toDevice (.inr rfl)
  | repeatOffer _ _ _ _ hnext =>
    exact hnext ▸ (((Adds.refl .delivery t).update _).toDevice (.inr rfl)).update _
  | endOffer _ _ hnext => exact hnext ▸ ((Adds.refl .delivery t).update _).emit (.inl rfl)

theorem Transition.phase_offerTopic (publication : Broker.Publish)
    (h : t.session.phase = .connected exchanges) :
    (t.offerTopic exchanges publication).session.phase.isConnected = true := by
  unfold offerTopic
  split
  · exact isConnected_of_connected h
  · split
    · exact isConnected_of_connected h
    · rfl

/-- Publications are delivered to connected devices only, which stay connected. -/
theorem Delivering.connected (h : Delivering context input t next) :
    t.session.phase.isConnected = true ∧ next.session.phase.isConnected = true := by
  cases h with
  | atOnce _ hphase _ hnext =>
    rw [hnext, Transition.session_toDevice]
    exact ⟨isConnected_of_connected hphase, isConnected_of_connected hphase⟩
  | offer _ hphase _ _ _ hnext =>
    exact ⟨isConnected_of_connected hphase, hnext ▸ Transition.phase_offerTopic _ hphase⟩
  | bind _ hphase _ _ _ hnext =>
    rw [hnext, Transition.session_toDevice]
    exact ⟨isConnected_of_connected hphase, rfl⟩
  | repeatOffer _ hphase _ _ hnext => exact ⟨isConnected_of_connected hphase, hnext ▸ rfl⟩
  | endOffer hphase _ hnext => exact ⟨isConnected_of_connected hphase, hnext ▸ rfl⟩

theorem Transition.adds_of_forward_taken {line : Broker.Line} {message : Broker.Message}
    {mid : Transition} (hconnect : message.connect? = none)
    (h : t.forward line message = (true, mid)) : Adds .request t mid := by
  obtain ⟨frame, isOpen, rfl⟩ := eq_of_forward_taken h
  refine ((Adds.refl .request t).emit ?_).update _
  cases hrequest : message.isRequest with
  | false => exact .inl (concern_sending hconnect (.inl hrequest))
  | true =>
    refine .inr ?_
    simp only [Effect.concern, Broker.LinkUse.concern, hconnect, hrequest]
    rfl

theorem Requesting.adds (h : Requesting context input t next) : Adds .request t next := by
  cases h with
  | publish _ _ _ _ _ _ htaken hnext =>
    exact hnext ▸ (Transition.adds_of_forward_taken rfl htaken).update _
  | subscribe _ _ _ htaken hnext =>
    exact hnext ▸ (Transition.adds_of_forward_taken rfl htaken).update _
  | unsubscribe _ _ _ htaken hnext =>
    exact hnext ▸ (Transition.adds_of_forward_taken rfl htaken).update _
  | confirmPublish _ _ _ hnext =>
    exact hnext ▸ ((Adds.refl .request t).update _).toDevice (.inr rfl)
  | confirmSubscribe _ _ _ hnext =>
    exact hnext ▸ (((Adds.refl .request t).update _).update _).toDevice (.inr rfl)
  | confirmUnsubscribe _ _ _ hnext =>
    exact hnext ▸ (((Adds.refl .request t).update _).update _).toDevice (.inr rfl)

/-- Requests are made by connected devices only, which stay connected. -/
theorem Requesting.connected (h : Requesting context input t next) :
    t.session.phase.isConnected = true ∧ next.session.phase.isConnected = true := by
  cases h with
  | publish _ hphase _ _ _ _ _ hnext => exact ⟨isConnected_of_connected hphase, hnext ▸ rfl⟩
  | subscribe _ hphase _ _ hnext => exact ⟨isConnected_of_connected hphase, hnext ▸ rfl⟩
  | unsubscribe _ hphase _ _ hnext => exact ⟨isConnected_of_connected hphase, hnext ▸ rfl⟩
  | confirmPublish _ hphase _ hnext =>
    rw [hnext, Transition.session_toDevice]
    exact ⟨isConnected_of_connected hphase, rfl⟩
  | confirmSubscribe _ hphase _ hnext =>
    rw [hnext, Transition.session_toDevice]
    exact ⟨isConnected_of_connected hphase, rfl⟩
  | confirmUnsubscribe _ hphase _ hnext =>
    rw [hnext, Transition.session_toDevice]
    exact ⟨isConnected_of_connected hphase, rfl⟩

/-- What the broker publishes has nothing to do with the requests of the device. -/
theorem Delivering.keeps_requests (h : Delivering context input t next) :
    next.session.exchanges.publish = t.session.exchanges.publish ∧
      next.session.exchanges.subscribe = t.session.exchanges.subscribe ∧
      next.session.exchanges.unsubscribe = t.session.exchanges.unsubscribe := by
  cases h with
  | atOnce _ _ _ hnext =>
    rw [hnext, Transition.session_toDevice]
    exact ⟨rfl, rfl, rfl⟩
  | offer _ hphase _ _ _ hnext =>
    rw [hnext]
    unfold Transition.offerTopic
    split
    · exact ⟨rfl, rfl, rfl⟩
    · split
      · exact ⟨rfl, rfl, rfl⟩
      · rw [exchanges_of_connected hphase]
        exact ⟨rfl, rfl, rfl⟩
  | bind _ hphase _ _ _ hnext =>
    rw [exchanges_of_connected hphase, hnext, Transition.session_toDevice]
    exact ⟨rfl, rfl, rfl⟩
  | repeatOffer _ hphase _ _ hnext =>
    rw [exchanges_of_connected hphase, hnext]
    exact ⟨rfl, rfl, rfl⟩
  | endOffer hphase _ hnext =>
    rw [exchanges_of_connected hphase, hnext]
    exact ⟨rfl, rfl, rfl⟩

/-- A request of the device has nothing to do with the id that it is offered. -/
theorem Requesting.registration (h : Requesting context input t next) :
    next.session.exchanges.registration = t.session.exchanges.registration := by
  cases h with
  | publish _ hphase _ _ _ _ _ hnext => rw [exchanges_of_connected hphase, hnext]; rfl
  | subscribe _ hphase _ _ hnext => rw [exchanges_of_connected hphase, hnext]; rfl
  | unsubscribe _ hphase _ _ hnext => rw [exchanges_of_connected hphase, hnext]; rfl
  | confirmPublish _ hphase _ hnext =>
    rw [exchanges_of_connected hphase, hnext, Transition.session_toDevice]
    rfl
  | confirmSubscribe _ hphase _ hnext =>
    rw [exchanges_of_connected hphase, hnext, Transition.session_toDevice]
    rfl
  | confirmUnsubscribe _ hphase _ hnext =>
    rw [exchanges_of_connected hphase, hnext, Transition.session_toDevice]
    rfl

theorem Transition.adds_tearDown : Adds .farewell t t.tearDown :=
  ((((Adds.refl .farewell t).toDevice (.inr rfl)).emit (.inl rfl)).update _).closeBroker

theorem Transition.adds_refuse : Adds .farewell t t.refuse :=
  (Adds.refl .farewell t).toDevice (.inr rfl)

/-- Only the deeds of a connected session change what it waits for, and only they are
about publications and requests. -/
theorem Deed.adds (h : Deed context input t next) :
    ∃ concern, Adds concern t next ∧
      (concern = .connecting → Establishing context input t next) ∧
      (concern = .delivery → Delivering context input t next) ∧
      (concern = .request → Requesting context input t next) := by
  cases h with
  | quiet h => exact ⟨.other, h.adds, nofun, nofun, nofun⟩
  | tearDown h hnext =>
    exact ⟨.farewell, hnext ▸ (h.adds.among _).trans Transition.adds_tearDown, nofun, nofun, nofun⟩
  | refuse _ hnext => exact ⟨.farewell, hnext ▸ Transition.adds_refuse, nofun, nofun, nofun⟩
  | accept _ _ hnext =>
    exact ⟨.other, hnext ▸ ((Adds.refl .other t).update _).toDevice (.inl rfl), nofun, nofun, nofun⟩
  | establish h => exact ⟨.connecting, h.adds, fun _ => h, nofun, nofun⟩
  | deliver h => exact ⟨.delivery, h.adds, nofun, fun _ => h, nofun⟩
  | request h => exact ⟨.request, h.adds, nofun, nofun, fun _ => h⟩

/-- Only a session that gets on with connecting its device begins to ask it for a will. -/
theorem Deed.phase (h : Deed context input t next) :
    next.session.phase = t.session.phase ∨ next.session.phase.asksForWill = false ∨
      Establishing context input t next := by
  have hconnected (hphase : next.session.phase.isConnected = true) :
      next.session.phase.asksForWill = false := by
    obtain ⟨exchanges, hnext⟩ := exists_connected hphase
    rw [hnext]
    rfl
  cases h with
  | quiet h => exact .inl h.phase
  | tearDown _ hnext => exact .inr (.inl (hnext ▸ rfl))
  | refuse _ hnext => exact .inl (by rw [hnext, Transition.refuse, Transition.session_toDevice])
  | accept _ _ hnext =>
    exact .inr (.inl (hconnected (by rw [hnext, Transition.session_toDevice]; rfl)))
  | establish h => exact .inr (.inr h)
  | deliver h => exact .inr (.inl (hconnected h.connected.2))
  | request h => exact .inr (.inl (hconnected h.connected.2))

/-- Every turn is a deed. -/
theorem take_deed (config : Config) (turn : Turn) (session : Session) :
    Deed (turn.context config) turn.input (.start (session.hear config turn))
      (session.take config turn) := by
  obtain ⟨now, line, input⟩ := turn
  cases input with
  | sensor seen message link => exact Transition.sensor_deed seen message link
  | broker message => exact Transition.broker_deed message
  | signal signal =>
    simp only [take, hear, onSignal]
    split
    · exact .quiet (Transition.quiet_closeBroker.trans (Transition.quiet_emit rfl))
    · exact Transition.signal_deed signal

theorem Life.deed (life : Life) (n : Nat) :
    Deed (life.context n) (life.turn n).input (life.opening n) (life.step n) :=
  take_deed life.config (life.turn n) (life.before n)

end Session

end SensorGateway
