import Mathlib.Logic.Relation
import SensorGateway.Proofs.Session.Moves

/-!
What the turns of a session are made of. However many messages there are, a
session does only a few things in answer to them. `Act` lists them, each with
what must hold when it is done, and `take_acts` says that every turn is a
sequence of acts. What every act keeps is therefore kept by every turn, and
whoever proves it has to look at the acts only, not at the handlers.
-/

namespace SensorGateway

/-- Whether a message begins or ends what is said on a connection. -/
def Broker.Message.isBoundary : Broker.Message → Bool
  | connect _ | disconnect => true
  | _ => false

namespace Session

def Phase.usesBroker : Phase → Bool
  | awaitingConnack | connected _ => true
  | idle | awaitingWillTopic .. | awaitingWillMessage .. => false

def Effect.usesLink : Effect → Bool
  | broker _ | device .. => true
  | arm _ | disarm _ | disarmAll | forGateway .. => false

def Input.isAcceptance : Input → Bool
  | broker (.connack code) => code == Broker.Message.accepted
  | _ => false

/-- Whether an id may get a name: the device asks for one or answers to an offer, or the broker
confirms a subscription. -/
def Input.mayName : Input → Bool
  | sensor _ (.register _) _ | sensor _ (.regack _) _ | broker (.suback ..) => true
  | _ => false

def Registration.offered (registration : Registration) : UInt16 × String :=
  (registration.topicId, registration.publication.topic)

def RequestInFlight.AskedBy (input : Input) (request : RequestInFlight) : Prop :=
  ∃ seen flags link,
    input = .sensor seen (.unsubscribe ⟨flags, request.msgId, request.topic⟩) link ∧
    ∀ name, request.topic = .named name → request.name = name

/-- What a session does in one go. -/
inductive Act (context : Context) (input : Input) : Transition → Transition → Prop where
  | tell (t : Transition) (message : Sensor.Message) : Act context input t (t.toDevice message)
  | emit (t : Transition) {effect : Effect} (hinner : effect.usesLink = false) :
      Act context input t (t.emit effect)
  | note (t : Transition) (clientId : String) (nextMsgId : UInt16) :
      Act context input t (t.update fun session => { session with clientId, nextMsgId })
  /-- Deals with the device before the broker is asked, or gives up. -/
  | wait {t : Transition} {phase : Phase} (hbefore : t.session.phase.usesBroker = false)
      (hafter : phase.usesBroker = false) : Act context input t (t.enter phase)
  | ask {t : Transition} (request : Sensor.Connect) (will : Option Broker.Will)
      (hphase : t.session.phase.usesBroker = false) (hinput : input.isAcceptance = false) :
      Act context input t (t.connectBroker context request will)
  | restart (t : Transition) : Act context input t (t.closeBroker.enter .idle)
  | accept {t : Transition} (hphase : t.session.phase = .awaitingConnack)
      (hinput : input.isAcceptance = true) : Act context input t (t.enter (.connected {}))
  /-- Begins or ends to wait for an answer. What is offered to the device stays
  the same as long as it is offered. -/
  | exchange {t : Transition} {before after : Exchanges}
      (hphase : t.session.phase = .connected before)
      (hoffer : ∀ registration ∈ after.registration, ∃ earlier ∈ before.registration,
        earlier.offered = registration.offered)
      (hasked : ∀ request ∈ after.unsubscribe, request ∈ before.unsubscribe ∨
        request.AskedBy input) :
      Act context input t (t.enter (.connected after))
  | forward {t : Transition} {message : Broker.Message}
      (hphase : t.session.phase.isConnected = true) (hmessage : message.isBoundary = false) :
      Act context input t (t.forward context.line message).2
  | tearDown (t : Transition) : Act context input t t.tearDown
  /-- Takes leave of the broker before everything is forgotten. -/
  | leave {t : Transition} (hopen : t.session.brokerOpen = true) :
      Act context input t (t.sendBroker context.line .disconnect).2.tearDown
  | shutDown (t : Transition) : Act context input t (t.shutDown context)
  | close (t : Transition) : Act context input t t.closeBroker
  | register (t : Transition) (name : String) (hinput : input.mayName = true) :
      Act context input t
        (t.update fun session => { session with topics := (session.topics.register name).2 })
  /-- Offers an id for a name that has none. -/
  | offer {t : Transition} {exchanges : Exchanges} (publication : Broker.Publish)
      (hphase : t.session.phase = .connected exchanges)
      (hunknown : t.session.topics.id? publication.topic = none) :
      Act context input t (t.offerTopic exchanges publication)
  /-- The device takes the id that was offered to it. -/
  | bind {t : Transition} {exchanges : Exchanges} {registration : Registration}
      (hphase : t.session.phase = .connected exchanges)
      (hsome : exchanges.registration = some registration) (hinput : input.mayName = true) :
      Act context input t
        ((t.enter (.connected { exchanges with registration := none })).update fun session =>
          { session with
            topics :=
              (session.topics.assign registration.topicId registration.publication.topic).2 })
  /-- The device does not know an id. -/
  | forgetId {t : Transition} {seen : Address} {ack : Sensor.TopicAck} {link : LinkName}
      (hphase : t.session.phase.isConnected = true)
      (hinput : input = .sensor seen (.puback ack) link)
      (hcode : ack.returnCode = .invalidTopicId) :
      Act context input t
        (t.update fun session => { session with topics := (session.topics.removeId ack.topicId).2 })
  /-- The broker has ended the subscription to a name. -/
  | forgetName {t : Transition} {exchanges : Exchanges} {request : RequestInFlight}
      {name : String} (hphase : t.session.phase = .connected exchanges)
      (hinput : input = .broker (.unsuback request.msgId))
      (hsome : exchanges.unsubscribe = some request) (htopic : request.topic = .named name) :
      Act context input t
        (t.update fun session =>
          { session with topics := (session.topics.removeName request.name).2 })

abbrev Acts (context : Context) (input : Input) : Transition → Transition → Prop :=
  Relation.ReflTransGen (Act context input)

namespace Transition

variable {context : Context} {input : Input} {t next last : Transition} {exchanges : Exchanges}

theorem session_toDevice (message : Sensor.Message) : (t.toDevice message).session = t.session := by
  unfold toDevice
  split <;> rfl

theorem toDevice_eq {link : LinkName} (hlink : t.session.link = some link)
    (message : Sensor.Message) :
    t.toDevice message = t.emit (.device link t.session.address message) := by
  rw [toDevice, hlink]

theorem acts_tell (message : Sensor.Message) : Acts context input t (t.toDevice message) :=
  .single (.tell t message)

theorem acts_emit {effect : Effect} (hinner : effect.usesLink = false) :
    Acts context input t (t.emit effect) :=
  .single (.emit t hinner)

theorem acts_exchange {after : Exchanges} (hphase : t.session.phase = .connected exchanges)
    (hoffer : after.registration = exchanges.registration)
    (hasked : ∀ request ∈ after.unsubscribe, request ∈ exchanges.unsubscribe ∨
      request.AskedBy input) :
    Acts context input t (t.enter (.connected after)) :=
  .single (.exchange hphase (fun registration hin => ⟨registration, hoffer ▸ hin, rfl⟩) hasked)

theorem acts_connectionLost : Acts context input t t.connectionLost := by
  unfold connectionLost
  split
  · exact .refl
  · exact .single (.tearDown t)

theorem acts_forward {message : Broker.Message} (hphase : t.session.phase.isConnected = true)
    (hmessage : message.isBoundary = false) :
    Acts context input t (t.forward context.line message).2 :=
  .single (.forward hphase hmessage)

/-- What follows once the broker has taken a message. -/
theorem acts_forward_then {message : Broker.Message} {step : Transition → Transition}
    (hphase : t.session.phase = .connected exchanges) (hmessage : message.isBoundary = false)
    (h : ∀ next, next.session.phase = .connected exchanges →
      Acts context input next (step next)) :
    Acts context input t
      (match t.forward context.line message with
        | (false, next) => next
        | (true, next) => step next) := by
  have hforward : Acts context input t (t.forward context.line message).2 :=
    acts_forward (by rw [hphase]; rfl) hmessage
  rcases hresult : t.forward context.line message with ⟨taken, next⟩
  rw [hresult] at hforward
  cases taken with
  | false => exact hforward
  | true => exact hforward.trans (h next ((alike_of_forward hresult).phase.trans hphase))

theorem acts_whenConnected {step : Exchanges → Transition → Transition}
    (h : ∀ exchanges, t.session.phase = .connected exchanges →
      Acts context input t (step exchanges t)) :
    Acts context input t (t.whenConnected step) := by
  unfold whenConnected
  split
  next exchanges hphase => exact h exchanges hphase
  next => exact acts_tell _

theorem acts_relay {message : Broker.Message} (hmessage : message.isBoundary = false) :
    Acts context input t (t.relay context message) :=
  acts_whenConnected fun _ hphase => acts_forward (by rw [hphase]; rfl) hmessage

/-! ### Messages of the device -/

theorem acts_establish (request : Sensor.Connect) (hphase : t.session.phase.usesBroker = false)
    (hinput : input.isAcceptance = false) :
    Acts context input t (t.establish context request) := by
  unfold establish
  split
  · have hsent : Alike t (t.toDevice .willTopicRequest) := alike_toDevice _
    have hwaits : Acts context input t
        ((t.toDevice .willTopicRequest).enter (.awaitingWillTopic request 1)) :=
      (acts_tell _).tail (.wait (by rw [hsent.phase, hphase]) rfl)
    exact hwaits.trans (acts_emit rfl)
  · exact .single (.ask request none hphase hinput)

theorem acts_connect (request : Sensor.Connect) (hinput : input.isAcceptance = false) :
    Acts context input t (t.connect context request) := by
  have hnamed : Acts context input t
      (t.update fun session => { session with clientId := request.clientId }) :=
    .single (.note t request.clientId t.session.nextMsgId)
  refine hnamed.trans ?_
  unfold connect
  generalize t.update (fun session => { session with clientId := request.clientId }) = named
  simp only
  split
  next => exact acts_tell _
  next =>
    have hrestarted : Acts context input named (named.closeBroker.enter .idle) :=
      .single (.restart named)
    exact hrestarted.trans (acts_establish request rfl hinput)
  next hphase => exact acts_establish request (by rw [hphase]; rfl) hinput
  next => exact .refl
  next => exact .refl

theorem acts_willTopic (will : Sensor.WillTopic) : Acts context input t (t.willTopic will) := by
  unfold willTopic
  split
  next request tries hphase =>
    have hasked : Acts context input t
        ((t.emit (.disarm .willTopicTimeout)).toDevice .willMessageRequest) :=
      (acts_emit rfl).trans (acts_tell _)
    have hsent : Alike (t.emit (.disarm .willTopicTimeout))
        ((t.emit (.disarm .willTopicTimeout)).toDevice .willMessageRequest) := alike_toDevice _
    have hfree : ((t.emit (.disarm .willTopicTimeout)).toDevice
        .willMessageRequest).session.phase.usesBroker = false := by
      rw [hsent.phase]
      exact congrArg Phase.usesBroker hphase
    have hwaits : Acts context input t
        (((t.emit (.disarm .willTopicTimeout)).toDevice .willMessageRequest).enter
          (.awaitingWillMessage request will 1)) :=
      hasked.tail (.wait hfree rfl)
    exact hwaits.trans (acts_emit rfl)
  next => exact .refl

theorem acts_willMessage (data : Bytes) (hinput : input.isAcceptance = false) :
    Acts context input t (t.willMessage context data) := by
  unfold willMessage
  split
  next request will tries hphase =>
    have hended : Acts context input t (t.emit (.disarm .willMessageTimeout)) := acts_emit rfl
    exact hended.tail (.ask request _ (congrArg Phase.usesBroker hphase) hinput)
  next => exact .refl

theorem acts_register (registration : Sensor.Register) (hinput : input.mayName = true) :
    Acts context input t (t.register registration) :=
  (Relation.ReflTransGen.single (.register t registration.topic hinput)).trans (acts_tell _)

theorem acts_endRegistration (hphase : t.session.phase = .connected exchanges) :
    Acts context input t (t.endRegistration exchanges) := by
  have hended : Acts context input t
      (t.enter (.connected { exchanges with registration := none })) :=
    .single (.exchange hphase (fun _ hin => by cases hin) fun _ hin => .inl hin)
  exact hended.trans (acts_emit rfl)

theorem acts_regack (ack : Sensor.TopicAck) (hphase : t.session.phase = .connected exchanges)
    (hinput : input.mayName = true) : Acts context input t (t.regack exchanges ack) := by
  unfold regack
  split
  next => exact .refl
  next registration hsome =>
    split
    · exact .refl
    · simp only
      split
      · exact acts_endRegistration hphase
      · have hbound : Acts context input t
            ((t.enter (.connected { exchanges with registration := none })).update fun session =>
              { session with
                topics := (session.topics.assign registration.topicId
                  registration.publication.topic).2 }) :=
          .single (.bind hphase hsome hinput)
        have hended : Acts context input t (Transition.emit _ (.disarm .regackTimeout)) :=
          hbound.trans (acts_emit rfl)
        exact hended.trans (acts_tell _)

theorem acts_publish (publication : Sensor.Publish)
    (hphase : t.session.phase = .connected exchanges) :
    Acts context input t (t.publish context exchanges publication) := by
  simp only [publish]
  split
  · exact .refl
  · split
    · exact acts_tell _
    · by_cases hqos : publication.flags.qos = .atLeastOnce
      · simp only [hqos, if_true]
        exact acts_forward_then hphase rfl fun next hnext =>
          acts_exchange hnext rfl fun _ hin => .inl hin
      · simp only [hqos, if_false]
        exact acts_forward_then hphase rfl fun next _ => .refl

theorem acts_puback {seen : Address} {ack : Sensor.TopicAck} {link : LinkName}
    (hphase : t.session.phase.isConnected = true)
    (hinput : input = .sensor seen (.puback ack) link) :
    Acts context input t (t.puback context ack) := by
  unfold puback
  split
  next hcode => exact .single (.forgetId hphase hinput hcode)
  next => exact acts_forward hphase rfl

theorem acts_subscribe (request : Sensor.TopicRequest)
    (hphase : t.session.phase = .connected exchanges) :
    Acts context input t (t.subscribe context exchanges request) := by
  simp only [subscribe]
  split
  · exact .refl
  · split
    · exact acts_tell _
    · exact acts_forward_then hphase rfl fun next hnext =>
        acts_exchange hnext rfl fun _ hin => .inl hin

theorem acts_unsubscribe {seen : Address} {request : Sensor.TopicRequest} {link : LinkName}
    (hphase : t.session.phase = .connected exchanges)
    (hinput : input = .sensor seen (.unsubscribe request) link) :
    Acts context input t (t.unsubscribe context exchanges request) := by
  simp only [unsubscribe]
  split
  · exact .refl
  · split
    next => exact .refl
    next name hname =>
      refine acts_forward_then hphase rfl fun next hnext => acts_exchange hnext rfl ?_
      intro asked hin
      cases hin
      refine .inr ⟨seen, request.flags, link, hinput, ?_⟩
      intro full htopic
      simp only at htopic
      rw [htopic] at hname
      exact (Option.some.inj hname).symm

theorem acts_disconnect : Acts context input t (t.disconnect context) := by
  unfold disconnect
  split
  next => exact .refl
  next =>
    split
    next hopen => exact .single (.leave hopen)
    next => exact .single (.tearDown t)

/-- What a session does with a message of its device is a sequence of acts. -/
theorem sensor_acts (seen : Address) (message : Sensor.Message) (link : LinkName) :
    Acts context (.sensor seen message link) t (t.sensor context message link) := by
  cases message with
  | searchGateway radius => exact acts_emit rfl
  | connect request => exact acts_connect request rfl
  | willTopic will => exact acts_willTopic will
  | willMessage data => exact acts_willMessage data rfl
  | register registration => exact acts_whenConnected fun _ _ => acts_register registration rfl
  | regack ack => exact acts_whenConnected fun _ h => acts_regack ack h rfl
  | publish publication =>
    by_cases hlevel : publication.flags.qos = .minusOne
    · rw [Transition.sensor_of_minusOne hlevel]
      exact acts_emit rfl
    · rw [Transition.sensor_of_ne_minusOne hlevel]
      exact acts_whenConnected fun _ h => acts_publish publication h
  | puback ack => exact acts_whenConnected fun _ h => acts_puback (by rw [h]; rfl) rfl
  | pubrec msgId => exact acts_relay rfl
  | pubrel msgId => exact acts_relay rfl
  | pubcomp msgId => exact acts_relay rfl
  | subscribe request => exact acts_whenConnected fun _ h => acts_subscribe request h
  | unsubscribe request => exact acts_whenConnected fun _ h => acts_unsubscribe h rfl
  | pingRequest clientId => exact acts_relay rfl
  | pingResponse => exact acts_relay rfl
  | disconnect duration => exact acts_disconnect
  | _ => exact .refl

/-! ### Messages of the broker -/

theorem acts_connack (code : UInt8) :
    Acts context (.broker (.connack code)) t (t.connack code) := by
  unfold connack
  split
  next hphase =>
    split
    next hcode =>
      have haccepted : Acts context (.broker (.connack code)) t (t.enter (.connected {})) :=
        .single (.accept hphase (by simp [Input.isAcceptance, hcode]))
      exact haccepted.trans (acts_tell _)
    next => exact .single (.tearDown t)
  next => exact .refl

theorem acts_deliver (publication : Broker.Publish)
    (hphase : t.session.phase = .connected exchanges) :
    Acts context input t (t.deliver context exchanges publication) := by
  simp only [deliver]
  split
  · exact .refl
  · split
    · exact .refl
    · split
      next => exact acts_tell _
      next hunknown =>
        split
        · exact acts_tell _
        · exact .single (.offer publication hphase hunknown)

theorem acts_confirmPublish (msgId : UInt16) (hphase : t.session.phase = .connected exchanges) :
    Acts context input t (t.confirmPublish exchanges msgId) := by
  unfold confirmPublish
  split
  next => exact .refl
  next =>
    split
    · exact .refl
    · have hconfirmed : Acts context input t
          (t.enter (.connected { exchanges with publish := none })) :=
        acts_exchange hphase rfl fun _ hin => .inl hin
      exact hconfirmed.trans (acts_tell _)

/-- A subscription that is confirmed registers its name or leaves the ids alone. -/
theorem grantTopic_cases (topics : Topic.Table) (topic : Sensor.TopicRef) :
    (grantTopic topics topic).2.2 = topics ∨
      ∃ name, topic = .named name ∧ Topic.isWildcard name = false ∧
        (grantTopic topics topic).2.1 = (topics.register name).1.getD 0 ∧
        (grantTopic topics topic).2.2 = (topics.register name).2 := by
  cases topic with
  | named name =>
    cases hwild : Topic.isWildcard name with
    | true => exact .inl (by simp [grantTopic, hwild])
    | false => exact .inr ⟨name, rfl, hwild, by simp [grantTopic, hwild]⟩
  | short | predefined => exact .inl rfl

theorem acts_grantTopic (topic : Sensor.TopicRef) (hinput : input.mayName = true) :
    Acts context input t (t.update fun session =>
      { session with topics := (grantTopic t.session.topics topic).2.2 }) := by
  rcases grantTopic_cases t.session.topics topic with hkept | ⟨name, -, -, -, hregistered⟩
  · rw [hkept]
    exact .refl
  · rw [hregistered]
    exact .single (.register t name hinput)

theorem acts_confirmSubscribe (msgId : UInt16) (granted : UInt8)
    (hphase : t.session.phase = .connected exchanges) (hinput : input.mayName = true) :
    Acts context input t (t.confirmSubscribe exchanges msgId granted) := by
  unfold confirmSubscribe
  split
  next => exact .refl
  next request _ =>
    split
    · exact .refl
    · have hconfirmed : Acts context input t
          (t.enter (.connected { exchanges with subscribe := none })) :=
        acts_exchange hphase rfl fun _ hin => .inl hin
      have hgranted := hconfirmed.trans (acts_grantTopic request.topic hinput)
      exact hgranted.trans (acts_tell _)

/-- The name is taken from its ids while the request still waits: nothing but the
order of the two changes, and only so is it seen whose name it is. -/
theorem acts_confirmUnsubscribe {msgId : UInt16}
    (hphase : t.session.phase = .connected exchanges)
    (hinput : input = .broker (.unsuback msgId)) :
    Acts context input t (t.confirmUnsubscribe exchanges msgId) := by
  unfold confirmUnsubscribe
  split
  next => exact .refl
  next request hsome =>
    split
    · exact .refl
    next hid =>
      have hid : request.msgId = msgId := Decidable.not_not.mp hid
      extract_lets forget
      have hforgotten : Acts context input t
          (t.update fun session => { session with topics := forget session.topics }) := by
        cases htopic : request.topic with
        | named name =>
          have hforget : forget = fun topics => (topics.removeName request.name).2 := by
            funext topics
            simp [forget, htopic]
          rw [hforget]
          exact .single (.forgetName hphase (hid ▸ hinput) hsome htopic)
        | short first second =>
          have hforget : forget = id := by
            funext topics
            simp [forget, htopic]
          rw [hforget]
          exact .refl
        | predefined topicId =>
          have hforget : forget = id := by
            funext topics
            simp [forget, htopic]
          rw [hforget]
          exact .refl
      have hended : Acts context input t
          ((t.update fun session => { session with topics := forget session.topics }).enter
            (.connected { exchanges with unsubscribe := none })) :=
        hforgotten.trans (acts_exchange hphase rfl fun _ hin => by cases hin)
      exact hended.trans (acts_tell _)

theorem acts_brokerConnected (message : Broker.Message)
    (hphase : t.session.phase = .connected exchanges) :
    Acts context (.broker message) t (t.brokerConnected context exchanges message) := by
  cases message with
  | publish publication => exact acts_deliver publication hphase
  | puback msgId => exact acts_confirmPublish msgId hphase
  | suback msgId granted => exact acts_confirmSubscribe msgId _ hphase rfl
  | unsuback msgId => exact acts_confirmUnsubscribe hphase rfl
  | pubrec msgId => exact acts_tell _
  | pubrel msgId => exact acts_tell _
  | pubcomp msgId => exact acts_tell _
  | pingRequest => exact acts_tell _
  | pingResponse => exact acts_tell _
  | _ => exact .refl

/-- What a session does with a message of its broker is a sequence of acts. -/
theorem broker_acts (message : Broker.Message) :
    Acts context (.broker message) t (t.broker context message) := by
  unfold broker
  split
  next code => exact acts_connack code
  next =>
    split
    next exchanges hphase => exact acts_brokerConnected message hphase
    next => exact .refl

/-! ### Signals -/

theorem acts_willTopicTimeout : Acts context input t (t.willTopicTimeout context) := by
  unfold willTopicTimeout
  split
  next request tries hphase =>
    split
    · have hdropped : Acts context input t (t.enter .idle) :=
        .single (.wait (by rw [hphase]; rfl) rfl)
      exact hdropped.trans (acts_emit rfl)
    · have hsent : Alike t (t.toDevice .willTopicRequest) := alike_toDevice _
      exact (acts_tell _).tail (.wait (by rw [hsent.phase, hphase]; rfl) rfl)
  next => exact .refl

theorem acts_willMessageTimeout : Acts context input t (t.willMessageTimeout context) := by
  unfold willMessageTimeout
  split
  next request will tries hphase =>
    split
    · have hdropped : Acts context input t (t.enter .idle) :=
        .single (.wait (by rw [hphase]; rfl) rfl)
      exact hdropped.trans (acts_emit rfl)
    · have hsent : Alike t (t.toDevice .willMessageRequest) := alike_toDevice _
      exact (acts_tell _).tail (.wait (by rw [hsent.phase, hphase]; rfl) rfl)
  next => exact .refl

theorem acts_regackTimeout : Acts context input t (t.regackTimeout context) := by
  unfold regackTimeout
  split
  next exchanges hphase =>
    split
    next => exact .refl
    next registration hsome =>
      split
      · exact acts_endRegistration hphase
      · have hnumbered : Acts context input t t.takeMsgId.2 :=
          .single (.note t t.session.clientId _)
        have hsent := hnumbered.trans (acts_tell (offer
          { registration with msgId := t.session.nextMsgId, tries := registration.tries + 1 }))
        have halike : Alike t.takeMsgId.2 (t.takeMsgId.2.toDevice (offer
          { registration with msgId := t.session.nextMsgId, tries := registration.tries + 1 })) :=
            alike_toDevice _
        refine hsent.tail (.exchange (halike.phase.trans hphase) ?_ fun _ hin => .inl hin)
        intro again hin
        cases hin
        exact ⟨registration, hsome, rfl⟩
  next => exact .refl

/-- What a session does with a signal that leaves it where it is is a sequence of
acts. -/
theorem signal_acts (signal : Signal) : Acts context input t (t.signal context signal) := by
  cases signal with
  | connectionLost => exact acts_connectionLost
  | willTopicTimeout => exact acts_willTopicTimeout
  | willMessageTimeout => exact acts_willMessageTimeout
  | regackTimeout => exact acts_regackTimeout
  | checkInactivity => exact .refl
  | sendKeepAlive => exact .refl
  | shutDown => exact .single (.shutDown t)

end Transition

/-! ### Whole turns -/

/-- The session with which a turn begins: a device that was heard is known to be
alive, and to be reached over this link. -/
def hear (config : Config) (turn : Turn) (session : Session) : Session :=
  match turn.input with
  | .sensor seen _ link =>
      { session with
        address := session.address.refresh seen
        deadline := (turn.context config).deadline
        link := some link }
  | .broker _ => { session with deadline := (turn.context config).deadline }
  | .signal _ => session

@[simp] theorem phase_hear (config : Config) (turn : Turn) (session : Session) :
    (session.hear config turn).phase = session.phase := by
  unfold hear
  split <;> rfl

@[simp] theorem brokerOpen_hear (config : Config) (turn : Turn) (session : Session) :
    (session.hear config turn).brokerOpen = session.brokerOpen := by
  unfold hear
  split <;> rfl

@[simp] theorem topics_hear (config : Config) (turn : Turn) (session : Session) :
    (session.hear config turn).topics = session.topics := by
  unfold hear
  split <;> rfl

theorem take_sensor (config : Config) {turn : Turn} {seen : Address} {message : Sensor.Message}
    {link : LinkName} (hinput : turn.input = .sensor seen message link) (session : Session) :
    session.take config turn =
      (Transition.start (session.hear config turn)).sensor (turn.context config) message link := by
  unfold take hear
  rw [hinput]
  rfl

theorem take_broker (config : Config) {turn : Turn} {message : Broker.Message}
    (hinput : turn.input = .broker message) (session : Session) :
    session.take config turn =
      (Transition.start (session.hear config turn)).broker (turn.context config) message := by
  unfold take hear
  rw [hinput]
  rfl

/-- A signal other than the look at how long the device has been silent. -/
theorem take_signal (config : Config) {turn : Turn} {signal : Signal}
    (hinput : turn.input = .signal signal) (hstays : signal ≠ .checkInactivity)
    (session : Session) :
    session.take config turn =
      (Transition.start (session.hear config turn)).signal (turn.context config) signal := by
  have hends : session.endsAt (turn.context config) signal = false := by
    simp [endsAt, hstays]
  unfold take hear
  rw [hinput]
  exact if_neg (Bool.eq_false_iff.mp hends)

/-- Every turn is a sequence of acts. -/
theorem take_acts (config : Config) (turn : Turn) (session : Session) :
    Acts (turn.context config) turn.input (.start (session.hear config turn))
      (session.take config turn) := by
  obtain ⟨now, line, input⟩ := turn
  cases input with
  | sensor seen message link => exact Transition.sensor_acts seen message link
  | broker message => exact Transition.broker_acts message
  | signal signal =>
    simp only [take, hear, onSignal]
    split
    · exact (Relation.ReflTransGen.single (.close _)).trans (Transition.acts_emit rfl)
    · exact Transition.signal_acts signal

end Session

end SensorGateway
