import SensorGateway.Proofs.Session.Run

/-!
What one step can do to the phase of a session and to its timers. `Move` lists
the possibilities, and `sensor_leads`, `broker_leads` and `signal_leads` say that
there are no others. Whoever needs to know how a session gets from one phase to
the next has to look at the moves only, not at the handlers.
-/

namespace SensorGateway.Session

def Effect.usesTimer : Effect → Bool
  | arm _ | disarm _ | disarmAll => true
  | broker _ | device .. | forGateway .. => false

/-- The moves from phase to phase, each with what it does to the timers. -/
inductive Phase.Move (maxRetries : Nat) : Phase → List Effect → Phase → Prop where
  | stay (phase : Phase) : Move maxRetries phase [] phase
  | askWillTopic {phase : Phase} (request : Sensor.Connect)
      (hfree : phase = .idle ∨ phase = .awaitingConnack) :
      Move maxRetries phase [.arm .willTopicTimeout] (.awaitingWillTopic request 1)
  | repeatWillTopic {request : Sensor.Connect} {tries : UInt32} (hleft : tries.toNat ≤ maxRetries) :
      Move maxRetries (.awaitingWillTopic request tries) []
        (.awaitingWillTopic request (tries + 1))
  | dropWillTopic {request : Sensor.Connect} {tries : UInt32} (hspent : maxRetries < tries.toNat) :
      Move maxRetries (.awaitingWillTopic request tries) [.disarm .willTopicTimeout] .idle
  | askWillMessage {request : Sensor.Connect} {tries : UInt32} (will : Sensor.WillTopic) :
      Move maxRetries (.awaitingWillTopic request tries)
        [.disarm .willTopicTimeout, .arm .willMessageTimeout]
        (.awaitingWillMessage request will 1)
  | repeatWillMessage {request : Sensor.Connect} {will : Sensor.WillTopic} {tries : UInt32}
      (hleft : tries.toNat ≤ maxRetries) :
      Move maxRetries (.awaitingWillMessage request will tries) []
        (.awaitingWillMessage request will (tries + 1))
  | dropWillMessage {request : Sensor.Connect} {will : Sensor.WillTopic} {tries : UInt32}
      (hspent : maxRetries < tries.toNat) :
      Move maxRetries (.awaitingWillMessage request will tries) [.disarm .willMessageTimeout] .idle
  | endWill {request : Sensor.Connect} {will : Sensor.WillTopic} {tries : UInt32} {phase : Phase}
      (hasked : phase = .idle ∨ phase = .awaitingConnack) :
      Move maxRetries (.awaitingWillMessage request will tries) [.disarm .willMessageTimeout] phase
  | askBroker {phase next : Phase} (hfree : phase = .idle ∨ phase = .awaitingConnack)
      (hasked : next = .idle ∨ next = .awaitingConnack) : Move maxRetries phase [] next
  | accept : Move maxRetries .awaitingConnack [] (.connected {})
  | exchange {before after : Exchanges} (hsame : after.registration = before.registration) :
      Move maxRetries (.connected before) [] (.connected after)
  | offer {before : Exchanges} (registration : Registration) (hnone : before.registration = none)
      (hfirst : registration.tries = 1) :
      Move maxRetries (.connected before) [.arm .regackTimeout]
        (.connected { before with registration := some registration })
  | repeatOffer {before : Exchanges} {registration : Registration} (msgId : UInt16)
      (hsome : before.registration = some registration)
      (hleft : registration.tries.toNat ≤ maxRetries) :
      Move maxRetries (.connected before) []
        (.connected { before with
          registration := some { registration with msgId, tries := registration.tries + 1 } })
  | endOffer {before : Exchanges} {registration : Registration}
      (hsome : before.registration = some registration) :
      Move maxRetries (.connected before) [.disarm .regackTimeout]
        (.connected { before with registration := none })
  | tearDown (phase : Phase) : Move maxRetries phase [.disarmAll] .idle

namespace Transition

def timerUses (transition : Transition) : List Effect :=
  transition.effects.filter (·.usesTimer)

/-- One transition leads to another by a move. The device stays the same. -/
structure Leads (maxRetries : Nat) (t next : Transition) : Prop where
  address : next.session.address = t.session.address
  move : ∃ uses, next.timerUses = t.timerUses ++ uses ∧
    Phase.Move maxRetries t.session.phase uses next.session.phase

structure Alike (t next : Transition) : Prop where
  address : next.session.address = t.session.address
  phase : next.session.phase = t.session.phase
  uses : next.timerUses = t.timerUses

variable {t next last : Transition} {maxRetries : Nat} {exchanges : Exchanges}

@[simp] theorem timerUses_emit (effect : Effect) :
    (t.emit effect).timerUses =
      t.timerUses ++ if effect.usesTimer then [effect] else [] := by
  cases h : effect.usesTimer <;> simp [timerUses, emit, h]

@[simp] theorem timerUses_update (f : Session → Session) :
    (t.update f).timerUses = t.timerUses := rfl

theorem Alike.trans (h : Alike t next) (h' : Alike next last) : Alike t last :=
  ⟨h'.address.trans h.address, h'.phase.trans h.phase, h'.uses.trans h.uses⟩

/-- A move may begin at any transition that is alike. -/
theorem Alike.leads (h : Alike t next) (h' : Leads maxRetries next last) :
    Leads maxRetries t last := by
  obtain ⟨uses, huses, hmove⟩ := h'.move
  exact ⟨h'.address.trans h.address, uses, h.uses ▸ huses, h.phase ▸ hmove⟩

theorem leads_refl : Leads maxRetries t t := ⟨rfl, [], by simp, .stay _⟩

theorem Alike.stays (h : Alike t next) : Leads maxRetries t next := by
  obtain ⟨haddress, hphase, huses⟩ := h
  exact ⟨haddress, [], by simpa using huses, hphase ▸ .stay _⟩

theorem alike_emit {effect : Effect} (h : effect.usesTimer = false) : Alike t (t.emit effect) :=
  ⟨rfl, rfl, by simp [h]⟩

theorem alike_toDevice (message : Sensor.Message) : Alike t (t.toDevice message) := by
  unfold toDevice
  split
  · exact ⟨rfl, rfl, rfl⟩
  · exact alike_emit rfl

theorem alike_closeBroker : Alike t t.closeBroker :=
  ⟨rfl, rfl, by simp [closeBroker, Effect.usesTimer]⟩

theorem alike_openBroker (line : Broker.Line) : Alike t (t.openBroker line).2 :=
  ⟨rfl, rfl, by simp [openBroker, Effect.usesTimer]⟩

theorem alike_sendBroker (line : Broker.Line) (message : Broker.Message) :
    Alike t (t.sendBroker line message).2 :=
  ⟨rfl, rfl, by simp [sendBroker, Effect.usesTimer]⟩

theorem alike_topics (f : Topic.Table → Topic.Table) :
    Alike t (t.update fun session => { session with topics := f session.topics }) :=
  ⟨rfl, rfl, rfl⟩

/-- A move that leaves the timers alone. -/
theorem leads_enter {phase : Phase} (hmove : Phase.Move maxRetries t.session.phase [] phase) :
    Leads maxRetries t (t.enter phase) :=
  ⟨rfl, [], by simp [enter], hmove⟩

theorem leads_tearDown : Leads maxRetries t t.tearDown := by
  have hsent : Alike t (t.toDevice (.disconnect none)) := alike_toDevice _
  refine ⟨hsent.address, [.disarmAll], ?_, .tearDown _⟩
  simp [tearDown, closeBroker, Effect.usesTimer, hsent.uses]

/-- A lost connection tears down whatever is going on. -/
theorem connectionLost_of_busy (h : t.session.phase ≠ .idle) : t.connectionLost = t.tearDown := by
  unfold connectionLost
  split
  next hidle => exact (h hidle).elim
  next => rfl

theorem leads_connectionLost : Leads maxRetries t t.connectionLost := by
  unfold connectionLost
  split
  · exact leads_refl
  · exact leads_tearDown

/-- A message that the broker takes changes nothing yet. -/
theorem alike_of_forward {line : Broker.Line} {message : Broker.Message}
    (h : t.forward line message = (true, next)) : Alike t next := by
  have hsent : Alike t (t.sendBroker line message).2 := alike_sendBroker line message
  unfold forward at h
  rcases hresult : t.sendBroker line message with ⟨taken, sent⟩
  rw [hresult] at h hsent
  cases taken with
  | true => exact (Prod.mk.inj h).2 ▸ hsent
  | false => cases h

theorem leads_forward (line : Broker.Line) (message : Broker.Message) :
    Leads maxRetries t (t.forward line message).2 := by
  have hsent : Alike t (t.sendBroker line message).2 := alike_sendBroker line message
  unfold forward
  rcases hresult : t.sendBroker line message with ⟨taken, sent⟩
  rw [hresult] at hsent
  cases taken with
  | true => exact hsent.stays
  | false => exact hsent.leads leads_connectionLost

/-- What follows once the broker has taken a message. -/
theorem leads_forward_then {line : Broker.Line} {message : Broker.Message}
    {step : Transition → Transition}
    (h : ∀ next, Alike t next → Leads maxRetries next (step next)) :
    Leads maxRetries t
      (match t.forward line message with
        | (false, next) => next
        | (true, next) => step next) := by
  have hforward : Leads maxRetries t (t.forward line message).2 := leads_forward line message
  rcases hresult : t.forward line message with ⟨taken, next⟩
  rw [hresult] at hforward
  cases taken with
  | false => exact hforward
  | true => exact (alike_of_forward hresult).leads (h next (alike_of_forward hresult))

theorem leads_whenConnected {step : Exchanges → Transition → Transition}
    (h : ∀ exchanges, t.session.phase = .connected exchanges →
      Leads maxRetries t (step exchanges t)) :
    Leads maxRetries t (t.whenConnected step) := by
  unfold whenConnected
  split
  next exchanges hphase => exact h exchanges hphase
  next => exact (alike_toDevice _).stays

theorem leads_relay (context : Context) (message : Broker.Message) :
    Leads maxRetries t (t.relay context message) :=
  leads_whenConnected fun _ _ => leads_forward context.line message

/-- Asking the broker leads nowhere or to waiting for its answer. -/
structure Asks (t next : Transition) : Prop where
  address : next.session.address = t.session.address
  phase : next.session.phase = .idle ∨ next.session.phase = .awaitingConnack
  uses : next.timerUses = t.timerUses

theorem asks_connectBroker (context : Context) (request : Sensor.Connect)
    (will : Option Broker.Will) : Asks t (t.connectBroker context request will) := by
  have hopened : Alike (t.enter .idle) ((t.enter .idle).openBroker context.line).2 :=
    alike_openBroker context.line
  unfold connectBroker
  rcases hopen : (t.enter .idle).openBroker context.line with ⟨isOpen, opened⟩
  rw [hopen] at hopened
  cases isOpen with
  | false => exact ⟨hopened.address, .inl hopened.phase, hopened.uses⟩
  | true =>
    have hsent := hopened.trans
      (alike_sendBroker context.line (.connect (brokerConnect context request will)))
    simp only
    rcases hsend : opened.sendBroker context.line (.connect (brokerConnect context request will))
      with ⟨taken, sent⟩
    rw [hsend] at hsent
    cases taken with
    | false =>
      have hclosed := hsent.trans alike_closeBroker
      exact ⟨hclosed.address, .inl hclosed.phase, hclosed.uses⟩
    | true => exact ⟨hsent.address, .inr rfl, hsent.uses⟩

/-- Where a session is that begins to connect its device does not matter, only
where it was when the step began. -/
theorem leads_establish {origin : Transition} (context : Context) (request : Sensor.Connect)
    (haddress : t.session.address = origin.session.address)
    (huses : t.timerUses = origin.timerUses)
    (hfree : origin.session.phase = .idle ∨ origin.session.phase = .awaitingConnack) :
    Leads maxRetries origin (t.establish context request) := by
  unfold establish
  split
  · have hsent : Alike t (t.toDevice .willTopicRequest) := alike_toDevice _
    refine ⟨hsent.address.trans haddress, [.arm .willTopicTimeout], ?_,
      .askWillTopic request hfree⟩
    simp [enter, hsent.uses, huses, Effect.usesTimer]
  · have hasks := asks_connectBroker (t := t) context request none
    exact ⟨hasks.address.trans haddress, [], by simpa using hasks.uses.trans huses,
      .askBroker hfree hasks.phase⟩

theorem leads_connect (context : Context) (request : Sensor.Connect) :
    Leads maxRetries t (t.connect context request) := by
  have hnamed : Alike t
      (t.update fun session => { session with clientId := request.clientId }) := ⟨rfl, rfl, rfl⟩
  refine hnamed.leads ?_
  unfold connect
  generalize t.update (fun session => { session with clientId := request.clientId }) = named
  simp only
  split
  next => exact (alike_toDevice _).stays
  next hphase =>
    have hclosed : Alike named named.closeBroker := alike_closeBroker
    exact leads_establish context request hclosed.address hclosed.uses (.inr hphase)
  next hphase => exact leads_establish context request rfl rfl (.inl hphase)
  next => exact leads_refl
  next => exact leads_refl

theorem leads_willTopic (will : Sensor.WillTopic) : Leads maxRetries t (t.willTopic will) := by
  unfold willTopic
  split
  next request tries hphase =>
    have hsent : Alike (t.emit (.disarm .willTopicTimeout))
        ((t.emit (.disarm .willTopicTimeout)).toDevice .willMessageRequest) := alike_toDevice _
    refine ⟨hsent.address, [.disarm .willTopicTimeout, .arm .willMessageTimeout], ?_, ?_⟩
    · simp [enter, hsent.uses, Effect.usesTimer]
    · exact hphase ▸ .askWillMessage will
  next => exact leads_refl

theorem leads_willMessage (context : Context) (data : Bytes) :
    Leads maxRetries t (t.willMessage context data) := by
  unfold willMessage
  split
  next request will tries hphase =>
    have hasks := asks_connectBroker (t := t.emit (.disarm .willMessageTimeout)) context request
      (brokerWill will data)
    refine ⟨hasks.address, [.disarm .willMessageTimeout], ?_, ?_⟩
    · simp [hasks.uses, Effect.usesTimer]
    · exact hphase ▸ .endWill hasks.phase
  next => exact leads_refl

theorem alike_register (registration : Sensor.Register) : Alike t (t.register registration) :=
  Alike.trans (alike_topics fun topics => (topics.register registration.topic).2)
    (alike_toDevice _)

theorem leads_endRegistration {registration : Registration}
    (hphase : t.session.phase = .connected exchanges)
    (hsome : exchanges.registration = some registration) :
    Leads maxRetries t (t.endRegistration exchanges) := by
  refine ⟨rfl, [.disarm .regackTimeout], ?_, ?_⟩
  · simp [endRegistration, enter, Effect.usesTimer]
  · exact hphase ▸ .endOffer hsome

/-- A move goes on over what makes no difference to it. -/
theorem Leads.alike (h : Leads maxRetries t next) (h' : Alike next last) :
    Leads maxRetries t last := by
  obtain ⟨uses, huses, hmove⟩ := h.move
  exact ⟨h'.address.trans h.address, uses, h'.uses.trans huses, h'.phase ▸ hmove⟩

theorem leads_regack (ack : Sensor.TopicAck) (hphase : t.session.phase = .connected exchanges) :
    Leads maxRetries t (t.regack exchanges ack) := by
  unfold regack
  split
  next => exact leads_refl
  next registration hsome =>
    split
    · exact leads_refl
    · have hend : Leads maxRetries t (t.endRegistration exchanges) :=
        leads_endRegistration hphase hsome
      simp only
      split
      · exact hend
      · have hassigned := alike_topics (t := t.endRegistration exchanges) fun topics =>
          (topics.assign registration.topicId registration.publication.topic).2
        exact hend.alike (hassigned.trans (alike_toDevice _))

/-- A change in what a connected device waits for, its registration apart. -/
theorem leads_exchange {after : Exchanges} (hphase : t.session.phase = .connected exchanges)
    (hsame : after.registration = exchanges.registration) :
    Leads maxRetries t (t.enter (.connected after)) :=
  leads_enter (hphase ▸ .exchange hsame)

theorem leads_publish (context : Context) (publication : Sensor.Publish)
    (hphase : t.session.phase = .connected exchanges) :
    Leads maxRetries t (t.publish context exchanges publication) := by
  simp only [publish]
  split
  · exact leads_refl
  · split
    · exact (alike_toDevice _).stays
    · by_cases hqos : publication.flags.qos = .atLeastOnce
      · simp only [hqos, if_true]
        exact leads_forward_then fun next hnext =>
          leads_exchange (hnext.phase.trans hphase) rfl
      · simp only [hqos, if_false]
        exact leads_forward_then fun next _ => leads_refl

theorem leads_puback (context : Context) (ack : Sensor.TopicAck) :
    Leads maxRetries t (t.puback context ack) := by
  unfold puback
  split
  · exact (alike_topics fun topics => (topics.removeId ack.topicId).2).stays
  · exact leads_forward context.line _

theorem leads_subscribe (context : Context) (request : Sensor.TopicRequest)
    (hphase : t.session.phase = .connected exchanges) :
    Leads maxRetries t (t.subscribe context exchanges request) := by
  simp only [subscribe]
  split
  · exact leads_refl
  · split
    · exact (alike_toDevice _).stays
    · exact leads_forward_then fun next hnext => leads_exchange (hnext.phase.trans hphase) rfl

theorem leads_unsubscribe (context : Context) (request : Sensor.TopicRequest)
    (hphase : t.session.phase = .connected exchanges) :
    Leads maxRetries t (t.unsubscribe context exchanges request) := by
  simp only [unsubscribe]
  split
  · exact leads_refl
  · split
    · exact leads_refl
    · exact leads_forward_then fun next hnext => leads_exchange (hnext.phase.trans hphase) rfl

theorem leads_disconnect (context : Context) : Leads maxRetries t (t.disconnect context) := by
  unfold disconnect
  split
  next => exact leads_refl
  next =>
    split
    · exact (alike_sendBroker context.line _).leads leads_tearDown
    · exact leads_tearDown

/-- What a session does with a message of its device is a move. -/
theorem sensor_leads (context : Context) (message : Sensor.Message) (link : LinkName) :
    Leads maxRetries t (t.sensor context message link) := by
  cases message with
  | searchGateway radius => exact (alike_emit rfl).stays
  | connect request => exact leads_connect context request
  | willTopic will => exact leads_willTopic will
  | willMessage data => exact leads_willMessage context data
  | register registration => exact leads_whenConnected fun _ _ => (alike_register _).stays
  | regack ack => exact leads_whenConnected fun _ h => leads_regack ack h
  | publish publication =>
    by_cases hlevel : publication.flags.qos = .minusOne
    · rw [Transition.sensor_of_minusOne hlevel]
      exact (alike_emit rfl).stays
    · rw [Transition.sensor_of_ne_minusOne hlevel]
      exact leads_whenConnected fun _ h => leads_publish context publication h
  | puback ack => exact leads_whenConnected fun _ _ => leads_puback context ack
  | pubrec msgId => exact leads_relay context _
  | pubrel msgId => exact leads_relay context _
  | pubcomp msgId => exact leads_relay context _
  | subscribe request => exact leads_whenConnected fun _ h => leads_subscribe context request h
  | unsubscribe request => exact leads_whenConnected fun _ h => leads_unsubscribe context request h
  | pingRequest clientId => exact leads_relay context _
  | pingResponse => exact leads_relay context _
  | disconnect duration => exact leads_disconnect context
  | _ => exact leads_refl

theorem leads_connack (code : UInt8) : Leads maxRetries t (t.connack code) := by
  unfold connack
  split
  next hphase =>
    split
    · have haccept : Leads maxRetries t (t.enter (.connected {})) :=
        leads_enter (hphase ▸ .accept)
      exact haccept.alike (alike_toDevice _)
    · exact leads_tearDown
  next => exact leads_refl

theorem leads_offerTopic (publication : Broker.Publish)
    (hphase : t.session.phase = .connected exchanges) :
    Leads maxRetries t (t.offerTopic exchanges publication) := by
  unfold offerTopic
  split
  · exact leads_refl
  next hbusy =>
    have hnone : exchanges.registration = none := by simpa using hbusy
    split
    next => exact leads_refl
    next topicId topics _ =>
      have hnumbered : Alike t (t.update (fun session => { session with topics })).takeMsgId.2 :=
        ⟨rfl, rfl, rfl⟩
      let registration : Registration :=
        { topicId, msgId := t.session.nextMsgId, publication, tries := 1 }
      have hsent := hnumbered.trans (alike_toDevice (offer registration))
      refine ⟨hsent.address, [.arm .regackTimeout], ?_, ?_⟩
      · rw [timerUses_emit]
        exact congrArg (· ++ [Effect.arm .regackTimeout]) hsent.uses
      · exact hphase ▸ .offer registration hnone rfl

theorem leads_deliver (context : Context) (publication : Broker.Publish)
    (hphase : t.session.phase = .connected exchanges) :
    Leads maxRetries t (t.deliver context exchanges publication) := by
  simp only [deliver]
  split
  · exact leads_refl
  · split
    · exact leads_refl
    · split
      · exact (alike_toDevice _).stays
      · split
        · exact (alike_toDevice _).stays
        · exact leads_offerTopic publication hphase

theorem leads_confirmPublish (msgId : UInt16) (hphase : t.session.phase = .connected exchanges) :
    Leads maxRetries t (t.confirmPublish exchanges msgId) := by
  unfold confirmPublish
  split
  next => exact leads_refl
  next =>
    split
    · exact leads_refl
    · have hconfirmed : Leads maxRetries t
          (t.enter (.connected { exchanges with publish := none })) :=
        leads_exchange hphase rfl
      exact hconfirmed.alike (alike_toDevice _)

theorem leads_confirmSubscribe (msgId : UInt16) (granted : UInt8)
    (hphase : t.session.phase = .connected exchanges) :
    Leads maxRetries t (t.confirmSubscribe exchanges msgId granted) := by
  unfold confirmSubscribe
  split
  next => exact leads_refl
  next request _ =>
    split
    · exact leads_refl
    · have hconfirmed : Leads maxRetries t
          (t.enter (.connected { exchanges with subscribe := none })) :=
        leads_exchange hphase rfl
      have hgranted := alike_topics
        (t := t.enter (.connected { exchanges with subscribe := none }))
        fun _ => (grantTopic t.session.topics request.topic).2.2
      exact hconfirmed.alike (hgranted.trans (alike_toDevice _))

theorem leads_confirmUnsubscribe (msgId : UInt16)
    (hphase : t.session.phase = .connected exchanges) :
    Leads maxRetries t (t.confirmUnsubscribe exchanges msgId) := by
  unfold confirmUnsubscribe
  split
  next => exact leads_refl
  next request _ =>
    split
    · exact leads_refl
    · have hconfirmed : Leads maxRetries t
          (t.enter (.connected { exchanges with unsubscribe := none })) :=
        leads_exchange hphase rfl
      extract_lets forget
      have hforgotten := alike_topics
        (t := t.enter (.connected { exchanges with unsubscribe := none })) forget
      exact hconfirmed.alike (hforgotten.trans (alike_toDevice _))

theorem leads_brokerConnected (context : Context) (message : Broker.Message)
    (hphase : t.session.phase = .connected exchanges) :
    Leads maxRetries t (t.brokerConnected context exchanges message) := by
  cases message with
  | publish publication => exact leads_deliver context publication hphase
  | puback msgId => exact leads_confirmPublish msgId hphase
  | suback msgId granted => exact leads_confirmSubscribe msgId _ hphase
  | unsuback msgId => exact leads_confirmUnsubscribe msgId hphase
  | pubrec msgId => exact (alike_toDevice _).stays
  | pubrel msgId => exact (alike_toDevice _).stays
  | pubcomp msgId => exact (alike_toDevice _).stays
  | pingRequest => exact (alike_toDevice _).stays
  | pingResponse => exact (alike_toDevice _).stays
  | _ => exact leads_refl

/-- What a session does with a message of its broker is a move. -/
theorem broker_leads (context : Context) (message : Broker.Message) :
    Leads maxRetries t (t.broker context message) := by
  unfold broker
  split
  next code => exact leads_connack code
  next =>
    split
    next exchanges hphase => exact leads_brokerConnected context message hphase
    next => exact leads_refl

theorem leads_willTopicTimeout (context : Context) :
    Leads context.config.maxRetries t (t.willTopicTimeout context) := by
  unfold willTopicTimeout
  split
  next request tries hphase =>
    split
    next hspent =>
      refine ⟨rfl, [.disarm .willTopicTimeout], ?_, hphase ▸ .dropWillTopic hspent⟩
      simp [enter, Effect.usesTimer]
    next hleft =>
      have hsent : Alike t (t.toDevice .willTopicRequest) := alike_toDevice _
      refine hsent.leads (leads_enter ?_)
      rw [hsent.phase, hphase]
      exact .repeatWillTopic (Nat.not_lt.mp hleft)
  next => exact leads_refl

theorem leads_willMessageTimeout (context : Context) :
    Leads context.config.maxRetries t (t.willMessageTimeout context) := by
  unfold willMessageTimeout
  split
  next request will tries hphase =>
    split
    next hspent =>
      refine ⟨rfl, [.disarm .willMessageTimeout], ?_, hphase ▸ .dropWillMessage hspent⟩
      simp [enter, Effect.usesTimer]
    next hleft =>
      have hsent : Alike t (t.toDevice .willMessageRequest) := alike_toDevice _
      refine hsent.leads (leads_enter ?_)
      rw [hsent.phase, hphase]
      exact .repeatWillMessage (Nat.not_lt.mp hleft)
  next => exact leads_refl

theorem leads_regackTimeout (context : Context) :
    Leads context.config.maxRetries t (t.regackTimeout context) := by
  unfold regackTimeout
  split
  next exchanges hphase =>
    split
    next => exact leads_refl
    next registration hsome =>
      split
      · exact leads_endRegistration hphase hsome
      next hleft =>
        have hnumbered : Alike t t.takeMsgId.2 := ⟨rfl, rfl, rfl⟩
        have hsent := hnumbered.trans (alike_toDevice (offer
          { registration with msgId := t.session.nextMsgId, tries := registration.tries + 1 }))
        refine hsent.leads (leads_enter ?_)
        rw [hsent.phase, hphase]
        exact .repeatOffer t.session.nextMsgId hsome (Nat.not_lt.mp hleft)
  next => exact leads_refl

/-- What a session does with a signal is a move, unless the gateway ends. -/
theorem signal_leads (context : Context) {signal : Signal} (h : signal ≠ .shutDown) :
    Leads context.config.maxRetries t (t.signal context signal) := by
  cases signal with
  | connectionLost => exact leads_connectionLost
  | willTopicTimeout => exact leads_willTopicTimeout context
  | willMessageTimeout => exact leads_willMessageTimeout context
  | regackTimeout => exact leads_regackTimeout context
  | checkInactivity => exact leads_refl
  | sendKeepAlive => exact leads_refl
  | shutDown => exact absurd rfl h

end Transition

/-! ### Whole steps -/

/-- A device that was heard. The deadline is any number here: to compute it is
to count nanoseconds. -/
theorem alike_heard (session : Session) (deadline : Nat) (link : Option LinkName) :
    Transition.Alike (.start session) (.start { session with deadline, link }) := ⟨rfl, rfl, rfl⟩

/-- A message of the device leads along one of the moves. -/
theorem onSensor_leads (maxRetries : Nat) (session : Session) (context : Context)
    (message : Sensor.Message) (link : LinkName) :
    Transition.Leads maxRetries (.start session) (session.onSensor context message link) := by
  unfold onSensor
  generalize context.deadline = deadline
  exact (alike_heard session deadline (some link)).leads
    (Transition.sensor_leads context message link)

/-- So does a message of the broker. -/
theorem onBroker_leads (maxRetries : Nat) (session : Session) (context : Context)
    (message : Broker.Message) :
    Transition.Leads maxRetries (.start session) (session.onBroker context message) := by
  unfold onBroker
  generalize context.deadline = deadline
  exact (alike_heard session deadline session.link).leads (Transition.broker_leads context message)

/-- So does a signal that does not end the session. -/
theorem onSignal_leads {session : Session} (context : Context) {signal : Signal}
    (h : signal ≠ .shutDown) (hlast : session.endsAt context signal = false) :
    Transition.Leads context.config.maxRetries (.start session)
      (session.onSignal context signal) := by
  have hstep : session.onSignal context signal =
      (Transition.start session).signal context signal := by
    simp [onSignal, hlast]
  rw [hstep]
  exact Transition.signal_leads context h

/-- What becomes of a session that ends: its timers end, and nothing else
happens to it. -/
structure Transition.Ends (t next : Transition) : Prop where
  address : next.session.address = t.session.address
  phase : next.session.phase = t.session.phase
  uses : next.timerUses = t.timerUses ++ [.disarmAll]

/-- A session that ends with a signal ends its timers. -/
theorem onSignal_ends {session : Session} (context : Context) {signal : Signal}
    (hlast : session.endsAt context signal = true) :
    Transition.Ends (.start session) (session.onSignal context signal) := by
  have hstep : session.onSignal context signal =
      (Transition.start session).closeBroker.emit .disarmAll := by
    simp [onSignal, hlast]
  rw [hstep]
  exact ⟨rfl, rfl, rfl⟩

theorem onSignal_shutDown (session : Session) (context : Context) :
    Transition.Ends (.start session) (session.onSignal context .shutDown) := by
  have hstep : session.onSignal context .shutDown =
      (Transition.start session).shutDown context := rfl
  rw [hstep]
  unfold Transition.shutDown
  simp only
  split
  · have hsent := Transition.alike_sendBroker (t := .start session) context.line .disconnect
    have hclosed := hsent.trans Transition.alike_closeBroker
    exact ⟨hclosed.address, hclosed.phase, by
      rw [Transition.timerUses_emit]; exact congrArg (· ++ [Effect.disarmAll]) hclosed.uses⟩
  · exact ⟨rfl, rfl, rfl⟩

end SensorGateway.Session
