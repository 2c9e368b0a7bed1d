import SensorGateway.Proofs.Session.Deliveries
import SensorGateway.Proofs.Session.Timeouts

/-!
What a session asks its device. It asks for the topic of a will, for the message
of it, or whether the device takes a topic id, and only for one of them at a time,
so that there is one question at most to which the answer is missing. `Asking`
says what a turn does to this question: it leaves it open, asks the next one,
asks once more, gives up, or has the answer. Everything else that a session says
asks the device for nothing.
-/

namespace SensorGateway

/-- The answer that a message asks the device for, if a session waits for one. -/
def Sensor.Message.asksFor? : Sensor.Message → Option Session.Handshake
  | willTopicRequest => some .willTopic
  | willMessageRequest => some .willMessage
  | register _ => some .regack
  | _ => none

namespace Session

inductive Question where
  | willTopic (tries : UInt32)
  | willMessage (tries : UInt32)
  | offer (registration : Registration)

namespace Question

def handshake : Question → Handshake
  | willTopic _ => .willTopic
  | willMessage _ => .willMessage
  | offer _ => .regack

def timeout : Question → Signal
  | willTopic _ => .willTopicTimeout
  | willMessage _ => .willMessageTimeout
  | offer _ => .regackTimeout

def message : Question → Sensor.Message
  | willTopic _ => .willTopicRequest
  | willMessage _ => .willMessageRequest
  | offer registration => Transition.offer registration

def tries : Question → UInt32
  | willTopic tries | willMessage tries => tries
  | offer registration => registration.tries

/-- Whether this is the answer. That to an offer is known by its message id. -/
def isAnsweredBy : Question → Input → Bool
  | willTopic _, .sensor _ (.willTopic _) _ => true
  | willMessage _, .sensor _ (.willMessage _) _ => true
  | offer registration, .sensor _ (.regack ack) _ => ack.msgId == registration.msgId
  | _, _ => false

/-- The same question once more. An offer goes out under another message id. -/
def again (msgId : UInt16) : Question → Question
  | willTopic tries => willTopic (tries + 1)
  | willMessage tries => willMessage (tries + 1)
  | offer registration => offer { registration with msgId, tries := registration.tries + 1 }

end Question

/-- Message ids are counted from 1 to 65535 and then from 1 again. -/
def followingId (id : UInt16) : UInt16 := if id = 65535 then 1 else id + 1

/-- The next message id once this was asked. Only an offer takes one. -/
def Question.idAfter (msgId : UInt16) : Question → UInt16
  | willTopic _ | willMessage _ => msgId
  | offer _ => followingId msgId

def Question.GoesBy (msgId : UInt16) : Question → Prop
  | willTopic _ | willMessage _ => True
  | offer registration => registration.msgId = msgId

theorem Question.timeout_mem (question : Question) :
    question.timeout ∈ [.willTopicTimeout, .willMessageTimeout, .regackTimeout] := by
  cases question <;> simp [timeout]

theorem Question.asksFor?_message (question : Question) :
    question.message.asksFor? = some question.handshake := by
  cases question <;> rfl

theorem Question.handshake_again (msgId : UInt16) (question : Question) :
    (question.again msgId).handshake = question.handshake := by
  cases question <;> rfl

theorem Question.tries_again (msgId : UInt16) (question : Question) :
    (question.again msgId).tries = question.tries + 1 := by
  cases question <;> rfl

def Phase.question? : Phase → Option Question
  | idle | awaitingConnack => none
  | awaitingWillTopic _ tries => some (.willTopic tries)
  | awaitingWillMessage _ _ tries => some (.willMessage tries)
  | connected exchanges => exchanges.registration.map .offer

namespace Transition

def asked (t : Transition) : List Sensor.Message := t.told.filter (·.asksFor?.isSome)

def question? (t : Transition) : Option Question := t.session.phase.question?

structure Wordless (t next : Transition) : Prop where
  asked : next.asked = t.asked
  nextMsgId : next.session.nextMsgId = t.session.nextMsgId

/-- Nothing is asked, and the question that was open stays open. -/
structure Plain (t next : Transition) : Prop extends Wordless t next where
  question : next.question? = t.question?

/-- Every timer ends, and what was asked does not matter any more. -/
structure Drops (t next : Transition) : Prop extends Wordless t next where
  question : next.question? = none
  effects : .disarmAll ∈ next.effects

/-- What a step does that is not about a question. -/
inductive Calm (t next : Transition) : Prop where
  | plain (h : Plain t next)
  | drops (h : Drops t next)

/-- What a step does about the question that is open. -/
inductive Asking (maxRetries : Nat) (input : Input) (t next : Transition) : Prop where
  | calm (hlater : ∀ old ∈ t.question?, input ≠ .signal old.timeout) (h : Calm t next)
  | answered {old : Question} (hold : t.question? = some old)
      (hanswer : old.isAnsweredBy input = true) (hnext : next.question? = none)
      (h : Wordless t next)
  /-- The first time that something is asked. -/
  | ask (question : Question) (hold : ∀ old ∈ t.question?, old.isAnsweredBy input = true ∧
        old.handshake ≠ question.handshake)
      (hnext : next.question? = some question) (hfirst : question.tries = 1)
      (hnumber : question.GoesBy t.session.nextMsgId)
      (hasked : t.session.link.isSome = true → next.asked = t.asked ++ [question.message])
      (hnextMsgId : next.session.nextMsgId = question.idAfter t.session.nextMsgId)
  | again {old : Question} (hold : t.question? = some old) (hinput : input = .signal old.timeout)
      (hleft : old.tries.toNat ≤ maxRetries)
      (hnext : next.question? = some (old.again t.session.nextMsgId))
      (hasked : t.session.link.isSome = true →
        next.asked = t.asked ++ [(old.again t.session.nextMsgId).message])
      (hnextMsgId : next.session.nextMsgId = old.idAfter t.session.nextMsgId)
  | giveUp {old : Question} (hold : t.question? = some old) (hinput : input = .signal old.timeout)
      (hspent : maxRetries < old.tries.toNat) (hnext : next.question? = none) (h : Wordless t next)
      (heffects : next.effects = t.effects ++ [.disarm old.timeout])

variable {context : Context} {input : Input} {t mid next : Transition} {exchanges : Exchanges}
variable {maxRetries : Nat}

theorem question?_of_connected (h : t.session.phase = .connected exchanges) :
    t.question? = exchanges.registration.map .offer := by
  rw [question?, h]
  rfl

theorem question?_of_free (h : t.session.phase = .idle ∨ t.session.phase = .awaitingConnack) :
    t.question? = none := by
  rcases h with h | h <;> rw [question?, h] <;> rfl

theorem exists_of_willTopic {tries : UInt32} (h : t.question? = some (.willTopic tries)) :
    ∃ request, t.session.phase = .awaitingWillTopic request tries := by
  unfold question? Phase.question? at h
  split at h
  next => cases h
  next => cases h
  next request _ hphase =>
    cases h
    exact ⟨request, hphase⟩
  next => cases h
  next exchanges _ =>
    cases hsome : exchanges.registration <;> rw [hsome] at h <;> cases h

theorem exists_of_willMessage {tries : UInt32} (h : t.question? = some (.willMessage tries)) :
    ∃ request will, t.session.phase = .awaitingWillMessage request will tries := by
  unfold question? Phase.question? at h
  split at h
  next => cases h
  next => cases h
  next => cases h
  next request will _ hphase =>
    cases h
    exact ⟨request, will, hphase⟩
  next exchanges _ =>
    cases hsome : exchanges.registration <;> rw [hsome] at h <;> cases h

theorem exists_of_offer {registration : Registration}
    (h : t.question? = some (.offer registration)) :
    ∃ exchanges, t.session.phase = .connected exchanges ∧
      exchanges.registration = some registration := by
  unfold question? Phase.question? at h
  split at h
  next => cases h
  next => cases h
  next => cases h
  next => cases h
  next exchanges hphase =>
    refine ⟨exchanges, hphase, ?_⟩
    cases hsome : exchanges.registration with
    | none =>
      rw [hsome] at h
      cases h
    | some other =>
      rw [hsome] at h
      cases h
      rfl

theorem asked_emit {effect : Effect} (h : effect.told? = none) : (t.emit effect).asked = t.asked :=
  congrArg (List.filter _) (told_emit h)

theorem nextMsgId_toDevice (message : Sensor.Message) :
    (t.toDevice message).session.nextMsgId = t.session.nextMsgId := by
  rw [session_toDevice]

theorem asked_toDevice_plain {message : Sensor.Message} (h : message.asksFor? = none) :
    (t.toDevice message).asked = t.asked := by
  by_cases hlink : t.session.link.isSome = true
  · rw [asked, told_toDevice hlink, List.filter_append]
    simp [asked, h]
  · unfold toDevice
    split
    next => rfl
    next link hsome =>
      rw [hsome] at hlink
      exact absurd rfl hlink

/-- A question that goes out is what the device is asked last. -/
theorem asked_toDevice (hlink : t.session.link.isSome = true) {message : Sensor.Message}
    (h : message.asksFor?.isSome = true) : (t.toDevice message).asked = t.asked ++ [message] := by
  rw [asked, told_toDevice hlink, List.filter_append]
  simp [asked, h]

theorem asked_question (hlink : t.session.link.isSome = true) (question : Question) :
    (t.toDevice question.message).asked = t.asked ++ [question.message] :=
  asked_toDevice hlink (by rw [Question.asksFor?_message]; rfl)

/-! ### What asks for nothing -/

theorem Wordless.trans (h : Wordless t mid) (h' : Wordless mid next) : Wordless t next :=
  ⟨h'.asked.trans h.asked, h'.nextMsgId.trans h.nextMsgId⟩

theorem Plain.refl (t : Transition) : Plain t t := ⟨⟨rfl, rfl⟩, rfl⟩

theorem Plain.trans (h : Plain t mid) (h' : Plain mid next) : Plain t next :=
  ⟨h.toWordless.trans h'.toWordless, h'.question.trans h.question⟩

/-- What is dropped after a plain step was dropped in all. -/
theorem Plain.drops (h : Plain t mid) (h' : Drops mid next) : Drops t next :=
  ⟨h.toWordless.trans h'.toWordless, h'.question, h'.effects⟩

theorem plain_emit {effect : Effect} (h : effect.told? = none) : Plain t (t.emit effect) :=
  ⟨⟨asked_emit h, rfl⟩, rfl⟩

theorem plain_toDevice {message : Sensor.Message} (h : message.asksFor? = none) :
    Plain t (t.toDevice message) := by
  have hsame : (t.toDevice message).session = t.session := session_toDevice message
  exact ⟨⟨asked_toDevice_plain h, by rw [hsame]⟩, by rw [question?, hsame, question?]⟩

theorem plain_update {f : Session → Session} (hphase : (f t.session).phase = t.session.phase)
    (hnextMsgId : (f t.session).nextMsgId = t.session.nextMsgId) : Plain t (t.update f) :=
  ⟨⟨rfl, hnextMsgId⟩, congrArg Phase.question? hphase⟩

theorem plain_closeBroker : Plain t t.closeBroker :=
  (plain_emit rfl).trans (plain_update rfl rfl)

theorem plain_openBroker (line : Broker.Line) : Plain t (t.openBroker line).2 :=
  ⟨⟨asked_emit rfl, rfl⟩, rfl⟩

theorem plain_sendBroker (line : Broker.Line) (message : Broker.Message) :
    Plain t (t.sendBroker line message).2 :=
  ⟨⟨asked_emit rfl, rfl⟩, rfl⟩

/-- A change in what a connected device waits for, its registration apart. -/
theorem plain_exchange {after : Exchanges} (hphase : t.session.phase = .connected exchanges)
    (hsame : after.registration = exchanges.registration) :
    Plain t (t.enter (.connected after)) := by
  refine ⟨⟨rfl, rfl⟩, ?_⟩
  rw [question?_of_connected hphase, ← hsame]
  rfl

theorem calm_refl : Calm t t := .plain (.refl t)

/-- A session that is torn down drops its question. -/
theorem drops_tearDown : Drops t t.tearDown := by
  have htold : Plain t ((t.toDevice (.disconnect none)).emit .disarmAll) :=
    (plain_toDevice rfl).trans (plain_emit rfl)
  refine ⟨htold.toWordless.trans ⟨?_, rfl⟩, rfl, ?_⟩
  · exact asked_emit rfl
  · simp [tearDown, closeBroker, update, emit]

theorem calm_connectionLost : Calm t t.connectionLost := by
  unfold connectionLost
  split
  · exact calm_refl
  · exact .drops drops_tearDown

theorem plain_of_forward {line : Broker.Line} {message : Broker.Message}
    (h : t.forward line message = (true, next)) : Plain t next := by
  obtain ⟨frame, isOpen, rfl⟩ := eq_of_forward_taken h
  exact (plain_emit rfl).trans (plain_update rfl rfl)

theorem Plain.calm (h : Plain t mid) (h' : Calm mid next) : Calm t next := by
  cases h' with
  | plain h' => exact .plain (h.trans h')
  | drops h' => exact .drops (h.drops h')

/-- What follows once the broker has taken a message. -/
theorem calm_forward_then {line : Broker.Line} {message : Broker.Message}
    {step : Transition → Transition} (hphase : t.session.phase = .connected exchanges)
    (h : ∀ mid, mid.session.phase = .connected exchanges → Plain mid (step mid)) :
    Calm t
      (match t.forward line message with
        | (false, next) => next
        | (true, next) => step next) := by
  rcases hresult : t.forward line message with ⟨taken, next⟩
  cases taken with
  | true =>
    have hsame : next.session.phase = .connected exchanges :=
      (alike_of_forward hresult).phase.trans hphase
    exact .plain ((plain_of_forward hresult).trans (h next hsame))
  | false =>
    have hsent : Plain t (t.sendBroker line message).2 := plain_sendBroker line message
    unfold forward at hresult
    rcases hsend : t.sendBroker line message with ⟨taken, sent⟩
    rw [hsend] at hresult hsent
    cases taken with
    | true => cases hresult
    | false => exact (Prod.mk.inj hresult).2 ▸ hsent.calm calm_connectionLost

/-- Handing a message on asks nothing, whether the link takes it or not. -/
theorem calm_forward (line : Broker.Line) (message : Broker.Message)
    (hphase : t.session.phase = .connected exchanges) : Calm t (t.forward line message).2 := by
  have h : Calm t (match t.forward line message with
      | (false, next) => next
      | (true, next) => next) := calm_forward_then hphase fun mid _ => .refl mid
  revert h
  generalize t.forward line message = result
  rcases result with ⟨_ | _, next⟩ <;> exact id

theorem calm_whenConnected {step : Exchanges → Transition → Transition}
    (h : ∀ exchanges, t.session.phase = .connected exchanges → Calm t (step exchanges t)) :
    Calm t (t.whenConnected step) := by
  unfold whenConnected
  split
  next exchanges hphase => exact h exchanges hphase
  next => exact .plain (plain_toDevice rfl)

theorem calm_relay (message : Broker.Message) : Calm t (t.relay context message) :=
  calm_whenConnected fun _ hphase => calm_forward context.line message hphase

theorem wordless_connectBroker (request : Sensor.Connect) (will : Option Broker.Will) :
    Wordless t (t.connectBroker context request will) := by
  have hopened : Plain (t.enter .idle) ((t.enter .idle).openBroker context.line).2 :=
    plain_openBroker context.line
  have hidle : Wordless t (t.enter .idle) := ⟨rfl, rfl⟩
  unfold connectBroker
  rcases hopen : (t.enter .idle).openBroker context.line with ⟨isOpen, opened⟩
  rw [hopen] at hopened
  cases isOpen with
  | false => exact hidle.trans hopened.toWordless
  | true =>
    simp only
    have hsent := hopened.trans (plain_sendBroker context.line
      (.connect (brokerConnect context request will)))
    rcases hsend : opened.sendBroker context.line (.connect (brokerConnect context request will))
      with ⟨taken, sent⟩
    rw [hsend] at hsent
    cases taken with
    | true => exact hidle.trans (hsent.toWordless.trans ⟨rfl, rfl⟩)
    | false => exact hidle.trans (hsent.trans plain_closeBroker).toWordless

/-! ### Messages of the device -/

/-- A device without a question is asked for its will, or the broker is asked. -/
theorem asking_establish (request : Sensor.Connect) (h : Wordless t mid)
    (hlink : mid.session.link = t.session.link) (hold : t.question? = none)
    (hinput : ∀ signal, input ≠ .signal signal) :
    Asking maxRetries input t (mid.establish context request) := by
  unfold establish
  split
  · refine .ask (.willTopic 1) (fun old hin => ?_) rfl rfl trivial
      (fun hsome => ?_) ?_
    · rw [hold] at hin
      cases hin
    · have hasked := asked_question (hlink ▸ hsome) (.willTopic 1)
      rw [h.asked] at hasked
      exact (asked_emit rfl).trans hasked
    · exact (nextMsgId_toDevice (t := mid) .willTopicRequest).trans h.nextMsgId
  · have hasks := asks_connectBroker (t := mid) context request none
    have hwordless : Wordless t (mid.connectBroker context request none) :=
      h.trans (wordless_connectBroker request none)
    exact .calm (fun _ _ => hinput _)
      (.plain ⟨hwordless, (question?_of_free hasks.phase).trans hold.symm⟩)

/-- A CONNECT has the device asked for a will, or nothing. -/
theorem asking_connect (request : Sensor.Connect) (hinput : ∀ signal, input ≠ .signal signal) :
    Asking maxRetries input t (t.connect context request) := by
  have hnamed : Plain t (t.update fun session => { session with clientId := request.clientId }) :=
    plain_update rfl rfl
  have hlink : (t.update fun session =>
      { session with clientId := request.clientId }).session.link = t.session.link := rfl
  unfold connect
  generalize t.update (fun session => { session with clientId := request.clientId }) = named
    at hnamed hlink
  have hold : named.question? = t.question? := hnamed.question
  have hcalm {next : Transition} (h : Plain t next) : Asking maxRetries input t next :=
    .calm (fun _ _ => hinput _) (.plain h)
  simp only
  split
  next => exact hcalm (hnamed.trans (plain_toDevice rfl))
  next hphase =>
    have hclosed : Wordless t (named.closeBroker.enter .idle) :=
      hnamed.toWordless.trans (plain_closeBroker.toWordless.trans ⟨rfl, rfl⟩)
    exact asking_establish request hclosed hlink (hold ▸ question?_of_free (.inr hphase)) hinput
  next hphase =>
    exact asking_establish request hnamed.toWordless hlink
      (hold ▸ question?_of_free (.inl hphase)) hinput
  next => exact hcalm hnamed
  next => exact hcalm hnamed

theorem asking_willTopic {seen : Address} (will : Sensor.WillTopic) {link : LinkName} :
    Asking maxRetries (.sensor seen (.willTopic will) link) t (t.willTopic will) := by
  unfold willTopic
  split
  next request tries hphase =>
    have hold : t.question? = some (.willTopic tries) := by rw [question?, hphase]; rfl
    refine .ask (.willMessage 1) (fun old hin => ?_) rfl rfl trivial (fun hsome => ?_) ?_
    · obtain rfl : Question.willTopic tries = old := Option.some.inj (hold.symm.trans hin)
      exact ⟨rfl, nofun⟩
    · have hended : (t.emit (.disarm .willTopicTimeout)).asked = t.asked := asked_emit rfl
      have hasked := asked_question (t := t.emit (.disarm .willTopicTimeout)) hsome (.willMessage 1)
      rw [hended] at hasked
      exact (asked_emit rfl).trans hasked
    · exact nextMsgId_toDevice (t := t.emit (.disarm .willTopicTimeout)) .willMessageRequest
  next => exact .calm (fun _ _ => nofun) calm_refl

theorem asking_willMessage {seen : Address} (data : Bytes) {link : LinkName} :
    Asking maxRetries (.sensor seen (.willMessage data) link) t (t.willMessage context data) := by
  unfold willMessage
  split
  next request will tries hphase =>
    have hold : t.question? = some (.willMessage tries) := by rw [question?, hphase]; rfl
    have hended : Plain t (t.emit (.disarm .willMessageTimeout)) := plain_emit rfl
    refine .answered hold rfl ?_ (hended.toWordless.trans (wordless_connectBroker request _))
    exact question?_of_free (asks_connectBroker _ request _).phase
  next => exact .calm (fun _ _ => nofun) calm_refl

theorem calm_register (registration : Sensor.Register) : Calm t (t.register registration) :=
  .plain (Plain.trans (plain_update rfl rfl) (plain_toDevice rfl))

theorem wordless_endRegistration : Wordless t (t.endRegistration exchanges) :=
  ⟨asked_emit rfl, rfl⟩

/-- An answer to the offer ends it, and one to another offer does nothing. -/
theorem asking_regack {seen : Address} (ack : Sensor.TopicAck) {link : LinkName}
    (hphase : t.session.phase = .connected exchanges) :
    Asking maxRetries (.sensor seen (.regack ack) link) t (t.regack exchanges ack) := by
  unfold regack
  split
  next => exact .calm (fun _ _ => nofun) calm_refl
  next registration hsome =>
    have hold : t.question? = some (.offer registration) := by
      rw [question?_of_connected hphase, hsome]
      rfl
    split
    next => exact .calm (fun _ _ => nofun) calm_refl
    next hid =>
      have hanswer : (Question.offer registration).isAnsweredBy (.sensor seen (.regack ack) link) =
          true := beq_iff_eq.mpr (Decidable.not_not.mp hid)
      simp only
      split
      next => exact .answered hold hanswer rfl wordless_endRegistration
      next =>
        have hbound : Plain (t.endRegistration exchanges)
            (((t.endRegistration exchanges).update fun session => { session with
              topics := (session.topics.assign registration.topicId
                registration.publication.topic).2 }).toDevice
                  (delivery registration.publication .normal registration.topicId)) :=
          Plain.trans (plain_update rfl rfl) (plain_toDevice rfl)
        exact .answered hold hanswer hbound.question
          (wordless_endRegistration.trans hbound.toWordless)

theorem calm_publish (publication : Sensor.Publish)
    (hphase : t.session.phase = .connected exchanges) :
    Calm t (t.publish context exchanges publication) := by
  simp only [publish]
  split
  · exact calm_refl
  · split
    · exact .plain (plain_toDevice rfl)
    · by_cases hlevel : publication.flags.qos = .atLeastOnce
      · simp only [hlevel, if_true]
        exact calm_forward_then hphase fun mid hmid => plain_exchange hmid rfl
      · simp only [hlevel, if_false]
        exact calm_forward_then hphase fun mid _ => .refl mid

theorem calm_puback (ack : Sensor.TopicAck) (hphase : t.session.phase = .connected exchanges) :
    Calm t (t.puback context ack) := by
  unfold puback
  split
  · exact .plain (plain_update rfl rfl)
  · exact calm_forward context.line _ hphase

theorem calm_subscribe (request : Sensor.TopicRequest)
    (hphase : t.session.phase = .connected exchanges) :
    Calm t (t.subscribe context exchanges request) := by
  simp only [subscribe]
  split
  · exact calm_refl
  · split
    · exact .plain (plain_toDevice rfl)
    · exact calm_forward_then hphase fun mid hmid => plain_exchange hmid rfl

theorem calm_unsubscribe (request : Sensor.TopicRequest)
    (hphase : t.session.phase = .connected exchanges) :
    Calm t (t.unsubscribe context exchanges request) := by
  simp only [unsubscribe]
  split
  · exact calm_refl
  · split
    · exact calm_refl
    · exact calm_forward_then hphase fun mid hmid => plain_exchange hmid rfl

theorem calm_disconnect : Calm t (t.disconnect context) := by
  unfold disconnect
  split
  next => exact calm_refl
  next =>
    split
    · exact .drops ((plain_sendBroker context.line .disconnect).drops drops_tearDown)
    · exact .drops drops_tearDown

/-- Whatever the device says, its question is answered, dropped, asked first or left open. -/
theorem sensor_asking (seen : Address) (message : Sensor.Message) (link : LinkName) :
    Asking maxRetries (.sensor seen message link) t (t.sensor context message link) := by
  have hcalm {next : Transition} (h : Calm t next) :
      Asking maxRetries (.sensor seen message link) t next := .calm (fun _ _ => nofun) h
  cases message with
  | searchGateway radius => exact hcalm (.plain (plain_emit rfl))
  | connect request => exact asking_connect request (fun _ => nofun)
  | willTopic will => exact asking_willTopic will
  | willMessage data => exact asking_willMessage data
  | register registration => exact hcalm (calm_whenConnected fun _ _ => calm_register registration)
  | regack ack =>
    by_cases hconnected : ∃ exchanges, t.session.phase = .connected exchanges
    · obtain ⟨exchanges, hphase⟩ := hconnected
      have hstep : t.sensor context (.regack ack) link = t.regack exchanges ack :=
        whenConnected_eq hphase _
      rw [hstep]
      exact asking_regack ack hphase
    · exact hcalm (calm_whenConnected fun exchanges hphase =>
        (hconnected ⟨exchanges, hphase⟩).elim)
  | publish publication =>
    by_cases hlevel : publication.flags.qos = .minusOne
    · rw [Transition.sensor_of_minusOne hlevel]
      exact hcalm (.plain (plain_emit rfl))
    · rw [Transition.sensor_of_ne_minusOne hlevel]
      exact hcalm (calm_whenConnected fun _ hphase => calm_publish publication hphase)
  | puback ack => exact hcalm (calm_whenConnected fun _ hphase => calm_puback ack hphase)
  | pubrec msgId => exact hcalm (calm_relay _)
  | pubrel msgId => exact hcalm (calm_relay _)
  | pubcomp msgId => exact hcalm (calm_relay _)
  | subscribe request =>
    exact hcalm (calm_whenConnected fun _ hphase => calm_subscribe request hphase)
  | unsubscribe request =>
    exact hcalm (calm_whenConnected fun _ hphase => calm_unsubscribe request hphase)
  | pingRequest clientId => exact hcalm (calm_relay _)
  | pingResponse => exact hcalm (calm_relay _)
  | disconnect duration => exact hcalm calm_disconnect
  | _ => exact hcalm calm_refl

/-! ### Messages of the broker -/

theorem calm_connack (code : UInt8) : Calm t (t.connack code) := by
  unfold connack
  split
  next hphase =>
    split
    · have haccepted : Plain t (t.enter (.connected {})) :=
        ⟨⟨rfl, rfl⟩, (question?_of_free (.inr hphase)).symm⟩
      exact .plain (haccepted.trans (plain_toDevice rfl))
    · exact .drops drops_tearDown
  next => exact calm_refl

theorem asking_offerTopic (publication : Broker.Publish)
    (hphase : t.session.phase = .connected exchanges) (hinput : ∀ signal, input ≠ .signal signal) :
    Asking maxRetries input t (t.offerTopic exchanges publication) := by
  unfold offerTopic
  split
  next => exact .calm (fun _ _ => hinput _) calm_refl
  next hbusy =>
    split
    next => exact .calm (fun _ _ => hinput _) calm_refl
    next topicId topics _ =>
      have hold : t.question? = none := by
        rw [question?_of_connected hphase, Option.not_isSome_iff_eq_none.mp hbusy]
        rfl
      let registration : Registration :=
        { topicId, msgId := t.session.nextMsgId, publication, tries := 1 }
      refine .ask (.offer registration) (fun old hin => ?_) rfl rfl rfl
        (fun hsome => ?_) ?_
      · rw [hold] at hin
        cases hin
      · exact (asked_emit rfl).trans (asked_question
          (t := (t.update fun session => { session with topics }).takeMsgId.2) hsome
          (.offer registration))
      · exact nextMsgId_toDevice
          (t := (t.update fun session => { session with topics }).takeMsgId.2)
          (offer registration)

theorem asking_deliver (publication : Broker.Publish)
    (hphase : t.session.phase = .connected exchanges) (hinput : ∀ signal, input ≠ .signal signal) :
    Asking maxRetries input t (t.deliver context exchanges publication) := by
  have hcalm {next : Transition} (h : Plain t next) : Asking maxRetries input t next :=
    .calm (fun _ _ => hinput _) (.plain h)
  rw [deliver_eq]
  split
  · exact hcalm (.refl t)
  · split
    · exact hcalm (.refl t)
    · split
      · exact hcalm (plain_toDevice rfl)
      · exact asking_offerTopic publication hphase hinput

theorem calm_confirmPublish (msgId : UInt16) (hphase : t.session.phase = .connected exchanges) :
    Calm t (t.confirmPublish exchanges msgId) := by
  unfold confirmPublish
  split
  next => exact calm_refl
  next =>
    split
    · exact calm_refl
    · have hconfirmed : Plain t (t.enter (.connected { exchanges with publish := none })) :=
        plain_exchange hphase rfl
      exact .plain (hconfirmed.trans (plain_toDevice rfl))

theorem calm_confirmSubscribe (msgId : UInt16) (granted : UInt8)
    (hphase : t.session.phase = .connected exchanges) :
    Calm t (t.confirmSubscribe exchanges msgId granted) := by
  unfold confirmSubscribe
  split
  next => exact calm_refl
  next =>
    split
    · exact calm_refl
    · have hconfirmed : Plain t (t.enter (.connected { exchanges with subscribe := none })) :=
        plain_exchange hphase rfl
      exact .plain (hconfirmed.trans ((plain_update rfl rfl).trans (plain_toDevice rfl)))

theorem calm_confirmUnsubscribe (msgId : UInt16)
    (hphase : t.session.phase = .connected exchanges) :
    Calm t (t.confirmUnsubscribe exchanges msgId) := by
  unfold confirmUnsubscribe
  split
  next => exact calm_refl
  next =>
    split
    · exact calm_refl
    · have hconfirmed : Plain t (t.enter (.connected { exchanges with unsubscribe := none })) :=
        plain_exchange hphase rfl
      exact .plain (hconfirmed.trans ((plain_update rfl rfl).trans (plain_toDevice rfl)))

theorem asking_brokerConnected (message : Broker.Message)
    (hphase : t.session.phase = .connected exchanges) :
    Asking maxRetries (.broker message) t (t.brokerConnected context exchanges message) := by
  have hcalm {next : Transition} (h : Calm t next) :
      Asking maxRetries (.broker message) t next := .calm (fun _ _ => nofun) h
  cases message with
  | publish publication => exact asking_deliver publication hphase (fun _ => nofun)
  | puback msgId => exact hcalm (calm_confirmPublish msgId hphase)
  | suback msgId granted => exact hcalm (calm_confirmSubscribe msgId _ hphase)
  | unsuback msgId => exact hcalm (calm_confirmUnsubscribe msgId hphase)
  | pubrec msgId => exact hcalm (.plain (plain_toDevice rfl))
  | pubrel msgId => exact hcalm (.plain (plain_toDevice rfl))
  | pubcomp msgId => exact hcalm (.plain (plain_toDevice rfl))
  | pingRequest => exact hcalm (.plain (plain_toDevice rfl))
  | pingResponse => exact hcalm (.plain (plain_toDevice rfl))
  | _ => exact hcalm calm_refl

/-- The broker never has a question asked again. -/
theorem broker_asking (message : Broker.Message) :
    Asking maxRetries (.broker message) t (t.broker context message) := by
  unfold broker
  split
  next code => exact .calm (fun _ _ => nofun) (calm_connack code)
  next =>
    split
    next exchanges hphase => exact asking_brokerConnected _ hphase
    next => exact .calm (fun _ _ => nofun) calm_refl

/-! ### Signals -/

/-- The timeout of a question that is not open. -/
theorem calm_of_late {signal : Signal} (h : ∀ old ∈ t.question?, old.timeout ≠ signal) :
    Asking maxRetries (.signal signal) t t :=
  .calm (fun old hin hinput => h old hin (Input.signal.inj hinput).symm) calm_refl

/-- A timeout has the question asked again as long as the limit is kept. -/
theorem asking_willTopicTimeout :
    Asking context.config.maxRetries (.signal .willTopicTimeout) t
      (t.willTopicTimeout context) := by
  unfold willTopicTimeout
  split
  next request tries hphase =>
    have hold : t.question? = some (.willTopic tries) := by rw [question?, hphase]; rfl
    split
    next hspent => exact .giveUp hold rfl hspent rfl ⟨asked_emit rfl, rfl⟩ rfl
    next hleft =>
      refine .again hold rfl (Nat.not_lt.mp hleft) rfl (fun hsome => ?_) ?_
      · exact asked_question hsome (.willTopic (tries + 1))
      · exact nextMsgId_toDevice (t := t) .willTopicRequest
  next hnot =>
    refine calm_of_late fun old hin hsame => ?_
    cases old with
    | willTopic tries =>
      obtain ⟨request, hphase⟩ := exists_of_willTopic hin
      exact hnot request tries hphase
    | willMessage | offer => cases hsame

theorem asking_willMessageTimeout :
    Asking context.config.maxRetries (.signal .willMessageTimeout) t
      (t.willMessageTimeout context) := by
  unfold willMessageTimeout
  split
  next request will tries hphase =>
    have hold : t.question? = some (.willMessage tries) := by rw [question?, hphase]; rfl
    split
    next hspent => exact .giveUp hold rfl hspent rfl ⟨asked_emit rfl, rfl⟩ rfl
    next hleft =>
      refine .again hold rfl (Nat.not_lt.mp hleft) rfl (fun hsome => ?_) ?_
      · exact asked_question hsome (.willMessage (tries + 1))
      · exact nextMsgId_toDevice (t := t) .willMessageRequest
  next hnot =>
    refine calm_of_late fun old hin hsame => ?_
    cases old with
    | willMessage tries =>
      obtain ⟨request, will, hphase⟩ := exists_of_willMessage hin
      exact hnot request will tries hphase
    | willTopic | offer => cases hsame

theorem asking_regackTimeout :
    Asking context.config.maxRetries (.signal .regackTimeout) t (t.regackTimeout context) := by
  unfold regackTimeout
  split
  next exchanges hphase =>
    split
    next hnone =>
      refine calm_of_late fun old hin => ?_
      rw [question?_of_connected hphase, hnone] at hin
      cases hin
    next registration hsome =>
      have hold : t.question? = some (.offer registration) := by
        rw [question?_of_connected hphase, hsome]
        rfl
      split
      next hspent => exact .giveUp hold rfl hspent rfl wordless_endRegistration rfl
      next hleft =>
        refine .again hold rfl (Nat.not_lt.mp hleft) rfl (fun hsome => ?_) ?_
        · exact asked_question (t := t.takeMsgId.2) hsome
            ((Question.offer registration).again t.session.nextMsgId)
        · exact nextMsgId_toDevice (t := t.takeMsgId.2) (offer { registration with
            msgId := t.session.nextMsgId, tries := registration.tries + 1 })
  next hnot =>
    refine calm_of_late fun old hin hsame => ?_
    cases old with
    | offer registration =>
      obtain ⟨exchanges, hphase, -⟩ := exists_of_offer hin
      exact hnot exchanges hphase
    | willTopic | willMessage => cases hsame

theorem plain_letGo : Plain t (t.closeBroker.emit .disarmAll) :=
  plain_closeBroker.trans (plain_emit rfl)

theorem calm_shutDown : Calm t (t.shutDown context) := by
  simp only [shutDown]
  split
  · exact .plain ((plain_sendBroker context.line .disconnect).trans plain_letGo)
  · exact .plain plain_letGo

/-- A signal by which nothing is asked again. -/
theorem asking_of_other {signal : Signal}
    (hother : signal ∉ [.willTopicTimeout, .willMessageTimeout, .regackTimeout])
    (h : Calm t next) : Asking maxRetries (.signal signal) t next := by
  refine .calm (fun old _ hinput => hother ?_) h
  obtain rfl : signal = old.timeout := Input.signal.inj hinput
  exact old.timeout_mem

/-- A signal has the question asked again only if it is the timeout of it. -/
theorem signal_asking (context : Context) (signal : Signal) :
    Asking context.config.maxRetries (.signal signal) t (t.signal context signal) := by
  cases signal with
  | willTopicTimeout => exact asking_willTopicTimeout
  | willMessageTimeout => exact asking_willMessageTimeout
  | regackTimeout => exact asking_regackTimeout
  | connectionLost => exact asking_of_other (by decide) calm_connectionLost
  | shutDown => exact asking_of_other (by decide) calm_shutDown
  | checkInactivity => exact asking_of_other (by decide) calm_refl
  | sendKeepAlive => exact asking_of_other (by decide) calm_refl

end Transition

/-- What a turn does about the question that is open. -/
theorem take_asking (config : Config) (turn : Turn) (session : Session) :
    Transition.Asking config.maxRetries turn.input (.start (session.hear config turn))
      (session.take config turn) := by
  obtain ⟨now, line, input⟩ := turn
  cases input with
  | sensor seen message link => exact Transition.sensor_asking seen message link
  | broker message => exact Transition.broker_asking message
  | signal signal =>
    simp only [take, hear, onSignal]
    split
    next hends =>
      have hlook : signal = .checkInactivity := by
        simp only [endsAt, Bool.and_eq_true, beq_iff_eq] at hends
        exact hends.1
      subst hlook
      exact Transition.asking_of_other (by decide) (.plain Transition.plain_letGo)
    next =>
      exact Transition.signal_asking (Turn.context config ⟨now, line, .signal signal⟩) signal

/-! ### The question and the marks -/

variable {session : Session} {handshake : Handshake} {signal : Signal}

/-- The timer that runs in a phase is the one of its question. -/
theorem Phase.timer?_eq (phase : Phase) : phase.timer? = phase.question?.map (·.timeout) := by
  cases phase with
  | connected exchanges =>
    simp only [timer?, question?, Option.map_map]
    rfl
  | _ => rfl

/-- Questions are told apart by their timeouts. -/
theorem timeout_eq_iff (h : handshake.timeout? = some signal) (question : Question) :
    question.timeout = signal ↔ question.handshake = handshake := by
  cases handshake <;> cases question <;> cases h <;> simp [Question.timeout, Question.handshake]

/-- An answer that is asked for again is waited for as long as its question is open. -/
theorem awaits_iff_question (h : handshake.timeout? = some signal) :
    session.awaits handshake = true ↔
      ∃ question, session.phase.question? = some question ∧ question.handshake = handshake := by
  rw [awaits_iff h, Phase.timer?_eq, Option.map_eq_some_iff]
  exact exists_congr fun question => and_congr_right fun _ => timeout_eq_iff h question

theorem tries_of_question {question : Question} (h : session.phase.question? = some question) :
    session.tries question.handshake = question.tries := by
  obtain ⟨_, _, _, _, _, phase, _, _, _⟩ := session
  cases phase with
  | idle => cases h
  | awaitingConnack => cases h
  | awaitingWillTopic | awaitingWillMessage =>
    cases h
    rfl
  | connected waiting =>
    obtain ⟨registration, hsome, rfl⟩ := Option.map_eq_some_iff.mp h
    simp [Question.handshake, Question.tries, tries, exchanges, hsome]

/-- A counter is 0 as long as its answer is not waited for. -/
theorem tries_of_not_awaits (h : session.awaits handshake = false) :
    session.tries handshake = 0 := by
  obtain ⟨_, _, _, _, _, phase, _, _, _⟩ := session
  cases handshake with
  | willTopic | willMessage => cases phase <;> first | rfl | cases h
  | regack =>
    simp only [awaits, Option.isSome_eq_false_iff, Option.isNone_iff_eq_none] at h
    rw [tries, h]
    rfl
  | connack | suback | unsuback | puback => rfl

end Session

end SensorGateway
