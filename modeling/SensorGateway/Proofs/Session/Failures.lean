import SensorGateway.Proofs.Session.Deeds

/-!
What becomes of a session whose broker link does not take a message. Whatever the
device asked for, the session breaks off: it is idle afterwards, its link is closed
and nothing is waited for or kept. A device that is connected or leaves hears
DISCONNECT once. A device that was about to be connected hears nothing, so that it
has to ask again of its own accord.
-/

namespace SensorGateway

def Broker.LinkUse.fails : LinkUse → Bool
  | sending _ _ (.error _) _ => true
  | sending _ _ (.ok _) _ | opening .. | closing _ => false

theorem Broker.LinkUse.fails_sending (wasOpen : Bool) (message : Message)
    (result : Except LinkError Bytes) (isOpen : Bool) :
    (sending wasOpen message result isOpen).fails = !result.isOk := by
  cases result <;> rfl

/-- Whether a message of a device may be the one for which the broker is asked to
connect it. -/
def Sensor.Message.mayConnect : Message → Bool
  | connect _ | willMessage _ => true
  | _ => false

namespace Session

/-- What a device hears if the broker link does not take what comes of its message. -/
def farewell (message : Sensor.Message) : List Sensor.Message :=
  if message.mayConnect then [] else [.disconnect none]

namespace Transition

def Taken (t : Transition) : Prop := ∀ use ∈ t.linkUses, use.fails = false

/-- Nothing went wrong so far and the device, which was heard, was told nothing. -/
structure Untold (t : Transition) : Prop where
  link : t.session.link.isSome = true
  told : t.told = []
  taken : t.Taken

structure BrokenOff (said : List Sensor.Message) (t : Transition) : Prop where
  phase : t.session.phase = .idle
  closed : t.session.brokerOpen = false
  told : t.told = said

/-- A step goes well, or else the session breaks off with these words. -/
def Concludes (said : List Sensor.Message) (t : Transition) : Prop := t.Taken ∨ t.BrokenOff said

variable {context : Context} {t next : Transition} {said : List Sensor.Message}
variable {exchanges : Exchanges}

/-! ### Parts of a step -/

/-- What does not use the broker link does not go wrong. -/
theorem Taken.same (h : t.Taken) (huses : next.linkUses = t.linkUses) : next.Taken :=
  fun use hin => h use (huses ▸ hin)

theorem Taken.emit (h : t.Taken) {effect : Effect} (hinner : effect.usesLink = false) :
    (t.emit effect).Taken :=
  h.same (linkUses_emit_inner hinner)

theorem Taken.toDevice (h : t.Taken) (message : Sensor.Message) : (t.toDevice message).Taken :=
  h.same (linkUses_toDevice message)

theorem Taken.use (h : t.Taken) {use : Broker.LinkUse} (huse : use.fails = false) (isOpen : Bool) :
    Taken ((t.emit (.broker use)).update fun session =>
      { session with brokerOpen := isOpen }) := by
  intro other hin
  rw [linkUses_update, linkUses_emit] at hin
  rcases List.mem_append.mp hin with hold | hnew
  · exact h other hold
  · obtain rfl : other = use := List.mem_singleton.mp hnew
    exact huse

theorem Untold.use (h : t.Untold) {use : Broker.LinkUse} (huse : use.fails = false)
    (isOpen : Bool) :
    Untold ((t.emit (.broker use)).update fun session =>
      { session with brokerOpen := isOpen }) :=
  ⟨h.link, (told_emit rfl).trans h.told, h.taken.use huse isOpen⟩

theorem Untold.emit (h : t.Untold) {effect : Effect} (hinner : effect.usesLink = false)
    (htold : effect.told? = none) : (t.emit effect).Untold :=
  ⟨h.link, (told_emit htold).trans h.told, h.taken.emit hinner⟩

theorem Untold.enter (h : t.Untold) (phase : Phase) : (t.enter phase).Untold :=
  ⟨h.link, h.told, h.taken⟩

/-- A link that says that it took a message did not fail. -/
theorem Taken.sendBroker (h : t.Taken) {line : Broker.Line} {message : Broker.Message}
    (htaken : (t.sendBroker line message).1 = true) : (t.sendBroker line message).2.Taken := by
  let handover := line.send t.session.brokerOpen message
  have hresult : handover.1.isOk = true := htaken
  have hfails : (Broker.LinkUse.sending t.session.brokerOpen message handover.1
      handover.2).fails = false := by
    rw [Broker.LinkUse.fails_sending, hresult]
    rfl
  exact h.use hfails _

theorem told_sendBroker (line : Broker.Line) (message : Broker.Message) :
    (t.sendBroker line message).2.told = t.told :=
  told_emit rfl

/-- A device that is torn down hears DISCONNECT and nothing else. -/
theorem brokenOff_tearDown (hlink : t.session.link.isSome = true) (htold : t.told = []) :
    t.tearDown.BrokenOff [.disconnect none] := by
  have hfarewell : t.tearDown.told = (t.toDevice (.disconnect none)).told :=
    (told_emit rfl).trans (told_emit rfl)
  rw [told_toDevice hlink, htold] at hfarewell
  exact ⟨rfl, rfl, hfarewell⟩

/-- A lost connection is told to the device by a DISCONNECT, once. -/
theorem brokenOff_connectionLost (hlink : t.session.link.isSome = true) (htold : t.told = [])
    (hconnected : t.session.phase = .connected exchanges) :
    t.connectionLost.BrokenOff [.disconnect none] := by
  rw [connectionLost_of_busy (by rw [hconnected]; exact nofun)]
  exact brokenOff_tearDown hlink htold

/-- If a connected device has a message for the broker and the link does not take it,
the session breaks off, and otherwise the step goes on. -/
theorem Untold.forward_then (h : t.Untold) (hconnected : t.session.phase = .connected exchanges)
    (message : Broker.Message) {step : Transition → Transition}
    (hstep : ∀ next, (step next).linkUses = next.linkUses) :
    Concludes [.disconnect none]
      (match t.forward context.line message with
        | (false, next) => next
        | (true, next) => step next) := by
  have htold := told_sendBroker (t := t) context.line message
  have htaken : (t.sendBroker context.line message).1 = true →
      (t.sendBroker context.line message).2.Taken := h.taken.sendBroker
  have hlink : (t.sendBroker context.line message).2.session.link = t.session.link := rfl
  have hphase : (t.sendBroker context.line message).2.session.phase = t.session.phase := rfl
  unfold forward
  rcases hsend : t.sendBroker context.line message with ⟨taken, sent⟩
  rw [hsend] at htold htaken hlink hphase
  cases taken with
  | true => exact .inl ((htaken rfl).same (hstep sent))
  | false =>
    have hheard : sent.session.link.isSome = true := hlink ▸ h.link
    exact .inr (brokenOff_connectionLost hheard (htold.trans h.told) (hphase.trans hconnected))

/-- A message that is not taken breaks the session off, with a DISCONNECT to the device. -/
theorem Untold.forward (h : t.Untold) (hconnected : t.session.phase = .connected exchanges)
    (message : Broker.Message) :
    Concludes [.disconnect none] (t.forward context.line message).2 := by
  have hconcludes : Concludes [.disconnect none]
      (match t.forward context.line message with
        | (false, next) => next
        | (true, next) => id next) := h.forward_then hconnected message fun _ => rfl
  rcases hforward : t.forward context.line message with ⟨taken, next⟩
  rw [hforward] at hconcludes
  cases taken <;> exact hconcludes

theorem Untold.whenConnected (h : t.Untold) {step : Exchanges → Transition → Transition}
    (hstep : ∀ exchanges, t.session.phase = .connected exchanges →
      Concludes said (step exchanges t)) :
    Concludes said (t.whenConnected step) := by
  unfold Transition.whenConnected
  split
  next exchanges hphase => exact hstep exchanges hphase
  next => exact .inl (h.taken.toDevice _)

theorem Untold.relay (h : t.Untold) (message : Broker.Message) :
    Concludes [.disconnect none] (t.relay context message) :=
  h.whenConnected fun _ hphase => h.forward hphase message

/-! ### Asking the broker -/

/-- If the broker cannot be asked, the device is told nothing. -/
theorem Untold.connectBroker (h : t.Untold) (request : Sensor.Connect)
    (will : Option Broker.Will) : Concludes [] (t.connectBroker context request will) := by
  have hopened : ((t.enter .idle).openBroker context.line).2.Untold :=
    (h.enter .idle).use rfl _
  unfold Transition.connectBroker
  have hidle : ((t.enter .idle).openBroker context.line).2.session.phase = .idle := rfl
  rcases hopen : (t.enter .idle).openBroker context.line with ⟨isOpen, opened⟩
  rw [hopen] at hopened hidle
  cases isOpen with
  | false => exact .inl hopened.taken
  | true =>
    let message : Broker.Message := .connect (brokerConnect context request will)
    have htold := told_sendBroker (t := opened) context.line message
    have htaken : (opened.sendBroker context.line message).1 = true →
        (opened.sendBroker context.line message).2.Taken := hopened.taken.sendBroker
    have hphase : (opened.sendBroker context.line message).2.session.phase = .idle := hidle
    simp only
    rcases hsend : opened.sendBroker context.line message with ⟨taken, sent⟩
    rw [hsend] at htold htaken hphase
    cases taken with
    | false => exact .inr ⟨hphase, rfl, (told_emit rfl).trans (htold.trans hopened.told)⟩
    | true => exact .inl (htaken rfl)

theorem Untold.establish (h : t.Untold) (request : Sensor.Connect) :
    Concludes [] (t.establish context request) := by
  unfold Transition.establish
  split
  · have hasked : (t.toDevice .willTopicRequest).Taken := h.taken.toDevice _
    have hentered : ((t.toDevice .willTopicRequest).enter (.awaitingWillTopic request 1)).Taken :=
      hasked
    exact .inl (hentered.emit rfl)
  · exact h.connectBroker request none

/-- A CONNECT that is not taken breaks it off without a word. -/
theorem Untold.connect (h : t.Untold) (request : Sensor.Connect) :
    Concludes [] (t.connect context request) := by
  have hnamed : Untold (t.update fun session => { session with clientId := request.clientId }) :=
    ⟨h.link, h.told, h.taken⟩
  unfold Transition.connect
  simp only
  split
  next => exact .inl (hnamed.taken.toDevice _)
  next => exact ((hnamed.use rfl false).enter .idle).establish request
  next => exact hnamed.establish request
  next => exact .inl hnamed.taken
  next => exact .inl hnamed.taken

theorem Untold.willMessage (h : t.Untold) (data : Bytes) :
    Concludes [] (t.willMessage context data) := by
  unfold Transition.willMessage
  split
  · exact (h.emit rfl rfl).connectBroker _ _
  · exact .inl h.taken

/-! ### Messages of the device -/

theorem taken_willTopic (h : t.Taken) (will : Sensor.WillTopic) : (t.willTopic will).Taken := by
  unfold willTopic
  split
  next request tries _ =>
    have hasked : ((t.emit (.disarm .willTopicTimeout)).toDevice .willMessageRequest).Taken :=
      (h.emit rfl).toDevice _
    have hentered : (((t.emit (.disarm .willTopicTimeout)).toDevice .willMessageRequest).enter
        (.awaitingWillMessage request will 1)).Taken := hasked
    exact hentered.emit rfl
  next => exact h

theorem taken_register (h : t.Taken) (registration : Sensor.Register) :
    (t.register registration).Taken := by
  have hregistered : Taken (t.update fun session =>
      { session with topics := (t.session.topics.register registration.topic).2 }) := h
  exact hregistered.toDevice _

theorem taken_regack (h : t.Taken) (ack : Sensor.TopicAck) : (t.regack exchanges ack).Taken := by
  unfold regack
  split
  next => exact h
  next registration _ =>
    split
    · exact h
    · have hended : (t.endRegistration exchanges).Taken := by
        have hentered : (t.enter (.connected { exchanges with registration := none })).Taken := h
        exact hentered.emit rfl
      simp only
      split
      · exact hended
      · refine Taken.toDevice ?_ _
        exact hended

theorem Untold.publish (h : t.Untold) (hconnected : t.session.phase = .connected exchanges)
    (publication : Sensor.Publish) :
    Concludes [.disconnect none] (t.publish context exchanges publication) := by
  simp only [Transition.publish]
  split
  · exact .inl h.taken
  · split
    next => exact .inl (h.taken.toDevice _)
    next topic htopic =>
      by_cases hqos : publication.flags.qos = .atLeastOnce
      · simp only [hqos, if_true]
        exact h.forward_then hconnected _ fun _ => rfl
      · simp only [hqos, if_false]
        exact h.forward_then hconnected _ fun _ => rfl

theorem Untold.puback (h : t.Untold) (hconnected : t.session.phase = .connected exchanges)
    (ack : Sensor.TopicAck) : Concludes [.disconnect none] (t.puback context ack) := by
  unfold Transition.puback
  split
  · have hforgot : Taken (t.update fun session =>
        { session with topics := (session.topics.removeId ack.topicId).2 }) := h.taken
    exact .inl hforgot
  · exact h.forward hconnected _

theorem Untold.subscribe (h : t.Untold) (hconnected : t.session.phase = .connected exchanges)
    (request : Sensor.TopicRequest) :
    Concludes [.disconnect none] (t.subscribe context exchanges request) := by
  unfold Transition.subscribe
  split
  · exact .inl h.taken
  · split
    next => exact .inl (h.taken.toDevice _)
    next => exact h.forward_then hconnected _ fun _ => rfl

theorem Untold.unsubscribe (h : t.Untold) (hconnected : t.session.phase = .connected exchanges)
    (request : Sensor.TopicRequest) :
    Concludes [.disconnect none] (t.unsubscribe context exchanges request) := by
  unfold Transition.unsubscribe
  split
  · exact .inl h.taken
  · split
    next => exact .inl h.taken
    next => exact h.forward_then hconnected _ fun _ => rfl

/-- A device that leaves is told so, whether the broker can be told or not. -/
theorem Untold.disconnect (h : t.Untold) : Concludes [.disconnect none] (t.disconnect context) := by
  unfold Transition.disconnect
  split
  · exact .inl h.taken
  · split
    · exact .inr (brokenOff_tearDown h.link ((told_sendBroker _ _).trans h.told))
    · exact .inr (brokenOff_tearDown h.link h.told)

/-- Every message of the device is dealt with without a failure of the broker link,
or the session breaks off. -/
theorem Untold.sensor (h : t.Untold) (message : Sensor.Message) (link : LinkName) :
    Concludes (farewell message) (t.sensor context message link) := by
  cases message with
  | searchGateway radius => exact .inl (h.taken.emit rfl)
  | connect request => exact h.connect request
  | willTopic will => exact .inl (taken_willTopic h.taken will)
  | willMessage data => exact h.willMessage data
  | register registration =>
    exact h.whenConnected fun _ _ => .inl (taken_register h.taken registration)
  | regack ack => exact h.whenConnected fun _ _ => .inl (taken_regack h.taken ack)
  | publish publication =>
    by_cases hlevel : publication.flags.qos = .minusOne
    · rw [Transition.sensor_of_minusOne hlevel]
      exact .inl (h.taken.emit rfl)
    · rw [Transition.sensor_of_ne_minusOne hlevel]
      exact h.whenConnected fun _ hphase => h.publish hphase publication
  | puback ack => exact h.whenConnected fun _ hphase => h.puback hphase ack
  | pubrec msgId => exact h.relay _
  | pubrel msgId => exact h.relay _
  | pubcomp msgId => exact h.relay _
  | subscribe request => exact h.whenConnected fun _ hphase => h.subscribe hphase request
  | unsubscribe request => exact h.whenConnected fun _ hphase => h.unsubscribe hphase request
  | pingRequest name => exact h.relay _
  | pingResponse => exact h.relay _
  | disconnect duration => exact h.disconnect
  | _ => exact .inl h.taken

end Transition

/-- If the broker link does not take a message in a turn of the device, the session
breaks off. -/
theorem take_brokenOff (config : Config) {turn : Turn} {seen : Address} {message : Sensor.Message}
    {link : LinkName} (hinput : turn.input = .sensor seen message link) (session : Session)
    {use : Broker.LinkUse} (hin : use ∈ (session.take config turn).linkUses)
    (hfails : use.fails = true) : (session.take config turn).BrokenOff (farewell message) := by
  have huntold : (Transition.start (session.hear config turn)).Untold := by
    refine ⟨?_, rfl, fun _ hnone => (List.not_mem_nil hnone).elim⟩
    simp [Transition.start, hear, hinput]
  have hconcludes : ((Transition.start (session.hear config turn)).sensor (turn.context config)
      message link).Concludes (farewell message) := huntold.sensor message link
  have htake : session.take config turn =
      (Transition.start (session.hear config turn)).sensor (turn.context config) message link := by
    simp only [take, hear, hinput]
    rfl
  rw [← htake] at hconcludes
  rcases hconcludes with htaken | hbroken
  · exact absurd hfails (by rw [htaken use hin]; decide)
  · exact hbroken

end Session

end SensorGateway
