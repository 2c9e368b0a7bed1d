import SensorGateway.Proofs.Session.Acts

/-!
What a session does on links. Whatever it is told, its messages for the device go
to the address of the device over the link on which the device was last heard,
and its broker link is open exactly if the last use of it left it open.
-/

namespace SensorGateway

namespace Broker

def LinkUse.leavesOpen : LinkUse → Bool
  | opening _ failure => failure.isNone
  | sending _ _ _ isOpen => isOpen
  | closing _ => false

/-- Whether a link is open after several uses: the last one counts. -/
def openAfter (isOpen : Bool) (uses : List LinkUse) : Bool :=
  uses.foldl (fun _ use => use.leavesOpen) isOpen

theorem openAfter_append (isOpen : Bool) (first second : List LinkUse) :
    openAfter isOpen (first ++ second) = openAfter (openAfter isOpen first) second :=
  List.foldl_append

end Broker

namespace Session

def Effect.use? : Effect → Option Broker.LinkUse
  | broker use => some use
  | device .. | arm _ | disarm _ | disarmAll | forGateway .. => none

/-- What is not about a link uses none. -/
theorem Effect.use?_of_inner {effect : Effect} (h : effect.usesLink = false) :
    effect.use? = none := by
  cases effect with
  | broker | device => cases h
  | arm | disarm | disarmAll | forGateway => rfl

namespace Transition

def linkUses (transition : Transition) : List Broker.LinkUse :=
  transition.effects.filterMap (·.use?)

/-- What a transition that began with a session shows of its links. -/
structure Accounted (origin : Session) (t : Transition) : Prop where
  address : t.session.address = origin.address
  link : t.session.link = origin.link
  deliveries : ∀ link target message, .device link target message ∈ t.effects →
    origin.link = some link ∧ target = origin.address
  brokerOpen : t.session.brokerOpen = Broker.openAfter origin.brokerOpen t.linkUses

variable {origin : Session} {context : Context} {input : Input} {t next : Transition}

@[simp] theorem linkUses_emit (effect : Effect) :
    (t.emit effect).linkUses = t.linkUses ++ effect.use?.toList := by
  cases h : effect.use? <;> simp [linkUses, emit, h]

theorem linkUses_emit_inner {effect : Effect} (hinner : effect.usesLink = false) :
    (t.emit effect).linkUses = t.linkUses := by
  rw [linkUses_emit, Effect.use?_of_inner hinner]
  exact List.append_nil _

@[simp] theorem linkUses_update (f : Session → Session) :
    (t.update f).linkUses = t.linkUses := rfl

@[simp] theorem linkUses_toDevice (message : Sensor.Message) :
    (t.toDevice message).linkUses = t.linkUses := by
  unfold toDevice
  split
  · rfl
  · exact (linkUses_emit _).trans (List.append_nil _)

theorem accounted_start (session : Session) : Accounted session (.start session) :=
  ⟨rfl, rfl, fun _ _ _ hin => (List.not_mem_nil hin).elim, rfl⟩

theorem Accounted.update (h : t.Accounted origin) {f : Session → Session}
    (haddress : (f t.session).address = t.session.address)
    (hlink : (f t.session).link = t.session.link)
    (hopen : (f t.session).brokerOpen = t.session.brokerOpen) :
    (t.update f).Accounted origin :=
  ⟨haddress.trans h.address, hlink.trans h.link, h.deliveries, hopen.trans h.brokerOpen⟩

theorem Accounted.emit (h : t.Accounted origin) {effect : Effect}
    (hinner : effect.usesLink = false) : (t.emit effect).Accounted origin := by
  refine ⟨h.address, h.link, ?_, ?_⟩
  · intro link target message hin
    rcases List.mem_append.mp hin with hold | hnew
    · exact h.deliveries link target message hold
    · rw [← List.mem_singleton.mp hnew] at hinner
      cases hinner
  · rw [linkUses_emit_inner hinner]
    exact h.brokerOpen

theorem Accounted.toDevice (h : t.Accounted origin) (message : Sensor.Message) :
    (t.toDevice message).Accounted origin := by
  unfold Transition.toDevice
  split
  next => exact h
  next link hlink =>
    refine ⟨h.address, h.link, ?_, ?_⟩
    · intro link' target message' hin
      rcases List.mem_append.mp hin with hold | hnew
      · exact h.deliveries link' target message' hold
      · cases List.mem_singleton.mp hnew
        exact ⟨h.link.symm.trans hlink, h.address⟩
    · rw [linkUses_emit]
      exact h.brokerOpen.trans (congrArg _ (List.append_nil _).symm)

/-- A use of the link leaves it as it says. -/
theorem Accounted.use (h : t.Accounted origin) (use : Broker.LinkUse) :
    ((t.emit (.broker use)).update fun session =>
      { session with brokerOpen := use.leavesOpen }).Accounted origin := by
  refine ⟨h.address, h.link, ?_, ?_⟩
  · intro link target message hin
    rcases List.mem_append.mp hin with hold | hnew
    · exact h.deliveries link target message hold
    · cases List.mem_singleton.mp hnew
  · rw [linkUses_update, linkUses_emit, Broker.openAfter_append]
    rfl

theorem Accounted.openBroker (h : t.Accounted origin) (line : Broker.Line) :
    (t.openBroker line).2.Accounted origin :=
  h.use (.opening t.session.brokerOpen _)

theorem Accounted.sendBroker (h : t.Accounted origin) (line : Broker.Line)
    (message : Broker.Message) : (t.sendBroker line message).2.Accounted origin :=
  h.use (.sending t.session.brokerOpen message _ _)

theorem Accounted.closeBroker (h : t.Accounted origin) : t.closeBroker.Accounted origin :=
  h.use (.closing t.session.brokerOpen)

theorem Accounted.enter (h : t.Accounted origin) (phase : Phase) :
    (t.enter phase).Accounted origin :=
  h.update rfl rfl rfl

theorem Accounted.tearDown (h : t.Accounted origin) : t.tearDown.Accounted origin := by
  have hforgot : Accounted origin
      (((t.toDevice (.disconnect none)).emit .disarmAll).update fun session =>
        { session with phase := .idle, tornDown := true }) :=
    ((h.toDevice (.disconnect none)).emit rfl).update rfl rfl rfl
  exact hforgot.closeBroker

theorem Accounted.connectBroker (h : t.Accounted origin) (request : Sensor.Connect)
    (will : Option Broker.Will) : (t.connectBroker context request will).Accounted origin := by
  have hopened := (h.enter .idle).openBroker context.line
  unfold Transition.connectBroker
  rcases hopen : (t.enter .idle).openBroker context.line with ⟨isOpen, opened⟩
  rw [hopen] at hopened
  cases isOpen with
  | false => exact hopened
  | true =>
    have hsent := hopened.sendBroker context.line (.connect (brokerConnect context request will))
    simp only
    rcases hsend : opened.sendBroker context.line (.connect (brokerConnect context request will))
      with ⟨taken, sent⟩
    rw [hsend] at hsent
    cases taken with
    | false => exact hsent.closeBroker
    | true => exact hsent.enter .awaitingConnack

theorem Accounted.forward (h : t.Accounted origin) (line : Broker.Line)
    (message : Broker.Message) : (t.forward line message).2.Accounted origin := by
  have hsent := h.sendBroker line message
  unfold Transition.forward
  rcases hsend : t.sendBroker line message with ⟨taken, sent⟩
  rw [hsend] at hsent
  cases taken with
  | true => exact hsent
  | false =>
    simp only [connectionLost]
    split
    · exact hsent
    · exact hsent.tearDown

theorem Accounted.shutDown (h : t.Accounted origin) : (t.shutDown context).Accounted origin := by
  simp only [Transition.shutDown]
  split
  · exact (h.sendBroker context.line .disconnect).closeBroker.emit rfl
  · exact h.closeBroker.emit rfl

theorem Accounted.takeMsgId (h : t.Accounted origin) : t.takeMsgId.2.Accounted origin :=
  ⟨h.address, h.link, h.deliveries, h.brokerOpen⟩

theorem Accounted.offerTopic (h : t.Accounted origin) (exchanges : Exchanges)
    (publication : Broker.Publish) : (t.offerTopic exchanges publication).Accounted origin := by
  unfold Transition.offerTopic
  split
  · exact h
  · split
    · exact h
    next topicId topics _ =>
      have hallocated : (t.update fun session => { session with topics }).Accounted origin :=
        h.update rfl rfl rfl
      exact ((hallocated.takeMsgId.toDevice _).enter _).emit rfl

/-- Every act accounts for what it does to the link. -/
theorem act_accounted (hact : Act context input t next) (h : t.Accounted origin) :
    next.Accounted origin := by
  cases hact with
  | tell message => exact h.toDevice message
  | emit hinner => exact h.emit hinner
  | note clientId nextMsgId => exact h.update rfl rfl rfl
  | wait => exact h.enter _
  | ask request will => exact h.connectBroker request will
  | restart => exact h.closeBroker.enter .idle
  | accept => exact h.enter _
  | exchange => exact h.enter _
  | forward => exact h.forward context.line _
  | tearDown => exact h.tearDown
  | leave => exact (h.sendBroker context.line .disconnect).tearDown
  | shutDown => exact h.shutDown
  | close => exact h.closeBroker
  | register name => exact h.update rfl rfl rfl
  | offer publication => exact h.offerTopic _ publication
  | bind => exact (h.enter _).update rfl rfl rfl
  | forgetId => exact h.update rfl rfl rfl
  | forgetName => exact h.update rfl rfl rfl

theorem acts_accounted (hacts : Acts context input t next) (h : t.Accounted origin) :
    next.Accounted origin := by
  induction hacts with
  | refl => exact h
  | tail _ hact ih => exact act_accounted hact ih

end Transition

/-- A turn goes to the address and over the link that the device was heard of
at. -/
theorem take_accounted (config : Config) (turn : Turn) (session : Session) :
    (session.take config turn).Accounted (session.hear config turn) :=
  Transition.acts_accounted (take_acts config turn session) (Transition.accounted_start _)

end Session

end SensorGateway
