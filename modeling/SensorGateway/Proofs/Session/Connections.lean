import SensorGateway.Proofs.Session.Links

/-!
What is said on the connections of a session. The broker link does not care in
which order messages are handed to it, but a broker does: a connection begins
with a CONNECT, which is the only one on it, until the broker has taken it
nothing but a farewell may follow, and after the farewell there is silence. A
session keeps to this on each of its connections, whatever it is told and
whatever its link does, and it never opens a link that is open.
-/

namespace SensorGateway

namespace Broker

/-- What is noted of a connection: each message that the link took, and that the
broker accepts the connection. -/
inductive Mark where
  | sent (message : Message)
  | accepted

namespace Mark

def message? : Mark → Option Message
  | sent message => some message
  | accepted => none

end Mark

def said (marks : List Mark) : List Message := marks.filterMap (·.message?)

def Taken (marks : List Mark) : Prop :=
  ∃ earlier request later,
    marks = earlier ++ .sent (.connect request) :: later ∧ .accepted ∈ later

/-- Whether a message may be said on a connection on which these marks were made
before. -/
structure MayFollow (before : List Mark) (message : Message) : Prop where
  /-- A CONNECT comes first, and only then. -/
  connect : (∃ request, message = .connect request) ↔ said before = []
  accepted : said before = [] ∨ message = .disconnect ∨ Taken before
  /-- Nothing is said after the farewell. -/
  last : .disconnect ∉ said before

/-- A connection on which everything was said in its turn. -/
def Orderly (marks : List Mark) : Prop :=
  ∀ before message after, marks = before ++ .sent message :: after → MayFollow before message

theorem said_append (first second : List Mark) :
    said (first ++ second) = said first ++ said second :=
  List.filterMap_append

theorem orderly_nil : Orderly [] := by
  intro before message after heq
  simp at heq

/-- A mark that is added at the end. -/
theorem Orderly.snoc {marks : List Mark} {mark : Mark} (h : Orderly marks)
    (hlast : ∀ message, mark = .sent message → MayFollow marks message) :
    Orderly (marks ++ [mark]) := by
  intro before message after heq
  rcases List.eq_nil_or_concat after with rfl | ⟨rest, last, rfl⟩
  · obtain ⟨rfl, hmark⟩ := List.append_inj' heq rfl
    exact hlast message (List.singleton_inj.mp hmark)
  · have hsplit : marks ++ [mark] = (before ++ .sent message :: rest) ++ [last] := by
      rw [heq]
      simp
    exact h before message rest (List.append_inj' hsplit rfl).1

/-- A connection that is accepted stays so. -/
theorem Taken.snoc {marks : List Mark} (h : Taken marks) (mark : Mark) :
    Taken (marks ++ [mark]) := by
  obtain ⟨earlier, request, later, rfl, hin⟩ := h
  exact ⟨earlier, request, later ++ [mark], by simp, List.mem_append_left _ hin⟩

/-- A connection on which the broker was asked and then accepts. -/
theorem taken_of_said {marks : List Mark} {request : Connect}
    (h : said marks = [.connect request]) : Taken (marks ++ [.accepted]) := by
  have hin : Message.connect request ∈ said marks := h ▸ List.mem_singleton_self _
  obtain ⟨mark, hmark, hmessage⟩ := List.mem_filterMap.mp hin
  cases mark with
  | accepted => cases hmessage
  | sent message =>
    cases hmessage
    obtain ⟨earlier, later, rfl⟩ := List.append_of_mem hmark
    exact ⟨earlier, request, later ++ [.accepted], by simp, by simp⟩

/-- After an accepted CONNECT something was said. -/
theorem Taken.said_ne_nil {marks : List Mark} (h : Taken marks) : said marks ≠ [] := by
  obtain ⟨earlier, request, later, rfl, -⟩ := h
  simp [said, Mark.message?]

end Broker

namespace Session

open Broker (Mark Orderly Taken MayFollow said)

/-- What makes a difference to the connections of a session: what it is told, and
what it does on its link. -/
inductive Moment where
  | told (input : Input)
  | used (use : Broker.LinkUse)

def Moment.use? : Moment → Option Broker.LinkUse
  | told _ => none
  | used use => some use

def history (config : Config) : List Turn → Session → List Moment
  | [], _ => []
  | turn :: turns, session =>
      let first := session.take config turn
      .told turn.input :: first.linkUses.map .used ++ history config turns first.session

/-- The connections of a session. One begins as the link is opened and ends as it
is closed, or as the link fails to take a message. -/
structure Connections where
  ended : List (List Mark) := []
  current : Option (List Mark) := none
  /-- What the link took while there was no connection. -/
  unplaced : List Broker.Message := []

namespace Connections

def all (connections : Connections) : List (List Mark) :=
  connections.ended ++ connections.current.toList

def finish (connections : Connections) : Connections :=
  { connections with ended := connections.all, current := none }

def accept (connections : Connections) : Connections :=
  { connections with current := connections.current.map (· ++ [.accepted]) }

def observe (connections : Connections) : Moment → Connections
  | .told input => if input.isAcceptance then connections.accept else connections
  | .used (.opening _ none) => { connections.finish with current := some [] }
  | .used (.opening _ (some _)) => connections.finish
  | .used (.sending _ message (.ok _) _) =>
      match connections.current with
      | some marks => { connections with current := some (marks ++ [.sent message]) }
      | none => { connections with unplaced := connections.unplaced ++ [message] }
  | .used (.sending _ _ (.error _) _) => connections.finish
  | .used (.closing _) => connections.finish

def observeAll (connections : Connections) (moments : List Moment) : Connections :=
  moments.foldl observe connections

end Connections

/-- How far a session is that has a connection with these marks. If `heard`, the
broker has just accepted. -/
inductive Talks (heard : Bool) : Phase → List Mark → Prop where
  | asking {marks : List Mark} (request : Broker.Connect)
      (hsaid : said marks = [.connect request]) (hheard : heard = true → Taken marks) :
      Talks heard .awaitingConnack marks
  | talking {exchanges : Exchanges} {marks : List Mark} (htaken : Taken marks)
      (hstays : .disconnect ∉ said marks) : Talks heard (.connected exchanges) marks

/-- Connections on which everything was said in its turn, and besides which
nothing was said. -/
structure Connections.Proper (connections : Connections) : Prop where
  orderly : ∀ marks ∈ connections.all, Orderly marks
  unplaced : connections.unplaced = []

structure Fits (heard : Bool) (session : Session) (connections : Connections) : Prop where
  proper : connections.Proper
  /-- Without a connection the link is closed. It may also close during one. -/
  closed : connections.current = none → session.brokerOpen = false
  talks : ∀ marks, connections.current = some marks → Talks heard session.phase marks

namespace Connections

theorem all_finish (connections : Connections) : connections.finish.all = connections.all :=
  List.append_nil _

theorem observeAll_append (connections : Connections) (first second : List Moment) :
    connections.observeAll (first ++ second) =
      (connections.observeAll first).observeAll second :=
  List.foldl_append

theorem Proper.finish {connections : Connections} (h : connections.Proper) :
    connections.finish.Proper :=
  ⟨fun marks hin => h.orderly marks (connections.all_finish ▸ hin), h.unplaced⟩

/-- The connection goes on, or another one takes its place. -/
theorem Proper.carryOn {connections : Connections} {marks : List Mark} (h : connections.Proper)
    (hmarks : Orderly marks) : Proper { connections with current := some marks } := by
  refine ⟨?_, h.unplaced⟩
  intro other hin
  rcases List.mem_append.mp hin with hended | hnew
  · exact h.orderly other (List.mem_append_left _ hended)
  · rw [List.mem_singleton.mp hnew]
    exact hmarks

theorem Proper.current {connections : Connections} {marks : List Mark} (h : connections.Proper)
    (hcurrent : connections.current = some marks) : Orderly marks := by
  refine h.orderly marks (List.mem_append_right _ ?_)
  rw [hcurrent]
  exact List.mem_singleton_self marks

end Connections

theorem Talks.usesBroker {heard : Bool} {phase : Phase} {marks : List Mark}
    (h : Talks heard phase marks) : phase.usesBroker = true := by
  cases h <;> rfl

/-- A session with a connection may take its leave, and once it is connected it
may say anything but a second CONNECT. -/
theorem Talks.mayFollow {heard : Bool} {phase : Phase} {marks : List Mark}
    {message : Broker.Message} (h : Talks heard phase marks)
    (hmessage : message = .disconnect ∨
      phase.isConnected = true ∧ message.isBoundary = false) :
    MayFollow marks message := by
  have hnot : ¬ ∃ request, message = .connect request := by
    rintro ⟨request, rfl⟩
    rcases hmessage with heq | ⟨-, hboundary⟩
    · cases heq
    · cases hboundary
  cases h with
  | asking request hsaid hheard =>
    rcases hmessage with rfl | ⟨hconnected, -⟩
    · exact ⟨by simp [hsaid], .inr (.inl rfl), by simp [hsaid]⟩
    · cases hconnected
  | talking htaken hstays =>
    exact ⟨iff_of_false hnot htaken.said_ne_nil, .inr (.inr htaken), hstays⟩

/-- A session that is connected may say whatever neither begins nor ends a connection. -/
theorem Talks.say {heard : Bool} {phase : Phase} {marks : List Mark} {message : Broker.Message}
    (h : Talks heard phase marks) (hphase : phase.isConnected = true)
    (hmessage : message.isBoundary = false) : Talks heard phase (marks ++ [.sent message]) := by
  cases h with
  | asking => cases hphase
  | talking htaken hstays =>
    refine .talking (htaken.snoc _) ?_
    rw [Broker.said_append, List.mem_append, not_or]
    refine ⟨hstays, fun hin => ?_⟩
    rw [← List.mem_singleton.mp hin] at hmessage
    cases hmessage

namespace Transition

variable {before : Connections} {heard : Bool} {context : Context} {input : Input}
variable {t next : Transition}

def connections (before : Connections) (transition : Transition) : Connections :=
  before.observeAll (transition.linkUses.map .used)

/-- What holds even between saying farewell and closing the link. -/
structure Heeds (before : Connections) (t : Transition) : Prop where
  proper : (t.connections before).Proper
  opens : ∀ failure, .opening true failure ∉ t.linkUses

/-- What holds after every act. -/
structure Talking (heard : Bool) (before : Connections) (t : Transition) : Prop where
  fits : Fits heard t.session (t.connections before)
  opens : ∀ failure, .opening true failure ∉ t.linkUses

theorem Talking.heeds (h : t.Talking heard before) : t.Heeds before :=
  ⟨h.fits.proper, h.opens⟩

theorem connections_use (t : Transition) (use : Broker.LinkUse) (f : Session → Session) :
    ((t.emit (.broker use)).update f).connections before =
      (t.connections before).observe (.used use) := by
  simp [connections, Connections.observeAll, Effect.use?]

theorem connections_congr (huses : next.linkUses = t.linkUses) :
    next.connections before = t.connections before := by
  unfold connections
  rw [huses]

theorem opens_use (h : ∀ failure, .opening true failure ∉ t.linkUses) {use : Broker.LinkUse}
    (huse : ∀ failure, use ≠ .opening true failure) (f : Session → Session) :
    ∀ failure, .opening true failure ∉ ((t.emit (.broker use)).update f).linkUses := by
  intro failure hin
  rw [linkUses_update, linkUses_emit] at hin
  rcases List.mem_append.mp hin with hold | hnew
  · exact h failure hold
  · exact huse failure (List.mem_singleton.mp hnew).symm

/-- What makes no use of the link only has to go on with what the phase says. -/
theorem Talking.congr (h : t.Talking heard before) (huses : next.linkUses = t.linkUses)
    (hopen : next.session.brokerOpen = t.session.brokerOpen)
    (htalks : ∀ marks, Talks heard t.session.phase marks → Talks heard next.session.phase marks) :
    next.Talking heard before := by
  refine ⟨?_, huses ▸ h.opens⟩
  rw [connections_congr huses]
  exact ⟨h.fits.proper, fun hnone => hopen.trans (h.fits.closed hnone),
    fun marks hcurrent => htalks marks (h.fits.talks marks hcurrent)⟩

/-! ### Uses of the link -/

/-- With the link the connection ends, whatever was said on it. -/
theorem Heeds.closeBroker (h : t.Heeds before) : t.closeBroker.Talking heard before := by
  refine ⟨?_, opens_use h.opens (fun _ heq => by cases heq) _⟩
  unfold Transition.closeBroker
  rw [connections_use]
  exact ⟨h.proper.finish, fun _ => rfl, fun _ hcurrent => by cases hcurrent⟩

theorem Heeds.tearDown (h : t.Heeds before) : t.tearDown.Talking heard before := by
  have huses : ((((t.toDevice (.disconnect none)).emit .disarmAll).update fun session =>
      { session with phase := .idle, tornDown := true }).linkUses) = t.linkUses := by
    simp [Effect.use?]
  have hforgot : Heeds before (((t.toDevice (.disconnect none)).emit .disarmAll).update
      fun session => { session with phase := .idle, tornDown := true }) := by
    refine ⟨?_, huses ▸ h.opens⟩
    rw [connections_congr huses]
    exact h.proper
  exact hforgot.closeBroker

/-- A message that the link did not take ends the connection. -/
theorem connections_of_failed {line : Broker.Line} {message : Broker.Message}
    (hsend : t.sendBroker line message = (false, next)) :
    next.connections before = (t.connections before).finish := by
  rcases hresult : line.send t.session.brokerOpen message with ⟨result, isOpen⟩
  simp only [sendBroker, hresult] at hsend
  cases result with
  | ok frame => cases hsend
  | error problem =>
    cases hsend
    rw [connections_use]
    rfl

/-- A message is only taken during a connection. -/
theorem connections_of_taken {line : Broker.Line} {message : Broker.Message}
    (hclosed : (t.connections before).current = none → t.session.brokerOpen = false)
    (hsend : t.sendBroker line message = (true, next)) :
    ∃ marks, (t.connections before).current = some marks ∧
      next.connections before =
        { t.connections before with current := some (marks ++ [.sent message]) } := by
  rcases hresult : line.send t.session.brokerOpen message with ⟨result, isOpen⟩
  simp only [Transition.sendBroker, hresult] at hsend
  cases result with
  | error problem => cases hsend
  | ok frame =>
    cases hsend
    cases hcurrent : (t.connections before).current with
    | none =>
      rw [hclosed hcurrent] at hresult
      unfold Broker.Line.send at hresult
      split at hresult <;> cases hresult
    | some marks =>
      refine ⟨marks, rfl, ?_⟩
      rw [connections_use]
      simp [Connections.observe, hcurrent]

theorem Heeds.sendBroker (h : t.Heeds before) (line : Broker.Line) (message : Broker.Message)
    (hclosed : (t.connections before).current = none → t.session.brokerOpen = false)
    (hmessage : ∀ marks, (t.connections before).current = some marks →
      MayFollow marks message) : (t.sendBroker line message).2.Heeds before := by
  refine ⟨?_, opens_use h.opens (fun _ heq => by cases heq) _⟩
  rcases hsend : t.sendBroker line message with ⟨taken, next⟩
  cases taken with
  | false =>
    rw [connections_of_failed hsend]
    exact h.proper.finish
  | true =>
    obtain ⟨marks, hcurrent, hnext⟩ := connections_of_taken hclosed hsend
    rw [hnext]
    refine h.proper.carryOn ((h.proper.current hcurrent).snoc ?_)
    rintro message ⟨⟩
    exact hmessage marks hcurrent

/-- A session may take its leave at any time. -/
theorem Talking.farewell (h : t.Talking heard before) (line : Broker.Line) :
    (t.sendBroker line .disconnect).2.Heeds before :=
  h.heeds.sendBroker line .disconnect h.fits.closed fun marks hcurrent =>
    (h.fits.talks marks hcurrent).mayFollow (.inl rfl)

/-- A message that is handed on is said on the connection, or ends it. -/
theorem Talking.forward (h : t.Talking heard before) {line : Broker.Line}
    {message : Broker.Message} (hphase : t.session.phase.isConnected = true)
    (hmessage : message.isBoundary = false) : (t.forward line message).2.Talking heard before := by
  have hheeds := h.heeds.sendBroker line message h.fits.closed fun marks hcurrent =>
    (h.fits.talks marks hcurrent).mayFollow (.inr ⟨hphase, hmessage⟩)
  have halike : Alike t (t.sendBroker line message).2 := alike_sendBroker line message
  unfold Transition.forward
  rcases hsend : t.sendBroker line message with ⟨taken, sent⟩
  rw [hsend] at hheeds halike
  cases taken with
  | false =>
    have hlost : sent.connectionLost = sent.tearDown := by
      refine Transition.connectionLost_of_busy fun hidle => ?_
      rw [← halike.phase, hidle] at hphase
      cases hphase
    simp only [hlost]
    exact hheeds.tearDown
  | true =>
    obtain ⟨marks, hcurrent, hnext⟩ := connections_of_taken h.fits.closed hsend
    refine ⟨⟨hheeds.proper, ?_, ?_⟩, hheeds.opens⟩
    · intro hnone
      rw [hnext] at hnone
      cases hnone
    · intro grown hgrown
      rw [hnext] at hgrown
      cases hgrown
      rw [halike.phase]
      exact (h.fits.talks marks hcurrent).say hphase hmessage

/-- Opening a link that is closed begins a connection, if it succeeds. -/
theorem Heeds.openBroker (h : t.Heeds before) (line : Broker.Line)
    (hclosed : t.session.brokerOpen = false) :
    (t.openBroker line).2.Heeds before ∧
      ((t.openBroker line).2.connections before).current =
        if (t.openBroker line).1 then some [] else none := by
  have huse : (t.openBroker line).2.connections before =
      (t.connections before).observe (.used (.opening false line.openFailure)) := by
    unfold Transition.openBroker
    simp only
    rw [connections_use, hclosed]
    rfl
  have hopens : ∀ failure, .opening true failure ∉ (t.openBroker line).2.linkUses := by
    refine opens_use h.opens (fun failure heq => ?_) _
    cases hclosed.symm.trans (Broker.LinkUse.opening.inj heq).1
  have hresult : (t.openBroker line).1 = line.openFailure.isNone := by
    simp [Transition.openBroker, hclosed]
  refine ⟨⟨?_, hopens⟩, ?_⟩
  · rw [huse]
    cases line.openFailure with
    | some problem => exact h.proper.finish
    | none => exact h.proper.finish.carryOn Broker.orderly_nil
  · rw [hresult, huse]
    cases line.openFailure <;> rfl

/-- A session that does not use the broker has no connection. -/
theorem Talking.current_eq_none (h : t.Talking heard before)
    (hphase : t.session.phase.usesBroker = false) : (t.connections before).current = none := by
  cases hcurrent : (t.connections before).current with
  | none => rfl
  | some marks =>
    rw [(h.fits.talks marks hcurrent).usesBroker] at hphase
    cases hphase

/-- On a connection that has just begun the broker is asked, or the connection
ends. -/
theorem Heeds.ask (h : t.Heeds before) (hbegun : (t.connections before).current = some [])
    (line : Broker.Line) (request : Broker.Connect) {taken : Bool}
    (hsend : t.sendBroker line (.connect request) = (taken, next)) :
    next.Heeds before ∧ (taken = true → (next.enter .awaitingConnack).Talking false before) := by
  have hclosed : (t.connections before).current = none → t.session.brokerOpen = false := by
    intro hnone
    cases hbegun.symm.trans hnone
  have hfirst : ∀ marks, (t.connections before).current = some marks →
      MayFollow marks (.connect request) := by
    intro marks hsome
    cases hbegun.symm.trans hsome
    exact ⟨iff_of_true ⟨_, rfl⟩ rfl, .inl rfl, List.not_mem_nil⟩
  have hheeds := h.sendBroker line _ hclosed hfirst
  rw [hsend] at hheeds
  refine ⟨hheeds, ?_⟩
  rintro rfl
  obtain ⟨marks, hsome, hnext⟩ := connections_of_taken hclosed hsend
  cases hbegun.symm.trans hsome
  have hasked : (next.connections before).current = some [.sent (.connect request)] := by
    rw [hnext]
    rfl
  refine ⟨⟨hheeds.proper, ?_, ?_⟩, hheeds.opens⟩
  · intro hnone
    cases hasked.symm.trans hnone
  · intro marks hsome
    cases hasked.symm.trans hsome
    exact .asking _ rfl nofun

/-- Asking the broker begins a connection with a CONNECT. -/
theorem Talking.connectBroker (h : t.Talking false before)
    (hphase : t.session.phase.usesBroker = false) (request : Sensor.Connect)
    (will : Option Broker.Will) : (t.connectBroker context request will).Talking false before := by
  have hidle : (t.enter .idle).Heeds before := ⟨h.fits.proper, h.opens⟩
  obtain ⟨hopened, hcurrent⟩ :=
    hidle.openBroker context.line (h.fits.closed (h.current_eq_none hphase))
  unfold Transition.connectBroker
  rcases hopen : (t.enter .idle).openBroker context.line with ⟨isOpen, opened⟩
  rw [hopen] at hopened hcurrent
  cases isOpen with
  | false =>
    have hlink : opened.session.brokerOpen = false :=
      calc opened.session.brokerOpen
          = ((t.enter .idle).openBroker context.line).2.session.brokerOpen := by rw [hopen]
        _ = ((t.enter .idle).openBroker context.line).1 := rfl
        _ = false := by rw [hopen]
    refine ⟨⟨hopened.proper, fun _ => hlink, ?_⟩, hopened.opens⟩
    intro marks hsome
    cases hcurrent.symm.trans hsome
  | true =>
    simp only
    rcases hsend : opened.sendBroker context.line (.connect (brokerConnect context request will))
      with ⟨taken, sent⟩
    obtain ⟨hheeds, hasked⟩ := hopened.ask hcurrent context.line _ hsend
    cases taken with
    | false => exact hheeds.closeBroker
    | true => exact hasked rfl

theorem Talking.emit (h : t.Talking heard before) {effect : Effect}
    (hinner : effect.usesLink = false) : (t.emit effect).Talking heard before :=
  h.congr (linkUses_emit_inner hinner) rfl fun _ htalks => htalks

theorem Talking.toDevice (h : t.Talking heard before) (message : Sensor.Message) :
    (t.toDevice message).Talking heard before := by
  have hsame : (t.toDevice message).session = t.session := session_toDevice message
  refine h.congr (linkUses_toDevice message) (congrArg Session.brokerOpen hsame) ?_
  intro marks htalks
  rw [hsame]
  exact htalks

theorem Talking.shutDown (h : t.Talking heard before) :
    (t.shutDown context).Talking heard before := by
  simp only [Transition.shutDown]
  split
  · exact (h.farewell context.line).closeBroker.emit rfl
  · exact h.heeds.closeBroker.emit rfl

theorem Talking.exchange (h : t.Talking heard before) {exchanges : Exchanges}
    (hphase : t.session.phase = .connected exchanges) (after : Exchanges) :
    (t.enter (.connected after)).Talking heard before := by
  refine h.congr rfl rfl fun marks htalks => ?_
  rw [hphase] at htalks
  cases htalks with
  | talking htaken hstays => exact .talking htaken hstays

theorem Talking.offerTopic (h : t.Talking heard before) {exchanges : Exchanges}
    (hphase : t.session.phase = .connected exchanges) (publication : Broker.Publish) :
    (t.offerTopic exchanges publication).Talking heard before := by
  unfold Transition.offerTopic
  split
  · exact h
  · split
    · exact h
    next topicId topics _ =>
      simp only
      have hnumbered : Talking heard before
          (t.update fun session => { session with topics }).takeMsgId.2 :=
        h.congr rfl rfl fun _ htalks => htalks
      have hoffered := hnumbered.toDevice (offer
        { topicId, msgId := t.session.nextMsgId, publication, tries := 1 })
      have halike : Alike (t.update fun session => { session with topics }).takeMsgId.2
          (Transition.toDevice _ (offer
            { topicId, msgId := t.session.nextMsgId, publication, tries := 1 })) :=
        alike_toDevice _
      exact (hoffered.exchange (halike.phase.trans hphase) _).emit rfl

/-! ### Acts, turns and runs -/

theorem act_talking (hact : Act context input t next)
    (h : t.Talking input.isAcceptance before) : next.Talking input.isAcceptance before := by
  cases hact with
  | tell message => exact h.toDevice message
  | emit hinner => exact h.emit hinner
  | note clientId nextMsgId => exact h.congr rfl rfl fun _ htalks => htalks
  | wait hbefore hafter =>
    refine h.congr rfl rfl fun marks htalks => ?_
    rw [htalks.usesBroker] at hbefore
    cases hbefore
  | ask request will hphase hinput =>
    rw [hinput] at h ⊢
    exact h.connectBroker hphase request will
  | restart =>
    have hidle : (t.enter .idle).Heeds before := ⟨h.fits.proper, h.opens⟩
    exact hidle.closeBroker
  | accept hphase hinput =>
    refine h.congr rfl rfl fun marks htalks => ?_
    rw [hphase] at htalks
    cases htalks with
    | asking request hsaid hheard => exact .talking (hheard hinput) (by simp [hsaid])
  | exchange hphase => exact h.exchange hphase _
  | forward hphase hmessage => exact h.forward hphase hmessage
  | tearDown => exact h.heeds.tearDown
  | leave => exact (h.farewell context.line).tearDown
  | shutDown => exact h.shutDown
  | close => exact h.heeds.closeBroker
  | register name => exact h.congr rfl rfl fun _ htalks => htalks
  | offer publication hphase => exact h.offerTopic hphase publication
  | bind hphase => exact (h.exchange hphase _).congr rfl rfl fun _ htalks => htalks
  | forgetId => exact h.congr rfl rfl fun _ htalks => htalks
  | forgetName => exact h.congr rfl rfl fun _ htalks => htalks

theorem acts_talking (hacts : Acts context input t next)
    (h : t.Talking input.isAcceptance before) : next.Talking input.isAcceptance before := by
  induction hacts with
  | refl => exact h
  | tail _ hact ih => exact act_talking hact ih

end Transition

/-- What was heard in a turn counts in that turn only. -/
theorem Talks.unheard {heard : Bool} {phase : Phase} {marks : List Mark}
    (h : Talks heard phase marks) : Talks false phase marks := by
  cases h with
  | asking request hsaid hheard => exact .asking request hsaid nofun
  | talking htaken hstays => exact .talking htaken hstays

theorem Fits.unheard {heard : Bool} {session : Session} {connections : Connections}
    (h : Fits heard session connections) : Fits false session connections :=
  ⟨h.proper, h.closed, fun marks hcurrent => (h.talks marks hcurrent).unheard⟩

theorem Talks.accept {phase : Phase} {marks : List Mark} (h : Talks false phase marks) :
    Talks true phase (marks ++ [.accepted]) := by
  have hsame : said (marks ++ [.accepted]) = said marks := by simp [said, Mark.message?]
  cases h with
  | asking request hsaid hheard =>
    exact .asking request (hsame.trans hsaid) fun _ => Broker.taken_of_said hsaid
  | talking htaken hstays => exact .talking (htaken.snoc _) (hsame ▸ hstays)

/-- The broker accepts the connection. -/
theorem Fits.accept {session : Session} {connections : Connections}
    (h : Fits false session connections) : Fits true session connections.accept := by
  cases hcurrent : connections.current with
  | none =>
    have hsame : connections.accept = connections := by
      rw [Connections.accept, hcurrent, Option.map_none, ← hcurrent]
    rw [hsame]
    refine ⟨h.proper, h.closed, fun marks hsome => ?_⟩
    cases hcurrent.symm.trans hsome
  | some marks =>
    have haccepted : connections.accept.current = some (marks ++ [.accepted]) := by
      rw [Connections.accept, hcurrent]
      rfl
    have horderly : Orderly (marks ++ [.accepted]) :=
      (h.proper.current hcurrent).snoc fun _ => nofun
    refine ⟨?_, fun hnone => ?_, fun grown hgrown => ?_⟩
    · rw [Connections.accept, hcurrent]
      exact h.proper.carryOn horderly
    · cases haccepted.symm.trans hnone
    · cases haccepted.symm.trans hgrown
      exact (h.talks marks hcurrent).accept

theorem Fits.told {session : Session} {connections : Connections}
    (h : Fits false session connections) (input : Input) :
    Fits input.isAcceptance session (connections.observe (.told input)) := by
  cases hheard : input.isAcceptance with
  | false =>
    rw [Connections.observe, hheard]
    exact h
  | true =>
    rw [Connections.observe, hheard]
    exact h.accept

/-- A turn goes on with what was said before. -/
theorem take_talking (config : Config) (turn : Turn) {session : Session}
    {connections : Connections} (h : Fits false session connections) :
    (session.take config turn).Talking turn.input.isAcceptance
      (connections.observe (.told turn.input)) := by
  obtain ⟨hproper, hclosed, htalks⟩ := h.told turn.input
  refine Transition.acts_talking (take_acts config turn session) ⟨?_, fun _ => List.not_mem_nil⟩
  refine ⟨hproper, fun hnone => ?_, fun marks hcurrent => ?_⟩
  · exact (brokerOpen_hear config turn session).trans (hclosed hnone)
  · have hphase := phase_hear config turn session
    exact hphase ▸ htalks marks hcurrent

theorem observeAll_turn (config : Config) (turn : Turn) (turns : List Turn) (session : Session)
    (connections : Connections) :
    connections.observeAll (history config (turn :: turns) session) =
      ((session.take config turn).connections
        (connections.observe (.told turn.input))).observeAll
          (history config turns (session.take config turn).session) :=
  Connections.observeAll_append _ (_ :: _) _

/-- The history of a run tells how the link was used in it. -/
theorem uses_history (config : Config) (turns : List Turn) (session : Session) :
    (history config turns session).filterMap (·.use?) =
      (session.run config turns).linkUses := by
  induction turns generalizing session with
  | nil => rfl
  | cons turn turns ih =>
    have hfirst (uses : List Broker.LinkUse) :
        (uses.map Moment.used).filterMap (·.use?) = uses := by
      rw [List.filterMap_map]
      exact List.filterMap_some
    have hrun : (session.run config (turn :: turns)).linkUses =
        (session.take config turn).linkUses ++
          (run config turns (session.take config turn).session).linkUses :=
      List.filterMap_append
    rw [hrun, ← ih, history, List.filterMap_append,
      List.filterMap_cons_none (show Moment.use? (.told turn.input) = none from rfl), hfirst]

theorem run_fits (config : Config) (turns : List Turn) {session : Session}
    {connections : Connections} (h : Fits false session connections) :
    Fits false (session.run config turns).session
        (connections.observeAll (history config turns session)) ∧
      ∀ failure, .used (.opening true failure) ∉ history config turns session := by
  induction turns generalizing session connections with
  | nil => exact ⟨h, fun _ => List.not_mem_nil⟩
  | cons turn turns ih =>
    have hturn := take_talking config turn h
    obtain ⟨hrest, hopens⟩ := ih hturn.fits.unheard
    rw [observeAll_turn]
    refine ⟨hrest, fun failure hin => ?_⟩
    rcases List.mem_append.mp hin with hfirst | hlater
    · rcases List.mem_cons.mp hfirst with htold | hused
      · cases htold
      · obtain ⟨use, huse, heq⟩ := List.mem_map.mp hused
        cases heq
        exact hturn.opens failure huse
    · exact hopens failure hlater

/-- A session whose link is closed has no connection. -/
theorem fits_of_closed {session : Session} (hclosed : session.brokerOpen = false) :
    Fits false session {} :=
  ⟨⟨fun _ hin => (List.not_mem_nil hin).elim, rfl⟩, fun _ => hclosed, fun _ => nofun⟩

/-- Only a session that the broker knows, or that waits for its answer, has an
open link. -/
theorem Fits.usesBroker {heard : Bool} {session : Session} {connections : Connections}
    (h : Fits heard session connections) (hopen : session.brokerOpen = true) :
    session.phase.usesBroker = true := by
  cases hcurrent : connections.current with
  | none =>
    rw [h.closed hcurrent] at hopen
    cases hopen
  | some marks => exact (h.talks marks hcurrent).usesBroker

/-- On every connection of a session everything is said in its turn, nothing is
said outside of a connection, and a link that is open is not opened again. -/
theorem run_orderly (config : Config) (address : Address) (now : Nat) (turns : List Turn) :
    let session := begin config address now
    let connections := Connections.observeAll {} (history config turns session)
    (∀ marks ∈ connections.all, Orderly marks) ∧ connections.unplaced = [] ∧
      ∀ failure, .opening true failure ∉ (session.run config turns).linkUses := by
  intro session connections
  obtain ⟨hfits, hopens⟩ := run_fits config turns (fits_of_closed rfl : Fits false session {})
  refine ⟨hfits.proper.orderly, hfits.proper.unplaced, fun failure hin => ?_⟩
  rw [← uses_history] at hin
  obtain ⟨moment, hmoment, huse⟩ := List.mem_filterMap.mp hin
  cases moment with
  | told input => cases huse
  | used use =>
    cases huse
    exact hopens failure hmoment

/-- A device that connects, is heard once and leaves. -/
def connectAndLeave : List Turn :=
  [⟨0, {}, .sensor meter (.connect
      { flags := {}, protocolId := 1, duration := 60, clientId := "d" }) "udp:20000"⟩,
    ⟨0, {}, .broker (.connack Broker.Message.accepted)⟩,
    ⟨0, {}, .sensor meter (.pingRequest none) "udp:20000"⟩,
    ⟨0, {}, .sensor meter (.disconnect none) "udp:20000"⟩]

/-- Its connection begins with a CONNECT and ends with a DISCONNECT. -/
theorem run_orderly_connectAndLeave :
    let connections :=
      Connections.observeAll {} (history {} connectAndLeave (begin {} meter 0))
    ∃ request, connections.all =
        [[.sent (.connect request), .accepted, .sent .pingRequest, .sent .disconnect]] ∧
      Orderly [.sent (.connect request), .accepted, .sent .pingRequest, .sent .disconnect] := by
  obtain ⟨horderly, -⟩ := run_orderly {} meter 0 connectAndLeave
  refine ⟨_, rfl, ?_⟩
  apply horderly
  exact List.mem_singleton_self _

end Session

end SensorGateway
