import SensorGateway.Proofs.Session.Deeds

/-!
The connections that a session makes to the broker, by number. A session that
waits for the broker to accept has asked it on the latest of its connections, and
it becomes connected as the broker accepts while it waits, and in no other way.
-/

namespace SensorGateway

namespace Broker

def LinkUse.opens : LinkUse → Bool
  | opening wasOpen failure => !wasOpen && failure.isNone
  | sending .. | closing _ => false

/-- Whether the link takes a request to connect the device. -/
def LinkUse.asks : LinkUse → Bool
  | sending _ message result _ => message.connect?.isSome && result.isOk
  | opening .. | closing _ => false

/-- The connections on a link, which are numbered from 1. -/
structure Calls where
  /-- How many there were, so that the latest goes by this number. -/
  opened : Nat := 0
  /-- The one on which the broker was last asked to connect the device. -/
  asked : Nat := 0

/-- Uses of a link that neither begin a connection nor ask the broker for one. -/
def AreIdle (uses : List LinkUse) : Prop :=
  ∀ use ∈ uses, use.opens = false ∧ use.asks = false

/-- Uses of a link of which none after the one that asks the broker makes a difference. -/
def EndAsked (uses : List LinkUse) : Prop :=
  ∃ earlier use later, uses = earlier ++ use :: later ∧ use.asks = true ∧ AreIdle later

theorem AreIdle.append {first second : List LinkUse} (h : AreIdle first) (h' : AreIdle second) :
    AreIdle (first ++ second) := by
  intro use hin
  rcases List.mem_append.mp hin with hin | hin
  · exact h use hin
  · exact h' use hin

theorem areIdle_nil : AreIdle [] := fun _ hin => (List.not_mem_nil hin).elim

theorem EndAsked.append {uses later : List LinkUse} (h : EndAsked uses) (hidle : AreIdle later) :
    EndAsked (uses ++ later) := by
  obtain ⟨earlier, use, between, rfl, hasks, hbetween⟩ := h
  refine ⟨earlier, use, between ++ later, ?_, hasks, hbetween.append hidle⟩
  rw [List.append_assoc, List.cons_append]

theorem EndAsked.any_asks {uses : List LinkUse} (h : EndAsked uses) :
    uses.any (·.asks) = true := by
  obtain ⟨earlier, use, later, rfl, hasks, -⟩ := h
  rw [List.any_append, List.any_cons, hasks, Bool.true_or, Bool.or_true]

theorem AreIdle.any_asks {uses : List LinkUse} (h : AreIdle uses) :
    uses.any (·.asks) = false := by
  rw [List.any_eq_false]
  intro use hin
  rw [(h use hin).2]
  exact Bool.false_ne_true

namespace Calls

def note (calls : Calls) (use : LinkUse) : Calls :=
  if use.opens then { calls with opened := calls.opened + 1 }
  else if use.asks then { calls with asked := calls.opened }
  else calls

def after (calls : Calls) (uses : List LinkUse) : Calls := uses.foldl note calls

variable {use : LinkUse} {uses : List LinkUse}

theorem after_append (calls : Calls) (first second : List LinkUse) :
    calls.after (first ++ second) = (calls.after first).after second :=
  List.foldl_append

theorem opened_le_note (calls : Calls) (use : LinkUse) :
    calls.opened ≤ (calls.note use).opened := by
  unfold note
  split
  · exact Nat.le_succ _
  · split
    · exact Nat.le_refl _
    · exact Nat.le_refl _

/-- Connections only become more. -/
theorem opened_le_after (calls : Calls) (uses : List LinkUse) :
    calls.opened ≤ (calls.after uses).opened := by
  induction uses generalizing calls with
  | nil => exact Nat.le_refl _
  | cons use uses ih => exact Nat.le_trans (opened_le_note calls use) (ih (calls.note use))

/-- Idle uses leave the connections as they are. -/
theorem after_idle (calls : Calls) (h : AreIdle uses) : calls.after uses = calls := by
  induction uses with
  | nil => rfl
  | cons use uses ih =>
    have hfirst := h use List.mem_cons_self
    have hsame : calls.note use = calls := by simp [note, hfirst.1, hfirst.2]
    have hrest : AreIdle uses := fun other hin => h other (List.mem_cons_of_mem use hin)
    change (calls.note use).after uses = calls
    rw [hsame, ih hrest]

/-- The broker is asked on the latest connection. -/
theorem asked_note (calls : Calls) (h : use.asks = true) :
    (calls.note use).asked = (calls.note use).opened := by
  have hopens : use.opens = false := by
    cases use with
    | sending => rfl
    | opening => cases h
    | closing => cases h
  simp [note, hopens, h]

/-- After the use that asks the broker the latest connection is the one on which it was
asked. -/
theorem asked_after (calls : Calls) (h : EndAsked uses) :
    (calls.after uses).asked = (calls.after uses).opened := by
  obtain ⟨earlier, use, later, rfl, hasks, hlater⟩ := h
  have hlast : calls.after (earlier ++ use :: later) = (calls.after earlier).note use := by
    rw [after_append]
    exact after_idle _ hlater
  rw [hlast]
  exact asked_note _ hasks

end Calls

end Broker

namespace Session

open Broker (AreIdle EndAsked areIdle_nil)

namespace Transition

/-- How it comes that a session waits for the broker to accept the connection, if it was in
this phase before. -/
inductive Dials (origin : Phase) (t : Transition) : Prop where
  | apart (hphase : t.session.phase ≠ .awaitingConnack)
  | asked (huses : EndAsked t.linkUses)
  | waits (horigin : origin = .awaitingConnack) (huses : AreIdle t.linkUses)

variable {origin : Phase} {context : Context} {input : Input} {t next : Transition}

/-- What neither begins a connection nor asks the broker makes no difference. -/
theorem Dials.extend (h : t.Dials origin) {uses : List Broker.LinkUse}
    (huses : next.linkUses = t.linkUses ++ uses) (hidle : AreIdle uses)
    (hphase : next.session.phase = t.session.phase) : next.Dials origin := by
  cases h with
  | apart hapart => exact .apart (hphase ▸ hapart)
  | asked hasked => exact .asked (huses ▸ hasked.append hidle)
  | waits horigin hbefore => exact .waits horigin (huses ▸ hbefore.append hidle)

theorem Dials.same (h : t.Dials origin) (huses : next.linkUses = t.linkUses)
    (hphase : next.session.phase = t.session.phase) : next.Dials origin :=
  h.extend (huses.trans (List.append_nil _).symm) areIdle_nil hphase

theorem areIdle_closing (wasOpen : Bool) : AreIdle [.closing wasOpen] := by
  intro use hin
  rw [List.mem_singleton.mp hin]
  exact ⟨rfl, rfl⟩

theorem Dials.closeBroker (h : t.Dials origin) : t.closeBroker.Dials origin := by
  refine h.extend ?_ (areIdle_closing t.session.brokerOpen) rfl
  simp [Transition.closeBroker, Effect.use?]

theorem Dials.emit (h : t.Dials origin) {effect : Effect} (hinner : effect.usesLink = false) :
    (t.emit effect).Dials origin :=
  h.same (linkUses_emit_inner hinner) rfl

theorem Dials.toDevice (h : t.Dials origin) (message : Sensor.Message) :
    (t.toDevice message).Dials origin :=
  h.same (linkUses_toDevice message) (by rw [session_toDevice])

theorem Dials.shutDown (h : t.Dials origin) : (t.shutDown context).Dials origin := by
  have hleaves : (t.sendBroker context.line .disconnect).2.Dials origin := by
    refine h.extend (linkUses_emit _) (fun use hin => ?_) rfl
    rw [List.mem_singleton.mp hin]
    exact ⟨rfl, rfl⟩
  simp only [Transition.shutDown]
  split
  · exact hleaves.closeBroker.emit rfl
  · exact h.closeBroker.emit rfl

/-- A session that is connected has nothing to wait for. -/
theorem dials_of_connected (h : t.session.phase.isConnected = true) : t.Dials origin := by
  refine .apart fun hwaits => ?_
  rw [hwaits] at h
  cases h

theorem dials_of_idle (h : t.session.phase = .idle) : t.Dials origin := by
  refine .apart fun hwaits => ?_
  cases h.symm.trans hwaits

/-- If the broker is asked, this is the last use of the link. -/
theorem dials_connectBroker (request : Sensor.Connect) (will : Option Broker.Will) :
    (t.connectBroker context request will).Dials origin := by
  unfold connectBroker
  rcases hopen : (t.enter .idle).openBroker context.line with ⟨isOpen, opened⟩
  have hphase : opened.session.phase = .idle := by
    have hopened : Alike (t.enter .idle) ((t.enter .idle).openBroker context.line).2 :=
      alike_openBroker context.line
    rw [hopen] at hopened
    exact hopened.phase
  cases isOpen with
  | false => exact dials_of_idle hphase
  | true =>
    simp only
    rcases hsend : opened.sendBroker context.line (.connect (brokerConnect context request will))
      with ⟨taken, sent⟩
    cases taken with
    | false =>
      have hsent : Alike opened sent := by
        have hsent := alike_sendBroker (t := opened) context.line
          (.connect (brokerConnect context request will))
        rwa [hsend] at hsent
      have hclosed : sent.closeBroker.session.phase = sent.session.phase := rfl
      exact dials_of_idle (hclosed.trans (hsent.phase.trans hphase))
    | true =>
      rcases hresult : context.line.send opened.session.brokerOpen
        (.connect (brokerConnect context request will)) with ⟨result, staysOpen⟩
      simp only [sendBroker, hresult] at hsend
      obtain ⟨htaken, rfl⟩ := Prod.mk.inj hsend
      exact .asked ⟨opened.linkUses, _, [], linkUses_emit _, htaken, areIdle_nil⟩

theorem dials_forward {message : Broker.Message} (hphase : t.session.phase.isConnected = true) :
    (t.forward context.line message).2.Dials origin := by
  obtain ⟨exchanges, hconnected⟩ := exists_connected hphase
  rcases hresult : t.forward context.line message with ⟨taken, next⟩
  cases taken with
  | true =>
    refine dials_of_connected ?_
    rwa [(alike_of_forward hresult).phase]
  | false =>
    have hsent : Alike t (t.sendBroker context.line message).2 := alike_sendBroker _ _
    unfold forward at hresult
    rcases hsend : t.sendBroker context.line message with ⟨taken, sent⟩
    rw [hsend] at hresult hsent
    cases taken with
    | true => cases hresult
    | false =>
      obtain rfl : sent.connectionLost = next := (Prod.mk.inj hresult).2
      unfold connectionLost
      split
      next hidle => exact dials_of_idle hidle
      next => exact dials_of_idle rfl

/-- An act keeps it known how a session comes to wait for the broker. -/
theorem act_dials (hact : Act context input t next) (h : t.Dials origin) :
    next.Dials origin := by
  cases hact with
  | tell message => exact h.toDevice message
  | emit hinner => exact h.emit hinner
  | note clientId nextMsgId => exact h.same rfl rfl
  | wait hbefore hafter =>
    refine .apart fun hwaits => ?_
    subst (hwaits : _ = Phase.awaitingConnack)
    cases hafter
  | ask request will => exact dials_connectBroker request will
  | restart => exact dials_of_idle rfl
  | accept => exact dials_of_connected rfl
  | exchange => exact dials_of_connected rfl
  | forward hphase => exact dials_forward hphase
  | tearDown => exact dials_of_idle rfl
  | leave => exact dials_of_idle rfl
  | shutDown => exact h.shutDown
  | close => exact h.closeBroker
  | register name => exact h.same rfl rfl
  | offer publication hphase =>
    exact dials_of_connected (phase_offerTopic publication hphase)
  | bind => exact dials_of_connected rfl
  | forgetId => exact h.same rfl rfl
  | forgetName => exact h.same rfl rfl

theorem acts_dials (hacts : Acts context input t next) (h : t.Dials origin) :
    next.Dials origin := by
  induction hacts with
  | refl => exact h
  | tail _ hact ih => exact act_dials hact ih

end Transition

/-- A session that waits for the broker after a turn has asked it in this turn, or waited
before and has not begun another connection. -/
theorem take_dials (config : Config) (turn : Turn) (session : Session) :
    (session.take config turn).Dials session.phase := by
  refine Transition.acts_dials (take_acts config turn session) ?_
  by_cases hwaits : session.phase = .awaitingConnack
  · exact .waits hwaits areIdle_nil
  · refine .apart fun hphase => hwaits ?_
    exact (phase_hear config turn session).symm.trans hphase

/-! ### When a session becomes connected -/

structure IsAcceptedBy (session : Session) (input : Input) : Prop where
  phase : session.phase = .awaitingConnack
  input : input = .broker (.connack Broker.Message.accepted)

namespace Transition

variable {context : Context} {t : Transition}

/-- The session is not connected, and the device was not told that it is. -/
structure Declines (t : Transition) : Prop where
  phase : t.session.phase.isConnected = false
  told : .connack .accepted ∉ t.told

/-- A session that declines is not connected. -/
theorem Declines.phase_ne (h : t.Declines) {exchanges : Exchanges} :
    t.session.phase ≠ .connected exchanges := by
  intro hconnected
  have hphase := h.phase
  rw [hconnected] at hphase
  cases hphase

theorem Declines.emit (h : t.Declines) {effect : Effect} (htold : effect.told? = none) :
    (t.emit effect).Declines :=
  ⟨h.phase, told_emit (t := t) htold ▸ h.told⟩

theorem Declines.update (h : t.Declines) {f : Session → Session}
    (hphase : (f t.session).phase = t.session.phase) : (t.update f).Declines :=
  ⟨(congrArg Phase.isConnected hphase).trans h.phase, h.told⟩

theorem Declines.enter (h : t.Declines) {phase : Phase} (hphase : phase.isConnected = false) :
    (t.enter phase).Declines :=
  ⟨hphase, h.told⟩

theorem Declines.toDevice (h : t.Declines) (message : Sensor.Message)
    (hmessage : message ≠ .connack .accepted) : (t.toDevice message).Declines := by
  refine ⟨by rw [session_toDevice]; exact h.phase, ?_⟩
  by_cases hlink : t.session.link.isSome = true
  · rw [told_toDevice hlink, List.mem_append, List.mem_singleton]
    rintro (hold | hnew)
    · exact h.told hold
    · exact hmessage hnew.symm
  · unfold Transition.toDevice
    split
    next => exact h.told
    next link hsome =>
      rw [hsome] at hlink
      exact absurd rfl hlink

theorem Declines.use (h : t.Declines) (use : Broker.LinkUse) : (t.emit (.broker use)).Declines :=
  h.emit rfl

theorem Declines.openBroker (h : t.Declines) (line : Broker.Line) :
    (t.openBroker line).2.Declines :=
  ⟨h.phase, (h.use _).told⟩

theorem Declines.sendBroker (h : t.Declines) (line : Broker.Line) (message : Broker.Message) :
    (t.sendBroker line message).2.Declines :=
  ⟨h.phase, (h.use _).told⟩

theorem Declines.closeBroker (h : t.Declines) : t.closeBroker.Declines :=
  (h.emit rfl).update rfl

theorem Declines.connectBroker (h : t.Declines) (request : Sensor.Connect)
    (will : Option Broker.Will) : (t.connectBroker context request will).Declines := by
  have hidle : (t.enter .idle).Declines := h.enter rfl
  have hopened := hidle.openBroker context.line
  unfold Transition.connectBroker
  rcases hopen : (t.enter .idle).openBroker context.line with ⟨isOpen, opened⟩
  rw [hopen] at hopened
  cases isOpen with
  | false => exact hopened
  | true =>
    have hsent := hopened.sendBroker context.line (.connect (brokerConnect context request will))
    simp only
    rcases hsend : opened.sendBroker context.line (.connect (brokerConnect context request will))
      with ⟨taken, sent⟩
    rw [hsend] at hsent
    cases taken with
    | false => exact hsent.closeBroker
    | true => exact hsent.enter rfl

theorem Declines.establish (h : t.Declines) (request : Sensor.Connect) :
    (t.establish context request).Declines := by
  unfold Transition.establish
  split
  · exact ((h.toDevice .willTopicRequest nofun).enter rfl).emit rfl
  · exact h.connectBroker request none

theorem Declines.connect (h : t.Declines) (request : Sensor.Connect) :
    (t.connect context request).Declines := by
  have hnamed : (t.update fun session => { session with clientId := request.clientId }).Declines :=
    h.update rfl
  unfold Transition.connect
  simp only
  split
  next hconnected => exact (hnamed.phase_ne hconnected).elim
  next => exact (hnamed.closeBroker.enter rfl).establish request
  next => exact hnamed.establish request
  next => exact hnamed
  next => exact hnamed

theorem Declines.willTopic (h : t.Declines) (will : Sensor.WillTopic) :
    (t.willTopic will).Declines := by
  unfold Transition.willTopic
  split
  · exact (((h.emit rfl).toDevice .willMessageRequest nofun).enter rfl).emit rfl
  · exact h

theorem Declines.willMessage (h : t.Declines) (data : Bytes) :
    (t.willMessage context data).Declines := by
  unfold Transition.willMessage
  split
  · exact (h.emit rfl).connectBroker _ _
  · exact h

theorem Declines.tearDown (h : t.Declines) : t.tearDown.Declines := by
  have htold : ((t.toDevice (.disconnect none)).emit .disarmAll).Declines :=
    (h.toDevice (.disconnect none) nofun).emit rfl
  have hforgot : Declines (((t.toDevice (.disconnect none)).emit .disarmAll).update fun session =>
      { session with phase := .idle, tornDown := true }) := ⟨rfl, htold.told⟩
  exact hforgot.closeBroker

theorem Declines.refuse (h : t.Declines) : t.refuse.Declines := h.toDevice (.disconnect none) nofun

theorem Declines.disconnect (h : t.Declines) : (t.disconnect context).Declines := by
  unfold Transition.disconnect
  split
  · exact h
  · split
    · exact (h.sendBroker _ _).tearDown
    · exact h.tearDown

theorem Declines.whenConnected (h : t.Declines) (step : Exchanges → Transition → Transition) :
    (t.whenConnected step).Declines := by
  rw [whenConnected_eq_refuse h.phase]
  exact h.refuse

theorem Declines.relay (h : t.Declines) (message : Broker.Message) :
    (t.relay context message).Declines :=
  h.whenConnected _

/-- Nothing that the device says gets it connected by itself. -/
theorem Declines.sensor (h : t.Declines) (message : Sensor.Message) (link : LinkName) :
    (t.sensor context message link).Declines := by
  cases message with
  | searchGateway radius => exact h.emit rfl
  | connect request => exact h.connect request
  | willTopic will => exact h.willTopic will
  | willMessage data => exact h.willMessage data
  | register registration => exact h.whenConnected _
  | regack ack => exact h.whenConnected _
  | publish publication =>
    by_cases hlevel : publication.flags.qos = .minusOne
    · rw [Transition.sensor_of_minusOne hlevel]
      exact h.emit rfl
    · rw [Transition.sensor_of_ne_minusOne hlevel]
      exact h.whenConnected _
  | puback ack => exact h.whenConnected _
  | pubrec msgId => exact h.relay _
  | pubrel msgId => exact h.relay _
  | pubcomp msgId => exact h.relay _
  | subscribe request => exact h.whenConnected _
  | unsubscribe request => exact h.whenConnected _
  | pingRequest clientId => exact h.relay _
  | pingResponse => exact h.relay _
  | disconnect duration => exact h.disconnect
  | _ => exact h

/-- Nothing that the broker says does, unless it accepts the connection. -/
theorem Declines.broker (h : t.Declines) (message : Broker.Message)
    (hother : ¬ t.session.IsAcceptedBy (.broker message)) :
    (t.broker context message).Declines := by
  by_cases hconnack : ∃ code, message = .connack code
  · obtain ⟨code, rfl⟩ := hconnack
    simp only [Transition.broker, connack]
    split
    next hphase =>
      split
      next hcode => exact (hother ⟨hphase, by rw [hcode]⟩).elim
      next => exact h.tearDown
    next => exact h
  · rw [broker_eq_self h.phase fun code heq => hconnack ⟨code, heq⟩]
    exact h

theorem Declines.connectionLost (h : t.Declines) : t.connectionLost.Declines := by
  unfold Transition.connectionLost
  split
  · exact h
  · exact h.tearDown

theorem Declines.willTopicTimeout (h : t.Declines) : (t.willTopicTimeout context).Declines := by
  unfold Transition.willTopicTimeout
  split
  · split
    · exact (h.enter rfl).emit rfl
    · exact (h.toDevice .willTopicRequest nofun).enter rfl
  · exact h

theorem Declines.willMessageTimeout (h : t.Declines) :
    (t.willMessageTimeout context).Declines := by
  unfold Transition.willMessageTimeout
  split
  · split
    · exact (h.enter rfl).emit rfl
    · exact (h.toDevice .willMessageRequest nofun).enter rfl
  · exact h

theorem Declines.regackTimeout (h : t.Declines) : (t.regackTimeout context).Declines := by
  unfold Transition.regackTimeout
  split
  next hconnected => exact (h.phase_ne hconnected).elim
  next => exact h

theorem Declines.shutDown (h : t.Declines) : (t.shutDown context).Declines := by
  simp only [Transition.shutDown]
  split
  · exact (h.sendBroker _ _).closeBroker.emit rfl
  · exact h.closeBroker.emit rfl

/-- And no signal does. -/
theorem Declines.signal (h : t.Declines) (signal : Signal) :
    (t.signal context signal).Declines := by
  cases signal with
  | connectionLost => exact h.connectionLost
  | willTopicTimeout => exact h.willTopicTimeout
  | willMessageTimeout => exact h.willMessageTimeout
  | regackTimeout => exact h.regackTimeout
  | shutDown => exact h.shutDown
  | checkInactivity => exact h
  | sendKeepAlive => exact h

end Transition

/-- Unless the broker accepts it a session is not connected by a turn, and does not tell its
device that it is. -/
theorem take_declines (config : Config) {turn : Turn} {session : Session}
    (hphase : session.phase.isConnected = false) (hother : ¬ session.IsAcceptedBy turn.input) :
    (session.take config turn).Declines := by
  have hheard := phase_hear config turn session
  have hstart : (Transition.start (session.hear config turn)).Declines :=
    ⟨(congrArg Phase.isConnected hheard).trans hphase, List.not_mem_nil⟩
  have hstill : ¬ (Transition.start (session.hear config turn)).session.IsAcceptedBy turn.input :=
    fun h => hother ⟨hheard.symm.trans h.phase, h.input⟩
  obtain ⟨now, line, input⟩ := turn
  cases input with
  | sensor seen message link => exact hstart.sensor message link
  | broker message => exact hstart.broker message hstill
  | signal signal =>
    simp only [take, onSignal]
    split
    · exact hstart.closeBroker.emit rfl
    · exact hstart.signal signal

/-- If the broker accepts it a session is connected, and tells its device so and nothing
else. -/
theorem take_accepted (config : Config) {turn : Turn} {session : Session}
    (h : session.IsAcceptedBy turn.input) (hreached : session.Reached) :
    (session.take config turn).session.phase.isConnected = true ∧
      ∃ link, (session.take config turn).effects =
        [.device link session.address (.connack .accepted)] := by
  have hphase : (Transition.start (session.hear config turn)).session.phase = .awaitingConnack :=
    (phase_hear config turn session).trans h.phase
  have htake : session.take config turn =
      ((Transition.start (session.hear config turn)).enter (.connected {})).toDevice
        (.connack .accepted) := by
    rw [take_broker config h.input]
    simp only [Transition.broker, Transition.connack]
    rw [hphase]
    rfl
  have hheard : (session.hear config turn).address = session.address ∧
      (session.hear config turn).link = session.link := by
    unfold hear
    simp only [h.input, and_self]
  obtain ⟨link, hlink⟩ : ∃ link, session.link = some link := by
    rw [← Option.ne_none_iff_exists']
    exact fun hnone => Phase.noConfusion (h.phase.symm.trans (hreached hnone))
  refine ⟨by rw [htake, Transition.session_toDevice]; rfl, link, ?_⟩
  rw [htake]
  simp [Transition.toDevice, Transition.start, Transition.enter, Transition.update,
    Transition.emit, hheard, hlink]

end Session

end SensorGateway
