import Mathlib.Data.List.Induction
import SensorGateway.Proofs.Session.Acts

/-!
How long a session may stay silent. The deadline of a session is moved by messages
only, of the device or of its broker; a signal never moves it. So the last message
that was heard tells when the session is overdue, and a history of turns whether
the device was heard since it was last given up.
-/

namespace SensorGateway

namespace Session

/-! ### The history of a device -/

def Turn.isOfDevice (turn : Turn) : Bool :=
  match turn.input with
  | .sensor .. => true
  | .broker _ | .signal _ => false

def Turn.isMessage (turn : Turn) : Bool :=
  match turn.input with
  | .sensor .. | .broker _ => true
  | .signal _ => false

def Turn.isLook (turn : Turn) : Bool :=
  match turn.input with
  | .signal signal => signal == .checkInactivity
  | .sensor .. | .broker _ => false

/-- How long a device may stay silent, in nanoseconds. -/
def longestSilence (config : Config) : Nat := config.handlerTimeout * 1000000000

def lastHeard (turns : List Turn) : Option Nat :=
  (turns.filter (·.isMessage)).getLast?.map (·.now)

def isOverdue (config : Config) (turns : List Turn) (now : Nat) : Bool :=
  (lastHeard turns).any fun heard => heard + longestSilence config < now

def evicts (config : Config) (turns : List Turn) (turn : Turn) : Bool :=
  turn.isLook && isOverdue config turns turn.now

/-- A history in which the device said something and was not given up
afterwards. -/
def HeardSinceEviction (config : Config) (turns : List Turn) : Prop :=
  ∃ past word later, turns = past ++ word :: later ∧ word.isOfDevice = true ∧
    ∀ between turn rest, later = between ++ turn :: rest →
      evicts config (past ++ word :: between) turn = false

variable {config : Config} {turns : List Turn} {turn : Turn}

theorem lastHeard_snoc (turns : List Turn) (turn : Turn) :
    lastHeard (turns ++ [turn]) = if turn.isMessage then some turn.now else lastHeard turns := by
  unfold lastHeard
  rw [List.filter_append]
  cases hmessage : turn.isMessage with
  | true => simp [hmessage]
  | false => simp [hmessage]

theorem isMessage_of_isOfDevice (h : turn.isOfDevice = true) : turn.isMessage = true := by
  obtain ⟨now, line, input⟩ := turn
  cases input with
  | sensor seen message link => rfl
  | broker message => cases h
  | signal signal => cases h

/-- A message ends no session. -/
theorem evicts_of_isMessage (config : Config) (turns : List Turn) (h : turn.isMessage = true) :
    evicts config turns turn = false := by
  obtain ⟨now, line, input⟩ := turn
  cases input with
  | sensor seen message link => rfl
  | broker message => rfl
  | signal signal => cases h

theorem heardSinceEviction_nil (config : Config) : ¬ HeardSinceEviction config [] := by
  rintro ⟨past, word, later, heq, -, -⟩
  cases past <;> cases heq

/-- A message of the device ends a silence, and an eviction begins one. -/
theorem heardSinceEviction_snoc (turns : List Turn) (turn : Turn) :
    HeardSinceEviction config (turns ++ [turn]) ↔
      turn.isOfDevice = true ∨
        (HeardSinceEviction config turns ∧ evicts config turns turn = false) := by
  constructor
  · rintro ⟨past, word, later, heq, hword, hstays⟩
    rcases later.eq_nil_or_concat with rfl | ⟨earlier, last, rfl⟩
    · obtain ⟨-, rfl⟩ := List.append_singleton_inj.mp heq
      exact .inl hword
    · rw [List.concat_eq_append] at heq hstays
      rw [← List.cons_append, ← List.append_assoc] at heq
      obtain ⟨rfl, rfl⟩ := List.append_singleton_inj.mp heq
      refine .inr ⟨⟨past, word, earlier, rfl, hword, ?_⟩, hstays earlier turn [] rfl⟩
      intro between next rest hearlier
      refine hstays between next (rest ++ [turn]) ?_
      rw [hearlier, List.append_assoc, List.cons_append]
  · rintro (hword | ⟨⟨past, word, later, rfl, hword, hstays⟩, hlast⟩)
    · refine ⟨turns, turn, [], rfl, hword, ?_⟩
      intro between next rest hnone
      cases between <;> cases hnone
    · refine ⟨past, word, later ++ [turn], by rw [List.append_assoc, List.cons_append], hword, ?_⟩
      intro between next rest heq
      rcases rest.eq_nil_or_concat with rfl | ⟨rest, last, rfl⟩
      · obtain ⟨rfl, rfl⟩ := List.append_singleton_inj.mp heq
        exact hlast
      · rw [List.concat_eq_append, ← List.cons_append, ← List.append_assoc] at heq
        obtain ⟨rfl, rfl⟩ := List.append_singleton_inj.mp heq
        exact hstays between next rest rfl

/-! ### How long a session may stay silent -/

namespace Transition

variable {context : Context} {input : Input} {t next : Transition}

theorem deadline_toDevice (message : Sensor.Message) :
    (t.toDevice message).session.deadline = t.session.deadline := by
  rw [session_toDevice]

theorem deadline_tearDown : t.tearDown.session.deadline = t.session.deadline :=
  deadline_toDevice (t := t) (.disconnect none)

theorem deadline_connectBroker (request : Sensor.Connect) (will : Option Broker.Will) :
    (t.connectBroker context request will).session.deadline = t.session.deadline := by
  unfold connectBroker
  simp only [openBroker, sendBroker]
  split
  next heq => rw [← (Prod.mk.inj heq).2]; rfl
  next heq =>
    split
    next hsent => rw [← (Prod.mk.inj hsent).2, ← (Prod.mk.inj heq).2]; rfl
    next hsent => rw [← (Prod.mk.inj hsent).2, ← (Prod.mk.inj heq).2]; rfl

theorem deadline_forward (line : Broker.Line) (message : Broker.Message) :
    (t.forward line message).2.session.deadline = t.session.deadline := by
  unfold forward
  split
  next sent hsent => exact congrArg (·.2.session.deadline) hsent.symm
  next sent hsent =>
    have hsame : sent.session.deadline = t.session.deadline :=
      congrArg (·.2.session.deadline) hsent.symm
    simp only [connectionLost]
    split
    · exact hsame
    · exact deadline_tearDown.trans hsame

theorem deadline_shutDown : (t.shutDown context).session.deadline = t.session.deadline := by
  simp only [shutDown]
  split <;> rfl

theorem deadline_offerTopic (exchanges : Exchanges) (publication : Broker.Publish) :
    (t.offerTopic exchanges publication).session.deadline = t.session.deadline := by
  unfold offerTopic
  split
  · rfl
  · split
    · rfl
    · exact deadline_toDevice _

/-- Nothing that a session does in answer to a turn lets it stay silent for
longer. -/
theorem act_deadline (hact : Act context input t next) :
    next.session.deadline = t.session.deadline := by
  cases hact with
  | tell message => exact deadline_toDevice message
  | ask request will => exact deadline_connectBroker request will
  | forward => exact deadline_forward context.line _
  | tearDown => exact deadline_tearDown
  | leave => exact deadline_tearDown
  | shutDown => exact deadline_shutDown
  | offer publication => exact deadline_offerTopic _ publication
  | _ => rfl

/-- What a session does, once it has heard something, does not put off its deadline. -/
theorem acts_deadline (hacts : Acts context input t next) :
    next.session.deadline = t.session.deadline := by
  induction hacts with
  | refl => rfl
  | tail _ hact ih => exact (act_deadline hact).trans ih

end Transition

/-- A message lets a session stay silent until its timeout has passed; a signal
never does. -/
theorem deadline_take (config : Config) (turn : Turn) (session : Session) :
    (session.take config turn).session.deadline =
      if turn.isMessage then turn.now + longestSilence config
      else session.deadline := by
  rw [Transition.acts_deadline (take_acts config turn session)]
  obtain ⟨now, line, input⟩ := turn
  cases input with
  | sensor seen message link => rfl
  | broker message => rfl
  | signal signal => rfl

/-- A session may stay silent until the longest silence has passed since the last message of
its history. -/
def Dated (config : Config) (turns : List Turn) (session : Session) : Prop :=
  ∃ heard, lastHeard turns = some heard ∧ session.deadline = heard + longestSilence config

/-- A session knows its deadline after every turn: a message puts it off, and nothing else
does. -/
theorem Dated.take {session : Session} (h : Dated config turns session) (turn : Turn) :
    Dated config (turns ++ [turn]) (session.take config turn).session := by
  unfold Dated
  rw [lastHeard_snoc, deadline_take]
  split
  · exact ⟨turn.now, rfl, rfl⟩
  · exact h

end Session

end SensorGateway
