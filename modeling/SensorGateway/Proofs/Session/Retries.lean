import Mathlib.Data.List.Chain
import SensorGateway.Proofs.Session.Asking
import SensorGateway.Proofs.Session.Stray

/-!
How often the device is asked. A question that the device does not answer is put
again at each timeout, as often as the configuration allows, and at the timeout
after that it is given up. `retries_bounded` counts how often a request goes out,
from the turn in which it is sent first, whatever else the session is told in
between.
-/

namespace SensorGateway.Session

def Input.isSignal (signal : Signal) : Input → Bool
  | .signal other => other == signal
  | .sensor .. | .broker _ => false

/-- The same topic id and name were offered under each of these message ids, and never
under the one of the time before. -/
structure Repeated (messages : List Sensor.Message) (topicId : UInt16) (name : String)
    (ids : List UInt16) : Prop where
  same : messages = ids.map fun msgId => .register ⟨topicId, msgId, name⟩
  nonzero : ∀ id ∈ ids, id ≠ 0
  fresh : ids.IsChain (· ≠ ·)

/-- Nothing is left of an exchange with the device: its answer is not waited for, the
counter is 0, and the messages that belong to it are gone. -/
structure Forgotten (session : Session) (handshake : Handshake) : Prop where
  mark : session.awaits handshake = false
  counter : session.tries handshake = 0
  connect : session.ledger.kept.connect = none
  willTopic : session.ledger.kept.willTopic = none
  register : session.ledger.kept.register = none
  brokerPublish : session.ledger.kept.brokerPublish = none

theorem followingId_ne_zero (id : UInt16) : followingId id ≠ 0 := by
  unfold followingId
  split <;> grind

/-- The next message id is another one. -/
theorem followingId_ne_self (id : UInt16) : followingId id ≠ id := by
  unfold followingId
  split <;> grind

theorem Input.isSignal_iff {signal : Signal} {input : Input} :
    input.isSignal signal = true ↔ input = .signal signal := by
  cases input <;> simp [isSignal]

/-- An offer that is repeated goes out under a fresh id. -/
theorem Repeated.again {messages : List Sensor.Message} {topicId last id : UInt16}
    {name : String} {ids : List UInt16} (h : Repeated messages topicId name (ids ++ [last]))
    (hnonzero : id ≠ 0) (hfresh : id ≠ last) :
    Repeated (messages ++ [.register ⟨topicId, id, name⟩]) topicId name
      (ids ++ [last] ++ [id]) := by
  refine ⟨?_, fun other hin => ?_, ?_⟩
  · rw [h.same, List.map_append, List.map_append, List.map_append]
    rfl
  · rcases List.mem_append.mp hin with hin | hin
    · exact h.nonzero other hin
    · exact List.mem_singleton.mp hin ▸ hnonzero
  · refine h.fresh.append (.singleton id) fun before hbefore after hafter => ?_
    rw [List.getLast?_concat] at hbefore
    cases hbefore
    cases hafter
    exact hfresh.symm

variable {session : Session} {handshake : Handshake} {signal : Signal}

theorem forgotten_of_question (h : session.phase.question? = none)
    (hsignal : handshake.timeout? = some signal) : session.Forgotten handshake := by
  have hmark : session.awaits handshake = false := by
    rw [Bool.eq_false_iff, ne_eq, awaits_iff_question hsignal, h]
    rintro ⟨question, hsome, -⟩
    cases hsome
  have hcounter := tries_of_not_awaits hmark
  obtain ⟨_, _, _, _, _, phase, _, _, _⟩ := session
  cases phase with
  | idle | awaitingConnack => exact ⟨hmark, hcounter, rfl, rfl, rfl, rfl⟩
  | awaitingWillTopic | awaitingWillMessage => cases h
  | connected waiting =>
    have hnone : waiting.registration = none := Option.map_eq_none_iff.mp h
    refine ⟨hmark, hcounter, rfl, rfl, ?_, ?_⟩
    · simp [ledger, Phase.kept, hnone]
    · simp [ledger, Phase.kept, hnone]

namespace Life

def question? (life : Life) (n : Nat) : Option Question := (life.before n).phase.question?

def asks (life : Life) (handshake : Handshake) (n : Nat) : List Sensor.Message :=
  (life.step n).told.filter (·.asksFor? == some handshake)

def begins (life : Life) (handshake : Handshake) (n : Nat) : Bool :=
  !(life.before n).awaits handshake && (life.before (n + 1)).awaits handshake

/-- The turn before this one in which the answer was last begun to be waited for. -/
def lastBegun (life : Life) (handshake : Handshake) : Nat → Option Nat
  | 0 => none
  | n + 1 => if life.begins handshake n then some n else life.lastBegun handshake n

/-- The requests, up to some turn, for the answer that one turn began to wait for:
the first one and its repetitions. -/
def transmissions (life : Life) (handshake : Handshake) (i j : Nat) : List Sensor.Message :=
  ((List.range j).filter fun k => life.lastBegun handshake (k + 1) == some i).flatMap
    (life.asks handshake)

def timeouts (life : Life) (signal : Signal) (i j : Nat) : Nat :=
  (List.range j).countP fun k => decide (i < k) && (life.turn k).input.isSignal signal

def completes (life : Life) (n : Nat) : Bool :=
  (life.question? n).any (·.isAnsweredBy (life.turn n).input)

/-- A session that is torn down, shut down or evicted ends every timer. -/
def LetsGo (life : Life) (n : Nat) : Prop := .disarmAll ∈ (life.step n).effects

/-- What a turn does about one answer of the device. -/
inductive Course (life : Life) (handshake : Handshake) (n : Nat) : Prop where
  | apart (hbefore : (life.before n).awaits handshake = false)
      (hafter : (life.before (n + 1)).awaits handshake = false)
      (hasks : life.asks handshake n = [])
  | begins {question : Question} (hbefore : (life.before n).awaits handshake = false)
      (hnext : life.question? (n + 1) = some question) (hfor : question.handshake = handshake)
      (hfirst : question.tries = 1) (hasks : life.asks handshake n = [question.message])
  | waits {question : Question} (hold : life.question? n = some question)
      (hfor : question.handshake = handshake) (hnext : life.question? (n + 1) = some question)
      (hinput : (life.turn n).input ≠ .signal question.timeout)
      (hasks : life.asks handshake n = [])
  | again {old : Question} (hold : life.question? n = some old) (hfor : old.handshake = handshake)
      (hinput : (life.turn n).input = .signal old.timeout)
      (hleft : old.tries.toNat ≤ life.config.maxRetries)
      (hnext : life.question? (n + 1) = some (old.again (life.before n).nextMsgId))
      (hasks : life.asks handshake n = [(old.again (life.before n).nextMsgId).message])
  | giveUp {old : Question} (hold : life.question? n = some old) (hfor : old.handshake = handshake)
      (hinput : (life.turn n).input = .signal old.timeout)
      (hspent : life.config.maxRetries < old.tries.toNat) (hnext : life.question? (n + 1) = none)
      (hasks : life.asks handshake n = [])
      (heffects : (life.step n).effects = [.disarm old.timeout])
  | ends {old : Question} (hold : life.question? n = some old) (hfor : old.handshake = handshake)
      (hinput : (life.turn n).input ≠ .signal old.timeout)
      (hend : life.completes n = true ∨ life.LetsGo n)

variable {life : Life} {i j n : Nat}

theorem question?_opening : (life.opening n).question? = life.question? n :=
  congrArg Phase.question? (life.phase_opening n)

theorem nextMsgId_opening : (life.opening n).session.nextMsgId = (life.before n).nextMsgId := by
  simp only [opening, Transition.start, hear]
  split <;> rfl

theorem asking (life : Life) (n : Nat) :
    Transition.Asking life.config.maxRetries (life.turn n).input (life.opening n) (life.step n) :=
  take_asking life.config (life.turn n) (life.before n)

/-- There is a link to a device that is asked something. -/
theorem link_of_question
    (h : (∃ old, life.question? n = some old) ∨ ∃ next, life.question? (n + 1) = some next) :
    (life.opening n).session.link.isSome = true := by
  have hbusy {m : Nat} {question : Question} (h : life.question? m = some question) :
      (life.before m).phase ≠ .idle := by
    intro hidle
    rw [question?, hidle] at h
    cases h
  apply life.link_opening
  rcases h with ⟨old, hold⟩ | ⟨next, hnext⟩
  · exact .inl (hbusy hold)
  · by_cases hidle : (life.before n).phase = .idle
    · refine .inr ?_
      by_contra hnot
      refine hbusy hnext (phase_take_of_idle hidle fun seen message link hinput => ?_)
      exact hnot ⟨message, seen, link, hinput⟩
    · exact .inl hidle

theorem asks_eq (handshake : Handshake) :
    life.asks handshake n =
      (life.step n).asked.filter (·.asksFor? == some handshake) := by
  rw [asks, Transition.asked, List.filter_filter]
  refine List.filter_congr fun message _ => ?_
  cases message.asksFor? <;> simp

/-- A turn that asks nothing asks for no answer. -/
theorem asks_of_wordless (h : (life.step n).asked = (life.opening n).asked)
    (handshake : Handshake) : life.asks handshake n = [] := by
  rw [asks_eq, h]
  rfl

/-- A question is asked for its own answer and for no other. -/
theorem asks_of_asked {question : Question}
    (h : (life.step n).asked = (life.opening n).asked ++ [question.message])
    (handshake : Handshake) :
    life.asks handshake n = if question.handshake = handshake then [question.message] else [] := by
  have hmessage : (life.step n).asked = [question.message] := h
  rw [asks_eq, hmessage]
  split
  next hfor => simp [Question.asksFor?_message, hfor]
  next hfor => simp [Question.asksFor?_message, hfor]

theorem awaits_iff_question? (hsignal : handshake.timeout? = some signal) :
    (life.before n).awaits handshake = true ↔
      ∃ question, life.question? n = some question ∧ question.handshake = handshake :=
  awaits_iff_question hsignal

/-- No such question is open. -/
theorem not_awaits_of_other (hsignal : handshake.timeout? = some signal)
    (h : ¬ ∃ question, life.question? n = some question ∧ question.handshake = handshake) :
    (life.before n).awaits handshake = false := by
  rw [Bool.eq_false_iff, ne_eq, awaits_iff_question? hsignal]
  exact h

theorem not_awaits_of_none (hsignal : handshake.timeout? = some signal)
    (h : life.question? n = none) : (life.before n).awaits handshake = false := by
  refine not_awaits_of_other hsignal ?_
  rintro ⟨question, hsome, -⟩
  cases h.symm.trans hsome

theorem not_awaits_of_question {question : Question} (hsignal : handshake.timeout? = some signal)
    (h : life.question? n = some question) (hfor : question.handshake ≠ handshake) :
    (life.before n).awaits handshake = false := by
  refine not_awaits_of_other hsignal ?_
  rintro ⟨other, hsome, hother⟩
  cases h.symm.trans hsome
  exact hfor hother

/-- A timeout is no answer. -/
theorem not_timeout_of_answer {question : Question} {input : Input}
    (hanswer : question.isAnsweredBy input = true) (signal : Signal) : input ≠ .signal signal := by
  rintro rfl
  cases question <;> cases hanswer

theorem completes_of_question {question : Question} (h : life.question? n = some question)
    (hanswer : question.isAnsweredBy (life.turn n).input = true) : life.completes n = true := by
  rw [completes, h]
  exact hanswer

/-- A turn in which nothing is asked, answered or given up. -/
theorem course_of_calm (hsignal : handshake.timeout? = some signal)
    (hlater : ∀ old, life.question? n = some old → (life.turn n).input ≠ .signal old.timeout)
    (h : Transition.Calm (life.opening n) (life.step n)) : life.Course handshake n := by
  by_cases hopen : ∃ question, life.question? n = some question ∧ question.handshake = handshake
  · obtain ⟨question, hold, hfor⟩ := hopen
    cases h with
    | plain h =>
      have hkept : life.question? (n + 1) = life.question? n := h.question.trans question?_opening
      exact .waits hold hfor (hkept.trans hold) (hlater question hold)
        (asks_of_wordless h.asked handshake)
    | drops h => exact .ends hold hfor (hlater question hold) (.inr h.effects)
  · have hbefore := not_awaits_of_other hsignal hopen
    cases h with
    | plain h =>
      have hkept : life.question? (n + 1) = life.question? n := h.question.trans question?_opening
      exact .apart hbefore (not_awaits_of_other hsignal (hkept ▸ hopen))
        (asks_of_wordless h.asked handshake)
    | drops h =>
      exact .apart hbefore (not_awaits_of_none hsignal h.question)
        (asks_of_wordless h.asked handshake)

/-- A turn in which the device is asked something for the first time. -/
theorem course_of_ask (hsignal : handshake.timeout? = some signal) {question : Question}
    (hold : ∀ old, life.question? n = some old →
      old.isAnsweredBy (life.turn n).input = true ∧ old.handshake ≠ question.handshake)
    (hnext : life.question? (n + 1) = some question) (hfirst : question.tries = 1)
    (hasks : life.asks handshake n =
      if question.handshake = handshake then [question.message] else []) :
    life.Course handshake n := by
  by_cases hopen : ∃ old, life.question? n = some old ∧ old.handshake = handshake
  · obtain ⟨old, hbefore, hfor⟩ := hopen
    have hanswer := (hold old hbefore).1
    exact .ends hbefore hfor (not_timeout_of_answer hanswer _)
      (.inl (completes_of_question hbefore hanswer))
  · have hbefore := not_awaits_of_other hsignal hopen
    by_cases hfor : question.handshake = handshake
    · exact .begins hbefore hnext hfor hfirst (hasks.trans (if_pos hfor))
    · exact .apart hbefore (not_awaits_of_question hsignal hnext hfor) (hasks.trans (if_neg hfor))

/-- A turn either is about this answer, or finds no such question open. -/
theorem course (life : Life) (n : Nat) (hsignal : handshake.timeout? = some signal) :
    life.Course handshake n := by
  cases life.asking n with
  | calm hlater h =>
    rw [question?_opening] at hlater
    exact course_of_calm hsignal hlater h
  | @answered old hold hanswer hnext h =>
    rw [question?_opening] at hold
    by_cases hfor : old.handshake = handshake
    · exact .ends hold hfor (not_timeout_of_answer hanswer _)
        (.inl (completes_of_question hold hanswer))
    · exact .apart (not_awaits_of_question hsignal hold hfor) (not_awaits_of_none hsignal hnext)
        (asks_of_wordless h.asked handshake)
  | ask question hold hnext hfirst _ hasked _ =>
    rw [question?_opening] at hold
    exact course_of_ask hsignal hold hnext hfirst
      (asks_of_asked (hasked (link_of_question (.inr ⟨question, hnext⟩))) handshake)
  | @again old hold hinput hleft hnext hasked _ =>
    rw [question?_opening] at hold
    rw [nextMsgId_opening] at hnext hasked
    have hasks := asks_of_asked (hasked (link_of_question (.inl ⟨old, hold⟩))) handshake
    have hsame : (old.again (life.before n).nextMsgId).handshake = old.handshake := by
      cases old <;> rfl
    rw [hsame] at hasks
    by_cases hfor : old.handshake = handshake
    · exact .again hold hfor hinput hleft hnext (hasks.trans (if_pos hfor))
    · exact .apart (not_awaits_of_question hsignal hold hfor)
        (not_awaits_of_question hsignal hnext (hsame ▸ hfor)) (hasks.trans (if_neg hfor))
  | @giveUp old hold hinput hspent hnext h heffects =>
    rw [question?_opening] at hold
    have hasks := asks_of_wordless h.asked handshake
    by_cases hfor : old.handshake = handshake
    · exact .giveUp hold hfor hinput hspent hnext hasks heffects
    · exact .apart (not_awaits_of_question hsignal hold hfor) (not_awaits_of_none hsignal hnext)
        hasks

/-- The next message id is not in use: it follows the one of the offer that is open. -/
structure Numbered (life : Life) (n : Nat) : Prop where
  nonzero : (life.before n).nextMsgId ≠ 0
  offer : ∀ registration, life.question? n = some (.offer registration) →
    registration.msgId ≠ 0 ∧ (life.before n).nextMsgId = followingId registration.msgId

/-- No id is taken, and no offer is open then. -/
theorem Numbered.of_none (h : life.Numbered n)
    (hwordless : Transition.Wordless (life.opening n) (life.step n))
    (hnext : life.question? (n + 1) = none) : life.Numbered (n + 1) := by
  have hsame : (life.before (n + 1)).nextMsgId = (life.before n).nextMsgId :=
    hwordless.nextMsgId.trans nextMsgId_opening
  refine ⟨hsame ▸ h.nonzero, fun registration hsome => ?_⟩
  cases hnext.symm.trans hsome

/-- An offer takes the next id. -/
theorem Numbered.of_asked (h : life.Numbered n) {question : Question}
    (hnext : life.question? (n + 1) = some question)
    (hnumber : question.GoesBy (life.before n).nextMsgId)
    (hafter : (life.before (n + 1)).nextMsgId = question.idAfter (life.before n).nextMsgId) :
    life.Numbered (n + 1) := by
  cases question with
  | willTopic | willMessage =>
    refine ⟨hafter ▸ h.nonzero, fun registration hsome => ?_⟩
    cases hnext.symm.trans hsome
  | offer registration =>
    have hid : registration.msgId = (life.before n).nextMsgId := hnumber
    refine ⟨hafter ▸ followingId_ne_zero _, fun other hsome => ?_⟩
    cases hnext.symm.trans hsome
    exact ⟨hid ▸ h.nonzero, hid ▸ hafter⟩

/-- The next message id is never the one of the open offer. -/
theorem numbered (life : Life) (n : Nat) : life.Numbered n := by
  induction n with
  | zero =>
    have hfirst : (life.before 0).nextMsgId = 1 := rfl
    exact ⟨hfirst ▸ by decide, nofun⟩
  | succ n ih =>
    cases life.asking n with
    | calm _ h =>
      cases h with
      | plain h =>
        have hkept : life.question? (n + 1) = life.question? n := h.question.trans question?_opening
        have hsame : (life.before (n + 1)).nextMsgId = (life.before n).nextMsgId :=
          h.nextMsgId.trans nextMsgId_opening
        exact ⟨hsame ▸ ih.nonzero, by rw [hsame, hkept]; exact ih.offer⟩
      | drops h => exact ih.of_none h.toWordless h.question
    | answered _ _ hnext h => exact ih.of_none h hnext
    | giveUp _ _ _ hnext h => exact ih.of_none h hnext
    | ask _ _ hnext _ hnumber _ hafter =>
      rw [nextMsgId_opening] at hnumber hafter
      exact ih.of_asked hnext hnumber hafter
    | @again old hold _ _ hnext _ hafter =>
      rw [nextMsgId_opening] at hnext hafter
      refine ih.of_asked hnext ?_ (hafter.trans ?_)
      · cases old <;> trivial
      · cases old <;> rfl

/-! ### Counting -/

theorem lastBegun_lt {m : Nat} (h : life.lastBegun handshake n = some m) : m < n := by
  induction n with
  | zero => cases h
  | succ n ih =>
    unfold lastBegun at h
    split at h
    · obtain rfl : n = m := Option.some.inj h
      exact Nat.lt_succ_self n
    · exact Nat.lt_succ_of_lt (ih h)

/-- Timeouts are counted turn by turn. -/
theorem timeouts_succ (hlater : i < j) :
    life.timeouts signal i (j + 1) =
      life.timeouts signal i j + if (life.turn j).input.isSignal signal then 1 else 0 := by
  rw [timeouts, List.range_succ, List.countP_append, List.countP_singleton]
  simp [hlater, timeouts]

theorem timeouts_self : life.timeouts signal i (i + 1) = 0 := by
  rw [timeouts, List.countP_eq_zero]
  intro k hin
  have hk : k < i + 1 := List.mem_range.mp hin
  simp [Nat.not_lt.mpr (Nat.le_of_lt_succ hk)]

/-- So are transmissions. -/
theorem transmissions_succ :
    life.transmissions handshake i (j + 1) = life.transmissions handshake i j ++
      if life.lastBegun handshake (j + 1) = some i then life.asks handshake j else [] := by
  rw [transmissions, List.range_succ, List.filter_append, List.flatMap_append, transmissions]
  congr 1
  by_cases h : life.lastBegun handshake (j + 1) = some i <;> simp [h]

theorem transmissions_self : life.transmissions handshake i i = [] := by
  have hnone :
      ((List.range i).filter fun k => life.lastBegun handshake (k + 1) == some i) = [] := by
    rw [List.filter_eq_nil_iff]
    intro k hin hsome
    have hk : k < i := List.mem_range.mp hin
    have hlast := lastBegun_lt (beq_iff_eq.mp hsome)
    omega
  rw [transmissions, hnone]
  rfl

/-- How it stands with a request some time after it was sent first. -/
inductive Standing (life : Life) (handshake : Handshake) (signal : Signal) (i j : Nat) : Prop where
  /-- The device was asked once, and once more at each timeout. -/
  | asked {question : Question} (hquestion : life.question? j = some question)
      (hfor : question.handshake = handshake) (hlast : life.lastBegun handshake j = some i)
      (hleft : life.timeouts signal i j ≤ life.config.maxRetries)
      (htries : question.tries.toNat = life.timeouts signal i j + 1)
      (hsent : (life.transmissions handshake i j).length = life.timeouts signal i j + 1)
      (hoffers : ∀ registration, question = .offer registration → ∃ ids,
        Repeated (life.transmissions handshake i j) registration.topicId
          registration.publication.topic (ids ++ [registration.msgId]))
  /-- The timeouts were too many. -/
  | given (hspent : life.config.maxRetries < life.timeouts signal i j)
      (hover : life.lastBegun handshake j = some i → (life.before j).awaits handshake = false)
      (hsent : (life.transmissions handshake i j).length = life.config.maxRetries + 1)
      (hoffers : handshake = .regack → ∃ topicId name ids,
        Repeated (life.transmissions handshake i j) topicId name ids)

theorem lastBegun_of_begins (h : life.begins handshake n = true) :
    life.lastBegun handshake (n + 1) = some n := if_pos h

theorem lastBegun_of_not_begins (h : life.begins handshake n = false) :
    life.lastBegun handshake (n + 1) = life.lastBegun handshake n :=
  if_neg (Bool.eq_false_iff.mp h)

theorem begins_of_awaits (h : (life.before n).awaits handshake = true) :
    life.begins handshake n = false := by
  rw [begins, h]
  rfl

theorem begins_of_not_awaits (h : (life.before (n + 1)).awaits handshake = false) :
    life.begins handshake n = false := by
  rw [begins, h, Bool.and_false]

theorem awaits_of_question {question : Question} (hsignal : handshake.timeout? = some signal)
    (h : life.question? n = some question) (hfor : question.handshake = handshake) :
    (life.before n).awaits handshake = true :=
  (awaits_iff_question? hsignal).mpr ⟨question, h, hfor⟩

theorem isSignal_timeout {question : Question} (hsignal : handshake.timeout? = some signal)
    (hfor : question.handshake = handshake) (input : Input) :
    input.isSignal signal = true ↔ input = .signal question.timeout := by
  rw [Input.isSignal_iff, (timeout_eq_iff hsignal question).mpr hfor]

/-- The turn that sends a request for the first time. -/
theorem standing_of_begins (hsignal : handshake.timeout? = some signal)
    (hbegins : life.begins handshake i = true) : life.Standing handshake signal i (i + 1) := by
  have hlast : life.lastBegun handshake (i + 1) = some i := lastBegun_of_begins hbegins
  have hsent : life.transmissions handshake i (i + 1) = life.asks handshake i := by
    rw [transmissions_succ, if_pos hlast, transmissions_self, List.nil_append]
  cases life.course i hsignal with
  | @begins question _ hnext hfor hfirst hasks =>
    rw [hasks] at hsent
    refine .asked hnext hfor hlast ?_ ?_ ?_ ?_
    · exact timeouts_self ▸ Nat.zero_le _
    · rw [timeouts_self, hfirst]
      rfl
    · rw [timeouts_self, hsent]
      rfl
    · rintro registration rfl
      have hnonzero := ((life.numbered (i + 1)).offer registration hnext).1
      refine ⟨[], hsent, fun id hin => ?_, .singleton _⟩
      exact List.mem_singleton.mp hin ▸ hnonzero
  | apart _ hafter => rw [begins_of_not_awaits hafter] at hbegins; cases hbegins
  | waits hold hfor | again hold hfor | giveUp hold hfor | ends hold hfor =>
    rw [begins_of_awaits (awaits_of_question hsignal hold hfor)] at hbegins
    cases hbegins

/-- A timeout counts, and nothing else that the session is told does. -/
theorem timeouts_succ_of_timeout {question : Question} (hsignal : handshake.timeout? = some signal)
    (hfor : question.handshake = handshake) (hlater : i < j)
    (hinput : (life.turn j).input = .signal question.timeout) :
    life.timeouts signal i (j + 1) = life.timeouts signal i j + 1 := by
  rw [timeouts_succ hlater, if_pos ((isSignal_timeout hsignal hfor _).mpr hinput)]

theorem timeouts_succ_of_other {question : Question} (hsignal : handshake.timeout? = some signal)
    (hfor : question.handshake = handshake) (hlater : i < j)
    (hinput : (life.turn j).input ≠ .signal question.timeout) :
    life.timeouts signal i (j + 1) = life.timeouts signal i j := by
  rw [timeouts_succ hlater, if_neg (mt (isSignal_timeout hsignal hfor _).mp hinput), Nat.add_zero]

/-- The same offer once more, under the next message id. -/
theorem repeated_again {messages : List Sensor.Message} {old registration : Registration}
    (hold : life.question? j = some (.offer old))
    (hagain : (Question.offer old).again (life.before j).nextMsgId = .offer registration)
    (h : ∃ ids, Repeated messages old.topicId old.publication.topic (ids ++ [old.msgId])) :
    ∃ ids, Repeated (messages ++ [(Question.offer registration).message]) registration.topicId
      registration.publication.topic (ids ++ [registration.msgId]) := by
  obtain ⟨ids, hrepeated⟩ := h
  obtain ⟨hnonzero, hnumber⟩ := life.numbered j
  have hfresh : (life.before j).nextMsgId ≠ old.msgId := by
    rw [(hnumber old hold).2]
    exact followingId_ne_self old.msgId
  cases hagain
  exact ⟨ids ++ [old.msgId], hrepeated.again hnonzero hfresh⟩

/-- As long as a request may be repeated its counter has room, if the limit leaves it any. -/
theorem toNat_tries_again {question : Question} {maxRetries : Nat}
    (hexact : maxRetries + 1 < UInt32.size) (hleft : question.tries.toNat ≤ maxRetries)
    (msgId : UInt16) : (question.again msgId).tries.toNat = question.tries.toNat + 1 := by
  rw [Question.tries_again, UInt32.toNat_add]
  apply Nat.mod_eq_of_lt
  exact Nat.lt_of_le_of_lt (Nat.add_le_add_right hleft 1) hexact

/-- A turn while the device is being asked. -/
theorem Standing.step_of_asked {question : Question}
    (hexact : life.config.maxRetries + 1 < UInt32.size) (hsignal : handshake.timeout? = some signal)
    (hlater : i < j) (hquestion : life.question? j = some question)
    (hfor : question.handshake = handshake) (hlast : life.lastBegun handshake j = some i)
    (hleft : life.timeouts signal i j ≤ life.config.maxRetries)
    (htries : question.tries.toNat = life.timeouts signal i j + 1)
    (hsent : (life.transmissions handshake i j).length = life.timeouts signal i j + 1)
    (hoffers : ∀ registration, question = .offer registration → ∃ ids,
      Repeated (life.transmissions handshake i j) registration.topicId
        registration.publication.topic (ids ++ [registration.msgId]))
    (hopen : life.completes j = false) (hstays : ¬ life.LetsGo j) :
    life.Standing handshake signal i (j + 1) := by
  have hawaits := awaits_of_question hsignal hquestion hfor
  have hlast' : life.lastBegun handshake (j + 1) = some i :=
    (lastBegun_of_not_begins (begins_of_awaits hawaits)).trans hlast
  have hmore : life.transmissions handshake i (j + 1) =
      life.transmissions handshake i j ++ life.asks handshake j := by
    rw [transmissions_succ, if_pos hlast']
  -- the counter of the question goes up with the timeouts, so that it decides as they do
  cases life.course j hsignal with
  | apart hbefore | begins hbefore =>
    rw [hawaits] at hbefore
    cases hbefore
  | ends _ _ _ hend =>
    rcases hend with hend | hend
    · rw [hopen] at hend
      cases hend
    · exact (hstays hend).elim
  | waits hold _ hnext hinput hasks =>
    cases hquestion.symm.trans hold
    have hcount := timeouts_succ_of_other hsignal hfor hlater hinput
    rw [hasks, List.append_nil] at hmore
    exact .asked hnext hfor hlast' (hcount ▸ hleft) (hcount ▸ htries)
      (by rw [hmore, hsent, hcount]) (hmore ▸ hoffers)
  | again hold _ hinput htriesLeft hnext hasks =>
    cases hquestion.symm.trans hold
    have hcount := timeouts_succ_of_timeout hsignal hfor hlater hinput
    rw [hasks] at hmore
    refine .asked hnext ?_ hlast' ?_ ?_ ?_ fun registration hagain => ?_
    · exact (question.handshake_again _).trans hfor
    · omega
    · rw [toNat_tries_again hexact htriesLeft, htries, hcount]
    · rw [hmore, List.length_append, hsent, hcount]
      rfl
    · cases question with
      | willTopic | willMessage => cases hagain
      | offer old =>
        rw [hmore, hagain]
        exact repeated_again hquestion hagain (hoffers old rfl)
  | giveUp hold _ hinput hspent hnext hasks =>
    cases hquestion.symm.trans hold
    have hcount := timeouts_succ_of_timeout hsignal hfor hlater hinput
    rw [hasks, List.append_nil] at hmore
    refine .given ?_ (fun _ => not_awaits_of_none hsignal hnext) ?_ ?_
    · omega
    · rw [hmore, hsent]
      omega
    · rintro rfl
      cases question with
      | willTopic | willMessage => cases hfor
      | offer old =>
        obtain ⟨ids, hrepeated⟩ := hoffers old rfl
        exact ⟨old.topicId, old.publication.topic, ids ++ [old.msgId], hmore ▸ hrepeated⟩

/-- Once the request was given up it is not sent again, unless it is begun anew. -/
theorem quiet_of_given (hsignal : handshake.timeout? = some signal) (hlater : i < j)
    (hover : life.lastBegun handshake j = some i → (life.before j).awaits handshake = false) :
    life.transmissions handshake i (j + 1) = life.transmissions handshake i j ∧
      (life.lastBegun handshake (j + 1) = some i →
        (life.before (j + 1)).awaits handshake = false) := by
  rw [transmissions_succ]
  by_cases hlast : life.lastBegun handshake (j + 1) = some i
  · have hbegins : life.begins handshake j = false := by
      by_contra hbegins
      rw [Bool.not_eq_false] at hbegins
      rw [lastBegun_of_begins hbegins] at hlast
      exact Nat.lt_irrefl i (Option.some.inj hlast ▸ hlater)
    have hbefore := hover ((lastBegun_of_not_begins hbegins).symm.trans hlast)
    have hafter : (life.before (j + 1)).awaits handshake = false := by
      simpa [begins, hbefore] using hbegins
    have hasks : life.asks handshake j = [] := by
      cases life.course j hsignal with
      | apart _ _ hasks => exact hasks
      | begins _ hnext hfor =>
        rw [awaits_of_question hsignal hnext hfor] at hafter
        cases hafter
      | waits hold hfor | again hold hfor | giveUp hold hfor | ends hold hfor =>
        rw [awaits_of_question hsignal hold hfor] at hbefore
        cases hbefore
    rw [if_pos hlast, hasks, List.append_nil]
    exact ⟨rfl, fun _ => hafter⟩
  · rw [if_neg hlast, List.append_nil]
    exact ⟨rfl, fun hsome => (hlast hsome).elim⟩

theorem Standing.step (h : life.Standing handshake signal i j)
    (hexact : life.config.maxRetries + 1 < UInt32.size)
    (hsignal : handshake.timeout? = some signal) (hlater : i < j)
    (hgoes : life.timeouts signal i j ≤ life.config.maxRetries →
      life.completes j = false ∧ ¬ life.LetsGo j) :
    life.Standing handshake signal i (j + 1) := by
  cases h with
  | asked hquestion hfor hlast hleft htries hsent hoffers =>
    obtain ⟨hopen, hstays⟩ := hgoes hleft
    exact step_of_asked hexact hsignal hlater hquestion hfor hlast hleft htries hsent hoffers
      hopen hstays
  | given hspent hover hsent hoffers =>
    obtain ⟨hmore, hover'⟩ := quiet_of_given hsignal hlater hover
    refine .given ?_ hover' (hmore ▸ hsent) (hmore ▸ hoffers)
    rw [timeouts_succ hlater]
    omega

/-- However the time is spent, as long as nothing ends the exchange before the timeouts
are too many. -/
theorem standing (hexact : life.config.maxRetries + 1 < UInt32.size)
    (hsignal : handshake.timeout? = some signal) (hbegins : life.begins handshake i = true)
    (hlater : i < j)
    (hgoes : ∀ k, i < k → k < j → life.timeouts signal i k ≤ life.config.maxRetries →
      life.completes k = false ∧ ¬ life.LetsGo k) :
    life.Standing handshake signal i j := by
  induction j, hlater using Nat.le_induction with
  | base => exact standing_of_begins hsignal hbegins
  | succ j hlater ih =>
    have hbefore := ih fun k hafter hbefore => hgoes k hafter (Nat.lt_succ_of_lt hbefore)
    exact hbefore.step hexact hsignal hlater (hgoes j hlater (Nat.lt_succ_self j))

/-- A turn changes nothing in what the session waits for or knows of topics, and no
publication goes out. -/
structure Ignores (life : Life) (n : Nat) : Prop where
  phase : (life.before (n + 1)).phase = (life.before n).phase
  topics : (life.before (n + 1)).topics = (life.before n).topics
  deliveries : life.deliveries n = []

/-- What has become of a request to the device that one turn sent first, before another
turn. -/
structure Retried (life : Life) (handshake : Handshake) (signal : Signal) (i j : Nat) : Prop where
  /-- The first transmission, and one more at each timeout, but not more than allowed. -/
  count : (life.transmissions handshake i j).length =
    1 + min (life.timeouts signal i j) life.config.maxRetries
  waiting : life.timeouts signal i j ≤ life.config.maxRetries →
    (life.before j).awaits handshake = true ∧
      ((life.before j).tries handshake).toNat = life.timeouts signal i j + 1
  ended : life.config.maxRetries < life.timeouts signal i j →
    life.lastBegun handshake j = some i → (life.before j).awaits handshake = false
  /-- The timeout that is one too many ends the timer and does nothing else. -/
  exhausted : life.timeouts signal i j = life.config.maxRetries →
    (life.turn j).input = .signal signal →
      (life.step j).effects = [.disarm signal] ∧ (life.before (j + 1)).Forgotten handshake
  /-- An offer is repeated under new message ids, and an answer to any but the last is
  passed over. -/
  offers : handshake = .regack → ∃ topicId name ids,
    Repeated (life.transmissions handshake i j) topicId name ids ∧
      (life.lastBegun handshake j = some i → ∀ ack, life.Hears j (.regack ack) →
        ids.getLast? ≠ some ack.msgId → life.Ignores j)

/-- What comes out of sequence is ignored. -/
theorem ignores_of_stray (h : (life.before n).ledger.Stray (life.turn n).input) :
    life.Ignores n := by
  have hstep : life.step n = ⟨(life.before n).hear life.config (life.turn n),
      (life.before n).ledger.rebuff (life.turn n).input⟩ := take_of_stray life.config h
  refine ⟨?_, ?_, ?_⟩
  · rw [before_succ, hstep, phase_hear]
  · rw [before_succ, hstep, topics_hear]
  · rw [deliveries, hstep]
    cases (life.turn n).input with
    | sensor seen message link =>
      rw [Ledger.rebuff]
      split <;> rfl
    | broker | signal => rfl

theorem question?_of_registration {registration : Registration}
    (h : (life.before n).exchanges.registration = some registration) :
    life.question? n = some (.offer registration) := by
  unfold Session.exchanges at h
  split at h
  next exchanges hphase =>
    rw [question?, hphase, Phase.question?, h]
    rfl
  next => cases h

/-- A REGACK under another message id than that of the offer that is open. -/
theorem ignores_of_regack {ack : Sensor.TopicAck} (hheard : life.Hears n (.regack ack))
    (hid : ∀ registration, life.question? n = some (.offer registration) →
      ack.msgId ≠ registration.msgId) : life.Ignores n := by
  obtain ⟨seen, link, hinput⟩ := hheard
  apply ignores_of_stray
  rw [hinput]
  refine .misnumbered rfl rfl ?_
  rw [ledger_msgId?]
  intro hsame
  obtain ⟨registration, hsome, hnumber⟩ := Option.map_eq_some_iff.mp hsame
  exact hid registration (question?_of_registration hsome) hnumber.symm

/-- With one timeout more than the limit nothing is left of the exchange. -/
theorem forgotten_of_exhausted {question : Question} (hsignal : handshake.timeout? = some signal)
    (hquestion : life.question? j = some question) (hfor : question.handshake = handshake)
    (hspent : life.config.maxRetries < question.tries.toNat)
    (hinput : (life.turn j).input = .signal signal) :
    (life.step j).effects = [.disarm signal] ∧ (life.before (j + 1)).Forgotten handshake := by
  have hawaits := awaits_of_question hsignal hquestion hfor
  have htimeout : question.timeout = signal := (timeout_eq_iff hsignal question).mpr hfor
  cases life.course j hsignal with
  | apart hbefore | begins hbefore =>
    rw [hawaits] at hbefore
    cases hbefore
  | waits hold _ _ hother | ends hold _ hother =>
    cases hquestion.symm.trans hold
    exact (hother (htimeout ▸ hinput)).elim
  | again hold _ _ hleft =>
    cases hquestion.symm.trans hold
    exact absurd hleft (Nat.not_le.mpr hspent)
  | giveUp hold _ _ _ hnext _ heffects =>
    cases hquestion.symm.trans hold
    exact ⟨htimeout ▸ heffects, forgotten_of_question hnext hsignal⟩

/-- The device is asked again at each timeout until it answers, but not more often than
the configuration allows, whatever else the session is told meanwhile and however the
broker link behaves. The limit is any but the greatest that 32 bits can tell. -/
theorem retries_bounded (life : Life) {handshake : Handshake} {signal : Signal} {i j : Nat}
    (hexact : life.config.maxRetries + 1 < UInt32.size)
    (hsignal : handshake.timeout? = some signal) (hbegins : life.begins handshake i = true)
    (hlater : i < j)
    (hgoes : ∀ k, i < k → k < j → life.timeouts signal i k ≤ life.config.maxRetries →
      life.completes k = false ∧ ¬ life.LetsGo k) :
    life.Retried handshake signal i j := by
  cases standing hexact hsignal hbegins hlater hgoes with
  | @asked question hquestion hfor hlast hleft htries hsent hoffers =>
    refine ⟨?_, fun _ => ⟨awaits_of_question hsignal hquestion hfor, ?_⟩, fun hspent => ?_,
      fun hequal hinput => ?_, ?_⟩
    · omega
    · rw [← htries, ← hfor]
      exact congrArg UInt32.toNat (tries_of_question hquestion)
    · omega
    · exact forgotten_of_exhausted hsignal hquestion hfor (by omega) hinput
    · rintro rfl
      cases question with
      | willTopic | willMessage => cases hfor
      | offer registration =>
        obtain ⟨ids, hrepeated⟩ := hoffers registration rfl
        refine ⟨registration.topicId, registration.publication.topic, _, hrepeated,
          fun _ ack hheard hid => ignores_of_regack hheard fun other hother hsame => hid ?_⟩
        cases hquestion.symm.trans hother
        rw [List.getLast?_concat, hsame]
  | given hspent hover hsent hoffers =>
    refine ⟨?_, fun hleft => ?_, fun _ => hover, fun hequal => ?_, fun hregack => ?_⟩
    · omega
    · omega
    · omega
    · obtain ⟨topicId, name, ids, hrepeated⟩ := hoffers hregack
      refine ⟨topicId, name, ids, hrepeated, fun hlast ack hheard _ =>
        ignores_of_regack hheard fun registration hopen => ?_⟩
      have hawaits := awaits_of_question hsignal hopen hregack.symm
      rw [hover hlast] at hawaits
      cases hawaits

/-- The device that takes its time is offered the id twice before it answers to the first
offer, which is passed over. -/
theorem retries_bounded_hesitant :
    (hesitant.transmissions .regack 2 5).length = 2 ∧ hesitant.Ignores 5 := by
  have hgoes : ∀ k, 2 < k → k < 5 →
      hesitant.timeouts .regackTimeout 2 k ≤ hesitant.config.maxRetries →
        hesitant.completes k = false ∧ ¬ hesitant.LetsGo k := by
    intro k hafter hbefore _
    match k, hafter, hbefore with
    | 3, _, _ =>
      have heffects : (hesitant.step 3).effects = [] := rfl
      exact ⟨rfl, by rw [LetsGo, heffects]; exact List.not_mem_nil⟩
    | 4, _, _ =>
      have heffects : (hesitant.step 4).effects =
          [.device "udp:20000" meter (.register ⟨51, 2, "temperature"⟩)] := rfl
      exact ⟨rfl, by rw [LetsGo, heffects]; exact fun hin => nomatch List.mem_singleton.mp hin⟩
  have hretried : hesitant.Retried .regack .regackTimeout 2 5 :=
    retries_bounded hesitant (by decide) rfl rfl (by decide) hgoes
  have htimeouts : hesitant.timeouts .regackTimeout 2 5 = 1 := rfl
  refine ⟨by rw [hretried.count, htimeouts]; rfl, ?_⟩
  obtain ⟨topicId, name, ids, hrepeated, hlate⟩ := hretried.offers rfl
  refine hlate rfl ⟨51, 1, .accepted⟩ ⟨meter, "udp:20000", rfl⟩ fun hlast => ?_
  have hsent : hesitant.transmissions .regack 2 5 =
      [.register ⟨51, 1, "temperature"⟩, .register ⟨51, 2, "temperature"⟩] := rfl
  have hsecond := congrArg List.getLast? (hsent.symm.trans hrepeated.same)
  rw [List.getLast?_map, hlast] at hsecond
  cases hsecond

end Life

end SensorGateway.Session
