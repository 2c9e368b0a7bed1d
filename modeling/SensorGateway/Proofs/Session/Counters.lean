import SensorGateway.Config.Validation
import SensorGateway.Proofs.Session.Asking
import SensorGateway.Proofs.Session.Handshakes

/-!
How far the counters of a ledger can be trusted. A request that the device leaves
unanswered goes out again at each timeout, and its counter has 32 bits to say how
often it went out. With one retry more than that allows the counter would be full,
so that it is exact for every limit but the greatest. There it starts at 0 again,
no timeout is ever one too many, and the request is repeated for ever.
-/

namespace SensorGateway.Session

def Input.isTimeoutOf (handshake : Handshake) : Input → Bool
  | .signal timeout => handshake.timeout? == some timeout
  | .sensor .. | .broker _ => false

namespace Ledger

/-- How often a request has gone out once a turn is over: once when its mark is set,
and once more at each timeout for as long as the mark stays. -/
def recount (handshake : Handshake) (input : Input) (before after : Ledger) (count : Nat) : Nat :=
  if !after.marks.awaits handshake then 0
  else if !before.marks.awaits handshake then 1
  else if input.isTimeoutOf handshake then count + 1
  else count

/-- How often the request has gone out whose answer is waited for after some turns. -/
def requests (config : Config) (handshake : Handshake) : List Turn → Ledger → Nat → Nat
  | [], _, count => count
  | turn :: turns, ledger, count =>
      let next := (ledger.take config turn).ledger
      requests config handshake turns next (recount handshake turn.input ledger next count)

/-- A counter that has counted this many requests. -/
structure Counted (maxRetries : Nat) (handshake : Handshake) (count : Nat) (ledger : Ledger) :
    Prop where
  counter : (ledger.marks.tries handshake).toNat = count % UInt32.size
  clear : ledger.marks.awaits handshake = false → count = 0
  set : ledger.marks.awaits handshake = true →
    1 ≤ count ∧ (maxRetries + 1 < UInt32.size → count ≤ maxRetries + 1)

end Ledger

variable {session : Session} {config : Config} {turn : Turn} {handshake : Handshake}
  {signal : Signal} {question old : Question} {maxRetries count : Nat}

/-! ### The counter of a question -/

theorem counted_of_not_awaits (h : session.awaits handshake = false) :
    session.ledger.Counted maxRetries handshake 0 := by
  constructor
  · rw [ledger_tries, tries_of_not_awaits h]
    rfl
  · intro _
    rfl
  · intro hset
    rw [ledger_awaits, h] at hset
    cases hset

theorem counted_of_question (hsignal : handshake.timeout? = some signal)
    (hquestion : session.phase.question? = some question)
    (hfor : question.handshake = handshake) (hcount : question.tries.toNat = count % UInt32.size)
    (hsent : 1 ≤ count) (hmost : maxRetries + 1 < UInt32.size → count ≤ maxRetries + 1) :
    session.ledger.Counted maxRetries handshake count := by
  constructor
  · rw [ledger_tries, ← hfor, tries_of_question hquestion]
    exact hcount
  · intro hclear
    rw [ledger_awaits, (awaits_iff_question hsignal).mpr ⟨question, hquestion, hfor⟩] at hclear
    cases hclear
  · intro _
    exact ⟨hsent, hmost⟩

theorem Ledger.Counted.of_question (h : session.ledger.Counted maxRetries handshake count)
    (hsignal : handshake.timeout? = some signal)
    (hquestion : session.phase.question? = some question)
    (hfor : question.handshake = handshake) :
    question.tries.toNat = count % UInt32.size ∧
      1 ≤ count ∧ (maxRetries + 1 < UInt32.size → count ≤ maxRetries + 1) := by
  have hcounter := h.counter
  rw [ledger_tries, ← hfor, tries_of_question hquestion] at hcounter
  refine ⟨hcounter, h.set ?_⟩
  rw [ledger_awaits, awaits_iff_question hsignal]
  exact ⟨question, hquestion, hfor⟩

/-- What a counter has counted stays within the limit as long as the counter is exact. -/
theorem count_succ_le {tries : UInt32} (hexact : maxRetries + 1 < UInt32.size)
    (hcount : tries.toNat = count % UInt32.size) (hmost : count ≤ maxRetries + 1)
    (hleft : tries.toNat ≤ maxRetries) : count + 1 ≤ maxRetries + 1 := by
  rw [Nat.mod_eq_of_lt (Nat.lt_of_le_of_lt hmost hexact)] at hcount
  omega

/-! ### One turn -/

/-- Any other signal than the one by which a question is asked again. -/
theorem not_isTimeoutOf (hsignal : handshake.timeout? = some signal)
    (hfor : question.handshake = handshake) (hother : turn.input ≠ .signal question.timeout) :
    turn.input.isTimeoutOf handshake = false := by
  cases hinput : turn.input with
  | sensor | broker => rfl
  | signal other =>
    rw [Input.isTimeoutOf, hsignal, beq_eq_false_iff_ne]
    rintro ⟨⟩
    rw [hinput, (timeout_eq_iff hsignal question).mpr hfor] at hother
    exact hother rfl

/-- An answer is not waited for while another one is asked for, or none. -/
theorem not_awaits_of_question? (hsignal : handshake.timeout? = some signal)
    (h : ∀ question, session.phase.question? = some question → question.handshake ≠ handshake) :
    session.awaits handshake = false := by
  rw [Bool.eq_false_iff, ne_eq, awaits_iff_question hsignal]
  rintro ⟨question, hquestion, hfor⟩
  exact h question hquestion hfor

/-- A turn keeps the counter of a request right, whatever the session is told in it. -/
theorem counted_take (config : Config) (turn : Turn) (hsignal : handshake.timeout? = some signal)
    (h : session.ledger.Counted config.maxRetries handshake count) :
    let next := (session.take config turn).session.ledger
    next.Counted config.maxRetries handshake
      (session.ledger.recount handshake turn.input next count) := by
  intro next
  have hbefore : (Transition.start (session.hear config turn)).question? =
      session.phase.question? := congrArg Phase.question? (phase_hear config turn session)
  unfold Ledger.recount
  by_cases hafter : (session.take config turn).session.awaits handshake = true
  · obtain ⟨question, hnext, hfor⟩ := (awaits_iff_question hsignal).mp hafter
    have hset : next.marks.awaits handshake = true := (ledger_awaits _ handshake).trans hafter
    rw [hset, ledger_awaits]
    cases take_asking config turn session with
    | calm hlater hcalm =>
      cases hcalm with
      | drops hdrops => cases hnext.symm.trans hdrops.question
      | plain hplain =>
        have hopen : session.phase.question? = some question :=
          (hbefore.symm.trans hplain.question.symm).trans hnext
        have hwaits := (awaits_iff_question hsignal).mpr ⟨question, hopen, hfor⟩
        have hquiet := not_isTimeoutOf hsignal hfor (hlater question (hbefore.trans hopen))
        rw [hwaits, hquiet]
        obtain ⟨hcount, hsent, hmost⟩ := h.of_question hsignal hopen hfor
        exact counted_of_question hsignal hnext hfor hcount hsent hmost
    | answered _ _ hnone => cases hnext.symm.trans hnone
    | giveUp _ _ _ hnone => cases hnext.symm.trans hnone
    | ask first hold hone hfirst =>
      cases hnext.symm.trans hone
      have hwaits : session.awaits handshake = false :=
        not_awaits_of_question? hsignal fun other hother =>
          hfor ▸ (hold other (hbefore.trans hother)).2
      rw [hwaits]
      refine counted_of_question hsignal hnext hfor ?_ (Nat.le_refl 1) fun _ => Nat.le_add_left 1 _
      rw [hfirst]
      rfl
    | @again old hold hinput hleft hagain =>
      cases hnext.symm.trans hagain
      have hopen : session.phase.question? = some old := hbefore.symm.trans hold
      have hfor' : old.handshake = handshake := (old.handshake_again _).symm.trans hfor
      have hwaits := (awaits_iff_question hsignal).mpr ⟨old, hopen, hfor'⟩
      have htimeout : turn.input.isTimeoutOf handshake = true := by
        rw [hinput, Input.isTimeoutOf, hsignal, (timeout_eq_iff hsignal old).mpr hfor']
        exact beq_self_eq_true _
      rw [hwaits, htimeout]
      obtain ⟨hcount, hsent, hmost⟩ := h.of_question hsignal hopen hfor'
      refine counted_of_question hsignal hnext hfor ?_ (Nat.le_add_left 1 count) fun hexact =>
        count_succ_le hexact hcount (hmost hexact) hleft
      rw [Question.tries_again, UInt32.toNat_add, hcount]
      exact Nat.mod_add_mod count UInt32.size 1
  · have hclear : next.marks.awaits handshake = false :=
      (ledger_awaits _ _).trans (Bool.not_eq_true _ ▸ hafter)
    rw [hclear]
    exact counted_of_not_awaits (Bool.not_eq_true _ ▸ hafter)

/-! ### Whole runs -/

theorem counted_run (hsignal : handshake.timeout? = some signal) (turns : List Turn)
    (h : session.ledger.Counted config.maxRetries handshake count) :
    (session.ledger.run config turns).ledger.Counted config.maxRetries handshake
      (Ledger.requests config handshake turns session.ledger count) := by
  induction turns generalizing session count with
  | nil => exact h
  | cons turn turns ih =>
    have hnext := counted_take config turn hsignal h
    have hledger : (session.ledger.take config turn).ledger =
        (session.take config turn).session.ledger :=
      congrArg Ledger.Transition.ledger (ledger_take config turn session)
    simp only [Ledger.requests, Ledger.run, hledger]
    exact ih hnext

/-- Whatever a session is told, and however its broker link behaves, the marks and
messages of its ledger stay coherent and no mark ever lacks the message that belongs
to it. A counter is 0 as long as its mark is clear; after that it says how often the
request went out, in 32 bits, and this number keeps to the limit unless the limit is
the greatest one. The ledger is the one of the session, and does what the session
does. -/
theorem run_ledger_coherent (config : Config) (address : Address) (now : Nat)
    (turns : List Turn) :
    let ledger := Ledger.begin config address now
    let last := ledger.run config turns
    last.ledger.Coherent ∧
    (∀ handshake signal, Handshake.timeout? handshake = some signal →
      last.ledger.Counted config.maxRetries handshake
        (Ledger.requests config handshake turns ledger 0)) ∧
    last.fallbacks = [] ∧
    last.ledger = ((begin config address now).run config turns).session.ledger ∧
    last.effects = ((begin config address now).run config turns).effects := by
  intro ledger last
  have hrun : last = ((begin config address now).run config turns).ledger :=
    run_begin_ledger config address now turns
  have hcounted (handshake : Handshake) (signal : Signal)
      (hsignal : handshake.timeout? = some signal) :
      last.ledger.Counted config.maxRetries handshake
        (Ledger.requests config handshake turns ledger 0) := by
    have hfirst : (begin config address now).awaits handshake = false := by
      cases handshake <;> rfl
    exact counted_run hsignal turns (counted_of_not_awaits hfirst)
  refine ⟨?_, hcounted, ?_⟩
  · rw [hrun]
    exact ledger_coherent _
  · rw [hrun]
    exact ⟨rfl, rfl, rfl⟩

/-! ### The greatest limit -/

theorem phase_take_willTopicTimeout {request : Sensor.Connect} {tries : UInt32}
    (hphase : session.phase = .awaitingWillTopic request tries)
    (hinput : turn.input = .signal .willTopicTimeout) (hleft : tries.toNat ≤ config.maxRetries) :
    (session.take config turn).session.phase = .awaitingWillTopic request (tries + 1) := by
  have htake : session.take config turn =
      (Transition.start session).willTopicTimeout (turn.context config) := by
    rw [take, hinput]
    rfl
  have hstart : (Transition.start session).session.phase = .awaitingWillTopic request tries :=
    hphase
  have hgoes : ¬ tries.toNat > (turn.context config).config.maxRetries := Nat.not_lt.mpr hleft
  rw [htake, Transition.willTopicTimeout, hstart]
  simp only [if_neg hgoes]
  rfl

/-- With the greatest limit no request for the topic of a will is ever the last one, and
its counter goes round. -/
theorem phase_run_willTopicTimeout {request : Sensor.Connect} {tries : UInt32}
    (hmost : UInt32.size ≤ config.maxRetries + 1)
    (hinput : turn.input = .signal .willTopicTimeout) (n : Nat)
    (hphase : session.phase = .awaitingWillTopic request tries) :
    (session.run config (List.replicate n turn)).session.phase =
      .awaitingWillTopic request (tries + UInt32.ofNat n) := by
  induction n generalizing session tries with
  | zero =>
    have hsame : tries + UInt32.ofNat 0 = tries := UInt32.add_zero tries
    rw [hsame]
    exact hphase
  | succ n ih =>
    have hleft : tries.toNat ≤ config.maxRetries := by
      have hsize : tries.toNat < UInt32.size := tries.toNat_lt
      omega
    have hnext := phase_take_willTopicTimeout hphase hinput hleft
    have hsum : tries + 1 + UInt32.ofNat n = tries + UInt32.ofNat (n + 1) := by
      rw [UInt32.ofNat_add, UInt32.add_comm (UInt32.ofNat n), UInt32.add_assoc]
      rfl
    rw [← hsum]
    exact ih hnext

/-- A device that wants a will and then says nothing more. -/
def unanswered (timeouts : Nat) : List Turn :=
  { now := 0, line := {}, input := .sensor meter (.connect
      { flags := { will := true }, protocolId := 1, duration := 60, clientId := "d" })
        "udp:20000" } ::
    List.replicate timeouts { now := 0, line := {}, input := .signal .willTopicTimeout }

theorem marks_run_unanswered (timeouts : Nat) :
    ((Ledger.begin { maxRetries := 4294967295 } meter 0).run
      { maxRetries := 4294967295 } (unanswered timeouts)).ledger.marks =
        { willTopic := true, willTopicTries := 1 + UInt32.ofNat timeouts } := by
  let config : Config := { maxRetries := 4294967295 }
  let session := begin config meter 0
  have hrun : ((Ledger.begin config session.address 0).run config (unanswered timeouts)).ledger =
      (session.run config (unanswered timeouts)).session.ledger :=
    congrArg Ledger.Transition.ledger (run_begin_ledger config _ 0 (unanswered timeouts))
  have hmarks := ledger_marks (session.run config (unanswered timeouts)).session
  have hphase : (session.run config (unanswered timeouts)).session.phase = .awaitingWillTopic
      { flags := { will := true }, protocolId := 1, duration := 60, clientId := "d" }
        (1 + UInt32.ofNat timeouts) := by
    have hmost : UInt32.size ≤ config.maxRetries + 1 := by decide
    exact phase_run_willTopicTimeout hmost rfl timeouts rfl
  rw [hphase] at hmarks
  exact (congrArg Ledger.marks hrun).trans hmarks

/-- So a counter may be 0 while its answer is waited for. -/
theorem not_all_counters_set :
    ¬ ∀ (config : Config) (address : Address) (now : Nat) (turns : List Turn),
      config.validate = .ok () → config.maxRetries < UInt32.size →
        let marks := ((Ledger.begin config address now).run config turns).ledger.marks
        marks.willTopic = true →
          1 ≤ marks.willTopicTries.toNat ∧ marks.willTopicTries.toNat ≤ config.maxRetries + 1 := by
  intro hall
  have hmarks := marks_run_unanswered 4294967295
  have hcounter := hall { maxRetries := 4294967295 } meter 0
    (unanswered 4294967295) rfl (by decide)
  simp only [hmarks] at hcounter
  have hset := (hcounter trivial).1
  exact absurd hset (by decide)

end SensorGateway.Session
