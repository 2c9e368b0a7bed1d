import Mathlib.Data.List.Nodup
import SensorGateway.Queue

/-!
In which order envelopes leave the queue. Whoever puts an envelope on the queue and the one
thread that takes them have the queue in turn, so that whatever they do is a list of
requests. A `Logbook` has on record all that ever came in, in the order of arrival, and
which of it was handed out; what is pending, and what is to be handed out next, is read off
from that. `queue_discipline` says that the queue answers every request as the logbook
does: the pending signals are a stack, the pending messages wait behind it in the order of
their arrival, and nothing is lost or handed out twice.
-/

namespace SensorGateway

namespace Queue

/-- How long a thread waits for an envelope if there is none. -/
inductive Patience where
  | endless
  | none
  /-- For some time, which may be over by now. -/
  | limited (isOver : Bool)

inductive Request where
  | put (envelope : Envelope)
  | take (patience : Patience)

inductive Answer where
  | done
  | handed (envelope : Envelope)
  /-- There is no envelope, and the thread goes on without one. -/
  | nothing
  /-- There is no envelope, and the thread will ask again. -/
  | waits
deriving DecidableEq

def Patience.onEmpty : Patience → Answer
  | endless => .waits
  | none => .nothing
  | limited isOver => if isOver then .nothing else .waits

def Request.envelope? : Request → Option Envelope
  | put envelope => some envelope
  | take _ => .none

def Answer.envelope? : Answer → Option Envelope
  | handed envelope => some envelope
  | done | nothing | waits => none

theorem Patience.envelope?_onEmpty (patience : Patience) : patience.onEmpty.envelope? = .none := by
  cases patience with
  | limited isOver => cases isOver <;> rfl
  | _ => rfl

def serve (queue : Queue) : Request → Answer × Queue
  | .put envelope => (.done, queue.put envelope)
  | .take patience =>
      match queue.take? with
      | some (envelope, rest) => (.handed envelope, rest)
      | none => (patience.onEmpty, queue)

def serveAll {State : Type} (serve : State → Request → Answer × State) :
    State → List Request → List Answer × State
  | state, [] => ([], state)
  | state, request :: requests =>
      let (answer, next) := serve state request
      let (answers, last) := serveAll serve next requests
      (answer :: answers, last)

end Queue

open Queue (Request Answer serveAll)

/-- What came in so far, and what of it was handed out. Envelopes go by number, in the order
of arrival, so that two that are alike are told apart. -/
structure Logbook where
  arrivals : List Envelope := []
  /-- The numbers of those that were handed out, in this order. -/
  taken : List Nat := []

namespace Logbook

def pending (logbook : Logbook) : List (Envelope × Nat) :=
  logbook.arrivals.zipIdx.filter (·.2 ∉ logbook.taken)

def signals (logbook : Logbook) : List (Envelope × Nat) :=
  logbook.pending.filter (·.1.isSignal)

def messages (logbook : Logbook) : List (Envelope × Nat) :=
  logbook.pending.filter (!·.1.isSignal)

/-- The signal that came in last is the next, or else the message that came in first. -/
def next? (logbook : Logbook) : Option (Envelope × Nat) :=
  logbook.signals.getLast?.or logbook.messages.head?

/-- The signals, from the last to the first, and behind them the messages, from the first to
the last. -/
def contents (logbook : Logbook) : List (Envelope × Nat) :=
  logbook.signals.reverse ++ logbook.messages

def serve (logbook : Logbook) : Request → Answer × Logbook
  | .put envelope => (.done, { logbook with arrivals := logbook.arrivals ++ [envelope] })
  | .take patience =>
      match logbook.next? with
      | some (envelope, number) =>
          (.handed envelope, { logbook with taken := logbook.taken ++ [number] })
      | none => (patience.onEmpty, logbook)

def handed (logbook : Logbook) : List Envelope :=
  logbook.taken.filterMap (logbook.arrivals[·]?)

/-- Only what came in was handed out, and nothing of it twice. -/
structure Sound (logbook : Logbook) : Prop where
  nodup : logbook.taken.Nodup
  arrived : ∀ number ∈ logbook.taken, number < logbook.arrivals.length

variable {logbook : Logbook} {envelope : Envelope} {number : Nat}

/-! ### What is pending -/

/-- The next envelope stands at the front. -/
theorem head?_contents (logbook : Logbook) : logbook.contents.head? = logbook.next? := by
  rw [contents, next?, List.head?_append, List.head?_reverse]

/-- The contents are what was not handed out, in another order. -/
theorem perm_contents (logbook : Logbook) : logbook.contents.Perm logbook.pending := by
  have hparts : (logbook.signals ++ logbook.messages).Perm logbook.pending :=
    List.filter_append_perm _ _
  exact ((List.reverse_perm _).append_right _).trans hparts

theorem map_pending (logbook : Logbook) :
    logbook.pending.map (·.2) =
      (List.range logbook.arrivals.length).filter (· ∉ logbook.taken) := by
  have hnumbers : logbook.arrivals.zipIdx.map (·.2) = List.range logbook.arrivals.length := by
    rw [List.zipIdx_map_snd, List.range_eq_range']
  rw [← hnumbers, List.filter_map]
  rfl

/-- No envelope is there twice. -/
theorem nodup_contents (logbook : Logbook) : (logbook.contents.map (·.2)).Nodup := by
  have hpending : (logbook.pending.map (·.2)).Nodup := by
    rw [map_pending]
    exact List.nodup_range.filter _
  exact ((logbook.perm_contents.map _).nodup_iff).mpr hpending

theorem mem_of_next? (h : logbook.next? = some (envelope, number)) :
    logbook.arrivals[number]? = some envelope ∧ number ∉ logbook.taken := by
  have hfirst : (envelope, number) ∈ logbook.contents := by
    rw [← head?_contents] at h
    exact List.mem_of_head? h
  obtain ⟨hin, hleft⟩ := List.mem_filter.mp (logbook.perm_contents.mem_iff.mp hfirst)
  exact ⟨List.mem_zipIdx_iff_getElem?.mp hin, of_decide_eq_true hleft⟩

/-- Every arrival was handed out or is pending. -/
theorem Sound.perm (h : logbook.Sound) :
    (logbook.taken ++ logbook.contents.map (·.2)).Perm
      (List.range logbook.arrivals.length) := by
  have htaken : logbook.taken.Perm
      ((List.range logbook.arrivals.length).filter (· ∈ logbook.taken)) := by
    rw [List.perm_ext_iff_of_nodup h.nodup (List.nodup_range.filter _)]
    intro number
    rw [List.mem_filter, List.mem_range, decide_eq_true_eq]
    exact ⟨fun hin => ⟨h.arrived number hin, hin⟩, And.right⟩
  have hpending := logbook.perm_contents.map (·.2)
  rw [map_pending] at hpending
  refine (htaken.append hpending).trans ?_
  simpa using List.filter_append_perm (· ∈ logbook.taken) (List.range logbook.arrivals.length)

/-! ### One request -/

theorem Sound.arrive (h : logbook.Sound) (envelope : Envelope) :
    Sound { logbook with arrivals := logbook.arrivals ++ [envelope] } := by
  refine ⟨h.nodup, fun number hin => ?_⟩
  rw [List.length_append]
  exact Nat.lt_add_right _ (h.arrived number hin)

/-- A logbook stays sound as the next envelope is handed out. -/
theorem Sound.hand (h : logbook.Sound) (hnext : logbook.next? = some (envelope, number)) :
    Sound { logbook with taken := logbook.taken ++ [number] } := by
  obtain ⟨harrived, hleft⟩ := mem_of_next? hnext
  refine ⟨?_, fun other hin => ?_⟩
  · rw [List.nodup_append]
    refine ⟨h.nodup, List.nodup_singleton number, fun first hfirst second hsecond heq => hleft ?_⟩
    rw [List.mem_singleton] at hsecond
    exact hsecond ▸ heq ▸ hfirst
  · rcases List.mem_append.mp hin with hold | hnew
    · exact h.arrived other hold
    · rw [List.mem_singleton.mp hnew]
      exact (List.getElem?_eq_some_iff.mp harrived).1

/-- A signal goes to the front of what is pending, and a message to its end. -/
theorem Sound.contents_arrive (h : logbook.Sound) (envelope : Envelope) :
    contents { logbook with arrivals := logbook.arrivals ++ [envelope] } =
      if envelope.isSignal then (envelope, logbook.arrivals.length) :: logbook.contents
      else logbook.contents ++ [(envelope, logbook.arrivals.length)] := by
  have hnew : logbook.arrivals.length ∉ logbook.taken := fun hin =>
    Nat.lt_irrefl _ (h.arrived _ hin)
  have hpending : pending { logbook with arrivals := logbook.arrivals ++ [envelope] } =
      logbook.pending ++ [(envelope, logbook.arrivals.length)] := by
    simp [pending, List.zipIdx_append, hnew]
  unfold contents signals messages
  rw [hpending]
  cases hsignal : envelope.isSignal <;> simp [hsignal]

/-- The next one leaves, and the others stay in their order. -/
theorem contents_hand {rest : List (Envelope × Nat)}
    (hcontents : logbook.contents = (envelope, number) :: rest) :
    contents { logbook with taken := logbook.taken ++ [number] } = rest := by
  have hpending : pending { logbook with taken := logbook.taken ++ [number] } =
      logbook.pending.filter (·.2 != number) := by
    rw [pending, pending, List.filter_filter]
    apply List.filter_congr
    intro arrival _
    by_cases hin : arrival.2 ∈ logbook.taken <;> by_cases heq : arrival.2 = number <;>
      simp [hin, heq]
  have hleft : contents { logbook with taken := logbook.taken ++ [number] } =
      logbook.contents.filter (·.2 != number) := by
    unfold contents signals messages
    rw [hpending, List.filter_append, List.filter_reverse, List.filter_comm,
      List.filter_comm (p := fun arrival : Envelope × Nat => !arrival.1.isSignal)]
  have hothers : ∀ arrival ∈ rest, (arrival.2 != number) = true := by
    have hnodup := logbook.nodup_contents
    rw [hcontents, List.map_cons, List.nodup_cons] at hnodup
    intro arrival hin
    rw [bne_iff_ne]
    exact fun heq => hnodup.1 (List.mem_map.mpr ⟨arrival, hin, heq⟩)
  rw [hleft, hcontents, List.filter_cons_of_neg (by simp), List.filter_eq_self.mpr hothers]

/-- Only what is put on the queue comes in. -/
theorem arrivals_serve (logbook : Logbook) (request : Request) :
    (logbook.serve request).2.arrivals = logbook.arrivals ++ request.envelope?.toList := by
  cases request with
  | put envelope => rfl
  | take patience =>
    simp only [serve, Request.envelope?, Option.toList_none, List.append_nil]
    split <;> rfl

theorem Sound.serve (h : logbook.Sound) (request : Request) : (logbook.serve request).2.Sound := by
  cases request with
  | put envelope => exact h.arrive envelope
  | take patience =>
    simp only [Logbook.serve]
    split
    next hnext => exact h.hand hnext
    next => exact h

/-- What came in before is still known by its number. -/
theorem Sound.handed_arrive (h : logbook.Sound) (envelope : Envelope) :
    handed { logbook with arrivals := logbook.arrivals ++ [envelope] } = logbook.handed :=
  List.filterMap_congr fun number hin => List.getElem?_append_left (h.arrived number hin)

/-- What a request is answered with is all that is handed out. -/
theorem Sound.handed_serve (h : logbook.Sound) (request : Request) :
    (logbook.serve request).2.handed =
      logbook.handed ++ (logbook.serve request).1.envelope?.toList := by
  cases request with
  | put envelope => exact (h.handed_arrive envelope).trans (List.append_nil _).symm
  | take patience =>
    simp only [Logbook.serve]
    split
    next envelope number hnext =>
      rw [handed, List.filterMap_append, List.filterMap_cons, (mem_of_next? hnext).1]
      rfl
    next =>
      rw [patience.envelope?_onEmpty]
      exact (List.append_nil _).symm

structure Describes (logbook : Logbook) (queue : Queue) : Prop where
  sound : logbook.Sound
  contents : queue.toList = logbook.contents.map (·.1)

/-- The queue answers as the logbook does. -/
theorem Describes.serve {queue : Queue} (h : logbook.Describes queue) (request : Request) :
    (queue.serve request).1 = (logbook.serve request).1 ∧
      (logbook.serve request).2.Describes (queue.serve request).2 := by
  have hsound := h.sound.serve request
  cases request with
  | put envelope =>
    refine ⟨rfl, hsound, ?_⟩
    change (queue.put envelope).toList = _
    rw [Queue.toList_put, h.contents, Logbook.serve, h.sound.contents_arrive]
    split <;> simp
  | take patience =>
    have hcontents := h.contents
    have hnext := logbook.head?_contents
    cases htake : queue.take? with
    | none =>
      rw [Queue.toList_of_take?_eq_none htake] at hcontents
      rw [List.map_eq_nil_iff.mp hcontents.symm] at hnext
      have hqueue : queue.serve (.take patience) = (patience.onEmpty, queue) := by
        simp only [Queue.serve, htake]
      have hlogbook : logbook.serve (.take patience) = (patience.onEmpty, logbook) := by
        simp only [Logbook.serve, ← hnext, List.head?_nil]
      rw [hqueue, hlogbook]
      exact ⟨rfl, h⟩
    | some taken =>
      obtain ⟨envelope, rest⟩ := taken
      rw [Queue.toList_of_take? htake] at hcontents
      obtain ⟨⟨known, number⟩, others, hfirst, rfl, hothers⟩ :=
        List.map_eq_cons_iff.mp hcontents.symm
      rw [hfirst] at hnext
      have hqueue : queue.serve (.take patience) = (.handed known, rest) := by
        simp only [Queue.serve, htake]
      have hlogbook : logbook.serve (.take patience) =
          (.handed known, { logbook with taken := logbook.taken ++ [number] }) := by
        simp only [Logbook.serve, ← hnext, List.head?_cons]
      rw [hlogbook] at hsound
      rw [hqueue, hlogbook]
      exact ⟨rfl, hsound, by rw [contents_hand hfirst, hothers]⟩

/-- No message is in front of a signal. -/
theorem Describes.signalsFirst {queue : Queue} (h : logbook.Describes queue) {first : Envelope}
    {rest : List Envelope} (hfirst : queue.toList = first :: rest)
    (hmessage : first.isSignal = false) : ∀ envelope ∈ queue.toList, envelope.isSignal = false := by
  have hcontents : queue.toList =
      (logbook.signals.reverse ++ logbook.messages).map (·.1) := h.contents
  rw [List.map_append] at hcontents
  have hsignals : logbook.signals.reverse = [] := by
    cases hall : logbook.signals.reverse with
    | nil => rfl
    | cons signal signals =>
      have hsignal : signal.1.isSignal = true := by
        have hin : signal ∈ logbook.signals.reverse := hall ▸ List.mem_cons_self
        exact (List.mem_filter.mp (List.mem_reverse.mp hin)).2
      rw [hall, hfirst] at hcontents
      rw [(List.cons.inj hcontents).1, hsignal] at hmessage
      cases hmessage
  rw [hsignals] at hcontents
  intro envelope hin
  rw [hcontents] at hin
  obtain ⟨arrival, harrival, rfl⟩ := List.mem_map.mp hin
  simpa using (List.mem_filter.mp harrival).2

/-! ### Any number of requests -/

/-- A queue answers any requests as its logbook does. -/
theorem Describes.serveAll {queue : Queue} (h : logbook.Describes queue)
    (requests : List Request) :
    (Queue.serveAll Queue.serve queue requests).1 =
        (Queue.serveAll Logbook.serve logbook requests).1 ∧
      (Queue.serveAll Logbook.serve logbook requests).2.Describes
        (Queue.serveAll Queue.serve queue requests).2 := by
  induction requests generalizing queue logbook with
  | nil => exact ⟨rfl, h⟩
  | cons request requests ih =>
    obtain ⟨hanswer, hnext⟩ := h.serve request
    obtain ⟨hanswers, hlast⟩ := ih hnext
    exact ⟨congrArg₂ _ hanswer hanswers, hlast⟩

theorem arrivals_serveAll (logbook : Logbook) (requests : List Request) :
    (Queue.serveAll Logbook.serve logbook requests).2.arrivals =
      logbook.arrivals ++ requests.filterMap (·.envelope?) := by
  induction requests generalizing logbook with
  | nil => exact (List.append_nil _).symm
  | cons request requests ih =>
    refine (ih (logbook.serve request).2).trans ?_
    rw [arrivals_serve, List.append_assoc, List.filterMap_cons]
    cases request <;> rfl

theorem Sound.handed_serveAll (h : logbook.Sound) (requests : List Request) :
    (Queue.serveAll Logbook.serve logbook requests).2.handed =
      logbook.handed ++
        (Queue.serveAll Logbook.serve logbook requests).1.filterMap (·.envelope?) := by
  induction requests generalizing logbook with
  | nil => exact (List.append_nil _).symm
  | cons request requests ih =>
    refine (ih (h.serve request)).trans ?_
    rw [h.handed_serve, List.append_assoc]
    simp only [Queue.serveAll, List.filterMap_cons]
    cases (logbook.serve request).1 <;> rfl

end Logbook

def Envelope.isMessageOf (address : Address) (envelope : Envelope) : Bool :=
  !envelope.isSignal && envelope.address.any (·.same address)

namespace Queue

variable {queue : Queue} {keeps : Envelope → Bool}

/-- Messages are handed out in the order in which they came in. -/
theorem filter_serve (hkeeps : ∀ envelope, keeps envelope = true → envelope.isSignal = false)
    (queue : Queue) (request : Request) :
    ((queue.serve request).1.envelope?.toList ++ (queue.serve request).2.toList).filter keeps =
      (queue.toList ++ request.envelope?.toList).filter keeps := by
  cases request with
  | put envelope =>
    change (queue.put envelope).toList.filter keeps = (queue.toList ++ [envelope]).filter keeps
    rw [toList_put]
    split
    next hsignal =>
      have hother : keeps envelope = false := by
        refine Bool.eq_false_iff.mpr fun hkept => ?_
        rw [hkeeps envelope hkept] at hsignal
        cases hsignal
      simp [hother]
    next => rfl
  | take patience =>
    simp only [Request.envelope?, Option.toList_none, List.append_nil]
    cases htake : queue.take? with
    | none =>
      have hserve : queue.serve (.take patience) = (patience.onEmpty, queue) := by
        simp only [serve, htake]
      rw [hserve, patience.envelope?_onEmpty]
      rfl
    | some taken =>
      have hserve : queue.serve (.take patience) = (.handed taken.1, taken.2) := by
        simp only [serve, htake]
      rw [hserve, toList_of_take? htake]
      rfl

/-- Messages that are put on a queue stand behind those that were there before, in their
order. -/
theorem filter_foldl_put (hkeeps : ∀ envelope, keeps envelope = true → envelope.isSignal = false)
    (puts : List Envelope) (queue : Queue) :
    (puts.foldl put queue).toList.filter keeps = (queue.toList ++ puts).filter keeps := by
  induction puts generalizing queue with
  | nil => rw [List.append_nil]; rfl
  | cons envelope puts ih =>
    have hput : (queue.put envelope).toList.filter keeps =
        (queue.toList ++ [envelope]).filter keeps := filter_serve hkeeps queue (.put envelope)
    rw [List.foldl_cons, ih, List.filter_append, hput, ← List.filter_append, List.append_assoc]
    rfl

/-- Messages come out in the order in which they went in. -/
theorem filter_serveAll (hkeeps : ∀ envelope, keeps envelope = true → envelope.isSignal = false)
    (queue : Queue) (requests : List Request) :
    ((serveAll serve queue requests).1.filterMap (·.envelope?) ++
        (serveAll serve queue requests).2.toList).filter keeps =
      (queue.toList ++ requests.filterMap (·.envelope?)).filter keeps := by
  induction requests generalizing queue with
  | nil => simp [serveAll]
  | cons request requests ih =>
    have hrest := ih (queue.serve request).2
    have hfirst := filter_serve hkeeps queue request
    have hanswers : (serveAll serve queue (request :: requests)).1.filterMap (·.envelope?) =
        (queue.serve request).1.envelope?.toList ++
          (serveAll serve (queue.serve request).2 requests).1.filterMap (·.envelope?) := by
      simp only [serveAll, List.filterMap_cons]
      cases (queue.serve request).1 <;> rfl
    have hrequests : (request :: requests).filterMap (·.envelope?) =
        request.envelope?.toList ++ requests.filterMap (·.envelope?) := by
      rw [List.filterMap_cons]
      cases request <;> rfl
    have hlast : (serveAll serve queue (request :: requests)).2 =
        (serveAll serve (queue.serve request).2 requests).2 := rfl
    rw [hanswers, hlast, hrequests, List.append_assoc, List.filter_append, hrest,
      ← List.filter_append, ← List.append_assoc, List.filter_append, hfirst,
      ← List.filter_append, List.append_assoc]

/-- Whatever is asked of the queue, and by whom, at any time the pending signals are a stack
and the pending messages wait behind it in the order of their arrival. The queue answers as
this requires, hands out the messages of every device in their order, and none while a signal
is pending, and what came in was either handed out once or is pending. -/
theorem queue_discipline (requests : List Request) :
    let (answers, queue) := serveAll serve .empty requests
    let (logged, logbook) := serveAll Logbook.serve {} requests
    answers = logged ∧
      queue.toList = logbook.contents.map (·.1) ∧
      logbook.arrivals = requests.filterMap (·.envelope?) ∧
      logbook.handed = answers.filterMap (·.envelope?) ∧
      (logbook.taken ++ logbook.contents.map (·.2)).Perm (List.range logbook.arrivals.length) ∧
      (∀ address, (answers.filterMap (·.envelope?) ++ queue.toList).filter (·.isMessageOf address) =
        (requests.filterMap (·.envelope?)).filter (·.isMessageOf address)) ∧
      ∀ patience envelope, (queue.serve (.take patience)).1 = .handed envelope →
        envelope.isSignal = false → ∀ other ∈ queue.toList, other.isSignal = false := by
  have hempty : Logbook.Describes {} empty :=
    ⟨⟨List.nodup_nil, fun _ hin => absurd hin List.not_mem_nil⟩, rfl⟩
  obtain ⟨hanswers, hdescribes⟩ := hempty.serveAll requests
  have hhanded := hempty.sound.handed_serveAll requests
  rw [← hanswers] at hhanded
  refine ⟨hanswers, hdescribes.contents, Logbook.arrivals_serveAll {} requests, hhanded,
    hdescribes.sound.perm, fun address => ?_, fun patience envelope hserve hmessage => ?_⟩
  · have hkeeps (envelope : Envelope) (hkept : envelope.isMessageOf address = true) :
        envelope.isSignal = false := by
      simpa using (Bool.and_eq_true_iff.mp hkept).1
    exact filter_serveAll hkeeps empty requests
  · simp only [serve] at hserve
    split at hserve
    next taken rest htake =>
      cases hserve
      exact hdescribes.signalsFirst (toList_of_take? htake) hmessage
    next =>
      have hnothing := patience.envelope?_onEmpty
      rw [show patience.onEmpty = .handed envelope from hserve] at hnothing
      cases hnothing

/-- Two messages of a broker are overtaken by two signals before anything is taken. -/
def interrupted (takes : Nat) : List Request :=
  [.put ⟨some (.gateway 1), .broker .pingResponse⟩, .put ⟨some (.gateway 1), .broker .pingRequest⟩,
    .put ⟨some (.gateway 1), .signal .sendKeepAlive⟩, .put ⟨none, .signal .shutDown⟩] ++
    List.replicate takes (.take .none)

theorem queue_discipline_interrupted :
    (serveAll serve .empty (interrupted 5)).1 =
        List.replicate 4 .done ++
          [.handed ⟨none, .signal .shutDown⟩, .handed ⟨some (.gateway 1), .signal .sendKeepAlive⟩,
            .handed ⟨some (.gateway 1), .broker .pingResponse⟩,
            .handed ⟨some (.gateway 1), .broker .pingRequest⟩, .nothing] ∧
      ∀ other ∈ (serveAll serve .empty (interrupted 2)).2.toList, other.isSignal = false :=
  ⟨by decide,
    (queue_discipline (interrupted 2)).2.2.2.2.2.2 .none
      ⟨some (.gateway 1), .broker .pingResponse⟩ (by decide) rfl⟩

end Queue

end SensorGateway
