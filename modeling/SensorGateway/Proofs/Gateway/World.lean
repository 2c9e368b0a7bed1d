import SensorGateway.Proofs.Gateway.Timeouts

/-!
A gateway together with what runs beside it. The tasks of the timers put their
envelopes on the queue whenever they like, and so does whoever reads from the
links, while the gateway takes one envelope after the other and handles it. A
`World` is a gateway with a note on every envelope of who put it on the queue, and
with the turn in which every task and every handshake was started. The notes
change nothing: `exists_take` and `exists_handle` say that whatever the gateway
can do can be done with them too.
-/

namespace SensorGateway

inductive Origin where
  | task (number : Nat)
  | reader
  | gateway
deriving DecidableEq

structure Parcel where
  envelope : Envelope
  origin : Origin

def Task.parcel (task : Task) : Parcel :=
  ⟨task.timer.envelope, .task task.number⟩

structure World where
  gateway : Gateway
  /-- What is on the queue, in its order. -/
  waiting : List Parcel
  /-- What was taken from the queue and is being handled. -/
  inHand : Option Parcel
  /-- How many envelopes were handled. -/
  clock : Nat
  /-- In which turn the task of a number was started. -/
  armed : Nat → Nat
  /-- In which turn a device began to owe an answer. -/
  begun : Address → Session.Handshake → Nat

namespace World

def queueUp (waiting : List Parcel) (parcel : Parcel) : List Parcel :=
  if parcel.envelope.isSignal then parcel :: waiting else waiting ++ [parcel]

def put (world : World) (parcel : Parcel) : World :=
  { world with
    gateway := world.gateway.put parcel.envelope
    waiting := queueUp world.waiting parcel }

def next (world : World) (circumstances : Circumstances) (parcel : Parcel) : Gateway :=
  (world.gateway.dispatch circumstances parcel.envelope).progress.gateway

/-- What was put on the queue while an envelope was handled: what the gateway put
there itself, what the readers put, and what those tasks put that ran before or
after. There are no other tasks, since none comes and goes in between, as
`Gateway.dispatch_keeps` says. -/
structure During (world : World) (circumstances : Circumstances) (parcel : Parcel)
    (puts : List Parcel) : Prop where
  own : (world.next circumstances parcel).queue =
    ((puts.filter (·.origin = .gateway)).map (·.envelope)).foldl Queue.put world.gateway.queue
  read : ∀ late ∈ puts, late.origin = .reader → late.envelope.isTimeout = false
  fired : ∀ late ∈ puts, ∀ number, late.origin = .task number →
    ∃ task, (task ∈ world.gateway.timers.tasks ∨
      task ∈ (world.next circumstances parcel).timers.tasks) ∧ late = task.parcel

def handled (world : World) (circumstances : Circumstances) (parcel : Parcel)
    (puts : List Parcel) : World where
  gateway :=
    { world.next circumstances parcel with
      queue := (puts.map (·.envelope)).foldl Queue.put world.gateway.queue }
  waiting := puts.foldl queueUp world.waiting
  inHand := none
  clock := world.clock + 1
  armed number :=
    if number < world.gateway.timers.started then world.armed number else world.clock
  begun address handshake :=
    if world.gateway.awaitsAt address handshake = false ∧
        (world.next circumstances parcel).awaitsAt address handshake = true then world.clock
    else world.begun address handshake

inductive Step : World → World → Prop where
  | fire {world : World} {task : Task} (hruns : task ∈ world.gateway.timers.tasks) :
      Step world (world.put task.parcel)
  | arrive {world : World} {envelope : Envelope} (htimeout : envelope.isTimeout = false) :
      Step world (world.put ⟨envelope, .reader⟩)
  | take {world : World} {parcel : Parcel} {queue : Queue} {rest : List Parcel}
      (hidle : world.inHand = none)
      (htake : world.gateway.queue.take? = some (parcel.envelope, queue))
      (hfirst : world.waiting = parcel :: rest) :
      Step world
        { world with
          gateway := { world.gateway with queue }
          waiting := rest
          inHand := some parcel }
  | handle {world : World} {parcel : Parcel} (circumstances : Circumstances)
      (puts : List Parcel) (hhand : world.inHand = some parcel)
      (hordinary : parcel.envelope.isOrdinary = true)
      (hok : (world.gateway.dispatch circumstances parcel.envelope).result = .ok .continue)
      (hduring : world.During circumstances parcel puts) :
      Step world (world.handled circumstances parcel puts)

def begin (gateway : Gateway) : World where
  gateway := gateway
  waiting := []
  inHand := none
  clock := 0
  armed _ := 0
  begun _ _ := 0

/-- Whatever may happen after the uplink was brought up. -/
inductive Reachable (config : Config) : World → Prop where
  | begin {gateway : Gateway} (circumstances : Circumstances)
      (hcreate : Gateway.create config = .ok gateway)
      (hok : (gateway.bootstrap circumstances).2 = .ok ()) :
      Reachable config (begin (gateway.bootstrap circumstances).1.gateway)
  | step {world world' : World} (hreach : Reachable config world) (hstep : Step world world') :
      Reachable config world'

/-! ### The queue and the notes on it -/

/-- The notes are on the envelopes that are on the queue, and no message is in
front of a signal. -/
structure Synced (world : World) : Prop where
  envelopes : world.waiting.map (·.envelope) = world.gateway.queue.toList
  signalsFirst : world.waiting.Pairwise fun first second =>
    second.envelope.isSignal = true → first.envelope.isSignal = true

variable {world world' : World} {parcel : Parcel}

/-- Notes queue up as their envelopes do. -/
theorem map_queueUp {waiting : List Parcel} {queue : Queue} (parcel : Parcel)
    (h : waiting.map (·.envelope) = queue.toList) :
    (queueUp waiting parcel).map (·.envelope) = (queue.put parcel.envelope).toList := by
  rw [Queue.toList_put, ← h]
  unfold queueUp
  split
  · rfl
  · simp

theorem map_foldl_queueUp (puts : List Parcel) {waiting : List Parcel} {queue : Queue}
    (h : waiting.map (·.envelope) = queue.toList) :
    (puts.foldl queueUp waiting).map (·.envelope) =
      ((puts.map (·.envelope)).foldl Queue.put queue).toList := by
  induction puts generalizing waiting queue with
  | nil => exact h
  | cons parcel puts ih => exact ih (map_queueUp parcel h)

theorem mem_queueUp {waiting : List Parcel} {late : Parcel} :
    late ∈ queueUp waiting parcel ↔ late = parcel ∨ late ∈ waiting := by
  unfold queueUp
  split
  · exact List.mem_cons
  · rw [List.mem_append, List.mem_singleton, or_comm]

theorem mem_foldl_queueUp {puts waiting : List Parcel} {late : Parcel} :
    late ∈ puts.foldl queueUp waiting ↔ late ∈ puts ∨ late ∈ waiting := by
  induction puts generalizing waiting with
  | nil => simp
  | cons parcel puts ih =>
    rw [List.foldl_cons, ih, mem_queueUp, List.mem_cons]
    exact or_left_comm.trans or_assoc.symm

/-- A note that comes in leaves the signals in front. -/
theorem signalsFirst_queueUp {waiting : List Parcel} (parcel : Parcel)
    (h : waiting.Pairwise fun first second =>
      second.envelope.isSignal = true → first.envelope.isSignal = true) :
    (queueUp waiting parcel).Pairwise fun first second =>
      second.envelope.isSignal = true → first.envelope.isSignal = true := by
  unfold queueUp
  split
  next hsignal => exact List.pairwise_cons.mpr ⟨fun _ _ _ => hsignal, h⟩
  next hmessage =>
    refine List.pairwise_append.mpr ⟨h, List.pairwise_singleton _ _, ?_⟩
    intro first _ second hsecond hsignal
    rw [List.mem_singleton.mp hsecond] at hsignal
    exact absurd hsignal hmessage

theorem signalsFirst_foldl_queueUp (puts : List Parcel) {waiting : List Parcel}
    (h : waiting.Pairwise fun first second =>
      second.envelope.isSignal = true → first.envelope.isSignal = true) :
    (puts.foldl queueUp waiting).Pairwise fun first second =>
      second.envelope.isSignal = true → first.envelope.isSignal = true := by
  induction puts generalizing waiting with
  | nil => exact h
  | cons parcel puts ih => exact ih (signalsFirst_queueUp parcel h)

theorem synced_put (parcel : Parcel) (h : world.Synced) : (world.put parcel).Synced :=
  ⟨map_queueUp parcel h.envelopes, signalsFirst_queueUp parcel h.signalsFirst⟩

/-- Whatever happens next, the notes stay on their envelopes. -/
theorem synced_step (hstep : Step world world') (h : world.Synced) : world'.Synced := by
  cases hstep with
  | fire hruns => exact synced_put _ h
  | arrive htimeout => exact synced_put _ h
  | take hidle htake hfirst =>
    have hlist := h.envelopes
    rw [hfirst, List.map_cons, Queue.toList_of_take? htake] at hlist
    have hsorted := h.signalsFirst
    rw [hfirst] at hsorted
    exact ⟨(List.cons.inj hlist).2, hsorted.of_cons⟩
  | handle circumstances puts hhand hordinary hok hduring =>
    exact ⟨map_foldl_queueUp puts h.envelopes, signalsFirst_foldl_queueUp puts h.signalsFirst⟩

theorem queue_create {config : Config} {gateway : Gateway}
    (hcreate : Gateway.create config = .ok gateway) : gateway.queue = .empty := by
  unfold Gateway.create at hcreate
  split at hcreate
  · cases hcreate
  · cases hcreate
    rfl

/-- Bringing the uplink up puts nothing on the queue. -/
theorem queue_bootstrap (gateway : Gateway) (circumstances : Circumstances) :
    (gateway.bootstrap circumstances).1.gateway.queue = gateway.queue := by
  have hputs : (gateway.uplink.connect (gateway.uplinkContext circumstances)).1.effects.filterMap
      (·.envelope?) = [] := by
    simp only [Uplink.connect, Uplink.Transition.openBroker, Uplink.Transition.sendBroker,
      Uplink.Transition.closeBroker, Uplink.Transition.useBroker, Uplink.Transition.emitEvent,
      Uplink.Transition.emit, Uplink.Transition.update, Uplink.Transition.start]
    split
    next hopen =>
      rw [← (Prod.mk.inj hopen).2]
      rfl
    next hopen =>
      split
      next hsend =>
        rw [← (Prod.mk.inj hsend).2, ← (Prod.mk.inj hopen).2]
        rfl
      next hsend =>
        rw [← (Prod.mk.inj hsend).2, ← (Prod.mk.inj hopen).2]
        rfl
  unfold Gateway.bootstrap Progress.stepUplink
  simp only
  rw [Progress.performUplink_gateway]
  simp only [Progress.start] at hputs ⊢
  rw [hputs]
  rfl

/-- So they are on their envelopes at all times. -/
theorem reachable_synced {config : Config} (hreach : Reachable config world) : world.Synced := by
  induction hreach with
  | begin circumstances hcreate hok =>
    refine ⟨?_, List.Pairwise.nil⟩
    simp only [begin, queue_bootstrap, queue_create hcreate]
    rfl
  | step hreach hstep ih => exact synced_step hstep ih

/-- Whatever is on the queue can be taken. -/
theorem exists_take {envelope : Envelope} {queue : Queue} (h : world.Synced)
    (hidle : world.inHand = none) (htake : world.gateway.queue.take? = some (envelope, queue)) :
    ∃ parcel world', Step world world' ∧ world'.gateway.queue = queue ∧
      world'.inHand = some parcel ∧ parcel.envelope = envelope := by
  have hlist := h.envelopes
  rw [Queue.toList_of_take? htake] at hlist
  obtain ⟨parcel, rest, hfirst, hparcel, -⟩ := List.map_eq_cons_iff.mp hlist
  exact ⟨parcel, _, .take hidle (hparcel ▸ htake) hfirst, rfl, rfl, hparcel⟩

/-- Whatever the gateway does not fail on can be handled. -/
theorem exists_handle {circumstances : Circumstances} (h : world.gateway.Coherent)
    (hhand : world.inHand = some parcel) (hordinary : parcel.envelope.isOrdinary = true)
    (hok : (world.gateway.dispatch circumstances parcel.envelope).result = .ok .continue) :
    ∃ world', Step world world' ∧ world'.gateway = world.next circumstances parcel := by
  obtain ⟨envelopes, hqueue, -⟩ := (Gateway.dispatch_follows hordinary hok h).queue
  have hown : ((envelopes.map (Parcel.mk · .gateway)).filter (·.origin = .gateway)) =
      envelopes.map (Parcel.mk · .gateway) := by
    simp [List.filter_eq_self]
  have hmap : (envelopes.map (Parcel.mk · .gateway)).map (·.envelope) = envelopes := by
    simp [Function.comp_def]
  refine ⟨_, .handle circumstances (envelopes.map (Parcel.mk · .gateway)) hhand hordinary hok
    ⟨?_, ?_, ?_⟩, ?_⟩
  · rw [hown, hmap]
    exact hqueue
  · intro late hlate horigin
    obtain ⟨envelope, -, rfl⟩ := List.mem_map.mp hlate
    cases horigin
  · intro late hlate number horigin
    obtain ⟨envelope, -, rfl⟩ := List.mem_map.mp hlate
    cases horigin
  · simp only [handled]
    rw [hmap, ← hqueue]
    rfl

end World

end SensorGateway
