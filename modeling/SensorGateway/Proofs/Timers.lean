import Mathlib.Data.List.Nodup
import SensorGateway.Timers

/-!
The timers seen from one address: which tasks run for it, and what they signal.
Whatever is started or ended for one address makes no difference to another.
-/

namespace SensorGateway.Timers

def tasksAt (timers : Timers) (address : Address) : List Task :=
  timers.tasks.filter (·.timer.address.same address)

def signalsAt (timers : Timers) (address : Address) : List Signal :=
  (timers.tasksAt address).map (·.timer.signal)

variable {timers : Timers} {address other : Address} {signal : Signal}

theorem mem_tasksAt {task : Task} :
    task ∈ timers.tasksAt address ↔
      task ∈ timers.tasks ∧ task.timer.address.same address = true := List.mem_filter

/-- Timers for an address are counted by their signals. -/
theorem count_eq (timers : Timers) (address : Address) (signal : Signal) :
    timers.count address signal = (timers.signalsAt address).count signal := by
  simp only [count, signalsAt, tasksAt, List.count, List.countP_map, List.countP_filter]
  congr 1
  funext task
  simp [Timer.isFor, Bool.and_comm]

theorem isRegistered_iff (timers : Timers) (address : Address) (signal : Signal) :
    timers.isRegistered address signal = true ↔ signal ∈ timers.signalsAt address := by
  simp [isRegistered, signalsAt, tasksAt, Timer.isFor, and_assoc]

/-- Addresses of one device have the same tasks. -/
theorem tasksAt_congr (h : address.same other = true) :
    timers.tasksAt address = timers.tasksAt other := by
  unfold tasksAt
  congr 1
  funext task
  exact Address.same_congr h _

theorem signalsAt_congr (h : address.same other = true) :
    timers.signalsAt address = timers.signalsAt other := by
  unfold signalsAt
  rw [tasksAt_congr h]

theorem tasksAt_schedule (timers : Timers) (timer : Timer) (other : Address) :
    (timers.schedule timer).tasksAt other =
      timers.tasksAt other ++
        if timer.address.same other then [⟨timers.started, timer⟩] else [] := by
  simp only [tasksAt, schedule, List.filter_append]
  cases h : timer.address.same other <;> simp [h]

theorem tasksAt_cancel (timers : Timers) (ends : Timer → Bool) (other : Address) :
    (timers.cancel ends).2.tasksAt other =
      (timers.tasksAt other).filter fun task => !ends task.timer := by
  simp only [tasksAt, cancel, List.filter_filter, Bool.and_comm]

theorem tasksAt_register_other {timer : Timer} (h : timer.address.same other = false) :
    (timers.register timer).2.tasksAt other = timers.tasksAt other := by
  unfold register
  split
  · rfl
  · rw [tasksAt_schedule, h]
    simp

/-- Ending tasks for one address leaves those for another alone. -/
theorem tasksAt_cancel_other {ends : Timer → Bool} (h : address.same other = false)
    (hends : ∀ timer, ends timer = true → timer.address.same address = true) :
    (timers.cancel ends).2.tasksAt other = timers.tasksAt other := by
  rw [tasksAt_cancel, List.filter_eq_self]
  intro task htask
  have hother := (mem_tasksAt.mp htask).2
  cases hends' : ends task.timer with
  | false => rfl
  | true =>
    have hsame := Address.same_congr (hends _ hends') other
    rw [Address.same_comm other, hother, Address.same_comm other, h] at hsame
    cases hsame

/-- A timer that runs already is not started again. -/
theorem signalsAt_register {timer : Timer} (h : timer.address.same other = true) :
    (timers.register timer).2.signalsAt other =
      if timer.signal ∈ timers.signalsAt other then timers.signalsAt other
      else timers.signalsAt other ++ [timer.signal] := by
  have hregistered := isRegistered_iff timers timer.address timer.signal
  rw [signalsAt_congr h] at hregistered
  unfold register
  by_cases hin : timer.signal ∈ timers.signalsAt other
  · rw [if_pos (hregistered.mpr hin), if_pos hin]
  · rw [if_neg (mt hregistered.mp hin), if_neg hin]
    simp [signalsAt, tasksAt_schedule, h]

theorem signalsAt_unregister (h : address.same other = true) :
    (timers.unregister address signal).2.signalsAt other =
      (timers.signalsAt other).filter (· != signal) := by
  simp only [signalsAt, unregister, tasksAt_cancel, List.filter_map]
  congr 1
  apply List.filter_congr
  intro task htask
  have hsame : task.timer.address.same address = true := by
    rw [Address.same_congr h]
    exact (mem_tasksAt.mp htask).2
  simp [Timer.isFor, hsame, bne]

theorem signalsAt_unregisterAll (h : address.same other = true) :
    (timers.unregisterAll address).2.signalsAt other = [] := by
  simp only [signalsAt, unregisterAll, tasksAt_cancel, List.map_eq_nil_iff, List.filter_eq_nil_iff]
  intro task htask
  rw [Address.same_congr h, (mem_tasksAt.mp htask).2]
  simp

/-! ### Numbers -/

structure Numbered (timers : Timers) : Prop where
  below : ∀ task ∈ timers.tasks, task.number < timers.started
  increasing : timers.tasks.Pairwise fun first second => first.number < second.number

/-- Some timers that came from others: what runs ran before, or has a number
that was not given before. -/
structure Follows (before after : Timers) : Prop where
  numbered : before.Numbered → after.Numbered
  started : before.started ≤ after.started
  mem : ∀ task ∈ after.tasks, task ∈ before.tasks ∨ before.started ≤ task.number

theorem Follows.refl (timers : Timers) : Follows timers timers :=
  ⟨id, Nat.le_refl _, fun _ htask => .inl htask⟩

theorem Follows.trans {before between after : Timers} (h : Follows before between)
    (h' : Follows between after) : Follows before after := by
  refine ⟨h'.numbered ∘ h.numbered, Nat.le_trans h.started h'.started, ?_⟩
  intro task htask
  rcases h'.mem task htask with hbetween | hnew
  · exact h.mem task hbetween
  · exact .inr (Nat.le_trans h.started hnew)

theorem follows_schedule (timers : Timers) (timer : Timer) :
    Follows timers (timers.schedule timer) := by
  refine ⟨fun h => ⟨?_, ?_⟩, Nat.le_succ _, ?_⟩
  · intro task htask
    rcases List.mem_append.mp htask with hold | hnew
    · exact Nat.lt_succ_of_lt (h.below task hold)
    · rw [List.mem_singleton.mp hnew]
      exact Nat.lt_succ_self _
  · refine List.pairwise_append.mpr ⟨h.increasing, List.pairwise_singleton _ _, ?_⟩
    intro first hfirst second hsecond
    rw [List.mem_singleton.mp hsecond]
    exact h.below first hfirst
  · intro task htask
    rcases List.mem_append.mp htask with hold | hnew
    · exact .inl hold
    · rw [List.mem_singleton.mp hnew]
      exact .inr (Nat.le_refl _)

/-- Timers that are started get numbers of their own. -/
theorem follows_register (timers : Timers) (timer : Timer) :
    Follows timers (timers.register timer).2 := by
  unfold register
  split
  · exact .refl timers
  · exact follows_schedule timers timer

theorem follows_cancel (timers : Timers) (ends : Timer → Bool) :
    Follows timers (timers.cancel ends).2 :=
  ⟨fun h => ⟨fun task htask => h.below task (List.mem_filter.mp htask).1,
      h.increasing.sublist List.filter_sublist⟩,
    Nat.le_refl _, fun _ htask => .inl (List.mem_filter.mp htask).1⟩

def Keeps (before after : Timers) : Prop :=
  ∀ number, before.started ≤ number → number < after.started →
    ∃ task ∈ after.tasks, task.number = number

/-- Where nothing was started there is nothing to keep. -/
theorem keeps_of_started {before after : Timers} (h : after.started = before.started) :
    Keeps before after := by
  intro number hstarted hnumber
  rw [h] at hnumber
  exact absurd hstarted (Nat.not_le.mpr hnumber)

theorem keeps_schedule (timers : Timers) (timer : Timer) :
    Keeps timers (timers.schedule timer) := by
  intro number hstarted hnumber
  have hlast : timers.started = number := Nat.le_antisymm hstarted (Nat.le_of_lt_succ hnumber)
  exact ⟨⟨timers.started, timer⟩, List.mem_append_right _ (List.mem_singleton.mpr rfl), hlast⟩

/-- A timer that is started is not ended by that. -/
theorem keeps_register (timers : Timers) (timer : Timer) :
    Keeps timers (timers.register timer).2 := by
  unfold register
  split
  · exact keeps_of_started rfl
  · exact keeps_schedule timers timer

/-- A number belongs to one task only. -/
theorem Numbered.eq_of_number (h : timers.Numbered) {task task' : Task}
    (htask : task ∈ timers.tasks) (htask' : task' ∈ timers.tasks)
    (hnumber : task.number = task'.number) : task = task' := by
  have hapart : (timers.tasks.map (·.number)).Nodup :=
    List.pairwise_map.mpr (h.increasing.imp Nat.ne_of_lt)
  exact List.inj_on_of_nodup_map hapart htask htask' hnumber

end SensorGateway.Timers
