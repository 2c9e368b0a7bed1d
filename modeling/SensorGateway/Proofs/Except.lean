/-!
The readers and writers of both wire formats are chains of steps that can fail.
Such a chain succeeds if every step does, and what it fails with is what one of
its steps fails with.
-/

namespace Except

variable {ε α β : Type}

theorem bind_eq_ok {step : Except ε α} {next : α → Except ε β} {result : β} :
    step >>= next = .ok result ↔ ∃ value, step = .ok value ∧ next value = .ok result := by
  cases step with
  | error error => simp [bind, Except.bind]
  | ok value => simp [bind, Except.bind]

theorem bind_eq_error {step : Except ε α} {next : α → Except ε β} {error : ε} :
    step >>= next = .error error ↔
      step = .error error ∨ ∃ value, step = .ok value ∧ next value = .error error := by
  cases step with
  | error other => simp [bind, Except.bind]
  | ok value => simp [bind, Except.bind]

/-- A chain that goes on after a step from which nothing is taken. -/
theorem seq_eq_ok {step : Except ε Unit} {next : Unit → Except ε β} {result : β} :
    step >>= next = .ok result ↔ step = .ok () ∧ next () = .ok result := by
  cases step with
  | error error => simp [bind, Except.bind]
  | ok value => simp [bind, Except.bind]

theorem throw_bind (error : ε) (next : α → Except ε β) :
    (throw error >>= next) = .error error :=
  rfl

/-- A check that a chain goes on after. -/
theorem ite_error_eq_ok {p : Prop} [Decidable p] {error : ε} {step : Except ε α} {result : α} :
    (if p then .error error else step) = .ok result ↔ ¬ p ∧ step = .ok result := by
  split
  next hp => simp [hp]
  next hp => simp [hp]

theorem map_eq_ok {step : Except ε α} {f : α → β} {result : β} :
    step.map f = .ok result ↔ ∃ value, step = .ok value ∧ f value = result := by
  cases step with
  | error error => simp [Except.map]
  | ok value => simp [Except.map]

theorem map_eq_error {step : Except ε α} {f : α → β} {error : ε} :
    step.map f = .error error ↔ step = .error error := by
  cases step with
  | error other => simp [Except.map]
  | ok value => simp [Except.map]

/-- What holds of the results of both branches holds of every result. -/
theorem of_ite_eq_ok {p : Prop} [Decidable p] {step other : Except ε α} {P : α → Prop}
    (hstep : p → ∀ value, step = .ok value → P value)
    (hother : ∀ value, other = .ok value → P value) :
    ∀ value, (if p then step else other) = .ok value → P value := by
  intro value h
  split at h
  next hp => exact hstep hp value h
  · exact hother value h

end Except
