/-!
# Computations that may fail

Reading a track and resolving credentials are sequences of steps in `Except`, each of which may
stop the sequence with its error. The lemmas here say when such a sequence succeeds (every step
does, in turn) and which error it stops with (the first step's that fails), so that the
theorems about the readers split on the steps' outcomes and never unfold `bind`.
-/

namespace Scrobbler

namespace Except

variable {ε α β : Type}

/-- A sequence succeeds exactly when its first step does and the rest succeeds after it. -/
theorem bind_eq_ok_iff {x : Except ε α} {f : α → Except ε β} {b : β} :
    x >>= f = .ok b ↔ ∃ a, x = .ok a ∧ f a = .ok b := by
  cases x <;> simp [bind, Except.bind]

/-- A sequence fails with the error of its first step, or with that of the rest. -/
theorem bind_eq_error_iff {x : Except ε α} {f : α → Except ε β} {e : ε} :
    x >>= f = .error e ↔ x = .error e ∨ ∃ a, x = .ok a ∧ f a = .error e := by
  cases x <;> simp [bind, Except.bind]

theorem pure_eq (a : α) : (pure a : Except ε α) = .ok a := rfl

theorem throw_eq (e : ε) : (throw e : Except ε α) = .error e := rfl

theorem pure_eq_ok_iff {a b : α} : (pure a : Except ε α) = .ok b ↔ a = b := by
  simp [pure, Except.pure]

theorem pure_ne_error {a : α} {e : ε} : (pure a : Except ε α) ≠ .error e := by
  simp [pure, Except.pure]

/-- The error of an outcome, if it is one. -/
def problem : Except ε α → Option ε
  | .error e => some e
  | .ok _ => none

@[simp] theorem problem_eq_some_iff {x : Except ε α} {e : ε} : problem x = some e ↔ x = .error e := by
  cases x <;> simp [problem]

end Except

end Scrobbler
