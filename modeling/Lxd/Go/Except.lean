import Mathlib.Data.List.Basic

/-!
# Go's error returns as `Except`

A Go function returning `(T, error)` is a Lean function into `Except`: a non-nil error is
`.error`, and the value with a nil error is `.ok`. These are the facts about `Except` that the
handlers' proofs use: how a `do` block of steps succeeds, and that wrapping an error leaves a
success alone.
-/

namespace Lxd

namespace Go

variable {ε ε' α β : Type}

/-- A `do` block succeeds exactly when its first step does and the rest succeeds after it. -/
theorem bind_eq_ok {x : Except ε α} {f : α → Except ε β} {b : β} :
    x >>= f = .ok b ↔ ∃ a, x = .ok a ∧ f a = .ok b := by
  cases x <;> simp [bind, Except.bind]

theorem mapError_eq_ok {x : Except ε α} {g : ε → ε'} {a : α} :
    x.mapError g = .ok a ↔ x = .ok a := by
  cases x <;> simp [Except.mapError]

theorem toOption_eq_some {x : Except ε α} {a : α} : x.toOption = some a ↔ x = .ok a := by
  cases x <;> simp [Except.toOption]

/-- A result returned as a pointer is never nil. -/
theorem map_some_ne_none (x : Except ε α) : x.map some ≠ .ok none := by
  cases x <;> simp [Except.map]

theorem eq_of_map_some {x : Except ε α} {v : α} (h : x.map some = .ok (some v)) : x = .ok v := by
  cases x <;> simp_all [Except.map]

end Go

end Lxd
