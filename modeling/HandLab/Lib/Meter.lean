import Mathlib.Algebra.BigOperators.Group.List.Basic
import Mathlib.Algebra.Order.Ring.Defs
import Mathlib.Tactic.Linarith
import Mathlib.Tactic.NormNum
import Mathlib.Tactic.Ring

/-!
# Metering with a tolerance

A meter counts amounts against a budget. An amount that the tolerance covers may
pass without being counted, and any other is at most what is left. `Metered`
bounds the sum of the amounts since the counter was emptied: it exceeds the
budget by at most one tolerance for each amount.
-/

namespace HandLab.Lib

variable {R : Type*} [CommRing R] [LinearOrder R]

/-- The amounts `steps` stay within the budget and within the counter, up to a
    tolerance for each. -/
structure Metered (tolerance budget counter : R) (steps : List R) : Prop where
  within : steps.sum ≤ budget + steps.length * tolerance
  counted : steps.sum ≤ counter + steps.length * tolerance

namespace Metered

variable {tolerance budget counter : R} {steps : List R}

theorem empty (hb : 0 ≤ budget) : Metered tolerance budget 0 [] := by
  constructor <;> simp [hb]

variable [IsStrictOrderedRing R]

/-- The counter may grow for other reasons. -/
theorem mono {counter' : R} (h : Metered tolerance budget counter steps)
    (hc : counter ≤ counter') : Metered tolerance budget counter' steps :=
  ⟨h.within, h.counted.trans (by gcongr)⟩

/-- One more amount, small or within what is left, and counted unless small. -/
theorem cons {counter' x : R} (h : Metered tolerance budget counter steps) (ht : 0 ≤ tolerance)
    (hx : x ≤ tolerance ∨ x ≤ max 0 (budget - counter))
    (hc : counter + x ≤ counter' ∨ counter ≤ counter' ∧ x ≤ tolerance) :
    Metered tolerance budget counter' (x :: steps) := by
  have hlength : ((x :: steps).length : R) * tolerance = steps.length * tolerance + tolerance := by
    rw [List.length_cons, Nat.cast_succ, add_mul, one_mul]
  constructor
  · rw [List.sum_cons, hlength]
    rcases hx with hx | hx
    · linarith [h.within]
    · rcases max_choice 0 (budget - counter) with hm | hm
      · linarith [h.within]
      · linarith [h.counted]
  · rw [List.sum_cons, hlength]
    rcases hc with hc | ⟨hc, hx⟩
    · linarith [h.counted]
    · linarith [h.counted]

end Metered

end HandLab.Lib
