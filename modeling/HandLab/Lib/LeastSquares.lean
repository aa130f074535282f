import Mathlib.Algebra.BigOperators.Field
import Mathlib.Data.Matrix.Mul
import Mathlib.Tactic.Positivity
import Mathlib.Analysis.Normed.Ring.Lemmas
import Mathlib.Topology.Instances.Real.Lemmas

/-!
# Least squares

The plane of least squared distances to a list of points goes through their centroid, so a
least-squares normal of the centred points gives it.

* `IsLeastSquaresNormal`: what a singular value decomposition returns last.
* `sum_sq_sub_mean_le`: the mean minimizes the sum of the squared deviations.
* `exists_isLeastSquaresNormal`: there is one.
* `IsLeastSquaresNormal.sum_sq_le`: no plane has a smaller sum of squared distances.
* `IsLeastSquaresNormal.exists_near`: where all points are within `t` of some plane, one of
  them is within `t` of this one.
-/

namespace HandLab.Lib

open Matrix

variable {α : Type*} {n : ℕ}

/-- The mean of a function over a list. -/
noncomputable def meanOver (l : List α) (f : α → ℝ) : ℝ := (l.map f).sum / l.length

theorem sum_map_sub_sq (l : List α) (f : α → ℝ) (c : ℝ) :
    (l.map fun a => (f a - c) ^ 2).sum =
      (l.map fun a => f a ^ 2).sum - 2 * c * (l.map f).sum + l.length * c ^ 2 := by
  induction l with
  | nil => simp
  | cons a l ih =>
    simp only [List.map_cons, List.sum_cons, ih, List.length_cons]
    push_cast
    ring

/-- The mean minimizes the sum of the squared deviations. -/
theorem sum_sq_sub_mean_le {l : List α} (h : l ≠ []) (f : α → ℝ) (c : ℝ) :
    (l.map fun a => (f a - meanOver l f) ^ 2).sum ≤ (l.map fun a => (f a - c) ^ 2).sum := by
  have hlength : (0 : ℝ) < l.length := by exact_mod_cast List.length_pos_iff.mpr h
  have hsum : (l.map f).sum = l.length * meanOver l f := by
    unfold meanOver
    field_simp
  rw [sum_map_sub_sq, sum_map_sub_sq, hsum]
  nlinarith [mul_nonneg hlength.le (sq_nonneg (c - meanOver l f))]

/-- If the squares of `f` sum to no more than those of `g`, some value of `f` is no larger than
    the bound of `g`. -/
theorem exists_abs_le_of_sum_sq_le {l : List α} (h : l ≠ []) {f g : α → ℝ} {t : ℝ}
    (hsum : (l.map fun a => f a ^ 2).sum ≤ (l.map fun a => g a ^ 2).sum)
    (hg : ∀ a ∈ l, |g a| ≤ t) : ∃ a ∈ l, |f a| ≤ t := by
  by_contra hfar
  push Not at hfar
  refine absurd hsum (not_le.mpr (List.sum_lt_sum_of_ne_nil h _ _ ?_))
  intro a ha
  exact sq_lt_sq.mpr ((hg a ha).trans_lt (hfar a ha))

/-- A unit vector that minimizes the sum of the squared products with the rows. -/
structure IsLeastSquaresNormal (rows : List (Fin n → ℝ)) (v : Fin n → ℝ) : Prop where
  unit : v ⬝ᵥ v = 1
  least : ∀ w, w ⬝ᵥ w = 1 →
    (rows.map fun row => (row ⬝ᵥ v) ^ 2).sum ≤ (rows.map fun row => (row ⬝ᵥ w) ^ 2).sum

/-- The unit sphere is compact. -/
theorem exists_isLeastSquaresNormal [NeZero n] (rows : List (Fin n → ℝ)) :
    ∃ v, IsLeastSquaresNormal rows v := by
  have hcompact : IsCompact {v : Fin n → ℝ | v ⬝ᵥ v = 1} := by
    refine Metric.isCompact_of_isClosed_isBounded ?_ ?_
    · refine isClosed_eq ?_ continuous_const
      unfold dotProduct
      fun_prop
    · refine (Metric.isBounded_iff_subset_closedBall 0).mpr ⟨1, ?_⟩
      intro v hv
      rw [mem_closedBall_zero_iff, pi_norm_le_iff_of_nonneg zero_le_one]
      intro i
      rw [Real.norm_eq_abs, ← sq_le_one_iff_abs_le_one, ← hv.out, pow_two]
      exact Finset.single_le_sum (f := fun j => v j * v j) (fun j _ => mul_self_nonneg (v j))
        (Finset.mem_univ i)
  have hnonempty : {v : Fin n → ℝ | v ⬝ᵥ v = 1}.Nonempty := ⟨Pi.single 0 1, by simp⟩
  have hcontinuous : Continuous fun v : Fin n → ℝ =>
      (rows.map fun row => (row ⬝ᵥ v) ^ 2).sum := by
    refine continuous_list_sum rows fun row _ => ?_
    unfold dotProduct
    fun_prop
  obtain ⟨v, hv, hleast⟩ := hcompact.exists_isMinOn hnonempty hcontinuous.continuousOn
  exact ⟨v, hv, fun w hw => hleast hw⟩

/-- The centroid of a list of points. -/
noncomputable def centroid (points : List (Fin n → ℝ)) : Fin n → ℝ :=
  fun i => meanOver points fun p => p i

theorem centroid_dotProduct (points : List (Fin n → ℝ)) (w : Fin n → ℝ) :
    centroid points ⬝ᵥ w = meanOver points fun p => p ⬝ᵥ w := by
  have hsum : ∀ l : List (Fin n → ℝ),
      ∑ i, (l.map fun p => p i).sum * w i = (l.map fun p => p ⬝ᵥ w).sum := by
    intro l
    induction l with
    | nil => simp
    | cons p l ih =>
      simp only [List.map_cons, List.sum_cons, add_mul, Finset.sum_add_distrib, ih]
      rfl
  calc centroid points ⬝ᵥ w
      = ∑ i, (points.map fun p => p i).sum * w i / points.length := by
        simp only [dotProduct, centroid, meanOver, div_mul_eq_mul_div]
    _ = meanOver points fun p => p ⬝ᵥ w := by
        rw [← Finset.sum_div, hsum]
        rfl

namespace IsLeastSquaresNormal

variable {points : List (Fin n → ℝ)} {v : Fin n → ℝ}

/-- No plane has a smaller sum of squared distances. -/
theorem sum_sq_le (hpoints : points ≠ [])
    (h : IsLeastSquaresNormal (points.map fun p => p - centroid points) v) {w : Fin n → ℝ}
    (hw : w ⬝ᵥ w = 1) (offset : ℝ) :
    (points.map fun p => (p ⬝ᵥ v - centroid points ⬝ᵥ v) ^ 2).sum ≤
      (points.map fun p => (p ⬝ᵥ w + offset) ^ 2).sum := by
  have hleast := h.least w hw
  simp only [List.map_map, Function.comp_def, sub_dotProduct] at hleast
  have hmean := sum_sq_sub_mean_le hpoints (fun p => p ⬝ᵥ w) (-offset)
  rw [← centroid_dotProduct] at hmean
  simp only [sub_neg_eq_add] at hmean
  exact hleast.trans hmean

theorem exists_near (hpoints : points ≠ [])
    (h : IsLeastSquaresNormal (points.map fun p => p - centroid points) v) {w : Fin n → ℝ}
    (hw : w ⬝ᵥ w = 1) {offset t : ℝ} (hnear : ∀ p ∈ points, |p ⬝ᵥ w + offset| ≤ t) :
    ∃ p ∈ points, |p ⬝ᵥ v - centroid points ⬝ᵥ v| ≤ t :=
  exists_abs_le_of_sum_sq_le hpoints (h.sum_sq_le hpoints hw offset) hnear

/-- The opposite vector is as good. -/
theorem neg {rows : List (Fin n → ℝ)} (h : IsLeastSquaresNormal rows v) :
    IsLeastSquaresNormal rows (-v) where
  unit := by simpa using h.unit
  least w hw := by simpa using h.least w hw

end IsLeastSquaresNormal

end HandLab.Lib
