import HandLab.QuestJaka.Se3
import Mathlib.Analysis.InnerProductSpace.PiL2

/-!
# The quaternions of the mapper in exact arithmetic

What `normalize_quaternion_xyzw` and `align_quaternion_sign` (`src/quest_jaka_sim/se3.py`) do on
`ℝ`, where NumPy's `norm` and `dot` are those of the Euclidean space.
-/

namespace HandLab.QuestJaka

open HandLab.Lib RealInnerProductSpace
open HandLab.Teleoperation (Vector3 QuaternionXyzw Pose3D allFinite negated)

/-- The tuple as a vector of the Euclidean space. -/
abbrev vec {n : ℕ} (v : Fin n → ℝ) : EuclideanSpace ℝ (Fin n) := WithLp.toLp 2 v

theorem norm_eq_norm {n : ℕ} (v : Fin n → ℝ) : (NumPy.norm v : ℝ) = ‖vec v‖ := by
  rw [NumPy.norm_real, EuclideanSpace.norm_eq]
  simp [pow_two]

theorem dot_eq_inner {n : ℕ} (v w : Fin n → ℝ) : (NumPy.dot v w : ℝ) = ⟪vec v, vec w⟫ := by
  rw [NumPy.dot_real, PiLp.inner_apply]
  exact Finset.sum_congr rfl fun i _ => (mul_comm (v i) (w i)).trans rfl

@[simp] theorem allFinite_real {n : ℕ} (v : Fin n → ℝ) : allFinite v = true := by
  simp [allFinite]

def IsUnitQuaternion (q : QuaternionXyzw ℝ) : Prop := ‖vec q‖ = 1

theorem normalizeQuaternionXyzw_eq {q : QuaternionXyzw ℝ} (h : 1 / 10 ^ 9 ≤ ‖vec q‖) :
    normalizeQuaternionXyzw q = some (‖vec q‖⁻¹ • q) := by
  have hnorm : ¬‖vec q‖ < ((1 / 10 ^ 9 : ℚ) : ℝ) := by
    push_cast
    exact not_lt.mpr h
  unfold normalizeQuaternionXyzw
  rw [allFinite_real, Bool.not_true, if_neg Bool.false_ne_true, norm_eq_norm, Exact.lt_eq,
    Exact.ofRat_eq, decide_eq_false hnorm, if_neg Bool.false_ne_true]
  refine congrArg some (funext fun i => ?_)
  rw [Exact.div_eq, Pi.smul_apply, smul_eq_mul, div_eq_inv_mul]

theorem vec_smul {n : ℕ} (c : ℝ) (v : Fin n → ℝ) : vec (c • v) = c • vec v := rfl

theorem vec_neg {n : ℕ} (v : Fin n → ℝ) : vec (-v) = -vec v := rfl

namespace IsUnitQuaternion

variable {q r : QuaternionXyzw ℝ}

theorem normalized (h : IsUnitQuaternion q) : normalizeQuaternionXyzw q = some q := by
  unfold IsUnitQuaternion at h
  have hlarge : (1 / 10 ^ 9 : ℝ) ≤ ‖vec q‖ := by
    rw [h]
    norm_num
  rw [normalizeQuaternionXyzw_eq hlarge, h, inv_one, one_smul]

theorem neg (h : IsUnitQuaternion q) : IsUnitQuaternion (-q) := by
  unfold IsUnitQuaternion
  rw [vec_neg, norm_neg]
  exact h

theorem smul_inv {v : QuaternionXyzw ℝ} (h : vec v ≠ 0) : IsUnitQuaternion (‖vec v‖⁻¹ • v) := by
  unfold IsUnitQuaternion
  rw [vec_smul, norm_smul, norm_inv, norm_norm, inv_mul_cancel₀ (norm_ne_zero_iff.mpr h)]

theorem abs_inner_le (hq : IsUnitQuaternion q) (hr : IsUnitQuaternion r) :
    |⟪vec q, vec r⟫| ≤ 1 := by
  have h := abs_real_inner_le_norm (vec q) (vec r)
  rwa [hq, hr, mul_one] at h

end IsUnitQuaternion

/-- The representative of a rotation on the side of another. -/
theorem alignQuaternionSign_eq {q r : QuaternionXyzw ℝ} (hq : IsUnitQuaternion q)
    (hr : IsUnitQuaternion r) : ∃ aligned, alignQuaternionSign q r = some aligned ∧
      (aligned = q ∨ aligned = -q) ∧ IsUnitQuaternion aligned ∧
      ⟪vec r, vec aligned⟫ = |⟪vec r, vec q⟫| := by
  have heq : alignQuaternionSign q r =
      some (if ⟪vec q, vec r⟫ < 0 then -q else q) := by
    have hneg : (fun i => negated (q i)) = -q := by
      funext i
      simp [negated]
    unfold alignQuaternionSign
    rw [hq.normalized, hr.normalized]
    simp only [Option.bind_eq_bind, Option.bind_some, Option.pure_def]
    rw [dot_eq_inner, Exact.lt_eq, Exact.zero_eq, hneg]
    simp only [decide_eq_true_eq]
  rw [heq]
  by_cases h : ⟪vec q, vec r⟫ < 0
  · rw [if_pos h]
    refine ⟨-q, rfl, .inr rfl, hq.neg, ?_⟩
    rw [real_inner_comm] at h
    rw [vec_neg, inner_neg_right, abs_of_neg h]
  · rw [if_neg h]
    refine ⟨q, rfl, .inl rfl, hq, ?_⟩
    rw [real_inner_comm] at h
    rw [abs_of_nonneg (not_lt.mp h)]

/-- A pose with a unit quaternion passes the check of `Pose6D`. -/
theorem makePose6D_unit {position : Vector3 ℝ} {q : QuaternionXyzw ℝ} (h : IsUnitQuaternion q) :
    makePose6D position q = some ⟨position, q⟩ := by
  have hlength : (NumPy.sqrt (tupleSum fun i => Double.mul (q i) (q i)) : ℝ) = 1 := by
    rw [tupleSum_real, ← h, ← norm_eq_norm, NumPy.norm_real]
    rfl
  unfold makePose6D
  rw [hlength, allFinite_real, allFinite_real]
  norm_num

end HandLab.QuestJaka
