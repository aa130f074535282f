import Mathlib.Analysis.Convex.SpecificFunctions.Deriv
import Mathlib.Geometry.Euclidean.Angle.Unoriented.Basic

/-!
# Interpolation between unit vectors

Two unit vectors `a` and `b` of a real inner product space that enclose an angle below `π`.

* `angle_slerp`: spherical interpolation encloses the fraction `t` of the angle with `a`.
* `angle_lerp_eq_iff`: the chord encloses the fraction `t` of the angle only for `t = 1 / 2` inside
  of the segment; before the middle it lags behind (`angle_lerp_lt`), after the middle it is
  ahead (`lt_angle_lerp`).
-/

namespace HandLab.Lib.GreatCircle

open InnerProductGeometry RealInnerProductSpace

variable {E : Type*} [NormedAddCommGroup E] [InnerProductSpace ℝ E] {a b : E} {t : ℝ}

/-! ## Two facts about the sine -/

/-- The chord from the origin to the graph of the sine gets flatter. -/
theorem mul_sin_lt {x y : ℝ} (hx : 0 < x) (hxy : x < y) (hy : y ≤ Real.pi) :
    x * Real.sin y < y * Real.sin x := by
  have hy0 : 0 < y := hx.trans hxy
  have hrest : 0 < 1 - x / y := sub_pos.mpr ((div_lt_one hy0).mpr hxy)
  have hconcave := strictConcaveOn_sin_Icc.2 (Set.left_mem_Icc.mpr Real.pi_pos.le)
    (Set.mem_Icc.mpr ⟨hy0.le, hy⟩) hy0.ne hrest (div_pos hx hy0) (sub_add_cancel 1 (x / y))
  simp only [smul_eq_mul, Real.sin_zero, mul_zero, zero_add, div_mul_cancel₀ x hy0.ne'] at hconcave
  calc x * Real.sin y = y * (x / y * Real.sin y) := by field_simp
    _ < y * Real.sin x := mul_lt_mul_of_pos_left hconcave hy0

/-- The addition formula for the two parts of an angle. -/
theorem sin_parts (φ t : ℝ) :
    Real.sin ((1 - t) * φ) + Real.sin (t * φ) * Real.cos φ = Real.sin φ * Real.cos (t * φ) := by
  have hsplit : (1 - t) * φ = φ - t * φ := by ring
  rw [hsplit, Real.sin_sub]
  ring

/-! ## The great circle -/

/-- The point at the fraction `t` of the arc from `a` to `b`. -/
noncomputable def slerp (a b : E) (t : ℝ) : E :=
  (Real.sin ((1 - t) * angle a b) / Real.sin (angle a b)) • a +
    (Real.sin (t * angle a b) / Real.sin (angle a b)) • b

theorem inner_eq_cos_angle (ha : ‖a‖ = 1) (hb : ‖b‖ = 1) : ⟪a, b⟫ = Real.cos (angle a b) := by
  rw [cos_angle, ha, hb, mul_one, div_one]

theorem inner_slerp (ha : ‖a‖ = 1) (hb : ‖b‖ = 1) (h : Real.sin (angle a b) ≠ 0) :
    ⟪a, slerp a b t⟫ = Real.cos (t * angle a b) := by
  unfold slerp
  rw [inner_add_right, real_inner_smul_right, real_inner_smul_right, real_inner_self_eq_norm_sq,
    ha, inner_eq_cos_angle ha hb]
  have hparts := sin_parts (angle a b) t
  field_simp
  linarith

theorem norm_slerp (ha : ‖a‖ = 1) (hb : ‖b‖ = 1) (h : Real.sin (angle a b) ≠ 0) :
    ‖slerp a b t‖ = 1 := by
  have hself : ⟪slerp a b t, slerp a b t⟫ = 1 := by
    have hinner := inner_slerp (t := t) ha hb h
    have hother : ⟪b, slerp a b t⟫ = Real.cos ((1 - t) * angle a b) := by
      unfold slerp
      rw [inner_add_right, real_inner_smul_right, real_inner_smul_right,
        real_inner_self_eq_norm_sq, hb, real_inner_comm, inner_eq_cos_angle ha hb]
      have hparts := sin_parts (angle a b) (1 - t)
      rw [sub_sub_cancel] at hparts
      field_simp
      linarith
    conv_lhs =>
      arg 2
      rw [slerp]
    rw [inner_add_left, real_inner_smul_left, real_inner_smul_left, hinner, hother]
    have hsum : Real.sin (angle a b) = Real.sin ((1 - t) * angle a b + t * angle a b) := by
      congr 1
      ring
    rw [Real.sin_add] at hsum
    field_simp
    linarith
  rw [real_inner_self_eq_norm_sq] at hself
  exact (pow_eq_one_iff_of_nonneg (norm_nonneg _) two_ne_zero).mp hself

/-- **The arc**: the angle from `a` is the fraction `t` of the whole. -/
theorem angle_slerp (ha : ‖a‖ = 1) (hb : ‖b‖ = 1) (h : Real.sin (angle a b) ≠ 0) (ht : 0 ≤ t)
    (ht1 : t ≤ 1) : angle a (slerp a b t) = t * angle a b := by
  have hnonneg := angle_nonneg a b
  have hle : t * angle a b ≤ Real.pi :=
    (mul_le_of_le_one_left hnonneg ht1).trans (angle_le_pi a b)
  have hangle : angle a (slerp a b t) = Real.arccos ⟪a, slerp a b t⟫ := by
    rw [angle, ha, norm_slerp ha hb h, mul_one, div_one]
  rw [hangle, inner_slerp ha hb h, Real.arccos_cos (mul_nonneg ht hnonneg) hle]

theorem slerp_zero (h : Real.sin (angle a b) ≠ 0) : slerp a b 0 = a := by
  rw [slerp, sub_zero, one_mul, zero_mul, Real.sin_zero, div_self h, zero_div, one_smul, zero_smul,
    add_zero]

theorem slerp_one (h : Real.sin (angle a b) ≠ 0) : slerp a b 1 = b := by
  rw [slerp, sub_self, one_mul, zero_mul, Real.sin_zero, div_self h, zero_div, one_smul, zero_smul,
    zero_add]

/-! ## The chord -/

/-- The point at the fraction `t` of the chord from `a` to `b`. -/
def lerp (a b : E) (t : ℝ) : E := a + t • (b - a)

theorem inner_lerp (ha : ‖a‖ = 1) : ⟪a, lerp a b t⟫ = 1 - t + t * ⟪a, b⟫ := by
  unfold lerp
  rw [inner_add_right, real_inner_smul_right, inner_sub_right, real_inner_self_eq_norm_sq, ha]
  ring

theorem norm_lerp_sq (ha : ‖a‖ = 1) (hb : ‖b‖ = 1) :
    ‖lerp a b t‖ ^ 2 = 1 - 2 * t * (1 - t) * (1 - ⟪a, b⟫) := by
  unfold lerp
  rw [norm_add_sq_real, norm_smul, mul_pow, norm_sub_sq_real, real_inner_smul_right,
    inner_sub_right, real_inner_self_eq_norm_sq, real_inner_comm, ha, hb, Real.norm_eq_abs, sq_abs]
  ring

@[simp] theorem lerp_zero (a b : E) : lerp a b 0 = a := by
  rw [lerp, zero_smul, add_zero]

@[simp] theorem lerp_one (a b : E) : lerp a b 1 = b := by
  rw [lerp, one_smul, add_sub_cancel]

@[simp] theorem lerp_self (a : E) (t : ℝ) : lerp a a t = a := by
  rw [lerp, sub_self, smul_zero, add_zero]

/-- The chord stays away from the origin. -/
theorem half_le_norm_lerp_sq (ha : ‖a‖ = 1) (hb : ‖b‖ = 1) (h : 0 ≤ ⟪a, b⟫) (ht : 0 ≤ t)
    (ht1 : t ≤ 1) : 1 / 2 ≤ ‖lerp a b t‖ ^ 2 := by
  rw [norm_lerp_sq ha hb]
  have hsquare : 0 ≤ (2 * t - 1) ^ 2 := sq_nonneg _
  have hinner : 0 ≤ t * (1 - t) * ⟪a, b⟫ := mul_nonneg (mul_nonneg ht (sub_nonneg.mpr ht1)) h
  nlinarith

/-- The chord seen from the origin. -/
theorem norm_mul_sin_sub (ha : ‖a‖ = 1) (hb : ‖b‖ = 1) (h : lerp a b t ≠ 0) (ht : 0 ≤ t) :
    ‖lerp a b t‖ * Real.sin (t * angle a b - angle a (lerp a b t)) =
      (1 - t) * Real.sin (t * angle a b) - t * Real.sin ((1 - t) * angle a b) := by
  set φ := angle a b with hφ
  set ψ := angle a (lerp a b t) with hψ
  have hcosφ : ⟪a, b⟫ = Real.cos φ := inner_eq_cos_angle ha hb
  have hcos : ‖lerp a b t‖ * Real.cos ψ = 1 - t + t * Real.cos φ := by
    rw [← hcosφ, ← inner_lerp ha, hψ, cos_angle, ha, one_mul,
      mul_div_cancel₀ _ (norm_ne_zero_iff.mpr h)]
  have hsin : ‖lerp a b t‖ * Real.sin ψ = t * Real.sin φ := by
    have hsquares : (‖lerp a b t‖ * Real.sin ψ) ^ 2 = (t * Real.sin φ) ^ 2 := by
      have hnorm := norm_lerp_sq (t := t) ha hb
      have hcosSq : (‖lerp a b t‖ * Real.cos ψ) ^ 2 = (1 - t + t * Real.cos φ) ^ 2 := by rw [hcos]
      rw [hcosφ] at hnorm
      rw [mul_pow, Real.sin_sq, mul_sub, mul_one, ← mul_pow, hcosSq, hnorm, mul_pow, Real.sin_sq]
      ring
    exact (pow_left_inj₀ (mul_nonneg (norm_nonneg _) (sin_angle_nonneg _ _))
      (mul_nonneg ht (sin_angle_nonneg _ _)) two_ne_zero).mp hsquares
  have hparts := sin_parts φ t
  calc ‖lerp a b t‖ * Real.sin (t * φ - ψ)
      = Real.sin (t * φ) * (‖lerp a b t‖ * Real.cos ψ) -
          Real.cos (t * φ) * (‖lerp a b t‖ * Real.sin ψ) := by rw [Real.sin_sub]; ring
    _ = (1 - t) * Real.sin (t * φ) -
          t * (Real.sin φ * Real.cos (t * φ) - Real.sin (t * φ) * Real.cos φ) := by
        rw [hcos, hsin]; ring
    _ = (1 - t) * Real.sin (t * φ) - t * Real.sin ((1 - t) * φ) := by rw [← hparts]; ring

section Chord

variable (ha : ‖a‖ = 1) (hb : ‖b‖ = 1) (hne : lerp a b t ≠ 0) (hpos : 0 < angle a b)
include ha hb hne hpos

/-- Before the middle the chord lags behind the arc. -/
theorem angle_lerp_lt (ht : 0 < t) (ht2 : t < 1 / 2) : angle a (lerp a b t) < t * angle a b := by
  have hsmall : (1 - t) * angle a b ≤ Real.pi :=
    (mul_le_of_le_one_left hpos.le (by linarith)).trans (angle_le_pi a b)
  have hsin := mul_sin_lt (mul_pos ht hpos) (mul_lt_mul_of_pos_right (by linarith) hpos) hsmall
  have hdiff : 0 < ‖lerp a b t‖ * Real.sin (t * angle a b - angle a (lerp a b t)) := by
    rw [norm_mul_sin_sub ha hb hne ht.le]
    nlinarith
  by_contra hle
  have hlow : -Real.pi ≤ t * angle a b - angle a (lerp a b t) := by
    have hmul := mul_pos ht hpos
    linarith [angle_le_pi a (lerp a b t)]
  have hnonpos := Real.sin_nonpos_of_nonpos_of_neg_pi_le (sub_nonpos.mpr (not_lt.mp hle)) hlow
  exact absurd hdiff (not_lt.mpr (mul_nonpos_of_nonneg_of_nonpos (norm_nonneg _) hnonpos))

/-- After the middle the chord is ahead of the arc. -/
theorem lt_angle_lerp (ht : 1 / 2 < t) (ht1 : t < 1) : t * angle a b < angle a (lerp a b t) := by
  have hle : t * angle a b ≤ Real.pi :=
    (mul_le_of_le_one_left hpos.le ht1.le).trans (angle_le_pi a b)
  have hsin := mul_sin_lt (mul_pos (sub_pos.mpr ht1) hpos)
    (mul_lt_mul_of_pos_right (by linarith) hpos) hle
  have hdiff : ‖lerp a b t‖ * Real.sin (t * angle a b - angle a (lerp a b t)) < 0 := by
    rw [norm_mul_sin_sub ha hb hne (by linarith)]
    nlinarith
  by_contra hge
  have hnonneg : 0 ≤ Real.sin (t * angle a b - angle a (lerp a b t)) :=
    Real.sin_nonneg_of_nonneg_of_le_pi (sub_nonneg.mpr (not_lt.mp hge))
      (by linarith [angle_nonneg a (lerp a b t)])
  exact absurd hdiff (not_lt.mpr (mul_nonneg (norm_nonneg _) hnonneg))

/-- In the middle the chord meets the arc. -/
theorem angle_lerp_half (ht : t = 1 / 2) : angle a (lerp a b t) = t * angle a b := by
  have hdiff := norm_mul_sin_sub ha hb hne (by rw [ht]; norm_num)
  have hsame : (1 - t) * Real.sin (t * angle a b) - t * Real.sin ((1 - t) * angle a b) = 0 := by
    rw [ht]
    norm_num
  rw [hsame] at hdiff
  have hzero := (mul_eq_zero.mp hdiff).resolve_left (norm_ne_zero_iff.mpr hne)
  have hlow : -Real.pi < t * angle a b - angle a (lerp a b t) := by
    have hmul := mul_pos (show 0 < t by rw [ht]; norm_num) hpos
    linarith [angle_le_pi a (lerp a b t)]
  have hhigh : t * angle a b - angle a (lerp a b t) < Real.pi := by
    rw [ht]
    linarith [angle_le_pi a b, angle_nonneg a (lerp a b (1 / 2)), Real.pi_pos]
  exact (sub_eq_zero.mp ((Real.sin_eq_zero_iff_of_lt_of_lt hlow hhigh).mp hzero)).symm

/-- **The chord** encloses the fraction `t` of the angle at its ends and in its middle only. -/
theorem angle_lerp_eq_iff (ht : 0 < t) (ht1 : t < 1) :
    angle a (lerp a b t) = t * angle a b ↔ t = 1 / 2 := by
  constructor
  · intro h
    rcases lt_trichotomy t (1 / 2) with hlt | heq | hgt
    · exact absurd h (angle_lerp_lt ha hb hne hpos ht hlt).ne
    · exact heq
    · exact absurd h (lt_angle_lerp ha hb hne hpos hgt ht1).ne'
  · exact angle_lerp_half ha hb hne hpos

end Chord

end HandLab.Lib.GreatCircle
