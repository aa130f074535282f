import HandLab.Lib.RealMath
import HandLab.Shaper.Braking
import Mathlib.Tactic.Positivity

/-!
# The neutralizing planner in real numbers

`PlanAccelerationNeutralizedBrakeAxis` (`native/teleop_shaping/src/`
`reference_joint_shaper.cpp`, lines 269–420) in exact real arithmetic. Of an axis that moves
within its dynamic limits, the later phases always stop it within these limits
(`checkResidual`); the planner only fails where the velocity grows beyond its limit while the
stored acceleration is ramped down.

* `neutralize_none_iff`: when the planner succeeds.
-/

namespace HandLab.Shaper

open HandLab.Lib HandLab.CommandAbi Double CMath

/-! ## Motion in real numbers -/

section Motion

@[simp] theorem numericalEpsilon_real : (numericalEpsilon : ℝ) = 1e-12 := by
  simp only [numericalEpsilon, Exact.ofRat_eq]
  norm_num

variable (jerk t : ℝ) (a : AxisState ℝ)

theorem integrate_velocity : (integrateConstantJerk jerk t a).velocity =
    a.velocity + (a.acceleration * t + jerk * t * t / 2) := by
  simp only [integrateConstantJerk, Exact.add_eq, Exact.mul_eq, Exact.ofRat_eq]
  push_cast
  ring

theorem integrate_acceleration : (integrateConstantJerk jerk t a).acceleration =
    a.acceleration + jerk * t := by
  simp [integrateConstantJerk]

theorem clip_real (value magnitude : ℝ) :
    clip value magnitude = Max.max (-magnitude) (Min.min magnitude value) := by
  rw [clip, Exact.max_eq, Exact.min_eq, Exact.neg_real]

theorem abs_clip_le {magnitude : ℝ} (h : 0 ≤ magnitude) (value : ℝ) :
    |clip value magnitude| ≤ magnitude := by
  rw [clip_real, abs_le]
  exact ⟨le_max_left _ _, max_le (by linarith) (min_le_left _ _)⟩

end Motion

/-! ## The neutralizing planner -/

structure AxisLimits.Dynamic (limits : AxisLimits ℝ) (a : AxisState ℝ) : Prop where
  velocity_pos : 0 < limits.maximumVelocity
  acceleration_pos : 0 < limits.maximumAcceleration
  jerk_pos : 0 < limits.maximumJerk
  velocity_le : |a.velocity| ≤ limits.maximumVelocity
  acceleration_le : |a.acceleration| ≤ limits.maximumAcceleration

/-- The velocity that is left when the stored acceleration has been ramped down. -/
noncomputable def velocityLeft (limits : AxisLimits ℝ) (a : AxisState ℝ) : ℝ :=
  a.velocity + a.acceleration * |a.acceleration| / (2 * limits.maximumJerk)

/-- The velocity stays within its limit while the stored acceleration is ramped down. An
    acceleration of at most `kNumericalEpsilon` is not ramped down: there the
    planner decides. -/
def Neutralizable (limits : AxisLimits ℝ) (a : AxisState ℝ) : Prop :=
  if a.acceleration = 0 ∨ 1e-12 < |a.acceleration| then
    |velocityLeft limits a| ≤ limits.maximumVelocity + 1e-10
  else (planAccelerationNeutralizedBrakeAxis limits a).2 = none

section Neutralize

variable {limits : AxisLimits ℝ} {a : AxisState ℝ}

theorem residualPhases_spec (hacceleration : 0 < limits.maximumAcceleration)
    (hjerk : 0 < limits.maximumJerk) {residual : ℝ} (hresidual : 1e-10 < |residual|)
    (plan : BrakeAxis ℝ) :
    ∃ sign ramp hold : ℝ, sign * |residual| = residual ∧ |sign| = 1 ∧ 0 ≤ ramp ∧ 0 ≤ hold ∧
      limits.maximumJerk * ramp ≤ limits.maximumAcceleration ∧
      limits.maximumJerk * ramp * ramp + limits.maximumJerk * ramp * hold = |residual| ∧
      residualPhases limits residual plan = { plan with
        durationS := ![plan.durationS 0, ramp, hold, ramp]
        jerkRadS3 := ![plan.jerkRadS3 0, -sign * limits.maximumJerk, 0,
          sign * limits.maximumJerk] } := by
  set J := limits.maximumJerk with hJ
  set A := limits.maximumAcceleration with hA
  have hspeed : 0 < |residual| := lt_trans (by norm_num) hresidual
  have hnotrivial : (lt numericalEpsilon (Double.abs residual) : Bool) = true := by
    simp only [numericalEpsilon_real, Exact.lt_eq, Exact.abs_eq, decide_eq_true_eq]
    refine lt_trans ?_ hresidual
    norm_num
  have hsign : (if residual < 0 then -|(1 : ℝ)| else |1|) * |residual| = residual ∧
      |(if residual < 0 then -|(1 : ℝ)| else |1| : ℝ)| = 1 := by
    rcases lt_or_ge residual 0 with h | h
    · rw [if_pos h, abs_of_neg h]
      simp
    · rw [if_neg (not_lt.mpr h), abs_of_nonneg h]
      simp
  have hsquare : Real.sqrt (J * |residual|) * Real.sqrt (J * |residual|) = J * |residual| :=
    Real.mul_self_sqrt (by positivity)
  by_cases hpeak : Real.sqrt (J * |residual|) ≤ A
  · refine ⟨_, Real.sqrt (J * |residual|) / J, 0, hsign.1, hsign.2, by positivity, le_rfl,
      ?_, ?_, ?_⟩
    · rw [mul_div_cancel₀ _ hjerk.ne']
      exact hpeak
    · rw [mul_div_cancel₀ _ hjerk.ne', mul_zero, add_zero, mul_div_assoc', hsquare,
        mul_div_cancel_left₀ _ hjerk.ne']
    · unfold residualPhases
      rw [if_pos hnotrivial]
      simp only [Exact.mul_eq, Exact.abs_eq, Exact.sqrt_real, Exact.le_eq, Exact.div_eq,
        Exact.sub_eq, Exact.zero_eq, Exact.neg_real, Exact.copysign_real, Exact.ofRat_eq,
        Rat.cast_one, ← hJ, ← hA, hpeak, decide_true, if_true]
  · have hlarge : A * A < J * |residual| := by
      rw [← hsquare]
      exact mul_self_lt_mul_self hacceleration.le (not_le.mp hpeak)
    have hhold : 0 ≤ (|residual| - A * A / J) / A := by
      refine div_nonneg (sub_nonneg.mpr ?_) hacceleration.le
      rw [div_le_iff₀ hjerk]
      linarith
    refine ⟨_, A / J, (|residual| - A * A / J) / A, hsign.1, hsign.2, by positivity, hhold,
      ?_, ?_, ?_⟩
    · rw [mul_div_cancel₀ _ hjerk.ne']
    · rw [mul_div_cancel₀ _ hjerk.ne', mul_div_cancel₀ _ hacceleration.ne']
      ring
    · unfold residualPhases
      rw [if_pos hnotrivial]
      simp only [Exact.mul_eq, Exact.abs_eq, Exact.sqrt_real, Exact.le_eq, Exact.div_eq,
        Exact.sub_eq, Exact.zero_eq, Exact.neg_real, Exact.copysign_real, Exact.ofRat_eq,
        Rat.cast_one, ← hJ, ← hA, hpeak, decide_false, if_false, Bool.false_eq_true]

/-- A phase within the limits fails its check at a position only. -/
theorem phaseFailure_position {jerk duration : ℝ} (hduration : 0 ≤ duration)
    (hjerk : |jerk| ≤ limits.maximumJerk)
    (hvelocity : |(integrateConstantJerk jerk duration a).velocity| ≤
      limits.maximumVelocity + 1e-10)
    (hacceleration : |(integrateConstantJerk jerk duration a).acceleration| ≤
      limits.maximumAcceleration) :
    phaseFailure? limits jerk duration a = none ∨
      phaseFailure? limits jerk duration a = some .positionLimit := by
  unfold phaseFailure?
  dsimp only
  have hregular : (!isFinite duration || lt duration zero || !isFinite jerk ||
      lt (add limits.maximumJerk (ofRat 1e-10)) (Double.abs jerk)) = false := by
    simp only [Exact.isFinite_eq, Exact.lt_eq, Exact.zero_eq, Exact.add_eq, Exact.abs_eq,
      Exact.ofRat_eq, Bool.not_true, Bool.false_or, Bool.or_false, Bool.or_eq_false_iff,
      decide_eq_false_iff_not, not_lt]
    refine ⟨hduration, hjerk.trans ?_⟩
    norm_num
  have hdynamic : (lt (add limits.maximumVelocity (ofRat 1e-9))
        (Double.abs (integrateConstantJerk jerk duration a).velocity) ||
      lt (add limits.maximumAcceleration (ofRat 1e-9))
        (Double.abs (integrateConstantJerk jerk duration a).acceleration)) = false := by
    simp only [Exact.lt_eq, Exact.add_eq, Exact.abs_eq, Exact.ofRat_eq, Bool.or_eq_false_iff,
      decide_eq_false_iff_not, not_lt]
    constructor
    · refine hvelocity.trans ?_
      norm_num
    · refine hacceleration.trans ?_
      norm_num
  rw [hregular, if_neg Bool.false_ne_true, hdynamic, if_neg Bool.false_ne_true]
  split
  · exact .inr rfl
  split
  · exact .inr rfl
  · exact .inl rfl

theorem checkPhases_position {plan : BrakeAxis ℝ} {phase : Fin 4} {phases : List (Fin 4)}
    (hphase : phaseFailure? limits (plan.jerkRadS3 phase) (plan.durationS phase) a = none ∨
      phaseFailure? limits (plan.jerkRadS3 phase) (plan.durationS phase) a = some .positionLimit)
    (hrest : checkPhases limits plan phases
        (integrateConstantJerk (plan.jerkRadS3 phase) (plan.durationS phase) a) = none ∨
      checkPhases limits plan phases
        (integrateConstantJerk (plan.jerkRadS3 phase) (plan.durationS phase) a) =
          some .positionLimit) :
    checkPhases limits plan (phase :: phases) a = none ∨
      checkPhases limits plan (phase :: phases) a = some .positionLimit := by
  unfold checkPhases
  rcases hphase with hphase | hphase
  · rw [hphase]
    exact hrest
  · rw [hphase]
    exact .inr rfl

/-- The jerk of the first phase. -/
noncomputable def neutralJerk (limits : AxisLimits ℝ) (a : AxisState ℝ) : ℝ :=
  if le (Double.abs a.acceleration) numericalEpsilon then zero
  else neg (copysign limits.maximumJerk a.acceleration)

/-- The duration of the first phase. -/
noncomputable def neutralDuration (limits : AxisLimits ℝ) (a : AxisState ℝ) : ℝ :=
  div (Double.abs a.acceleration) limits.maximumJerk

/-- The state after the first phase. -/
noncomputable def neutralState (limits : AxisLimits ℝ) (a : AxisState ℝ) : AxisState ℝ :=
  integrateConstantJerk (neutralJerk limits a) (neutralDuration limits a) a

/-- The velocity after the first phase, where a residue counts as none. -/
noncomputable def residualVelocity (limits : AxisLimits ℝ) (a : AxisState ℝ) : ℝ :=
  if le (Double.abs (neutralState limits a).velocity) (ofRat 1e-10) then zero
  else (neutralState limits a).velocity

/-- The plan of the first phase alone. -/
noncomputable def neutralPlan (limits : AxisLimits ℝ) (a : AxisState ℝ) : BrakeAxis ℝ :=
  { BrakeAxis.blank false true with
    durationS := ![neutralDuration limits a, zero, zero, zero]
    jerkRadS3 := ![neutralJerk limits a, zero, zero, zero] }

/-- The planner within the dynamic limits. -/
theorem neutralize_eq (h : limits.Dynamic a) :
    (planAccelerationNeutralizedBrakeAxis limits a).2 =
      if lt (add limits.maximumVelocity (ofRat 1e-10)) (Double.abs (residualVelocity limits a)) then
        some .velocityLimit
      else if eq (residualVelocity limits a) zero then
        if limits.outside (neutralState limits a).position then some .positionLimit else none
      else checkPhases limits
        (residualPhases limits (residualVelocity limits a) (neutralPlan limits a))
        (List.finRange 4) a := by
  have hdynamic : (!isFinite a.velocity || !isFinite a.acceleration ||
      lt (add limits.maximumVelocity (ofRat 1e-12)) (Double.abs a.velocity) ||
      lt (add limits.maximumAcceleration (ofRat 1e-12)) (Double.abs a.acceleration)) = false := by
    simp only [Exact.isFinite_eq, Exact.lt_eq, Exact.add_eq, Exact.abs_eq, Exact.ofRat_eq,
      Bool.not_true, Bool.false_or, Bool.or_eq_false_iff, decide_eq_false_iff_not, not_lt]
    constructor
    · refine h.velocity_le.trans ?_
      norm_num
    · refine h.acceleration_le.trans ?_
      norm_num
  unfold planAccelerationNeutralizedBrakeAxis
  dsimp only
  rw [hdynamic, if_neg Bool.false_ne_true]
  have hfinite (x y : ℝ) : (!isFinite x || !isFinite y) = false := by simp
  rw [hfinite, if_neg Bool.false_ne_true]
  change Prod.snd (if lt (add limits.maximumVelocity (ofRat 1e-10))
      (Double.abs (residualVelocity limits a)) then _
    else if eq (residualVelocity limits a) zero then (neutralPlan limits a, _) else _) = _
  by_cases hfast : lt (add limits.maximumVelocity (ofRat 1e-10))
      (Double.abs (residualVelocity limits a)) = true
  · rw [if_pos hfast, if_pos hfast]
  rw [if_neg hfast, if_neg hfast]
  by_cases hnone : eq (residualVelocity limits a) zero = true
  · rw [if_pos hnone, if_pos hnone]
    rfl
  · rw [if_neg hnone, if_neg hnone]
    rfl

/-- The first phase ramps the stored acceleration down. -/
theorem neutral_spec (h : limits.Dynamic a)
    (hstored : a.acceleration = 0 ∨ 1e-12 < |a.acceleration|) :
    0 ≤ neutralDuration limits a ∧ |neutralJerk limits a| ≤ limits.maximumJerk ∧
      (neutralState limits a).velocity = velocityLeft limits a ∧
      (neutralState limits a).acceleration = 0 := by
  have hjerk := h.jerk_pos
  have hduration : neutralDuration limits a = |a.acceleration| / limits.maximumJerk := by
    simp [neutralDuration]
  refine ⟨by rw [hduration]; positivity, ?_⟩
  unfold neutralState velocityLeft
  rw [integrate_velocity, integrate_acceleration, hduration]
  rcases hstored with hzero | hlarge
  · have hnone : neutralJerk limits a = 0 := by
      have heps : (0 : ℝ) ≤ 1e-12 := by norm_num
      simp [neutralJerk, hzero, heps]
    rw [hnone, hzero]
    simp [hjerk.le]
  · have hramp : neutralJerk limits a =
        -(if a.acceleration < 0 then -limits.maximumJerk else limits.maximumJerk) := by
      have hnot : ¬|a.acceleration| ≤ 1e-12 := not_le.mpr hlarge
      simp only [neutralJerk, Exact.le_eq, Exact.abs_eq, numericalEpsilon_real, hnot, decide_false,
        Bool.false_eq_true, if_false, Exact.neg_real, Exact.copysign_real, abs_of_pos hjerk]
    rw [hramp]
    rcases lt_or_ge a.acceleration 0 with hneg | hpos
    · rw [if_pos hneg, abs_of_neg hneg]
      refine ⟨by rw [neg_neg, abs_of_pos hjerk], ?_, ?_⟩
      · field_simp
        ring
      · field_simp
        ring
    · rw [if_neg (not_lt.mpr hpos), abs_of_nonneg hpos]
      refine ⟨by rw [abs_neg, abs_of_pos hjerk], ?_, ?_⟩
      · field_simp
        ring
      · field_simp
        ring

theorem residualVelocity_eq (h : limits.Dynamic a)
    (hstored : a.acceleration = 0 ∨ 1e-12 < |a.acceleration|) :
    residualVelocity limits a =
      if |velocityLeft limits a| ≤ 1e-10 then 0 else velocityLeft limits a := by
  unfold residualVelocity
  rw [(neutral_spec h hstored).2.2.1]
  simp

/-- The phases of a residual velocity fail their check at a position only. -/
theorem checkResidual (h : limits.Dynamic a)
    (hstored : a.acceleration = 0 ∨ 1e-12 < |a.acceleration|)
    (hsome : 1e-10 < |velocityLeft limits a|)
    (hslow : |velocityLeft limits a| ≤ limits.maximumVelocity + 1e-10) :
    checkPhases limits (residualPhases limits (velocityLeft limits a) (neutralPlan limits a))
        (List.finRange 4) a = none ∨
      checkPhases limits (residualPhases limits (velocityLeft limits a) (neutralPlan limits a))
        (List.finRange 4) a = some .positionLimit := by
  obtain ⟨hduration, hjerk, hvelocity, hacceleration⟩ := neutral_spec h hstored
  obtain ⟨sign, ramp, hold, hsign, hunit, hramp, hhold, hpeak, hstop, hplan⟩ :=
    residualPhases_spec h.acceleration_pos h.jerk_pos hsome (neutralPlan limits a)
  have hpos := h.jerk_pos
  set J := limits.maximumJerk with hJ
  set speed := |velocityLeft limits a| with hspeed
  have habs {x bound : ℝ} (hle : |x| ≤ bound) : |sign * x| ≤ bound := by
    rw [abs_mul, hunit, one_mul]
    exact hle
  have hjerks : |-sign * J| ≤ J ∧ |sign * J| ≤ J := by
    rw [neg_mul, abs_neg]
    exact ⟨habs (abs_of_pos hpos).le, habs (abs_of_pos hpos).le⟩
  have hhalf : 0 ≤ J * ramp * ramp := by positivity
  have hheld : 0 ≤ J * ramp * hold := by positivity
  have hpeaked : 0 ≤ J * ramp := by positivity
  rw [hplan, show List.finRange 4 = [0, 1, 2, 3] from rfl]
  -- the states after the four phases
  have h₁v : (neutralState limits a).velocity = sign * speed := hvelocity.trans hsign.symm
  set s₂ := integrateConstantJerk (-sign * J) ramp (neutralState limits a) with hs₂
  have h₂v : s₂.velocity = sign * (speed - J * ramp * ramp / 2) := by
    rw [hs₂, integrate_velocity, h₁v, hacceleration]
    ring
  have h₂a : s₂.acceleration = -(sign * (J * ramp)) := by
    rw [hs₂, integrate_acceleration, hacceleration]
    ring
  set s₃ := integrateConstantJerk 0 hold s₂ with hs₃
  have h₃v : s₃.velocity = sign * (J * ramp * ramp / 2) := by
    rw [hs₃, integrate_velocity, h₂v, h₂a, ← hstop]
    ring
  have h₃a : s₃.acceleration = -(sign * (J * ramp)) := by
    rw [hs₃, integrate_acceleration, h₂a]
    ring
  set s₄ := integrateConstantJerk (sign * J) ramp s₃ with hs₄
  have h₄v : s₄.velocity = 0 := by
    rw [hs₄, integrate_velocity, h₃v, h₃a]
    ring
  have h₄a : s₄.acceleration = 0 := by
    rw [hs₄, integrate_acceleration, h₃a]
    ring
  have hacc : |-(sign * (J * ramp))| ≤ limits.maximumAcceleration := by
    rw [abs_neg]
    exact habs ((abs_of_nonneg hpeaked).le.trans hpeak)
  have hvel {x : ℝ} (hnonneg : 0 ≤ x) (hle : x ≤ speed) :
      |sign * x| ≤ limits.maximumVelocity + 1e-10 :=
    habs ((abs_of_nonneg hnonneg).le.trans (hle.trans hslow))
  have hlast (plan : BrakeAxis ℝ) : checkPhases limits plan [] s₄ = none := by
    have hsmall : ¬(1e-8 : ℝ) < 0 := by norm_num
    simp only [checkPhases, h₄v, h₄a, Exact.lt_eq, Exact.abs_eq, Exact.ofRat_eq, abs_zero]
    rw [if_neg]
    simpa using hsmall
  refine checkPhases_position (phaseFailure_position hduration hjerk ?_ ?_) ?_
  · show |(neutralState limits a).velocity| ≤ _
    rw [hvelocity]
    exact hslow
  · show |(neutralState limits a).acceleration| ≤ _
    rw [hacceleration, abs_zero]
    exact h.acceleration_pos.le
  refine checkPhases_position (phaseFailure_position hramp hjerks.1 ?_ ?_) ?_
  · show |s₂.velocity| ≤ _
    rw [h₂v]
    exact hvel (by linarith) (by linarith)
  · show |s₂.acceleration| ≤ _
    rw [h₂a]
    exact hacc
  refine checkPhases_position (phaseFailure_position hhold ?_ ?_ ?_) ?_
  · show |(0 : ℝ)| ≤ _
    rw [abs_zero]
    exact hpos.le
  · show |s₃.velocity| ≤ _
    rw [h₃v]
    exact hvel (by linarith) (by linarith)
  · show |s₃.acceleration| ≤ _
    rw [h₃a]
    exact hacc
  refine checkPhases_position (phaseFailure_position hramp hjerks.2 ?_ ?_) (.inl (hlast _))
  · show |s₄.velocity| ≤ _
    rw [h₄v, ← mul_zero sign]
    exact hvel le_rfl (abs_nonneg _)
  · show |s₄.acceleration| ≤ _
    rw [h₄a, abs_zero]
    exact h.acceleration_pos.le

/-- **When the neutralizing planner fails.** -/
theorem neutralize_none_iff (h : limits.Dynamic a)
    (hposition : (planAccelerationNeutralizedBrakeAxis limits a).2 ≠ some .positionLimit) :
    (planAccelerationNeutralizedBrakeAxis limits a).2 = none ↔ Neutralizable limits a := by
  unfold Neutralizable
  by_cases hstored : a.acceleration = 0 ∨ 1e-12 < |a.acceleration|
  swap
  · rw [if_neg hstored]
  rw [if_pos hstored]
  have hresidual := residualVelocity_eq h hstored
  rw [neutralize_eq h] at hposition ⊢
  by_cases hsmall : |velocityLeft limits a| ≤ 1e-10
  · rw [if_pos hsmall] at hresidual
    rw [hresidual] at hposition ⊢
    have hslow : ¬lt (add limits.maximumVelocity (ofRat 1e-10)) (Double.abs (0 : ℝ)) = true := by
      simp only [Exact.lt_eq, Exact.add_eq, Exact.ofRat_eq, Exact.abs_eq, abs_zero,
        decide_eq_true_eq, not_lt]
      have := h.velocity_pos
      positivity
    have hzero : eq (0 : ℝ) zero = true := by simp
    rw [if_neg hslow, if_pos hzero] at hposition ⊢
    by_cases houtside : limits.outside (neutralState limits a).position = true
    · rw [if_pos houtside] at hposition
      exact absurd rfl hposition
    · rw [if_neg houtside]
      refine iff_of_true rfl (hsmall.trans ?_)
      have := h.velocity_pos
      linarith
  · rw [if_neg hsmall] at hresidual
    rw [hresidual] at hposition ⊢
    have hfast : lt (add limits.maximumVelocity (ofRat 1e-10))
        (Double.abs (velocityLeft limits a)) =
          decide (limits.maximumVelocity + 1e-10 < |velocityLeft limits a|) := by
      simp only [Exact.lt_eq, Exact.add_eq, Exact.ofRat_eq, Exact.abs_eq]
      norm_num
    have hsome : 1e-10 < |velocityLeft limits a| := not_le.mp hsmall
    have hnonzero : ¬eq (velocityLeft limits a) zero = true := by
      simp only [Exact.eq_eq, Exact.zero_eq, decide_eq_true_eq]
      intro hzero
      rw [hzero, abs_zero] at hsome
      norm_num at hsome
    rw [hfast, if_neg hnonzero] at hposition ⊢
    by_cases hlimit : limits.maximumVelocity + 1e-10 < |velocityLeft limits a|
    · rw [if_pos (decide_eq_true hlimit)]
      exact iff_of_false nofun (not_le.mpr hlimit)
    · rw [if_neg (by simpa using hlimit)] at hposition ⊢
      have hslow := not_lt.mp hlimit
      exact iff_of_true ((checkResidual h hstored hsome hslow).resolve_right hposition) hslow

end Neutralize

end HandLab.Shaper
