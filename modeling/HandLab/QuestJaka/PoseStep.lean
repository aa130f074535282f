import HandLab.Lib.GreatCircle
import HandLab.QuestJaka.Exact
import HandLab.TargetGenerator.Evaluate

/-!
# The bounded pose step

`quaternion_angle_rad`, `quaternion_slerp_xyzw` and `bounded_pose_step`
(`src/quest_jaka_sim/se3.py`, lines 161–228) in exact arithmetic, and the gates of
`classify_candidate` that a step has to pass. Orientations whose quaternions have a product above
0.9995 are interpolated along the chord instead of the arc.

* `stepFraction_spec`: the fraction is the largest one that both bounds allow.
* `interpolated`: the arc makes the fraction of the rotation, the chord only at 0, 1/2 and 1.
* `bounded_pose_step_iff`: when the step keeps both bounds with one fraction.
* `chord_exceeds`: a step of three quarters of the rotation is longer than that.
-/

namespace HandLab.QuestJaka

open HandLab.Lib GreatCircle InnerProductGeometry RealInnerProductSpace
open HandLab.Teleoperation (Vector3 QuaternionXyzw Pose3D)
open HandLab.TargetGenerator (GeneratorConfig Arm SharedJakaTargetGenerator Joints Candidate
  classifyCandidate FeasibilityLimits CandidateMetrics)

/-! ## The requirements -/

/-- The angle of the rotation between two orientations. -/
noncomputable def rotationAngle (a b : QuaternionXyzw ℝ) : ℝ := 2 * Real.arccos |⟪vec a, vec b⟫|

/-- The distance of two positions. -/
noncomputable def distance (a b : Vector3 ℝ) : ℝ := ‖vec (b - a)‖

section Requirements

variable (start finish : Pose3D ℝ) (maximumTranslationM maximumRotationRad : ℝ)

/-- The fractions of the segment that both bounds allow. -/
def allowedFractions : Set ℝ :=
  {t | 0 ≤ t ∧ t ≤ 1 ∧ t * distance start.positionM finish.positionM ≤ maximumTranslationM ∧
    t * rotationAngle start.quaternionXyzw finish.quaternionXyzw ≤ maximumRotationRad}

/-- A step along the segment that keeps both bounds with one fraction. -/
structure CoupledStep (stepped : Pose3D ℝ) (fraction : ℝ) : Prop where
  translation_le : distance start.positionM stepped.positionM ≤ maximumTranslationM
  rotation_le :
    rotationAngle start.quaternionXyzw stepped.quaternionXyzw ≤ maximumRotationRad
  position_eq :
    stepped.positionM = start.positionM + fraction • (finish.positionM - start.positionM)
  rotation_eq : rotationAngle start.quaternionXyzw stepped.quaternionXyzw =
    fraction * rotationAngle start.quaternionXyzw finish.quaternionXyzw
  largest : IsGreatest (allowedFractions start finish maximumTranslationM maximumRotationRad)
    fraction
  finish_eq : fraction = 1 → stepped.positionM = finish.positionM ∧
    (stepped.quaternionXyzw = finish.quaternionXyzw ∨
      stepped.quaternionXyzw = -finish.quaternionXyzw)

/-- A target whose bounds are within the limits is not rejected for its jump or its velocity,
    unless the joints jump. -/
def PassesGates (stepped : Pose3D ℝ) : Prop :=
  ∀ (config : GeneratorConfig ℝ) (arm : Arm ℝ) (s : SharedJakaTargetGenerator ℝ) (dt : ℝ)
    (branchReference : Joints ℝ) (currentQuality : ℝ × ℝ) (c : Candidate ℝ),
    s.lastSafeTarget = start → 0 < dt →
    maximumTranslationM ≤ config.feasibility.maximumTargetJumpM →
    maximumTranslationM ≤ config.feasibility.maximumTcpVelocityMS * dt →
    maximumRotationRad ≤ config.feasibility.maximumTargetRotationJumpRad →
    maximumRotationRad ≤ config.feasibility.maximumTcpAngularVelocityRadS * dt →
    let m := s.candidateMetrics config arm stepped dt branchReference currentQuality c
    classifyCandidate config.feasibility m ≠ .linearVelocityLimit ∧
      classifyCandidate config.feasibility m ≠ .angularVelocityLimit ∧
      (classifyCandidate config.feasibility m = .targetJump →
        config.feasibility.maximumJointTargetJumpRad < m.maximumNonperiodicJointTargetJumpRad)

/-- The segments and the bounds for which the chord does no harm. -/
inductive ExactProgress : Prop
  /-- the orientations are so far apart that the arc is taken -/
  | far (h : |⟪vec start.quaternionXyzw, vec finish.quaternionXyzw⟫| ≤ 9995 / 10000)
  /-- they are the same -/
  | same (h : |⟪vec start.quaternionXyzw, vec finish.quaternionXyzw⟫| = 1)
  /-- the bounds allow the whole segment -/
  | whole (htranslation : distance start.positionM finish.positionM ≤ maximumTranslationM)
      (hrotation :
        rotationAngle start.quaternionXyzw finish.quaternionXyzw ≤ maximumRotationRad)
  /-- they allow exactly its half; the code sees no rotation from `1 - 1e-15` on -/
  | half (htranslation : distance start.positionM finish.positionM ≤ 2 * maximumTranslationM)
      (hrotation :
        rotationAngle start.quaternionXyzw finish.quaternionXyzw ≤ 2 * maximumRotationRad)
      (h : 0 < distance start.positionM finish.positionM ∧
          distance start.positionM finish.positionM = 2 * maximumTranslationM ∨
        |⟪vec start.quaternionXyzw, vec finish.quaternionXyzw⟫| < 1 - 1 / 10 ^ 15 ∧
          rotationAngle start.quaternionXyzw finish.quaternionXyzw = 2 * maximumRotationRad)
  /-- they allow nothing of it -/
  | still (h : 0 < distance start.positionM finish.positionM ∧ maximumTranslationM = 0 ∨
      |⟪vec start.quaternionXyzw, vec finish.quaternionXyzw⟫| < 1 - 1 / 10 ^ 15 ∧
        maximumRotationRad = 0)

end Requirements

/-! ## The angle -/

variable {a b : QuaternionXyzw ℝ}

theorem rotationAngle_nonneg (a b : QuaternionXyzw ℝ) : 0 ≤ rotationAngle a b :=
  mul_nonneg zero_le_two (Real.arccos_nonneg _)

theorem rotationAngle_comm (a b : QuaternionXyzw ℝ) : rotationAngle a b = rotationAngle b a := by
  rw [rotationAngle, rotationAngle, real_inner_comm]

/-- On one side of the sphere it is twice the angle of the quaternions. -/
theorem rotationAngle_eq (ha : IsUnitQuaternion a) (hb : IsUnitQuaternion b)
    (h : 0 ≤ ⟪vec a, vec b⟫) : rotationAngle a b = 2 * angle (vec a) (vec b) := by
  rw [rotationAngle, abs_of_nonneg h, angle, ha, hb, mul_one, div_one]

theorem rotationAngle_pos (h : |⟪vec a, vec b⟫| < 1) : 0 < rotationAngle a b :=
  mul_pos two_pos (Real.arccos_pos.mpr h)

theorem rotationAngle_eq_zero (h : |⟪vec a, vec b⟫| = 1) : rotationAngle a b = 0 := by
  rw [rotationAngle, h, Real.arccos_one, mul_zero]

/-- What `quaternion_angle_rad` computes. -/
noncomputable def measuredAngle (a b : QuaternionXyzw ℝ) : ℝ :=
  if 1 - 1 / 10 ^ 15 ≤ |⟪vec a, vec b⟫| then 0 else rotationAngle a b

theorem quaternionAngleRad_eq (ha : IsUnitQuaternion a) (hb : IsUnitQuaternion b) :
    quaternionAngleRad a b = some (measuredAngle a b) := by
  have hle := ha.abs_inner_le hb
  have hclamp : Max.max (-1) (Min.min 1 |⟪vec a, vec b⟫|) = |⟪vec a, vec b⟫| := by
    rw [min_eq_right hle, max_eq_right (le_trans (by norm_num) (abs_nonneg _))]
  unfold quaternionAngleRad measuredAngle
  rw [ha.normalized, hb.normalized]
  simp only [Option.bind_eq_bind, Option.bind_some, Option.pure_def, dot_eq_inner, Exact.abs_eq,
    Exact.le_eq, Exact.sub_eq, Exact.ofRat_eq, Exact.mul_eq, Exact.max_eq, Exact.min_eq,
    Exact.zero_eq, decide_eq_true_eq]
  push_cast
  rw [hclamp]
  rfl

theorem measuredAngle_nonneg (a b : QuaternionXyzw ℝ) : 0 ≤ measuredAngle a b := by
  unfold measuredAngle
  split_ifs
  · exact le_rfl
  · exact rotationAngle_nonneg a b

theorem measuredAngle_eq (h : |⟪vec a, vec b⟫| < 1 - 1 / 10 ^ 15) :
    measuredAngle a b = rotationAngle a b :=
  if_neg (not_le.mpr h)

theorem lt_of_measuredAngle_pos (h : 0 < measuredAngle a b) :
    |⟪vec a, vec b⟫| < 1 - 1 / 10 ^ 15 := by
  by_contra hle
  rw [measuredAngle, if_pos (not_lt.mp hle)] at h
  exact lt_irrefl 0 h

/-! ## The fraction -/

theorem unitClamp_eq {t : ℝ} (ht : 0 ≤ t) (ht1 : t ≤ 1) : unitClamp t = t := by
  unfold unitClamp
  rw [Exact.max_eq, Exact.min_eq, Exact.zero_eq, Exact.ofRat_eq, Rat.cast_one, min_eq_right ht1,
    max_eq_right ht]

/-- One bound: it is kept, and the fraction is no smaller than that. -/
theorem boundedFraction_spec {fraction length maximum : ℝ} (hfraction : 0 ≤ fraction)
    (hlength : 0 ≤ length) (hmaximum : 0 ≤ maximum) :
    0 ≤ boundedFraction fraction length maximum ∧
      boundedFraction fraction length maximum ≤ fraction ∧
      boundedFraction fraction length maximum * length ≤ maximum ∧
      (boundedFraction fraction length maximum = fraction ∨
        0 < length ∧ boundedFraction fraction length maximum * length = maximum) := by
  unfold boundedFraction
  simp only [Exact.lt_eq, Exact.zero_eq, decide_eq_true_eq, Exact.min_eq, Exact.max_eq,
    Exact.div_eq, max_eq_right hmaximum]
  split_ifs with hpos
  · have hdiv : maximum / length * length = maximum := div_mul_cancel₀ _ hpos.ne'
    refine ⟨le_min hfraction (div_nonneg hmaximum hpos.le), min_le_left _ _, ?_, ?_⟩
    · calc min fraction (maximum / length) * length ≤ maximum / length * length :=
            mul_le_mul_of_nonneg_right (min_le_right _ _) hpos.le
        _ = maximum := hdiv
    · rcases min_choice fraction (maximum / length) with h | h
      · exact .inl h
      · exact .inr ⟨hpos, by rw [h, hdiv]⟩
  · obtain rfl : length = 0 := le_antisymm (not_lt.mp hpos) hlength
    exact ⟨hfraction, le_rfl, by simpa using hmaximum, .inl rfl⟩

/-- What a fraction within both bounds that allow no more is. -/
structure IsStepFraction (displacement rotation maximumTranslationM maximumRotationRad t : ℝ) :
    Prop where
  nonneg : 0 ≤ t
  le_one : t ≤ 1
  translation_le : t * displacement ≤ maximumTranslationM
  rotation_le : t * rotation ≤ maximumRotationRad
  binding : t = 1 ∨ 0 < displacement ∧ t * displacement = maximumTranslationM ∨
    0 < rotation ∧ t * rotation = maximumRotationRad

/-- **The fraction** is the largest one that both bounds allow. -/
theorem stepFraction_spec {displacement rotation maximumTranslationM maximumRotationRad : ℝ}
    (hdisplacement : 0 ≤ displacement) (hrotation : 0 ≤ rotation) (hT : 0 ≤ maximumTranslationM)
    (hR : 0 ≤ maximumRotationRad) :
    IsStepFraction displacement rotation maximumTranslationM maximumRotationRad
      (stepFraction displacement rotation maximumTranslationM maximumRotationRad) := by
  have hone : (Double.ofRat 1 : ℝ) = 1 := by simp
  unfold stepFraction
  rw [hone]
  obtain ⟨hfirst, hfirst1, htranslation, hbindT⟩ :=
    boundedFraction_spec zero_le_one hdisplacement hT
  generalize boundedFraction 1 displacement maximumTranslationM = first at *
  obtain ⟨hnonneg, hle, hrotation', hbindR⟩ := boundedFraction_spec hfirst hrotation hR
  generalize boundedFraction first rotation maximumRotationRad = t at *
  rw [unitClamp_eq hnonneg (hle.trans hfirst1)]
  refine ⟨hnonneg, hle.trans hfirst1, ?_, hrotation', ?_⟩
  · exact (mul_le_mul_of_nonneg_right hle hdisplacement).trans htranslation
  · rcases hbindR with rfl | hbindR
    · exact hbindT.imp_right .inl
    · exact .inr (.inr hbindR)

/-! ## The interpolation -/

/-- What `quaternion_slerp_xyzw` returns. -/
structure Interpolated (a b : QuaternionXyzw ℝ) (t : ℝ) (interpolated : QuaternionXyzw ℝ) :
    Prop where
  unit : IsUnitQuaternion interpolated
  finish_eq : t = 1 → interpolated = b ∨ interpolated = -b
  start_eq : t = 0 → interpolated = a
  same : |⟪vec a, vec b⟫| = 1 → interpolated = a
  arc : |⟪vec a, vec b⟫| ≤ 9995 / 10000 → rotationAngle a interpolated = t * rotationAngle a b
  chord : 9995 / 10000 < |⟪vec a, vec b⟫| → |⟪vec a, vec b⟫| < 1 → 0 < t → t < 1 →
    (rotationAngle a interpolated = t * rotationAngle a b ↔ t = 1 / 2) ∧
      (1 / 2 < t → t * rotationAngle a b < rotationAngle a interpolated)

theorem slerpComponents_eq {t : ℝ} (ha : IsUnitQuaternion a) (hb : IsUnitQuaternion b)
    (hside : 0 ≤ ⟪vec a, vec b⟫) : vec (slerpComponents a b t) =
      if 9995 / 10000 < ⟪vec a, vec b⟫ then lerp (vec a) (vec b) t
      else slerp (vec a) (vec b) t := by
  have hle := (le_abs_self _).trans (ha.abs_inner_le hb)
  have hclamp : Max.max (-1) (Min.min 1 ⟪vec a, vec b⟫) = ⟪vec a, vec b⟫ := by
    rw [min_eq_right hle, max_eq_right (le_trans (by norm_num) hside)]
  have hangle : Real.arccos ⟪vec a, vec b⟫ = angle (vec a) (vec b) := by
    rw [angle, ha, hb, mul_one, div_one]
  unfold slerpComponents
  simp only [dot_eq_inner, Exact.max_eq, Exact.min_eq, Exact.ofRat_eq, Exact.lt_eq, Exact.add_eq,
    Exact.mul_eq, Exact.sub_eq, Exact.div_eq, decide_eq_true_eq]
  push_cast
  rw [hclamp, show (PyMath.acos ⟪vec a, vec b⟫ : ℝ) = angle (vec a) (vec b) from hangle]
  split_ifs
  · rfl
  · rfl

theorem angle_le_of_side (h : 0 ≤ ⟪vec a, vec b⟫) : angle (vec a) (vec b) ≤ Real.pi / 2 :=
  Real.arccos_le_pi_div_two.mpr (div_nonneg h (mul_nonneg (norm_nonneg _) (norm_nonneg _)))

/-- The arc is taken where it has a length. -/
theorem sin_angle_ne_zero (ha : IsUnitQuaternion a) (hb : IsUnitQuaternion b)
    (hside : 0 ≤ ⟪vec a, vec b⟫) (hfar : ⟪vec a, vec b⟫ < 1) :
    Real.sin (angle (vec a) (vec b)) ≠ 0 := by
  have hpos : 0 < angle (vec a) (vec b) := by
    rw [angle, ha, hb, mul_one, div_one, Real.arccos_pos]
    exact hfar
  refine (Real.sin_pos_of_pos_of_lt_pi hpos ?_).ne'
  exact (angle_le_of_side hside).trans_lt (by linarith [Real.pi_pos])

/-- The components, before they are normalized. -/
theorem slerpComponents_spec {t : ℝ} (ha : IsUnitQuaternion a) (hb : IsUnitQuaternion b)
    (hside : 0 ≤ ⟪vec a, vec b⟫) (ht : 0 ≤ t) (ht1 : t ≤ 1) :
    1 / 10 ^ 9 ≤ ‖vec (slerpComponents a b t)‖ ∧ 0 ≤ ⟪vec a, vec (slerpComponents a b t)⟫ := by
  rw [slerpComponents_eq ha hb hside]
  split_ifs with hnear
  · have hsq := half_le_norm_lerp_sq ha hb hside ht ht1
    refine ⟨?_, ?_⟩
    · refine le_of_sq_le_sq ?_ (norm_nonneg _)
      exact le_trans (by norm_num) hsq
    · rw [inner_lerp ha]
      exact add_nonneg (sub_nonneg.mpr ht1) (mul_nonneg ht hside)
  · have hsin := sin_angle_ne_zero ha hb hside ((not_lt.mp hnear).trans_lt (by norm_num))
    refine ⟨?_, ?_⟩
    · rw [norm_slerp ha hb hsin]
      norm_num
    · rw [inner_slerp ha hb hsin]
      have hnonneg := mul_nonneg ht (angle_nonneg (vec a) (vec b))
      refine Real.cos_nonneg_of_neg_pi_div_two_le_of_le ?_ ?_
      · linarith [Real.pi_pos]
      · exact (mul_le_of_le_one_left (angle_nonneg _ _) ht1).trans (angle_le_of_side hside)

/-- The angle does not see the length. -/
theorem rotationAngle_normalized {v : QuaternionXyzw ℝ} (ha : IsUnitQuaternion a)
    (hv : vec v ≠ 0) (hside : 0 ≤ ⟪vec a, vec v⟫) :
    rotationAngle a (‖vec v‖⁻¹ • v) = 2 * angle (vec a) (vec v) := by
  have hpos : 0 < ‖vec v‖⁻¹ := inv_pos.mpr (norm_pos_iff.mpr hv)
  rw [rotationAngle_eq ha (IsUnitQuaternion.smul_inv hv), vec_smul,
    angle_smul_right_of_pos _ _ hpos]
  rw [vec_smul, real_inner_smul_right]
  exact mul_nonneg hpos.le hside

theorem interpolated_aligned {aligned : QuaternionXyzw ℝ} {t : ℝ} (ha : IsUnitQuaternion a)
    (haligned : IsUnitQuaternion aligned) (hsign : aligned = b ∨ aligned = -b)
    (hinner : ⟪vec a, vec aligned⟫ = |⟪vec a, vec b⟫|) (ht : 0 ≤ t) (ht1 : t ≤ 1) :
    Interpolated a b t (‖vec (slerpComponents a aligned t)‖⁻¹ • slerpComponents a aligned t) := by
  have hside : 0 ≤ ⟪vec a, vec aligned⟫ := hinner ▸ abs_nonneg _
  obtain ⟨hlarge, hahead⟩ := slerpComponents_spec ha haligned hside ht ht1
  have hne : vec (slerpComponents a aligned t) ≠ 0 :=
    norm_pos_iff.mp (lt_of_lt_of_le (by norm_num) hlarge)
  have hangle := rotationAngle_normalized ha hne hahead
  have htotal : rotationAngle a b = 2 * angle (vec a) (vec aligned) := by
    rw [← rotationAngle_eq ha haligned hside, rotationAngle, rotationAngle, hinner, abs_abs]
  have hunit {q : QuaternionXyzw ℝ} (hq : IsUnitQuaternion q)
      (h : vec (slerpComponents a aligned t) = vec q) :
      ‖vec (slerpComponents a aligned t)‖⁻¹ • slerpComponents a aligned t = q := by
    have hcomponents : slerpComponents a aligned t = q := (WithLp.toLp_injective 2) h
    rw [hcomponents, show ‖vec q‖ = 1 from hq, inv_one, one_smul]
  have hcases := slerpComponents_eq (t := t) ha haligned hside
  have hfar (h : ¬9995 / 10000 < ⟪vec a, vec aligned⟫) :
      Real.sin (angle (vec a) (vec aligned)) ≠ 0 :=
    sin_angle_ne_zero ha haligned hside ((not_lt.mp h).trans_lt (by norm_num))
  refine ⟨IsUnitQuaternion.smul_inv hne, ?_, ?_, ?_, ?_, ?_⟩
  · rintro rfl
    rw [hunit haligned]
    · exact hsign
    · rw [hcases]
      split_ifs with h
      · exact lerp_one _ _
      · exact slerp_one (hfar h)
  · rintro rfl
    refine hunit ha ?_
    rw [hcases]
    split_ifs with h
    · exact lerp_zero _ _
    · exact slerp_zero (hfar h)
  · intro hsame
    refine hunit ha ?_
    rw [hsame, inner_eq_one_iff_of_norm_eq_one ha haligned] at hinner
    rw [hcases, ← hinner, real_inner_self_eq_norm_sq, ha, if_pos (by norm_num), lerp_self]
  · intro hle
    have hnot : ¬9995 / 10000 < ⟪vec a, vec aligned⟫ := by
      rw [hinner]
      exact not_lt.mpr hle
    rw [hangle, hcases, if_neg hnot, angle_slerp ha haligned (hfar hnot) ht ht1, htotal]
    ring
  · intro hnear hlt hpos hlt1
    have hchord : vec (slerpComponents a aligned t) = lerp (vec a) (vec aligned) t := by
      rw [hcases, hinner, if_pos hnear]
    have hφ : 0 < angle (vec a) (vec aligned) := by
      have hpositive := rotationAngle_pos hlt
      linarith
    rw [hchord] at hne
    rw [hangle, hchord, htotal]
    refine ⟨?_, fun hmiddle => ?_⟩
    · rw [← angle_lerp_eq_iff ha haligned hne hφ hpos hlt1]
      constructor
      · intro h
        linarith
      · intro h
        rw [h]
        ring
    · have hahead := lt_angle_lerp ha haligned hne hφ hmiddle hlt1
      linarith

/-- **The interpolation** never fails. -/
theorem interpolated {t : ℝ} (ha : IsUnitQuaternion a) (hb : IsUnitQuaternion b) (ht : 0 ≤ t)
    (ht1 : t ≤ 1) : ∃ q, quaternionSlerpXyzw a b t = some q ∧ Interpolated a b t q := by
  obtain ⟨aligned, halign, hsign, haligned, hinner⟩ := alignQuaternionSign_eq hb ha
  have hside : 0 ≤ ⟪vec a, vec aligned⟫ := hinner ▸ abs_nonneg _
  refine ⟨_, ?_, interpolated_aligned ha haligned hsign hinner ht ht1⟩
  unfold quaternionSlerpXyzw
  rw [ha.normalized, unitClamp_eq ht ht1]
  simp only [Option.bind_eq_bind, Option.bind_some, halign]
  exact normalizeQuaternionXyzw_eq (slerpComponents_spec ha haligned hside ht ht1).1

/-! ## The step -/

section Step

variable {start finish stepped : Pose3D ℝ} {maximumTranslationM maximumRotationRad : ℝ}

theorem boundedPoseStep_spec (hstart : IsUnitQuaternion start.quaternionXyzw)
    (hfinish : IsUnitQuaternion finish.quaternionXyzw) (hT : 0 ≤ maximumTranslationM)
    (hR : 0 ≤ maximumRotationRad) : ∃ q t,
      boundedPoseStep start finish maximumTranslationM maximumRotationRad =
        some (⟨start.positionM + t • (finish.positionM - start.positionM), q⟩, t) ∧
      IsStepFraction (distance start.positionM finish.positionM)
        (measuredAngle start.quaternionXyzw finish.quaternionXyzw) maximumTranslationM
        maximumRotationRad t ∧
      Interpolated start.quaternionXyzw finish.quaternionXyzw t q := by
  have hdistance : (NumPy.norm fun i => Double.sub (finish.positionM i) (start.positionM i) : ℝ) =
      distance start.positionM finish.positionM := norm_eq_norm _
  have hspec := stepFraction_spec (norm_nonneg (vec (finish.positionM - start.positionM)))
    (measuredAngle_nonneg start.quaternionXyzw finish.quaternionXyzw) hT hR
  obtain ⟨q, hslerp, hq⟩ := interpolated hstart hfinish hspec.nonneg hspec.le_one
  refine ⟨q, _, ?_, hspec, hq⟩
  unfold boundedPoseStep
  rw [quaternionAngleRad_eq hstart hfinish]
  simp only [Option.bind_eq_bind, Option.bind_some, Option.pure_def, hdistance]
  rw [distance, hslerp]
  simp only [Option.bind_some]
  rw [makePose6D_unit hq.unit]
  rfl

theorem distance_along {p q : Vector3 ℝ} {t : ℝ} (ht : 0 ≤ t) :
    distance p (p + t • (q - p)) = t * distance p q := by
  rw [distance, distance, add_sub_cancel_left, vec_smul, norm_smul, Real.norm_eq_abs,
    abs_of_nonneg ht]

/-! ### The gates -/

theorem classifyCandidate_velocity {limits : FeasibilityLimits ℝ} {m : CandidateMetrics ℝ}
    (hjump : m.targetJumpM ≤ limits.maximumTargetJumpM)
    (hrotation : m.targetRotationJumpRad ≤ limits.maximumTargetRotationJumpRad)
    (hvelocity : m.tcpVelocityMS ≤ limits.maximumTcpVelocityMS)
    (hangular : m.tcpAngularVelocityRadS ≤ limits.maximumTcpAngularVelocityRadS) :
    classifyCandidate limits m ≠ .linearVelocityLimit ∧
      classifyCandidate limits m ≠ .angularVelocityLimit ∧
      (classifyCandidate limits m = .targetJump →
        limits.maximumJointTargetJumpRad < m.maximumNonperiodicJointTargetJumpRad) := by
  have hopen {value limit : ℝ} (h : value ≤ limit) : Double.lt limit value = false := by
    rw [Exact.lt_eq, decide_eq_false (not_lt.mpr h)]
  unfold classifyCandidate
  rw [hopen hjump, hopen hrotation, hopen hvelocity, hopen hangular]
  simp only [Bool.false_or, Bool.false_eq_true, if_false, Exact.lt_eq, decide_eq_true_eq]
  split_ifs <;> simp_all

/-- The generator measures the rotation exactly. -/
theorem quaternionDistance_eq (ha : IsUnitQuaternion a) (hb : IsUnitQuaternion b) :
    Operator.quaternionDistance a b = rotationAngle a b := by
  have hsum : (tupleSum fun i => Double.mul (a i) (b i) : ℝ) = ⟪vec a, vec b⟫ := by
    rw [tupleSum_real, ← dot_eq_inner]
    rfl
  unfold Operator.quaternionDistance Operator.pyMin rotationAngle
  rw [hsum]
  simp only [Exact.abs_eq, Exact.ofRat_eq, Exact.lt_eq, Exact.mul_eq, decide_eq_true_eq]
  push_cast
  have hle := ha.abs_inner_le hb
  split_ifs with h
  · rfl
  · rw [le_antisymm hle (not_lt.mp h)]
    rfl

/-- A step within the bounds passes. -/
theorem passesGates_of_le (hstart : IsUnitQuaternion start.quaternionXyzw)
    (hstepped : IsUnitQuaternion stepped.quaternionXyzw)
    (htranslation : distance start.positionM stepped.positionM ≤ maximumTranslationM)
    (hrotation :
      rotationAngle start.quaternionXyzw stepped.quaternionXyzw ≤ maximumRotationRad) :
    PassesGates start maximumTranslationM maximumRotationRad stepped := by
  rintro config arm s dt branchReference currentQuality c rfl hdt hjump hvelocity hturn hangular
  have hmoved : (s.candidateMetrics config arm stepped dt branchReference currentQuality
      c).targetJumpM = distance s.lastSafeTarget.positionM stepped.positionM := norm_eq_norm _
  have hturned : (s.candidateMetrics config arm stepped dt branchReference currentQuality
      c).targetRotationJumpRad =
        rotationAngle s.lastSafeTarget.quaternionXyzw stepped.quaternionXyzw := by
    rw [rotationAngle_comm]
    exact quaternionDistance_eq hstepped hstart
  refine classifyCandidate_velocity (hmoved.trans_le (htranslation.trans hjump))
    (hturned.trans_le (hrotation.trans hturn)) ?_ ?_
  · exact (div_le_iff₀ hdt).mpr (hmoved.trans_le (htranslation.trans hvelocity))
  · exact (div_le_iff₀ hdt).mpr (hturned.trans_le (hrotation.trans hangular))

/-! ### Both bounds with one fraction -/

/-- The returned fraction is the largest one, if the rotation bound allows it. -/
theorem isGreatest_of_isStepFraction {t : ℝ}
    (ht : IsStepFraction (distance start.positionM finish.positionM)
      (measuredAngle start.quaternionXyzw finish.quaternionXyzw) maximumTranslationM
      maximumRotationRad t)
    (hrotation : t * rotationAngle start.quaternionXyzw finish.quaternionXyzw ≤
      maximumRotationRad) :
    IsGreatest (allowedFractions start finish maximumTranslationM maximumRotationRad) t := by
  refine ⟨⟨ht.nonneg, ht.le_one, ht.translation_le, hrotation⟩, ?_⟩
  rintro t' ⟨-, h1, htranslation', hrotation'⟩
  rcases ht.binding with rfl | ⟨hpos, hbinding⟩ | ⟨hpos, hbinding⟩
  · exact h1
  · exact le_of_mul_le_mul_right (htranslation'.trans hbinding.ge) hpos
  · have hmeasured := measuredAngle_eq (lt_of_measuredAngle_pos hpos)
    rw [hmeasured] at hpos hbinding
    exact le_of_mul_le_mul_right (hrotation'.trans hbinding.ge) hpos

/-- **A step** whose rotation is the fraction of the whole, within its bound. -/
theorem coupledStep_of_rotation {q : QuaternionXyzw ℝ} {t : ℝ}
    (ht : IsStepFraction (distance start.positionM finish.positionM)
      (measuredAngle start.quaternionXyzw finish.quaternionXyzw) maximumTranslationM
      maximumRotationRad t)
    (hq : Interpolated start.quaternionXyzw finish.quaternionXyzw t q)
    (hrotation : rotationAngle start.quaternionXyzw q =
      t * rotationAngle start.quaternionXyzw finish.quaternionXyzw)
    (hle : t * rotationAngle start.quaternionXyzw finish.quaternionXyzw ≤ maximumRotationRad) :
    CoupledStep start finish maximumTranslationM maximumRotationRad
      ⟨start.positionM + t • (finish.positionM - start.positionM), q⟩ t where
  translation_le := (distance_along ht.nonneg).trans_le ht.translation_le
  rotation_le := hrotation.trans_le hle
  position_eq := rfl
  rotation_eq := hrotation
  largest := isGreatest_of_isStepFraction ht hle
  finish_eq := by
    rintro rfl
    refine ⟨?_, hq.finish_eq rfl⟩
    rw [one_smul, add_sub_cancel]

theorem rotationAngle_self (ha : IsUnitQuaternion a) : rotationAngle a a = 0 := by
  refine rotationAngle_eq_zero ?_
  rw [real_inner_self_eq_norm_sq, ha, one_pow, abs_one]

/-- The ends and the middle are on the arc. -/
theorem Interpolated.rotation_eq {q : QuaternionXyzw ℝ} {t : ℝ} (hq : Interpolated a b t q)
    (ha : IsUnitQuaternion a) (hb : IsUnitQuaternion b) (ht : t = 0 ∨ t = 1 / 2 ∨ t = 1) :
    rotationAngle a q = t * rotationAngle a b := by
  by_cases hfar : |⟪vec a, vec b⟫| ≤ 9995 / 10000
  · exact hq.arc hfar
  rcases (ha.abs_inner_le hb).eq_or_lt with hsame | hlt
  · rw [hq.same hsame, rotationAngle_self ha, rotationAngle_eq_zero hsame, mul_zero]
  rcases ht with rfl | rfl | rfl
  · rw [hq.start_eq rfl, rotationAngle_self ha, zero_mul]
  · exact (hq.chord (not_le.mp hfar) hlt (by norm_num) (by norm_num)).1.mpr rfl
  · rw [one_mul]
    rcases hq.finish_eq rfl with rfl | rfl
    · rfl
    · rw [rotationAngle, rotationAngle, vec_neg, inner_neg_right, abs_neg]

section Progress

variable {q : QuaternionXyzw ℝ} {t : ℝ}
  (hstart : IsUnitQuaternion start.quaternionXyzw)
  (hfinish : IsUnitQuaternion finish.quaternionXyzw)
  (ht : IsStepFraction (distance start.positionM finish.positionM)
    (measuredAngle start.quaternionXyzw finish.quaternionXyzw) maximumTranslationM
    maximumRotationRad t)
  (hq : Interpolated start.quaternionXyzw finish.quaternionXyzw t q)
include ht

/-- In the middle if the bounds allow exactly the half. -/
theorem IsStepFraction.eq_half
    (htranslation : distance start.positionM finish.positionM ≤ 2 * maximumTranslationM)
    (hrotation :
      rotationAngle start.quaternionXyzw finish.quaternionXyzw ≤ 2 * maximumRotationRad)
    (h : 0 < distance start.positionM finish.positionM ∧
        distance start.positionM finish.positionM = 2 * maximumTranslationM ∨
      |⟪vec start.quaternionXyzw, vec finish.quaternionXyzw⟫| < 1 - 1 / 10 ^ 15 ∧
        rotationAngle start.quaternionXyzw finish.quaternionXyzw = 2 * maximumRotationRad) :
    t = 1 / 2 := by
  have hle : t ≤ 1 / 2 := by
    rcases h with ⟨hpos, heq⟩ | ⟨hlt, heq⟩
    · have hT := ht.translation_le
      nlinarith
    · have hR := ht.rotation_le
      have hpos := rotationAngle_pos (hlt.trans (by norm_num))
      rw [measuredAngle_eq hlt] at hR
      nlinarith
  refine le_antisymm hle ?_
  rcases ht.binding with h1 | ⟨hpos, hbinding⟩ | ⟨hpos, hbinding⟩
  · rw [h1]
    norm_num
  · nlinarith
  · have hmeasured := measuredAngle_eq (lt_of_measuredAngle_pos hpos)
    rw [hmeasured] at hpos hbinding
    nlinarith

/-- At the start if they allow nothing. -/
theorem IsStepFraction.eq_zero
    (h : 0 < distance start.positionM finish.positionM ∧ maximumTranslationM = 0 ∨
      |⟪vec start.quaternionXyzw, vec finish.quaternionXyzw⟫| < 1 - 1 / 10 ^ 15 ∧
        maximumRotationRad = 0) : t = 0 := by
  refine le_antisymm ?_ ht.nonneg
  rcases h with ⟨hpos, hzero⟩ | ⟨hlt, hzero⟩
  · have hT := ht.translation_le
    rw [hzero] at hT
    exact nonpos_of_mul_nonpos_left hT hpos
  · have hR := ht.rotation_le
    rw [measuredAngle_eq hlt, hzero] at hR
    exact nonpos_of_mul_nonpos_left hR (rotationAngle_pos (hlt.trans (by norm_num)))

/-- At the end if they allow everything. -/
theorem IsStepFraction.eq_one
    (htranslation : distance start.positionM finish.positionM ≤ maximumTranslationM)
    (hrotation :
      rotationAngle start.quaternionXyzw finish.quaternionXyzw ≤ maximumRotationRad) : t = 1 := by
  refine le_antisymm ht.le_one ?_
  rcases ht.binding with h1 | ⟨hpos, hbinding⟩ | ⟨hpos, hbinding⟩
  · exact h1.ge
  · nlinarith
  · have hmeasured := measuredAngle_eq (lt_of_measuredAngle_pos hpos)
    rw [hmeasured] at hpos hbinding
    nlinarith

include hstart hfinish hq

/-- **The rotation** is the fraction of the whole, within its bound. -/
theorem rotation_eq_iff :
    (rotationAngle start.quaternionXyzw q =
        t * rotationAngle start.quaternionXyzw finish.quaternionXyzw ∧
      t * rotationAngle start.quaternionXyzw finish.quaternionXyzw ≤ maximumRotationRad) ↔
      ExactProgress start finish maximumTranslationM maximumRotationRad := by
  constructor
  · rintro ⟨heq, hle⟩
    by_cases hfar : |⟪vec start.quaternionXyzw, vec finish.quaternionXyzw⟫| ≤ 9995 / 10000
    · exact .far hfar
    rcases (hstart.abs_inner_le hfinish).eq_or_lt with hsame | hlt
    · exact .same hsame
    rcases ht.nonneg.eq_or_lt with hzero | hpos
    · -- Nothing of the segment: one of the bounds is zero.
      refine .still ?_
      rw [← hzero] at ht
      rcases ht.binding with h1 | ⟨hpos, hbinding⟩ | ⟨hpos, hbinding⟩
      · exact absurd h1 zero_ne_one
      · exact .inl ⟨hpos, by rw [← hbinding, zero_mul]⟩
      · exact .inr ⟨lt_of_measuredAngle_pos hpos, by rw [← hbinding, zero_mul]⟩
    rcases ht.le_one.eq_or_lt with hone | hlt1
    · rw [hone, one_mul] at hle
      have hT := ht.translation_le
      rw [hone, one_mul] at hT
      exact .whole hT hle
    · -- Between the ends the chord meets the arc in the middle only.
      have hhalf := (hq.chord (not_le.mp hfar) hlt hpos hlt1).1.mp heq
      rw [hhalf] at hle ht
      have hT := ht.translation_le
      refine .half (by linarith) (by linarith) ?_
      rcases ht.binding with h1 | ⟨hpos, hbinding⟩ | ⟨hpos, hbinding⟩
      · norm_num at h1
      · exact .inl ⟨hpos, by linarith⟩
      · have hlt' := lt_of_measuredAngle_pos hpos
        rw [measuredAngle_eq hlt'] at hbinding
        exact .inr ⟨hlt', by linarith⟩
  · intro h
    cases h with
    | far hfar =>
      refine ⟨hq.arc hfar, ?_⟩
      rw [← measuredAngle_eq (hfar.trans_lt (by norm_num))]
      exact ht.rotation_le
    | same hsame =>
      have hR : 0 ≤ maximumRotationRad :=
        (mul_nonneg ht.nonneg (measuredAngle_nonneg _ _)).trans ht.rotation_le
      rw [hq.same hsame, rotationAngle_self hstart, rotationAngle_eq_zero hsame, mul_zero]
      exact ⟨rfl, hR⟩
    | whole htranslation hrotation =>
      have hone := ht.eq_one htranslation hrotation
      refine ⟨hq.rotation_eq hstart hfinish (.inr (.inr hone)), ?_⟩
      rw [hone, one_mul]
      exact hrotation
    | half htranslation hrotation h =>
      have hhalf := ht.eq_half htranslation hrotation h
      refine ⟨hq.rotation_eq hstart hfinish (.inr (.inl hhalf)), ?_⟩
      rw [hhalf]
      linarith
    | still h =>
      have hzero := ht.eq_zero h
      have hR : 0 ≤ maximumRotationRad :=
        (mul_nonneg ht.nonneg (measuredAngle_nonneg _ _)).trans ht.rotation_le
      refine ⟨hq.rotation_eq hstart hfinish (.inl hzero), ?_⟩
      rw [hzero, zero_mul]
      exact hR

end Progress

/-- **Both bounds with one fraction**: the step that is returned keeps them, passes the gates
    within them, and makes the same fraction of the translation and of the rotation, exactly if the
    chord does no harm. -/
theorem bounded_pose_step_iff (hstart : IsUnitQuaternion start.quaternionXyzw)
    (hfinish : IsUnitQuaternion finish.quaternionXyzw) (hT : 0 ≤ maximumTranslationM)
    (hR : 0 ≤ maximumRotationRad) :
    (∃ stepped fraction, boundedPoseStep start finish maximumTranslationM maximumRotationRad =
        some (stepped, fraction) ∧
      CoupledStep start finish maximumTranslationM maximumRotationRad stepped fraction ∧
      PassesGates start maximumTranslationM maximumRotationRad stepped) ↔
      ExactProgress start finish maximumTranslationM maximumRotationRad := by
  obtain ⟨q, t, hstep, ht, hq⟩ := boundedPoseStep_spec hstart hfinish hT hR
  rw [← rotation_eq_iff hstart hfinish ht hq, hstep]
  constructor
  · rintro ⟨_, _, ⟨rfl, rfl⟩, hcoupled, -⟩
    exact ⟨hcoupled.rotation_eq, hcoupled.largest.1.2.2.2⟩
  · rintro ⟨hrotation, hle⟩
    have hcoupled := coupledStep_of_rotation ht hq hrotation hle
    exact ⟨_, _, rfl, hcoupled, passesGates_of_le hstart hq.unit hcoupled.translation_le
      hcoupled.rotation_le⟩

end Step

/-! ## Three quarters of a small rotation -/

/-- No rotation. -/
def identityOrientation : QuaternionXyzw ℝ := ![0, 0, 0, 1]

/-- A rotation by about 3.6 degrees. -/
noncomputable def tilted : QuaternionXyzw ℝ := ![128 / 4097, 0, 0, 4095 / 4097]

theorem identityOrientation_unit : IsUnitQuaternion identityOrientation := by
  rw [IsUnitQuaternion, ← norm_eq_norm, NumPy.norm_real]
  simp [Fin.sum_univ_four, identityOrientation]

theorem tilted_unit : IsUnitQuaternion tilted := by
  rw [IsUnitQuaternion, ← norm_eq_norm, NumPy.norm_real, Real.sqrt_eq_one]
  simp [Fin.sum_univ_four, tilted]
  norm_num

theorem inner_identity_tilted : |⟪vec identityOrientation, vec tilted⟫| = 4095 / 4097 := by
  rw [← dot_eq_inner, NumPy.dot_real]
  have hsum : ∑ i, identityOrientation i * tilted i = (4095 / 4097 : ℝ) := by
    simp [Fin.sum_univ_four, identityOrientation, tilted]
  rw [hsum, abs_of_pos (by norm_num)]

/-- A pose at the origin. -/
def atOrigin (q : QuaternionXyzw ℝ) : Pose3D ℝ := ⟨0, q⟩

theorem atOrigin_unit {q : QuaternionXyzw ℝ} (h : IsUnitQuaternion q) :
    IsUnitQuaternion (atOrigin q).quaternionXyzw := h

/-- A rotation by 120 degrees. -/
noncomputable def turned : QuaternionXyzw ℝ := ![1 / 2, 1 / 2, 1 / 2, 1 / 2]

theorem turned_unit : IsUnitQuaternion turned := by
  rw [IsUnitQuaternion, ← norm_eq_norm, NumPy.norm_real, Real.sqrt_eq_one]
  simp [Fin.sum_univ_four, turned]
  norm_num

theorem inner_identity_turned : ⟪vec identityOrientation, vec turned⟫ = 1 / 2 := by
  rw [← dot_eq_inner, NumPy.dot_real]
  simp [Fin.sum_univ_four, identityOrientation, turned]

/-- A pose 10 cm away, and turned. -/
noncomputable def turnedAway : Pose3D ℝ := ⟨![1 / 10, 0, 0], turned⟩

theorem turnedAway_unit : IsUnitQuaternion turnedAway.quaternionXyzw := turned_unit

/-- The step is a tenth of the way, by the bound on the translation. -/
theorem turning_step :
    ∃ stepped fraction, boundedPoseStep (atOrigin identityOrientation) turnedAway (1 / 100)
        (1 / 2) = some (stepped, fraction) ∧
      CoupledStep (atOrigin identityOrientation) turnedAway (1 / 100) (1 / 2) stepped fraction ∧
      PassesGates (atOrigin identityOrientation) (1 / 100) (1 / 2) stepped := by
  have hstart := atOrigin_unit identityOrientation_unit
  refine (bounded_pose_step_iff hstart turnedAway_unit (by norm_num) (by norm_num)).mpr (.far ?_)
  show |⟪vec identityOrientation, vec turned⟫| ≤ 9995 / 10000
  rw [inner_identity_turned]
  norm_num [abs_of_pos]

/-- **The chord**: a step that is bounded by three quarters of the rotation turns further. -/
theorem chord_exceeds :
    ¬∃ stepped fraction, boundedPoseStep (atOrigin identityOrientation) (atOrigin tilted) 1
        (3 / 4 * rotationAngle identityOrientation tilted) = some (stepped, fraction) ∧
      CoupledStep (atOrigin identityOrientation) (atOrigin tilted) 1
        (3 / 4 * rotationAngle identityOrientation tilted) stepped fraction ∧
      PassesGates (atOrigin identityOrientation) 1
        (3 / 4 * rotationAngle identityOrientation tilted) stepped := by
  have hinner := inner_identity_tilted
  have hlt : |⟪vec identityOrientation, vec tilted⟫| < 1 - 1 / 10 ^ 15 := by
    rw [hinner]
    norm_num
  have hpos : 0 < rotationAngle identityOrientation tilted :=
    rotationAngle_pos (hlt.trans (by norm_num))
  have hbound : 0 ≤ 3 / 4 * rotationAngle identityOrientation tilted :=
    mul_nonneg (by norm_num) hpos.le
  obtain ⟨q, t, hstep, ht, hq⟩ := boundedPoseStep_spec (atOrigin_unit identityOrientation_unit)
    (atOrigin_unit tilted_unit) zero_le_one hbound
  change IsStepFraction (distance 0 0) (measuredAngle identityOrientation tilted) _ _ _ at ht
  change Interpolated identityOrientation tilted _ _ at hq
  have hquarters : t = 3 / 4 := by
    have hR := ht.rotation_le
    have hbinding := ht.binding
    rw [measuredAngle_eq hlt] at hR hbinding
    have hle : t ≤ 3 / 4 := le_of_mul_le_mul_right hR hpos
    rcases hbinding with h1 | ⟨hmoved, -⟩ | ⟨-, hbinding⟩
    · norm_num [h1] at hle
    · simp [distance] at hmoved
    · exact mul_right_cancel₀ hpos.ne' hbinding
  rintro ⟨_, _, h, hcoupled, -⟩
  obtain ⟨rfl, rfl⟩ := Prod.mk.inj (Option.some.inj (h.symm.trans hstep))
  have hahead := (hq.chord (by rw [hinner]; norm_num) (hlt.trans (by norm_num))
    (by rw [hquarters]; norm_num) (by rw [hquarters]; norm_num)).2 (by rw [hquarters]; norm_num)
  rw [hquarters] at hahead
  exact absurd hcoupled.rotation_le (not_le.mpr hahead)

end HandLab.QuestJaka
