import HandLab.TargetGenerator.Continuity

/-!
# `PalmTargetIkState`

The joints of the palm solver (`src/jaka_driver_adapter/palm_target_ik.py`, lines
35–98 and 144–600) in runs of its public calls: the manufacturer limits, the soft
limits inside them by a margin, and the avoidance zone inside these. The palm target
and the forward kinematics only decide whether a solve returns early and what step
the least-squares problem has, so both are inputs.

* `directionalJointLimitScale_spec`: the scale stops every joint before its soft limit.
* `inside_call`: the manufacturer limits hold after every call.
* `Directional.keepsSoft`: no solve leaves the soft limits, or goes further out.
* `Directional.solve_inward`: a move back inside is not scaled.
* `joints_within_limits_iff`: all of it, for a margin of at most 4.18 rad.
-/

namespace HandLab.TargetGenerator

open HandLab.Lib Double NumPy PyMath

variable {δ : Type*} [PyMath δ]

/-! ## The avoidance zone -/

/-- `x * x * (3.0 - 2.0 * x)`. -/
def smoothStep (x : δ) : δ := mul (mul x x) (sub (ofRat 3) (mul (ofRat 2) x))

/-- The scale of a joint that moves by `step`, in a zone that is not zero; `none` for a
    joint that stands still. -/
def jointScale (margin zone joint step : δ) (i : Fin 6) : Option δ :=
  let remaining :=
    if lt zero step then some (sub (safeUpper margin i) joint)
    else if lt step zero then some (sub joint (safeLower margin i))
    else none
  remaining.map fun remaining =>
    if le remaining zero then zero
    else if le zone remaining then ofRat 1
    else smoothStep (div remaining zone)

/-- `directional_joint_limit_scale`. -/
def directionalJointLimitScale (margin avoidanceZone : δ) (joints delta : Joints δ) : δ :=
  let zone := Double.max zero avoidanceZone
  if eq zone zero then ofRat 1
  else
    (List.finRange 6).foldl (fun scale i =>
      match jointScale margin zone (joints i) (delta i) i with
      | none => scale
      | some jointScale => Double.min scale jointScale) (ofRat 1)

/-- The entry of `_joint_limit_preference` for one joint, in a zone that is positive. -/
def jointRisk (margin zone joint : δ) (i : Fin 6) : δ :=
  let lower := safeLower margin i
  let upper := safeUpper margin i
  let remaining :=
    if lt joint lower then zero
    else if lt upper joint then zero
    else if lt (sub joint lower) (sub upper joint) then sub joint lower
    else sub upper joint
  if le zone remaining then zero
  else sub (ofRat 1) (smoothStep (npClip (div remaining zone) zero (ofRat 1)))

/-- `np.max(risk, initial=0.0)`. -/
def jointLimitRisk (margin zone : δ) (joints : Joints δ) : δ :=
  if le zone zero then zero
  else
    (List.finRange 6).foldl (fun risk i => Double.max risk (jointRisk margin zone (joints i) i)) zero

/-! ## The state -/

/-- The options of the constructor that bear on the joints. -/
structure PalmIkOptions (δ : Type*) where
  ikMaxStepRad : δ
  ikIterations : ℤ
  jointLimitMarginRad : δ
  jointLimitAvoidanceZoneRad : δ
  ikSolverMode : IkSolverMode

namespace PalmIkOptions

variable (o : PalmIkOptions δ)

/-- `self.ik_max_step_rad`. -/
def maxStep : δ := abs o.ikMaxStepRad

/-- `self.ik_iterations`. -/
def iterations : ℕ := (Max.max 1 o.ikIterations).toNat

/-- `self.joint_limit_margin_rad`. -/
def margin : δ := abs o.jointLimitMarginRad

/-- `self.joint_limit_avoidance_zone_rad`. -/
def zone : δ := Double.max zero o.jointLimitAvoidanceZoneRad

/-- The solver scales a step at these joints. -/
def scales (joints : Joints δ) : Bool :=
  match o.ikSolverMode with
  | .continuation => false
  | .directionalLimitDls => true
  | .jointLimitMultibranch => le (ofRat (9 / 10)) (jointLimitRisk o.margin o.zone joints)

/-- `bounded_delta`, before it is scaled. -/
def bounded (delta : Joints δ) : Joints δ := fun i =>
  npClip (delta i) (sub zero o.maxStep) o.maxStep

/-- The joints that `_solve_position_ik` attempts. -/
def attempted (joints delta : Joints δ) : Joints δ :=
  if o.scales joints then
    fun i => add (joints i)
      (mul (o.bounded delta i) (directionalJointLimitScale o.margin o.zone joints (o.bounded delta)))
  else fun i => add (joints i) (o.bounded delta i)

/-- `_solve_position_ik`: `none` where it returns early, else the step of the damped
    least squares. -/
def solve (ik : IkState δ) : Option (Joints δ) → IkState δ
  | none => ik
  | some delta =>
    ⟨clipSolverStep ik.armJointsRad (o.attempted ik.armJointsRad delta),
      changedJoints (o.attempted ik.armJointsRad delta)
        (clipSolverStep ik.armJointsRad (o.attempted ik.armJointsRad delta))⟩

end PalmIkOptions

/-! ## The public calls -/

/-- `max(0.0, min(float(dt), 0.1))`. -/
def clampedDt (dt : δ) : δ := Double.max zero (Double.min dt (ofRat (1 / 10)))

/-- A public call, with the outcomes of its solves. -/
inductive IkCall (δ : Type*)
  /-- `apply` and `apply_short_horizon` -/
  | apply (wristRollVelocityRadS dt : δ) (solves : ℕ → Option (Joints δ))
  /-- `apply_position_target`: whether the target is reached at the start, and the tests of
      the deadline -/
  | applyPositionTarget (wristRollVelocityRadS dt : δ) (reached : Bool) (expired : ℕ → Bool)
    (solves : ℕ → Option (Joints δ))
  | holdCurrentTarget
  | setArmJoints (joints : Joints δ)
  | setAuthoritativeArmJoints (joints : Joints δ)
  | resetSession (joints : Joints δ)

namespace PalmIkOptions

variable (o : PalmIkOptions δ)

/-- The loop over `ik_iterations`, from iteration `k` on, until the deadline stops it. -/
def solveAll (expired : ℕ → Bool) (solves : ℕ → Option (Joints δ)) : ℕ → ℕ → IkState δ → IkState δ
  | 0, _, ik => ik
  | n + 1, k, ik =>
    if expired k then ik else solveAll expired solves n (k + 1) (o.solve ik (solves k))

/-- `self.arm_joints_rad[5] += wrist_roll_velocity_rad_s * dt`. -/
def rollWrist (joints : Joints δ) (velocity dt : δ) : Joints δ :=
  Function.update joints 5 (add (joints 5) (mul velocity (clampedDt dt)))

/-- One call; `set_authoritative_arm_joints_rad` may raise, and changes nothing then. -/
def call (ik : IkState δ) : IkCall δ → IkState δ
  | .apply velocity dt solves =>
    o.solveAll (fun _ => false) solves o.iterations 0
      (.clipped o.margin (rollWrist ik.armJointsRad velocity dt))
  | .applyPositionTarget velocity dt reached expired solves =>
    let rolled : IkState δ := { ik with armJointsRad := rollWrist ik.armJointsRad velocity dt }
    if reached then rolled else o.solveAll expired solves o.iterations 0 rolled
  | .holdCurrentTarget => ik
  | .setArmJoints joints => .clipped o.margin joints
  | .setAuthoritativeArmJoints joints =>
    match SharedJakaTargetGenerator.refuses joints with
    | some _ => ik
    | none => .authoritative joints
  | .resetSession joints => .clipped o.margin joints

/-- The constructor. -/
def construct (joints : Joints δ) : IkState δ := .clipped o.margin joints

end PalmIkOptions

/-! ## The solves of a call -/

namespace PalmIkOptions

variable (o : PalmIkOptions δ)

/-- The states before the solves of the loop, with their outcomes. -/
def solvesFrom (expired : ℕ → Bool) (solves : ℕ → Option (Joints δ)) :
    ℕ → ℕ → IkState δ → List (IkState δ × Option (Joints δ))
  | 0, _, _ => []
  | n + 1, k, ik =>
    if expired k then []
    else (ik, solves k) :: solvesFrom expired solves n (k + 1) (o.solve ik (solves k))

/-- The states before the solves of a call, with their outcomes. -/
def solvesOf (ik : IkState δ) : IkCall δ → List (IkState δ × Option (Joints δ))
  | .apply velocity dt solves =>
    o.solvesFrom (fun _ => false) solves o.iterations 0
      (.clipped o.margin (rollWrist ik.armJointsRad velocity dt))
  | .applyPositionTarget velocity dt reached expired solves =>
    if reached then []
    else
      o.solvesFrom expired solves o.iterations 0
        { ik with armJointsRad := rollWrist ik.armJointsRad velocity dt }
  | _ => []

end PalmIkOptions

/-- `apply_position_target` gets no roll of the wrist. -/
def IkCall.WithoutRoll : IkCall δ → Prop
  | .applyPositionTarget velocity _ _ _ _ => velocity = zero
  | _ => True

/-! ## In exact arithmetic -/

section Exact

variable [Field δ] [LinearOrder δ] [IsStrictOrderedRing δ] [Exact δ]

theorem npClip_eq_min (value low high : δ) :
    npClip value low high = Min.min (Max.max value low) high := by
  unfold npClip
  simp only [Exact.lt_eq, decide_eq_true_eq]
  rcases lt_or_ge value low with h | h
  · rw [if_pos h, max_eq_right h.le]
    split_ifs with hhigh
    · exact (min_eq_right hhigh.le).symm
    · exact (min_eq_left (not_lt.mp hhigh)).symm
  · rw [if_neg (not_lt.mpr h), max_eq_left h]
    split_ifs with hhigh
    · exact (min_eq_right hhigh.le).symm
    · exact (min_eq_left (not_lt.mp hhigh)).symm

/-- The joints are inside the manufacturer limits. -/
def Inside (joints : Joints δ) : Prop := ∀ i, |joints i| ≤ (jakaMini2JointLimitRad i : δ)

omit [PyMath δ] [Exact δ] in
theorem limit_ge (i : Fin 6) : (209 / 100 : δ) ≤ (jakaMini2JointLimitRad i : δ) := by
  have h : (209 / 100 : ℚ) ≤ jakaMini2JointLimitRad i := by
    revert i
    decide +kernel
  have hcast := (Rat.cast_le (K := δ)).mpr h
  push_cast at hcast
  exact hcast

namespace PalmIkOptions

variable {o : PalmIkOptions δ}

theorem margin_nonneg (o : PalmIkOptions δ) : 0 ≤ o.margin := by
  unfold margin
  rw [Exact.abs_eq]
  exact abs_nonneg _

theorem maxStep_nonneg (o : PalmIkOptions δ) : 0 ≤ o.maxStep := by
  unfold maxStep
  rw [Exact.abs_eq]
  exact abs_nonneg _

theorem safeLower_margin (o : PalmIkOptions δ) (i : Fin 6) :
    safeLower o.margin i = -(jakaMini2JointLimitRad i : δ) + o.margin := by
  have hmargin := o.margin_nonneg
  rcases hmargin.eq_or_lt with h | h
  · simp [safeLower, safeMargin, ← h]
  · simp [safeLower, safeMargin, h]

theorem safeUpper_margin (o : PalmIkOptions δ) (i : Fin 6) :
    safeUpper o.margin i = (jakaMini2JointLimitRad i : δ) - o.margin := by
  have hmargin := o.margin_nonneg
  rcases hmargin.eq_or_lt with h | h
  · simp [safeUpper, safeMargin, ← h]
  · simp [safeUpper, safeMargin, h]

/-- A clip to the soft limits, which may be crossed. -/
theorem clipped_eq (joints : Joints δ) (i : Fin 6) :
    (IkState.clipped o.margin joints).armJointsRad i =
      Min.min (Max.max (joints i) (-(jakaMini2JointLimitRad i : δ) + o.margin))
        ((jakaMini2JointLimitRad i : δ) - o.margin) := by
  unfold IkState.clipped clipJointsToSafeLimits
  dsimp only
  rw [npClip_eq_min, safeLower_margin, safeUpper_margin]

/-! ### The manufacturer limits -/

theorem inside_clipped (hmargin : o.margin ≤ 209 / 50) (joints : Joints δ) :
    Inside (IkState.clipped o.margin joints).armJointsRad := by
  intro i
  have hlimit := limit_ge (δ := δ) i
  have hnonneg := o.margin_nonneg
  rw [clipped_eq, abs_le]
  constructor
  · refine le_min (le_max_of_le_right ?_) ?_
    · linarith
    · linarith
  · exact (min_le_right _ _).trans (by linarith)

/-- With a larger margin the second joint is clipped to a value outside. -/
theorem not_inside_clipped (hmargin : 209 / 50 < o.margin) (joints : Joints δ) :
    ¬Inside (IkState.clipped o.margin joints).armJointsRad := by
  intro hinside
  have hlimit : (jakaMini2JointLimitRad 1 : δ) = 209 / 100 := by
    have h : jakaMini2JointLimitRad 1 = 209 / 100 := rfl
    rw [h]
    push_cast
    rfl
  have hlow := (abs_le.mp (hinside 1)).1
  rw [clipped_eq, hlimit] at hlow
  have hhigh := hlow.trans (min_le_right _ _)
  linarith

variable {ik : IkState δ}

theorem inside_solve (h : Inside ik.armJointsRad) (outcome : Option (Joints δ)) :
    Inside (o.solve ik outcome).armJointsRad := by
  cases outcome with
  | none => exact h
  | some delta => exact fun i => abs_clipSolverStep_le (h i)

theorem inside_solveAll (expired : ℕ → Bool) (solves : ℕ → Option (Joints δ)) (n k : ℕ)
    (h : Inside ik.armJointsRad) :
    Inside (o.solveAll expired solves n k ik).armJointsRad := by
  induction n generalizing k ik with
  | zero => exact h
  | succ n ih =>
    unfold solveAll
    split
    · exact h
    · exact ih (k + 1) (inside_solve h _)

/-- Every solve of the loop starts inside. -/
theorem inside_solvesFrom (expired : ℕ → Bool) (solves : ℕ → Option (Joints δ)) (n k : ℕ)
    (h : Inside ik.armJointsRad) :
    ∀ before ∈ o.solvesFrom expired solves n k ik, Inside before.1.armJointsRad := by
  induction n generalizing k ik with
  | zero =>
    intro before hbefore
    exact absurd hbefore List.not_mem_nil
  | succ n ih =>
    unfold solvesFrom
    split
    · intro before hbefore
      exact absurd hbefore List.not_mem_nil
    · exact List.forall_mem_cons.mpr ⟨h, ih (k + 1) (inside_solve h _)⟩

/-- Without a roll the joints stay. -/
theorem rollWrist_zero (joints : Joints δ) (dt : δ) : rollWrist joints zero dt = joints := by
  unfold rollWrist
  simp

/-- **One call** keeps the joints inside, and every solve of it starts inside. -/
theorem inside_call (hmargin : o.margin ≤ 209 / 50) (h : Inside ik.armJointsRad)
    (c : IkCall δ) (hroll : c.WithoutRoll) :
    Inside (o.call ik c).armJointsRad ∧
      ∀ before ∈ o.solvesOf ik c, Inside before.1.armJointsRad := by
  cases c with
  | apply velocity dt solves =>
    have hclipped := inside_clipped hmargin (rollWrist ik.armJointsRad velocity dt)
    exact ⟨inside_solveAll _ _ _ _ hclipped, inside_solvesFrom _ _ _ _ hclipped⟩
  | applyPositionTarget velocity dt reached expired solves =>
    obtain rfl : velocity = zero := hroll
    have hrolled : Inside ({ ik with armJointsRad := rollWrist ik.armJointsRad zero dt } :
        IkState δ).armJointsRad := by
      rw [rollWrist_zero]
      exact h
    unfold call solvesOf
    cases reached with
    | true => exact ⟨hrolled, fun before hbefore => absurd hbefore List.not_mem_nil⟩
    | false => exact ⟨inside_solveAll _ _ _ _ hrolled, inside_solvesFrom _ _ _ _ hrolled⟩
  | holdCurrentTarget => exact ⟨h, fun before hbefore => absurd hbefore List.not_mem_nil⟩
  | setArmJoints joints =>
    exact ⟨inside_clipped hmargin joints, fun before hbefore => absurd hbefore List.not_mem_nil⟩
  | setAuthoritativeArmJoints joints =>
    refine ⟨?_, fun before hbefore => absurd hbefore List.not_mem_nil⟩
    unfold call
    dsimp only
    split
    · exact h
    · rename_i haccepted
      exact fun i => abs_le_limit_of_refuses haccepted i
  | resetSession joints =>
    exact ⟨inside_clipped hmargin joints, fun before hbefore => absurd hbefore List.not_mem_nil⟩

/-! ### The scale -/

omit [PyMath δ] [Exact δ] [IsStrictOrderedRing δ] [Field δ] in
/-- The bounds below a minimum over some of the entries. -/
theorem le_foldl_min_iff {ι : Type*} (entry : ι → Option δ) (is : List ι) (bound start : δ) :
    bound ≤ is.foldl (fun scale i => (entry i).elim scale fun x => Min.min scale x) start ↔
      bound ≤ start ∧ ∀ i ∈ is, ∀ x ∈ entry i, bound ≤ x := by
  induction is generalizing start with
  | nil => simp
  | cons i is ih =>
    rw [List.foldl_cons, ih, List.forall_mem_cons]
    cases entry i with
    | none => simp
    | some x =>
      simp only [Option.elim_some, le_min_iff, Option.mem_some_iff, forall_eq']
      exact and_assoc

variable {zone : δ}

/-- The scale as a minimum, in a zone that is positive. -/
theorem directionalJointLimitScale_eq (hzone : 0 < zone) (margin : δ)
    (joints delta : Joints δ) :
    directionalJointLimitScale margin zone joints delta =
      (List.finRange 6).foldl (fun scale i =>
        (jointScale margin zone (joints i) (delta i) i).elim scale fun x => Min.min scale x) 1 := by
  have hmax : Double.max zero zone = zone := by
    rw [Exact.max_eq, Exact.zero_eq, max_eq_right hzone.le]
  unfold directionalJointLimitScale
  rw [hmax]
  have hne : eq zone (zero : δ) = false := by simpa using hzone.ne'
  simp only [hne, Bool.false_eq_true, if_false, Exact.ofRat_eq, Rat.cast_one]
  congr 1
  funext scale i
  cases jointScale margin zone (joints i) (delta i) i with
  | none => rfl
  | some x => exact Exact.min_eq _ _

/-- The scale of a distance `remaining` to a soft limit. -/
def scaleOf (zone remaining : δ) : δ :=
  if remaining ≤ 0 then 0
  else if zone ≤ remaining then 1
  else (remaining / zone) * (remaining / zone) * (3 - 2 * (remaining / zone))

omit [PyMath δ] [Exact δ] in
theorem scaleOf_unit (hzone : 0 < zone) (remaining : δ) :
    0 ≤ scaleOf zone remaining ∧ scaleOf zone remaining ≤ 1 := by
  unfold scaleOf
  split_ifs with hstop hfree
  · exact ⟨le_rfl, zero_le_one⟩
  · exact ⟨zero_le_one, le_rfl⟩
  · have hpos : 0 < remaining / zone := div_pos (not_le.mp hstop) hzone
    have hlt : remaining / zone < 1 := (div_lt_one hzone).mpr (not_le.mp hfree)
    generalize remaining / zone = x at hpos hlt
    constructor
    · have : 0 ≤ 3 - 2 * x := by linarith
      positivity
    · nlinarith [mul_nonneg hpos.le (sub_nonneg.mpr hlt.le), sq_nonneg (1 - x)]

omit [PyMath δ] [Exact δ] in
/-- **The cubic**: a step of at most `8 / 9` of the zone, scaled, does not reach past the
    distance that remains. -/
theorem scaleOf_mul_le {zone step remaining : δ} (hzone : 0 < zone) (hstep : 0 ≤ step)
    (hfits : 9 / 8 * step ≤ zone) :
    scaleOf zone remaining * step ≤ Max.max remaining 0 := by
  unfold scaleOf
  split_ifs with hstop hfree
  · rw [zero_mul]
    exact le_max_right _ _
  · rw [one_mul]
    exact le_max_of_le_left (by linarith)
  · refine le_max_of_le_left ?_
    have hremaining : remaining = remaining / zone * zone := (div_mul_cancel₀ _ hzone.ne').symm
    have hpos : 0 < remaining / zone := div_pos (not_le.mp hstop) hzone
    generalize remaining / zone = x at hremaining hpos
    have hcubic : x * (3 - 2 * x) ≤ 9 / 8 := by nlinarith [sq_nonneg (x - 3 / 4)]
    calc x * x * (3 - 2 * x) * step = x * (x * (3 - 2 * x) * step) := by ring
      _ ≤ x * (9 / 8 * step) :=
          mul_le_mul_of_nonneg_left (mul_le_mul_of_nonneg_right hcubic hstep) hpos.le
      _ ≤ x * zone := mul_le_mul_of_nonneg_left hfits hpos.le
      _ = remaining := hremaining.symm

/-- The scale of a joint that moves up or down. -/
theorem jointScale_eq (margin joint step : δ) (i : Fin 6) :
    jointScale margin zone joint step i =
      if 0 < step then some (scaleOf zone (safeUpper margin i - joint))
      else if step < 0 then some (scaleOf zone (joint - safeLower margin i))
      else none := by
  unfold jointScale scaleOf smoothStep
  simp only [Exact.lt_eq, Exact.zero_eq, decide_eq_true_eq, Exact.sub_eq, Exact.le_eq,
    Exact.mul_eq, Exact.div_eq, Exact.ofRat_eq, Rat.cast_ofNat, Rat.cast_one]
  by_cases hup : 0 < step
  · rw [if_pos hup, if_pos hup]
    rfl
  · rw [if_neg hup, if_neg hup]
    by_cases hdown : step < 0
    · rw [if_pos hdown, if_pos hdown]
      rfl
    · rw [if_neg hdown, if_neg hdown]
      rfl

/-- **The scale** is in `[0, 1]`, and at most that of any joint that moves. -/
theorem directionalJointLimitScale_spec (hzone : 0 < zone) (margin : δ)
    (joints delta : Joints δ) :
    (0 ≤ directionalJointLimitScale margin zone joints delta ∧
        directionalJointLimitScale margin zone joints delta ≤ 1) ∧
      ∀ i, (0 < delta i → directionalJointLimitScale margin zone joints delta ≤
          scaleOf zone (safeUpper margin i - joints i)) ∧
        (delta i < 0 → directionalJointLimitScale margin zone joints delta ≤
          scaleOf zone (joints i - safeLower margin i)) := by
  have hbelow := le_foldl_min_iff
    (fun i => jointScale margin zone (joints i) (delta i) i) (List.finRange 6)
  rw [directionalJointLimitScale_eq hzone]
  obtain ⟨hone, hjoints⟩ := (hbelow _ 1).mp le_rfl
  refine ⟨⟨(hbelow 0 1).mpr ⟨zero_le_one, fun i _ x hx => ?_⟩, hone⟩, fun i => ⟨?_, ?_⟩⟩
  · rw [jointScale_eq] at hx
    split_ifs at hx with hup hdown
    · rw [← Option.some.inj hx]
      exact (scaleOf_unit hzone _).1
    · rw [← Option.some.inj hx]
      exact (scaleOf_unit hzone _).1
    · cases hx
  · intro hup
    refine hjoints i (List.mem_finRange i) _ ?_
    rw [jointScale_eq, if_pos hup]
    rfl
  · intro hdown
    refine hjoints i (List.mem_finRange i) _ ?_
    rw [jointScale_eq, if_neg (not_lt.mpr hdown.le), if_pos hdown]
    rfl

/-- **A step is not scaled** if no joint moves towards a soft limit within the zone. -/
theorem directionalJointLimitScale_eq_one (hzone : 0 < zone) {margin : δ}
    {joints delta : Joints δ}
    (hup : ∀ i, 0 < delta i → zone ≤ safeUpper margin i - joints i)
    (hdown : ∀ i, delta i < 0 → zone ≤ joints i - safeLower margin i) :
    directionalJointLimitScale margin zone joints delta = 1 := by
  refine le_antisymm (directionalJointLimitScale_spec hzone margin joints delta).1.2 ?_
  have hfree : ∀ remaining, zone ≤ remaining → scaleOf zone remaining = 1 := by
    intro remaining h
    unfold scaleOf
    rw [if_neg (not_le.mpr (hzone.trans_le h)), if_pos h]
  rw [directionalJointLimitScale_eq hzone, le_foldl_min_iff]
  refine ⟨le_rfl, fun i _ x hx => ?_⟩
  rw [jointScale_eq] at hx
  split_ifs at hx with h h'
  · rw [← Option.some.inj hx, hfree _ (hup i h)]
  · rw [← Option.some.inj hx, hfree _ (hdown i h')]
  · cases hx

/-! ### One solve -/

theorem abs_bounded_le (o : PalmIkOptions δ) (delta : Joints δ) (i : Fin 6) :
    |o.bounded delta i| ≤ o.maxStep := by
  have hstep := o.maxStep_nonneg
  unfold bounded
  rw [npClip_eq_min, Exact.sub_eq, Exact.zero_eq, zero_sub, abs_le]
  constructor
  · exact le_min (le_max_right _ _) (by linarith)
  · exact min_le_right _ _

theorem scale_unit (o : PalmIkOptions δ) (joints delta : Joints δ) :
    0 ≤ directionalJointLimitScale o.margin o.zone joints delta ∧
      directionalJointLimitScale o.margin o.zone joints delta ≤ 1 := by
  have hzone : 0 ≤ o.zone := by
    unfold zone
    rw [Exact.max_eq, Exact.zero_eq]
    exact le_max_left _ _
  rcases hzone.eq_or_lt with hzero | hpos
  · have hone : directionalJointLimitScale o.margin o.zone joints delta = 1 := by
      unfold directionalJointLimitScale
      rw [Exact.max_eq, Exact.zero_eq, ← hzero, max_self]
      simp
    rw [hone]
    exact ⟨zero_le_one, le_rfl⟩
  · exact (directionalJointLimitScale_spec hpos o.margin joints delta).1

/-- The step that is attempted is that of the least squares, bounded and scaled. -/
theorem attempted_eq (o : PalmIkOptions δ) (joints delta : Joints δ) :
    ∃ scale, (0 ≤ scale ∧ scale ≤ 1) ∧
      (∀ i, o.attempted joints delta i = joints i + o.bounded delta i * scale) ∧
      (o.ikSolverMode = .directionalLimitDls →
        scale = directionalJointLimitScale o.margin o.zone joints (o.bounded delta)) := by
  unfold attempted
  cases hscales : o.scales joints with
  | true =>
    refine ⟨directionalJointLimitScale o.margin o.zone joints (o.bounded delta),
      scale_unit o joints _, fun i => ?_, fun _ => rfl⟩
    simp
  | false =>
    refine ⟨1, ⟨zero_le_one, le_rfl⟩, fun i => by simp, fun hmode => ?_⟩
    unfold scales at hscales
    rw [hmode] at hscales
    cases hscales

theorem abs_attempted_sub_le (o : PalmIkOptions δ) (joints delta : Joints δ) (i : Fin 6) :
    |o.attempted joints delta i - joints i| ≤ o.maxStep := by
  obtain ⟨scale, ⟨hnonneg, hone⟩, hattempted, -⟩ := o.attempted_eq joints delta
  rw [hattempted, add_sub_cancel_left, abs_mul, abs_of_nonneg hnonneg]
  calc |o.bounded delta i| * scale ≤ o.maxStep * 1 :=
        mul_le_mul (o.abs_bounded_le delta i) hone hnonneg o.maxStep_nonneg
    _ = o.maxStep := mul_one _

theorem clipSolverStep_inside {previous attempted : Joints δ} (h : Inside previous) (i : Fin 6) :
    clipSolverStep previous attempted i =
      Min.min (Max.max (attempted i) (-(jakaMini2JointLimitRad i : δ)))
        (jakaMini2JointLimitRad i : δ) := by
  obtain ⟨hlow, hhigh⟩ := abs_le.mp (h i)
  unfold clipSolverStep clipJointsToSafeLimits
  rw [npClip_eq_min]
  simp [safeLower, safeUpper, safeMargin, not_lt.mpr hlow, not_lt.mpr hhigh]

/-- **A solve** from inside moves every joint by at most the largest step. -/
theorem abs_solve_sub_le (h : Inside ik.armJointsRad)
    (outcome : Option (Joints δ)) (i : Fin 6) :
    |(o.solve ik outcome).armJointsRad i - ik.armJointsRad i| ≤ o.maxStep := by
  cases outcome with
  | none =>
    show |ik.armJointsRad i - ik.armJointsRad i| ≤ o.maxStep
    rw [sub_self, abs_zero]
    exact o.maxStep_nonneg
  | some delta =>
    obtain ⟨hlow, hhigh⟩ := abs_le.mp (h i)
    obtain ⟨hdown, hup⟩ := abs_le.mp (o.abs_attempted_sub_le ik.armJointsRad delta i)
    show |clipSolverStep ik.armJointsRad (o.attempted ik.armJointsRad delta) i - _| ≤ _
    rw [clipSolverStep_inside h, abs_le]
    have hstep := o.maxStep_nonneg
    constructor
    · have : ik.armJointsRad i - o.maxStep ≤ Min.min (Max.max (o.attempted ik.armJointsRad delta i)
          (-(jakaMini2JointLimitRad i : δ))) (jakaMini2JointLimitRad i : δ) :=
        le_min (le_max_of_le_left (by linarith)) (by linarith)
      linarith
    · have : Min.min (Max.max (o.attempted ik.armJointsRad delta i)
          (-(jakaMini2JointLimitRad i : δ))) (jakaMini2JointLimitRad i : δ) ≤
            ik.armJointsRad i + o.maxStep :=
        (min_le_left _ _).trans (max_le (by linarith) (by linarith))
      linarith

/-! ### The soft limits -/

/-- A directional solver whose largest step fits the zone. -/
structure Directional (o : PalmIkOptions δ) : Prop where
  mode : o.ikSolverMode = .directionalLimitDls
  zone : 0 < o.zone
  fits : 9 / 8 * o.maxStep ≤ o.zone

/-- What is attempted lies between the soft limits and the joint. -/
theorem Directional.attempted_between (ho : o.Directional) (joints delta : Joints δ) (i : Fin 6) :
    Min.min (safeLower o.margin i) (joints i) ≤ o.attempted joints delta i ∧
      o.attempted joints delta i ≤ Max.max (safeUpper o.margin i) (joints i) := by
  obtain ⟨scale, ⟨hnonneg, -⟩, hattempted, hscale⟩ := o.attempted_eq joints delta
  obtain ⟨-, hjoint⟩ := directionalJointLimitScale_spec ho.zone o.margin joints (o.bounded delta)
  rw [← hscale ho.mode] at hjoint
  have hbounded := o.abs_bounded_le delta i
  -- the part of a step that is left by the scale of its direction
  have hpart : ∀ remaining, scale ≤ scaleOf o.zone remaining →
      scale * |o.bounded delta i| ≤ Max.max remaining 0 := by
    intro remaining hle
    calc scale * |o.bounded delta i| ≤ scaleOf o.zone remaining * o.maxStep :=
          mul_le_mul hle hbounded (abs_nonneg _) (scaleOf_unit ho.zone _).1
      _ ≤ Max.max remaining 0 := scaleOf_mul_le ho.zone o.maxStep_nonneg ho.fits
  rw [hattempted]
  rcases lt_trichotomy (o.bounded delta i) 0 with hdown | hstill | hup
  · have hleft := hpart _ ((hjoint i).2 hdown)
    rw [abs_of_neg hdown] at hleft
    have hmoved : o.bounded delta i * scale ≤ 0 := mul_nonpos_of_nonpos_of_nonneg hdown.le hnonneg
    refine ⟨?_, le_max_of_le_right (by linarith)⟩
    rcases le_total (joints i) (safeLower o.margin i) with h | h
    · rw [max_eq_right (by linarith)] at hleft
      exact min_le_of_right_le (by linarith)
    · rw [max_eq_left (by linarith)] at hleft
      exact min_le_of_left_le (by linarith)
  · rw [hstill, zero_mul, add_zero]
    exact ⟨min_le_right _ _, le_max_right _ _⟩
  · have hleft := hpart _ ((hjoint i).1 hup)
    rw [abs_of_pos hup] at hleft
    have hmoved : 0 ≤ o.bounded delta i * scale := mul_nonneg hup.le hnonneg
    refine ⟨min_le_of_right_le (by linarith), ?_⟩
    rcases le_total (safeUpper o.margin i) (joints i) with h | h
    · rw [max_eq_right (by linarith)] at hleft
      exact le_max_of_le_right (by linarith)
    · rw [max_eq_left (by linarith)] at hleft
      exact le_max_of_le_left (by linarith)

/-- The clip at the manufacturer limits has nothing to do. -/
theorem Directional.solve_eq (ho : o.Directional) (ik : IkState δ) (delta : Joints δ) :
    (o.solve ik (some delta)).armJointsRad = o.attempted ik.armJointsRad delta := by
  funext i
  obtain ⟨hlow, hhigh⟩ := ho.attempted_between ik.armJointsRad delta i
  have hmargin := o.margin_nonneg
  rw [safeLower_margin] at hlow
  rw [safeUpper_margin] at hhigh
  show clipSolverStep ik.armJointsRad (o.attempted ik.armJointsRad delta) i = _
  unfold clipSolverStep clipJointsToSafeLimits
  rw [npClip_eq_min]
  have hlower : safeLower (zero : δ) i = -(jakaMini2JointLimitRad i : δ) := by
    simp [safeLower, safeMargin]
  have hupper : safeUpper (zero : δ) i = (jakaMini2JointLimitRad i : δ) := by
    simp [safeUpper, safeMargin]
  simp only [hlower, hupper, Exact.lt_eq, Exact.le_eq, Bool.and_eq_true, decide_eq_true_eq]
  split_ifs with hbelow habove
  · rfl
  · rfl
  · have hfirst : -(jakaMini2JointLimitRad i : δ) ≤ o.attempted ik.armJointsRad delta i := by
      rcases lt_or_ge (ik.armJointsRad i) (-(jakaMini2JointLimitRad i : δ)) with h | h
      · rw [min_eq_right (by linarith)] at hlow
        exact absurd ⟨h, hlow⟩ hbelow
      · exact (le_min (by linarith) h).trans hlow
    have hsecond : o.attempted ik.armJointsRad delta i ≤ (jakaMini2JointLimitRad i : δ) := by
      rcases lt_or_ge (jakaMini2JointLimitRad i : δ) (ik.armJointsRad i) with h | h
      · rw [max_eq_right (by linarith)] at hhigh
        exact absurd ⟨h, hhigh⟩ habove
      · exact hhigh.trans (max_le (by linarith) h)
    rw [max_eq_left hfirst, min_eq_left hsecond]

/-- The joint stays inside its soft limits, or goes no further out of them. -/
structure KeepsSoft (o : PalmIkOptions δ) (i : Fin 6) (q q' : δ) : Prop where
  inside : safeLower o.margin i ≤ q → q ≤ safeUpper o.margin i →
    safeLower o.margin i ≤ q' ∧ q' ≤ safeUpper o.margin i
  below : q < safeLower o.margin i → q ≤ q'
  above : safeUpper o.margin i < q → q' ≤ q

/-- **The soft limits** are kept by every solve. -/
theorem Directional.keepsSoft (ho : o.Directional) (ik : IkState δ) (outcome : Option (Joints δ))
    (i : Fin 6) : KeepsSoft o i (ik.armJointsRad i) ((o.solve ik outcome).armJointsRad i) := by
  cases outcome with
  | none => exact ⟨fun hlow hhigh => ⟨hlow, hhigh⟩, fun _ => le_rfl, fun _ => le_rfl⟩
  | some delta =>
    obtain ⟨hlow, hhigh⟩ := ho.attempted_between ik.armJointsRad delta i
    rw [ho.solve_eq]
    constructor
    · intro hlower hupper
      rw [min_eq_left hlower] at hlow
      rw [max_eq_left hupper] at hhigh
      exact ⟨hlow, hhigh⟩
    · intro hbelow
      rwa [min_eq_right hbelow.le] at hlow
    · intro habove
      rwa [max_eq_right habove.le] at hhigh

/-- Every joint within the zone of a soft limit moves away from it, or stands still. -/
def NearMoveInward (o : PalmIkOptions δ) (joints delta : Joints δ) : Prop :=
  ∀ i, (safeUpper o.margin i - joints i < o.zone → o.bounded delta i ≤ 0) ∧
    (joints i - safeLower o.margin i < o.zone → 0 ≤ o.bounded delta i)

/-- **An inward step** is taken whole. -/
theorem Directional.solve_inward (ho : o.Directional) {delta : Joints δ}
    (h : NearMoveInward o ik.armJointsRad delta) :
    (o.solve ik (some delta)).armJointsRad =
      fun i => ik.armJointsRad i + o.bounded delta i := by
  obtain ⟨scale, -, hattempted, hscale⟩ := o.attempted_eq ik.armJointsRad delta
  have hone : scale = 1 := by
    rw [hscale ho.mode]
    refine directionalJointLimitScale_eq_one ho.zone (fun i hup => ?_) (fun i hdown => ?_)
    · exact not_lt.mp fun hnear => absurd ((h i).1 hnear) (not_le.mpr hup)
    · exact not_lt.mp fun hnear => absurd ((h i).2 hnear) (not_le.mpr hdown)
  rw [ho.solve_eq]
  funext i
  rw [hattempted, hone, mul_one]

/-! ### Runs -/

/-- What a solve owes. -/
structure SolveKept (o : PalmIkOptions δ) (before : IkState δ) (outcome : Option (Joints δ)) :
    Prop where
  bounded : ∀ i, |(o.solve before outcome).armJointsRad i - before.armJointsRad i| ≤ o.maxStep
  soft : o.Directional → ∀ i,
    KeepsSoft o i (before.armJointsRad i) ((o.solve before outcome).armJointsRad i)
  inward : o.Directional → ∀ delta ∈ outcome, NearMoveInward o before.armJointsRad delta →
    (o.solve before outcome).armJointsRad = fun i => before.armJointsRad i + o.bounded delta i

/-- What a call owes: joints inside the manufacturer limits, and every solve. -/
def CallKept (o : PalmIkOptions δ) (ik : IkState δ) (c : IkCall δ) : Prop :=
  Inside (o.call ik c).armJointsRad ∧ ∀ before ∈ o.solvesOf ik c, SolveKept o before.1 before.2

theorem callKept (hmargin : o.margin ≤ 209 / 50) (h : Inside ik.armJointsRad)
    (c : IkCall δ) (hroll : c.WithoutRoll) : CallKept o ik c := by
  obtain ⟨hinside, hsolves⟩ := inside_call hmargin h c hroll
  refine ⟨hinside, fun before hbefore =>
    ⟨abs_solve_sub_le (hsolves before hbefore) _, fun ho => ho.keepsSoft _ _, ?_⟩⟩
  intro ho delta hdelta hinward
  rw [Option.mem_def.mp hdelta]
  exact ho.solve_inward hinward

end PalmIkOptions

open PalmIkOptions

/-- **Joint limits**: for every run of public calls in which no position target rolls the
    wrist, the joints are inside the manufacturer limits from the construction on, and
    every solve is bounded and keeps the soft limits, exactly if the margin is at most
    twice the smallest of the manufacturer limits. -/
theorem joints_within_limits_iff (o : PalmIkOptions δ) :
    (∀ (initial : Joints δ) (calls : List (IkCall δ)), (∀ c ∈ calls, c.WithoutRoll) →
        Inside (o.construct initial).armJointsRad ∧
          Meets o.call (CallKept o) (o.construct initial) calls) ↔
      o.margin ≤ 209 / 50 := by
  constructor
  · intro h
    by_contra hlarge
    exact not_inside_clipped (not_le.mp hlarge) _
      (h (fun _ => 0) [] fun c hc => absurd hc List.not_mem_nil).1
  · intro hmargin initial calls hcalls
    have hinitial : Inside (o.construct initial).armJointsRad := inside_clipped hmargin initial
    refine ⟨hinitial, ?_⟩
    refine (meets_iff_of_invariant_on (C := fun _ _ => True) (P := fun ik => Inside ik.armJointsRad)
      (fun ik c hroll hik => ?_) (fun ik c hroll hik _ => (inside_call hmargin hik c hroll).1)
      hinitial hcalls).mp (meets_of_forall (fun _ _ => trivial) _)
    exact iff_of_true trivial (callKept hmargin hik c hroll)

end Exact

/-! ## A margin beyond the limits -/

attribute [local instance] exactPyMath

/-- The defaults of the constructor, with a margin. -/
def palmIkOptions (margin : ℚ) : PalmIkOptions ℚ where
  ikMaxStepRad := 25 / 1000
  ikIterations := 4
  jointLimitMarginRad := margin
  jointLimitAvoidanceZoneRad := 349 / 1000
  ikSolverMode := .directionalLimitDls

/-- A target whose solves ask every joint to move on by a radian. -/
def outwardTarget : IkCall ℚ :=
  .applyPositionTarget 0 (1 / 60) false (fun _ => false) fun _ => some fun _ => 1

/-- The second joint starts 0.103 rad before its soft limit; four solves take it nearer. -/
theorem joints_within_limits_default :
    (Inside ((palmIkOptions (87 / 1000)).construct fun _ => 19 / 10).armJointsRad ∧
      Meets (palmIkOptions (87 / 1000)).call (palmIkOptions (87 / 1000)).CallKept
        ((palmIkOptions (87 / 1000)).construct fun _ => 19 / 10)
        [outwardTarget, .setArmJoints fun _ => -9]) ∧
    19 / 10 < ((palmIkOptions (87 / 1000)).call
      ((palmIkOptions (87 / 1000)).construct fun _ => 19 / 10) outwardTarget).armJointsRad 1 := by
  refine ⟨(joints_within_limits_iff (palmIkOptions (87 / 1000))).mpr (by decide +kernel) _ _ ?_,
    by decide +kernel⟩
  intro c hc
  rcases List.mem_cons.mp hc with rfl | hc
  · rfl
  · rw [List.mem_singleton.mp hc]
    trivial

/-- **A margin of 5 rad** puts the second joint outside, from the construction on. -/
theorem wide_margin_outside :
    ¬Inside ((palmIkOptions 5).construct fun _ => 0).armJointsRad := by
  refine PalmIkOptions.not_inside_clipped ?_ _
  decide +kernel

end HandLab.TargetGenerator
