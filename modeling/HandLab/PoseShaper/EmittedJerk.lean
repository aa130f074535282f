import HandLab.PoseShaper.Dynamics
import HandLab.ServoWorker.JointTracker
import HandLab.TargetGenerator.Authority

/-!
# The jerk of what is emitted

The velocity clamp of the third-order law changes the emitted acceleration, and the
acceleration that the law keeps and reports does not know of it. Velocities and
accelerations that are emitted stay within their limits; the emitted jerk does
exactly as long as there is slack below the velocity limit.

* `linear_chain`, `angular_chain`: the axes of the shaper in a run of updates.
* `emitted_third_order`: the bounds of what the joint tracker and the pose shaper
  emit from rest.
* `emitted_jerk_exceeded`: both exceed their jerk limit with their default limits.
-/

namespace HandLab.PoseShaper

open HandLab.Lib Double NumPy PyMath
open HandLab.Teleoperation
open HandLab.TargetGenerator (npClip)
open HandLab.ServoWorker
open JerkLimitedPoseShaper

variable {δ : Type*} [PyMath δ]

/-! ## Runs of the shaper -/

namespace JerkLimitedPoseShaper

/-- The targets of successive updates, until one raises, with the shapers after them. -/
def updates : JerkLimitedPoseShaper δ → List (UpdateCall δ) →
    List (PoseTarget δ × JerkLimitedPoseShaper δ)
  | _, [] => []
  | s, call :: calls =>
    match s.update call with
    | (.error _, _) => []
    | (.ok target, next) => (target, next) :: updates next calls

/-- The emitted positions on a linear axis. -/
def emittedPositions (s : JerkLimitedPoseShaper δ) (calls : List (UpdateCall δ)) (i : Fin 3) :
    List δ :=
  (updates s calls).map fun emission => emission.1.pose.positionM i

end JerkLimitedPoseShaper

/-- An emission is of a shaper that moved. -/
theorem updates_cons (s : JerkLimitedPoseShaper δ) (call : UpdateCall δ)
    (calls : List (UpdateCall δ)) :
    updates s (call :: calls) = [] ∨
      ∃ target pose clipped next timestampNs error,
        Moves s call (s.update call).2 pose clipped next timestampNs error ∧
          Emits (s.update call).2 target ∧
          updates s (call :: calls) =
            (target, (s.update call).2) :: updates (s.update call).2 calls := by
  cases hresult : (s.update call).1 with
  | error error =>
    left
    unfold updates
    rw [show s.update call = (.error error, (s.update call).2) from Prod.ext hresult rfl]
  | ok target =>
    right
    rcases update_moves s call with ⟨hnone, -⟩ |
      ⟨⟨pose, clipped, next, timestampNs, error, hmoves⟩, hemits⟩
    · exact absurd hresult (hnone target)
    · refine ⟨target, pose, clipped, next, timestampNs, error, hmoves, hemits target hresult, ?_⟩
      conv_lhs => unfold updates
      rw [show s.update call = (.ok target, (s.update call).2) from Prod.ext hresult rfl]

/-- Velocities integrated over steps of `dt`, from an angle on. -/
def integrated (dt : δ) : δ → List δ → List δ
  | _, [] => []
  | angle, velocity :: rest =>
    add angle (mul velocity dt) :: integrated dt (add angle (mul velocity dt)) rest

/-- The rotation about an angular axis that the emitted velocities make. -/
def emittedAngles (dt : δ) (s : JerkLimitedPoseShaper δ) (calls : List (UpdateCall δ))
    (i : Fin 3) : List δ :=
  integrated dt zero ((updates s calls).map fun emission => emission.1.angularVelocityRadS i)

/-- Calls at a constant step after a timestamp. -/
def Paced (stepNs timestampNs : ℤ) (calls : List (UpdateCall δ)) : Prop :=
  (timestampNs :: calls.map UpdateCall.nowNs).IsChain fun earlier later => later - earlier = stepNs

def stepSeconds (stepNs : ℤ) : δ := div (ofInt stepNs) (ofRat (10 ^ 9))

section Exact

variable [Field δ] [LinearOrder δ] [IsStrictOrderedRing δ] [Exact δ]

theorem stepSeconds_pos {stepNs : ℤ} (h : 0 < stepNs) : 0 < (stepSeconds stepNs : δ) := by
  unfold stepSeconds Double.ofInt
  rw [Exact.div_eq, Exact.ofRat_eq, Exact.ofRat_eq]
  have hcast : (0 : δ) < ((stepNs : ℚ) : δ) := by exact_mod_cast h
  push_cast at hcast ⊢
  positivity

/-- A motion along the angular axes, with the angles turned. -/
def angularMotions (dt : δ) (i : Fin 3) : δ → List (PoseTarget δ × JerkLimitedPoseShaper δ) →
    List (AxisMotion δ)
  | _, [] => []
  | angle, emission :: rest =>
    ⟨angle + emission.2.angularVelocity i * dt, emission.2.angularVelocity i,
        emission.2.angularAcceleration i⟩ ::
      angularMotions dt i (angle + emission.2.angularVelocity i * dt) rest

variable {s : JerkLimitedPoseShaper δ} {limits : CartesianMotionLimits δ}
  (hpositive : limits.Positive) {stepNs : ℤ} (hstep : 0 < stepNs)

/-- A linear axis, in a run at a constant step. -/
theorem linear_chain (hlimits : s.limits = limits) {pose : Pose3D δ} (hpose : s.pose = some pose)
    {timestampNs : ℤ} (htimestamp : s.timestampNs = some timestampNs)
    {calls : List (UpdateCall δ)} (hpaced : Paced stepNs timestampNs calls) (i : Fin 3) :
    (⟨pose.positionM i, s.linearVelocity i, s.linearAcceleration i⟩ ::
      (updates s calls).map fun emission =>
        (⟨emission.1.pose.positionM i, emission.2.linearVelocity i,
          emission.2.linearAcceleration i⟩ : AxisMotion δ)).IsChain
      (limits.linear hpositive (stepSeconds_pos hstep)).Follows := by
  induction calls generalizing s pose timestampNs with
  | nil => exact List.isChain_singleton _
  | cons call calls ih =>
    obtain ⟨hnow, hpaced⟩ := List.isChain_cons_cons.mp hpaced
    rcases updates_cons s call calls with hnil |
      ⟨target, pose', clipped, next, timestampNs', error, hmoves, hemits, hupdates⟩
    · rw [hnil]
      exact List.isChain_singleton _
    · rw [hupdates, List.map_cons, List.isChain_cons_cons]
      subst hlimits
      obtain ⟨hpose', htimestamp'⟩ := hmoves.starts
      rw [hpose, Option.some.injEq] at hpose'
      rw [htimestamp, Option.some.injEq] at htimestamp'
      subst hpose' htimestamp'
      obtain ⟨harrives, hnowNs⟩ := hmoves.arrives
      have htarget : target.pose = next := by
        rw [hemits.pose, Option.some.injEq] at harrives
        exact harrives
      have hdt : stepDt timestampNs call = (stepSeconds stepNs : δ) := by
        unfold stepDt stepSeconds
        rw [hnow]
      refine ⟨⟨desiredVelocity _ (clipped.positionM i - pose.positionM i),
        abs_desiredVelocity_le _ _, ?_⟩, ih hmoves.keeps.1 hemits.pose hnowNs hpaced⟩
      rw [htarget]
      exact hmoves.linear_advance hpositive (stepSeconds_pos hstep) hdt i

/-- An angular axis, in a run at a constant step. -/
theorem angular_chain (hlimits : s.limits = limits) {timestampNs : ℤ}
    (htimestamp : s.timestampNs = some timestampNs) {calls : List (UpdateCall δ)}
    (hpaced : Paced stepNs timestampNs calls) (i : Fin 3) (angle : δ) :
    (⟨angle, s.angularVelocity i, s.angularAcceleration i⟩ ::
      angularMotions (stepSeconds stepNs) i angle (updates s calls)).IsChain
      (limits.angular hpositive (stepSeconds_pos hstep)).Follows := by
  induction calls generalizing s timestampNs angle with
  | nil => exact List.isChain_singleton _
  | cons call calls ih =>
    obtain ⟨hnow, hpaced⟩ := List.isChain_cons_cons.mp hpaced
    rcases updates_cons s call calls with hnil |
      ⟨target, pose, clipped, next, timestampNs', error, hmoves, hemits, hupdates⟩
    · rw [hnil]
      exact List.isChain_singleton _
    · rw [hupdates, angularMotions, List.isChain_cons_cons]
      subst hlimits
      have htimestamp' := hmoves.starts.2
      rw [htimestamp, Option.some.injEq] at htimestamp'
      subst htimestamp'
      have hdt : stepDt timestampNs call = (stepSeconds stepNs : δ) := by
        unfold stepDt stepSeconds
        rw [hnow]
      exact ⟨⟨desiredVelocity _ (error i), abs_desiredVelocity_le _ _,
        hmoves.angular_advance hpositive (stepSeconds_pos hstep) hdt i angle⟩,
        ih hmoves.keeps.1 hmoves.arrives.2 hpaced _⟩

/-- The angles turned are those of the emitted velocities. -/
theorem integrated_updates (dt : δ) (i : Fin 3) (angle : δ) (s : JerkLimitedPoseShaper δ)
    (calls : List (UpdateCall δ)) :
    integrated dt angle ((updates s calls).map fun emission => emission.1.angularVelocityRadS i) =
      (angularMotions dt i angle (updates s calls)).map AxisMotion.position := by
  induction calls generalizing s angle with
  | nil => rfl
  | cons call calls ih =>
    rcases updates_cons s call calls with hnil |
      ⟨target, pose, clipped, next, timestampNs', error, hmoves, hemits, hupdates⟩
    · rw [hnil]
      rfl
    · rw [hupdates, List.map_cons, integrated, angularMotions, List.map_cons, ih]
      rw [hemits.angular, Exact.add_eq, Exact.mul_eq]

/-- **Emitted motion has third-order bounds**, for the joint tracker and for the pose
    shaper at a constant step, exactly if every step of it finds slack below the
    velocity limit. -/
theorem emitted_third_order {o : TrackerOptions δ} (ho : o.Positive)
    (haccepts : limits.postInit = .ok ()) (hstep : 0 < stepNs) :
    (∀ (t : JerkBoundedJointTracker δ) (position : Resampler.Joints δ)
        (targets : List (Resampler.Joints δ)) (joint : Fin 6),
      (o.limits ho).KeepsBounds (position joint)
          (JerkBoundedJointTracker.emitted o (t.reset position) targets joint) ↔
        (o.limits ho).LeavesSlack (position joint)
          (JerkBoundedJointTracker.emitted o (t.reset position) targets joint)) ∧
      ∀ (pose : Pose3D δ) (timestampNs : ℤ) (calls : List (UpdateCall δ)),
        Paced stepNs timestampNs calls → ∀ i,
        ((limits.linear (postInit_positive haccepts) (stepSeconds_pos hstep)).KeepsBounds
            (pose.positionM i)
            (emittedPositions ((construct limits).reset pose timestampNs) calls i) ↔
          (limits.linear (postInit_positive haccepts) (stepSeconds_pos hstep)).LeavesSlack
            (pose.positionM i)
            (emittedPositions ((construct limits).reset pose timestampNs) calls i)) ∧
        ((limits.angular (postInit_positive haccepts) (stepSeconds_pos hstep)).KeepsBounds 0
            (emittedAngles (stepSeconds stepNs) ((construct limits).reset pose timestampNs)
              calls i) ↔
          (limits.angular (postInit_positive haccepts) (stepSeconds_pos hstep)).LeavesSlack 0
            (emittedAngles (stepSeconds stepNs) ((construct limits).reset pose timestampNs)
              calls i)) := by
  refine ⟨JerkBoundedJointTracker.emitted_keepsBounds_iff ho, ?_⟩
  intro pose timestampNs calls hpaced i
  constructor
  · have hchain := linear_chain (postInit_positive haccepts) hstep
      (s := (construct limits).reset pose timestampNs) rfl rfl rfl hpaced i
    have hrest : (⟨pose.positionM i,
        ((construct limits).reset pose timestampNs).linearVelocity i,
        ((construct limits).reset pose timestampNs).linearAcceleration i⟩ : AxisMotion δ) =
          MotionLimits.rest (pose.positionM i) := by
      unfold reset MotionLimits.rest
      simp
    rw [hrest] at hchain
    have hpositions : emittedPositions ((construct limits).reset pose timestampNs) calls i =
        ((updates ((construct limits).reset pose timestampNs) calls).map fun emission =>
          (⟨emission.1.pose.positionM i, emission.2.linearVelocity i,
            emission.2.linearAcceleration i⟩ : AxisMotion δ)).map AxisMotion.position := by
      rw [List.map_map]
      rfl
    rw [hpositions]
    exact MotionLimits.keepsBounds_iff hchain
  · have hchain := angular_chain (postInit_positive haccepts) hstep
      (s := (construct limits).reset pose timestampNs) rfl rfl hpaced i 0
    have hrest : (⟨0, ((construct limits).reset pose timestampNs).angularVelocity i,
        ((construct limits).reset pose timestampNs).angularAcceleration i⟩ : AxisMotion δ) =
          MotionLimits.rest 0 := by
      unfold reset MotionLimits.rest
      simp
    rw [hrest] at hchain
    unfold emittedAngles
    rw [Exact.zero_eq, integrated_updates]
    exact MotionLimits.keepsBounds_iff hchain

end Exact

/-! ## Where the velocity clamp shows -/

attribute [local instance] TargetGenerator.exactPyMath

/-- The defaults of `Options`. -/
def defaultOptions : TrackerOptions ℚ where
  servoPeriodNs := Resampler.controllerServoPeriodNs
  jointVelocityLimitRadS := 3 / 100
  jointAccelerationLimitRadS2 := 15 / 100
  jointJerkLimitRadS3 := 3 / 2
  jointSoftMarginRad := 8726646259971647 / 10 ^ 17

theorem defaultOptions_positive : defaultOptions.Positive where
  period := by decide
  velocity := by norm_num [defaultOptions]
  acceleration := by norm_num [defaultOptions]
  jerk := by norm_num [defaultOptions]

/-- The defaults of `CartesianMotionLimits`. -/
def defaultLimits : CartesianMotionLimits ℚ where
  workspaceHalfExtentM := ![15 / 1000, 15 / 1000, 15 / 1000]
  maximumOrientationDeviationRad := radians 4
  maximumLinearSpeedMS := 8 / 1000
  maximumLinearAccelerationMS2 := 30 / 1000
  maximumLinearJerkMS3 := 150 / 1000
  maximumAngularSpeedRadS := radians 4
  maximumAngularAccelerationRadS2 := radians 15
  maximumAngularJerkRadS3 := radians 60
  maximumStepDtS := 50 / 1000

theorem defaultLimits_facts : defaultLimits.postInit = .ok () ∧
    (∀ i, 0 < defaultLimits.effectiveExtent i) ∧
    0 < sub defaultLimits.maximumOrientationDeviationRad defaultLimits.angularGuard := by
  decide +kernel

theorem defaultLimits_accepted : defaultLimits.postInit = .ok () := defaultLimits_facts.1

/-- A pose with the identity orientation. -/
def poseAt (x : ℚ) : Pose3D ℚ := ⟨![x, 0, 0], ![0, 0, 0, 1]⟩

/-- A call for a target on the first axis, after `n` steps of 50 ms. -/
def callAt (x : ℚ) (n : ℕ) : UpdateCall ℚ where
  target := poseAt x
  sourceId := "synthetic"
  sequence := n
  sourceTimestamps := { localReceiveNs := 0 }
  nowNs := n * 50000000

/-- The first axis, a step of 50 ms towards a target later. -/
def axisStep (limits : CartesianMotionLimits ℚ) (m : AxisMotion ℚ) (target : ℚ) : AxisMotion ℚ :=
  let next := boundedDynamicsStep (1 / 20) limits.maximumLinearSpeedMS
    limits.maximumLinearAccelerationMS2 limits.maximumLinearJerkMS3
    (npClip target (-limits.effectiveExtent 0) (limits.effectiveExtent 0) - m.position)
    m.velocity m.acceleration
  ⟨m.position + next.1 * (1 / 20), next.1, next.2⟩

/-- Limits that admit steps of 50 ms. -/
structure Steps50ms (limits : CartesianMotionLimits ℚ) : Prop where
  positive : limits.Positive
  maximumStepDtS : 1 / 20 ≤ limits.maximumStepDtS
  effectiveExtent : ∀ i, 0 < limits.effectiveExtent i
  orientation : 0 < sub limits.maximumOrientationDeviationRad limits.angularGuard

/-- The shaper has moved along the first axis only, `n` steps after a reset at the origin. -/
structure Straight (limits : CartesianMotionLimits ℚ) (m : AxisMotion ℚ) (n : ℕ)
    (s : JerkLimitedPoseShaper ℚ) : Prop where
  limits : s.limits = limits
  anchor : s.anchor = some (poseAt 0)
  pose : s.pose = some (poseAt m.position)
  timestampNs : s.timestampNs = some ((n : ℤ) * 50000000)
  linearVelocity : s.linearVelocity = ![m.velocity, 0, 0]
  linearAcceleration : s.linearAcceleration = ![m.acceleration, 0, 0]
  angularVelocity : s.angularVelocity = fun _ => 0
  angularAcceleration : s.angularAcceleration = fun _ => 0

theorem npClip_zero {limit : ℚ} (h : 0 ≤ limit) : npClip 0 (-limit) limit = 0 := by
  rw [npClip_eq h]
  simp [saturate, h]

theorem boundedDynamicsStep_rest {dt velocity acceleration jerk : ℚ} (hdt : 0 < dt)
    (hvelocity : 0 < velocity) (hacceleration : 0 < acceleration) (hjerk : 0 < jerk) :
    boundedDynamicsStep dt velocity acceleration jerk 0 0 0 = (0, 0) := by
  have hstep := boundedDynamicsStep_eq
    ⟨velocity, acceleration, jerk, dt, hvelocity, hacceleration, hjerk, hdt⟩ 0
    (MotionLimits.rest 0)
  have hbound : 0 ≤ jerk * dt := (mul_pos hjerk hdt).le
  refine hstep.trans ?_
  simp [MotionLimits.advance, MotionLimits.accelerate, MotionLimits.rest, desiredVelocity,
    saturate, hvelocity.le, hacceleration.le, hbound]

/-- Without a rotation. -/
theorem identity_facts : rotationBetween (poseAt 0) (poseAt 0) = some (fun _ => 0) ∧
    quaternionExp (fun _ => 0 : Vector3 ℚ) = some ![0, 0, 0, 1] ∧
    quaternionMultiply (![0, 0, 0, 1] : QuaternionXyzw ℚ) ![0, 0, 0, 1] = some ![0, 0, 0, 1] ∧
    NumPy.sqrt (1 : ℚ) = 1 ∧ NumPy.norm (fun _ => 0 : Vector3 ℚ) = 0 := by
  decide +kernel

theorem rotationBetween_poseAt (x y : ℚ) :
    rotationBetween (poseAt x) (poseAt y) = some fun _ => 0 :=
  identity_facts.1

theorem turnedTo_poseAt (x : ℚ) (p : Vector3 ℚ) :
    turnedTo (poseAt x) p (fun _ => 0) = some ⟨p, ![0, 0, 0, 1]⟩ := by
  obtain ⟨-, hexp, hmultiply, hlength, -⟩ := identity_facts
  have hchecked : Pose3D.checked p (![0, 0, 0, 1] : QuaternionXyzw ℚ) =
      some ⟨p, ![0, 0, 0, 1]⟩ := by
    simp [Pose3D.checked, allFinite, hlength]
    norm_num
  unfold turnedTo poseAt
  rw [hexp]
  show (do
    let orientation ← quaternionMultiply (![0, 0, 0, 1] : QuaternionXyzw ℚ) ![0, 0, 0, 1]
    Pose3D.checked p orientation) = _
  rw [hmultiply]
  exact hchecked

theorem stepDt_callAt (x : ℚ) (n : ℕ) :
    stepDt (n * 50000000) (callAt x (n + 1)) = (1 / 20 : ℚ) := by
  unfold stepDt callAt Double.ofInt
  simp only [Exact.div_eq, Exact.ofRat_eq]
  push_cast
  ring

variable {m : AxisMotion ℚ}

theorem Straight.clipTarget {limits : CartesianMotionLimits ℚ} (hlimits : Steps50ms limits)
    {n : ℕ} {s : JerkLimitedPoseShaper ℚ} (h : Straight limits m n s) (x : ℚ) :
    s.clipTarget (poseAt x) =
      .ok (poseAt (npClip x (-limits.effectiveExtent 0) (limits.effectiveExtent 0)),
        !allClose (s.clippedPosition (poseAt 0) (poseAt x)) (poseAt x).positionM, false) := by
  have hposition : s.clippedPosition (poseAt 0) (poseAt x) =
      ![npClip x (-limits.effectiveExtent 0) (limits.effectiveExtent 0), 0, 0] := by
    funext i
    have hpositive := hlimits.effectiveExtent i
    unfold clippedPosition poseAt
    rw [h.limits]
    fin_cases i
    · simp
    · simpa using npClip_zero hpositive.le
    · simpa using npClip_zero hpositive.le
  have hextent : ((List.finRange 3).any fun i => le (limits.effectiveExtent i) zero) = false := by
    simp [List.any_eq_false, hlimits.effectiveExtent]
  have horientation := hlimits.orientation
  have hnorm := identity_facts.2.2.2.2
  unfold JerkLimitedPoseShaper.clipTarget
  rw [h.anchor, h.limits]
  dsimp only
  rw [hextent, rotationBetween_poseAt]
  dsimp only
  rw [hnorm]
  have hle : le (sub limits.maximumOrientationDeviationRad limits.angularGuard) zero = false := by
    simpa using horientation
  have hlt : lt (sub limits.maximumOrientationDeviationRad limits.angularGuard) 0 = false := by
    simpa using horientation.le
  rw [hle, hlt]
  simp only [Bool.false_eq_true, if_false]
  rw [turnedTo_poseAt, hposition]
  rfl

theorem withProcessing_ok (n : ℕ) :
    ∃ timestamps, ({ localReceiveNs := 0 } : TimestampSet).withProcessing ((n + 1 : ℕ) * 50000000) =
      some timestamps := by
  unfold TimestampSet.withProcessing
  refine ⟨_, if_pos ?_⟩
  simp [TimestampSet.valid, TimestampSet.localStages]

theorem Straight.linearStep {limits : CartesianMotionLimits ℚ} (hlimits : Steps50ms limits)
    {n : ℕ} {s : JerkLimitedPoseShaper ℚ} (h : Straight limits m n s) (x : ℚ) :
    s.linearStep (1 / 20) (poseAt m.position)
        (poseAt (npClip x (-limits.effectiveExtent 0) (limits.effectiveExtent 0))) =
      { s with
        linearVelocity := ![(axisStep limits m x).velocity, 0, 0]
        linearAcceleration := ![(axisStep limits m x).acceleration, 0, 0] } := by
  have hp := hlimits.positive
  have hrest := boundedDynamicsStep_rest (show (0 : ℚ) < 1 / 20 by norm_num) hp.linearSpeed
    hp.linearAcceleration hp.linearJerk
  have haxis : ∀ i, boundedDynamicsStep (1 / 20) limits.maximumLinearSpeedMS
      limits.maximumLinearAccelerationMS2 limits.maximumLinearJerkMS3
      (sub ((poseAt (npClip x (-limits.effectiveExtent 0) (limits.effectiveExtent 0))).positionM i)
        ((poseAt m.position).positionM i))
      ((![m.velocity, 0, 0] : Vector3 ℚ) i) ((![m.acceleration, 0, 0] : Vector3 ℚ) i) =
      ((![(axisStep limits m x).velocity, 0, 0] : Vector3 ℚ) i,
        (![(axisStep limits m x).acceleration, 0, 0] : Vector3 ℚ) i) := by
    have hzero : sub (0 : ℚ) 0 = 0 := by simp
    rw [Fin.forall_fin_succ, Fin.forall_fin_two]
    refine ⟨rfl, ?_, ?_⟩
    · show boundedDynamicsStep _ _ _ _ (sub (0 : ℚ) 0) 0 0 = (0, 0)
      rw [hzero, hrest]
    · show boundedDynamicsStep _ _ _ _ (sub (0 : ℚ) 0) 0 0 = (0, 0)
      rw [hzero, hrest]
  unfold JerkLimitedPoseShaper.linearStep
  rw [h.limits, h.linearVelocity, h.linearAcceleration]
  simp only [haxis]

theorem Straight.update {limits : CartesianMotionLimits ℚ} (hlimits : Steps50ms limits)
    {n : ℕ} {s : JerkLimitedPoseShaper ℚ} (h : Straight limits m n s) (x : ℚ) :
    Straight limits (axisStep limits m x) (n + 1) (s.update (callAt x (n + 1))).2 ∧
      ∃ target, (s.update (callAt x (n + 1))).1 = .ok target ∧
        target.pose = poseAt (axisStep limits m x).position := by
  have hdt := stepDt_callAt x n
  have hclip := h.clipTarget hlimits x
  have hlinear := h.linearStep hlimits x
  obtain ⟨timestamps, htimestamps⟩ := withProcessing_ok n
  have hp := hlimits.positive
  have hangular := boundedDynamicsStep_rest (show (0 : ℚ) < 1 / 20 by norm_num) hp.angularSpeed
    hp.angularAcceleration hp.angularJerk
  have hpos : le (1 / 20 : ℚ) zero = false := by norm_num [Exact.le_eq]
  have hgap : lt limits.maximumStepDtS (1 / 20 : ℚ) = false := by
    simpa using hlimits.maximumStepDtS
  have hturned : turnedTo (poseAt m.position)
      (fun i => add ((poseAt m.position).positionM i)
        (mul ((![(axisStep limits m x).velocity, 0, 0] : Vector3 ℚ) i) (1 / 20)))
      (fun _ => 0) = some (poseAt (axisStep limits m x).position) := by
    rw [turnedTo_poseAt]
    congr 2
    funext i
    fin_cases i
    · rfl
    · show add (0 : ℚ) (mul 0 (1 / 20)) = 0
      simp
    · show add (0 : ℚ) (mul 0 (1 / 20)) = 0
      simp
  unfold JerkLimitedPoseShaper.update
  rw [h.pose, h.timestampNs]
  dsimp only
  unfold stepDt at hdt
  rw [hdt, h.limits, hpos, hgap]
  simp only [Bool.false_eq_true, if_false]
  rw [show (callAt x (n + 1)).target = poseAt x from rfl, hclip]
  dsimp only
  unfold follow
  rw [rotationBetween_poseAt, hlinear]
  dsimp only
  unfold JerkLimitedPoseShaper.angularStep
  dsimp only
  rw [h.limits, h.angularVelocity, h.angularAcceleration]
  simp only [hangular]
  have hstill : mul (0 : ℚ) (1 / 20) = 0 := by simp
  rw [hstill, hturned]
  dsimp only
  refine ⟨⟨rfl, h.anchor, rfl, rfl, rfl, rfl, rfl, rfl⟩, ?_⟩
  unfold poseTarget
  rw [show (callAt x (n + 1)).sourceTimestamps.withProcessing (callAt x (n + 1)).nowNs =
    some timestamps from htimestamps]
  dsimp only
  rw [if_neg]
  · exact ⟨_, rfl, rfl⟩
  · have hidentity : validIdentity "synthetic" = true := by rfl
    have hsource : (callAt x (n + 1)).sourceId = "synthetic" := rfl
    simp [allFinite, hsource, hidentity]

/-- The calls for targets on the first axis, from the `n`th step on. -/
def callsFrom : ℕ → List ℚ → List (UpdateCall ℚ)
  | _, [] => []
  | n, x :: rest => callAt x (n + 1) :: callsFrom (n + 1) rest

theorem map_callAt_eq (f : ℕ → ℚ) (n count : ℕ) :
    (List.range' n count).map (fun k => callAt (f k) (k + 1)) =
      callsFrom n ((List.range' n count).map f) := by
  induction count generalizing n with
  | zero => rfl
  | succ count ih =>
    rw [List.range'_succ, List.map_cons, List.map_cons, ih]
    rfl

/-- The positions of the first axis on its way through the targets. -/
def axisPositions (limits : CartesianMotionLimits ℚ) : AxisMotion ℚ → List ℚ → List ℚ
  | _, [] => []
  | m, x :: rest => (axisStep limits m x).position :: axisPositions limits (axisStep limits m x) rest

theorem Straight.run {limits : CartesianMotionLimits ℚ} (hlimits : Steps50ms limits)
    (targets : List ℚ) {n : ℕ} {s : JerkLimitedPoseShaper ℚ} (h : Straight limits m n s) :
    Straight limits (targets.foldl (axisStep limits) m) (n + targets.length)
      (Lib.run (fun s call => (s.update call).2) s (callsFrom n targets)) := by
  induction targets generalizing m n s with
  | nil => exact h
  | cons x rest ih =>
    have hnext := ih (h.update hlimits x).1
    rw [List.length_cons, Nat.add_comm rest.length 1, ← Nat.add_assoc]
    exact hnext

theorem Straight.emittedPositions {limits : CartesianMotionLimits ℚ} (hlimits : Steps50ms limits)
    (targets : List ℚ) {n : ℕ} {s : JerkLimitedPoseShaper ℚ}
    (h : Straight limits m n s) :
    JerkLimitedPoseShaper.emittedPositions s (callsFrom n targets) 0 =
      axisPositions limits m targets := by
  induction targets generalizing m n s with
  | nil => rfl
  | cons x rest ih =>
    obtain ⟨hstraight, target, htarget, hpose⟩ := h.update hlimits x
    unfold callsFrom JerkLimitedPoseShaper.emittedPositions updates axisPositions
    rw [show s.update (callAt x (n + 1)) = (.ok target, (s.update (callAt x (n + 1))).2) from
      Prod.ext htarget rfl]
    dsimp only
    rw [List.map_cons, hpose]
    exact congrArg _ (ih hstraight)

theorem straight_reset (limits : CartesianMotionLimits ℚ) :
    Straight limits ⟨0, 0, 0⟩ 0 ((construct limits).reset (poseAt 0) 0) := by
  refine ⟨rfl, rfl, rfl, rfl, ?_, ?_, ?_, ?_⟩
  all_goals
    funext i
    fin_cases i <;> rfl

theorem defaultLimits_steps : Steps50ms defaultLimits where
  positive := postInit_positive defaultLimits_accepted
  maximumStepDtS := by norm_num [defaultLimits]
  effectiveExtent := defaultLimits_facts.2.1
  orientation := defaultLimits_facts.2.2

/-- A target a radian away, for thirty-two cycles. -/
def farTargets : List (Resampler.Joints ℚ) := List.replicate 32 ![1, 0, 0, 0, 0, 0]

/-- A target a metre away, for nine steps. -/
def farCalls : List (UpdateCall ℚ) := (List.range 9).map fun n => callAt 1 (n + 1)

/-- **The emitted jerk exceeds its limit**, from rest towards a far target. -/
theorem emitted_jerk_exceeded :
    ¬(defaultOptions.limits defaultOptions_positive).KeepsBounds 0
        (JerkBoundedJointTracker.emitted defaultOptions
          (JerkBoundedJointTracker.construct.reset fun _ => 0) farTargets 0) ∧
      ¬(defaultLimits.linear (postInit_positive defaultLimits_accepted)
          (stepSeconds_pos (show (0 : ℤ) < 50000000 by decide))).KeepsBounds 0
        (emittedPositions ((construct defaultLimits).reset (poseAt 0) 0) farCalls 0) := by
  have hcalls : farCalls = callsFrom 0 ((List.range' 0 9).map fun _ => 1) := by
    rw [← map_callAt_eq, ← List.range_eq_range']
    rfl
  constructor
  · decide +kernel
  · rw [hcalls, (straight_reset _).emittedPositions defaultLimits_steps]
    decide +kernel

/-- A target a milliradian away, for thirty-two cycles. -/
def nearTargets : List (Resampler.Joints ℚ) := List.replicate 32 ![1 / 1000, 0, 0, 0, 0, 0]

/-- A target a millimetre away, for nine steps. -/
def nearCalls : List (UpdateCall ℚ) := (List.range 9).map fun n => callAt (1 / 1000) (n + 1)

/-- The way to a near target stays below the velocity limits. -/
theorem emitted_third_order_near :
    (defaultOptions.limits defaultOptions_positive).KeepsBounds 0
        (JerkBoundedJointTracker.emitted defaultOptions
          (JerkBoundedJointTracker.construct.reset fun _ => 0) nearTargets 0) ∧
      (defaultLimits.linear (postInit_positive defaultLimits_accepted)
          (stepSeconds_pos (show (0 : ℤ) < 50000000 by decide))).KeepsBounds 0
        (emittedPositions ((construct defaultLimits).reset (poseAt 0) 0) nearCalls 0) := by
  have hcalls : nearCalls = callsFrom 0 ((List.range' 0 9).map fun _ => 1 / 1000) := by
    rw [← map_callAt_eq, ← List.range_eq_range']
    rfl
  obtain ⟨htracker, hshaper⟩ := emitted_third_order defaultOptions_positive
    defaultLimits_accepted (show (0 : ℤ) < 50000000 by decide)
  constructor
  · refine (htracker JerkBoundedJointTracker.construct (fun _ => 0) nearTargets 0).mpr ?_
    decide +kernel
  · refine (hshaper (poseAt 0) 0 nearCalls (by unfold Paced; decide) 0).1.mpr ?_
    rw [hcalls, (straight_reset _).emittedPositions defaultLimits_steps]
    decide +kernel

end HandLab.PoseShaper
