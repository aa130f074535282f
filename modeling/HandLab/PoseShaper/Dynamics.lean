import HandLab.Lib.ThirdOrder
import HandLab.PoseShaper.Shaper

/-!
# The dynamics of the pose shaper

What an update of `JerkLimitedPoseShaper` does in exact arithmetic: a step of the
third-order law on every axis.

* `boundedDynamicsStep_eq`: `_bounded_dynamics_step` is the law.
* `postInit_positive`: the limits that the constructor accepts are positive.
* `update_moves`: what an update that moves the pose assigns.
* `Moves.linear_advance`, `Moves.angular_advance`: it is a step of the law on the axes.
-/

namespace HandLab.PoseShaper

open HandLab.Lib Double NumPy PyMath
open HandLab.Teleoperation
open HandLab.TargetGenerator (npClip)

variable {δ : Type*} [PyMath δ]

/-! ## What an update assigns -/

/-- The pose of a constructor call that does not raise is at its position. -/
theorem checked_positionM {positionM : Vector3 δ} {quaternionXyzw : QuaternionXyzw δ}
    {pose : Pose3D δ} (h : Pose3D.checked positionM quaternionXyzw = some pose) :
    pose.positionM = positionM := by
  unfold Pose3D.checked at h
  dsimp only at h
  split at h
  · cases h
  split at h
  · cases h
  split at h
  · cases h
  · cases h
    rfl

namespace JerkLimitedPoseShaper

variable {s s' : JerkLimitedPoseShaper δ} {call : UpdateCall δ}

theorem turnedTo_positionM {base pose : Pose3D δ} {positionM rotationVector : Vector3 δ}
    (h : turnedTo base positionM rotationVector = some pose) : pose.positionM = positionM := by
  unfold turnedTo at h
  simp only [Option.bind_eq_bind, Option.bind_eq_some_iff] at h
  obtain ⟨_, -, _, -, h⟩ := h
  exact checked_positionM h

theorem clipTarget_positionM {target clipped : Pose3D δ} {workspace orientation : Bool}
    (h : s.clipTarget target = .ok (clipped, workspace, orientation)) :
    ∃ anchor, s.anchor = some anchor ∧
      (∀ i, le (s.limits.effectiveExtent i) zero = false) ∧
      clipped.positionM = s.clippedPosition anchor target := by
  unfold clipTarget at h
  split at h
  · cases h
  rename_i anchor hanchor
  refine ⟨anchor, hanchor, ?_⟩
  split at h
  · cases h
  rename_i hextent
  rw [Bool.not_eq_true, List.any_eq_false] at hextent
  refine ⟨fun i => Bool.eq_false_iff.mpr (hextent i (List.mem_finRange i)), ?_⟩
  dsimp only at h
  split at h
  · cases h
  split at h
  · cases h
  split at h
  · cases h
  · rename_i hturned
    cases h
    exact turnedTo_positionM hturned

/-- The step of a call. -/
def stepDt (timestampNs : ℤ) (call : UpdateCall δ) : δ :=
  div (ofInt (call.nowNs - timestampNs)) (ofRat (10 ^ 9))

/-- The update moves the pose: it assigns the velocities, the accelerations, the
    pose and the timestamp. -/
structure Moves (s : JerkLimitedPoseShaper δ) (call : UpdateCall δ)
    (s' : JerkLimitedPoseShaper δ) (pose clipped next : Pose3D δ) (timestampNs : ℤ)
    (error : Vector3 δ) : Prop where
  starts : s.pose = some pose ∧ s.timestampNs = some timestampNs
  dt_pos : le (stepDt timestampNs call) (zero : δ) = false
  dt_le : lt s.limits.maximumStepDtS (stepDt timestampNs call) = false
  clips : ∃ workspace orientation, s.clipTarget call.target = .ok (clipped, workspace, orientation)
  keeps : s'.limits = s.limits ∧ s'.anchor = s.anchor
  arrives : s'.pose = some next ∧ s'.timestampNs = some call.nowNs
  position : next.positionM = fun i =>
    add (pose.positionM i) (mul (s'.linearVelocity i) (stepDt timestampNs call))
  linear : ∀ i, (s'.linearVelocity i, s'.linearAcceleration i) =
    boundedDynamicsStep (stepDt timestampNs call) s.limits.maximumLinearSpeedMS
      s.limits.maximumLinearAccelerationMS2 s.limits.maximumLinearJerkMS3
      (sub (clipped.positionM i) (pose.positionM i)) (s.linearVelocity i) (s.linearAcceleration i)
  angular : ∀ i, (s'.angularVelocity i, s'.angularAcceleration i) =
    boundedDynamicsStep (stepDt timestampNs call) s.limits.maximumAngularSpeedRadS
      s.limits.maximumAngularAccelerationRadS2 s.limits.maximumAngularJerkRadS3
      (error i) (s.angularVelocity i) (s.angularAcceleration i)

/-- What is emitted is what the shaper holds. -/
structure Emits (s' : JerkLimitedPoseShaper δ) (target : PoseTarget δ) : Prop where
  pose : s'.pose = some target.pose
  linear : target.linearVelocityMS = s'.linearVelocity
  angular : target.angularVelocityRadS = s'.angularVelocity

theorem poseTarget_emits {pose : Pose3D δ} {target : PoseTarget δ} (hpose : s.pose = some pose)
    (h : s.poseTarget pose call = .ok target) : Emits s target := by
  unfold poseTarget at h
  split at h
  · cases h
  split at h
  · cases h
  · cases h
    exact ⟨hpose, rfl, rfl⟩

/-- **An update** leaves the pose and what is around it alone, and returns no target,
    or it moves the pose and what it returns is what the shaper holds. -/
theorem update_moves (s : JerkLimitedPoseShaper δ) (call : UpdateCall δ) :
    ((∀ target, (s.update call).1 ≠ .ok target) ∧ (s.update call).2.limits = s.limits ∧
        (s.update call).2.anchor = s.anchor ∧ (s.update call).2.pose = s.pose ∧
        (s.update call).2.timestampNs = s.timestampNs) ∨
      ((∃ pose clipped next timestampNs error,
          Moves s call (s.update call).2 pose clipped next timestampNs error) ∧
        ∀ target, (s.update call).1 = .ok target → Emits (s.update call).2 target) := by
  unfold update
  split
  · rename_i pose timestampNs hpose htimestamp
    dsimp only
    split
    · exact .inl ⟨fun target h => (by cases h), rfl, rfl, rfl, rfl⟩
    rename_i hpos
    split
    · exact .inl ⟨fun target h => (by cases h), rfl, rfl, rfl, rfl⟩
    rename_i hle
    split
    · exact .inl ⟨fun target h => (by cases h), rfl, rfl, rfl, rfl⟩
    rename_i clipped workspace orientation hclip
    unfold follow
    dsimp only
    split
    · exact .inl ⟨fun target h => (by cases h), rfl, rfl, rfl, rfl⟩
    rename_i error herror
    split
    · exact .inl ⟨fun target h => (by cases h), rfl, rfl, rfl, rfl⟩
    rename_i next hnext
    right
    refine ⟨⟨pose, clipped, next, timestampNs, error, ?_⟩, fun target htarget => ?_⟩
    · exact
        { starts := ⟨hpose, htimestamp⟩
          dt_pos := Bool.eq_false_iff.mpr hpos
          dt_le := Bool.eq_false_iff.mpr hle
          clips := ⟨workspace, orientation, hclip⟩
          keeps := ⟨rfl, rfl⟩
          arrives := ⟨rfl, rfl⟩
          position := turnedTo_positionM hnext
          linear := fun i => rfl
          angular := fun i => rfl }
    · exact poseTarget_emits rfl htarget
  · exact .inl ⟨fun target h => (by cases h), rfl, rfl, rfl, rfl⟩

end JerkLimitedPoseShaper

/-! ## In exact arithmetic -/

section Exact

variable [Field δ] [LinearOrder δ] [IsStrictOrderedRing δ] [Exact δ]

theorem npClip_eq {limit : δ} (h : 0 ≤ limit) (value : δ) :
    npClip value (-limit) limit = saturate limit value := by
  unfold npClip saturate
  simp only [Exact.lt_eq, decide_eq_true_eq]
  rcases lt_or_ge value (-limit) with hlow | hlow
  · rw [if_pos hlow, if_neg (by linarith), min_eq_right (by linarith), max_eq_left hlow.le]
  · rw [if_neg (not_lt.mpr hlow)]
    rcases lt_or_ge limit value with hhigh | hhigh
    · rw [if_pos hhigh, min_eq_left hhigh.le, max_eq_right (by linarith)]
    · rw [if_neg (not_lt.mpr hhigh), min_eq_right hhigh, max_eq_right hlow]

@[simp] theorem negated_eq (value : δ) : negated value = -value := by
  simp [negated]

/-- The velocity that the law goes towards for an error. -/
def desiredVelocity (l : MotionLimits δ) (error : δ) : δ :=
  saturate l.velocity (Min.min 4 (l.acceleration / l.velocity) * error)

omit [PyMath δ] [Exact δ] in
theorem abs_desiredVelocity_le (l : MotionLimits δ) (error : δ) :
    |desiredVelocity l error| ≤ l.velocity :=
  abs_saturate_le l.velocity_pos.le _

/-- **`_bounded_dynamics_step`** is the law. -/
theorem boundedDynamicsStep_eq (l : MotionLimits δ) (error : δ) (m : AxisMotion δ) :
    boundedDynamicsStep l.dt l.velocity l.acceleration l.jerk error m.velocity m.acceleration =
      ((l.advance (desiredVelocity l error) m).velocity,
        (l.advance (desiredVelocity l error) m).acceleration) := by
  have hfrequency : Double.min (ofRat 4) (div l.acceleration l.velocity) =
      Min.min 4 (l.acceleration / l.velocity) := by
    rw [Exact.min_eq, Exact.div_eq, Exact.ofRat_eq, Rat.cast_ofNat]
  unfold boundedDynamicsStep MotionLimits.advance MotionLimits.accelerate desiredVelocity
  dsimp only
  rw [hfrequency]
  simp only [negated_eq, Exact.mul_eq, neg_mul, Exact.add_eq, Exact.sub_eq, Exact.div_eq,
    npClip_eq l.velocity_pos.le, npClip_eq l.acceleration_pos.le,
    npClip_eq (MotionLimits.jerk_dt_nonneg (l := l))]

structure CartesianMotionLimits.Positive (limits : CartesianMotionLimits δ) : Prop where
  linearSpeed : 0 < limits.maximumLinearSpeedMS
  linearAcceleration : 0 < limits.maximumLinearAccelerationMS2
  linearJerk : 0 < limits.maximumLinearJerkMS3
  angularSpeed : 0 < limits.maximumAngularSpeedRadS
  angularAcceleration : 0 < limits.maximumAngularAccelerationRadS2
  angularJerk : 0 < limits.maximumAngularJerkRadS3

theorem postInit_values {limits : CartesianMotionLimits δ} (h : limits.postInit = .ok ()) :
    ∀ value ∈ limits.values, 0 < value := by
  unfold CartesianMotionLimits.postInit at h
  split at h
  · cases h
  rename_i hvalues
  rw [Bool.not_eq_true, Bool.not_eq_false', List.all_eq_true] at hvalues
  intro value hvalue
  simpa using hvalues value hvalue

/-- **The constructor** accepts positive limits only. -/
theorem postInit_positive {limits : CartesianMotionLimits δ} (h : limits.postInit = .ok ()) :
    limits.Positive := by
  have hpositive := postInit_values h
  unfold CartesianMotionLimits.values at hpositive
  refine ⟨?_, ?_, ?_, ?_, ?_, ?_⟩
  all_goals exact hpositive _ (by simp)

theorem postInit_extent {limits : CartesianMotionLimits δ} (h : limits.postInit = .ok ())
    (i : Fin 3) : 0 < limits.workspaceHalfExtentM i := by
  have hpositive := postInit_values h
  unfold CartesianMotionLimits.values at hpositive
  fin_cases i
  all_goals exact hpositive _ (by simp)

namespace CartesianMotionLimits

variable (limits : CartesianMotionLimits δ)

/-- The law of the linear axes, for steps of `dt`. -/
def linear (h : limits.Positive) {dt : δ} (hdt : 0 < dt) : MotionLimits δ where
  velocity := limits.maximumLinearSpeedMS
  acceleration := limits.maximumLinearAccelerationMS2
  jerk := limits.maximumLinearJerkMS3
  dt
  velocity_pos := h.linearSpeed
  acceleration_pos := h.linearAcceleration
  jerk_pos := h.linearJerk
  dt_pos := hdt

/-- The law of the angular axes, for steps of `dt`. -/
def angular (h : limits.Positive) {dt : δ} (hdt : 0 < dt) : MotionLimits δ where
  velocity := limits.maximumAngularSpeedRadS
  acceleration := limits.maximumAngularAccelerationRadS2
  jerk := limits.maximumAngularJerkRadS3
  dt
  velocity_pos := h.angularSpeed
  acceleration_pos := h.angularAcceleration
  jerk_pos := h.angularJerk
  dt_pos := hdt

end CartesianMotionLimits

namespace JerkLimitedPoseShaper

variable {s s' : JerkLimitedPoseShaper δ} {call : UpdateCall δ} {pose clipped next : Pose3D δ}
  {timestampNs : ℤ} {error : Vector3 δ}

theorem Moves.stepDt_pos (h : Moves s call s' pose clipped next timestampNs error) :
    0 < stepDt timestampNs call := by
  have hpos := h.dt_pos
  simpa using hpos

/-- **A linear axis** takes a step of the law towards the clipped target. -/
theorem Moves.linear_advance (h : Moves s call s' pose clipped next timestampNs error)
    (hlimits : s.limits.Positive) {dt : δ} (hdt : 0 < dt) (heq : stepDt timestampNs call = dt)
    (i : Fin 3) :
    (⟨next.positionM i, s'.linearVelocity i, s'.linearAcceleration i⟩ : AxisMotion δ) =
      (s.limits.linear hlimits hdt).advance
        (desiredVelocity (s.limits.linear hlimits hdt)
          (clipped.positionM i - pose.positionM i))
        ⟨pose.positionM i, s.linearVelocity i, s.linearAcceleration i⟩ := by
  subst heq
  have hlaw := boundedDynamicsStep_eq (s.limits.linear hlimits hdt)
    (clipped.positionM i - pose.positionM i)
    ⟨pose.positionM i, s.linearVelocity i, s.linearAcceleration i⟩
  have hlinear := h.linear i
  rw [Exact.sub_eq] at hlinear
  have hstep := hlinear.trans hlaw
  rw [Prod.mk.injEq] at hstep
  rw [h.position]
  dsimp only
  rw [hstep.1, hstep.2, Exact.add_eq, Exact.mul_eq]
  rfl

/-- **An angular axis** takes a step of the law, from any angle. -/
theorem Moves.angular_advance (h : Moves s call s' pose clipped next timestampNs error)
    (hlimits : s.limits.Positive) {dt : δ} (hdt : 0 < dt) (heq : stepDt timestampNs call = dt)
    (i : Fin 3) (angle : δ) :
    (⟨angle + s'.angularVelocity i * dt, s'.angularVelocity i, s'.angularAcceleration i⟩ :
        AxisMotion δ) =
      (s.limits.angular hlimits hdt).advance
        (desiredVelocity (s.limits.angular hlimits hdt) (error i))
        ⟨angle, s.angularVelocity i, s.angularAcceleration i⟩ := by
  subst heq
  have hlaw := boundedDynamicsStep_eq (s.limits.angular hlimits hdt) (error i)
    ⟨angle, s.angularVelocity i, s.angularAcceleration i⟩
  have hstep := (h.angular i).trans hlaw
  rw [Prod.mk.injEq] at hstep
  rw [hstep.1, hstep.2]
  rfl

end JerkLimitedPoseShaper

end Exact

end HandLab.PoseShaper
