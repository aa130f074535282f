import HandLab.TargetGenerator.Types

/-!
# The jerk-limited pose shaper

`src/teleoperation/processing/target_shaper.py`, with the `TimestampSet` and the
`PoseTarget` of `src/teleoperation/contracts.py` (lines 80–127 and 316–340). Every
update returns its result with the shaper after it: what it has assigned before it
raises stays assigned.

The sequence number of a target is a natural number, which is what
`_validate_sequence` tests.
-/

namespace HandLab.PoseShaper

open HandLab.Lib Double NumPy PyMath
open HandLab.Teleoperation
open HandLab.TargetGenerator (npClip)

variable {δ : Type*}

/-! ## Contracts -/

/-- `TimestampSet`. -/
structure TimestampSet where
  localReceiveNs : ℤ
  sourceCaptureNs : Option ℤ := none
  processingNs : Option ℤ := none
  dispatchNs : Option ℤ := none
  robotCommandNs : Option ℤ := none
  robotStateObservationNs : Option ℤ := none
  deriving DecidableEq

namespace TimestampSet

variable (t : TimestampSet)

/-- `local_stages`. -/
def localStages : List ℤ :=
  [some t.localReceiveNs, t.processingNs, t.dispatchNs, t.robotCommandNs].filterMap id

/-- `__post_init__` does not raise. -/
def valid : Bool :=
  decide (0 ≤ t.localReceiveNs) &&
    ([t.sourceCaptureNs, t.processingNs, t.dispatchNs, t.robotCommandNs,
        t.robotStateObservationNs].all fun value => value.all fun ns => decide (0 ≤ ns)) &&
    (t.localStages.zip t.localStages.tail).all fun stages => decide (stages.1 ≤ stages.2)

/-- `with_stage(processing_ns=…)`, or `none` where it raises. -/
def withProcessing (processingNs : ℤ) : Option TimestampSet :=
  let staged := { t with processingNs := some processingNs }
  if staged.valid then some staged else none

end TimestampSet

/-- `PoseTarget`. -/
structure PoseTarget (δ : Type*) where
  sourceId : String
  sequence : ℕ
  targetFrameId : String
  pose : Pose3D δ
  timestamps : TimestampSet
  linearVelocityMS : Vector3 δ
  angularVelocityRadS : Vector3 δ

/-- `_validate_identity` does not raise. -/
def validIdentity (value : String) : Bool := !value.toList.all Quest.ControllerProvider.isSpace

/-! ## Limits -/

/-- `CartesianMotionLimits`. -/
structure CartesianMotionLimits (δ : Type*) where
  workspaceHalfExtentM : Vector3 δ
  maximumOrientationDeviationRad : δ
  maximumLinearSpeedMS : δ
  maximumLinearAccelerationMS2 : δ
  maximumLinearJerkMS3 : δ
  maximumAngularSpeedRadS : δ
  maximumAngularAccelerationRadS2 : δ
  maximumAngularJerkRadS3 : δ
  maximumStepDtS : δ

/-- What `__post_init__` of the limits raises. -/
inductive LimitsError
  /-- `Cartesian motion limits must be finite and positive` -/
  | notPositive
  /-- `first-test workspace may not exceed 20 mm per axis` -/
  | workspace
  /-- `first-test orientation deviation may not exceed 5 degrees` -/
  | orientation
  /-- `first-test linear speed may not exceed 10 mm/s` -/
  | linearSpeed
  /-- `first-test angular speed may not exceed 5 deg/s` -/
  | angularSpeed
  deriving DecidableEq, Repr

/-- What the shaper raises. -/
inductive ShaperError
  /-- `pose shaper must be reset at clutch/recenter` -/
  | notReset
  /-- `pose shaper timestamps must increase` -/
  | timestampsNotIncreasing
  /-- `pose shaper update gap exceeds configured maximum` -/
  | updateGap
  /-- `pose shaper is not initialized` -/
  | notInitialized
  /-- `workspace is too small for configured dynamic stopping guard` -/
  | workspaceTooSmall
  /-- `orientation envelope is too small for configured dynamic stopping guard` -/
  | orientationTooSmall
  /-- the `ValueError` of a quaternion function or of `Pose3D` -/
  | pose
  /-- the `ValueError` of `TimestampSet` -/
  | timestamps
  /-- the `ValueError` of `PoseTarget` -/
  | target
  deriving DecidableEq, Repr

section Model

variable [PyMath δ]

/-- `math.radians`. -/
def radians (degrees : δ) : δ := mul degrees (div (acos (ofRat (-1))) (ofRat 180))

namespace CartesianMotionLimits

variable (limits : CartesianMotionLimits δ)

/-- `values`. -/
def values : List δ :=
  [limits.workspaceHalfExtentM 0, limits.workspaceHalfExtentM 1, limits.workspaceHalfExtentM 2,
    limits.maximumOrientationDeviationRad, limits.maximumLinearSpeedMS,
    limits.maximumLinearAccelerationMS2, limits.maximumLinearJerkMS3,
    limits.maximumAngularSpeedRadS, limits.maximumAngularAccelerationRadS2,
    limits.maximumAngularJerkRadS3, limits.maximumStepDtS]

/-- `__post_init__`. -/
def postInit : Except LimitsError Unit :=
  if !limits.values.all fun value => isFinite value && lt zero value then .error .notPositive
  else if (List.finRange 3).any fun i =>
      lt (ofRat (200001 / 10 ^ 7)) (limits.workspaceHalfExtentM i) then .error .workspace
  else if lt (add (radians (ofRat 5)) (ofRat (1 / 10 ^ 12)))
      limits.maximumOrientationDeviationRad then .error .orientation
  else if lt (ofRat (100001 / 10 ^ 7)) limits.maximumLinearSpeedMS then .error .linearSpeed
  else if lt (add (radians (ofRat 5)) (ofRat (1 / 10 ^ 12))) limits.maximumAngularSpeedRadS then
    .error .angularSpeed
  else .ok ()

/-- The stopping guard of a speed, an acceleration and a jerk. -/
def stoppingGuard (speed acceleration jerk : δ) : δ :=
  add (div (mul speed speed) (mul (ofRat 2) acceleration)) (div (mul speed acceleration) jerk)

/-- `linear_guard`. -/
def linearGuard : δ :=
  stoppingGuard limits.maximumLinearSpeedMS limits.maximumLinearAccelerationMS2
    limits.maximumLinearJerkMS3

/-- `angular_guard`. -/
def angularGuard : δ :=
  stoppingGuard limits.maximumAngularSpeedRadS limits.maximumAngularAccelerationRadS2
    limits.maximumAngularJerkRadS3

/-- `effective_extent`. -/
def effectiveExtent (i : Fin 3) : δ := sub (limits.workspaceHalfExtentM i) limits.linearGuard

end CartesianMotionLimits

/-! ## The dynamics -/

/-- One component of `_bounded_dynamics_step`. -/
def boundedDynamicsStep (dt maxVelocity maxAcceleration maxJerk error velocity acceleration : δ) :
    δ × δ :=
  let naturalFrequency := min (ofRat 4) (div maxAcceleration maxVelocity)
  let desiredVelocity :=
    npClip (mul naturalFrequency error) (negated maxVelocity) maxVelocity
  let desiredAcceleration := npClip (div (sub desiredVelocity velocity) dt)
    (negated maxAcceleration) maxAcceleration
  let accelerationDelta := npClip (sub desiredAcceleration acceleration)
    (mul (negated maxJerk) dt) (mul maxJerk dt)
  let newAcceleration := npClip (add acceleration accelerationDelta) (negated maxAcceleration)
    maxAcceleration
  let newVelocity := npClip (add velocity (mul newAcceleration dt)) (negated maxVelocity)
    maxVelocity
  (newVelocity, newAcceleration)

/-- `ShaperDiagnostics`. -/
structure ShaperDiagnostics (δ : Type*) where
  workspaceClipped : Bool
  orientationClipped : Bool
  linearVelocityMS : Vector3 δ
  linearAccelerationMS2 : Vector3 δ
  angularVelocityRadS : Vector3 δ
  angularAccelerationRadS2 : Vector3 δ

/-- `JerkLimitedPoseShaper`. -/
structure JerkLimitedPoseShaper (δ : Type*) where
  limits : CartesianMotionLimits δ
  anchor : Option (Pose3D δ)
  pose : Option (Pose3D δ)
  timestampNs : Option ℤ
  linearVelocity : Vector3 δ
  linearAcceleration : Vector3 δ
  angularVelocity : Vector3 δ
  angularAcceleration : Vector3 δ
  lastDiagnostics : Option (ShaperDiagnostics δ)

/-- The arguments of `update`. -/
structure UpdateCall (δ : Type*) where
  target : Pose3D δ
  sourceId : String
  sequence : ℕ
  sourceTimestamps : TimestampSet
  nowNs : ℤ

namespace JerkLimitedPoseShaper

/-- The constructor. -/
def construct (limits : CartesianMotionLimits δ) : JerkLimitedPoseShaper δ where
  limits
  anchor := none
  pose := none
  timestampNs := none
  linearVelocity := fun _ => zero
  linearAcceleration := fun _ => zero
  angularVelocity := fun _ => zero
  angularAcceleration := fun _ => zero
  lastDiagnostics := none

variable (s : JerkLimitedPoseShaper δ)

/-- `reset`. -/
def reset (pose : Pose3D δ) (timestampNs : ℤ) : JerkLimitedPoseShaper δ :=
  { s with
    anchor := some pose
    pose := some pose
    timestampNs := some timestampNs
    linearVelocity := fun _ => zero
    linearAcceleration := fun _ => zero
    angularVelocity := fun _ => zero
    angularAcceleration := fun _ => zero
    lastDiagnostics := some ⟨false, false, fun _ => zero, fun _ => zero, fun _ => zero,
      fun _ => zero⟩ }

/-- `clipped_position`. -/
def clippedPosition (anchor target : Pose3D δ) : Vector3 δ := fun i =>
  npClip (target.positionM i)
    (sub (anchor.positionM i) (s.limits.effectiveExtent i))
    (add (anchor.positionM i) (s.limits.effectiveExtent i))

/-- `numpy.allclose(a, b, atol=0.0, rtol=0.0)`. -/
def allClose (a b : Vector3 δ) : Bool :=
  (List.finRange 3).all fun i => le (abs (sub (a i) (b i))) zero || eq (a i) (b i)

/-- The rotation vector from one orientation to another. -/
def rotationBetween (target base : Pose3D δ) : Option (Vector3 δ) := do
  let conjugate ← quaternionConjugate base.quaternionXyzw
  let delta ← quaternionMultiply target.quaternionXyzw conjugate
  quaternionLog delta

/-- A rotation vector, applied to a pose at another position. -/
def turnedTo (base : Pose3D δ) (positionM rotationVector : Vector3 δ) : Option (Pose3D δ) := do
  let rotation ← quaternionExp rotationVector
  let orientation ← quaternionMultiply rotation base.quaternionXyzw
  Pose3D.checked positionM orientation

/-- `_clip_target`. -/
def clipTarget (target : Pose3D δ) : Except ShaperError (Pose3D δ × Bool × Bool) :=
  match s.anchor with
  | none => .error .notInitialized
  | some anchor =>
    if (List.finRange 3).any fun i => le (s.limits.effectiveExtent i) zero then
      .error .workspaceTooSmall
    else
      let clipped := s.clippedPosition anchor target
      match rotationBetween target anchor with
      | none => .error .pose
      | some rotationVector =>
        let effectiveOrientation :=
          sub s.limits.maximumOrientationDeviationRad s.limits.angularGuard
        if le effectiveOrientation zero then .error .orientationTooSmall
        else
          let orientationClipped := lt effectiveOrientation (norm rotationVector)
          let bounded : Vector3 δ :=
            if orientationClipped then
              fun i => mul (rotationVector i) (div effectiveOrientation (norm rotationVector))
            else rotationVector
          match turnedTo anchor clipped bounded with
          | none => .error .pose
          | some pose => .ok (pose, !allClose clipped target.positionM, orientationClipped)

/-- The linear part of the dynamics. -/
def linearStep (dt : δ) (pose clipped : Pose3D δ) : JerkLimitedPoseShaper δ :=
  let next := fun i => boundedDynamicsStep dt s.limits.maximumLinearSpeedMS
    s.limits.maximumLinearAccelerationMS2 s.limits.maximumLinearJerkMS3
    (sub (clipped.positionM i) (pose.positionM i)) (s.linearVelocity i) (s.linearAcceleration i)
  { s with linearVelocity := fun i => (next i).1, linearAcceleration := fun i => (next i).2 }

/-- The angular part of the dynamics. -/
def angularStep (dt : δ) (error : Vector3 δ) : JerkLimitedPoseShaper δ :=
  let next := fun i => boundedDynamicsStep dt s.limits.maximumAngularSpeedRadS
    s.limits.maximumAngularAccelerationRadS2 s.limits.maximumAngularJerkRadS3
    (error i) (s.angularVelocity i) (s.angularAcceleration i)
  { s with angularVelocity := fun i => (next i).1, angularAcceleration := fun i => (next i).2 }

/-- The shaper at its next pose, with `last_diagnostics`. -/
def arrive (pose : Pose3D δ) (nowNs : ℤ) (workspaceClipped orientationClipped : Bool) :
    JerkLimitedPoseShaper δ :=
  { s with
    pose := some pose
    timestampNs := some nowNs
    lastDiagnostics := some ⟨workspaceClipped, orientationClipped, s.linearVelocity,
      s.linearAcceleration, s.angularVelocity, s.angularAcceleration⟩ }

/-- The `PoseTarget` of `update`. -/
def poseTarget (pose : Pose3D δ) (call : UpdateCall δ) : Except ShaperError (PoseTarget δ) :=
  match call.sourceTimestamps.withProcessing call.nowNs with
  | none => .error .timestamps
  | some timestamps =>
    if !validIdentity call.sourceId || !allFinite s.linearVelocity ||
        !allFinite s.angularVelocity then .error .target
    else
      .ok
        { sourceId := call.sourceId
          sequence := call.sequence
          targetFrameId := "robot_base"
          pose
          timestamps
          linearVelocityMS := s.linearVelocity
          angularVelocityRadS := s.angularVelocity }

/-- The dynamics and the target of `update`, from the clipped target on. -/
def follow (call : UpdateCall δ) (dt : δ) (pose clipped : Pose3D δ)
    (workspaceClipped orientationClipped : Bool) :
    Except ShaperError (PoseTarget δ) × JerkLimitedPoseShaper δ :=
  let moved := s.linearStep dt pose clipped
  let nextPosition : Vector3 δ := fun i =>
    add (pose.positionM i) (mul (moved.linearVelocity i) dt)
  match rotationBetween clipped pose with
  | none => (.error .pose, moved)
  | some error =>
    let turned := moved.angularStep dt error
    match turnedTo pose nextPosition fun i => mul (turned.angularVelocity i) dt with
    | none => (.error .pose, turned)
    | some next =>
      let arrived := turned.arrive next call.nowNs workspaceClipped orientationClipped
      (arrived.poseTarget next call, arrived)

/-- `update`. -/
def update (call : UpdateCall δ) :
    Except ShaperError (PoseTarget δ) × JerkLimitedPoseShaper δ :=
  match s.pose, s.timestampNs with
  | some pose, some timestampNs =>
    let dt := div (ofInt (call.nowNs - timestampNs)) (ofRat (10 ^ 9))
    if le dt zero then (.error .timestampsNotIncreasing, s)
    else if lt s.limits.maximumStepDtS dt then (.error .updateGap, s)
    else
      match s.clipTarget call.target with
      | .error error => (.error error, s)
      | .ok (clipped, workspaceClipped, orientationClipped) =>
        s.follow call dt pose clipped workspaceClipped orientationClipped
  | _, _ => (.error .notReset, s)

end JerkLimitedPoseShaper

end Model

end HandLab.PoseShaper
