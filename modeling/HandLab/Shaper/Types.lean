import HandLab.CommandAbi.Validate

/-!
# Types of the joint shaper

The types of `native/teleop_shaping/include/teleop_shaping/joint_shaper.hpp` and
`engagement_joint_shaper.hpp`, and what `native/teleop_shaping/src/`
`reference_joint_shaper.cpp` (lines 20–51) declares before the class.
-/

namespace HandLab.Shaper

open HandLab.Lib HandLab.CommandAbi Double CMath

/-- `kReferencePeriodNs`. -/
def referencePeriodNs : ℤ := 8000000

/-- `kEngagementShaperPeriodNs`. -/
def engagementShaperPeriodNs : ℤ := 8000000

/-- `OperationCode`. -/
inductive OperationCode
  | ok | completed | alreadyRequested | invalidArgument | invalidState | planningFailed
  | terminalNoOutput
  deriving DecidableEq, Repr

/-- `OperationResult`. -/
structure OperationResult where
  code : OperationCode
  validation : ValidationResult
  deriving DecidableEq, Repr

/-- `Result`, with its default argument. -/
def result (code : OperationCode) (validation : ValidationResult := CommandAbi.ok) :
    OperationResult :=
  ⟨code, validation⟩

/-- `ShaperMode`. -/
inductive ShaperMode
  | uninitialized | activeTracking | controlledBraking | stopped | hardStopped
  deriving DecidableEq, Repr

/-- `BrakePlanningFailure`. -/
inductive BrakePlanningFailure
  | none | positionLimit | velocityLimit | numerical | invalidDynamicState
  deriving DecidableEq, Repr

/-- `BrakeAxis`. -/
structure BrakeAxis (δ : Type*) where
  durationS : Fin 4 → δ
  jerkRadS3 : Fin 4 → δ
  phase : ℕ
  phaseElapsedS : δ
  complete : Bool
  usesAccelerationNeutralization : Bool

/-- The members of `ReferenceJointShaperV1`. -/
structure ReferenceJointShaperV1 (δ : Type*) where
  mode : ShaperMode
  dof : UInt8
  safetyEpoch : UInt64
  lastInputSequence : UInt64
  sourceSequence : UInt64
  outputSequence : UInt64
  releaseSequence : UInt64
  lastTickNs : ℤ
  livenessMonotonicNs : ℤ
  targetValidUntilNs : ℤ
  lastTargetSourceNs : ℤ
  stopReason : StopReason
  brakePlanningFailure : BrakePlanningFailure
  brakePlanningFailureAxis : UInt8
  accelerationNeutralizationAxisCount : UInt8
  limits : JointDynamicLimitsV1 δ
  position : AxisArray δ
  velocity : AxisArray δ
  acceleration : AxisArray δ
  target : AxisArray δ
  targetVelocity : AxisArray δ
  brake : AxisArray (BrakeAxis δ)

/-- `EngagementShaperState`. -/
inductive EngagementShaperState
  | waitingForEngagement | armed | activeTracking | controlledBraking | stopped | hardStopped
  deriving DecidableEq, Repr

/-- The members of `EngagementJointShaperV1`. -/
structure EngagementJointShaperV1 (δ : Type*) where
  shaper : Option (ReferenceJointShaperV1 δ) := none
  state : EngagementShaperState := .waitingForEngagement
  safetyEpoch : UInt64 := 0
  engagementCount : UInt64 := 0
  initializationMonotonicNs : ℤ := -1
  nextTickMonotonicNs : ℤ := -1

/-! ## Arithmetic -/

section

variable {δ : Type*} [CMath δ]

/-- `kPeriodS`. -/
def periodS : δ := div (ofRat 8000000) (ofRat 1e9)

/-- `kNumericalEpsilon`. -/
def numericalEpsilon : δ := ofRat 1e-12

/-- `Clip`. -/
def clip (value magnitude : δ) : δ := Double.max (neg magnitude) (Double.min magnitude value)

/-- `IsControlledReason`. -/
def isControlledReason (reason : StopReason) : Bool := reason = .clutchRelease

/-- Position, velocity and acceleration of an axis. -/
structure AxisState (δ : Type*) where
  position : δ
  velocity : δ
  acceleration : δ

/-- `IntegrateConstantJerk`. -/
def integrateConstantJerk (jerk dt : δ) (s : AxisState δ) : AxisState δ where
  position := add s.position (add (add (mul s.velocity dt)
    (mul (mul (mul (ofRat 0.5) s.acceleration) dt) dt))
    (div (mul (mul (mul jerk dt) dt) dt) (ofRat 6)))
  velocity := add s.velocity (add (mul s.acceleration dt) (mul (mul (mul (ofRat 0.5) jerk) dt) dt))
  acceleration := add s.acceleration (mul jerk dt)

/-- A braking plan with the same value in every phase. -/
def BrakeAxis.blank (complete uses : Bool) : BrakeAxis δ :=
  ⟨fun _ => zero, fun _ => zero, 0, zero, complete, uses⟩

end

end HandLab.Shaper
