import HandLab.Operator.Pipeline

/-!
# The shared target generator: data

The records of `SharedJakaTargetGenerator`
(`src/quest_jaka_sim/simulation.py`), the joint vectors and limits of
`src/embodiment_core/robot_limits.py` and
`src/jaka_driver_adapter/palm_target_ik.py`, and the coarse state of
`JointOutputFeasibilityTracker` (`src/teleoperation/output_feasibility.py`).

What MuJoCo computes from a joint vector is a function of it: `Arm` holds the
forward kinematics, the contacts, the Jacobian quality and the damped
least-squares step.
-/

namespace HandLab.TargetGenerator

open HandLab.Lib Double NumPy PyMath
open HandLab.Teleoperation (Vector3 QuaternionXyzw Pose3D allFinite)

variable {δ : Type*}

/-- Six joint angles. -/
abbrev Joints (δ : Type*) := Fin 6 → δ

/-! ## Limits of the arm -/

section Limits

variable [PyMath δ]

/-- `JAKA_MINI2_JOINT_LIMITS_RAD`, the same below and above zero. -/
def jakaMini2JointLimitRad (i : Fin 6) : ℚ :=
  ![157 / 25, 209 / 100, 227 / 100, 157 / 25, 209 / 100, 157 / 25] i

/-- `max(0.0, margin)`. -/
def safeMargin (margin : δ) : δ := if lt zero margin then margin else zero

/-- The lower bound of `safe_joint_limits_rad(margin)`. -/
def safeLower (margin : δ) (i : Fin 6) : δ :=
  add (ofRat (-jakaMini2JointLimitRad i)) (safeMargin margin)

/-- The upper bound of `safe_joint_limits_rad(margin)`. -/
def safeUpper (margin : δ) (i : Fin 6) : δ :=
  sub (ofRat (jakaMini2JointLimitRad i)) (safeMargin margin)

/-- `numpy.clip(value, low, high)`. -/
def npClip (value low high : δ) : δ :=
  let raised := if lt value low then low else value
  if lt high raised then high else raised

/-- `clip_joints_to_safe_limits`. -/
def clipJointsToSafeLimits (margin : δ) (joints : Joints δ) : Joints δ :=
  fun i => npClip (joints i) (safeLower margin i) (safeUpper margin i)

/-- The numbers, from one, of the joints that differ. -/
def changedJoints (attempted actual : Joints δ) : List ℕ :=
  ((List.finRange 6).filter fun i => !eq (attempted i) (actual i)).map fun i => i.val + 1

/-- `_clip_arm_joints` after a solver step from `previous`, at the manufacturer
    limits: a joint beyond a limit may move back towards it. -/
def clipSolverStep (previous attempted : Joints δ) : Joints δ := fun i =>
  if lt (previous i) (safeLower zero i) && le (previous i) (attempted i) then attempted i
  else if lt (safeUpper zero i) (previous i) && le (attempted i) (previous i) then attempted i
  else clipJointsToSafeLimits zero attempted i

/-- A joint beyond the manufacturer limits. -/
def violatesLimits (joints : Joints δ) : Bool :=
  (List.finRange 6).any fun i =>
    lt (joints i) (ofRat (-jakaMini2JointLimitRad i)) ||
      lt (ofRat (jakaMini2JointLimitRad i)) (joints i)

/-- `PERIODIC_JOINT_INDICES`. -/
def periodicJointIndices : List (Fin 6) := [0, 3, 5]

/-- `value + offset * 2.0 * math.pi`. -/
def equivalentAngle (value : δ) (offset : ℤ) : δ :=
  add value (mul (mul (ofInt offset) (ofRat 2)) (acos (ofRat (-1))))

/-- The `choices` of a periodic joint. -/
def branchChoices (value : δ) (i : Fin 6) : List (δ × ℤ) :=
  ([-2, -1, 0, 1, 2].map fun offset => (equivalentAngle value offset, offset)).filter fun choice =>
    le (sub (ofRat (-jakaMini2JointLimitRad i)) (ofRat (1 / 10 ^ 12))) choice.1 &&
      le choice.1 (add (ofRat (jakaMini2JointLimitRad i)) (ofRat (1 / 10 ^ 12)))

/-- The key of one choice is below that of another. -/
def closer (reference : δ) (a b : δ × ℤ) : Bool :=
  lt (abs (sub a.1 reference)) (abs (sub b.1 reference)) ||
    (eq (abs (sub a.1 reference)) (abs (sub b.1 reference)) && decide (|a.2| < |b.2|))

/-- `min(choices, key=…)`, the first of the least. -/
def nearestChoice (reference : δ) : List (δ × ℤ) → Option (δ × ℤ)
  | [] => none
  | first :: rest =>
    some (rest.foldl (fun best choice => if closer reference choice best then choice else best) first)

/-- `select_nearest_equivalent_joint_branch`; `none` where it raises. -/
def selectNearestEquivalentJointBranch (candidate reference : Joints δ) :
    Option (Joints δ × (Fin 6 → ℤ)) :=
  periodicJointIndices.foldlM (fun selected i =>
    (nearestChoice (reference i) (branchChoices (candidate i) i)).map fun choice =>
      (Function.update selected.1 i choice.1, Function.update selected.2 i choice.2))
    (candidate, fun _ => 0)

end Limits

/-! ## The arm -/

/-- `_pair_kind` of a contact. -/
inductive PairKind
  | self
  | environment
  deriving DecidableEq, Repr

/-- What the MuJoCo model and the solver compute from joint vectors. -/
structure Arm (δ : Type*) where
  /-- the TCP pose -/
  fk : Joints δ → Pose3D δ
  /-- the kinds of the contact pairs -/
  contacts : Joints δ → List PairKind
  /-- condition number and least singular value -/
  jacobianQuality : Joints δ → δ × δ
  /-- the norm of the weighted task error -/
  taskError : Pose3D δ → Joints δ → δ
  /-- `arm_joints_rad + bounded_delta` of `_solve_position_ik` -/
  dlsStep : Pose3D δ → Joints δ → Joints δ
  /-- the norm of the rotation vector between two orientations -/
  rotationError : QuaternionXyzw δ → QuaternionXyzw δ → δ

/-! ## Configuration -/

/-- `ik_solver_mode`. -/
inductive IkSolverMode
  | continuation
  | directionalLimitDls
  | jointLimitMultibranch
  deriving DecidableEq, Repr

/-- `FeasibilityLimits`. -/
structure FeasibilityLimits (δ : Type*) where
  ikPositionToleranceM : δ
  maximumJacobianCondition : δ
  minimumJacobianSingularValue : δ
  maximumTargetJumpM : δ
  maximumTcpVelocityMS : δ
  maximumTcpAngularVelocityRadS : δ
  jointLimitMarginRad : δ
  maximumTargetDisplacementM : δ
  jointLimitAvoidanceZoneRad : δ
  ikOrientationToleranceRad : δ
  maximumTargetRotationJumpRad : δ
  maximumJointTargetJumpRad : δ
  jacobianSlowdownCondition : δ
  minimumSingularValueSlowdown : δ
  jacobianRecoveryCondition : δ
  minimumSingularValueRecovery : δ
  singularityDirectionHysteresisRatio : δ
  targetDisplacementLimitEnabled : Bool

/-- What the generator reads of `ReplayConfig`. -/
structure GeneratorConfig (δ : Type*) where
  feasibility : FeasibilityLimits δ
  ikIterations : ℕ
  ikMaxStepRad : δ
  ikSolverMode : IkSolverMode
  orientationEnabled : Bool
  servoPeriodNs : ℤ

/-! ## Results -/

/-- The members of `FeasibilityReason` that `evaluate` gives. -/
inductive FeasibilityReason
  | accepted
  | inputInvalid
  | targetJump
  | outsideRobotWorkspace
  | ikPositionFailed
  | ikOrientationFailed
  | controlComputeBudgetExhausted
  | jointLimit
  | nearSingularity
  | singularitySlowdown
  | linearVelocityLimit
  | angularVelocityLimit
  | selfCollision
  | environmentCollision
  | jointBranchDiscontinuity
  deriving DecidableEq, Repr

/-- `singularity_direction`. -/
inductive SingularityDirection
  | toward
  | away
  | tangent
  deriving DecidableEq, Repr

/-- A member of `joint_limit_blockers`, with the joint's number from one. -/
inductive Blocker
  /-- `joint_…_below_safe_limit` -/
  | below (joint : ℕ)
  /-- `joint_…_above_safe_limit` -/
  | above (joint : ℕ)
  /-- `joint_…_clipped_to_safe_limit` -/
  | clipped (joint : ℕ)
  deriving DecidableEq, Repr

/-- `recovery_disposition`. -/
inductive RecoveryDisposition
  | none
  | alternateNotContinuouslySwitchable
  | acceptedPrimary
  | noSafeSolution
  | alternateSelected
  deriving DecidableEq, Repr

/-- The part of `CandidateMetrics` that the gates, the recovery and its score
    read. -/
structure CandidateMetrics (δ : Type*) where
  targetDisplacementM : δ
  targetJumpM : δ
  targetRotationJumpRad : δ
  tcpVelocityMS : δ
  tcpAngularVelocityRadS : δ
  ikErrorM : δ
  ikOrientationErrorRad : δ
  maximumNonperiodicJointTargetJumpRad : δ
  maximumJointTargetJumpRad : δ
  jointLimitBlockers : List Blocker
  jointLimitRisk : δ
  jointLimitOutwardIndices : List (Fin 6)
  jacobianCondition : δ
  minimumJacobianSingularValue : δ
  selfCollision : Bool
  environmentCollision : Bool
  ikSeedRad : Joints δ
  ikCandidateRad : Joints δ
  jointDeltaRad : Joints δ
  branchSwitch : Bool
  singularityRisk : δ
  currentSingularityRisk : δ
  singularityDirection : SingularityDirection
  currentHardSingularity : Bool
  hardStopRequired : Bool
  branchReferenceRad : Joints δ
  branchEquivalentOffset : Fin 6 → ℤ
  recoveryTriggered : Bool
  recoveryAttemptedSeeds : ℕ
  recoverySolvedCandidates : ℕ
  alternativeBranchAvailable : Bool
  farAlternateBranchFound : Bool
  recoveryDisposition : RecoveryDisposition

/-- `FeasibilityResult`, without its timing; `none` are the metrics of a
    candidate that was not judged. -/
structure FeasibilityResult (δ : Type*) where
  accepted : Bool
  reason : FeasibilityReason
  jointTargetRad : Option (Joints δ)
  metrics : Option (CandidateMetrics δ)

/-- What the generator raises. -/
inductive GeneratorError
  /-- `ValueError("fresh measured arm state must contain six finite radians")` -/
  | measuredNotFinite
  /-- `ValueError` of `set_authoritative_arm_joints_rad` -/
  | manufacturerLimits
  /-- `ValueError` of a joint vector that is not finite -/
  | notFinite
  /-- `ValueError("output feasibility timestamp must be positive")` -/
  | timestampNotPositive
  /-- `ValueError("accepted-target generation timestamps must be strictly monotonic")` -/
  | timestampNotMonotonic
  /-- `ValueError("… contains collision contacts: …")` -/
  | contacts
  deriving DecidableEq, Repr

/-! ## The output tracker -/

/-- `JointOutputFeasibilityTracker` after a `reset`. -/
structure OutputTracker (δ : Type*) where
  initialRad : Joints δ
  lastAcceptedNs : Option ℤ
  segmentStartRad : Joints δ
  segmentDestinationRad : Joints δ
  segmentDurationNs : ℤ
  segmentEntryVelocityRadS : Joints δ
  coarsePositionRad : Joints δ
  coarseVelocityRadS : Joints δ
  coarseTimestampNs : Option ℤ

namespace OutputTracker

variable [Double δ]

/-- `reset`. -/
def reset (servoPeriodNs : ℤ) (values : Joints δ) : OutputTracker δ where
  initialRad := values
  lastAcceptedNs := none
  segmentStartRad := values
  segmentDestinationRad := values
  segmentDurationNs := servoPeriodNs
  segmentEntryVelocityRadS := fun _ => zero
  coarsePositionRad := values
  coarseVelocityRadS := fun _ => zero
  coarseTimestampNs := none

/-- `reset(values)`, then `commit(preview(values))`, which predicts no motion. -/
def stationary (servoPeriodNs : ℤ) (values : Joints δ) (timestampNs : ℤ) : OutputTracker δ :=
  { reset servoPeriodNs values with
    lastAcceptedNs := some timestampNs
    coarseTimestampNs := some timestampNs }

variable (t : OutputTracker δ)

/-- `interval_ns` of `prefilter`, or what it raises. -/
def intervalNs (servoPeriodNs : ℤ) (candidate : Joints δ) (timestampNs : ℤ) :
    Except GeneratorError ℤ :=
  if !allFinite candidate then .error .notFinite
  else if timestampNs ≤ 0 then .error .timestampNotPositive
  else
    match t.coarseTimestampNs with
    | none => .ok servoPeriodNs
    | some last => if timestampNs - last ≤ 0 then .error .timestampNotMonotonic
      else .ok (timestampNs - last)

/-- `commit_prefilter` of a prediction with this interval. -/
def commitPrefilter (candidate : Joints δ) (timestampNs intervalNs : ℤ) : OutputTracker δ :=
  { t with
    coarsePositionRad := candidate
    coarseVelocityRadS := fun i =>
      div (sub (candidate i) (t.coarsePositionRad i)) (div (ofInt intervalNs) (ofRat (10 ^ 9)))
    coarseTimestampNs := some timestampNs }

end OutputTracker

/-! ## The generator -/

/-- The joints of `PalmTargetIkState`, and the joints its last clip moved. -/
structure IkState (δ : Type*) where
  armJointsRad : Joints δ
  limitedJointIndices : List ℕ

/-- `SharedJakaTargetGenerator`. -/
structure SharedJakaTargetGenerator (δ : Type*) where
  ik : IkState δ
  initialTcp : Pose3D δ
  lastSafeTarget : Pose3D δ
  lastSafeJointTarget : Joints δ
  lastSafeJointVelocity : Joints δ
  outputFeasibility : OutputTracker δ
  acceptedMetrics : List (CandidateMetrics δ)
  singularitySlowdownLatched : Bool
  syntheticGeneratedMonotonicNs : ℤ
  computeBudgetExhaustedCount : ℕ
  holdCount : ℕ

/-- The deadline tests of one evaluation, as they came out; all are false
    without a deadline. -/
structure ClockReadings where
  atStart : Bool
  /-- before the iteration of this number -/
  iteration : ℕ → Bool
  afterSolve : Bool
  afterChecks : Bool

/-- No deadline. -/
def ClockReadings.never : ClockReadings := ⟨false, fun _ => false, false, false⟩

/-- The arguments of `evaluate`, and the deadline tests in it and in its
    recovery. -/
structure EvaluateCall (δ : Type*) where
  target : Pose3D δ
  dtS : δ
  generatedMonotonicNs : Option ℤ
  freshMeasuredJointPositionRad : Option (Joints δ)
  clocks : ClockReadings
  /-- before the trial of the recovery -/
  beforeTrial : Bool
  trialClocks : ClockReadings

end HandLab.TargetGenerator
