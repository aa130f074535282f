import HandLab.TargetGenerator.Types

/-!
# `SharedJakaTargetGenerator.evaluate`

`src/quest_jaka_sim/simulation.py`, lines 357–516, 958–1001, 1036–1469 and
1471–1706. The body is cut at the selection of a candidate: `solveCandidate`
gives it or the early exit, `judge` its metrics and reason, and `evaluate` what
follows, with the trial of the joint-limit recovery.
-/

namespace HandLab.TargetGenerator

open HandLab.Lib Double NumPy PyMath
open HandLab.Teleoperation (Pose3D allFinite)

variable {δ : Type*} [PyMath δ]

/-! ## The IK state -/

namespace IkState

/-- `set_authoritative_arm_joints_rad`, if it does not raise. -/
def authoritative (joints : Joints δ) : IkState δ := ⟨joints, []⟩

/-- `set_arm_joints_rad`, which clips to the soft margin. -/
def clipped (margin : δ) (joints : Joints δ) : IkState δ :=
  ⟨clipJointsToSafeLimits margin joints,
    changedJoints joints (clipJointsToSafeLimits margin joints)⟩

/-- `_solve_position_ik`. -/
def solveStep (arm : Arm δ) (target : Pose3D δ) (ik : IkState δ) : IkState δ :=
  if lt (arm.taskError target ik.armJointsRad) (ofRat (1 / 10 ^ 5)) then ik
  else
    let attempted := arm.dlsStep target ik.armJointsRad
    ⟨clipSolverStep ik.armJointsRad attempted,
      changedJoints attempted (clipSolverStep ik.armJointsRad attempted)⟩

/-- The loop of `apply_position_target`, with `n` iterations left; `false` if the
    deadline stops it. -/
def solveLoop (arm : Arm δ) (target : Pose3D δ) (expired : ℕ → Bool) :
    ℕ → ℕ → IkState δ → Bool × IkState δ
  | 0, _, ik => (true, ik)
  | n + 1, i, ik =>
    if expired i then (false, ik)
    else solveLoop arm target expired n (i + 1) (ik.solveStep arm target)

/-- `apply_position_target`. -/
def applyPositionTarget (arm : Arm δ) (target : Pose3D δ) (expired : ℕ → Bool) (iterations : ℕ)
    (ik : IkState δ) : Bool × IkState δ :=
  if lt (arm.taskError target ik.armJointsRad) (ofRat (1 / 10 ^ 5)) then (true, ik)
  else ik.solveLoop arm target expired iterations 0

end IkState

/-! ## The candidate -/

/-- `joint_limit_margin_rad` of the IK state. -/
def GeneratorConfig.ikMargin (config : GeneratorConfig δ) : δ :=
  abs config.feasibility.jointLimitMarginRad

/-- A candidate that the solver and the branch selection reach. -/
structure Candidate (δ : Type*) where
  joints : Joints δ
  offsets : Fin 6 → ℤ
  rawLimitedJointIndices : List ℕ

/-- How the part of `evaluate` up to the branch selection ends. -/
inductive Solved (δ : Type*)
  | exit (reason : FeasibilityReason)
  | candidate (c : Candidate δ)

/-- Lines 1089–1208, from the seed. -/
def solveCandidate (config : GeneratorConfig δ) (arm : Arm δ) (clocks : ClockReadings)
    (target : Pose3D δ) (seed branchReference : Joints δ) : Solved δ :=
  let (completed, ik) := (IkState.authoritative seed).applyPositionTarget arm target
    clocks.iteration (Nat.max 1 config.ikIterations)
  if !completed || clocks.afterSolve then .exit .controlComputeBudgetExhausted
  else if !allFinite ik.armJointsRad then .exit .inputInvalid
  else
    match selectNearestEquivalentJointBranch ik.armJointsRad branchReference with
    | none => .exit .jointBranchDiscontinuity
    | some (joints, offsets) => .candidate ⟨joints, offsets, ik.limitedJointIndices⟩

/-! ## The gates -/

/-- `_hard_singularity`. -/
def hardSingularity (limits : FeasibilityLimits δ) (quality : δ × δ) : Bool :=
  lt limits.maximumJacobianCondition quality.1 ||
    lt quality.2 limits.minimumJacobianSingularValue

/-- `_slowdown_singularity`. -/
def slowdownSingularity (limits : FeasibilityLimits δ) (quality : δ × δ) : Bool :=
  le limits.jacobianSlowdownCondition quality.1 ||
    le quality.2 limits.minimumSingularValueSlowdown

/-- `recovered` (lines 1255–1258). -/
def recoveredQuality (limits : FeasibilityLimits δ) (quality : δ × δ) : Bool :=
  le quality.1 limits.jacobianRecoveryCondition &&
    le limits.minimumSingularValueRecovery quality.2

/-- `max(a, b)`. -/
def largerOf (a b : δ) : δ := if lt a b then b else a

/-- `_singularity_risk`. -/
def singularityRisk (limits : FeasibilityLimits δ) (quality : δ × δ) : δ :=
  largerOf (div quality.1 limits.maximumJacobianCondition)
    (div limits.minimumJacobianSingularValue (largerOf quality.2 (ofRat (1 / 10 ^ 12))))

/-- `singularity_direction` (lines 1240–1246). -/
def directionOf (limits : FeasibilityLimits δ) (riskDelta : δ) : SingularityDirection :=
  if lt limits.singularityDirectionHysteresisRatio riskDelta then .toward
  else if lt riskDelta (sub zero limits.singularityDirectionHysteresisRatio) then .away
  else .tangent

/-- One entry of `_joint_margin_blockers_allowing_retreat`. -/
def marginBlocker? (margin : δ) (candidate reference : Joints δ) (i : Fin 6) : Option Blocker :=
  if lt (candidate i) (safeLower margin i) &&
      !(lt (reference i) (safeLower margin i) &&
        le (sub (reference i) (ofRat (1 / 10 ^ 9))) (candidate i)) then
    some (.below (i.val + 1))
  else if lt (safeUpper margin i) (candidate i) &&
      !(lt (safeUpper margin i) (reference i) &&
        le (candidate i) (add (reference i) (ofRat (1 / 10 ^ 9)))) then
    some (.above (i.val + 1))
  else none

/-- `_joint_margin_blockers_allowing_retreat`. -/
def jointMarginBlockersAllowingRetreat (margin : δ) (candidate reference : Joints δ) :
    List Blocker :=
  (List.finRange 6).filterMap (marginBlocker? margin candidate reference)

/-- `remaining` and `toward_limit` of one joint. -/
def remainingToLimit (margin joint delta : δ) (i : Fin 6) : δ × Bool :=
  let lower := safeLower margin i
  let upper := safeUpper margin i
  if lt joint lower then (zero, lt delta zero)
  else if lt upper joint then (zero, lt zero delta)
  else if lt zero delta then (sub upper joint, true)
  else if lt delta zero then (sub joint lower, true)
  else
    (if lt (sub upper joint) (sub joint lower) then sub upper joint else sub joint lower, false)

/-- The risk of one joint inside the zone. -/
def zoneRisk (zone remaining : δ) : δ :=
  let x := npClip (div remaining zone) zero (ofRat 1)
  sub (ofRat 1) (mul (mul x x) (sub (ofRat 3) (mul (ofRat 2) x)))

/-- `_joint_limit_risk_and_outward_indices`. -/
def jointLimitRiskAndOutwardIndices (margin avoidanceZone : δ) (candidate delta : Joints δ) :
    δ × List (Fin 6) :=
  let zone := largerOf zero avoidanceZone
  if eq zone zero then (zero, [])
  else
    ((List.finRange 6).foldl (fun risk i =>
        let remaining := (remainingToLimit margin (candidate i) (delta i) i).1
        if lt remaining zone then largerOf risk (zoneRisk zone remaining) else risk) zero,
      (List.finRange 6).filter fun i =>
        let (remaining, toward) := remainingToLimit margin (candidate i) (delta i) i
        toward && lt remaining zone)

/-- `max` of a list of values that are not negative. -/
def maximum (values : List δ) : δ := values.foldl largerOf zero

/-- `classify_candidate` with `check_singularity=False`; a judged candidate always
    carries its joint deltas. -/
def classifyCandidate (limits : FeasibilityLimits δ) (m : CandidateMetrics δ) :
    FeasibilityReason :=
  if limits.targetDisplacementLimitEnabled &&
      lt limits.maximumTargetDisplacementM m.targetDisplacementM then .outsideRobotWorkspace
  else if lt limits.maximumTargetJumpM m.targetJumpM ||
      lt limits.maximumTargetRotationJumpRad m.targetRotationJumpRad ||
      lt limits.maximumJointTargetJumpRad m.maximumNonperiodicJointTargetJumpRad then .targetJump
  else if lt limits.maximumTcpVelocityMS m.tcpVelocityMS then .linearVelocityLimit
  else if lt limits.maximumTcpAngularVelocityRadS m.tcpAngularVelocityRadS then
    .angularVelocityLimit
  else if lt limits.ikPositionToleranceM m.ikErrorM then .ikPositionFailed
  else if lt limits.ikOrientationToleranceRad m.ikOrientationErrorRad then .ikOrientationFailed
  else if !m.jointLimitBlockers.isEmpty then .jointLimit
  else if m.selfCollision then .selfCollision
  else if m.environmentCollision then .environmentCollision
  else .accepted

/-! ## The generator -/

namespace SharedJakaTargetGenerator

variable (config : GeneratorConfig δ) (arm : Arm δ) (s : SharedJakaTargetGenerator δ)

/-- `current_tcp_pose`; the kinematics follow `arm_joints_rad`. -/
def currentTcpPose : Pose3D δ := arm.fk s.ik.armJointsRad

/-- `_singularity_slowdown_latched` after the candidate's quality is read. -/
def latchAfter (quality : δ × δ) : Bool :=
  if recoveredQuality config.feasibility quality then false
  else if slowdownSingularity config.feasibility quality then true
  else s.singularitySlowdownLatched

/-- The metrics of a candidate (lines 1209–1397). The forward kinematics, the
    contacts and the Jacobian are those of the clipped joints `s.ik`. -/
def candidateMetrics (target : Pose3D δ) (dt : δ) (branchReference : Joints δ)
    (currentQuality : δ × δ) (c : Candidate δ) : CandidateMetrics δ :=
  let limits := config.feasibility
  let installed := clipJointsToSafeLimits config.ikMargin c.joints
  let quality := arm.jacobianQuality installed
  let jump : Joints δ := fun i => sub (c.joints i) (s.lastSafeJointTarget i)
  let risk := jointLimitRiskAndOutwardIndices limits.jointLimitMarginRad
    limits.jointLimitAvoidanceZoneRad c.joints jump
  let targetJump := norm fun i => sub (target.positionM i) (s.lastSafeTarget.positionM i)
  let rotationJump := Operator.quaternionDistance target.quaternionXyzw
    s.lastSafeTarget.quaternionXyzw
  let direction := directionOf limits
    (sub (singularityRisk limits quality) (singularityRisk limits currentQuality))
  let currentHard := hardSingularity limits currentQuality
  { targetDisplacementM := norm fun i => sub (target.positionM i) (s.initialTcp.positionM i)
    targetJumpM := targetJump
    targetRotationJumpRad := rotationJump
    tcpVelocityMS := div targetJump dt
    tcpAngularVelocityRadS := div rotationJump dt
    ikErrorM := norm fun i => sub (target.positionM i) ((arm.fk installed).positionM i)
    ikOrientationErrorRad :=
      if config.orientationEnabled then
        arm.rotationError target.quaternionXyzw (arm.fk installed).quaternionXyzw
      else zero
    maximumNonperiodicJointTargetJumpRad :=
      maximum (((List.finRange 6).filter fun i => i ∉ periodicJointIndices).map fun i =>
        abs (jump i))
    maximumJointTargetJumpRad := maximum ((List.finRange 6).map fun i => abs (jump i))
    jointLimitBlockers :=
      jointMarginBlockersAllowingRetreat limits.jointLimitMarginRad c.joints branchReference ++
        c.rawLimitedJointIndices.map .clipped
    jointLimitRisk := risk.1
    jointLimitOutwardIndices := risk.2
    jacobianCondition := quality.1
    minimumJacobianSingularValue := quality.2
    selfCollision := (arm.contacts installed).contains .self
    environmentCollision := (arm.contacts installed).contains .environment
    ikSeedRad := s.lastSafeJointTarget
    ikCandidateRad := c.joints
    jointDeltaRad := jump
    branchSwitch := le (div (acos (ofRat (-1))) (ofRat 2))
      (maximum ((List.finRange 6).map fun i => abs (jump i)))
    singularityRisk := TargetGenerator.singularityRisk limits quality
    currentSingularityRisk := TargetGenerator.singularityRisk limits currentQuality
    singularityDirection := direction
    currentHardSingularity := currentHard
    hardStopRequired := currentHard && decide (direction ≠ .away)
    branchReferenceRad := branchReference
    branchEquivalentOffset := c.offsets
    recoveryTriggered := false
    recoveryAttemptedSeeds := 0
    recoverySolvedCandidates := 0
    alternativeBranchAvailable := false
    farAlternateBranchFound := false
    recoveryDisposition := .none }

/-- `reason` before the last deadline test (lines 1398–1409). -/
def gateReason (latched : Bool) (m : CandidateMetrics δ) : FeasibilityReason :=
  if hardSingularity config.feasibility (m.jacobianCondition, m.minimumJacobianSingularValue) &&
      !(m.currentHardSingularity && decide (m.singularityDirection = .away)) then .nearSingularity
  else if classifyCandidate config.feasibility m = .accepted ∧ latched = true ∧
      m.singularityDirection = .toward then .singularitySlowdown
  else classifyCandidate config.feasibility m

/-- The result of a reason (lines 1441–1449). -/
def resultOf (reason : FeasibilityReason) (m : CandidateMetrics δ) : FeasibilityResult δ where
  accepted := decide (reason = .accepted)
  reason
  jointTargetRad := if reason = .accepted then some m.ikCandidateRad else none
  metrics := some m

/-- A rejection without a judged candidate. -/
def exitResult (reason : FeasibilityReason) : FeasibilityResult δ := ⟨false, reason, none, none⟩

/-- How the judging part of `evaluate` ends. -/
inductive Judged (δ : Type*)
  | early (result : FeasibilityResult δ)
  | final (result : FeasibilityResult δ)

/-- `branch_reference`. -/
def branchReference (measured : Option (Joints δ)) : Joints δ :=
  measured.getD s.lastSafeJointTarget

/-- `max(float(dt_s), 1e-6)`. -/
def stepDt (dtS : δ) : δ := largerOf dtS (ofRat (1 / 10 ^ 6))

/-- `max(1, int(round(dt * 1e9)))`, where the duration is given. -/
def syntheticStep (durationNs : ℤ) : ℤ := max 1 durationNs

/-- The generation time, and the generator after the bootstrap of its tracker
    (lines 1073–1092). -/
def generation (roundNs : δ → ℤ) (dt : δ) (generatedMonotonicNs : Option ℤ) :
    ℤ × SharedJakaTargetGenerator δ :=
  match generatedMonotonicNs with
  | some generatedNs => (generatedNs, s)
  | none =>
    let started :=
      if s.outputFeasibility.lastAcceptedNs.isSome then s
      else
        { s with
          outputFeasibility := OutputTracker.stationary config.servoPeriodNs s.lastSafeJointTarget
            s.syntheticGeneratedMonotonicNs }
    let generatedNs := s.syntheticGeneratedMonotonicNs +
      syntheticStep (roundNs (mul dt (ofRat (10 ^ 9))))
    (generatedNs, { started with syntheticGeneratedMonotonicNs := generatedNs })

/-- `set_authoritative_arm_joints_rad` raises. -/
def refuses (joints : Joints δ) : Option GeneratorError :=
  if !allFinite joints then some .notFinite
  else if violatesLimits joints then some .manufacturerLimits
  else none

/-- The deadline test after the checks (lines 1410–1428), with the seed put back. -/
def lateResult (clocks : ClockReadings) (m : CandidateMetrics δ) (reason : FeasibilityReason) :
    FeasibilityResult δ × SharedJakaTargetGenerator δ :=
  if clocks.afterChecks then
    if m.hardStopRequired then
      (resultOf reason m, { s with ik := .authoritative s.lastSafeJointTarget })
    else
      (resultOf .controlComputeBudgetExhausted m,
        { s with
          ik := .authoritative s.lastSafeJointTarget
          computeBudgetExhaustedCount := s.computeBudgetExhaustedCount + 1 })
  else (resultOf reason m, s)

/-- The gates on an installed candidate (lines 1209–1449). -/
def judgeCandidate (clocks : ClockReadings) (target : Pose3D δ) (dt : δ)
    (branchReference : Joints δ) (generatedNs : ℤ) (c : Candidate δ) :
    Except GeneratorError (FeasibilityResult δ) × SharedJakaTargetGenerator δ :=
  let m := s.candidateMetrics config arm target dt branchReference
    (arm.jacobianQuality s.lastSafeJointTarget) c
  let installed := { s with
    ik := .clipped config.ikMargin c.joints
    singularitySlowdownLatched :=
      s.latchAfter config (m.jacobianCondition, m.minimumJacobianSingularValue) }
  match s.outputFeasibility.intervalNs config.servoPeriodNs c.joints generatedNs with
  | .error error => (.error error, installed)
  | .ok _ =>
    let (result, after) := installed.lateResult clocks m
      (gateReason config installed.singularitySlowdownLatched m)
    (.ok result, after)

/-- `evaluate` from the seed (lines 1093–1449). -/
def judgeFrom (clocks : ClockReadings) (target : Pose3D δ) (dt : δ)
    (branchReference : Joints δ) (generatedNs : ℤ) :
    Except GeneratorError (Judged δ) × SharedJakaTargetGenerator δ :=
  match refuses s.lastSafeJointTarget with
  | some error => (.error error, s)
  | none =>
    let seeded := { s with ik := .authoritative s.lastSafeJointTarget }
    match solveCandidate config arm clocks target s.lastSafeJointTarget branchReference with
    | .exit reason =>
      (.ok (.early (exitResult reason)),
        if reason = .controlComputeBudgetExhausted then
          { seeded with computeBudgetExhaustedCount := s.computeBudgetExhaustedCount + 1 }
        else seeded)
    | .candidate c =>
      match seeded.judgeCandidate config arm clocks target dt branchReference generatedNs c with
      | (.error error, after) => (.error error, after)
      | (.ok result, after) => (.ok (.final result), after)

/-- `_commit_accepted_result`; it raises for joints beyond the limits. -/
def commitAcceptedResult (candidate : Joints δ) (metrics : CandidateMetrics δ)
    (target : Pose3D δ) (dt : δ) (generatedNs : ℤ) :
    Except GeneratorError Unit × SharedJakaTargetGenerator δ :=
  match s.outputFeasibility.intervalNs config.servoPeriodNs candidate generatedNs with
  | .error error => (.error error, s)
  | .ok intervalNs =>
    let tracked := { s with
      outputFeasibility := s.outputFeasibility.commitPrefilter candidate generatedNs intervalNs }
    match refuses candidate with
    | some error => (.error error, tracked)
    | none =>
      (.ok (), { tracked with
        ik := .authoritative candidate
        lastSafeJointTarget := candidate
        lastSafeJointVelocity := fun i =>
          div (sub (candidate i) (s.lastSafeJointTarget i)) (stepDt dt)
        lastSafeTarget := target
        acceptedMetrics := s.acceptedMetrics ++ [metrics] })

/-- The end of `evaluate` and of the recovery: the commit, or the hold count. -/
def settle (result : FeasibilityResult δ) (target : Pose3D δ) (dt : δ) (generatedNs : ℤ) :
    Except GeneratorError (FeasibilityResult δ) × SharedJakaTargetGenerator δ :=
  match result.jointTargetRad, result.metrics with
  | some candidate, some metrics =>
    match s.commitAcceptedResult config candidate metrics target dt generatedNs with
    | (.error error, after) => (.error error, after)
    | (.ok (), after) => (.ok result, after)
  | _, _ => (.ok result, { s with holdCount := s.holdCount + 1 })

/-- `evaluate(…, _allow_recovery=False)` of the recovery. -/
def trial (clocks : ClockReadings) (target : Pose3D δ) (dtS : δ) (branchReference : Joints δ)
    (generatedNs : ℤ) :
    Except GeneratorError (FeasibilityResult δ) × SharedJakaTargetGenerator δ :=
  if clocks.atStart then
    (.ok (exitResult .controlComputeBudgetExhausted),
      { s with computeBudgetExhaustedCount := s.computeBudgetExhaustedCount + 1 })
  else
    match s.judgeFrom config arm clocks target (stepDt dtS) branchReference generatedNs with
    | (.error error, after) => (.error error, after)
    | (.ok (.early result), after) => (.ok result, after)
    | (.ok (.final result), after) => after.settle config result target (stepDt dtS) generatedNs

/-! ## The joint-limit recovery -/

/-- `_should_attempt_joint_limit_recovery`. -/
def shouldAttemptJointLimitRecovery (result : FeasibilityResult δ) : Bool :=
  match config.ikSolverMode, result.metrics with
  | .jointLimitMultibranch, some m =>
    !m.jointLimitOutwardIndices.isEmpty ||
      (lt zero (largerOf m.jointLimitRisk
          (jointLimitRiskAndOutwardIndices config.feasibility.jointLimitMarginRad
            config.feasibility.jointLimitAvoidanceZoneRad m.ikSeedRad fun _ => zero).1) &&
        decide (result.reason = .jointLimit ∨ result.reason = .ikPositionFailed ∨
          result.reason = .ikOrientationFailed))
  | _, _ => false

/-- `_toward_safe_seed`. -/
def towardSafeSeed (seed : Joints δ) : Joints δ :=
  let zone := config.feasibility.jointLimitAvoidanceZoneRad
  let margin := config.feasibility.jointLimitMarginRad
  let twice := mul config.ikMaxStepRad (ofRat 2)
  let half := mul zone (ofRat (1 / 2))
  let step := if lt half twice then half else twice
  if le step zero then seed
  else fun i =>
    if lt (sub (safeUpper margin i) zone) (seed i) then sub (seed i) step
    else if lt (seed i) (add (safeLower margin i) zone) then add (seed i) step
    else seed i

/-- `_candidate_score`. -/
def candidateScore (m : CandidateMetrics δ) : δ :=
  let continuity := div (maximum ((List.finRange 6).map fun i => abs (m.jointDeltaRad i)))
    (largerOf config.feasibility.maximumJointTargetJumpRad (ofRat (1 / 10 ^ 6)))
  let switched : δ := if m.branchSwitch then ofRat 1 else zero
  let penalty := if (List.finRange 6).any fun i => m.branchEquivalentOffset i != 0 then
    add switched (ofRat (1 / 4)) else switched
  add (add (add continuity m.jointLimitRisk) m.singularityRisk) penalty

/-- `clearly_better` of an accepted trial and an accepted primary (lines 1650–1660). -/
def clearlyBetter (best primary : CandidateMetrics δ) : Bool :=
  lt (add (candidateScore config best) (ofRat (1 / 20))) (candidateScore config primary) &&
    (lt (add best.jointLimitRisk (ofRat (1 / 20))) primary.jointLimitRisk ||
      lt (add best.singularityRisk (ofRat (1 / 20))) primary.singularityRisk)

/-- The candidate the recovery selects (lines 1641–1661): the trial, if the
    primary was rejected or the trial is clearly better. -/
def selectsTrial (primary trial : FeasibilityResult δ) : Bool :=
  match trial.accepted, primary.accepted, trial.metrics, primary.metrics with
  | true, false, _, _ => true
  | true, true, some best, some first =>
    -- `min` keeps the primary unless the trial scores less
    lt (candidateScore config best) (candidateScore config first) &&
      clearlyBetter config best first
  | _, _, _, _ => false

/-- A far alternate branch (lines 1621–1625). -/
def farAlternate (trial : Option (FeasibilityResult δ)) : Bool :=
  trial.any fun result =>
    decide (result.reason = .targetJump ∨ result.reason = .jointBranchDiscontinuity)

/-- The metrics of the selected result (lines 1662–1682). -/
def recoveredMetrics (primary : FeasibilityResult δ) (trial : Option (FeasibilityResult δ))
    (alternate : Bool) (m : CandidateMetrics δ) : CandidateMetrics δ :=
  { m with
    recoveryTriggered := true
    recoveryAttemptedSeeds := if trial.isSome then 2 else 1
    recoverySolvedCandidates :=
      primary.accepted.toNat + (trial.any FeasibilityResult.accepted).toNat
    alternativeBranchAvailable := trial.any FeasibilityResult.accepted || farAlternate trial
    farAlternateBranchFound := farAlternate trial
    recoveryDisposition :=
      if alternate then .alternateSelected
      else if farAlternate trial then .alternateNotContinuouslySwitchable
      else if primary.accepted then .acceptedPrimary
      else .noSafeSolution }

/-- The result of the recovery (lines 1637–1697); a trial that was not run is
    `none`. -/
def recoveryResult (primary : FeasibilityResult δ) (trial : Option (FeasibilityResult δ)) :
    FeasibilityResult δ :=
  let alternate := trial.any (selectsTrial config primary)
  let selected := if alternate then trial.getD primary else primary
  let exhausted := trial.isNone ||
    trial.any fun result => decide (result.reason = .controlComputeBudgetExhausted)
  { selected with
    reason :=
      if exhausted && !selected.accepted then .controlComputeBudgetExhausted
      else selected.reason
    metrics := selected.metrics.map (recoveredMetrics primary trial alternate) }

/-- `_restore_recovery_state(snapshot)`, from the generator whose state the
    snapshot holds; putting the joints back may raise. -/
def restoreRecoveryState (snapshot : SharedJakaTargetGenerator δ) :
    Except GeneratorError Unit × SharedJakaTargetGenerator δ :=
  let kept := { s with
    lastSafeJointTarget := snapshot.lastSafeJointTarget
    lastSafeTarget := snapshot.lastSafeTarget
    lastSafeJointVelocity := snapshot.lastSafeJointVelocity
    outputFeasibility := snapshot.outputFeasibility
    acceptedMetrics := snapshot.acceptedMetrics
    singularitySlowdownLatched := snapshot.singularitySlowdownLatched
    syntheticGeneratedMonotonicNs := snapshot.syntheticGeneratedMonotonicNs }
  match refuses snapshot.ik.armJointsRad with
  | some error => (.error error, kept)
  | none => (.ok (), { kept with ik := snapshot.ik })

/-- The end of the recovery (lines 1637–1706): the snapshot is put back and the
    better result settled. -/
def finishRecovery (snapshot : SharedJakaTargetGenerator δ) (primary : FeasibilityResult δ)
    (trial : Option (FeasibilityResult δ)) (target : Pose3D δ) (dt : δ) (generatedNs : ℤ) :
    Except GeneratorError (FeasibilityResult δ) × SharedJakaTargetGenerator δ :=
  match s.restoreRecoveryState snapshot with
  | (.error error, after) => (.error error, after)
  | (.ok (), after) =>
    let selected := recoveryResult config primary trial
    if selected.accepted then after.settle config selected target dt generatedNs
    else
      { after with ik := .authoritative snapshot.lastSafeJointTarget }.settle config selected
        target dt generatedNs

/-- `_try_joint_limit_recovery`: one trial from the seed moved towards safety. -/
def tryJointLimitRecovery (primary : FeasibilityResult δ) (call : EvaluateCall δ)
    (generatedNs : ℤ) :
    Except GeneratorError (FeasibilityResult δ) × SharedJakaTargetGenerator δ :=
  if call.beforeTrial then
    s.finishRecovery config s primary none call.target (stepDt call.dtS) generatedNs
  else
    let seed := towardSafeSeed config s.lastSafeJointTarget
    match refuses seed with
    | some error => (.error error, { s with lastSafeJointTarget := seed })
    | none =>
      match trial config arm { s with lastSafeJointTarget := seed, ik := .authoritative seed }
          call.trialClocks call.target (stepDt call.dtS)
          (call.freshMeasuredJointPositionRad.getD seed) generatedNs with
      | (.error error, after) => (.error error, after)
      | (.ok result, after) =>
        after.finishRecovery config s primary (some result) call.target (stepDt call.dtS)
          generatedNs

/-! ## The calls -/

/-- `evaluate`. -/
def evaluate (roundNs : δ → ℤ) (call : EvaluateCall δ) :
    Except GeneratorError (FeasibilityResult δ) × SharedJakaTargetGenerator δ :=
  if call.clocks.atStart then
    (.ok (exitResult .controlComputeBudgetExhausted),
      { s with computeBudgetExhaustedCount := s.computeBudgetExhaustedCount + 1 })
  else if call.freshMeasuredJointPositionRad.any fun measured => !allFinite measured then
    (.error .measuredNotFinite, s)
  else
    let reference := s.branchReference call.freshMeasuredJointPositionRad
    let (generatedNs, started) :=
      s.generation config roundNs (stepDt call.dtS) call.generatedMonotonicNs
    match started.judgeFrom config arm call.clocks call.target (stepDt call.dtS) reference
        generatedNs with
    | (.error error, after) => (.error error, after)
    | (.ok (.early result), after) => (.ok result, after)
    | (.ok (.final result), after) =>
      if shouldAttemptJointLimitRecovery config result then
        after.tryJointLimitRecovery config arm result call generatedNs
      else after.settle config result call.target (stepDt call.dtS) generatedNs

/-- `synchronize_authoritative_arm_joints`. -/
def synchronizeAuthoritativeArmJoints (joints : Joints δ) :
    Except GeneratorError Unit × SharedJakaTargetGenerator δ :=
  match refuses joints with
  | some error => (.error error, s)
  | none =>
    if !(arm.contacts joints).isEmpty then
      match refuses s.ik.armJointsRad with
      | some error => (.error error, { s with ik := .authoritative joints })
      | none => (.error .contacts, { s with ik := .authoritative s.ik.armJointsRad })
    else
      (.ok (), { s with
        ik := .authoritative joints
        initialTcp := arm.fk joints
        lastSafeTarget := arm.fk joints
        lastSafeJointTarget := joints
        lastSafeJointVelocity := fun _ => zero
        outputFeasibility := .reset config.servoPeriodNs joints
        singularitySlowdownLatched := false })

/-- `capture_reference`. -/
def captureReference : Pose3D δ × SharedJakaTargetGenerator δ :=
  (s.currentTcpPose arm, { s with
    initialTcp := s.currentTcpPose arm
    lastSafeTarget := s.currentTcpPose arm
    lastSafeJointTarget := s.ik.armJointsRad
    lastSafeJointVelocity := fun _ => zero
    outputFeasibility := .reset config.servoPeriodNs s.ik.armJointsRad
    singularitySlowdownLatched := false })

end SharedJakaTargetGenerator

end HandLab.TargetGenerator
