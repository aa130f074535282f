import HandLab.Shaper.Braking

/-!
# The reference joint shaper

`ReferenceJointShaperV1` of `native/teleop_shaping/src/reference_joint_shaper.cpp`,
member by member. A call takes the shaper to its result and the next shaper;
`Tick` also returns what it wrote through `output`.
-/

namespace HandLab.Shaper

open HandLab.Lib HandLab.CommandAbi Double CMath

variable {δ : Type*} [CMath δ]

/-- The axes that a loop over `dof_` visits. -/
def axes (dof : UInt8) : List (Fin 8) := (List.finRange 8).filter fun i => i.val < dof.toNat

/-- The constructor (lines 53–74). -/
def ReferenceJointShaperV1.init : ReferenceJointShaperV1 δ where
  mode := .uninitialized
  dof := 0
  safetyEpoch := 0
  lastInputSequence := 0
  sourceSequence := 0
  outputSequence := 0
  releaseSequence := 0
  lastTickNs := -1
  livenessMonotonicNs := -1
  targetValidUntilNs := -1
  lastTargetSourceNs := -1
  stopReason := .none
  brakePlanningFailure := .none
  brakePlanningFailureAxis := maxDof
  accelerationNeutralizationAxisCount := 0
  limits :=
    { header := ⟨0, 0, 0, 0, fun _ => 0⟩
      dof := 0
      reserved0 := fun _ => 0
      minimumPositionRad := fun _ => zero
      maximumPositionRad := fun _ => zero
      maximumVelocityRadS := fun _ => zero
      maximumAccelerationRadS2 := fun _ => zero
      maximumJerkRadS3 := fun _ => zero }
  position := fun _ => zero
  velocity := fun _ => zero
  acceleration := fun _ => zero
  target := fun _ => zero
  targetVelocity := fun _ => zero
  brake := fun _ => .blank false false

namespace ReferenceJointShaperV1

/-- The limits of axis `i`. -/
def axisLimits (s : ReferenceJointShaperV1 δ) (i : Fin 8) : AxisLimits δ where
  minimumPosition := s.limits.minimumPositionRad i
  maximumPosition := s.limits.maximumPositionRad i
  maximumVelocity := s.limits.maximumVelocityRadS i
  maximumAcceleration := s.limits.maximumAccelerationRadS2 i
  maximumJerk := s.limits.maximumJerkRadS3 i

/-- The state of axis `i`. -/
def axisState (s : ReferenceJointShaperV1 δ) (i : Fin 8) : AxisState δ :=
  ⟨s.position i, s.velocity i, s.acceleration i⟩

/-- The assignment of a state to axis `i`. -/
def setAxis (s : ReferenceJointShaperV1 δ) (i : Fin 8) (state : AxisState δ) :
    ReferenceJointShaperV1 δ :=
  { s with
    position := Function.update s.position i state.position
    velocity := Function.update s.velocity i state.velocity
    acceleration := Function.update s.acceleration i state.acceleration }

/-- `HardStop` (lines 667–673). -/
def hardStop (s : ReferenceJointShaperV1 δ) (reason : StopReason) (nowNs : ℤ) :
    ReferenceJointShaperV1 δ :=
  if s.mode = .hardStopped then s
  else { s with
    mode := .hardStopped
    stopReason := if reason = .none then .invalidCommand else reason
    targetVelocity := fun _ => zero
    livenessMonotonicNs := nowNs }

/-! ## `Initialize` -/

/-- The check of one axis of the measured state (lines 90–101). -/
def measuredAxisError? (measured : MeasuredJointStateV1 δ) (limits : JointDynamicLimitsV1 δ)
    (i : Fin 8) : Option ValidationResult :=
  if lt (measured.positionRad i) (limits.minimumPositionRad i) ||
      lt (limits.maximumPositionRad i) (measured.positionRad i) then
    some (error .invalidLimits .position (fieldIndex i))
  else if lt (limits.maximumVelocityRadS i) (abs (measured.velocityRadS i)) ||
      lt (limits.maximumAccelerationRadS2 i) (abs (measured.accelerationRadS2 i)) then
    some (error .invalidLimits .velocity (fieldIndex i))
  else none

/-- The checks of `Initialize` (lines 79–101). -/
def validateInitialize (measured : MeasuredJointStateV1 δ) (limits : JointDynamicLimitsV1 δ)
    (nowNs : ℤ) : ValidationResult :=
  (validateMeasured measured ⟨nowNs, 0, 0, 0⟩).andThen <|
  (validateLimits limits).andThen <|
  if limits.dof ≠ measured.dof then error .invalidDof .dof
  else ((axes measured.dof).findSome? (measuredAxisError? measured limits)).getD CommandAbi.ok

/-- The assignments of `Initialize` (lines 103–125). -/
def startAt (measured : MeasuredJointStateV1 δ) (limits : JointDynamicLimitsV1 δ) (nowNs : ℤ) :
    ReferenceJointShaperV1 δ where
  mode := .activeTracking
  dof := measured.dof
  safetyEpoch := measured.safetyEpoch
  lastInputSequence := 0
  sourceSequence := 0
  outputSequence := 0
  releaseSequence := 0
  lastTickNs := nowNs - referencePeriodNs
  livenessMonotonicNs := measured.measuredMonotonicNs
  targetValidUntilNs := -1
  lastTargetSourceNs := -1
  stopReason := .none
  brakePlanningFailure := .none
  brakePlanningFailureAxis := maxDof
  accelerationNeutralizationAxisCount := 0
  limits := limits
  position := measured.positionRad
  velocity := measured.velocityRadS
  acceleration := measured.accelerationRadS2
  target := measured.positionRad
  targetVelocity := fun _ => zero
  brake := fun _ => .blank true false

/-- `Initialize` (lines 76–127). -/
def initializeAt (s : ReferenceJointShaperV1 δ) (measured : MeasuredJointStateV1 δ)
    (limits : JointDynamicLimitsV1 δ) (nowNs : ℤ) : OperationResult × ReferenceJointShaperV1 δ :=
  let validation := validateInitialize measured limits nowNs
  if !validation.ok then (result .invalidArgument validation, s)
  else (result .ok, startAt measured limits nowNs)

/-- `InitializeForNextTick` (lines 129–135). -/
def initializeForNextTick (s : ReferenceJointShaperV1 δ) (measured : MeasuredJointStateV1 δ)
    (limits : JointDynamicLimitsV1 δ) (nowNs : ℤ) : OperationResult × ReferenceJointShaperV1 δ :=
  let call := s.initializeAt measured limits nowNs
  if call.1.code = .ok then (call.1, { call.2 with lastTickNs := nowNs }) else call

/-! ## `ReplaceTarget` -/

/-- `FailClosed` (lines 137–142). -/
def failClosed (s : ReferenceJointShaperV1 δ) (validation : ValidationResult)
    (reason : StopReason) (nowNs : ℤ) : OperationResult × ReferenceJointShaperV1 δ :=
  (result .invalidArgument validation, s.hardStop reason nowNs)

/-- The check of one axis of a target (lines 175–180). -/
def targetAxisError? (s : ReferenceJointShaperV1 δ) (target : AcceptedJointTargetV1 δ)
    (i : Fin 8) : Option ValidationResult :=
  if (s.axisLimits i).outside (target.positionRad i) then
    some (error .invalidLimits .position (fieldIndex i))
  else none

/-- The velocities of the axes in use towards a new target (lines 188–191). -/
def velocityTowards (s : ReferenceJointShaperV1 δ) (target : AcceptedJointTargetV1 δ)
    (deltaNs : ℤ) : AxisArray δ := fun i =>
  if i.val < s.dof.toNat then
    div (sub (target.positionRad i) (s.target i)) (div (ofInt deltaNs) (ofRat 1e9))
  else s.targetVelocity i

/-- The assignments at the end of `ReplaceTarget` (lines 195–198). -/
def storeTarget (s : ReferenceJointShaperV1 δ) (target : AcceptedJointTargetV1 δ)
    (targetVelocity : AxisArray δ) : ReferenceJointShaperV1 δ :=
  { s with
    targetVelocity := targetVelocity
    target := target.positionRad
    sourceSequence := target.sequence
    targetValidUntilNs := target.validUntilMonotonicNs
    lastTargetSourceNs := target.sourceMonotonicNs }

/-- `ReplaceTarget` after its validation (lines 160–199). -/
def acceptTarget (s : ReferenceJointShaperV1 δ) (target : AcceptedJointTargetV1 δ) (nowNs : ℤ) :
    OperationResult × ReferenceJointShaperV1 δ :=
  if target.validity = .rejectedKeepPrevious then (result .ok, s)
  else if target.validity ≠ .accepted then
    s.failClosed (error .invalidModeContract .validity) .invalidCommand nowNs
  else match (axes s.dof).findSome? (s.targetAxisError? target) with
    | some validation => s.failClosed validation .invalidCommand nowNs
    | none =>
      if 0 ≤ s.lastTargetSourceNs then
        let deltaNs := target.sourceMonotonicNs - s.lastTargetSourceNs
        if deltaNs ≤ 0 then
          s.failClosed (error .timestampOrdering .sourceTimestamp) .invalidCommand nowNs
        else (result .ok, s.storeTarget target (s.velocityTowards target deltaNs))
      else (result .ok, s.storeTarget target fun _ => zero)

/-- `ReplaceTarget` (lines 144–199). -/
def replaceTarget (s : ReferenceJointShaperV1 δ) (target : AcceptedJointTargetV1 δ) (nowNs : ℤ) :
    OperationResult × ReferenceJointShaperV1 δ :=
  if s.mode ≠ .activeTracking then (result .invalidState, s)
  else
    let validation := validateTarget target ⟨nowNs, s.dof, s.safetyEpoch, s.lastInputSequence⟩
    if !validation.ok then
      let reason := if validation.error = .epochMismatch then .epochMismatch else .invalidCommand
      s.failClosed validation reason nowNs
    else acceptTarget { s with
      lastInputSequence := target.sequence
      livenessMonotonicNs := target.acceptedMonotonicNs } target nowNs

/-! ## `RequestControlledStop` -/

/-- The failure that the neutralizing planner records for axis `i`. -/
def noteFailure (s : ReferenceJointShaperV1 δ) (i : Fin 8) (failure : BrakePlanningFailure) :
    ReferenceJointShaperV1 δ :=
  { s with brakePlanningFailure := failure, brakePlanningFailureAxis := fieldIndex i }

/-- The assignment of a plan to axis `i`. -/
def setBrake (s : ReferenceJointShaperV1 δ) (i : Fin 8) (plan : BrakeAxis δ) :
    ReferenceJointShaperV1 δ :=
  { s with brake := Function.update s.brake i plan }

/-- An axis is neutralized: the neutralizing planner runs for axis `i`. -/
def neutralizeAxis (s : ReferenceJointShaperV1 δ) (i : Fin 8) : ReferenceJointShaperV1 δ × Bool :=
  let planned := planAccelerationNeutralizedBrakeAxis (s.axisLimits i) (s.axisState i)
  match planned.2 with
  | some failure => ((s.setBrake i planned.1).noteFailure i failure, false)
  | none => (s.setBrake i planned.1, true)

/-- One more neutralized axis. -/
def countNeutralized (s : ReferenceJointShaperV1 δ) : ReferenceJointShaperV1 δ :=
  { s with accelerationNeutralizationAxisCount := s.accelerationNeutralizationAxisCount + 1 }

/-- The first loop (lines 485–494): every axis gets the direct plan, or else the
    neutralizing one. -/
def planAxes : List (Fin 8) → ReferenceJointShaperV1 δ → ReferenceJointShaperV1 δ × Bool
  | [], s => (s, true)
  | i :: rest, s =>
    let direct := planBrakeAxis (s.axisLimits i) (s.axisState i)
    let s := s.setBrake i direct.1
    if direct.2 then planAxes rest s
    else
      let neutralized := s.neutralizeAxis i
      if !neutralized.2 then neutralized
      else planAxes rest neutralized.1.countNeutralized

/-- The loop that brings the axes to a common duration (lines 506–512). -/
def synchronizeAxes (durationS : δ) :
    List (Fin 8) → ReferenceJointShaperV1 δ → ReferenceJointShaperV1 δ × Bool
  | [], s => (s, true)
  | i :: rest, s =>
    if (s.brake i).complete then synchronizeAxes durationS rest s
    else
      let planned := synchronizeBrakeAxis (s.axisLimits i) (s.axisState i) durationS (s.brake i)
      let s := s.setBrake i planned.1
      if planned.2 then synchronizeAxes durationS rest s else (s, false)

/-- The loop that neutralizes every axis (lines 519–527). -/
def neutralizeAxes : List (Fin 8) → ReferenceJointShaperV1 δ → ReferenceJointShaperV1 δ × Bool
  | [], s => (s, true)
  | i :: rest, s =>
    let neutralized := s.neutralizeAxis i
    if !neutralized.2 then neutralized
    else neutralizeAxes rest <|
      if lt numericalEpsilon (abs (s.acceleration i)) then neutralized.1.countNeutralized
      else neutralized.1

/-- The sum of the phases of a plan. -/
def planDuration (plan : BrakeAxis δ) : δ :=
  add (add (add (plan.durationS 0) (plan.durationS 1)) (plan.durationS 2)) (plan.durationS 3)

/-- The longest plan (lines 495–501). -/
def longestPlan (s : ReferenceJointShaperV1 δ) : δ :=
  (axes s.dof).foldl (fun duration i => Double.max duration (planDuration (s.brake i))) zero

/-- The longest plan, rounded up to the grid (lines 503–504). -/
def synchronizedDuration (s : ReferenceJointShaperV1 δ) : δ :=
  mul (ceil (sub (div s.longestPlan periodS) numericalEpsilon)) periodS

/-- The second half of the planning (lines 502–530).
    `uses_acceleration_neutralization` is set where the count is incremented. -/
def synchronizePlans (s : ReferenceJointShaperV1 δ) : ReferenceJointShaperV1 δ × Bool :=
  if s.accelerationNeutralizationAxisCount ≠ 0 then (s, true)
  else
    let synchronized := synchronizeAxes s.synchronizedDuration (axes s.dof) s
    if synchronized.2 then synchronized
    else neutralizeAxes (axes s.dof)
      { synchronized.1 with accelerationNeutralizationAxisCount := 0 }

/-- The planning of a controlled stop (lines 481–530). -/
def planStop (s : ReferenceJointShaperV1 δ) : ReferenceJointShaperV1 δ × Bool :=
  let s := { s with
    brakePlanningFailure := .none
    brakePlanningFailureAxis := maxDof
    accelerationNeutralizationAxisCount := 0 }
  let planned := planAxes (axes s.dof) s
  if !planned.2 then planned else planned.1.synchronizePlans

/-- The assignments at the end of `RequestControlledStop` (lines 531–539). -/
def beginBraking (s : ReferenceJointShaperV1 δ) (releaseSequence : UInt64) (reason : StopReason)
    (nowNs : ℤ) : ReferenceJointShaperV1 δ :=
  { s with
    brake := fun i => if i.val < s.dof.toNat then s.brake i else .blank true false
    lastInputSequence := releaseSequence
    releaseSequence := releaseSequence
    livenessMonotonicNs := nowNs
    targetVelocity := fun _ => zero
    stopReason := reason
    mode := .controlledBraking }

/-- `RequestControlledStop` (lines 470–541). -/
def requestControlledStop (s : ReferenceJointShaperV1 δ) (releaseSequence : UInt64)
    (reason : StopReason) (nowNs : ℤ) : OperationResult × ReferenceJointShaperV1 δ :=
  if s.mode = .controlledBraking ∨ s.mode = .stopped then (result .alreadyRequested, s)
  else if s.mode ≠ .activeTracking ∨ s.sourceSequence = 0 ∨ !isControlledReason reason ∨
      releaseSequence ≤ s.lastInputSequence ∨ nowNs < s.lastTickNs then
    (result .invalidState, s)
  else
    let planned := s.planStop
    if !planned.2 then (result .planningFailed, planned.1.hardStop .invalidCommand nowNs)
    else (result .ok, planned.1.beginBraking releaseSequence reason nowNs)

/-! ## `Tick` -/

/-- `Publish` (lines 576–594): the command, and the shaper that counted it. -/
def publish (s : ReferenceJointShaperV1 δ) (mode : OutputMode) (stopClass : StopClass)
    (reason : StopReason) (nowNs : ℤ) : ShapedJointCommandV1 δ × ReferenceJointShaperV1 δ :=
  ({ header := makeHeaderV1 shapedJointCommandSize
     outputSequence := s.outputSequence + 1
     sourceSequence := s.sourceSequence
     safetyEpoch := s.safetyEpoch
     generatedMonotonicNs := nowNs
     validUntilMonotonicNs := nowNs + 2 * referencePeriodNs
     dof := s.dof
     outputMode := mode
     stopClass := stopClass
     stopReason := reason
     reasonCode := 0
     positionRad := s.position
     velocityRadS := s.velocity
     accelerationRadS2 := s.acceleration },
    { s with outputSequence := s.outputSequence + 1 })

/-- The step of one axis towards its target (lines 621–632). -/
def trackAxis (limits : AxisLimits δ) (target targetVelocity : δ) (a : AxisState δ) :
    AxisState δ :=
  let desired := clip (add (mul (ofRat 36) (sub target a.position))
    (mul (ofRat 10) (sub targetVelocity a.velocity))) limits.maximumAcceleration
  let acceleration := add a.acceleration
    (clip (sub desired a.acceleration) (mul limits.maximumJerk periodS))
  let velocity := clip (add a.velocity (mul acceleration periodS)) limits.maximumVelocity
  ⟨add a.position (mul velocity periodS), velocity, acceleration⟩

/-- The check after that step (lines 633–639). -/
def tracked (limits : AxisLimits δ) (a : AxisState δ) : Bool :=
  isFinite a.position && isFinite a.velocity && isFinite a.acceleration &&
    !limits.outside a.position

/-- The tracking loop (lines 620–640), which stops at an axis that fails its check. -/
def trackAxes : List (Fin 8) → ReferenceJointShaperV1 δ → ReferenceJointShaperV1 δ × Bool
  | [], s => (s, true)
  | i :: rest, s =>
    let next := trackAxis (s.axisLimits i) (s.target i) (s.targetVelocity i) (s.axisState i)
    let moved := s.setAxis i next
    if tracked (s.axisLimits i) next then trackAxes rest moved else (moved, false)

/-- The braking loop (lines 649–657), which stops at an axis outside its limits. -/
def brakeAxes : List (Fin 8) → ReferenceJointShaperV1 δ → ReferenceJointShaperV1 δ × Bool
  | [], s => (s, true)
  | i :: rest, s =>
    let advanced := advanceBrakeAxis (s.brake i) periodS (s.axisState i)
    let moved := (s.setBrake i advanced.1).setAxis i advanced.2
    if !isFinite advanced.2.position || (s.axisLimits i).outside advanced.2.position then
      (moved, false)
    else brakeAxes rest moved

/-- The result of a call of `Tick`, what it leaves in `output`, and the shaper after it. -/
abbrev TickOutcome (δ : Type*) :=
  OperationResult × ShapedJointCommandV1 δ × ReferenceJointShaperV1 δ

/-- `HardStop` and `kTerminalNoOutput`. -/
def terminate (s : ReferenceJointShaperV1 δ) (reason : StopReason) (nowNs : ℤ) : TickOutcome δ :=
  (result .terminalNoOutput, .zero, s.hardStop reason nowNs)

/-- `Tick` while tracking (lines 612–646). -/
def tickTracking (s : ReferenceJointShaperV1 δ) (nowNs : ℤ) : TickOutcome δ :=
  if s.sourceSequence = 0 then s.terminate .invalidCommand nowNs
  else if s.targetValidUntilNs < nowNs then s.terminate .staleInput nowNs
  else
    let moved := trackAxes (axes s.dof) s
    if !moved.2 then moved.1.terminate .invalidCommand nowNs
    else
      let published := ({ moved.1 with
        targetVelocity := fun _ => zero
        lastTickNs := nowNs } : ReferenceJointShaperV1 δ).publish .activeTracking .none .none nowNs
      (result .ok, published)

/-- `Tick` while braking (lines 647–663). -/
def tickBraking (s : ReferenceJointShaperV1 δ) (nowNs : ℤ) : TickOutcome δ :=
  let moved := brakeAxes (axes s.dof) s
  if !moved.2 then moved.1.terminate .invalidCommand nowNs
  else
    let complete := (axes s.dof).all fun i => (moved.1.brake i).complete
    let published := ({ moved.1 with
      lastTickNs := nowNs
      mode := if complete then .stopped else moved.1.mode } : ReferenceJointShaperV1 δ).publish
        (if complete then .stopped else .controlledBraking) .controlled s.stopReason nowNs
    (result (if complete then .completed else .ok), published)

/-- `Tick` (lines 596–665), for an `output` that is not null. -/
def tick (s : ReferenceJointShaperV1 δ) (nowNs : ℤ) : TickOutcome δ :=
  if s.mode = .hardStopped then (result .terminalNoOutput, .zero, s)
  else if s.mode = .uninitialized then (result .invalidState, .zero, s)
  else if nowNs < 0 ∨ nowNs - s.lastTickNs ≠ referencePeriodNs then
    s.terminate .timingFault nowNs
  else if s.mode = .activeTracking then s.tickTracking nowNs
  else if s.mode = .controlledBraking then s.tickBraking nowNs
  else
    (result .completed, ({ s with lastTickNs := nowNs } : ReferenceJointShaperV1 δ).publish
      .stopped .controlled s.stopReason nowNs)

end ReferenceJointShaperV1

end HandLab.Shaper
