import HandLab.Shaper.Reference

/-!
# The engagement shaper

`EngagementJointShaperV1` of `native/teleop_shaping/src/engagement_joint_shaper.cpp`,
which keeps a shaper for one engagement after the other on a grid of 8 ms.
-/

namespace HandLab.Shaper

open HandLab.Lib HandLab.CommandAbi

variable {δ : Type*} [CMath δ]

/-- `Result` (lines 7–17). -/
def engagementResult (code : OperationCode) : OperationResult where
  code := code
  validation :=
    if code = .ok then CommandAbi.ok
    else ⟨false, .invalidModeContract, .outputMode, noFieldIndex⟩

namespace EngagementJointShaperV1

/-- `shaper_.has_value()` and a state in which the grid is active. -/
def onGrid (s : EngagementJointShaperV1 δ) : Bool :=
  s.shaper.isSome && (s.state = .armed || s.state = .activeTracking)

/-- The state `kHardStopped`. -/
def terminated (s : EngagementJointShaperV1 δ) : EngagementJointShaperV1 δ :=
  { s with state := .hardStopped }

/-- The inner shaper after a call. -/
def withShaper (s : EngagementJointShaperV1 δ) (shaper : ReferenceJointShaperV1 δ) :
    EngagementJointShaperV1 δ :=
  { s with shaper := some shaper }

/-- The inner shaper of a new engagement, with its first target (lines 46–57). -/
def startShaper (measured : MeasuredJointStateV1 δ) (limits : JointDynamicLimitsV1 δ)
    (firstTarget : AcceptedJointTargetV1 δ) (validationNowNs : ℤ) :
    OperationResult × ReferenceJointShaperV1 δ :=
  let initialized :=
    (ReferenceJointShaperV1.init).initializeForNextTick measured limits validationNowNs
  if initialized.1.code ≠ .ok then initialized
  else initialized.2.replaceTarget firstTarget validationNowNs

/-- `InitializeEngagement` (lines 33–65). -/
def initializeEngagement (s : EngagementJointShaperV1 δ) (measured : MeasuredJointStateV1 δ)
    (limits : JointDynamicLimitsV1 δ) (firstTarget : AcceptedJointTargetV1 δ)
    (validationNowNs : ℤ) : OperationResult × EngagementJointShaperV1 δ :=
  if s.state ≠ .waitingForEngagement ∧ s.state ≠ .stopped then
    (engagementResult .invalidState, s)
  else if validationNowNs < 0 ∨ measured.safetyEpoch = 0 ∨
      firstTarget.safetyEpoch ≠ measured.safetyEpoch then
    (engagementResult .invalidArgument, s.terminated)
  else
    let started := startShaper measured limits firstTarget validationNowNs
    if started.1.code ≠ .ok then (started.1, (s.withShaper started.2).terminated)
    else (started.1,
      { s with
        shaper := some started.2
        state := .armed
        safetyEpoch := measured.safetyEpoch
        engagementCount := s.engagementCount + 1
        initializationMonotonicNs := validationNowNs
        nextTickMonotonicNs := validationNowNs + engagementShaperPeriodNs })

/-- `ReplaceTarget` (lines 67–81). -/
def replaceTarget (s : EngagementJointShaperV1 δ) (target : AcceptedJointTargetV1 δ)
    (gridNowNs : ℤ) : OperationResult × EngagementJointShaperV1 δ :=
  match s.shaper with
  | none => (engagementResult .invalidState, s)
  | some shaper =>
    if !s.onGrid ∨ gridNowNs ≠ s.nextTickMonotonicNs then (engagementResult .invalidState, s)
    else
      let call := shaper.replaceTarget target gridNowNs
      if call.1.code ≠ .ok then (call.1, (s.withShaper call.2).terminated)
      else (call.1, s.withShaper call.2)

/-- `RequestControlledStop` (lines 83–101). -/
def requestControlledStop (s : EngagementJointShaperV1 δ) (releaseSequence : UInt64)
    (reason : StopReason) (gridNowNs : ℤ) : OperationResult × EngagementJointShaperV1 δ :=
  match s.shaper with
  | none => (engagementResult .invalidState, s)
  | some shaper =>
    if !s.onGrid ∨ gridNowNs ≠ s.nextTickMonotonicNs then (engagementResult .invalidState, s)
    else
      let call := shaper.requestControlledStop releaseSequence reason gridNowNs
      let s := s.withShaper call.2
      if call.1.code = .ok ∨ call.1.code = .alreadyRequested then
        (call.1, { s with state := .controlledBraking })
      else if call.1.code = .planningFailed then (call.1, s.terminated)
      else (call.1, s)

/-- `Tick` (lines 103–131), for an `output` that points to `written`. -/
def tick (s : EngagementJointShaperV1 δ) (gridNowNs : ℤ) (written : ShapedJointCommandV1 δ) :
    OperationResult × ShapedJointCommandV1 δ × EngagementJointShaperV1 δ :=
  match s.shaper with
  | none => (engagementResult .invalidState, written, s)
  | some shaper =>
    if !s.onGrid ∧ s.state ≠ .controlledBraking then
      (engagementResult .invalidState, written, s)
    else
      let call := shaper.tick gridNowNs
      let s := s.withShaper call.2.2
      if call.1.code ≠ .ok ∧ call.1.code ≠ .completed then (call.1, call.2.1, s.terminated)
      else if call.2.1.outputMode = .stopped then
        (call.1, call.2.1, { s with state := .stopped, nextTickMonotonicNs := -1 })
      else
        let nextTickMonotonicNs := s.nextTickMonotonicNs + engagementShaperPeriodNs
        if call.2.1.outputMode = .controlledBraking then
          (call.1, call.2.1, { s with state := .controlledBraking, nextTickMonotonicNs })
        else (call.1, call.2.1, { s with state := .activeTracking, nextTickMonotonicNs })

/-- `HardStop` (lines 133–138). -/
def hardStop (s : EngagementJointShaperV1 δ) (reason : StopReason) (nowNs : ℤ) :
    EngagementJointShaperV1 δ :=
  { s with
    shaper := s.shaper.map fun shaper => shaper.hardStop reason nowNs
    state := .hardStopped
    nextTickMonotonicNs := -1 }

end EngagementJointShaperV1

end HandLab.Shaper
