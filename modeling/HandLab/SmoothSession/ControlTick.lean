import HandLab.SmoothSession.Session

/-!
# `control_tick`

The stages of `SmoothQuestJakaSession.control_tick` (lines 510–1197), in their order,
and what a tick says of the clutch, the reference and the target.

* `controlTick`: one tick, with the entry that a log keeps of it.
* `TickSpec`, `controlTick_spec`: all that a tick does to the session.
-/

namespace HandLab.SmoothSession

open HandLab.Clutch HandLab.Quest HandLab.TargetGenerator

/-- What `_arm_target` gives. -/
inductive Mapped (π : Type*)
  | raised
  /-- `None` -/
  | none
  | pose (desired : π)

/-- What a log keeps of a tick. -/
structure TickEntry (α δ π : Type*) where
  nowNs : ℤ
  /-- the state that the tick read -/
  state : CanonicalQuestState π
  index : AnalogClutchSample α
  controllerValid : Bool
  /-- the debounced trigger that the tick left -/
  pressed : Option Bool
  /-- the mapper captured a reference -/
  captured : Bool
  decision : Decision δ

variable {α δ π ς μ : Type*} [LinearOrder α]

namespace SmoothQuestJakaSession

variable (config : SessionConfig α) (mapper : ArmMapper μ π)

/-! ## The clutch -/

/-- The input recovery that starts or ends (lines 546–557). -/
def observeRecovery (s : SmoothQuestJakaSession α ς μ) (nowNs : ℤ) (streamValid : Bool) :
    SmoothQuestJakaSession α ς μ :=
  if config.armInputEnabled && decide (0 < s.referenceGeneration) &&
      !s.inputRecoveryPersistentHold then
    if streamValid then { s with inputRecoveryStartedNs := none }
    else if s.inputRecoveryStartedNs.isNone then { s with inputRecoveryStartedNs := some nowNs }
    else s
  else s

/-- The left controller is lost (lines 561–567). -/
def faultController (s : SmoothQuestJakaSession α ς μ) (nowNs : ℤ) :
    SmoothQuestJakaSession α ς μ :=
  if !s.leftControllerValid && decide (s.armClutch.state ≠ .trackingFault) then
    s.faultArm mapper nowNs "LEFT_CONTROLLER_STALE_OR_INVALID"
  else s

/-- The right wrist is lost (lines 572–574). -/
def faultWrist (s : SmoothQuestJakaSession α ς μ) (nowNs : ℤ) (trackingValid : Bool) :
    SmoothQuestJakaSession α ς μ :=
  if !trackingValid && decide (s.armClutch.state = .engaged) then
    s.faultArm mapper nowNs "RIGHT_WRIST_TRACKING_LOST"
  else s

/-- `arm_action` (lines 577–589). -/
def stepClutch (s : SmoothQuestJakaSession α ς μ) (nowNs : ℤ) (state : CanonicalQuestState π) :
    ClutchAction × SmoothQuestJakaSession α ς μ :=
  if config.armInputEnabled then
    let (action, armClutch) := s.armClutch.step config.clutch s.indexSample nowNs
      s.leftControllerValid state.wristValid (state.wristValid && state.headValid)
    (action, { s with armClutch })
  else (.freeze, s)

/-- The persistent hold ends with a release (lines 590–596). -/
def endHold (s : SmoothQuestJakaSession α ς μ) : SmoothQuestJakaSession α ς μ :=
  if s.inputRecoveryPersistentHold && decide (s.armClutch.state = .disengaged) then
    { s with inputRecoveryPersistentHold := false }
  else s

/-- The tick up to the hand channel (lines 546–596). -/
def clutchPhase (s : SmoothQuestJakaSession α ς μ) (nowNs : ℤ) (state : CanonicalQuestState π) :
    ClutchAction × SmoothQuestJakaSession α ς μ :=
  let s := s.observeRecovery config nowNs (s.leftControllerValid && state.wristValid)
  let s := (s.faultController mapper nowNs).faultWrist mapper nowNs state.right.trackingValid
  let (action, s) := s.stepClutch config nowNs state
  (action, s.endHold)

/-! ## The reference -/

/-- `arm_mapper.capture` and what follows it (lines 1331–1345). The flag tells that
    the mapper captured. -/
def captureReference (s : SmoothQuestJakaSession α ς μ) (input : TickInput δ π)
    (state : CanonicalQuestState π) : Mapped π × Bool × SmoothQuestJakaSession α ς μ :=
  match state.right.wristPose, state.head, input.captureReference with
  | some wrist, some head, .ok robotTcp =>
    match mapper.capture s.armMapper wrist robotTcp head.pose input.nowNs with
    | .error _ => (.raised, false, s)
    | .ok (desired, armMapper) =>
      match s.armClutch.referenceCaptured input.nowNs with
      | (.error _, armClutch) => (.raised, true, { s with armMapper, armClutch })
      | (.ok (), armClutch) =>
        (.pose desired, true,
          { s with armMapper, armClutch, referenceGeneration := s.referenceGeneration + 1 })
  | _, _, _ => (.raised, false, s)

/-- `_arm_target` (lines 1327–1351), with the observation of the winding before it
    (lines 634–639). -/
def armTarget (s : SmoothQuestJakaSession α ς μ) (input : TickInput δ π)
    (state : CanonicalQuestState π) :
    ClutchAction → Mapped π × Bool × SmoothQuestJakaSession α ς μ
  | .captureArmReference => s.captureReference mapper input state
  | .update =>
    match input.windingRaises, state.right.wristPose with
    | false, some wrist =>
      match mapper.target s.armMapper wrist input.nowNs with
      | .error _ => (.raised, false, s)
      | .ok (desired, armMapper) => (.pose desired, false, { s with armMapper })
    | _, _ => (.raised, false, s)
  | .freeze | .startHandReacquisition =>
    (.none, false,
      if s.armClutch.state ≠ .engaged then { s with armMapper := mapper.clear s.armMapper } else s)

/-! ## A tick without a target -/

/-- The recovery has lasted too long (lines 673–690). -/
def timeOut (s : SmoothQuestJakaSession α ς μ) (nowNs : ℤ) : SmoothQuestJakaSession α ς μ :=
  if (s.inputRecoveryStartedNs.any fun started =>
      decide (0 < config.inputRecoveryTimeoutNs) &&
        decide (config.inputRecoveryTimeoutNs < max 0 (nowNs - started))) &&
      !s.inputRecoveryPersistentHold then
    { s.faultArm mapper nowNs "QUEST_INPUT_RECOVERY_TIMEOUT" with
      inputRecoveryPersistentHold := true
      inputRecoveryStartedNs := none }
  else s

/-- `recovery_reason` (lines 699–705). -/
def recoveryReason (s : SmoothQuestJakaSession α ς μ) : TickReason :=
  if s.inputRecoveryPersistentHold then .inputRecoveryTimeout
  else if s.inputRecoveryStartedNs.isSome then .inputRecoveryHold
  else .inputRecoveryReclutch

/-- A heartbeat is sent if its constructor admits it. -/
def beat (heartbeat : ArmControlHeartbeat) : Decision δ :=
  if heartbeat.wellFormed then .heartbeat heartbeat else .raised

/-- The heartbeat of this session. -/
def heartbeatOf (s : SmoothQuestJakaSession α ς μ) (nowNs : ℤ) (sequence : ℕ) (receiveNs : ℤ)
    (state : HeartbeatState) (reason : TickReason) : ArmControlHeartbeat where
  inputSequenceNumber := sequence
  inputReceiveMonotonicNs := min receiveNs nowNs
  generatedMonotonicNs := nowNs
  referenceGeneration := s.referenceGeneration
  clutchGeneration := s.armClutch.cycleCount
  state
  reason
  lastAcceptedTargetSequence := s.acceptedSequence

/-- A reference was captured before. -/
def hasReference (s : SmoothQuestJakaSession α ς μ) : Bool :=
  config.armInputEnabled && decide (0 < s.referenceGeneration) &&
    decide (0 < s.armClutch.cycleCount)

/-- The call of a tick that has no target (lines 691–760). -/
def idleDecision (s : SmoothQuestJakaSession α ς μ) (nowNs : ℤ)
    (state : CanonicalQuestState π) : Decision δ :=
  if s.hasReference config && decide (s.armClutch.state = .trackingFault) then
    match s.lastInputSequence, s.lastInputReceiveNs with
    | some sequence, some receiveNs =>
      beat (s.heartbeatOf nowNs sequence receiveNs .disengaged s.recoveryReason)
    | _, _ => .silent .disengaged
  else if s.hasReference config && decide (s.armClutch.state = .disengaged) &&
      s.leftControllerValid && state.wristValid then
    match state.right.hostSequenceNumber, state.right.hostReceiveMonotonicNs with
    | some sequence, some receiveNs =>
      beat (s.heartbeatOf nowNs sequence receiveNs .disengaged .disengaged)
    | _, _ => .silent .disengaged
  else .silent .disengaged

/-- A tick without a target (lines 669–786). -/
def idleTick (s : SmoothQuestJakaSession α ς μ) (nowNs : ℤ) (state : CanonicalQuestState π) :
    Decision δ × SmoothQuestJakaSession α ς μ :=
  let s := s.timeOut config mapper nowNs
  (s.idleDecision config nowNs state, s)

/-! ## A tick with a target -/

/-- The retries at smaller points of the segment (lines 851–895), with at most
    `remaining` backtracks left. -/
def continuation (evaluate : ℕ → Except String (FeasibilityResult δ)) :
    ℕ → ℕ → ℚ → FeasibilityResult δ → Except String (FeasibilityResult δ)
  | 0, _, _, result => .ok result
  | remaining + 1, attempt, fraction, result =>
    if config.continuationEnabled && !result.accepted &&
        decide (result.reason ≠ .controlComputeBudgetExhausted) &&
        decide (result.reason ≠ .jointBranchDiscontinuity) &&
        decide (config.minimumContinuationFraction < fraction) then
      match evaluate attempt with
      | .error error => .error error
      | .ok next => continuation evaluate remaining (attempt + 1) (fraction * (1 / 2)) next
    else .ok result

/-- The result of the last evaluation (lines 815–895). -/
def evaluated (input : TickInput δ π) : Except String (FeasibilityResult δ) :=
  match input.evaluate 0 with
  | .error error => .error error
  | .ok result =>
    continuation config input.evaluate config.maximumContinuationBacktracks 1
      (if config.continuationEnabled then input.boundedFraction else 1) result

/-- `int(host_receive_monotonic_ns or now_ns)`. -/
def receiveOr (receive : Option ℤ) (nowNs : ℤ) : ℤ :=
  match receive with
  | none => nowNs
  | some ns => if ns = 0 then nowNs else ns

/-- `hard_stop_required` of a result, which is `False` without metrics. -/
def hardStopRequired (result : FeasibilityResult δ) : Bool :=
  result.metrics.any CandidateMetrics.hardStopRequired

/-- A rejection that ends the engagement (lines 1038–1056). -/
def stopsHard (result : FeasibilityResult δ) : Bool :=
  !result.accepted &&
    (hardStopRequired result || decide (result.reason = .jointBranchDiscontinuity))

/-- A rejected target (lines 1036–1117). -/
def rejectTick (s : SmoothQuestJakaSession α ς μ) (nowNs : ℤ) (state : CanonicalQuestState π)
    (result : FeasibilityResult δ) : Decision δ × SmoothQuestJakaSession α ς μ :=
  let s := if result.reason = .jointBranchDiscontinuity then
    s.faultArm mapper nowNs "JOINT_BRANCH_DISCONTINUITY" else s
  if stopsHard result then
    let s := if hardStopRequired result then
      s.faultArm mapper nowNs "HARD_SINGULARITY_AT_ACCEPTED_STATE" else s
    (.silent (.feasibility result.reason), { s with armMapper := mapper.clear s.armMapper })
  else
    match state.right.hostSequenceNumber with
    | none => (.raised, s)
    | some sequence =>
      (beat (s.heartbeatOf nowNs sequence (receiveOr state.right.hostReceiveMonotonicNs nowNs)
        .holdRejected (.feasibility result.reason)), s)

/-- An accepted target (lines 1118–1153). -/
def acceptTick (s : SmoothQuestJakaSession α ς μ) (input : TickInput δ π)
    (state : CanonicalQuestState π) (result : FeasibilityResult δ) :
    Decision δ × SmoothQuestJakaSession α ς μ :=
  match result.jointTargetRad, state.right.hostSequenceNumber with
  | some jointPositionRad, some sequence =>
    let s := { s with acceptedSequence := s.acceptedSequence + 1 }
    let target : AcceptedArmTarget δ :=
      { sequenceNumber := s.acceptedSequence
        inputSequenceNumber := sequence
        sourceSequenceNumber := state.right.sourceSequenceNumber
        sourceTimestampNs := state.right.sourceTimestampNs
        inputReceiveMonotonicNs :=
          min (receiveOr state.right.hostReceiveMonotonicNs input.nowNs) input.nowNs
        generatedMonotonicNs := input.nowNs
        referenceGeneration := s.referenceGeneration
        clutchGeneration := s.armClutch.cycleCount
        jointPositionRad }
    (if target.wellFormed && !input.encodeRaises then .apply target else .raised, s)
  | _, _ => (.raised, s)

/-- A tick with a target (lines 787–1153). -/
def targetTick (s : SmoothQuestJakaSession α ς μ) (input : TickInput δ π)
    (state : CanonicalQuestState π) : Decision δ × SmoothQuestJakaSession α ς μ :=
  match evaluated config input with
  | .error _ => (.raised, s)
  | .ok result =>
    if result.accepted then s.acceptTick input state result
    else s.rejectTick mapper input.nowNs state result

/-! ## The tick -/

/-- The tick after the clutch (lines 597–1197). -/
def actPhase (s : SmoothQuestJakaSession α ς μ) (input : TickInput δ π)
    (state : CanonicalQuestState π) (action : ClutchAction) :
    Bool × Decision δ × SmoothQuestJakaSession α ς μ :=
  if input.handRaises then (false, .raised, s)
  else
    match s.armTarget mapper input state action with
    | (.raised, captured, s) => (captured, .raised, s)
    | (.none, captured, s) => (captured, s.idleTick config mapper input.nowNs state)
    | (.pose _, captured, s) => (captured, s.targetTick config mapper input state)

variable (assembler : Assembler ς δ π)

/-- `control_tick` (lines 510–1197); without an entry if the assembler raises. -/
def controlTick (s : SmoothQuestJakaSession α ς μ) (input : TickInput δ π) :
    Option (TickEntry α δ π) × SmoothQuestJakaSession α ς μ :=
  match assembler.state s.assembler input.nowNs with
  | .error _ => (none, s)
  | .ok raw =>
    let state := raw.interpolate input.interpolated
    let (action, stepped) := s.clutchPhase config mapper input.nowNs state
    let (captured, decision, after) := stepped.actPhase config mapper input state action
    (some
      { nowNs := input.nowNs
        state
        index := s.indexSample
        controllerValid := s.leftControllerValid
        pressed := stepped.armClutch.trigger.pressed
        captured
        decision }, after)

end SmoothQuestJakaSession

end HandLab.SmoothSession
