import HandLab.ThinJaka.MeasurementGate
import HandLab.Lib.Run

/-!
# The thin JAKA transport adapter

The public calls of `ThinJakaTransportAdapter`
(`native/teleop_shaping/src/thin_jaka_transport_adapter.cpp`), branch by
branch. A call takes the machine to its return code and the next machine; `step`
is the transition system of all of them.
-/

namespace HandLab.ThinJaka

open HandLab.Lib HandLab.CommandAbi

/-- `IsSupportedPausePolicy` (lines 9–12). -/
def isSupportedPausePolicy (policy : PauseCommandPolicy) : Bool :=
  policy = .noCommandRequired || policy = .repeatStoppedPositionRequired

/-- `IsSupportedResumePolicy` (lines 14–18). -/
def isSupportedResumePolicy (policy : ResumePreparationPolicy) : Bool :=
  policy = .keepPrepared || policy = .restartEdg || policy = .restartEdgAndServo

/-- The return code of a call and the machine after it. -/
abbrev Outcome (κ δ : Type*) := ThinJakaCode × Machine κ δ

variable {κ δ : Type*}

/-! ## Calls of the function table -/

section Calls

variable (sdk : JakaSdkFunctionTable κ δ) (m : Machine κ δ)

def callLogin : JakaFunctionResult × Machine κ δ :=
  let call := sdk.login m.context
  (call.1, { m with context := call.2, history := .login call.1 :: m.history })

def callSetEdgEnabled (enabled : Bool) : JakaFunctionResult × Machine κ δ :=
  let call := sdk.setEdgEnabled m.context enabled
  (call.1, { m with context := call.2, history := .setEdgEnabled enabled call.1 :: m.history })

def callSetServoEnabled (enabled : Bool) : JakaFunctionResult × Machine κ δ :=
  let call := sdk.setServoEnabled m.context enabled
  (call.1, { m with context := call.2, history := .setServoEnabled enabled call.1 :: m.history })

def callReadJointFeedback : JakaFunctionResult × JakaJointFeedback δ × Machine κ δ :=
  let call := sdk.readJointFeedback m.context
  (call.1, call.2.1,
    { m with context := call.2.2, history := .readJointFeedback call.1 :: m.history })

def callReadStatus : JakaFunctionResult × JakaNormalizedStatus × Machine κ δ :=
  let call := sdk.readStatus m.context
  (call.1, call.2.1, { m with context := call.2.2, history := .readStatus call.1 :: m.history })

def callStopMotion : Machine κ δ :=
  let call := sdk.stopMotion m.context
  { m with context := call.2, history := .stopMotion call.1 :: m.history }

def callLogout : JakaFunctionResult × Machine κ δ :=
  let call := sdk.logout m.context
  (call.1, { m with context := call.2, history := .logout call.1 :: m.history })

/-- What the history records of the adapter when it sends. -/
def Machine.sender : Sender := ⟨m.adapter.state, m.adapter.sessionOwned⟩

end Calls

variable [Double δ] (sdk : JakaSdkFunctionTable κ δ) (config : ThinJakaConfig δ)

/-! ## Faults -/

/-- The assignments of `Fault` (lines 83–85). -/
def latchFault (reason : StopReason) (m : Machine κ δ) : Machine κ δ :=
  { m with
    adapter.faultReason := reason
    adapter.state := .faulted
    adapter.pendingValid := false
    history := .latched reason m.adapter.sessionOwned :: m.history }

/-- `Fault` (lines 79–92). -/
def fault (code : ThinJakaCode) (reason : StopReason) (m : Machine κ δ) : Outcome κ δ :=
  if m.adapter.state ≠ .faulted ∧ m.adapter.state ≠ .cleanup ∧
      m.adapter.state ≠ .resetRequired then
    if m.adapter.sessionOwned ∧ ¬m.adapter.hardStopCallbackCalled then
      (code, callStopMotion sdk
        { latchFault reason m with adapter.hardStopCallbackCalled := true })
    else (code, latchFault reason m)
  else (code, m)

/-! ## Connection and preparation -/

/-- The conditions under which `Connect` (lines 95–104) accepts its configuration. -/
def validConfiguration : Bool :=
  sdk.valid && config.dof ≠ 0 && config.dof ≤ maxDof &&
    config.measurement.dof = config.dof && config.statusPollIntervalTicks ≠ 0 &&
    config.servoStepNum ≠ 0 && 0 ≤ config.maximumStatusAgeNs &&
    0 < config.maximumTickIntervalNs && Double.isFinite config.resumePositionToleranceRad &&
    !Double.lt config.resumePositionToleranceRad Double.zero

/-- `Connect` (lines 94–114). -/
def connect (m : Machine κ δ) (_nowNs : ℤ) : Outcome κ δ :=
  if m.adapter.state ≠ .disconnected ∨ !validConfiguration sdk config then
    (.invalidConfiguration, m)
  else
    let call := callLogin sdk (m.withState .connecting)
    if !sdkOk call.1 then fault sdk .sdkFailure .sdkFailure call.2
    else
      let m := call.2.withState .connected
      (.ok, { m with adapter.sessionOwned := true, history := .connected :: m.history })

/-- `PrepareServo` (lines 116–141). -/
def prepareServo (m : Machine κ δ) (_nowNs : ℤ) : Outcome κ δ :=
  if m.adapter.state ≠ .connected ∨ ¬m.adapter.sessionOwned then (.invalidState, m)
  else if !isSupportedPausePolicy config.pausePolicy ∨
      !isSupportedResumePolicy config.resumePolicy then
    (.invalidConfiguration, m)
  else if config.pausePolicy = .repeatStoppedPositionRequired ∧
      config.resumePolicy ≠ .keepPrepared then
    (.invalidConfiguration, m)
  else
    let edg := callSetEdgEnabled sdk m true
    if !sdkOk edg.1 then fault sdk .sdkFailure .sdkFailure edg.2
    else
      let servo := callSetServoEnabled sdk (edg.2.withEdg true) true
      if !sdkOk servo.1 then fault sdk .sdkFailure .sdkFailure servo.2
      else
        let m := (servo.2.withServo true).withState .servoReady
        (.ok, { m with history := .prepared :: m.history })

/-- `ApplyResumePreparation` (lines 143–168). -/
def applyResumePreparation (m : Machine κ δ) : Outcome κ δ :=
  if config.resumePolicy = .keepPrepared then
    if ¬m.adapter.edgEnabled ∨ ¬m.adapter.servoEnabled then
      fault sdk .controllerFault .controllerAlarm m
    else (.ok, m)
  else if config.resumePolicy = .restartEdg ∨ config.resumePolicy = .restartEdgAndServo then
    let edg := callSetEdgEnabled sdk m true
    if !sdkOk edg.1 then fault sdk .sdkFailure .sdkFailure edg.2
    else
      let m := edg.2.withEdg true
      if config.resumePolicy = .restartEdgAndServo then
        let servo := callSetServoEnabled sdk m true
        if !sdkOk servo.1 then fault sdk .sdkFailure .sdkFailure servo.2
        else (.ok, servo.2.withServo true)
      else (.ok, m)
  else (.invalidConfiguration, m)

/-- The end of `BeginMeasuredStateRefresh` (lines 182–190). A resumed session
    keeps its stopped command for the ticks of the refresh. -/
def enterRefresh (m : Machine κ δ) (newSafetyEpoch : UInt64) : Machine κ δ :=
  { m with
    adapter.refreshEpoch := newSafetyEpoch
    adapter.measurementGate := .reset
    adapter.pendingValid := false
    adapter.stoppedCommandValid :=
      if m.adapter.state = .servoReady then false else m.adapter.stoppedCommandValid
    adapter.state := .measuredStateRefresh }

/-- `BeginMeasuredStateRefresh` (lines 170–192). -/
def beginMeasuredStateRefresh (m : Machine κ δ) (newSafetyEpoch : UInt64) (_nowNs : ℤ) :
    Outcome κ δ :=
  if (m.adapter.state ≠ .servoReady ∧ m.adapter.state ≠ .stoppedReady) ∨
      ¬m.adapter.sessionOwned ∨ newSafetyEpoch = 0 ∨ newSafetyEpoch ≤ m.adapter.safetyEpoch then
    (.invalidState, m)
  else if m.adapter.state = .stoppedReady then
    let preparation := applyResumePreparation sdk config m
    if preparation.1 ≠ .ok then preparation
    else (.ok, enterRefresh preparation.2 newSafetyEpoch)
  else (.ok, enterRefresh m newSafetyEpoch)

/-! ## The measured-state refresh -/

/-- The fields that `RefreshMeasuredState` copies from an accepted feedback (lines 232–243). -/
def storeFeedback (a : ThinJakaTransportAdapter δ) (feedback : JakaJointFeedback δ) :
    ThinJakaTransportAdapter δ :=
  let sampleAge := feedback.validationMonotonicNs - feedback.sampledMonotonicNs
  let callDuration := feedback.sdkCallEndMonotonicNs - feedback.sdkCallStartMonotonicNs
  { a with
    lastFeedbackCallStartNs := feedback.sdkCallStartMonotonicNs
    lastFeedbackCallEndNs := feedback.sdkCallEndMonotonicNs
    lastFeedbackSampleNs := feedback.sampledMonotonicNs
    lastFeedbackValidationNs := feedback.validationMonotonicNs
    lastFeedbackSampleAgeNs := sampleAge
    lastFeedbackCallDurationNs := callDuration
    maximumFeedbackSampleAgeNs := max a.maximumFeedbackSampleAgeNs sampleAge
    maximumFeedbackCallDurationNs := max a.maximumFeedbackCallDurationNs callDuration }

/-- The sample that `RefreshMeasuredState` hands to the gate (lines 244–250). -/
def feedbackSample (feedback : JakaJointFeedback δ) : FakeSdkJointSample δ where
  sampleSequence := feedback.sequence
  sampledMonotonicNs := feedback.sampledMonotonicNs
  dof := feedback.dof
  fields := .positionVelocity
  positionRad := feedback.positionRad
  velocityRadS := feedback.velocityRadS
  accelerationRadS2 := fun _ => Double.zero

/-- The timing conditions of lines 209–222. -/
def feedbackTimingFault (a : ThinJakaTransportAdapter δ) (feedback : JakaJointFeedback δ)
    (nowNs : ℤ) : Bool :=
  let clockRegression := feedback.sdkCallStartMonotonicNs < nowNs ∨
    (0 ≤ a.lastFeedbackValidationNs ∧
      feedback.validationMonotonicNs ≤ a.lastFeedbackValidationNs)
  let invalidOrder := feedback.sdkCallStartMonotonicNs < 0 ∨
    feedback.sdkCallEndMonotonicNs < feedback.sdkCallStartMonotonicNs ∨
    feedback.sampledMonotonicNs < feedback.sdkCallStartMonotonicNs ∨
    feedback.sdkCallEndMonotonicNs < feedback.sampledMonotonicNs ∨
    feedback.validationMonotonicNs < feedback.sdkCallEndMonotonicNs
  clockRegression ∨ invalidOrder

/-- The end of `RefreshMeasuredState` (lines 268–273). -/
def acceptMeasured (m : Machine κ δ) (measured : MeasuredJointStateV1 δ) : Machine κ δ :=
  { m with
    adapter.measured := measured
    adapter.safetyEpoch := m.adapter.refreshEpoch
    adapter.refreshEpoch := 0
    adapter.lastOutputSequence := 0
    adapter.lastStatusSequence := 0
    adapter.state := .servoReady
    history := .refreshed m.adapter.refreshEpoch m.adapter.skippedOutputSequenceCount ::
      m.history }

/-- A fault exit of `RefreshMeasuredState`. -/
def refreshFault (code : ThinJakaCode) (reason : StopReason)
    (pointee : Option (MeasuredJointStateV1 δ)) (m : Machine κ δ) :
    ThinJakaCode × Option (MeasuredJointStateV1 δ) × Machine κ δ :=
  ((fault sdk code reason m).1, pointee, (fault sdk code reason m).2)

/-- The exit of `RefreshMeasuredState` for an answer of the gate (lines 254–274). -/
def refreshResult (m : Machine κ δ) (pointee : Option (MeasuredJointStateV1 δ))
    (code : RecoveryMeasurementCode) (released : Option (MeasuredJointStateV1 δ)) :
    ThinJakaCode × Option (MeasuredJointStateV1 δ) × Machine κ δ :=
  match code, released with
  | .needMoreSamples, _ => (.needMoreSamples, pointee, m)
  | .unstable, _ => (.unstableMeasurement, pointee, m)
  | .ready, some measured => (.ok, some measured, acceptMeasured m measured)
  | .stale, _ => refreshFault sdk .stale .staleInput pointee m
  | _, _ => refreshFault sdk .invalidCommand .invalidCommand pointee m

/-- `RefreshMeasuredState` with an accepted feedback (lines 232–274). -/
def observeFeedback (m : Machine κ δ) (pointee : Option (MeasuredJointStateV1 δ))
    (feedback : JakaJointFeedback δ) :
    ThinJakaCode × Option (MeasuredJointStateV1 δ) × Machine κ δ :=
  let stored := storeFeedback m.adapter feedback
  let observed := stored.measurementGate.observe config.measurement (feedbackSample feedback)
    stored.refreshEpoch feedback.validationMonotonicNs
  refreshResult sdk { m with adapter := { stored with measurementGate := observed.2.2 } } pointee
    observed.1.code observed.2.1

/-- `RefreshMeasuredState` (lines 194–275). `pointee` is what `measured` points
    to (`none` for a null pointer); the middle component is its value after the
    call. -/
def refreshMeasuredState (m : Machine κ δ) (nowNs : ℤ)
    (pointee : Option (MeasuredJointStateV1 δ)) :
    ThinJakaCode × Option (MeasuredJointStateV1 δ) × Machine κ δ :=
  if m.adapter.state ≠ .measuredStateRefresh ∨ pointee.isNone then (.invalidState, pointee, m)
  else
    let io := callReadJointFeedback sdk m
    let feedback := io.2.1
    let m := io.2.2
    let sampleAge := feedback.validationMonotonicNs - feedback.sampledMonotonicNs
    if !sdkOk io.1 then
      if io.1 = .timeout then refreshFault sdk .stale .staleInput pointee m
      else refreshFault sdk .sdkFailure .sdkFailure pointee m
    else if feedbackTimingFault m.adapter feedback nowNs then
      refreshFault sdk .timingFault .timingFault pointee m
    else if sampleAge < 0 ∨ config.measurement.maximumSampleAgeNs < sampleAge then
      refreshFault sdk .stale .staleInput pointee m
    else observeFeedback sdk config m pointee feedback

/-! ## Sending -/

/-- The servo part of `ApplyStoppedPreparation` (lines 351–357). -/
def stopServo (m : Machine κ δ) : Outcome κ δ :=
  if config.resumePolicy = .restartEdgAndServo then
    let call := callSetServoEnabled sdk m false
    if !sdkOk call.1 then fault sdk .sdkFailure .sdkFailure call.2
    else (.ok, call.2.withServo false)
  else (.ok, m)

/-- The EDG part of `ApplyStoppedPreparation` (lines 358–365). -/
def stopEdg (m : Machine κ δ) : Outcome κ δ :=
  if config.resumePolicy = .restartEdg ∨ config.resumePolicy = .restartEdgAndServo then
    let call := callSetEdgEnabled sdk m false
    if !sdkOk call.1 then fault sdk .sdkFailure .sdkFailure call.2
    else (.ok, call.2.withEdg false)
  else (.ok, m)

/-- `ApplyStoppedPreparation` (lines 350–367). -/
def applyStoppedPreparation (m : Machine κ δ) : Outcome κ δ :=
  let servo := stopServo sdk config m
  if servo.1 ≠ .ok then servo else stopEdg sdk config servo.2

/-- The fault exit of a failed `send_joint_position` (lines 376–381, 415–420). -/
def sendFault (result : JakaFunctionResult) (m : Machine κ δ) : Outcome κ δ :=
  if result = .timeout then fault sdk .timingFault .timingFault m
  else fault sdk .sdkFailure .sdkFailure m

/-- The call of `send_joint_position` in `Send` (lines 372–374). -/
def callSend (m : Machine κ δ) (command : ShapedJointCommandV1 δ) (nowNs : ℤ) :
    JakaFunctionResult × Machine κ δ :=
  let call := sdk.sendJointPosition m.context command.positionRad command.dof config.servoStepNum
  (call.1, { m with
    context := call.2
    history := .send m.sender command nowNs call.1 :: m.history })

/-- The counters after a successful `send_joint_position` (lines 383–391). -/
def countSent (a : ThinJakaTransportAdapter δ) (command : ShapedJointCommandV1 δ) (nowNs : ℤ) :
    ThinJakaTransportAdapter δ :=
  { a with
    skippedOutputSequenceCount :=
      if a.lastOutputSequence ≠ 0 ∧ a.lastOutputSequence + 1 < command.outputSequence then
        a.skippedOutputSequenceCount + (command.outputSequence - a.lastOutputSequence - 1)
      else a.skippedOutputSequenceCount
    lastOutputSequence := command.outputSequence
    sentCommandCount := a.sentCommandCount + 1
    maximumCommandAgeNs := max a.maximumCommandAgeNs (nowNs - command.generatedMonotonicNs) }

/-- A stopped command is kept (lines 400–403). -/
def storeStopped (m : Machine κ δ) (command : ShapedJointCommandV1 δ) : Machine κ δ :=
  { m with
    adapter.stoppedCommand := command
    adapter.stoppedCommandValid := true
    adapter.clutchCycleCount := m.adapter.clutchCycleCount + 1
    adapter.state := .stoppedReady }

/-- The transitions after a successful `send_joint_position` (lines 392–406). -/
def afterSend (m : Machine κ δ) (command : ShapedJointCommandV1 δ) : Outcome κ δ :=
  if command.outputMode = .controlledBraking then (.ok, m.withState .controlledStopping)
  else if command.outputMode = .stopped then
    if m.adapter.state ≠ .controlledStopping then fault sdk .invalidCommand .invalidCommand m
    else applyStoppedPreparation sdk config (storeStopped m command)
  else (.ok, m)

/-- `Send` (lines 369–407). -/
def send (m : Machine κ δ) (command : ShapedJointCommandV1 δ) (nowNs : ℤ) : Outcome κ δ :=
  let call := callSend sdk config m command nowNs
  if !sdkOk call.1 then sendFault sdk call.1 call.2
  else
    afterSend sdk config { call.2 with adapter := countSent call.2.adapter command nowNs } command

/-- `RepeatStoppedCommand` (lines 409–424). -/
def repeatStoppedCommand (m : Machine κ δ) : Outcome κ δ :=
  if ¬m.adapter.stoppedCommandValid then (.invalidState, m)
  else
    let command := m.adapter.stoppedCommand
    let call := sdk.sendJointPosition m.context command.positionRad command.dof
      config.servoStepNum
    let m := { m with
      context := call.2
      history := .repeatStopped m.sender command call.1 :: m.history }
    if !sdkOk call.1 then sendFault sdk call.1 m
    else
      (.ok, { m with
        adapter.repeatedStoppedCommandCount := m.adapter.repeatedStoppedCommandCount + 1 })

/-- The largest distance between the first command and the measured position
    (lines 294–299). -/
def maximumDelta (command : ShapedJointCommandV1 δ) (measured : MeasuredJointStateV1 δ) : δ :=
  (List.finRange 8).foldl (fun delta i =>
    if i.val < config.dof.toNat then
      Double.max delta
        (Double.abs (Double.sub (command.positionRad i) (measured.positionRad i)))
    else delta) Double.zero

/-- The first command's distance is recorded (lines 300–301). -/
def noteDelta (m : Machine κ δ) (delta : δ) : Machine κ δ :=
  { m with
    adapter.maximumResumePositionDeltaRad :=
      Double.max m.adapter.maximumResumePositionDeltaRad delta }

/-- `StartStreaming` (lines 277–308). -/
def startStreaming (m : Machine κ δ) (firstCommand : ShapedJointCommandV1 δ) (nowNs : ℤ) :
    Outcome κ δ :=
  if m.adapter.state ≠ .servoReady ∨ m.adapter.safetyEpoch = 0 then (.invalidState, m)
  else
    let context : ValidationContext := ⟨nowNs, config.dof, m.adapter.safetyEpoch, 0⟩
    if !(validateCommand firstCommand context).ok ∨ firstCommand.outputMode ≠ .activeTracking then
      fault sdk .invalidCommand .invalidCommand m
    else
      let delta := maximumDelta config firstCommand m.adapter.measured
      let m := noteDelta m delta
      if Double.lt config.resumePositionToleranceRad delta then
        fault sdk .continuityFault .invalidCommand m
      else send sdk config (m.withState .streaming) firstCommand nowNs

/-- The end of `OfferLatest` (lines 338–346). -/
def storeOffer (m : Machine κ δ) (command : ShapedJointCommandV1 δ) : Machine κ δ :=
  { m with
    adapter.supersededCommandCount :=
      if m.adapter.pendingValid then m.adapter.supersededCommandCount + 1
      else m.adapter.supersededCommandCount
    adapter.pending := command
    adapter.pendingValid := true
    history := .offered command
        (if m.adapter.pendingValid then some m.adapter.pending else none) :: m.history }

/-- A command of another epoch is counted (line 325). -/
def noteOldEpoch (m : Machine κ δ) : Machine κ δ :=
  { m with adapter.oldEpochRejectionCount := m.adapter.oldEpochRejectionCount + 1 }

/-- `OfferLatest` (lines 310–348). -/
def offerLatest (m : Machine κ δ) (command : ShapedJointCommandV1 δ) (nowNs : ℤ) :
    Outcome κ δ :=
  if m.adapter.state ≠ .streaming ∧ m.adapter.state ≠ .controlledStopping then (.invalidState, m)
  else
    let context : ValidationContext :=
      ⟨nowNs, config.dof, m.adapter.safetyEpoch, m.adapter.lastOutputSequence⟩
    let validation := validateCommand command context
    if !validation.ok then
      if validation.error = .epochMismatch then
        fault sdk .epochMismatch .epochMismatch (noteOldEpoch m)
      else if validation.error = .staleValidityWindow then fault sdk .stale .staleInput m
      else fault sdk .invalidCommand .invalidCommand m
    else if m.adapter.pendingValid ∧
        command.outputSequence ≤ m.adapter.pending.outputSequence then
      fault sdk .invalidCommand .invalidCommand m
    else (.ok, storeOffer m command)

/-! ## The status poll and the tick -/

/-- The timing conditions of lines 481–487. -/
def statusTimingFault (status : JakaNormalizedStatus) (nowNs : ℤ) : Bool :=
  status.sdkCallStartMonotonicNs < nowNs ∨
    status.sdkCallEndMonotonicNs < status.sdkCallStartMonotonicNs ∨
    status.sampledMonotonicNs < status.sdkCallStartMonotonicNs ∨
    status.sdkCallEndMonotonicNs < status.sampledMonotonicNs ∨
    status.validationMonotonicNs < status.sdkCallEndMonotonicNs

/-- The staleness conditions of lines 491–498. -/
def statusStale (a : ThinJakaTransportAdapter δ) (status : JakaNormalizedStatus) : Bool :=
  status.sequence = 0 ∨ status.sequence ≤ a.lastStatusSequence ∨ status.sampledMonotonicNs < 0 ∨
    status.validationMonotonicNs < status.sampledMonotonicNs ∨
    config.maximumStatusAgeNs < status.validationMonotonicNs - status.sampledMonotonicNs

/-- The code and the reason of the first check of a status read that fails
    (lines 473–498). -/
def statusReadFault (a : ThinJakaTransportAdapter δ) (result : JakaFunctionResult)
    (status : JakaNormalizedStatus) (nowNs : ℤ) : Option (ThinJakaCode × StopReason) :=
  if !sdkOk result then
    if result = .timeout then some (.stale, .staleInput) else some (.sdkFailure, .sdkFailure)
  else if statusTimingFault status nowNs then some (.timingFault, .timingFault)
  else if statusStale config a status then some (.stale, .staleInput)
  else none

/-- The same for what the status says (lines 500–517). -/
def statusFault (a : ThinJakaTransportAdapter δ) (status : JakaNormalizedStatus) :
    Option (ThinJakaCode × StopReason) :=
  if ¬status.sessionAlive then some (.sdkFailure, .sdkFailure)
  else if status.estop then some (.controllerFault, .estop)
  else if status.collision then some (.controllerFault, .collision)
  else if status.alarm ∨ ¬status.poweredOn ∨ (a.servoEnabled ∧ ¬status.servoEnabled) ∨
      (a.edgEnabled ∧ ¬status.edgReady) then
    some (.controllerFault, .controllerAlarm)
  else none

/-- The poll is counted (line 472). -/
def countPoll (m : Machine κ δ) : Machine κ δ :=
  { m with adapter.statusPollCount := m.adapter.statusPollCount + 1 }

/-- The sequence of an accepted status is kept (line 499). -/
def noteStatus (m : Machine κ δ) (status : JakaNormalizedStatus) : Machine κ δ :=
  { m with adapter.lastStatusSequence := status.sequence }

/-- `PollStatus` (lines 468–519). -/
def pollStatus (m : Machine κ δ) (nowNs : ℤ) : Outcome κ δ :=
  if ¬m.adapter.sessionOwned then (.invalidState, m)
  else
    let call := callReadStatus sdk m
    let m := countPoll call.2.2
    match statusReadFault config m.adapter call.1 call.2.1 nowNs with
    | some (code, reason) => fault sdk code reason m
    | none =>
      let m := noteStatus m call.2.1
      match statusFault m.adapter call.2.1 with
      | some (code, reason) => fault sdk code reason m
      | none => (.ok, m)

/-- A missed deadline is counted (lines 434 and 441). -/
def missDeadline (m : Machine κ δ) : Machine κ δ :=
  { m with adapter.tickDeadlineMissCount := m.adapter.tickDeadlineMissCount + 1 }

/-- The interval since the last tick, if there was one, is recorded (lines 438–439). -/
def noteInterval (m : Machine κ δ) (nowNs : ℤ) : Machine κ δ :=
  { m with
    adapter.maximumTickIntervalNs :=
      if 0 ≤ m.adapter.lastTickNs then
        max m.adapter.maximumTickIntervalNs (nowNs - m.adapter.lastTickNs)
      else m.adapter.maximumTickIntervalNs }

/-- The tick is counted (lines 446–447). -/
def countTick (m : Machine κ δ) (nowNs : ℤ) : Machine κ δ :=
  { m with adapter.lastTickNs := nowNs, adapter.tickCount := m.adapter.tickCount + 1 }

/-- `Tick` up to its status poll (lines 427–452); the code is `kOk` where the
    function goes on. -/
def tickGate (m : Machine κ δ) (nowNs : ℤ) : Outcome κ δ :=
  if m.adapter.state = .faulted ∨ m.adapter.state = .cleanup ∨
      m.adapter.state = .resetRequired ∨ m.adapter.state = .disconnected then
    (.invalidState, m)
  else if 0 ≤ m.adapter.lastTickNs ∧ nowNs ≤ m.adapter.lastTickNs then
    fault sdk .timingFault .timingFault (missDeadline m)
  else if 0 ≤ m.adapter.lastTickNs ∧
      config.maximumTickIntervalNs < nowNs - m.adapter.lastTickNs then
    fault sdk .timingFault .timingFault (missDeadline (noteInterval m nowNs))
  else
    let m := countTick (noteInterval m nowNs) nowNs
    if m.adapter.tickCount % config.statusPollIntervalTicks.toUInt64 = 0 then
      pollStatus sdk config m nowNs
    else (.ok, m)

/-- `Tick` after its status poll (lines 453–465). -/
def tickSend (m : Machine κ δ) (nowNs : ℤ) : Outcome κ δ :=
  if (m.adapter.state = .stoppedReady ∨ m.adapter.state = .measuredStateRefresh) ∧
      config.pausePolicy = .repeatStoppedPositionRequired ∧ m.adapter.stoppedCommandValid then
    repeatStoppedCommand sdk config m
  else if m.adapter.pendingValid then
    send sdk config { m with adapter.pendingValid := false } m.adapter.pending nowNs
  else (.ok, m)

/-- `Tick` (lines 426–466). -/
def tick (m : Machine κ δ) (nowNs : ℤ) : Outcome κ δ :=
  let gate := tickGate sdk config m nowNs
  if gate.1 ≠ .ok then gate else tickSend sdk config gate.2 nowNs

/-! ## Hard stop, cleanup, reset -/

/-- `HardStop` (lines 521–527). -/
def hardStop (m : Machine κ δ) (reason : StopReason) (_nowNs : ℤ) : Machine κ δ :=
  (fault sdk .controllerFault (if reason = .none then .invalidCommand else reason) m).2

/-- One stage of `Cleanup` (lines 538–554): a call is made only if its flag is
    set, and clears the flag if it succeeds. -/
def cleanupServo (m : Machine κ δ) (failed : Bool) : Bool × Machine κ δ :=
  if m.adapter.servoEnabled then
    let call := callSetServoEnabled sdk m false
    if sdkOk call.1 then (failed, call.2.withServo false)
    else (true, call.2)
  else (failed, m)

/-- The second stage, for EDG. -/
def cleanupEdg (m : Machine κ δ) (failed : Bool) : Bool × Machine κ δ :=
  if m.adapter.edgEnabled then
    let call := callSetEdgEnabled sdk m false
    if sdkOk call.1 then (failed, call.2.withEdg false)
    else (true, call.2)
  else (failed, m)

/-- The third stage, for the session. -/
def cleanupSession (m : Machine κ δ) (failed : Bool) : Bool × Machine κ δ :=
  if m.adapter.sessionOwned then
    let call := callLogout sdk m
    if sdkOk call.1 then (failed, { call.2 with adapter.sessionOwned := false })
    else (true, call.2)
  else (failed, m)

/-- `Cleanup` (lines 529–558). -/
def cleanup (m : Machine κ δ) (_nowNs : ℤ) : Outcome κ δ :=
  if m.adapter.state ≠ .faulted ∧ m.adapter.state ≠ .stoppedReady ∧
      m.adapter.state ≠ .servoReady ∧ m.adapter.state ≠ .connected then
    (.invalidState, m)
  else
    let servo := cleanupServo sdk (m.withState .cleanup) false
    let edg := cleanupEdg sdk servo.2 servo.1
    let session := cleanupSession sdk edg.2 edg.1
    let m := session.2.withState .resetRequired
    (if session.1 then .cleanupFailure else .ok, { m with adapter.cleanupFailed := session.1 })

/-- The assignments of `ExplicitReset` (lines 565–574). -/
def clear (m : Machine κ δ) : Machine κ δ :=
  { m with
    adapter.state := .disconnected
    adapter.faultReason := .none
    adapter.hardStopCallbackCalled := false
    adapter.safetyEpoch := 0
    adapter.refreshEpoch := 0
    adapter.lastOutputSequence := 0
    adapter.lastStatusSequence := 0
    adapter.pendingValid := false
    adapter.stoppedCommandValid := false
    adapter.lastTickNs := -1
    history := .explicitReset :: m.history }

/-- `ExplicitReset` (lines 560–576). -/
def explicitReset (m : Machine κ δ) (_nowNs : ℤ) : Outcome κ δ :=
  if m.adapter.state ≠ .resetRequired ∨ m.adapter.cleanupFailed ∨ m.adapter.sessionOwned then
    (.invalidState, m)
  else (.ok, clear m)

/-! ## The transition system -/

/-- A public call with its arguments. -/
inductive Call (δ : Type*)
  | connect (nowNs : ℤ)
  | prepareServo (nowNs : ℤ)
  | beginMeasuredStateRefresh (newSafetyEpoch : UInt64) (nowNs : ℤ)
  | refreshMeasuredState (nowNs : ℤ) (pointee : Option (MeasuredJointStateV1 δ))
  | startStreaming (firstCommand : ShapedJointCommandV1 δ) (nowNs : ℤ)
  | offerLatest (command : ShapedJointCommandV1 δ) (nowNs : ℤ)
  | tick (nowNs : ℤ)
  | pollStatus (nowNs : ℤ)
  | hardStop (reason : StopReason) (nowNs : ℤ)
  | cleanup (nowNs : ℤ)
  | explicitReset (nowNs : ℤ)

/-- The machine after a public call. -/
def step (m : Machine κ δ) : Call δ → Machine κ δ
  | .connect nowNs => (connect sdk config m nowNs).2
  | .prepareServo nowNs => (prepareServo sdk config m nowNs).2
  | .beginMeasuredStateRefresh epoch nowNs =>
    (beginMeasuredStateRefresh sdk config m epoch nowNs).2
  | .refreshMeasuredState nowNs pointee => (refreshMeasuredState sdk config m nowNs pointee).2.2
  | .startStreaming command nowNs => (startStreaming sdk config m command nowNs).2
  | .offerLatest command nowNs => (offerLatest sdk config m command nowNs).2
  | .tick nowNs => (tick sdk config m nowNs).2
  | .pollStatus nowNs => (pollStatus sdk config m nowNs).2
  | .hardStop reason nowNs => hardStop sdk m reason nowNs
  | .cleanup nowNs => (cleanup sdk m nowNs).2
  | .explicitReset nowNs => (explicitReset m nowNs).2

/-- The machine after a sequence of public calls on a new adapter. -/
def runCalls (context : κ) (calls : List (Call δ)) : Machine κ δ :=
  run (step sdk config) (.init context) calls

end HandLab.ThinJaka
