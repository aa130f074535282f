import HandLab.CommandAbi.Types

/-!
# Types of the thin JAKA transport

The types of `native/teleop_shaping/include/teleop_shaping/` that
`thin_jaka_transport_adapter.hpp` and the measurement gate of
`clutch_recovery_transport.hpp` use.

The SDK behind the function table is a state machine on its context: each
entry of the table maps the context to a result and the next context, and
nothing is assumed about it. `Machine` is an adapter together with that context
and with the history of what the adapter did; the history is a record for the
proofs, which the adapter never reads.
-/

namespace HandLab.ThinJaka

open HandLab.Lib HandLab.CommandAbi

/-! ## The SDK -/

/-- `JakaFunctionResult`. -/
inductive JakaFunctionResult
  | ok | timeout | failure | sessionLost | rejected
  deriving DecidableEq, Repr

/-- `SdkOk` (`thin_jaka_transport_adapter.cpp` lines 20–22). -/
def sdkOk (result : JakaFunctionResult) : Bool := result = .ok

/-- `JakaJointFeedback`. -/
structure JakaJointFeedback (δ : Type*) where
  sequence : UInt64
  sdkCallStartMonotonicNs : ℤ
  sdkCallEndMonotonicNs : ℤ
  sampledMonotonicNs : ℤ
  validationMonotonicNs : ℤ
  dof : UInt8
  positionRad : AxisArray δ
  velocityRadS : AxisArray δ

/-- `JakaNormalizedStatus`. -/
structure JakaNormalizedStatus where
  sequence : UInt64
  sdkCallStartMonotonicNs : ℤ
  sdkCallEndMonotonicNs : ℤ
  sampledMonotonicNs : ℤ
  validationMonotonicNs : ℤ
  sessionAlive : Bool
  poweredOn : Bool
  servoEnabled : Bool
  edgReady : Bool
  alarm : Bool
  estop : Bool
  collision : Bool

/-- `JakaSdkFunctionTable`. `valid` is the conjunction of null checks of
    `ValidFunctionTable`. A read returns what it wrote through its pointer. -/
structure JakaSdkFunctionTable (κ δ : Type*) where
  valid : Bool
  login : κ → JakaFunctionResult × κ
  setEdgEnabled : κ → Bool → JakaFunctionResult × κ
  setServoEnabled : κ → Bool → JakaFunctionResult × κ
  sendJointPosition : κ → AxisArray δ → UInt8 → UInt32 → JakaFunctionResult × κ
  readJointFeedback : κ → JakaFunctionResult × JakaJointFeedback δ × κ
  readStatus : κ → JakaFunctionResult × JakaNormalizedStatus × κ
  stopMotion : κ → JakaFunctionResult × κ
  logout : κ → JakaFunctionResult × κ

/-! ## Configuration -/

/-- `PauseCommandPolicy`. -/
inductive PauseCommandPolicy
  | unverified | noCommandRequired | repeatStoppedPositionRequired
  | outOfRange (raw : UInt8) (h : 2 < raw)

def PauseCommandPolicy.byte : PauseCommandPolicy → UInt8
  | .unverified => 0
  | .noCommandRequired => 1
  | .repeatStoppedPositionRequired => 2
  | .outOfRange raw _ => raw

theorem PauseCommandPolicy.byte_injective : Function.Injective byte := by
  intro a b h
  cases a <;> cases b <;> grind [byte]

instance : DecidableEq PauseCommandPolicy := PauseCommandPolicy.byte_injective.decidableEq

/-- `ResumePreparationPolicy`. -/
inductive ResumePreparationPolicy
  | unverified | keepPrepared | restartEdg | restartEdgAndServo
  | outOfRange (raw : UInt8) (h : 3 < raw)
  deriving DecidableEq

/-- `RecoveryMeasurementPolicy`. -/
structure RecoveryMeasurementPolicy (δ : Type*) where
  dof : UInt8
  stableSampleCount : UInt8
  maximumSampleAgeNs : ℤ
  maximumSampleIntervalNs : ℤ
  stationaryVelocityRadS : δ

/-- `ThinJakaConfig`. -/
structure ThinJakaConfig (δ : Type*) where
  dof : UInt8
  pausePolicy : PauseCommandPolicy
  resumePolicy : ResumePreparationPolicy
  measurement : RecoveryMeasurementPolicy δ
  maximumStatusAgeNs : ℤ
  maximumTickIntervalNs : ℤ
  statusPollIntervalTicks : UInt32
  servoStepNum : UInt32
  resumePositionToleranceRad : δ

/-- `RecoveryMeasurementPolicy{}`: the default member initialisers. -/
def RecoveryMeasurementPolicy.default {δ : Type*} [Double δ] : RecoveryMeasurementPolicy δ where
  dof := 6
  stableSampleCount := 3
  maximumSampleAgeNs := 32000000
  maximumSampleIntervalNs := 32000000
  stationaryVelocityRadS := Double.ofRat 0.002

/-- `ThinJakaConfig{}`: the default member initialisers. -/
def ThinJakaConfig.default {δ : Type*} [Double δ] : ThinJakaConfig δ where
  dof := 6
  pausePolicy := .unverified
  resumePolicy := .unverified
  measurement := .default
  maximumStatusAgeNs := 32000000
  maximumTickIntervalNs := 16000000
  statusPollIntervalTicks := 2
  servoStepNum := 1
  resumePositionToleranceRad := Double.ofRat 1e-6

/-! ## State -/

/-- `ThinJakaState`. -/
inductive ThinJakaState
  | disconnected | connecting | connected | servoReady | streaming | controlledStopping
  | stoppedReady | measuredStateRefresh | faulted | cleanup | resetRequired
  deriving DecidableEq, Repr

/-- `ThinJakaCode`. -/
inductive ThinJakaCode
  | ok | needMoreSamples | unstableMeasurement | invalidState | invalidConfiguration
  | invalidCommand | epochMismatch | stale | timingFault | sdkFailure | controllerFault
  | continuityFault | cleanupFailure
  deriving DecidableEq, Repr

/-- `JointSampleFields`. -/
inductive JointSampleFields
  | positionOnly | positionVelocity | positionVelocityAcceleration
  | outOfRange (raw : UInt8) (h : 2 < raw)

def JointSampleFields.byte : JointSampleFields → UInt8
  | .positionOnly => 0
  | .positionVelocity => 1
  | .positionVelocityAcceleration => 2
  | .outOfRange raw _ => raw

theorem JointSampleFields.byte_injective : Function.Injective byte := by
  intro a b h
  cases a <;> cases b <;> grind [byte]

instance : DecidableEq JointSampleFields := JointSampleFields.byte_injective.decidableEq

/-- `FakeSdkJointSample`. -/
structure FakeSdkJointSample (δ : Type*) where
  sampleSequence : UInt64
  sampledMonotonicNs : ℤ
  dof : UInt8
  fields : JointSampleFields
  positionRad : AxisArray δ
  velocityRadS : AxisArray δ
  accelerationRadS2 : AxisArray δ

/-- The members of `RecoveryMeasurementGate`; `previous` is `previous_` while
    `have_previous_` is set. -/
structure RecoveryMeasurementGate (δ : Type*) where
  previous : Option (FakeSdkJointSample δ)
  stableSamples : UInt8

/-- The members of `ThinJakaTransportAdapter`, in their order; `functions_` and
    `config_` never change and are parameters of the operations. -/
structure ThinJakaTransportAdapter (δ : Type*) where
  state : ThinJakaState
  faultReason : StopReason
  sessionOwned : Bool
  edgEnabled : Bool
  servoEnabled : Bool
  cleanupFailed : Bool
  pendingValid : Bool
  stoppedCommandValid : Bool
  hardStopCallbackCalled : Bool
  safetyEpoch : UInt64
  lastOutputSequence : UInt64
  lastStatusSequence : UInt64
  sentCommandCount : UInt64
  repeatedStoppedCommandCount : UInt64
  statusPollCount : UInt64
  supersededCommandCount : UInt64
  skippedOutputSequenceCount : UInt64
  tickCount : UInt64
  tickDeadlineMissCount : UInt64
  clutchCycleCount : UInt64
  oldEpochRejectionCount : UInt64
  lastTickNs : ℤ
  maximumTickIntervalNs : ℤ
  maximumCommandAgeNs : ℤ
  maximumResumePositionDeltaRad : δ
  lastFeedbackCallStartNs : ℤ
  lastFeedbackCallEndNs : ℤ
  lastFeedbackSampleNs : ℤ
  lastFeedbackValidationNs : ℤ
  lastFeedbackSampleAgeNs : ℤ
  lastFeedbackCallDurationNs : ℤ
  maximumFeedbackSampleAgeNs : ℤ
  maximumFeedbackCallDurationNs : ℤ
  refreshEpoch : UInt64
  measured : MeasuredJointStateV1 δ
  pending : ShapedJointCommandV1 δ
  stoppedCommand : ShapedJointCommandV1 δ
  measurementGate : RecoveryMeasurementGate δ

/-- The constructor (`thin_jaka_transport_adapter.cpp` lines 26–67). -/
def ThinJakaTransportAdapter.init {δ : Type*} [Double δ] : ThinJakaTransportAdapter δ where
  state := .disconnected
  faultReason := .none
  sessionOwned := false
  edgEnabled := false
  servoEnabled := false
  cleanupFailed := false
  pendingValid := false
  stoppedCommandValid := false
  hardStopCallbackCalled := false
  safetyEpoch := 0
  lastOutputSequence := 0
  lastStatusSequence := 0
  sentCommandCount := 0
  repeatedStoppedCommandCount := 0
  statusPollCount := 0
  supersededCommandCount := 0
  skippedOutputSequenceCount := 0
  tickCount := 0
  tickDeadlineMissCount := 0
  clutchCycleCount := 0
  oldEpochRejectionCount := 0
  lastTickNs := -1
  maximumTickIntervalNs := 0
  maximumCommandAgeNs := 0
  maximumResumePositionDeltaRad := Double.zero
  lastFeedbackCallStartNs := -1
  lastFeedbackCallEndNs := -1
  lastFeedbackSampleNs := -1
  lastFeedbackValidationNs := -1
  lastFeedbackSampleAgeNs := 0
  lastFeedbackCallDurationNs := 0
  maximumFeedbackSampleAgeNs := 0
  maximumFeedbackCallDurationNs := 0
  refreshEpoch := 0
  measured := .zero
  pending := .zero
  stoppedCommand := .zero
  measurementGate := ⟨none, 0⟩

/-! ## History -/

/-- What is recorded of the adapter at a call of `send_joint_position`. -/
structure Sender where
  state : ThinJakaState
  sessionOwned : Bool
  deriving DecidableEq

/-- One call of the SDK with its result, or one landmark of the life cycle. -/
inductive Event (δ : Type*)
  | login (result : JakaFunctionResult)
  | setEdgEnabled (enabled : Bool) (result : JakaFunctionResult)
  | setServoEnabled (enabled : Bool) (result : JakaFunctionResult)
  /-- `send_joint_position` from `Send`, at the `now_ns` of the public call -/
  | send (sender : Sender) (command : ShapedJointCommandV1 δ) (nowNs : ℤ)
      (result : JakaFunctionResult)
  /-- `send_joint_position` from `RepeatStoppedCommand` -/
  | repeatStopped (sender : Sender) (command : ShapedJointCommandV1 δ)
      (result : JakaFunctionResult)
  | readJointFeedback (result : JakaFunctionResult)
  | readStatus (result : JakaFunctionResult)
  | stopMotion (result : JakaFunctionResult)
  | logout (result : JakaFunctionResult)
  /-- `Connect` returns `kOk` -/
  | connected
  /-- `PrepareServo` returns `kOk` -/
  | prepared
  /-- `RefreshMeasuredState` returns `kOk` for this epoch, with this value of
      `skipped_output_sequence_count_` -/
  | refreshed (epoch skipped : UInt64)
  /-- `OfferLatest` accepts a command; `superseded` is what the slot held -/
  | offered (command : ShapedJointCommandV1 δ) (superseded : Option (ShapedJointCommandV1 δ))
  /-- `Fault` latches a reason, with or without the session -/
  | latched (reason : StopReason) (sessionOwned : Bool)
  /-- `ExplicitReset` returns `kOk` -/
  | explicitReset

/-- An adapter, the context of its SDK and the history, newest first. -/
structure Machine (κ δ : Type*) where
  adapter : ThinJakaTransportAdapter δ
  context : κ
  history : List (Event δ)

/-- A new adapter over an SDK context. -/
def Machine.init {κ δ : Type*} [Double δ] (context : κ) : Machine κ δ := ⟨.init, context, []⟩

namespace Machine

variable {κ δ : Type*} (m : Machine κ δ)

/-- `state_ = state`. -/
def withState (state : ThinJakaState) : Machine κ δ := { m with adapter.state := state }

/-- `edg_enabled_ = enabled`. -/
def withEdg (enabled : Bool) : Machine κ δ := { m with adapter.edgEnabled := enabled }

/-- `servo_enabled_ = enabled`. -/
def withServo (enabled : Bool) : Machine κ δ := { m with adapter.servoEnabled := enabled }

end Machine

end HandLab.ThinJaka
