import HandLab.Lib.Double
import Mathlib.Data.Fintype.Basic

/-!
# Types of the RH56 PC-direct driver

The types of `src/rh56_driver/pc_direct_control.py`, with the parts of
`hand_schema.py` and of `serial_backend.py` they rest on.

The serial backend and the clocks are one state machine on an environment:
each call maps the environment to an outcome and the next environment, and
nothing is assumed about it. `Machine` is a controller together with that
environment and with the history of what the controller did; the history is a
record for the proofs, which the controller never reads.
-/

namespace HandLab.Rh56

open HandLab.Lib

/-- One value for each of the six channels of `CANONICAL_HAND_ORDER`. -/
abbrev Channels (α : Type*) := Fin 6 → α

/-- `np.asarray(values).reshape(-1)` where the size must be six. -/
def Channels.ofList? {α : Type*} (values : List α) : Option (Channels α) :=
  if h : values.length = 6 then some fun i => values.get (i.cast h.symm) else none

@[simp] theorem Channels.ofList?_ofFn {α : Type*} (c : Channels α) :
    Channels.ofList? (List.ofFn c) = some c := by
  rw [Channels.ofList?, dif_pos List.length_ofFn]
  congr 1
  funext i
  exact List.get_ofFn c _

/-! ## Enumerations -/

/-- `HandControlState`. -/
inductive HandControlState
  | disabled | hold | active | fault
  deriving DecidableEq, Repr

/-- `HandOperation`. -/
inductive HandOperation
  | handOnly | combined | runtimeConfig | faultReset | forceSensorCalibration
  deriving DecidableEq, Repr

/-- The operations that `activate` admits. -/
def HandOperation.allowsPosition : HandOperation → Bool
  | handOnly | combined => true
  | runtimeConfig | faultReset | forceSensorCalibration => false

/-- The values of `transport_state`; `connectedHold` is the text
    `CONNECTED_HOLD:{reason}`. -/
inductive TransportState
  | closed | connectedReadOnly | connectedCommanding | connectedHold (reason : String) | fault
  deriving DecidableEq, Repr

/-- The keys of `_feedback_values`. -/
inductive FeedbackRegister
  | angle | current | force | status | error
  deriving DecidableEq, Repr

/-- The values of `last_command_disposition`. -/
inductive Disposition
  | neverEvaluated | inactive | faulted | feedbackTimeoutHold | rateLimited | contactFeedbackWait
  | exactDuplicateSuppressed | serialWriteSuccess | staleTargetDropped
  deriving DecidableEq, Repr

/-! ## Errors -/

/-- The `code` of an `RH56SerialError`. -/
inductive SerialErrorCode
  | timeout | checksumFailure | responseValidationFailure | responseLengthFailure
  | responseLengthMismatch | acknowledgementValidationFailure
  deriving DecidableEq, Repr

/-- The `operation` of an `RH56SerialError`. -/
inductive SerialOperation
  | readRegister | writeRegister
  deriving DecidableEq, Repr

/-- The `register` of an `RH56SerialError`, a key of `REG` or a short name. -/
inductive SerialRegister
  | short (name : FeedbackRegister) | angleAct | forceAct | other
  deriving DecidableEq, Repr

/-- `register_aliases` of `_is_transient_read_timeout`. -/
def FeedbackRegister.alias : FeedbackRegister → SerialRegister
  | angle => .angleAct
  | current => .short .current
  | force => .forceAct
  | status => .short .status
  | error => .short .error

/-- An exception of the backend. -/
inductive BackendError
  /-- `RH56SerialError` -/
  | serial (code : SerialErrorCode) (operation : SerialOperation) (register : Option SerialRegister)
  /-- `TimeoutError` -/
  | timeout
  | other (message : String)
  deriving DecidableEq, Repr

/-- What the methods of `RH56PcDirectControl` raise. -/
inductive ControlError
  /-- an exception of the backend, passed on -/
  | backend (error : BackendError)
  /-- `RuntimeError("RH56 PC-direct backend did not connect.")` -/
  | didNotConnect
  /-- `RuntimeError("RH56 PC-direct transport is not open.")` -/
  | notOpen
  /-- `PermissionError("This RH56 operation does not allow position commands.")` -/
  | notPermitted
  /-- `RuntimeError(f"RH56 device error registers are nonzero: {errors}")` -/
  | deviceError (errors : Channels ℕ)
  /-- `RuntimeError` of a read that took longer than the stale boundary -/
  | staleDuringRead
  /-- `ValueError(f"Invalid calibration for {name}: raw_open equals raw_close.")` -/
  | invalidCalibration
  /-- `RuntimeError("RH56 feedback cache is incomplete.")` -/
  | incompleteCache
  /-- `RuntimeError("RH56 feedback is stale or absent.")` -/
  | staleFeedback
  /-- `RuntimeError(f"RH56 is faulted: {fault_reason}")` -/
  | faulted (reason : Option String)
  /-- `ValueError("RH56 normalized target must have six canonical channels.")` -/
  | targetSize
  /-- `ValueError(f"RH56 normalized target must remain within [0, {target_ceiling}].")` -/
  | targetRange (measuredActivation : Bool)
  /-- `ValueError("Measured activation requires a forced write with fresh feedback.")` -/
  | activationNotForced
  /-- `ValueError("Measured activation target must equal current ANGLE_ACT.")` -/
  | activationMismatch
  /-- `RuntimeError("RH56 rejected the position command.")` -/
  | commandRejected
  /-- a failed `assert` -/
  | assertion
  deriving DecidableEq

/-! ## Calibration -/

/-- `HandDofCalibration`. -/
structure HandDofCalibration (δ : Type*) where
  rawOpen : δ
  rawClose : δ
  safeMin : δ
  safeMax : δ

section Calibration

open Double PyFloat

variable {δ : Type*} [PyFloat δ]

/-- The denominator check of `normalize_raw`. -/
def HandDofCalibration.invalid (dof : HandDofCalibration δ) : Bool :=
  lt (abs (sub dof.rawClose dof.rawOpen)) (ofRat 1e-9)

/-- `normalize_raw` with `raw_order = CANONICAL_HAND_ORDER`
    (`hand_schema.py` lines 129–143). -/
def normalizeRaw (calibration : Channels (HandDofCalibration δ)) (raw : Channels δ) :
    Except ControlError (Channels δ) :=
  if ∃ i, (calibration i).invalid then .error .invalidCalibration
  else .ok fun i =>
    clip (div (sub (toFloat32 (raw i)) (calibration i).rawOpen)
      (sub (calibration i).rawClose (calibration i).rawOpen)) zero (ofRat 1)

/-- `denormalize_canonical` with `raw_order = CANONICAL_HAND_ORDER`
    (`hand_schema.py` lines 146–159), then `int(round(value))`. -/
def denormalizeCanonical (calibration : Channels (HandDofCalibration δ)) (normalized : Channels δ) :
    Channels ℤ := fun i =>
  let dof := calibration i
  let clipped := clip (toFloat32 (normalized i)) zero (ofRat 1)
  let raw := add dof.rawOpen (mul clipped (sub dof.rawClose dof.rawOpen))
  PyFloat.round (toFloat32 (clip raw dof.safeMin dof.safeMax))

end Calibration

/-- `raw_to_canonical` on the bytes of `STATUS` or `ERROR`; `order` is
    `protocol_order`, the channel of each raw position. -/
def rawToCanonical (order : Equiv.Perm (Fin 6)) (values : Channels UInt8) : Channels ℕ :=
  fun i => (values (order.symm i)).toNat

/-! ## Configuration -/

/-- The members that `__init__` reads from `safety.contact_stop`. -/
structure ContactStop (δ : Type*) where
  enabled : Bool
  requireFreshForceBeforeClosure : Bool
  forceDeltaOnset : Channels δ
  forceDeltaRelease : Channels δ
  closureBudgetPerForceSample : Channels δ
  maximumClosureStep : Channels δ
  minimumClosingGap : δ
  maximumStallProgress : δ
  reliefMargin : δ
  releaseOpenDelta : δ
  consecutiveSamples : ℤ
  baselineAlpha : δ

section WellFormed

open Double

variable {δ : Type*} [Double δ]

/-- `contact_vector` accepts the vector (lines 264–275). -/
def IsContactVector (values : Channels δ) : Prop :=
  ∀ i, isFinite (values i) = true ∧ lt (values i) zero = false

instance (values : Channels δ) : Decidable (IsContactVector values) := by
  unfold IsContactVector; infer_instance

/-- The checks of `__init__` that keep it from raising "Malformed RH56
    contact_stop policy." (lines 306–332). -/
structure ContactStop.WellFormed (policy : ContactStop δ) (deltaLimit : δ) : Prop where
  onset : IsContactVector policy.forceDeltaOnset
  release : IsContactVector policy.forceDeltaRelease
  budget : IsContactVector policy.closureBudgetPerForceSample
  step : IsContactVector policy.maximumClosureStep
  minimumGap : isFinite policy.minimumClosingGap = true ∧ le policy.minimumClosingGap zero = false
  stallProgress : isFinite policy.maximumStallProgress = true ∧
    lt policy.maximumStallProgress zero = false
  release_lt : ∀ i, le (policy.forceDeltaOnset i) (policy.forceDeltaRelease i) = false
  budget_pos : ∀ i, le (policy.closureBudgetPerForceSample i) zero = false
  budget_le : ∀ i, lt deltaLimit (policy.closureBudgetPerForceSample i) = false
  step_pos : ∀ i, le (policy.maximumClosureStep i) zero = false
  step_le : ∀ i, lt (policy.closureBudgetPerForceSample i) (policy.maximumClosureStep i) = false
  margin : isFinite policy.reliefMargin = true ∧ le zero policy.reliefMargin = true ∧
    le policy.reliefMargin deltaLimit = true
  openDelta : isFinite policy.releaseOpenDelta = true ∧ le policy.releaseOpenDelta zero = false
  samples : 2 ≤ policy.consecutiveSamples
  alpha : isFinite policy.baselineAlpha = true ∧ lt zero policy.baselineAlpha = true ∧
    le policy.baselineAlpha (ofRat 1) = true

end WellFormed

/-- What `__init__` derives from the configuration and its own checks admit. -/
structure ControlConfig (δ : Type*) [Double δ] where
  commandPeriodNs : ℤ
  feedbackStaleTimeoutNs : ℤ
  feedbackWarningAgeNs : FeedbackRegister → ℤ
  deltaLimit : δ
  maxClose : δ
  contactStop : ContactStop δ
  calibration : Channels (HandDofCalibration δ)
  protocolOrder : Equiv.Perm (Fin 6)
  exactDuplicateSuppression : Bool
  warningAge_pos : ∀ name, 0 < feedbackWarningAgeNs name
  maxClose_range : Double.isFinite maxClose = true ∧
    Double.lt Double.zero maxClose = true ∧ Double.le maxClose (Double.ofRat 1) = true
  wellFormed : contactStop.WellFormed deltaLimit

/-! ## The backend -/

/-- `PcDirectBackend` with the clocks `perf_counter_ns` of the controller and
    `monotonic_ns` of the worker. `STATUS` and `ERROR` are registers of six
    bytes. -/
structure PcDirectBackend (κ δ : Type*) where
  connect : κ → Except BackendError Bool × κ
  closePort : κ → Except BackendError Unit × κ
  getCanonicalAngles : κ → Except BackendError (Channels δ) × κ
  getCanonicalCurrents : κ → Except BackendError (Channels δ) × κ
  getCanonicalForces : κ → Except BackendError (Channels δ) × κ
  readStatus : κ → Except BackendError (Channels UInt8) × κ
  readError : κ → Except BackendError (Channels UInt8) × κ
  setCanonicalAngles : κ → Channels ℤ → Except BackendError Bool × κ
  perfCounterNs : κ → ℤ × κ
  monotonicNs : κ → ℤ × κ

/-! ## State -/

/-- `PcDirectFeedback`. -/
structure PcDirectFeedback (δ : Type*) where
  monotonicNs : ℤ
  positionRaw : Channels δ
  positionNormalized : Channels δ
  currentRawCount : Channels δ
  loadOrForceRawCount : Channels δ
  status : Channels ℕ
  error : Channels ℕ

/-- `_feedback_values`, with the time of the last `ANGLE` in
    `_feedback_success_ns`. -/
structure FeedbackCache (δ : Type*) where
  angle : Option (Channels δ × ℤ)
  current : Option (Channels δ)
  force : Option (Channels δ)
  status : Option (Channels ℕ)
  error : Option (Channels ℕ)

/-- The `_contact_*` members; `holdTarget` is `none` where the source has
    `math.nan`. -/
structure ContactState (δ : Type*) where
  forceBaseline : Option (Channels δ)
  forceDelta : Channels δ
  lastAngle : Option (Channels δ)
  angleProgress : Channels δ
  angleGeneration : ℤ
  forceAngleGeneration : ℤ
  candidateCount : Channels ℤ
  holdTarget : Channels (Option δ)
  latched : Channels Bool
  lastClosingRequestNs : Channels ℤ
  forceGeneration : ℤ
  lastClosureForceGeneration : ℤ
  closureSinceForce : Channels δ
  reliefPending : Bool

/-- The members of `RH56PcDirectControl` that its methods decide on. -/
structure RH56PcDirectControl (δ : Type*) where
  state : HandControlState
  transportState : TransportState
  operation : Option HandOperation
  lastFeedback : Option (PcDirectFeedback δ)
  lastCommandNormalized : Option (Channels δ)
  lastCommandRaw : Option (Channels ℤ)
  nextCommandMonotonicNs : Option ℤ
  faultReason : Option String
  lastCommandDisposition : Disposition
  forceNextCommand : Bool
  feedbackTransientHold : Bool
  feedbackCache : FeedbackCache δ
  lastRequestedTargetNormalized : Option (Channels δ)
  contact : ContactState δ

/-- `ContactState` after `__init__`. -/
def ContactState.init {δ : Type*} [Double δ] : ContactState δ where
  forceBaseline := none
  forceDelta := fun _ => Double.zero
  lastAngle := none
  angleProgress := fun _ => Double.zero
  angleGeneration := 0
  forceAngleGeneration := 0
  candidateCount := fun _ => 0
  holdTarget := fun _ => none
  latched := fun _ => false
  lastClosingRequestNs := fun _ => -1
  forceGeneration := 0
  lastClosureForceGeneration := -1
  closureSinceForce := fun _ => Double.zero
  reliefPending := false

/-- `RH56PcDirectControl` after `__init__` (lines 201–410). -/
def RH56PcDirectControl.init {δ : Type*} [Double δ] : RH56PcDirectControl δ where
  state := .disabled
  transportState := .closed
  operation := none
  lastFeedback := none
  lastCommandNormalized := none
  lastCommandRaw := none
  nextCommandMonotonicNs := none
  faultReason := none
  lastCommandDisposition := .neverEvaluated
  forceNextCommand := false
  feedbackTransientHold := false
  feedbackCache := ⟨none, none, none, none, none⟩
  lastRequestedTargetNormalized := none
  contact := .init

/-! ## History -/

/-- One call of `set_canonical_angles` from `command`. -/
structure Write (δ : Type*) where
  measuredActivation : Bool
  previous : Channels δ
  selected : Channels δ
  raw : Channels ℤ

/-- A call of `set_canonical_angles`, or a landmark of the life cycle. -/
inductive Event (δ : Type*)
  /-- `open` returns -/
  | opened
  /-- `set_canonical_angles` is called, with its outcome -/
  | wrote (write : Write δ) (outcome : Except BackendError Bool)
  /-- `_fault` is called -/
  | faulted (reason : String)
  /-- `activate` takes the measured target -/
  | activated (target : Channels δ)
  /-- a poll sets the first `last_command_normalized` -/
  | measured (target : Channels δ)
  /-- `_observe_contact_force` is called -/
  | forceObserved
  /-- `cleanup` leaves -/
  | closed

/-- A controller, its environment and the history, newest first. -/
structure Machine (κ δ : Type*) where
  control : RH56PcDirectControl δ
  context : κ
  history : List (Event δ)

/-- A new controller over an environment. -/
def Machine.init {κ δ : Type*} [Double δ] (context : κ) : Machine κ δ := ⟨.init, context, []⟩

end HandLab.Rh56
