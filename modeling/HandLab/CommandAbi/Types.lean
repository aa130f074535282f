import HandLab.Lib.Double

/-!
# The command ABI

The structures and enumerations of
`native/teleop_shaping/include/teleop_command_abi/abi_v1.hpp` that the shaper
and the transport exchange. Integer fields keep their widths, except the
`int64` times, which are integers. An enumeration has one constructor more
than the source has enumerators: an `enum class` over a byte can hold a value
that no enumerator names, and `Validate` tests for it.
-/

namespace HandLab.CommandAbi

open HandLab.Lib

/-- `kAbiMagic`. -/
def abiMagic : UInt32 := 0x54434D44

/-- `kSchemaVersionV1`. -/
def schemaVersionV1 : UInt16 := 1

/-- `kLittleEndian`. -/
def littleEndian : UInt8 := 1

/-- `kMaxDof`. -/
def maxDof : UInt8 := 8

/-- `kNoFieldIndex`. -/
def noFieldIndex : UInt8 := 0xFF

/-- `std::array<double, kMaxDof>`. -/
abbrev AxisArray (δ : Type*) := Fin 8 → δ

/-! ## Enumerations -/

/-- `EngagementState`. -/
inductive EngagementState
  | disengaged | engaged
  | outOfRange (raw : UInt8) (h : 1 < raw)
  deriving DecidableEq

/-- `TargetValidity`. -/
inductive TargetValidity
  | noTarget | accepted | rejectedKeepPrevious
  | outOfRange (raw : UInt8) (h : 2 < raw)
  deriving DecidableEq

/-- `OutputMode`. -/
inductive OutputMode
  | inactive | activeTracking | controlledBraking | stopped | hardStopped
  | outOfRange (raw : UInt8) (h : 4 < raw)
  deriving DecidableEq

/-- `StopClass`. -/
inductive StopClass
  | none | controlled | immediate
  | outOfRange (raw : UInt8) (h : 2 < raw)
  deriving DecidableEq

/-- `StopReason`. -/
inductive StopReason
  | none | clutchRelease | staleInput | timingFault | controllerAlarm | sdkFailure | estop
  | collision | producerFailure | epochMismatch | invalidCommand
  | outOfRange (raw : UInt8) (h : 10 < raw)
  deriving DecidableEq

/-- `MeasurementValidity`. -/
inductive MeasurementValidity
  | noMeasurement | valid | invalid
  | outOfRange (raw : UInt8) (h : 2 < raw)
  deriving DecidableEq

/-- `ValidationError`. -/
inductive ValidationError
  | ok | badMagic | unsupportedVersion | wrongStructSize | unsupportedEndianness
  | nonzeroReserved | invalidDof | invalidEnum | nonFinite | timestampOrdering | invalidSequence
  | invalidLimits | epochMismatch | targetSmuggling | staleValidityWindow | invalidModeContract
  | invalidBoolean | invalidMeasurement
  deriving DecidableEq, Repr

/-- `ValidationField`. -/
inductive ValidationField
  | none | header | sequence | safetyEpoch | sourceTimestamp | acceptedTimestamp
  | validUntilTimestamp | measuredTimestamp | generatedTimestamp | sampledTimestamp | dof
  | engagement | validity | outputMode | stopClass | stopReason | position | velocity
  | acceleration | minimumPosition | maximumPosition | maximumVelocity | maximumAcceleration
  | maximumJerk | transportState | controllerState | flags | unusedAxis
  deriving DecidableEq, Repr

/-! ## Structures -/

/-- `ValidationResult`. -/
structure ValidationResult where
  ok : Bool
  error : ValidationError
  field : ValidationField
  index : UInt8
  deriving DecidableEq, Repr

/-- `ValidationContext`, with its default member initialisers. -/
structure ValidationContext where
  nowNs : ℤ := -1
  expectedDof : UInt8 := 0
  expectedEpoch : UInt64 := 0
  previousSequence : UInt64 := 0

/-- `AbiHeader`. -/
structure AbiHeader where
  magic : UInt32
  schemaVersion : UInt16
  structSize : UInt16
  hostEndianness : UInt8
  reserved : Fin 7 → UInt8

/-- `MakeHeaderV1`, with the `sizeof` of the structure as its argument. -/
def makeHeaderV1 (structSize : UInt16) : AbiHeader :=
  ⟨abiMagic, schemaVersionV1, structSize, littleEndian, fun _ => 0⟩

/-- `AcceptedJointTargetV1`. -/
structure AcceptedJointTargetV1 (δ : Type*) where
  header : AbiHeader
  sequence : UInt64
  safetyEpoch : UInt64
  sourceMonotonicNs : ℤ
  acceptedMonotonicNs : ℤ
  validUntilMonotonicNs : ℤ
  dof : UInt8
  engagement : EngagementState
  validity : TargetValidity
  reserved0 : UInt8
  reasonCode : UInt32
  positionRad : AxisArray δ

/-- `sizeof(AcceptedJointTargetV1)`. -/
def acceptedJointTargetSize : UInt16 := 128

/-- `MeasuredJointStateV1`. -/
structure MeasuredJointStateV1 (δ : Type*) where
  header : AbiHeader
  stateSequence : UInt64
  safetyEpoch : UInt64
  measuredMonotonicNs : ℤ
  dof : UInt8
  validity : MeasurementValidity
  reserved0 : Fin 6 → UInt8
  positionRad : AxisArray δ
  velocityRadS : AxisArray δ
  accelerationRadS2 : AxisArray δ

/-- `sizeof(MeasuredJointStateV1)`. -/
def measuredJointStateSize : UInt16 := 240

/-- `JointDynamicLimitsV1`. -/
structure JointDynamicLimitsV1 (δ : Type*) where
  header : AbiHeader
  dof : UInt8
  reserved0 : Fin 7 → UInt8
  minimumPositionRad : AxisArray δ
  maximumPositionRad : AxisArray δ
  maximumVelocityRadS : AxisArray δ
  maximumAccelerationRadS2 : AxisArray δ
  maximumJerkRadS3 : AxisArray δ

/-- `sizeof(JointDynamicLimitsV1)`. -/
def jointDynamicLimitsSize : UInt16 := 344

/-- `ShapedJointCommandV1`. -/
structure ShapedJointCommandV1 (δ : Type*) where
  header : AbiHeader
  outputSequence : UInt64
  sourceSequence : UInt64
  safetyEpoch : UInt64
  generatedMonotonicNs : ℤ
  validUntilMonotonicNs : ℤ
  dof : UInt8
  outputMode : OutputMode
  stopClass : StopClass
  stopReason : StopReason
  reasonCode : UInt32
  positionRad : AxisArray δ
  velocityRadS : AxisArray δ
  accelerationRadS2 : AxisArray δ

/-- `sizeof(ShapedJointCommandV1)`. -/
def shapedJointCommandSize : UInt16 := 256

/-! ## Value initialisation -/

section Zero

variable {δ : Type*} [Double δ]

/-- `MeasuredJointStateV1{}`: every byte zero. -/
def MeasuredJointStateV1.zero : MeasuredJointStateV1 δ where
  header := ⟨0, 0, 0, 0, fun _ => 0⟩
  stateSequence := 0
  safetyEpoch := 0
  measuredMonotonicNs := 0
  dof := 0
  validity := .noMeasurement
  reserved0 := fun _ => 0
  positionRad := fun _ => Double.zero
  velocityRadS := fun _ => Double.zero
  accelerationRadS2 := fun _ => Double.zero

/-- `ShapedJointCommandV1{}`: every byte zero. -/
def ShapedJointCommandV1.zero : ShapedJointCommandV1 δ where
  header := ⟨0, 0, 0, 0, fun _ => 0⟩
  outputSequence := 0
  sourceSequence := 0
  safetyEpoch := 0
  generatedMonotonicNs := 0
  validUntilMonotonicNs := 0
  dof := 0
  outputMode := .inactive
  stopClass := .none
  stopReason := .none
  reasonCode := 0
  positionRad := fun _ => Double.zero
  velocityRadS := fun _ => Double.zero
  accelerationRadS2 := fun _ => Double.zero

end Zero

end HandLab.CommandAbi
