import HandLab.Episode.Samples
import HandLab.Quest.Provider

/-!
# The UMIP data model

The values of `src/motion_input/model.py` with the checks of their constructors. A
constructor that admits its arguments gives a value of a subtype, which carries that its
checks have passed. What a constructor does not convert is any JSON value.
-/

namespace HandLab.Umip

open HandLab.Lib HandLab.Quest HandLab.Episode

/-! ## Python -/

/-- The exceptions of a decoder. `ProtocolValidationError` and `SerializationError` are
    also `ValueError`s. -/
inductive PyError
  | serializationError
  | protocolValidationError
  | keyError
  | typeError
  | valueError
  | overflowError
  deriving DecidableEq, Repr

/-- `Double` with the conversions of the built-in types and the functions of `math`. -/
class Python (δ : Type) extends Double δ where
  /-- `float(n)`, which raises `OverflowError` beyond the largest finite value -/
  float? : ℤ → Option δ
  /-- `int(x)` of a finite value -/
  trunc : δ → ℤ
  /-- `math.sqrt(sum(value * value for value in values))` -/
  norm : List δ → δ
  /-- `str(value)` of a value that is no string, which may raise `ValueError` -/
  str? : Json δ → Option String
  /-- `int(text)`, which may raise `ValueError` -/
  parseInt? : String → Option ℤ
  /-- `float(text)`, which may raise `ValueError` -/
  parseFloat? : String → Option δ
  /-- `character.isdigit()` -/
  isdigit : Char → Bool

/-- The answer, or an exception of this kind. -/
def orRaise {α : Type} (error : PyError) : Option α → Except PyError α
  | some a => .ok a
  | none => .error error

/-- `raise` under a condition. -/
def raiseWhen (refused : Bool) (error : PyError) : Except PyError Unit :=
  if refused then .error error else .ok ()

/-- Arguments that pass a check. -/
abbrev Checked {α : Type} (check : α → Except PyError Unit) := {a : α // check a = .ok ()}

/-- A constructor with a check. -/
def construct {α : Type} (check : α → Except PyError Unit) (a : α) :
    Except PyError (Checked check) :=
  match h : check a with
  | .ok () => .ok ⟨a, h⟩
  | .error e => .error e

theorem construct_val {α : Type} {check : α → Except PyError Unit} (a : Checked check) :
    construct check a.val = .ok a := by
  unfold construct
  split
  · rfl
  · rename_i e h
    rw [a.property] at h
    exact nomatch h

theorem construct_ok {α : Type} {check : α → Except PyError Unit} {a : α} (h : check a = .ok ()) :
    construct check a = .ok ⟨a, h⟩ := construct_val ⟨a, h⟩

theorem construct_eq_ok {α : Type} {check : α → Except PyError Unit} {a : α} {b : Checked check}
    (h : construct check a = .ok b) : b.val = a := by
  unfold construct at h
  split at h
  · rw [← Except.ok.inj h]
  · exact nomatch h

theorem construct_error {α : Type} {check : α → Except PyError Unit} {a : α} {e : PyError}
    (h : construct check a = .error e) : check a = .error e := by
  unfold construct at h
  split at h
  · exact nomatch h
  · rename_i e' hcheck
    rw [hcheck, Except.error.inj h]

section Model

variable {δ : Type} [Python δ]

/-- `not text.strip()`. -/
def blank (text : String) : Bool := text.toList.all ControllerProvider.isSpace

/-- `math.isfinite`. -/
def mathIsfinite : Json δ → Except PyError Bool
  | .bool _ => .ok true
  | .int n => (orRaise .overflowError (Python.float? n : Option δ)).map fun _ => true
  | .float x => .ok (Double.isFinite x)
  | .null | .text _ | .list _ | .object _ => .error .typeError

/-- `value < bound` of a number. -/
def below (bound : ℤ) : Json δ → Bool
  | .bool b => decide ((b.toNat : ℤ) < bound)
  | .int n => decide (n < bound)
  | .float x => Double.lt x (Double.ofInt bound)
  | .null | .text _ | .list _ | .object _ => false

/-- `value > bound` of a number. -/
def above (bound : ℤ) : Json δ → Bool
  | .bool b => decide (bound < (b.toNat : ℤ))
  | .int n => decide (bound < n)
  | .float x => Double.lt (Double.ofInt bound) x
  | .null | .text _ | .list _ | .object _ => false

/-- `value <= bound` of a number. -/
def atMost (bound : ℤ) : Json δ → Bool
  | .bool b => decide ((b.toNat : ℤ) ≤ bound)
  | .int n => decide (n ≤ bound)
  | .float x => Double.le x (Double.ofInt bound)
  | .null | .text _ | .list _ | .object _ => false

/-- A number that is finite and not refused, or `None`. -/
def validateNumber (refused : Json δ → Bool) (value : Json δ) : Except PyError Unit :=
  match value with
  | .null => .ok ()
  | value => do
    let finite ← mathIsfinite value
    raiseWhen (!finite || refused value) .protocolValidationError

/-- `_validate_unit_interval`, and `_validate_confidence`. -/
def validateUnitInterval (value : Json δ) : Except PyError Unit :=
  validateNumber (fun value => below 0 value || above 1 value) value

mutual

/-- `validate` in `_json_mapping`: no float is not finite. -/
def jsonFinite : Json δ → Bool
  | .null => true
  | .bool _ => true
  | .int _ => true
  | .float x => Double.isFinite x
  | .text _ => true
  | .list values => allFinite values
  | .object fields => fieldsFinite fields

/-- `validate` of the items of a list. -/
def allFinite : List (Json δ) → Bool
  | [] => true
  | value :: rest => jsonFinite value && allFinite rest

/-- `validate` of the values of a dictionary. -/
def fieldsFinite : List (String × Json δ) → Bool
  | [] => true
  | field :: rest => jsonFinite field.2 && fieldsFinite rest

end

/-- `_json_mapping`. -/
def jsonMapping (value : Record δ) : Except PyError Unit :=
  raiseWhen (!fieldsFinite value) .protocolValidationError

/-! ## The components -/

/-- `TrackingState`. -/
inductive TrackingState
  | tracking
  | limited
  | notTracking
  | disconnected
  deriving DecidableEq, Repr

/-- `Side`. -/
inductive Side
  | left
  | right
  | none
  deriving DecidableEq, Repr

/-- `MotionKind`. -/
inductive MotionKind
  | absolute
  | relative
  deriving DecidableEq, Repr

/-- The arguments of `Timestamp`. -/
structure TimestampFields where
  nanoseconds : ℤ
  clockId : String
  uncertaintyNs : Option ℤ
  deriving DecidableEq

/-- `Timestamp.__post_init__`. -/
def TimestampFields.check (t : TimestampFields) : Except PyError Unit := do
  raiseWhen (decide (t.nanoseconds < 0)) .protocolValidationError
  raiseWhen (blank t.clockId) .protocolValidationError
  raiseWhen (t.uncertaintyNs.any fun ns => decide (ns < 0)) .protocolValidationError

/-- `Timestamp`. -/
abbrev Timestamp := Checked TimestampFields.check

/-- The arguments of `Pose6D`. -/
structure PoseFields (δ : Type) where
  positionM : List δ
  orientationXyzw : List δ

/-- `_finite_tuple`. -/
def finiteTuple (values : List δ) (length : ℕ) : Except PyError Unit :=
  raiseWhen (decide (values.length ≠ length) || !values.all Double.isFinite)
    .protocolValidationError

/-- `Pose6D.__post_init__`. -/
def PoseFields.check (p : PoseFields δ) : Except PyError Unit := do
  finiteTuple p.positionM 3
  finiteTuple p.orientationXyzw 4
  raiseWhen (Double.lt (Double.ofRat (1 / 1000))
    (Double.abs (Double.sub (Python.norm p.orientationXyzw) (Double.ofRat 1))))
    .protocolValidationError

/-- `Pose6D`. -/
abbrev Pose6D (δ : Type) [Python δ] := Checked (PoseFields.check (δ := δ))

/-- The arguments of `DeviceDescriptor`. -/
structure DeviceFields (δ : Type) where
  deviceId : String
  deviceType : String
  manufacturer : String
  model : String
  serialNumber : Option String
  firmwareVersion : Option String
  softwareVersion : Option String
  metadata : Record δ

/-- `DeviceDescriptor.__post_init__`. -/
def DeviceFields.check (d : DeviceFields δ) : Except PyError Unit := do
  raiseWhen (blank d.deviceId) .protocolValidationError
  raiseWhen (blank d.deviceType) .protocolValidationError
  raiseWhen (blank d.manufacturer) .protocolValidationError
  raiseWhen (blank d.model) .protocolValidationError
  jsonMapping d.metadata

/-- `DeviceDescriptor`. -/
abbrev DeviceDescriptor (δ : Type) [Python δ] := Checked (DeviceFields.check (δ := δ))

/-- The arguments of `JointSample`. -/
structure JointFields (δ : Type) [Python δ] where
  name : String
  pose : Option (Pose6D δ)
  trackingState : TrackingState
  confidence : Json δ
  radiusM : Json δ

/-- `JointSample.__post_init__`. -/
def JointFields.check (j : JointFields δ) : Except PyError Unit := do
  raiseWhen (blank j.name) .protocolValidationError
  validateUnitInterval j.confidence
  validateNumber (atMost 0) j.radiusM
  raiseWhen (decide (j.trackingState = .tracking) && j.pose.isNone) .protocolValidationError

/-- `JointSample`. -/
abbrev JointSample (δ : Type) [Python δ] := Checked (JointFields.check (δ := δ))

/-- The arguments of `GestureSample`. -/
structure GestureFields (δ : Type) where
  name : String
  active : Bool
  confidence : Json δ
  value : Json δ

/-- `GestureSample.__post_init__`. -/
def GestureFields.check (g : GestureFields δ) : Except PyError Unit := do
  raiseWhen (blank g.name) .protocolValidationError
  validateUnitInterval g.confidence
  validateNumber (fun _ => false) g.value

/-- `GestureSample`. -/
abbrev GestureSample (δ : Type) [Python δ] := Checked (GestureFields.check (δ := δ))

/-- The arguments of `HandArticulation`. -/
structure ArticulationFields (δ : Type) [Python δ] where
  joints : List (JointSample δ)
  gestures : List (GestureSample δ)
  pinchStrength : Json δ
  graspStrength : Json δ
  confidence : Json δ

/-- `HandArticulation.__post_init__`. -/
def ArticulationFields.check (a : ArticulationFields δ) : Except PyError Unit := do
  raiseWhen (!decide (a.joints.map fun joint => joint.val.name).Nodup) .protocolValidationError
  validateUnitInterval a.pinchStrength
  validateUnitInterval a.graspStrength
  validateUnitInterval a.confidence

/-- `HandArticulation`. -/
abbrev HandArticulation (δ : Type) [Python δ] := Checked (ArticulationFields.check (δ := δ))

/-! ## The sample -/

/-- The arguments of `MotionInputSample`. -/
structure SampleFields (δ : Type) [Python δ] where
  protocolVersion : String
  sampleId : String
  streamId : String
  sequenceNumber : ℤ
  captureTimestamp : Timestamp
  receiveTimestamp : Timestamp
  deviceTimestamp : Option Timestamp
  processingTimestamp : Option Timestamp
  trackingState : TrackingState
  trackingConfidence : Json δ
  coordinateFrame : String
  device : DeviceDescriptor δ
  side : Side
  wristPose : Option (Pose6D δ)
  palmPose : Option (Pose6D δ)
  motionKind : MotionKind
  articulation : Option (HandArticulation δ)
  metadata : Record δ
  extensions : Record δ

/-- `MAJOR.MINOR`. -/
def versionAdmitted (δ : Type) [Python δ] (version : String) : Bool :=
  let majorMinor := version.toList.splitOn '.'
  decide (majorMinor.length = 2) &&
    majorMinor.all fun part => !part.isEmpty && part.all (Python.isdigit δ)

/-- `MotionInputSample.__post_init__`. -/
def SampleFields.check (s : SampleFields δ) : Except PyError Unit := do
  raiseWhen (blank s.sampleId) .protocolValidationError
  raiseWhen (blank s.streamId) .protocolValidationError
  raiseWhen (blank s.coordinateFrame) .protocolValidationError
  raiseWhen (decide (s.sequenceNumber < 0)) .protocolValidationError
  raiseWhen (!versionAdmitted δ s.protocolVersion) .protocolValidationError
  validateUnitInterval s.trackingConfidence
  raiseWhen (decide (s.trackingState = .tracking) && s.wristPose.isNone)
    .protocolValidationError
  raiseWhen ((decide (s.trackingState = .notTracking) || decide (s.trackingState = .disconnected))
    && (s.wristPose.isSome || s.palmPose.isSome)) .protocolValidationError
  jsonMapping s.metadata
  jsonMapping s.extensions
  raiseWhen (!s.extensions.all fun extension => extension.1.toList.contains '.')
    .protocolValidationError

/-- `MotionInputSample`. -/
abbrev MotionInputSample (δ : Type) [Python δ] := Checked (SampleFields.check (δ := δ))

end Model

end HandLab.Umip
