import HandLab.Umip.Model

/-!
# UMIP serialization

`src/motion_input/serialization.py`. `json` stands for the module of the standard library:
`dumps` of a value without infinities and `NaN`, whose keys are already sorted, and
`loads`, which admits `Infinity`, `NaN` and integers of any length.
-/

namespace HandLab.Umip

open HandLab.Lib HandLab.Episode

variable {δ : Type} [Python δ]

/-! ## Encoding -/

/-- `UMIP_VERSION`. -/
def umipVersion : String := "1.0"

/-- `TrackingState.value`. -/
def TrackingState.value : TrackingState → String
  | .tracking => "tracking"
  | .limited => "limited"
  | .notTracking => "not_tracking"
  | .disconnected => "disconnected"

/-- `Side.value`. -/
def Side.value : Side → String
  | .left => "left"
  | .right => "right"
  | .none => "none"

/-- `MotionKind.value`. -/
def MotionKind.value : MotionKind → String
  | .absolute => "absolute_pose"
  | .relative => "relative_pose_delta"

/-- The value of `None` is `null`. -/
def optionalDict {α : Type} (encode : α → Json δ) : Option α → Json δ
  | none => .null
  | some value => encode value

/-- `_timestamp_dict`. -/
def timestampDict (value : Timestamp) : Json δ :=
  .object [("nanoseconds", .int value.val.nanoseconds), ("clock_id", .text value.val.clockId),
    ("uncertainty_ns", Json.ofInt? value.val.uncertaintyNs)]

/-- `_pose_dict`. -/
def poseDict (value : Pose6D δ) : Json δ :=
  .object [("position_m", .list (value.val.positionM.map .float)),
    ("orientation_xyzw", .list (value.val.orientationXyzw.map .float))]

/-- `device_to_dict`. -/
def deviceToDict (value : DeviceDescriptor δ) : Record δ :=
  [("device_id", .text value.val.deviceId), ("device_type", .text value.val.deviceType),
    ("manufacturer", .text value.val.manufacturer), ("model", .text value.val.model),
    ("serial_number", Json.ofText? value.val.serialNumber),
    ("firmware_version", Json.ofText? value.val.firmwareVersion),
    ("software_version", Json.ofText? value.val.softwareVersion),
    ("metadata", .object value.val.metadata)]

/-- An item of `joints`. -/
def jointDict (joint : JointSample δ) : Json δ :=
  .object [("name", .text joint.val.name), ("pose", optionalDict poseDict joint.val.pose),
    ("tracking_state", .text joint.val.trackingState.value),
    ("confidence", joint.val.confidence), ("radius_m", joint.val.radiusM)]

/-- An item of `gestures`. -/
def gestureDict (gesture : GestureSample δ) : Json δ :=
  .object [("name", .text gesture.val.name), ("active", .bool gesture.val.active),
    ("confidence", gesture.val.confidence), ("value", gesture.val.value)]

/-- `articulation`. -/
def articulationDict (value : HandArticulation δ) : Json δ :=
  .object [("joints", .list (value.val.joints.map jointDict)),
    ("gestures", .list (value.val.gestures.map gestureDict)),
    ("pinch_strength", value.val.pinchStrength), ("grasp_strength", value.val.graspStrength),
    ("confidence", value.val.confidence)]

/-- `sample_to_dict`. -/
def sampleToDict (sample : MotionInputSample δ) : Record δ :=
  [("protocol_version", .text sample.val.protocolVersion),
    ("sample_id", .text sample.val.sampleId),
    ("stream_id", .text sample.val.streamId),
    ("sequence_number", .int sample.val.sequenceNumber),
    ("capture_timestamp", timestampDict sample.val.captureTimestamp),
    ("receive_timestamp", timestampDict sample.val.receiveTimestamp),
    ("device_timestamp", optionalDict timestampDict sample.val.deviceTimestamp),
    ("processing_timestamp", optionalDict timestampDict sample.val.processingTimestamp),
    ("tracking_state", .text sample.val.trackingState.value),
    ("tracking_confidence", sample.val.trackingConfidence),
    ("coordinate_frame", .text sample.val.coordinateFrame),
    ("device", .object (deviceToDict sample.val.device)),
    ("side", .text sample.val.side.value),
    ("wrist_pose", optionalDict poseDict sample.val.wristPose),
    ("palm_pose", optionalDict poseDict sample.val.palmPose),
    ("motion_kind", .text sample.val.motionKind.value),
    ("articulation", optionalDict articulationDict sample.val.articulation),
    ("metadata", .object sample.val.metadata),
    ("extensions", .object sample.val.extensions)]

/-! ## Built-in conversions -/

/-- `value[key]`. -/
def getItem (value : Record δ) (key : String) : Except PyError (Json δ) :=
  orRaise .keyError (value.lookup key)

/-- `value.get(key)`. -/
def getValue (value : Record δ) (key : String) : Json δ := (value.lookup key).getD .null

/-- `str(value)`. -/
def pyStr : Json δ → Except PyError String
  | .text text => .ok text
  | value => orRaise .valueError (Python.str? value)

/-- `int(value)`. -/
def pyInt : Json δ → Except PyError ℤ
  | .bool b => .ok b.toNat
  | .int n => .ok n
  | .float x =>
    if Double.isFinite x then .ok (Python.trunc x)
    else .error (if Double.eq x x then .overflowError else .valueError)
  | .text text => orRaise .valueError (Python.parseInt? δ text)
  | .null | .list _ | .object _ => .error .typeError

/-- `float(value)`. -/
def pyFloat : Json δ → Except PyError δ
  | .bool b => .ok (Double.ofInt b.toNat)
  | .int n => orRaise .overflowError (Python.float? n)
  | .float x => .ok x
  | .text text => orRaise .valueError (Python.parseFloat? text)
  | .null | .list _ | .object _ => .error .typeError

/-- `bool(value)`. -/
def pyBool : Json δ → Bool
  | .null => false
  | .bool b => b
  | .int n => decide (n ≠ 0)
  | .float x => !Double.eq x Double.zero
  | .text text => decide (text ≠ "")
  | .list values => !values.isEmpty
  | .object fields => !fields.isEmpty

/-- The items of an iterable. -/
def iterate : Json δ → Except PyError (List (Json δ))
  | .list values => .ok values
  | .text text => .ok (text.toList.map fun c => .text (String.singleton c))
  | .object fields => .ok (fields.map fun field => .text field.1)
  | .null | .bool _ | .int _ | .float _ => .error .typeError

/-! ## Decoding -/

/-- `None` for `None`. -/
def optional {α : Type} (decode : Json δ → Except PyError α) :
    Json δ → Except PyError (Option α)
  | .null => .ok none
  | value => (decode value).map some

/-- `_mapping`. -/
def mapping : Json δ → Except PyError (Record δ)
  | .object fields => .ok fields
  | .null | .bool _ | .int _ | .float _ | .text _ | .list _ => .error .serializationError

/-- The value of a member of an `Enum`. -/
def enumOf {α : Type} (value : α → String) (members : List α) (text : String) :
    Except PyError α :=
  orRaise .valueError (members.find? fun member => decide (value member = text))

/-- `TrackingState(str(value))`. -/
def trackingStateOf (value : Json δ) : Except PyError TrackingState := do
  enumOf TrackingState.value [.tracking, .limited, .notTracking, .disconnected] (← pyStr value)

/-- `Side(str(value))`. -/
def sideOf (value : Json δ) : Except PyError Side := do
  enumOf Side.value [.left, .right, .none] (← pyStr value)

/-- `MotionKind(str(value))`. -/
def motionKindOf (value : Json δ) : Except PyError MotionKind := do
  enumOf MotionKind.value [.absolute, .relative] (← pyStr value)

/-- `_timestamp_from_dict` of a value that is not `None`. -/
def timestampOf (value : Json δ) : Except PyError Timestamp := do
  let item ← mapping value
  let nanoseconds ← pyInt (← getItem item "nanoseconds")
  let clockId ← pyStr (← getItem item "clock_id")
  let uncertaintyNs ← optional pyInt (getValue item "uncertainty_ns")
  construct TimestampFields.check ⟨nanoseconds, clockId, uncertaintyNs⟩

/-- `_timestamp_from_dict(value, required=True)`. -/
def requiredTimestamp : Json δ → Except PyError Timestamp
  | .null => .error .serializationError
  | value => timestampOf value

/-- `tuple(decode(item) for item in value)`. -/
def tupleOf {α : Type} (decode : Json δ → Except PyError α) (value : Json δ) :
    Except PyError (List α) := do
  (← iterate value).mapM decode

/-- `_pose_from_dict` of a value that is not `None`. -/
def poseOf (value : Json δ) : Except PyError (Pose6D δ) := do
  let item ← mapping value
  let positionM ← tupleOf pyFloat (← getItem item "position_m")
  let orientationXyzw ← tupleOf pyFloat (← getItem item "orientation_xyzw")
  construct PoseFields.check ⟨positionM, orientationXyzw⟩

/-- `_joint_from_dict`. -/
def jointFromDict (value : Json δ) : Except PyError (JointSample δ) := do
  let item ← mapping value
  let name ← pyStr (← getItem item "name")
  let pose ← optional poseOf (getValue item "pose")
  let trackingState ← trackingStateOf (← getItem item "tracking_state")
  construct JointFields.check
    ⟨name, pose, trackingState, getValue item "confidence", getValue item "radius_m"⟩

/-- `_gesture_from_dict`. -/
def gestureFromDict (value : Json δ) : Except PyError (GestureSample δ) := do
  let item ← mapping value
  let name ← pyStr (← getItem item "name")
  let active ← getItem item "active"
  construct GestureFields.check
    ⟨name, pyBool active, getValue item "confidence", getValue item "value"⟩

/-- The articulation of a value that is not `None`. -/
def articulationOf (value : Json δ) : Except PyError (HandArticulation δ) := do
  let item ← mapping value
  let joints ← tupleOf jointFromDict ((item.lookup "joints").getD (.list []))
  let gestures ← tupleOf gestureFromDict ((item.lookup "gestures").getD (.list []))
  construct ArticulationFields.check
    ⟨joints, gestures, getValue item "pinch_strength", getValue item "grasp_strength",
      getValue item "confidence"⟩

/-- What an exception is after `except (KeyError, TypeError, ValueError)`. -/
def PyError.wrapped : PyError → PyError
  | .overflowError => .overflowError
  | .serializationError => .serializationError
  | .protocolValidationError => .serializationError
  | .keyError => .serializationError
  | .typeError => .serializationError
  | .valueError => .serializationError

/-- `device_from_dict`. -/
def deviceFromDict (value : Record δ) : Except PyError (DeviceDescriptor δ) :=
  Except.mapError PyError.wrapped do
    let deviceId ← pyStr (← getItem value "device_id")
    let deviceType ← pyStr (← getItem value "device_type")
    let manufacturer ← pyStr (← getItem value "manufacturer")
    let model ← pyStr (← getItem value "model")
    let serialNumber ← optional pyStr (getValue value "serial_number")
    let firmwareVersion ← optional pyStr (getValue value "firmware_version")
    let softwareVersion ← optional pyStr (getValue value "software_version")
    let metadata ← mapping ((value.lookup "metadata").getD (.object []))
    construct DeviceFields.check
      ⟨deviceId, deviceType, manufacturer, model, serialNumber, firmwareVersion,
        softwareVersion, metadata⟩

/-- `version.split(".", 1)[0]`. -/
def majorPart (version : String) : List Char := version.toList.takeWhile fun c => c ≠ '.'

/-- `sample_from_dict`. -/
def sampleFromDict (value : Record δ) : Except PyError (MotionInputSample δ) :=
  Except.mapError PyError.wrapped do
    let version ← pyStr ((value.lookup "protocol_version").getD (.text umipVersion))
    raiseWhen (decide (majorPart version ≠ majorPart umipVersion)) .serializationError
    let articulation ← optional articulationOf (getValue value "articulation")
    let sampleId ← pyStr (← getItem value "sample_id")
    let streamId ← pyStr (← getItem value "stream_id")
    let sequenceNumber ← pyInt (← getItem value "sequence_number")
    let captureTimestamp ← requiredTimestamp (← getItem value "capture_timestamp")
    let receiveTimestamp ← requiredTimestamp (← getItem value "receive_timestamp")
    let deviceTimestamp ← optional timestampOf (getValue value "device_timestamp")
    let processingTimestamp ← optional timestampOf (getValue value "processing_timestamp")
    let trackingState ← trackingStateOf (← getItem value "tracking_state")
    let coordinateFrame ← pyStr (← getItem value "coordinate_frame")
    let device ← deviceFromDict (← mapping (← getItem value "device"))
    let side ← sideOf (← getItem value "side")
    let wristPose ← optional poseOf (getValue value "wrist_pose")
    let palmPose ← optional poseOf (getValue value "palm_pose")
    let motionKind ← motionKindOf
      ((value.lookup "motion_kind").getD (.text MotionKind.absolute.value))
    let metadata ← mapping ((value.lookup "metadata").getD (.object []))
    let extensions ← mapping ((value.lookup "extensions").getD (.object []))
    construct SampleFields.check
      { protocolVersion := version
        sampleId
        streamId
        sequenceNumber
        captureTimestamp
        receiveTimestamp
        deviceTimestamp
        processingTimestamp
        trackingState
        trackingConfidence := getValue value "tracking_confidence"
        coordinateFrame
        device
        side
        wristPose
        palmPose
        motionKind
        articulation
        metadata
        extensions }

/-! ## Documents -/

mutual

/-- Every dictionary of a value is rearranged. -/
def arrange (f : Record δ → Record δ) : Json δ → Json δ
  | .null => .null
  | .bool b => .bool b
  | .int n => .int n
  | .float x => .float x
  | .text text => .text text
  | .list values => .list (arrangeAll f values)
  | .object fields => .object (f (arrangeFields f fields))

def arrangeAll (f : Record δ → Record δ) : List (Json δ) → List (Json δ)
  | [] => []
  | value :: rest => arrange f value :: arrangeAll f rest

def arrangeFields (f : Record δ → Record δ) : List (String × Json δ) → List (String × Json δ)
  | [] => []
  | field :: rest => (field.1, arrange f field.2) :: arrangeFields f rest

end

/-- The items of a dictionary in the order of their keys. -/
def sortKeys (fields : Record δ) : Record δ := fields.mergeSort fun a b => decide (a.1 ≤ b.1)

/-- A `str` or `bytes` argument. -/
inductive Payload
  | text (text : String)
  | bytes (bytes : List UInt8)
  deriving DecidableEq

/-- The module `json`. -/
structure JsonModule (δ : Type) where
  dumps : Bool → Json δ → String
  /-- `none` for `JSONDecodeError` and `UnicodeDecodeError` -/
  loads : Payload → Option (Json δ)

/-- What `dumps_sample` writes: `sort_keys=True`. -/
def document (sample : MotionInputSample δ) : Json δ :=
  arrange sortKeys (.object (sampleToDict sample))

/-- `dumps_sample`, with `allow_nan=False`. -/
def dumpsSample (json : JsonModule δ) (pretty : Bool) (sample : MotionInputSample δ) :
    Except PyError String :=
  if jsonFinite (document sample) then .ok (json.dumps pretty (document sample))
  else .error .valueError

/-- `loads_sample`. -/
def loadsSample (json : JsonModule δ) (payload : Payload) :
    Except PyError (MotionInputSample δ) := do
  let value ← orRaise .serializationError (json.loads payload)
  sampleFromDict (← mapping value)

end HandLab.Umip
