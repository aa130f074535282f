import HandLab.Lib.Dict
import HandLab.Lib.Double

/-!
# Samples of an episode

`ControlSample`, `CameraRecord`, `StartPrerequisites` and `CanonicalSample` of
`src/episode_dataset/episode.py`. A vector carries its length in its type and the check of
`_six`, that its values are finite, in a field; the enumerations of the source are
inductive types. The pixels of a camera are a type `ι`.
-/

namespace HandLab.Episode

open HandLab.Lib Double

/-- The camera roles, in the order of `roles`. -/
inductive CameraRole
  | workspace | wrist
  deriving DecidableEq, Repr

def CameraRole.name : CameraRole → String
  | .workspace => "workspace"
  | .wrist => "wrist"

/-- A vector of finite values (`_six`). -/
structure FiniteVector (n : ℕ) (δ : Type) [Double δ] where
  value : Fin n → δ
  finite : ∀ i, isFinite (value i) = true

/-- Where a value comes from. -/
inductive Provenance
  | measured | commanded | estimated | unavailable
  deriving DecidableEq, Repr

/-- `arm_action_status`. -/
inductive ArmActionStatus
  | accepted | heldRejected
  deriving DecidableEq, Repr

/-- `arm_action_source`. -/
inductive ArmActionSource
  | acceptedTarget | measuredHoldReference
  deriving DecidableEq, Repr

/-- `control_segment_mode`. -/
inductive SegmentMode
  | bothIdle | armOnly | handOnly | armAndHand
  deriving DecidableEq, Repr

section Control

variable (δ : Type) [Double δ]

/-- `ControlSample`; a missing mapping is empty. -/
structure ControlSample where
  hostMonotonicNs : ℤ
  acceptedArmQ : Option (FiniteVector 6 δ)
  armQMeasured : Option (FiniteVector 6 δ)
  armDqMeasured : Option (FiniteVector 6 δ)
  tcpPoseXyzw : Option (FiniteVector 7 δ)
  handObservation : Option (FiniteVector 6 δ)
  handSource : Provenance
  handTarget : Option (FiniteVector 6 δ)
  armTrigger : Bool
  handGrip : Bool
  armQSource : Provenance := .measured
  armDqSource : Provenance := .measured
  tcpPoseSource : Provenance := .measured
  armActionStatus : ArmActionStatus := .accepted
  armActionSource : ArmActionSource := .acceptedTarget
  controlSegmentId : ℕ := 0
  controlSegmentMode : SegmentMode := .bothIdle
  acceptedTargetSequence : Option ℤ := none
  referenceGeneration : Option ℤ := none
  sourceTimestampsNs : List (String × Option ℤ) := []
  sourceTimestampDomains : List (String × String) := []
  controlHeartbeatValid : Bool := true
  trackingHardFault : Bool := false
  controllerFault : Bool := false
  forceObservation : Option (FiniteVector 6 δ) := none

variable {δ}

/-- `(sample.source_timestamps_ns or {}).get(source)`. -/
def ControlSample.sourceTimestamp (sample : ControlSample δ) (source : String) : Option ℤ :=
  (sample.sourceTimestampsNs.lookup source).join

/-- `segment_mode` of `ingest_control`. -/
def ControlSample.segmentMode (sample : ControlSample δ) : SegmentMode :=
  if sample.armTrigger ∧ sample.handGrip then .armAndHand
  else if sample.armTrigger then .armOnly
  else if sample.handGrip then .handOnly
  else .bothIdle

end Control

/-- What is known of a camera frame besides its pixels. -/
structure CameraHeader (δ : Type) where
  role : CameraRole
  hostMonotonicNs : ℤ
  deviceRgbTimestampMs : δ
  deviceDepthTimestampMs : δ
  rgbFrameNumber : ℤ
  depthFrameNumber : ℤ
  rgbTimestampDomain : String
  depthTimestampDomain : String

/-- `CameraSample`. -/
structure CameraSample (δ ι : Type) where
  header : CameraHeader δ
  rgb : ι
  depthRaw : ι
  depthAlignedToRgb : Option ι := none
  ringSequence : Option ℤ := none

/-- `CameraRecord`: a sample, or a reference to a slot of a ring. -/
inductive CameraRecord (δ ι : Type)
  | sample (sample : CameraSample δ ι)
  | reference (header : CameraHeader δ) (sequence : ℤ)

namespace CameraRecord

variable {δ ι : Type} (camera : CameraRecord δ ι)

def header : CameraHeader δ :=
  match camera with
  | .sample recorded => recorded.header
  | .reference seen _ => seen

/-- `getattr(camera, "sequence", None)`. -/
def sequence : Option ℤ :=
  match camera with
  | .sample _ => none
  | .reference _ number => some number

/-- `camera.host_monotonic_ns`. -/
def hostMonotonicNs : ℤ := camera.header.hostMonotonicNs

end CameraRecord

/-- `_camera_source_id`. -/
inductive CameraSourceId
  | ring (sequence : ℤ)
  | frame (hostMonotonicNs rgbFrameNumber depthFrameNumber : ℤ)
  deriving DecidableEq, Repr

/-- `_camera_source_id`. -/
def CameraRecord.sourceId {δ ι : Type} (camera : CameraRecord δ ι) : CameraSourceId :=
  match camera.sequence with
  | some sequence => .ring sequence
  | none => .frame camera.hostMonotonicNs camera.header.rgbFrameNumber
      camera.header.depthFrameNumber

/-- `StartPrerequisites`. -/
structure StartPrerequisites (δ ι : Type) [Double δ] where
  triggerPressMonotonicNs : ℤ
  referenceEstablished : Bool
  accepted : ControlSample δ
  workspace : CameraRecord δ ι
  wrist : CameraRecord δ ι
  maximumStartDeltaRad : δ
  maximumHandStartDeltaRad : δ

/-- `CanonicalSample`. -/
structure CanonicalSample (δ ι : Type) [Double δ] where
  frameIndex : ℤ
  timestampNs : ℤ
  control : ControlSample δ
  workspace : CameraRecord δ ι
  wrist : CameraRecord δ ι
  sourceOffsetsNs : List (String × ℤ)
  synchronizationValid : Bool
  staleSources : List String := []
  droppedSources : List String := []
  nominalSlotIndex : Option ℤ := none
  missedSlotsBefore : ℤ := 0
  missedSlotsAfter : ℤ := 0
  repeatedSources : List String := []

/-- `EpisodeStatus`. -/
inductive EpisodeStatus
  | completed | aborted | invalid
  deriving DecidableEq, Repr

/-- A JSON value. -/
inductive Json (δ : Type)
  | null
  | bool (value : Bool)
  | int (value : ℤ)
  | float (value : δ)
  | text (value : String)
  | list (values : List (Json δ))
  | object (fields : List (String × Json δ))

/-- A JSON object. -/
abbrev Record (δ : Type) := List (String × Json δ)

/-- `None` or an integer. -/
def Json.ofInt? {δ : Type} : Option ℤ → Json δ
  | none => .null
  | some value => .int value

/-- `None` or a string. -/
def Json.ofText? {δ : Type} : Option String → Json δ
  | none => .null
  | some value => .text value

/-- `list(values or ())`. -/
def Json.ofVector? {δ : Type} [Double δ] {n : ℕ} (values : Option (FiniteVector n δ)) : Json δ :=
  match values with
  | none => .list []
  | some values => .list ((List.ofFn values.value).map .float)

end HandLab.Episode
