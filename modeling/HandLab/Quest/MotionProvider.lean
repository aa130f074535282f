import HandLab.Umip.Serialization

/-!
# `QuestMotionProvider`

The provider of headset frames (`src/motion_input/quest.py`, lines 41–57 and 163–312) with
`unity_to_openxr_pose` (`src/motion_input/frames.py`, lines 93–106): a frame of the source
becomes a sample, and a source that falls silent one `DISCONNECTED` sample for each hand.
The answer of the source to a read is part of the input of the read, and so are the clock
and the identifiers of the module `uuid`.
-/

namespace HandLab.Quest

open HandLab.Lib HandLab.Episode HandLab.Umip

/-- The text of an identifier of the module `uuid`. -/
structure Uuid where
  text : String
  nonblank : blank text = false

variable {δ : Type} [Python δ]

/-! ## Frames -/

/-- `QuestFrame`. -/
structure QuestFrame (δ : Type) [Python δ] where
  sessionId : String
  streamId : String
  sequenceNumber : ℤ
  side : Side
  referenceSpace : String
  basis : String
  captureTimestamp : Timestamp
  deviceTimestamp : Option Timestamp
  trackingState : TrackingState
  trackingConfidence : Json δ
  wristPose : Option (Pose6D δ)
  palmPose : Option (Pose6D δ)
  articulation : Option (HandArticulation δ)
  metadata : Record δ

/-- `-x`. -/
def neg (x : δ) : δ := Double.mul (Double.ofRat (-1)) x

/-- `unity_to_openxr_pose`. -/
def unityToOpenxrPose (pose : Pose6D δ) : Except PyError (Pose6D δ) :=
  match pose.val.positionM, pose.val.orientationXyzw with
  | [x, y, z], [qx, qy, qz, qw] =>
    construct PoseFields.check ⟨[x, y, neg z], [neg qx, neg qy, qz, qw]⟩
  -- too many or too few values to unpack, which no `Pose6D` has
  | _, _ => .error .valueError

/-- `convert`, for the two bases. -/
def conversion (basis : String) : Option (Pose6D δ → Except PyError (Pose6D δ)) :=
  if basis = "unity" then some unityToOpenxrPose
  else if basis = "openxr" then some .ok
  else none

variable (convert : Pose6D δ → Except PyError (Pose6D δ))

/-- `convert(pose)`, with `None` for `None`. -/
def convertPose : Option (Pose6D δ) → Except PyError (Option (Pose6D δ))
  | none => .ok none
  | some pose => (convert pose).map some

/-- An item of `joints` in `_convert_articulation`. -/
def convertJoint (joint : JointSample δ) : Except PyError (JointSample δ) := do
  let pose ← convertPose convert joint.val.pose
  construct JointFields.check
    ⟨joint.val.name, pose, joint.val.trackingState, joint.val.confidence, joint.val.radiusM⟩

/-- `_convert_articulation`. -/
def convertArticulation : Option (HandArticulation δ) →
    Except PyError (Option (HandArticulation δ))
  | none => .ok none
  | some articulation => do
    let joints ← articulation.val.joints.mapM (convertJoint convert)
    let converted ← construct ArticulationFields.check
      ⟨joints, articulation.val.gestures, articulation.val.pinchStrength,
        articulation.val.graspStrength, articulation.val.confidence⟩
    return some converted

/-! ## The provider -/

/-- `QuestMotionProvider`. A side that is not in a dictionary has the default of `get`. -/
structure MotionProvider (δ : Type) [Python δ] where
  descriptor : DeviceDescriptor δ
  disconnectTimeoutNs : ℤ
  pending : List (MotionInputSample δ)
  lastSequence : Side → ℤ
  lastStreamId : Side → String
  disconnected : Bool
  lastActivityNs : ℤ

/-- What `source.read` does. -/
inductive SourceAnswer (δ : Type) [Python δ]
  /-- `SourceDisconnected` -/
  | disconnected (reason : String)
  /-- `None` -/
  | silent
  | frame (frame : QuestFrame δ)
  /-- another exception, such as the `SerializationError` of `UdpQuestSource` -/
  | raised (error : PyError)

/-- What a read finds: the answer of the source, the clock after it, the clock of the
    translation, and the identifiers of two events. -/
structure ReadInput (δ : Type) [Python δ] where
  answer : SourceAnswer δ
  nowNs : ℤ
  processingNs : ℤ
  uuid4 : Side → Uuid

/-- `Timestamp(ns, "host:monotonic")`. -/
def hostTimestamp (ns : ℤ) : Except PyError Timestamp :=
  construct TimestampFields.check ⟨ns, "host:monotonic", none⟩

theorem hostTimestamp_ok {ns : ℤ} (h : 0 ≤ ns) : ∃ t, hostTimestamp ns = .ok t := by
  have hcheck : TimestampFields.check ⟨ns, "host:monotonic", none⟩ = .ok () := by
    have hclock : blank "host:monotonic" = false := by decide
    unfold TimestampFields.check
    dsimp only
    rw [decide_eq_false (not_lt.mpr h), hclock]
    rfl
  exact ⟨_, construct_ok hcheck⟩

/-- A text that starts with another character than a blank. -/
theorem blank_append {text : String} {c : Char} (hc : c ∈ text.toList)
    (hspace : ControllerProvider.isSpace c = false) (rest : String) :
    blank (text ++ rest) = false := by
  unfold blank
  rw [String.toList_append, List.all_append, List.all_eq_false.mpr ⟨c, hc, by simp [hspace]⟩]
  rfl

namespace MotionProvider

variable (p : MotionProvider δ)

/-- After `__init__`. -/
def init (descriptor : DeviceDescriptor δ) (disconnectTimeoutNs : ℤ) : MotionProvider δ where
  descriptor
  disconnectTimeoutNs
  pending := []
  lastSequence _ := -1
  lastStreamId side := descriptor.val.deviceId ++ "/" ++ side.value
  disconnected := false
  lastActivityNs := 0

/-- `_open`. -/
def opened (nowNs : ℤ) : MotionProvider δ :=
  { p with
    pending := []
    lastSequence := fun _ => -1
    disconnected := false
    lastActivityNs := nowNs }

/-! ### `_translate` -/

def sampleMetadata (frame : QuestFrame δ) : Record δ :=
  dictSet "reference_space" (.text frame.referenceSpace)
    (dictSet "source_basis" (.text frame.basis)
      (dictSet "provider" (.text "quest") frame.metadata))

/-- The name of which `uuid5` is taken. -/
def sampleName (frame : QuestFrame δ) : String :=
  "umip:" ++ p.descriptor.val.deviceId ++ ":" ++ frame.sessionId ++ ":" ++ frame.side.value ++
    ":" ++ toString frame.sequenceNumber

/-- `frame_id`. -/
def frameId (frame : QuestFrame δ) : String :=
  "quest/" ++ p.descriptor.val.deviceId ++ "/" ++ frame.sessionId ++ "/" ++
    frame.referenceSpace ++ ":openxr"

/-- The sample of a frame. `uuid5?` fails on a name that has no UTF-8 form. -/
def translated (uuid5? : String → Option Uuid) (frame : QuestFrame δ)
    (receiveNs processingNs : ℤ) : Except PyError (MotionInputSample δ) := do
  let uuid ← orRaise .valueError (uuid5? (p.sampleName frame))
  let receiveTimestamp ← hostTimestamp receiveNs
  let processingTimestamp ← hostTimestamp processingNs
  let wristPose ← convertPose convert frame.wristPose
  let palmPose ← convertPose convert frame.palmPose
  let articulation ← convertArticulation convert frame.articulation
  construct SampleFields.check
    { protocolVersion := umipVersion
      sampleId := uuid.text
      streamId := frame.streamId
      sequenceNumber := frame.sequenceNumber
      captureTimestamp := frame.captureTimestamp
      receiveTimestamp
      deviceTimestamp := frame.deviceTimestamp
      processingTimestamp := some processingTimestamp
      trackingState := frame.trackingState
      trackingConfidence := frame.trackingConfidence
      coordinateFrame := p.frameId frame
      device := p.descriptor
      side := frame.side
      wristPose
      palmPose
      motionKind := .absolute
      articulation
      metadata := sampleMetadata frame
      extensions := [] }

/-- `_translate`. -/
def translate (uuid5? : String → Option Uuid) (frame : QuestFrame δ)
    (receiveNs processingNs : ℤ) :
    Except PyError (MotionInputSample δ) × MotionProvider δ :=
  match conversion frame.basis with
  | none => (.error .serializationError, p)
  | some convert =>
    (p.translated convert uuid5? frame receiveNs processingNs,
      { p with lastStreamId := Function.update p.lastStreamId frame.side frame.streamId })

/-! ### `_queue_disconnect` -/

/-- The event of one hand. -/
def disconnectSample (side : Side) (sequence : ℤ) (reason : String) (timestampNs : ℤ)
    (uuid : Uuid) : Except PyError (MotionInputSample δ) := do
  let timestamp ← hostTimestamp timestampNs
  construct SampleFields.check
    { protocolVersion := umipVersion
      sampleId := uuid.text
      streamId := p.lastStreamId side
      sequenceNumber := sequence
      captureTimestamp := timestamp
      receiveTimestamp := timestamp
      deviceTimestamp := none
      processingTimestamp := some timestamp
      trackingState := .disconnected
      trackingConfidence := .null
      coordinateFrame := "quest/" ++ p.descriptor.val.deviceId ++ "/disconnected:openxr"
      device := p.descriptor
      side
      wristPose := none
      palmPose := none
      motionKind := .absolute
      articulation := none
      metadata := [("provider", .text "quest"), ("disconnect_reason", .text reason),
        ("event_timestamp_basis", .text "host_disconnect_detection")]
      extensions := [] }

/-- The body of the loop of `_queue_disconnect`. -/
def queueSide (side : Side) (reason : String) (timestampNs : ℤ) (uuid : Uuid) :
    Except PyError Unit × MotionProvider δ :=
  let sequence := p.lastSequence side + 1
  let p := { p with lastSequence := Function.update p.lastSequence side sequence }
  match p.disconnectSample side sequence reason timestampNs uuid with
  | .error error => (.error error, p)
  | .ok sample => (.ok (), { p with pending := p.pending ++ [sample] })

/-- `_queue_disconnect`. -/
def queueDisconnect (reason : String) (timestampNs : ℤ) (uuid4 : Side → Uuid) :
    Except PyError Unit × MotionProvider δ :=
  match p.queueSide .left reason timestampNs (uuid4 .left) with
  | (.error error, p) => (.error error, p)
  | (.ok (), p) => p.queueSide .right reason timestampNs (uuid4 .right)

/-! ### `_read` -/

/-- `self._pending.popleft()`. -/
def popleft : Except PyError (Option (MotionInputSample δ)) × MotionProvider δ :=
  (.ok p.pending.head?, { p with pending := p.pending.tail })

/-- The source is silent or gone, and this is new. -/
def report (reason : String) (timestampNs : ℤ) (uuid4 : Side → Uuid) :
    Except PyError (Option (MotionInputSample δ)) × MotionProvider δ :=
  match { p with disconnected := true }.queueDisconnect reason timestampNs uuid4 with
  | (.error error, p) => (.error error, p)
  | (.ok (), p) => p.popleft

/-- The assignments before `_translate`. -/
def received (frame : QuestFrame δ) (receiveNs : ℤ) : MotionProvider δ :=
  { p with
    disconnected := false
    lastActivityNs := receiveNs
    lastSequence := Function.update p.lastSequence frame.side
      (max (p.lastSequence frame.side) frame.sequenceNumber) }

/-- `_read`. -/
def read (uuid5? : String → Option Uuid) (i : ReadInput δ) :
    Except PyError (Option (MotionInputSample δ)) × MotionProvider δ :=
  if p.pending ≠ [] then p.popleft
  else
    match i.answer with
    | .disconnected reason =>
      if p.disconnected then (.ok none, p) else p.report reason i.nowNs i.uuid4
    | .silent =>
      if !p.disconnected && decide (p.disconnectTimeoutNs ≤ i.nowNs - p.lastActivityNs) then
        p.report "Quest stream timeout" i.nowNs i.uuid4
      else (.ok none, p)
    | .frame frame =>
      let (result, p) :=
        (p.received frame i.nowNs).translate uuid5? frame i.nowNs i.processingNs
      (result.map some, p)
    | .raised error => (.error error, p)

end MotionProvider

end HandLab.Quest
