import HandLab.Episode.CameraFrames
import HandLab.Lib.Run

/-!
# The episode writers

`append_raw_camera` and `append_sample` of `LeRobotStagingWriter`
(`src/episode_dataset/lerobot_staging.py`) and of `RawEpisodeWriter`
(`src/episode_dataset/raw_episode.py`) between `begin` and `finalize`, with the cache of
the camera frames, the two videos and the rows.

An exception keeps the state that the call left behind. The image of a reference is the
frame that was published under its sequence number, as long as its slot can be read; a
video is the list of its images. Writes to files do not fail.
-/

namespace HandLab.Episode

open HandLab.Lib Double

variable {δ α ρ : Type}

/-! ## Cameras -/

/-- `_camera_key`. -/
inductive CameraKey
  | sequence (role : CameraRole) (sequence : ℤ)
  | frame (role : CameraRole) (hostMonotonicNs rgbFrameNumber : ℤ)
  deriving DecidableEq, Repr

/-- `_camera_key`. -/
def CameraRecord.key (camera : CameraRecord δ (NDArray α)) : CameraKey :=
  match camera with
  | .reference header sequence => .sequence header.role sequence
  | .sample recorded => .frame recorded.header.role recorded.header.hostMonotonicNs
      recorded.header.rgbFrameNumber

/-- What the writers raise. -/
inductive WriterError
  | noActiveEpisode
  | missingField
  | notIncreasing
  | notContiguous (expected got : ℤ)
  | overwritten (role : CameraRole) (sequence : ℤ)
  | sequenceChanged (role : CameraRole) (sequence : ℤ) (found : Option ℤ)
  | notRgb (role : CameraRole)
  | anotherSize
  | cannotOpen (role : CameraRole)
  | outOfRangeFloat
  deriving DecidableEq, Repr

/-- The frames that the rings publish, by their sequence numbers. -/
abbrev Published (δ α : Type) := CameraRole → ℤ → CameraSample δ (NDArray α)

/-- What a call finds outside the writer. -/
structure Outside where
  /-- the slot of the sequence number still holds its frame -/
  readable : CameraRole → ℤ → Bool
  /-- the video file can be created -/
  opens : CameraRole → Bool

/-- `_materialize_camera`. -/
def materializeCamera (published : Published δ α) (outside : Outside)
    (camera : CameraRecord δ (NDArray α)) : Except WriterError (CameraSample δ (NDArray α)) :=
  match camera with
  | .sample sample => .ok sample
  | .reference header sequence =>
    let sample := published header.role sequence
    if !outside.readable header.role sequence then .error (.overwritten header.role sequence)
    else if sample.ringSequence ≠ some sequence then
      .error (.sequenceChanged header.role sequence sample.ringSequence)
    else .ok sample

/-- The image of the frame that the record selects. -/
def CameraRecord.image (published : Published δ α) (camera : CameraRecord δ (NDArray α)) :
    NDArray α :=
  match camera with
  | .sample recorded => recorded.rgb
  | .reference header sequence => (published header.role sequence).rgb

/-! ## The writer -/

/-- The variables of a writer. -/
structure WriterState (δ α ρ : Type) where
  /-- `_started and not _finalized` -/
  active : Bool := true
  startNs : ℤ
  lastTimestampNs : Option ℤ := none
  cameraCache : List (CameraKey × CameraSample δ (NDArray α)) := []
  videoShape : Option (ℕ × ℕ) := none
  /-- the open videos -/
  videos : CameraRole → Option (List (NDArray α)) := fun _ => none
  videoFrameCounts : CameraRole → ℕ := fun _ => 0
  rows : List ρ := []
  /-- `_sample_count`; the raw writer counts its rows -/
  sampleCount : ℕ := 0

namespace WriterState

/-- The images of a video. -/
def frames (w : WriterState δ α ρ) (role : CameraRole) : List (NDArray α) :=
  (w.videos role).getD []

/-- `append_raw_camera`. -/
def appendRawCamera (published : Published δ α) (outside : Outside)
    (camera : CameraRecord δ (NDArray α)) : EStateM WriterError (WriterState δ α ρ) Unit := do
  if !(← get).active then throw .noActiveEpisode
  match materializeCamera published outside camera with
  | .error e => throw e
  | .ok materialized =>
    modify fun w =>
      let cache := dictPop camera.key w.cameraCache ++ [(camera.key, materialized)]
      { w with cameraCache := cache.drop (cache.length - 64) }

/-- `_get_camera`. -/
def getCamera (published : Published δ α) (outside : Outside)
    (camera : CameraRecord δ (NDArray α)) :
    EStateM WriterError (WriterState δ α ρ) (CameraSample δ (NDArray α)) := do
  let cached := (← get).cameraCache.lookup camera.key
  modify fun w => { w with cameraCache := dictPop camera.key w.cameraCache }
  match cached with
  | some sample => return sample
  | none =>
    match materializeCamera published outside camera with
    | .error e => throw e
    | .ok sample => return sample

/-- The width and the height of an HWC image with three channels; the elements are `uint8`. -/
def videoSize (rgb : NDArray α) : Option (ℕ × ℕ) :=
  match rgb.shape with
  | [height, width, 3] => some (width, height)
  | _ => none

/-- The image at the end of the video. -/
def written (w : WriterState δ α ρ) (role : CameraRole) (rgb : NDArray α) :
    WriterState δ α ρ :=
  { w with
    videos := Function.update w.videos role (some (w.frames role ++ [rgb]))
    videoFrameCounts := Function.update w.videoFrameCounts role (w.videoFrameCounts role + 1) }

/-- `_write_video`. -/
def writeVideo (outside : Outside) (role : CameraRole) (rgb : NDArray α) :
    EStateM WriterError (WriterState δ α ρ) Unit := do
  match videoSize rgb with
  | none => throw (.notRgb role)
  | some size =>
    match (← get).videoShape with
    | none => modify fun w => { w with videoShape := some size }
    | some shape => if shape ≠ size then throw .anotherSize
    if ((← get).videos role).isNone && !outside.opens role then throw (.cannotOpen role)
    modify fun w => w.written role rgb

end WriterState

/-- What differs between the writers. -/
structure WriterFormat (δ α ρ : Type) [Double δ] where
  /-- `sample_count`, from the rows and `_sample_count` -/
  count : List ρ → ℕ → ℕ
  count_append : ∀ rows row n, count (rows ++ [row]) (n + 1) = count rows n + 1
  /-- the checks before anything is read -/
  check : WriterState δ α ρ → CanonicalSample δ (NDArray α) → Except WriterError Unit
  /-- the row with the number, for the start and the selected frames -/
  row : ℕ → ℤ → CanonicalSample δ (NDArray α) → CameraSample δ (NDArray α) →
    CameraSample δ (NDArray α) → Except WriterError ρ

section Format

variable [Double δ]

/-- The fields that a row needs are there. -/
def CanonicalSample.complete (sample : CanonicalSample δ (NDArray α)) : Bool :=
  sample.control.armQMeasured.isSome && sample.control.handObservation.isSome &&
    sample.control.acceptedArmQ.isSome && sample.control.handTarget.isSome

/-- `append_sample`, from the videos on. -/
def WriterFormat.writeSample (format : WriterFormat δ α ρ) (outside : Outside)
    (sample : CanonicalSample δ (NDArray α)) (workspace wrist : CameraSample δ (NDArray α)) :
    EStateM WriterError (WriterState δ α ρ) Unit := do
  WriterState.writeVideo outside .workspace workspace.rgb
  WriterState.writeVideo outside .wrist wrist.rgb
  let w ← get
  match format.row (format.count w.rows w.sampleCount) w.startNs sample workspace wrist with
  | .error e => throw e
  | .ok row =>
    modify fun w => { w with
      rows := w.rows ++ [row]
      sampleCount := w.sampleCount + 1
      lastTimestampNs := some sample.timestampNs }

/-- `append_sample`. -/
def WriterFormat.appendSample (format : WriterFormat δ α ρ) (published : Published δ α)
    (outside : Outside) (sample : CanonicalSample δ (NDArray α)) :
    EStateM WriterError (WriterState δ α ρ) Unit := do
  let w ← get
  if !w.active then throw .noActiveEpisode
  match format.check w sample with
  | .error e => throw e
  | .ok () =>
    let workspace ← WriterState.getCamera published outside sample.workspace
    let wrist ← WriterState.getCamera published outside sample.wrist
    format.writeSample outside sample workspace wrist

/-! ## The staging format -/

mutual

/-- `json.dumps` with `allow_nan=False` accepts the value. -/
def Json.dumps : Json δ → Bool
  | .null => true
  | .bool _ => true
  | .int _ => true
  | .float value => isFinite value
  | .text _ => true
  | .list values => Json.dumpsList values
  | .object fields => Json.dumpsFields fields

/-- `json.dumps` accepts the values. -/
def Json.dumpsList : List (Json δ) → Bool
  | [] => true
  | value :: rest => value.dumps && Json.dumpsList rest

/-- `json.dumps` accepts the fields. -/
def Json.dumpsFields : List (String × Json δ) → Bool
  | [] => true
  | (_, value) :: rest => value.dumps && Json.dumpsFields rest

end

abbrev StagingWriter (δ α : Type) := WriterState δ α (Record δ)

namespace Staging

/-- The checks of `append_sample`. -/
def check (w : StagingWriter δ α) (sample : CanonicalSample δ (NDArray α)) :
    Except WriterError Unit :=
  if !sample.complete then .error .missingField
  else if w.lastTimestampNs.any fun last => decide (sample.timestampNs ≤ last) then
    .error .notIncreasing
  else .ok ()

variable (sample : CanonicalSample δ (NDArray α)) (workspace wrist : CameraSample δ (NDArray α))

/-- `source_timestamps`. -/
def sourceTimestamps : List (String × Option ℤ) :=
  dictSet "wrist" (some wrist.header.hostMonotonicNs)
    (dictSet "workspace" (some workspace.header.hostMonotonicNs)
      (dictSet "control" (some sample.control.hostMonotonicNs)
        sample.control.sourceTimestampsNs))

/-- `source_domains`. -/
def sourceDomains : List (String × String) :=
  dictSet "wrist" "host_monotonic_ns" (dictSet "workspace" "host_monotonic_ns"
    (dictSet "control" "host_monotonic_ns" sample.control.sourceTimestampDomains))

/-- The timestamp, if it is `comparable`. -/
def comparable (name : String) (timestamp : Option ℤ) : Option ℤ :=
  if (sourceDomains sample).lookup name = some "host_monotonic_ns" then timestamp else none

/-- `signed_offsets`. -/
def signedOffsets : List (String × Option ℤ) :=
  (sourceTimestamps sample workspace wrist).foldl (fun offsets (name, timestamp) =>
      if (offsets.lookup name).isSome then offsets
      else dictSet name ((comparable sample name timestamp).map (· - sample.timestampNs)) offsets)
    (sample.sourceOffsetsNs.map fun (name, offset) => (name, some offset))

/-- `source_age_ns`. -/
def sourceAgeNs : List (String × Option ℤ) :=
  (sourceTimestamps sample workspace wrist).map fun (name, timestamp) =>
    (name, (comparable sample name timestamp).map fun value => max 0 (sample.timestampNs - value))

/-- `source_validity`. -/
def sourceValidity : List (String × Bool) :=
  (sourceTimestamps sample workspace wrist).map fun (name, timestamp) =>
    (name, (comparable sample name timestamp).any fun value => decide (value ≤ sample.timestampNs))

/-- An entry of `camera_rows`. -/
def cameraRow (role : CameraRole) (camera : CameraSample δ (NDArray α)) : Json δ :=
  let host := camera.header.hostMonotonicNs
  .object [
    ("host_monotonic_ns", .int host),
    ("host_signed_offset_ns", .int (host - sample.timestampNs)),
    ("host_age_ns", .int (max 0 (sample.timestampNs - host))),
    ("valid", .bool (host ≤ sample.timestampNs)),
    ("rgb_device_timestamp_ms", .float camera.header.deviceRgbTimestampMs),
    ("depth_device_timestamp_ms", .float camera.header.deviceDepthTimestampMs),
    ("rgb_timestamp_domain", .text camera.header.rgbTimestampDomain),
    ("depth_timestamp_domain", .text camera.header.depthTimestampDomain),
    ("rgb_frame_number", .int camera.header.rgbFrameNumber),
    ("depth_frame_number", .int camera.header.depthFrameNumber),
    ("ring_sequence", .ofInt? camera.ringSequence),
    ("repeated_source_frame", .bool (role.name ∈ sample.repeatedSources))]

/-- A mapping of integers or `None`. -/
def integers (values : List (String × Option ℤ)) : Json δ :=
  .object (values.map fun (name, value) => (name, .ofInt? value))

/-- `row["timing"]`. -/
def timing : Json δ :=
  let timestamps := sourceTimestamps sample workspace wrist
  .object [
    ("canonical_host_monotonic_ns", .int sample.timestampNs),
    ("source_timestamps_ns", integers timestamps),
    ("source_timestamp_domains",
      .object ((sourceDomains sample).map fun (name, domain) => (name, .text domain))),
    ("signed_offsets_ns", integers (signedOffsets sample workspace wrist)),
    ("source_age_ns", integers (sourceAgeNs sample workspace wrist)),
    ("source_validity", .object ((sourceValidity sample workspace wrist).map fun (name, valid) =>
      (name, .bool valid))),
    ("synchronization_valid", .bool sample.synchronizationValid),
    ("stale_sources", .list (sample.staleSources.map .text)),
    ("dropped_sources", .list (sample.droppedSources.map .text)),
    ("repeated_source_frames", .list (sample.repeatedSources.map .text)),
    ("rh56_angle_act_timestamp_ns", .ofInt? (timestamps.lookup "rh56_angle_act").join),
    ("rh56_force_act_timestamp_ns", .ofInt? (timestamps.lookup "rh56_force_act").join),
    ("rh56_force_act_age_ns",
      .ofInt? ((sourceAgeNs sample workspace wrist).lookup "rh56_force_act").join),
    ("rh56_force_act_valid",
      .bool (((sourceValidity sample workspace wrist).lookup "rh56_force_act").getD false)),
    ("nominal_slot_index", .ofInt? sample.nominalSlotIndex),
    ("missed_slots_before", .int sample.missedSlotsBefore),
    ("missed_slots_after", .int sample.missedSlotsAfter)]

/-- `arm_action_status` as text. -/
def statusText : ArmActionStatus → String
  | .accepted => "accepted"
  | .heldRejected => "held_rejected"

/-- The values of a vector that is there. -/
def vector {n : ℕ} (values : Option (FiniteVector n δ)) : List (Json δ) :=
  match values with
  | none => []
  | some values => (List.ofFn values.value).map .float

/-- `row["observation.force"]`; zeros stand in for a missing force. -/
def force (values : Option (FiniteVector 6 δ)) : List (Json δ) :=
  match values with
  | none => List.replicate 6 (.float zero)
  | some values => vector (some values)

/-- `row["timestamp"]`. -/
def elapsed (startNs timestampNs : ℤ) : δ :=
  div (ofInt (timestampNs - if startNs = 0 then timestampNs else startNs)) (ofRat 1e9)

/-- A value for each camera. -/
def perCamera (value : CameraSample δ (NDArray α) → ℤ) : Json δ :=
  .object [("workspace", .int (value workspace)), ("wrist", .int (value wrist))]

/-- `row`. -/
def record (count : ℕ) (startNs : ℤ) : Record δ :=
  let control := sample.control
  [("frame_index", .int count),
    ("timestamp", .float (elapsed startNs sample.timestampNs)),
    ("timestamp_ns", .int sample.timestampNs),
    ("observation.state", .list (vector control.armQMeasured ++ vector control.handObservation)),
    ("observation.force", .list (force control.forceObservation)),
    ("action", .list (vector control.acceptedArmQ ++ vector control.handTarget)),
    ("arm_trigger", .bool control.armTrigger),
    ("hand_grip", .bool control.handGrip),
    ("action_status", .text (statusText control.armActionStatus)),
    ("camera_frame_index", perCamera workspace wrist (·.header.rgbFrameNumber)),
    ("camera_timestamp_ns", perCamera workspace wrist (·.header.hostMonotonicNs)),
    ("timing", timing sample workspace wrist),
    ("camera", .object [("workspace", cameraRow sample .workspace workspace),
      ("wrist", cameraRow sample .wrist wrist)])]

/-- The line of `sample_handle.write`. -/
def row (count : ℕ) (startNs : ℤ) (sample : CanonicalSample δ (NDArray α))
    (workspace wrist : CameraSample δ (NDArray α)) : Except WriterError (Record δ) :=
  let record := record sample workspace wrist count startNs
  if Json.dumpsFields record then .ok record else .error .outOfRangeFloat

end Staging

/-- `LeRobotStagingWriter`. -/
def stagingFormat : WriterFormat δ α (Record δ) where
  count _ n := n
  count_append _ _ _ := rfl
  check := Staging.check
  row := Staging.row

/-! ## The raw format -/

/-- A row of the frame table and of the quality table. -/
structure RawRow (δ : Type) where
  frameIndex : ℤ
  timestampNs : ℤ
  state : List δ
  action : List δ
  actionStatus : ArmActionStatus
  timingValid : Bool
  armTrigger : Bool
  handGrip : Bool
  nominalSlotIndex : ℤ
  missedSlotsBefore : ℤ
  missedSlotsAfter : ℤ

/-- The raw writer; its videos are `fixed_camera` and `wrist_camera`. -/
abbrev RawWriter (δ α : Type) := WriterState δ α (RawRow δ)

namespace Raw

/-- The checks of `append_sample`. -/
def check (w : RawWriter δ α) (sample : CanonicalSample δ (NDArray α)) :
    Except WriterError Unit :=
  if sample.frameIndex ≠ w.rows.length then
    .error (.notContiguous w.rows.length sample.frameIndex)
  else if w.lastTimestampNs.any fun last => decide (sample.timestampNs ≤ last) then
    .error .notIncreasing
  else if !sample.complete then .error .missingField
  else .ok ()

/-- The values of a vector that is there. -/
def vector {n : ℕ} (values : Option (FiniteVector n δ)) : List δ :=
  match values with
  | none => []
  | some values => List.ofFn values.value

/-- `int(sample.nominal_slot_index or sample.frame_index)`. -/
def slotIndex (sample : CanonicalSample δ (NDArray α)) : ℤ :=
  match sample.nominalSlotIndex with
  | none => sample.frameIndex
  | some index => if index = 0 then sample.frameIndex else index

/-- The rows of `append_sample`. -/
def row (_count : ℕ) (_startNs : ℤ) (sample : CanonicalSample δ (NDArray α))
    (_workspace _wrist : CameraSample δ (NDArray α)) : Except WriterError (RawRow δ) :=
  .ok {
    frameIndex := sample.frameIndex
    timestampNs := sample.timestampNs
    state := vector sample.control.armQMeasured ++ vector sample.control.handObservation
    action := vector sample.control.acceptedArmQ ++ vector sample.control.handTarget
    actionStatus := sample.control.armActionStatus
    timingValid := sample.missedSlotsBefore = 0 ∧ sample.missedSlotsAfter = 0
    armTrigger := sample.control.armTrigger
    handGrip := sample.control.handGrip
    nominalSlotIndex := slotIndex sample
    missedSlotsBefore := sample.missedSlotsBefore
    missedSlotsAfter := sample.missedSlotsAfter }

end Raw

/-- `RawEpisodeWriter`. -/
def rawFormat : WriterFormat δ α (RawRow δ) where
  count rows _ := rows.length
  count_append _ _ _ := List.length_append
  check := Raw.check
  row := Raw.row

end Format

end HandLab.Episode
