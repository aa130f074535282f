import HandLab.Lib.Ensures
import HandLab.Episode.Samples
import HandLab.Episode.Timeline

/-!
# The episode collector

`SingleEpisodeCollector` (`src/episode_dataset/collector.py`), method by method, over any
writer: a state machine that answers each call by returning, by returning `False`
or by raising. A program that raises keeps the state it left behind.

The counters and durations that only `diagnostics` reads are left out, and with them the
reports that it gives to `finalize`. `_flush_quality_events` retries a refused record until
its deadline; the number of retries for each record is a parameter of the call.
-/

namespace HandLab.Episode

open HandLab.Lib Double

/-! ## Writers -/

/-- A Python exception, as far as handlers tell them apart, with its text. -/
inductive PyException
  | valueError (text : String)
  /-- `TimestampRegression`, a `ValueError` -/
  | timestampRegression (text : String)
  | osError (text : String)
  | other (text : String)
  deriving DecidableEq, Repr

namespace PyException

/-- `str(exc)`. -/
def text : PyException → String
  | .valueError text | .timestampRegression text | .osError text | .other text => text

/-- `except (OSError, ValueError)`. -/
def caught : PyException → Bool
  | .valueError _ | .timestampRegression _ | .osError _ => true
  | .other _ => false

/-- `except ValueError`. -/
def isValueError : PyException → Bool
  | .valueError _ | .timestampRegression _ => true
  | .osError _ | .other _ => false

end PyException

inductive WriterCall (δ ι : Type) [Double δ]
  | begin (prerequisites : StartPrerequisites δ ι) (cameraMaxAgeNs : ℤ)
  | appendRaw (stream : String) (record : Record δ)
  | appendRawBatch (records : List (String × Record δ))
  | appendRawCamera (camera : CameraRecord δ ι)
  | appendSample (sample : CanonicalSample δ ι)
  | finalize (status : EpisodeStatus) (terminationReason : String)
      (triggerReleaseMonotonicNs : Option ℤ)
  | discardRejectedStart (reason : String)
  | close

/-- How a writer answers. -/
inductive Reply
  | returned
  /-- returned `False` -/
  | refused
  | raised (exc : PyException)
  deriving DecidableEq, Repr

/-- A writer with states `ω`. -/
structure EpisodeWriter (ω δ ι : Type) [Double δ] where
  call : WriterCall δ ι → ω → Reply × ω
  /-- it has `append_raw_batch` -/
  hasBatch : Bool := false
  /-- it has `close` -/
  hasClose : Bool := false

/-! ## The collector -/

/-- `CaptureState`. -/
inductive CaptureState
  | idle | arming | recording | finalizing | done
  deriving DecidableEq, Repr

/-- The settings of a collector. -/
structure CollectorConfig (δ : Type) where
  deferFinalization : Bool := false
  retryStartRejections : Bool := false
  cameraMaxAgeNs : ℤ := 100000000
  controlMaxAgeNs : ℤ := 40000000
  maximumStartDeltaRad : δ
  maximumHandStartDeltaRad : δ
  cameraSevereStaleNs : ℤ := 500000000
  cameraConsecutiveStaleLimit : ℕ := 15
  cameraMissingTimeoutNs : ℤ := 1000000000
  canonicalRequiredFieldConsecutiveLimit : ℕ := 15

/-- `SingleEpisodeCollector`. -/
structure Collector (ω δ ι : Type) [Double δ] where
  writer : ω
  state : CaptureState := .idle
  /-- what the state listener was told -/
  published : List CaptureState := []
  clock : CanonicalClock
  control : CausalTimeline (ControlSample δ)
  causalSourceEnabled : List String := []
  lastIndexedSourceTimestamp : List (String × ℤ) := []
  workspace : CausalTimeline (CameraRecord δ ι)
  wrist : CausalTimeline (CameraRecord δ ι)
  lastTrigger : Bool := false
  controlSegmentId : ℕ := 0
  lastControlSegmentMode : Option SegmentMode := none
  triggerPressNs : Option ℤ := none
  lastCameraClock : CameraRole → Option (CameraHeader δ) := fun _ => none
  lastCanonicalCameraId : CameraRole → Option CameraSourceId := fun _ => none
  lastControlSourceTimestamps : List (String × ℤ) := []
  /-- `result is not None` -/
  result : Bool := false
  terminationReason : Option String := none
  completionStatus : Option EpisodeStatus := none
  deferredAbort : Option (String × Bool × Option String) := none
  deferredFinish : Option (String × Option ℤ) := none
  deferredDiscard : Option String := none
  deferredRejection : Option String := none
  startRejectionCount : ℕ := 0
  lastStartRejection : Option String := none
  cameraConsecutiveStale : CameraRole → ℕ := fun _ => 0
  requiredFieldInvalidRun : ℕ := 0
  pendingQuality : List (Record δ) := []
  qualityEventsUnpersisted : ℕ := 0

/-- The programs of a collector. -/
abbrev CollectM (ω δ ι : Type) [Double δ] := EStateM PyException (Collector ω δ ι)

variable {ω δ ι : Type} [Double δ]

/-- `SingleEpisodeCollector.__init__`. -/
def CollectorConfig.initial (config : CollectorConfig δ) (clock : CanonicalClock) (writer : ω) :
    Collector ω δ ι where
  writer := writer
  clock := clock
  control := { maxAgeNs := config.controlMaxAgeNs }
  workspace := { maxAgeNs := config.cameraMaxAgeNs, capacity := 16 }
  wrist := { maxAgeNs := config.cameraMaxAgeNs, capacity := 16 }

namespace Collector

variable (s : Collector ω δ ι)

/-- The timeline of a camera. -/
def camera (role : CameraRole) : CausalTimeline (CameraRecord δ ι) :=
  match role with
  | .workspace => s.workspace
  | .wrist => s.wrist

/-- The collector with another timeline of a camera. -/
def withCamera (role : CameraRole) (timeline : CausalTimeline (CameraRecord δ ι)) :
    Collector ω δ ι :=
  match role with
  | .workspace => { s with workspace := timeline }
  | .wrist => { s with wrist := timeline }

/-! ### Control sources -/

/-- `_CAUSAL_CONTROL_SOURCES`. -/
def causalControlSources : List String :=
  ["jaka_observation", "jaka_command", "rh56_angle_act", "rh56_force_act"]

/-- The snapshot of a source (lines 737–748). -/
def causalSource (timestampNs : ℤ) (name : String) : Option (ControlSample δ) :=
  (s.control.latestMatchingAtOrBefore timestampNs fun sample =>
    sample.sourceTimestampDomains.lookup name == some "host_monotonic_ns" &&
      match sample.sourceTimestamp name with
      | none => false
      | some sourceNs => decide (sourceNs ≤ timestampNs)).value

/-- The replacements for one source (lines 735–796). -/
def replaceSource (timestampNs : ℤ) (name : String) (base : ControlSample δ) : ControlSample δ :=
  if name ∉ s.causalSourceEnabled then base
  else
    let selected := s.causalSource timestampNs name
    let stamped := { base with
      sourceTimestampsNs :=
        dictSet name (selected.bind (·.sourceTimestamp name)) base.sourceTimestampsNs
      sourceTimestampDomains := dictSet name "host_monotonic_ns" base.sourceTimestampDomains }
    if name = "jaka_observation" then
      { stamped with
        armQMeasured := selected.bind ControlSample.armQMeasured
        armDqMeasured := selected.bind ControlSample.armDqMeasured
        armQSource := (selected.map ControlSample.armQSource).getD .unavailable
        armDqSource := (selected.map ControlSample.armDqSource).getD .unavailable }
    else if name = "rh56_angle_act" then
      { stamped with
        handObservation := selected.bind ControlSample.handObservation
        handSource := (selected.map ControlSample.handSource).getD .unavailable }
    else if name = "rh56_force_act" then
      { stamped with forceObservation := selected.bind ControlSample.forceObservation }
    else stamped

/-- `_causal_control_at`. -/
def causalControlAt (base : ControlSample δ) (timestampNs : ℤ) : ControlSample δ :=
  causalControlSources.foldl (fun sample name => s.replaceSource timestampNs name sample) base

/-! ### Canonical slots -/

/-- The part of a quality record about the control snapshot. -/
def controlQuality (control : ControlSample δ) : Json δ :=
  .object [("host_monotonic_ns", .int control.hostMonotonicNs),
    ("accepted_target_sequence", .ofInt? control.acceptedTargetSequence),
    ("arm_action_status", .text (match control.armActionStatus with
      | .accepted => "accepted"
      | .heldRejected => "held_rejected")),
    ("hand_target", .ofVector? control.handTarget)]

/-- The age of a selection (lines 568–572). -/
def selectionAgeNs (selection : SourceSelection (CameraRecord δ ι)) : Option ℤ :=
  selection.signedOffsetNs.map fun offset => max 0 (-offset)

/-- The part of a quality record about a camera (lines 573–579). -/
def cameraQuality (role : CameraRole) (selection : SourceSelection (CameraRecord δ ι)) :
    Record δ :=
  [(role.name ++ "_valid", .bool selection.valid),
    (role.name ++ "_age_ns", .ofInt? (selectionAgeNs selection)),
    (role.name ++ "_frame_sequence", .ofInt? (selection.value.bind CameraRecord.sequence)),
    (role.name ++ "_stale_reason", .ofText? selection.reason)]

/-- The fields that every quality record has. -/
def qualityHeader (timestampNs : ℤ) (nominalSlotIndex : Option ℤ) (reason : String) : Record δ :=
  [("record_type", .text "canonical_data_quality"),
    ("canonical_timestamp_ns", .int timestampNs),
    ("nominal_slot_index", .ofInt? nominalSlotIndex),
    ("metadata_only", .bool true),
    ("reason", .text reason)]

/-- `_quality_from_sample`. -/
def qualityFromSample (sample : CanonicalSample δ ι) (reason : String) : Record δ :=
  let camera := fun (role : CameraRole) (record : CameraRecord δ ι) =>
    [(role.name ++ "_valid", Json.bool true),
      (role.name ++ "_age_ns", .int (max 0 (sample.timestampNs - record.hostMonotonicNs))),
      (role.name ++ "_frame_sequence", .ofInt? record.sequence),
      (role.name ++ "_stale_reason", .null)]
  qualityHeader sample.timestampNs sample.nominalSlotIndex reason ++
    [("control", controlQuality sample.control)] ++ camera .workspace sample.workspace ++
      camera .wrist sample.wrist

/-- `missing_fields`. -/
def missingFields (control : ControlSample δ) : List String :=
  ([("accepted_arm_q", control.acceptedArmQ.isNone), ("arm_q_measured", control.armQMeasured.isNone),
    ("arm_dq_measured", control.armDqMeasured.isNone),
    ("tcp_pose_xyzw", control.tcpPoseXyzw.isNone),
    ("hand_observation", control.handObservation.isNone),
    ("hand_target", control.handTarget.isNone)].filter Prod.snd).map Prod.fst

/-- What is to be done in a canonical slot. -/
inductive Slot (δ ι : Type) [Double δ]
  | staleControl
  | staleCamera (quality : Record δ)
  | missingFields (fields : List String) (quality : Record δ)
  | sample (sample : CanonicalSample δ ι)

/-- The selections of a slot (lines 522–579, 614–687). -/
def slot (frameIndex timestampNs : ℤ) : Slot δ ι :=
  let control := s.control.latestAtOrBefore timestampNs
  let selection := fun role => (s.camera role).latestAtOrBefore timestampNs
  match control.fresh? with
  | none => .staleControl
  | some base =>
    let value := s.causalControlAt base timestampNs
    match (selection .workspace).fresh?, (selection .wrist).fresh? with
    | some workspace, some wrist =>
      if missingFields value ≠ [] then
        .missingFields (missingFields value)
          (qualityHeader timestampNs (some s.clock.lastNominalSlotIndex)
              "canonical_required_field_unavailable" ++
            [("missing_fields", .list ((missingFields value).map .text)),
              ("control_host_monotonic_ns", .int value.hostMonotonicNs)])
      else
        let repeated := fun (role : CameraRole) (record : CameraRecord δ ι) =>
          if s.lastCanonicalCameraId role = some record.sourceId then [role.name] else []
        .sample {
          frameIndex
          timestampNs
          control := value
          workspace
          wrist
          sourceOffsetsNs := [("control", control.signedOffsetNs.getD 0),
            ("workspace", (selection .workspace).signedOffsetNs.getD 0),
            ("wrist", (selection .wrist).signedOffsetNs.getD 0)]
          synchronizationValid := true
          repeatedSources := repeated .workspace workspace ++ repeated .wrist wrist
          nominalSlotIndex := some (if frameIndex = 0 then 0 else s.clock.lastNominalSlotIndex)
          missedSlotsBefore := if frameIndex = 0 then 0 else s.clock.lastMissedSlotsBefore
          missedSlotsAfter := if frameIndex = 0 then 0 else s.clock.lastMissedSlotsAfter }
    | _, _ =>
      .staleCamera (qualityHeader timestampNs (some s.clock.lastNominalSlotIndex)
          "camera_stale_or_missing" ++ [("control", controlQuality value)] ++
        cameraQuality .workspace (selection .workspace) ++ cameraQuality .wrist (selection .wrist))

/-- `persistent` (lines 595–600), with the counts before the slot. -/
def persistentRoles (config : CollectorConfig δ) (timestampNs : ℤ) : List CameraRole :=
  [CameraRole.workspace, .wrist].filter fun role =>
    let selection := (s.camera role).latestAtOrBefore timestampNs
    let severe := match selectionAgeNs selection with
      | none => false
      | some age => decide (config.cameraSevereStaleNs ≤ age)
    let missing := match selectionAgeNs selection with
      | none => true
      | some age => decide (config.cameraMissingTimeoutNs ≤ age)
    !selection.valid &&
      decide (config.cameraConsecutiveStaleLimit ≤ s.cameraConsecutiveStale role + 1) &&
        (severe || missing)

/-- `_camera_consecutive_stale` after the slot. -/
def staleCounts (timestampNs : ℤ) : CameraRole → ℕ := fun role =>
  if ((s.camera role).latestAtOrBefore timestampNs).valid then 0
  else s.cameraConsecutiveStale role + 1

end Collector

/-! ## Methods -/

section Methods

variable (w : EpisodeWriter ω δ ι) (config : CollectorConfig δ)

/-- A call of the writer: whether it did not return `False`. -/
def ask (c : WriterCall δ ι) : CollectM ω δ ι Bool := fun s =>
  match w.call c s.writer with
  | (.returned, writer) => .ok true { s with writer }
  | (.refused, writer) => .ok false { s with writer }
  | (.raised exc, writer) => .error exc { s with writer }

/-- `_set_state`. -/
def setState (state : CaptureState) : CollectM ω δ ι PUnit :=
  modify fun s => { s with state, published := s.published ++ [state] }

/-- `self.result = self.writer.finalize(...)` or `discard_rejected_start(...)`. -/
def terminate (c : WriterCall δ ι) : CollectM ω δ ι PUnit := do
  let _ ← ask w c
  modify fun s => { s with result := true }

/-- `abort`. -/
def abort (reason : String) (invalid : Bool) (detail : Option String) : CollectM ω δ ι PUnit := do
  let s ← get
  if s.state = .done then pure ()
  else if s.state = .idle ∨ s.state = .arming then do
    let rejection := match detail with
      | none => reason
      | some detail => reason ++ ":" ++ detail
    if config.deferFinalization then modify fun s => { s with deferredRejection := some rejection }
    else terminate w (.discardRejectedStart rejection)
    modify fun s => { s with terminationReason := some reason, completionStatus := some .invalid }
    setState .done
  else do
    let status := if invalid then .invalid else .aborted
    modify fun s => { s with terminationReason := some reason, completionStatus := some status }
    if config.deferFinalization then do
      modify fun s => { s with deferredAbort := some (reason, invalid, detail) }
      setState .done
    else do
      setState .finalizing
      terminate w (.finalize status reason none)
      setState .done

/-- The handlers `except (OSError, ValueError)` that abort. -/
def abortOn (reason : String) (exc : PyException) : CollectM ω δ ι PUnit :=
  if exc.caught then abort w config reason false (some exc.text) else throw exc

/-- `_publish_quality`. -/
def publishQuality (quality : Record δ) : CollectM ω δ ι PUnit := do
  let persisted ← tryCatch (ask w (.appendRaw "data_quality" quality)) fun exc => do
    abortOn w config "recording_writer_failure" exc
    pure true
  if persisted then pure ()
  else modify fun s => { s with pendingQuality := pushBounded 4096 s.pendingQuality quality }

/-- `_append_canonical`. -/
def appendCanonical (frameIndex timestampNs : ℤ) : CollectM ω δ ι PUnit := do
  let s ← get
  match s.slot frameIndex timestampNs with
  | .staleControl => abort w config "stale_or_missing_source:control" false none
  | .staleCamera quality => do
    let persistent := s.persistentRoles config timestampNs
    modify fun s => { s with cameraConsecutiveStale := s.staleCounts timestampNs }
    let written ← tryCatch (do publishQuality w config quality; pure true) fun exc => do
      abortOn w config "recording_writer_failure" exc
      pure false
    if written ∧ persistent ≠ [] then
      abort w config ("persistent_camera_acquisition_fault:" ++
        ",".intercalate (persistent.map CameraRole.name)) false none
    else pure ()
  | .missingFields fields quality => do
    modify fun s => { s with
      cameraConsecutiveStale := fun _ => 0
      requiredFieldInvalidRun := s.requiredFieldInvalidRun + 1 }
    publishQuality w config quality
    let s ← get
    if config.canonicalRequiredFieldConsecutiveLimit ≤ s.requiredFieldInvalidRun then
      abort w config ("persistent_canonical_required_field_loss:" ++ ",".intercalate fields) true
        none
    else pure ()
  | .sample sample => do
    modify fun s => { s with
      cameraConsecutiveStale := fun _ => 0
      requiredFieldInvalidRun := 0
      lastCanonicalCameraId := fun
        | .workspace => some sample.workspace.sourceId
        | .wrist => some sample.wrist.sourceId }
    tryCatch (do
      let accepted ← ask w (.appendSample sample)
      if accepted then pure ()
      else publishQuality w config (Collector.qualityFromSample sample "recorder_queue_full"))
      (abortOn w config "recording_writer_failure")

/-- The loop over the records of a batch (lines 827–828). -/
def appendEach : List (String × Record δ) → CollectM ω δ ι PUnit
  | [] => pure ()
  | (stream, record) :: rest => do
    let _ ← ask w (.appendRaw stream record)
    appendEach rest

/-- `_append_raw_records`. -/
def appendRawRecords (records : List (String × Record δ)) : CollectM ω δ ι PUnit :=
  tryCatch (do
    if w.hasBatch then do
      let _ ← ask w (.appendRawBatch records)
      pure ()
    else appendEach w records)
    (abortOn w config "raw_data_write_failure")

/-- `_finish_completed`. -/
def finishCompleted (releaseNs : ℤ) : CollectM ω δ ι PUnit := do
  if config.deferFinalization then do
    modify fun s => { s with
      terminationReason := some "arm_trigger_released"
      completionStatus := some .completed
      deferredFinish := some ("arm_trigger_released", some releaseNs) }
    setState .done
  else do
    setState .finalizing
    terminate w (.finalize .completed "arm_trigger_released" (some releaseNs))
    modify fun s => { s with
      terminationReason := some "arm_trigger_released", completionStatus := some .completed }
    setState .done

/-! ### Cameras -/

/-- Some component of the device clock went back, or a domain changed (lines 181–182). -/
def clockRegressed (previous frame : CameraHeader δ) : Bool :=
  lt frame.deviceRgbTimestampMs previous.deviceRgbTimestampMs ||
    lt frame.deviceDepthTimestampMs previous.deviceDepthTimestampMs ||
    decide (frame.rgbFrameNumber < previous.rgbFrameNumber) ||
    decide (frame.depthFrameNumber < previous.depthFrameNumber) ||
    frame.rgbTimestampDomain != previous.rgbTimestampDomain ||
    frame.depthTimestampDomain != previous.depthTimestampDomain

/-- The timeline and the raw layer take a frame (lines 189–194). -/
def takeFrame (frame : CameraRecord δ ι) : CollectM ω δ ι PUnit := do
  let s ← get
  let role := frame.header.role
  match (s.camera role).append frame.hostMonotonicNs frame with
  | none => throw (.timestampRegression ((s.camera role).regressionText frame.hostMonotonicNs))
  | some timeline => do
    modify fun s => s.withCamera role timeline
    if s.state = .recording then do
      let _ ← ask w (.appendRawCamera frame)
      pure ()
    else pure ()

/-- `ingest_camera`. -/
def ingestCamera (frame : CameraRecord δ ι) : CollectM ω δ ι PUnit := do
  let s ← get
  let role := frame.header.role
  if s.state = .done then pure ()
  else do
    let previous := s.lastCameraClock role
    modify fun s => { s with
      lastCameraClock := Function.update s.lastCameraClock role (some frame.header) }
    if s.state = .recording ∧ ∃ clock ∈ previous, clockRegressed clock frame.header = true then
      abort w config (role.name ++ "_camera_device_timestamp_or_frame_regression") true none
    else
      tryCatch (takeFrame w frame) fun
        | .timestampRegression text =>
          abort w config "camera_timestamp_regression" true (some text)
        | exc => abortOn w config "camera_data_write_failure" exc

/-! ### Starts -/

/-- The candidate of a start (lines 450–478). -/
def startCandidate (s : Collector ω δ ι) (sample : ControlSample δ)
    (referenceEstablished captureActive : Bool) : Option (StartPrerequisites δ ι) :=
  if referenceEstablished = false ∨ sample.acceptedArmQ.isNone then none
  else
    let sample := s.causalControlAt sample sample.hostMonotonicNs
    if sample.armQMeasured.isNone ∨ sample.handObservation.isNone then none
    else
      match (s.workspace.latestAtOrBefore sample.hostMonotonicNs).fresh?,
          (s.wrist.latestAtOrBefore sample.hostMonotonicNs).fresh? with
      | some workspace, some wrist =>
        let triggerPressNs := match s.triggerPressNs with
          | none => sample.hostMonotonicNs
          | some pressNs => if pressNs = 0 then sample.hostMonotonicNs else pressNs
        if workspace.hostMonotonicNs < triggerPressNs ∨ wrist.hostMonotonicNs < triggerPressNs then
          none
        else some {
          triggerPressMonotonicNs := triggerPressNs
          referenceEstablished := true
          accepted := if sample.armTrigger then sample
            else { sample with armTrigger := captureActive }
          workspace
          wrist
          maximumStartDeltaRad := config.maximumStartDeltaRad
          maximumHandStartDeltaRad := config.maximumHandStartDeltaRad }
      | _, _ => none

/-- The source timestamps that are there. -/
def knownTimestamps (sample : ControlSample δ) : List (String × ℤ) :=
  sample.sourceTimestampsNs.filterMap fun (name, timestampNs) => timestampNs.map (name, ·)

/-- `clock.start` and what follows it (lines 483–489). -/
def enterRec (p : StartPrerequisites δ ι) : CollectM ω δ ι PUnit := do
  let s ← get
  match s.clock.start p.accepted.hostMonotonicNs with
  | none => throw (.other "canonical clock already started")
  | some clock => do
    modify fun s => { s with
      clock, lastControlSourceTimestamps := knownTimestamps p.accepted }
    setState .recording

/-- The start up to the first slot (lines 480–489). -/
def openEpisode (p : StartPrerequisites δ ι) : CollectM ω δ ι PUnit := do
  let _ ← ask w (.begin p config.cameraMaxAgeNs)
  let _ ← ask w (.appendRawCamera p.workspace)
  let _ ← ask w (.appendRawCamera p.wrist)
  enterRec p

/-- The body of the `try` of `_start_if_ready`. -/
def start (p : StartPrerequisites δ ι) : CollectM ω δ ι PUnit := do
  openEpisode w config p
  appendCanonical w config 0 p.accepted.hostMonotonicNs

/-- What the handlers of `_start_if_ready` do when they give up the start. -/
def rejectStart (text : String) : CollectM ω δ ι PUnit := do
  if config.deferFinalization then modify fun s => { s with deferredRejection := some text }
  else terminate w (.discardRejectedStart text)
  modify fun s => { s with terminationReason := some text, completionStatus := some .invalid }
  setState .done

/-- `_start_if_ready`. -/
def startIfReady (sample : ControlSample δ) (referenceEstablished captureActive : Bool) :
    CollectM ω δ ι Bool := do
  let s ← get
  match startCandidate config s sample referenceEstablished captureActive with
  | none => pure false
  | some p =>
    tryCatch (do start w config p; pure true) fun exc =>
      if exc.caught = false then throw exc
      else if exc.isValueError ∧ config.retryStartRejections then do
        modify fun s => { s with
          startRejectionCount := s.startRejectionCount + 1, lastStartRejection := some exc.text }
        pure false
      else do
        rejectStart w config exc.text
        pure false

/-! ### Control -/

/-- The loop of `_index_control_sources`: whether it did not abort. -/
def indexSources (sample : ControlSample δ) : List String → CollectM ω δ ι Bool
  | [] => pure true
  | name :: rest =>
    match sample.sourceTimestampsNs.lookup name with
    | none => indexSources sample rest
    | some timestamp => do
      modify fun s => { s with causalSourceEnabled := s.causalSourceEnabled.insert name }
      let s ← get
      match timestamp with
      | none => indexSources sample rest
      | some timestampNs =>
        if sample.sourceTimestampDomains.lookup name ≠ some "host_monotonic_ns" then do
          abort w config ("control_source_timestamp_domain_mismatch:" ++ name) true none
          pure false
        else if ∃ previous ∈ s.lastIndexedSourceTimestamp.lookup name, timestampNs < previous then do
          abort w config ("control_source_timestamp_regression:" ++ name) true none
          pure false
        else do
          modify fun s => { s with
            lastIndexedSourceTimestamp := dictSet name timestampNs s.lastIndexedSourceTimestamp }
          indexSources sample rest

/-- The loop over the source timestamps while recording (lines 264–271): whether it did
    not abort. -/
def checkSources : List (String × Option ℤ) → CollectM ω δ ι Bool
  | [] => pure true
  | (_, none) :: rest => checkSources rest
  | (name, some timestampNs) :: rest => do
    let s ← get
    if ∃ previous ∈ s.lastControlSourceTimestamps.lookup name, timestampNs < previous then do
      abort w config ("control_source_timestamp_regression:" ++ name) true none
      pure false
    else do
      modify fun s => { s with
        lastControlSourceTimestamps := dictSet name timestampNs s.lastControlSourceTimestamps }
      checkSources rest

/-- A slot that is due (lines 288–291). -/
def appendDue (nowNs : ℤ) : CollectM ω δ ι PUnit := do
  let s ← get
  match s.clock.due nowNs with
  | .notStarted => throw (.other "canonical clock has not started")
  | .waiting => pure ()
  | .frame index timestampNs clock => do
    modify fun s => { s with clock }
    appendCanonical w config index timestampNs

/-- `ingest_control` while recording (lines 263–291). -/
def recordControl (sample : ControlSample δ) (rawRecords : List (String × Record δ))
    (releaseEdge : Bool) : CollectM ω δ ι PUnit := do
  let s ← get
  if s.state ≠ .recording then pure ()
  else do
    let regular ← checkSources w config sample.sourceTimestampsNs
    if regular = false then pure ()
    else do
      (if rawRecords ≠ [] then appendRawRecords w config rawRecords else pure ())
      let s ← get
      if rawRecords ≠ [] ∧ s.state = .done then pure ()
      else if sample.controllerFault then abort w config "controller_alarm" false none
      else if sample.trackingHardFault then abort w config "tracking_hard_fault" false none
      else if sample.controlHeartbeatValid = false then
        abort w config "control_heartbeat_lost" false none
      else if releaseEdge then finishCompleted w config sample.hostMonotonicNs
      else appendDue w config sample.hostMonotonicNs

/-- The release while arming (lines 246–255). -/
def rejectRelease : CollectM ω δ ι PUnit :=
  rejectStart w config "trigger_released_before_reference_and_first_valid_sample"

/-- The sample with its segment (lines 210–228). -/
def Collector.segmented (s : Collector ω δ ι) (sample : ControlSample δ) : ControlSample δ :=
  { sample with
    controlSegmentId := if ∃ last ∈ s.lastControlSegmentMode, sample.segmentMode ≠ last then
      s.controlSegmentId + 1 else s.controlSegmentId
    controlSegmentMode := sample.segmentMode }

/-- The timeline takes a sample (lines 210–235): the sample with its segment, or nothing
    if that aborted. -/
def takeControl (sample : ControlSample δ) : CollectM ω δ ι (Option (ControlSample δ)) := do
  let s ← get
  let sample := s.segmented sample
  modify fun s => { s with
    controlSegmentId := sample.controlSegmentId
    lastControlSegmentMode := some sample.controlSegmentMode }
  let indexed ← indexSources w config sample Collector.causalControlSources
  if indexed = false then pure none
  else do
    let s ← get
    let text := s.control.regressionText sample.hostMonotonicNs
    match s.control.append sample.hostMonotonicNs sample with
    | none => do
      abort w config "control_timestamp_regression" true (some text)
      pure none
    | some control => do
      modify fun s => { s with control }
      pure (some sample)

/-- The edges of the trigger (lines 236–243): whether it was released. -/
def trackTrigger (hostMonotonicNs : ℤ) (pressed : Bool) : CollectM ω δ ι Bool := do
  let s ← get
  modify fun s => { s with lastTrigger := pressed }
  if s.state = .idle ∧ (pressed && !s.lastTrigger) = true then do
    setState .arming
    modify fun s => { s with triggerPressNs := some hostMonotonicNs }
    pure false
  else pure (!pressed && s.lastTrigger)

/-- `ingest_control` behind the edges (lines 245–291). -/
def followTrigger (sample : ControlSample δ) (referenceEstablished : Bool)
    (rawRecords : List (String × Record δ)) (pressed releaseEdge : Bool) :
    CollectM ω δ ι PUnit := do
  let s ← get
  if s.state = .arming ∧ releaseEdge = true then rejectRelease w config
  else if s.state = .arming ∧ pressed = true then do
    let started ← startIfReady w config sample referenceEstablished pressed
    if started = false then recordControl w config sample rawRecords releaseEdge
    else if rawRecords ≠ [] then appendRawRecords w config rawRecords
    else pure ()
  else recordControl w config sample rawRecords releaseEdge

/-- `ingest_control`. -/
def ingestControl (sample : ControlSample δ) (referenceEstablished : Bool)
    (rawRecords : List (String × Record δ)) (captureActive : Option Bool) :
    CollectM ω δ ι PUnit := do
  let s ← get
  if s.state = .done then pure ()
  else do
    let taken ← takeControl w config sample
    match taken with
    | none => pure ()
    | some sample => do
      let pressed := captureActive.getD sample.armTrigger
      let releaseEdge ← trackTrigger sample.hostMonotonicNs pressed
      followTrigger w config sample referenceEstablished rawRecords pressed releaseEdge

/-! ### The end of an episode -/

/-- `camera_fault`. -/
def cameraFault (role : CameraRole) (reason : String) : CollectM ω δ ι PUnit := do
  let s ← get
  if s.state = .recording then
    abort w config (role.name ++ "_camera_disconnected:" ++ reason) false none
  else pure ()

/-- The loop of `_flush_quality_events` for one record. -/
def persistQuality (quality : Record δ) : ℕ → CollectM ω δ ι PUnit
  | 0 => do
    let kept ← ask w (.appendRaw "data_quality" quality)
    if kept then pure ()
    else modify fun s => { s with qualityEventsUnpersisted := s.qualityEventsUnpersisted + 1 }
  | retries + 1 => do
    let kept ← ask w (.appendRaw "data_quality" quality)
    if kept then pure () else persistQuality quality retries

/-- The loop of `_flush_quality_events`. -/
def flushEach (retries : ℕ → ℕ) : List (Record δ) → CollectM ω δ ι PUnit
  | [] => pure ()
  | quality :: rest => do
    tryCatch (persistQuality w quality (retries rest.length)) fun exc =>
      if exc.caught then
        modify fun s => { s with qualityEventsUnpersisted := s.qualityEventsUnpersisted + 1 }
      else throw exc
    flushEach retries rest

/-- `_flush_quality_events`. -/
def flushQualityEvents (retries : ℕ → ℕ) : CollectM ω δ ι PUnit := do
  let s ← get
  modify fun s => { s with pendingQuality := [] }
  flushEach w retries s.pendingQuality

/-- `finalize_pending`. -/
def finalizePending (retries : ℕ → ℕ) : CollectM ω δ ι PUnit := do
  let s ← get
  if s.result then pure ()
  else match s.deferredRejection with
  | some reason => do
    modify fun s => { s with deferredRejection := none }
    terminate w (.discardRejectedStart reason)
  | none => match s.deferredFinish with
  | some (reason, releaseNs) => do
    modify fun s => { s with deferredFinish := none }
    flushQualityEvents w retries
    setState .finalizing
    terminate w (.finalize .completed reason releaseNs)
    setState .done
  | none => match s.deferredDiscard with
  | some reason => do
    modify fun s => { s with deferredDiscard := none }
    setState .finalizing
    terminate w (.discardRejectedStart reason)
    setState .done
  | none => match s.deferredAbort with
  | some (reason, invalid, _) => do
    modify fun s => { s with deferredAbort := none }
    setState .finalizing
    flushQualityEvents w retries
    terminate w (.finalize (if invalid then .invalid else .aborted) reason none)
    setState .done
  | none => pure ()

/-- `shutdown`. -/
def shutdown (retries : ℕ → ℕ) (reason : String) : CollectM ω δ ι PUnit := do
  let s ← get
  if s.state = .done then finalizePending w retries
  else if s.state = .idle then do
    (if w.hasClose then do
      let _ ← ask w .close
      pure ()
    else pure ())
    setState .done
  else abort w config reason false none

/-- `finish`. -/
def finish (retries : ℕ → ℕ) (reason : String) (releaseNs : Option ℤ) :
    CollectM ω δ ι PUnit := do
  let s ← get
  if s.state = .done then pure ()
  else if s.state ≠ .recording then shutdown w config retries reason
  else if config.deferFinalization then do
    modify fun s => { s with
      terminationReason := some reason
      completionStatus := some .completed
      deferredFinish := some (reason, releaseNs) }
    setState .done
  else do
    setState .finalizing
    terminate w (.finalize .completed reason releaseNs)
    modify fun s => { s with
      terminationReason := some reason, completionStatus := some .completed }
    setState .done

/-- `discard_current`. -/
def discardCurrent (reason : String) : CollectM ω δ ι PUnit := do
  let s ← get
  if s.state = .done then pure ()
  else if s.state = .idle ∨ s.state = .arming then rejectStart w config reason
  else if config.deferFinalization then do
    modify fun s => { s with
      deferredDiscard := some reason
      terminationReason := some reason
      completionStatus := some .invalid }
    setState .done
  else do
    setState .finalizing
    terminate w (.discardRejectedStart reason)
    modify fun s => { s with
      terminationReason := some reason, completionStatus := some .invalid }
    setState .done

/-! ### Calls -/

/-- A public call. -/
inductive CollectorCall (δ ι : Type) [Double δ]
  | ingestCamera (frame : CameraRecord δ ι)
  | ingestControl (sample : ControlSample δ) (referenceEstablished : Bool)
      (rawRecords : List (String × Record δ)) (captureActive : Option Bool)
  | cameraFault (role : CameraRole) (reason : String)
  | finish (retries : ℕ → ℕ) (reason : String) (releaseNs : Option ℤ)
  | abort (reason : String) (invalid : Bool) (detail : Option String)
  | discardCurrent (reason : String)
  | shutdown (retries : ℕ → ℕ) (reason : String)
  | finalizePending (retries : ℕ → ℕ)

def CollectorCall.program : CollectorCall δ ι → CollectM ω δ ι PUnit
  | .ingestCamera frame => Episode.ingestCamera w config frame
  | .ingestControl sample referenceEstablished rawRecords captureActive =>
    Episode.ingestControl w config sample referenceEstablished rawRecords captureActive
  | .cameraFault role reason => Episode.cameraFault w config role reason
  | .finish retries reason releaseNs => Episode.finish w config retries reason releaseNs
  | .abort reason invalid detail => Episode.abort w config reason invalid detail
  | .discardCurrent reason => Episode.discardCurrent w config reason
  | .shutdown retries reason => Episode.shutdown w config retries reason
  | .finalizePending retries => Episode.finalizePending w retries

/-- The collector after a call, whether it returns or raises. -/
def Collector.after (s : Collector ω δ ι) (c : CollectorCall δ ι) : Collector ω δ ι :=
  stateAfter (c.program w config) s

end Methods

/-! ## Logged writers -/

/-- What a writer was asked and how it answered. -/
abbrev WriterLog (δ ι : Type) [Double δ] := List (WriterCall δ ι × Reply)

/-- The writer that keeps a log. -/
def EpisodeWriter.logged (w : EpisodeWriter ω δ ι) : EpisodeWriter (ω × WriterLog δ ι) δ ι where
  call c s := ((w.call c s.1).1, (w.call c s.1).2, s.2 ++ [(c, (w.call c s.1).1)])
  hasBatch := w.hasBatch
  hasClose := w.hasClose

end HandLab.Episode
