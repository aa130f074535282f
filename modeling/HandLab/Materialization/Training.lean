import HandLab.Materialization.PhysicalBottle

/-!
# Materialization of the training dataset

`materialize_training_dataset` of `src/episode_dataset/training_materialization.py`
and what it calls, from the manifest and the source tree to the master rows and the
exported videos.

The manifest and the rows are typed: a value that Python's `int` or `str` would
reject, and a missing `timestamp_ns` or `camera_frame_index`, raises before anything
is written. A frame of a video is its index in the source video; a video that cannot
be opened has no frames. The reports, the statistics and the columns that are only
copied through are left out, and so is the reuse of an existing output.
-/

namespace HandLab.Materialization

open HandLab.Lib Double

variable {δ : Type}

/-! ## Videos -/

/-- What the export of a video raises. -/
inductive VideoError
  | endedBefore (frame : ℤ)
  | miscounted (written wanted : ℕ)
  deriving DecidableEq, Repr

/-- The loop of `_write_video_subset`, with so many frames unread, at `index`: the source
    frames that are written. -/
def writeFrames : ℕ → ℕ → List ℤ → Except VideoError (List ℕ)
  | _, _, [] => .ok []
  | 0, _, next :: _ => .error (.endedBefore next)
  | unread + 1, index, next :: wanted =>
    if (index : ℤ) = next then (writeFrames unread (index + 1) wanted).map (index :: ·)
    else writeFrames unread (index + 1) (next :: wanted)

/-- `_write_video_subset` of a source video with so many frames. -/
def writeVideoSubset (frameCount : ℕ) (rawIndices : List ℤ) : Except VideoError (List ℕ) := do
  let written ← writeFrames frameCount 0 rawIndices
  if written.length ≠ rawIndices.length then
    throw (.miscounted written.length rawIndices.length)
  return written

/-- `contiguous` of `_link_or_crop_video`. -/
def contiguous (rawIndices : List ℤ) : Bool :=
  match rawIndices.getLast? with
  | none => false
  | some last => rawIndices = (List.range (last + 1).toNat).map Int.ofNat

/-- `_link_or_crop_video`: a link shows every frame of the source. -/
def linkOrCropVideo (frameCount : ℕ) (rawIndices : List ℤ) (sourceFrameCount : ℕ) :
    Except VideoError (List ℕ) :=
  if contiguous rawIndices && decide (sourceFrameCount = rawIndices.length) then
    .ok (List.range frameCount)
  else writeVideoSubset frameCount rawIndices

/-- The two cameras. -/
inductive CameraRole
  | workspace | wrist
  deriving DecidableEq, Repr

/-- The exported videos of an episode. -/
abbrev Videos := CameraRole → List ℕ

/-! ## The source tree -/

/-- `camera[role]` of a row. -/
structure TrainingCamera extends RowCamera where
  rgbTimestampDomain : Option String
  deriving DecidableEq

/-- `timing` of a row. -/
structure TrainingTiming extends RowTiming where
  sourceAgeNs : List (String × Option ℤ)
  deriving DecidableEq

/-- A row of a staging episode; `timing` is missing if it is not a mapping. -/
structure TrainingRow (δ : Type) where
  timestampNs : ℤ
  frameIndex : Option ℤ
  state : List δ
  action : List δ
  force : List δ
  timing : Option TrainingTiming
  workspace : TrainingCamera
  wrist : TrainingCamera
  actionStatus : String := "accepted"
  armTrigger : Bool := false
  handGrip : Bool := false
  cameraFrameIndex : CameraRole → ℤ

/-- The metadata of an episode. -/
structure TrainingMetadata where
  completionStatus : String
  triggerReleaseTimestampNs : Option ℤ
  deriving DecidableEq, Repr

/-- A staging episode: its files, as far as they are there. -/
structure TrainingEpisode (δ : Type) where
  metadata : Option TrainingMetadata
  rows : Option (List (TrainingRow δ))
  readErrors : List String
  /-- the number of frames of a video -/
  videos : CameraRole → Option ℕ

/-! ## The configuration -/

/-- An entry of `episodes`. -/
structure TrainingEntry where
  id : ℤ
  included : Bool := false
  cropStartTimestampNs : Option ℤ := none
  cropEndTimestampNs : Option ℤ := none
  deriving DecidableEq, Repr

/-- `split_policy`. -/
inductive SplitPolicy (δ : Type)
  | explicit (train val test : List ℤ)
  | hash (trainFraction valFraction : δ) (seed : String)
  | unknown

/-- The configuration. -/
structure TrainingConfig (δ : Type) where
  fps : ℕ := 30
  episodes : List TrainingEntry
  taskPrompt : String
  splitPolicy : SplitPolicy δ

/-- `TASK_PROMPT`. -/
def taskPrompt : String := "Pick up the bottle and place it on the cardboard box."

/-- What is raised. -/
inductive TrainingError
  | duplicateIds
  | wrongPrompt
  | inMoreThanOneSplit
  | splitsDoNotMatch (missing extra : List ℤ)
  | unknownMode
  | splitFractions
  | zeroFps
  | noMasterRows
  | video (role : CameraRole) (error : VideoError)
  | zeroRows
  deriving DecidableEq, Repr

/-! ## Rows -/

structure MasterRow (δ : Type) where
  index : ℕ
  episodeIndex : ℤ
  frameIndex : ℕ
  rawFrameIndex : ℤ
  segmentId : ℕ
  timestamp : δ
  timestampNs : ℤ
  task : String
  state : List δ
  action : List δ
  force : List δ
  forceAgeS : Option δ
  forceValid : Bool
  forceTimestampNs : Option ℤ
  actionStatus : String
  armTrigger : Bool
  handGrip : Bool
  syncValid : Bool
  cameraFrameIndex : CameraRole → ℤ

section Rows

variable [Double δ]

namespace TrainingRow

variable (row : TrainingRow δ)

/-- An empty mapping. -/
def noTiming : TrainingTiming where
  canonicalHostMonotonicNs := none
  synchronizationValid := false
  rh56ForceActValid := false
  sourceTimestampsNs := []
  sourceTimestampDomains := []
  sourceValidity := []
  sourceAgeNs := []

/-- `timing` as a mapping. -/
def timingData : TrainingTiming := row.timing.getD noTiming

/-- `canonical` of `_source_timing`. -/
def canonical : ℤ := if row.timing.isSome then row.timestampNs else 0

/-- `validity.get(name) is True`. -/
def sourceValid (name : String) : Bool := row.timingData.sourceValidity.lookup name == some true

def cameraReasons (role : String) (camera : TrainingCamera) : List String :=
  reasonIf (!camera.valid) s!"invalid_camera:{role}" ++
    reasonIf (!(["global_time", "hardware_clock", "system_time"].any
      (camera.rgbTimestampDomain == some ·))) s!"invalid_camera_timestamp_domain:{role}" ++
    reasonIf (camera.rgbFrameNumber.getD (-1) < 0) s!"invalid_camera_frame:{role}"

/-- `_row_reasons`. -/
def rowReasons (requireForce : Bool) : List String :=
  let timestamps := row.timingData.sourceTimestampsNs.flatMap fun (name, value) =>
    match value with
    | none => []
    | some value =>
      reasonIf (row.timingData.sourceTimestampDomains.lookup name ≠ some "host_monotonic_ns")
        s!"source_domain_invalid:{name}" ++
      reasonIf (row.canonical < value) s!"future_source:{name}"
  let reasons :=
    reasonIf (row.canonical ≤ 0) "missing_canonical_timestamp" ++
    reasonIf (row.timingData.canonicalHostMonotonicNs ≠ some row.canonical)
      "canonical_timestamp_mismatch" ++
    reasonIf (!finiteVector row.state 12) "state_shape_or_finite" ++
    reasonIf (!finiteVector row.action 12) "action_shape_or_finite" ++
    reasonIf (!finiteVector row.force 6) "force_shape_or_finite" ++
    reasonIf (!row.timingData.synchronizationValid) "synchronization_invalid" ++ timestamps ++
    (["jaka_observation", "rh56_angle_act", "workspace", "wrist"].flatMap fun name =>
      reasonIf (!row.sourceValid name) s!"invalid_source:{name}") ++
    cameraReasons "workspace" row.workspace ++ cameraReasons "wrist" row.wrist ++
    reasonIf (requireForce && !row.sourceValid "rh56_force_act") "invalid_source:rh56_force_act"
  reasons.dedup.insertionSort (· ≤ ·)

/-- `int(row.get("frame_index", -1))`. -/
def rawFrameIndex : ℤ := row.frameIndex.getD (-1)

/-- `force_valid`. -/
def forceValid : Bool := row.timingData.rh56ForceActValid && row.sourceValid "rh56_force_act"

end TrainingRow

/-- The crop of `_crop_rows`; a missing bound is zero. -/
def cropBounds (rows : List (TrainingRow δ)) (metadata : TrainingMetadata)
    (entry : TrainingEntry) : ℤ × ℤ :=
  (match entry.cropStartTimestampNs with
    | some start => start
    | none => (rows.head?.map TrainingRow.timestampNs).getD 0,
    match entry.cropEndTimestampNs with
    | some stop => stop
    | none => metadata.triggerReleaseTimestampNs.getD 0)

/-- `_crop_rows`: the start and the candidates, or nothing where a review is required. -/
def cropRows (rows : List (TrainingRow δ)) (metadata : TrainingMetadata) (entry : TrainingEntry) :
    Option (ℤ × List (TrainingRow δ)) :=
  let (startNs, endNs) := cropBounds rows metadata entry
  if startNs ≠ 0 ∧ endNs ≠ 0 ∧ startNs ≤ endNs then
    some (startNs, rows.filter fun row => decide (startNs ≤ row.timestampNs ∧ row.timestampNs ≤ endNs))
  else none

structure RowLoop (δ : Type) where
  previousTimestamp : Option ℤ := none
  previousRawFrameIndex : Option ℤ := none
  segmentId : ℕ := 0
  globalIndex : ℕ
  outputRows : List (MasterRow δ) := []

/-- `int(previous_timestamp or timestamp)`. -/
def orTimestamp (previous : Option ℤ) (timestamp : ℤ) : ℤ :=
  match previous with
  | none => timestamp
  | some value => if value = 0 then timestamp else value

/-- `previous_raw_frame_index is not None and (…)` (lines 715–718). -/
def startsSegment (s : RowLoop δ) (expectedPeriodNs rawFrameIndex timestamp : ℤ) : Bool :=
  match s.previousRawFrameIndex with
  | none => false
  | some previous => decide (rawFrameIndex ≠ previous + 1) ||
    decide (timestamp - orTimestamp s.previousTimestamp timestamp > expectedPeriodNs * 3 / 2)

/-- `master_row`. -/
def masterRow (s : RowLoop δ) (episodeId startNs : ℤ) (segmentId : ℕ) (row : TrainingRow δ) :
    MasterRow δ where
  index := s.globalIndex
  episodeIndex := episodeId
  frameIndex := s.outputRows.length
  rawFrameIndex := row.rawFrameIndex
  segmentId
  timestamp := div (ofInt (row.timestampNs - startNs)) (ofRat 1e9)
  timestampNs := row.timestampNs
  task := taskPrompt
  state := row.state
  action := row.action
  force := row.force
  forceAgeS := ((row.timingData.sourceAgeNs.lookup "rh56_force_act").getD none).map fun age =>
    div (ofInt age) (ofRat 1e9)
  forceValid := row.forceValid
  forceTimestampNs := (row.timingData.sourceTimestampsNs.lookup "rh56_force_act").getD none
  actionStatus := row.actionStatus
  armTrigger := row.armTrigger
  handGrip := row.handGrip
  syncValid := row.timingData.synchronizationValid
  cameraFrameIndex := row.cameraFrameIndex

/-- The row has no reason of its own and is later than the candidate before it. -/
def admitted (previousTimestamp : Option ℤ) (row : TrainingRow δ) : Bool :=
  (row.rowReasons false).isEmpty && previousTimestamp.all fun previous =>
    decide (previous < row.timestampNs)

/-- One turn of the row loop (lines 692–744). -/
def rowStep (episodeId startNs expectedPeriodNs : ℤ) (s : RowLoop δ) (row : TrainingRow δ) :
    RowLoop δ :=
  let accepted := admitted s.previousTimestamp row
  -- the previous timestamp is already the row's own when the gap is tested
  let s := { s with previousTimestamp := some row.timestampNs }
  if !accepted then s
  else
    let segmentId :=
      if startsSegment s expectedPeriodNs row.rawFrameIndex row.timestampNs then s.segmentId + 1
      else s.segmentId
    { s with
      segmentId
      outputRows := s.outputRows ++ [masterRow s episodeId startNs segmentId row]
      globalIndex := s.globalIndex + 1
      previousRawFrameIndex := some row.rawFrameIndex }

/-- `round(1_000_000_000 / fps)`. -/
def expectedPeriodNs (fps : ℕ) : ℤ := PyFloat.roundHalfEven (1000000000 / fps : ℚ)

/-- The candidates of an episode whose files are there and complete (lines 639–665). -/
def candidatesOf (entry : TrainingEntry) (episode : TrainingEpisode δ) :
    Option (ℤ × List (TrainingRow δ)) :=
  match episode.metadata, episode.rows with
  | some metadata, some rows =>
    if (episode.videos .workspace).isNone ∨ (episode.videos .wrist).isNone then none
    else if episode.readErrors ≠ [] ∨ rows = [] ∨ metadata.completionStatus ≠ "completed" then none
    else cropRows rows metadata entry
  | _, _ => none

/-- The master rows of an episode, from the global index (lines 625–749); none where it is
    excluded. -/
def exportEpisode (config : TrainingConfig δ) (entry : TrainingEntry)
    (episode : TrainingEpisode δ) (globalIndex : ℕ) :
    Except TrainingError (List (MasterRow δ)) :=
  match candidatesOf entry episode with
  | none => .ok []
  | some (startNs, candidates) =>
    if !entry.included then .ok []
    else if config.fps = 0 then .error .zeroFps
    else .ok (candidates.foldl (rowStep entry.id startNs (expectedPeriodNs config.fps))
      { globalIndex }).outputRows

/-- The loop over the episodes, from the global index. -/
def exportEpisodes (config : TrainingConfig δ) (tree : ℤ → TrainingEpisode δ) :
    ℕ → List TrainingEntry → Except TrainingError (List (ℤ × List (MasterRow δ)))
  | _, [] => .ok []
  | globalIndex, entry :: rest => do
    let rows ← exportEpisode config entry (tree entry.id) globalIndex
    let others ← exportEpisodes config tree (globalIndex + rows.length) rest
    return if rows = [] then others else (entry.id, rows) :: others

end Rows

/-! ## The dataset -/

section Dataset

variable [Double δ]

/-- `_split_ids`, as the episodes of train, validation and test. `hashFraction` is the hash
    of an episode, as a fraction of `2 ^ 64`. -/
def splitIds (hashFraction : String → ℤ → δ) (policy : SplitPolicy δ) (included : List ℤ) :
    Except TrainingError (List ℤ × List ℤ × List ℤ) :=
  match policy with
  | .explicit train val test =>
    let assigned := train ++ val ++ test
    if ¬assigned.Nodup then .error .inMoreThanOneSplit
    else if ¬(assigned ⊆ included ∧ included ⊆ assigned) then
      .error (.splitsDoNotMatch (included.filter (· ∉ assigned)) (assigned.filter (· ∉ included)))
    else .ok (train, val, test)
  | .hash trainFraction valFraction seed =>
    if !(lt zero trainFraction && lt trainFraction (ofRat 1) && le zero valFraction &&
        lt valFraction (ofRat 1) && lt (add trainFraction valFraction) (ofRat 1)) then
      .error .splitFractions
    else
      let ids := included.insertionSort (· ≤ ·)
      let inTrain := fun id => lt (hashFraction seed id) trainFraction
      let inVal := fun id => !inTrain id && lt (hashFraction seed id) (add trainFraction valFraction)
      .ok (ids.filter inTrain, ids.filter inVal, ids.filter fun id => !inTrain id && !inVal id)
  | .unknown => .error .unknownMode

/-- The videos of an episode (lines 771–796). -/
def exportVideos (episode : TrainingEpisode δ) (rows : List (MasterRow δ)) :
    Except TrainingError Videos := do
  let rawIndices := rows.map MasterRow.rawFrameIndex
  let rawFrameCount := (episode.rows.getD []).length
  let link := fun role => (linkOrCropVideo ((episode.videos role).getD 0) rawIndices
    rawFrameCount).mapError (.video role)
  let workspace ← link .workspace
  let wrist ← link .wrist
  return fun
    | .workspace => workspace
    | .wrist => wrist

/-- An exported episode. -/
structure MasterEpisode (δ : Type) where
  id : ℤ
  rows : List (MasterRow δ)
  videos : Videos

/-- The videos of an episode with rows. -/
def exportMaster (tree : ℤ → TrainingEpisode δ) (output : ℤ × List (MasterRow δ)) :
    Except TrainingError (MasterEpisode δ) := do
  let videos ← exportVideos (tree output.1) output.2
  return { id := output.1, rows := output.2, videos }

/-- The body of `materialize_training_dataset` (lines 602–843). -/
def materializeTrainingDataset (hashFraction : String → ℤ → δ) (config : TrainingConfig δ)
    (tree : ℤ → TrainingEpisode δ) : Except TrainingError (List (MasterEpisode δ)) := do
  if ¬(config.episodes.map TrainingEntry.id).Nodup then throw .duplicateIds
  let entries := config.episodes.insertionSort fun a b => a.id ≤ b.id
  if config.taskPrompt ≠ taskPrompt then throw .wrongPrompt
  let (train, _, _) ← splitIds hashFraction config.splitPolicy
    ((config.episodes.filter TrainingEntry.included).map TrainingEntry.id)
  let outputEpisodeRows ← exportEpisodes config tree 0 entries
  if outputEpisodeRows = [] then throw .noMasterRows
  let episodes ← outputEpisodeRows.mapM (exportMaster tree)
  -- `_stats` of the train rows
  if ∀ episode ∈ episodes, episode.id ∉ train then throw .zeroRows
  return episodes

end Dataset

end HandLab.Materialization
