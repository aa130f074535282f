import HandLab.Lib.Double
import Mathlib.Data.List.Sort
import Mathlib.Data.String.Basic

/-!
# Materialization of the physical bottle demonstrations

`materialize_physical_bottle` of
`src/episode_dataset/physical_bottle_materialization.py` and what it calls, from
the manifest and the source tree to the rows, the splits and the statistics.

The manifest and the rows are typed: a value that Python's `int` or `str` would
reject raises before anything is written. Columns that are only copied through,
what the reports say and the videos are left out. The statistics of `numpy` along an
axis are parameters.
-/

namespace HandLab.Materialization

open HandLab.Lib Double

variable {δ : Type}

/-! ## The source tree -/

/-- `camera[role]` of a row. -/
structure RowCamera where
  valid : Bool
  rgbFrameNumber : Option ℤ
  deriving DecidableEq, Repr

/-- `timing` of a row. -/
structure RowTiming where
  canonicalHostMonotonicNs : Option ℤ
  synchronizationValid : Bool
  rh56ForceActValid : Bool
  sourceTimestampsNs : List (String × Option ℤ)
  sourceTimestampDomains : List (String × String)
  sourceValidity : List (String × Bool)
  deriving DecidableEq, Repr

/-- A row of a source episode; a missing vector is empty, a missing timestamp zero. -/
structure SourceRow (δ : Type) where
  timestampNs : ℤ
  frameIndex : Option ℤ
  state : List δ
  action : List δ
  force : List δ
  timing : RowTiming
  workspace : RowCamera
  wrist : RowCamera
  deriving DecidableEq

/-- A source episode: its files, as far as they are there. -/
structure SourceEpisode (δ : Type) where
  /-- `trigger_release_timestamp_ns` of the metadata -/
  metadata : Option (Option ℤ)
  rows : Option (List (SourceRow δ))
  workspaceReadable : Bool
  wristReadable : Bool

/-- The source tree: the discovered episodes, in order. -/
abbrev SourceTree (δ : Type) := List (ℤ × SourceEpisode δ)

/-! ## The manifest -/

structure LogicalSegment where
  id : String
  sourceEpisode : ℤ
  included : Bool
  startFrame : ℤ := 0
  endFrame : Option ℤ := none
  startTimestampNs : Option ℤ := none
  endTimestampNs : Option ℤ := none
  deriving DecidableEq, Repr

structure SplitGroup where
  id : String
  segments : List String
  deriving DecidableEq, Repr

/-- The manifest. -/
structure BottleConfig where
  sourceEpisodeIds : Option (List ℤ) := none
  minimumEpisodeId : ℤ := 0
  sourceReviews : List ℤ
  segments : List LogicalSegment
  splits : List (String × List String)
  splitGroups : Option (List SplitGroup) := none
  deriving DecidableEq, Repr

/-- What is raised. -/
inductive MaterializationError
  | sourceIdsNotUnique
  | sourceIdsMissing (ids : List ℤ)
  | duplicateReview
  | reviewsMissing (ids : List ℤ)
  | reviewsOutside (ids : List ℤ)
  | segmentIds
  | undiscoveredSource (id : String)
  | noPayload (id : String)
  | rootsOverlap
  | differentFingerprint
  | outputNotEmpty
  | rootOccupied
  | nothingIncluded
  | missingSourceFiles (id : String)
  | cropReview (id : String) (reason : String)
  | noValidRows (id : String)
  | unknownInSplit (split : String) (segments : List String)
  | notExactlyOnce
  | groupWithoutId
  | groupEmpty (id : String)
  | groupUnknown (id : String) (segments : List String)
  | groupRepeats (id : String) (segments : List String)
  | groupLeaks (id : String) (splits : List String)
  | groupsDoNotCover (segments : List String)
  | zeroRows
  deriving DecidableEq, Repr

namespace BottleConfig

variable (config : BottleConfig)

/-- `_configured_source_ids`. -/
def configuredSourceIds (discovered : List ℤ) : Except MaterializationError (List ℤ) :=
  match config.sourceEpisodeIds with
  | none => .ok (discovered.filter (config.minimumEpisodeId ≤ ·))
  | some ids =>
    if ¬ids.Nodup then .error .sourceIdsNotUnique
    else
      let missing := ids.filter (· ∉ discovered)
      if missing ≠ [] then .error (.sourceIdsMissing missing) else .ok ids

/-- The episodes whose rows and videos can be read (`_audit_record`). -/
def payloadIds (tree : SourceTree δ) : List ℤ :=
  (tree.filter fun (_, episode) => (episode.rows.getD []).length ≠ 0 ∧
    episode.workspaceReadable = true ∧ episode.wristReadable = true).map Prod.fst

/-- The checks of the segments (lines 455–459). -/
def auditSegments (ids : List ℤ) (tree : SourceTree δ) :
    List LogicalSegment → Except MaterializationError Unit
  | [] => .ok ()
  | segment :: rest =>
    if segment.sourceEpisode ∉ ids then .error (.undiscoveredSource segment.id)
    else if segment.included ∧ segment.sourceEpisode ∉ payloadIds tree then
      .error (.noPayload segment.id)
    else auditSegments ids tree rest

/-- The checks of `audit_physical_bottle` (lines 441–459). -/
def audit (tree : SourceTree δ) : Except MaterializationError Unit :=
  match config.configuredSourceIds (tree.map Prod.fst) with
  | .error e => .error e
  | .ok ids =>
    let missing := ids.filter (· ∉ config.sourceReviews)
    let extra := config.sourceReviews.filter (· ∉ ids)
    let segmentIds := config.segments.map LogicalSegment.id
    if ¬config.sourceReviews.Nodup then .error .duplicateReview
    else if missing ≠ [] then .error (.reviewsMissing missing)
    else if config.sourceEpisodeIds.isSome ∧ extra ≠ [] then .error (.reviewsOutside extra)
    else if ¬segmentIds.Nodup ∨ "None" ∈ segmentIds then .error .segmentIds
    else auditSegments ids tree config.segments

/-- `included_segments`. -/
def included : List LogicalSegment := config.segments.filter LogicalSegment.included

end BottleConfig

/-! ## Rows -/

section Rows

variable [Double δ]

/-- `_finite_vector`. -/
def finiteVector (value : List δ) (width : ℕ) : Bool :=
  value.length = width && value.all isFinite

/-- The reason, if the check fails. -/
def reasonIf (fails : Bool) (reason : String) : List String := if fails then [reason] else []

namespace SourceRow

variable (row : SourceRow δ)

/-- `source_validity.get(name) is True`. -/
def sourceValid (name : String) : Bool := row.timing.sourceValidity.lookup name == some true

/-- `force_valid` of `_rich_row`. -/
def forceValid : Bool := row.timing.rh56ForceActValid && row.sourceValid "rh56_force_act"

/-- `_quality_reasons`. -/
def qualityReasons : List String :=
  let timestamps := row.timing.sourceTimestampsNs.flatMap fun (name, value) =>
    match value with
    | none => []
    | some value => reasonIf (row.timestampNs < value) s!"future_source:{name}" ++
      reasonIf (row.timing.sourceTimestampDomains.lookup name ≠ some "host_monotonic_ns")
        s!"source_domain_invalid:{name}"
  let cameras := [("workspace", row.workspace), ("wrist", row.wrist)].flatMap
    fun (role, camera) => reasonIf (!camera.valid) s!"invalid_camera:{role}" ++
      reasonIf camera.rgbFrameNumber.isNone s!"invalid_camera_frame:{role}"
  let reasons :=
    reasonIf (row.timestampNs ≤ 0) "missing_canonical_timestamp" ++
    reasonIf (row.timing.canonicalHostMonotonicNs ≠ some row.timestampNs)
      "canonical_timestamp_mismatch" ++
    reasonIf (!finiteVector row.state 12) "state_shape_or_finite" ++
    reasonIf (!finiteVector row.action 12) "action_shape_or_finite" ++
    reasonIf (!finiteVector row.force 6) "force_shape_or_finite" ++
    reasonIf (!row.timing.synchronizationValid) "synchronization_invalid" ++ timestamps ++
    (["jaka_observation", "rh56_angle_act", "workspace", "wrist"].flatMap fun name =>
      reasonIf (!row.sourceValid name) s!"invalid_source:{name}") ++ cameras
  reasons.dedup.insertionSort (· ≤ ·)

end SourceRow

/-- The last row of an open range (lines 557–558); `-1` if there is none. -/
def releaseFrame (rows : List (SourceRow δ)) (releaseNs : ℤ) : ℤ :=
  match (rows.zipIdx.filter fun (row, _) => row.timestampNs ≤ releaseNs).getLast? with
  | some (_, index) => index
  | none => -1

/-- `_crop_segment`: the selected rows, or the reason of a crop review. -/
def cropSegment (rows : List (SourceRow δ)) (releaseNs : Option ℤ) (segment : LogicalSegment) :
    Except String (List (SourceRow δ)) :=
  let startFrame := segment.startFrame
  if startFrame < 0 ∨ (rows.length : ℤ) ≤ startFrame then .error "start_frame_out_of_range"
  else
    let endFrame? : Option ℤ := match segment.endFrame with
      | some endFrame => some endFrame
      | none => releaseNs.map (releaseFrame rows)
    match endFrame? with
    | none => .error "missing_authoritative_release_timestamp"
    | some endFrame =>
      if endFrame < startFrame ∨ (rows.length : ℤ) ≤ endFrame then
        .error "end_frame_out_of_range"
      else
        let selected := (rows.drop startFrame.toNat).take (endFrame - startFrame + 1).toNat
        let startNs := selected.head?.map SourceRow.timestampNs
        let endNs := selected.getLast?.map SourceRow.timestampNs
        if segment.startTimestampNs.isSome ∧ segment.startTimestampNs ≠ startNs then
          .error "start_timestamp_boundary_mismatch"
        else if segment.endTimestampNs.isSome ∧ segment.endTimestampNs ≠ endNs then
          .error "end_timestamp_boundary_mismatch"
        else .ok selected

/-- An exported row. -/
structure RichRow (δ : Type) where
  index : ℕ
  episodeIndex : ℕ
  frameIndex : ℕ
  sourceEpisodeIndex : ℤ
  sourceFrameIndex : ℤ
  logicalSegmentId : String
  timestampNs : ℤ
  state : List δ
  action : List δ
  force : List δ
  forceValid : Bool
  deriving DecidableEq

/-- `_rich_row`. -/
def richRow (row : SourceRow δ) (localIndex : ℕ) (segment : LogicalSegment) : RichRow δ where
  index := 0
  episodeIndex := 0
  frameIndex := localIndex
  sourceEpisodeIndex := segment.sourceEpisode
  sourceFrameIndex := row.frameIndex.getD localIndex
  logicalSegmentId := segment.id
  timestampNs := row.timestampNs
  state := row.state
  action := row.action
  force := row.force
  forceValid := row.forceValid

/-- The loop over the selected rows (lines 839–859), from the previous timestamp and
    the number of the rows exported so far. -/
def exportRows (segment : LogicalSegment) :
    Option ℤ → ℕ → List (SourceRow δ) → List (RichRow δ)
  | _, _, [] => []
  | previous, count, row :: rest =>
    if row.qualityReasons = [] ∧ ∀ last ∈ previous, last < row.timestampNs then
      richRow row count segment :: exportRows segment (some row.timestampNs) (count + 1) rest
    else exportRows segment (some row.timestampNs) count rest

/-- The rows of a segment (lines 826–861). -/
def exportSegment (tree : SourceTree δ) (segment : LogicalSegment) :
    Except MaterializationError (List (RichRow δ)) :=
  match tree.lookup segment.sourceEpisode with
  | some { metadata := some releaseNs, rows := some rows, .. } =>
    match cropSegment rows releaseNs segment with
    | .error reason => .error (.cropReview segment.id reason)
    | .ok selected =>
      let output := exportRows segment none 0 selected
      if output = [] then .error (.noValidRows segment.id) else .ok output
  | _ => .error (.missingSourceFiles segment.id)

/-- The loop over the included segments, from the logical index and the rows so far. -/
def exportSegments (tree : SourceTree δ) :
    ℕ → ℕ → List LogicalSegment → Except MaterializationError (List (List (RichRow δ)))
  | _, _, [] => .ok []
  | logicalIndex, offset, segment :: rest => do
    let output ← exportSegment tree segment
    let numbered := output.zipIdx.map fun (row, i) =>
      { row with index := offset + i, episodeIndex := logicalIndex }
    let others ← exportSegments tree (logicalIndex + 1) (offset + output.length) rest
    return numbered :: others

end Rows

/-! ## Splits -/

/-- The names of the splits. -/
inductive Split
  | train | val | test
  deriving DecidableEq, Repr

/-- The key of a split. -/
def Split.name : Split → String
  | .train => "train"
  | .val => "val"
  | .test => "test"

namespace BottleConfig

variable (config : BottleConfig)

/-- `splits_config.get(name, [])`. -/
def splitIds (split : Split) : List String := (config.splits.lookup split.name).getD []

/-- `segment_to_index`. -/
def segmentIndex (id : String) : Option ℕ := (config.included.map LogicalSegment.id).idxOf? id

/-- The sorted indices of a split (lines 896–900). -/
def splitIndices (split : Split) : Except MaterializationError (List ℕ) :=
  let unknown := (config.splitIds split).filter fun id => (config.segmentIndex id).isNone
  if unknown ≠ [] then .error (.unknownInSplit split.name unknown)
  else .ok (((config.splitIds split).filterMap config.segmentIndex).insertionSort (· ≤ ·))

/-- `split_names_by_segment`: the last split that lists the segment. -/
def splitNameBySegment (id : String) : Option String :=
  ((config.splits.flatMap fun (name, ids) => ids.map (·, name)).reverse).lookup id

/-- The loop of `_validate_split_groups`, with the segments assigned so far. -/
def validateGroups : List String → List SplitGroup → Except MaterializationError (List String)
  | assigned, [] => .ok assigned
  | assigned, group :: rest =>
    let unknown := group.segments.filter fun id => (config.segmentIndex id).isNone
    let overlap := group.segments.filter (· ∈ assigned)
    let splitNames := (group.segments.filterMap config.splitNameBySegment).dedup
    if group.id = "" then .error .groupWithoutId
    else if group.segments = [] then .error (.groupEmpty group.id)
    else if unknown ≠ [] then .error (.groupUnknown group.id unknown)
    else if overlap ≠ [] then .error (.groupRepeats group.id overlap)
    else if splitNames.length ≠ 1 then .error (.groupLeaks group.id splitNames)
    else validateGroups (assigned ++ group.segments) rest

/-- `_validate_split_groups`. -/
def validateSplitGroups : Except MaterializationError Unit :=
  match config.splitGroups with
  | none => .ok ()
  | some groups => do
    let assigned ← config.validateGroups [] groups
    let missing := (config.included.map LogicalSegment.id).filter (· ∉ assigned)
    if missing ≠ [] then throw (.groupsDoNotCover missing)

/-- The splits (lines 893–913). -/
def assignSplits : Except MaterializationError (Split → List ℕ) := do
  let train ← config.splitIndices .train
  let val ← config.splitIndices .val
  let test ← config.splitIndices .test
  if (train ++ val ++ test).insertionSort (· ≤ ·) ≠ List.range config.included.length then
    throw .notExactlyOnce
  config.validateSplitGroups
  return fun
    | .train => train
    | .val => val
    | .test => test

end BottleConfig

/-! ## Statistics and output -/

/-- The statistics of an array along its first axis. -/
structure AxisStatistics (δ : Type) where
  mean : List (List δ) → List δ
  std : List (List δ) → List δ
  minimum : List (List δ) → List δ
  maximum : List (List δ) → List δ

/-- The statistics of a feature. -/
structure FeatureStats (δ : Type) where
  sampleCount : ℕ
  mean : List δ
  std : List δ
  minimum : List δ
  maximum : List δ
  zeroStdIndices : List ℕ
  safeStd : List δ
  deriving DecidableEq

/-- `_stats`. -/
def AxisStatistics.stats [Double δ] (statistics : AxisStatistics δ) (values : List (List δ)) :
    Except MaterializationError (FeatureStats δ) :=
  if values = [] then .error .zeroRows
  else
    let std := statistics.std values
    let isZero := fun value => lt value (ofRat 1e-12)
    .ok {
      sampleCount := values.length
      mean := statistics.mean values
      std
      minimum := statistics.minimum values
      maximum := statistics.maximum values
      zeroStdIndices := (std.zipIdx.filter fun (value, _) => isZero value).map Prod.snd
      safeStd := std.map fun value => if isZero value then ofRat 1 else value }

/-- The statistics of an output; those of the force only if a train row has it. -/
structure Normalization (δ : Type) where
  state : FeatureStats δ
  action : FeatureStats δ
  force : Option (FeatureStats δ)
  deriving DecidableEq

/-- A materialized output. -/
structure Output (δ : Type) where
  rowsBySegment : List (List (RichRow δ))
  splits : Split → List ℕ
  stats : Normalization δ

/-- The rows of a split. -/
def Output.rowsOf (o : Output δ) (split : Split) : List (RichRow δ) :=
  (o.splits split).flatMap fun index => o.rowsBySegment.getD index []

variable [Double δ]

/-- The statistics of the train rows (lines 914–920). -/
def normalization (statistics : AxisStatistics δ) (trainRows : List (RichRow δ)) :
    Except MaterializationError (Normalization δ) := do
  let forceTrainRows := trainRows.filter RichRow.forceValid
  let state ← statistics.stats (trainRows.map RichRow.state)
  let action ← statistics.stats (trainRows.map RichRow.action)
  if forceTrainRows = [] then return ⟨state, action, none⟩
  let force ← statistics.stats (forceTrainRows.map RichRow.force)
  return ⟨state, action, some force⟩

/-- The body of `materialize_physical_bottle` (lines 817–971). -/
def materialize (statistics : AxisStatistics δ) (config : BottleConfig) (tree : SourceTree δ) :
    Except MaterializationError (Output δ) := do
  if config.included = [] then throw .nothingIncluded
  let rowsBySegment ← exportSegments tree 0 0 config.included
  let splits ← config.assignSplits
  let trainRows := (splits .train).flatMap fun index => rowsBySegment.getD index []
  let stats ← normalization statistics trainRows
  return ⟨rowsBySegment, splits, stats⟩

/-! ## Calls -/

inductive OutputRoot (φ δ : Type)
  | empty
  /-- files without a marker -/
  | foreign
  /-- a marker that names no fingerprint -/
  | marked
  | materialized (fingerprint : φ) (output : Output δ)

/-- Where a report is written: not in the output root, in it, or at its marker. A report over
    another file of an output is not modelled. -/
inductive ReportPlace
  | outside | inside | marker
  deriving DecidableEq, Repr

/-- A call of `materialize_physical_bottle`, with what it makes of the paths of the manifest. -/
structure MaterializeCall (δ : Type) where
  config : BottleConfig
  tree : SourceTree δ
  replace : Bool := false
  /-- neither of the output root and the source root is in the other -/
  disjoint : Bool := true
  auditReport : ReportPlace := .outside
  materializationReport : ReportPlace := .outside

variable {φ : Type} [DecidableEq φ]

/-- A report is written. -/
def OutputRoot.write (place : ReportPlace) (root : OutputRoot φ δ) : OutputRoot φ δ :=
  match place, root with
  | .outside, root => root
  | .inside, .empty => .foreign
  | .inside, root => root
  | .marker, _ => .marked

/-- The call writes a new output to an empty root (lines 814–971). The report goes first, and
    `os.replace` does not replace a directory that is not empty. -/
def MaterializeCall.build (statistics : AxisStatistics δ) (fingerprint : MaterializeCall δ → φ)
    (c : MaterializeCall δ) : Except MaterializationError (Output δ × Bool) × OutputRoot φ δ :=
  match materialize statistics c.config c.tree, c.materializationReport with
  | .ok output, .outside => (.ok (output, false), .materialized (fingerprint c) output)
  | .ok _, place => (.error .rootOccupied, OutputRoot.empty.write place)
  | .error e, _ => (.error e, .empty)

/-- `materialize_physical_bottle`: the output and whether it was reused, with the root after
    the call. `fingerprint` is the hash of the manifest and of the source files. The audit writes
    its report before anything is checked about the output root. -/
def OutputRoot.call (statistics : AxisStatistics δ) (fingerprint : MaterializeCall δ → φ)
    (root : OutputRoot φ δ) (c : MaterializeCall δ) :
    Except MaterializationError (Output δ × Bool) × OutputRoot φ δ :=
  match c.config.audit c.tree with
  | .error e => (.error e, root)
  | .ok () =>
    let audited := root.write c.auditReport
    if c.disjoint = false then (.error .rootsOverlap, audited)
    else match audited, c.replace with
      | .empty, _ | .foreign, true | .marked, true | .materialized _ _, true =>
        c.build statistics fingerprint
      | .foreign, false => (.error .outputNotEmpty, audited)
      | .marked, false => (.error .differentFingerprint, audited)
      | .materialized existing output, false =>
        if existing = fingerprint c then (.ok (output, true), audited)
        else (.error .differentFingerprint, audited)

end HandLab.Materialization
