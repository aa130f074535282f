import HandLab.Episode.Samples
import HandLab.Lib.Bisect
import Mathlib.Data.List.Sort

/-!
# Offline synchronization

`synchronize_staging_episode` of `src/episode_dataset/synchronization.py` and what it
calls, from the files of a staging episode to the timeline.

The files are typed: a field is missing or has its type. `malformed` stands for the
exceptions on a field that is needed and missing, and on a mapped timestamp that is not a
number. The residuals and the domains of the clock maps are left out.
-/

namespace HandLab.Episode.Synchronization

open HandLab.Lib Double

variable {δ : Type}

/-! ## Files -/

/-- `row["camera"][role]`. -/
structure SyncCamera (δ : Type) where
  rgbFrameNumber : Option ℤ
  rgbDeviceTimestampMs : Option δ
  hostMonotonicNs : Option ℤ

/-- A row of the episode. -/
structure SyncRow (δ : Type) where
  timestampNs : Option ℤ
  frameIndex : Option ℤ
  state : Option (List δ)
  force : List δ := []
  sourceTimestampsNs : List (String × Option ℤ) := []
  camera : CameraRole → SyncCamera δ

/-- A row of `jaka_state.jsonl`. -/
structure JakaAuditRow (δ : Type) where
  readHostMonotonicNs : Option ℤ
  measuredJointPositionRad : Option (List δ)

/-- A row of `rh56_feedback.jsonl`: the timestamps and the registers. -/
structure Rh56AuditRow (δ : Type) where
  angleActTimestampNs : Option ℤ
  angleAct : Option (List δ)
  forceActTimestampNs : Option ℤ
  forceAct : Option (List δ)

/-- The files of an episode. -/
structure SyncEpisode (δ : Type) where
  rows : List (SyncRow δ)
  jakaAudit : List (JakaAuditRow δ) := []
  rh56Audit : List (Rh56AuditRow δ) := []
  metadataFps : Option ℤ := none

/-- What is raised; `endless` is a loop that never ends. -/
inductive SyncError
  | emptyEpisode
  | tolerance
  | fps
  | malformed
  | endless
  deriving DecidableEq, Repr

/-! ## Observations -/

/-- The built-in functions on floats: `sum`, and `int`, which raises on values that are not
    numbers. -/
structure Builtins (δ : Type) where
  sum : List δ → δ
  int : δ → Option ℤ

/-- An observation of the arm or of the hand. -/
structure Observation (δ : Type) where
  timestampNs : ℤ
  values : List δ
  deriving DecidableEq

structure CameraObservation (δ : Type) where
  timestampNs : ℤ
  hostTimestampNs : ℤ
  frameIndex : ℤ
  frameNumber : ℤ
  deviceTimestampMs : δ
  deriving DecidableEq

/-- What the observations read of a clock map. -/
structure ClockMap (δ : Type) where
  slope : δ
  intercept : δ

/-- `sorted` by the timestamp. -/
def sortedBy {β : Type} (timestamp : β → ℤ) (values : List β) : List β :=
  values.insertionSort fun a b => timestamp a ≤ timestamp b

section Sources

variable [PyFloat δ] (builtins : Builtins δ)

/-- `pairs` of `_camera_clock_map`. -/
def clockPairs (rows : List (SyncRow δ)) (role : CameraRole) : List (δ × ℤ) :=
  rows.filterMap fun row =>
    match (row.camera role).rgbDeviceTimestampMs, (row.camera role).hostMonotonicNs with
    | some deviceMs, some hostNs => if isFinite deviceMs then some (deviceMs, hostNs) else none
    | _, _ => none

/-- `_camera_clock_map`; without pairs the defaults of `_camera_observations`. -/
def cameraClockMap (rows : List (SyncRow δ)) (role : CameraRole) : ClockMap δ :=
  let pairs := clockPairs rows role
  if pairs.isEmpty then ⟨ofRat 1000000, zero⟩
  else
    let meanX := div (builtins.sum (pairs.map Prod.fst)) (ofInt pairs.length)
    let meanY := ofRat ((pairs.map Prod.snd).sum / pairs.length)
    let centered := fun x => sub x meanX
    let denominator := builtins.sum (pairs.map fun (x, _) => mul (centered x) (centered x))
    let slope := if eq denominator zero then ofRat 1000000 else
      div (builtins.sum (pairs.map fun (x, y) => mul (centered x) (sub (ofInt y) meanY)))
        denominator
    ⟨slope, sub meanY (mul slope meanX)⟩

/-- The loop of `_camera_observations`, with the keys seen so far. -/
def cameraLoop (clockMap : ClockMap δ) (role : CameraRole) :
    List (ℤ × ℤ) → List (SyncRow δ) → Except SyncError (List (CameraObservation δ))
  | _, [] => .ok []
  | seen, row :: rest =>
    match row.camera role with
    | ⟨some frameNumber, some deviceMs, some hostNs⟩ =>
      if (frameNumber, hostNs) ∈ seen then cameraLoop clockMap role seen rest
      else
        match builtins.int (add (mul clockMap.slope deviceMs) clockMap.intercept),
            row.frameIndex with
        | some timestampNs, some frameIndex => do
          let others ← cameraLoop clockMap role ((frameNumber, hostNs) :: seen) rest
          return ⟨timestampNs, hostNs, frameIndex, frameNumber, deviceMs⟩ :: others
        | _, _ => .error .malformed
    | _ => cameraLoop clockMap role seen rest

/-- `_camera_observations`. -/
def cameraObservations (rows : List (SyncRow δ)) (role : CameraRole) :
    Except SyncError (List (CameraObservation δ)) := do
  let result ← cameraLoop builtins (cameraClockMap builtins rows role) role [] rows
  return sortedBy CameraObservation.timestampNs result

omit [PyFloat δ] in
/-- The audited observations of `_jaka_observations`. -/
def jakaAudited (auditRows : List (JakaAuditRow δ)) : List (Observation δ) :=
  auditRows.filterMap fun row =>
    match row.readHostMonotonicNs, row.measuredJointPositionRad with
    | some timestamp, some values => some ⟨timestamp, values⟩
    | _, _ => none

omit [PyFloat δ] in
/-- The rows of `_jaka_observations`, without audited observations. -/
def jakaRows : List (SyncRow δ) → Except SyncError (List (Observation δ))
  | [] => .ok []
  | row :: rest =>
    match row.state with
    | none => jakaRows rest
    | some state =>
      if 6 ≤ state.length then
        match (row.sourceTimestampsNs.lookup "jaka_observation").getD row.timestampNs with
        | none => .error .malformed
        | some timestamp => do
          let others ← jakaRows rest
          return ⟨timestamp, state.take 6⟩ :: others
      else jakaRows rest

omit [PyFloat δ] in
/-- `_jaka_observations`: the rows stay in the order of the file. -/
def jakaObservations (rows : List (SyncRow δ)) (auditRows : List (JakaAuditRow δ)) :
    Except SyncError (List (Observation δ)) :=
  let result := jakaAudited auditRows
  if !result.isEmpty then .ok (sortedBy Observation.timestampNs result) else jakaRows rows

omit [PyFloat δ] in
/-- An observation, if both parts are there. -/
def observation (timestamp : Option ℤ) (values : Option (List δ)) : Option (Observation δ) :=
  match timestamp, values with
  | some timestamp, some values => some ⟨timestamp, values⟩
  | _, _ => none

omit [PyFloat δ] in
/-- `_rh56_observations`: the positions and the forces. -/
def rh56Observations (rows : List (SyncRow δ)) (auditRows : List (Rh56AuditRow δ)) :
    List (Observation δ) × List (Observation δ) :=
  let position := auditRows.filterMap fun row => observation row.angleActTimestampNs row.angleAct
  let force := auditRows.filterMap fun row => observation row.forceActTimestampNs row.forceAct
  if !position.isEmpty || !force.isEmpty then
    (sortedBy Observation.timestampNs position, sortedBy Observation.timestampNs force)
  else
    let position := rows.filterMap fun row =>
      observation (row.sourceTimestampsNs.lookup "rh56_angle_act").join
        (row.state.map fun state => (state.drop 6).take 6)
    let force := rows.filterMap fun row =>
      observation (row.sourceTimestampsNs.lookup "rh56_force_act").join (some row.force)
    (sortedBy Observation.timestampNs position, sortedBy Observation.timestampNs force)

/-- The observations that are selected from. -/
structure Sources (δ : Type) where
  jaka : List (Observation δ)
  rh56Position : List (Observation δ)
  rh56Force : List (Observation δ)
  cameras : CameraRole → List (CameraObservation δ)

/-- The observations of an episode. -/
def SyncEpisode.sources (e : SyncEpisode δ) : Except SyncError (Sources δ) := do
  let jaka ← jakaObservations e.rows e.jakaAudit
  let workspace ← cameraObservations builtins e.rows .workspace
  let wrist ← cameraObservations builtins e.rows .wrist
  return {
    jaka
    rh56Position := (rh56Observations e.rows e.rh56Audit).1
    rh56Force := (rh56Observations e.rows e.rh56Audit).2
    cameras := fun
      | .workspace => workspace
      | .wrist => wrist }

end Sources

/-! ## The timeline -/

/-- `_latest`. -/
def latest {β : Type} (timestamp : β → ℤ) (values : List β) (timestampNs : ℤ) : Option β :=
  match bisectRight (values.map timestamp) timestampNs with
  | 0 => none
  | index + 1 => values[index]?

/-- The result of `_timed_value`. -/
structure TimedValue (δ : Type) where
  values : Option (List δ)
  timestampNs : Option ℤ
  ageNs : Option ℤ
  valid : Bool
  deriving DecidableEq

/-- `_timed_value`. -/
def timedValue (value : Option (Observation δ)) (timestampNs : ℤ) : TimedValue δ :=
  match value with
  | none => ⟨none, none, none, false⟩
  | some value => ⟨some value.values, some value.timestampNs,
      some (timestampNs - value.timestampNs), value.timestampNs ≤ timestampNs⟩

/-- The result of `_select_camera`. -/
structure CameraValue (δ : Type) where
  frameIndex : Option ℤ
  frameNumber : Option ℤ
  deviceTimestampMs : Option δ
  mappedHostTimestampNs : Option ℤ
  ageNs : Option ℤ
  valid : Bool
  deriving DecidableEq

/-- `_select_camera`. -/
def selectCamera (values : List (CameraObservation δ)) (timestampNs toleranceNs : ℤ) :
    CameraValue δ :=
  match latest CameraObservation.timestampNs values timestampNs with
  | none => ⟨none, none, none, none, none, false⟩
  | some selected =>
    let ageNs := timestampNs - selected.timestampNs
    if 0 ≤ ageNs ∧ ageNs ≤ toleranceNs then
      ⟨some selected.frameIndex, some selected.frameNumber, some selected.deviceTimestampMs,
        some selected.timestampNs, some ageNs, true⟩
    else ⟨none, none, none, none, some ageNs, false⟩

structure TimelineEntry (δ : Type) where
  timestampNs : ℤ
  jaka : TimedValue δ
  rh56Position : TimedValue δ
  rh56Force : TimedValue δ
  camera : CameraRole → CameraValue δ
  validity : List (String × Bool)

/-- The entry at a grid timestamp. -/
def entryAt (sources : Sources δ) (toleranceNs timestampNs : ℤ) : TimelineEntry δ :=
  let jakaValue := latest Observation.timestampNs sources.jaka timestampNs
  let positionValue := latest Observation.timestampNs sources.rh56Position timestampNs
  let forceValue := latest Observation.timestampNs sources.rh56Force timestampNs
  let camera := fun role => selectCamera (sources.cameras role) timestampNs toleranceNs
  { timestampNs
    jaka := timedValue jakaValue timestampNs
    rh56Position := timedValue positionValue timestampNs
    rh56Force := timedValue forceValue timestampNs
    camera
    validity := [("jaka", jakaValue.isSome), ("rh56_position", positionValue.isSome),
      ("rh56_force", forceValue.isSome), ("camera.workspace", (camera .workspace).valid),
      ("camera.wrist", (camera .wrist).valid)] }

/-- The loop from `start_ns` to `end_ns`. -/
def timelineLoop (sources : Sources δ) (toleranceNs periodNs endNs : ℤ) :
    ℕ → ℤ → List (TimelineEntry δ)
  | 0, _ => []
  | fuel + 1, timestampNs =>
    if timestampNs ≤ endNs then
      entryAt sources toleranceNs timestampNs ::
        timelineLoop sources toleranceNs periodNs endNs fuel (timestampNs + periodNs)
    else []

/-- `_validity_counts`. -/
def validityCounts (timeline : List (TimelineEntry δ)) : List (String × ℕ) :=
  (timeline.flatMap TimelineEntry.validity).foldl (fun counts (name, valid) =>
    dictSet name ((counts.lookup name).getD 0 + if valid then 1 else 0) counts) []

structure SyncReport (δ : Type) where
  fps : ℤ
  cameraToleranceMs : δ
  timeline : List (TimelineEntry δ)
  validityCounts : List (String × ℕ)

section Report

variable [PyFloat δ]

/-- `int(fps or _metadata_fps(…) or 30)`. -/
def datasetFps (fps metadataFps : Option ℤ) : ℤ :=
  let given := fps.getD 0
  if given ≠ 0 then given
  else if metadataFps.getD 0 ≠ 0 then metadataFps.getD 0
  else 30

/-- `round(1_000_000_000 / dataset_fps)`. -/
def periodNs (fps : ℤ) : ℤ := PyFloat.roundHalfEven (1000000000 / fps : ℚ)

/-- `synchronize_staging_episode`. -/
def synchronizeStagingEpisode (builtins : Builtins δ) (e : SyncEpisode δ) (cameraToleranceMs : δ)
    (fps : Option ℤ) : Except SyncError (SyncReport δ) := do
  match e.rows.head?, e.rows.getLast? with
  | some first, some last =>
    if !isFinite cameraToleranceMs || lt cameraToleranceMs zero then throw .tolerance
    let fps := datasetFps fps e.metadataFps
    if fps ≤ 0 then throw .fps
    let sources ← e.sources builtins
    match first.timestampNs, last.timestampNs with
    | some startNs, some endNs =>
      let period := periodNs fps
      let toleranceNs := PyFloat.round (mul cameraToleranceMs (ofRat 1000000))
      if period = 0 ∧ startNs ≤ endNs then throw .endless
      -- every turn takes at least a nanosecond
      let timeline := timelineLoop sources toleranceNs period endNs
        ((endNs - startNs).toNat + 1) startNs
      return ⟨fps, cameraToleranceMs, timeline, validityCounts timeline⟩
    | _, _ => throw .malformed
  | _, _ => throw .emptyEpisode

end Report

end HandLab.Episode.Synchronization
