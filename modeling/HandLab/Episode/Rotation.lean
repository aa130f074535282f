import HandLab.Episode.CollectorLifecycle

/-!
# Rotating episodes

`ProcessEpisodeCollectorProxy` and the loop of `_recorder_process_main_impl`
(`src/episode_dataset/process_runtime.py`), the camera forwarder of `EpisodeDataRuntime`
(`src/episode_dataset/runtime.py`) and the episode part of the producer loop
(`tools/quest_jaka_hardware.py`, lines 1263–1274, 1438–1491 and 1553–1716), with a staging
dataset. One step is a part of a producer tick, an iteration of the forwarder, one of the
recorder loop, or a status that `poll` takes, in any order.

What a queue access finds is left to the step, since a queue may look empty at any time. The
runs are those in which the forwarder is not stopped, no camera fails, and neither `finish`,
`abort`, `shutdown`, `discard_current` nor `finalize_pending` is called on the proxy; the
payloads that only `diagnostics` reads are left out.

* `rotation_restarts`: when the forwarder runs as long as the collector of the recorder.
-/

namespace HandLab.Episode

open HandLab.Lib

variable {ω δ ι : Type} [Double δ]

/-! ## Messages -/

structure RecorderWriter (ω δ ι : Type) [Double δ] extends EpisodeWriter ω δ ι where
  sampleCount : ω → ℕ
  temporaryId : ω → String

/-- The control commands of `ingest_control` and `rotate_episode`. -/
inductive RecorderCommand (δ : Type) [Double δ]
  | control (sample : ControlSample δ) (referenceEstablished : Bool)
      (rawRecords : List (String × Record δ)) (captureActive : Option Bool)
  | flushCamera
  | rotate (reason : String) (releaseNs : Option ℤ)

/-- The command is `rotate`. -/
def RecorderCommand.isRotate : RecorderCommand δ → Bool
  | .rotate _ _ => true
  | .control _ _ _ _ | .flushCamera => false

/-- What `report` sends. -/
structure RecorderStatus where
  state : CaptureState
  completionStatus : Option EpisodeStatus
  terminationReason : Option String
  sampleCount : ℕ
  temporaryId : String
  episodeIndex : ℕ
  /-- the number of `rotate` commands that were executed before -/
  rotations : ℕ
  deriving DecidableEq

/-! ## The control side -/

/-- `ProcessEpisodeCollectorProxy`, as far as the producer reads it. -/
structure CollectorProxy where
  state : CaptureState := .idle
  completionStatus : Option EpisodeStatus := none
  terminationReason : Option String := none
  sampleCount : ℕ := 0
  temporaryId : String
  deriving DecidableEq

namespace CollectorProxy

variable (p : CollectorProxy)

/-- `_apply_status`. -/
def applyStatus (message : RecorderStatus) : CollectorProxy where
  state := message.state
  completionStatus := message.completionStatus <|> p.completionStatus
  terminationReason := message.terminationReason <|> p.terminationReason
  sampleCount := message.sampleCount
  temporaryId := message.temporaryId

/-- `_mark_failed`. -/
def markFailed : CollectorProxy :=
  { p with
    state := .done
    completionStatus := some .aborted
    terminationReason := some "recording_process_failure" }

end CollectorProxy

/-- `ProcessEpisodeRecorder` with its proxy and its command queues. -/
structure RecorderHandle (δ ι : Type) [Double δ] where
  capacity : ℕ
  error : Bool := false
  controlCommands : List (RecorderCommand δ) := []
  cameraCommands : CameraRole → List (CameraRecord δ ι) := fun _ => []
  cameraPending : ℤ := 0
  latestStatus : Option RecorderStatus := none
  proxy : CollectorProxy

namespace RecorderHandle

variable (h : RecorderHandle δ ι)

/-- `_sync`, as every read of `state` does it. -/
def sync : RecorderHandle δ ι :=
  let proxy := match h.latestStatus with
    | none => h.proxy
    | some latest => h.proxy.applyStatus latest
  { h with proxy := if h.error ∧ proxy.state ≠ .done then proxy.markFailed else proxy }

/-- The handle after a call that raised `OSError`. -/
def markFailed : RecorderHandle δ ι := { h with proxy := h.proxy.markFailed }

/-- `send`, with the handler of the proxy. -/
def send (command : RecorderCommand δ) : RecorderHandle δ ι :=
  if h.error then h.markFailed
  else if h.controlCommands.length < h.capacity then
    { h with controlCommands := h.controlCommands ++ [command] }
  else { h with error := true }.markFailed

/-- `send_camera`, which drops the oldest descriptor of a full queue. -/
def sendCamera (frame : CameraRecord δ ι) : RecorderHandle δ ι :=
  let role := frame.header.role
  if h.error then h.markFailed
  else if (h.cameraCommands role).length < h.capacity then
    { h with
      cameraCommands := Function.update h.cameraCommands role (h.cameraCommands role ++ [frame])
      cameraPending := h.cameraPending + 1 }
  else match h.cameraCommands role with
    | [] => h
    | _ :: rest =>
      { h with cameraCommands := Function.update h.cameraCommands role (rest ++ [frame]) }

/-- `ingest_camera`. -/
def ingestCamera (frame : CameraRecord δ ι) : RecorderHandle δ ι :=
  if h.sync.proxy.state = .done then h.sync else h.sync.sendCamera frame

/-- `ingest_control`. -/
def ingestControl (sample : ControlSample δ) (referenceEstablished : Bool)
    (rawRecords : List (String × Record δ)) (captureActive : Option Bool) : RecorderHandle δ ι :=
  if h.sync.proxy.state = .done then h.sync
  else h.sync.send (.control sample referenceEstablished rawRecords captureActive)

/-- `rotate_episode`. -/
def rotateEpisode (reason : String) (releaseNs : Option ℤ) : RecorderHandle δ ι :=
  if h.error then h
  else if (h.send .flushCamera).error then h.send .flushCamera
  else (h.send .flushCamera).send (.rotate reason releaseNs)

end RecorderHandle

/-! ## The producer -/

/-- Where the producer is in its tick. -/
inductive TickStage
  | check | boundary | record
  deriving DecidableEq, Repr

/-- The local variables of the producer. -/
structure EpisodeProducer where
  stage : TickStage := .check
  captureFailed : Bool := false
  captureActive : Bool := true
  idleStartedNs : Option ℤ := none
  rotationInFlight : Bool := false
  deriving DecidableEq

/-- What a tick reads elsewhere. -/
structure TickInput (δ : Type) [Double δ] where
  nowNs : ℤ
  bothClutchesReleased : Bool
  /-- `status is not None` -/
  statusKnown : Bool
  sample : ControlSample δ

/-- `episode_boundary_release_ns`. -/
def episodeBoundaryReleaseNs : ℤ := 5000000000

namespace EpisodeProducer

variable (p : EpisodeProducer) (h : RecorderHandle δ ι)

/-- Lines 1263–1274. -/
def check : EpisodeProducer × RecorderHandle δ ι :=
  if p.captureFailed then (p, h)
  else if h.sync.proxy.state = .done ∧ h.sync.proxy.completionStatus ≠ some .completed then
    ({ p with captureFailed := true }, h.sync)
  else (p, h.sync)

/-- The boundary of an episode (lines 1444–1476). -/
def release (nowNs : ℤ) (bothClutchesReleased : Bool) : EpisodeProducer × RecorderHandle δ ι :=
  if bothClutchesReleased ∧ 0 < h.proxy.sampleCount then
    match p.idleStartedNs with
    | none => ({ p with idleStartedNs := some nowNs, captureActive := false }, h)
    | some startedNs =>
      if p.rotationInFlight = false ∧ episodeBoundaryReleaseNs ≤ nowNs - startedNs then
        ({ p with rotationInFlight := true, idleStartedNs := none, captureActive := false },
          h.rotateEpisode "both_clutches_released_5s" (some startedNs))
      else (p, h)
  else if bothClutchesReleased then
    if h.sync.proxy.state = .arming then ({ p with captureActive := false }, h.sync)
    else (p, h.sync)
  else ({ p with
      idleStartedNs := none
      captureActive := if p.rotationInFlight then p.captureActive else true }, h)

/-- The end of a rotation (lines 1477–1490). -/
def settle (bothClutchesReleased : Bool) : EpisodeProducer :=
  if p.rotationInFlight ∧ h.proxy.sampleCount = 0 ∧
      "episode_".toList.isPrefixOf h.proxy.temporaryId.toList = true ∧
      bothClutchesReleased = false then
    { p with rotationInFlight := false, captureActive := true }
  else p

/-- Lines 1438–1490. -/
def boundary (i : TickInput δ) : EpisodeProducer × RecorderHandle δ ι :=
  if p.captureFailed then (p, h)
  else
    let (p, h) := p.release h i.nowNs i.bothClutchesReleased
    (p.settle h i.bothClutchesReleased, h)

/-- Lines 1553–1702. -/
def record (i : TickInput δ) : RecorderHandle δ ι :=
  if i.statusKnown = false ∨ p.captureFailed = true then h
  else if h.sync.proxy.state ≠ .done ∧ (p.captureActive = true ∨
      h.sync.proxy.state = .recording ∧ p.rotationInFlight = false) then
    h.sync.ingestControl i.sample true []
      (some (if h.sync.proxy.state = .recording then true else p.captureActive))
  else h.sync

/-- The next part of a tick. -/
def tick (i : TickInput δ) : EpisodeProducer × RecorderHandle δ ι :=
  match p.stage with
  | .check => ({ (p.check h).1 with stage := .boundary }, (p.check h).2)
  | .boundary => ({ (p.boundary h i).1 with stage := .record }, (p.boundary h i).2)
  | .record => ({ p with stage := .check }, p.record h i)

end EpisodeProducer

/-! ## The recorder -/

/-- The handle, the queue of the statuses, the forwarder, the producer, and the recorder. -/
structure RecordingRuntime (ω δ ι : Type) [Double δ] where
  handle : RecorderHandle δ ι
  producer : EpisodeProducer := {}
  /-- the loop of the camera forwarder has returned -/
  forwarderReturned : Bool := false
  status : List RecorderStatus := []
  collector : Collector ω δ ι
  episodeIndex : ℕ
  deferredControl : Option (RecorderCommand δ) := none
  /-- the number of `rotate` commands that were executed -/
  rotations : ℕ := 0

/-- Which queue `next_command` finds a command in. -/
inductive QueueRead
  | idle
  /-- a descriptor, with what `to_reference` raises -/
  | camera (role : CameraRole) (unreadable : Option PyException)
  | control
  deriving DecidableEq

/-- What an iteration of the recorder loop meets. -/
structure LoopInput (ω : Type) where
  read : QueueRead
  /-- what `flush_camera` finds -/
  flushed : List (CameraRole × Option PyException) := []
  retries : ℕ → ℕ := fun _ => 0
  /-- the writer that `create_episode` opens, unless it raises -/
  opened : Option ω := none

section Recorder

variable (w : RecorderWriter ω δ ι) (config : CollectorConfig δ)

/-- The collector takes a descriptor. -/
def ingestReference (unreadable : Option PyException) (frame : CameraRecord δ ι) :
    CollectM ω δ ι PUnit :=
  match unreadable with
  | some exc => throw exc
  | none => ingestCamera w.toEpisodeWriter config frame

/-- The end of the episode in `rotate` (lines 1509–1515). -/
def closeEpisode (retries : ℕ → ℕ) (reason : String) (releaseNs : Option ℤ) :
    CollectM ω δ ι PUnit := do
  let s ← get
  if s.state = .recording then do
    finish w.toEpisodeWriter config retries reason releaseNs
    finalizePending w.toEpisodeWriter retries
  else if s.state = .idle then do
    let _ ← ask w.toEpisodeWriter .close
    pure ()
  else finalizePending w.toEpisodeWriter retries

/-- The handler of `camera` and `control` (lines 1523–1526). -/
def recovered (result : EStateM.Result PyException (Collector ω δ ι) PUnit) : Collector ω δ ι :=
  match result with
  | .ok _ collector => collector
  | .error exc collector =>
    collector.after w.toEpisodeWriter config
      (.abort "recording_writer_failure" false (some exc.text))

namespace RecordingRuntime

variable (s : RecordingRuntime ω δ ι)

/-- `_queue_put_latest` of the status, of which the queue holds 32. -/
def report : RecordingRuntime ω δ ι :=
  { s with
    status := pushBounded 32 s.status {
      state := s.collector.state
      completionStatus := s.collector.completionStatus
      terminationReason := s.collector.terminationReason
      sampleCount := w.sampleCount s.collector.writer
      temporaryId := w.temporaryId s.collector.writer
      episodeIndex := s.episodeIndex
      rotations := s.rotations } }

/-- The oldest descriptor of a queue is taken out. -/
def takeCamera (role : CameraRole) (rest : List (CameraRecord δ ι)) : RecordingRuntime ω δ ι :=
  { s with handle := { s.handle with
      cameraCommands := Function.update s.handle.cameraCommands role rest } }

/-- `mark_camera_processed`. -/
def markCameraProcessed : RecordingRuntime ω δ ι :=
  { s with handle := { s.handle with cameraPending := max 0 (s.handle.cameraPending - 1) } }

/-- A `camera` command (lines 1479–1483), unless the queue is empty. -/
def camera (role : CameraRole) (unreadable : Option PyException) : RecordingRuntime ω δ ι :=
  match s.handle.cameraCommands role with
  | [] => s
  | frame :: rest =>
    let s := s.takeCamera role rest
    let result := ingestReference w config unreadable frame s.collector
    let s := match result with
      | .ok _ _ => s.markCameraProcessed
      | .error _ _ => s
    { s with collector := recovered w config result }.report w

/-- `flush_camera_commands`, which an exception ends. -/
def flushCamera (s : RecordingRuntime ω δ ι) :
    List (CameraRole × Option PyException) → RecordingRuntime ω δ ι
  | [] => s
  | (role, unreadable) :: found =>
    match s.handle.cameraCommands role with
    | [] => s.flushCamera found
    | frame :: rest =>
      let s := s.takeCamera role rest
      match ingestReference w config unreadable frame s.collector with
      | .ok _ collector => { s.markCameraProcessed with collector }.flushCamera found
      | .error _ collector => { s with collector }

/-- A `rotate` command (lines 1507–1518). -/
def rotate (clock : CanonicalClock) (retries : ℕ → ℕ) (opened : Option ω) (reason : String)
    (releaseNs : Option ℤ) : RecordingRuntime ω δ ι :=
  let s := { s with rotations := s.rotations + 1 }
  match closeEpisode w config retries reason releaseNs s.collector with
  | .error _ collector => { s with collector }
  | .ok _ collector =>
    { s with
      episodeIndex := s.episodeIndex + 1
      collector := match opened with
        | none => collector
        | some writer => config.initial clock writer }

/-- A control command. -/
def execute (clock : CanonicalClock) (i : LoopInput ω) :
    RecorderCommand δ → RecordingRuntime ω δ ι
  | .control sample referenceEstablished rawRecords captureActive =>
    let result := ingestControl w.toEpisodeWriter config sample referenceEstablished rawRecords
      captureActive s.collector
    { s with collector := recovered w config result }
  | .flushCamera => s.flushCamera w config i.flushed
  | .rotate reason releaseNs => s.rotate w config clock i.retries i.opened reason releaseNs

/-- The deferred command, if it is due (lines 1466–1468). -/
def deferred? : Option (RecorderCommand δ) :=
  if s.handle.cameraPending ≤ 0 then s.deferredControl else none

/-- The control command that the loop executes next, and the state without it; one that
    is taken while descriptors are pending is deferred (lines 1466–1476). -/
def fetch (read : QueueRead) : RecordingRuntime ω δ ι × Option (RecorderCommand δ) :=
  match s.deferred? with
  | some command => ({ s with deferredControl := none }, some command)
  | none => match read, s.handle.controlCommands with
    | .control, command :: controlCommands =>
      let s := { s with handle := { s.handle with controlCommands } }
      if s.handle.cameraPending ≤ 0 then (s, some command)
      else ({ s with deferredControl := some command }, none)
    | _, _ => (s, none)

/-- An iteration of the recorder loop. -/
def loop (clock : CanonicalClock) (i : LoopInput ω) : RecordingRuntime ω δ ι :=
  match s.fetch i.read with
  | (s, some command) => (s.execute w config clock i command).report w
  | (s, none) => match i.read with
    | .camera role unreadable => s.camera w config role unreadable
    | .idle | .control => s

/-! ## The other threads -/

/-- A frame of one camera in `_camera_forward_loop_body`. -/
def forwarded (handle : RecorderHandle δ ι) (found : Option (CameraRecord δ ι)) :
    RecorderHandle δ ι :=
  match found with
  | none => handle
  | some frame => handle.ingestCamera frame

/-- An iteration of `_camera_forward_loop_body`, with the new frames of the cameras. -/
def forward (workspace wrist : Option (CameraRecord δ ι)) : RecordingRuntime ω δ ι :=
  if s.forwarderReturned then s
  else if s.handle.sync.proxy.state = .done then
    { s with handle := s.handle.sync, forwarderReturned := true }
  else { s with handle := forwarded (forwarded s.handle.sync workspace) wrist }

/-- `poll` takes a status. -/
def deliver : RecordingRuntime ω δ ι :=
  match s.status with
  | [] => s
  | message :: status =>
    { s with status, handle := { s.handle with latestStatus := some message } }

/-- The next part of a producer tick. -/
def produce (i : TickInput δ) : RecordingRuntime ω δ ι :=
  { s with producer := (s.producer.tick s.handle i).1, handle := (s.producer.tick s.handle i).2 }

end RecordingRuntime

/-- A step of one of the threads. -/
inductive RuntimeStep (ω δ ι : Type) [Double δ]
  | produce (i : TickInput δ)
  | forward (workspace wrist : Option (CameraRecord δ ι))
  | deliver
  | loop (i : LoopInput ω)

/-- One step; the recorder defers finalization. -/
def RecordingRuntime.step (clock : CanonicalClock) (s : RecordingRuntime ω δ ι) :
    RuntimeStep ω δ ι → RecordingRuntime ω δ ι
  | .produce i => s.produce i
  | .forward workspace wrist => s.forward workspace wrist
  | .deliver => s.deliver
  | .loop i => s.loop w { config with deferFinalization := true } clock i

/-- The runtime after `EpisodeDataRuntime.start`. -/
def RecordingRuntime.started (clock : CanonicalClock) (capacity episodeIndex : ℕ) (writer : ω) :
    RecordingRuntime ω δ ι where
  handle := { capacity, proxy := { temporaryId := w.temporaryId writer } }
  collector := { config with deferFinalization := true }.initial clock writer
  episodeIndex

/-! ## When the forwarder runs on -/

namespace RecorderHandle

/-- Without a status, the state is not `DONE`. -/
def Unread (h : RecorderHandle δ ι) : Prop :=
  h.error = false → h.latestStatus = none → h.proxy.state ≠ .done

/-- What a call of the control side changes. -/
structure Evolves (h h' : RecorderHandle δ ι) : Prop where
  latest : h'.latestStatus = h.latestStatus
  error : h'.error = false → h.error = false
  unread : h.Unread → h'.Unread

variable {h h' h'' : RecorderHandle δ ι}

theorem Evolves.refl (h : RecorderHandle δ ι) : h.Evolves h := ⟨rfl, id, id⟩

theorem Evolves.trans (first : h.Evolves h') (second : h'.Evolves h'') : h.Evolves h'' where
  latest := second.latest.trans first.latest
  error herror := first.error (second.error herror)
  unread hunread := second.unread (first.unread hunread)

/-- A change of the queues. -/
theorem Evolves.of_proxy (hlatest : h'.latestStatus = h.latestStatus)
    (herror : h'.error = h.error) (hproxy : h'.proxy = h.proxy) : h.Evolves h' where
  latest := hlatest
  error := by rw [herror]; exact id
  unread hunread := by
    unfold Unread
    rw [herror, hlatest, hproxy]
    exact hunread

/-- A call that finds an error, or leaves one. -/
theorem Evolves.of_error (hlatest : h'.latestStatus = h.latestStatus) (herror : h'.error = true) :
    h.Evolves h' where
  latest := hlatest
  error hnone := by rw [herror] at hnone; exact nomatch hnone
  unread _ hnone := by rw [herror] at hnone; exact nomatch hnone

theorem evolves_sync (h : RecorderHandle δ ι) : h.Evolves h.sync := by
  refine ⟨rfl, id, fun hunread herror hnone => ?_⟩
  have hnone : h.latestStatus = none := hnone
  have herror : h.error = false := herror
  have hproxy : h.sync.proxy = h.proxy := by simp [sync, hnone, herror]
  rw [hproxy]
  exact hunread herror hnone

theorem evolves_markFailed (herror : h.error = true) : h.Evolves h.markFailed :=
  .of_error rfl herror

theorem evolves_send (h : RecorderHandle δ ι) (command : RecorderCommand δ) :
    h.Evolves (h.send command) := by
  unfold send
  split
  · exact evolves_markFailed ‹_›
  split
  · exact .of_proxy rfl rfl rfl
  · exact .of_error rfl rfl

theorem evolves_sendCamera (h : RecorderHandle δ ι) (frame : CameraRecord δ ι) :
    h.Evolves (h.sendCamera frame) := by
  unfold sendCamera
  dsimp only
  split
  · exact evolves_markFailed ‹_›
  split
  · exact .of_proxy rfl rfl rfl
  · cases h.cameraCommands frame.header.role with
    | nil => exact .refl h
    | cons oldest rest => exact .of_proxy rfl rfl rfl

theorem evolves_ingestCamera (h : RecorderHandle δ ι) (frame : CameraRecord δ ι) :
    h.Evolves (h.ingestCamera frame) := by
  unfold ingestCamera
  split
  · exact evolves_sync h
  · exact (evolves_sync h).trans (evolves_sendCamera _ frame)

theorem evolves_ingestControl (h : RecorderHandle δ ι) (sample : ControlSample δ)
    (referenceEstablished : Bool) (rawRecords : List (String × Record δ))
    (captureActive : Option Bool) :
    h.Evolves (h.ingestControl sample referenceEstablished rawRecords captureActive) := by
  unfold ingestControl
  split
  · exact evolves_sync h
  · exact (evolves_sync h).trans (evolves_send _ _)

theorem evolves_rotateEpisode (h : RecorderHandle δ ι) (reason : String) (releaseNs : Option ℤ) :
    h.Evolves (h.rotateEpisode reason releaseNs) := by
  unfold rotateEpisode
  split
  · exact .refl h
  split
  · exact evolves_send h _
  · exact (evolves_send h _).trans (evolves_send _ _)

end RecorderHandle

namespace EpisodeProducer

open RecorderHandle

variable (p : EpisodeProducer) (h : RecorderHandle δ ι)

theorem evolves_check : h.Evolves (p.check h).2 := by
  unfold check
  split
  · exact .refl h
  split
  · exact evolves_sync h
  · exact evolves_sync h

theorem evolves_release (nowNs : ℤ) (bothClutchesReleased : Bool) :
    h.Evolves (p.release h nowNs bothClutchesReleased).2 := by
  unfold release
  split
  · cases p.idleStartedNs with
    | none => exact .refl h
    | some startedNs =>
      dsimp only
      split
      · exact evolves_rotateEpisode h _ _
      · exact .refl h
  split
  · split
    · exact evolves_sync h
    · exact evolves_sync h
  · exact .refl h

theorem evolves_boundary (i : TickInput δ) : h.Evolves (p.boundary h i).2 := by
  unfold boundary
  split
  · exact .refl h
  · exact evolves_release p h i.nowNs i.bothClutchesReleased

theorem evolves_record (i : TickInput δ) : h.Evolves (p.record h i) := by
  unfold record
  split
  · exact .refl h
  split
  · exact (evolves_sync h).trans (evolves_ingestControl _ _ _ _ _)
  · exact evolves_sync h

theorem evolves_tick (i : TickInput δ) : h.Evolves (p.tick h i).2 := by
  unfold tick
  cases p.stage with
  | check => exact evolves_check p h
  | boundary => exact evolves_boundary p h i
  | record => exact evolves_record p h i

end EpisodeProducer

/-! ### The recorder -/

section Done

variable {w config} {s : Collector ω δ ι}

/-- A collector that is `DONE` takes no frame. -/
theorem ingestCamera_done (hdone : s.state = .done) (frame : CameraRecord δ ι) :
    ingestCamera w.toEpisodeWriter config frame s = .ok ⟨⟩ s := by
  show (if s.state = .done then (pure ⟨⟩ : CollectM ω δ ι PUnit) else _) s = _
  rw [if_pos hdone]
  rfl

/-- A collector that is `DONE` takes no sample. -/
theorem ingestControl_done (hdone : s.state = .done) (sample : ControlSample δ)
    (referenceEstablished : Bool) (rawRecords : List (String × Record δ))
    (captureActive : Option Bool) :
    ingestControl w.toEpisodeWriter config sample referenceEstablished rawRecords captureActive s =
      .ok ⟨⟩ s := by
  show (if s.state = .done then (pure ⟨⟩ : CollectM ω δ ι PUnit) else _) s = _
  rw [if_pos hdone]
  rfl

theorem after_abort_done (hdone : s.state = .done) (reason : String) (invalid : Bool)
    (detail : Option String) :
    s.after w.toEpisodeWriter config (.abort reason invalid detail) = s := by
  have habort : abort w.toEpisodeWriter config reason invalid detail s = .ok ⟨⟩ s := by
    show (if s.state = .done then (pure ⟨⟩ : CollectM ω δ ι PUnit) else _) s = _
    rw [if_pos hdone]
    rfl
  show stateAfter (abort w.toEpisodeWriter config reason invalid detail) s = s
  unfold stateAfter
  rw [habort]

/-- A descriptor leaves a collector that is `DONE` as it is. -/
theorem ingestReference_done (hdone : s.state = .done) (unreadable : Option PyException)
    (frame : CameraRecord δ ι) :
    ingestReference w config unreadable frame s =
      match unreadable with
      | some exc => .error exc s
      | none => .ok ⟨⟩ s := by
  cases unreadable with
  | some exc => rfl
  | none => exact ingestCamera_done hdone frame

end Done

namespace RecordingRuntime

/-- What a command other than `rotate` changes. -/
structure Advances (s s' : RecordingRuntime ω δ ι) : Prop where
  latest : s'.handle.latestStatus = s.handle.latestStatus
  error : s'.handle.error = s.handle.error
  proxy : s'.handle.proxy = s.handle.proxy
  status : s'.status = s.status
  forwarder : s'.forwarderReturned = s.forwarderReturned
  rotations : s'.rotations = s.rotations
  done : s.collector.state = .done → s'.collector.state = .done

section Advances

variable {w config} {s s' s'' : RecordingRuntime ω δ ι}

theorem Advances.refl (s : RecordingRuntime ω δ ι) : s.Advances s :=
  ⟨rfl, rfl, rfl, rfl, rfl, rfl, id⟩

theorem Advances.trans (first : s.Advances s') (second : s'.Advances s'') : s.Advances s'' where
  latest := second.latest.trans first.latest
  error := second.error.trans first.error
  proxy := second.proxy.trans first.proxy
  status := second.status.trans first.status
  forwarder := second.forwarder.trans first.forwarder
  rotations := second.rotations.trans first.rotations
  done hdone := second.done (first.done hdone)

theorem advances_flushCamera (found : List (CameraRole × Option PyException)) :
    s.Advances (s.flushCamera w config found) := by
  induction found generalizing s with
  | nil => exact .refl s
  | cons item found ih =>
    obtain ⟨role, unreadable⟩ := item
    unfold flushCamera
    cases s.handle.cameraCommands role with
    | nil => exact ih
    | cons frame rest =>
      dsimp only
      cases hresult : ingestReference w config unreadable frame (s.takeCamera role rest).collector with
      | ok _ collector =>
        have hfirst : s.Advances { (s.takeCamera role rest).markCameraProcessed with collector } := by
          refine ⟨rfl, rfl, rfl, rfl, rfl, rfl, fun hdone => ?_⟩
          rw [ingestReference_done (by exact hdone)] at hresult
          cases unreadable with
          | some exc => exact nomatch hresult
          | none =>
            obtain ⟨-, rfl⟩ := EStateM.Result.ok.inj hresult
            exact hdone
        exact hfirst.trans ih
      | error exc collector =>
        refine ⟨rfl, rfl, rfl, rfl, rfl, rfl, fun hdone => ?_⟩
        rw [ingestReference_done (by exact hdone)] at hresult
        cases unreadable with
        | none => exact nomatch hresult
        | some exc =>
          obtain ⟨-, rfl⟩ := EStateM.Result.error.inj hresult
          exact hdone

/-- A descriptor or a sample, with the handler. -/
theorem recovered_done {result : EStateM.Result PyException (Collector ω δ ι) PUnit}
    {collector : Collector ω δ ι} (hdone : collector.state = .done)
    (hresult : result = .ok ⟨⟩ collector ∨ ∃ exc, result = .error exc collector) :
    (recovered w config result).state = .done := by
  rcases hresult with rfl | ⟨exc, rfl⟩
  · exact hdone
  · show (collector.after w.toEpisodeWriter config _).state = .done
    rw [after_abort_done hdone]
    exact hdone

/-- What `camera` does before its report. -/
theorem camera_eq (role : CameraRole) (unreadable : Option PyException) :
    s.camera w config role unreadable = s ∨
      ∃ t, s.Advances t ∧ s.camera w config role unreadable = t.report w := by
  unfold camera
  cases s.handle.cameraCommands role with
  | nil => exact .inl rfl
  | cons frame rest =>
    refine .inr ⟨_, ?_, rfl⟩
    have hcollector : s.collector.state = .done → (recovered w config
        (ingestReference w config unreadable frame s.collector)).state = .done := by
      intro hdone
      refine recovered_done hdone ?_
      rw [ingestReference_done hdone]
      cases unreadable with
      | some exc => exact .inr ⟨exc, rfl⟩
      | none => exact .inl rfl
    cases hresult : ingestReference w config unreadable frame (s.takeCamera role rest).collector with
    | ok _ collector =>
      rw [show ingestReference w config unreadable frame s.collector = _ from hresult] at hcollector
      exact ⟨rfl, rfl, rfl, rfl, rfl, rfl, hcollector⟩
    | error exc collector =>
      rw [show ingestReference w config unreadable frame s.collector = _ from hresult] at hcollector
      exact ⟨rfl, rfl, rfl, rfl, rfl, rfl, hcollector⟩

/-- A control command other than `rotate`. -/
theorem advances_execute {clock : CanonicalClock} (i : LoopInput ω) {command : RecorderCommand δ}
    (hrotate : command.isRotate = false) : s.Advances (s.execute w config clock i command) := by
  cases command with
  | control sample referenceEstablished rawRecords captureActive =>
    refine ⟨rfl, rfl, rfl, rfl, rfl, rfl, fun hdone => recovered_done hdone (.inl ?_)⟩
    exact ingestControl_done hdone sample referenceEstablished rawRecords captureActive
  | flushCamera => exact advances_flushCamera i.flushed
  | rotate reason releaseNs => exact nomatch hrotate

/-- The loop takes a command out of its queue. -/
theorem advances_fetch (read : QueueRead) : s.Advances (s.fetch read).1 := by
  unfold fetch
  cases s.deferred? with
  | some command => exact ⟨rfl, rfl, rfl, rfl, rfl, rfl, id⟩
  | none =>
    cases read with
    | idle => exact .refl s
    | camera role unreadable => exact .refl s
    | control =>
      cases s.handle.controlCommands with
      | nil => exact .refl s
      | cons command controlCommands =>
        dsimp only
        split
        · exact ⟨rfl, rfl, rfl, rfl, rfl, rfl, id⟩
        · exact ⟨rfl, rfl, rfl, rfl, rfl, rfl, id⟩

end Advances

/-! ### Statuses -/

/-- The recorder is going to execute a `rotate`. -/
def rotates (s : RecordingRuntime ω δ ι) (read : QueueRead) : Bool :=
  (s.fetch read).2.any RecorderCommand.isRotate

/-- No `rotate` is executed once the forwarder has returned, and the forwarder reads no `DONE`
    that was reported before the last `rotate`. -/
def InTime (s : RecordingRuntime ω δ ι) : RuntimeStep ω δ ι → Prop
  | .loop i => s.rotates i.read = true → s.forwarderReturned = false
  | .forward _ _ => s.forwarderReturned = false → ∀ latest ∈ s.handle.latestStatus,
      latest.state = .done → latest.rotations = s.rotations
  | .produce _ | .deliver => True

instance (s : RecordingRuntime ω δ ι) : (i : RuntimeStep ω δ ι) → Decidable (s.InTime i)
  | .loop i => inferInstanceAs (Decidable (s.rotates i.read = true → s.forwarderReturned = false))
  | .forward _ _ => inferInstanceAs (Decidable (s.forwarderReturned = false →
      ∀ latest ∈ s.handle.latestStatus, latest.state = .done → latest.rotations = s.rotations))
  | .produce _ | .deliver => inferInstanceAs (Decidable True)

/-- Unless something failed, the forwarder runs as long as the collector is not `DONE`. -/
def Recording (s : RecordingRuntime ω δ ι) : Prop :=
  s.handle.error = false → s.collector.state ≠ .done → s.forwarderReturned = false

instance (s : RecordingRuntime ω δ ι) : Decidable s.Recording :=
  inferInstanceAs (Decidable
    (s.handle.error = false → s.collector.state ≠ .done → s.forwarderReturned = false))

/-- A `DONE` since the last `rotate` is that of the collector. -/
structure Truthful (s : RecordingRuntime ω δ ι) (message : RecorderStatus) : Prop where
  rotations : message.rotations ≤ s.rotations
  done : message.state = .done → message.rotations = s.rotations → s.collector.state = .done

/-- Every status on its way is truthful, and the forwarder returned on one. -/
structure Mirrored (s : RecordingRuntime ω δ ι) : Prop where
  unread : s.handle.Unread
  status : ∀ message ∈ s.status, s.Truthful message
  latest : ∀ latest ∈ s.handle.latestStatus, s.Truthful latest
  returned : s.handle.error = false → s.forwarderReturned = true → s.collector.state = .done

section Mirrored

variable {w config} {s s' : RecordingRuntime ω δ ι}

theorem Mirrored.recording (h : s.Mirrored) : s.Recording := by
  intro herror hdone
  cases hreturned : s.forwarderReturned with
  | false => rfl
  | true => exact absurd (h.returned herror hreturned) hdone

theorem mirrored_started (clock : CanonicalClock) (capacity episodeIndex : ℕ) (writer : ω) :
    (started w config clock capacity episodeIndex writer : RecordingRuntime ω δ ι).Mirrored where
  unread _ _ := nofun
  status _ hmem := absurd hmem List.not_mem_nil
  latest _ hmem := nomatch hmem
  returned _ hreturned := nomatch hreturned

theorem Truthful.advances {message : RecorderStatus} (h : s.Truthful message)
    (hadvances : s.Advances s') : s'.Truthful message where
  rotations := by
    rw [hadvances.rotations]
    exact h.rotations
  done hdone hrotations := by
    rw [hadvances.rotations] at hrotations
    exact hadvances.done (h.done hdone hrotations)

theorem Mirrored.advances (h : s.Mirrored) (hadvances : s.Advances s') : s'.Mirrored where
  unread := by
    unfold RecorderHandle.Unread
    rw [hadvances.error, hadvances.latest, hadvances.proxy]
    exact h.unread
  status message hmem := by
    rw [hadvances.status] at hmem
    exact (h.status message hmem).advances hadvances
  latest latest hmem := by
    rw [hadvances.latest] at hmem
    exact (h.latest latest hmem).advances hadvances
  returned herror hreturned := by
    rw [hadvances.error] at herror
    rw [hadvances.forwarder] at hreturned
    exact hadvances.done (h.returned herror hreturned)

/-- A call of the control side. -/
theorem Mirrored.evolves (h : s.Mirrored) {handle : RecorderHandle δ ι}
    (hevolves : s.handle.Evolves handle) (producer : EpisodeProducer) :
    ({ s with handle, producer } : RecordingRuntime ω δ ι).Mirrored where
  unread := hevolves.unread h.unread
  status message hmem := ⟨(h.status message hmem).rotations, (h.status message hmem).done⟩
  latest latest hmem := by
    have hmem : latest ∈ s.handle.latestStatus := hevolves.latest ▸ hmem
    exact ⟨(h.latest latest hmem).rotations, (h.latest latest hmem).done⟩
  returned herror hreturned := h.returned (hevolves.error herror) hreturned

/-- **A report is truthful.** -/
theorem Mirrored.report (h : s.Mirrored) : (s.report w).Mirrored where
  unread := h.unread
  status message hmem := by
    rcases mem_pushBounded hmem with hmem | rfl
    · exact ⟨(h.status message hmem).rotations, (h.status message hmem).done⟩
    · exact ⟨Nat.le_refl _, fun hdone _ => hdone⟩
  latest latest hmem := ⟨(h.latest latest hmem).rotations, (h.latest latest hmem).done⟩
  returned := h.returned

theorem Mirrored.deliver (h : s.Mirrored) : s.deliver.Mirrored := by
  unfold RecordingRuntime.deliver
  cases hstatus : s.status with
  | nil => exact h
  | cons message status =>
    have htruthful : ∀ m ∈ message :: status, s.Truthful m := hstatus ▸ h.status
    refine ⟨?_, fun m hmem => ?_, fun latest hmem => ?_, h.returned⟩
    · intro _ hnone
      exact nomatch hnone
    · have hm := htruthful m (List.mem_cons_of_mem message hmem)
      exact ⟨hm.rotations, hm.done⟩
    · obtain rfl : message = latest := Option.some.inj hmem
      have hm := htruthful message List.mem_cons_self
      exact ⟨hm.rotations, hm.done⟩

/-- **A rotation while the forwarder runs**: every status is of an earlier episode. -/
theorem Mirrored.rotate (h : s.Mirrored) (hruns : s.forwarderReturned = false)
    (clock : CanonicalClock) (retries : ℕ → ℕ) (opened : Option ω) (reason : String)
    (releaseNs : Option ℤ) :
    (s.rotate w config clock retries opened reason releaseNs).Mirrored := by
  have hearlier : ∀ t : RecordingRuntime ω δ ι, t.handle = s.handle → t.status = s.status →
      t.forwarderReturned = s.forwarderReturned → t.rotations = s.rotations + 1 → t.Mirrored := by
    intro t hhandle hstatus hforwarder hrotations
    have htruthful : ∀ message, s.Truthful message → t.Truthful message := by
      intro message hmessage
      have hle := hmessage.rotations
      refine ⟨by omega, fun _ hsame => ?_⟩
      omega
    refine ⟨hhandle ▸ h.unread, ?_, ?_, fun _ hreturned => ?_⟩
    · intro message hmem
      rw [hstatus] at hmem
      exact htruthful message (h.status message hmem)
    · intro latest hmem
      rw [hhandle] at hmem
      exact htruthful latest (h.latest latest hmem)
    · rw [hforwarder, hruns] at hreturned
      exact nomatch hreturned
  unfold RecordingRuntime.rotate
  dsimp only
  cases closeEpisode w config retries reason releaseNs s.collector with
  | ok _ collector => exact hearlier _ rfl rfl rfl rfl
  | error exc collector => exact hearlier _ rfl rfl rfl rfl

/-- **An iteration of the recorder loop** that rotates in time. -/
theorem Mirrored.loop (h : s.Mirrored) (clock : CanonicalClock) (i : LoopInput ω)
    (hintime : s.rotates i.read = true → s.forwarderReturned = false) :
    (s.loop w config clock i).Mirrored := by
  have hadvances := advances_fetch (s := s) i.read
  have hrotates : s.rotates i.read = (s.fetch i.read).2.any RecorderCommand.isRotate := rfl
  unfold RecordingRuntime.loop
  revert hadvances hrotates
  generalize s.fetch i.read = fetched
  obtain ⟨t, command⟩ := fetched
  intro hadvances hrotates
  have ht : t.Mirrored := h.advances hadvances
  cases command with
  | none =>
    dsimp only
    cases i.read with
    | idle => exact ht
    | control => exact ht
    | camera role unreadable =>
      dsimp only
      rcases camera_eq (w := w) (s := t) role unreadable with hsame | ⟨u, hcamera, hreport⟩
      · rw [hsame]
        exact ht
      · rw [hreport]
        exact (ht.advances hcamera).report
  | some command =>
    refine Mirrored.report ?_
    cases hkind : command.isRotate with
    | false => exact ht.advances (advances_execute i hkind)
    | true =>
      have hruns : t.forwarderReturned = false := by
        rw [hadvances.forwarder]
        exact hintime (hrotates.trans hkind)
      cases command with
      | control sample referenceEstablished rawRecords captureActive => exact nomatch hkind
      | flushCamera => exact nomatch hkind
      | rotate reason releaseNs => exact ht.rotate hruns clock _ _ reason releaseNs

theorem evolves_forwarded (handle : RecorderHandle δ ι) (found : Option (CameraRecord δ ι)) :
    handle.Evolves (forwarded handle found) := by
  cases found with
  | none => exact .refl handle
  | some frame => exact RecorderHandle.evolves_ingestCamera handle frame

/-- Without an error, the forwarder reads the latest status. -/
theorem sync_done (hunread : s.handle.Unread) (herror : s.handle.error = false)
    (hdone : s.handle.sync.proxy.state = .done) :
    ∃ latest ∈ s.handle.latestStatus, latest.state = .done := by
  cases hlatest : s.handle.latestStatus with
  | none =>
    have hproxy : s.handle.sync.proxy = s.handle.proxy := by
      simp [RecorderHandle.sync, hlatest, herror]
    rw [hproxy] at hdone
    exact absurd hdone (hunread herror hlatest)
  | some latest =>
    refine ⟨latest, rfl, ?_⟩
    have hproxy : s.handle.sync.proxy = s.handle.proxy.applyStatus latest := by
      simp [RecorderHandle.sync, hlatest, herror]
    rw [hproxy] at hdone
    exact hdone

/-- **An iteration of the forwarder** that reads no outdated `DONE`. -/
theorem Mirrored.forward (h : s.Mirrored) (workspace wrist : Option (CameraRecord δ ι))
    (hintime : s.forwarderReturned = false → ∀ latest ∈ s.handle.latestStatus,
      latest.state = .done → latest.rotations = s.rotations) :
    (s.forward workspace wrist).Mirrored := by
  have hsync := RecorderHandle.evolves_sync s.handle
  unfold RecordingRuntime.forward
  split
  · exact h
  rename_i hruns
  split
  · rename_i hdone
    have hsynced := h.evolves hsync s.producer
    refine ⟨hsynced.unread, fun message hmem => ?_, fun latest hmem => ?_, fun herror _ => ?_⟩
    · exact ⟨(h.status message hmem).rotations, (h.status message hmem).done⟩
    · exact ⟨(h.latest latest hmem).rotations, (h.latest latest hmem).done⟩
    · obtain ⟨latest, hlatest, hstate⟩ := sync_done h.unread (hsync.error herror) hdone
      have hcurrent := hintime (Bool.eq_false_of_not_eq_true hruns) latest hlatest hstate
      exact (h.latest latest hlatest).done hstate hcurrent
  · exact h.evolves ((hsync.trans (evolves_forwarded _ workspace)).trans
      (evolves_forwarded _ wrist)) s.producer

/-- **One step.** -/
theorem mirrored_step {clock : CanonicalClock} (s : RecordingRuntime ω δ ι)
    (i : RuntimeStep ω δ ι) (hintime : s.InTime i) (h : s.Mirrored) :
    (s.step w config clock i).Mirrored := by
  cases i with
  | produce i => exact h.evolves (EpisodeProducer.evolves_tick s.producer s.handle i) _
  | forward workspace wrist => exact h.forward workspace wrist hintime
  | deliver => exact h.deliver
  | loop i => exact h.loop clock i hintime

end Mirrored

end RecordingRuntime

/-- **The forwarder runs on**: in every run in which no `rotate` is executed once the forwarder
    has returned, and the forwarder reads no `DONE` from before a `rotate`, it runs as
    long as the collector is not `DONE`. -/
theorem rotation_restarts (w : RecorderWriter ω δ ι) (config : CollectorConfig δ)
    (clock : CanonicalClock) (capacity episodeIndex : ℕ) (writer : ω)
    (steps : List (RuntimeStep ω δ ι))
    (h : Meets (RecordingRuntime.step w config clock) RecordingRuntime.InTime
      (.started w config clock capacity episodeIndex writer) steps) :
    (run (RecordingRuntime.step w config clock)
      (.started w config clock capacity episodeIndex writer) steps).Recording :=
  (run_invariant_of_meets RecordingRuntime.mirrored_step
    (RecordingRuntime.mirrored_started clock capacity episodeIndex writer) h).recording

end Recorder

/-! ## Two runs -/

section Runs

def countingWriter : RecorderWriter ℕ ℚ Unit where
  call
    | .appendSample _, count => (.returned, count + 1)
    | _, count => (.returned, count)
  sampleCount := id
  temporaryId _ := "episode_000001"

/-- A collector for a staging dataset. -/
def stagingConfig : CollectorConfig ℚ where
  retryStartRejections := true
  maximumStartDeltaRad := 1
  maximumHandStartDeltaRad := 1

/-- The runtime at 30 Hz. -/
def stagingStep : RecordingRuntime ℕ ℚ Unit → RuntimeStep ℕ ℚ Unit → RecordingRuntime ℕ ℚ Unit :=
  RecordingRuntime.step countingWriter stagingConfig (.ofFps 30 fps_pos fps_lt)

/-- The runtime at its start. -/
def stagingStart : RecordingRuntime ℕ ℚ Unit :=
  .started countingWriter stagingConfig (.ofFps 30 fps_pos fps_lt) 16 1 0

/-- A tick of the producer. -/
def tickSteps (bothClutchesReleased : Bool) (sample : ControlSample ℚ) :
    List (RuntimeStep ℕ ℚ Unit) :=
  let i := ⟨sample.hostMonotonicNs, bothClutchesReleased, true, sample⟩
  [.produce i, .produce i, .produce i]

/-- The recorder executes a control command. -/
def executeStep : RuntimeStep ℕ ℚ Unit := .loop { read := .control, opened := some 0 }

/-- The recorder ingests a descriptor. -/
def cameraStep (role : CameraRole) : RuntimeStep ℕ ℚ Unit := .loop { read := .camera role none }

/-- The forwarder and the recorder up to the first sample of an episode, with its status. -/
def recordingSteps : List (RuntimeStep ℕ ℚ Unit) :=
  tickSteps false (pressedAt 100) ++
    [executeStep, .forward (some (frameAt .workspace 110)) (some (frameAt .wrist 110)),
      cameraStep .workspace, cameraStep .wrist] ++
    tickSteps false (pressedAt 120) ++ [executeStep, .deliver, .deliver, .deliver, .deliver]

/-- The ticks that begin and end the idle time of an episode. -/
def idleSteps : List (RuntimeStep ℕ ℚ Unit) :=
  tickSteps true { pressedAt 130 with armTrigger := false } ++ [executeStep, .deliver] ++
    tickSteps true { pressedAt 5000000130 with armTrigger := false }

/-- A rotation of an episode that goes on up to it. -/
theorem rotation_restarts_regular :
    (run stagingStep stagingStart
        (recordingSteps ++ idleSteps ++ [executeStep, executeStep])).forwarderReturned = false ∧
      (run stagingStep stagingStart
        (recordingSteps ++ idleSteps ++ [executeStep, executeStep])).episodeIndex = 2 :=
  ⟨rotation_restarts countingWriter stagingConfig (.ofFps 30 fps_pos fps_lt) 16 1 0
    (recordingSteps ++ idleSteps ++ [executeStep, executeStep]) (by decide +kernel)
    (by decide +kernel) (by decide +kernel), by decide +kernel⟩

/-- A frame of the workspace camera, whose device has changed its clock. -/
def reclocked (hostMonotonicNs : ℤ) : CameraRecord ℚ Unit :=
  .sample {
    header := { (frameAt .workspace hostMonotonicNs).header with
      rgbTimestampDomain := "system_time" }
    rgb := ()
    depthRaw := () }

/-- The recorder invalidates the episode behind whose end the `rotate` waits already, and the
    forwarder returns before the recorder opens the next one. -/
theorem rotation_without_forwarder :
    ¬(run stagingStep stagingStart
      (recordingSteps ++ idleSteps ++ [.forward (some (reclocked 5000000120)) none,
        cameraStep .workspace, .deliver, .forward none none, executeStep,
        executeStep])).Recording := by
  decide +kernel

end Runs

end HandLab.Episode
