import HandLab.Episode.Collector

/-!
# The asynchronous episode writer

`AsyncEpisodeWriter` (`src/episode_dataset/async_writer.py`): producers put calls into a
bounded queue, a worker executes them on the wrapped writer. One step is one access to the
queue, one call of the wrapped writer or one update of the counters, so a list of steps is
an interleaving of the producers with the worker. What the wrapped writer answers is left to
the step; of its state only `sample_count` is followed, which `append_sample` increments
behind everything that may raise.

The durations, depths and totals that only `diagnostics` reads are left out, and so are the
reports of `finalize`.
-/

namespace HandLab.Episode

open HandLab.Lib

/-- A method that goes through the queue. -/
inductive QueuedMethod
  | begin | appendRaw | appendRawBatch | appendRawCamera | appendSample
  deriving DecidableEq, Repr

/-- A call that goes through the queue. -/
inductive QueuedCall (δ ι : Type) [Double δ]
  | begin (prerequisites : StartPrerequisites δ ι) (cameraMaxAgeNs : ℤ)
  | appendRaw (stream : String) (record : Record δ)
  | appendRawBatch (records : List (String × Record δ))
  | appendRawCamera (camera : CameraRecord δ ι)
  | appendSample (sample : CanonicalSample δ ι)

/-- The arguments of `_terminal_call`. -/
inductive TerminalCall
  | finalize (status : EpisodeStatus) (terminationReason : String)
      (triggerReleaseMonotonicNs : Option ℤ)
  | discardRejectedStart (reason : String)
  deriving DecidableEq, Repr

/-- An item of the queue; `stop` is `None`. -/
inductive AsyncItem (δ ι : Type) [Double δ]
  | call (call : QueuedCall δ ι)
  | terminal (call : TerminalCall)
  | stop

/-- How the wrapped writer answers; `unavailable` is `CameraFrameUnavailable`. -/
inductive WrappedAnswer
  | returned
  | unavailable (role : CameraRole)
  | raised
  deriving DecidableEq, Repr

/-- What became of an item. -/
inductive Verdict (δ : Type)
  | written
  /-- with the `data_quality` record that was written instead -/
  | expired (quality : Option (Record δ))
  | failed
  | skipped
  /-- with the status that `finalize` was given -/
  | terminated (status : Option EpisodeStatus)
  | stopped

/-- A call of the wrapped writer; `item` is none for a record of quality. -/
structure WrappedCall (δ ι : Type) [Double δ] where
  item : Option (AsyncItem δ ι)
  call : WriterCall δ ι
  answer : WrappedAnswer

inductive Worker (δ ι : Type) [Double δ]
  | waiting
  | collecting (left : ℕ)
  | running
  /-- the call returned, and is not counted yet -/
  | wrote (call : QueuedCall δ ι)
  /-- a frame was unavailable, and that is not counted yet -/
  | expired (call : QueuedCall δ ι) (role : CameraRole)
  /-- at `_write_expired_sample_quality` -/
  | judging (sample : CanonicalSample δ ι) (role : CameraRole)
  | flushing
  | ended
  /-- `snapshot` raised something else -/
  | crashed (sample : CanonicalSample δ ι)

variable {δ ι : Type} [Double δ]

def QueuedCall.method : QueuedCall δ ι → QueuedMethod
  | .begin _ _ => .begin
  | .appendRaw _ _ => .appendRaw
  | .appendRawBatch _ => .appendRawBatch
  | .appendRawCamera _ => .appendRawCamera
  | .appendSample _ => .appendSample

/-- The call that `_execute` makes of the wrapped writer. -/
def QueuedCall.wrapped (sampleCount : ℕ) : QueuedCall δ ι → WriterCall δ ι
  | .begin prerequisites cameraMaxAgeNs => .begin prerequisites cameraMaxAgeNs
  | .appendRaw stream record => .appendRaw stream record
  | .appendRawBatch records => .appendRawBatch records
  | .appendRawCamera camera => .appendRawCamera camera
  | .appendSample sample => .appendSample { sample with frameIndex := sampleCount }

def AsyncItem.calls (method : QueuedMethod) : AsyncItem δ ι → Bool
  | .call queued => queued.method = method
  | .terminal _ | .stop => false

/-- The item that the worker is at. -/
def Worker.hand : Worker δ ι → Option (AsyncItem δ ι)
  | .wrote queued | .expired queued _ => some (.call queued)
  | .judging sample _ | .crashed sample => some (.call (.appendSample sample))
  | .waiting | .collecting _ | .running | .flushing | .ended => none

/-- `AsyncEpisodeWriter` with its history. -/
structure AsyncWriter (δ ι : Type) [Double δ] where
  capacity : ℕ
  batchSize : ℕ
  queue : List (AsyncItem δ ι) := []
  /-- `_error is not None` -/
  error : Bool := false
  closed : Bool := false
  beginFailed : Bool := false
  /-- `sample_count` of the wrapped writer -/
  sampleCount : ℕ := 0
  worker : Worker δ ι := .waiting
  /-- what is left of the batch -/
  items : List (AsyncItem δ ι) := []
  stop : Bool := false
  /-- the producers that have put and not counted -/
  counting : List QueuedMethod := []
  enqueuedByMethod : QueuedMethod → ℕ := fun _ => 0
  writtenByMethod : QueuedMethod → ℕ := fun _ => 0
  dropByMethod : QueuedMethod → ℕ := fun _ => 0
  /-- the items that were put, in order -/
  accepted : List (AsyncItem δ ι) := []
  /-- the calls that found the queue full -/
  refused : List QueuedMethod := []
  /-- the items that the worker is done with -/
  done : List (AsyncItem δ ι × Verdict δ) := []
  /-- the calls of the wrapped writer -/
  log : List (WrappedCall δ ι) := []

/-- What a step of the worker meets. -/
structure Meeting where
  /-- `get_nowait` reports `Empty` -/
  empty : Bool := false
  answer : WrappedAnswer := .returned
  /-- the frames that `snapshot` finds -/
  found : CameraRole → Bool := fun _ => true
  /-- `snapshot` raises something else -/
  crashes : Bool := false
  /-- `flush_pending` is due and raises -/
  flushRaises : Bool := false

inductive AsyncStep (δ ι : Type) [Double δ]
  | enqueue (call : QueuedCall δ ι)
  /-- a producer behind `put_nowait` counts -/
  | counted (method : QueuedMethod)
  | terminal (call : TerminalCall)
  | close
  | putStop
  | work (m : Meeting)

/-- `quality` of `_write_expired_sample_quality`. -/
def expiredQuality (sample : CanonicalSample δ ι) (failedRole : CameraRole)
    (found : CameraRole → Bool) : Record δ :=
  let control : Json δ := .object [
    ("host_monotonic_ns", .int sample.control.hostMonotonicNs),
    ("accepted_target_sequence", .ofInt? sample.control.acceptedTargetSequence),
    ("arm_action_status", .text (match sample.control.armActionStatus with
      | .accepted => "accepted"
      | .heldRejected => "held_rejected")),
    ("hand_target", match sample.control.handTarget with
      | none => .list []
      | some target => .ofVector? (some target))]
  let camera := fun (role : CameraRole) (record : CameraRecord δ ι) =>
    let valid := role != failedRole && (record.sequence.isNone || found role)
    [(role.name ++ "_valid", Json.bool valid),
      (role.name ++ "_frame_sequence", .ofInt? record.sequence),
      (role.name ++ "_stale_reason", if valid then .null else .text "ring_reference_expired"),
      (role.name ++ "_age_ns", .int (max 0 (sample.timestampNs - record.hostMonotonicNs)))]
  Collector.qualityHeader sample.timestampNs sample.nominalSlotIndex "ring_reference_expired" ++
    [("control", control)] ++ camera .workspace sample.workspace ++ camera .wrist sample.wrist

namespace AsyncWriter

variable (s : AsyncWriter δ ι)

/-- `queue.put` where there is room. -/
def put (item : AsyncItem δ ι) : AsyncWriter δ ι :=
  { s with queue := s.queue ++ [item], accepted := s.accepted ++ [item] }

/-- `_enqueue` up to the counters. -/
def enqueue (call : QueuedCall δ ι) : AsyncWriter δ ι :=
  if s.error ∨ s.closed then s
  else if s.queue.length < s.capacity then
    { s.put (.call call) with counting := call.method :: s.counting }
  else
    { s with
      refused := call.method :: s.refused
      dropByMethod := Function.update s.dropByMethod call.method (s.dropByMethod call.method + 1) }

/-- The counters of `_enqueue`. -/
def counted (method : QueuedMethod) : AsyncWriter δ ι :=
  if method ∈ s.counting then
    { s with
      counting := s.counting.erase method
      enqueuedByMethod :=
        Function.update s.enqueuedByMethod method (s.enqueuedByMethod method + 1) }
  else s

/-- `put` with a timeout. -/
def putBlocking (item : AsyncItem δ ι) : AsyncWriter δ ι :=
  if s.queue.length < s.capacity then s.put item else s

/-- The worker is done with an item. -/
def finish (item : AsyncItem δ ι) (verdict : Verdict δ) : AsyncWriter δ ι :=
  { s with worker := .running, done := s.done ++ [(item, verdict)] }

/-- A call of the wrapped writer is logged. -/
def logged (call : WrappedCall δ ι) : AsyncWriter δ ι := { s with log := s.log ++ [call] }

/-- The call of a terminal item (lines 345–375). -/
def terminalCall (call : TerminalCall) : WriterCall δ ι × Option EpisodeStatus :=
  match call with
  | .finalize status reason releaseNs =>
    if s.beginFailed then (.discardRejectedStart "async_episode_begin_failure", none)
    else if s.error then (.finalize .aborted "async_data_write_failure" releaseNs, some .aborted)
    else (.finalize status reason releaseNs, some status)
  | .discardRejectedStart reason => (.discardRejectedStart reason, none)

/-- `_execute` up to the counters. -/
def execute (item : AsyncItem δ ι) (answer : WrappedAnswer) : AsyncWriter δ ι :=
  match item with
  | .stop =>
    let stopping := { s with stop := true }
    stopping.finish .stop .stopped
  | .terminal call =>
    (s.logged ⟨some (.terminal call), (s.terminalCall call).1, answer⟩).finish (.terminal call)
      (.terminated (s.terminalCall call).2)
  | .call call =>
    if s.error then s.finish (.call call) .skipped
    else
      let logged := s.logged ⟨some (.call call), call.wrapped s.sampleCount, answer⟩
      match answer with
      | .returned =>
        { logged with
          worker := .wrote call
          sampleCount :=
            if call.method = .appendSample then s.sampleCount + 1 else s.sampleCount }
      | .unavailable role => { logged with worker := .expired call role }
      | .raised =>
        let failed := { logged with
          beginFailed := s.beginFailed || decide (call.method = QueuedMethod.begin)
          error := true }
        failed.finish (.call call) .failed

/-- `_write_expired_sample_quality`. -/
def judge (sample : CanonicalSample δ ι) (role : CameraRole) (m : Meeting) : AsyncWriter δ ι :=
  if m.crashes then { s with worker := .crashed sample }
  else
    let quality := expiredQuality sample role m.found
    let logged := s.logged ⟨none, .appendRaw "data_quality" quality, m.answer⟩
    if m.answer = .returned then
      logged.finish (.call (.appendSample sample)) (.expired (some quality))
    else
      let failed := { logged with error := true }
      failed.finish (.call (.appendSample sample)) (.expired none)

/-- One step of `_run`. -/
def work (m : Meeting) : AsyncWriter δ ι :=
  match s.worker with
  | .waiting =>
    match s.queue with
    | [] => s
    | item :: rest =>
      { s with queue := rest, items := [item], worker := .collecting (s.batchSize - 1) }
  | .collecting 0 => { s with worker := .running }
  | .collecting (left + 1) =>
    match s.queue with
    | [] => { s with worker := .running }
    | item :: rest =>
      if m.empty then { s with worker := .running }
      else { s with queue := rest, items := s.items ++ [item], worker := .collecting left }
  | .running =>
    match s.items with
    | [] => { s with worker := if s.stop then .ended else .flushing }
    | item :: rest => AsyncWriter.execute { s with items := rest } item m.answer
  | .wrote call =>
    let counted := { s with
      writtenByMethod :=
        Function.update s.writtenByMethod call.method (s.writtenByMethod call.method + 1) }
    counted.finish (.call call) .written
  | .expired call role =>
    let counted := { s with
      dropByMethod := Function.update s.dropByMethod call.method (s.dropByMethod call.method + 1) }
    match call with
    | .appendSample sample => { counted with worker := .judging sample role }
    | call => counted.finish (.call call) (.expired none)
  | .judging sample role => s.judge sample role m
  | .flushing => { s with worker := .waiting, error := s.error || m.flushRaises }
  | .ended | .crashed _ => s

def step (i : AsyncStep δ ι) : AsyncWriter δ ι :=
  match i with
  | .enqueue call => s.enqueue call
  | .counted method => s.counted method
  | .terminal call => s.putBlocking (.terminal call)
  | .close => { s with closed := true }
  | .putStop => s.putBlocking .stop
  | .work m => s.work m

end AsyncWriter

end HandLab.Episode
