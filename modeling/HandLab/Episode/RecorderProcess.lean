import HandLab.Lib.DropOldest
import HandLab.Episode.Samples

/-!
# The recorder process

`ProcessEpisodeRecorder.send`, `send_camera` and `request`, and the loop of
`_recorder_process_main_impl` (`src/episode_dataset/process_runtime.py`), cut at
every access to a queue and to the shared counter `camera_pending`. One step is one
such access, so a list of steps is an interleaving of the callers with the loop.

`put_nowait` raises `Full` at the capacity only, and a `get_nowait` or a `get` with a
timeout may report `Empty` at any time. What the collector does with a command
is left to the step: it may raise. A camera descriptor is known by its number among
those of its role; the payloads, which no code here reads, are left out.
-/

namespace HandLab.Episode

open HandLab.Lib

/-- The next role, modulo two. -/
def CameraRole.other : CameraRole → CameraRole
  | .workspace => .wrist
  | .wrist => .workspace

/-- The kinds of control commands; `unknown` is any other kind. -/
inductive CommandKind
  | control | flushCamera | finish | abort | discardCurrent | shutdown | finalizePending
  | rotate | stop | unknown
  deriving DecidableEq, Repr

structure ControlCommand where
  kind : CommandKind
  /-- its number among the commands that were put -/
  number : ℕ
  /-- the number of descriptors of each role whose sending had started before -/
  cameras : CameraRole → ℕ

/-- The three scans of the camera queues in `next_command`. -/
inductive Scan
  /-- while descriptors are pending (lines 1405–1413) -/
  | pending
  /-- before the control queue (lines 1414–1422) -/
  | early
  /-- behind the control queue (lines 1429–1436) -/
  | late
  deriving DecidableEq, Repr

/-- The queue accesses of `take_camera`. -/
inductive TakeStage
  | nowait | check | wait
  deriving DecidableEq, Repr

/-- Where a camera descriptor is ingested. -/
inductive Ingestion
  | loop | flush
  deriving DecidableEq, Repr

/-- Where the loop of the recorder is. -/
inductive Doing
  /-- at the test of the deferred command -/
  | top
  /-- at the first read of `next_command` -/
  | next
  | take (scan : Scan) (second : Bool) (stage : TakeStage)
  | getControl
  | waitControl
  /-- a control command has been taken -/
  | judge (command : ControlCommand)
  | camera (role : CameraRole) (ingestion : Ingestion)
  | mark (role : CameraRole) (ingestion : Ingestion)
  | control (command : ControlCommand)
  | flush (role : CameraRole) (drained : Bool)
  | ended

/-- What a step of the loop meets: a queue that reports `Empty`, an exception of
    the command, and an exception that leaves the loop. -/
structure Outcome where
  empty : Bool := false
  raises : Bool := false
  crashes : Bool := false
  deriving DecidableEq, Repr

/-- What is done after the scan found nothing. -/
def Scan.exhausted : Scan → Doing
  | .pending => .top
  | .early => .getControl
  | .late => .waitControl

/-- `camera_burst` after the scan found a descriptor. -/
def Scan.burst (scan : Scan) (cameraBurst : ℕ) : ℕ :=
  match scan with
  | .pending | .late => min (cameraBurst + 1) 2
  | .early => cameraBurst + 1

/-- Where the loop continues after a descriptor has been marked. -/
def Ingestion.resumed (role : CameraRole) : Ingestion → Doing
  | .loop => .top
  | .flush => match role with
    | .workspace => .flush .wrist true
    | .wrist => .flush .workspace false

/-- Where the loop continues after a control command. -/
def CommandKind.resumed (kind : CommandKind) (o : Outcome) : Doing :=
  match kind with
  | .flushCamera => .flush .workspace false
  | .stop | .finalizePending => .ended
  | .control | .finish | .abort | .discardCurrent | .shutdown | .rotate | .unknown =>
    if o.crashes then .ended else .top

/-- The handle, the queues and the loop, with the history of the commands. -/
structure Recorder where
  capacity : ℕ
  error : Bool := false
  controlDrops : ℕ := 0
  controlCommands : List ControlCommand := []
  lanes : CameraRole → Lane := fun _ => { capacity }
  cameraPending : ℤ := 0
  doing : Doing := .top
  deferredControl : Option ControlCommand := none
  cameraBurst : ℕ := 0
  nextCameraRole : CameraRole := .workspace
  sentControls : List ControlCommand := []
  executedControls : List ControlCommand := []

namespace Recorder

variable (s : Recorder)

/-- The recorder with another lane of the role. -/
def withLane (role : CameraRole) (lane : Lane) : Recorder :=
  { s with lanes := Function.update s.lanes role lane }

/-! ## The handle -/

/-- The put of `send` and `request`. -/
def putControl (kind : CommandKind) : Recorder :=
  if s.controlCommands.length < s.capacity then
    let command : ControlCommand :=
      ⟨kind, s.sentControls.length, fun role => (s.lanes role).sent⟩
    { s with
      controlCommands := s.controlCommands ++ [command]
      sentControls := s.sentControls ++ [command] }
  else { s with error := true, controlDrops := s.controlDrops + 1 }

/-- `send` -/
def send (kind : CommandKind) : Recorder := if s.error then s else s.putControl kind

/-- The beginning of `send_camera`, up to the count. -/
def sendCamera (role : CameraRole) : Recorder :=
  if s.error then s
  else match (s.lanes role).sending with
    | .idle => { s.withLane role (s.lanes role).start with cameraPending := s.cameraPending + 1 }
    | _ => s

/-- The next step of a `send_camera`. -/
def advanceCamera (role : CameraRole) (empty : Bool) : Recorder :=
  let (lane, change) := (s.lanes role).advance empty
  { s.withLane role lane with cameraPending := s.cameraPending + change }

/-! ## The loop -/

/-- The `get` of a descriptor, or else what is `missed`. -/
def getCamera (role : CameraRole) (ingestion : Ingestion) (o : Outcome) (missed : Recorder) :
    Recorder :=
  match (s.lanes role).queue with
  | [] => missed
  | n :: queue =>
    if o.empty then missed
    else { s.withLane role ((s.lanes role).take n queue) with doing := .camera role ingestion }

/-- One queue access of `take_camera` within a scan. -/
def takeCamera (scan : Scan) (second : Bool) (stage : TakeStage) (o : Outcome) : Recorder :=
  let role := if second then s.nextCameraRole.other else s.nextCameraRole
  let found := { s with nextCameraRole := role.other, cameraBurst := scan.burst s.cameraBurst }
  let missed := if second then scan.exhausted else .take scan true .nowait
  match stage with
  | .nowait => found.getCamera role .loop o { s with doing := .take scan second .check }
  | .check =>
    if s.cameraPending ≤ 0 then { s with doing := missed }
    else { s with doing := .take scan second .wait }
  | .wait => found.getCamera role .loop o { s with doing := missed }

/-- The `get` of a control command. -/
def takeControl (o : Outcome) (missed : Doing) : Recorder :=
  match s.controlCommands with
  | [] => { s with doing := missed }
  | command :: controlCommands =>
    if o.empty then { s with doing := missed }
    else { s with controlCommands, cameraBurst := 0, doing := .judge command }

/-- One step of the loop. -/
def loop (o : Outcome) : Recorder :=
  match s.doing with
  | .top =>
    match s.deferredControl with
    | some command =>
      if s.cameraPending ≤ 0 then { s with deferredControl := none, doing := .judge command }
      else { s with doing := .next }
    | none => { s with doing := .next }
  | .next =>
    if 0 < s.cameraPending then { s with doing := .take .pending false .nowait }
    else if s.cameraBurst < 2 then { s with doing := .take .early false .nowait }
    else { s with doing := .getControl }
  | .take scan second stage => s.takeCamera scan second stage o
  | .getControl => s.takeControl o (.take .late false .nowait)
  | .waitControl => s.takeControl o .top
  | .judge command =>
    if 0 < s.cameraPending then { s with deferredControl := some command, doing := .top }
    else { s with doing := .control command }
  | .camera role ingestion =>
    let executed := s.withLane role (s.lanes role).execute
    if o.raises then
      -- the exception skips `mark_camera_processed`
      { executed.withLane role (s.lanes role).execute.release with
        doing := if o.crashes then .ended else .top }
    else { executed with doing := .mark role ingestion }
  | .mark role ingestion =>
    { s.withLane role (s.lanes role).release with
      cameraPending := max 0 (s.cameraPending - 1)
      doing := ingestion.resumed role }
  | .control command =>
    { s with
      executedControls := s.executedControls ++ [command]
      doing := command.kind.resumed o }
  | .flush role drained =>
    s.getCamera role .flush o { s with
      doing := match role with
        | .workspace => .flush .wrist drained
        | .wrist => if drained then .flush .workspace false else .top }
  | .ended => s

end Recorder

/-! ## Interleavings -/

/-- A step of a caller or of the loop. -/
inductive RecorderStep
  /-- `poll` finds an error of the process -/
  | fails
  | send (kind : CommandKind)
  | request (kind : CommandKind)
  | sendCamera (role : CameraRole)
  | advanceCamera (role : CameraRole) (empty : Bool)
  | loop (o : Outcome)
  deriving DecidableEq, Repr

def Recorder.step (s : Recorder) : RecorderStep → Recorder
  | .fails => { s with error := true }
  | .send kind => s.send kind
  | .request kind => s.putControl kind
  | .sendCamera role => s.sendCamera role
  | .advanceCamera role empty => s.advanceCamera role empty
  | .loop o => s.loop o

end HandLab.Episode
