import HandLab.Lib.Ensures
import HandLab.SmoothSession.LiveRouter
import HandLab.Wire.Target

/-!
# The producer loop

The loop of `tools/quest_jaka_hardware.py` (lines 1217–1391 and 1810–1858) with
`JakaAcceptedJointTargetAdapter` (`src/teleoperation/jaka/quest_adapter.py`, lines
51–139) as the output of the session. The log of a producer holds what its ticks made
of the clutch and every packet that the adapter handed to the publisher.

What the loop learns from outside, and where a call between these lines raises, is in
`Iteration`; the episode recorder, the log and the diagnostics reach neither the
adapter nor the session.
-/

namespace HandLab.SmoothSession

open HandLab.Lib HandLab.Clutch HandLab.Quest HandLab.TargetGenerator HandLab.Wire

/-! ## Packets -/

/-- An exception. -/
inductive Interrupt
  | exception
  | keyboardInterrupt
  deriving DecidableEq, Repr

/-- What `publisher.publish` does with a packet. -/
inductive PublishOutcome
  | sent
  | dropped
  | raised (interrupt : Interrupt)
  deriving DecidableEq, Repr

/-- The header of a `TargetPacket`. -/
structure PacketHeader where
  kind : TargetKind
  sequence : ℕ
  localReceiveNs : ℤ
  processingNs : ℤ
  dispatchNs : ℤ
  deriving DecidableEq

/-- An entry of the log. -/
inductive ProducerEvent
  /-- an iteration of the loop begins -/
  | began
  /-- a tick has decided, and leaves the arm clutch engaged or not -/
  | ticked (engaged : Bool)
  | handed (packet : PacketHeader) (outcome : PublishOutcome)
  /-- the loop was left -/
  | left
  deriving DecidableEq

/-- The packet of an entry. -/
def ProducerEvent.packet? : ProducerEvent → Option PacketHeader
  | .handed packet _ => some packet
  | .began => none
  | .ticked _ => none
  | .left => none

/-- The members of `JakaAcceptedJointTargetAdapter` that change. -/
structure JakaAdapter where
  lastSequence : ℕ
  stopped : Bool
  deriving DecidableEq, Repr

structure Producer (α δ π ς μ : Type) where
  run : RouterRun α δ π ς μ
  adapter : JakaAdapter
  priorEngaged : Bool
  history : List ProducerEvent

/-- What one iteration of the loop meets. -/
structure Iteration (δ π : Type) where
  /-- the checks of the workers, with their diagnostics, raise -/
  atChecks : Option Interrupt
  rh56Failed : Bool
  workerExited : Bool
  /-- `receiver.raise_if_failed()` or `receiver.drain(…)` raises -/
  atDrain : Option Interrupt
  datagrams : List ReceivedHtsDatagram
  /-- `now >= next_tick` -/
  due : Bool
  /-- the collector or the clock raises before `router.poll` -/
  atPoll : Option Interrupt
  /-- the status or the paused reference raises -/
  atStatus : Option Interrupt
  /-- the tick, with `now_ns` -/
  tick : TickInput δ π
  /-- `time.monotonic_ns()` in the adapter -/
  clockNs : ℕ
  /-- `control_tick` raises after its call of the adapter -/
  atTick : Option Interrupt
  /-- the diagnosis of a failed dispatch raises -/
  atFailure : Option Interrupt
  /-- the terminal stop of the hand raises -/
  afterStop : Option Interrupt
  /-- the rest of the iteration raises -/
  atBody : Option Interrupt

variable {α δ π ς μ : Type}

/-- A program of the producer. -/
abbrev Program (α δ π ς μ β : Type) := EStateM Interrupt (Producer α δ π ς μ) β

namespace Producer

/-- A producer before its loop. -/
def init [LinearOrder α] [OrderBot α] (cache : ς) (armMapper : μ) : Producer α δ π ς μ :=
  ⟨.init cache armMapper, ⟨0, false⟩, false, []⟩

/-- An entry is added to the log. -/
def log (s : Producer α δ π ς μ) (event : ProducerEvent) : Producer α δ π ς μ :=
  { s with history := event :: s.history }

/-- The packets so far, the newest first. -/
def packets (s : Producer α δ π ς μ) : List PacketHeader :=
  s.history.filterMap ProducerEvent.packet?

end Producer

/-- An exception at a point of the program. -/
def raiseIf (interrupt : Option Interrupt) : Program α δ π ς μ Unit :=
  match interrupt with
  | none => pure ()
  | some i => throw i

/-! ## The adapter -/

section Adapter

variable (publish : ℕ → PublishOutcome)

/-- `publisher.publish(packet)`; its outcomes are numbered. -/
def hand (packet : PacketHeader) : Program α δ π ς μ Bool := fun s =>
  let outcome := publish s.packets.length
  let s := s.log (.handed packet outcome)
  match outcome with
  | .sent => .ok true s
  | .dropped => .ok false s
  | .raised interrupt => .error interrupt s

/-- `self.last_sequence += 1`. -/
def nextSequence : Program α δ π ς μ ℕ := fun s =>
  .ok (s.adapter.lastSequence + 1)
    { s with adapter := { s.adapter with lastSequence := s.adapter.lastSequence + 1 } }

/-- `dispatch_packet` of a packet that its constructor admits. -/
def dispatch (kind : TargetKind) (localReceiveNs processingNs dispatchNs : ℤ) (admitted : Bool) :
    Program α δ π ς μ Bool := do
  let sequence ← nextSequence
  if admitted then hand publish ⟨kind, sequence, localReceiveNs, processingNs, dispatchNs⟩
  else throw .exception

/-- `dispatch` unless the adapter has stopped. -/
def dispatchUnlessStopped (kind : TargetKind) (localReceiveNs processingNs dispatchNs : ℤ)
    (admitted : Bool) : Program α δ π ς μ Bool := do
  let s ← get
  if s.adapter.stopped then pure false
  else dispatch publish kind localReceiveNs processingNs dispatchNs admitted

/-- The host timestamps are positive and monotonic. -/
def timesAdmitted (localReceiveNs processingNs dispatchNs : ℤ) : Bool :=
  decide (0 < localReceiveNs) && decide (localReceiveNs ≤ processingNs) &&
    decide (processingNs ≤ dispatchNs)

/-- `apply` (lines 51–69). -/
def applyTarget (target : AcceptedArmTarget δ) (clockNs : ℕ) : Program α δ π ς μ Bool :=
  let dispatchNs := max (clockNs : ℤ) target.generatedMonotonicNs
  dispatchUnlessStopped publish .jointPosition target.inputReceiveMonotonicNs
    target.generatedMonotonicNs dispatchNs
    (timesAdmitted target.inputReceiveMonotonicNs target.generatedMonotonicNs dispatchNs)

/-- `heartbeat` (lines 105–121). -/
def sendHeartbeat (heartbeat : ArmControlHeartbeat) (clockNs : ℕ) : Program α δ π ς μ Bool :=
  let dispatchNs := max (clockNs : ℤ) heartbeat.generatedMonotonicNs
  dispatchUnlessStopped publish .heartbeat heartbeat.inputReceiveMonotonicNs
    heartbeat.generatedMonotonicNs dispatchNs
    (timesAdmitted heartbeat.inputReceiveMonotonicNs heartbeat.generatedMonotonicNs dispatchNs)

/-- `pause` (lines 128–139). -/
def pause (clockNs : ℕ) : Program α δ π ς μ Bool :=
  dispatchUnlessStopped publish .holdCurrent clockNs clockNs clockNs true

/-- `stop` (lines 123–126). -/
def stop (clockNs : ℕ) : Program α δ π ς μ Bool := do
  modify fun s => { s with adapter := { s.adapter with stopped := true } }
  dispatch publish .stop clockNs clockNs clockNs true

end Adapter

/-! ## The loop -/

section Loop

variable [LinearOrder α] [OrderBot α] [HtsFloat δ] (config : RouterConfig α)
  (mapper : ArmMapper μ π) (assembler : Assembler ς δ π) (publish : ℕ → PublishOutcome)

/-- A call of the router, whose exception leaves the program. -/
def routerCall (c : RouterCall δ π) : Program α δ π ς μ Unit := fun s =>
  let run := s.run.step config mapper assembler c
  if run.raised then .error .exception { s with run } else .ok () { s with run }

/-- `router.ingest` of every datagram. -/
def ingestAll : List ReceivedHtsDatagram → Program α δ π ς μ Unit
  | [] => pure ()
  | datagram :: rest => do
    routerCall config mapper assembler (.ingest datagram)
    ingestAll rest

/-- The arm clutch is engaged. -/
def Producer.isEngaged (s : Producer α δ π ς μ) : Bool :=
  decide (s.run.session.armClutch.state = .engaged)

/-- What `control_tick` does to the session; its entry is logged before the call of the
    adapter. -/
def decideTick (input : TickInput δ π) : Program α δ π ς μ (Decision δ) := fun s =>
  let (entry, session) := s.run.session.controlTick config.session mapper assembler input
  let s := { s with run := { s.run with session } }
  .ok ((entry.map TickEntry.decision).getD .raised) (s.log (.ticked s.isEngaged))

/-- The call of the adapter, with `reason` and `output_applied` of the tick. -/
def output (clockNs : ℕ) : Decision δ → Program α δ π ς μ (TickReason × Bool)
  | .raised => throw .exception
  | .silent reason => pure (reason, false)
  | .heartbeat heartbeat => do
    let applied ← sendHeartbeat publish heartbeat clockNs
    pure (heartbeat.reason, applied)
  | .apply target => do
    let applied ← applyTarget publish target clockNs
    pure (.feasibility .accepted, applied)

/-- `_control_output_failed` (lines 625–628). -/
def controlOutputFailed (reason : TickReason) (outputApplied : Bool) : Bool :=
  decide (reason ≠ .disengaged) && !outputApplied

/-- The engaged edge (lines 1370–1385); whether the pause has failed. -/
def engagedEdge (clockNs : ℕ) (dispatchFailed : Bool) : Program α δ π ς μ Bool := do
  let s ← get
  let paused ←
    if s.priorEngaged && !s.isEngaged && !dispatchFailed then pause publish clockNs else pure true
  modify fun s => { s with priorEngaged := s.isEngaged }
  pure !paused

/-- A tick of the loop (lines 1313–1385 and 1810); whether the loop goes on. -/
def tickIteration (i : Iteration δ π) : Program α δ π ς μ Bool := do
  let decision ← decideTick config mapper assembler i.tick
  let (reason, applied) ← output publish i.clockNs decision
  raiseIf i.atTick
  let dispatchFailed := controlOutputFailed reason applied
  if dispatchFailed then do
    raiseIf i.atFailure
    let _ ← stop publish i.clockNs
    raiseIf i.afterStop
  let pauseFailed ← engagedEdge publish i.clockNs dispatchFailed
  raiseIf i.atBody
  pure !(dispatchFailed || pauseFailed)

/-- One iteration (lines 1218–1810); whether the loop goes on. -/
def iteration (i : Iteration δ π) : Program α δ π ς μ Bool := do
  modify fun s => s.log .began
  raiseIf i.atChecks
  if i.rh56Failed || i.workerExited then do
    let _ ← stop publish i.clockNs
    raiseIf i.afterStop
    pure false
  else do
    raiseIf i.atDrain
    ingestAll config mapper assembler i.datagrams
    if !i.due then pure true
    else do
      raiseIf i.atPoll
      routerCall config mapper assembler (.poll i.tick.nowNs)
      raiseIf i.atStatus
      tickIteration config mapper assembler publish i

/-- The loop, which meets these iterations before its time is over. -/
def loop : List (Iteration δ π) → Program α δ π ς μ Unit
  | [] => pure ()
  | i :: rest => do
    let more ← iteration config mapper assembler publish i
    if more then loop rest else pure ()

/-- The loop with the release of the receiver and of the log, which may raise. -/
def guardedLoop (inputs : List (Iteration δ π)) (closing : Option Interrupt) :
    Program α δ π ς μ Unit := do
  tryCatch (loop config mapper assembler publish inputs) fun interrupt => do
    modify fun s => s.log .left
    raiseIf closing
    throw interrupt
  modify fun s => s.log .left
  raiseIf closing

/-- The handler of `KeyboardInterrupt` (lines 1828–1843). -/
def handleInterrupt (clockNs : ℕ) : Interrupt → Program α δ π ς μ Unit
  | .keyboardInterrupt => do
    let _ ← stop publish clockNs
    pure ()
  | .exception => throw .exception

/-- `if not jaka_adapter.stopped: jaka_adapter.stop()` (lines 1850–1851). -/
def cleanup (clockNs : ℕ) : Program α δ π ς μ Unit := do
  let s ← get
  if s.adapter.stopped then pure ()
  else do
    let _ ← stop publish clockNs
    pure ()

/-- The producer from the loop to the end of its cleanup (lines 1217–1851). -/
def producerMain (inputs : List (Iteration δ π)) (closing : Option Interrupt) (clockNs : ℕ) :
    Program α δ π ς μ Unit := do
  tryCatch
    (tryCatch (guardedLoop config mapper assembler publish inputs closing)
      (handleInterrupt publish clockNs))
    fun interrupt => do
      cleanup publish clockNs
      throw interrupt
  cleanup publish clockNs

end Loop

end HandLab.SmoothSession
