import HandLab.ServoWorker.OutputMotion
import HandLab.Wire.Target

/-!
# The command loop of the servo worker

The loop of `run` in `native/jaka_servo_worker/main.cpp` (lines 2573–3194) in the
joint teleop and zero-motion modes. Both enter EDG before the loop, so the branch
that re-arms the timing after a later activation is never taken.

A cycle waits for its deadline, classifies how late it started, takes the newest
packet, commands the servo point of its evaluation time, and classifies how late it
completed. What it reads is its input: the clock, the packet that `drain_newest`
lets pass, and whether the calls of the backend and the checks between
`check_final` and the commits return. A wait ends at its deadline, or before it
when a signal sets `g_stop`; delays of the fake backend are part of the readings.
-/

namespace HandLab.ServoWorker

open HandLab.Lib
open HandLab.Resampler (Joints JointServoResampler withinPositionLimits)
open HandLab.Wire (TargetKind)

variable {δ : Type*}

/-! ## Options -/

/-- What the loop reads of `Options`, as `parse_options` lets it pass. -/
structure LoopOptions (δ : Type*) extends OutputOptions δ where
  /-- joint teleop rather than zero motion -/
  teleop : Bool
  servoStepNum : UInt32 := 1
  /-- `static_cast<std::uint64_t>(o.duration_s * 1e9)` -/
  durationNs : UInt64 := 5000000000
  holdNs : UInt64 := 100000000
  stopNs : UInt64 := 500000000
  fatalNs : UInt64 := 2000000000
  /-- `servo step number must be in [1, 16]` -/
  stepNum_mem : 1 ≤ servoStepNum.toNat ∧ servoStepNum.toNat ≤ 16

/-- `o.servo_period_ns = kControllerServoPeriodNs * o.servo_step_num`. -/
def LoopOptions.servoPeriodNs (o : LoopOptions δ) : UInt64 :=
  Resampler.controllerServoPeriodNs * o.servoStepNum.toUInt64

/-- `kMaximumSamples`. -/
def maximumSamples : ℕ := 250000

/-- `kTargetAllowMotion`. -/
def targetAllowMotion : UInt32 := 1

/-! ## Inputs -/

/-- A packet that `drain_newest` lets pass, with the first six values of its payload. -/
structure ServoTarget (δ : Type*) where
  kind : TargetKind
  flags : UInt32
  frameId : UInt32
  sequence : UInt64
  processingNs : UInt64
  dispatchNs : UInt64
  payload : Joints δ

/-- What one pass of the loop reads. -/
structure CycleInput (δ : Type*) where
  /-- a signal has set `g_stop` before the condition of the loop is read -/
  signalled : Bool := false
  /-- a signal sets `g_stop` during the wait and ends it -/
  interrupted : Bool := false
  cycleStart : UInt64
  packet : Option (ServoTarget δ) := none
  invalidCommand : Bool := false
  transportFailure : Bool := false
  /-- the state and the controller health can be read -/
  observed : Bool := true
  commandStart : UInt64
  /-- the checks after `check_final` and the SDK call return -/
  dispatched : Bool := true
  cycleEnd : UInt64

inductive LoopEnd (δ : Type*)
  /-- `g_stop`, or `samples.count` at its maximum -/
  | loopCondition
  /-- `zero_motion_duration_complete` or `maximum_session_duration` -/
  | durationComplete
  | hardStartTimingMiss
  | consecutiveStartTimingMisses
  /-- `recoverable hold-current contract mismatch` -/
  | holdContract
  /-- `joint target motion flag does not match native execution mode` -/
  | targetFlags
  /-- `Quest JAKA adapter accepts only absolute J1..J6 joint targets` -/
  | targetKind
  /-- `first Quest joint target is not aligned with measured startup pose` -/
  | startupAlignment
  /-- `producer heartbeat contract mismatch` -/
  | heartbeatContract
  | targetTransportFailure
  | invalidCommand
  | operatorStopCommand
  | commandStreamTimeout
  | fatalTargetTimeout
  | controlledStopTargetTimeout
  | observation
  | hardCompletionTimingMiss
  | fault (fault : OutputFault δ)
  deriving DecidableEq

/-! ## State -/

structure CommandedCycle where
  deadline : UInt64
  cycleStart : UInt64
  servoEvaluationTime : UInt64
  deriving DecidableEq

/-- The locals of the loop. `clock` is the last reading of the clock, and `commanded` the
    cycles so far that have commanded, newest first. -/
structure ServoLoop (δ : Type*) where
  servo : ServoRun δ
  start : UInt64
  deadline : UInt64
  previous : UInt64
  clock : UInt64
  stop : Bool := false
  consecutiveTimingWarnings : ℕ := 0
  consecutiveCompletionMisses : ℕ := 0
  startupTimingCycles : ℕ := 0
  startupTimingGraceActive : Bool
  everReceived : Bool := false
  lastDispatch : UInt64 := 0
  commandReference : Joints δ
  firstExternalJointTargetReceived : Bool := false
  samples : ℕ := 0
  commanded : List CommandedCycle := []
  ended : Option (LoopEnd δ) := none

namespace ServoLoop

/-- The locals before the loop, after the handoff at `qHold` (lines 2520–2574). -/
def enter (o : LoopOptions δ) (output : ServoOutput δ) (qHold : Joints δ) (start : UInt64) :
    ServoLoop δ where
  servo := { output }
  start
  deadline := start
  previous := start
  clock := start
  startupTimingGraceActive := o.teleop
  commandReference := qHold

variable (o : LoopOptions δ) (s : ServoLoop δ) (i : CycleInput δ)

/-! ## The start of a cycle -/

/-- The wait for the deadline (lines 2578–2588). -/
def wait : ServoLoop δ :=
  { s with
    deadline := s.deadline + o.servoPeriodNs
    stop := s.stop || i.interrupted
    clock := i.cycleStart }

/-- The grace at the start of a session (lines 2591–2596). -/
def updateGrace : ServoLoop δ :=
  if !s.startupTimingGraceActive then s
  else if s.everReceived || decide (o.startupTimingGraceCycles.toNat ≤ s.startupTimingCycles) then
    { s with startupTimingGraceActive := false }
  else { s with startupTimingCycles := s.startupTimingCycles + 1 }

/-- `start_period`. -/
def startPeriod : UInt64 := i.cycleStart - s.previous

/-- `wake_lateness`. -/
def wakeLateness : UInt64 :=
  if s.deadline < i.cycleStart then i.cycleStart - s.deadline else 0

/-- `startup_grace`. -/
def startupGrace : Bool := s.startupTimingGraceActive && !s.everReceived

/-- A start that ends the loop at once (lines 2625–2626). -/
def hardStart : Bool :=
  decide (2 * o.servoPeriodNs < s.startPeriod i) ||
    (decide (o.servoPeriodNs ≤ s.wakeLateness i) && !s.startupGrace)

/-- `warning`, which asks for a realignment. -/
def startWarning : Bool :=
  decide (o.servoPeriodNs + 800000 < s.startPeriod i) || decide (2000000 < s.wakeLateness i)

/-- The classification of the start (lines 2597–2685). -/
def classifyStart : Except (LoopEnd δ) (ServoLoop δ) :=
  let warnings := if s.startWarning o i then s.consecutiveTimingWarnings + 1 else 0
  if o.durationNs ≤ i.cycleStart - s.start then .error .durationComplete
  else if s.hardStart o i then .error .hardStartTimingMiss
  else if 2 ≤ warnings ∧ s.startupGrace = false then .error .consecutiveStartTimingMisses
  else .ok { s with consecutiveTimingWarnings := warnings }

/-! ## The packet -/

section Packet

variable [Double δ]

/-- An event of the output side, and its fault. -/
def output (event : ServoEvent δ) : Except (LoopEnd δ) (ServoLoop δ) :=
  let servo := s.servo.step o.toOutputOptions event
  match servo.fault with
  | some fault => .error (.fault fault)
  | none => .ok { s with servo }

/-- `startup_delta`. -/
def startupDelta (solution : Joints δ) : δ :=
  (List.finRange 6).foldl (fun delta j =>
    Double.max delta (Double.abs (Double.sub (solution j) (s.commandReference j)))) Double.zero

/-- A joint target in the teleop mode (lines 2783–2829). -/
def receiveTarget (packet : ServoTarget δ) : Except (LoopEnd δ) (ServoLoop δ) :=
  if packet.flags ≠ targetAllowMotion then .error .targetFlags
  else if packet.kind ≠ .jointPosition ∨ packet.frameId ≠ 0 then .error .targetKind
  else if !withinPositionLimits packet.payload then .error (.fault .positionLimits)
  else if !s.firstExternalJointTargetReceived &&
      Double.lt o.startupAlignmentToleranceRad (s.startupDelta packet.payload) then
    .error .startupAlignment
  else
    { s with firstExternalJointTargetReceived := true }.output o
      (.accept packet.payload packet.processingNs packet.sequence)

/-- A packet in the teleop mode (lines 2700–2839), but for the stop, which ends the loop
    only after the failures of the transport. -/
def receivePacket (packet : ServoTarget δ) : Except (LoopEnd δ) (ServoLoop δ) :=
  let s := { s with lastDispatch := packet.dispatchNs, everReceived := true }
  match packet.kind with
  | .stop => .ok s
  | .holdCurrent =>
    if packet.flags ≠ 0 ∨ packet.frameId ≠ 0 then .error .holdContract
    else s.output o (.hold packet.processingNs packet.sequence)
  | .heartbeat =>
    if packet.flags ≠ targetAllowMotion ∨ packet.frameId ≠ 0 then .error .heartbeatContract
    else .ok s
  | .jointPosition | .cartesianPose => s.receiveTarget o packet

/-- `age`. -/
def age : UInt64 :=
  if s.everReceived then i.cycleStart - Min.min i.cycleStart s.lastDispatch else 0

/-- The ends of the loop between the packet and the evaluation (lines 2841–2878). -/
def checkReceived (stopped : Bool) : Option (LoopEnd δ) :=
  if i.transportFailure then some .targetTransportFailure
  else if i.invalidCommand then some .invalidCommand
  else if stopped then some .operatorStopCommand
  else if o.teleop && s.everReceived && decide (o.holdNs ≤ s.age i) then
    some .commandStreamTimeout
  else if s.everReceived && decide (o.fatalNs ≤ s.age i) then some .fatalTargetTimeout
  else if s.everReceived && decide (o.stopNs ≤ s.age i) then some .controlledStopTargetTimeout
  else if !i.observed then some .observation
  else none

/-- `drain_newest` and what follows it up to the evaluation (lines 2694–2878); it is not
    called in the zero-motion mode. -/
def receive : Except (LoopEnd δ) (ServoLoop δ) :=
  if !o.teleop then
    match s.checkReceived o { i with invalidCommand := false, transportFailure := false } false with
    | some reason => .error reason
    | none => .ok s
  else
    match i.packet with
    | none =>
      match s.checkReceived o i false with
      | some reason => .error reason
      | none => .ok s
    | some packet =>
      match s.receivePacket o packet with
      | .error reason => .error reason
      | .ok s =>
        match s.checkReceived o i (packet.kind == .stop) with
        | some reason => .error reason
        | none => .ok s

end Packet

/-! ## The end of a cycle -/

/-- `servo_evaluation_time` (lines 2917–2918). -/
def servoEvaluationTime (scheduleRealign : Bool) : UInt64 :=
  if scheduleRealign then i.cycleStart else s.deadline

/-- `cycle_end > deadline + o.servo_period_ns`. -/
def completesLate : Bool := decide (s.deadline + o.servoPeriodNs < i.cycleEnd)

/-- A completion that ends the loop (lines 3152–3154). -/
def hardCompletion (misses : ℕ) : Bool :=
  decide (s.deadline + o.servoPeriodNs + o.servoPeriodNs / 2 < i.cycleEnd) ||
    (!s.startupGrace && decide (2 ≤ misses))

/-- The classification of the completion and the realignment (lines 3102–3194). -/
def complete (scheduleRealign : Bool) : ServoLoop δ :=
  let late := s.completesLate o i
  let misses := if late then s.consecutiveCompletionMisses + 1 else 0
  let s' := { s with
    previous := i.cycleStart
    clock := i.cycleEnd
    samples := s.samples + 1
    consecutiveCompletionMisses := misses }
  if late && s.hardCompletion o i misses then { s' with ended := some .hardCompletionTimingMiss }
  else if late then { s' with deadline := i.cycleEnd, previous := i.cycleEnd }
  else if scheduleRealign then { s' with deadline := i.cycleStart }
  else s'

section Command

variable [Double δ]

/-- The command and what follows it (lines 2912–3194). -/
def command (scheduleRealign : Bool) : ServoLoop δ :=
  let time := s.servoEvaluationTime i scheduleRealign
  match s.servo.output.select o.toOutputOptions time i.commandStart with
  | .error fault => { s with ended := some (.fault fault) }
  | .ok (selected, diagnostics) =>
    if !i.dispatched then { s with ended := some (.fault .notDispatched) }
    else
      let servo := s.servo.emit selected diagnostics
      let s := { s with servo, commanded := ⟨s.deadline, i.cycleStart, time⟩ :: s.commanded }
      match servo.fault with
      | some fault => { s with ended := some (.fault fault) }
      | none => s.complete o i scheduleRealign

end Command

/-- One pass of the loop. -/
def cycle [Double δ] (o : LoopOptions δ) (s : ServoLoop δ) (i : CycleInput δ) : ServoLoop δ :=
  if s.ended.isSome then s
  else if s.stop || i.signalled || decide (maximumSamples ≤ s.samples) then
    { s with ended := some .loopCondition }
  else
    let woken := (s.wait o i).updateGrace o
    match woken.classifyStart o i with
    | .error reason => { woken with ended := some reason }
    | .ok started =>
      match started.receive o i with
      | .error reason => { started with ended := some reason }
      | .ok received => received.command o i (woken.startWarning o i)

end ServoLoop

end HandLab.ServoWorker
