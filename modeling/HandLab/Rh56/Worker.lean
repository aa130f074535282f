import HandLab.Rh56.Control

/-!
# `RH56PcDirectWorker`

The worker of `src/rh56_driver/pc_direct_worker.py` (lines 32–598, 707–742 and
775–860): the producer's calls, which only touch the mailbox, and `run_cycle`,
which runs one serial operation. A producer call takes the lock, so it falls
between two cycles or acts on a snapshot already taken; a run is a list of
calls.

`serveCycle` is the loop body of `_run`: a cycle that returns `False` ends the
loop, and one that raises ends it with the failure latched.
-/

namespace HandLab.Rh56

open HandLab.Lib Double PyFloat

variable {κ δ : Type*} [PyFloat δ]

/-! ## State -/

/-- `PendingTarget`. -/
structure PendingTarget (δ : Type*) where
  values : Channels δ
  sequence : ℕ
  submittedMonotonicNs : ℤ
  measuredActivation : Bool

/-- What the worker reads from the configuration. -/
structure WorkerConfig (δ : Type*) [Double δ] extends ControlConfig δ where
  feedbackPeriodNs : FeedbackRegister → ℤ
  staleCommandDropEnabled : Bool
  staleCommandMaxAgeNs : ℤ
  staleCommandMaxAge_pos : 0 < staleCommandMaxAgeNs

/-- An entry of `_feedback_schedule`: the two times that the scheduling uses, and
    the counts. -/
structure FeedbackSchedule where
  nextDueNs : Option ℤ
  lastSuccessNs : Option ℤ
  successCount : ℕ
  failureCount : ℕ

/-- What a cycle did. -/
inductive CycleOutcome (δ : Type*)
  /-- the controller was stopped for the terminal reason -/
  | stopped
  /-- `control.activate` raised -/
  | notActivated (error : ControlError)
  /-- a target was dropped as stale -/
  | staleDropped (target : PendingTarget δ)
  /-- `control.command` was called for a target -/
  | commanded (target : PendingTarget δ) (forceWrite : Bool) (result : Except ControlError Bool)
  /-- `control.command` was called for a contact relief -/
  | relieved (result : Except ControlError Bool)
  /-- a feedback register was polled -/
  | polled (register : FeedbackRegister) (error : Option ControlError)
  | idle

/-- One call of the producer, or one cycle. -/
inductive WorkerEvent (δ : Type*)
  /-- `activate_from_measured` puts a target -/
  | activation (sequence : ℕ)
  /-- `submit_target` puts a target -/
  | submitted (sequence : ℕ)
  /-- `hold` clears the mailbox -/
  | held
  /-- `arm_terminal_stop` clears the mailbox -/
  | terminalStop
  | cycle (outcome : CycleOutcome δ)

/-- The members of `RH56PcDirectWorker` that its methods decide on, with its
    controller and the history, newest first. `running` says that the loop of
    `_run` goes on. -/
structure Worker (κ δ : Type*) where
  machine : Machine κ δ
  running : Bool
  activeRequested : Bool
  pendingTarget : Option (PendingTarget δ)
  forceWritePending : Bool
  holdReason : String
  terminalReason : Option String
  feedback : Option (PcDirectFeedback δ)
  failure : Option ControlError
  submittedSequence : ℕ
  writtenSequence : Option ℕ
  evaluatedSequence : ℕ
  commandDueNs : Option ℤ
  schedule : FeedbackRegister → FeedbackSchedule
  history : List (WorkerEvent δ)

/-- `RH56PcDirectWorker` after `__init__`, on a new controller. -/
def Worker.init (context : κ) : Worker κ δ where
  machine := .init context
  running := false
  activeRequested := false
  pendingTarget := none
  forceWritePending := false
  holdReason := "startup"
  terminalReason := none
  feedback := none
  failure := none
  submittedSequence := 0
  writtenSequence := none
  evaluatedSequence := 0
  commandDueNs := none
  schedule := fun _ => ⟨none, none, 0, 0⟩
  history := []

namespace Worker

/-- An event is added to the history. -/
def record (w : Worker κ δ) (event : WorkerEvent δ) : Worker κ δ :=
  { w with history := event :: w.history }

/-- The controller has moved on. -/
def withMachine (w : Worker κ δ) (machine : Machine κ δ) : Worker κ δ := { w with machine }

end Worker

/-- What the producer's calls raise. -/
inductive WorkerError
  /-- `RuntimeError("RH56 PC-direct worker failed")` -/
  | failed
  /-- `RuntimeError("RH56 feedback is stale or absent at grip engagement.")` -/
  | staleFeedback
  /-- `ValueError("RH56 worker target must have six canonical channels.")` -/
  | targetSize
  deriving DecidableEq

/-! ## The producer -/

section Producer

/-- `activation_target` (lines 192–195). -/
def activationTarget (feedback : PcDirectFeedback δ) : Channels δ :=
  fun i => pyMin (ofRat 1) (pyMax zero (feedback.positionNormalized i))

/-- The worker's feedback is at most `feedback_stale_timeout_ns` old. -/
def freshFeedback (config : WorkerConfig δ) (w : Worker κ δ) (monotonicNs : ℤ) :
    Option (PcDirectFeedback δ) :=
  w.feedback.filter fun feedback =>
    decide (monotonicNs - feedback.monotonicNs ≤ config.feedbackStaleTimeoutNs)

/-- `activate_from_measured` (lines 181–215). -/
def activateFromMeasured (config : WorkerConfig δ) (w : Worker κ δ) (monotonicNs : ℤ) :
    Except WorkerError (Channels δ) × Worker κ δ :=
  if w.failure.isSome then (.error .failed, w)
  else
    match freshFeedback config w monotonicNs with
    | none => (.error .staleFeedback, w)
    | some feedback =>
      let sequence := w.submittedSequence + 1
      (.ok (activationTarget feedback), { w with
        activeRequested := true
        submittedSequence := sequence
        pendingTarget := some ⟨activationTarget feedback, sequence, monotonicNs, true⟩
        forceWritePending := true
        commandDueNs := some monotonicNs }.record (.activation sequence))

/-- `submit_target` (lines 217–260). -/
def Worker.submitTarget (w : Worker κ δ) (target : List δ) (monotonicNs : ℤ) :
    Except WorkerError Unit × Worker κ δ :=
  if w.failure.isSome then (.error .failed, w)
  else
    match Channels.ofList? target with
    | none => (.error .targetSize, w)
    | some values =>
      if w.terminalReason.isSome then (.ok (), w)
      else
        let sequence := w.submittedSequence + 1
        (.ok (), { w with
          submittedSequence := sequence
          pendingTarget := some ⟨values, sequence, monotonicNs, false⟩ }.record
            (.submitted sequence))

/-- `hold` (lines 262–268). -/
def Worker.hold (w : Worker κ δ) (reason : String) : Worker κ δ :=
  { w with
    activeRequested := false
    pendingTarget := none
    forceWritePending := false
    holdReason := reason }.record .held

/-- `arm_terminal_stop` (lines 270–280). -/
def Worker.armTerminalStop (w : Worker κ δ) (reason : String) : Worker κ δ :=
  { w with
    terminalReason := w.terminalReason.or (some reason)
    activeRequested := false
    pendingTarget := none
    forceWritePending := false }.record .terminalStop

end Producer

/-! ## Scheduling -/

/-- `_advance_deadline` (lines 776–780). -/
def advanceDeadline (dueNs periodNs nowNs : ℤ) : ℤ :=
  let nextDueNs := dueNs + periodNs
  if nextDueNs ≤ nowNs then
    nextDueNs + ((nowNs - nextDueNs).fdiv periodNs + 1) * periodNs
  else nextDueNs

/-- `priority` of `_select_feedback_register`. -/
def FeedbackRegister.priority : FeedbackRegister → ℕ
  | angle => 0
  | status => 1
  | error => 2
  | current => 3
  | force => 4

/-- The key of `a` is below the key of `b` in `_select_feedback_register`. -/
def dueBefore (schedule : FeedbackRegister → FeedbackSchedule) (a b : FeedbackRegister) : Bool :=
  let due (name : FeedbackRegister) := (schedule name).nextDueNs.getD 0
  decide (due a < due b ∨ due a = due b ∧ a.priority < b.priority)

/-- A register whose age has reached its warning. -/
def isOverdue (config : WorkerConfig δ) (schedule : FeedbackRegister → FeedbackSchedule)
    (nowNs : ℤ) (name : FeedbackRegister) : Bool :=
  (schedule name).lastSuccessNs.any fun success =>
    decide (config.feedbackWarningAgeNs name ≤ nowNs - success)

/-- `_select_feedback_register` (lines 782–804). -/
def selectFeedbackRegister (config : WorkerConfig δ)
    (schedule : FeedbackRegister → FeedbackSchedule) (nowNs : ℤ) : Option FeedbackRegister :=
  if isOverdue config schedule nowNs .status then some .status
  else if isOverdue config schedule nowNs .error then some .error
  else
    let due := [FeedbackRegister.angle, .current, .force, .status, .error].filter fun name =>
      (schedule name).nextDueNs.any (decide <| · ≤ nowNs)
    due.foldl (fun best name =>
      match best with
      | none => some name
      | some best => if dueBefore schedule name best then some name else some best) none

/-- `_target_requires_command` (lines 839–860). -/
def targetRequiresCommand (config : WorkerConfig δ) (w : Worker κ δ)
    (target : Option (PendingTarget δ)) : Bool :=
  match target with
  | none => false
  | some target =>
    if w.evaluatedSequence < target.sequence then true
    else if target.measuredActivation then false
    else
      match w.machine.control.lastCommandNormalized with
      | none => false
      | some last =>
        let effective := contactLimitedTarget config.toControlConfig w.machine.control
          target.values false
        decide (w.writtenSequence = some target.sequence) &&
          !decide (∀ i, eq (effective i) (last i) = true)

/-! ## A cycle -/

section Cycle

variable (config : WorkerConfig δ) (backend : PcDirectBackend κ δ)

/-- `_monotonic_ns()`. -/
def Machine.readClock (m : Machine κ δ) : ℤ × Machine κ δ :=
  let (nowNs, context) := backend.monotonicNs m.context
  (nowNs, m.withContext context)

/-- The reaction to `_active_requested` (lines 352–356): a hold with a relief
    target, an activation, or nothing. -/
def prepareControl (w : Worker κ δ) (nowNs : ℤ) :
    Except ControlError (Option (Channels δ)) × Machine κ δ :=
  if !w.activeRequested then
    let held := w.machine.hold w.holdReason
    let (relief, control) := popContactReliefTarget held.control
    (.ok relief, held.withControl control)
  else if w.machine.control.state = .hold then
    match activate config.toControlConfig w.machine nowNs with
    | (.error error, m) => (.error error, m)
    | (.ok (), m) => (.ok none, m)
  else (.ok none, w.machine)

/-- The target is to be commanded now (lines 358–372). -/
def commandIsDue (w : Worker κ δ) (nowNs : ℤ) : Bool :=
  w.activeRequested && targetRequiresCommand config w w.pendingTarget &&
    (w.forceWritePending || w.commandDueNs.all (decide <| · ≤ nowNs))

/-- `command_values` of a target (lines 409–428). -/
def commandValues (w : Worker κ δ) (target : PendingTarget δ) : Channels δ :=
  if target.measuredActivation then
    match w.feedback with
    | none => target.values
    | some feedback => activationTarget feedback
  else target.values

/-- The arguments of `control.command` for a target. -/
def targetCommand (w : Worker κ δ) (target : PendingTarget δ) (actualStartNs : ℤ) :
    Command δ where
  target := List.ofFn (commandValues w target)
  monotonicNs := actualStartNs
  gripFresh := true
  armTerminalStop := false
  forceWrite := w.forceWritePending
  measuredActivationWrite := target.measuredActivation
  contactRelief := false

/-- The arguments of `control.command` for a contact relief. -/
def reliefCommand (relief : Channels δ) (actualStartNs : ℤ) : Command δ where
  target := List.ofFn relief
  monotonicNs := actualStartNs
  gripFresh := true
  armTerminalStop := false
  forceWrite := true
  measuredActivationWrite := false
  contactRelief := true

/-- The next deadline after a command (lines 486–493). -/
def Worker.scheduleCommand (w : Worker κ δ) (dueNs actualEndNs : ℤ) : Worker κ δ :=
  let control := w.machine.control
  let commandDueNs :=
    if control.lastCommandDisposition = .rateLimited then control.nextCommandMonotonicNs
    else some (advanceDeadline dueNs config.commandPeriodNs actualEndNs)
  { w with
    commandDueNs
    machine := w.machine.withControl { control with nextCommandMonotonicNs := commandDueNs } }

/-- The sequences after `control.command` returned for a target
    (lines 448–483). -/
def Worker.noteCommand (w : Worker κ δ) (target : PendingTarget δ) (written : Bool) :
    Worker κ δ :=
  let evaluated := written ||
    decide (w.machine.control.lastCommandDisposition = .exactDuplicateSuppressed)
  { w with
    writtenSequence := if written then some target.sequence else w.writtenSequence
    evaluatedSequence := if evaluated then target.sequence else w.evaluatedSequence }

/-- A target old enough to be dropped (lines 398–403). -/
def isStaleTarget (w : Worker κ δ) (target : PendingTarget δ) (actualStartNs : ℤ) : Bool :=
  config.staleCommandDropEnabled && !w.forceWritePending &&
    decide (config.staleCommandMaxAgeNs < max 0 (actualStartNs - target.submittedMonotonicNs))

/-- The branch of a due target (lines 374–493). -/
def commandTarget (w : Worker κ δ) (target : PendingTarget δ) (nowNs : ℤ) :
    Except ControlError Bool × Worker κ δ :=
  let dueNs := w.commandDueNs.getD nowNs
  let (actualStartNs, m) := w.machine.readClock backend
  let cleared := { w with forceWritePending := false }
  if isStaleTarget config w target actualStartNs then
    let (actualEndNs, m) := (m.dispose .staleTargetDropped).readClock backend
    let w := { cleared.withMachine m with evaluatedSequence := target.sequence }
    (.ok true, (w.scheduleCommand config dueNs actualEndNs).record (.cycle (.staleDropped target)))
  else
    match command config.toControlConfig backend m (targetCommand w target actualStartNs) with
    | (.error error, m) =>
      (.error error, (cleared.withMachine m).record
        (.cycle (.commanded target w.forceWritePending (.error error))))
    | (.ok written, m) =>
      let (actualEndNs, m) := m.readClock backend
      (.ok true, (((cleared.withMachine m).noteCommand target written).scheduleCommand config
        dueNs actualEndNs).record
          (.cycle (.commanded target w.forceWritePending (.ok written))))

/-- The branch of a contact relief (lines 374–493). -/
def commandRelief (w : Worker κ δ) (relief : Channels δ) (nowNs : ℤ) :
    Except ControlError Bool × Worker κ δ :=
  let (actualStartNs, m) := w.machine.readClock backend
  match command config.toControlConfig backend m (reliefCommand relief actualStartNs) with
  | (.error error, m) =>
    (.error error, (w.withMachine m).record (.cycle (.relieved (.error error))))
  | (.ok written, m) =>
    let (actualEndNs, m) := m.readClock backend
    (.ok true, ((w.withMachine m).scheduleCommand config nowNs actualEndNs).record
      (.cycle (.relieved (.ok written))))

/-- The schedule of a register after it was polled (lines 516–538). -/
def FeedbackSchedule.polled (schedule : FeedbackSchedule) (periodNs actualEndNs : ℤ)
    (transientTimeoutHold : Bool) : FeedbackSchedule where
  nextDueNs := schedule.nextDueNs.map fun due => advanceDeadline due periodNs actualEndNs
  lastSuccessNs := if transientTimeoutHold then schedule.lastSuccessNs else some actualEndNs
  successCount := if transientTimeoutHold then schedule.successCount else schedule.successCount + 1
  failureCount := if transientTimeoutHold then schedule.failureCount + 1 else schedule.failureCount

/-- The schedule of a register whose poll raised (lines 511–513). -/
def FeedbackSchedule.raised (schedule : FeedbackSchedule) : FeedbackSchedule :=
  { schedule with failureCount := schedule.failureCount + 1 }

/-- The branch without a command (lines 494–545). -/
def pollOne (w : Worker κ δ) (nowNs : ℤ) : Except ControlError Bool × Worker κ δ :=
  match selectFeedbackRegister config w.schedule nowNs with
  | none => (.ok true, w.record (.cycle .idle))
  | some register =>
    let (actualStartNs, m) := w.machine.readClock backend
    match pollFeedbackRegister config.toControlConfig backend m register actualStartNs with
    | (.error error, m) =>
      (.error error, { w.withMachine m with
        schedule := Function.update w.schedule register (w.schedule register).raised }.record
          (.cycle (.polled register (some error))))
    | (.ok feedback, m) =>
      let (actualEndNs, m) := m.readClock backend
      let held := decide (m.control.lastCommandDisposition = .feedbackTimeoutHold)
      let polled := (w.schedule register).polled (config.feedbackPeriodNs register) actualEndNs held
      (.ok true, { w.withMachine m with
        feedback := some feedback
        schedule := Function.update w.schedule register polled }.record
          (.cycle (.polled register none)))

/-- What a cycle runs once the controller is prepared (lines 358–545). -/
def runOperation (w : Worker κ δ) (relief : Option (Channels δ)) (nowNs : ℤ) :
    Except ControlError Bool × Worker κ δ :=
  match relief with
  | some relief => commandRelief config backend w relief nowNs
  | none =>
    match w.pendingTarget with
    | none => pollOne config backend w nowNs
    | some target =>
      if commandIsDue config w nowNs then commandTarget config backend w target nowNs
      else pollOne config backend w nowNs

/-- `run_cycle` (lines 328–598). -/
def runCycle (w : Worker κ δ) : Except ControlError Bool × Worker κ δ :=
  let (_, m) := w.machine.readClock backend
  match w.terminalReason with
  | some reason =>
    (.ok false, (w.withMachine (m.armTerminalStop reason)).record (.cycle .stopped))
  | none =>
    let (nowNs, m) := m.readClock backend
    match prepareControl config (w.withMachine m) nowNs with
    | (.error error, m) =>
      (.error error, (w.withMachine m).record (.cycle (.notActivated error)))
    | (.ok relief, m) => runOperation config backend (w.withMachine m) relief nowNs

/-- The handler of `_run` (lines 717–742). -/
def Worker.fail (w : Worker κ δ) (error : ControlError) : Worker κ δ :=
  { w with
    machine :=
      if w.machine.control.faultReason.isNone then
        w.machine.transportFault "pc_direct_worker_failure"
      else w.machine
    failure := some error
    running := false }

/-- One turn of the loop of `_run` (lines 709–742). -/
def serveCycle (w : Worker κ δ) : Worker κ δ :=
  if w.running then
    match runCycle config backend w with
    | (.error error, w) => w.fail error
    | (.ok false, w) => { w with running := false }
    | (.ok true, w) => w
  else w

/-- `start` (lines 148–174). -/
def start (w : Worker κ δ) (operation : HandOperation) :
    Except ControlError (PcDirectFeedback δ) × Worker κ δ :=
  match openTransport backend w.machine operation with
  | (.error error, m) => (.error error, w.withMachine m)
  | (.ok (), m) =>
    let (nowNs, m) := m.readClock backend
    match pollFeedback config.toControlConfig backend m nowNs with
    | (.error error, m) => (.error error, w.withMachine m)
    | (.ok feedback, m) =>
      let (startupEndNs, m) := m.readClock backend
      (.ok feedback, { w.withMachine m with
        running := true
        feedback := some feedback
        schedule := fun name =>
          { w.schedule name with
            nextDueNs := some (startupEndNs + config.feedbackPeriodNs name)
            lastSuccessNs := some startupEndNs
            successCount := 1 } })

end Cycle

/-! ## Calls -/

/-- One call of the producer, or one turn of the loop of the worker. -/
inductive WorkerCall (δ : Type*)
  | activateFromMeasured (monotonicNs : ℤ)
  | submitTarget (target : List δ) (monotonicNs : ℤ)
  | hold (reason : String)
  | armTerminalStop (reason : String)
  | runCycle

/-- The worker after a call, whether it returned or raised. -/
def workerStep (config : WorkerConfig δ) (backend : PcDirectBackend κ δ) (w : Worker κ δ) :
    WorkerCall δ → Worker κ δ
  | .activateFromMeasured monotonicNs => (activateFromMeasured config w monotonicNs).2
  | .submitTarget target monotonicNs => (w.submitTarget target monotonicNs).2
  | .hold reason => w.hold reason
  | .armTerminalStop reason => w.armTerminalStop reason
  | .runCycle => serveCycle config backend w

end HandLab.Rh56
