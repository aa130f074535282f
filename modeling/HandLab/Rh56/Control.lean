import HandLab.Lib.Run
import HandLab.Rh56.Contact
import Mathlib.Algebra.Group.End

/-!
# `RH56PcDirectControl`

The methods of `src/rh56_driver/pc_direct_control.py` (lines 412–1019 and
1158–1207), each a function from the machine before the call to what it returns
or raises and the machine after it. `command` is cut into the parts that gate
the command, check the target, limit it and write it.
-/

namespace HandLab.Rh56

open HandLab.Lib Double PyFloat

variable {κ δ : Type*} [PyFloat δ]

namespace Machine

/-! ## Small steps of the machine -/

/-- An event is added to the history. -/
def record (m : Machine κ δ) (event : Event δ) : Machine κ δ :=
  { m with history := event :: m.history }

/-- The environment moves on. -/
def withContext (m : Machine κ δ) (context : κ) : Machine κ δ := { m with context }

/-- The controller changes. -/
def withControl (m : Machine κ δ) (control : RH56PcDirectControl δ) : Machine κ δ :=
  { m with control }

/-- `last_command_disposition = disposition`. -/
def dispose (m : Machine κ δ) (disposition : Disposition) : Machine κ δ :=
  m.withControl { m.control with lastCommandDisposition := disposition }

/-- `_fault` (lines 1199–1207). -/
def fault (m : Machine κ δ) (reason : String) : Machine κ δ :=
  (m.withControl { m.control with
    state := .fault
    transportState := .fault
    faultReason := m.control.faultReason.or (some reason)
    nextCommandMonotonicNs := none }).record (.faulted reason)

/-- `hold` (lines 980–985). -/
def hold (m : Machine κ δ) (reason : String) : Machine κ δ :=
  if m.control.state = .fault then m
  else m.withControl { m.control with
    state := .hold
    transportState := .connectedHold reason
    nextCommandMonotonicNs := none }

/-- `arm_terminal_stop` (lines 987–988). -/
def armTerminalStop (m : Machine κ δ) (reason : String) : Machine κ δ :=
  m.fault ("arm_terminal_hard_stop:" ++ reason)

/-- `transport_fault` (lines 990–991). -/
def transportFault (m : Machine κ δ) (reason : String) : Machine κ δ := m.fault reason

end Machine

/-! ## Opening and closing -/

section Transport

variable (backend : PcDirectBackend κ δ)

/-- `open` (lines 412–425). -/
def openTransport (m : Machine κ δ) (operation : HandOperation) :
    Except ControlError Unit × Machine κ δ :=
  match backend.connect m.context with
  | (.error error, context) =>
    (.error (.backend error), (m.withContext context).fault "serial_connect_failure")
  | (.ok false, context) =>
    (.error .didNotConnect, (m.withContext context).fault "serial_connect_failure")
  | (.ok true, context) =>
    (.ok (), ((m.withContext context).withControl { m.control with
      operation := some operation
      transportState := .connectedReadOnly
      state := .hold }).record .opened)

/-- `cleanup` (lines 1013–1019); the assignments are in a `finally`. -/
def cleanup (m : Machine κ δ) : Except ControlError Unit × Machine κ δ :=
  let (outcome, context) := backend.closePort m.context
  (outcome.mapError .backend, ((m.withContext context).withControl { m.control with
    state := .disabled
    transportState := .closed
    nextCommandMonotonicNs := none }).record .closed)

/-- The check of `_require_open` (lines 1158–1160). -/
def RH56PcDirectControl.isOpen (control : RH56PcDirectControl δ) : Bool :=
  decide (control.transportState ≠ .closed) && decide (control.state ≠ .disabled)

end Transport

/-! ## Freshness -/

section Fresh

variable (config : ControlConfig δ)

/-- The last feedback is at most `feedback_stale_timeout_ns` old. -/
def RH56PcDirectControl.isFresh (control : RH56PcDirectControl δ) (monotonicNs : ℤ) : Bool :=
  match control.lastFeedback with
  | none => false
  | some feedback => decide (monotonicNs - feedback.monotonicNs ≤ config.feedbackStaleTimeoutNs)

/-- `mark_feedback_timeout` (lines 993–1011). -/
def markFeedbackTimeout (m : Machine κ δ) (monotonicNs : ℤ) : Bool × Machine κ δ :=
  if m.control.isFresh config monotonicNs then (false, m) else (true, m.fault "feedback_timeout")

/-- `_require_fresh_feedback` (lines 1195–1197). -/
def requireFreshFeedback (m : Machine κ δ) (monotonicNs : ℤ) :
    Except ControlError Unit × Machine κ δ :=
  match markFeedbackTimeout config m monotonicNs with
  | (true, m) => (.error .staleFeedback, m)
  | (false, m) => (.ok (), m)

/-- `latency_ms * 1e6 > feedback_stale_timeout_ns`, with
    `latency_ms = (ended_ns - started_ns) / 1e6`. -/
def readIsStale (startedNs endedNs : ℤ) : Bool :=
  lt (ofInt config.feedbackStaleTimeoutNs : δ)
    (mul (div (ofInt (endedNs - startedNs)) (ofRat 1e6)) (ofRat 1e6))

end Fresh

/-! ## Feedback -/

section Feedback

variable (config : ControlConfig δ) (backend : PcDirectBackend κ δ)

/-- The five reads of `poll_feedback`, in their order. -/
structure Readings (δ : Type*) where
  position : Channels δ
  currents : Channels δ
  loads : Channels δ
  status : Channels ℕ
  errors : Channels ℕ

/-- The `try` block of `poll_feedback` (lines 442–469). -/
def readAll (context : κ) : Except BackendError (Readings δ) × κ :=
  match backend.getCanonicalAngles context with
  | (.error error, context) => (.error error, context)
  | (.ok position, context) =>
  match backend.getCanonicalCurrents context with
  | (.error error, context) => (.error error, context)
  | (.ok currents, context) =>
  match backend.getCanonicalForces context with
  | (.error error, context) => (.error error, context)
  | (.ok loads, context) =>
  match backend.readStatus context with
  | (.error error, context) => (.error error, context)
  | (.ok status, context) =>
  match backend.readError context with
  | (.error error, context) => (.error error, context)
  | (.ok errors, context) =>
    (.ok { position, currents, loads
           status := rawToCanonical config.protocolOrder status
           errors := rawToCanonical config.protocolOrder errors }, context)

/-- `tuple(int(round(value)) for value in position)`. -/
def roundedPosition (position : Channels δ) : Channels ℤ := fun i => PyFloat.round (position i)

/-- `last_command_normalized` and `last_command_raw` get their first values. -/
def Machine.measureCommand (m : Machine κ δ) (normalized position : Channels δ) : Machine κ δ :=
  match m.control.lastCommandNormalized with
  | some _ => m
  | none =>
    (m.withControl { m.control with
      lastCommandNormalized := some normalized
      lastCommandRaw := some (roundedPosition position) }).record (.measured normalized)

/-- `_observe_contact_force` on the machine. -/
def Machine.observeForce (m : Machine κ δ) (loads : Channels δ) : Machine κ δ :=
  (m.withControl { m.control with
    contact := observeContactForce config m.control loads }).record .forceObserved

/-- `_observe_contact_angle` on the machine. -/
def Machine.observeAngle (m : Machine κ δ) (normalized : Channels δ) : Machine κ δ :=
  m.withControl { m.control with contact := observeContactAngle m.control.contact normalized }

/-- `last_feedback = feedback`. -/
def Machine.setFeedback (m : Machine κ δ) (feedback : PcDirectFeedback δ) : Machine κ δ :=
  m.withControl { m.control with lastFeedback := some feedback }

/-- `_feedback_values` and the time of its `ANGLE`. -/
def Machine.setCache (m : Machine κ δ) (feedbackCache : FeedbackCache δ) : Machine κ δ :=
  m.withControl { m.control with feedbackCache }

/-- `_feedback_transient_hold = held`. -/
def Machine.setTransientHold (m : Machine κ δ) (held : Bool) : Machine κ δ :=
  m.withControl { m.control with feedbackTransientHold := held }

/-- The feedback that complete readings make. -/
def Readings.toFeedback (readings : Readings δ) (normalized : Channels δ) (monotonicNs : ℤ) :
    PcDirectFeedback δ where
  monotonicNs := monotonicNs
  positionRaw := readings.position
  positionNormalized := normalized
  currentRawCount := readings.currents
  loadOrForceRawCount := readings.loads
  status := readings.status
  error := readings.errors

/-- The cache that complete readings make. -/
def Readings.toCache (readings : Readings δ) (monotonicNs : ℤ) : FeedbackCache δ where
  angle := some (readings.position, monotonicNs)
  current := some readings.currents
  force := some readings.loads
  status := some readings.status
  error := some readings.errors

/-- What `poll_feedback` stores of complete readings (lines 487–511). -/
def storeReadings (m : Machine κ δ) (readings : Readings δ) (normalized : Channels δ)
    (monotonicNs : ℤ) : Machine κ δ :=
  let stored := (m.setFeedback (readings.toFeedback normalized monotonicNs)).setCache
    (readings.toCache monotonicNs)
  Machine.observeForce config (stored.observeAngle normalized) readings.loads

/-- `poll_feedback` (lines 427–539). -/
def pollFeedback (m : Machine κ δ) (monotonicNs : ℤ) :
    Except ControlError (PcDirectFeedback δ) × Machine κ δ :=
  if !m.control.isOpen then (.error .notOpen, m)
  else
    let (startedNs, context) := backend.perfCounterNs m.context
    match readAll config backend context with
    | (.error error, context) =>
      (.error (.backend error), (m.withContext context).fault "serial_feedback_failure")
    | (.ok readings, context) =>
      match normalizeRaw config.calibration readings.position with
      | .error error => (.error error, m.withContext context)
      | .ok normalized =>
        let (endedNs, context) := backend.perfCounterNs context
        let m := storeReadings config (m.withContext context) readings normalized monotonicNs
        if ∃ i, readings.errors i ≠ 0 then
          (.error (.deviceError readings.errors), m.fault "device_error_status")
        else if readIsStale config startedNs endedNs then
          (.error .staleDuringRead, m.fault "feedback_stale_during_read")
        else
          (.ok (readings.toFeedback normalized monotonicNs),
            m.measureCommand normalized readings.position)

/-- One read of `poll_feedback_register`, put into the cache
    (lines 551–567 and 599–600). -/
def readRegister (context : κ) (cache : FeedbackCache δ) (name : FeedbackRegister)
    (monotonicNs : ℤ) : Except BackendError (FeedbackCache δ) × κ :=
  match name with
  | .angle =>
    let (outcome, context) := backend.getCanonicalAngles context
    (outcome.map fun values => { cache with angle := some (values, monotonicNs) }, context)
  | .current =>
    let (outcome, context) := backend.getCanonicalCurrents context
    (outcome.map fun values => { cache with current := some values }, context)
  | .force =>
    let (outcome, context) := backend.getCanonicalForces context
    (outcome.map fun values => { cache with force := some values }, context)
  | .status =>
    let (outcome, context) := backend.readStatus context
    (outcome.map fun values =>
      { cache with status := some (rawToCanonical config.protocolOrder values) }, context)
  | .error =>
    let (outcome, context) := backend.readError context
    (outcome.map fun values =>
      { cache with error := some (rawToCanonical config.protocolOrder values) }, context)

/-- `_is_transient_read_timeout` (lines 1162–1193). -/
def isTransientReadTimeout (control : RH56PcDirectControl δ) (error : BackendError)
    (name : FeedbackRegister) (monotonicNs : ℤ) : Bool :=
  control.isFresh config monotonicNs &&
  match error with
  | .serial code operation register =>
    decide (code = .timeout) && decide (operation = .readRegister) &&
      decide (register = none ∨ register = some (.short name) ∨ register = some name.alias)
  | .timeout => true
  | .other _ => false

/-- `_feedback_from_cache` (lines 649–680). -/
def feedbackFromCache (cache : FeedbackCache δ) : Except ControlError (PcDirectFeedback δ) :=
  match cache with
  | ⟨some (position, angleNs), some currents, some loads, some status, some error⟩ =>
    match normalizeRaw config.calibration position with
    | .error failure => .error failure
    | .ok normalized =>
      .ok { monotonicNs := angleNs
            positionRaw := position
            positionNormalized := normalized
            currentRawCount := currents
            loadOrForceRawCount := loads
            status, error }
  | _ => .error .incompleteCache

/-- The end of `poll_feedback_register` (lines 635–647), where the feedback is
    accepted. -/
def acceptRegister (m : Machine κ δ) (name : FeedbackRegister) (feedback : PcDirectFeedback δ) :
    Machine κ δ :=
  let m := m.setFeedback feedback
  match name with
  | .angle =>
    (m.observeAngle feedback.positionNormalized).measureCommand feedback.positionNormalized
      feedback.positionRaw
  | .force => Machine.observeForce config m feedback.loadOrForceRawCount
  | .current | .status | .error => m

/-- `poll_feedback_register` after a successful read (lines 598–647). -/
def checkRegister (m : Machine κ δ) (name : FeedbackRegister) (cache : FeedbackCache δ)
    (stale : Bool) : Except ControlError (PcDirectFeedback δ) × Machine κ δ :=
  let m := (m.setTransientHold false).setCache cache
  let errors := cache.error.getD fun _ => 0
  if name = .error ∧ ∃ i, errors i ≠ 0 then
    (.error (.deviceError errors), m.fault "device_error_status")
  else if stale then (.error .staleDuringRead, m.fault "feedback_stale_during_read")
  else
    match feedbackFromCache config cache with
    | .error error => (.error error, m)
    | .ok feedback => (.ok feedback, acceptRegister config m name feedback)

/-- The `except` block of `poll_feedback_register` (lines 569–597). -/
def failRegister (m : Machine κ δ) (name : FeedbackRegister) (error : BackendError)
    (monotonicNs : ℤ) : Except ControlError (PcDirectFeedback δ) × Machine κ δ :=
  if isTransientReadTimeout config m.control error name monotonicNs then
    let m := (m.setTransientHold true).dispose .feedbackTimeoutHold
    match m.control.lastFeedback with
    | some feedback => (.ok feedback, m)
    | none => (.error .assertion, m)
  else (.error (.backend error), m.fault "serial_feedback_failure")

/-- `poll_feedback_register` (lines 541–647). -/
def pollFeedbackRegister (m : Machine κ δ) (name : FeedbackRegister) (monotonicNs : ℤ) :
    Except ControlError (PcDirectFeedback δ) × Machine κ δ :=
  if !m.control.isOpen then (.error .notOpen, m)
  else
    let (startedNs, context) := backend.perfCounterNs m.context
    match readRegister config backend context m.control.feedbackCache name monotonicNs with
    | (.error error, context) =>
      failRegister config (m.withContext context) name error monotonicNs
    | (.ok cache, context) =>
      let (endedNs, context) := backend.perfCounterNs context
      checkRegister config (m.withContext context) name cache
        (readIsStale config startedNs endedNs)

end Feedback

/-! ## Activation -/

section Activate

variable (config : ControlConfig δ)

/-- The assignments of `activate` (lines 692–704). -/
def engage (m : Machine κ δ) (feedback : PcDirectFeedback δ) (monotonicNs : ℤ) : Machine κ δ :=
  (m.withControl { m.control with
    lastCommandNormalized := some feedback.positionNormalized
    lastCommandRaw := some (roundedPosition feedback.positionRaw)
    lastRequestedTargetNormalized := some feedback.positionNormalized
    contact := resetContactStop m.control.contact feedback
    state := .active
    transportState := .connectedCommanding
    nextCommandMonotonicNs := some monotonicNs
    forceNextCommand := true }).record (.activated feedback.positionNormalized)

/-- The operation of the controller admits position commands. -/
def RH56PcDirectControl.isPermitted (control : RH56PcDirectControl δ) : Bool :=
  control.operation.any HandOperation.allowsPosition

/-- `activate` (lines 682–704). -/
def activate (m : Machine κ δ) (monotonicNs : ℤ) : Except ControlError Unit × Machine κ δ :=
  if !m.control.isPermitted then (.error .notPermitted, m)
  else
    match requireFreshFeedback config m monotonicNs with
    | (.error error, m) => (.error error, m)
    | (.ok (), m) =>
      if m.control.state = .fault then (.error (.faulted m.control.faultReason), m)
      else
        match m.control.lastFeedback with
        | none => (.error .assertion, m)
        | some feedback => (.ok (), engage m feedback monotonicNs)

end Activate

/-! ## Commands -/

/-- The arguments of `command`. -/
structure Command (δ : Type*) where
  target : List δ
  monotonicNs : ℤ
  gripFresh : Bool
  armTerminalStop : Bool
  forceWrite : Bool
  measuredActivationWrite : Bool
  contactRelief : Bool

section Command

variable (config : ControlConfig δ)

/-- `command` up to the cadence check (lines 719–753); `true` lets the command
    pass. -/
def commandGate (m : Machine κ δ) (command : Command δ) :
    Except ControlError Bool × Machine κ δ :=
  if command.armTerminalStop then (.ok false, m.fault "arm_terminal_hard_stop")
  else if !command.gripFresh then (.ok false, m.hold "grip_stale")
  else if m.control.state ≠ .active ∧ ¬(command.contactRelief = true ∧ m.control.state = .hold) then
    (.ok false, m.dispose .inactive)
  else
    match requireFreshFeedback config m command.monotonicNs with
    | (.error error, m) => (.error error, m)
    | (.ok (), m) =>
      if m.control.state = .fault then (.ok false, m.dispose .faulted)
      else if m.control.feedbackTransientHold then
        (.ok false, (m.setTransientHold false).dispose .feedbackTimeoutHold)
      else if !command.forceWrite &&
          m.control.nextCommandMonotonicNs.any (decide <| command.monotonicNs < ·) then
        (.ok false, m.dispose .rateLimited)
      else (.ok true, m)

/-- `target_ceiling` (line 757). -/
def targetCeiling (command : Command δ) : δ :=
  if command.measuredActivationWrite then ofRat 1 else config.maxClose

/-- The checks of the target (lines 754–779). -/
def checkTarget (control : RH56PcDirectControl δ) (command : Command δ) :
    Except ControlError (Channels δ) :=
  match Channels.ofList? command.target with
  | none => .error .targetSize
  | some requested =>
    if ∃ i, isFinite (requested i) = false ∨ lt (requested i) zero = true ∨
        lt (targetCeiling config command) (requested i) = true then
      .error (.targetRange command.measuredActivationWrite)
    else if !command.measuredActivationWrite then .ok requested
    else if !command.forceWrite then .error .activationNotForced
    else
      match control.lastFeedback with
      | none => .error .activationNotForced
      | some feedback =>
        if ∀ i, isClose (requested i) (clip (feedback.positionNormalized i) zero (ofRat 1))
            (ofRat 1e-12) = true then .ok requested
        else .error .activationMismatch

/-- `contact_stop_enabled and contact_require_fresh_force_before_closure`. -/
def ContactStop.requiresForce (policy : ContactStop δ) : Bool :=
  policy.enabled && policy.requireFreshForceBeforeClosure

/-- `closing_requested` (line 791), and later `closure_written` (line 918). -/
def closes (previous requested : Channels δ) (i : Fin 6) : Bool :=
  lt (add (previous i) (ofRat 1e-12)) (requested i)

/-- `opening_requested` (line 811). -/
def opens (previous requested : Channels δ) (i : Fin 6) : Bool :=
  lt (requested i) (sub (previous i) (ofRat 1e-12))

/-- The target limited to what is left of the closure budget
    (lines 797–806). -/
def budgetTarget (closure previous requested : Channels δ) : Channels δ :=
  fun i =>
    let remaining := maximum zero
      (sub (config.contactStop.closureBudgetPerForceSample i) (closure i))
    if closes previous requested i then minimum (requested i) (add (previous i) remaining)
    else requested i

/-- `last_requested_target_normalized = requested`. -/
def noteRequested (control : RH56PcDirectControl δ) (requested : Channels δ) :
    RH56PcDirectControl δ :=
  { control with lastRequestedTargetNormalized := some requested }

/-- The limits on an ordinary target (lines 788–816); `none` where `command`
    returns `contact_feedback_wait`. -/
def limitTarget (control : RH56PcDirectControl δ) (previous requested : Channels δ) :
    Option (Channels δ) × RH56PcDirectControl δ :=
  let limited := contactLimitedTarget config control requested true
  let control := noteRequested (releaseContacts config control requested true) requested
  if config.contactStop.requiresForce && decide (∃ i, closes previous limited i = true) then
    let budgeted := budgetTarget config control.contact.closureSinceForce previous limited
    if (∀ i, closes previous limited i = true →
          le (budgeted i) (add (previous i) (ofRat 1e-12)) = true) ∧
        ¬∃ i, opens previous budgeted i = true then
      (none, { control with lastCommandDisposition := .contactFeedbackWait })
    else (some budgeted, control)
  else (some limited, control)

/-- The target after the limits, on either path (lines 787–819). -/
def postContactTarget (control : RH56PcDirectControl δ) (command : Command δ)
    (previous requested : Channels δ) : Option (Channels δ) × RH56PcDirectControl δ :=
  if command.measuredActivationWrite then
    (some requested, noteRequested control requested)
  else limitTarget config control previous requested

/-- The test for an exact duplicate (lines 825–830). -/
def isDuplicate (control : RH56PcDirectControl δ) (command : Command δ)
    (previous requested : Channels δ) : Bool :=
  config.exactDuplicateSuppression && !command.forceWrite && !control.forceNextCommand &&
    decide (∀ i, eq (requested i) (previous i) = true)

/-- `selected` (lines 839–855). -/
def selectTarget (measuredActivation : Bool) (previous requested : Channels δ) : Channels δ :=
  fun i =>
  let delta := sub (requested i) (previous i)
  if !measuredActivation && config.contactStop.requiresForce then
    add (previous i) (if le zero delta then minimum delta (config.contactStop.maximumClosureStep i)
      else maximum delta (sub zero config.deltaLimit))
  else add (previous i) (clip delta (sub zero config.deltaLimit) config.deltaLimit)

/-- `_contact_closure_since_force` after a successful write (lines 918–922). -/
def addClosure (closure previous selected : Channels δ) : Channels δ :=
  if ∃ i, closes previous selected i = true then
    fun i => add (closure i) (maximum (sub (selected i) (previous i)) zero)
  else closure

/-- The contact members after a successful write (lines 918–928); where no
    channel closes, only `addClosure` is written, and it changes nothing. -/
def noteClosure (contact : ContactState δ) (previous selected : Channels δ) (monotonicNs : ℤ) :
    ContactState δ :=
  { contact with
    closureSinceForce := addClosure contact.closureSinceForce previous selected
    lastClosingRequestNs := fun i =>
      if closes previous selected i then monotonicNs else contact.lastClosingRequestNs i
    lastClosureForceGeneration :=
      if ∃ i, closes previous selected i = true then contact.forceGeneration
      else contact.lastClosureForceGeneration }

/-- The members after a successful write (lines 909–928). -/
def noteWrite (control : RH56PcDirectControl δ) (previous selected : Channels δ)
    (monotonicNs : ℤ) : RH56PcDirectControl δ :=
  { control with
    lastCommandNormalized := some selected
    lastCommandRaw := some (denormalizeCanonical config.calibration selected)
    nextCommandMonotonicNs := some (monotonicNs + config.commandPeriodNs)
    lastCommandDisposition := .serialWriteSuccess
    contact := noteClosure control.contact previous selected monotonicNs }

variable (backend : PcDirectBackend κ δ)

/-- `_force_next_command = False`. -/
def Machine.clearForce (m : Machine κ δ) : Machine κ δ :=
  m.withControl { m.control with forceNextCommand := false }

/-- `command` from the selected target on (lines 839–934). -/
def writeTarget (m : Machine κ δ) (command : Command δ) (previous requested : Channels δ) :
    Except ControlError Bool × Machine κ δ :=
  let selected := selectTarget config command.measuredActivationWrite previous requested
  let raw := denormalizeCanonical config.calibration selected
  let write : Write δ := ⟨command.measuredActivationWrite, previous, selected, raw⟩
  let (outcome, context) := backend.setCanonicalAngles m.context raw
  let m := (m.clearForce.withContext context).record (.wrote write outcome)
  match outcome with
  | .error error => (.error (.backend error), m.fault "serial_command_failure")
  | .ok false => (.error .commandRejected, m.fault "serial_command_rejected")
  | .ok true =>
    (.ok true, m.withControl (noteWrite config m.control previous selected command.monotonicNs))

/-- `command` after the checks of the target (lines 780–934). -/
def submitTarget (m : Machine κ δ) (command : Command δ) (previous requested : Channels δ) :
    Except ControlError Bool × Machine κ δ :=
  match postContactTarget config m.control command previous requested with
  | (none, control) => (.ok false, m.withControl control)
  | (some requested, control) =>
    if isDuplicate config control command previous requested then
      (.ok false, (m.withControl { control with
        nextCommandMonotonicNs := some (command.monotonicNs + config.commandPeriodNs) }).dispose
          .exactDuplicateSuppressed)
    else writeTarget config backend (m.withControl control) command previous requested

/-- `command` (lines 706–934). -/
def command (m : Machine κ δ) (command : Command δ) : Except ControlError Bool × Machine κ δ :=
  match commandGate config m command with
  | (.error error, m) => (.error error, m)
  | (.ok false, m) => (.ok false, m)
  | (.ok true, m) =>
    match checkTarget config m.control command with
    | .error error => (.error error, m)
    | .ok requested =>
      match m.control.lastCommandNormalized with
      | none => (.error .assertion, m)
      | some previous => submitTarget config backend m command previous requested

end Command

/-! ## Calls -/

/-- One call of a method. -/
inductive Call (δ : Type*)
  | openTransport (operation : HandOperation)
  | pollFeedback (monotonicNs : ℤ)
  | pollFeedbackRegister (name : FeedbackRegister) (monotonicNs : ℤ)
  | activate (monotonicNs : ℤ)
  | command (command : Command δ)
  | hold (reason : String)
  | popContactReliefTarget
  | armTerminalStop (reason : String)
  | transportFault (reason : String)
  | markFeedbackTimeout (monotonicNs : ℤ)
  | cleanup

/-- The machine after a call, whether it returned or raised. -/
def step (config : ControlConfig δ) (backend : PcDirectBackend κ δ) (m : Machine κ δ) :
    Call δ → Machine κ δ
  | .openTransport operation => (openTransport backend m operation).2
  | .pollFeedback monotonicNs => (pollFeedback config backend m monotonicNs).2
  | .pollFeedbackRegister name monotonicNs =>
    (pollFeedbackRegister config backend m name monotonicNs).2
  | .activate monotonicNs => (activate config m monotonicNs).2
  | .command args => (command config backend m args).2
  | .hold reason => m.hold reason
  | .popContactReliefTarget => m.withControl (popContactReliefTarget m.control).2
  | .armTerminalStop reason => m.armTerminalStop reason
  | .transportFault reason => m.transportFault reason
  | .markFeedbackTimeout monotonicNs => (markFeedbackTimeout config m monotonicNs).2
  | .cleanup => (cleanup backend m).2

/-! ## A hand without hardware -/

/-- The members of `FakeRH56PcDirectBackend` (lines 1563–1581) that its reads
    and writes use, and the time. -/
structure FakeRH56PcDirectBackend (δ : Type*) where
  connected : Bool
  disconnect : Bool
  position : Channels δ
  current : Channels δ
  load : Channels δ
  status : Channels UInt8
  error : Channels UInt8
  nowNs : ℤ

namespace FakeRH56PcDirectBackend

/-- `FakeRH56PcDirectBackend()` at time 0. -/
def init : FakeRH56PcDirectBackend δ where
  connected := false
  disconnect := false
  position := fun _ => ofRat 1000
  current := fun _ => zero
  load := fun _ => zero
  status := fun _ => 0
  error := fun _ => 0
  nowNs := 0

variable (fake : FakeRH56PcDirectBackend δ)

/-- `_check` before an access that yields `value`. -/
def check {α : Type*} (value : α) : Except BackendError α :=
  if !fake.connected || fake.disconnect then .error (.other "fake RH56 serial disconnect")
  else .ok value

/-- `FakeRH56PcDirectBackend` (lines 1558–1635), with a monotonic clock that
    advances 1 ms at each reading. -/
def backend : PcDirectBackend (FakeRH56PcDirectBackend δ) δ where
  connect fake := (.ok true, { fake with connected := true })
  closePort fake := (.ok (), { fake with connected := false })
  getCanonicalAngles fake := (fake.check fake.position, fake)
  getCanonicalCurrents fake := (fake.check fake.current, fake)
  getCanonicalForces fake := (fake.check fake.load, fake)
  readStatus fake := (fake.check fake.status, fake)
  readError fake := (fake.check fake.error, fake)
  setCanonicalAngles fake values :=
    if !fake.connected || fake.disconnect then (fake.check true, fake)
    else (.ok true, { fake with position := fun i => ofInt (values i) })
  perfCounterNs fake := (fake.nowNs, fake)
  monotonicNs fake := (fake.nowNs, { fake with nowNs := fake.nowNs + 1000000 })

end FakeRH56PcDirectBackend

/-- The contact stop of `configs/hand/rh56_pc_direct_teleop.yaml`. -/
def teleopContactStop : ContactStop ℚ where
  enabled := true
  requireFreshForceBeforeClosure := true
  forceDeltaOnset := fun _ => 400
  forceDeltaRelease := fun _ => 150
  closureBudgetPerForceSample := fun _ => 0.05
  maximumClosureStep := fun _ => 0.0125
  minimumClosingGap := 0.008
  maximumStallProgress := 0.005
  reliefMargin := 0.01
  releaseOpenDelta := 0.02
  consecutiveSamples := 2
  baselineAlpha := 0.1

/-- `configs/hand/rh56_pc_direct_teleop.yaml`. -/
def teleopConfig : ControlConfig ℚ where
  commandPeriodNs := 25000000
  feedbackStaleTimeoutNs := 400000000
  feedbackWarningAgeNs
    | .angle => 150000000
    | .current | .force | .status | .error => 250000000
  deltaLimit := 0.05
  maxClose := 1
  contactStop := teleopContactStop
  calibration := fun _ => { rawOpen := 1000, rawClose := 0, safeMin := 0, safeMax := 1000 }
  protocolOrder := Equiv.swap 0 3 * Equiv.swap 1 2
  exactDuplicateSuppression := true
  warningAge_pos := by intro name; cases name <;> decide
  maxClose_range := by decide +kernel
  wellFormed := by constructor <;> decide +kernel

end HandLab.Rh56
