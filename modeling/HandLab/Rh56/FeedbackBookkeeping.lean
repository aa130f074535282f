import HandLab.Rh56.Activation

/-!
# The feedback schedule of the worker

What a cycle writes into `_feedback_schedule` for the register it polls
(`src/rh56_driver/pc_direct_worker.py`, lines 494–546), and what the poll's serial
read gave (`src/rh56_driver/pc_direct_control.py`, lines 541–647). The worker
tells a timeout from a success by `last_command_disposition`, which the command
path shares and a successful poll does not write.

* `runCycle_schedule`: the entry after a cycle that polls.
* `recorded_iff`: when it records the outcome of the read.
* `bookkeeping_iff`: the same over the runs of a worker.
-/

namespace HandLab.Rh56

open HandLab.Lib

variable {κ δ : Type*} [PyFloat δ]

/-! ## The poll of a cycle -/

/-- A call of `poll_feedback_register` by `run_cycle`: the controller it finds, and
    `actual_start_ns`. -/
structure CyclePoll (κ δ : Type*) where
  register : FeedbackRegister
  machine : Machine κ δ
  actualStartNs : ℤ

section Poll

variable (config : WorkerConfig δ) (backend : PcDirectBackend κ δ)

/-- The poll of `pollOne`. -/
def selectedPoll? (w : Worker κ δ) (nowNs : ℤ) : Option (CyclePoll κ δ) :=
  (selectFeedbackRegister config w.schedule nowNs).map fun register =>
    ⟨register, (w.machine.readClock backend).2, (w.machine.readClock backend).1⟩

/-- The poll that `run_cycle` comes to, if it does. -/
def cyclePoll? (w : Worker κ δ) : Option (CyclePoll κ δ) :=
  let (_, m) := w.machine.readClock backend
  match w.terminalReason with
  | some _ => none
  | none =>
    let (nowNs, m) := m.readClock backend
    match prepareControl config (w.withMachine m) nowNs with
    | (.error _, _) => none
    | (.ok (some _), _) => none
    | (.ok none, m) =>
      let w := w.withMachine m
      match w.pendingTarget with
      | none => selectedPoll? config backend w nowNs
      | some _ =>
        if commandIsDue config w nowNs then none else selectedPoll? config backend w nowNs

namespace CyclePoll

variable (p : CyclePoll κ δ)

/-- `poll_feedback_register(register, actual_start_ns)`. -/
def result : Except ControlError (PcDirectFeedback δ) × Machine κ δ :=
  pollFeedbackRegister config.toControlConfig backend p.machine p.register p.actualStartNs

/-- `actual_end_ns`. -/
def actualEndNs : ℤ := ((p.result config backend).2.readClock backend).1

/-- The serial read of the poll, and the time of `_perf_counter_ns` before it. -/
def serialRead : ℤ × Except BackendError (FeedbackCache δ) × κ :=
  let (startedNs, context) := backend.perfCounterNs p.machine.context
  (startedNs, readRegister config.toControlConfig backend context p.machine.control.feedbackCache
    p.register p.actualStartNs)

/-- The outcome of the serial read, where the transport is open. -/
def outcome? : Option (Except BackendError (FeedbackCache δ)) :=
  if p.machine.control.isOpen then some (p.serialRead config backend).2.1 else none

/-- The serial read returned data. -/
def Returned : Prop := ∃ cache, p.outcome? config backend = some (.ok cache)

end CyclePoll

/-- A timeout of a read, as `_is_transient_read_timeout` tells it. -/
def BackendError.isReadTimeout (error : BackendError) (name : FeedbackRegister) : Bool :=
  match error with
  | .serial code operation register =>
    decide (code = .timeout) && decide (operation = .readRegister) &&
      decide (register = none ∨ register = some (.short name) ∨ register = some name.alias)
  | .timeout => true
  | .other _ => false

namespace CyclePoll

variable (p : CyclePoll κ δ)

/-- The serial read timed out. -/
def TimedOut : Prop :=
  ∃ error, p.outcome? config backend = some (.error error) ∧ error.isReadTimeout p.register = true

/-- The checks of `poll_feedback_register` pass on what was read: no device error,
    no stale read, a complete cache that the calibration takes. -/
def Passes (cache : FeedbackCache δ) : Prop :=
  ¬(p.register = .error ∧ ∃ i, (cache.error.getD fun _ => 0) i ≠ 0) ∧
    readIsStale config.toControlConfig (p.serialRead config backend).1
      (backend.perfCounterNs (p.serialRead config backend).2.2).1 = false ∧
    (feedbackFromCache config.toControlConfig cache).isOk = true

end CyclePoll

/-! ## What is recorded -/

/-- A success is recorded, at the end of the poll. -/
def FeedbackSchedule.Succeeded (before after : FeedbackSchedule) (actualEndNs : ℤ) : Prop :=
  after.lastSuccessNs = some actualEndNs ∧ after.successCount = before.successCount + 1 ∧
    after.failureCount = before.failureCount

/-- A failure is recorded. -/
def FeedbackSchedule.Failed (before after : FeedbackSchedule) : Prop :=
  after.failureCount = before.failureCount + 1

/-- The schedule records what the poll's serial read gave, and a register just
    read is not overdue. -/
structure Recorded (p : CyclePoll κ δ) (before after : FeedbackRegister → FeedbackSchedule) :
    Prop where
  success : (before p.register).Succeeded (after p.register) (p.actualEndNs config backend) ↔
    p.Returned config backend
  failure : (before p.register).Failed (after p.register) ↔ p.TimedOut config backend
  current : p.Returned config backend → ∀ nowNs,
    nowNs - p.actualEndNs config backend < config.feedbackWarningAgeNs p.register →
      isOverdue config after nowNs p.register = false

/-- The bookkeeping of a call: where it is a cycle that polls, the schedule records
    the poll. -/
def Bookkept (w : Worker κ δ) (call : WorkerCall δ) : Prop :=
  call = .runCycle → w.running = true → ∀ p ∈ cyclePoll? config backend w,
    Recorded config backend p w.schedule (workerStep config backend w call).schedule

/-- The condition on a poll under the disposition before the cycle: a read that
    returns data passes the checks and does not follow a `feedback_timeout_hold` that
    no command has replaced, and a read that raises is a timeout. -/
def CyclePoll.Fits (p : CyclePoll κ δ) (disposition : Disposition) : Prop :=
  match p.outcome? config backend with
  | none => False
  | some (.ok cache) => disposition ≠ .feedbackTimeoutHold ∧ p.Passes config backend cache
  | some (.error error) => error.isReadTimeout p.register = true

/-- The condition on a call. -/
def Undisturbed (w : Worker κ δ) (call : WorkerCall δ) : Prop :=
  call = .runCycle → w.running = true → ∀ p ∈ cyclePoll? config backend w,
    p.Fits config backend w.machine.control.lastCommandDisposition

end Poll

/-! ## The entry after a cycle -/

section Spec

variable {config : WorkerConfig δ} {backend : PcDirectBackend κ δ} {w : Worker κ δ}
  {p : CyclePoll κ δ}

def CyclePoll.entry (config : WorkerConfig δ) (backend : PcDirectBackend κ δ) (p : CyclePoll κ δ)
    (before : FeedbackSchedule) : FeedbackSchedule :=
  match p.result config backend with
  | (.error _, _) => before.raised
  | (.ok _, m) =>
    before.polled (config.feedbackPeriodNs p.register) (p.actualEndNs config backend)
      (decide (m.control.lastCommandDisposition = .feedbackTimeoutHold))

theorem pollOne_schedule {nowNs : ℤ} (h : selectedPoll? config backend w nowNs = some p) :
    p.machine.control = w.machine.control ∧
      (pollOne config backend w nowNs).2.schedule =
        Function.update w.schedule p.register (p.entry config backend (w.schedule p.register)) := by
  obtain ⟨register, hselect, hp⟩ := Option.map_eq_some_iff.mp h
  subst hp
  refine ⟨rfl, ?_⟩
  simp only [pollOne, hselect, CyclePoll.entry, CyclePoll.actualEndNs]
  cases hresult : CyclePoll.result config backend
      ⟨register, (w.machine.readClock backend).2, (w.machine.readClock backend).1⟩ with
  | mk outcome m =>
    have hpoll : pollFeedbackRegister config.toControlConfig backend
        (w.machine.readClock backend).2 register (w.machine.readClock backend).1 =
        (outcome, m) := hresult
    cases outcome with
    | error error =>
      rw [hpoll]
      rfl
    | ok feedback =>
      rw [hpoll]
      rfl

theorem activate_disposition {m m' : Machine κ δ} {control : ControlConfig δ} {nowNs : ℤ}
    (h : activate control m nowNs = (.ok (), m')) :
    m'.control.lastCommandDisposition = m.control.lastCommandDisposition := by
  unfold activate at h
  split_ifs at h with hpermitted
  · cases h
  · cases hfresh : requireFreshFeedback control m nowNs with
    | mk outcome fresh =>
      rw [hfresh] at h
      cases outcome with
      | error error => cases h
      | ok value =>
        obtain ⟨rfl, -⟩ := requireFreshFeedback_ok hfresh
        simp only at h
        split_ifs at h with hfault
        · cases h
        · cases hfeedback : fresh.control.lastFeedback with
          | none =>
            rw [hfeedback] at h
            cases h
          | some feedback =>
            rw [hfeedback] at h
            obtain rfl := (Prod.mk.inj h).2
            rfl

/-- The reaction to `_active_requested` leaves the disposition. -/
theorem prepareControl_disposition {nowNs : ℤ} {relief : Option (Channels δ)} {m : Machine κ δ}
    (h : prepareControl config w nowNs = (.ok relief, m)) :
    m.control.lastCommandDisposition = w.machine.control.lastCommandDisposition := by
  unfold prepareControl at h
  split_ifs at h with hactive hhold
  · extract_lets held at h
    obtain rfl := (Prod.mk.inj h).2
    obtain ⟨pending, heq⟩ := popContactReliefTarget_frame held.control
    show (popContactReliefTarget held.control).2.lastCommandDisposition = _
    rw [heq]
    show (w.machine.hold w.holdReason).control.lastCommandDisposition = _
    unfold Machine.hold
    split
    · rfl
    · rfl
  · cases hactivate : activate config.toControlConfig w.machine nowNs with
    | mk outcome engaged =>
      rw [hactivate] at h
      cases outcome with
      | error error => cases h
      | ok value =>
        obtain rfl := (Prod.mk.inj h).2
        exact activate_disposition hactivate
  · obtain rfl := (Prod.mk.inj h).2
    rfl

/-- **The entry** after a cycle that polls; nothing before the poll disposes of a
    command. -/
theorem runCycle_schedule (h : cyclePoll? config backend w = some p) :
    p.machine.control.lastCommandDisposition = w.machine.control.lastCommandDisposition ∧
      (runCycle config backend w).2.schedule =
        Function.update w.schedule p.register (p.entry config backend (w.schedule p.register)) := by
  unfold cyclePoll? at h
  unfold runCycle
  simp only at h ⊢
  cases hterminal : w.terminalReason with
  | some reason =>
    rw [hterminal] at h
    cases h
  | none =>
    rw [hterminal] at h
    simp only at h ⊢
    generalize hprepared : prepareControl config _ _ = prepared at h ⊢
    obtain ⟨outcome, m⟩ := prepared
    cases outcome with
    | error error => cases h
    | ok relief =>
      cases relief with
      | some relief => cases h
      | none =>
        have hsame := prepareControl_disposition hprepared
        simp only [runOperation] at h ⊢
        cases hpending : (w.withMachine m).pendingTarget with
        | none =>
          rw [hpending] at h
          obtain ⟨hcontrol, hschedule⟩ := pollOne_schedule h
          exact ⟨(congrArg (·.lastCommandDisposition) hcontrol).trans hsame, hschedule⟩
        | some target =>
          rw [hpending] at h
          simp only at h ⊢
          split_ifs at h with hdue
          rw [if_neg hdue]
          obtain ⟨hcontrol, hschedule⟩ := pollOne_schedule h
          exact ⟨(congrArg (·.lastCommandDisposition) hcontrol).trans hsame, hschedule⟩

theorem serveCycle_schedule (hrunning : w.running = true) :
    (serveCycle config backend w).schedule = (runCycle config backend w).2.schedule := by
  unfold serveCycle
  rw [if_pos hrunning]
  cases hcycle : runCycle config backend w with
  | mk outcome after =>
    cases outcome with
    | error error => rfl
    | ok served => cases served <;> rfl

/-! ## The poll -/

theorem isTransientReadTimeout_eq (control : RH56PcDirectControl δ) (error : BackendError)
    (name : FeedbackRegister) (nowNs : ℤ) :
    isTransientReadTimeout config.toControlConfig control error name nowNs =
      (control.isFresh config.toControlConfig nowNs && error.isReadTimeout name) := by
  cases error <;> rfl

theorem acceptRegister_disposition (m : Machine κ δ) (name : FeedbackRegister)
    (feedback : PcDirectFeedback δ) :
    (acceptRegister config.toControlConfig m name feedback).control.lastCommandDisposition =
      m.control.lastCommandDisposition := by
  cases name with
  | angle =>
    show (Machine.measureCommand _ _ _).control.lastCommandDisposition = _
    unfold Machine.measureCommand
    split
    · rfl
    · rfl
  | _ => rfl

/-- What the poll of an open transport makes of its read. -/
theorem result_eq (hopen : p.machine.control.isOpen = true) :
    p.result config backend = match (p.serialRead config backend).2.1 with
      | .ok cache =>
        checkRegister config.toControlConfig
          (p.machine.withContext (backend.perfCounterNs (p.serialRead config backend).2.2).2)
          p.register cache (readIsStale config.toControlConfig (p.serialRead config backend).1
            (backend.perfCounterNs (p.serialRead config backend).2.2).1)
      | .error error =>
        failRegister config.toControlConfig
          (p.machine.withContext (p.serialRead config backend).2.2) p.register error
          p.actualStartNs := by
  unfold CyclePoll.result pollFeedbackRegister CyclePoll.serialRead
  rw [if_neg (by simp [hopen])]
  simp only
  generalize readRegister config.toControlConfig backend _ _ _ _ = outcome
  obtain ⟨outcome, context⟩ := outcome
  cases outcome <;> rfl

/-- A read that returned data: the poll succeeds without a trace in the disposition,
    or a check raises. -/
theorem result_of_returned {cache : FeedbackCache δ} (hopen : p.machine.control.isOpen = true)
    (hread : (p.serialRead config backend).2.1 = .ok cache) :
    (p.Passes config backend cache ∧ ∃ feedback m, p.result config backend = (.ok feedback, m) ∧
        m.control.lastCommandDisposition = p.machine.control.lastCommandDisposition) ∨
      (¬p.Passes config backend cache ∧ ∃ error m, p.result config backend = (.error error, m)) := by
  rw [result_eq hopen, hread]
  unfold checkRegister
  simp only
  split_ifs with hdevice hstale
  · exact .inr ⟨fun hpasses => hpasses.1 hdevice, _, _, rfl⟩
  · refine .inr ⟨fun hpasses => ?_, _, _, rfl⟩
    rw [hpasses.2.1] at hstale
    cases hstale
  · cases hcache : feedbackFromCache config.toControlConfig cache with
    | error error =>
      refine .inr ⟨fun hpasses => ?_, _, _, rfl⟩
      have hok := hpasses.2.2
      rw [hcache] at hok
      cases hok
    | ok feedback =>
      refine .inl ⟨⟨hdevice, by simpa using hstale, by rw [hcache]; rfl⟩, feedback, _, rfl, ?_⟩
      rw [acceptRegister_disposition]
      rfl

theorem result_of_raised {error : BackendError} (hopen : p.machine.control.isOpen = true)
    (hread : (p.serialRead config backend).2.1 = .error error) :
    (error.isReadTimeout p.register = true ∧ ∃ feedback m,
        p.result config backend = (.ok feedback, m) ∧
        m.control.lastCommandDisposition = .feedbackTimeoutHold) ∨
      ∃ failure m, p.result config backend = (.error failure, m) := by
  rw [result_eq hopen, hread]
  unfold failRegister
  simp only [isTransientReadTimeout_eq]
  split_ifs with htransient
  · generalize hheld : Machine.dispose _ Disposition.feedbackTimeoutHold = held
    have htimeout : error.isReadTimeout p.register = true := (Bool.and_eq_true_iff.mp htransient).2
    have hdisposed : held.control.lastCommandDisposition = .feedbackTimeoutHold := by
      rw [← hheld]
      rfl
    cases held.control.lastFeedback with
    | none => exact .inr ⟨_, _, rfl⟩
    | some feedback => exact .inl ⟨htimeout, feedback, held, rfl, hdisposed⟩
  · exact .inr ⟨_, _, rfl⟩

/-! ## The records -/

section Records

variable (before : FeedbackSchedule) (periodNs endNs : ℤ)

/-- The entry of a poll that raised is a failure. -/
theorem raised_failed : before.Failed before.raised ∧ ¬before.Succeeded before.raised endNs :=
  ⟨rfl, fun h => absurd h.2.2 (Nat.succ_ne_self _)⟩

theorem polled_failed :
    before.Failed (before.polled periodNs endNs true) ∧
      ¬before.Succeeded (before.polled periodNs endNs true) endNs :=
  ⟨rfl, fun h => absurd h.2.2 (Nat.succ_ne_self _)⟩

theorem polled_succeeded :
    before.Succeeded (before.polled periodNs endNs false) endNs ∧
      ¬before.Failed (before.polled periodNs endNs false) :=
  ⟨⟨rfl, rfl, rfl⟩, fun h => absurd h (Nat.succ_ne_self _).symm⟩

end Records

/-- A register whose success was just recorded is not overdue. -/
theorem isOverdue_of_succeeded {before : FeedbackSchedule} {name : FeedbackRegister}
    {after : FeedbackRegister → FeedbackSchedule} {endNs nowNs : ℤ}
    (h : before.Succeeded (after name) endNs)
    (hage : nowNs - endNs < config.feedbackWarningAgeNs name) :
    isOverdue config after nowNs name = false := by
  simp only [isOverdue, h.1, Option.any_some, decide_eq_false_iff_not]
  omega

/-- An entry with a failure is right exactly for a timeout. -/
theorem recorded_of_failed {before after : FeedbackRegister → FeedbackSchedule}
    (hfailed : (before p.register).Failed (after p.register) ∧
      ¬(before p.register).Succeeded (after p.register) (p.actualEndNs config backend))
    (hexcl : p.TimedOut config backend → ¬p.Returned config backend) :
    Recorded config backend p before after ↔ p.TimedOut config backend := by
  constructor
  · exact fun hrecorded => hrecorded.failure.mp hfailed.1
  · intro htimeout
    have hnone := hexcl htimeout
    exact
      { success := ⟨fun h => absurd h hfailed.2, fun h => absurd h hnone⟩
        failure := ⟨fun _ => htimeout, fun _ => hfailed.1⟩
        current := fun h => absurd h hnone }

/-- **A cycle that polls** records the outcome of the read exactly if the poll fits
    the disposition before the cycle. -/
theorem recorded_iff (h : cyclePoll? config backend w = some p) :
    Recorded config backend p w.schedule (runCycle config backend w).2.schedule ↔
      p.Fits config backend w.machine.control.lastCommandDisposition := by
  obtain ⟨hdisposition, hschedule⟩ := runCycle_schedule h
  have hentry : (runCycle config backend w).2.schedule p.register =
      p.entry config backend (w.schedule p.register) := by
    rw [hschedule, Function.update_self]
  generalize (runCycle config backend w).2.schedule = after at hentry ⊢
  have hexcl : p.TimedOut config backend → ¬p.Returned config backend := by
    rintro ⟨error, herror, -⟩ ⟨cache, hcache⟩
    rw [hcache] at herror
    cases herror
  -- a poll that raised counts as a failure
  have hraised {error : ControlError} {m : Machine κ δ}
      (hresult : p.result config backend = (.error error, m)) :
      Recorded config backend p w.schedule after ↔ p.TimedOut config backend := by
    refine recorded_of_failed ?_ hexcl
    rw [hentry, CyclePoll.entry, hresult]
    exact raised_failed _ _
  -- and so does one that left, or found, the hold
  have hheld {feedback : PcDirectFeedback δ} {m : Machine κ δ}
      (hresult : p.result config backend = (.ok feedback, m))
      (hhold : m.control.lastCommandDisposition = .feedbackTimeoutHold) :
      Recorded config backend p w.schedule after ↔ p.TimedOut config backend := by
    refine recorded_of_failed ?_ hexcl
    rw [hentry, CyclePoll.entry, hresult]
    simp only [hhold, decide_true]
    exact polled_failed _ _ _
  unfold CyclePoll.Fits
  cases hopen : p.machine.control.isOpen with
  | false =>
    have houtcome : p.outcome? config backend = none := by simp [CyclePoll.outcome?, hopen]
    have hresult : p.result config backend = (.error .notOpen, p.machine) := by
      simp [CyclePoll.result, pollFeedbackRegister, hopen]
    rw [houtcome, hraised hresult, CyclePoll.TimedOut, houtcome]
    simp
  | true =>
    have houtcome : p.outcome? config backend = some (p.serialRead config backend).2.1 := by
      simp [CyclePoll.outcome?, hopen]
    cases hread : (p.serialRead config backend).2.1 with
    | error error =>
      rw [hread] at houtcome
      have htimedOut : p.TimedOut config backend ↔ error.isReadTimeout p.register = true := by
        simp [CyclePoll.TimedOut, houtcome]
      rw [houtcome]
      refine Iff.trans ?_ htimedOut
      rcases result_of_raised hopen hread with
        ⟨-, feedback, m, hresult, hhold⟩ | ⟨failure, m, hresult⟩
      · exact hheld hresult hhold
      · exact hraised hresult
    | ok cache =>
      rw [hread] at houtcome
      have hreturned : p.Returned config backend := ⟨cache, houtcome⟩
      have hnot : ¬p.TimedOut config backend := fun htimeout => hexcl htimeout hreturned
      rw [houtcome]
      rcases result_of_returned hopen hread with
        ⟨hpasses, feedback, m, hresult, hsame⟩ | ⟨hfails, error, m, hresult⟩
      · cases hhold : decide (w.machine.control.lastCommandDisposition = .feedbackTimeoutHold) with
        | true =>
          have hdisposed := of_decide_eq_true hhold
          rw [hheld hresult (hsame.trans (hdisposition.trans hdisposed))]
          exact ⟨fun htimeout => absurd htimeout hnot, fun hfits => absurd hdisposed hfits.1⟩
        | false =>
          have hdisposed := of_decide_eq_false hhold
          have hpolled : (w.schedule p.register).Succeeded (after p.register)
                (p.actualEndNs config backend) ∧
              ¬(w.schedule p.register).Failed (after p.register) := by
            rw [hentry, CyclePoll.entry, hresult]
            simp only [hsame, hdisposition, hhold]
            exact polled_succeeded _ _ _
          refine ⟨fun _ => ⟨hdisposed, hpasses⟩, fun _ => ?_⟩
          exact
            { success := ⟨fun _ => hreturned, fun _ => hpolled.1⟩
              failure := ⟨fun h => absurd h hpolled.2, fun h => absurd h hnot⟩
              current := fun _ _ hage => isOverdue_of_succeeded hpolled.1 hage }
      · rw [hraised hresult]
        exact ⟨fun htimeout => absurd htimeout hnot, fun hfits => absurd hfits.2 hfails⟩

theorem bookkept_iff (call : WorkerCall δ) :
    Bookkept config backend w call ↔ Undisturbed config backend w call := by
  unfold Bookkept Undisturbed
  refine forall_congr' fun hcall => forall_congr' fun hrunning => forall_congr' fun p =>
    forall_congr' fun hpoll => ?_
  subst hcall
  show Recorded config backend p w.schedule (serveCycle config backend w).schedule ↔ _
  rw [serveCycle_schedule hrunning]
  exact recorded_iff hpoll

/-- **Main theorem.** In a run of a worker every cycle that polls records what its
    read gave, if and only if every one of them is undisturbed. -/
theorem bookkeeping_iff (context : κ) (operation : HandOperation) (calls : List (WorkerCall δ)) :
    Meets (workerStep config backend) (Bookkept config backend)
        (start config backend (.init context) operation).2 calls ↔
      Meets (workerStep config backend) (Undisturbed config backend)
        (start config backend (.init context) operation).2 calls := by
  exact meets_congr fun _ => bookkept_iff

end Spec

/-! ## A timeout that is not forgotten -/

/-- A hand whose `ANGLE` read between two times is lost. -/
def dropoutBackend (fromNs toNs : ℤ) : PcDirectBackend (FakeRH56PcDirectBackend ℚ) ℚ :=
  { FakeRH56PcDirectBackend.backend with
    getCanonicalAngles := fun fake =>
      if fromNs ≤ fake.nowNs ∧ fake.nowNs < toNs then (.error .timeout, fake)
      else (fake.check fake.position, fake)
    monotonicNs := fun fake => (fake.nowNs, { fake with nowNs := fake.nowNs + 10000000 }) }

/-- The worker of a hand that loses its second `ANGLE` read, after `n` idle cycles. -/
def idleWorker (n : ℕ) : Worker (FakeRH56PcDirectBackend ℚ) ℚ :=
  run (workerStep teleopWorkerConfig (dropoutBackend 60000000 120000000))
    (start teleopWorkerConfig (dropoutBackend 60000000 120000000) (.init .init) .handOnly).2
    (List.replicate n .runCycle)

/-- The read returned data, and no success is counted. -/
def CyclePoll.misses (before after : FeedbackRegister → FeedbackSchedule)
    (p : CyclePoll (FakeRH56PcDirectBackend ℚ) ℚ) : Bool :=
  (match p.outcome? teleopWorkerConfig (dropoutBackend 60000000 120000000) with
    | some (.ok _) => true
    | _ => false) &&
  decide ((after p.register).successCount ≠ (before p.register).successCount + 1)

/-- The `ANGLE` read of the fourth cycle times out; the `STATUS` read of the fifth
    returns data and is counted as a failure. -/
theorem dropout_not_bookkept :
    ¬Meets (workerStep teleopWorkerConfig (dropoutBackend 60000000 120000000))
      (Bookkept teleopWorkerConfig (dropoutBackend 60000000 120000000))
      (start teleopWorkerConfig (dropoutBackend 60000000 120000000) (.init .init) .handOnly).2
      (List.replicate 4 .runCycle ++ [.runCycle]) := by
  intro hmeets
  have hfifth := ((meets_concat _ _ _).mp hmeets).2
  have hmissed : ((cyclePoll? teleopWorkerConfig (dropoutBackend 60000000 120000000)
      (idleWorker 4)).any (CyclePoll.misses (idleWorker 4).schedule
        (workerStep teleopWorkerConfig (dropoutBackend 60000000 120000000) (idleWorker 4)
          .runCycle).schedule)) = true := by
    decide +kernel
  obtain ⟨p, hpoll, hp⟩ := (Option.any_eq_true _ _).mp hmissed
  obtain ⟨hdata, hcount⟩ := Bool.and_eq_true_iff.mp hp
  have hreturned : p.Returned teleopWorkerConfig (dropoutBackend 60000000 120000000) := by
    unfold CyclePoll.Returned
    cases houtcome : p.outcome? teleopWorkerConfig (dropoutBackend 60000000 120000000) with
    | none =>
      rw [houtcome] at hdata
      cases hdata
    | some outcome =>
      cases outcome with
      | error error =>
        rw [houtcome] at hdata
        cases hdata
      | ok cache => exact ⟨cache, rfl⟩
  have hrunning : (idleWorker 4).running = true := by decide +kernel
  have hrecorded := hfifth rfl hrunning p hpoll
  exact absurd (hrecorded.success.mpr hreturned).2.1 (of_decide_eq_true hcount)

end HandLab.Rh56
