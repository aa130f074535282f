import HandLab.Rh56.Protocol
import HandLab.Rh56.OneShot

/-!
# What a cycle does

The specification of `run_cycle` in terms of its calls of the controller.

* `Machine.Serving`: a controller that can be commanded. A call that returns
  leaves it so.
* `Cycled`, `runCycle_turned`: a cycle leaves the mailbox to the producer and
  evaluates no target that is not due.
* `runCycle_activation`: a cycle that finds a measured activation writes it with
  force, unless a timed-out read still holds the next command.
-/

namespace HandLab.Rh56

open HandLab.Lib

variable {κ δ : Type*}

/-! ## The controller of a running worker -/

/-- The hand is held or active, with this feedback and a last command. -/
structure Machine.Serving (m : Machine κ δ) (feedback : PcDirectFeedback δ) : Prop where
  state : m.control.state = .hold ∨ m.control.state = .active
  feedback : m.control.lastFeedback = some feedback
  command : m.control.lastCommandNormalized.isSome = true

namespace Machine.Serving

variable {m m' : Machine κ δ} {feedback : PcDirectFeedback δ}

theorem congr (h : m.Serving feedback) (hs : m'.control.state = m.control.state)
    (hf : m'.control.lastFeedback = m.control.lastFeedback)
    (hc : m'.control.lastCommandNormalized = m.control.lastCommandNormalized) :
    m'.Serving feedback :=
  ⟨hs ▸ h.state, hf.trans h.feedback, hc ▸ h.command⟩

theorem not_fault (h : m.Serving feedback) : m.control.state ≠ .fault := by
  rcases h.state with hs | hs <;> simp [hs]

theorem hold (h : m.Serving feedback) (reason : String) : (m.hold reason).Serving feedback := by
  unfold Machine.hold
  rw [if_neg h.not_fault]
  exact ⟨.inl rfl, h.feedback, h.command⟩

variable [PyFloat δ]

theorem measureCommand (hs : m.control.state = .hold ∨ m.control.state = .active)
    (hf : m.control.lastFeedback = some feedback) (normalized position : Channels δ) :
    (m.measureCommand normalized position).Serving feedback := by
  unfold Machine.measureCommand
  split
  · rename_i heq
    exact ⟨hs, hf, by rw [heq]; rfl⟩
  · exact ⟨hs, hf, rfl⟩

theorem pop (h : m.Serving feedback) :
    (m.withControl (popContactReliefTarget m.control).2).Serving feedback := by
  obtain ⟨pending, heq⟩ := popContactReliefTarget_frame m.control
  rw [heq]
  exact h.congr rfl rfl rfl

end Machine.Serving

section Control

variable [PyFloat δ] {config : ControlConfig δ} {backend : PcDirectBackend κ δ} {m m' : Machine κ δ}
  {feedback : PcDirectFeedback δ}

/-- An activation that returns engages the last feedback, which was fresh. -/
theorem activate_ok (h : m.Serving feedback) {monotonicNs : ℤ} (hp : m.control.isPermitted = true)
    (hf : m.control.isFresh config monotonicNs = true) :
    activate config m monotonicNs = (.ok (), engage m feedback monotonicNs) := by
  simp [activate, hp, requireFreshFeedback, markFeedbackTimeout, hf, h.not_fault, h.feedback]

theorem activate_serving (h : m.Serving feedback) {monotonicNs : ℤ}
    (ha : activate config m monotonicNs = (.ok (), m')) :
    m'.Serving feedback := by
  unfold activate at ha
  split_ifs at ha with hp
  · exact absurd (congrArg Prod.fst ha) nofun
  · split at ha
    · exact absurd (congrArg Prod.fst ha) nofun
    · rename_i heq
      obtain ⟨rfl, -⟩ := requireFreshFeedback_ok heq
      rw [if_neg h.not_fault] at ha
      split at ha
      · exact absurd (congrArg Prod.fst ha) nofun
      · rename_i hfeedback
        obtain rfl := Option.some.inj (hfeedback.symm.trans h.feedback)
        obtain rfl := (Prod.mk.inj ha).2
        exact ⟨.inr rfl, hfeedback, rfl⟩

variable {args : Command δ}

theorem commandGate_serving (h : m.Serving feedback) {passed : Bool}
    (hg : args.gripFresh = true) (ht : args.armTerminalStop = false)
    (hc : commandGate config m args = (.ok passed, m')) : m'.Serving feedback := by
  unfold commandGate at hc
  rw [if_neg (by simp [ht]), if_neg (by simp [hg])] at hc
  split_ifs at hc
  · obtain rfl := (Prod.mk.inj hc).2
    exact h.congr rfl rfl rfl
  · split at hc
    · exact absurd (congrArg Prod.fst hc) nofun
    · rename_i heq
      obtain ⟨rfl, -⟩ := requireFreshFeedback_ok heq
      split_ifs at hc
      · obtain rfl := (Prod.mk.inj hc).2
        exact h.congr rfl rfl rfl
      · obtain rfl := (Prod.mk.inj hc).2
        exact h.congr rfl rfl rfl
      · obtain rfl := (Prod.mk.inj hc).2
        exact h.congr rfl rfl rfl
      · obtain rfl := (Prod.mk.inj hc).2
        exact h

theorem postContactTarget_feedback (control : RH56PcDirectControl δ) (args : Command δ)
    (previous requested : Channels δ) :
    (postContactTarget config control args previous requested).2.lastFeedback =
      control.lastFeedback := by
  unfold postContactTarget
  split_ifs
  · rfl
  · unfold limitTarget
    extract_lets limited control' budgeted
    split_ifs
    · rfl
    · rfl
    · rfl

theorem writeTarget_serving (h : m.Serving feedback) {written : Bool}
    {previous requested : Channels δ}
    (hw : writeTarget config backend m args previous requested = (.ok written, m')) :
    m'.Serving feedback := by
  unfold writeTarget at hw
  extract_lets selected raw write at hw
  generalize backend.setCanonicalAngles m.context raw = result at hw
  obtain ⟨outcome, context⟩ := result
  cases outcome with
  | error e => exact absurd (congrArg Prod.fst hw) nofun
  | ok accepted =>
    cases accepted with
    | false => exact absurd (congrArg Prod.fst hw) nofun
    | true =>
      obtain rfl := (Prod.mk.inj hw).2
      exact ⟨h.state, h.feedback, rfl⟩

theorem submitTarget_serving (h : m.Serving feedback) {written : Bool}
    {previous requested : Channels δ}
    (hw : submitTarget config backend m args previous requested = (.ok written, m')) :
    m'.Serving feedback := by
  have hsame :
      (m.withControl (postContactTarget config m.control args previous requested).2).protocol =
        m.protocol := postContactTarget_protocol args previous requested
  have hserving : (m.withControl
      (postContactTarget config m.control args previous requested).2).Serving feedback :=
    h.congr (congrArg Protocol.state hsame) (postContactTarget_feedback _ _ _ _)
      (congrArg Protocol.lastCommand hsame)
  unfold submitTarget at hw
  split at hw
  · rename_i heq
    rw [heq] at hserving
    obtain rfl := (Prod.mk.inj hw).2
    exact hserving
  · rename_i heq
    rw [heq] at hserving
    split_ifs at hw
    · obtain rfl := (Prod.mk.inj hw).2
      exact hserving.congr rfl rfl rfl
    · exact writeTarget_serving hserving hw

/-- A command that returns leaves the controller serving. -/
theorem command_serving (h : m.Serving feedback) {written : Bool}
    (hg : args.gripFresh = true) (ht : args.armTerminalStop = false)
    (hc : command config backend m args = (.ok written, m')) : m'.Serving feedback := by
  unfold command at hc
  split at hc
  · exact absurd (congrArg Prod.fst hc) nofun
  · rename_i heq
    obtain rfl := (Prod.mk.inj hc).2
    exact commandGate_serving h hg ht heq
  · rename_i heq
    have hserving := commandGate_serving h hg ht heq
    split at hc
    · exact absurd (congrArg Prod.fst hc) nofun
    · split at hc
      · exact absurd (congrArg Prod.fst hc) nofun
      · exact submitTarget_serving hserving hc

theorem acceptRegister_serving {last : PcDirectFeedback δ} (h : m.Serving last)
    (name : FeedbackRegister) (feedback : PcDirectFeedback δ) :
    (acceptRegister config m name feedback).Serving feedback := by
  have hset : (m.setFeedback feedback).Serving feedback := ⟨h.state, rfl, h.command⟩
  cases name with
  | angle =>
    exact .measureCommand (m := (m.setFeedback feedback).observeAngle feedback.positionNormalized)
      h.state rfl _ _
  | force => exact hset.congr rfl rfl rfl
  | current => exact hset
  | status => exact hset
  | error => exact hset

/-- A poll that returns leaves the controller serving with what it returned. -/
theorem pollFeedbackRegister_serving {last : PcDirectFeedback δ} (h : m.Serving last)
    {name : FeedbackRegister} {monotonicNs : ℤ}
    (hp : pollFeedbackRegister config backend m name monotonicNs = (.ok feedback, m')) :
    m'.Serving feedback := by
  unfold pollFeedbackRegister at hp
  split at hp
  · exact absurd (congrArg Prod.fst hp) nofun
  · split at hp
    split at hp
    · unfold failRegister at hp
      split_ifs at hp
      · extract_lets waiting at hp
        split at hp
        · rename_i heq
          obtain ⟨hreturned, hmachine⟩ := (Prod.mk.injEq ..).mp hp
          rw [← hmachine, ← Except.ok.inj hreturned]
          exact ⟨h.state, heq, h.command⟩
        · exact absurd (congrArg Prod.fst hp) nofun
      · exact absurd (congrArg Prod.fst hp) nofun
    · split at hp
      unfold checkRegister at hp
      extract_lets stored errors at hp
      split_ifs at hp
      · exact absurd (congrArg Prod.fst hp) nofun
      · exact absurd (congrArg Prod.fst hp) nofun
      · split at hp
        · exact absurd (congrArg Prod.fst hp) nofun
        · obtain ⟨hreturned, hmachine⟩ := (Prod.mk.injEq ..).mp hp
          rw [← hmachine, ← Except.ok.inj hreturned]
          have hstored : stored.Serving last := h.congr rfl rfl rfl
          exact acceptRegister_serving hstored _ _

end Control

/-! ## The branches of a cycle -/

namespace Worker

variable {w w' : Worker κ δ}

/-- The target may be evaluated: it is not an activation that has been. -/
def MayEvaluate (w : Worker κ δ) (target : PendingTarget δ) : Prop :=
  w.pendingTarget = some target ∧
    (target.measuredActivation = true → w.evaluatedSequence < target.sequence)

/-- A cycle with this outcome: the mailbox is left to the producer, and what is
    evaluated may be. -/
structure Cycled (w w' : Worker κ δ) (outcome : CycleOutcome δ) : Prop where
  pending : w'.pendingTarget = w.pendingTarget
  active : w'.activeRequested = w.activeRequested
  terminal : w'.terminalReason = w.terminalReason
  submitted : w'.submittedSequence = w.submittedSequence
  history : w'.history = .cycle outcome :: w.history
  outcome : ∀ n, (WorkerEvent.cycle outcome).evaluated? = some n →
    ∃ target, w.MayEvaluate target ∧ target.sequence = n
  evaluated : w'.evaluatedSequence = w.evaluatedSequence ∨
    ∃ target, w.MayEvaluate target ∧ target.sequence = w'.evaluatedSequence

/-- What a cycle did to the worker: one that returns leaves it serving, and
    only the terminal reason makes it return `False`. -/
structure Turned (w : Worker κ δ) (result : Except ControlError Bool × Worker κ δ) : Prop where
  cycled : ∃ outcome, w.Cycled result.2 outcome
  running : result.2.running = w.running
  stopped : result.1 = .ok false → w.terminalReason.isSome = true
  serving : result.1 = .ok true → ∃ feedback, result.2.feedback = some feedback ∧
    result.2.machine.Serving feedback

end Worker

section Branches

variable {backend : PcDirectBackend κ δ} {w : Worker κ δ} {feedback : PcDirectFeedback δ}

theorem readClock_serving {m m' : Machine κ δ} {nowNs : ℤ} (h : m.Serving feedback)
    (hr : m.readClock backend = (nowNs, m')) : m'.Serving feedback := by
  obtain rfl := (Prod.mk.inj hr).2
  exact h.congr rfl rfl rfl

variable [PyFloat δ] {config : WorkerConfig δ}

theorem commandTarget_turned {target : PendingTarget δ} (h : w.machine.Serving feedback)
    (hf : w.feedback = some feedback) (hm : w.MayEvaluate target) (nowNs : ℤ) :
    w.Turned (commandTarget config backend w target nowNs) := by
  have hmay (n : ℕ) (hn : some target.sequence = some n) :
      ∃ target, w.MayEvaluate target ∧ target.sequence = n :=
    ⟨target, hm, Option.some.inj hn⟩
  unfold commandTarget
  extract_lets dueNs cleared
  split
  rename_i actualStartNs m hstart
  have hstarted := readClock_serving h hstart
  split_ifs
  · split
    rename_i actualEndNs m' hend
    have hended : m'.Serving feedback :=
      readClock_serving (m := m.dispose .staleTargetDropped) (hstarted.congr rfl rfl rfl) hend
    refine ⟨⟨_, rfl, rfl, rfl, rfl, rfl, hmay, .inr ⟨target, hm, rfl⟩⟩, rfl, nofun, fun _ => ?_⟩
    exact ⟨feedback, hf, hended.congr rfl rfl rfl⟩
  · split
    · exact ⟨⟨_, rfl, rfl, rfl, rfl, rfl, hmay, .inl rfl⟩, rfl, nofun, nofun⟩
    · rename_i written m' hcommand
      have hcommanded : m'.Serving feedback := command_serving hstarted rfl rfl hcommand
      split
      rename_i actualEndNs m'' hend
      have hended := readClock_serving hcommanded hend
      refine ⟨⟨_, rfl, rfl, rfl, rfl, rfl, hmay, ?_⟩, rfl, nofun, fun _ => ?_⟩
      · by_cases hevaluated : written || decide
            (m''.control.lastCommandDisposition = .exactDuplicateSuppressed)
        · exact .inr ⟨target, hm, (if_pos hevaluated).symm⟩
        · exact .inl (if_neg hevaluated)
      · exact ⟨feedback, hf, hended.congr rfl rfl rfl⟩

theorem commandRelief_turned (h : w.machine.Serving feedback) (hf : w.feedback = some feedback)
    (relief : Channels δ) (nowNs : ℤ) :
    w.Turned (commandRelief config backend w relief nowNs) := by
  unfold commandRelief
  split
  rename_i actualStartNs m hstart
  have hstarted := readClock_serving h hstart
  split
  · exact ⟨⟨_, rfl, rfl, rfl, rfl, rfl, nofun, .inl rfl⟩, rfl, nofun, nofun⟩
  · rename_i written m' hcommand
    have hcommanded : m'.Serving feedback := command_serving hstarted rfl rfl hcommand
    split
    rename_i actualEndNs m'' hend
    have hended := readClock_serving hcommanded hend
    refine ⟨⟨_, rfl, rfl, rfl, rfl, rfl, nofun, .inl rfl⟩, rfl, nofun, fun _ => ?_⟩
    exact ⟨feedback, hf, hended.congr rfl rfl rfl⟩

theorem pollOne_turned (h : w.machine.Serving feedback) (hf : w.feedback = some feedback)
    (nowNs : ℤ) : w.Turned (pollOne config backend w nowNs) := by
  unfold pollOne
  split
  · exact ⟨⟨_, rfl, rfl, rfl, rfl, rfl, nofun, .inl rfl⟩, rfl, nofun, fun _ => ⟨feedback, hf, h⟩⟩
  · rename_i register _
    split
    rename_i actualStartNs m hstart
    have hstarted := readClock_serving h hstart
    split
    · exact ⟨⟨_, rfl, rfl, rfl, rfl, rfl, nofun, .inl rfl⟩, rfl, nofun, nofun⟩
    · rename_i polled m' hpoll
      have hpolled : m'.Serving polled := pollFeedbackRegister_serving hstarted hpoll
      split
      rename_i actualEndNs m'' hend
      refine ⟨⟨_, rfl, rfl, rfl, rfl, rfl, nofun, .inl rfl⟩, rfl, nofun, fun _ => ?_⟩
      exact ⟨polled, rfl, readClock_serving hpolled hend⟩

theorem commandIsDue_may {target : PendingTarget δ} {nowNs : ℤ}
    (hp : w.pendingTarget = some target) (hd : commandIsDue config w nowNs = true) :
    w.MayEvaluate target := by
  refine ⟨hp, fun hm => ?_⟩
  rw [commandIsDue, hp, Bool.and_eq_true, Bool.and_eq_true] at hd
  have hrequires := hd.1.2
  unfold targetRequiresCommand at hrequires
  simp only at hrequires
  split_ifs at hrequires with hlt
  exact hlt

theorem runOperation_turned (h : w.machine.Serving feedback) (hf : w.feedback = some feedback)
    (relief : Option (Channels δ)) (nowNs : ℤ) :
    w.Turned (runOperation config backend w relief nowNs) := by
  unfold runOperation
  split
  · exact commandRelief_turned h hf _ nowNs
  · split
    · exact pollOne_turned h hf nowNs
    · rename_i target hp
      split_ifs with hd
      · exact commandTarget_turned h hf (commandIsDue_may hp hd) nowNs
      · exact pollOne_turned h hf nowNs

theorem prepareControl_serving {m : Machine κ δ} {relief : Option (Channels δ)} {nowNs : ℤ}
    (h : w.machine.Serving feedback)
    (hp : prepareControl config w nowNs = (.ok relief, m)) : m.Serving feedback := by
  unfold prepareControl at hp
  split_ifs at hp
  · extract_lets held at hp
    split at hp
    rename_i heq
    obtain rfl := (Prod.mk.inj hp).2
    have hpop := (h.hold w.holdReason).pop
    rwa [show popContactReliefTarget (w.machine.hold w.holdReason).control = _ from heq] at hpop
  · split at hp
    · exact absurd (congrArg Prod.fst hp) nofun
    · rename_i heq
      obtain rfl := (Prod.mk.inj hp).2
      exact activate_serving h heq
  · obtain rfl := (Prod.mk.inj hp).2
    exact h

/-- **A cycle.** -/
theorem runCycle_turned (h : w.machine.Serving feedback) (hf : w.feedback = some feedback) :
    w.Turned (runCycle config backend w) := by
  unfold runCycle
  split
  rename_i startedNs m hstart
  have hstarted := readClock_serving h hstart
  split
  · rename_i heq
    exact ⟨⟨_, rfl, rfl, rfl, rfl, rfl, nofun, .inl rfl⟩, rfl, fun _ => by rw [heq]; rfl, nofun⟩
  · split
    rename_i nowNs m' hnow
    have hnowed := readClock_serving hstarted hnow
    split
    · exact ⟨⟨_, rfl, rfl, rfl, rfl, rfl, nofun, .inl rfl⟩, rfl, nofun, nofun⟩
    · rename_i relief m'' hprepare
      have hprepared : m''.Serving feedback :=
        prepareControl_serving (w := w.withMachine m') hnowed hprepare
      have hturned : (w.withMachine m'').Turned
          (runOperation config backend (w.withMachine m'') relief nowNs) :=
        runOperation_turned (w := w.withMachine m'') hprepared hf relief nowNs
      obtain ⟨⟨outcome, hcycled⟩, hrunning, hstopped, hserving⟩ := hturned
      exact ⟨⟨outcome, hcycled.pending, hcycled.active, hcycled.terminal, hcycled.submitted,
        hcycled.history, hcycled.outcome, hcycled.evaluated⟩, hrunning, hstopped, hserving⟩

end Branches

/-! ## A cycle with an activation -/

/-- The times a cycle reads before it commands a target: `now_ns` and
    `actual_start_ns`. -/
def cycleClock (backend : PcDirectBackend κ δ) (m : Machine κ δ) : ℤ × ℤ :=
  let started := (m.readClock backend).2
  let (nowNs, now) := started.readClock backend
  (nowNs, (now.readClock backend).1)

section Activation

variable [PyFloat δ]

/-- A cycle can write an activation: no timed-out read holds the next command,
    the operation admits positions, and the feedback is fresh when it is used. -/
structure CanWrite (config : WorkerConfig δ) (backend : PcDirectBackend κ δ) (m : Machine κ δ) :
    Prop where
  notHeld : m.control.feedbackTransientHold = false
  permitted : m.control.isPermitted = true
  freshNow : m.control.state = .hold →
    m.control.isFresh config.toControlConfig (cycleClock backend m).1 = true
  freshStart : m.control.isFresh config.toControlConfig (cycleClock backend m).2 = true

variable {config : WorkerConfig δ} {backend : PcDirectBackend κ δ} {feedback : PcDirectFeedback δ}

/-- A cycle that finds an activation makes the controller active. -/
theorem prepareControl_activation {w : Worker κ δ} {nowNs : ℤ} (h : w.machine.Serving feedback)
    (ha : w.activeRequested = true) (hp : w.machine.control.isPermitted = true)
    (hf : w.machine.control.state = .hold →
      w.machine.control.isFresh config.toControlConfig nowNs = true) :
    ∃ m, prepareControl config w nowNs = (.ok none, m) ∧ m.Serving feedback ∧
      m.control.state = .active ∧ m.context = w.machine.context ∧
      m.control.feedbackTransientHold = w.machine.control.feedbackTransientHold := by
  unfold prepareControl
  rw [if_neg (by simp [ha])]
  by_cases hs : w.machine.control.state = .hold
  · rw [if_pos hs, activate_ok h hp (hf hs)]
    exact ⟨_, rfl, ⟨.inr rfl, h.feedback, rfl⟩, rfl, rfl, rfl⟩
  · rw [if_neg hs]
    exact ⟨_, rfl, h, h.state.resolve_left hs, rfl, rfl⟩

variable [Field δ] [LinearOrder δ] [IsStrictOrderedRing δ] [Exact δ]

theorem activationTarget_eq (feedback : PcDirectFeedback δ) (i : Fin 6) :
    activationTarget feedback i = PyFloat.clip (feedback.positionNormalized i) 0 1 := by
  simp [activationTarget, min_comm, max_comm]

/-- The target of an activation passes the checks of `command`. -/
theorem checkTarget_activation {m : Machine κ δ} (h : m.Serving feedback) {args : Command δ}
    (ht : args.target = List.ofFn (activationTarget feedback)) (hf : args.forceWrite = true)
    (hm : args.measuredActivationWrite = true) :
    checkTarget config.toControlConfig m.control args = .ok (activationTarget feedback) := by
  have hrange (i : Fin 6) : 0 ≤ activationTarget feedback i ∧ activationTarget feedback i ≤ 1 := by
    rw [activationTarget_eq, Exact.clip_eq]
    exact ⟨le_min (le_max_right _ _) zero_le_one, min_le_right _ _⟩
  have hclose (i : Fin 6) : PyFloat.isClose (activationTarget feedback i)
      (PyFloat.clip (feedback.positionNormalized i) Double.zero (Double.ofRat 1))
      (Double.ofRat 1e-12) = true := by
    rw [activationTarget_eq, Exact.zero_eq, show (Double.ofRat 1 : δ) = 1 by simp]
    exact Exact.isClose_self _ _
  unfold checkTarget
  rw [ht, Channels.ofList?_ofFn]
  simp only
  rw [if_neg, if_neg (by simp [hm]), if_neg (by simp [hf]), h.feedback]
  · exact if_pos hclose
  · rintro ⟨i, hi | hi | hi⟩
    · simp at hi
    · simp [not_lt.mpr (hrange i).1] at hi
    · simp [targetCeiling, hm, not_lt.mpr (hrange i).2] at hi

theorem command_activation {m : Machine κ δ} (h : m.Serving feedback) {args : Command δ}
    (hwrites : ∀ context values, (backend.setCanonicalAngles context values).1 = .ok true)
    (hs : m.control.state = .active) (hh : m.control.feedbackTransientHold = false)
    (hfresh : m.control.isFresh config.toControlConfig args.monotonicNs = true)
    (ht : args.target = List.ofFn (activationTarget feedback)) (hg : args.gripFresh = true)
    (hstop : args.armTerminalStop = false) (hf : args.forceWrite = true)
    (hm : args.measuredActivationWrite = true) :
    (command config.toControlConfig backend m args).1 = .ok true := by
  have hgate : commandGate config.toControlConfig m args = (.ok true, m) := by
    simp [commandGate, hstop, hg, hs, requireFreshFeedback, markFeedbackTimeout, hfresh, hh, hf]
  obtain ⟨previous, hprevious⟩ := Option.isSome_iff_exists.mp h.command
  unfold command
  rw [hgate]
  simp only
  rw [checkTarget_activation h ht hf hm, hprevious]
  simp only
  unfold submitTarget
  rw [postContactTarget, if_pos hm]
  simp only
  rw [if_neg (by simp [isDuplicate, hf])]
  unfold writeTarget
  extract_lets selected raw write
  split
  rename_i outcome context heq
  obtain rfl : outcome = .ok true := (congrArg Prod.fst heq).symm.trans (hwrites _ raw)
  rfl

/-- What the cycle that writes an activation leaves. -/
structure Worker.WroteActivation (w : Worker κ δ) (target : PendingTarget δ)
    (result : Except ControlError Bool × Worker κ δ) : Prop where
  returned : result.1 = .ok true
  history : result.2.history = .cycle (.commanded target true (.ok true)) :: w.history
  evaluated : result.2.evaluatedSequence = target.sequence
  armed : result.2.forceWritePending = false

theorem commandTarget_activation {w : Worker κ δ} {target : PendingTarget δ}
    (hwrites : ∀ context values, (backend.setCanonicalAngles context values).1 = .ok true)
    (h : w.machine.Serving feedback) (hf : w.feedback = some feedback)
    (hs : w.machine.control.state = .active)
    (hh : w.machine.control.feedbackTransientHold = false)
    (hfresh : w.machine.control.isFresh config.toControlConfig
      (w.machine.readClock backend).1 = true)
    (harmed : w.forceWritePending = true) (hm : target.measuredActivation = true) (nowNs : ℤ) :
    w.WroteActivation target (commandTarget config backend w target nowNs) := by
  unfold commandTarget
  extract_lets dueNs cleared
  split
  rename_i actualStartNs m hstart
  rw [hstart] at hfresh
  have hstarted := readClock_serving h hstart
  have hcontrol : m.control = w.machine.control := by
    rw [← (Prod.mk.inj hstart).2]
    rfl
  rw [if_neg (by simp [isStaleTarget, harmed])]
  have htarget : (targetCommand w target actualStartNs).target =
      List.ofFn (activationTarget feedback) := by
    simp [targetCommand, commandValues, hm, hf]
  have hok : (command config.toControlConfig backend m
      (targetCommand w target actualStartNs)).1 = .ok true :=
    command_activation hstarted hwrites (hcontrol ▸ hs) (hcontrol ▸ hh) (hcontrol ▸ hfresh) htarget
      rfl rfl harmed hm
  split
  · rename_i heq
    exact absurd ((congrArg Prod.fst heq).symm.trans hok) nofun
  · rename_i written m' heq
    obtain rfl : written = true := Except.ok.inj ((congrArg Prod.fst heq).symm.trans hok)
    split
    exact ⟨rfl, by rw [harmed]; rfl, rfl, rfl⟩

/-- **A cycle with an activation.** It is written with force. -/
theorem runCycle_activation {w : Worker κ δ} {target : PendingTarget δ}
    (hwrites : ∀ context values, (backend.setCanonicalAngles context values).1 = .ok true)
    (h : w.machine.Serving feedback) (hf : w.feedback = some feedback)
    (ha : w.activeRequested = true) (ht : w.terminalReason = none)
    (harmed : w.forceWritePending = true) (hp : w.pendingTarget = some target)
    (hm : target.measuredActivation = true) (hlt : w.evaluatedSequence < target.sequence)
    (hcan : CanWrite config backend w.machine) :
    w.WroteActivation target (runCycle config backend w) := by
  have hclock : cycleClock backend w.machine = (((w.machine.readClock backend).2.readClock
      backend).1,
      (((w.machine.readClock backend).2.readClock backend).2.readClock backend).1) := rfl
  have hfreshNow := hcan.freshNow
  have hfreshStart := hcan.freshStart
  rw [hclock] at hfreshNow hfreshStart
  unfold runCycle
  split
  rename_i startedNs m hstart
  rw [hstart] at hfreshNow hfreshStart
  split
  · rename_i heq
    exact absurd (ht.symm.trans heq) nofun
  split
  rename_i nowNs m' hnow
  rw [show (startedNs, m).2.readClock backend = _ from hnow] at hfreshNow hfreshStart
  have hcontrol : m'.control = w.machine.control := by
    rw [← (Prod.mk.inj hnow).2, ← (Prod.mk.inj hstart).2]
    rfl
  have hserving : m'.Serving feedback :=
    readClock_serving (readClock_serving h hstart) hnow
  obtain ⟨m'', hprepare, hprepared, hactive, hcontext, hheld⟩ :=
    prepareControl_activation (w := w.withMachine m') hserving ha
      (show m'.control.isPermitted = true by rw [hcontrol]; exact hcan.permitted)
      (show m'.control.state = .hold → m'.control.isFresh config.toControlConfig nowNs = true by
        rw [hcontrol]; exact hfreshNow)
  rw [hprepare]
  simp only
  have hdue : commandIsDue config (w.withMachine m'') nowNs = true := by
    simp [commandIsDue, Worker.withMachine, ha, hp, harmed, targetRequiresCommand, hlt]
  unfold runOperation
  simp only
  rw [show (w.withMachine m'').pendingTarget = some target from hp]
  simp only
  rw [if_pos hdue]
  have hfresh : m''.control.isFresh config.toControlConfig (m''.readClock backend).1 = true := by
    have hread : (m''.readClock backend).1 = (m'.readClock backend).1 :=
      congrArg (fun context => (backend.monotonicNs context).1) hcontext
    have hsame : m''.control.lastFeedback = w.machine.control.lastFeedback :=
      hprepared.feedback.trans h.feedback.symm
    rw [hread, RH56PcDirectControl.isFresh, hsame]
    exact hfreshStart
  have hnotHeld : m''.control.feedbackTransientHold = false := by
    rw [hheld]
    show m'.control.feedbackTransientHold = false
    rw [hcontrol]
    exact hcan.notHeld
  obtain ⟨hreturned, hhistory, hevaluated, hcleared⟩ :=
    commandTarget_activation (w := w.withMachine m'') hwrites hprepared hf hactive hnotHeld hfresh
      harmed hm nowNs
  exact ⟨hreturned, hhistory, hevaluated, hcleared⟩

end Activation

end HandLab.Rh56
