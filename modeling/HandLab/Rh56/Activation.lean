import HandLab.Rh56.Serving

/-!
# A measured activation is written once

`activate_from_measured` puts a measured target into the mailbox together with
a one-shot force flag. A cycle takes the flag before it calls
`control.command`, and `command` returns `False` once after a timed-out read.
The activation is then still in the mailbox, without its flag, and the next
cycle commands it as an ordinary write, which `command` refuses with an
exception.

* `activation_settled`: in a run in which no cycle meets an activation while
  the timed-out read holds the next command (`Prompt`), every activation is
  written once with force or replaced by the producer, and one that is still
  waiting is written by the next cycle.
* `activation_unforced`: the run in which the flag is lost.

Arithmetic is exact here.
-/

namespace HandLab.Rh56

open HandLab.Lib

variable {κ δ : Type*}

/-- The mailbox of a worker. -/
def Worker.slot (w : Worker κ δ) : Slot δ where
  pending := w.pendingTarget.map fun target => (target.sequence, target.measuredActivation)
  armed := w.forceWritePending
  submitted := w.submittedSequence
  evaluated := w.evaluatedSequence
  running := w.running
  history := w.history

/-- The mailbox holds an activation that no cycle has evaluated. -/
def Worker.Holds (w : Worker κ δ) (target : PendingTarget δ) : Prop :=
  w.pendingTarget = some target ∧ target.measuredActivation = true ∧
    w.evaluatedSequence < target.sequence

theorem Worker.slot_waits_iff (w : Worker κ δ) (n : ℕ) :
    w.slot.Waits n ↔ ∃ target, w.Holds target ∧ target.sequence = n := by
  constructor
  · rintro ⟨hp, hlt⟩
    obtain ⟨target, hpending, heq⟩ := Option.map_eq_some_iff.mp hp
    obtain ⟨rfl, hm⟩ := Prod.mk.inj heq
    exact ⟨target, ⟨hpending, hm, hlt⟩, rfl⟩
  · rintro ⟨target, ⟨hp, hm, hlt⟩, rfl⟩
    refine ⟨?_, hlt⟩
    rw [Worker.slot, hp, Option.map_some, hm]

/-- What prompt calls maintain. -/
structure Worker.Sound (w : Worker κ δ) : Prop where
  ended : w.running = false → w.failure.isSome = true ∨ w.terminalReason.isSome = true
  serving : w.running = true → ∃ feedback, w.feedback = some feedback ∧ w.machine.Serving feedback
  active : ∀ target, w.Holds target → w.activeRequested = true ∧ w.terminalReason = none
  slot : w.slot.Orderly

section Steps

variable {w : Worker κ δ}

theorem submitTarget_sound (hw : w.Sound) (target : List δ) (monotonicNs : ℤ) :
    (w.submitTarget target monotonicNs).2.Sound := by
  unfold Worker.submitTarget
  split
  · exact hw
  · split
    · exact hw
    · split
      · exact hw
      · refine ⟨hw.ended, hw.serving, ?_, hw.slot.submitted⟩
        rintro target ⟨⟨⟩, hm, -⟩
        exact absurd hm nofun

theorem hold_sound (hw : w.Sound) (reason : String) : (w.hold reason).Sound where
  ended := hw.ended
  serving := hw.serving
  active := by rintro target ⟨h, -⟩; exact absurd h nofun
  slot := hw.slot.cleared (.inl rfl)

theorem armTerminalStop_sound (hw : w.Sound) (reason : String) :
    (w.armTerminalStop reason).Sound where
  ended := by
    intro h
    rcases hw.ended h with hfailed | hstopped
    · exact .inl hfailed
    · refine .inr ?_
      obtain ⟨first, hfirst⟩ := Option.isSome_iff_exists.mp hstopped
      show (w.terminalReason.or (some reason)).isSome = true
      rw [hfirst]
      rfl
  serving := hw.serving
  active := by rintro target ⟨h, -⟩; exact absurd h nofun
  slot := hw.slot.cleared (.inr rfl)

variable {outcome : CycleOutcome δ}

/-- A cycle that finds no activation. -/
theorem Worker.Cycled.slot_move {w' : Worker κ δ}
    (h : w.Cycled w' outcome) (hw : ∀ target, ¬w.Holds target) : SlotMove w.slot w'.slot := by
  have hordinary (target : PendingTarget δ) (hm : w.MayEvaluate target) :
      w.slot.pending = some (target.sequence, false) := by
    have hfalse : target.measuredActivation = false := by
      by_contra hmeasured
      rw [Bool.not_eq_false] at hmeasured
      exact hw target ⟨hm.1, hmeasured, hm.2 hmeasured⟩
    rw [Worker.slot, hm.1, Option.map_some, hfalse]
  have hmove := SlotMove.served (s := w.slot) outcome w'.forceWritePending w'.evaluatedSequence
    w'.running ?_ ?_ ?_
  · have hslot : w'.slot = { w.slot with
        armed := w'.forceWritePending
        evaluated := w'.evaluatedSequence
        running := w'.running
        history := .cycle outcome :: w.slot.history } := by
      rw [Worker.slot, h.pending, h.submitted, h.history]
      rfl
    rw [hslot]
    exact hmove
  · intro n hn
    obtain ⟨target, htarget, -⟩ := (w.slot_waits_iff n).mp hn
    exact hw target htarget
  · intro n hn
    obtain ⟨target, hm, rfl⟩ := h.outcome n hn
    exact hordinary target hm
  · rcases h.evaluated with he | ⟨target, hm, he⟩
    · exact .inl he
    · exact .inr (he ▸ hordinary target hm)

/-- A cycle that finds an activation writes it. -/
theorem Worker.WroteActivation.slot_move {target : PendingTarget δ}
    {result : Except ControlError Bool × Worker κ δ}
    (h : w.WroteActivation target result) (hc : w.Cycled result.2 outcome)
    (hr : result.2.running = w.running) (hw : w.slot.Waits target.sequence)
    (hm : target.measuredActivation = true) : SlotMove w.slot result.2.slot := by
  have hslot : result.2.slot = { w.slot with
      armed := false
      evaluated := target.sequence
      history := .cycle (.commanded target true (.ok true)) :: w.slot.history } := by
    rw [Worker.slot, hc.pending, hc.submitted, h.history, h.evaluated, h.armed, hr]
    rfl
  rw [hslot]
  exact .written target hw hm

theorem Worker.Cycled.sound {w' : Worker κ δ}
    (h : w.Cycled w' outcome) (hw : w.Sound)
    (he : w'.running = false → w'.failure.isSome = true ∨ w'.terminalReason.isSome = true)
    (hs : w'.running = true → ∃ feedback, w'.feedback = some feedback ∧ w'.machine.Serving feedback)
    (hle : w.evaluatedSequence ≤ w'.evaluatedSequence) (hslot : w'.slot.Orderly) : w'.Sound where
  ended := he
  serving := hs
  active := by
    rintro target ⟨hp, hm, hlt⟩
    rw [h.pending] at hp
    rw [h.active, h.terminal]
    exact hw.active target ⟨hp, hm, hle.trans_lt hlt⟩
  slot := hslot

theorem runCycle_evaluated_le (hw : w.Sound) {w' : Worker κ δ}
    (hc : w.Cycled w' outcome) : w.evaluatedSequence ≤ w'.evaluatedSequence := by
  rcases hc.evaluated with he | ⟨target, hm, he⟩
  · exact he.ge
  · have hlast : target.sequence = w.submittedSequence :=
      hw.slot.last target.sequence target.measuredActivation (by rw [Worker.slot, hm.1]; rfl)
    rw [← he, hlast]
    exact hw.slot.evaluated_le

end Steps

/-! ## Prompt calls -/

section Prompt

variable [PyFloat δ]

/-- What a call must meet: an activation comes before the terminal stop, and a
    cycle that finds one can write it. -/
def Prompt (config : WorkerConfig δ) (backend : PcDirectBackend κ δ) (w : Worker κ δ) :
    WorkerCall δ → Prop
  | .activateFromMeasured _ => w.terminalReason = none
  | .runCycle => ∀ target, w.Holds target → CanWrite config backend w.machine
  | _ => True

variable {config : WorkerConfig δ} {backend : PcDirectBackend κ δ} {w : Worker κ δ}

theorem activateFromMeasured_sound (hw : w.Sound) (monotonicNs : ℤ)
    (ht : w.terminalReason = none) : (activateFromMeasured config w monotonicNs).2.Sound := by
  unfold activateFromMeasured
  split_ifs with hfailed
  · exact hw
  · split
    · exact hw
    · have hrunning : w.running = true := by
        by_contra hstopped
        rcases hw.ended (by simpa using hstopped) with h | h
        · exact hfailed h
        · simp [ht] at h
      exact ⟨hw.ended, hw.serving, fun _ _ => ⟨rfl, ht⟩, hw.slot.activation hrunning⟩

variable [Field δ] [LinearOrder δ] [IsStrictOrderedRing δ] [Exact δ]

/-- **Step lemma.** A turn of the loop of the worker. -/
theorem serveCycle_sound
    (hwrites : ∀ context values, (backend.setCanonicalAngles context values).1 = .ok true)
    (hw : w.Sound) (hprompt : Prompt config backend w .runCycle) :
    (serveCycle config backend w).Sound := by
  unfold serveCycle
  split_ifs with hrunning
  · obtain ⟨feedback, hf, hserving⟩ := hw.serving hrunning
    have hturned : w.Turned (runCycle config backend w) := runCycle_turned hserving hf
    obtain ⟨⟨outcome, hcycled⟩, hsame, hstopped, hserved⟩ := hturned
    have hle := runCycle_evaluated_le hw hcycled
    by_cases hholds : ∃ target, w.Holds target
    · obtain ⟨target, hholds⟩ := hholds
      have hwaits : w.slot.Waits target.sequence := (w.slot_waits_iff _).mpr ⟨target, hholds, rfl⟩
      obtain ⟨ha, ht⟩ := hw.active target hholds
      have hwrote : w.WroteActivation target (runCycle config backend w) :=
        runCycle_activation hwrites hserving hf ha ht (hw.slot.waits _ hwaits).1 hholds.1 hholds.2.1
          hholds.2.2 (hprompt target hholds)
      have hmove := hwrote.slot_move hcycled hsame hwaits hholds.2.1
      have hreturned := hwrote.returned
      generalize runCycle config backend w = result at *
      obtain ⟨r, w'⟩ := result
      obtain rfl : r = .ok true := hreturned
      exact hcycled.sound hw (fun h => absurd (hsame.symm.trans h) (by simp [hrunning]))
        (fun _ => hserved rfl) hle (hmove.orderly hw.slot)
    · have hnone := not_exists.mp hholds
      generalize runCycle config backend w = result at *
      obtain ⟨r, w'⟩ := result
      have hended (failure : Option ControlError) (machine : Machine κ δ)
          (he : failure.isSome = true ∨ w'.terminalReason.isSome = true) :
          Worker.Sound { w' with machine, failure, running := false } := by
        have hcycled' : w.Cycled { w' with machine, failure, running := false } outcome :=
          ⟨hcycled.pending, hcycled.active, hcycled.terminal, hcycled.submitted, hcycled.history,
            hcycled.outcome, hcycled.evaluated⟩
        exact hcycled'.sound hw (fun _ => he) nofun hle
          ((hcycled'.slot_move hnone).orderly hw.slot)
      cases r with
      | error e => exact hended (some e) _ (.inl rfl)
      | ok more =>
        cases more with
        | false => exact hended w'.failure w'.machine (.inr (hcycled.terminal ▸ hstopped rfl))
        | true =>
          exact hcycled.sound hw (fun h => absurd (hsame.symm.trans h) (by simp [hrunning]))
            (fun _ => hserved rfl) hle ((hcycled.slot_move hnone).orderly hw.slot)
  · exact hw

theorem workerStep_sound
    (hwrites : ∀ context values, (backend.setCanonicalAngles context values).1 = .ok true)
    (hw : w.Sound) (call : WorkerCall δ) (hprompt : Prompt config backend w call) :
    (workerStep config backend w call).Sound := by
  cases call with
  | activateFromMeasured monotonicNs => exact activateFromMeasured_sound hw monotonicNs hprompt
  | submitTarget target monotonicNs => exact submitTarget_sound hw target monotonicNs
  | hold reason => exact hold_sound hw reason
  | armTerminalStop reason => exact armTerminalStop_sound hw reason
  | runCycle => exact serveCycle_sound hwrites hw hprompt

end Prompt

/-! ## Runs -/

section Runs

variable {backend : PcDirectBackend κ δ}

theorem openTransport_state {m m' : Machine κ δ} {operation : HandOperation}
    (h : openTransport backend m operation = (.ok (), m')) : m'.control.state = .hold := by
  unfold openTransport at h
  split at h
  · exact absurd (congrArg Prod.fst h) nofun
  · exact absurd (congrArg Prod.fst h) nofun
  · rw [← (Prod.mk.inj h).2]
    rfl

variable [PyFloat δ] {config : WorkerConfig δ}

/-- A complete poll that returns leaves a held controller serving. -/
theorem pollFeedback_serving {m m' : Machine κ δ} {feedback : PcDirectFeedback δ}
    {monotonicNs : ℤ} (hs : m.control.state = .hold)
    (h : pollFeedback config.toControlConfig backend m monotonicNs = (.ok feedback, m')) :
    m'.Serving feedback := by
  unfold pollFeedback at h
  split at h
  · exact absurd (congrArg Prod.fst h) nofun
  · split at h
    split at h
    · exact absurd (congrArg Prod.fst h) nofun
    · split at h
      · exact absurd (congrArg Prod.fst h) nofun
      · split at h
        extract_lets stored at h
        split_ifs at h
        · exact absurd (congrArg Prod.fst h) nofun
        · exact absurd (congrArg Prod.fst h) nofun
        · obtain ⟨hreturned, hmachine⟩ := (Prod.mk.injEq ..).mp h
          rw [← hmachine, ← Except.ok.inj hreturned]
          exact .measureCommand (m := stored) (.inl hs) rfl _ _

theorem start_sound {context : κ} {operation : HandOperation} {feedback : PcDirectFeedback δ}
    {w : Worker κ δ} (h : start config backend (.init context) operation = (.ok feedback, w)) :
    w.Sound := by
  unfold start at h
  split at h
  · exact absurd (congrArg Prod.fst h) nofun
  · rename_i m hopen
    split at h
    rename_i nowNs m' hnow
    have hheld : m.control.state = .hold := openTransport_state hopen
    have hstate : m'.control.state = .hold := by
      rw [← (Prod.mk.inj hnow).2]
      exact hheld
    split at h
    · exact absurd (congrArg Prod.fst h) nofun
    · rename_i polled m'' hpoll
      split at h
      rename_i startupEndNs m''' hend
      have hserving : m'''.Serving polled :=
        readClock_serving (pollFeedback_serving hstate hpoll) hend
      rw [← (Prod.mk.inj h).2]
      refine ⟨nofun, fun _ => ⟨polled, rfl, hserving⟩, ?_, Slot.orderly_init true⟩
      rintro target ⟨hnone, -⟩
      exact absurd hnone nofun

variable [Field δ] [LinearOrder δ] [IsStrictOrderedRing δ] [Exact δ]

/-- **Main theorem.** In every run of prompt calls after `start`, with writes
    that succeed, each activation is settled, and one that no call followed
    waits, with its force flag, for the next cycle. -/
theorem activation_settled {context : κ} {operation : HandOperation}
    {feedback : PcDirectFeedback δ} {started : Worker κ δ} {calls : List (WorkerCall δ)}
    (hwrites : ∀ context values, (backend.setCanonicalAngles context values).1 = .ok true)
    (hstart : start config backend (.init context) operation = (.ok feedback, started))
    (hprompt : Meets (workerStep config backend) (Prompt config backend) started calls) :
    let w := run (workerStep config backend) started calls
    ∀ n later earlier, w.history = later ++ .activation n :: earlier →
      ActivationSettled n later ∧
        (later = [] → w.running = true ∧ w.forceWritePending = true ∧
          ∃ target, w.Holds target ∧ target.sequence = n) := by
  intro w n later earlier hhistory
  have hsound : w.Sound :=
    run_invariant_of_meets (P := Worker.Sound)
      (fun _ call hp hw => workerStep_sound hwrites hw call hp) (start_sound hstart) hprompt
  obtain ⟨hsettled, hnil⟩ := hsound.slot.settled n later earlier hhistory
  refine ⟨hsettled, fun h => ?_⟩
  have hwaits := hnil h
  obtain ⟨harmed, hrunning, -⟩ := hsound.slot.waits n hwaits
  exact ⟨hrunning, harmed, (w.slot_waits_iff n).mp hwaits⟩

end Runs

/-! ## Witness and counterexample -/

/-- The sequence of an activation. -/
def WorkerEvent.activation? : WorkerEvent δ → Option ℕ
  | .activation n => some n
  | _ => none

theorem eq_append_activation {h : List (WorkerEvent δ)} {k n : ℕ}
    (hk : h[k]?.bind WorkerEvent.activation? = some n) :
    h = h.take k ++ .activation n :: h.drop (k + 1) := by
  obtain ⟨event, hget, hevent⟩ := Option.bind_eq_some_iff.mp hk
  obtain ⟨hlt, hget⟩ := List.getElem?_eq_some_iff.mp hget
  have hactivation : event = .activation n := by
    cases event with
    | activation m => rw [Option.some.inj hevent]
    | _ => exact absurd hevent nofun
  rw [← hactivation, ← hget, List.getElem_cons_drop, List.take_append_drop]

/-- `configs/hand/rh56_pc_direct_teleop.yaml` with its schedule. -/
def teleopWorkerConfig : WorkerConfig ℚ where
  toControlConfig := teleopConfig
  feedbackPeriodNs
    | .angle => 66666667
    | .current | .force | .status | .error => 100000000
  staleCommandDropEnabled := false
  staleCommandMaxAgeNs := 250000000
  staleCommandMaxAge_pos := by decide

/-- A hand that takes every write; each reading of its clock takes 20 ms, and
    its `ANGLE` reads time out from `timeoutNs` on. -/
def timingOutBackend (timeoutNs : ℤ) : PcDirectBackend (FakeRH56PcDirectBackend ℚ) ℚ :=
  { FakeRH56PcDirectBackend.backend with
    getCanonicalAngles := fun fake =>
      if timeoutNs ≤ fake.nowNs then (.error .timeout, fake) else (fake.check fake.position, fake)
    setCanonicalAngles := fun fake values =>
      (.ok true, { fake with position := fun i => values i })
    monotonicNs := fun fake => (fake.nowNs, { fake with nowNs := fake.nowNs + 20000000 }) }

/-- The worker of this hand after `start`. -/
def startedWorker (timeoutNs : ℤ) : Worker (FakeRH56PcDirectBackend ℚ) ℚ :=
  (start teleopWorkerConfig (timingOutBackend timeoutNs) (.init .init) .handOnly).2

instance {m : Machine κ δ} [PyFloat δ] {config : WorkerConfig δ} {backend : PcDirectBackend κ δ} :
    Decidable (CanWrite config backend m) :=
  decidable_of_iff (m.control.feedbackTransientHold = false ∧ m.control.isPermitted = true ∧
      (m.control.state = .hold →
        m.control.isFresh config.toControlConfig (cycleClock backend m).1 = true) ∧
      m.control.isFresh config.toControlConfig (cycleClock backend m).2 = true)
    ⟨fun ⟨hh, hp, hn, hs⟩ => ⟨hh, hp, hn, hs⟩, fun ⟨hh, hp, hn, hs⟩ => ⟨hh, hp, hn, hs⟩⟩

instance {w : Worker κ δ} [PyFloat δ] {config : WorkerConfig δ} {backend : PcDirectBackend κ δ} :
    (call : WorkerCall δ) → Decidable (Prompt config backend w call)
  | .activateFromMeasured _ => inferInstanceAs (Decidable (w.terminalReason = none))
  | .runCycle =>
    decidable_of_iff (∀ target ∈ w.pendingTarget, target.measuredActivation = true →
        w.evaluatedSequence < target.sequence → CanWrite config backend w.machine)
      ⟨fun h target ht => h target ht.1 ht.2.1 ht.2.2,
        fun h target hp hm hlt => h target ⟨hp, hm, hlt⟩⟩
  | .submitTarget _ _ | .hold _ | .armTerminalStop _ => isTrue trivial

/-- An activation that is written, a target of the operator, and a release. -/
def activationCalls : List (WorkerCall ℚ) :=
  [.runCycle, .activateFromMeasured 100000000, .runCycle,
    .submitTarget [0, 0, 0, 0, 0, 0.01] 150000000, .runCycle, .hold "grip_released", .runCycle]

/-- The worker of a hand whose reads do not time out. -/
def gripWorker : Worker (FakeRH56PcDirectBackend ℚ) ℚ :=
  run (workerStep teleopWorkerConfig (timingOutBackend 1000000000)) (startedWorker 1000000000)
    activationCalls

theorem startedWorker_ok : ∃ feedback,
    start teleopWorkerConfig (timingOutBackend 1000000000) (.init .init) .handOnly =
      (.ok feedback, startedWorker 1000000000) := by
  have hok : (start teleopWorkerConfig (timingOutBackend 1000000000) (.init .init)
      .handOnly).1.isOk = true := by decide +kernel
  cases h : (start teleopWorkerConfig (timingOutBackend 1000000000) (.init .init) .handOnly).1 with
  | error e => exact absurd (h ▸ hok) nofun
  | ok feedback => exact ⟨feedback, Prod.ext h rfl⟩

/-- The run is prompt, and its activation is settled. -/
theorem activation_settled_grip :
    Meets (workerStep teleopWorkerConfig (timingOutBackend 1000000000))
        (Prompt teleopWorkerConfig (timingOutBackend 1000000000))
        (startedWorker 1000000000) activationCalls ∧
      ActivationSettled 1 (gripWorker.history.take 5) := by
  have hprompt : Meets (workerStep teleopWorkerConfig (timingOutBackend 1000000000))
      (Prompt teleopWorkerConfig (timingOutBackend 1000000000))
      (startedWorker 1000000000) activationCalls := by decide +kernel
  obtain ⟨feedback, hstart⟩ := startedWorker_ok
  have hhistory := eq_append_activation
    (show gripWorker.history[5]?.bind WorkerEvent.activation? = some 1 by decide +kernel)
  have hsettled := activation_settled (fun _ _ => rfl) hstart hprompt
  exact ⟨hprompt, (hsettled 1 _ _ hhistory).1⟩

/-- The cycle that finds the activation after a timed-out `ANGLE` read drops its
    flag, and the next one raises. -/
theorem activation_unforced :
    let w := run (workerStep teleopWorkerConfig (timingOutBackend 100000000))
      (startedWorker 100000000)
      [.runCycle, .runCycle, .activateFromMeasured 140000000, .runCycle, .runCycle]
    w.failure = some .activationNotForced ∧
      ∃ later earlier, w.history = later ++ .activation 1 :: earlier ∧
        ¬ActivationSettled 1 later := by
  intro w
  have hfailure : w.failure = some .activationNotForced := by decide +kernel
  have hsettled : ¬ActivationSettled 1 (w.history.take 2) := by decide +kernel
  have hhistory := eq_append_activation
    (show w.history[2]?.bind WorkerEvent.activation? = some 1 by decide +kernel)
  exact ⟨hfailure, _, _, hhistory, hsettled⟩

end HandLab.Rh56
