import HandLab.Lib.Meter
import HandLab.Rh56.Terminal

/-!
# The fresh-force closure budget

With `contact_stop` enabled and `require_fresh_force_before_closure_step` set,
the ordinary writes between two force observations close each channel by at
most its budget. The counter behind this is emptied at each activation as well,
since every grip starts "a fresh contact-stop episode"; a measured activation
is written whatever the counter says; and steps of at most `1e-12` are not
counted.

* `closure_metered`: between landmarks, which are force observations and
  activations, the ordinary writes keep to the budget up to `1e-12` for each
  write, and each closes by at most `maximum_closure_step`.
* `budget_exceeded`: runs in which an activation, a measured write and a step
  below the tolerance go beyond the budget of one force observation.

Arithmetic is exact here.
-/

namespace HandLab.Rh56

open HandLab.Lib

variable {κ δ : Type*}

/-! ## Closing motion -/

/-- The target a successful write, an activation or the first poll leaves. -/
def Event.target? : Event δ → Option (Channels δ)
  | .wrote write (.ok true) => some write.selected
  | .activated target => some target
  | .measured target => some target
  | _ => none

theorem Event.latest_target {event : Event δ} {target : Channels δ}
    (ht : event.target? = some target) (h : List (Event δ)) :
    some target = latest Event.target? (event :: h) :=
  (latest_cons_of_some ht h).symm

theorem Event.target?_failed (write : Write δ) {outcome : Except BackendError Bool}
    (hf : outcome ≠ .ok true) : (Event.wrote write outcome).target? = none := by
  cases outcome with
  | error e => rfl
  | ok accepted =>
    cases accepted with
    | false => rfl
    | true => exact absurd rfl hf

/-- `FORCE_ACT` is observed. -/
def Event.isForceObserved : Event δ → Bool
  | .forceObserved => true
  | _ => false

/-- `FORCE_ACT` is observed, or a grip starts. -/
def Event.isLandmark : Event δ → Bool
  | .forceObserved => true
  | .activated _ => true
  | _ => false

section Motion

variable [PyFloat δ]

/-- How far a write closes channel `i`. -/
def Write.closing (write : Write δ) (i : Fin 6) : δ :=
  PyFloat.maximum (Double.sub (write.selected i) (write.previous i)) Double.zero

/-- How far a successful write closes channel `i`. -/
def Event.closing? (i : Fin 6) : Event δ → Option δ
  | .wrote write (.ok true) => some (write.closing i)
  | _ => none

/-- How far a successful ordinary write closes channel `i`. -/
def Event.ordinaryClosing? (i : Fin 6) : Event δ → Option δ
  | .wrote write (.ok true) => if write.measuredActivation then none else some (write.closing i)
  | _ => none

theorem Event.ordinaryClosing?_failed (i : Fin 6) (write : Write δ)
    {outcome : Except BackendError Bool} (hf : outcome ≠ .ok true) :
    (Event.wrote write outcome).ordinaryClosing? i = none := by
  cases outcome with
  | error e => rfl
  | ok accepted =>
    cases accepted with
    | false => rfl
    | true => exact absurd rfl hf

/-- The closing steps on channel `i` since the last force observation. -/
def closingSinceForce (i : Fin 6) (h : List (Event δ)) : List δ :=
  (since Event.isForceObserved h).filterMap (Event.closing? i)

/-- The ordinary closing steps on channel `i` since the last landmark. -/
def closingSteps (i : Fin 6) (h : List (Event δ)) : List δ :=
  (since Event.isLandmark h).filterMap (Event.ordinaryClosing? i)

theorem closingSteps_landmark (i : Fin 6) {event : Event δ} (he : event.isLandmark = true)
    (h : List (Event δ)) : closingSteps i (event :: h) = [] := by
  rw [closingSteps, since_cons_of_pos he, List.filterMap_nil]

theorem closingSteps_cons (i : Fin 6) {event : Event δ} (he : event.isLandmark = false)
    (h : List (Event δ)) :
    closingSteps i (event :: h) = (event.ordinaryClosing? i).toList ++ closingSteps i h := by
  rw [closingSteps, since_cons_of_neg he, List.filterMap_cons]
  cases event.ordinaryClosing? i <;> rfl

end Motion

/-! ## Meters -/

section Meters

variable [Field δ] [LinearOrder δ] [PyFloat δ] {config : ControlConfig δ}

/-- The `1e-12` of the closing tests. -/
def tolerance (δ : Type*) [Double δ] : δ := Double.ofRat 1e-12

/-- The ordinary writes since the last landmark, metered against the budget of
    every channel. -/
def IsMetered (config : ControlConfig δ) (closure : Channels δ) (h : List (Event δ)) : Prop :=
  ∀ i, Metered (tolerance δ) (config.contactStop.closureBudgetPerForceSample i) (closure i)
    (closingSteps i h)

/-- The previous target of a write is the latest one of the history, and an
    ordinary write closes by at most one closing step. -/
def StepBounded (config : ControlConfig δ) (event : Event δ) (past : List (Event δ)) : Prop :=
  ∀ write outcome, event = .wrote write outcome →
    latest Event.target? past = some write.previous ∧
      (write.measuredActivation = false →
        ∀ i, write.closing i ≤ config.contactStop.maximumClosureStep i)

/-- The sums on the ordinary closing steps since the last landmark. -/
def WithinBudget (config : ControlConfig δ) (h : List (Event δ)) : Prop :=
  ∀ i, (closingSteps i h).sum ≤
    config.contactStop.closureBudgetPerForceSample i + (closingSteps i h).length * tolerance δ

/-- What every move maintains. -/
structure Protocol.Budgeted (config : ControlConfig δ) (p : Protocol δ) : Prop where
  command : p.lastCommand = latest Event.target? p.history
  metered : IsMetered config p.closure p.history
  within : Always (WithinBudget config) p.history
  steps : Whenever (StepBounded config) p.history

theorem IsMetered.withinBudget {closure : Channels δ} {h : List (Event δ)}
    (hm : IsMetered config closure h) : WithinBudget config h :=
  fun i => (hm i).within

theorem IsMetered.quiet {closure : Channels δ} {event : Event δ} {h : List (Event δ)}
    (hm : IsMetered config closure h) (he : event.isLandmark = false)
    (hc : ∀ i, event.ordinaryClosing? i = none) : IsMetered config closure (event :: h) := by
  intro i
  rw [closingSteps_cons i he, hc i]
  exact hm i

namespace Protocol.Budgeted

variable {p : Protocol δ}

theorem record (hp : p.Budgeted config) (event : Event δ) {state : HandControlState}
    {faultReason : Option String} {lastCommand : Option (Channels δ)} {closure : Channels δ}
    (hc : lastCommand = latest Event.target? (event :: p.history))
    (hm : IsMetered config closure (event :: p.history))
    (hs : StepBounded config event p.history) :
    (⟨state, faultReason, lastCommand, closure, event :: p.history⟩ : Protocol δ).Budgeted
      config where
  command := hc
  metered := hm
  within := always_cons.mpr ⟨hm.withinBudget, hp.within⟩
  steps := whenever_cons.mpr ⟨hs, hp.steps⟩

theorem quiet (hp : p.Budgeted config) (event : Event δ) {state : HandControlState}
    {faultReason : Option String} (ht : event.target? = none) (hl : event.isLandmark = false)
    (hc : ∀ i, event.ordinaryClosing? i = none) (hs : StepBounded config event p.history) :
    (⟨state, faultReason, p.lastCommand, p.closure, event :: p.history⟩ : Protocol δ).Budgeted
      config :=
  hp.record event (hp.command.trans (latest_cons_of_none ht _).symm) (hp.metered.quiet hl hc) hs

end Protocol.Budgeted

end Meters

/-! ## One write -/

section Exact

variable [Field δ] [LinearOrder δ] [IsStrictOrderedRing δ] [PyFloat δ] [Exact δ]

theorem tolerance_nonneg : 0 ≤ tolerance δ := by
  rw [tolerance, Exact.ofRat_eq]
  positivity

theorem Write.closing_eq (write : Write δ) (i : Fin 6) :
    write.closing i = max (write.selected i - write.previous i) 0 := by
  simp [Write.closing]

theorem closes_iff (previous requested : Channels δ) (i : Fin 6) :
    closes previous requested i = true ↔ previous i + tolerance δ < requested i := by
  simp [closes, tolerance]

variable {config : ControlConfig δ}

theorem maximumClosureStep_pos (config : ControlConfig δ) (i : Fin 6) :
    0 < config.contactStop.maximumClosureStep i := by
  simpa using config.wellFormed.step_pos i

theorem closureBudget_pos (config : ControlConfig δ) (i : Fin 6) :
    0 < config.contactStop.closureBudgetPerForceSample i := by
  simpa using config.wellFormed.budget_pos i

theorem deltaLimit_pos (config : ControlConfig δ) : 0 < config.deltaLimit := by
  have hbudget : config.contactStop.closureBudgetPerForceSample 0 ≤ config.deltaLimit := by
    simpa using config.wellFormed.budget_le 0
  exact (closureBudget_pos config 0).trans_le hbudget

/-- An ordinary step closes no further than it was asked to, nor than the
    closing step. -/
theorem selectTarget_le (hf : config.contactStop.requiresForce = true)
    (previous requested : Channels δ) (i : Fin 6) :
    selectTarget config false previous requested i - previous i ≤
      min (max (requested i - previous i) 0) (config.contactStop.maximumClosureStep i) := by
  have hselect : selectTarget config false previous requested i =
      previous i + if 0 ≤ requested i - previous i then
        min (requested i - previous i) (config.contactStop.maximumClosureStep i)
      else max (requested i - previous i) (-config.deltaLimit) := by
    simp [selectTarget, hf]
  rw [hselect, add_sub_cancel_left]
  split_ifs with hclosing
  · rw [max_eq_left hclosing]
  · have hopening : max (requested i - previous i) (-config.deltaLimit) ≤ 0 :=
      max_le (le_of_not_ge hclosing) (neg_nonpos.mpr (deltaLimit_pos config).le)
    exact hopening.trans (le_min (le_max_right _ _) (maximumClosureStep_pos config i).le)

/-- The budget lets through a small step or what is left. -/
theorem budgetTarget_le (config : ControlConfig δ) (closure previous limited : Channels δ)
    (i : Fin 6) :
    budgetTarget config closure previous limited i - previous i ≤ tolerance δ ∨
      budgetTarget config closure previous limited i - previous i ≤
        max 0 (config.contactStop.closureBudgetPerForceSample i - closure i) := by
  unfold budgetTarget
  extract_lets remaining
  split_ifs with hcloses
  · right
    have hremaining : remaining =
        max 0 (config.contactStop.closureBudgetPerForceSample i - closure i) := by
      simp [remaining]
    rw [Exact.minimum_eq, Exact.add_eq, ← hremaining]
    have hmin := min_le_right (limited i) (previous i + remaining)
    linarith
  · left
    rw [closes_iff, not_lt] at hcloses
    linarith

/-- **Step lemma.** An ordinary write within the budget closes a channel by a
    small step or by what is left, and by one closing step at most. -/
theorem Write.IsBudgeted.closing_le {closure : Channels δ} {write : Write δ}
    (hb : write.IsBudgeted config closure) (hf : config.contactStop.requiresForce = true)
    (ho : write.measuredActivation = false) (i : Fin 6) :
    (write.closing i ≤ tolerance δ ∨ write.closing i ≤
      max 0 (config.contactStop.closureBudgetPerForceSample i - closure i)) ∧
    write.closing i ≤ config.contactStop.maximumClosureStep i := by
  obtain ⟨limited, hselected⟩ := hb hf ho
  have hstep := selectTarget_le hf write.previous
    (budgetTarget config closure write.previous limited) i
  rw [← hselected, le_min_iff] at hstep
  rw [Write.closing_eq]
  refine ⟨?_, max_le hstep.2 (maximumClosureStep_pos config i).le⟩
  rcases budgetTarget_le config closure write.previous limited i with h | h
  · left
    exact max_le (hstep.1.trans (max_le h tolerance_nonneg)) tolerance_nonneg
  · right
    exact max_le (hstep.1.trans (max_le h (le_max_left _ _))) (le_max_left _ _)

/-- The counter takes the closing motion of a write, unless it is small. -/
theorem addClosure_spec (closure : Channels δ) (write : Write δ) (i : Fin 6) :
    let counted := addClosure closure write.previous write.selected i
    closure i + write.closing i ≤ counted ∨
      closure i ≤ counted ∧ write.closing i ≤ tolerance δ := by
  unfold addClosure
  split_ifs with hcloses
  · left
    simp [Write.closing]
  · right
    refine ⟨le_rfl, ?_⟩
    have hi : ¬closes write.previous write.selected i = true := fun h => hcloses ⟨i, h⟩
    rw [closes_iff, not_lt] at hi
    rw [Write.closing_eq]
    exact max_le (by linarith) tolerance_nonneg

/-! ## Moves -/

theorem IsMetered.landmark {event : Event δ} (he : event.isLandmark = true)
    (h : List (Event δ)) : IsMetered config (fun _ => Double.zero) (event :: h) := by
  intro i
  rw [closingSteps_landmark i he, Exact.zero_eq]
  exact .empty (closureBudget_pos config i).le

/-- A successful write. -/
theorem IsMetered.wrote {closure : Channels δ} {write : Write δ} {h : List (Event δ)}
    (hm : IsMetered config closure h) (hf : config.contactStop.requiresForce = true)
    (hb : write.IsBudgeted config closure) :
    IsMetered config (addClosure closure write.previous write.selected)
      (.wrote write (.ok true) :: h) := by
  intro i
  have hadd := addClosure_spec closure write i
  rw [closingSteps_cons i rfl]
  cases ho : write.measuredActivation with
  | true =>
    have hnone : (Event.wrote write (.ok true)).ordinaryClosing? i = none := if_pos ho
    have hclosing : 0 ≤ write.closing i := by
      rw [Write.closing_eq]
      exact le_max_right _ _
    rw [hnone]
    exact (hm i).mono (hadd.elim (fun h => by linarith) And.left)
  | false =>
    have hsome : (Event.wrote write (.ok true)).ordinaryClosing? i = some (write.closing i) :=
      if_neg (by simp [ho])
    rw [hsome]
    exact (hm i).cons tolerance_nonneg (hb.closing_le hf ho i).1 hadd

theorem Protocol.Budgeted.init : (Protocol.init : Protocol δ).Budgeted config where
  command := rfl
  metered := by
    intro i
    rw [show (Protocol.init : Protocol δ).closure i = 0 from Exact.zero_eq]
    exact .empty (closureBudget_pos config i).le
  within := by
    rw [show (Protocol.init : Protocol δ).history = [] from rfl, always_nil]
    intro i
    simpa [closingSteps] using (closureBudget_pos config i).le
  steps := whenever_nil

/-- **Step lemma.** Every move keeps the closing motion metered. -/
theorem Move.budgeted {orderly : Prop} {p q : Protocol δ}
    (hf : config.contactStop.requiresForce = true) (hmove : Move config orderly p q)
    (hp : p.Budgeted config) : q.Budgeted config := by
  cases hmove with
  | fault reason => exact hp.quiet _ rfl rfl (fun _ => rfl) (by rintro _ _ ⟨⟩)
  | opened ho => exact hp.quiet _ rfl rfl (fun _ => rfl) (by rintro _ _ ⟨⟩)
  | closed => exact hp.quiet _ rfl rfl (fun _ => rfl) (by rintro _ _ ⟨⟩)
  | held hs ho => exact ⟨hp.command, hp.metered, hp.within, hp.steps⟩
  | activated target hs ho =>
    exact hp.record _ (Event.latest_target rfl _) (.landmark rfl _) (by rintro _ _ ⟨⟩)
  | measured target hn =>
    exact hp.record _ (Event.latest_target rfl _) (hp.metered.quiet rfl fun _ => rfl)
      (by rintro _ _ ⟨⟩)
  | forceObserved =>
    exact hp.record _ (hp.command.trans (latest_cons_of_none rfl _).symm) (.landmark rfl _)
      (by rintro _ _ ⟨⟩)
  | wrote write outcome hs hl hb =>
    have hbounded : StepBounded config (.wrote write outcome) p.history := by
      intro write' outcome' heq
      obtain ⟨rfl, rfl⟩ := Event.wrote.inj heq
      exact ⟨hp.command.symm.trans hl, fun ho i => (hb.closing_le hf ho i).2⟩
    unfold Protocol.wrote
    split
    · exact hp.record _ (Event.latest_target rfl _) (hp.metered.wrote hf hb) hbounded
    · rename_i hfailed
      exact hp.quiet _ (Event.target?_failed write hfailed) rfl
        (fun i => Event.ordinaryClosing?_failed i write hfailed) hbounded

/-! ## Runs -/

/-- **Main theorem.** In every run, at every moment, the ordinary writes since
    the last force observation or activation have closed each channel by at
    most its budget, up to `1e-12` for each of them; and each of them closed it
    by at most `maximum_closure_step` from the target last written or
    activated. -/
theorem closure_metered {backend : PcDirectBackend κ δ} {context : κ} (calls : List (Call δ))
    (hf : config.contactStop.requiresForce = true) :
    Always (WithinBudget config) (runCalls config backend context calls).history ∧
      Whenever (StepBounded config) (runCalls config backend context calls).history := by
  have hbudgeted : (runCalls config backend context calls).protocol.Budgeted config :=
    runCalls_invariant (fun _ _ => Move.budgeted hf) Protocol.Budgeted.init calls
  exact ⟨hbudgeted.within, hbudgeted.steps⟩

end Exact

/-! ## Witness and counterexample -/

/-- A fresh ordinary command of one grip. -/
def gripCommand (target : ℚ) (monotonicNs : ℤ) : Command ℚ where
  target := List.replicate 6 target
  monotonicNs := monotonicNs
  gripFresh := true
  armTerminalStop := false
  forceWrite := false
  measuredActivationWrite := false
  contactRelief := false

/-- Four commands, 25 ms apart, that close to `target`. -/
def closeCalls (target : ℚ) (startNs : ℤ) : List (Call ℚ) :=
  [.command (gripCommand target startNs), .command (gripCommand target (startNs + 25000000)),
    .command (gripCommand target (startNs + 50000000)),
    .command (gripCommand target (startNs + 75000000))]

/-- One force observation, and the whole budget of a grip. -/
def gripCalls : List (Call ℚ) :=
  [.openTransport .handOnly, .pollFeedback 0, .activate 0] ++ closeCalls 0.05 0

theorem closure_metered_grip :
    teleopConfig.contactStop.requiresForce = true ∧
      Always (WithinBudget teleopConfig) (runCalls teleopConfig FakeRH56PcDirectBackend.backend
        FakeRH56PcDirectBackend.init gripCalls).history := by
  have hf : teleopConfig.contactStop.requiresForce = true := by decide
  exact ⟨hf, (closure_metered gripCalls hf).1⟩

/-- Three runs with one force observation each: a second grip closes by the
    budget again, a measured activation closes by more than one step, and a
    step of `1e-12` follows the whole budget. -/
theorem budget_exceeded :
    (¬(closingSinceForce 0 (runCalls teleopConfig FakeRH56PcDirectBackend.backend
        FakeRH56PcDirectBackend.init (gripCalls ++
          [.hold "grip_released", .pollFeedbackRegister .angle 100000000, .activate 100000000] ++
          closeCalls 0.1 100000000)).history).sum ≤
      teleopContactStop.closureBudgetPerForceSample 0) ∧
    (¬∀ step ∈ closingSinceForce 0 (runCalls teleopConfig FakeRH56PcDirectBackend.backend
        FakeRH56PcDirectBackend.init (gripCalls ++
          [.activate 100000000, .pollFeedbackRegister .angle 100000000,
            .command (measuredCommand 0.05 100000000)])).history,
      step ≤ teleopContactStop.maximumClosureStep 0) ∧
    ¬(closingSinceForce 0 (runCalls teleopConfig FakeRH56PcDirectBackend.backend
        FakeRH56PcDirectBackend.init (gripCalls ++
          [.command (gripCommand (0.05 + 1e-12) 100000000)])).history).sum ≤
      teleopContactStop.closureBudgetPerForceSample 0 := by
  decide +kernel

end HandLab.Rh56
