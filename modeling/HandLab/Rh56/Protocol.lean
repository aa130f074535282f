import HandLab.Lib.History
import HandLab.Rh56.Control

/-!
# The hand control protocol

The protocol forgets the serial traffic of `RH56PcDirectControl`: what is left
is the control state, the first fault, the last command with the closure
counter, and the history. Its moves say when the hand may be opened, held,
activated and written.

* `step_moves`: every call is a path of moves.
* `runCalls_invariant`, `runCalls_invariant_of_meets`: what the moves keep
  holds after every run.

A move is `orderly` if it also does what the life cycle of the hand asks for:
nothing is opened after a fault, and a closed hand is neither held nor
activated. A call that `Orderly` admits makes orderly moves only.
-/

namespace HandLab.Rh56

open HandLab.Lib

variable {κ δ : Type*} [PyFloat δ]

/-! ## Moves -/

/-- What the protocol sees of a machine. -/
structure Protocol (δ : Type*) where
  state : HandControlState
  faultReason : Option String
  lastCommand : Option (Channels δ)
  closure : Channels δ
  history : List (Event δ)

/-- What the protocol sees of `m`. -/
def Machine.protocol (m : Machine κ δ) : Protocol δ where
  state := m.control.state
  faultReason := m.control.faultReason
  lastCommand := m.control.lastCommandNormalized
  closure := m.control.contact.closureSinceForce
  history := m.history

/-- The first protocol state. -/
def Protocol.init : Protocol δ := ⟨.disabled, none, none, fun _ => Double.zero, []⟩

namespace Protocol

variable (p : Protocol δ)

/-- An event is added to the history. -/
def record (event : Event δ) : Protocol δ := { p with history := event :: p.history }

/-- A fault: the first reason stays. -/
def fault (reason : String) : Protocol δ :=
  { p with state := .fault, faultReason := p.faultReason.or (some reason) }.record (.faulted reason)

/-- The outcome of a write; only a successful one counts. -/
def wrote (write : Write δ) (outcome : Except BackendError Bool) : Protocol δ :=
  match outcome with
  | .ok true =>
    { p with
      lastCommand := some write.selected
      closure := addClosure p.closure write.previous write.selected }.record (.wrote write outcome)
  | _ => p.record (.wrote write outcome)

end Protocol

/-- An ordinary write with fresh force required is what the closure budget and
    the closure step leave of some target. -/
def Write.IsBudgeted (config : ControlConfig δ) (closure : Channels δ) (write : Write δ) : Prop :=
  config.contactStop.requiresForce = true → write.measuredActivation = false →
    ∃ limited, write.selected =
      selectTarget config false write.previous (budgetTarget config closure write.previous limited)

/-- One move of the protocol. -/
inductive Move (config : ControlConfig δ) (orderly : Prop) : Protocol δ → Protocol δ → Prop
  | fault {p : Protocol δ} (reason : String) : Move config orderly p (p.fault reason)
  | opened {p : Protocol δ} (ho : orderly → p.faultReason = none) :
      Move config orderly p ({ p with state := .hold }.record .opened)
  | closed {p : Protocol δ} : Move config orderly p ({ p with state := .disabled }.record .closed)
  | held {p : Protocol δ} (hf : p.state ≠ .fault) (ho : orderly → p.state ≠ .disabled) :
      Move config orderly p { p with state := .hold }
  | activated {p : Protocol δ} (target : Channels δ) (hf : p.state ≠ .fault)
      (ho : orderly → p.state ≠ .disabled) :
      Move config orderly p ({ p with
        state := .active
        lastCommand := some target
        closure := fun _ => Double.zero }.record (.activated target))
  | measured {p : Protocol δ} (target : Channels δ) (hn : p.lastCommand = none) :
      Move config orderly p ({ p with lastCommand := some target }.record (.measured target))
  | forceObserved {p : Protocol δ} :
      Move config orderly p ({ p with closure := fun _ => Double.zero }.record .forceObserved)
  | wrote {p : Protocol δ} (write : Write δ) (outcome : Except BackendError Bool)
      (hs : p.state = .active ∨ p.state = .hold) (hp : p.lastCommand = some write.previous)
      (hb : write.IsBudgeted config p.closure) :
      Move config orderly p (p.wrote write outcome)

/-- What the life cycle of the hand asks of a call: nothing is opened after a
    fault, and a closed hand is neither held nor activated. -/
def Orderly (config : ControlConfig δ) (backend : PcDirectBackend κ δ) (m : Machine κ δ) :
    Call δ → Prop
  | .openTransport _ =>
    m.control.faultReason = none ∨ (backend.connect m.context).1 ≠ .ok true
  | .activate monotonicNs =>
    m.control.state = .disabled →
      m.control.isPermitted = false ∨ m.control.isFresh config monotonicNs = false
  | .hold _ => m.control.state ≠ .disabled
  | .command args =>
    m.control.state = .disabled → args.gripFresh = true ∨ args.armTerminalStop = true
  | _ => True

instance (config : ControlConfig δ) (backend : PcDirectBackend κ δ) (m : Machine κ δ)
    (call : Call δ) : Decidable (Orderly config backend m call) := by
  unfold Orderly
  cases call <;> infer_instance

/-! ## Each call is a path of moves -/

section Calls

variable {config : ControlConfig δ} {backend : PcDirectBackend κ δ} {orderly : Prop}
  {m : Machine κ δ}

theorem fault_moves (reason : String) :
    Path (Move config orderly) m.protocol (m.fault reason).protocol :=
  .single (.fault reason)

theorem hold_moves (reason : String) (ho : orderly → m.control.state ≠ .disabled) :
    Path (Move config orderly) m.protocol (m.hold reason).protocol := by
  unfold Machine.hold
  split_ifs with hf
  · exact .refl
  · exact .single (Move.held (p := m.protocol) hf ho)

theorem openTransport_moves (operation : HandOperation)
    (ho : orderly → m.control.faultReason = none ∨ (backend.connect m.context).1 ≠ .ok true) :
    Path (Move config orderly) m.protocol (openTransport backend m operation).2.protocol := by
  unfold openTransport
  split
  · exact fault_moves (m := m.withContext _) _
  · exact fault_moves (m := m.withContext _) _
  · rename_i heq
    refine .single (Move.opened (p := m.protocol) fun h => ?_)
    exact (ho h).resolve_right fun hne => hne (by rw [heq])

theorem cleanup_moves :
    Path (Move config orderly) m.protocol (cleanup backend m).2.protocol :=
  .single (Move.closed (p := m.protocol))

theorem requireFreshFeedback_moves (monotonicNs : ℤ) :
    Path (Move config orderly) m.protocol
      (requireFreshFeedback config m monotonicNs).2.protocol := by
  unfold requireFreshFeedback markFeedbackTimeout
  split_ifs
  · exact .refl
  · exact fault_moves _

theorem requireFreshFeedback_ok {monotonicNs : ℤ} {m' : Machine κ δ}
    (h : requireFreshFeedback config m monotonicNs = (.ok (), m')) :
    m' = m ∧ m.control.isFresh config monotonicNs = true := by
  unfold requireFreshFeedback markFeedbackTimeout at h
  split_ifs at h with hf
  · exact ⟨((Prod.mk.injEq ..).mp h).2.symm, hf⟩
  · exact absurd (congrArg Prod.fst h) nofun

theorem measureCommand_moves (normalized position : Channels δ) :
    Path (Move config orderly) m.protocol (m.measureCommand normalized position).protocol := by
  unfold Machine.measureCommand
  split
  · exact .refl
  · rename_i hn
    exact .single (Move.measured (p := m.protocol) normalized hn)

theorem observeForce_moves (loads : Channels δ) :
    Path (Move config orderly) m.protocol (Machine.observeForce config m loads).protocol := by
  have hmove : Move config orderly m.protocol _ := .forceObserved
  rw [← observeContactForce_closure config m.control loads] at hmove
  exact .single hmove

theorem storeReadings_moves (readings : Readings δ) (normalized : Channels δ) (monotonicNs : ℤ) :
    Path (Move config orderly) m.protocol
      (storeReadings config m readings normalized monotonicNs).protocol := by
  unfold storeReadings
  extract_lets stored
  exact observeForce_moves (m := stored.observeAngle normalized) readings.loads

theorem pollFeedback_moves (monotonicNs : ℤ) :
    Path (Move config orderly) m.protocol
      (pollFeedback config backend m monotonicNs).2.protocol := by
  unfold pollFeedback
  split
  · exact .refl
  · split
    rename_i startedNs context _
    split
    · exact fault_moves (m := m.withContext _) _
    · rename_i readings context' _
      split
      · exact .refl
      · rename_i normalized _
        split
        rename_i endedNs context'' _
        extract_lets stored
        have hstored : Path (Move config orderly) m.protocol stored.protocol :=
          storeReadings_moves (m := m.withContext context'') readings normalized monotonicNs
        split_ifs
        · exact hstored.trans (fault_moves _)
        · exact hstored.trans (fault_moves _)
        · exact hstored.trans (measureCommand_moves _ _)

theorem acceptRegister_moves (name : FeedbackRegister) (feedback : PcDirectFeedback δ) :
    Path (Move config orderly) m.protocol (acceptRegister config m name feedback).protocol := by
  unfold acceptRegister
  extract_lets accepted
  cases name with
  | angle =>
    exact measureCommand_moves (m := accepted.observeAngle feedback.positionNormalized) _ _
  | force => exact observeForce_moves (m := accepted) _
  | current => exact .refl
  | status => exact .refl
  | error => exact .refl

theorem checkRegister_moves (name : FeedbackRegister) (cache : FeedbackCache δ) (stale : Bool) :
    Path (Move config orderly) m.protocol
      (checkRegister config m name cache stale).2.protocol := by
  unfold checkRegister
  extract_lets stored errors
  split_ifs
  · exact fault_moves (m := stored) _
  · exact fault_moves (m := stored) _
  · split
    · exact .refl
    · exact acceptRegister_moves (m := stored) _ _

theorem failRegister_moves (name : FeedbackRegister) (error : BackendError) (monotonicNs : ℤ) :
    Path (Move config orderly) m.protocol
      (failRegister config m name error monotonicNs).2.protocol := by
  unfold failRegister
  split_ifs
  · extract_lets held
    split
    · exact .refl
    · exact .refl
  · exact fault_moves _

theorem pollFeedbackRegister_moves (name : FeedbackRegister) (monotonicNs : ℤ) :
    Path (Move config orderly) m.protocol
      (pollFeedbackRegister config backend m name monotonicNs).2.protocol := by
  unfold pollFeedbackRegister
  split
  · exact .refl
  · split
    rename_i startedNs context _
    split
    · rename_i error context' _
      exact failRegister_moves (m := m.withContext context') name error monotonicNs
    · rename_i cache context' _
      split
      rename_i endedNs context'' _
      exact checkRegister_moves (m := m.withContext context'') name cache _

theorem activate_moves (monotonicNs : ℤ)
    (ho : orderly → m.control.state = .disabled →
      m.control.isPermitted = false ∨ m.control.isFresh config monotonicNs = false) :
    Path (Move config orderly) m.protocol (activate config m monotonicNs).2.protocol := by
  unfold activate
  split_ifs with hpermitted
  · exact .refl
  · split
    · rename_i error m' heq
      have hpath : Path (Move config orderly) m.protocol
          (requireFreshFeedback config m monotonicNs).2.protocol :=
        requireFreshFeedback_moves monotonicNs
      rwa [heq] at hpath
    · rename_i m' heq
      obtain ⟨rfl, hfresh⟩ := requireFreshFeedback_ok heq
      split_ifs with hfault
      · exact .refl
      · split
        · exact .refl
        · rename_i feedback _
          refine .single (Move.activated (p := m'.protocol) feedback.positionNormalized hfault
            fun h hd => ?_)
          rcases ho h hd with hp | hf
          · simp [hp] at hpermitted
          · simp [hf] at hfresh

/-- A gate that a command passes leaves the machine alone, in a state that may
    write. -/
theorem commandGate_ok {args : Command δ} {m' : Machine κ δ}
    (h : commandGate config m args = (.ok true, m')) :
    m' = m ∧ (m.control.state = .active ∨ m.control.state = .hold) := by
  unfold commandGate at h
  split_ifs at h with hstop hgrip hstate
  · exact absurd (congrArg Prod.fst h) (by simp)
  · exact absurd (congrArg Prod.fst h) (by simp)
  · exact absurd (congrArg Prod.fst h) (by simp)
  · have hwritable : m.control.state = .active ∨ m.control.state = .hold := by
      push Not at hstate
      by_cases ha : m.control.state = .active
      · exact .inl ha
      · exact .inr (hstate ha).2
    split at h
    · exact absurd (congrArg Prod.fst h) (by simp)
    · rename_i m'' heq
      obtain ⟨rfl, -⟩ := requireFreshFeedback_ok heq
      split_ifs at h
      · exact absurd (congrArg Prod.fst h) (by simp)
      · exact absurd (congrArg Prod.fst h) (by simp)
      · exact absurd (congrArg Prod.fst h) (by simp)
      · exact ⟨((Prod.mk.injEq ..).mp h).2.symm, hwritable⟩

theorem commandGate_moves (args : Command δ)
    (ho : orderly → m.control.state = .disabled →
      args.gripFresh = true ∨ args.armTerminalStop = true) :
    Path (Move config orderly) m.protocol (commandGate config m args).2.protocol := by
  unfold commandGate
  split_ifs with hstop hgrip
  · exact fault_moves _
  · refine hold_moves _ fun h hd => ?_
    rcases ho h hd with hg | hs
    · simp [hg] at hgrip
    · exact hstop hs
  · exact .refl
  · have hpath : Path (Move config orderly) m.protocol
        (requireFreshFeedback config m args.monotonicNs).2.protocol :=
      requireFreshFeedback_moves args.monotonicNs
    split
    · rename_i heq
      rwa [heq] at hpath
    · rename_i heq
      rw [heq] at hpath
      split_ifs
      · exact hpath
      · exact hpath
      · exact hpath
      · exact hpath

/-- Limiting a target changes nothing that the protocol sees. -/
theorem postContactTarget_protocol (args : Command δ) (previous requested : Channels δ) :
    (m.withControl (postContactTarget config m.control args previous requested).2).protocol =
      m.protocol := by
  unfold postContactTarget
  split_ifs
  · rfl
  · unfold limitTarget
    extract_lets limited control budgeted
    split_ifs
    · rfl
    · rfl
    · rfl

/-- An admitted ordinary target is within the budget. -/
theorem postContactTarget_budget {args : Command δ} {previous requested target : Channels δ}
    (h : (postContactTarget config m.control args previous requested).1 = some target)
    (hf : config.contactStop.requiresForce = true) (ho : args.measuredActivationWrite = false) :
    ∃ limited, target = budgetTarget config m.protocol.closure previous limited := by
  unfold postContactTarget limitTarget at h
  rw [if_neg (by simp [ho])] at h
  extract_lets limited control' budgeted at h
  split_ifs at h with hclosing hwait
  · exact ⟨limited, (Option.some.inj h).symm⟩
  · -- no channel closes, so the budget leaves the target alone
    rw [hf, Bool.true_and, decide_eq_true_eq] at hclosing
    refine ⟨limited, ?_⟩
    rw [← Option.some.inj h]
    funext i
    have hi : closes previous limited i = false := by
      by_contra hc
      exact hclosing ⟨i, by simpa using hc⟩
    simp [budgetTarget, hi]

theorem writeTarget_moves (args : Command δ) (previous requested : Channels δ)
    (hs : m.protocol.state = .active ∨ m.protocol.state = .hold)
    (hp : m.protocol.lastCommand = some previous)
    (hb : config.contactStop.requiresForce = true → args.measuredActivationWrite = false →
      ∃ limited, requested = budgetTarget config m.protocol.closure previous limited) :
    Path (Move config orderly) m.protocol
      (writeTarget config backend m args previous requested).2.protocol := by
  unfold writeTarget
  extract_lets selected raw write
  have hbudget : write.IsBudgeted config m.protocol.closure := by
    intro hf ho
    obtain ⟨limited, hlimited⟩ := hb hf ho
    have hordinary : args.measuredActivationWrite = false := ho
    exact ⟨limited, by rw [← hlimited, ← hordinary]⟩
  generalize backend.setCanonicalAngles m.context raw = result
  obtain ⟨outcome, context⟩ := result
  have hmove : Move config orderly m.protocol (m.protocol.wrote write outcome) :=
    .wrote write outcome hs hp hbudget
  cases outcome with
  | error e => exact .tail (.single hmove) (.fault "serial_command_failure")
  | ok accepted =>
    cases accepted with
    | false => exact .tail (.single hmove) (.fault "serial_command_rejected")
    | true => exact .single hmove

theorem submitTarget_moves (args : Command δ) (previous requested : Channels δ)
    (hs : m.protocol.state = .active ∨ m.protocol.state = .hold)
    (hp : m.protocol.lastCommand = some previous) :
    Path (Move config orderly) m.protocol
      (submitTarget config backend m args previous requested).2.protocol := by
  have hsame :
      (m.withControl (postContactTarget config m.control args previous requested).2).protocol =
        m.protocol := postContactTarget_protocol args previous requested
  unfold submitTarget
  split
  · rename_i control heq
    rw [heq] at hsame
    exact hsame ▸ .refl
  · rename_i target control heq
    have hbudget := postContactTarget_budget (congrArg Prod.fst heq)
    rw [heq] at hsame
    split_ifs
    · exact hsame ▸ .refl
    · rw [← hsame] at hs hp hbudget ⊢
      exact writeTarget_moves args previous target hs hp hbudget

theorem command_moves (args : Command δ)
    (ho : orderly → m.control.state = .disabled →
      args.gripFresh = true ∨ args.armTerminalStop = true) :
    Path (Move config orderly) m.protocol (command config backend m args).2.protocol := by
  have hgate : Path (Move config orderly) m.protocol (commandGate config m args).2.protocol :=
    commandGate_moves args ho
  unfold command
  split
  · rename_i heq
    rwa [heq] at hgate
  · rename_i heq
    rwa [heq] at hgate
  · rename_i m' heq
    obtain ⟨rfl, hs⟩ := commandGate_ok heq
    split
    · exact .refl
    · split
      · exact .refl
      · exact submitTarget_moves args _ _ hs (by assumption)

/-- **Refinement.** Every call is a path of moves, orderly ones if the call is. -/
theorem step_moves (call : Call δ) (ho : orderly → Orderly config backend m call) :
    Path (Move config orderly) m.protocol (step config backend m call).protocol := by
  cases call with
  | openTransport operation => exact openTransport_moves operation ho
  | pollFeedback monotonicNs => exact pollFeedback_moves monotonicNs
  | pollFeedbackRegister name monotonicNs => exact pollFeedbackRegister_moves name monotonicNs
  | activate monotonicNs => exact activate_moves monotonicNs ho
  | command args => exact command_moves args ho
  | hold reason => exact hold_moves reason ho
  | popContactReliefTarget =>
    obtain ⟨pending, heq⟩ := popContactReliefTarget_frame m.control
    simp only [step, heq]
    exact .refl
  | armTerminalStop reason => exact fault_moves _
  | transportFault reason => exact fault_moves reason
  | markFeedbackTimeout monotonicNs =>
    unfold step markFeedbackTimeout
    simp only
    split_ifs
    · exact .refl
    · exact fault_moves _
  | cleanup => exact cleanup_moves

end Calls

/-! ## Runs -/

section Runs

variable (config : ControlConfig δ) (backend : PcDirectBackend κ δ) (context : κ)

/-- The machine after the calls, from a new controller. -/
def runCalls (calls : List (Call δ)) : Machine κ δ :=
  run (step config backend) (.init context) calls

variable {config backend context}

theorem runCalls_invariant {P : Protocol δ → Prop}
    (hmove : ∀ p q, Move config False p q → P p → P q) (hinit : P .init)
    (calls : List (Call δ)) : P (runCalls config backend context calls).protocol := by
  have hstep (m : Machine κ δ) (call : Call δ) (hp : P m.protocol) :
      P (step config backend m call).protocol :=
    path_invariant hmove (step_moves call False.elim) hp
  exact run_invariant (P := fun m : Machine κ δ => P m.protocol) hstep (s := .init context) hinit
    calls

theorem runCalls_invariant_of_meets {P : Protocol δ → Prop}
    (hmove : ∀ p q, Move config True p q → P p → P q) (hinit : P .init)
    {calls : List (Call δ)}
    (h : Meets (step config backend) (Orderly config backend) (.init context) calls) :
    P (runCalls config backend context calls).protocol := by
  have hstep (m : Machine κ δ) (call : Call δ) (hc : Orderly config backend m call)
      (hp : P m.protocol) : P (step config backend m call).protocol :=
    path_invariant hmove (step_moves call fun _ => hc) hp
  exact run_invariant_of_meets (P := fun m : Machine κ δ => P m.protocol) hstep
    (s := .init context) hinit h

end Runs

end HandLab.Rh56
