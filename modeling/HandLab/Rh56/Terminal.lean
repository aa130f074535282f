import HandLab.Rh56.Protocol

/-!
# A fault is terminal

`_fault` declares itself terminal for the control instance. It is, as far as
the reason goes: the first one stays. The state is not: `open` sets `HAND_HOLD`
and `cleanup` sets `HAND_DISABLED` over `HAND_FAULT`, and `hold` and `activate`
leave `HAND_DISABLED` while the transport is closed.

* `fault_terminal`: in a run whose calls respect the life cycle (`Orderly`)
  the hand is written only while the transport is open and no fault has been
  recorded.
* `faulted_written`: two runs that write a faulted hand and a closed one.
-/

namespace HandLab.Rh56

open HandLab.Lib

variable {κ δ : Type*}

/-! ## What a history says -/

/-- The reason of a fault. -/
def Event.fault? : Event δ → Option String
  | .faulted reason => some reason
  | _ => none

/-- Whether the transport is open after the event, where the event says so. -/
def Event.transport? : Event δ → Option Bool
  | .opened => some true
  | .closed => some false
  | _ => none

def firstFault : List (Event δ) → Option String
  | [] => none
  | event :: past => (firstFault past).or event.fault?

/-- The transport has been opened, and not been closed since. -/
def isTransportOpen (h : List (Event δ)) : Bool := latest Event.transport? h = some true

/-- A write finds the transport open and no fault recorded. -/
def WriteAllowed (event : Event δ) (past : List (Event δ)) : Prop :=
  match event with
  | .wrote _ _ => firstFault past = none ∧ isTransportOpen past = true
  | _ => True

instance (event : Event δ) (past : List (Event δ)) : Decidable (WriteAllowed event past) := by
  unfold WriteAllowed
  cases event <;> infer_instance

/-- The hand may be written. -/
def IsLive (h : List (Event δ)) : Prop := firstFault h = none ∧ isTransportOpen h = true

/-- An event without a fault that leaves the transport as it is. -/
def Event.IsPlain (event : Event δ) : Prop := event.fault? = none ∧ event.transport? = none

theorem Event.IsPlain.firstFault {event : Event δ} (he : event.IsPlain) (h : List (Event δ)) :
    Rh56.firstFault (event :: h) = Rh56.firstFault h := by
  rw [Rh56.firstFault, he.1, Option.or_none]

theorem Event.IsPlain.isLive_iff {event : Event δ} (he : event.IsPlain) (h : List (Event δ)) :
    IsLive (event :: h) ↔ IsLive h := by
  rw [IsLive, IsLive, he.firstFault, isTransportOpen, isTransportOpen, latest_cons_of_none he.2]

variable {p q : Protocol δ}

/-! ## The first reason stays -/

/-- `fault_reason` is the reason of the first fault. -/
def Protocol.ReasonKnown (p : Protocol δ) : Prop := p.faultReason = firstFault p.history

theorem Protocol.ReasonKnown.record {event : Event δ} (hp : p.ReasonKnown)
    (he : event.fault? = none) : (p.record event).ReasonKnown := by
  show p.faultReason = (firstFault p.history).or event.fault?
  rw [he, Option.or_none]
  exact hp

theorem Protocol.ReasonKnown.fault (hp : p.ReasonKnown) (reason : String) :
    (p.fault reason).ReasonKnown := by
  show p.faultReason.or (some reason) = (firstFault p.history).or (some reason)
  rw [show p.faultReason = firstFault p.history from hp]

/-! ## Writes -/

/-- What orderly calls maintain: a hand that can be written is live, and it was
    whenever it has been written. -/
structure Protocol.Terminal (p : Protocol δ) : Prop where
  reason : p.ReasonKnown
  live : p.state = .active ∨ p.state = .hold → IsLive p.history
  faulted : p.state = .fault → firstFault p.history ≠ none
  writes : Whenever WriteAllowed p.history

namespace Protocol.Terminal

/-- A hand that is neither faulted nor closed is live. -/
theorem live_of (hp : p.Terminal) (hf : p.state ≠ .fault) (hd : p.state ≠ .disabled) :
    IsLive p.history := by
  apply hp.live
  cases hs : p.state with
  | disabled => exact absurd hs hd
  | hold => exact .inr rfl
  | active => exact .inl rfl
  | fault => exact absurd hs hf

theorem record (hp : p.Terminal) (event : Event δ) (he : event.IsPlain)
    (hw : WriteAllowed event p.history) : (p.record event).Terminal where
  reason := hp.reason.record he.1
  live := fun hs => (he.isLive_iff p.history).mpr (hp.live hs)
  faulted := by
    intro hs
    show firstFault (event :: p.history) ≠ none
    rw [he.firstFault]
    exact hp.faulted hs
  writes := whenever_cons.mpr ⟨hw, hp.writes⟩

theorem fault (hp : p.Terminal) (reason : String) : (p.fault reason).Terminal where
  reason := hp.reason.fault reason
  live := by rintro (h | h) <;> exact absurd h nofun
  faulted := by
    intro _
    show (firstFault p.history).or (some reason) ≠ none
    cases firstFault p.history <;> nofun
  writes := whenever_cons.mpr ⟨trivial, hp.writes⟩

theorem opened (hp : p.Terminal) (hr : p.faultReason = none) :
    ({ p with state := .hold }.record .opened : Protocol δ).Terminal where
  reason := hp.reason.record (p := { p with state := .hold }) rfl
  live := by
    intro _
    constructor
    · show (firstFault p.history).or none = none
      rw [Option.or_none, ← show p.faultReason = firstFault p.history from hp.reason, hr]
    · have hopened : (Event.opened : Event δ).transport? = some true := rfl
      exact decide_eq_true (latest_cons_of_some hopened p.history)
  faulted := by intro h; exact absurd h nofun
  writes := whenever_cons.mpr ⟨trivial, hp.writes⟩

theorem closed (hp : p.Terminal) :
    ({ p with state := .disabled }.record .closed : Protocol δ).Terminal where
  reason := hp.reason.record (p := { p with state := .disabled }) rfl
  live := by rintro (h | h) <;> exact absurd h nofun
  faulted := by intro h; exact absurd h nofun
  writes := whenever_cons.mpr ⟨trivial, hp.writes⟩

/-- A live hand may be put into any state that is not a fault. -/
theorem withState (hp : p.Terminal) (hl : IsLive p.history) (state : HandControlState)
    (hs : state ≠ .fault) (lastCommand : Option (Channels δ)) (closure : Channels δ) :
    ({ p with state, lastCommand, closure } : Protocol δ).Terminal where
  reason := hp.reason
  live := fun _ => hl
  faulted := fun h => absurd h hs
  writes := hp.writes

theorem withNumbers (hp : p.Terminal) (lastCommand : Option (Channels δ)) (closure : Channels δ) :
    ({ p with lastCommand, closure } : Protocol δ).Terminal :=
  ⟨hp.reason, hp.live, hp.faulted, hp.writes⟩

end Protocol.Terminal

/-! ## Moves -/

variable [PyFloat δ] {config : ControlConfig δ}

theorem Protocol.terminal_init : (Protocol.init : Protocol δ).Terminal where
  reason := rfl
  live := by rintro (h | h) <;> exact absurd h nofun
  faulted := by intro h; exact absurd h nofun
  writes := whenever_nil

/-- **Step lemma.** Orderly moves write a live hand only. -/
theorem Move.terminal (hmove : Move config True p q) (hp : p.Terminal) : q.Terminal := by
  cases hmove with
  | fault reason => exact hp.fault reason
  | opened ho => exact hp.opened (ho trivial)
  | closed => exact hp.closed
  | held hf ho =>
    have hlive := hp.live_of hf (ho trivial)
    exact hp.withState hlive .hold (by decide) _ _
  | activated target hf ho =>
    have hlive := hp.live_of hf (ho trivial)
    have hactive := hp.withState hlive .active (by decide) (some target)
      fun _ => Double.zero
    exact hactive.record (.activated target) ⟨rfl, rfl⟩ trivial
  | measured target hn =>
    exact (hp.withNumbers (some target) p.closure).record (.measured target) ⟨rfl, rfl⟩ trivial
  | forceObserved =>
    exact (hp.withNumbers p.lastCommand fun _ => Double.zero).record .forceObserved ⟨rfl, rfl⟩
      trivial
  | wrote write outcome hs hl hb =>
    have hwrite : WriteAllowed (.wrote write outcome) p.history := hp.live hs
    unfold Protocol.wrote
    split
    · exact (hp.withNumbers (some write.selected) _).record _ ⟨rfl, rfl⟩ hwrite
    · exact hp.record _ ⟨rfl, rfl⟩ hwrite

/-! ## Runs -/

/-- **Main theorem.** In every run of orderly calls `set_canonical_angles` is
    called only while the transport is open and no fault has been recorded; and
    at its end `fault_reason` is the reason of the first fault, which a faulted
    hand has. -/
theorem fault_terminal {backend : PcDirectBackend κ δ} {context : κ} {calls : List (Call δ)}
    (h : Meets (step config backend) (Orderly config backend) (.init context) calls) :
    let m := runCalls config backend context calls
    Whenever WriteAllowed m.history ∧ m.control.faultReason = firstFault m.history ∧
      (m.control.state = .fault → firstFault m.history ≠ none) := by
  have hterminal := runCalls_invariant_of_meets (fun _ _ => Move.terminal) Protocol.terminal_init h
  exact ⟨hterminal.writes, hterminal.reason, hterminal.faulted⟩

/-! ## Witness and counterexample -/

/-- A forced command to the measured position, which `command` takes as an activation. -/
def measuredCommand (target : ℚ) (monotonicNs : ℤ) : Command ℚ where
  target := List.replicate 6 target
  monotonicNs := monotonicNs
  gripFresh := true
  armTerminalStop := false
  forceWrite := true
  measuredActivationWrite := true
  contactRelief := false

/-- A session that is opened, activated, written and closed. -/
def sessionCalls : List (Call ℚ) :=
  [.openTransport .handOnly, .pollFeedback 0, .activate 0, .command (measuredCommand 0 0),
    .hold "grip_released", .cleanup]

theorem fault_terminal_session :
    Meets (step teleopConfig FakeRH56PcDirectBackend.backend)
        (Orderly teleopConfig FakeRH56PcDirectBackend.backend)
        (.init FakeRH56PcDirectBackend.init) sessionCalls ∧
      Whenever WriteAllowed (runCalls teleopConfig FakeRH56PcDirectBackend.backend
        FakeRH56PcDirectBackend.init sessionCalls).history := by
  have h : Meets (step teleopConfig FakeRH56PcDirectBackend.backend)
      (Orderly teleopConfig FakeRH56PcDirectBackend.backend)
      (.init FakeRH56PcDirectBackend.init) sessionCalls := by
    decide +kernel
  exact ⟨h, (fault_terminal h).1⟩

/-- `open` revives a faulted hand, and `activate` revives a closed one; both are
    then written. -/
theorem faulted_written :
    (¬Whenever WriteAllowed (runCalls teleopConfig FakeRH56PcDirectBackend.backend
      FakeRH56PcDirectBackend.init
      [.openTransport .handOnly, .pollFeedback 0, .transportFault "arm_transport",
        .openTransport .handOnly, .activate 0, .command (measuredCommand 0 0)]).history) ∧
    ¬Whenever WriteAllowed (runCalls teleopConfig FakeRH56PcDirectBackend.backend
      FakeRH56PcDirectBackend.init
      [.openTransport .handOnly, .pollFeedback 0, .cleanup, .activate 0,
        .command (measuredCommand 0 0)]).history := by
  decide +kernel

end HandLab.Rh56
