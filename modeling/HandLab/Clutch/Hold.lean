import HandLab.Clutch.Release

/-!
# Hold to run

A clutch updates only while its trigger has been pressed ever since the press
that started the engagement, and no sample was stale since then (`HeldToRun`).

* `arm_held`: the arm does so in every run in which no release is observed in
  `REFERENCE_CAPTURE` (`KeptInCapture`). There the arm discards what it
  observes, where the hand, which moves while it reacquires, disengages.
* `hand_held`: the hand does so in every run.
* `captured_released`: a release during the capture does not end the engagement.
-/

namespace HandLab.Clutch

open HandLab.Lib

variable {σ α : Type*}

/-! ## What a log says -/

def ClutchEvent.startsEngagement : ClutchEvent σ α → Bool
  | .returned .captureArmReference => true
  | .returned .startHandReacquisition => true
  | .returned .freeze => false
  | .returned .update => false
  | .observed _ _ _ => false
  | .transition _ => false
  | .fault _ => false

/-- An observed sample is fresh and leaves the trigger pressed. -/
def ClutchEvent.isHeld : ClutchEvent σ α → Bool
  | .observed _ fresh pressed => fresh && decide (pressed = some true)
  | .transition _ => true
  | .fault _ => true
  | .returned _ => true

/-- The engagement has started, and the trigger has been held since. -/
def HeldSince (h : List (ClutchEvent σ α)) : Prop :=
  (∃ event ∈ h, event.startsEngagement = true) ∧
    ∀ event ∈ since ClutchEvent.startsEngagement h, event.isHeld = true

instance (h : List (ClutchEvent σ α)) : Decidable (HeldSince h) :=
  inferInstanceAs (Decidable (_ ∧ _))

/-- An update comes while the trigger is held. -/
def HeldToRun : ClutchEvent σ α → List (ClutchEvent σ α) → Prop
  | .returned .update, past => HeldSince past
  | _, _ => True

variable {event : ClutchEvent σ α}

theorem HeldSince.cons {h : List (ClutchEvent σ α)} (hh : HeldSince h)
    (hs : event.startsEngagement = false) (he : event.isHeld = true) : HeldSince (event :: h) := by
  obtain ⟨⟨start, hmem, hstart⟩, hheld⟩ := hh
  refine ⟨⟨start, List.mem_cons_of_mem event hmem, hstart⟩, ?_⟩
  rw [since_cons_of_neg hs, List.forall_mem_cons]
  exact ⟨he, hheld⟩

theorem HeldSince.start {h : List (ClutchEvent σ α)}
    (hs : event.startsEngagement = true) : HeldSince (event :: h) := by
  refine ⟨⟨event, List.mem_cons_self, hs⟩, ?_⟩
  rw [since_cons_of_pos hs]
  simp

/-! ## The invariant -/

open ClutchState (phase)

variable {c c' : ClutchMachine σ α}

/-- The trigger is pressed, and has been since the engagement started. -/
def ClutchMachine.IsHeld (c : ClutchMachine σ α) : Prop :=
  c.trigger.pressed = some true ∧ HeldSince c.history

theorem ClutchMachine.IsHeld.record (hc : c.IsHeld)
    (hs : event.startsEngagement = false) (he : event.isHeld = true) : (c.record event).IsHeld :=
  ⟨hc.1, hc.2.cons hs he⟩

theorem ClutchMachine.IsHeld.transition [DecidableEq σ] (hc : c.IsHeld) {nowNs : ℤ} {state : σ}
    {reason : String} : (c.transition nowNs state reason).IsHeld := by
  constructor
  · rw [transition_trigger]
    exact hc.1
  · rcases transition_history (c := c) with h | h
    · rw [h]
      exact hc.2
    · rw [h]
      exact hc.2.cons rfl rfl

theorem transition_allowed [DecidableEq σ] {nowNs : ℤ} {state : σ} {reason : String}
    (ha : Whenever HeldToRun c.history) :
    Whenever HeldToRun (c.transition nowNs state reason).history := by
  rcases ClutchMachine.transition_history (c := c) with h | h
  · rw [h]
    exact ha
  · rw [h]
    exact whenever_cons.mpr ⟨trivial, ha⟩

/-- What the calls that meet `Kept` maintain. -/
structure ClutchMachine.Held [ClutchState σ] (c : ClutchMachine σ α) : Prop where
  engaged : phase c.state = .capturing ∨ phase c.state = .engaged → c.IsHeld
  allowed : Whenever HeldToRun c.history

/-- A machine that is not engaged. -/
theorem ClutchMachine.held_of_idle [ClutchState σ]
    (hs : phase c.state = .disengaged ∨ phase c.state = .fault)
    (ha : Whenever HeldToRun c.history) : c.Held := by
  refine ⟨fun h => ?_, ha⟩
  rcases hs with hs | hs <;> rcases h with h | h <;> exact absurd (hs.symm.trans h) nofun

/-- A step that freezes. -/
theorem ClutchMachine.Held.freeze [ClutchState σ] (hc : c.Held) :
    (c.record (.returned .freeze)).Held :=
  ⟨fun hs => (hc.engaged hs).record rfl rfl, whenever_cons.mpr ⟨trivial, hc.allowed⟩⟩

theorem ClutchMachine.Held.fault [ClutchState σ] [DecidableEq σ]
    (ha : Whenever HeldToRun c.history) {channel : String} {nowNs : ℤ} {reason : String} :
    (c.fault channel nowNs reason).Held := by
  refine held_of_idle (.inr ?_) (transition_allowed (whenever_cons.mpr ⟨trivial, ha⟩))
  rw [ClutchMachine.fault, transition_state]
  exact (ClutchState.phase_eq_fault _).mpr rfl

variable [LinearOrder α] {τ : Thresholds α}

theorem ClutchMachine.IsHeld.observe {sample : AnalogClutchSample α} (hc : c.IsHeld)
    (hp : (Clutch.observe τ c.trigger sample true).2.pressed ≠ some false) :
    (c.observe τ sample true).IsHeld := by
  have hpressed := observe_held hc.1 hp
  refine ⟨hpressed, ?_⟩
  rw [ClutchMachine.observe_history, observe_pressed, hpressed]
  exact hc.2.cons rfl rfl

variable [ClutchState σ]

/-- What is asked of the samples: in `REFERENCE_CAPTURE` none is a new release. -/
def Kept (τ : Thresholds α) (c : ClutchMachine σ α) (input : ClutchInput α) : Prop :=
  ∀ sample, input = some (sample, true) → phase c.state = .capturing →
    c.trigger.lastSequence ≠ some sample.sequenceNumber → ¬sample.value ≤ τ.releasedAt

variable [DecidableEq σ]

/-- **Step lemma.** Moves that meet `Kept` hold to run. -/
theorem ClutchMove.held {input : ClutchInput α} (hmove : ClutchMove τ c input c')
    (hk : Kept τ c input) (hc : c.Held) : c'.Held := by
  have hobserved {sample : AnalogClutchSample α} {fresh : Bool} :
      Whenever HeldToRun (c.observe τ sample fresh).history :=
    whenever_cons.mpr ⟨trivial, hc.allowed⟩
  cases hmove with
  | refused => exact hc
  | faulted channel nowNs reason => exact .fault hc.allowed
  | completed nowNs reason hcap hs =>
    exact ⟨fun _ => (hc.engaged (.inl hcap)).transition, transition_allowed hc.allowed⟩
  | stepFaulted sample fresh channel nowNs reason =>
    exact (ClutchMachine.Held.fault hobserved).freeze
  | rested sample fresh hcs hf hr =>
    refine ClutchMachine.Held.freeze ⟨fun hs => ?_, hobserved⟩
    have hcapturing : phase c.state = .capturing := hs.resolve_right hcs
    obtain rfl : fresh = true := hf (by simp [hcapturing]) (by simp [hcapturing])
    have hheld := hc.engaged (.inl hcapturing)
    -- a release in `REFERENCE_CAPTURE` would be discarded here
    refine hheld.observe fun hreleased => ?_
    obtain ⟨-, hnew, hvalue⟩ := observe_released hreleased (by simp [hheld.1])
    exact hk sample rfl hcapturing hnew hvalue
  | released sample nowNs reason hcs hp hs =>
    refine (ClutchMachine.held_of_idle (.inl ?_) (transition_allowed hobserved)).freeze
    rw [ClutchMachine.transition_state]
    exact hs
  | recovered sample nowNs reason hcs ha hlt hp hs =>
    have hallowed : Whenever HeldToRun
        ({ c.observe τ sample true with activeFault := none } : ClutchMachine σ α).history :=
      hobserved
    refine (ClutchMachine.held_of_idle (.inl ?_) (transition_allowed hallowed)).freeze
    rw [ClutchMachine.transition_state]
    exact hs
  | pressed sample nowNs reason hcs hrising hs ha =>
    rename_i state action
    have hstart : (ClutchEvent.returned action : ClutchEvent σ α).startsEngagement = true := by
      rcases ha with rfl | rfl <;> rfl
    refine ⟨fun _ => ⟨?_, .start hstart⟩, whenever_cons.mpr ⟨?_, transition_allowed hobserved⟩⟩
    · show (ClutchMachine.transition _ _ _ _).trigger.pressed = some true
      rw [ClutchMachine.transition_trigger]
      exact rising_pressed hrising
    · rcases ha with rfl | rfl <;> trivial
  | updated sample nowNs reason hcs hp hs =>
    rename_i state
    have hheld := hc.engaged (.inr hcs)
    have hstays : ((c.observe τ sample true).transition nowNs state reason).IsHeld :=
      (hheld.observe fun hreleased => hp ((observe_pressed true).trans hreleased)).transition
    exact ⟨fun _ => hstays.record rfl rfl,
      whenever_cons.mpr ⟨hstays.2, transition_allowed hobserved⟩⟩

/-! ## Both machines -/

variable {config : ClutchConfig α}

omit [DecidableEq σ] [LinearOrder α] in
theorem held_init {state : σ} (hs : phase state = .waiting) :
    (ClutchMachine.mk .init state none [] : ClutchMachine σ α).Held where
  engaged h := by rcases h with h | h <;> exact absurd (hs.symm.trans h) nofun
  allowed := whenever_nil

/-- The calls of the arm that observe no release in `REFERENCE_CAPTURE`. -/
def ArmClutchMachine.KeptInCapture (config : ClutchConfig α) (m : ArmClutchMachine α)
    (call : ArmClutchCall α) : Prop :=
  Kept config.thresholds m.toClutchMachine (call.input config)

/-- **Main theorem.** In every run in which no release is observed in
    `REFERENCE_CAPTURE`, the arm updates only while its trigger is held. -/
theorem arm_held {calls : List (ArmClutchCall α)}
    (h : Meets (ArmClutchMachine.apply config) (ArmClutchMachine.KeptInCapture config) .init
      calls) :
    Whenever HeldToRun (run (ArmClutchMachine.apply config) .init calls).history := by
  have hinit : (ArmClutchMachine.init : ArmClutchMachine α).toClutchMachine.Held := held_init rfl
  have hheld := run_invariant_of_meets
    (P := fun m : ArmClutchMachine α => m.toClutchMachine.Held)
    (fun m call hk hm => (m.apply_move call).held hk hm) hinit h
  exact hheld.allowed

/-- **The hand** updates only while its grip is held: it has no capture, and disengages at
    the first release, whether it reacquires or is engaged. -/
theorem hand_held (durationNs : ℕ) (calls : List (HandClutchCall α)) :
    Whenever HeldToRun (run (HandClutchMachine.apply config durationNs) .init calls).history := by
  have hkept (m : HandClutchMachine α) (input : ClutchInput α) :
      Kept config.thresholds m.toClutchMachine input := by
    intro sample _ hs
    rw [HandClutchState.phase_eq] at hs
    cases hstate : m.state <;> simp [hstate, HandClutchState.phase] at hs
  have hstep (m : HandClutchMachine α) (call : HandClutchCall α) (hm : m.toClutchMachine.Held) :
      (m.apply config durationNs call).toClutchMachine.Held :=
    (m.apply_move durationNs call).held (hkept m _) hm
  have hinit : (HandClutchMachine.init : HandClutchMachine α).toClutchMachine.Held :=
    held_init rfl
  have hheld := run_invariant (P := fun m : HandClutchMachine α => m.toClutchMachine.Held) hstep
    hinit calls
  exact hheld.allowed

/-! ## Witness and counterexample -/

section Decide

variable {c : ClutchMachine σ α}

instance : (input : ClutchInput α) → Decidable (Kept τ c input)
  | none => isTrue nofun
  | some (_, false) => isTrue nofun
  | some (sample, true) =>
    decidable_of_iff (phase c.state = .capturing →
        c.trigger.lastSequence ≠ some sample.sequenceNumber → ¬sample.value ≤ τ.releasedAt)
      ⟨fun h => by rintro _ ⟨⟩; exact h, fun h => h sample rfl⟩

instance (config : ClutchConfig α) (m : ArmClutchMachine α) (call : ArmClutchCall α) :
    Decidable (m.KeptInCapture config call) :=
  inferInstanceAs (Decidable (Kept config.thresholds m.toClutchMachine (call.input config)))

end Decide

/-- A release, a press, its reference, and two more samples of the press. -/
def armEngagement : List (ArmClutchCall ℚ) :=
  [armStep 0 10 1, armStep 1 20 2, .referenceCaptured 25, armStep 1 30 3, armStep (3 / 5) 40 4]

theorem arm_held_engagement :
    Whenever HeldToRun (run (ArmClutchMachine.apply defaultClutch) .init armEngagement).history ∧
      (ClutchEvent.returned .update) ∈
        (run (ArmClutchMachine.apply defaultClutch) .init armEngagement).history := by
  have hkept : Meets (ArmClutchMachine.apply defaultClutch)
      (ArmClutchMachine.KeptInCapture defaultClutch) .init armEngagement := by decide +kernel
  exact ⟨arm_held hkept, by decide +kernel⟩

/-- The trigger is released and pressed again before the reference is captured:
    the arm updates in the engagement of the first press. -/
theorem captured_released :
    let m := run (ArmClutchMachine.apply defaultClutch) .init
      [armStep 0 10 1, armStep 1 20 2, armStep 0 30 3, armStep 1 40 4, .referenceCaptured 45,
        armStep 1 50 5]
    ¬Whenever HeldToRun m.history := by
  intro m h
  have hlast : (ClutchEvent.returned .update :: m.history.tail) <:+ m.history := by
    decide +kernel
  have hheld : HeldSince m.history.tail := h _ _ hlast
  exact absurd hheld (by decide +kernel)

end HandLab.Clutch
