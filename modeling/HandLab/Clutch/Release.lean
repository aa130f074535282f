import HandLab.Clutch.Protocol
import Mathlib.Algebra.Order.Ring.Rat

/-!
# Release before press

After a fault a clutch stays in `TRACKING_FAULT` until it has seen a release
that was received after the fault, and a new engagement needs a press after
that (`ReleaseFirst`).

* `release_before_press`: both machines do so in every run in which no release
  from before the fault is observed in `TRACKING_FAULT`, and no press reuses the
  sequence number of a release (`Timely`).
* `recovered_unreleased`: the trigger keeps a release from before the fault, and
  the time of the fault is compared with a later sample only, which need not
  be a release.
-/

namespace HandLab.Clutch

open HandLab.Lib

variable {σ α : Type*}

/-! ## What a log says -/

def ClutchEvent.isFault : ClutchEvent σ α → Bool
  | .fault _ => true
  | .observed _ _ _ | .transition _ | .returned _ => false

/-- The fault of an entry. -/
def ClutchEvent.fault? : ClutchEvent σ α → Option ClutchFault
  | .fault cause => some cause
  | .observed _ _ _ | .transition _ | .returned _ => none

def lastFault (h : List (ClutchEvent σ α)) : Option ClutchFault := latest ClutchEvent.fault? h

/-- What happened since the last fault, or from the start if there was none. -/
def sinceFault (h : List (ClutchEvent σ α)) : List (ClutchEvent σ α) := since ClutchEvent.isFault h

section SinceFault

variable {event : ClutchEvent σ α} {h : List (ClutchEvent σ α)}

theorem lastFault_cons (he : event.isFault = false) : lastFault (event :: h) = lastFault h := by
  refine latest_cons_of_none ?_ h
  cases event with
  | fault fault => exact absurd he nofun
  | _ => rfl

theorem sinceFault_cons (he : event.isFault = false) :
    sinceFault (event :: h) = event :: sinceFault h := since_cons_of_neg he h

theorem lastFault_fault (fault : ClutchFault) : lastFault (.fault fault :: h) = some fault :=
  latest_cons_of_some (f := ClutchEvent.fault?) rfl h

/-- The sample was received after the last fault. -/
def AfterFault (h : List (ClutchEvent σ α)) (sample : AnalogClutchSample α) : Prop :=
  ∀ fault ∈ lastFault h, fault.precedes sample = true

theorem AfterFault.cons {sample : AnalogClutchSample α} (ha : AfterFault h sample)
    (he : event.isFault = false) : AfterFault (event :: h) sample := by
  rw [AfterFault, lastFault_cons he]
  exact ha

end SinceFault

variable [LinearOrder α] (τ : Thresholds α)

/-- The sample of an entry, if it is fresh and of a released trigger. -/
def ClutchEvent.release? : ClutchEvent σ α → Option (AnalogClutchSample α)
  | .observed sample true _ => if sample.value ≤ τ.releasedAt then some sample else none
  | .observed _ false _ | .transition _ | .fault _ | .returned _ => none

/-- The releases among some entries. -/
def releases (h : List (ClutchEvent σ α)) : List (AnalogClutchSample α) :=
  h.filterMap (ClutchEvent.release? τ)

/-- A release received after the last fault has been observed since then. -/
def ReleasedSince (h : List (ClutchEvent σ α)) : Prop :=
  ∃ sample ∈ releases τ (sinceFault h), AfterFault h sample

/-- Such a release, and after it a press with another sequence number. -/
def PressedAfterRelease (h : List (ClutchEvent σ α)) : Prop :=
  ∃ later press pressed earlier, sinceFault h = later ++ .observed press true pressed :: earlier ∧
    τ.pressedAt ≤ press.value ∧
    ∃ sample ∈ releases τ earlier, AfterFault h sample ∧
      sample.sequenceNumber ≠ press.sequenceNumber

/-- `TRACKING_FAULT` is left after a release since the fault, and an engagement
    starts after such a release and a press. -/
def ReleaseFirst [ClutchState σ] : ClutchEvent σ α → List (ClutchEvent σ α) → Prop
  | .transition transition, past =>
    transition.previous = ClutchState.trackingFault → ReleasedSince τ past
  | .returned action, past =>
    action = .captureArmReference ∨ action = .startHandReacquisition → PressedAfterRelease τ past
  | .observed _ _ _, _ | .fault _, _ => True

/-- What is asked of the samples: in `TRACKING_FAULT` a new release was received
    after the fault, and a new press does not have the sequence number of a
    release since then. -/
structure Timely [ClutchState σ] (c : ClutchMachine σ α) (input : ClutchInput α) : Prop where
  release : ∀ sample, input = some (sample, true) → c.state = ClutchState.trackingFault →
    c.trigger.lastSequence ≠ some sample.sequenceNumber → sample.value ≤ τ.releasedAt →
    ∀ fault ∈ c.activeFault, fault.precedes sample = true
  press : ∀ sample, input = some (sample, true) →
    c.trigger.lastSequence ≠ some sample.sequenceNumber → τ.pressedAt ≤ sample.value →
    ∀ release ∈ releases τ (sinceFault c.history),
      release.sequenceNumber ≠ sample.sequenceNumber

/-! ## The invariant -/

open ClutchState (phase)

variable {τ}

theorem mem_releases_cons {event : ClutchEvent σ α} {h : List (ClutchEvent σ α)}
    {sample : AnalogClutchSample α} (hs : sample ∈ releases τ h) :
    sample ∈ releases τ (event :: h) := by
  rw [releases, List.mem_filterMap] at hs ⊢
  obtain ⟨e, hmem, he⟩ := hs
  exact ⟨e, List.mem_cons_of_mem event hmem, he⟩

theorem ReleasedSince.cons {event : ClutchEvent σ α} {h : List (ClutchEvent σ α)}
    (hr : ReleasedSince τ h) (he : event.isFault = false) : ReleasedSince τ (event :: h) := by
  obtain ⟨sample, hsample, hafter⟩ := hr
  refine ⟨sample, ?_, hafter.cons he⟩
  rw [sinceFault_cons he]
  exact mem_releases_cons hsample

theorem PressedAfterRelease.cons {event : ClutchEvent σ α} {h : List (ClutchEvent σ α)}
    (hp : PressedAfterRelease τ h) (he : event.isFault = false) :
    PressedAfterRelease τ (event :: h) := by
  obtain ⟨later, press, pressed, earlier, hsince, hpress, release, hrelease, hafter, hne⟩ := hp
  refine ⟨event :: later, press, pressed, earlier, ?_, hpress, release, hrelease,
    hafter.cons he, hne⟩
  rw [sinceFault_cons he, hsince]
  rfl

variable [ClutchState σ]

/-- What timely calls maintain. -/
structure ClutchMachine.Guarded (τ : Thresholds α) (c : ClutchMachine σ α) : Prop where
  time : phase c.state = .fault → c.activeFault = lastFault c.history
  first : phase c.state = .waiting → lastFault c.history = none
  released : c.trigger.pressed = some false → ReleasedSince τ c.history
  active : phase c.state ≠ .waiting → phase c.state ≠ .fault →
    ReleasedSince τ c.history
  allowed : Whenever (ReleaseFirst τ) c.history

namespace ClutchMachine.Guarded

variable {c : ClutchMachine σ α}

/-- An entry that changes nothing else. -/
theorem record {event : ClutchEvent σ α} (hc : c.Guarded τ) (he : event.isFault = false)
    (ha : ReleaseFirst τ event c.history) : (c.record event).Guarded τ where
  time hs := (hc.time hs).trans (lastFault_cons he).symm
  first hs := (lastFault_cons he).trans (hc.first hs)
  released hp := (hc.released hp).cons he
  active hw hf := (hc.active hw hf).cons he
  allowed := whenever_cons.mpr ⟨ha, hc.allowed⟩

/-- The trigger learns of a release from the sample, or knew of one before. -/
theorem observe (hc : c.Guarded τ) {sample : AnalogClutchSample α} {fresh : Bool}
    (ht : Timely τ c (some (sample, fresh))) : (c.observe τ sample fresh).Guarded τ where
  time hs := (hc.time hs).trans (lastFault_cons rfl).symm
  first hs := (lastFault_cons rfl).trans (hc.first hs)
  released := by
    intro hp
    by_cases hbefore : c.trigger.pressed = some false
    · exact (hc.released hbefore).cons rfl
    obtain ⟨rfl, hnew, hvalue⟩ := observe_released hp hbefore
    have hsample : sample ∈ releases τ (sinceFault (c.observe τ sample true).history) := by
      rw [ClutchMachine.observe_history, sinceFault_cons rfl, releases, List.mem_filterMap]
      exact ⟨_, List.mem_cons_self, if_pos hvalue⟩
    by_cases hfault : phase c.state = .fault
    · refine ⟨sample, hsample, fun fault hlast => ?_⟩
      have hactive : c.activeFault = some fault := (hc.time hfault).trans hlast
      exact ht.release sample rfl ((ClutchState.phase_eq_fault _).mp hfault) hnew hvalue fault
        hactive
    by_cases hwaiting : phase c.state = .waiting
    · refine ⟨sample, hsample, fun fault hlast => ?_⟩
      exact absurd ((hc.first hwaiting).symm.trans hlast) nofun
    · exact (hc.active hwaiting hfault).cons rfl
  active hw hf := (hc.active hw hf).cons rfl
  allowed := whenever_cons.mpr ⟨trivial, hc.allowed⟩

variable [DecidableEq σ]

theorem transition (hc : c.Guarded τ) (hr : ReleasedSince τ c.history)
    {state : σ} (hw : phase state ≠ .waiting) (hf : phase state ≠ .fault)
    (activeFault : Option ClutchFault) (nowNs : ℤ) (reason : String) :
    ({ c with activeFault }.transition nowNs state reason).Guarded τ where
  time hs := absurd ((congrArg phase transition_state).symm.trans hs) hf
  first hs := absurd ((congrArg phase transition_state).symm.trans hs) hw
  released := by
    intro _
    rcases transition_history (c := { c with activeFault }) with h | h
    · rw [h]
      exact hr
    · rw [h]
      exact hr.cons rfl
  active := by
    intro _ _
    rcases transition_history (c := { c with activeFault }) with h | h
    · rw [h]
      exact hr
    · rw [h]
      exact hr.cons rfl
  allowed := by
    rcases transition_history (c := { c with activeFault }) with h | h
    · rw [h]
      exact hc.allowed
    · rw [h]
      exact whenever_cons.mpr ⟨fun _ => hr, hc.allowed⟩

theorem fault (hc : c.Guarded τ) (channel : String) (nowNs : ℤ) (reason : String) :
    (c.fault channel nowNs reason).Guarded τ := by
  have hstate : phase (c.fault channel nowNs reason).state = .fault := by
    rw [ClutchMachine.fault, transition_state]
    exact (ClutchState.phase_eq_fault _).mpr rfl
  have htrigger : (c.fault channel nowNs reason).trigger = .init := transition_trigger
  have hactive : (c.fault channel nowNs reason).activeFault = some ⟨nowNs, channel, reason⟩ :=
    transition_activeFault
  have hcause : Whenever (ReleaseFirst τ)
      (.fault ⟨nowNs, channel, reason⟩ :: c.history) := whenever_cons.mpr ⟨trivial, hc.allowed⟩
  have hhistory := fault_history (c := c) channel nowNs reason
  refine ⟨fun _ => ?_, fun h => absurd (hstate.symm.trans h) nofun, fun h => ?_,
    fun _ h => absurd hstate h, ?_⟩
  · rw [hactive]
    rcases hhistory with h | ⟨-, h⟩
    · rw [h, lastFault_fault]
    · rw [h, lastFault_cons rfl, lastFault_fault]
  · rw [htrigger] at h
    exact absurd h nofun
  · rcases hhistory with h | ⟨hs, h⟩
    · rw [h]
      exact hcause
    · rw [h]
      exact whenever_cons.mpr ⟨fun hprevious => absurd hprevious hs, hcause⟩

end ClutchMachine.Guarded

section Runs

variable [DecidableEq σ] {c c' : ClutchMachine σ α}

omit [DecidableEq σ] in
theorem releaseFirst_returned {action : ClutchAction} {h : List (ClutchEvent σ α)}
    (ha : action = .freeze ∨ action = .update) : ReleaseFirst τ (.returned action) h := by
  rintro (rfl | rfl)
  · exact absurd ha (by decide)
  · exact absurd ha (by decide)

/-- A press that is timely comes after a release with another number. -/
theorem pressed_after_release (hc : c.Guarded τ) {sample : AnalogClutchSample α}
    (ht : Timely τ c (some (sample, true)))
    (hr : (observe τ c.trigger sample true).1.risingEdge = true) {nowNs : ℤ} {state : σ}
    {reason : String} :
    PressedAfterRelease τ ((c.observe τ sample true).transition nowNs state reason).history := by
  obtain ⟨-, hnew, hreleased, hpressed⟩ := rising_edge hr
  obtain ⟨release, hrelease, hafter⟩ := hc.released hreleased
  have hnumber := ht.press sample rfl hnew hpressed release hrelease
  have hobserved : PressedAfterRelease τ (c.observe τ sample true).history := by
    rw [ClutchMachine.observe_history]
    exact ⟨[], sample, _, sinceFault c.history, sinceFault_cons rfl, hpressed, release, hrelease,
      hafter.cons rfl, hnumber⟩
  rcases ClutchMachine.transition_history (c := c.observe τ sample true) with h | h
  · rw [h]
    exact hobserved
  · rw [h]
    exact hobserved.cons rfl

/-- **Step lemma.** Timely moves wait for a release. -/
theorem ClutchMove.guarded {input : ClutchInput α} (hmove : ClutchMove τ c input c')
    (ht : Timely τ c input) (hc : c.Guarded τ) : c'.Guarded τ := by
  have hfreeze {h : List (ClutchEvent σ α)} : ReleaseFirst τ (.returned .freeze) h :=
    releaseFirst_returned (.inl rfl)
  have hstays {state : σ} (hs : phase state = .disengaged ∨ phase state = .capturing ∨
      phase state = .engaged) : phase state ≠ .waiting ∧ phase state ≠ .fault := by
    rcases hs with h | h | h <;> simp [h]
  cases hmove with
  | refused => exact hc
  | faulted channel nowNs reason => exact hc.fault channel nowNs reason
  | completed nowNs reason hcap hs =>
    obtain ⟨hw, hf⟩ := hstays (.inr (.inr hs))
    exact hc.transition (hc.active (by simp [hcap]) (by simp [hcap])) hw hf _ nowNs reason
  | stepFaulted sample fresh channel nowNs reason =>
    exact ((hc.observe ht).fault channel nowNs reason).record rfl hfreeze
  | rested sample fresh => exact (hc.observe ht).record rfl hfreeze
  | released sample nowNs reason hcs hp hs =>
    obtain ⟨hw, hf⟩ := hstays (.inl hs)
    have hobserved := hc.observe ht
    have hr := hobserved.released ((observe_pressed true).symm.trans hp)
    exact (hobserved.transition hr hw hf _ nowNs reason).record rfl hfreeze
  | recovered sample nowNs reason hcs ha hlt hp hs =>
    obtain ⟨hw, hf⟩ := hstays (.inl hs)
    have hobserved := hc.observe ht
    have hr := hobserved.released ((observe_pressed true).symm.trans hp)
    exact (hobserved.transition hr hw hf none nowNs reason).record rfl hfreeze
  | pressed sample nowNs reason hcs hrising hs ha =>
    obtain ⟨hw, hf⟩ := hstays (.inr hs)
    have hobserved := hc.observe ht
    have hr := hobserved.active (by simp [ClutchMachine.observe_state, hcs])
      (by simp [ClutchMachine.observe_state, hcs])
    exact (hobserved.transition hr hw hf _ nowNs reason).record rfl
      fun _ => pressed_after_release hc ht hrising
  | updated sample nowNs reason hcs hp hs =>
    obtain ⟨hw, hf⟩ := hstays (.inr (.inr hs))
    have hobserved := hc.observe ht
    have hr := hobserved.active (by simp [ClutchMachine.observe_state, hcs])
      (by simp [ClutchMachine.observe_state, hcs])
    exact (hobserved.transition hr hw hf _ nowNs reason).record rfl
      (releaseFirst_returned (.inr rfl))

end Runs

/-! ## Both machines -/

def ArmClutchMachine.Timely (config : ClutchConfig α) (m : ArmClutchMachine α)
    (call : ArmClutchCall α) : Prop :=
  Clutch.Timely config.thresholds m.toClutchMachine (call.input config)

def HandClutchMachine.Timely (config : ClutchConfig α) (m : HandClutchMachine α)
    (call : HandClutchCall α) : Prop :=
  Clutch.Timely config.thresholds m.toClutchMachine (call.input config)

theorem guarded_init {state : σ} (hs : phase state = .waiting) :
    (ClutchMachine.mk .init state none [] : ClutchMachine σ α).Guarded τ where
  time h := absurd (hs.symm.trans h) nofun
  first _ := rfl
  released h := absurd h nofun
  active h := absurd hs h
  allowed := whenever_nil

/-- **Main theorem.** Both machines leave `TRACKING_FAULT` after a release that
    was received after the fault, and start an engagement after such a release
    and a press, in every run of timely calls. -/
theorem release_before_press (config : ClutchConfig α) (durationNs : ℕ) :
    (∀ calls, Meets (ArmClutchMachine.apply config) (ArmClutchMachine.Timely config) .init calls →
      Whenever (ReleaseFirst config.thresholds)
        (run (ArmClutchMachine.apply config) .init calls).history) ∧
    ∀ calls, Meets (HandClutchMachine.apply config durationNs) (HandClutchMachine.Timely config)
        .init calls →
      Whenever (ReleaseFirst config.thresholds)
        (run (HandClutchMachine.apply config durationNs) .init calls).history := by
  constructor
  · intro calls hcalls
    have hguarded := run_invariant_of_meets
      (P := fun m : ArmClutchMachine α => m.toClutchMachine.Guarded config.thresholds)
      (fun m call ht hm => (m.apply_move call).guarded ht hm) (guarded_init rfl) hcalls
    exact hguarded.allowed
  · intro calls hcalls
    have hguarded := run_invariant_of_meets
      (P := fun m : HandClutchMachine α => m.toClutchMachine.Guarded config.thresholds)
      (fun m call ht hm => (m.apply_move durationNs call).guarded ht hm) (guarded_init rfl) hcalls
    exact hguarded.allowed

/-! ## Witness and counterexample -/

section Decide

variable {c : ClutchMachine σ α}

instance (h : List (ClutchEvent σ α)) : Decidable (ReleasedSince τ h) :=
  inferInstanceAs (Decidable (∃ sample ∈ releases τ (sinceFault h),
    ∀ fault ∈ lastFault h, fault.precedes sample = true))

instance : (input : ClutchInput α) → Decidable (Timely τ c input)
  | none => isTrue ⟨nofun, nofun⟩
  | some (_, false) => isTrue ⟨nofun, nofun⟩
  | some (sample, true) =>
    have : Decidable (c.state = ClutchState.trackingFault) :=
      decidable_of_iff _ (ClutchState.phase_eq_fault c.state)
    decidable_of_iff
      ((c.state = ClutchState.trackingFault →
          c.trigger.lastSequence ≠ some sample.sequenceNumber → sample.value ≤ τ.releasedAt →
          ∀ fault ∈ c.activeFault, fault.precedes sample = true) ∧
        (c.trigger.lastSequence ≠ some sample.sequenceNumber → τ.pressedAt ≤ sample.value →
          ∀ release ∈ releases τ (sinceFault c.history),
            release.sequenceNumber ≠ sample.sequenceNumber))
      ⟨fun h => ⟨by rintro _ ⟨⟩; exact h.1, by rintro _ ⟨⟩; exact h.2⟩,
        fun h => ⟨h.release sample rfl, h.press sample rfl⟩⟩

instance (config : ClutchConfig α) (m : ArmClutchMachine α) (call : ArmClutchCall α) :
    Decidable (m.Timely config call) :=
  inferInstanceAs (Decidable (Timely config.thresholds m.toClutchMachine (call.input config)))

instance (config : ClutchConfig α) (m : HandClutchMachine α) (call : HandClutchCall α) :
    Decidable (m.Timely config call) :=
  inferInstanceAs (Decidable (Timely config.thresholds m.toClutchMachine (call.input config)))

end Decide

/-- The thresholds of `AnalogHoldToRun`, and a stale timeout of 150 ms. -/
def defaultClutch : ClutchConfig ℚ where
  staleAfterNs := 150000000
  thresholds := ⟨3 / 4, 11 / 20, by decide +kernel⟩

/-- A valid sample. -/
def sampleAt (value : ℚ) (receiveNs sequence : ℕ) : AnalogClutchSample ℚ :=
  ⟨value, receiveNs, sequence, true, none⟩

/-- A step of the arm with valid inputs, at the time of the sample. -/
def armStep (value : ℚ) (receiveNs sequence : ℕ) : ArmClutchCall ℚ :=
  .step (sampleAt value receiveNs sequence) receiveNs true true true

/-- A step of the hand with valid inputs, at the time of the sample. -/
def handStep (value : ℚ) (receiveNs sequence : ℕ) : HandClutchCall ℚ :=
  .step (sampleAt value receiveNs sequence) receiveNs true true

/-- A fault, a release and a press. -/
def armRecovery : List (ArmClutchCall ℚ) :=
  [.fault 100 "RIGHT_WRIST_TRACKING_LOST", armStep 0 110 1, armStep 1 120 2]

/-- A fault, a release and a press. -/
def handRecovery : List (HandClutchCall ℚ) :=
  [.fault 100 "HAND_REFERENCE_INPUT_INVALID", handStep 0 110 1, handStep 1 120 2]

theorem release_before_press_recovery :
    Whenever (ReleaseFirst defaultClutch.thresholds)
        (run (ArmClutchMachine.apply defaultClutch) .init armRecovery).history ∧
      Whenever (ReleaseFirst defaultClutch.thresholds)
        (run (HandClutchMachine.apply defaultClutch 200000000) .init handRecovery).history := by
  have harm : Meets (ArmClutchMachine.apply defaultClutch)
      (ArmClutchMachine.Timely defaultClutch) .init armRecovery := by decide +kernel
  have hhand : Meets (HandClutchMachine.apply defaultClutch 200000000)
      (HandClutchMachine.Timely defaultClutch) .init handRecovery := by decide +kernel
  obtain ⟨harms, hhands⟩ := release_before_press defaultClutch 200000000
  exact ⟨harms _ harm, hhands _ hhand⟩

/-- A release from before the fault, and then a sample of the hysteresis band:
    the arm recovers, and no release was received after the fault. -/
theorem recovered_unreleased :
    let m := run (ArmClutchMachine.apply defaultClutch) .init
      [.fault 100 "RIGHT_WRIST_TRACKING_LOST", .step (sampleAt (1 / 2) 90 1) 110 true true true,
        armStep (3 / 5) 120 2]
    m.state = .disengaged ∧ ¬Whenever (ReleaseFirst defaultClutch.thresholds) m.history := by
  intro m
  have hstate : m.state = .disengaged := by decide +kernel
  refine ⟨hstate, fun h => ?_⟩
  have hleft : (ClutchEvent.transition ⟨120, .trackingFault, .disengaged,
      "FAULT_RECOVERY_RELEASED_AND_VALID"⟩ :: m.history.drop 2) <:+ m.history := by decide +kernel
  have hnone : ¬ReleasedSince defaultClutch.thresholds (m.history.drop 2) := by decide +kernel
  exact hnone (h _ _ hleft rfl)

end HandLab.Clutch
