import HandLab.Lib.History
import HandLab.Clutch.Machines

/-!
# The moves of a clutch

What the two machines have in common as hold-to-run clutches: a call of either
is one `ClutchMove` of the members they share, for the sample that the call
observes, if any.

* `ArmClutchMachine.apply_move`, `HandClutchMachine.apply_move`: every call is
  a move.
-/

namespace HandLab.Clutch

open HandLab.Lib

variable {σ α : Type*}

open ClutchState (phase)

/-! ## Moves -/

/-- The sample that a call observes, with its freshness. -/
abbrev ClutchInput (α : Type*) := Option (AnalogClutchSample α × Bool)

section Moves

variable [DecidableEq σ] [ClutchState σ] [LinearOrder α] (τ : Thresholds α)

inductive ClutchMove (c : ClutchMachine σ α) : ClutchInput α → ClutchMachine σ α → Prop
  | refused : ClutchMove c none c
  | faulted (channel : String) (nowNs : ℤ) (reason : String) :
      ClutchMove c none (c.fault channel nowNs reason)
  | completed (nowNs : ℤ) {state : σ} (reason : String) (hc : phase c.state = .capturing)
      (hs : phase state = .engaged) : ClutchMove c none (c.transition nowNs state reason)
  /-- a step faults -/
  | stepFaulted (sample : AnalogClutchSample α) (fresh : Bool) (channel : String) (nowNs : ℤ)
      (reason : String) :
      ClutchMove c (some (sample, fresh))
        (((c.observe τ sample fresh).fault channel nowNs reason).record (.returned .freeze))
  /-- a step leaves the state as it is; a disengaged clutch then saw no press -/
  | rested (sample : AnalogClutchSample α) (fresh : Bool) (hc : phase c.state ≠ .engaged)
      (hf : phase c.state ≠ .waiting → phase c.state ≠ .fault → fresh = true)
      (hr : phase c.state = .disengaged → (observe τ c.trigger sample fresh).1.risingEdge = false) :
      ClutchMove c (some (sample, fresh))
        ((c.observe τ sample fresh).record (.returned .freeze))
  | released (sample : AnalogClutchSample α) (nowNs : ℤ) {state : σ} (reason : String)
      (hc : phase c.state = .waiting ∨ phase c.state = .engaged)
      (hp : (observe τ c.trigger sample true).1.pressed = some false)
      (hs : phase state = .disengaged) :
      ClutchMove c (some (sample, true))
        (((c.observe τ sample true).transition nowNs state reason).record (.returned .freeze))
  | recovered (sample : AnalogClutchSample α) (nowNs : ℤ) {state : σ} (reason : String)
      {fault : ClutchFault} (hc : phase c.state = .fault) (ha : c.activeFault = some fault)
      (hlt : fault.precedes sample = true)
      (hp : (observe τ c.trigger sample true).1.pressed = some false)
      (hs : phase state = .disengaged) :
      ClutchMove c (some (sample, true))
        (({ c.observe τ sample true with activeFault := none }.transition nowNs state
          reason).record (.returned .freeze))
  /-- a press starts an engagement -/
  | pressed (sample : AnalogClutchSample α) (nowNs : ℤ) {state : σ} (reason : String)
      {action : ClutchAction} (hc : phase c.state = .disengaged)
      (hr : (observe τ c.trigger sample true).1.risingEdge = true)
      (hs : phase state = .capturing ∨ phase state = .engaged)
      (ha : action = .captureArmReference ∨ action = .startHandReacquisition) :
      ClutchMove c (some (sample, true))
        (((c.observe τ sample true).transition nowNs state reason).record (.returned action))
  | updated (sample : AnalogClutchSample α) (nowNs : ℤ) {state : σ} (reason : String)
      (hc : phase c.state = .engaged)
      (hp : (observe τ c.trigger sample true).1.pressed ≠ some false)
      (hs : phase state = .engaged) :
      ClutchMove c (some (sample, true))
        (((c.observe τ sample true).transition nowNs state reason).record (.returned .update))

end Moves

/-- The condition of both machines to leave `TRACKING_FAULT`. -/
theorem recovers_spec {observation : HysteresisObservation} {activeFault : Option ClutchFault}
    {sample : AnalogClutchSample α} {inputsValid controllerValid : Bool}
    (h : (observation.valid && decide (observation.pressed = some false) &&
      activeFault.any (·.precedes sample) && inputsValid && controllerValid) = true) :
    observation.valid = true ∧ observation.pressed = some false ∧
      ∃ fault, activeFault = some fault ∧ fault.precedes sample = true := by
  simp only [Bool.and_eq_true, decide_eq_true_eq, Option.any_eq_true] at h
  obtain ⟨⟨⟨⟨hvalid, hpressed⟩, fault, hfault, hprecedes⟩, -⟩, -⟩ := h
  exact ⟨hvalid, hpressed, fault, hfault, hprecedes⟩

/-- What both machines find where they do not stop for a stale sample. -/
theorem fresh_of_phase {σ : Type*} [ClutchState σ] {state waiting fault : σ} {fresh : Bool}
    (hstale : ¬(state ≠ waiting ∧ state ≠ fault ∧ fresh = false))
    (hw : phase state ≠ phase waiting) (hf : phase state ≠ phase fault) : fresh = true := by
  by_contra hnot
  refine hstale ⟨?_, ?_, by simpa using hnot⟩
  · rintro rfl
    exact hw rfl
  · rintro rfl
    exact hf rfl

/-! ## The arm -/

section Arm

variable {m : ArmClutchMachine α}

variable [LinearOrder α] {config : ClutchConfig α}

/-- What a call of the arm's machine observes. -/
def ArmClutchCall.input (config : ClutchConfig α) : ArmClutchCall α → ClutchInput α
  | .step sample nowNs controllerValid _ _ =>
    some (sample, controllerValid && sample.fresh nowNs config.staleAfterNs)
  | .referenceCaptured _ => none
  | .fault _ _ => none

theorem ArmClutchMachine.step_move (sample : AnalogClutchSample α) (nowNs : ℤ)
    (controllerValid continuousInputsValid captureInputsValid : Bool) :
    ClutchMove config.thresholds m.toClutchMachine
      (some (sample, controllerValid && sample.fresh nowNs config.staleAfterNs))
      (m.step config sample nowNs controllerValid continuousInputsValid
        captureInputsValid).2.toClutchMachine := by
  unfold ArmClutchMachine.step
  extract_lets fresh observation c
  have hvalid : observation.valid = fresh := observe_valid fresh
  change ClutchMove config.thresholds m.toClutchMachine (some (sample, fresh)) _
  clear_value fresh
  by_cases hstale : m.state ≠ .armedWaitingForRelease ∧ m.state ≠ .trackingFault ∧ fresh = false
  · rw [if_pos hstale]
    exact .stepFaulted sample fresh "arm" nowNs _
  by_cases hinputs : m.state = .engaged ∧ continuousInputsValid = false
  · rw [if_neg hstale, if_pos hinputs]
    exact .stepFaulted sample fresh "arm" nowNs _
  rw [if_neg hstale, if_neg hinputs]
  have hfresh (hw : phase m.state ≠ .waiting) (ht : phase m.state ≠ .fault) : fresh = true :=
    fresh_of_phase hstale hw ht
  split
  case h_1 hs =>
    have hphase : phase m.state = .capturing := congrArg phase hs
    exact .rested sample fresh (by simp [hphase]) hfresh (by simp [hphase])
  case h_2 hs =>
    have hphase : phase m.state = .waiting := congrArg phase hs
    split_ifs with hreleased
    · obtain rfl : fresh = true := hvalid.symm.trans hreleased.1
      exact .released sample nowNs _ (.inl hphase) hreleased.2 rfl
    · exact .rested sample fresh (by simp [hphase]) hfresh (by simp [hphase])
  case h_3 hs =>
    have hphase : phase m.state = .fault := congrArg phase hs
    split_ifs with hrecovers
    · obtain ⟨hobserved, hpressed, fault, hfault, hprecedes⟩ := recovers_spec hrecovers
      obtain rfl : fresh = true := hvalid.symm.trans hobserved
      exact .recovered sample nowNs _ hphase hfault hprecedes hpressed rfl
    · exact .rested sample fresh (by simp [hphase]) hfresh (by simp [hphase])
  case h_4 hs =>
    have hphase : phase m.state = .disengaged := congrArg phase hs
    obtain rfl : fresh = true := hfresh (by simp [hphase]) (by simp [hphase])
    split_ifs with hrising hcapture
    · exact .stepFaulted sample true "arm" nowNs _
    · exact .pressed sample nowNs _ hphase hrising (.inl rfl) (.inl rfl)
    · exact .rested sample true (by simp [hphase]) (fun _ _ => rfl)
        (fun _ => by simpa using hrising)
  case h_5 hs =>
    have hphase : phase m.state = .engaged := congrArg phase hs
    obtain rfl : fresh = true := hfresh (by simp [hphase]) (by simp [hphase])
    split_ifs with hreleased
    · exact .released sample nowNs _ (.inr hphase) hreleased rfl
    · have hmove : ClutchMove config.thresholds m.toClutchMachine (some (sample, true))
          ((c.transition nowNs c.state "").record (.returned .update)) :=
        .updated sample nowNs _ hphase hreleased hphase
      rw [ClutchMachine.transition_self] at hmove
      exact hmove

theorem ArmClutchMachine.apply_move (call : ArmClutchCall α) :
    ClutchMove config.thresholds m.toClutchMachine (call.input config)
      (m.apply config call).toClutchMachine := by
  cases call with
  | step sample nowNs controllerValid continuousInputsValid captureInputsValid =>
    exact step_move sample nowNs controllerValid continuousInputsValid captureInputsValid
  | referenceCaptured nowNs =>
    by_cases hs : m.state = .referenceCapture
    · have hmove : ClutchMove config.thresholds m.toClutchMachine none
          (m.toClutchMachine.transition nowNs .engaged "ARM_REFERENCE_CAPTURED") :=
        .completed nowNs _ (congrArg phase hs) rfl
      simpa [ArmClutchCall.input, ArmClutchMachine.apply, ArmClutchMachine.referenceCaptured, hs]
        using hmove
    · have hmove : ClutchMove config.thresholds m.toClutchMachine none m.toClutchMachine :=
        .refused
      simpa [ArmClutchCall.input, ArmClutchMachine.apply, ArmClutchMachine.referenceCaptured, hs]
        using hmove
  | fault nowNs reason => exact .faulted "arm" nowNs reason

end Arm

/-! ## The hand -/

section Hand

variable {m : HandClutchMachine α}

@[simp] theorem HandClutchState.phase_eq (state : HandClutchState) :
    ClutchState.phase state = state.phase := rfl

variable [LinearOrder α] {config : ClutchConfig α}

/-- What a call of the hand's machine observes. -/
def HandClutchCall.input (config : ClutchConfig α) : HandClutchCall α → ClutchInput α
  | .step sample nowNs controllerValid _ =>
    some (sample, controllerValid && sample.fresh nowNs config.staleAfterNs)
  | .fault _ _ => none

theorem HandClutchMachine.step_move (durationNs : ℕ) (sample : AnalogClutchSample α) (nowNs : ℤ)
    (controllerValid skeletonValid : Bool) :
    ClutchMove config.thresholds m.toClutchMachine
      (some (sample, controllerValid && sample.fresh nowNs config.staleAfterNs))
      (m.step config durationNs sample nowNs controllerValid skeletonValid).2.toClutchMachine := by
  unfold HandClutchMachine.step
  extract_lets fresh observation c
  have hvalid : observation.valid = fresh := observe_valid fresh
  change ClutchMove config.thresholds m.toClutchMachine (some (sample, fresh)) _
  clear_value fresh
  by_cases hstale : m.state ≠ .armedWaitingForRelease ∧ m.state ≠ .trackingFault ∧ fresh = false
  · rw [if_pos hstale]
    exact .stepFaulted sample fresh "hand" nowNs _
  by_cases hinputs : (m.state = .engaged ∨ m.state = .reacquire) ∧ skeletonValid = false
  · rw [if_neg hstale, if_pos hinputs]
    exact .stepFaulted sample fresh "hand" nowNs _
  rw [if_neg hstale, if_neg hinputs]
  have hfresh (hw : phase m.state ≠ .waiting) (ht : phase m.state ≠ .fault) : fresh = true :=
    fresh_of_phase hstale hw ht
  have hreleased (hs : phase m.state = .engaged) (hp : observation.pressed = some false) :
      ClutchMove config.thresholds m.toClutchMachine (some (sample, fresh))
        ((c.transition nowNs .disengaged "HAND_GRIP_RELEASED").record (.returned .freeze)) := by
    obtain rfl : fresh = true := hfresh (by simp [hs]) (by simp [hs])
    exact .released sample nowNs _ (.inr hs) hp rfl
  have hupdated (hs : phase m.state = .engaged) (hp : observation.pressed ≠ some false)
      {state : HandClutchState} (hstate : phase state = .engaged) (reason : String) :
      ClutchMove config.thresholds m.toClutchMachine (some (sample, fresh))
        ((c.transition nowNs state reason).record (.returned .update)) := by
    obtain rfl : fresh = true := hfresh (by simp [hs]) (by simp [hs])
    exact .updated sample nowNs _ hs hp hstate
  have hsame (reason : String) : c.transition nowNs m.state reason = c :=
    ClutchMachine.transition_self
  split
  case h_1 hs =>
    have hphase : phase m.state = .waiting := congrArg phase hs
    split_ifs with hfreed
    · obtain rfl : fresh = true := hvalid.symm.trans hfreed.1
      exact .released sample nowNs _ (.inl hphase) hfreed.2 rfl
    · exact .rested sample fresh (by simp [hphase]) hfresh (by simp [hphase])
  case h_2 hs =>
    have hphase : phase m.state = .fault := congrArg phase hs
    split_ifs with hrecovers
    · obtain ⟨hobserved, hpressed, fault, hfault, hprecedes⟩ := recovers_spec hrecovers
      obtain rfl : fresh = true := hvalid.symm.trans hobserved
      exact .recovered sample nowNs _ hphase hfault hprecedes hpressed rfl
    · exact .rested sample fresh (by simp [hphase]) hfresh (by simp [hphase])
  case h_3 hs =>
    have hphase : phase m.state = .disengaged := congrArg phase hs
    obtain rfl : fresh = true := hfresh (by simp [hphase]) (by simp [hphase])
    split_ifs with hrising hskeleton
    · exact .stepFaulted sample true "hand" nowNs _
    · exact .pressed sample nowNs _ hphase hrising (.inr rfl) (.inr rfl)
    · exact .rested sample true (by simp [hphase]) (fun _ _ => rfl)
        (fun _ => by simpa using hrising)
  case h_4 hs =>
    have hphase : phase m.state = .engaged := congrArg phase hs
    split_ifs with hfreed hover
    · exact hreleased hphase hfreed
    · exact hupdated hphase hfreed rfl _
    · have hmove := hupdated hphase hfreed hphase ""
      rwa [hsame] at hmove
  case h_5 hs =>
    have hphase : phase m.state = .engaged := congrArg phase hs
    split_ifs with hfreed
    · exact hreleased hphase hfreed
    · have hmove := hupdated hphase hfreed hphase ""
      rwa [hsame] at hmove

theorem HandClutchMachine.apply_move (durationNs : ℕ) (call : HandClutchCall α) :
    ClutchMove config.thresholds m.toClutchMachine (call.input config)
      (m.apply config durationNs call).toClutchMachine := by
  cases call with
  | step sample nowNs controllerValid skeletonValid =>
    exact step_move durationNs sample nowNs controllerValid skeletonValid
  | fault nowNs reason => exact .faulted "hand" nowNs reason

end Hand

end HandLab.Clutch
