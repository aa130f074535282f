import HandLab.Clutch.Types

/-!
# The clutch machines

`ArmClutchMachine` and `HandClutchMachine` of `src/motion_input/clutch.py`
(lines 139–314). The members that both have, and the two methods that read
the same in both, `fault` and `_transition`, are those of `ClutchMachine`.

`history` is the log of a machine, newest first. Its entries of the kinds
`transition` and `fault` are `transitions` and `fault_history`; the others
record the samples that a step observed and what it returned.
-/

namespace HandLab.Clutch

variable {σ α : Type*}

/-! ## What the machines share -/

/-- An entry of the log. -/
inductive ClutchEvent (σ α : Type*)
  /-- a step passed the sample to `observe`, which left the trigger so -/
  | observed (sample : AnalogClutchSample α) (fresh : Bool) (pressed : Option Bool)
  | transition (transition : ClutchTransition σ)
  | fault (fault : ClutchFault)
  /-- a step returned -/
  | returned (action : ClutchAction)
  deriving DecidableEq

/-- What a state of a machine stands for: the arm waits for its reference in
    `capturing`, and the others are those of both machines. -/
inductive Phase
  | waiting | disengaged | capturing | engaged | fault
  deriving DecidableEq, Repr

/-- The states of a machine. -/
class ClutchState (σ : Type*) where
  trackingFault : σ
  phase : σ → Phase
  phase_eq_fault : ∀ state, phase state = .fault ↔ state = trackingFault

/-- The members that both machines have. -/
structure ClutchMachine (σ α : Type*) where
  trigger : AnalogHoldToRun
  state : σ
  activeFault : Option ClutchFault
  history : List (ClutchEvent σ α)

namespace ClutchMachine

/-- An entry is added to the log. -/
def record (c : ClutchMachine σ α) (event : ClutchEvent σ α) : ClutchMachine σ α :=
  { c with history := event :: c.history }

/-- The trigger after `self.trigger.observe`. -/
def observe [LinearOrder α] (c : ClutchMachine σ α) (thresholds : Thresholds α)
    (sample : AnalogClutchSample α) (fresh : Bool) : ClutchMachine σ α :=
  let (observation, trigger) := Clutch.observe thresholds c.trigger sample fresh
  { c with trigger }.record (.observed sample fresh observation.pressed)

section Observe

variable {c : ClutchMachine σ α} [LinearOrder α] {τ : Thresholds α}
  {sample : AnalogClutchSample α} {fresh : Bool}

@[simp] theorem observe_state : (c.observe τ sample fresh).state = c.state := rfl

theorem observe_history : (c.observe τ sample fresh).history =
    .observed sample fresh (Clutch.observe τ c.trigger sample fresh).1.pressed :: c.history := rfl

end Observe

variable [DecidableEq σ]

/-- `_transition` (lines 212–217 and 309–314). -/
def transition (c : ClutchMachine σ α) (nowNs : ℤ) (state : σ) (reason : String) :
    ClutchMachine σ α :=
  if state = c.state then c
  else { c with state }.record (.transition ⟨nowNs, c.state, state, reason⟩)

/-- `fault` (lines 206–210 and 302–307). -/
def fault [ClutchState σ] (c : ClutchMachine σ α) (channel : String) (nowNs : ℤ)
    (reason : String) : ClutchMachine σ α :=
  transition ({ c with
    activeFault := some ⟨nowNs, channel, reason⟩
    trigger := .init }.record (.fault ⟨nowNs, channel, reason⟩))
    nowNs ClutchState.trackingFault reason

section Lemmas

variable {c : ClutchMachine σ α} {nowNs : ℤ} {state : σ} {reason : String}

@[simp] theorem transition_state : (c.transition nowNs state reason).state = state := by
  unfold transition
  split_ifs with h
  · exact h.symm
  · rfl

@[simp] theorem transition_trigger : (c.transition nowNs state reason).trigger = c.trigger := by
  unfold transition
  split_ifs <;> rfl

@[simp] theorem transition_activeFault :
    (c.transition nowNs state reason).activeFault = c.activeFault := by
  unfold transition
  split_ifs <;> rfl

@[simp] theorem transition_self : c.transition nowNs c.state reason = c := if_pos rfl

/-- A transition adds at most its own entry to the log. -/
theorem transition_history : (c.transition nowNs state reason).history = c.history ∨
    (c.transition nowNs state reason).history =
      .transition ⟨nowNs, c.state, state, reason⟩ :: c.history := by
  unfold transition
  split_ifs
  · exact .inl rfl
  · exact .inr rfl

/-- A fault adds itself to the log, and its transition unless there is none. -/
theorem fault_history [ClutchState σ] (channel : String) (nowNs : ℤ) (reason : String) :
    (c.fault channel nowNs reason).history = .fault ⟨nowNs, channel, reason⟩ :: c.history ∨
      c.state ≠ ClutchState.trackingFault ∧ (c.fault channel nowNs reason).history =
        .transition ⟨nowNs, c.state, ClutchState.trackingFault, reason⟩ ::
          .fault ⟨nowNs, channel, reason⟩ :: c.history := by
  unfold fault transition
  split_ifs with h
  · exact .inl rfl
  · exact .inr ⟨fun hs => h hs.symm, rfl⟩

end Lemmas

end ClutchMachine

variable [LinearOrder α] (config : ClutchConfig α)

/-! ## The arm -/

/-- `ArmClutchState`. -/
inductive ArmClutchState
  | armedWaitingForRelease | disengaged | referenceCapture | engaged | trackingFault
  deriving DecidableEq, Repr

def ArmClutchState.phase : ArmClutchState → Phase
  | armedWaitingForRelease => .waiting
  | disengaged => .disengaged
  | referenceCapture => .capturing
  | engaged => .engaged
  | trackingFault => .fault

instance : ClutchState ArmClutchState where
  trackingFault := .trackingFault
  phase := ArmClutchState.phase
  phase_eq_fault state := by cases state <;> simp [ArmClutchState.phase]

/-- `ArmClutchMachine`. -/
structure ArmClutchMachine (α : Type*) extends ClutchMachine ArmClutchState α where
  cycleCount : ℕ

namespace ArmClutchMachine

/-- After `__init__`. -/
def init : ArmClutchMachine α where
  trigger := .init
  state := .armedWaitingForRelease
  activeFault := none
  history := []
  cycleCount := 0

/-- `step` returns. -/
def respond (m : ArmClutchMachine α) (action : ClutchAction)
    (clutch : ClutchMachine ArmClutchState α) : ClutchAction × ArmClutchMachine α :=
  (action, { m with toClutchMachine := clutch.record (.returned action) })

/-- The condition to leave `TRACKING_FAULT` (lines 178–185). -/
def recovers (m : ArmClutchMachine α) (observation : HysteresisObservation)
    (sample : AnalogClutchSample α) (captureInputsValid controllerValid : Bool) : Bool :=
  observation.valid && decide (observation.pressed = some false) &&
    m.activeFault.any (·.precedes sample) &&
    captureInputsValid && controllerValid

/-- `step` (lines 149–198). -/
def step (m : ArmClutchMachine α) (sample : AnalogClutchSample α) (nowNs : ℤ)
    (controllerValid continuousInputsValid captureInputsValid : Bool) :
    ClutchAction × ArmClutchMachine α :=
  let fresh := controllerValid && sample.fresh nowNs config.staleAfterNs
  let observation := (Clutch.observe config.thresholds m.trigger sample fresh).1
  let c := m.toClutchMachine.observe config.thresholds sample fresh
  if m.state ≠ .armedWaitingForRelease ∧ m.state ≠ .trackingFault ∧ fresh = false then
    m.respond .freeze (c.fault "arm" nowNs "ARM_TRIGGER_STALE_OR_INVALID")
  else if m.state = .engaged ∧ continuousInputsValid = false then
    m.respond .freeze (c.fault "arm" nowNs "RIGHT_WRIST_STALE_OR_INVALID")
  else
    match m.state with
    | .referenceCapture => m.respond .freeze c
    | .armedWaitingForRelease =>
      if observation.valid = true ∧ observation.pressed = some false then
        m.respond .freeze (c.transition nowNs .disengaged "VALID_RELEASE_OBSERVED")
      else m.respond .freeze c
    | .trackingFault =>
      if m.recovers observation sample captureInputsValid controllerValid then
        m.respond .freeze ({ c with activeFault := none }.transition nowNs .disengaged
          "FAULT_RECOVERY_RELEASED_AND_VALID")
      else m.respond .freeze c
    | .disengaged =>
      if observation.risingEdge then
        if !fresh || !captureInputsValid then
          m.respond .freeze (c.fault "arm" nowNs "ARM_REFERENCE_INPUT_INVALID")
        else
          m.respond .captureArmReference (c.transition nowNs .referenceCapture "ARM_PRESS_EDGE")
      else m.respond .freeze c
    | .engaged =>
      if observation.pressed = some false then
        m.respond .freeze (c.transition nowNs .disengaged "ARM_TRIGGER_RELEASED")
      else m.respond .update c

/-- `reference_captured` (lines 200–204), which raises `RuntimeError` out of
    sequence. -/
def referenceCaptured (m : ArmClutchMachine α) (nowNs : ℤ) :
    Except String Unit × ArmClutchMachine α :=
  if m.state ≠ .referenceCapture then
    (.error "arm reference capture completion is out of sequence", m)
  else
    (.ok (), { m with
      cycleCount := m.cycleCount + 1
      toClutchMachine := m.toClutchMachine.transition nowNs .engaged "ARM_REFERENCE_CAPTURED" })

/-- `fault` (lines 206–210). -/
def fault (m : ArmClutchMachine α) (nowNs : ℤ) (reason : String) : ArmClutchMachine α :=
  { m with toClutchMachine := m.toClutchMachine.fault "arm" nowNs reason }

end ArmClutchMachine

/-- One call of a method of the arm's machine. -/
inductive ArmClutchCall (α : Type*)
  | step (sample : AnalogClutchSample α) (nowNs : ℤ)
      (controllerValid continuousInputsValid captureInputsValid : Bool)
  | referenceCaptured (nowNs : ℤ)
  | fault (nowNs : ℤ) (reason : String)

/-- The machine after a call, whether it returned or raised. -/
def ArmClutchMachine.apply (m : ArmClutchMachine α) :
    ArmClutchCall α → ArmClutchMachine α
  | .step sample nowNs controllerValid continuousInputsValid captureInputsValid =>
    (m.step config sample nowNs controllerValid continuousInputsValid captureInputsValid).2
  | .referenceCaptured nowNs => (m.referenceCaptured nowNs).2
  | .fault nowNs reason => m.fault nowNs reason

/-! ## The hand -/

/-- `HandClutchState`. -/
inductive HandClutchState
  | armedWaitingForRelease | disengaged | reacquire | engaged | trackingFault
  deriving DecidableEq, Repr

/-- What the states of the hand stand for; it moves while it reacquires. -/
def HandClutchState.phase : HandClutchState → Phase
  | armedWaitingForRelease => .waiting
  | disengaged => .disengaged
  | reacquire | engaged => .engaged
  | trackingFault => .fault

instance : ClutchState HandClutchState where
  trackingFault := .trackingFault
  phase := HandClutchState.phase
  phase_eq_fault state := by cases state <;> simp [HandClutchState.phase]

/-- `HandClutchMachine`. -/
structure HandClutchMachine (α : Type*) extends ClutchMachine HandClutchState α where
  cycleCount : ℕ
  reacquisitionStartedNs : Option ℤ

namespace HandClutchMachine

/-- After `__init__`. -/
def init : HandClutchMachine α where
  trigger := .init
  state := .armedWaitingForRelease
  activeFault := none
  history := []
  cycleCount := 0
  reacquisitionStartedNs := none

/-- `step` returns. -/
def respond (m : HandClutchMachine α) (action : ClutchAction)
    (clutch : ClutchMachine HandClutchState α) : ClutchAction × HandClutchMachine α :=
  (action, { m with toClutchMachine := clutch.record (.returned action) })

/-- `fault` (lines 302–307) on the members `c` of a step in progress. -/
def faulted (m : HandClutchMachine α) (c : ClutchMachine HandClutchState α) (nowNs : ℤ)
    (reason : String) : ClutchAction × HandClutchMachine α :=
  { m with reacquisitionStartedNs := none }.respond .freeze (c.fault "hand" nowNs reason)

/-- The condition to leave `TRACKING_FAULT` (lines 265–272). -/
def recovers (m : HandClutchMachine α) (observation : HysteresisObservation)
    (sample : AnalogClutchSample α) (skeletonValid controllerValid : Bool) : Bool :=
  observation.valid && decide (observation.pressed = some false) &&
    m.activeFault.any (·.precedes sample) &&
    skeletonValid && controllerValid

/-- The reacquisition is over (line 292); the `assert` before it cannot fail. -/
def reacquired (m : HandClutchMachine α) (durationNs : ℕ) (nowNs : ℤ) : Bool :=
  m.reacquisitionStartedNs.any fun started => decide ((durationNs : ℤ) ≤ nowNs - started)

/-- `step` (lines 241–295); `durationNs` is `reacquisition_duration_ns`. -/
def step (durationNs : ℕ) (m : HandClutchMachine α) (sample : AnalogClutchSample α) (nowNs : ℤ)
    (controllerValid skeletonValid : Bool) : ClutchAction × HandClutchMachine α :=
  let fresh := controllerValid && sample.fresh nowNs config.staleAfterNs
  let observation := (Clutch.observe config.thresholds m.trigger sample fresh).1
  let c := m.toClutchMachine.observe config.thresholds sample fresh
  if m.state ≠ .armedWaitingForRelease ∧ m.state ≠ .trackingFault ∧ fresh = false then
    m.faulted c nowNs "HAND_GRIP_STALE_OR_INVALID"
  else if (m.state = .engaged ∨ m.state = .reacquire) ∧ skeletonValid = false then
    m.faulted c nowNs "RIGHT_HAND_SKELETON_STALE_OR_INVALID"
  else
    match m.state with
    | .armedWaitingForRelease =>
      if observation.valid = true ∧ observation.pressed = some false then
        m.respond .freeze (c.transition nowNs .disengaged "VALID_RELEASE_OBSERVED")
      else m.respond .freeze c
    | .trackingFault =>
      if m.recovers observation sample skeletonValid controllerValid then
        m.respond .freeze ({ c with activeFault := none }.transition nowNs .disengaged
          "FAULT_RECOVERY_RELEASED_AND_VALID")
      else m.respond .freeze c
    | .disengaged =>
      if observation.risingEdge then
        if !fresh || !skeletonValid then
          m.faulted c nowNs "HAND_REACQUISITION_INPUT_INVALID"
        else
          { m with
            reacquisitionStartedNs := some nowNs
            cycleCount := m.cycleCount + 1 }.respond .startHandReacquisition
              (c.transition nowNs .reacquire "HAND_PRESS_EDGE")
      else m.respond .freeze c
    | .reacquire =>
      if observation.pressed = some false then
        { m with reacquisitionStartedNs := none }.respond .freeze
          (c.transition nowNs .disengaged "HAND_GRIP_RELEASED")
      else if m.reacquired durationNs nowNs then
        m.respond .update (c.transition nowNs .engaged "HAND_REACQUISITION_COMPLETE")
      else m.respond .update c
    | .engaged =>
      if observation.pressed = some false then
        { m with reacquisitionStartedNs := none }.respond .freeze
          (c.transition nowNs .disengaged "HAND_GRIP_RELEASED")
      else m.respond .update c

/-- `fault` (lines 302–307). -/
def fault (m : HandClutchMachine α) (nowNs : ℤ) (reason : String) : HandClutchMachine α :=
  { m with
    toClutchMachine := m.toClutchMachine.fault "hand" nowNs reason
    reacquisitionStartedNs := none }

end HandClutchMachine

/-- One call of a method of the hand's machine. -/
inductive HandClutchCall (α : Type*)
  | step (sample : AnalogClutchSample α) (nowNs : ℤ) (controllerValid skeletonValid : Bool)
  | fault (nowNs : ℤ) (reason : String)

/-- The machine after a call. -/
def HandClutchMachine.apply (durationNs : ℕ) (m : HandClutchMachine α) :
    HandClutchCall α → HandClutchMachine α
  | .step sample nowNs controllerValid skeletonValid =>
    (m.step config durationNs sample nowNs controllerValid skeletonValid).2
  | .fault nowNs reason => m.fault nowNs reason

end HandLab.Clutch
