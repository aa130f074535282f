import HandLab.Lib.Run
import Mathlib.Algebra.Order.Ring.Int

/-!
# Clutches

The data of `src/motion_input/clutch.py` (lines 16–136 and 317–320) and
`AnalogHoldToRun`, the trigger with hysteresis that both clutch machines use.

The values of a trigger pass the check of `AnalogClutchSample.__post_init__`,
so they are finite doubles of `[0, 1]`, of which only the order matters: they
are a linear order `α` here, with `⊥` for `0.0`.
-/

namespace HandLab.Clutch

variable {α : Type*}

/-! ## Samples -/

/-- `AnalogClutchSample`. -/
structure AnalogClutchSample (α : Type*) where
  value : α
  hostReceiveMonotonicNs : ℕ
  sequenceNumber : ℕ
  valid : Bool
  sourceTimestampNs : Option ℕ
  deriving DecidableEq

/-- `AnalogClutchSample.fresh` (lines 32–37). -/
def AnalogClutchSample.fresh (sample : AnalogClutchSample α) (nowNs : ℤ) (staleAfterNs : ℕ) :
    Bool :=
  sample.valid && decide (sample.hostReceiveMonotonicNs ≤ nowNs) &&
    decide (nowNs - sample.hostReceiveMonotonicNs ≤ staleAfterNs)

/-- `HysteresisObservation`. -/
structure HysteresisObservation where
  pressed : Option Bool
  risingEdge : Bool
  fallingEdge : Bool
  releasedObserved : Bool
  newSample : Bool
  valid : Bool
  deriving DecidableEq, Repr

/-! ## The trigger -/

/-- The thresholds that `AnalogHoldToRun.__init__` admits. -/
structure Thresholds (α : Type*) [LinearOrder α] where
  pressedAt : α
  releasedAt : α
  released_lt_pressed : releasedAt < pressedAt

/-- The members of `AnalogHoldToRun` that change. -/
structure AnalogHoldToRun where
  pressed : Option Bool
  releasedObserved : Bool
  lastSequence : Option ℕ
  deriving DecidableEq, Repr

/-- `AnalogHoldToRun` after `__init__`, and after `require_release`
    (lines 62–67). -/
def AnalogHoldToRun.init : AnalogHoldToRun := ⟨none, false, none⟩

/-- The answer of `observe` to a sample that is not new. -/
def AnalogHoldToRun.unchanged (trigger : AnalogHoldToRun) (valid : Bool) :
    HysteresisObservation where
  pressed := trigger.pressed
  risingEdge := false
  fallingEdge := false
  releasedObserved := trigger.releasedObserved
  newSample := false
  valid := valid

section Observe

variable [LinearOrder α] (thresholds : Thresholds α)

/-- `self.pressed` after a new sample (lines 81–85). -/
def debounce (pressed : Option Bool) (value : α) : Option Bool :=
  if thresholds.pressedAt ≤ value then some true
  else if value ≤ thresholds.releasedAt then some false
  else pressed

/-- `observe` on a new sample (lines 79–98). -/
def observeNew (trigger : AnalogHoldToRun) (sample : AnalogClutchSample α) :
    HysteresisObservation × AnalogHoldToRun :=
  let pressed := debounce thresholds trigger.pressed sample.value
  let released := decide (sample.value ≤ thresholds.releasedAt)
  let releasedObserved := trigger.releasedObserved || released
  ({ pressed, releasedObserved
     risingEdge :=
       releasedObserved && decide (trigger.pressed = some false) && decide (pressed = some true)
     fallingEdge := decide (trigger.pressed = some true) && decide (pressed = some false)
     newSample := true
     valid := true },
    { pressed, releasedObserved, lastSequence := some sample.sequenceNumber })

/-- `observe` (lines 69–98). -/
def observe (trigger : AnalogHoldToRun) (sample : AnalogClutchSample α) (fresh : Bool) :
    HysteresisObservation × AnalogHoldToRun :=
  if !fresh then (trigger.unchanged false, trigger)
  else if trigger.lastSequence = some sample.sequenceNumber then (trigger.unchanged true, trigger)
  else observeNew thresholds trigger sample

end Observe

/-! ## Actions and records -/

/-- `ClutchAction`. -/
inductive ClutchAction
  | freeze | captureArmReference | startHandReacquisition | update
  deriving DecidableEq, Repr

/-- `ClutchTransition`, with the states themselves for their names. -/
structure ClutchTransition (σ : Type*) where
  timestampMonotonicNs : ℤ
  previous : σ
  current : σ
  reason : String
  deriving DecidableEq, Repr

/-- `ClutchFault`. -/
structure ClutchFault where
  timestampMonotonicNs : ℤ
  channel : String
  reason : String
  deriving DecidableEq, Repr

/-- The sample was received after the fault. -/
def ClutchFault.precedes (fault : ClutchFault) (sample : AnalogClutchSample α) : Bool :=
  decide (fault.timestampMonotonicNs < sample.hostReceiveMonotonicNs)

/-- The constructor arguments that the machines use; `staleAfterNs` is
    `_stale_ns(stale_after_s)`. -/
structure ClutchConfig (α : Type*) [LinearOrder α] where
  staleAfterNs : ℕ
  thresholds : Thresholds α

/-! ## What an observation says -/

section Lemmas

variable [LinearOrder α] {thresholds : Thresholds α} {trigger : AnalogHoldToRun}
  {sample : AnalogClutchSample α}

variable {pressed : Option Bool}

theorem debounce_of_pressed {value : α}
    (h : thresholds.pressedAt ≤ value) : debounce thresholds pressed value = some true := by
  rw [debounce, if_pos h]

theorem debounce_of_released {value : α}
    (h : value ≤ thresholds.releasedAt) : debounce thresholds pressed value = some false := by
  have hlt : ¬thresholds.pressedAt ≤ value :=
    not_le.mpr (h.trans_lt thresholds.released_lt_pressed)
  rw [debounce, if_neg hlt, if_pos h]

theorem debounce_eq_true {value : α}
    (h : debounce thresholds pressed value = some true) (hp : pressed ≠ some true) :
    thresholds.pressedAt ≤ value := by
  unfold debounce at h
  split_ifs at h with hpressed
  · exact hpressed
  · exact absurd h nofun
  · exact absurd h hp

theorem debounce_eq_false {value : α}
    (h : debounce thresholds pressed value = some false) (hp : pressed ≠ some false) :
    value ≤ thresholds.releasedAt := by
  unfold debounce at h
  split_ifs at h with hpressed hreleased
  · exact absurd h nofun
  · exact hreleased
  · exact absurd h hp

theorem observe_duplicate (h : trigger.lastSequence = some sample.sequenceNumber) :
    observe thresholds trigger sample true = (trigger.unchanged true, trigger) := by
  simp [observe, h]

theorem observe_new (h : trigger.lastSequence ≠ some sample.sequenceNumber) :
    observe thresholds trigger sample true = observeNew thresholds trigger sample := by
  simp [observe, h]

/-- An observation reports the state it leaves. -/
theorem observe_pressed (fresh : Bool) : (observe thresholds trigger sample fresh).1.pressed =
    (observe thresholds trigger sample fresh).2.pressed := by
  unfold observe
  split_ifs <;> rfl

theorem observe_valid (fresh : Bool) :
    (observe thresholds trigger sample fresh).1.valid = fresh := by
  unfold observe
  split_ifs with hfresh hlast
  · simpa [AnalogHoldToRun.unchanged] using hfresh.symm
  · simpa [AnalogHoldToRun.unchanged] using hfresh
  · simpa [observeNew] using hfresh

variable {fresh : Bool}

theorem observe_released
    (h : (observe thresholds trigger sample fresh).2.pressed = some false)
    (hp : trigger.pressed ≠ some false) :
    fresh = true ∧ trigger.lastSequence ≠ some sample.sequenceNumber ∧
      sample.value ≤ thresholds.releasedAt := by
  unfold observe at h
  split_ifs at h with hfresh hlast
  · exact absurd h hp
  · exact absurd h hp
  · exact ⟨by simpa using hfresh, hlast, debounce_eq_false h hp⟩

/-- A pressed trigger stays so unless a release is observed. -/
theorem observe_held (hp : trigger.pressed = some true)
    (h : (observe thresholds trigger sample fresh).2.pressed ≠ some false) :
    (observe thresholds trigger sample fresh).2.pressed = some true := by
  unfold observe at h ⊢
  split_ifs at h ⊢ with hfresh hlast
  · exact hp
  · exact hp
  · show debounce thresholds trigger.pressed sample.value = some true
    have hreleased : debounce thresholds trigger.pressed sample.value ≠ some false := h
    unfold debounce at hreleased ⊢
    split_ifs at hreleased ⊢
    · rfl
    · exact absurd rfl hreleased
    · exact hp

/-- A rising edge is a new press of a trigger that was released. -/
theorem rising_edge
    (h : (observe thresholds trigger sample fresh).1.risingEdge = true) :
    fresh = true ∧ trigger.lastSequence ≠ some sample.sequenceNumber ∧
      trigger.pressed = some false ∧ thresholds.pressedAt ≤ sample.value := by
  unfold observe at h
  split_ifs at h with hfresh hlast
  · exact absurd h (by simp [AnalogHoldToRun.unchanged])
  · exact absurd h (by simp [AnalogHoldToRun.unchanged])
  · simp only [observeNew, Bool.and_eq_true, decide_eq_true_eq] at h
    obtain ⟨⟨-, hprevious⟩, hpressed⟩ := h
    exact ⟨by simpa using hfresh, hlast, hprevious,
      debounce_eq_true hpressed (by simp [hprevious])⟩

theorem rising_pressed
    (h : (observe thresholds trigger sample fresh).1.risingEdge = true) :
    (observe thresholds trigger sample fresh).2.pressed = some true := by
  obtain ⟨rfl, hnew, -, hpressed⟩ := rising_edge h
  rw [observe_new hnew]
  exact debounce_of_pressed hpressed

end Lemmas

end HandLab.Clutch
