import HandLab.Lib.Run
import HandLab.Shaper.Engagement
import HandLab.Shaper.Frames

/-!
# The wrapper and its shaper

`EngagementJointShaperV1` takes its state from the code of a call, or from the mode of an
output, while the shaper in it moves on by itself.

* `ReferenceJointShaperV1.replaceTarget_ok`, `requestControlledStop_cases`, `tick_cases`:
  what a call does to the mode and to the time of the last tick.
* `Lockstep`: the state stands for the mode, and the next tick is due 8 ms after the last.
* `wrapper_lockstep`: it holds after every sequence of calls; `kHardStopped` is final, and
  nothing is output in another state than the three of an engagement.
-/

namespace HandLab.Shaper

open HandLab.Lib HandLab.CommandAbi

variable {δ : Type*} [CMath δ]

/-! ## The shaper -/

namespace ReferenceJointShaperV1

variable {s s' : ReferenceJointShaperV1 δ}

/-- The mode and the time of the last tick are the same. -/
def SameClock (s s' : ReferenceJointShaperV1 δ) : Prop :=
  s'.mode = s.mode ∧ s'.lastTickNs = s.lastTickNs

omit [CMath δ] in
theorem WithMotion.sameClock (h : s.WithMotion s') : s.SameClock s' := by
  unfold WithMotion at h
  rw [h]
  exact ⟨rfl, rfl⟩

omit [CMath δ] in
theorem WithPlans.sameClock (h : s.WithPlans s') : s.SameClock s' := by
  unfold WithPlans at h
  rw [h]
  exact ⟨rfl, rfl⟩

theorem initializeForNextTick_ok {measured : MeasuredJointStateV1 δ}
    {limits : JointDynamicLimitsV1 δ} {nowNs : ℤ}
    (h : (s.initializeForNextTick measured limits nowNs).1.code = .ok) :
    (s.initializeForNextTick measured limits nowNs).2.mode = .activeTracking ∧
      (s.initializeForNextTick measured limits nowNs).2.lastTickNs = nowNs := by
  revert h
  unfold initializeForNextTick initializeAt
  dsimp only
  by_cases hvalid : (!(validateInitialize measured limits nowNs).ok) = true
  · rw [if_pos hvalid]
    exact fun h => absurd h nofun
  · rw [if_neg hvalid]
    exact fun _ => ⟨rfl, rfl⟩

theorem failClosed_ne_ok (validation : ValidationResult) (reason : StopReason) (nowNs : ℤ) :
    (s.failClosed validation reason nowNs).1.code ≠ .ok := nofun

theorem acceptTarget_ok {target : AcceptedJointTargetV1 δ} {nowNs : ℤ}
    (h : (s.acceptTarget target nowNs).1.code = .ok) :
    s.SameClock (s.acceptTarget target nowNs).2 := by
  revert h
  unfold acceptTarget
  split
  · exact fun _ => ⟨rfl, rfl⟩
  split
  · exact fun h => absurd h (failClosed_ne_ok _ _ _)
  split
  · exact fun h => absurd h (failClosed_ne_ok _ _ _)
  split
  · dsimp only
    split
    · exact fun h => absurd h (failClosed_ne_ok _ _ _)
    · exact fun _ => ⟨rfl, rfl⟩
  · exact fun _ => ⟨rfl, rfl⟩

/-- A target that is taken. -/
theorem replaceTarget_ok {target : AcceptedJointTargetV1 δ} {nowNs : ℤ}
    (h : (s.replaceTarget target nowNs).1.code = .ok) :
    s.SameClock (s.replaceTarget target nowNs).2 := by
  revert h
  unfold replaceTarget
  split
  · exact fun h => absurd h nofun
  dsimp only
  split
  · exact fun h => absurd h (failClosed_ne_ok _ _ _)
  · exact acceptTarget_ok

/-- A shaper that tracks begins to brake, finds no plan, or refuses. -/
theorem requestControlledStop_cases (hmode : s.mode = .activeTracking)
    (releaseSequence : UInt64) (reason : StopReason) (nowNs : ℤ) :
    ((s.requestControlledStop releaseSequence reason nowNs).1.code = .ok ∧
      (s.requestControlledStop releaseSequence reason nowNs).2.mode = .controlledBraking ∧
      (s.requestControlledStop releaseSequence reason nowNs).2.lastTickNs = s.lastTickNs) ∨
    (s.requestControlledStop releaseSequence reason nowNs).1.code = .planningFailed ∨
    ((s.requestControlledStop releaseSequence reason nowNs).1.code = .invalidState ∧
      (s.requestControlledStop releaseSequence reason nowNs).2 = s) := by
  unfold requestControlledStop
  rw [if_neg (by simp [hmode])]
  split
  · exact .inr (.inr ⟨rfl, rfl⟩)
  dsimp only
  split
  · exact .inr (.inl rfl)
  · exact .inl ⟨rfl, rfl, s.planStop_frame.sameClock.2⟩

def outputMode? : ShaperMode → Option OutputMode
  | .activeTracking => some .activeTracking
  | .controlledBraking => some .controlledBraking
  | .stopped => some .stopped
  | .uninitialized | .hardStopped => none

/-- A tick that hands out a command counts for the clock, and the command has the mode
    of the shaper; another one leaves the empty command. -/
def Ticks (s : ReferenceJointShaperV1 δ) (outcome : TickOutcome δ) : Prop :=
  (outcome.1.code ≠ .ok ∧ outcome.1.code ≠ .completed ∧ outcome.2.1 = .zero) ∨
    ((outcome.1.code = .ok ∨ outcome.1.code = .completed) ∧
      outputMode? outcome.2.2.mode = some outcome.2.1.outputMode ∧
      outcome.2.2.lastTickNs = s.lastTickNs + referencePeriodNs)

theorem tick_cases (nowNs : ℤ) : s.Ticks (s.tick nowNs) := by
  have hterminate (s' : ReferenceJointShaperV1 δ) (reason : StopReason) :
      s.Ticks (s'.terminate reason nowNs) := .inl ⟨nofun, nofun, rfl⟩
  unfold tick
  split
  · exact .inl ⟨nofun, nofun, rfl⟩
  rename_i hrunning
  split
  · exact .inl ⟨nofun, nofun, rfl⟩
  rename_i hinitialized
  split
  · exact hterminate s _
  rename_i hgrid
  have hnow : nowNs = s.lastTickNs + referencePeriodNs := by
    have := not_ne_iff.mp (not_or.mp hgrid).2
    omega
  split
  · rename_i hmode
    unfold tickTracking
    split
    · exact hterminate s _
    split
    · exact hterminate s _
    dsimp only
    split
    · exact hterminate _ _
    · have hmoved := (s.trackAxes_frame (axes s.dof)).sameClock.1.trans hmode
      exact .inr ⟨.inl rfl, congrArg outputMode? hmoved, hnow⟩
  rename_i htracking
  split
  · rename_i hmode
    unfold tickBraking
    dsimp only
    split
    · exact hterminate _ _
    · have hmoved := (s.brakeAxes_frame (axes s.dof)).sameClock.1.trans hmode
      split_ifs
      · exact .inr ⟨.inr rfl, rfl, hnow⟩
      · exact .inr ⟨.inl rfl, congrArg outputMode? hmoved, hnow⟩
  · rename_i hbraking
    have hmode : s.mode = .stopped := by
      cases h : s.mode <;> simp_all
    exact .inr ⟨.inr rfl, congrArg outputMode? hmode, hnow⟩

end ReferenceJointShaperV1

/-! ## The wrapper -/

def EngagementShaperState.mode? : EngagementShaperState → Option ShaperMode
  | .armed | .activeTracking => some .activeTracking
  | .controlledBraking => some .controlledBraking
  | .stopped => some .stopped
  | .waitingForEngagement | .hardStopped => none

/-- A public call that changes the wrapper. A tick has an `output` that may be null. -/
inductive EngagementCall (δ : Type*)
  | initializeEngagement (measured : MeasuredJointStateV1 δ) (limits : JointDynamicLimitsV1 δ)
      (firstTarget : AcceptedJointTargetV1 δ) (validationNowNs : ℤ)
  | replaceTarget (target : AcceptedJointTargetV1 δ) (gridNowNs : ℤ)
  | requestControlledStop (releaseSequence : UInt64) (reason : StopReason) (gridNowNs : ℤ)
  | tick (gridNowNs : ℤ) (output : Option (ShapedJointCommandV1 δ))
  | hardStop (reason : StopReason) (nowNs : ℤ)

namespace EngagementJointShaperV1

/-- The states of an engagement. -/
def Engaged (s : EngagementJointShaperV1 δ) : Prop :=
  s.state = .armed ∨ s.state = .activeTracking ∨ s.state = .controlledBraking

/-- `Tick` (lines 103–131) with a null `output`, which the inner shaper refuses before it
    looks at anything else. -/
def tickNull (s : EngagementJointShaperV1 δ) : EngagementJointShaperV1 δ :=
  if s.shaper.isNone ∨ (!s.onGrid ∧ s.state ≠ .controlledBraking) then s else s.terminated

/-- The wrapper after a call. -/
def perform (s : EngagementJointShaperV1 δ) : EngagementCall δ → EngagementJointShaperV1 δ
  | .initializeEngagement measured limits firstTarget validationNowNs =>
    (s.initializeEngagement measured limits firstTarget validationNowNs).2
  | .replaceTarget target gridNowNs => (s.replaceTarget target gridNowNs).2
  | .requestControlledStop releaseSequence reason gridNowNs =>
    (s.requestControlledStop releaseSequence reason gridNowNs).2
  | .tick gridNowNs (some written) => (s.tick gridNowNs written).2.2
  | .tick _ none => s.tickNull
  | .hardStop reason nowNs => s.hardStop reason nowNs

/-- The wrapper and its shaper agree. -/
structure Lockstep (s : EngagementJointShaperV1 δ) : Prop where
  corresponds : ∀ mode, s.state.mode? = some mode → ∃ r, s.shaper = some r ∧ r.mode = mode
  waiting : s.state = .waitingForEngagement → s.shaper = none
  hardStopped : ∀ r, s.shaper = some r → r.mode = .hardStopped → s.state = .hardStopped
  nextTick : s.Engaged → ∀ r, s.shaper = some r →
    s.nextTickMonotonicNs = r.lastTickNs + engagementShaperPeriodNs

section Step

variable {s : EngagementJointShaperV1 δ}

omit [CMath δ] in
theorem lockstep_of_hardStopped (h : s.state = .hardStopped) : s.Lockstep where
  corresponds mode hmode := by simp [h, EngagementShaperState.mode?] at hmode
  waiting hwaiting := by simp [h] at hwaiting
  hardStopped _ _ _ := h
  nextTick hengaged := by simp [Engaged, h] at hengaged

omit [CMath δ] in
theorem Lockstep.of_mode {r : ReferenceJointShaperV1 δ} (hr : s.shaper = some r)
    (hmode : s.state.mode? = some r.mode)
    (hnext : s.Engaged → s.nextTickMonotonicNs = r.lastTickNs + engagementShaperPeriodNs) :
    s.Lockstep where
  corresponds mode h := ⟨r, hr, Option.some.inj (hmode.symm.trans h)⟩
  waiting hwaiting := by simp [hwaiting, EngagementShaperState.mode?] at hmode
  hardStopped r' hr' hstopped := by
    obtain rfl := Option.some.inj (hr.symm.trans hr')
    rw [hstopped] at hmode
    cases hs : s.state <;> simp [hs, EngagementShaperState.mode?] at hmode ⊢
  nextTick hengaged r' hr' := by
    obtain rfl := Option.some.inj (hr.symm.trans hr')
    exact hnext hengaged

omit [CMath δ] in
theorem engaged_of_onGrid (h : s.onGrid = true) : s.Engaged ∧
    s.state.mode? = some .activeTracking := by
  unfold onGrid at h
  simp only [Bool.and_eq_true, Bool.or_eq_true, decide_eq_true_eq] at h
  rcases h.2 with h | h <;> simp [Engaged, h, EngagementShaperState.mode?]

omit [CMath δ] in
/-- The inner shaper of a wrapper on its grid. -/
theorem Lockstep.onGrid (h : s.Lockstep) (hgrid : s.onGrid = true)
    {r : ReferenceJointShaperV1 δ} (hr : s.shaper = some r) : r.mode = .activeTracking := by
  obtain ⟨r', hr', hmode⟩ := h.corresponds _ (engaged_of_onGrid hgrid).2
  obtain rfl := Option.some.inj (hr.symm.trans hr')
  exact hmode

theorem initializeEngagement_lockstep (h : s.Lockstep) (measured : MeasuredJointStateV1 δ)
    (limits : JointDynamicLimitsV1 δ) (firstTarget : AcceptedJointTargetV1 δ)
    (validationNowNs : ℤ) :
    (s.initializeEngagement measured limits firstTarget validationNowNs).2.Lockstep := by
  unfold initializeEngagement
  split
  · exact h
  split
  · exact lockstep_of_hardStopped rfl
  unfold startShaper
  extract_lets initialized started
  split
  · exact lockstep_of_hardStopped rfl
  rename_i hok
  have hstarted : started.1.code = .ok := not_not.mp hok
  unfold started at hstarted ⊢
  split at hstarted
  · contradiction
  rename_i hinitialized
  rw [if_neg hinitialized]
  -- the first target leaves the clock of the new shaper alone
  obtain ⟨hmode, hlast⟩ := ReferenceJointShaperV1.replaceTarget_ok hstarted
  obtain ⟨hactive, hnow⟩ :=
    ReferenceJointShaperV1.initializeForNextTick_ok (not_not.mp hinitialized)
  exact .of_mode rfl (congrArg some (hmode.trans hactive).symm)
    fun _ => congrArg (· + engagementShaperPeriodNs) (hlast.trans hnow).symm

theorem replaceTarget_lockstep (h : s.Lockstep) (target : AcceptedJointTargetV1 δ)
    (gridNowNs : ℤ) : (s.replaceTarget target gridNowNs).2.Lockstep := by
  unfold replaceTarget
  split
  · exact h
  rename_i r hr
  split
  · exact h
  rename_i hguard
  have hgrid : s.onGrid = true := by simpa using (not_or.mp hguard).1
  dsimp only
  split
  · exact lockstep_of_hardStopped rfl
  rename_i hok
  have hclock := ReferenceJointShaperV1.replaceTarget_ok (not_not.mp hok)
  refine .of_mode rfl ?_ fun hengaged => ?_
  · rw [hclock.1, h.onGrid hgrid hr]
    exact (engaged_of_onGrid hgrid).2
  · rw [hclock.2]
    exact h.nextTick hengaged r hr

theorem requestControlledStop_lockstep (h : s.Lockstep) (releaseSequence : UInt64)
    (reason : StopReason) (gridNowNs : ℤ) :
    (s.requestControlledStop releaseSequence reason gridNowNs).2.Lockstep := by
  unfold requestControlledStop
  split
  · exact h
  rename_i r hr
  split
  · exact h
  rename_i hguard
  have hgrid : s.onGrid = true := by simpa using (not_or.mp hguard).1
  have hnext := h.nextTick (engaged_of_onGrid hgrid).1 r hr
  dsimp only
  rcases r.requestControlledStop_cases (h.onGrid hgrid hr) releaseSequence reason gridNowNs with
    ⟨hcode, hmode, hlast⟩ | hcode | ⟨hcode, hsame⟩
  · rw [if_pos (.inl hcode)]
    refine .of_mode rfl (congrArg some hmode.symm) fun _ => ?_
    rw [hlast]
    exact hnext
  · rw [if_neg (by simp [hcode]), if_pos hcode]
    exact lockstep_of_hardStopped rfl
  · rw [if_neg (by simp [hcode]), if_neg (by simp [hcode]), hsame]
    refine .of_mode rfl ?_ fun _ => hnext
    rw [h.onGrid hgrid hr]
    exact (engaged_of_onGrid hgrid).2

/-- A tick takes the state from the mode of the output. -/
theorem tick_lockstep (h : s.Lockstep) (gridNowNs : ℤ) (written : ShapedJointCommandV1 δ) :
    (s.tick gridNowNs written).2.2.Lockstep := by
  unfold tick
  split
  · exact h
  rename_i r hr
  split
  · exact h
  rename_i hguard
  have hengaged : s.Engaged := by
    by_cases hgrid : s.onGrid = true
    · exact (engaged_of_onGrid hgrid).1
    · by_cases hbraking : s.state = .controlledBraking
      · exact .inr (.inr hbraking)
      · exact absurd ⟨by simpa using hgrid, hbraking⟩ hguard
  have hnext := h.nextTick hengaged r hr
  dsimp only
  rcases ReferenceJointShaperV1.tick_cases (s := r) gridNowNs with ⟨hok, hcompleted, -⟩ |
    ⟨hcode, hmode, hlast⟩
  · rw [if_pos ⟨hok, hcompleted⟩]
    exact lockstep_of_hardStopped rfl
  · have hlast' : s.nextTickMonotonicNs + engagementShaperPeriodNs =
        (r.tick gridNowNs).2.2.lastTickNs + engagementShaperPeriodNs := by
      rw [hlast, hnext]
      rfl
    rw [if_neg (by rcases hcode with hcode | hcode <;> simp [hcode])]
    cases hinner : (r.tick gridNowNs).2.2.mode with
    | uninitialized => simp [hinner, ReferenceJointShaperV1.outputMode?] at hmode
    | hardStopped => simp [hinner, ReferenceJointShaperV1.outputMode?] at hmode
    | activeTracking =>
      have hmode : (r.tick gridNowNs).2.1.outputMode = .activeTracking := by
        simpa [hinner, ReferenceJointShaperV1.outputMode?] using hmode.symm
      rw [if_neg (by simp [hmode]), if_neg (by simp [hmode])]
      exact .of_mode rfl (congrArg some hinner.symm) fun _ => hlast'
    | controlledBraking =>
      have hmode : (r.tick gridNowNs).2.1.outputMode = .controlledBraking := by
        simpa [hinner, ReferenceJointShaperV1.outputMode?] using hmode.symm
      rw [if_neg (by simp [hmode]), if_pos hmode]
      exact .of_mode rfl (congrArg some hinner.symm) fun _ => hlast'
    | stopped =>
      have hmode : (r.tick gridNowNs).2.1.outputMode = .stopped := by
        simpa [hinner, ReferenceJointShaperV1.outputMode?] using hmode.symm
      rw [if_pos hmode]
      exact .of_mode rfl (congrArg some hinner.symm) fun hengaged => by simp [Engaged] at hengaged

/-- **Step.** -/
theorem perform_lockstep (call : EngagementCall δ) (h : s.Lockstep) :
    (s.perform call).Lockstep := by
  cases call with
  | initializeEngagement measured limits firstTarget now =>
    exact initializeEngagement_lockstep h measured limits firstTarget now
  | replaceTarget target now => exact replaceTarget_lockstep h target now
  | requestControlledStop releaseSequence reason now =>
    exact requestControlledStop_lockstep h releaseSequence reason now
  | tick now output =>
    cases output with
    | some written => exact tick_lockstep h now written
    | none =>
      change s.tickNull.Lockstep
      unfold tickNull
      split
      · exact h
      · exact lockstep_of_hardStopped rfl
  | hardStop reason now => exact lockstep_of_hardStopped rfl

/-- Without an engagement a tick is refused. -/
theorem tick_of_not_engaged (h : ¬s.Engaged) (gridNowNs : ℤ) (written : ShapedJointCommandV1 δ) :
    s.tick gridNowNs written = (engagementResult .invalidState, written, s) := by
  unfold tick
  split
  · rfl
  · refine if_pos ⟨?_, fun hbraking => h (.inr (.inr hbraking))⟩
    simpa using fun hgrid => h (engaged_of_onGrid hgrid).1

theorem tick_failed (gridNowNs : ℤ) (written : ShapedJointCommandV1 δ)
    (hok : (s.tick gridNowNs written).1.code ≠ .ok)
    (hcompleted : (s.tick gridNowNs written).1.code ≠ .completed) :
    (s.tick gridNowNs written).2.1 = written ∨ (s.tick gridNowNs written).2.1 = .zero := by
  revert hok hcompleted
  unfold tick
  split
  · exact fun _ _ => .inl rfl
  split
  · exact fun _ _ => .inl rfl
  rename_i r _ _
  dsimp only
  rcases ReferenceJointShaperV1.tick_cases (s := r) gridNowNs with ⟨hok, hcompleted, hzero⟩ |
    ⟨hcode, -⟩
  · rw [if_pos ⟨hok, hcompleted⟩]
    exact fun _ _ => .inr hzero
  · intro hok hcompleted
    split_ifs at hok hcompleted <;> exact absurd hcode (not_or.mpr ⟨hok, hcompleted⟩)

theorem perform_hardStopped (h : s.state = .hardStopped) (call : EngagementCall δ) :
    (s.perform call).state = .hardStopped := by
  have hgrid : s.onGrid = false := by simp [onGrid, h]
  cases call with
  | initializeEngagement measured limits firstTarget now =>
    change (s.initializeEngagement measured limits firstTarget now).2.state = .hardStopped
    unfold initializeEngagement
    rw [if_pos (by simp [h])]
    exact h
  | replaceTarget target now =>
    change (s.replaceTarget target now).2.state = .hardStopped
    unfold replaceTarget
    split
    · exact h
    · rw [if_pos (.inl (by simp [hgrid]))]
      exact h
  | requestControlledStop releaseSequence reason now =>
    change (s.requestControlledStop releaseSequence reason now).2.state = .hardStopped
    unfold requestControlledStop
    split
    · exact h
    · rw [if_pos (.inl (by simp [hgrid]))]
      exact h
  | tick now output =>
    cases output with
    | some written =>
      change (s.tick now written).2.2.state = .hardStopped
      rw [tick_of_not_engaged (by simp [Engaged, h])]
      exact h
    | none =>
      change s.tickNull.state = .hardStopped
      unfold tickNull
      split
      · exact h
      · rfl
  | hardStop reason now => rfl

end Step

/-- The wrapper after a sequence of calls. -/
def afterCalls (calls : List (EngagementCall δ)) : EngagementJointShaperV1 δ :=
  run perform {} calls

omit [CMath δ] in
theorem lockstep_init : ({} : EngagementJointShaperV1 δ).Lockstep where
  corresponds mode h := by simp [EngagementShaperState.mode?] at h
  waiting _ := rfl
  hardStopped r hr := by simp at hr
  nextTick h := by simp [Engaged] at h

/-- **The wrapper and its shaper.** -/
theorem wrapper_lockstep (calls : List (EngagementCall δ)) :
    (afterCalls calls).Lockstep ∧
    (∀ later, (afterCalls calls).state = .hardStopped →
      (afterCalls (calls ++ later)).state = .hardStopped) ∧
    ∀ gridNowNs written,
      (¬(afterCalls calls).Engaged → (afterCalls calls).tick gridNowNs written =
        (engagementResult .invalidState, written, afterCalls calls)) ∧
      (((afterCalls calls).tick gridNowNs written).1.code ≠ .ok →
        ((afterCalls calls).tick gridNowNs written).1.code ≠ .completed →
        ((afterCalls calls).tick gridNowNs written).2.1 = written ∨
          ((afterCalls calls).tick gridNowNs written).2.1 = .zero) := by
  refine ⟨run_invariant (fun s call h => perform_lockstep call h) lockstep_init calls, ?_, ?_⟩
  · intro later hstopped
    unfold afterCalls
    rw [run_append]
    exact run_invariant (P := fun s : EngagementJointShaperV1 δ => s.state = .hardStopped)
      (fun s call h => perform_hardStopped h call) hstopped later
  · exact fun gridNowNs written => ⟨fun h => tick_of_not_engaged h gridNowNs written,
      tick_failed gridNowNs written⟩

end EngagementJointShaperV1

end HandLab.Shaper
