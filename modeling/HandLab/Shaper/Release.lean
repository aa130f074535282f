import HandLab.Lib.Run
import HandLab.Shaper.Neutralize
import HandLab.Shaper.Frames

/-!
# The release of the clutch

When `RequestControlledStop` finds a plan, in exact real arithmetic
(`native/teleop_shaping/src/reference_joint_shaper.cpp`, lines 470–541). A shaper that tracks
moves within its dynamic limits (`Dynamic.after`), so a stop with direct plans is planned if and
only if the axes can be synchronized or neutralized (`planStop_iff`).

* `release_braked_iff`: when a release is braked.
-/

namespace HandLab.Shaper

open HandLab.Lib HandLab.CommandAbi Double CMath

namespace ReferenceJointShaperV1

/-! ## The loops of the planning -/

section Planning

variable {δ : Type*} [CMath δ] {s s' : ReferenceJointShaperV1 δ}

omit [CMath δ] in
theorem WithPlans.axis (h : s.WithPlans s') (i : Fin 8) :
    s'.axisLimits i = s.axisLimits i ∧ s'.axisState i = s.axisState i := by
  unfold WithPlans at h
  rw [h]
  exact ⟨rfl, rfl⟩

omit [CMath δ] in
theorem WithPlans.dof (h : s.WithPlans s') : s'.dof = s.dof := by
  unfold WithPlans at h
  rw [h]

/-- The direct planner accepts axis `i`. -/
def Direct (s : ReferenceJointShaperV1 δ) (i : Fin 8) : Prop :=
  (planBrakeAxis (s.axisLimits i) (s.axisState i)).2 = true

/-- What the neutralizing planner records of axis `i`. -/
def neutralFailure? (s : ReferenceJointShaperV1 δ) (i : Fin 8) : Option BrakePlanningFailure :=
  (planAccelerationNeutralizedBrakeAxis (s.axisLimits i) (s.axisState i)).2

theorem WithPlans.neutralFailure? (h : s.WithPlans s') (i : Fin 8) :
    s'.neutralFailure? i = s.neutralFailure? i := by
  unfold ReferenceJointShaperV1.neutralFailure?
  rw [(h.axis i).1, (h.axis i).2]

theorem neutralizeAxis_iff (i : Fin 8) :
    (s.neutralizeAxis i).2 = true ↔ s.neutralFailure? i = none := by
  unfold neutralizeAxis ReferenceJointShaperV1.neutralFailure?
  dsimp only
  cases (planAccelerationNeutralizedBrakeAxis (s.axisLimits i) (s.axisState i)).2 with
  | none => exact iff_of_true rfl rfl
  | some failure => exact iff_of_false Bool.false_ne_true nofun

/-- The last resort of a stop. -/
theorem neutralizeAxes_iff (l : List (Fin 8)) :
    (neutralizeAxes l s).2 = true ↔ ∀ i ∈ l, s.neutralFailure? i = none := by
  induction l generalizing s with
  | nil => simp [neutralizeAxes]
  | cons i rest ih =>
    have hframe := s.neutralizeAxis_frame i
    have hcount : s.WithPlans (s.neutralizeAxis i).1.countNeutralized := hframe.trans rfl
    rw [neutralizeAxes, List.forall_mem_cons, ← neutralizeAxis_iff]
    cases hplanned : (s.neutralizeAxis i).2 with
    | false =>
      rw [if_pos (by rfl), hplanned]
      exact iff_of_false Bool.false_ne_true fun h => absurd h.1 Bool.false_ne_true
    | true =>
      rw [if_neg (by decide), ih]
      refine Iff.trans ?_ (and_iff_right rfl).symm
      refine forall_congr' fun j => imp_congr_right fun _ => ?_
      split
      · rw [hcount.neutralFailure?]
      · rw [hframe.neutralFailure?]

/-- The first loop, where every axis has a direct plan. -/
theorem planAxes_direct (l : List (Fin 8)) (hdirect : ∀ i ∈ l, s.Direct i) :
    (planAxes l s).2 = true ∧ (planAxes l s).1.accelerationNeutralizationAxisCount =
      s.accelerationNeutralizationAxisCount := by
  induction l generalizing s with
  | nil => exact ⟨rfl, rfl⟩
  | cons i rest ih =>
    have hfirst : (planBrakeAxis (s.axisLimits i) (s.axisState i)).2 = true :=
      hdirect i List.mem_cons_self
    rw [planAxes]
    dsimp only
    rw [if_pos hfirst]
    exact ih fun j hj => hdirect j (List.mem_cons_of_mem i hj)

def directPlans (s : ReferenceJointShaperV1 δ) : ReferenceJointShaperV1 δ :=
  (planAxes (axes s.dof) { s with
    brakePlanningFailure := .none
    brakePlanningFailureAxis := maxDof
    accelerationNeutralizationAxisCount := 0 }).1

/-- `SynchronizeBrakeAxis` brings every axis to the common duration. -/
def Synchronizable (s : ReferenceJointShaperV1 δ) : Prop :=
  (synchronizeAxes s.directPlans.synchronizedDuration (axes s.dof) s.directPlans).2 = true

/-- **A stop is planned** if the axes can be synchronized or neutralized. -/
theorem planStop_iff (hdirect : ∀ i ∈ axes s.dof, s.Direct i) :
    s.planStop.2 = true ↔
      s.Synchronizable ∨ ∀ i ∈ axes s.dof, s.neutralFailure? i = none := by
  set cleared : ReferenceJointShaperV1 δ := { s with
    brakePlanningFailure := .none
    brakePlanningFailureAxis := maxDof
    accelerationNeutralizationAxisCount := 0 } with hcleared
  have hclear : s.WithPlans cleared := rfl
  have hplans : s.WithPlans s.directPlans := hclear.trans (cleared.planAxes_frame _)
  obtain ⟨hplanned, hcount⟩ : (planAxes (axes s.dof) cleared).2 = true ∧
      (planAxes (axes s.dof) cleared).1.accelerationNeutralizationAxisCount = 0 :=
    planAxes_direct (axes s.dof) hdirect
  have hdof : s.directPlans.dof = s.dof := hplans.dof
  have hstop : s.planStop = s.directPlans.synchronizePlans := by
    show (if !(planAxes (axes s.dof) cleared).2 then planAxes (axes s.dof) cleared
      else (planAxes (axes s.dof) cleared).1.synchronizePlans) = _
    rw [hplanned, if_neg (by decide)]
    rfl
  have hnone : ¬s.directPlans.accelerationNeutralizationAxisCount ≠ 0 := not_not_intro hcount
  rw [hstop]
  unfold synchronizePlans
  rw [if_neg hnone, hdof]
  dsimp only
  unfold Synchronizable
  by_cases hsynchronized :
      (synchronizeAxes s.directPlans.synchronizedDuration (axes s.dof) s.directPlans).2 = true
  · rw [if_pos hsynchronized]
    exact iff_of_true hsynchronized (.inl hsynchronized)
  · rw [if_neg hsynchronized, neutralizeAxes_iff, or_iff_right hsynchronized]
    have hframe := hplans.trans
      (s.directPlans.synchronizeAxes_frame s.directPlans.synchronizedDuration (axes s.dof))
    refine forall_congr' fun i => imp_congr_right fun _ => ?_
    rw [← hframe.neutralFailure?]
    exact Iff.rfl

/-- A release while the shaper tracks an accepted target. -/
theorem requestControlledStop_eq {releaseSequence : UInt64} {nowNs : ℤ}
    (hmode : s.mode = .activeTracking) (hsource : s.sourceSequence ≠ 0)
    (hrelease : s.lastInputSequence < releaseSequence) (hnow : s.lastTickNs ≤ nowNs) :
    s.requestControlledStop releaseSequence .clutchRelease nowNs =
      if !s.planStop.2 then
        (result .planningFailed, s.planStop.1.hardStop .invalidCommand nowNs)
      else (result .ok, s.planStop.1.beginBraking releaseSequence .clutchRelease nowNs) := by
  have hactive : ¬(s.mode = .controlledBraking ∨ s.mode = .stopped) := by
    rw [hmode]
    rintro (h | h) <;> exact nomatch h
  have hvalid : ¬(s.mode ≠ .activeTracking ∨ s.sourceSequence = 0 ∨
      (!isControlledReason .clutchRelease) = true ∨ releaseSequence ≤ s.lastInputSequence ∨
      nowNs < s.lastTickNs) := by
    rintro (h | h | h | h | h)
    · exact h hmode
    · exact hsource h
    · exact absurd h (by decide)
    · exact absurd h (UInt64.not_le.mpr hrelease)
    · omega
  unfold requestControlledStop
  rw [if_neg hactive, if_neg hvalid]

theorem requestControlledStop_iff {releaseSequence : UInt64} {nowNs : ℤ}
    (hmode : s.mode = .activeTracking) (hsource : s.sourceSequence ≠ 0)
    (hrelease : s.lastInputSequence < releaseSequence) (hnow : s.lastTickNs ≤ nowNs) :
    ((s.requestControlledStop releaseSequence .clutchRelease nowNs).1.code = .ok ∧
      (s.requestControlledStop releaseSequence .clutchRelease nowNs).2.mode =
        .controlledBraking) ↔ s.planStop.2 = true := by
  rw [requestControlledStop_eq hmode hsource hrelease hnow]
  cases s.planStop.2 with
  | true =>
    rw [if_neg (by decide)]
    exact iff_of_true ⟨rfl, rfl⟩ rfl
  | false =>
    rw [if_pos (by rfl)]
    exact iff_of_false (fun h => nomatch h.1) Bool.false_ne_true

end Planning

/-! ## Runs -/

/-- A call of the shaper. -/
inductive Call (δ : Type*)
  | initializeAt (measured : MeasuredJointStateV1 δ) (limits : JointDynamicLimitsV1 δ) (nowNs : ℤ)
  | initializeForNextTick (measured : MeasuredJointStateV1 δ) (limits : JointDynamicLimitsV1 δ)
      (nowNs : ℤ)
  | replaceTarget (target : AcceptedJointTargetV1 δ) (nowNs : ℤ)
  | requestControlledStop (releaseSequence : UInt64) (reason : StopReason) (nowNs : ℤ)
  | tick (nowNs : ℤ)

/-- The shaper after a call. -/
def after {δ : Type*} [CMath δ] (s : ReferenceJointShaperV1 δ) :
    Call δ → ReferenceJointShaperV1 δ
  | .initializeAt measured limits nowNs => (s.initializeAt measured limits nowNs).2
  | .initializeForNextTick measured limits nowNs =>
    (s.initializeForNextTick measured limits nowNs).2
  | .replaceTarget target nowNs => (s.replaceTarget target nowNs).2
  | .requestControlledStop releaseSequence reason nowNs =>
    (s.requestControlledStop releaseSequence reason nowNs).2
  | .tick nowNs => (s.tick nowNs).2.2

/-- Every axis in use moves within its limits. -/
def AxesDynamic (s : ReferenceJointShaperV1 ℝ) : Prop :=
  ∀ i ∈ axes s.dof, (s.axisLimits i).Dynamic (s.axisState i)

/-- A shaper that tracks moves within its limits. -/
def Dynamic (s : ReferenceJointShaperV1 ℝ) : Prop := s.mode = .activeTracking → s.AxesDynamic

section Runs

variable {s s' : ReferenceJointShaperV1 ℝ}

theorem dynamic_of_mode (h : s.mode ≠ .activeTracking) : s.Dynamic := fun hmode => absurd hmode h

/-- A call that leaves the motion alone. -/
theorem Dynamic.of_motion (h : s.Dynamic) (hmode : s'.mode = s.mode) (hdof : s'.dof = s.dof)
    (hlimits : s'.limits = s.limits) (hposition : s'.position = s.position)
    (hvelocity : s'.velocity = s.velocity) (hacceleration : s'.acceleration = s.acceleration) :
    s'.Dynamic := by
  intro hactive i hi
  rw [hdof] at hi
  have hi := h (hmode ▸ hactive) i hi
  unfold axisLimits axisState at hi ⊢
  rw [hlimits, hposition, hvelocity, hacceleration]
  exact hi

theorem dynamic_hardStop (s : ReferenceJointShaperV1 ℝ) (reason : StopReason) (nowNs : ℤ) :
    (s.hardStop reason nowNs).Dynamic :=
  dynamic_of_mode (by rw [s.hardStop_mode]; nofun)

/-! ### Initialization -/

/-- The check of an axis of the limits, where it finds an error and where not. -/
theorem validateLimitsAxis_spec (limits : JointDynamicLimitsV1 ℝ) (i : Fin 8) :
    (∀ r, validateLimitsAxis limits i = some r → r.ok = false) ∧
      (validateLimitsAxis limits i = none →
        0 < limits.maximumVelocityRadS i ∧ 0 < limits.maximumAccelerationRadS2 i ∧
          0 < limits.maximumJerkRadS3 i) := by
  unfold validateLimitsAxis
  dsimp only
  generalize List.find? _ _ = found
  cases found with
  | some entry =>
    refine ⟨fun r hr => ?_, nofun⟩
    obtain rfl := Option.some.inj hr
    rfl
  | none =>
    dsimp only
    split_ifs with hposition hvelocity hacceleration hjerk
    iterate 4
      refine ⟨fun r hr => ?_, nofun⟩
      obtain rfl := Option.some.inj hr
      rfl
    refine ⟨fun r hr => (nomatch hr), fun _ => ?_⟩
    simp only [Exact.lt_eq, Exact.zero_eq, Bool.not_eq_true', decide_eq_false_iff_not, not_lt,
      not_le] at hvelocity hacceleration hjerk
    exact ⟨hvelocity, hacceleration, hjerk⟩

/-- Accepted limits are positive. -/
theorem validateLimits_pos {limits : JointDynamicLimitsV1 ℝ}
    (h : (validateLimits limits).ok = true) {i : Fin 8} (hi : i.val < limits.dof.toNat) :
    0 < limits.maximumVelocityRadS i ∧ 0 < limits.maximumAccelerationRadS2 i ∧
      0 < limits.maximumJerkRadS3 i := by
  unfold validateLimits at h
  simp only [andThen_ok] at h
  have hnone := firstError_ok ?_ h.2.2.2 i
  · rw [if_neg (by omega)] at hnone
    exact (validateLimitsAxis_spec limits i).2 hnone
  · intro j r hr
    by_cases hunused : limits.dof.toNat ≤ j.val
    · rw [if_pos hunused] at hr
      split_ifs at hr
      obtain rfl := Option.some.inj hr
      rfl
    · rw [if_neg hunused] at hr
      exact (validateLimitsAxis_spec limits j).1 r hr

/-- An accepted initialization starts within the limits. -/
theorem axesDynamic_startAt {measured : MeasuredJointStateV1 ℝ}
    {limits : JointDynamicLimitsV1 ℝ} {nowNs : ℤ}
    (h : (validateInitialize measured limits nowNs).ok = true) :
    (startAt measured limits nowNs).AxesDynamic := by
  unfold validateInitialize at h
  simp only [andThen_ok] at h
  obtain ⟨-, hlimits, h⟩ := h
  by_cases hdof : limits.dof ≠ measured.dof
  · rw [if_pos hdof] at h
    exact absurd h (by simp)
  rw [if_neg hdof] at h
  intro i hi
  have hused : i.val < measured.dof.toNat := by
    have hi : i ∈ axes measured.dof := hi
    simpa [axes] using hi
  obtain ⟨hvelocity, hacceleration, hjerk⟩ :=
    validateLimits_pos hlimits (i := i) (by rw [not_not.mp hdof]; exact hused)
  have herror : ∀ j r, measuredAxisError? measured limits j = some r → r.ok = false := by
    intro j r hr
    unfold measuredAxisError? at hr
    split_ifs at hr
    · obtain rfl := Option.some.inj hr
      rfl
    · obtain rfl := Option.some.inj hr
      rfl
  have hnone : measuredAxisError? measured limits i = none := by
    cases hfound : (axes measured.dof).findSome? (measuredAxisError? measured limits) with
    | none => exact List.findSome?_eq_none_iff.mp hfound i hi
    | some r =>
      obtain ⟨j, -, hj⟩ := List.exists_of_findSome?_eq_some hfound
      rw [hfound, Option.getD_some, herror j r hj] at h
      exact absurd h (by simp)
  unfold measuredAxisError? at hnone
  split_ifs at hnone with hposition hmotion
  simp only [Exact.lt_eq, Exact.abs_eq, Bool.or_eq_true, decide_eq_true_eq, not_or, not_lt]
    at hmotion
  exact ⟨hvelocity, hacceleration, hjerk, hmotion.1, hmotion.2⟩

theorem Dynamic.initializeAt (h : s.Dynamic) (measured : MeasuredJointStateV1 ℝ)
    (limits : JointDynamicLimitsV1 ℝ) (nowNs : ℤ) :
    (s.initializeAt measured limits nowNs).2.Dynamic := by
  unfold ReferenceJointShaperV1.initializeAt
  dsimp only
  by_cases hvalid : (!(validateInitialize measured limits nowNs).ok) = true
  · rw [if_pos hvalid]
    exact h
  · rw [if_neg hvalid]
    exact fun _ => axesDynamic_startAt (by simpa using hvalid)

theorem Dynamic.initializeForNextTick (h : s.Dynamic) (measured : MeasuredJointStateV1 ℝ)
    (limits : JointDynamicLimitsV1 ℝ) (nowNs : ℤ) :
    (s.initializeForNextTick measured limits nowNs).2.Dynamic := by
  have hinitialized := h.initializeAt measured limits nowNs
  unfold ReferenceJointShaperV1.initializeForNextTick
  dsimp only
  split_ifs
  · exact hinitialized.of_motion rfl rfl rfl rfl rfl rfl
  · exact hinitialized

/-! ### Targets, stops and ticks -/

theorem Dynamic.acceptTarget (h : s.Dynamic) (target : AcceptedJointTargetV1 ℝ) (nowNs : ℤ) :
    (s.acceptTarget target nowNs).2.Dynamic := by
  unfold ReferenceJointShaperV1.acceptTarget
  split
  · exact h
  split
  · exact dynamic_hardStop s _ _
  cases (axes s.dof).findSome? (s.targetAxisError? target) with
  | some validation => exact dynamic_hardStop s _ _
  | none =>
    dsimp only
    split_ifs
    · exact dynamic_hardStop s _ _
    · exact h.of_motion rfl rfl rfl rfl rfl rfl
    · exact h.of_motion rfl rfl rfl rfl rfl rfl

theorem Dynamic.replaceTarget (h : s.Dynamic) (target : AcceptedJointTargetV1 ℝ) (nowNs : ℤ) :
    (s.replaceTarget target nowNs).2.Dynamic := by
  have hmarked : Dynamic { s with
      lastInputSequence := target.sequence
      livenessMonotonicNs := target.acceptedMonotonicNs } :=
    h.of_motion rfl rfl rfl rfl rfl rfl
  unfold ReferenceJointShaperV1.replaceTarget
  split
  · exact h
  dsimp only
  split
  · exact dynamic_hardStop s _ _
  · exact hmarked.acceptTarget target nowNs

theorem Dynamic.requestControlledStop (h : s.Dynamic) (releaseSequence : UInt64)
    (reason : StopReason) (nowNs : ℤ) :
    (s.requestControlledStop releaseSequence reason nowNs).2.Dynamic := by
  unfold ReferenceJointShaperV1.requestControlledStop
  split_ifs
  · exact h
  · exact h
  dsimp only
  split_ifs
  · exact dynamic_hardStop _ _ _
  · exact dynamic_of_mode nofun

/-- A value that is clipped on its way to another stays within the bound of both. -/
theorem abs_add_clip_le {x d step bound : ℝ} (hx : |x| ≤ bound) (hd : |d| ≤ bound)
    (hstep : 0 ≤ step) : |x + clip (d - x) step| ≤ bound := by
  rw [abs_le] at hx hd ⊢
  rw [clip_real]
  rcases le_total step (d - x) with hup | hup
  · rw [min_eq_left hup, max_eq_right (by linarith)]
    constructor <;> linarith
  · rw [min_eq_right hup]
    rcases le_total (d - x) (-step) with hdown | hdown
    · rw [max_eq_left hdown]
      constructor <;> linarith
    · rw [max_eq_right hdown]
      constructor <;> linarith

/-- **A tracking step** keeps an axis within its limits. -/
theorem dynamic_trackAxis {limits : AxisLimits ℝ} {a : AxisState ℝ} (h : limits.Dynamic a)
    (target targetVelocity : ℝ) : limits.Dynamic (trackAxis limits target targetVelocity a) where
  velocity_pos := h.velocity_pos
  acceleration_pos := h.acceleration_pos
  jerk_pos := h.jerk_pos
  velocity_le := abs_clip_le h.velocity_pos.le _
  acceleration_le := by
    have hperiod : (0 : ℝ) ≤ mul limits.maximumJerk periodS := by
      simp only [periodS, Exact.mul_eq, Exact.div_eq, Exact.ofRat_eq]
      have := h.jerk_pos
      push_cast
      positivity
    exact abs_add_clip_le h.acceleration_le (abs_clip_le h.acceleration_pos.le _) hperiod

theorem setAxis_axisState (i j : Fin 8) (a : AxisState ℝ) :
    (s.setAxis i a).axisState j = if j = i then a else s.axisState j := by
  unfold axisState setAxis
  by_cases h : j = i
  · subst h
    simp
  · simp [h]

/-- The tracking loop. -/
theorem AxesDynamic.trackAxes (h : s.AxesDynamic) {l : List (Fin 8)}
    (hl : ∀ i ∈ l, i ∈ axes s.dof) : (trackAxes l s).1.AxesDynamic := by
  induction l generalizing s with
  | nil => exact h
  | cons i rest ih =>
    have hmoved : (s.setAxis i (trackAxis (s.axisLimits i) (s.target i) (s.targetVelocity i)
        (s.axisState i))).AxesDynamic := by
      intro j hj
      rw [setAxis_axisState]
      by_cases hji : j = i
      · subst hji
        rw [if_pos rfl]
        exact dynamic_trackAxis (h j hj) _ _
      · rw [if_neg hji]
        exact h j hj
    rw [ReferenceJointShaperV1.trackAxes]
    split_ifs
    · exact ih hmoved fun j hj => hl j (List.mem_cons_of_mem i hj)
    · exact hmoved

theorem Dynamic.tick (h : s.Dynamic) (nowNs : ℤ) : (s.tick nowNs).2.2.Dynamic := by
  unfold ReferenceJointShaperV1.tick
  split_ifs with hhard huninitialized htiming hactive hbraking
  · exact h
  · exact h
  · exact dynamic_hardStop s _ _
  · unfold tickTracking
    split_ifs
    · exact dynamic_hardStop s _ _
    · exact dynamic_hardStop s _ _
    dsimp only
    split_ifs
    · exact dynamic_hardStop _ _ _
    · have htracked := (h hactive).trackAxes fun i hi => hi
      exact Dynamic.of_motion (fun _ => htracked) rfl rfl rfl rfl rfl rfl
  · unfold tickBraking
    dsimp only
    split_ifs
    · exact dynamic_hardStop _ _ _
    · exact dynamic_of_mode nofun
    · have hmode : (ReferenceJointShaperV1.brakeAxes (axes s.dof) s).1.mode = s.mode := by
        have hframe := s.brakeAxes_frame (axes s.dof)
        unfold WithMotion at hframe
        rw [hframe]
      refine dynamic_of_mode ?_
      show (ReferenceJointShaperV1.brakeAxes (axes s.dof) s).1.mode ≠ _
      rw [hmode, hbraking]
      nofun
  · exact h.of_motion rfl rfl rfl rfl rfl rfl

/-- **One call.** -/
theorem Dynamic.after (h : s.Dynamic) (c : Call ℝ) : (s.after c).Dynamic := by
  cases c with
  | initializeAt measured limits nowNs => exact h.initializeAt measured limits nowNs
  | initializeForNextTick measured limits nowNs => exact h.initializeForNextTick measured limits nowNs
  | replaceTarget target nowNs => exact h.replaceTarget target nowNs
  | requestControlledStop releaseSequence reason nowNs =>
    exact h.requestControlledStop releaseSequence reason nowNs
  | tick nowNs => exact h.tick nowNs

end Runs

/-- A release stops the axes by synchronized plans, or else every axis can be neutralized. -/
def Releasable (s : ReferenceJointShaperV1 ℝ) : Prop :=
  s.Synchronizable ∨ ∀ i ∈ axes s.dof, Neutralizable (s.axisLimits i) (s.axisState i)

/-- **When a release is braked**: in every state that a run of the shaper reaches while it
    tracks an accepted target, with a direct plan for every axis and every position limit
    out of reach, a release of the clutch is planned if and only if the state is
    releasable. -/
theorem release_braked_iff (calls : List (Call ℝ)) (releaseSequence : UInt64) (nowNs : ℤ) :
    let s := run after init calls
    s.mode = .activeTracking → s.sourceSequence ≠ 0 → (∀ i ∈ axes s.dof, s.Direct i) →
      (∀ i ∈ axes s.dof, s.neutralFailure? i ≠ some .positionLimit) →
      s.lastInputSequence < releaseSequence → s.lastTickNs ≤ nowNs →
      (((s.requestControlledStop releaseSequence .clutchRelease nowNs).1.code = .ok ∧
        (s.requestControlledStop releaseSequence .clutchRelease nowNs).2.mode =
          .controlledBraking) ↔ s.Releasable) := by
  intro s hmode hsource hdirect hreach hrelease hnow
  have hstart : (init : ReferenceJointShaperV1 ℝ).Dynamic :=
    dynamic_of_mode (by show ShaperMode.uninitialized ≠ _; nofun)
  have hdynamic : s.Dynamic :=
    run_invariant (P := Dynamic) (fun _ c h => Dynamic.after h c) hstart calls
  rw [requestControlledStop_iff hmode hsource hrelease hnow, planStop_iff hdirect]
  refine or_congr Iff.rfl (forall_congr' fun i => ?_)
  refine ⟨fun h hi => ?_, fun h hi => ?_⟩
  · exact (neutralize_none_iff (hdynamic hmode i hi) (hreach i hi)).mp (h hi)
  · exact (neutralize_none_iff (hdynamic hmode i hi) (hreach i hi)).mpr (h hi)

/-! ### A shaper of one axis -/

section Runs

/-- A member of an array for one axis. -/
noncomputable def oneAxis (x : ℝ) : AxisArray ℝ := fun i => if i = 0 then x else 0

/-- A measured state of one axis. -/
noncomputable def measuredAt (velocity acceleration : ℝ) : MeasuredJointStateV1 ℝ where
  header := makeHeaderV1 measuredJointStateSize
  stateSequence := 1
  safetyEpoch := 1
  measuredMonotonicNs := 0
  dof := 1
  validity := .valid
  reserved0 _ := 0
  positionRad := oneAxis 0
  velocityRadS := oneAxis velocity
  accelerationRadS2 := oneAxis acceleration

/-- Limits of one axis. -/
noncomputable def wideLimits : JointDynamicLimitsV1 ℝ where
  header := makeHeaderV1 jointDynamicLimitsSize
  dof := 1
  reserved0 _ := 0
  minimumPositionRad := oneAxis (-100)
  maximumPositionRad := oneAxis 100
  maximumVelocityRadS := oneAxis (9 / 2)
  maximumAccelerationRadS2 := oneAxis 1
  maximumJerkRadS3 := oneAxis 1

/-- A target of one axis. -/
noncomputable def targetHere : AcceptedJointTargetV1 ℝ where
  header := makeHeaderV1 acceptedJointTargetSize
  sequence := 1
  safetyEpoch := 1
  sourceMonotonicNs := 0
  acceptedMonotonicNs := 0
  validUntilMonotonicNs := 1000000000
  dof := 1
  engagement := .engaged
  validity := .accepted
  reserved0 := 0
  reasonCode := 0
  positionRad := oneAxis 0

/-- The shaper is initialized and takes a target. -/
noncomputable def engagedCalls (velocity acceleration : ℝ) : List (Call ℝ) :=
  [.initializeAt (measuredAt velocity acceleration) wideLimits 8000000,
    .replaceTarget targetHere 8000000]

theorem firstError_none {n : ℕ} {check : Fin n → Option ValidationResult}
    (h : ∀ i, check i = none) : (firstError check).ok = true := by
  have hnone : (List.finRange n).findSome? check = none :=
    List.findSome?_eq_none_iff.mpr fun i _ => h i
  rw [firstError, hnone]
  rfl

theorem header_ok (size : UInt16) : (validateHeader size (makeHeaderV1 size)).ok = true := by
  unfold validateHeader makeHeaderV1
  simp only [ne_eq, not_true_eq_false, if_false]
  exact firstError_none fun i => rfl

theorem oneAxis_ok (x : ℝ) (field : ValidationField) :
    (validateFiniteActiveZeroUnused (oneAxis x) 1 field).ok = true := by
  refine firstError_none fun i => ?_
  by_cases hi : i = 0
  · subst hi
    simp
  · simp [oneAxis, hi]

theorem axes_one : axes 1 = [0] := rfl

variable {velocity acceleration : ℝ}

theorem validateInitialize_measuredAt (hvelocity : |velocity| ≤ 9 / 2)
    (hacceleration : |acceleration| ≤ 1) :
    (validateInitialize (measuredAt velocity acceleration) wideLimits 8000000).ok = true := by
  have hmeasured : (validateMeasured (measuredAt velocity acceleration) ⟨8000000, 0, 0, 0⟩).ok =
      true := by
    unfold validateMeasured
    simp only [andThen_ok]
    refine ⟨header_ok _, rfl, rfl, firstError_none fun _ => rfl, ?_⟩
    show (ValidationResult.andThen _ (ValidationResult.andThen _ _)).ok = true
    simp only [andThen_ok]
    exact ⟨oneAxis_ok _ _, oneAxis_ok _ _, oneAxis_ok _ _⟩
  have hlimits : (validateLimits wideLimits).ok = true := by
    unfold validateLimits
    simp only [andThen_ok]
    refine ⟨header_ok _, by decide, firstError_none fun _ => rfl, firstError_none fun i => ?_⟩
    by_cases hi : i = 0
    · subst hi
      rw [if_neg (by decide)]
      unfold validateLimitsAxis
      norm_num [wideLimits, oneAxis]
    · have hval : wideLimits.dof.toNat ≤ i.val := by
        show 1 ≤ i.val
        exact Nat.one_le_iff_ne_zero.mpr fun h => hi (Fin.ext h)
      rw [if_pos hval]
      simp [wideLimits, oneAxis, hi]
  unfold validateInitialize
  simp only [andThen_ok]
  refine ⟨hmeasured, hlimits, ?_⟩
  have hdof : ¬wideLimits.dof ≠ (measuredAt velocity acceleration).dof := not_not_intro rfl
  rw [if_neg hdof]
  show (((axes 1).findSome? (measuredAxisError? (measuredAt velocity acceleration)
    wideLimits)).getD CommandAbi.ok).ok = true
  have hnone : measuredAxisError? (measuredAt velocity acceleration) wideLimits 0 = none := by
    unfold measuredAxisError?
    rw [if_neg (by norm_num [measuredAt, wideLimits, oneAxis]), if_neg]
    simp [measuredAt, wideLimits, oneAxis, hvelocity, hacceleration]
  rw [axes_one, List.findSome?_cons, hnone]
  rfl

theorem acceptTarget_targetHere {s : ReferenceJointShaperV1 ℝ} {nowNs : ℤ} (hdof : s.dof = 1)
    (hlimits : s.limits = wideLimits) (hsource : s.lastTargetSourceNs = -1) :
    s.acceptTarget targetHere nowNs = (result .ok, s.storeTarget targetHere fun _ => zero) := by
  have haccepted : ¬targetHere.validity ≠ .accepted := not_not_intro rfl
  have hinside : s.targetAxisError? targetHere 0 = none := by
    unfold targetAxisError? axisLimits
    rw [hlimits, if_neg]
    norm_num [AxisLimits.outside, wideLimits, targetHere, oneAxis]
  have hnone : (axes s.dof).findSome? (s.targetAxisError? targetHere) = none := by
    rw [hdof, axes_one, List.findSome?_cons, hinside]
    rfl
  unfold acceptTarget
  rw [if_neg (by exact nofun), if_neg haccepted, hnone]
  dsimp only
  rw [if_neg (by rw [hsource]; decide)]

/-- The shaper after these calls. -/
theorem run_engagedCalls (hvelocity : |velocity| ≤ 9 / 2)
    (hacceleration : |acceleration| ≤ 1) :
    run after init (engagedCalls velocity acceleration) =
      { startAt (measuredAt velocity acceleration) wideLimits 8000000 with
        lastInputSequence := 1
        livenessMonotonicNs := 0
        targetVelocity := fun _ => zero
        target := oneAxis 0
        sourceSequence := 1
        targetValidUntilNs := 1000000000
        lastTargetSourceNs := 0 } := by
  have hfirst : ((init : ReferenceJointShaperV1 ℝ).initializeAt
      (measuredAt velocity acceleration) wideLimits 8000000).2 =
        startAt (measuredAt velocity acceleration) wideLimits 8000000 := by
    unfold initializeAt
    dsimp only
    rw [validateInitialize_measuredAt hvelocity hacceleration, if_neg (by decide)]
  have hvalid : (validateTarget targetHere ⟨8000000,
      (startAt (measuredAt velocity acceleration) wideLimits 8000000).dof,
      (startAt (measuredAt velocity acceleration) wideLimits 8000000).safetyEpoch,
      (startAt (measuredAt velocity acceleration) wideLimits 8000000).lastInputSequence⟩).ok =
        true := by
    unfold validateTarget
    simp only [andThen_ok]
    exact ⟨header_ok _, rfl, rfl, oneAxis_ok 0 .position⟩
  show (((init : ReferenceJointShaperV1 ℝ).initializeAt
      (measuredAt velocity acceleration) wideLimits 8000000).2.replaceTarget targetHere
        8000000).2 = _
  rw [hfirst]
  have hactive : ¬(startAt (measuredAt velocity acceleration) wideLimits 8000000).mode ≠
      .activeTracking := not_not_intro rfl
  unfold replaceTarget
  rw [if_neg hactive]
  dsimp only
  rw [hvalid, if_neg (by decide)]
  rw [acceptTarget_targetHere rfl rfl rfl]
  rfl

/-- The limits of the axis. -/
noncomputable def wideAxis : AxisLimits ℝ := ⟨-100, 100, 9 / 2, 1, 1⟩

/-- What a release reads of the shaper. -/
theorem engaged_members (hvelocity : |velocity| ≤ 9 / 2)
    (hacceleration : |acceleration| ≤ 1) {s : ReferenceJointShaperV1 ℝ}
    (hs : s = run after init (engagedCalls velocity acceleration)) :
    (s.axisLimits 0 = wideAxis ∧ s.axisState 0 = ⟨0, velocity, acceleration⟩) ∧
      axes s.dof = [0] ∧ s.mode = .activeTracking ∧ s.sourceSequence ≠ 0 ∧
      s.lastInputSequence < 2 ∧ s.lastTickNs ≤ 8000000 := by
  rw [hs, run_engagedCalls hvelocity hacceleration]
  refine ⟨⟨rfl, rfl⟩, rfl, rfl, nofun, ?_, ?_⟩
  · show (1 : UInt64) < 2
    decide
  · show (8000000 : ℤ) - 8000000 ≤ 8000000
    decide

/-- A direct plan of the axis. -/
noncomputable def directPlan (sign first hold final : ℝ) : BrakeAxis ℝ :=
  { BrakeAxis.blank false false with
    durationS := ![first, hold, final, 0]
    jerkRadS3 := ![-sign, 0, sign, 0] }

/-- A direct plan that brings the moving axis to rest inside its position limits. -/
theorem planBrakeAxis_direct {s : AxisState ℝ} {sign first hold final x : ℝ}
    (hmoving : 1e-12 < |s.velocity|) (hsign : copysign (ofRat 1) s.velocity = sign)
    (hdurations : directDurations wideAxis (sign * s.velocity) (sign * s.acceleration) =
      (first, hold, final)) (hfirst : 0 ≤ first) (hhold : 0 ≤ hold) (hfinal : 0 ≤ final)
    (hrest : predict (directPlan sign first hold final) s = ⟨x, 0, 0⟩) (hx : |x| ≤ 100) :
    planBrakeAxis wideAxis s = (directPlan sign first hold final, true) := by
  have hstill : ¬le (Double.abs s.velocity) numericalEpsilon = true := by
    simpa using hmoving
  have hplan : ({ BrakeAxis.blank false false with
      durationS := ![Double.max zero first, Double.max zero hold, Double.max zero final, zero]
      jerkRadS3 := ![mul (neg sign) wideAxis.maximumJerk, zero,
        mul sign wideAxis.maximumJerk, zero] } : BrakeAxis ℝ) =
      directPlan sign first hold final := by
    simp [directPlan, wideAxis, Exact.max_eq, hfirst, hhold, hfinal]
  obtain ⟨hlower, hupper⟩ := abs_le.mp hx
  unfold planBrakeAxis
  dsimp only
  rw [if_neg hstill, hsign, Exact.mul_eq, Exact.mul_eq, hdurations]
  dsimp only
  rw [if_neg, hplan, hrest]
  · have htolerance (y : ℝ) : 0 ≤ 1e-8 * Max.max 1 |y| := by positivity
    simp [AxisLimits.outside, wideAxis, Exact.max_eq, hlower, hupper, htolerance]
  · have hepsilon {t : ℝ} (ht : 0 ≤ t) : -1e-12 ≤ t := le_trans (by norm_num) ht
    simp [hepsilon hfirst, hepsilon hhold, hepsilon hfinal]

/-! #### A release at the velocity limit -/

/-- The axis moves at its velocity limit, and accelerates. -/
noncomputable def cruising : AxisState ℝ := ⟨0, 9 / 2, 1⟩

/-- The direct plan, which holds the greatest deceleration for four seconds. -/
noncomputable def cruisePlan : BrakeAxis ℝ := directPlan 1 2 4 1

theorem planBrakeAxis_cruising : planBrakeAxis wideAxis cruising = (cruisePlan, true) := by
  refine planBrakeAxis_direct (x := 119 / 6) ?_ ?_ ?_ zero_le_two zero_le_four zero_le_one ?_ ?_
  · norm_num [cruising]
  · norm_num [cruising]
  · unfold directDurations
    norm_num [wideAxis, cruising]
  · show integrateConstantJerk 0 0 (integrateConstantJerk 1 1 (integrateConstantJerk 0 4
      (integrateConstantJerk (-1) 2 cruising))) = _
    norm_num [integrateConstantJerk, cruising]
  · norm_num [abs_of_pos]

/-- The common duration is seven seconds, for which a plan without a hold decelerates too
    much. -/
theorem synchronizeBrakeAxis_cruising (plan : BrakeAxis ℝ) :
    (synchronizeBrakeAxis wideAxis cruising 7 plan).2 = false := by
  have hroot : (32 : ℝ) ≤ Real.sqrt 1220 := Real.le_sqrt_of_sq_le (by norm_num)
  have hmoving : ¬le (Double.abs cruising.velocity) numericalEpsilon = true := by
    norm_num [cruising]
  have hsign : copysign (ofRat 1) cruising.velocity = (1 : ℝ) := by
    norm_num [cruising]
  unfold synchronizeBrakeAxis
  rw [if_neg (by norm_num), if_neg hmoving, hsign]
  dsimp only
  split
  · rfl
  rw [if_pos]
  clear * - hroot
  norm_num [cruising, wideAxis, Double.max]
  refine .inl (.inl (.inl ?_))
  linarith

noncomputable def cruisingShaper : ReferenceJointShaperV1 ℝ :=
  run after init (engagedCalls (9 / 2) 1)

theorem cruisingShaper_members :
    (cruisingShaper.axisLimits 0 = wideAxis ∧ cruisingShaper.axisState 0 = cruising) ∧
      axes cruisingShaper.dof = [0] ∧ cruisingShaper.mode = .activeTracking ∧
      cruisingShaper.sourceSequence ≠ 0 ∧ cruisingShaper.lastInputSequence < 2 ∧
      cruisingShaper.lastTickNs ≤ 8000000 :=
  engaged_members (abs_of_pos (by norm_num)).le (abs_of_pos one_pos).le rfl

theorem cruisingShaper_axis : cruisingShaper.axisLimits 0 = wideAxis ∧
    cruisingShaper.axisState 0 = cruising := cruisingShaper_members.1

theorem cruisingShaper_axes : axes cruisingShaper.dof = [0] := cruisingShaper_members.2.1

theorem cruising_dynamic : wideAxis.Dynamic cruising where
  velocity_pos := by norm_num [wideAxis]
  acceleration_pos := by norm_num [wideAxis]
  jerk_pos := by norm_num [wideAxis]
  velocity_le := by norm_num [wideAxis, cruising, abs_of_pos]
  acceleration_le := by norm_num [wideAxis, cruising]

/-- Ramping the acceleration down takes the axis beyond its velocity limit. -/
theorem neutralFailure?_cruising : cruisingShaper.neutralFailure? 0 = some .velocityLimit := by
  have hstored : cruising.acceleration = 0 ∨ 1e-12 < |cruising.acceleration| := by
    right
    norm_num [cruising]
  have hleft : velocityLeft wideAxis cruising = 5 := by
    norm_num [velocityLeft, wideAxis, cruising]
  have hresidual : residualVelocity wideAxis cruising = 5 := by
    rw [residualVelocity_eq cruising_dynamic hstored, hleft, if_neg]
    norm_num
  unfold ReferenceJointShaperV1.neutralFailure?
  rw [cruisingShaper_axis.1, cruisingShaper_axis.2, neutralize_eq cruising_dynamic, hresidual,
    if_pos]
  norm_num [wideAxis]

theorem planAxes_single {s : ReferenceJointShaperV1 ℝ} {i : Fin 8} {plan : BrakeAxis ℝ}
    (h : planBrakeAxis (s.axisLimits i) (s.axisState i) = (plan, true)) :
    planAxes [i] s = (s.setBrake i plan, true) := by
  rw [planAxes]
  dsimp only
  rw [h]
  rfl

theorem direct_cruising : planBrakeAxis (cruisingShaper.axisLimits 0)
    (cruisingShaper.axisState 0) = (cruisePlan, true) := by
  rw [cruisingShaper_axis.1, cruisingShaper_axis.2]
  exact planBrakeAxis_cruising

theorem directPlans_cruising : cruisingShaper.directPlans = ({ cruisingShaper with
    brakePlanningFailure := .none
    brakePlanningFailureAxis := maxDof
    accelerationNeutralizationAxisCount := 0 } : ReferenceJointShaperV1 ℝ).setBrake 0
      cruisePlan := by
  unfold directPlans
  rw [cruisingShaper_axes, planAxes_single (by exact direct_cruising)]

theorem synchronizedDuration_cruising : cruisingShaper.directPlans.synchronizedDuration = 7 := by
  have hduration : planDuration cruisePlan = 7 := by
    show add (add (add (2 : ℝ) 4) 1) 0 = 7
    norm_num
  have haxes : axes cruisingShaper.directPlans.dof = [0] := by
    rw [directPlans_cruising]
    exact cruisingShaper_axes
  have hbrake : cruisingShaper.directPlans.brake 0 = cruisePlan := by
    rw [directPlans_cruising]
    rfl
  have hlongest : cruisingShaper.directPlans.longestPlan = 7 := by
    unfold longestPlan
    rw [haxes, List.foldl_cons, List.foldl_nil, hbrake, hduration]
    norm_num [Double.max]
  have hperiod : (periodS : ℝ) = 1 / 125 := by
    norm_num [periodS]
  have hceil : ⌈(875 : ℝ) - 1e-12⌉ = 875 := by
    rw [Int.ceil_eq_iff]
    norm_num
  unfold synchronizedDuration
  rw [hlongest, hperiod]
  simp only [Exact.mul_eq, Exact.sub_eq, Exact.div_eq, Exact.ceil_real, numericalEpsilon_real]
  rw [show (7 : ℝ) / (1 / 125) = 875 by norm_num, hceil]
  norm_num

theorem not_synchronizable_cruising : ¬cruisingShaper.Synchronizable := by
  unfold Synchronizable
  rw [synchronizedDuration_cruising, cruisingShaper_axes, synchronizeAxes]
  have hbrake : (cruisingShaper.directPlans.brake 0).complete = false := by
    rw [directPlans_cruising]
    rfl
  have haxis : cruisingShaper.directPlans.axisLimits 0 = wideAxis ∧
      cruisingShaper.directPlans.axisState 0 = cruising := by
    rw [directPlans_cruising]
    exact cruisingShaper_axis
  rw [hbrake, if_neg Bool.false_ne_true, haxis.1, haxis.2]
  dsimp only
  rw [synchronizeBrakeAxis_cruising, if_neg Bool.false_ne_true]
  exact Bool.false_ne_true

/-- The axis cruises at its velocity limit and still stores a positive acceleration: the
    direct plan brakes it within 20 rad, but the release ends in a hard stop. -/
theorem release_hard_stopped :
    let s := run after init (engagedCalls (9 / 2) 1)
    s.mode = .activeTracking ∧ s.sourceSequence ≠ 0 ∧ (∀ i ∈ axes s.dof, s.Direct i) ∧
      (∀ i ∈ axes s.dof, s.neutralFailure? i ≠ some .positionLimit) ∧
      s.lastInputSequence < 2 ∧ s.lastTickNs ≤ 8000000 ∧
      (s.requestControlledStop 2 .clutchRelease 8000000).1.code = .planningFailed ∧
      (s.requestControlledStop 2 .clutchRelease 8000000).2.mode = .hardStopped := by
  obtain ⟨-, haxes, hmode, hsource, hrelease, hnow⟩ := cruisingShaper_members
  have hdirect : ∀ i ∈ axes cruisingShaper.dof, cruisingShaper.Direct i := by
    rw [haxes]
    intro i hi
    obtain rfl := List.mem_singleton.mp hi
    exact congrArg Prod.snd direct_cruising
  have hfailure : ∀ i ∈ axes cruisingShaper.dof,
      cruisingShaper.neutralFailure? i = some .velocityLimit := by
    rw [haxes]
    intro i hi
    obtain rfl := List.mem_singleton.mp hi
    exact neutralFailure?_cruising
  have hplanned : cruisingShaper.planStop.2 = false := by
    refine Bool.eq_false_of_not_eq_true fun h => ?_
    rcases (planStop_iff hdirect).mp h with h | h
    · exact not_synchronizable_cruising h
    · have hzero : (0 : Fin 8) ∈ axes cruisingShaper.dof := by
        rw [haxes]
        exact List.mem_singleton_self 0
      have hnone := h 0 hzero
      rw [hfailure 0 hzero] at hnone
      exact nomatch hnone
  have hstop := requestControlledStop_eq hmode hsource hrelease hnow
  rw [hplanned, if_pos (by rfl)] at hstop
  refine ⟨hmode, hsource, hdirect, fun i hi => ?_, hrelease, hnow, ?_⟩
  · show cruisingShaper.neutralFailure? i ≠ _
    rw [hfailure i hi]
    exact nofun
  · show (cruisingShaper.requestControlledStop 2 .clutchRelease 8000000).1.code = _ ∧
      (cruisingShaper.requestControlledStop 2 .clutchRelease 8000000).2.mode = _
    rw [hstop]
    exact ⟨rfl, hardStop_mode _ _ _⟩

/-! #### A release of a slowing axis -/

/-- The axis moves backwards, and its acceleration takes it to rest. -/
noncomputable def slowing : AxisState ℝ := ⟨0, -1 / 2, 1⟩

/-- The direct plan, a single ramp of the acceleration. -/
noncomputable def slowPlan : BrakeAxis ℝ := directPlan (-1) 0 0 1

theorem planBrakeAxis_slowing : planBrakeAxis wideAxis slowing = (slowPlan, true) := by
  refine planBrakeAxis_direct (x := -1 / 6) ?_ ?_ ?_ le_rfl le_rfl zero_le_one ?_ ?_
  · norm_num [slowing, abs_div]
  · norm_num [slowing]
  · unfold directDurations
    norm_num [wideAxis, slowing]
  · show integrateConstantJerk 0 0 (integrateConstantJerk (-1) 1 (integrateConstantJerk 0 0
      (integrateConstantJerk (- -1) 0 slowing))) = _
    norm_num [integrateConstantJerk, slowing]
  · norm_num [abs_div]

noncomputable def slowingShaper : ReferenceJointShaperV1 ℝ :=
  run after init (engagedCalls (-1 / 2) 1)

theorem slowingShaper_members :
    (slowingShaper.axisLimits 0 = wideAxis ∧ slowingShaper.axisState 0 = slowing) ∧
      axes slowingShaper.dof = [0] ∧ slowingShaper.mode = .activeTracking ∧
      slowingShaper.sourceSequence ≠ 0 ∧ slowingShaper.lastInputSequence < 2 ∧
      slowingShaper.lastTickNs ≤ 8000000 :=
  engaged_members (by norm_num [abs_div]) (abs_of_pos one_pos).le rfl

theorem slowing_dynamic : wideAxis.Dynamic slowing where
  velocity_pos := by norm_num [wideAxis]
  acceleration_pos := by norm_num [wideAxis]
  jerk_pos := by norm_num [wideAxis]
  velocity_le := by norm_num [wideAxis, slowing, abs_div]
  acceleration_le := by norm_num [wideAxis, slowing]

/-- Nothing is left of the velocity once the acceleration has been ramped down. -/
theorem velocityLeft_slowing : velocityLeft wideAxis slowing = 0 := by
  norm_num [velocityLeft, slowing, wideAxis]

theorem slowing_stored : slowing.acceleration = 0 ∨ 1e-12 < |slowing.acceleration| := by
  right
  norm_num [slowing]

theorem neutralFailure?_slowing : slowingShaper.neutralFailure? 0 = none := by
  have hresidual : residualVelocity wideAxis slowing = 0 := by
    rw [residualVelocity_eq slowing_dynamic slowing_stored, velocityLeft_slowing, if_pos]
    norm_num
  have hposition : (neutralState wideAxis slowing).position = -1 / 6 := by
    norm_num [neutralState, neutralDuration, neutralJerk, integrateConstantJerk, slowing, wideAxis]
  unfold ReferenceJointShaperV1.neutralFailure?
  rw [slowingShaper_members.1.1, slowingShaper_members.1.2, neutralize_eq slowing_dynamic,
    hresidual, hposition, if_neg, if_pos, if_neg]
  · norm_num [AxisLimits.outside, wideAxis]
  · norm_num
  · norm_num [wideAxis]

theorem neutralizable_slowing : Neutralizable wideAxis slowing := by
  unfold Neutralizable
  rw [if_pos slowing_stored, velocityLeft_slowing]
  norm_num [wideAxis]

theorem release_braked_slowing :
    ((run after init (engagedCalls (-1 / 2) 1)).requestControlledStop 2 .clutchRelease
        8000000).1.code = .ok ∧
      ((run after init (engagedCalls (-1 / 2) 1)).requestControlledStop 2 .clutchRelease
        8000000).2.mode = .controlledBraking := by
  obtain ⟨⟨hlimits, hstate⟩, haxes, hmode, hsource, hrelease, hnow⟩ := slowingShaper_members
  have hfirst : ∀ i ∈ axes (run after init (engagedCalls (-1 / 2) 1)).dof, i = 0 := by
    intro i hi
    have hzero : i ∈ axes slowingShaper.dof := hi
    rw [haxes] at hzero
    exact List.mem_singleton.mp hzero
  refine (release_braked_iff (engagedCalls (-1 / 2) 1) 2 8000000 hmode hsource (fun i hi => ?_)
    (fun i hi => ?_) hrelease hnow).mpr (.inr fun i hi => ?_)
  · obtain rfl := hfirst i hi
    show (planBrakeAxis (slowingShaper.axisLimits 0) (slowingShaper.axisState 0)).2 = true
    rw [hlimits, hstate, planBrakeAxis_slowing]
  · obtain rfl := hfirst i hi
    show slowingShaper.neutralFailure? 0 ≠ _
    rw [neutralFailure?_slowing]
    exact nofun
  · obtain rfl := hfirst i hi
    show Neutralizable (slowingShaper.axisLimits 0) (slowingShaper.axisState 0)
    rw [hlimits, hstate]
    exact neutralizable_slowing

end Runs

end ReferenceJointShaperV1

end HandLab.Shaper
