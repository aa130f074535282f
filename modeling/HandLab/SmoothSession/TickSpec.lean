import HandLab.SmoothSession.ControlTick

/-!
# What a tick does

Invariants of a tick of `SmoothQuestJakaSession`, from one specification of each phase:
the clutch (`clutchPhase_spec`), and what is done with its action (`actPhase_spec`).
-/

namespace HandLab.SmoothSession

open HandLab.Clutch HandLab.Quest HandLab.TargetGenerator

variable {α δ π ς μ : Type*}

/-! ## The arm clutch -/

section Arm

variable {m : ArmClutchMachine α} {nowNs : ℤ}

@[simp] theorem armFault_state (reason : String) :
    (m.fault nowNs reason).state = .trackingFault :=
  ClutchMachine.transition_state

theorem referenceCaptured_ok (nowNs : ℤ) (h : m.state = .referenceCapture) :
    (m.referenceCaptured nowNs).1 = .ok () ∧ (m.referenceCaptured nowNs).2.state = .engaged ∧
      (m.referenceCaptured nowNs).2.trigger = m.trigger := by
  unfold ArmClutchMachine.referenceCaptured
  rw [if_neg (not_not.mpr h)]
  exact ⟨rfl, ClutchMachine.transition_state, ClutchMachine.transition_trigger⟩

variable [LinearOrder α] {config : ClutchConfig α} {sample : AnalogClutchSample α}
  {controllerValid continuousInputsValid captureInputsValid : Bool}

/-- What the action of a step says of the sample and of the machine. -/
def ActionSpec (config : ClutchConfig α) (m m' : ArmClutchMachine α)
    (sample : AnalogClutchSample α) (nowNs : ℤ)
    (controllerValid continuousInputsValid captureInputsValid : Bool) : ClutchAction → Prop
  | .update =>
    m.state = .engaged ∧ m'.state = .engaged ∧ controllerValid = true ∧
      sample.fresh nowNs config.staleAfterNs = true ∧ continuousInputsValid = true ∧
      (m.trigger.pressed = some true → m'.trigger.pressed = some true)
  | .captureArmReference =>
    m.state = .disengaged ∧ m'.state = .referenceCapture ∧ controllerValid = true ∧
      sample.fresh nowNs config.staleAfterNs = true ∧ captureInputsValid = true ∧
      m'.trigger.pressed = some true
  | .freeze => m'.state ≠ .engaged
  | .startHandReacquisition => False

/-- **Specification of `step`.** -/
theorem arm_step_spec :
    ActionSpec config m (m.step config sample nowNs controllerValid continuousInputsValid
        captureInputsValid).2 sample nowNs controllerValid continuousInputsValid captureInputsValid
      (m.step config sample nowNs controllerValid continuousInputsValid captureInputsValid).1 := by
  have hfreeze (c : ClutchMachine ArmClutchState α) (hc : c.state ≠ .engaged) :
      ActionSpec config m (m.respond .freeze c).2 sample nowNs controllerValid
        continuousInputsValid captureInputsValid (m.respond .freeze c).1 := hc
  have hstate (c : ClutchMachine ArmClutchState α) (state : ArmClutchState) (reason : String)
      (hs : state ≠ .engaged) : (c.transition nowNs state reason).state ≠ .engaged := by
    rw [ClutchMachine.transition_state]
    exact hs
  have hfault (c : ClutchMachine ArmClutchState α) (reason : String) :
      (c.fault "arm" nowNs reason).state ≠ .engaged := by
    rw [ClutchMachine.fault]
    exact hstate _ _ _ nofun
  unfold ArmClutchMachine.step
  extract_lets fresh observation c
  by_cases hstale : m.state ≠ .armedWaitingForRelease ∧ m.state ≠ .trackingFault ∧ fresh = false
  · rw [if_pos hstale]
    exact hfreeze _ (hfault _ _)
  by_cases hinputs : m.state = .engaged ∧ continuousInputsValid = false
  · rw [if_neg hstale, if_pos hinputs]
    exact hfreeze _ (hfault _ _)
  rw [if_neg hstale, if_neg hinputs]
  have hfresh (hw : m.state ≠ .armedWaitingForRelease) (ht : m.state ≠ .trackingFault) :
      controllerValid = true ∧ sample.fresh nowNs config.staleAfterNs = true := by
    have htrue : fresh = true := by
      by_contra hnot
      exact hstale ⟨hw, ht, by simpa using hnot⟩
    exact Bool.and_eq_true_iff.mp htrue
  split
  case h_1 hs =>
    refine hfreeze _ ?_
    show m.state ≠ .engaged
    simp [hs]
  case h_2 hs =>
    split_ifs
    · exact hfreeze _ (hstate _ _ _ nofun)
    · refine hfreeze _ ?_
      show m.state ≠ .engaged
      simp [hs]
  case h_3 hs =>
    split_ifs
    · exact hfreeze _ (hstate _ _ _ nofun)
    · refine hfreeze _ ?_
      show m.state ≠ .engaged
      simp [hs]
  case h_4 hs =>
    have hboth := hfresh (by simp [hs]) (by simp [hs])
    split_ifs with hrising hcapture
    · exact hfreeze _ (hfault _ _)
    · have hcaptures : captureInputsValid = true := by simp_all
      refine ⟨hs, ClutchMachine.transition_state, hboth.1, hboth.2, hcaptures, ?_⟩
      show (ClutchMachine.transition _ _ _ _).trigger.pressed = some true
      rw [ClutchMachine.transition_trigger]
      exact rising_pressed hrising
    · refine hfreeze _ ?_
      show m.state ≠ .engaged
      simp [hs]
  case h_5 hs =>
    have hboth := hfresh (by simp [hs]) (by simp [hs])
    split_ifs with hreleased
    · exact hfreeze _ (hstate _ _ _ nofun)
    · have hcontinuous : continuousInputsValid = true := by
        by_contra hnot
        exact hinputs ⟨hs, by simpa using hnot⟩
      refine ⟨hs, hs, hboth.1, hboth.2, hcontinuous, fun hpressed => ?_⟩
      have hkept : (Clutch.observe config.thresholds m.trigger sample fresh).2.pressed ≠
          some false := by
        rw [← observe_pressed]
        exact hreleased
      exact observe_held hpressed hkept

end Arm

/-- The clutch was held at the tick, and its inputs were valid. -/
structure TickEntry.Live [LinearOrder α] (config : SessionConfig α) (entry : TickEntry α δ π) :
    Prop where
  controller : entry.controllerValid = true
  wrist : entry.state.wristValid = true
  fresh : entry.index.fresh entry.nowNs config.clutch.staleAfterNs = true
  held : entry.pressed = some true

/-! ## The clutch of the session -/

namespace SmoothQuestJakaSession

/-- The members that only a capture or an accepted target changes, and the input. -/
def Carries (s t : SmoothQuestJakaSession α ς μ) : Prop :=
  t.referenceGeneration = s.referenceGeneration ∧ t.acceptedSequence = s.acceptedSequence ∧
    t.indexSample = s.indexSample ∧ t.leftControllerValid = s.leftControllerValid

section Carries

variable {mapper : ArmMapper μ π} {s t u : SmoothQuestJakaSession α ς μ} {nowNs : ℤ}

theorem Carries.refl (s : SmoothQuestJakaSession α ς μ) : s.Carries s := ⟨rfl, rfl, rfl, rfl⟩

theorem Carries.trans (h : s.Carries t) (h' : t.Carries u) : s.Carries u := by
  obtain ⟨h1, h2, h3, h4⟩ := h
  obtain ⟨h1', h2', h3', h4'⟩ := h'
  exact ⟨h1'.trans h1, h2'.trans h2, h3'.trans h3, h4'.trans h4⟩

@[simp] theorem faultArm_state (reason : String) :
    (s.faultArm mapper nowNs reason).armClutch.state = .trackingFault :=
  armFault_state reason

theorem faultArm_carries (reason : String) : s.Carries (s.faultArm mapper nowNs reason) :=
  ⟨rfl, rfl, rfl, rfl⟩

theorem endHold_carries : s.Carries s.endHold := by
  unfold endHold
  split_ifs <;> exact ⟨rfl, rfl, rfl, rfl⟩

@[simp] theorem endHold_armClutch : s.endHold.armClutch = s.armClutch := by
  unfold endHold
  split_ifs <;> rfl

/-- The faults of the inputs keep a clutch that is not in `TRACKING_FAULT` after them. -/
theorem faultInputs_spec (tracking : Bool) :
    s.Carries ((s.faultController mapper nowNs).faultWrist mapper nowNs tracking) ∧
      (((s.faultController mapper nowNs).faultWrist mapper nowNs tracking).armClutch =
          s.armClutch ∨
        ((s.faultController mapper nowNs).faultWrist mapper nowNs tracking).armClutch.state =
          .trackingFault) := by
  have hcontroller : s.Carries (s.faultController mapper nowNs) ∧
      ((s.faultController mapper nowNs).armClutch = s.armClutch ∨
        (s.faultController mapper nowNs).armClutch.state = .trackingFault) := by
    unfold faultController
    split_ifs
    · exact ⟨faultArm_carries _, .inr (faultArm_state _)⟩
    · exact ⟨.refl s, .inl rfl⟩
  obtain ⟨hcarries, hclutch⟩ := hcontroller
  generalize s.faultController mapper nowNs = t at *
  unfold faultWrist
  split_ifs
  · exact ⟨hcarries.trans (faultArm_carries _), .inr (faultArm_state _)⟩
  · exact ⟨hcarries, hclutch⟩

end Carries

variable [LinearOrder α]

/-- An engaged clutch is held, and not switched off. -/
structure Sound (config : SessionConfig α) (s : SmoothQuestJakaSession α ς μ) : Prop where
  held : s.armClutch.state = .engaged → s.armClutch.trigger.pressed = some true
  enabled : s.armClutch.state = .engaged → config.armInputEnabled = true

section Clutch

variable {config : SessionConfig α} {mapper : ArmMapper μ π} {s : SmoothQuestJakaSession α ς μ}
  {nowNs : ℤ} {state : CanonicalQuestState π}

theorem sound_of_state (h : s.armClutch.state ≠ .engaged) : s.Sound config :=
  ⟨fun hs => absurd hs h, fun hs => absurd hs h⟩

theorem observeRecovery_keeps (valid : Bool) :
    s.Carries (s.observeRecovery config nowNs valid) ∧
      (s.observeRecovery config nowNs valid).armClutch = s.armClutch ∧
      (s.observeRecovery config nowNs valid).armMapper = s.armMapper := by
  unfold observeRecovery
  split_ifs <;> exact ⟨⟨rfl, rfl, rfl, rfl⟩, rfl, rfl⟩

/-- The inputs of an engaged arm are those that the tick read. -/
structure Live (config : SessionConfig α) (s : SmoothQuestJakaSession α ς μ) (nowNs : ℤ)
    (state : CanonicalQuestState π) (pressed : Option Bool) : Prop where
  controller : s.leftControllerValid = true
  fresh : s.indexSample.fresh nowNs config.clutch.staleAfterNs = true
  wrist : state.wristValid = true
  held : pressed = some true

/-- What the action of the clutch phase says. -/
def PhaseSpec (config : SessionConfig α) (s t : SmoothQuestJakaSession α ς μ) (nowNs : ℤ)
    (state : CanonicalQuestState π) : ClutchAction → Prop
  | .update =>
    s.armClutch.state = .engaged ∧ t.armClutch.state = .engaged ∧
      config.armInputEnabled = true ∧ s.Live config nowNs state t.armClutch.trigger.pressed
  | .captureArmReference =>
    s.armClutch.state = .disengaged ∧ t.armClutch.state = .referenceCapture ∧
      config.armInputEnabled = true ∧
      s.Live config nowNs state t.armClutch.trigger.pressed ∧ state.headValid = true
  | .freeze => t.armClutch.state ≠ .engaged
  | .startHandReacquisition => False

/-- The step of the clutch, on a session whose inputs have faulted what they had to. -/
theorem stepClutch_spec {t : SmoothQuestJakaSession α ς μ} (hs : s.Sound config)
    (hcarries : s.Carries t)
    (hclutch : t.armClutch = s.armClutch ∨ t.armClutch.state = .trackingFault) :
    s.Carries (t.stepClutch config nowNs state).2 ∧
      PhaseSpec config s (t.stepClutch config nowNs state).2 nowNs state
        (t.stepClutch config nowNs state).1 := by
  obtain ⟨-, -, hindex, hcontroller⟩ := id hcarries
  unfold stepClutch
  split_ifs with henabled
  · have hstep : ActionSpec config.clutch t.armClutch
        (t.armClutch.step config.clutch t.indexSample nowNs t.leftControllerValid
          state.wristValid (state.wristValid && state.headValid)).2 t.indexSample nowNs
        t.leftControllerValid state.wristValid (state.wristValid && state.headValid)
        (t.armClutch.step config.clutch t.indexSample nowNs t.leftControllerValid
          state.wristValid (state.wristValid && state.headValid)).1 := arm_step_spec
    generalize t.armClutch.step config.clutch t.indexSample nowNs t.leftControllerValid
      state.wristValid (state.wristValid && state.headValid) = r at hstep ⊢
    obtain ⟨action, armClutch⟩ := r
    dsimp only at hstep ⊢
    refine ⟨hcarries, ?_⟩
    cases action with
    | freeze => exact hstep
    | startHandReacquisition => exact hstep
    | update =>
      obtain ⟨hbefore, hafter, hvalid, hfresh, hwrist, hpressed⟩ := hstep
      have hsame : t.armClutch = s.armClutch := hclutch.resolve_right (by rw [hbefore]; nofun)
      rw [hsame] at hbefore hpressed
      rw [hcontroller] at hvalid
      rw [hindex] at hfresh
      exact ⟨hbefore, hafter, henabled, hvalid, hfresh, hwrist, hpressed (hs.held hbefore)⟩
    | captureArmReference =>
      obtain ⟨hbefore, hafter, hvalid, hfresh, hcapture, hpressed⟩ := hstep
      have hsame : t.armClutch = s.armClutch := hclutch.resolve_right (by rw [hbefore]; nofun)
      rw [hsame] at hbefore
      rw [hcontroller] at hvalid
      rw [hindex] at hfresh
      obtain ⟨hwrist, hhead⟩ := Bool.and_eq_true_iff.mp hcapture
      exact ⟨hbefore, hafter, henabled, ⟨hvalid, hfresh, hwrist, hpressed⟩, hhead⟩
  · refine ⟨hcarries, ?_⟩
    show t.armClutch.state ≠ .engaged
    intro hengaged
    have hsame : t.armClutch = s.armClutch := hclutch.resolve_right (by rw [hengaged]; nofun)
    rw [hsame] at hengaged
    exact henabled (hs.enabled hengaged)

variable (config mapper s nowNs state) in
/-- The clutch phase starts from a session in which only the recovery may have moved. -/
theorem clutchPhase_eq : ∃ t, (s.Carries t ∧ t.armClutch = s.armClutch ∧
      t.armMapper = s.armMapper) ∧
    s.clutchPhase config mapper nowNs state =
      (((t.faultController mapper nowNs).faultWrist mapper nowNs
        state.right.trackingValid).stepClutch config nowNs state |>.map id endHold) :=
  ⟨_, observeRecovery_keeps _, rfl⟩

/-- **Specification of the clutch phase.** -/
theorem clutchPhase_spec (hs : s.Sound config) :
    s.Carries (s.clutchPhase config mapper nowNs state).2 ∧
      PhaseSpec config s (s.clutchPhase config mapper nowNs state).2 nowNs state
        (s.clutchPhase config mapper nowNs state).1 := by
  obtain ⟨t, ⟨hrecovery, hclutch, -⟩, hphase⟩ :=
    clutchPhase_eq config mapper s nowNs state
  rw [hphase]
  have hinputs : t.Carries ((t.faultController mapper nowNs).faultWrist mapper nowNs
      state.right.trackingValid) ∧ (_ ∨ _) := faultInputs_spec _
  generalize (t.faultController mapper nowNs).faultWrist mapper nowNs
    state.right.trackingValid = u at hinputs ⊢
  obtain ⟨hinputs, hfaulted⟩ := hinputs
  rw [hclutch] at hfaulted
  have hstep : s.Carries (u.stepClutch config nowNs state).2 ∧ PhaseSpec config s
      (u.stepClutch config nowNs state).2 nowNs state (u.stepClutch config nowNs state).1 :=
    stepClutch_spec hs (hrecovery.trans hinputs) hfaulted
  obtain ⟨hcarries, hphase⟩ := hstep
  refine ⟨hcarries.trans endHold_carries, ?_⟩
  unfold PhaseSpec at hphase ⊢
  rw [Prod.map_snd, endHold_armClutch]
  exact hphase

end Clutch

/-! ## The rest of the tick -/

section Act

variable {config : SessionConfig α} {mapper : ArmMapper μ π} {s : SmoothQuestJakaSession α ς μ}
  {input : TickInput δ π} {nowNs : ℤ} {state : CanonicalQuestState π}

/-- What the part of a tick does that decides the call of `arm_output`, from the session
    `s` to `t`. -/
structure Decided (s : SmoothQuestJakaSession α ς μ) (nowNs : ℤ) (decision : Decision δ)
    (t : SmoothQuestJakaSession α ς μ) : Prop where
  generation : t.referenceGeneration = s.referenceGeneration
  clutch : t.armClutch = s.armClutch ∨ t.armClutch.state = .trackingFault
  sequence : decision = .raised ∨ t.acceptedSequence =
    s.acceptedSequence + if decision.published.isSome then 1 else 0
  published : ∀ target ∈ decision.published,
    target.sequenceNumber = s.acceptedSequence + 1 ∧ target.generatedMonotonicNs = nowNs ∧
      target.referenceGeneration = s.referenceGeneration ∧ t.armClutch = s.armClutch

omit [LinearOrder α] in
/-- A decision that publishes nothing and counts nothing. -/
theorem decided_of_none {t : SmoothQuestJakaSession α ς μ} {decision : Decision δ}
    (hnone : decision.published = none) (hcarries : s.Carries t)
    (hclutch : t.armClutch = s.armClutch ∨ t.armClutch.state = .trackingFault) :
    s.Decided nowNs decision t where
  generation := hcarries.1
  clutch := hclutch
  sequence := .inr (by rw [hnone]; exact hcarries.2.1)
  published target htarget := by
    rw [hnone] at htarget
    exact absurd htarget nofun

theorem beat_published (heartbeat : ArmControlHeartbeat) :
    (beat heartbeat : Decision δ).published = none := by
  unfold beat
  split <;> rfl

theorem idleDecision_published :
    (s.idleDecision config nowNs state : Decision δ).published = none := by
  unfold idleDecision
  split
  · split
    · exact beat_published _
    · rfl
  · split
    · split
      · exact beat_published _
      · rfl
    · rfl

theorem idleTick_decided : s.Decided nowNs
    (s.idleTick config mapper nowNs state : Decision δ × SmoothQuestJakaSession α ς μ).1
    (s.idleTick config mapper nowNs state : Decision δ × SmoothQuestJakaSession α ς μ).2 := by
  refine decided_of_none idleDecision_published ?_ ?_
  · show s.Carries (s.timeOut config mapper nowNs)
    unfold timeOut
    split_ifs
    · exact ⟨rfl, rfl, rfl, rfl⟩
    · exact .refl s
  · show (s.timeOut config mapper nowNs).armClutch = s.armClutch ∨
      (s.timeOut config mapper nowNs).armClutch.state = .trackingFault
    unfold timeOut
    split_ifs
    · exact .inr (armFault_state _)
    · exact .inl rfl

omit [LinearOrder α] in
theorem rejectTick_decided {result : FeasibilityResult δ} : s.Decided nowNs
    (s.rejectTick mapper nowNs state result).1 (s.rejectTick mapper nowNs state result).2 := by
  -- the fault of a branch discontinuity comes first
  have hbranch : ∀ t, t = (if result.reason = .jointBranchDiscontinuity then
      s.faultArm mapper nowNs "JOINT_BRANCH_DISCONTINUITY" else s) →
      s.Carries t ∧ (t.armClutch = s.armClutch ∨ t.armClutch.state = .trackingFault) := by
    rintro t rfl
    split_ifs
    · exact ⟨faultArm_carries _, .inr (faultArm_state _)⟩
    · exact ⟨.refl s, .inl rfl⟩
  unfold rejectTick
  generalize hfaulted : (if result.reason = .jointBranchDiscontinuity then
      s.faultArm mapper nowNs "JOINT_BRANCH_DISCONTINUITY" else s) = t
  obtain ⟨hcarries, hclutch⟩ := hbranch t hfaulted.symm
  dsimp only
  split_ifs
  · exact decided_of_none rfl (hcarries.trans ⟨rfl, rfl, rfl, rfl⟩) (.inr (armFault_state _))
  · exact decided_of_none rfl (hcarries.trans ⟨rfl, rfl, rfl, rfl⟩) hclutch
  · split
    · exact decided_of_none rfl hcarries hclutch
    · exact decided_of_none (beat_published _) hcarries hclutch

omit [LinearOrder α] in
theorem acceptTick_decided {result : FeasibilityResult δ} : s.Decided input.nowNs
    (s.acceptTick input state result).1 (s.acceptTick input state result).2 := by
  unfold acceptTick
  split
  · dsimp only
    split_ifs
    · refine ⟨rfl, .inl rfl, .inr rfl, ?_⟩
      rintro target ⟨⟩
      exact ⟨rfl, rfl, rfl, rfl⟩
    · exact ⟨rfl, .inl rfl, .inl rfl, nofun⟩
  · exact decided_of_none rfl (.refl s) (.inl rfl)

theorem targetTick_decided : s.Decided input.nowNs
    (s.targetTick config mapper input state).1 (s.targetTick config mapper input state).2 := by
  unfold targetTick
  split
  · exact decided_of_none rfl (.refl s) (.inl rfl)
  · split_ifs
    · exact acceptTick_decided
    · exact rejectTick_decided

/-- What a tick does after the clutch. -/
structure Acted (s : SmoothQuestJakaSession α ς μ) (nowNs : ℤ) (action : ClutchAction)
    (captured : Bool) (decision : Decision δ) (t : SmoothQuestJakaSession α ς μ) : Prop where
  generation : t.referenceGeneration = s.referenceGeneration + if captured then 1 else 0
  captures : captured = true → action = .captureArmReference
  engaged : t.armClutch.state = .engaged → t.armClutch.trigger = s.armClutch.trigger ∧
    (captured = true ∨ s.armClutch.state = .engaged)
  sequence : decision = .raised ∨ t.acceptedSequence =
    s.acceptedSequence + if decision.published.isSome then 1 else 0
  published : ∀ target ∈ decision.published,
    target.sequenceNumber = s.acceptedSequence + 1 ∧ target.generatedMonotonicNs = nowNs ∧
      target.referenceGeneration = t.referenceGeneration ∧ t.armClutch.state = .engaged

variable {action : ClutchAction}

omit [LinearOrder α] in
/-- A decision made on the session after `_arm_target`. -/
theorem Decided.acted {t u : SmoothQuestJakaSession α ς μ} {decision : Decision δ}
    {captured : Bool} (hd : t.Decided nowNs decision u)
    (hgeneration : t.referenceGeneration = s.referenceGeneration + if captured then 1 else 0)
    (hcaptures : captured = true → action = .captureArmReference)
    (htrigger : t.armClutch.trigger = s.armClutch.trigger)
    (hengaged : t.armClutch.state = .engaged → captured = true ∨ s.armClutch.state = .engaged)
    (hsequence : t.acceptedSequence = s.acceptedSequence)
    (hpublished : decision.published ≠ none → t.armClutch.state = .engaged) :
    s.Acted nowNs action captured decision u where
  generation := hd.generation.trans hgeneration
  captures := hcaptures
  engaged h := by
    have hsame : u.armClutch = t.armClutch := hd.clutch.resolve_right (by rw [h]; nofun)
    rw [hsame] at h ⊢
    exact ⟨htrigger, hengaged h⟩
  sequence := by
    rw [← hsequence]
    exact hd.sequence
  published target htarget := by
    obtain ⟨h1, h2, h3, h4⟩ := hd.published target htarget
    refine ⟨by rw [h1, hsequence], h2, h3.trans hd.generation.symm, ?_⟩
    rw [h4]
    refine hpublished ?_
    rw [Option.mem_def.mp htarget]
    nofun

omit [LinearOrder α] in
/-- A tick that raises before its decision. -/
theorem acted_of_raised {t : SmoothQuestJakaSession α ς μ}
    (hgeneration : t.referenceGeneration = s.referenceGeneration)
    (hclutch : t.armClutch = s.armClutch) :
    s.Acted nowNs action false (.raised : Decision δ) t where
  generation := hgeneration
  captures := nofun
  engaged h := by
    rw [hclutch] at h ⊢
    exact ⟨rfl, .inr h⟩
  sequence := .inl rfl
  published := nofun

/-- What `_arm_target` does, from the session `s` to `t`. -/
structure MapSpec (s : SmoothQuestJakaSession α ς μ) (action : ClutchAction)
    (mapped : Mapped π) (captured : Bool) (t : SmoothQuestJakaSession α ς μ) : Prop where
  generation : t.referenceGeneration = s.referenceGeneration + if captured then 1 else 0
  captures : captured = true → action = .captureArmReference
  trigger : t.armClutch.trigger = s.armClutch.trigger
  engaged : t.armClutch.state = .engaged → captured = true ∨ s.armClutch.state = .engaged
  sequence : t.acceptedSequence = s.acceptedSequence
  pose : ∀ desired, mapped = .pose desired → t.armClutch.state = .engaged

omit [LinearOrder α] in
theorem captureReference_spec (hs : s.armClutch.state = .referenceCapture) :
    MapSpec s .captureArmReference (s.captureReference mapper input state).1
      (s.captureReference mapper input state).2.1
      (s.captureReference mapper input state).2.2 := by
  obtain ⟨hok, hengaged, htrigger⟩ := referenceCaptured_ok input.nowNs hs
  unfold captureReference
  split
  · split
    · exact ⟨rfl, nofun, rfl, .inr, rfl, nofun⟩
    · split
      · rename_i heq
        rw [heq] at hok
        exact absurd hok nofun
      · rename_i heq
        rw [heq] at hengaged htrigger
        exact ⟨rfl, fun _ => rfl, htrigger, fun _ => .inl rfl, rfl, fun _ _ => hengaged⟩
  · exact ⟨rfl, nofun, rfl, .inr, rfl, nofun⟩

omit [LinearOrder α] in
/-- The clutch after its action admits what `_arm_target` does with it. -/
theorem armTarget_spec
    (hcapture : action = .captureArmReference → s.armClutch.state = .referenceCapture)
    (hupdate : action = .update → s.armClutch.state = .engaged) :
    MapSpec s action (s.armTarget mapper input state action).1
      (s.armTarget mapper input state action).2.1
      (s.armTarget mapper input state action).2.2 := by
  have hfrozen : ∀ (t : SmoothQuestJakaSession α ς μ), t = (if s.armClutch.state ≠ .engaged then
      { s with armMapper := mapper.clear s.armMapper } else s) →
      t.referenceGeneration = s.referenceGeneration ∧ t.armClutch = s.armClutch ∧
        t.acceptedSequence = s.acceptedSequence := by
    rintro t rfl
    split_ifs <;> exact ⟨rfl, rfl, rfl⟩
  obtain ⟨hgeneration, hclutch, hsequence⟩ := hfrozen _ rfl
  have hidle : MapSpec s action (.none : Mapped π) false
      (if s.armClutch.state ≠ .engaged then
        { s with armMapper := mapper.clear s.armMapper } else s) := by
    refine ⟨hgeneration, nofun, by rw [hclutch], fun h => .inr ?_, hsequence, nofun⟩
    rw [hclutch] at h
    exact h
  cases action with
  | captureArmReference => exact captureReference_spec (hcapture rfl)
  | freeze => exact hidle
  | startHandReacquisition => exact hidle
  | update =>
    unfold armTarget
    dsimp only
    split
    · split
      · exact ⟨rfl, nofun, rfl, .inr, rfl, nofun⟩
      · exact ⟨rfl, nofun, rfl, .inr, rfl, fun _ _ => hupdate rfl⟩
    · exact ⟨rfl, nofun, rfl, .inr, rfl, nofun⟩

/-- **Specification of the tick after the clutch.** -/
theorem actPhase_spec
    (hcapture : action = .captureArmReference → s.armClutch.state = .referenceCapture)
    (hupdate : action = .update → s.armClutch.state = .engaged) :
    s.Acted input.nowNs action (s.actPhase config mapper input state action).1
      (s.actPhase config mapper input state action).2.1
      (s.actPhase config mapper input state action).2.2 := by
  have hmapped : MapSpec s action (s.armTarget mapper input state action).1
      (s.armTarget mapper input state action).2.1
      (s.armTarget mapper input state action).2.2 := armTarget_spec hcapture hupdate
  unfold actPhase
  split_ifs
  · exact acted_of_raised rfl rfl
  generalize s.armTarget mapper input state action = r at hmapped ⊢
  obtain ⟨mapped, captured, t⟩ := r
  obtain ⟨hgeneration, hcaptures, htrigger, hengaged, hsequence, hpose⟩ := hmapped
  dsimp only at *
  cases mapped with
  | raised =>
    have hraised : t.Decided input.nowNs (.raised : Decision δ) t :=
      decided_of_none rfl (.refl t) (.inl rfl)
    exact hraised.acted hgeneration hcaptures htrigger hengaged hsequence fun h => absurd rfl h
  | none =>
    exact idleTick_decided.acted hgeneration hcaptures htrigger hengaged hsequence fun h =>
      absurd idleDecision_published h
  | pose desired =>
    exact targetTick_decided.acted hgeneration hcaptures htrigger hengaged hsequence fun _ =>
      hpose desired rfl

end Act

/-! ## The whole tick -/

section Tick

variable {config : SessionConfig α} {mapper : ArmMapper μ π}
  {assembler : Assembler ς δ π} {s t : SmoothQuestJakaSession α ς μ} {input : TickInput δ π}
  {entry : TickEntry α δ π}

/-- What a tick with an entry does to the session. -/
structure TickSpec (config : SessionConfig α) (s : SmoothQuestJakaSession α ς μ)
    (input : TickInput δ π) (entry : TickEntry α δ π) (t : SmoothQuestJakaSession α ς μ) :
    Prop where
  time : entry.nowNs = input.nowNs
  sound : t.Sound config
  generation : t.referenceGeneration = s.referenceGeneration + if entry.captured then 1 else 0
  sequence : entry.decision = .raised ∨ t.acceptedSequence =
    s.acceptedSequence + if entry.decision.published.isSome then 1 else 0
  engaged : t.armClutch.state = .engaged → entry.Live config ∧
    (entry.captured = true ∧ entry.state.headValid = true ∨
      entry.captured = false ∧ s.armClutch.state = .engaged)
  published : ∀ target ∈ entry.decision.published,
    target.sequenceNumber = s.acceptedSequence + 1 ∧
      target.generatedMonotonicNs = input.nowNs ∧
      target.referenceGeneration = t.referenceGeneration ∧ t.armClutch.state = .engaged

/-- **Specification of a tick.** -/
theorem controlTick_spec (hs : s.Sound config)
    (h : s.controlTick config mapper assembler input = (some entry, t)) :
    TickSpec config s input entry t := by
  unfold controlTick at h
  split at h
  · exact absurd (congrArg Prod.fst h) nofun
  rename_i raw hraw
  dsimp only at h
  generalize raw.interpolate input.interpolated = state at h
  have hphase : s.Carries (s.clutchPhase config mapper input.nowNs state).2 ∧ PhaseSpec config s
      (s.clutchPhase config mapper input.nowNs state).2 input.nowNs state
      (s.clutchPhase config mapper input.nowNs state).1 := clutchPhase_spec hs
  generalize s.clutchPhase config mapper input.nowNs state = r at h hphase
  obtain ⟨action, stepped⟩ := r
  obtain ⟨⟨hgeneration, hsequence, -, -⟩, hphase⟩ := hphase
  dsimp only at h hgeneration hsequence hphase
  have hacted : stepped.Acted input.nowNs action
      (stepped.actPhase config mapper input state action).1
      (stepped.actPhase config mapper input state action).2.1
      (stepped.actPhase config mapper input state action).2.2 := by
    refine actPhase_spec ?_ ?_
    · rintro rfl
      exact hphase.2.1
    · rintro rfl
      exact hphase.2.1
  generalize stepped.actPhase config mapper input state action = r at h hacted
  obtain ⟨captured, decision, after⟩ := r
  dsimp only at h hacted
  cases h
  -- an engaged clutch has updated or captured
  have hengaged (he : t.armClutch.state = .engaged) :
      config.armInputEnabled = true ∧
        s.Live config input.nowNs state stepped.armClutch.trigger.pressed ∧
        (captured = true ∧ state.headValid = true ∨
          captured = false ∧ s.armClutch.state = .engaged) := by
    obtain ⟨-, hsource⟩ := hacted.engaged he
    cases action with
    | freeze => exact absurd (hsource.resolve_left fun hc => nomatch hacted.captures hc) hphase
    | startHandReacquisition => exact hphase.elim
    | update =>
      obtain ⟨hbefore, -, henabled, hlive⟩ := hphase
      refine ⟨henabled, hlive, .inr ⟨?_, hbefore⟩⟩
      by_contra hc
      exact nomatch hacted.captures (by simpa using hc)
    | captureArmReference =>
      obtain ⟨-, hcapture, henabled, hlive, hhead⟩ := hphase
      have hcaptured : captured = true :=
        hsource.resolve_right (by rw [hcapture]; nofun)
      exact ⟨henabled, hlive, .inl ⟨hcaptured, hhead⟩⟩
  refine ⟨rfl, ⟨fun he => ?_, fun he => (hengaged he).1⟩, ?_, ?_, fun he => ?_, ?_⟩
  · rw [(hacted.engaged he).1]
    exact (hengaged he).2.1.held
  · rw [hacted.generation, hgeneration]
  · rw [← hsequence]
    exact hacted.sequence
  · obtain ⟨-, hlive, hsource⟩ := hengaged he
    exact ⟨⟨hlive.controller, hlive.wrist, hlive.fresh, hlive.held⟩, hsource⟩
  · intro target htarget
    rw [← hsequence]
    exact hacted.published target htarget

end Tick

end SmoothQuestJakaSession

end HandLab.SmoothSession
