import HandLab.TargetGenerator.Evaluate
import Mathlib.Data.Rat.Sqrt

/-!
# What a rejected evaluation leaves

The authoritative state of the generator is what accepted, captured and
synchronized calls set. A rejected `evaluate` leaves it alone only on the exits
that put the last accepted joints back.

* `evaluate_rejected`: what a rejected evaluation leaves of the state.
* `rejected_trial`: in which runs a rejected trial never becomes authoritative.
* `rejected_captured`: a rejected trial that the next capture takes.
-/

namespace HandLab.TargetGenerator

open HandLab.Lib Double NumPy PyMath
open HandLab.Teleoperation (Pose3D allFinite)

variable {δ : Type*}

/-- The authoritative state. -/
structure Authority (δ : Type*) where
  armJointsRad : Joints δ
  currentTcpPose : Pose3D δ
  lastSafeJointTarget : Joints δ
  lastSafeTarget : Pose3D δ
  lastSafeJointVelocity : Joints δ
  acceptedMetrics : List (CandidateMetrics δ)
  outputFeasibility : OutputTracker δ

namespace SharedJakaTargetGenerator

/-- The authoritative state of a generator. -/
def authority (arm : Arm δ) (s : SharedJakaTargetGenerator δ) : Authority δ where
  armJointsRad := s.ik.armJointsRad
  currentTcpPose := s.currentTcpPose arm
  lastSafeJointTarget := s.lastSafeJointTarget
  lastSafeTarget := s.lastSafeTarget
  lastSafeJointVelocity := s.lastSafeJointVelocity
  acceptedMetrics := s.acceptedMetrics
  outputFeasibility := s.outputFeasibility

/-- Everything authoritative but the joints of the IK state and the tracker. -/
def Retains (s s' : SharedJakaTargetGenerator δ) : Prop :=
  s'.lastSafeJointTarget = s.lastSafeJointTarget ∧ s'.lastSafeTarget = s.lastSafeTarget ∧
    s'.lastSafeJointVelocity = s.lastSafeJointVelocity ∧ s'.acceptedMetrics = s.acceptedMetrics

theorem retains_refl (s : SharedJakaTargetGenerator δ) : s.Retains s := ⟨rfl, rfl, rfl, rfl⟩

theorem Retains.trans {s s' t : SharedJakaTargetGenerator δ} (h : s.Retains s')
    (h' : s'.Retains t) : s.Retains t :=
  ⟨h'.1.trans h.1, h'.2.1.trans h.2.1, h'.2.2.1.trans h.2.2.1, h'.2.2.2.trans h.2.2.2⟩

/-- The authoritative state is retained if the joints and the tracker are. -/
theorem authority_eq_iff {arm : Arm δ} {s s' : SharedJakaTargetGenerator δ} (h : s.Retains s') :
    s'.authority arm = s.authority arm ↔
      s'.ik.armJointsRad = s.ik.armJointsRad ∧ s'.outputFeasibility = s.outputFeasibility := by
  constructor
  · intro heq
    exact ⟨congrArg Authority.armJointsRad heq, congrArg Authority.outputFeasibility heq⟩
  · rintro ⟨hjoints, htracker⟩
    obtain ⟨htarget, hpose, hvelocity, hmetrics⟩ := h
    unfold authority currentTcpPose
    rw [hjoints, htracker, htarget, hpose, hvelocity, hmetrics]

end SharedJakaTargetGenerator

open SharedJakaTargetGenerator

/-! ## Results -/

/-- An accepted result has its joints and metrics, a rejected one no joints. -/
def Coherent (result : FeasibilityResult δ) : Prop :=
  if result.accepted then ∃ q m, result.jointTargetRad = some q ∧ result.metrics = some m
  else result.jointTargetRad = none

theorem coherent_resultOf (reason : FeasibilityReason) (m : CandidateMetrics δ) :
    Coherent (resultOf reason m) := by
  unfold Coherent resultOf
  by_cases h : reason = .accepted
  · simp [h]
  · simp [h]

section Settle

variable [PyMath δ] {config : GeneratorConfig δ} {arm : Arm δ} {s : SharedJakaTargetGenerator δ}
  {result : FeasibilityResult δ} {target : Pose3D δ} {dt : δ} {generatedNs : ℤ}

/-- The joints `q` are committed over the target of `s`. -/
structure Commits (s : SharedJakaTargetGenerator δ) (dt : δ) (q : Joints δ)
    (s' : SharedJakaTargetGenerator δ) : Prop where
  refuses_target : refuses q = none
  target : s'.lastSafeJointTarget = q
  velocity : s'.lastSafeJointVelocity = fun i =>
    div (sub (q i) (s.lastSafeJointTarget i)) (stepDt dt)

theorem settle_rejected (h : Coherent result) (hrejected : result.accepted = false) :
    s.settle config result target dt generatedNs =
      (.ok result, { s with holdCount := s.holdCount + 1 }) := by
  unfold Coherent at h
  rw [hrejected] at h
  unfold settle
  rw [if_neg (by simp)] at h
  rw [h]

theorem settle_accepted {r : FeasibilityResult δ} {s' : SharedJakaTargetGenerator δ}
    (h : Coherent result) (haccepted : result.accepted = true)
    (hs : s.settle config result target dt generatedNs = (.ok r, s')) :
    r = result ∧ result.jointTargetRad = some s'.ik.armJointsRad ∧
      Commits s dt s'.ik.armJointsRad s' := by
  unfold Coherent at h
  rw [haccepted, if_pos rfl] at h
  obtain ⟨q, m, hq, hm⟩ := h
  unfold settle at hs
  rw [hq, hm] at hs
  dsimp only at hs
  unfold commitAcceptedResult at hs
  split at hs
  · cases hs
  rename_i hcommit
  split at hcommit
  · cases hcommit
  dsimp only at hcommit
  split at hcommit
  · cases hcommit
  · rename_i hrefuses
    cases hcommit
    cases hs
    exact ⟨rfl, hq, hrefuses, rfl, rfl⟩

theorem settle_returns {r : FeasibilityResult δ} {s' : SharedJakaTargetGenerator δ}
    (h : Coherent result) (hs : s.settle config result target dt generatedNs = (.ok r, s')) :
    r = result := by
  cases haccepted : result.accepted with
  | true => exact (settle_accepted h haccepted hs).1
  | false =>
    rw [settle_rejected h haccepted] at hs
    cases hs
    rfl

end Settle

/-! ## The steps of an evaluation -/

section Steps

variable [PyMath δ] {config : GeneratorConfig δ} {arm : Arm δ} {s s' : SharedJakaTargetGenerator δ}
  {clocks : ClockReadings} {target : Pose3D δ} {dt : δ} {reference : Joints δ} {generatedNs : ℤ}

/-- The generation time changes the tracker and the synthetic clock only. -/
theorem generation_retains (roundNs : δ → ℤ) (generated : Option ℤ) :
    s.Retains (s.generation config roundNs dt generated).2 ∧
      ((s.generation config roundNs dt generated).2.outputFeasibility = s.outputFeasibility ↔
        generated.isSome = true ∨ s.outputFeasibility.lastAcceptedNs.isSome = true) := by
  unfold generation
  cases generated with
  | some generatedNs => exact ⟨retains_refl s, by simp⟩
  | none =>
    dsimp only
    cases hlast : s.outputFeasibility.lastAcceptedNs with
    | some last => exact ⟨retains_refl s, by simp⟩
    | none =>
      refine ⟨retains_refl s, ?_⟩
      simp only [Option.isSome_none, Bool.false_eq_true, if_false, or_self, iff_false]
      intro h
      have htracker := congrArg OutputTracker.lastAcceptedNs h
      rw [hlast] at htracker
      cases htracker

variable {r : FeasibilityResult δ}

/-- An early exit has put the seed back. -/
theorem judgeFrom_early
    (h : s.judgeFrom config arm clocks target dt reference generatedNs = (.ok (.early r), s')) :
    (∃ reason, r = exitResult reason) ∧ s.Retains s' ∧
      s'.ik.armJointsRad = s.lastSafeJointTarget ∧ s'.outputFeasibility = s.outputFeasibility ∧
      ∀ c, solveCandidate config arm clocks target s.lastSafeJointTarget reference ≠
        .candidate c := by
  unfold judgeFrom at h
  split at h
  · cases h
  dsimp only at h
  split at h
  · rename_i reason hexit
    have hnone : ∀ c, solveCandidate config arm clocks target s.lastSafeJointTarget reference ≠
        .candidate c := by
      intro c hc
      rw [hexit] at hc
      cases hc
    split at h
    · cases h
      exact ⟨⟨_, rfl⟩, retains_refl s, rfl, rfl, hnone⟩
    · cases h
      exact ⟨⟨_, rfl⟩, retains_refl s, rfl, rfl, hnone⟩
  · split at h <;> cases h

/-- **A final judgement** is the result of the candidate, which is accepted only if its gates
    accept it. It stays installed, clipped, unless the deadline test after the checks has put the
    seed back. -/
theorem judgeFrom_judges
    (h : s.judgeFrom config arm clocks target dt reference generatedNs = (.ok (.final r), s')) :
    refuses s.lastSafeJointTarget = none ∧
      ∃ (c : Candidate δ) (t : SharedJakaTargetGenerator δ) (latched : Bool)
        (reason : FeasibilityReason),
        solveCandidate config arm clocks target s.lastSafeJointTarget reference = .candidate c ∧
        t.lastSafeJointTarget = s.lastSafeJointTarget ∧
        (reason = .accepted → reason = gateReason config latched
          (t.candidateMetrics config arm target dt reference
            (arm.jacobianQuality s.lastSafeJointTarget) c)) ∧
        r = resultOf reason (t.candidateMetrics config arm target dt reference
          (arm.jacobianQuality s.lastSafeJointTarget) c) ∧
        s.Retains s' ∧ s'.outputFeasibility = s.outputFeasibility ∧
        s'.ik.armJointsRad =
          if clocks.afterChecks then s.lastSafeJointTarget
          else clipJointsToSafeLimits config.ikMargin c.joints := by
  unfold judgeFrom at h
  split at h
  · cases h
  rename_i hrefuses
  dsimp only at h
  split at h
  · split at h <;> cases h
  rename_i c hcandidate
  split at h
  · cases h
  rename_i hjudge
  cases h
  refine ⟨hrefuses, c, ?_⟩
  unfold judgeCandidate at hjudge
  dsimp only at hjudge
  split at hjudge
  · cases hjudge
  unfold lateResult at hjudge
  cases hlate : clocks.afterChecks with
  | true =>
    simp only [hlate, if_true] at hjudge
    split at hjudge
    · cases hjudge
      exact ⟨_, _, _, hcandidate, rfl, fun _ => rfl, rfl, retains_refl s, rfl, rfl⟩
    · cases hjudge
      exact ⟨_, true, _, hcandidate, rfl, fun h => (by cases h), rfl, retains_refl s, rfl, rfl⟩
  | false =>
    simp only [hlate, Bool.false_eq_true, if_false] at hjudge
    cases hjudge
    exact ⟨_, _, _, hcandidate, rfl, fun _ => rfl, rfl, retains_refl s, rfl, rfl⟩

theorem judgeFrom_final
    (h : s.judgeFrom config arm clocks target dt reference generatedNs = (.ok (.final r), s')) :
    Coherent r ∧ s.Retains s' ∧ s'.outputFeasibility = s.outputFeasibility ∧
      ∃ c, solveCandidate config arm clocks target s.lastSafeJointTarget reference =
          .candidate c ∧
        s'.ik.armJointsRad =
          if clocks.afterChecks then s.lastSafeJointTarget
          else clipJointsToSafeLimits config.ikMargin c.joints := by
  obtain ⟨-, c, _, _, _, hcandidate, -, -, rfl, hretains, htracker, hjoints⟩ := judgeFrom_judges h
  exact ⟨coherent_resultOf _ _, hretains, htracker, c, hcandidate, hjoints⟩

omit [PyMath δ] in
theorem coherent_exitResult (reason : FeasibilityReason) :
    Coherent (exitResult (δ := δ) reason) := rfl

/-- A trial exits early, or returns what it is judged to be. -/
theorem trial_cases {dtS : δ}
    (h : s.trial config arm clocks target dtS reference generatedNs = (.ok r, s')) :
    (∃ reason, r = exitResult reason) ∨
      ∃ after, s.judgeFrom config arm clocks target (stepDt dtS) reference generatedNs =
        (.ok (.final r), after) := by
  unfold trial at h
  split at h
  · cases h
    exact .inl ⟨_, rfl⟩
  split at h
  · cases h
  · rename_i hearly
    cases h
    exact .inl (judgeFrom_early hearly).1
  · rename_i after hfinal
    rw [settle_returns (judgeFrom_final hfinal).1 h]
    exact .inr ⟨after, hfinal⟩

theorem trial_coherent {dtS : δ}
    (h : s.trial config arm clocks target dtS reference generatedNs = (.ok r, s')) :
    Coherent r := by
  obtain ⟨reason, rfl⟩ | ⟨after, hfinal⟩ := trial_cases h
  · exact coherent_exitResult reason
  · exact (judgeFrom_final hfinal).1

theorem coherent_recoveryResult {primary : FeasibilityResult δ}
    {trial : Option (FeasibilityResult δ)} (hp : Coherent primary)
    (ht : ∀ r ∈ trial, Coherent r) : Coherent (recoveryResult config primary trial) := by
  have hselected : ∀ selected : FeasibilityResult δ, Coherent selected →
      ∀ reason f, Coherent { selected with reason, metrics := selected.metrics.map f } := by
    intro selected hselected reason f
    unfold Coherent at hselected ⊢
    dsimp only
    split
    · rename_i haccepted
      rw [if_pos haccepted] at hselected
      obtain ⟨q, m, hq, hm⟩ := hselected
      exact ⟨q, f m, hq, by rw [hm]; rfl⟩
    · rename_i hrejected
      rwa [if_neg hrejected] at hselected
  unfold recoveryResult
  refine hselected _ ?_ _ _
  split
  · cases trial with
    | none => exact hp
    | some r => exact ht r rfl
  · exact hp

/-- The end of a recovery over its snapshot `s`, rejected or accepted. -/
structure Recovers (config : GeneratorConfig δ) (s : SharedJakaTargetGenerator δ) (dt : δ)
    (primary : FeasibilityResult δ) (trial : Option (FeasibilityResult δ))
    (r : FeasibilityResult δ) (s' : SharedJakaTargetGenerator δ) : Prop where
  result : r = recoveryResult config primary trial
  rejected : r.accepted = false → s.Retains s' ∧ s'.outputFeasibility = s.outputFeasibility ∧
    s'.ik.armJointsRad = s.lastSafeJointTarget
  accepted : r.accepted = true →
    r.jointTargetRad = some s'.ik.armJointsRad ∧ Commits s dt s'.ik.armJointsRad s'

theorem finishRecovery_recovers {snapshot : SharedJakaTargetGenerator δ}
    {primary r : FeasibilityResult δ} {trial : Option (FeasibilityResult δ)}
    (hp : Coherent primary) (ht : ∀ r ∈ trial, Coherent r)
    (h : s.finishRecovery config snapshot primary trial target dt generatedNs = (.ok r, s')) :
    Recovers config snapshot dt primary trial r s' := by
  have hcoherent : Coherent (recoveryResult config primary trial) :=
    coherent_recoveryResult hp ht
  unfold finishRecovery restoreRecoveryState at h
  split at h
  · cases h
  rename_i after hrestore
  dsimp only at hrestore
  split at hrestore
  · cases hrestore
  cases hrestore
  dsimp only at h
  split at h
  · rename_i haccepted
    obtain ⟨rfl, hq, hcommits⟩ := settle_accepted hcoherent haccepted h
    refine ⟨rfl, fun hrejected => ?_, fun _ => ⟨hq, ?_⟩⟩
    · rw [haccepted] at hrejected
      cases hrejected
    · exact ⟨hcommits.refuses_target, hcommits.target, hcommits.velocity⟩
  · rename_i hrejected
    rw [settle_rejected hcoherent (by simpa using hrejected)] at h
    cases h
    refine ⟨rfl, fun _ => ⟨⟨rfl, rfl, rfl, rfl⟩, rfl, rfl⟩, fun haccepted => ?_⟩
    rw [haccepted] at hrejected
    exact absurd rfl hrejected

theorem multibranch_of_shouldAttempt
    (h : shouldAttemptJointLimitRecovery config r = true) :
    config.ikSolverMode = .jointLimitMultibranch := by
  unfold shouldAttemptJointLimitRecovery at h
  split at h
  · assumption
  · cases h

variable {call : EvaluateCall δ}

/-- The trial of a recovery, `none` if it is not run. -/
def RunsTrial (config : GeneratorConfig δ) (arm : Arm δ) (s : SharedJakaTargetGenerator δ)
    (call : EvaluateCall δ) (generatedNs : ℤ) : Option (FeasibilityResult δ) → Prop
  | none => call.beforeTrial = true
  | some result => call.beforeTrial = false ∧ ∃ after,
    let seed := towardSafeSeed config s.lastSafeJointTarget
    trial config arm { s with lastSafeJointTarget := seed, ik := .authoritative seed }
      call.trialClocks call.target (stepDt call.dtS)
      (call.freshMeasuredJointPositionRad.getD seed) generatedNs = (.ok result, after)

theorem tryJointLimitRecovery_recovers {primary r : FeasibilityResult δ}
    (hp : Coherent primary)
    (h : s.tryJointLimitRecovery config arm primary call generatedNs = (.ok r, s')) :
    ∃ trial, RunsTrial config arm s call generatedNs trial ∧
      Recovers config s (stepDt call.dtS) primary trial r s' := by
  unfold tryJointLimitRecovery at h
  split at h
  · rename_i hbefore
    exact ⟨none, hbefore, finishRecovery_recovers hp (by simp) h⟩
  rename_i hbefore
  dsimp only at h
  split at h
  · cases h
  split at h
  · cases h
  · rename_i result after htrial
    refine ⟨some result, ⟨Bool.eq_false_iff.mpr hbefore, after, htrial⟩,
      finishRecovery_recovers hp ?_ h⟩
    intro t ht
    cases ht
    exact trial_coherent htrial

/-! ## A rejected evaluation -/

/-- The recovery is attempted on what the call is judged to be. -/
def attemptsRecovery (config : GeneratorConfig δ) (arm : Arm δ) (roundNs : δ → ℤ)
    (s : SharedJakaTargetGenerator δ) (call : EvaluateCall δ) : Bool :=
  let (generatedNs, started) :=
    s.generation config roundNs (stepDt call.dtS) call.generatedMonotonicNs
  match started.judgeFrom config arm call.clocks call.target (stepDt call.dtS)
      (s.branchReference call.freshMeasuredJointPositionRad) generatedNs with
  | (.ok (.final result), _) => shouldAttemptJointLimitRecovery config result
  | _ => false

/-- The call, if it is rejected, does not leave a trial behind: the deadline has
    passed before it, or the tracker needs no bootstrap and a candidate, if one
    is installed, satisfies `kept` or is replaced by the seed, at the late deadline
    or by the recovery. -/
def DiscardsUnless (kept : Candidate δ → Prop) (config : GeneratorConfig δ) (arm : Arm δ)
    (roundNs : δ → ℤ) (s : SharedJakaTargetGenerator δ) (call : EvaluateCall δ) : Prop :=
  call.clocks.atStart = true ∨
    (call.generatedMonotonicNs.isSome = true ∨
        s.outputFeasibility.lastAcceptedNs.isSome = true) ∧
      ∀ c, solveCandidate config arm call.clocks call.target s.lastSafeJointTarget
          (s.branchReference call.freshMeasuredJointPositionRad) = .candidate c →
        call.clocks.afterChecks = true ∨ attemptsRecovery config arm roundNs s call = true ∨
          kept c

/-- The call takes a path on which a rejected trial is discarded. -/
def Discards (config : GeneratorConfig δ) (arm : Arm δ) (roundNs : δ → ℤ)
    (s : SharedJakaTargetGenerator δ) (call : EvaluateCall δ) : Prop :=
  DiscardsUnless (fun _ => False) config arm roundNs s call

/-- The call discards a rejected trial, or the trial is the seed once it is clipped. -/
def DiscardsOrKeeps (config : GeneratorConfig δ) (arm : Arm δ) (roundNs : δ → ℤ)
    (s : SharedJakaTargetGenerator δ) (call : EvaluateCall δ) : Prop :=
  DiscardsUnless (fun c => clipJointsToSafeLimits config.ikMargin c.joints = s.lastSafeJointTarget)
    config arm roundNs s call

theorem Discards.orKeeps {roundNs : δ → ℤ} (h : Discards config arm roundNs s call) :
    DiscardsOrKeeps config arm roundNs s call := by
  rcases h with hstart | ⟨htracker, hall⟩
  · exact .inl hstart
  refine .inr ⟨htracker, fun c hc => ?_⟩
  rcases hall c hc with hlate | hattempt | hfalse
  · exact .inl hlate
  · exact .inr (.inl hattempt)
  · exact hfalse.elim

/-- **What a call that returns does**: the deadline has passed before it, or it is judged, and
    exits, settles or attempts the recovery. -/
theorem evaluate_cases {roundNs : δ → ℤ} (h : s.evaluate config arm roundNs call = (.ok r, s')) :
    (call.clocks.atStart = true ∧ r = exitResult .controlComputeBudgetExhausted ∧
      s' = { s with computeBudgetExhaustedCount := s.computeBudgetExhaustedCount + 1 }) ∨
    call.clocks.atStart ≠ true ∧ ∃ generatedNs started judged after,
      s.generation config roundNs (stepDt call.dtS) call.generatedMonotonicNs =
        (generatedNs, started) ∧
      (s.Retains started ∧ (started.outputFeasibility = s.outputFeasibility ↔
        call.generatedMonotonicNs.isSome = true ∨
          s.outputFeasibility.lastAcceptedNs.isSome = true)) ∧
      started.judgeFrom config arm call.clocks call.target (stepDt call.dtS)
        (s.branchReference call.freshMeasuredJointPositionRad) generatedNs = (.ok judged, after) ∧
      match judged with
      | .early result => result = r ∧ after = s'
      | .final primary =>
        (if shouldAttemptJointLimitRecovery config primary then
          after.tryJointLimitRecovery config arm primary call generatedNs
        else after.settle config primary call.target (stepDt call.dtS) generatedNs) = (.ok r, s') := by
  unfold evaluate at h
  split at h
  · rename_i hstart
    cases h
    exact .inl ⟨hstart, rfl, rfl⟩
  rename_i hstart
  split at h
  · cases h
  dsimp only at h
  split at h
  · cases h
  · rename_i hjudged
    cases h
    exact .inr ⟨hstart, _, _, _, _, rfl, generation_retains _ _, hjudged, rfl, rfl⟩
  · rename_i hjudged
    exact .inr ⟨hstart, _, _, _, _, rfl, generation_retains _ _, hjudged, h⟩

/-- **A rejected evaluation** leaves the authoritative state alone exactly if the
    call discards its trial or the trial is the seed. -/
theorem evaluate_rejected {roundNs : δ → ℤ}
    (hsafe : s.ik.armJointsRad = s.lastSafeJointTarget)
    (h : s.evaluate config arm roundNs call = (.ok r, s')) (hrejected : r.accepted = false) :
    s'.authority arm = s.authority arm ↔ DiscardsOrKeeps config arm roundNs s call := by
  obtain ⟨hstart, -, rfl⟩ | ⟨hstart, generatedNs, started, judged, after, hgeneration,
    ⟨hretains, htracker⟩, hjudged, h⟩ := evaluate_cases h
  · exact iff_of_true rfl (.inl hstart)
  unfold DiscardsOrKeeps DiscardsUnless attemptsRecovery
  rw [hgeneration, or_iff_right hstart, ← htracker]
  rw [← hretains.1]
  dsimp only
  rw [hjudged]
  cases judged with
  | early result =>
    obtain ⟨rfl, rfl⟩ := h
    obtain ⟨-, hretains', hjoints, htracker', hnone⟩ := judgeFrom_early hjudged
    rw [authority_eq_iff (hretains.trans hretains'), hjoints, htracker', hsafe, hretains.1]
    rw [hretains.1] at hnone
    constructor
    · rintro ⟨-, htr⟩
      exact ⟨htr, fun c hc => absurd hc (hnone c)⟩
    · rintro ⟨htr, -⟩
      exact ⟨rfl, htr⟩
  | final result =>
    obtain ⟨hcoherent, hretains', htracker', c, hc, hjoints⟩ := judgeFrom_final hjudged
    have hcandidate : ∀ e, solveCandidate config arm call.clocks call.target
        started.lastSafeJointTarget (s.branchReference call.freshMeasuredJointPositionRad) =
          .candidate e → e = c := by
      intro e he
      rw [hc] at he
      cases he
      rfl
    dsimp only at h ⊢
    split at h
    · rename_i hattempt
      obtain ⟨_, -, hrecovers⟩ := tryJointLimitRecovery_recovers hcoherent h
      obtain ⟨hretains'', htracker'', hback⟩ := hrecovers.rejected hrejected
      rw [authority_eq_iff ((hretains.trans hretains').trans hretains''), hback, htracker'',
        htracker', hsafe, hretains'.1, hretains.1]
      constructor
      · rintro ⟨-, htr⟩
        exact ⟨htr, fun _ _ => .inr (.inl hattempt)⟩
      · rintro ⟨htr, -⟩
        exact ⟨rfl, htr⟩
    · rename_i hattempt
      have hresult : result.accepted = false := by
        rw [← settle_returns hcoherent h]
        exact hrejected
      rw [settle_rejected hcoherent hresult] at h
      cases h
      -- the hold count is not authoritative
      show after.authority arm = s.authority arm ↔ _
      rw [authority_eq_iff (hretains.trans hretains'), hjoints, htracker', hsafe, ← hretains.1]
      constructor
      · rintro ⟨hback, htr⟩
        refine ⟨htr, fun e he => ?_⟩
        rw [hcandidate e he]
        split at hback
        · rename_i hlate
          exact .inl hlate
        · exact .inr (.inr hback)
      · rintro ⟨htr, hall⟩
        refine ⟨?_, htr⟩
        split
        · rfl
        · rename_i hlate
          rcases hall c hc with hlate' | hattempt' | hclip
          · exact absurd hlate' hlate
          · exact absurd hattempt' hattempt
          · exact hclip

/-- An accepted evaluation makes its joints authoritative. -/
theorem evaluate_accepted {roundNs : δ → ℤ}
    (h : s.evaluate config arm roundNs call = (.ok r, s')) (haccepted : r.accepted = true) :
    s'.lastSafeJointTarget = s'.ik.armJointsRad := by
  obtain ⟨-, rfl, -⟩ | ⟨-, _, _, judged, _, -, -, hjudged, h⟩ := evaluate_cases h
  · cases haccepted
  cases judged with
  | early result =>
    obtain ⟨rfl, -⟩ := h
    obtain ⟨⟨_, rfl⟩, -⟩ := judgeFrom_early hjudged
    cases haccepted
  | final primary =>
    obtain ⟨hcoherent, -⟩ := judgeFrom_final hjudged
    dsimp only at h
    split at h
    · obtain ⟨_, -, hrecovers⟩ := tryJointLimitRecovery_recovers hcoherent h
      exact (hrecovers.accepted haccepted).2.target
    · have hresult := settle_returns hcoherent h
      subst hresult
      exact (settle_accepted hcoherent haccepted h).2.2.target

end Steps

/-! ## Runs -/

inductive GeneratorCall (δ : Type*)
  | synchronizeAuthoritativeArmJoints (joints : Joints δ)
  | captureReference
  | evaluate (call : EvaluateCall δ)

/-- A generator, with the authoritative state that the last accepted, captured or
    synchronized call left. -/
structure Watched (δ : Type*) where
  generator : SharedJakaTargetGenerator δ
  last : Option (Authority δ)

section Runs

variable [PyMath δ] (config : GeneratorConfig δ) (arm : Arm δ) (roundNs : δ → ℤ)

namespace Watched

/-- The generator after a call. -/
def after (w : Watched δ) : GeneratorCall δ → SharedJakaTargetGenerator δ
  | .synchronizeAuthoritativeArmJoints joints =>
    (w.generator.synchronizeAuthoritativeArmJoints config arm joints).2
  | .captureReference => (w.generator.captureReference config arm).2
  | .evaluate call => (w.generator.evaluate config arm roundNs call).2

/-- The call returns. -/
def Returns (w : Watched δ) : GeneratorCall δ → Prop
  | .synchronizeAuthoritativeArmJoints joints =>
    (w.generator.synchronizeAuthoritativeArmJoints config arm joints).1 = .ok ()
  | .captureReference => True
  | .evaluate call => ∃ r, (w.generator.evaluate config arm roundNs call).1 = .ok r

/-- The call is a rejected evaluation. -/
def rejects (w : Watched δ) : GeneratorCall δ → Bool
  | .synchronizeAuthoritativeArmJoints _ => false
  | .captureReference => false
  | .evaluate call =>
    match (w.generator.evaluate config arm roundNs call).1 with
    | .ok r => !r.accepted
    | .error _ => false

/-- A call on a watched generator. -/
def step (w : Watched δ) (c : GeneratorCall δ) : Watched δ where
  generator := w.after config arm roundNs c
  last :=
    if w.rejects config arm roundNs c then w.last
    else some ((w.after config arm roundNs c).authority arm)

/-- The generator has the last authoritative state, and a capture takes its
    joints. -/
def Stands (w : Watched δ) : Prop :=
  ∀ a ∈ w.last, w.generator.authority arm = a ∧
    (w.generator.captureReference config arm).2.lastSafeJointTarget = a.lastSafeJointTarget

/-- A rejected evaluation after an authoritative state satisfies `P`. -/
def IfRejected (P : SharedJakaTargetGenerator δ → EvaluateCall δ → Prop) (w : Watched δ)
    (c : GeneratorCall δ) : Prop :=
  match c with
  | .evaluate call =>
    w.rejects config arm roundNs (.evaluate call) = true → w.last.isSome = true →
      P w.generator call
  | _ => True

/-- A rejected evaluation after an authoritative state discards its trial. -/
def Discards : Watched δ → GeneratorCall δ → Prop :=
  IfRejected config arm roundNs (TargetGenerator.Discards config arm roundNs)

/-- The same, or its trial is the authoritative one. -/
def DiscardsOrKeeps : Watched δ → GeneratorCall δ → Prop :=
  IfRejected config arm roundNs (TargetGenerator.DiscardsOrKeeps config arm roundNs)

variable {config arm roundNs}

variable {w : Watched δ}

theorem rejects_evaluate {call : EvaluateCall δ} {r : FeasibilityResult δ}
    (hr : (w.generator.evaluate config arm roundNs call).1 = .ok r) :
    w.rejects config arm roundNs (.evaluate call) = !r.accepted := by
  show (match (w.generator.evaluate config arm roundNs call).1 with
    | .ok r => !r.accepted
    | .error _ => false) = _
  rw [hr]

variable {c : GeneratorCall δ}

theorem returns_of_rejects
    (h : w.rejects config arm roundNs c = true) : w.Returns config arm roundNs c := by
  cases c with
  | synchronizeAuthoritativeArmJoints joints => cases h
  | captureReference => cases h
  | evaluate call =>
    show ∃ r, (w.generator.evaluate config arm roundNs call).1 = .ok r
    change (match (w.generator.evaluate config arm roundNs call).1 with
      | .ok r => !r.accepted
      | .error _ => false) = true at h
    cases hr : (w.generator.evaluate config arm roundNs call).1 with
    | ok r => exact ⟨r, rfl⟩
    | error error =>
      rw [hr] at h
      cases h

theorem settled_step
    (hreturns : w.Returns config arm roundNs c)
    (hw : ∀ a ∈ w.last, a.armJointsRad = a.lastSafeJointTarget) :
    ∀ a ∈ (w.step config arm roundNs c).last, a.armJointsRad = a.lastSafeJointTarget := by
  intro a ha
  unfold step at ha
  dsimp only at ha
  split at ha
  · exact hw a ha
  rename_i hrejects
  cases ha
  cases c with
  | synchronizeAuthoritativeArmJoints joints =>
    change (w.generator.synchronizeAuthoritativeArmJoints config arm joints).1 = .ok () at hreturns
    show (w.generator.synchronizeAuthoritativeArmJoints config arm joints).2.ik.armJointsRad =
      (w.generator.synchronizeAuthoritativeArmJoints config arm joints).2.lastSafeJointTarget
    unfold synchronizeAuthoritativeArmJoints at hreturns ⊢
    split at hreturns
    · cases hreturns
    rename_i hrefuses
    split at hreturns
    · split at hreturns <;> cases hreturns
    rename_i hcontacts
    rw [if_neg hcontacts]
    rfl
  | captureReference => rfl
  | evaluate call =>
    obtain ⟨r, hr⟩ := hreturns
    have heq : w.generator.evaluate config arm roundNs call =
        (.ok r, (w.generator.evaluate config arm roundNs call).2) := Prod.ext hr rfl
    refine (evaluate_accepted heq ?_).symm
    rw [rejects_evaluate hr] at hrejects
    simpa using hrejects

theorem Discards.orKeeps (h : w.Discards config arm roundNs c) :
    w.DiscardsOrKeeps config arm roundNs c := by
  cases c with
  | synchronizeAuthoritativeArmJoints joints => trivial
  | captureReference => trivial
  | evaluate call => exact fun hrejects hsome => (h hrejects hsome).orKeeps

/-- **Step lemma.** While the generator stands, a call that returns leaves it
    standing exactly if it discards a rejected trial or the trial is the seed. -/
theorem stands_step_iff
    (hreturns : w.Returns config arm roundNs c)
    (hsettled : ∀ a ∈ w.last, a.armJointsRad = a.lastSafeJointTarget)
    (hw : w.Stands config arm) :
    (w.step config arm roundNs c).Stands config arm ↔ w.DiscardsOrKeeps config arm roundNs c := by
  have hsettled' := settled_step hreturns hsettled
  unfold Stands
  cases hrejects : w.rejects config arm roundNs c with
  | false =>
    -- the call sets the authoritative state
    refine iff_of_true (fun a ha => ?_) ?_
    · have hjoints := hsettled' a ha
      unfold step at ha ⊢
      rw [hrejects] at ha
      dsimp only at ha ⊢
      rw [if_neg (by simp)] at ha
      cases ha
      exact ⟨rfl, hjoints⟩
    · unfold DiscardsOrKeeps IfRejected
      split
      · intro h
        rw [hrejects] at h
        cases h
      · trivial
  | true =>
    cases c with
    | synchronizeAuthoritativeArmJoints joints => cases hrejects
    | captureReference => cases hrejects
    | evaluate call =>
      have hlast : (w.step config arm roundNs (.evaluate call)).last = w.last := by
        unfold step
        dsimp only
        rw [hrejects, if_pos rfl]
      rw [hlast]
      unfold DiscardsOrKeeps IfRejected
      dsimp only
      rw [hrejects]
      cases hsome : w.last with
      | none => simp
      | some a =>
        obtain ⟨hauthority, -⟩ := hw a hsome
        have hsafe : w.generator.ik.armJointsRad = w.generator.lastSafeJointTarget := by
          have := hsettled a hsome
          rw [← hauthority] at this
          exact this
        obtain ⟨r, hr⟩ := hreturns
        have hrejected : r.accepted = false := by
          rw [rejects_evaluate hr] at hrejects
          simpa using hrejects
        have heq : w.generator.evaluate config arm roundNs call =
            (.ok r, (w.generator.evaluate config arm roundNs call).2) := Prod.ext hr rfl
        have hiff := evaluate_rejected hsafe heq hrejected
        rw [hauthority] at hiff
        constructor
        · intro h _ _
          exact hiff.mp (h a rfl).1
        · intro h e he
          cases he
          have hback : (w.step config arm roundNs (.evaluate call)).generator.authority arm = a :=
            hiff.mpr (h rfl rfl)
          refine ⟨hback, ?_⟩
          show (w.step config arm roundNs (.evaluate call)).generator.ik.armJointsRad = _
          rw [← hsettled a hsome, ← hback]
          rfl

end Watched

/-- **No rejected trial is authoritative** in a run whose rejected evaluations
    discard their trials, and none is exactly in the runs that discard them or whose
    trials are the authoritative joints. -/
theorem rejected_trial (s : SharedJakaTargetGenerator δ) (calls : List (GeneratorCall δ))
    (hreturns : Meets (Watched.step config arm roundNs) (Watched.Returns config arm roundNs)
      ⟨s, none⟩ calls) :
    (Meets (Watched.step config arm roundNs) (Watched.Discards config arm roundNs)
        ⟨s, none⟩ calls →
      ∀ past, past <+: calls →
        (run (Watched.step config arm roundNs) ⟨s, none⟩ past).Stands config arm) ∧
    ((∀ past, past <+: calls →
        (run (Watched.step config arm roundNs) ⟨s, none⟩ past).Stands config arm) ↔
      Meets (Watched.step config arm roundNs) (Watched.DiscardsOrKeeps config arm roundNs)
        ⟨s, none⟩ calls) := by
  have hgeneral : ∀ (w : Watched δ) (cs : List (GeneratorCall δ)),
      Meets (Watched.step config arm roundNs) (Watched.Returns config arm roundNs) w cs →
      (∀ a ∈ w.last, a.armJointsRad = a.lastSafeJointTarget) → w.Stands config arm →
      ((∀ past, past <+: cs →
          (run (Watched.step config arm roundNs) w past).Stands config arm) ↔
        Meets (Watched.step config arm roundNs) (Watched.DiscardsOrKeeps config arm roundNs)
          w cs) := by
    intro w cs
    induction cs generalizing w with
    | nil =>
      intro _ _ hw
      refine iff_of_true (fun past hpast => ?_) trivial
      rw [List.prefix_nil.mp hpast]
      exact hw
    | cons c cs ih =>
      rintro ⟨hc, hcs⟩ hsettled hw
      have hstep := Watched.stands_step_iff hc hsettled hw
      have hsettled' := Watched.settled_step hc hsettled
      constructor
      · intro h
        have hnext : (w.step config arm roundNs c).Stands config arm :=
          h [c] ⟨cs, rfl⟩
        refine ⟨hstep.mp hnext, (ih _ hcs hsettled' hnext).mp fun past hpast => ?_⟩
        obtain ⟨later, rfl⟩ := hpast
        exact h (c :: past) ⟨later, rfl⟩
      · rintro ⟨hdiscards, hrest⟩ past hpast
        have hnext := hstep.mpr hdiscards
        rcases List.prefix_cons_iff.mp hpast with rfl | ⟨rest, rfl, hprefix⟩
        · exact hw
        · exact (ih _ hcs hsettled' hnext).mpr hrest rest hprefix
  have hiff := hgeneral ⟨s, none⟩ calls hreturns (fun a ha => by cases ha)
    (fun a ha => by cases ha)
  exact ⟨fun h => hiff.mpr (meets_mono (fun _ _ => Watched.Discards.orKeeps) h), hiff⟩

end Runs

/-! ## A rejected trial that is captured -/

/-- Exact rational arithmetic, with roots of squares only, and the double
    `math.pi` as the arc cosine of `-1`. -/
abbrev exactPyMath : PyMath ℚ where
  sqrt := Rat.sqrt
  sin _ := 0
  cos _ := 1
  atan2 _ _ := 0
  norm v := Rat.sqrt (∑ i, v i * v i)
  dot v w := ∑ i, v i * w i
  det m := m.det
  acos q := if q = -1 then 884279719003555 / 281474976710656 else 0
  exp _ := 1
  square q := some (q * q)

attribute [local instance] exactPyMath

def firstJoint (q : ℚ) : Joints ℚ := fun i => if i = 0 then q else 0

/-- The pose of the first joint's arm. -/
def firstPose (q : ℚ) : Pose3D ℚ := ⟨![q, 0, 0], ![0, 0, 0, 1]⟩

/-- An arm whose first joint moves the tool along an axis, where it meets an
    obstacle. -/
def obstructedArm : Arm ℚ where
  fk q := firstPose (q 0)
  contacts q := if q 0 = 1 / 100 then [.environment] else []
  jacobianQuality _ := (1, 1)
  taskError target q := if target.positionM 0 < q 0 then q 0 - target.positionM 0
    else target.positionM 0 - q 0
  dlsStep target _ := firstJoint (target.positionM 0)
  rotationError _ _ := 0

/-- Wide gates with a margin of five degrees. -/
def wideConfig : GeneratorConfig ℚ where
  feasibility :=
    { ikPositionToleranceM := 1 / 1000
      maximumJacobianCondition := 100
      minimumJacobianSingularValue := 1 / 100
      maximumTargetJumpM := 1
      maximumTcpVelocityMS := 10
      maximumTcpAngularVelocityRadS := 10
      jointLimitMarginRad := 87 / 1000
      maximumTargetDisplacementM := 1
      jointLimitAvoidanceZoneRad := 7 / 20
      ikOrientationToleranceRad := 3
      maximumTargetRotationJumpRad := 3
      maximumJointTargetJumpRad := 3
      jacobianSlowdownCondition := 80
      minimumSingularValueSlowdown := 1 / 80
      jacobianRecoveryCondition := 75
      minimumSingularValueRecovery := 1 / 70
      singularityDirectionHysteresisRatio := 1 / 100
      targetDisplacementLimitEnabled := true }
  ikIterations := 4
  ikMaxStepRad := 1 / 40
  ikSolverMode := .continuation
  orientationEnabled := true
  servoPeriodNs := 8000000

def restGenerator : SharedJakaTargetGenerator ℚ where
  ik := .authoritative (firstJoint 0)
  initialTcp := firstPose 0
  lastSafeTarget := firstPose 0
  lastSafeJointTarget := firstJoint 0
  lastSafeJointVelocity := fun _ => 0
  outputFeasibility := .reset 8000000 (firstJoint 0)
  acceptedMetrics := []
  singularitySlowdownLatched := false
  syntheticGeneratedMonotonicNs := 1000000000
  computeBudgetExhaustedCount := 0
  holdCount := 0

/-- An evaluation of the obstructed target. -/
def probe : EvaluateCall ℚ where
  target := firstPose (1 / 100)
  dtS := 1 / 60
  generatedMonotonicNs := some 2000000000
  freshMeasuredJointPositionRad := none
  clocks := .never
  beforeTrial := false
  trialClocks := .never

theorem probe_rejects :
    (run (Watched.step wideConfig obstructedArm round) ⟨restGenerator, none⟩
        [.captureReference]).rejects wideConfig obstructedArm round (.evaluate probe) = true := by
  decide +kernel

/-- The capture after the rejected probe takes the joints of the collision. -/
theorem rejected_captured :
    (run (Watched.step wideConfig obstructedArm round) ⟨restGenerator, none⟩
        [.captureReference]).rejects wideConfig obstructedArm round (.evaluate probe) = true ∧
      ¬(run (Watched.step wideConfig obstructedArm round) ⟨restGenerator, none⟩
        [.captureReference, .evaluate probe]).Stands wideConfig obstructedArm := by
  refine ⟨probe_rejects, fun h => ?_⟩
  have hlast : (run (Watched.step wideConfig obstructedArm round) ⟨restGenerator, none⟩
      [.captureReference, .evaluate probe]).last.map (fun a => a.lastSafeJointTarget 0) =
        some 0 := by
    decide +kernel
  obtain ⟨a, ha, hzero⟩ := Option.map_eq_some_iff.mp hlast
  have hcaptured : ((run (Watched.step wideConfig obstructedArm round) ⟨restGenerator, none⟩
      [.captureReference, .evaluate probe]).generator.captureReference wideConfig
        obstructedArm).2.lastSafeJointTarget 0 = 1 / 100 := by
    decide +kernel
  rw [(h a ha).2, hzero] at hcaptured
  norm_num at hcaptured

/-- The same probe, but the deadline has passed after its checks. -/
def lateProbe : EvaluateCall ℚ :=
  { probe with clocks := { ClockReadings.never with afterChecks := true } }

theorem lateProbe_rejects :
    (run (Watched.step wideConfig obstructedArm round) ⟨restGenerator, none⟩
      [.captureReference]).rejects wideConfig obstructedArm round (.evaluate lateProbe) = true := by
  decide +kernel

theorem rejected_trial_probe :
    (run (Watched.step wideConfig obstructedArm round) ⟨restGenerator, none⟩
        [.captureReference]).rejects wideConfig obstructedArm round (.evaluate lateProbe) = true ∧
      ∀ past, past <+: [.captureReference, .evaluate lateProbe, .captureReference] →
        (run (Watched.step wideConfig obstructedArm round) ⟨restGenerator, none⟩ past).Stands
          wideConfig obstructedArm := by
  refine ⟨lateProbe_rejects, (rejected_trial wideConfig obstructedArm round restGenerator
    [.captureReference, .evaluate lateProbe, .captureReference]
    ⟨trivial, Watched.returns_of_rejects lateProbe_rejects, trivial, trivial⟩).1
    ⟨trivial, fun _ _ => ?_, trivial, trivial⟩⟩
  exact .inr ⟨.inl rfl, fun _ _ => .inl rfl⟩

end HandLab.TargetGenerator
