import HandLab.TargetGenerator.Authority

/-!
# Where acceptance is judged

`set_arm_joints_rad` clips the selected candidate to the soft margin before the
kinematics, the contacts and the Jacobian are read; what is returned and
committed is the candidate itself.

* `evaluate_passed`: the gates of an accepted evaluation hold for the clipped
  joints, and the margin rule for the returned ones.
* `clip_of_withinMargin`: near a reference inside the margin, only joints that the
  clip does not move pass the margin rule.
* `accepted_joints`: the gates hold for the returned joints of a call whose branch
  references are inside the margin.
* `retreat_collides`: a retreat from outside the margin, accepted at a collision.
-/

namespace HandLab.TargetGenerator

open HandLab.Lib Double NumPy PyMath
open HandLab.Teleoperation (Pose3D allFinite)
open SharedJakaTargetGenerator

variable {δ : Type*} [PyMath δ]

/-! ## The gates -/

/-- The pose, contact and Jacobian gates at joints `q`, from the seed. -/
def GatesAt (config : GeneratorConfig δ) (arm : Arm δ) (target : Pose3D δ) (seed q : Joints δ) :
    Prop :=
  lt config.feasibility.ikPositionToleranceM
      (norm fun i => sub (target.positionM i) ((arm.fk q).positionM i)) = false ∧
    (config.orientationEnabled = true →
      lt config.feasibility.ikOrientationToleranceRad
        (arm.rotationError target.quaternionXyzw (arm.fk q).quaternionXyzw) = false) ∧
    arm.contacts q = [] ∧
    (hardSingularity config.feasibility (arm.jacobianQuality q) = false ∨
      hardSingularity config.feasibility (arm.jacobianQuality seed) = true ∧
        directionOf config.feasibility
          (sub (singularityRisk config.feasibility (arm.jacobianQuality q))
            (singularityRisk config.feasibility (arm.jacobianQuality seed))) = .away)

/-- Every joint is inside its soft margin, or no further out than a reference
    beyond the same side. -/
def WithinMargin (margin : δ) (reference q : Joints δ) : Prop :=
  ∀ i, (lt (q i) (safeLower margin i) = false ∨
      lt (reference i) (safeLower margin i) = true ∧
        le (sub (reference i) (ofRat (1 / 10 ^ 9))) (q i) = true) ∧
    (lt (safeUpper margin i) (q i) = false ∨
      lt (q i) (safeLower margin i) = true ∨
      lt (safeUpper margin i) (reference i) = true ∧
        le (q i) (add (reference i) (ofRat (1 / 10 ^ 9))) = true)

/-- The gates for the joints of a result, at the clipped joints, and the margin rule
    near one of the references. -/
def Passed (config : GeneratorConfig δ) (arm : Arm δ) (target : Pose3D δ)
    (references : Set (Joints δ)) (result : FeasibilityResult δ) : Prop :=
  ∀ q m, result.jointTargetRad = some q → result.metrics = some m →
    GatesAt config arm target m.ikSeedRad (clipJointsToSafeLimits config.ikMargin q) ∧
      m.branchReferenceRad ∈ references ∧
      WithinMargin config.feasibility.jointLimitMarginRad m.branchReferenceRad q

section Gates

variable {config : GeneratorConfig δ} {arm : Arm δ} {s s' : SharedJakaTargetGenerator δ}
  {clocks : ClockReadings} {target : Pose3D δ} {dt : δ} {reference : Joints δ} {generatedNs : ℤ}

theorem withinMargin_of_blockers {margin : δ} {q : Joints δ}
    (h : jointMarginBlockersAllowingRetreat margin q reference = []) :
    WithinMargin margin reference q := by
  intro i
  unfold jointMarginBlockersAllowingRetreat at h
  rw [List.filterMap_eq_nil_iff] at h
  have hi := h i (List.mem_finRange i)
  unfold marginBlocker? at hi
  split at hi
  · cases hi
  rename_i hlower
  split at hi
  · cases hi
  rename_i hupper
  constructor
  · cases hq : lt (q i) (safeLower margin i) with
    | false => exact .inl rfl
    | true =>
      right
      simpa [hq] using hlower
  · cases hq : lt (safeUpper margin i) (q i) with
    | false => exact .inl rfl
    | true =>
      right
      right
      simpa [hq] using hupper

theorem contacts_nil {kinds : List PairKind} (hself : kinds.contains .self = false)
    (henvironment : kinds.contains .environment = false) : kinds = [] := by
  cases kinds with
  | nil => rfl
  | cons kind rest =>
    cases kind with
    | self => simp at hself
    | environment => simp at henvironment

/-- What an accepted classification says. -/
theorem classify_accepted {limits : FeasibilityLimits δ} {m : CandidateMetrics δ}
    (h : classifyCandidate limits m = .accepted) :
    lt limits.ikPositionToleranceM m.ikErrorM = false ∧
      lt limits.ikOrientationToleranceRad m.ikOrientationErrorRad = false ∧
      m.jointLimitBlockers = [] ∧ m.selfCollision = false ∧ m.environmentCollision = false := by
  unfold classifyCandidate at h
  split at h
  · cases h
  split at h
  · cases h
  split at h
  · cases h
  split at h
  · cases h
  split at h
  · cases h
  rename_i hposition
  split at h
  · cases h
  rename_i horientation
  split at h
  · cases h
  rename_i hblockers
  split at h
  · cases h
  rename_i hself
  split at h
  · cases h
  rename_i henvironment
  refine ⟨by simpa using hposition, by simpa using horientation, ?_, by simpa using hself,
    by simpa using henvironment⟩
  simpa using hblockers

theorem gateReason_accepted {latched : Bool} {currentQuality : δ × δ} {c : Candidate δ}
    (hcurrent : currentQuality = arm.jacobianQuality s.lastSafeJointTarget)
    (h : gateReason config latched
      (s.candidateMetrics config arm target dt reference currentQuality c) = .accepted) :
    GatesAt config arm target s.lastSafeJointTarget
        (clipJointsToSafeLimits config.ikMargin c.joints) ∧
      WithinMargin config.feasibility.jointLimitMarginRad reference c.joints := by
  subst hcurrent
  unfold gateReason at h
  split at h
  · cases h
  rename_i hhard
  split at h
  · cases h
  obtain ⟨hposition, horientation, hblockers, hself, henvironment⟩ := classify_accepted h
  rw [candidateMetrics, List.append_eq_nil_iff] at hblockers
  refine ⟨⟨hposition, fun henabled => ?_, contacts_nil hself henvironment, ?_⟩,
    withinMargin_of_blockers hblockers.1⟩
  · rw [candidateMetrics] at horientation
    dsimp only at horientation
    rwa [if_pos henabled] at horientation
  · rw [Bool.and_eq_true, not_and_or] at hhard
    rcases hhard with hhard | haway
    · exact .inl (Bool.eq_false_iff.mpr hhard)
    · right
      simpa [candidateMetrics] using haway

variable {r : FeasibilityResult δ}

theorem judgeFrom_passed
    (h : s.judgeFrom config arm clocks target dt reference generatedNs = (.ok (.final r), s')) :
    Passed config arm target {reference} r := by
  obtain ⟨-, c, t, latched, reason, -, ht, hreason, rfl, -⟩ := judgeFrom_judges h
  intro q m hq hm
  unfold resultOf at hq hm
  dsimp only at hq hm
  split at hq
  · rename_i haccepted
    cases hq
    cases hm
    have hgated := (hreason haccepted).symm.trans haccepted
    obtain ⟨hgates, hmargin⟩ := gateReason_accepted (by rw [ht]) hgated
    exact ⟨hgates, rfl, hmargin⟩
  · cases hq

variable {references : Set (Joints δ)}

theorem passed_exit (reason : FeasibilityReason) :
    Passed config arm target references (exitResult reason) := by
  intro q m hq
  cases hq

theorem Passed.mono {references' : Set (Joints δ)} (h : Passed config arm target references r)
    (hsubset : references ⊆ references') : Passed config arm target references' r := by
  intro q m hq hm
  obtain ⟨hgates, hreference, hmargin⟩ := h q m hq hm
  exact ⟨hgates, hsubset hreference, hmargin⟩

theorem trial_passed {dtS : δ}
    (h : s.trial config arm clocks target dtS reference generatedNs = (.ok r, s')) :
    Passed config arm target {reference} r := by
  obtain ⟨reason, rfl⟩ | ⟨after, hfinal⟩ := trial_cases h
  · exact passed_exit reason
  · exact judgeFrom_passed hfinal

/-- The recovery returns one of its candidates, with other diagnostics. -/
theorem passed_recoveryResult {primary : FeasibilityResult δ}
    {trial : Option (FeasibilityResult δ)} (hp : Passed config arm target references primary)
    (ht : ∀ r ∈ trial, Passed config arm target references r) :
    Passed config arm target references (recoveryResult config primary trial) := by
  have hselected : ∀ selected : FeasibilityResult δ, Passed config arm target references selected →
      ∀ reason alternate, Passed config arm target references { selected with
        reason, metrics := selected.metrics.map (recoveredMetrics primary trial alternate) } := by
    intro selected hselected reason alternate q m hq hm
    rw [Option.map_eq_some_iff] at hm
    obtain ⟨m', hm', rfl⟩ := hm
    exact hselected q m' hq hm'
  unfold recoveryResult
  refine hselected _ ?_ _ _
  split
  · cases trial with
    | none => exact hp
    | some r => exact ht r rfl
  · exact hp

/-- The branch references of a call and of the trial of its recovery. -/
def branchReferences (config : GeneratorConfig δ) (s : SharedJakaTargetGenerator δ)
    (call : EvaluateCall δ) : Set (Joints δ) :=
  {q | q = s.branchReference call.freshMeasuredJointPositionRad ∨
    config.ikSolverMode = .jointLimitMultibranch ∧
      q = call.freshMeasuredJointPositionRad.getD (towardSafeSeed config s.lastSafeJointTarget)}

/-- **An accepted evaluation** has passed the gates at its clipped joints. -/
theorem evaluate_passed {roundNs : δ → ℤ} {call : EvaluateCall δ}
    (h : s.evaluate config arm roundNs call = (.ok r, s')) :
    Passed config arm call.target (branchReferences config s call) r := by
  obtain ⟨-, rfl, -⟩ | ⟨-, _, _, judged, _, -, ⟨hretains, -⟩, hjudged, h⟩ := evaluate_cases h
  · exact passed_exit _
  cases judged with
  | early result =>
    obtain ⟨rfl, -⟩ := h
    obtain ⟨⟨reason, rfl⟩, -⟩ := judgeFrom_early hjudged
    exact passed_exit reason
  | final primary =>
    obtain ⟨hcoherent, hretains', -⟩ := judgeFrom_final hjudged
    have hpassed : Passed config arm call.target (branchReferences config s call) primary :=
      (judgeFrom_passed hjudged).mono (Set.singleton_subset_iff.mpr (.inl rfl))
    dsimp only at h
    split at h
    · rename_i hattempt
      obtain ⟨trial, hruns, hrecovers⟩ := tryJointLimitRecovery_recovers hcoherent h
      rw [hrecovers.result]
      refine passed_recoveryResult hpassed fun t ht => ?_
      cases ht
      obtain ⟨-, _, htrial⟩ := hruns
      rw [hretains'.1.trans hretains.1] at htrial
      exact (trial_passed htrial).mono (Set.singleton_subset_iff.mpr
        (.inr ⟨multibranch_of_shouldAttempt hattempt, rfl⟩))
    · rw [settle_returns hcoherent h]
      exact hpassed

end Gates

/-! ## Where the gates hold -/

/-- The call accepts joints `q` with metrics `m`. -/
def Accepts (config : GeneratorConfig δ) (arm : Arm δ) (s : SharedJakaTargetGenerator δ)
    (roundNs : δ → ℤ) (call : EvaluateCall δ) (q : Joints δ) (m : CandidateMetrics δ) : Prop :=
  ∃ r, (s.evaluate config arm roundNs call).1 = .ok r ∧ r.accepted = true ∧
    r.jointTargetRad = some q ∧ r.metrics = some m

/-- The gates hold for the very joints the call accepts. -/
def JudgedAtTarget (config : GeneratorConfig δ) (arm : Arm δ) (s : SharedJakaTargetGenerator δ)
    (roundNs : δ → ℤ) (call : EvaluateCall δ) : Prop :=
  ∀ q m, Accepts config arm s roundNs call q m →
    GatesAt config arm call.target m.ikSeedRad q ∧
      WithinMargin config.feasibility.jointLimitMarginRad m.branchReferenceRad q

/-- Every joint is inside its soft margin. -/
def InsideMargin (margin : δ) (q : Joints δ) : Prop :=
  ∀ i, lt (q i) (safeLower margin i) = false ∧ lt (safeUpper margin i) (q i) = false

theorem clip_of_withinMargin {margin : δ} {reference q : Joints δ}
    (hreference : InsideMargin margin reference) (h : WithinMargin margin reference q) :
    clipJointsToSafeLimits margin q = q := by
  funext i
  obtain ⟨hlower, hupper⟩ := hreference i
  obtain ⟨hbelow, habove⟩ := h i
  have hlow : lt (q i) (safeLower margin i) = false := by
    rcases hbelow with hlow | ⟨houtside, -⟩
    · exact hlow
    · rw [hlower] at houtside
      cases houtside
  have hhigh : lt (safeUpper margin i) (q i) = false := by
    rcases habove with hhigh | hbelow | ⟨houtside, -⟩
    · exact hhigh
    · rw [hlow] at hbelow
      cases hbelow
    · rw [hupper] at houtside
      cases houtside
  unfold clipJointsToSafeLimits npClip
  simp [hlow, hhigh]

/-- **Accepted joints** pass the gates themselves, if the margin is not negative and
    every branch reference of the call is inside it. -/
theorem accepted_joints (config : GeneratorConfig δ) (arm : Arm δ)
    (s : SharedJakaTargetGenerator δ) (roundNs : δ → ℤ) (call : EvaluateCall δ)
    (hmargin : abs config.feasibility.jointLimitMarginRad = config.feasibility.jointLimitMarginRad)
    (hinside : ∀ reference ∈ branchReferences config s call,
      InsideMargin config.feasibility.jointLimitMarginRad reference) :
    JudgedAtTarget config arm s roundNs call := by
  rintro q m ⟨r, hr, -, hq, hm⟩
  have heq : s.evaluate config arm roundNs call =
      (.ok r, (s.evaluate config arm roundNs call).2) := Prod.ext hr rfl
  obtain ⟨hgates, hreference, hwithin⟩ := evaluate_passed heq q m hq hm
  rw [GeneratorConfig.ikMargin, hmargin,
    clip_of_withinMargin (hinside _ hreference) hwithin] at hgates
  exact ⟨hgates, hwithin⟩

/-! ## A collision on the way back from a limit -/

attribute [local instance] exactPyMath

/-- An arm whose first joint moves the tool a centimetre a radian, with an
    obstacle near the joint's limit. -/
def edgeArm : Arm ℚ where
  fk q := firstPose (q 0 / 100)
  contacts q := if q 0 = 311 / 50 then [.environment] else []
  jacobianQuality _ := (1, 1)
  taskError target q := if target.positionM 0 < q 0 / 100 then q 0 / 100 - target.positionM 0
    else target.positionM 0 - q 0 / 100
  dlsStep target _ := firstJoint (target.positionM 0 * 100)
  rotationError _ _ := 0

/-- A generator synchronized beyond the soft margin of the first joint. -/
def edgeGenerator : SharedJakaTargetGenerator ℚ where
  ik := .authoritative (firstJoint (25 / 4))
  initialTcp := firstPose (1 / 16)
  lastSafeTarget := firstPose (1 / 16)
  lastSafeJointTarget := firstJoint (25 / 4)
  lastSafeJointVelocity := fun _ => 0
  outputFeasibility := .reset 8000000 (firstJoint (25 / 4))
  acceptedMetrics := []
  singularitySlowdownLatched := false
  syntheticGeneratedMonotonicNs := 1000000000
  computeBudgetExhaustedCount := 0
  holdCount := 0

/-- A target on the way back. -/
def retreat : EvaluateCall ℚ where
  target := firstPose (311 / 5000)
  dtS := 1 / 60
  generatedMonotonicNs := some 2000000000
  freshMeasuredJointPositionRad := some (firstJoint (25 / 4))
  clocks := .never
  beforeTrial := false
  trialClocks := .never

/-- The contacts were those of the clipped joints. -/
theorem retreat_collides :
    ∃ r, (edgeGenerator.evaluate wideConfig edgeArm round retreat).1 = .ok r ∧
      r.accepted = true ∧ r.jointTargetRad = some (firstJoint (311 / 50)) ∧
      edgeArm.contacts (firstJoint (311 / 50)) = [.environment] := by
  have h : (match (edgeGenerator.evaluate wideConfig edgeArm round retreat).1 with
      | .ok r => r.accepted && decide (r.jointTargetRad = some (firstJoint (311 / 50)))
      | .error _ => false) = true := by
    decide +kernel
  revert h
  cases (edgeGenerator.evaluate wideConfig edgeArm round retreat).1 with
  | error error => intro h; cases h
  | ok r =>
    intro h
    rw [Bool.and_eq_true, decide_eq_true_eq] at h
    exact ⟨r, rfl, h.1, h.2, by decide +kernel⟩

/-- The gates with the joint-limit recovery. -/
def recoveryConfig : GeneratorConfig ℚ :=
  { wideConfig with ikSolverMode := .jointLimitMultibranch }

/-- The generator inside the soft margin, in the avoidance zone. -/
def zoneGenerator : SharedJakaTargetGenerator ℚ :=
  { edgeGenerator with lastSafeJointTarget := firstJoint (59 / 10) }

/-- A target further out, but inside the margin. -/
def approach : EvaluateCall ℚ :=
  { retreat with target := firstPose (119 / 2000), freshMeasuredJointPositionRad := none }

theorem approach_accepted : ∃ q m,
    Accepts recoveryConfig edgeArm zoneGenerator round approach q m ∧ q = firstJoint (119 / 20) := by
  have h : (match (zoneGenerator.evaluate recoveryConfig edgeArm round approach).1 with
      | .ok r => r.accepted && decide (r.jointTargetRad = some (firstJoint (119 / 20))) &&
          r.metrics.isSome
      | .error _ => false) = true := by
    decide +kernel
  revert h
  cases hr : (zoneGenerator.evaluate recoveryConfig edgeArm round approach).1 with
  | error error => intro h; cases h
  | ok r =>
    intro h
    rw [Bool.and_eq_true, Bool.and_eq_true, decide_eq_true_eq] at h
    obtain ⟨m, hm⟩ := Option.isSome_iff_exists.mp h.2
    exact ⟨firstJoint (119 / 20), m, ⟨r, hr, h.1.1, h.1.2, hm⟩, rfl⟩

theorem accepted_joints_approach : ∃ q m,
    Accepts recoveryConfig edgeArm zoneGenerator round approach q m ∧ q = firstJoint (119 / 20) ∧
      GatesAt recoveryConfig edgeArm approach.target m.ikSeedRad q ∧
      WithinMargin recoveryConfig.feasibility.jointLimitMarginRad m.branchReferenceRad q := by
  obtain ⟨q, m, haccepts, hq⟩ := approach_accepted
  refine ⟨q, m, haccepts, hq, accepted_joints recoveryConfig edgeArm zoneGenerator round approach
    (by decide +kernel) ?_ q m haccepts⟩
  rintro reference (rfl | ⟨-, rfl⟩)
  · unfold InsideMargin
    decide +kernel
  · unfold InsideMargin
    decide +kernel

end HandLab.TargetGenerator
