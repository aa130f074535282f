import HandLab.TargetGenerator.Authority

/-!
# Continuity of accepted joint targets

The jump of a candidate is measured from the seed of its solve, and the branch of
a periodic joint is chosen near the measured joints, or near the seed if there are
none. The trial of the joint-limit recovery has a displaced seed, and what it
accepts is committed against the target before the displacement.

* `mem_nearestChoice`, `nearestChoice_le`: the choice of a branch is a nearest one.
* `judgeFrom_reaches`: what a judged candidate is, against its own seed.
* `evaluate_commits`: the accepted joints are reached from the target or from the
  displaced seed, and committed over the target.
* `accepted_continues`: an accepted call is continuous if the recovery does not
  select its trial.
* `stepBack_jumps`: a call that commits such a trial.
-/

namespace HandLab.TargetGenerator

open HandLab.Lib Double NumPy PyMath
open HandLab.Teleoperation (Pose3D allFinite)
open SharedJakaTargetGenerator

variable {δ : Type*} [PyMath δ]

/-! ## What a call commits -/

/-- The joints of the solve from a seed, before the branch selection. -/
def solverJoints (config : GeneratorConfig δ) (arm : Arm δ) (clocks : ClockReadings)
    (target : Pose3D δ) (seed : Joints δ) : Joints δ :=
  ((IkState.authoritative seed).applyPositionTarget arm target clocks.iteration
    (Nat.max 1 config.ikIterations)).2.armJointsRad

/-- The recovery runs its trial from the displaced seed and selects it. -/
def trialSelected (config : GeneratorConfig δ) (arm : Arm δ) (s : SharedJakaTargetGenerator δ)
    (primary : FeasibilityResult δ) (call : EvaluateCall δ) (generatedNs : ℤ) : Bool :=
  let seed := towardSafeSeed config s.lastSafeJointTarget
  !call.beforeTrial &&
    match trial config arm { s with lastSafeJointTarget := seed, ik := .authoritative seed }
        call.trialClocks call.target (stepDt call.dtS)
        (call.freshMeasuredJointPositionRad.getD seed) generatedNs with
    | (.ok result, _) => selectsTrial config primary result
    | (.error _, _) => false

/-- The call attempts the recovery, and the recovery selects its trial. -/
def selectsAlternate (config : GeneratorConfig δ) (arm : Arm δ) (roundNs : δ → ℤ)
    (s : SharedJakaTargetGenerator δ) (call : EvaluateCall δ) : Bool :=
  let (generatedNs, started) :=
    s.generation config roundNs (stepDt call.dtS) call.generatedMonotonicNs
  match started.judgeFrom config arm call.clocks call.target (stepDt call.dtS)
      (s.branchReference call.freshMeasuredJointPositionRad) generatedNs with
  | (.ok (.final primary), after) =>
    shouldAttemptJointLimitRecovery config primary &&
      trialSelected config arm after primary call generatedNs
  | _ => false

/-- The seed of the solve whose candidate the call commits. -/
def committedSeed (config : GeneratorConfig δ) (arm : Arm δ) (roundNs : δ → ℤ)
    (s : SharedJakaTargetGenerator δ) (call : EvaluateCall δ) : Joints δ :=
  if selectsAlternate config arm roundNs s call then
    towardSafeSeed config s.lastSafeJointTarget
  else s.lastSafeJointTarget

/-- The joints of that solve. -/
def committedSolve (config : GeneratorConfig δ) (arm : Arm δ) (roundNs : δ → ℤ)
    (s : SharedJakaTargetGenerator δ) (call : EvaluateCall δ) : Joints δ :=
  solverJoints config arm
    (if selectsAlternate config arm roundNs s call then call.trialClocks else call.clocks)
    call.target (committedSeed config arm roundNs s call)

/-- The gates and the branch selection lead from a seed to joints `q`, with a
    branch reference. -/
structure Reaches (config : GeneratorConfig δ) (arm : Arm δ) (clocks : ClockReadings)
    (target : Pose3D δ) (seed reference q : Joints δ) : Prop where
  refuses_seed : refuses seed = none
  passes : ∀ i ∉ periodicJointIndices, q i = solverJoints config arm clocks target seed i
  jump : lt config.feasibility.maximumJointTargetJumpRad
    (maximum (((List.finRange 6).filter fun i => i ∉ periodicJointIndices).map fun i =>
      abs (sub (q i) (seed i)))) = false
  chosen : ∀ i ∈ periodicJointIndices, ∃ choice,
    nearestChoice (reference i)
        (branchChoices (solverJoints config arm clocks target seed i) i) = some choice ∧
      q i = choice.1

/-! ## The branch selection -/

section Branch

/-- A fold that keeps the better of two ends at one of them. -/
theorem mem_foldl_closer (reference : δ) (rest : List (δ × ℤ)) (first : δ × ℤ) :
    rest.foldl (fun best choice => if closer reference choice best then choice else best) first ∈
      first :: rest := by
  induction rest generalizing first with
  | nil => exact List.mem_cons_self
  | cons choice rest ih =>
    rw [List.foldl_cons]
    split
    · exact List.mem_cons_of_mem first (ih choice)
    · rcases List.mem_cons.mp (ih first) with h | h
      · rw [h]
        exact List.mem_cons_self
      · exact List.mem_cons_of_mem first (List.mem_cons_of_mem choice h)

theorem mem_nearestChoice {reference : δ} {choices : List (δ × ℤ)} {choice : δ × ℤ}
    (h : nearestChoice reference choices = some choice) : choice ∈ choices := by
  cases choices with
  | nil => cases h
  | cons first rest =>
    rw [nearestChoice, Option.some.injEq] at h
    rw [← h]
    exact mem_foldl_closer reference rest first

theorem congruent_of_mem {value : δ} {i : Fin 6} {choice : δ × ℤ}
    (h : choice ∈ branchChoices value i) : choice.1 = equivalentAngle value choice.2 := by
  unfold branchChoices at h
  obtain ⟨offset, -, rfl⟩ := List.mem_map.mp (List.mem_filter.mp h).1
  rfl

/-- What the selection leaves and what it chooses. -/
theorem selectNearest_spec {candidate reference joints : Joints δ} {offsets : Fin 6 → ℤ}
    (h : selectNearestEquivalentJointBranch candidate reference = some (joints, offsets)) :
    (∀ i ∉ periodicJointIndices, joints i = candidate i) ∧
      ∀ i ∈ periodicJointIndices, ∃ choice,
        nearestChoice (reference i) (branchChoices (candidate i) i) = some choice ∧
          joints i = choice.1 := by
  have hgeneral : ∀ (indices : List (Fin 6)) (selected result : Joints δ × (Fin 6 → ℤ)),
      indices.Nodup →
      indices.foldlM (fun selected i =>
        (nearestChoice (reference i) (branchChoices (candidate i) i)).map fun choice =>
          (Function.update selected.1 i choice.1, Function.update selected.2 i choice.2))
        selected = some result →
      (∀ i ∉ indices, result.1 i = selected.1 i) ∧
        ∀ i ∈ indices, ∃ choice,
          nearestChoice (reference i) (branchChoices (candidate i) i) = some choice ∧
            result.1 i = choice.1 := by
    intro indices
    induction indices with
    | nil =>
      intro selected result _ h
      cases h
      exact ⟨fun _ _ => rfl, fun i hi => by cases hi⟩
    | cons j indices ih =>
      intro selected result hnodup h
      obtain ⟨hj, hnodup⟩ := List.nodup_cons.mp hnodup
      rw [List.foldlM_cons, Option.bind_eq_bind, Option.bind_eq_some_iff] at h
      obtain ⟨next, hnext, h⟩ := h
      rw [Option.map_eq_some_iff] at hnext
      obtain ⟨choice, hchoice, rfl⟩ := hnext
      obtain ⟨hkept, hchosen⟩ := ih _ result hnodup h
      constructor
      · intro i hi
        rw [List.mem_cons, not_or] at hi
        rw [hkept i hi.2]
        exact Function.update_of_ne hi.1 _ _
      · intro i hi
        rcases List.mem_cons.mp hi with rfl | hi
        · refine ⟨choice, hchoice, ?_⟩
          rw [hkept i hj]
          exact Function.update_self _ _ _
        · exact hchosen i hi
  exact hgeneral periodicJointIndices _ _ (by decide) h

end Branch

/-! ## The candidates of a call -/

section Candidates

variable {config : GeneratorConfig δ} {arm : Arm δ} {s s' : SharedJakaTargetGenerator δ}
  {clocks : ClockReadings} {target : Pose3D δ} {dt : δ} {reference : Joints δ} {generatedNs : ℤ}

/-- An accepted reason has passed the jump gate. -/
theorem jump_of_classify {limits : FeasibilityLimits δ} {m : CandidateMetrics δ}
    (h : classifyCandidate limits m = .accepted) :
    lt limits.maximumJointTargetJumpRad m.maximumNonperiodicJointTargetJumpRad = false := by
  unfold classifyCandidate at h
  split at h
  · cases h
  split at h
  · cases h
  rename_i hjump
  rw [Bool.or_eq_true, not_or] at hjump
  exact Bool.eq_false_iff.mpr hjump.2

theorem classify_of_gateReason {latched : Bool} {m : CandidateMetrics δ}
    (h : gateReason config latched m = .accepted) :
    classifyCandidate config.feasibility m = .accepted := by
  unfold gateReason at h
  split at h
  · cases h
  split at h
  · cases h
  exact h

theorem solveCandidate_spec {seed : Joints δ} {c : Candidate δ}
    (h : solveCandidate config arm clocks target seed reference = .candidate c) :
    ∃ offsets, selectNearestEquivalentJointBranch (solverJoints config arm clocks target seed)
      reference = some (c.joints, offsets) := by
  unfold solveCandidate at h
  dsimp only at h
  split at h
  · cases h
  split at h
  · cases h
  split at h
  · cases h
  · rename_i hselected
    cases h
    exact ⟨_, hselected⟩

variable {r : FeasibilityResult δ}

theorem judgeFrom_reaches
    (h : s.judgeFrom config arm clocks target dt reference generatedNs = (.ok (.final r), s'))
    (haccepted : r.accepted = true) :
    ∀ q ∈ r.jointTargetRad,
      Reaches config arm clocks target s.lastSafeJointTarget reference q := by
  intro q hq
  obtain ⟨hrefuses, c, t, latched, reason, hcandidate, ht, hreason, rfl, -⟩ := judgeFrom_judges h
  have hok : reason = .accepted := by simpa [resultOf] using haccepted
  have hgate := (hreason hok).symm.trans hok
  rw [resultOf, if_pos hok] at hq
  cases hq
  obtain ⟨offsets, hselected⟩ := solveCandidate_spec hcandidate
  obtain ⟨hpasses, hchosen⟩ := selectNearest_spec hselected
  refine ⟨hrefuses, hpasses, ?_, hchosen⟩
  rw [← ht]
  exact jump_of_classify (classify_of_gateReason hgate)

theorem trial_reaches {dtS : δ}
    (h : s.trial config arm clocks target dtS reference generatedNs = (.ok r, s'))
    (haccepted : r.accepted = true) :
    ∀ q ∈ r.jointTargetRad,
      Reaches config arm clocks target s.lastSafeJointTarget reference q := by
  obtain ⟨reason, rfl⟩ | ⟨after, hfinal⟩ := trial_cases h
  · cases haccepted
  · exact judgeFrom_reaches hfinal haccepted

/-! ## The commit -/

theorem trialSelected_eq {primary : FeasibilityResult δ} {call : EvaluateCall δ}
    {trial : Option (FeasibilityResult δ)} (h : RunsTrial config arm s call generatedNs trial) :
    trialSelected config arm s primary call generatedNs =
      trial.any (selectsTrial config primary) := by
  unfold trialSelected
  cases trial with
  | none =>
    rw [h]
    rfl
  | some result =>
    obtain ⟨hbefore, after, htrial⟩ := h
    dsimp only at htrial ⊢
    rw [hbefore, htrial]
    rfl

theorem tryJointLimitRecovery_commits {primary r : FeasibilityResult δ} {call : EvaluateCall δ}
    (hp : Coherent primary)
    (h : s.tryJointLimitRecovery config arm primary call generatedNs = (.ok r, s'))
    (haccepted : r.accepted = true) :
    ∃ q, Commits s (stepDt call.dtS) q s' ∧
      (if trialSelected config arm s primary call generatedNs then
        Reaches config arm call.trialClocks call.target
          (towardSafeSeed config s.lastSafeJointTarget)
          (call.freshMeasuredJointPositionRad.getD
            (towardSafeSeed config s.lastSafeJointTarget)) q
      else primary.accepted = true ∧ primary.jointTargetRad = some q) := by
  obtain ⟨trial, hruns, hrecovers⟩ := tryJointLimitRecovery_recovers hp h
  obtain ⟨hq, hcommits⟩ := hrecovers.accepted haccepted
  refine ⟨_, hcommits, ?_⟩
  rw [trialSelected_eq hruns]
  rw [hrecovers.result] at haccepted hq
  unfold recoveryResult at haccepted hq
  dsimp only at haccepted hq
  split
  · rename_i halternate
    rw [if_pos halternate] at haccepted hq
    cases trial with
    | none => cases halternate
    | some result =>
      obtain ⟨-, after, htrial⟩ := hruns
      exact trial_reaches htrial haccepted _ hq
  · rename_i halternate
    rw [if_neg halternate] at haccepted hq
    exact ⟨haccepted, hq⟩

/-- **An accepted call** commits joints over the target before the call: those the
    trial reaches from the displaced seed, if the recovery selects it, and otherwise
    those that the target itself leads to. -/
theorem evaluate_commits {roundNs : δ → ℤ} {call : EvaluateCall δ}
    (h : s.evaluate config arm roundNs call = (.ok r, s')) (haccepted : r.accepted = true) :
    ∃ q, Commits s (stepDt call.dtS) q s' ∧
      (if selectsAlternate config arm roundNs s call then
        Reaches config arm call.trialClocks call.target
          (towardSafeSeed config s.lastSafeJointTarget)
          (call.freshMeasuredJointPositionRad.getD
            (towardSafeSeed config s.lastSafeJointTarget)) q
      else
        Reaches config arm call.clocks call.target s.lastSafeJointTarget
          (call.freshMeasuredJointPositionRad.getD s.lastSafeJointTarget) q) := by
  obtain ⟨-, rfl, -⟩ | ⟨-, generatedNs, started, judged, after, hgeneration, ⟨hretains, -⟩, hjudged,
    h⟩ := evaluate_cases h
  · cases haccepted
  cases judged with
  | early result =>
    obtain ⟨rfl, -⟩ := h
    obtain ⟨⟨_, rfl⟩, -⟩ := judgeFrom_early hjudged
    cases haccepted
  | final primary =>
    have hselects : selectsAlternate config arm roundNs s call =
        (shouldAttemptJointLimitRecovery config primary &&
          trialSelected config arm after primary call generatedNs) := by
      unfold selectsAlternate
      rw [hgeneration]
      dsimp only
      rw [hjudged]
    rw [hselects]
    dsimp only at h
    obtain ⟨hcoherent, hretains', -⟩ := judgeFrom_final hjudged
    have hafter : after.lastSafeJointTarget = s.lastSafeJointTarget :=
      hretains'.1.trans hretains.1
    have hover : ∀ {q}, Commits after (stepDt call.dtS) q s' →
        Commits s (stepDt call.dtS) q s' := by
      intro q hcommits
      refine ⟨hcommits.refuses_target, hcommits.target, ?_⟩
      rw [← hafter]
      exact hcommits.velocity
    have hprimary : primary.accepted = true → ∀ q ∈ primary.jointTargetRad,
        Reaches config arm call.clocks call.target s.lastSafeJointTarget
          (call.freshMeasuredJointPositionRad.getD s.lastSafeJointTarget) q := by
      rw [← hretains.1]
      intro hok
      have hreaches := judgeFrom_reaches hjudged hok
      rw [branchReference, ← hretains.1] at hreaches
      exact hreaches
    split at h
    · rename_i hattempt
      obtain ⟨q, hcommits, hreaches⟩ := tryJointLimitRecovery_commits hcoherent h haccepted
      refine ⟨q, hover hcommits, ?_⟩
      rw [hattempt, Bool.true_and, ← hafter]
      split
      · rename_i hselected
        rwa [if_pos hselected] at hreaches
      · rename_i hselected
        rw [if_neg hselected] at hreaches
        rw [hafter]
        exact hprimary hreaches.1 q hreaches.2
    · rename_i hattempt
      rw [Bool.not_eq_true] at hattempt
      have hresult := settle_returns hcoherent h
      subst hresult
      obtain ⟨-, hq, hcommits⟩ := settle_accepted hcoherent haccepted h
      refine ⟨_, hover hcommits, ?_⟩
      rw [hattempt, Bool.false_and]
      exact hprimary haccepted _ hq

end Candidates

/-! ## In exact arithmetic -/

section Exact

variable [Field δ] [LinearOrder δ] [IsStrictOrderedRing δ] [Exact δ]

theorem largerOf_eq (a b : δ) : largerOf a b = Max.max a b := by
  simp [largerOf, max_def_lt]

theorem le_maximum {values : List δ} {x : δ} (h : x ∈ values) : x ≤ maximum values := by
  have hfold : ∀ (l : List δ) (start : δ),
      start ≤ l.foldl largerOf start ∧ ∀ y ∈ l, y ≤ l.foldl largerOf start := by
    intro l
    induction l with
    | nil => exact fun start => ⟨le_refl start, fun y hy => by cases hy⟩
    | cons y l ih =>
      intro start
      obtain ⟨hstart, hl⟩ := ih (largerOf start y)
      rw [List.foldl_cons]
      rw [largerOf_eq] at hstart hl ⊢
      refine ⟨(le_max_left _ _).trans hstart, fun z hz => ?_⟩
      rcases List.mem_cons.mp hz with rfl | hz
      · exact (le_max_right _ _).trans hstart
      · exact hl z hz
  exact (hfold values zero).2 x h

/-- The first of the least is no further than any other choice. -/
theorem nearestChoice_le {reference : δ} {choices : List (δ × ℤ)} {choice other : δ × ℤ}
    (h : nearestChoice reference choices = some choice) (hother : other ∈ choices) :
    |choice.1 - reference| ≤ |other.1 - reference| := by
  have hcloser : ∀ a b : δ × ℤ,
      (closer reference a b = true → |a.1 - reference| ≤ |b.1 - reference|) ∧
        (closer reference a b = false → |b.1 - reference| ≤ |a.1 - reference|) := by
    intro a b
    unfold closer
    simp only [Exact.lt_eq, Exact.abs_eq, Exact.sub_eq, Exact.eq_eq, Bool.or_eq_true,
      Bool.or_eq_false_iff, Bool.and_eq_true, decide_eq_true_eq, decide_eq_false_iff_not, not_lt]
    refine ⟨fun h => ?_, fun h => h.1⟩
    rcases h with h | h
    · exact h.le
    · exact h.1.le
  have hfold : ∀ (rest : List (δ × ℤ)) (first : δ × ℤ), ∀ e ∈ first :: rest,
      |(rest.foldl (fun best choice => if closer reference choice best then choice else best)
        first).1 - reference| ≤ |e.1 - reference| := by
    intro rest
    induction rest with
    | nil =>
      intro first e he
      rw [List.mem_singleton.mp he]
      exact le_refl _
    | cons next rest ih =>
      intro first e he
      rw [List.foldl_cons]
      split
      · rename_i hnext
        rcases List.mem_cons.mp he with rfl | he
        · exact (ih next next List.mem_cons_self).trans ((hcloser _ _).1 hnext)
        · exact ih next e he
      · rename_i hnext
        rcases List.mem_cons.mp he with rfl | he
        · exact ih e e List.mem_cons_self
        rcases List.mem_cons.mp he with rfl | he
        · exact (ih first first List.mem_cons_self).trans
            ((hcloser _ _).2 (Bool.eq_false_iff.mpr hnext))
        · exact ih first e (List.mem_cons_of_mem first he)
  cases choices with
  | nil => cases h
  | cons first rest =>
    rw [nearestChoice, Option.some.injEq] at h
    rw [← h]
    exact hfold rest first other hother

/-! ### The manufacturer limits -/

theorem abs_le_limit_of_refuses {q : Joints δ} (h : refuses q = none) (i : Fin 6) :
    |q i| ≤ (jakaMini2JointLimitRad i : δ) := by
  unfold refuses at h
  split at h
  · cases h
  split at h
  · cases h
  rename_i hinside
  unfold violatesLimits at hinside
  rw [Bool.not_eq_true, List.any_eq_false] at hinside
  have hi := hinside i (List.mem_finRange i)
  simp only [Exact.lt_eq, Exact.ofRat_eq, Bool.or_eq_true, decide_eq_true_eq, not_or,
    not_lt, Rat.cast_neg] at hi
  exact abs_le.mpr hi

variable {i : Fin 6}

theorem abs_clipSolverStep_le {previous attempted : Joints δ}
    (h : |previous i| ≤ (jakaMini2JointLimitRad i : δ)) :
    |clipSolverStep previous attempted i| ≤ (jakaMini2JointLimitRad i : δ) := by
  have hlower : safeLower (zero : δ) i = -(jakaMini2JointLimitRad i : δ) := by
    simp [safeLower, safeMargin]
  have hupper : safeUpper (zero : δ) i = (jakaMini2JointLimitRad i : δ) := by
    simp [safeUpper, safeMargin]
  have hnonneg : (0 : δ) ≤ (jakaMini2JointLimitRad i : δ) := (abs_nonneg _).trans h
  obtain ⟨hlow, hhigh⟩ := abs_le.mp h
  unfold clipSolverStep clipJointsToSafeLimits npClip
  simp only [hlower, hupper, Exact.lt_eq, not_lt.mpr hlow, not_lt.mpr hhigh, decide_false,
    Bool.false_and, Bool.false_eq_true, if_false, decide_eq_true_eq]
  rw [abs_le]
  split_ifs with h1 h2 h3
  all_goals constructor <;> linarith

theorem abs_solveLoop_le (arm : Arm δ) (target : Pose3D δ) (expired : ℕ → Bool) (i : Fin 6)
    (n k : ℕ) (ik : IkState δ) (h : |ik.armJointsRad i| ≤ (jakaMini2JointLimitRad i : δ)) :
    |(ik.solveLoop arm target expired n k).2.armJointsRad i| ≤
      (jakaMini2JointLimitRad i : δ) := by
  induction n generalizing k ik with
  | zero => exact h
  | succ n ih =>
    unfold IkState.solveLoop
    split
    · exact h
    · apply ih
      unfold IkState.solveStep
      split
      · exact h
      · exact abs_clipSolverStep_le h

/-- The solver stays inside the manufacturer limits. -/
theorem abs_solverJoints_le {config : GeneratorConfig δ} {arm : Arm δ} {clocks : ClockReadings}
    {target : Pose3D δ} {seed : Joints δ} (h : refuses seed = none) (i : Fin 6) :
    |solverJoints config arm clocks target seed i| ≤ (jakaMini2JointLimitRad i : δ) := by
  have hseed : |seed i| ≤ (jakaMini2JointLimitRad i : δ) := abs_le_limit_of_refuses h i
  unfold solverJoints IkState.applyPositionTarget
  split
  · exact hseed
  · exact abs_solveLoop_le arm target clocks.iteration i _ 0 _ hseed

/-! ### Congruent angles -/

theorem equivalentAngle_eq (value : δ) (offset : ℤ) :
    equivalentAngle value offset = value + offset * 2 * PyMath.acos (Double.ofRat (-1)) := by
  simp [equivalentAngle, Double.ofInt]

theorem equivalentAngle_add (value : δ) (m n : ℤ) :
    equivalentAngle (equivalentAngle value m) n = equivalentAngle value (m + n) := by
  simp only [equivalentAngle_eq]
  push_cast
  ring

theorem periodic_limit : ∀ i ∈ periodicJointIndices, jakaMini2JointLimitRad i = 157 / 25 := by
  decide +kernel

/-- Two revolutions either way reach every congruent angle inside the limits. -/
theorem mem_branchChoices {value : δ} (hi : i ∈ periodicJointIndices)
    (hpi : (3 : δ) ≤ PyMath.acos (Double.ofRat (-1)))
    (hvalue : |value| ≤ (jakaMini2JointLimitRad i : δ)) {offset : ℤ}
    (hinside : |equivalentAngle value offset| ≤ (jakaMini2JointLimitRad i : δ)) :
    (equivalentAngle value offset, offset) ∈ branchChoices value i := by
  have hlimit : (jakaMini2JointLimitRad i : δ) = 157 / 25 := by
    rw [periodic_limit i hi]
    norm_num
  have hoffset : -2 ≤ offset ∧ offset ≤ 2 := by
    rw [hlimit] at hvalue hinside
    rw [equivalentAngle_eq] at hinside
    obtain ⟨hlow, hhigh⟩ := abs_le.mp hvalue
    obtain ⟨hlow', hhigh'⟩ := abs_le.mp hinside
    constructor
    · by_contra hsmall
      have hle : ((offset : ℤ) : δ) ≤ ((-3 : ℤ) : δ) := Int.cast_le.mpr (by omega)
      push_cast at hle
      nlinarith
    · by_contra hlarge
      have hle : ((3 : ℤ) : δ) ≤ ((offset : ℤ) : δ) := Int.cast_le.mpr (by omega)
      push_cast at hle
      nlinarith
  obtain ⟨hlow, hhigh⟩ := abs_le.mp hinside
  unfold branchChoices
  rw [List.mem_filter, List.mem_map]
  refine ⟨⟨offset, ?_, rfl⟩, ?_⟩
  · simp only [List.mem_cons, List.not_mem_nil, or_false]
    omega
  · simp only [Exact.le_eq, Exact.sub_eq, Exact.add_eq, Exact.ofRat_eq, Bool.and_eq_true,
      decide_eq_true_eq]
    push_cast
    constructor <;> linarith

/-- A committed angle `q` of joint `i`: the solver's up to revolutions, inside the
    manufacturer limits, and none such is nearer to the reference. -/
structure NearestBranch (solved reference q : δ) (i : Fin 6) : Prop where
  congruent : ∃ offset : ℤ, q = equivalentAngle solved offset
  inside : |q| ≤ (jakaMini2JointLimitRad i : δ)
  nearest : ∀ offset : ℤ, |equivalentAngle q offset| ≤ (jakaMini2JointLimitRad i : δ) →
    |q - reference| ≤ |equivalentAngle q offset - reference|

/-! ### Accepted joint targets -/

/-- The accepted joints of a call on `s` continue its target. -/
structure ContinuesTarget (config : GeneratorConfig δ) (arm : Arm δ) (roundNs : δ → ℤ)
    (s : SharedJakaTargetGenerator δ) (call : EvaluateCall δ)
    (s' : SharedJakaTargetGenerator δ) : Prop where
  jump : ∀ i ∉ periodicJointIndices,
    |s'.lastSafeJointTarget i - s.lastSafeJointTarget i| ≤
      config.feasibility.maximumJointTargetJumpRad
  velocity : ∀ i, s'.lastSafeJointVelocity i =
    (s'.lastSafeJointTarget i - s.lastSafeJointTarget i) / stepDt call.dtS
  branch : ∀ i ∈ periodicJointIndices,
    NearestBranch (committedSolve config arm roundNs s call i)
      (s.branchReference call.freshMeasuredJointPositionRad i) (s'.lastSafeJointTarget i) i

variable {config : GeneratorConfig δ} {arm : Arm δ} {clocks : ClockReadings}
  {target : Pose3D δ} {seed reference q : Joints δ}

theorem Reaches.abs_sub_le (h : Reaches config arm clocks target seed reference q)
    (hi : i ∉ periodicJointIndices) :
    |q i - seed i| ≤ config.feasibility.maximumJointTargetJumpRad := by
  have hjump := h.jump
  rw [Exact.lt_eq, decide_eq_false_iff_not, not_lt] at hjump
  refine (le_maximum ?_).trans hjump
  rw [List.mem_map]
  refine ⟨i, List.mem_filter.mpr ⟨List.mem_finRange i, by simpa using hi⟩, ?_⟩
  rw [Exact.abs_eq, Exact.sub_eq]

/-- Nothing congruent inside the limits is nearer to the branch reference. -/
theorem Reaches.nearestBranch (h : Reaches config arm clocks target seed reference q)
    (hpi : (3 : δ) ≤ PyMath.acos (Double.ofRat (-1))) (hq : refuses q = none)
    (hi : i ∈ periodicJointIndices) :
    NearestBranch (solverJoints config arm clocks target seed i) (reference i) (q i) i := by
  obtain ⟨choice, hchoice, hangle⟩ := h.chosen i hi
  have hcongruent : q i = equivalentAngle (solverJoints config arm clocks target seed i) choice.2 :=
    hangle.trans (congruent_of_mem (mem_nearestChoice hchoice))
  refine ⟨⟨choice.2, hcongruent⟩, abs_le_limit_of_refuses hq i, fun offset hlimit => ?_⟩
  rw [hcongruent, equivalentAngle_add] at hlimit
  have hmem := mem_branchChoices hi hpi (abs_solverJoints_le h.refuses_seed i) hlimit
  have hnearest := nearestChoice_le hchoice hmem
  rwa [← equivalentAngle_add, ← hcongruent, ← hangle] at hnearest

/-- **Accepted joint targets are continuous** in a call whose recovery, if it is
    attempted at all, does not select its trial from the displaced seed. -/
theorem accepted_continues {roundNs : δ → ℤ} {s s' : SharedJakaTargetGenerator δ}
    {call : EvaluateCall δ} {r : FeasibilityResult δ}
    (hpi : (3 : δ) ≤ PyMath.acos (Double.ofRat (-1)))
    (h : s.evaluate config arm roundNs call = (.ok r, s')) (haccepted : r.accepted = true)
    (hprimary : selectsAlternate config arm roundNs s call = false) :
    ContinuesTarget config arm roundNs s call s' := by
  obtain ⟨q, hcommits, hreaches⟩ := evaluate_commits h haccepted
  rw [hprimary, if_neg (by simp)] at hreaches
  have hdt : stepDt (stepDt call.dtS) = stepDt call.dtS := by
    rw [stepDt, stepDt, largerOf_eq, largerOf_eq, max_assoc, max_self]
  refine ⟨fun i hi => ?_, fun i => ?_, fun i hi => ?_⟩
  · rw [hcommits.target]
    exact hreaches.abs_sub_le hi
  · rw [hcommits.velocity, hcommits.target, hdt]
    dsimp only
    rw [Exact.div_eq, Exact.sub_eq]
  · unfold committedSolve committedSeed branchReference
    rw [hprimary, hcommits.target]
    exact hreaches.nearestBranch hpi hcommits.refuses_target hi

end Exact

/-! ## A jump behind the displaced seed -/

attribute [local instance] exactPyMath

/-- A solver step of at most 0.04 rad. -/
def boundedStep (q goal : ℚ) : ℚ := q + npClip (goal - q) (-(1 / 25)) (1 / 25)

/-- An arm whose second joint moves the tool a centimetre a radian; the solver
    takes the third with it. -/
def foldingArm : Arm ℚ where
  fk q := firstPose ((q 1 - 81 / 50) / 100)
  contacts _ := []
  jacobianQuality _ := (1, 1)
  taskError target q := Double.abs (target.positionM 0 - (q 1 - 81 / 50) / 100)
  dlsStep target q :=
    ![0, boundedStep (q 1) (81 / 50 + target.positionM 0 * 100), boundedStep (q 2) (49 / 25),
      0, 0, 0]
  rotationError _ _ := 0

/-- The jump, the solver and the mode of the live demonstration. -/
def recoveringConfig : GeneratorConfig ℚ :=
  { wideConfig with
    feasibility := { wideConfig.feasibility with maximumJointTargetJumpRad := 11 / 50 }
    ikIterations := 24
    ikMaxStepRad := 1 / 25
    ikSolverMode := .jointLimitMultibranch }

/-- A generator at rest with two joints in the avoidance zone. -/
def foldedGenerator : SharedJakaTargetGenerator ℚ where
  ik := .authoritative ![0, 19 / 10, 39 / 20, 0, 0, 0]
  initialTcp := firstPose (7 / 2500)
  lastSafeTarget := firstPose (7 / 2500)
  lastSafeJointTarget := ![0, 19 / 10, 39 / 20, 0, 0, 0]
  lastSafeJointVelocity := fun _ => 0
  outputFeasibility := .reset 8000000 ![0, 19 / 10, 39 / 20, 0, 0, 0]
  acceptedMetrics := []
  singularitySlowdownLatched := false
  syntheticGeneratedMonotonicNs := 1000000000
  computeBudgetExhaustedCount := 0
  holdCount := 0

/-- A target three millimetres away. -/
def stepBack : EvaluateCall ℚ where
  target := firstPose 0
  dtS := 1 / 60
  generatedMonotonicNs := some 2000000000
  freshMeasuredJointPositionRad := none
  clocks := .never
  beforeTrial := false
  trialClocks := .never

/-- The trial from 1.82 rad ends at 1.62 rad and is selected. -/
theorem stepBack_accepted : ∃ r s',
    foldedGenerator.evaluate recoveringConfig foldingArm round stepBack = (.ok r, s') ∧
      r.accepted = true ∧ s'.lastSafeJointTarget 1 = 81 / 50 := by
  have h : (match foldedGenerator.evaluate recoveringConfig foldingArm round stepBack with
      | (.ok r, s') => r.accepted && decide (s'.lastSafeJointTarget 1 = 81 / 50)
      | (.error _, _) => false) = true := by
    decide +kernel
  revert h
  generalize foldedGenerator.evaluate recoveringConfig foldingArm round stepBack = outcome
  obtain ⟨result, s'⟩ := outcome
  cases result with
  | error error => intro h; cases h
  | ok r =>
    intro h
    rw [Bool.and_eq_true, decide_eq_true_eq] at h
    exact ⟨r, s', rfl, h.1, h.2⟩

/-- A target two tenths of a millimetre away, for which the recovery runs in vain. -/
def stepAside : EvaluateCall ℚ := { stepBack with target := firstPose (13 / 5000) }

theorem accepted_continues_stepAside : ∃ r s',
    foldedGenerator.evaluate recoveringConfig foldingArm round stepAside = (.ok r, s') ∧
      r.accepted = true ∧ s'.lastSafeJointTarget 1 = 47 / 25 ∧
      ContinuesTarget recoveringConfig foldingArm round foldedGenerator stepAside s' := by
  have h : (match foldedGenerator.evaluate recoveringConfig foldingArm round stepAside with
      | (.ok r, s') => r.accepted && decide (s'.lastSafeJointTarget 1 = 47 / 25)
      | (.error _, _) => false) = true := by
    decide +kernel
  revert h
  cases houtcome : foldedGenerator.evaluate recoveringConfig foldingArm round stepAside with
  | mk result s' =>
    cases result with
    | error error => intro h; cases h
    | ok r =>
      intro h
      rw [Bool.and_eq_true, decide_eq_true_eq] at h
      exact ⟨r, s', rfl, h.1, h.2,
        accepted_continues (by decide +kernel) houtcome h.1 (by decide +kernel)⟩

/-- The committed target is 0.28 rad from the target before. -/
theorem stepBack_jumps : ∃ r s',
    foldedGenerator.evaluate recoveringConfig foldingArm round stepBack = (.ok r, s') ∧
      r.accepted = true ∧
      ¬ContinuesTarget recoveringConfig foldingArm round foldedGenerator stepBack s' := by
  obtain ⟨r, s', h, haccepted, htarget⟩ := stepBack_accepted
  refine ⟨r, s', h, haccepted, fun hcontinues => ?_⟩
  have hjump := hcontinues.jump 1 (by decide)
  rw [htarget] at hjump
  revert hjump
  decide +kernel

end HandLab.TargetGenerator
