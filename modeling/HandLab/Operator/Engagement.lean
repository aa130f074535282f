import HandLab.Operator.Pipeline
import Mathlib.Algebra.BigOperators.Field

/-!
# The engagement of the operator pipeline

What a valid output of `RightHandOperatorPipeline` says about the calls before
it, in exact arithmetic. A history lists the calls newest first; `since` is the
part of it back to the engage request.

* `Watched`: every sample since was tracked, fresh and complete, and no two
  consecutive ones are a jump apart.
* `Captured`: an engage request, then a capture request, then samples inside the
  workspace of the captured reference.
* `tracks_apply`: what the state says of the history, kept by every call whose squares do not
  overflow.
* `operator_engagement`: valid outputs are engaged, the others are neutral.
* `far_sample_forgotten`: a sample so far away that a square overflows is forgotten.
-/

namespace HandLab.Operator

open HandLab.Lib Double NumPy PyMath
open HandLab.Teleoperation (Vector3 QuaternionXyzw)

/-! ## Histories -/

structure WristSample (δ : Type*) [PyMath δ] where
  pose : Pose6D δ
  hostSequence : Option ℕ

namespace OperatorCall

variable {δ : Type*} [PyMath δ]

/-- The wrist sample of a call. -/
def sample? : OperatorCall δ → Option (WristSample δ)
  | .step quest _ => quest.right.wristPose.map fun pose => ⟨pose, quest.right.hostSequenceNumber⟩
  | .forceFault _ _ => none

/-- The call requests engagement. -/
def Engages : OperatorCall δ → Prop
  | .step _ request => request.engageRequest = true
  | .forceFault _ _ => False

/-- The call requests the capture of a reference. -/
def Captures : OperatorCall δ → Prop
  | .step _ request => request.captureReferenceRequest = true
  | .forceFault _ _ => False

end OperatorCall

/-- The right hand is tracked, fresh and complete. -/
def Sound (config : RightHandOperatorConfig ℝ) (hand : QuestHandObservation ℝ) : Prop :=
  hand.trackingValid = true ∧ hand.wristPose.isSome = true ∧
    (∃ age, hand.streamAgeS = some age ∧ age ≤ config.staleAfterS) ∧
    hand.jointCount = requiredJointCount

/-- A safe step without a disengage request, or a `force_fault` that was refused
    for its blank reason. -/
def OperatorCall.Steady (config : RightHandOperatorConfig ℝ) : OperatorCall ℝ → Prop
  | .step quest request =>
    Sound config quest.right ∧ request.malformedData = false ∧ request.frozenStream = false ∧
      request.disengageRequest = false
  | .forceFault _ reason => reason.toList.all Quest.ControllerProvider.isSpace = true

/-- The distance of two positions. -/
noncomputable def separation (a b : Vector3 ℝ) : ℝ :=
  Real.sqrt (∑ i, (a i - b i) * (a i - b i))

/-- The newer sample repeats the older one, or is within the jump limits of it. -/
def Near (config : RightHandOperatorConfig ℝ) (newer older : WristSample ℝ) : Prop :=
  newer = older ∨
    separation newer.pose.positionM older.pose.positionM ≤ config.jumpRejectTranslationM ∧
      quaternionDistance newer.pose.orientationXyzw older.pose.orientationXyzw ≤
        config.jumpRejectRotationRad

/-- The translation lies in the workspace box. -/
def Inside (config : RightHandOperatorConfig ℝ) (translation : Vector3 ℝ) : Prop :=
  ∀ i, config.workspaceMinM i ≤ translation i ∧ translation i ≤ config.workspaceMaxM i

/-- The sample of the call is in the workspace of the reference. -/
def OperatorCall.Contained (config : RightHandOperatorConfig ℝ) (reference : Pose6D ℝ)
    (c : OperatorCall ℝ) : Prop :=
  ∀ sample, c.sample? = some sample → ∀ translation,
    RightHandOperatorPipeline.relativeTranslation config reference sample.pose = some translation →
      Inside config translation

/-- All calls are steady and consecutive samples are near. -/
def Watched (config : RightHandOperatorConfig ℝ) (since : List (OperatorCall ℝ)) : Prop :=
  (∀ c ∈ since, c.Steady config) ∧
    (since.filterMap OperatorCall.sample?).IsChain (Near config)

/-- The oldest call requests engagement. -/
def Armed (since : List (OperatorCall ℝ)) : Prop :=
  ∃ between engage, since = between ++ [engage] ∧ engage.Engages

/-- An engage request, a later capture of the reference, and no violation of its
    workspace after. -/
def Captured (config : RightHandOperatorConfig ℝ) (since : List (OperatorCall ℝ))
    (reference : WristSample ℝ) : Prop :=
  ∃ later capture between engage, since = later ++ capture :: (between ++ [engage]) ∧
    engage.Engages ∧ capture.Captures ∧ capture.sample? = some reference ∧
      ∀ c ∈ later, c.Contained config reference.pose

/-- The host sequence number determines the wrist pose. -/
def Determined (wrist : ℕ → Pose6D ℝ) (c : OperatorCall ℝ) : Prop :=
  ∀ sample, c.sample? = some sample → ∃ n, sample = ⟨wrist n, some n⟩

/-- Where the jump test applies to a safe sample, no square of a coordinate of its difference
    to the remembered sample overflows. -/
def OperatorCall.NoOverflow (config : RightHandOperatorConfig ℝ)
    (p : RightHandOperatorPipeline ℝ) : OperatorCall ℝ → Prop
  | .step quest request =>
    unsafeReason config quest request = none → request.disengageRequest = false →
      p.JumpTested quest.right.hostSequenceNumber → ∀ pose last,
        quest.right.wristPose = some pose → p.lastInputPose = some last →
          ∀ i, |pose.positionM i - last.positionM i| < overflowThreshold →
            (pose.positionM i - last.positionM i) * (pose.positionM i - last.positionM i) <
              overflowThreshold
  | .forceFault _ _ => True

/-! ## Safe samples -/

variable {config : RightHandOperatorConfig ℝ} {quest : CanonicalQuestState ℝ}
  {request : StepRequest} {wrist : ℕ → Pose6D ℝ}

theorem sound_of_unsafeReason (h : unsafeReason config quest request = none) :
    Sound config quest.right ∧ request.malformedData = false ∧ request.frozenStream = false := by
  unfold unsafeReason at h
  dsimp only at h
  split at h
  · cases h
  rename_i hmalformed
  split at h
  · cases h
  rename_i hfrozen
  split at h
  · split at h <;> cases h
  rename_i htracked
  split at h
  · cases h
  rename_i hfresh
  split at h
  · cases h
  rename_i hjoints
  rw [Bool.or_eq_true, not_or] at htracked
  obtain ⟨htracking, hpose⟩ := htracked
  refine ⟨⟨by simpa using htracking, ?_, ?_, not_not.mp hjoints⟩, by simpa using hmalformed,
    by simpa using hfrozen⟩
  · rw [Option.isSome_iff_ne_none]
    simpa using hpose
  · cases hage : quest.right.streamAgeS with
    | none => simp [hage] at hfresh
    | some age =>
      rw [hage] at hfresh
      refine ⟨age, rfl, ?_⟩
      simpa using hfresh

/-! ## The jump test -/

theorem distance_some {a b : Vector3 ℝ} {d : ℝ} (h : distance a b = some d) :
    d = separation a b := by
  unfold distance at h
  simp only [Option.bind_eq_some_iff, Option.map_eq_some_iff] at h
  obtain ⟨x, hx, y, hy, z, hz, rfl⟩ := h
  rw [square_some hx, square_some hy, square_some hz, tupleSum_real]
  unfold separation
  rw [Fin.sum_univ_three, Fin.sum_univ_three]
  rfl

/-- The jump test raises nothing where no square overflows. -/
theorem distance_isSome {a b : Vector3 ℝ} (h : ∀ i, |a i - b i| < overflowThreshold →
      (a i - b i) * (a i - b i) < overflowThreshold) : ∃ d, distance a b = some d := by
  have hsquare : ∀ i, square (sub (a i) (b i)) = some ((a i - b i) * (a i - b i)) := by
    intro i
    rw [Exact.sub_eq, square_real, if_neg]
    rintro ⟨hfinite, hlarge⟩
    exact absurd (h i hfinite) (not_lt.mpr hlarge)
  unfold distance
  rw [hsquare, hsquare, hsquare]
  exact ⟨_, rfl⟩

/-! ## The arithmetic of the filter -/

theorem normalizedQuaternion_unit {q u : QuaternionXyzw ℝ}
    (h : normalizedQuaternion q = some u) : ∑ i, u i * u i = 1 := by
  have hsquares : quaternionNorm q = Real.sqrt (∑ i, q i * q i) :=
    congrArg Real.sqrt (tupleSum_real _)
  unfold normalizedQuaternion at h
  split at h
  · cases h
  · rename_i hne
    have hnonzero : quaternionNorm q ≠ 0 := by simpa using hne
    cases h
    have hnonneg : 0 ≤ ∑ i, q i * q i := Finset.sum_nonneg fun i _ => mul_self_nonneg (q i)
    have hsquare : quaternionNorm q * quaternionNorm q = ∑ i, q i * q i := by
      rw [hsquares]
      exact Real.mul_self_sqrt hnonneg
    calc ∑ i, q i / quaternionNorm q * (q i / quaternionNorm q)
        = ∑ i, q i * q i / (quaternionNorm q * quaternionNorm q) := by
          refine Finset.sum_congr rfl fun i _ => ?_
          rw [div_mul_div_comm]
      _ = (∑ i, q i * q i) / (quaternionNorm q * quaternionNorm q) := by
          rw [Finset.sum_div]
      _ = 1 := by
          rw [← hsquare]
          exact div_self (mul_ne_zero hnonzero hnonzero)

theorem quaternionSlerp_unit {start finish u : QuaternionXyzw ℝ} {fraction : ℝ}
    (h : quaternionSlerp start finish fraction = some u) : ∑ i, u i * u i = 1 := by
  unfold quaternionSlerp at h
  dsimp only at h
  -- whichever sign and whichever formula, the result is normalised last
  split at h
  · split at h
    · exact normalizedQuaternion_unit h
    · exact normalizedQuaternion_unit h
  · split at h
    · exact normalizedQuaternion_unit h
    · exact normalizedQuaternion_unit h

theorem neutralOrientation_unit :
    ∑ i, (neutralOrientation : QuaternionXyzw ℝ) i * (neutralOrientation : QuaternionXyzw ℝ) i =
      1 := by
  rw [Fin.sum_univ_four]
  simp [neutralOrientation]

theorem inside_iff {translation : Vector3 ℝ} :
    insideWorkspace translation config.workspaceMinM config.workspaceMaxM = true ↔
      Inside config translation := by
  unfold insideWorkspace Inside
  rw [List.all_eq_true]
  constructor
  · intro h i
    simpa using h i (List.mem_finRange i)
  · intro h i _
    simpa using h i

theorem filterTimeConstant_nonneg : 0 ≤ config.filterTimeConstantS := by
  have h := config.accepted
  simp only [OperatorSettings.checked, Bool.and_eq_true, Bool.not_eq_true'] at h
  obtain ⟨⟨⟨⟨⟨⟨-, -, hnonneg⟩, -⟩, -⟩, -⟩, -⟩, -⟩ := h
  simpa using hnonneg

theorem filterAlpha_mem (p : RightHandOperatorPipeline ℝ) (nowNs : ℤ) :
    0 ≤ p.filterAlpha config nowNs ∧ p.filterAlpha config nowNs ≤ 1 := by
  have hone : (0 : ℝ) ≤ ofRat 1 ∧ (ofRat 1 : ℝ) ≤ 1 := by simp
  unfold RightHandOperatorPipeline.filterAlpha
  split
  · split
    · exact hone
    · rename_i last _ _ _ hzero
      have hpositive : 0 < config.filterTimeConstantS := by
        refine lt_of_le_of_ne filterTimeConstant_nonneg fun h => hzero ?_
        simp [← h]
      dsimp only
      generalize hdt : pyMax (zero : ℝ) (div (ofInt (nowNs - last)) (ofRat (10 ^ 9))) = dtS
      have hdtS : (0 : ℝ) ≤ dtS := by
        rw [← hdt]
        unfold pyMax
        split
        · rename_i hlt
          have : (0 : ℝ) < div (ofInt (nowNs - last)) (ofRat (10 ^ 9)) := by simpa using hlt
          exact this.le
        · simp
      have hexp : (PyMath.exp (div (HandLab.Teleoperation.negated dtS)
          config.filterTimeConstantS) : ℝ) = Real.exp (-dtS / config.filterTimeConstantS) := by
        show Real.exp _ = _
        simp [HandLab.Teleoperation.negated]
      have hle : Real.exp (-dtS / config.filterTimeConstantS) ≤ 1 := by
        rw [Real.exp_le_one_iff]
        exact div_nonpos_of_nonpos_of_nonneg (neg_nonpos.mpr hdtS) hpositive.le
      have hpos := Real.exp_pos (-dtS / config.filterTimeConstantS)
      rw [hexp, Exact.sub_eq, Exact.ofRat_eq, Rat.cast_one]
      constructor <;> linarith
  · exact hone

/-- The mean of two translations in the box is in the box. -/
theorem mixed_inside {alpha : ℝ} {previous current : Vector3 ℝ} (h0 : 0 ≤ alpha) (h1 : alpha ≤ 1)
    (hprevious : Inside config previous) (hcurrent : Inside config current) :
    Inside config (RightHandOperatorPipeline.mixed alpha previous current) := by
  intro i
  have hmixed : RightHandOperatorPipeline.mixed alpha previous current i =
      (1 - alpha) * previous i + alpha * current i := by
    simp only [RightHandOperatorPipeline.mixed, Exact.add_eq, Exact.mul_eq, Exact.sub_eq]
    ring
  obtain ⟨hp0, hp1⟩ := hprevious i
  obtain ⟨hc0, hc1⟩ := hcurrent i
  have hrest : 0 ≤ 1 - alpha := sub_nonneg.mpr h1
  rw [hmixed]
  constructor
  · calc config.workspaceMinM i
        = (1 - alpha) * config.workspaceMinM i + alpha * config.workspaceMinM i := by ring
      _ ≤ _ := add_le_add (mul_le_mul_of_nonneg_left hp0 hrest) (mul_le_mul_of_nonneg_left hc0 h0)
  · calc (1 - alpha) * previous i + alpha * current i
        ≤ (1 - alpha) * config.workspaceMaxM i + alpha * config.workspaceMaxM i :=
          add_le_add (mul_le_mul_of_nonneg_left hp1 hrest) (mul_le_mul_of_nonneg_left hc1 h0)
      _ = _ := by ring

/-! ## What the state says of the history -/

/-- The remembered sample is the newest of the part. -/
def Newest (p : RightHandOperatorPipeline ℝ) (since : List (OperatorCall ℝ)) : Prop :=
  ∃ sample, (since.filterMap OperatorCall.sample?).head? = some sample ∧
    p.lastInputPose = some sample.pose ∧ p.lastInputSequence = sample.hostSequence

/-- What the pipeline has of the calls, newest first. -/
structure Tracks (config : RightHandOperatorConfig ℝ) (wrist : ℕ → Pose6D ℝ)
    (history : List (OperatorCall ℝ)) (p : RightHandOperatorPipeline ℝ) : Prop where
  input : p.lastInputSequence = none ∧ p.lastInputPose = none ∨
    ∃ n, p.lastInputSequence = some n ∧ p.lastInputPose = some (wrist n)
  armed : p.state = .armedReferenceCapture →
    ∃ since, since <+: history ∧ Watched config since ∧ Armed since ∧ Newest p since
  engaged : p.state = .engaged →
    ∃ since reference, since <+: history ∧ Watched config since ∧
      Captured config since reference ∧ Newest p since ∧
      p.referencePose = some reference.pose ∧ p.referenceHostSequence = reference.hostSequence ∧
      (∃ translation, p.filteredTranslation = some translation ∧ Inside config translation) ∧
      ∃ orientation, p.filteredOrientation = some orientation ∧
        ∑ i, orientation i * orientation i = 1

namespace RightHandOperatorPipeline

variable {p : RightHandOperatorPipeline ℝ} {history : List (OperatorCall ℝ)}

@[simp]
theorem state_transition (nowNs : ℤ) (current : OperatorInputState) (reason : String) :
    (p.transition nowNs current reason).state = current := by
  unfold transition
  split
  · rename_i h
    exact h.symm
  · rfl

theorem transition_frame (nowNs : ℤ) (current : OperatorInputState) (reason : String) :
    (p.transition nowNs current reason).referencePose = p.referencePose ∧
      (p.transition nowNs current reason).referenceHostSequence = p.referenceHostSequence ∧
      (p.transition nowNs current reason).lastInputPose = p.lastInputPose ∧
      (p.transition nowNs current reason).lastInputSequence = p.lastInputSequence ∧
      (p.transition nowNs current reason).filteredTranslation = p.filteredTranslation ∧
      (p.transition nowNs current reason).filteredOrientation = p.filteredOrientation := by
  unfold transition
  split
  · exact ⟨rfl, rfl, rfl, rfl, rfl, rfl⟩
  · exact ⟨rfl, rfl, rfl, rfl, rfl, rfl⟩

/-- Forced to disengage, the pipeline keeps the remembered sample. -/
theorem forceDisengaged_frame (nowNs : ℤ) (reason : String) :
    (p.forceDisengaged nowNs reason).state = .disengaged ∧
      (p.forceDisengaged nowNs reason).lastInputPose = p.lastInputPose ∧
      (p.forceDisengaged nowNs reason).lastInputSequence = p.lastInputSequence := by
  unfold forceDisengaged
  obtain ⟨-, -, hpose, hsequence, -, -⟩ := transition_frame
    (p := { p with
      referencePose := none
      referenceHostSequence := none
      filteredTranslation := none
      filteredOrientation := none
      lastOutputNs := none }) nowNs .disengaged reason
  exact ⟨state_transition _ _ _, hpose, hsequence⟩

theorem rememberInput_frame (pose : Pose6D ℝ) (sequence : Option ℕ) :
    (p.rememberInput pose sequence).state = p.state ∧
      (p.rememberInput pose sequence).referencePose = p.referencePose ∧
      (p.rememberInput pose sequence).referenceHostSequence = p.referenceHostSequence ∧
      (p.rememberInput pose sequence).filteredTranslation = p.filteredTranslation ∧
      (p.rememberInput pose sequence).filteredOrientation = p.filteredOrientation := by
  unfold rememberInput
  split
  · exact ⟨rfl, rfl, rfl, rfl, rfl⟩
  · exact ⟨rfl, rfl, rfl, rfl, rfl⟩

/-- After a sample is remembered, it is the remembered one. -/
theorem rememberInput_input {n : ℕ} (h : p.lastInputSequence = none ∧ p.lastInputPose = none ∨
      ∃ m, p.lastInputSequence = some m ∧ p.lastInputPose = some (wrist m)) :
    (p.rememberInput (wrist n) (some n)).lastInputSequence = some n ∧
      (p.rememberInput (wrist n) (some n)).lastInputPose = some (wrist n) := by
  unfold rememberInput
  split
  · rename_i heq
    rcases h with ⟨hnone, -⟩ | ⟨m, hm, hpose⟩
    · rw [hnone] at heq
      cases heq
    · rw [hm, Option.some.injEq] at heq
      subst heq
      exact ⟨hm, hpose⟩
  · exact ⟨rfl, rfl⟩

end RightHandOperatorPipeline

open RightHandOperatorPipeline

section Step

variable {p : RightHandOperatorPipeline ℝ} {history : List (OperatorCall ℝ)}

variable {c : OperatorCall ℝ}

/-- A disengaged pipeline says nothing of the history. -/
theorem tracks_disengaged {q : RightHandOperatorPipeline ℝ}
    (hstate : q.state = .disengaged)
    (hinput : q.lastInputSequence = none ∧ q.lastInputPose = none ∨
      ∃ n, q.lastInputSequence = some n ∧ q.lastInputPose = some (wrist n)) :
    Tracks config wrist (c :: history) q where
  input := hinput
  armed h := by
    rw [hstate] at h
    cases h
  engaged h := by
    rw [hstate] at h
    cases h

/-- A forced disengagement. -/
theorem tracks_forceDisengaged (ht : Tracks config wrist history p)
    (nowNs : ℤ) (reason : String) :
    Tracks config wrist (c :: history) (p.forceDisengaged nowNs reason) := by
  obtain ⟨hstate, hpose, hsequence⟩ := forceDisengaged_frame (p := p) nowNs reason
  refine tracks_disengaged hstate ?_
  rw [hpose, hsequence]
  exact ht.input

/-- A sample that passes the jump test is near the newest one. -/
theorem near_of_jumpReason {n : ℕ} {last : WristSample ℝ}
    (ht : Tracks config wrist history p)
    (hactive : p.state = .armedReferenceCapture ∨ p.state = .engaged)
    (hjump : p.jumpReason config (wrist n) (some n) = .ok none)
    (hpose : p.lastInputPose = some last.pose) (hsequence : p.lastInputSequence = last.hostSequence) :
    Near config ⟨wrist n, some n⟩ last := by
  unfold jumpReason at hjump
  rw [hpose] at hjump
  dsimp only at hjump
  by_cases hnew : some n = p.lastInputSequence
  · left
    rcases ht.input with ⟨hnone, -⟩ | ⟨m, hm, hwrist⟩
    · rw [hnone] at hnew
      cases hnew
    · rw [hm, Option.some.injEq] at hnew
      subst hnew
      rw [hpose, Option.some.injEq] at hwrist
      rw [hm] at hsequence
      cases last
      cases hwrist
      cases hsequence
      rfl
  · right
    rw [if_pos ⟨hnew, hactive⟩] at hjump
    split at hjump
    · cases hjump
    rename_i translationJump hdistance
    obtain rfl := distance_some hdistance
    split at hjump
    · cases hjump
    rename_i htranslation
    split at hjump
    · cases hjump
    rename_i hrotation
    constructor
    · simpa using htranslation
    · simpa using hrotation

variable {since : List (OperatorCall ℝ)}

/-- A safe sample that is no jump prolongs the watch. -/
theorem watched_cons {n : ℕ} (ht : Tracks config wrist history p)
    (hactive : p.state = .armedReferenceCapture ∨ p.state = .engaged)
    (hjump : p.jumpReason config (wrist n) (some n) = .ok none)
    (hsteady : c.Steady config)
    (hsample : c.sample? = some ⟨wrist n, some n⟩) (hwatched : Watched config since)
    (hnewest : Newest p since) : Watched config (c :: since) := by
  obtain ⟨last, hhead, hpose, hsequence⟩ := hnewest
  have hnear := near_of_jumpReason ht hactive hjump hpose hsequence
  refine ⟨?_, ?_⟩
  · intro e he
    rcases List.mem_cons.mp he with rfl | he
    · exact hsteady
    · exact hwatched.1 e he
  · rw [List.filterMap_cons, hsample]
    have hchain := hwatched.2
    revert hhead hchain
    cases since.filterMap OperatorCall.sample? with
    | nil => intro hhead; cases hhead
    | cons s rest =>
      intro hhead hchain
      cases hhead
      exact List.isChain_cons_cons.mpr ⟨hnear, hchain⟩

/-- The remembered sample is the newest of the prolonged part. -/
theorem newest_cons {q : RightHandOperatorPipeline ℝ} {n : ℕ}
    (hsample : c.sample? = some ⟨wrist n, some n⟩)
    (hsequence : q.lastInputSequence = some n) (hpose : q.lastInputPose = some (wrist n)) :
    Newest q (c :: since) := by
  refine ⟨⟨wrist n, some n⟩, ?_, hpose, hsequence⟩
  rw [List.filterMap_cons, hsample]
  rfl

theorem prefix_cons (h : since <+: history) :
    c :: since <+: c :: history := by
  obtain ⟨earlier, rfl⟩ := h
  exact ⟨earlier, rfl⟩

theorem armed_cons (h : Armed since) :
    Armed (c :: since) := by
  obtain ⟨between, engage, rfl, hengage⟩ := h
  exact ⟨c :: between, engage, rfl, hengage⟩

theorem captured_cons
    {reference : WristSample ℝ} (h : Captured config since reference)
    (hc : c.Contained config reference.pose) : Captured config (c :: since) reference := by
  obtain ⟨later, capture, between, engage, rfl, hengage, hcapture, hsample, hlater⟩ := h
  refine ⟨c :: later, capture, between, engage, rfl, hengage, hcapture, hsample, ?_⟩
  intro e he
  rcases List.mem_cons.mp he with rfl | he
  · exact hc
  · exact hlater e he

/-- A filtered pair is in the box, and its orientation a unit quaternion. -/
theorem filtered_spec {nowNs : ℤ} {translation translation' previous : Vector3 ℝ}
    {orientation orientation' : QuaternionXyzw ℝ}
    (h : p.filtered config nowNs translation orientation = some (translation', orientation'))
    (hprevious : p.filteredTranslation = some previous) (hinside : Inside config previous)
    (htranslation : Inside config translation) :
    Inside config translation' ∧ ∑ i, orientation' i * orientation' i = 1 := by
  unfold filtered at h
  rw [Option.map_eq_some_iff] at h
  obtain ⟨u, hslerp, hpair⟩ := h
  rw [hprevious] at hpair
  cases hpair
  obtain ⟨h0, h1⟩ : 0 ≤ p.filterAlpha config nowNs ∧ p.filterAlpha config nowNs ≤ 1 :=
    filterAlpha_mem p nowNs
  exact ⟨mixed_inside h0 h1 hinside htranslation, quaternionSlerp_unit hslerp⟩

/-- A sample on an engaged pipeline. -/
theorem tracks_engagedStep {n : ℕ} {quest : CanonicalQuestState ℝ} {request : StepRequest}
    (ht : Tracks config wrist history p) (hstate : p.state = .engaged)
    (hjump : p.jumpReason config (wrist n) (some n) = .ok none)
    (hsteady : OperatorCall.Steady config (.step quest request))
    (hsample : (OperatorCall.step quest request).sample? = some ⟨wrist n, some n⟩) :
    Tracks config wrist (.step quest request :: history)
      ((p.rememberInput (wrist n) (some n)).engagedStep config quest.hostMonotonicNs (some n)
        (wrist n)).2 := by
  obtain ⟨since, reference, hprefix, hwatched, hcaptured, hnewest, hreference, hsequence,
    ⟨previous, hprevious, hinside⟩, unit, hunit, hunit1⟩ := ht.engaged hstate
  obtain ⟨hqstate, hqreference, hqsequence, hqtranslation, hqorientation⟩ :=
    rememberInput_frame (p := p) (wrist n) (some n)
  obtain ⟨hqlast, hqpose⟩ := rememberInput_input (n := n) ht.input
  have hwatched' := watched_cons ht (.inr hstate) hjump hsteady hsample hwatched hnewest
  generalize p.rememberInput (wrist n) (some n) = q at *
  -- the invariant of an engaged pipeline that has kept the reference
  have hkeep : ∀ r : RightHandOperatorPipeline ℝ, r.state = q.state →
      r.referencePose = q.referencePose → r.referenceHostSequence = q.referenceHostSequence →
      r.lastInputPose = q.lastInputPose → r.lastInputSequence = q.lastInputSequence →
      (∃ translation, r.filteredTranslation = some translation ∧ Inside config translation) →
      (∃ orientation, r.filteredOrientation = some orientation ∧
        ∑ i, orientation i * orientation i = 1) →
      (OperatorCall.step quest request).Contained config reference.pose →
      Tracks config wrist (.step quest request :: history) r := by
    intro r hr hrreference hrsequence hrpose hrlast htranslation horientation hcontained
    refine ⟨.inr ⟨n, hrlast.trans hqlast, hrpose.trans hqpose⟩, fun h => ?_, fun _ => ?_⟩
    · rw [hr, hqstate, hstate] at h
      cases h
    · exact ⟨_, reference, prefix_cons hprefix, hwatched', captured_cons hcaptured hcontained,
        newest_cons hsample (hrlast.trans hqlast) (hrpose.trans hqpose),
        (hrreference.trans hqreference).trans hreference,
        (hrsequence.trans hqsequence).trans hsequence, htranslation, horientation⟩
  have htranslations : ∃ translation, q.filteredTranslation = some translation ∧
      Inside config translation := ⟨previous, hqtranslation.trans hprevious, hinside⟩
  have horientations : ∃ orientation, q.filteredOrientation = some orientation ∧
      ∑ i, orientation i * orientation i = 1 := ⟨unit, hqorientation.trans hunit, hunit1⟩
  unfold engagedStep
  rw [hqreference, hreference]
  dsimp only
  cases htranslation : relativeTranslation config reference.pose (wrist n) with
  | none =>
    refine hkeep q rfl rfl rfl rfl rfl htranslations horientations ?_
    intro sample hsample' translation hrelative
    rw [hsample, Option.some.injEq] at hsample'
    subst hsample'
    rw [htranslation] at hrelative
    cases hrelative
  | some translation =>
    dsimp only
    split
    · obtain ⟨hforced, hpose, hlast⟩ := forceDisengaged_frame (p := q) quest.hostMonotonicNs
        "operator_workspace_envelope_violation"
      exact tracks_disengaged hforced (.inr ⟨n, hlast.trans hqlast, hpose.trans hqpose⟩)
    · rename_i hbox
      have hcurrent : Inside config translation := by
        rw [← inside_iff]
        simpa using hbox
      have hcontained : (OperatorCall.step quest request).Contained config reference.pose := by
        intro sample hsample' translation' hrelative
        rw [hsample, Option.some.injEq] at hsample'
        subst hsample'
        rw [htranslation, Option.some.injEq] at hrelative
        rw [← hrelative]
        exact hcurrent
      cases hfiltered : (relativeOrientation config reference.pose (wrist n)).bind
          fun orientation => q.filtered config quest.hostMonotonicNs translation orientation with
      | none => exact hkeep q rfl rfl rfl rfl rfl htranslations horientations hcontained
      | some pair =>
        obtain ⟨translation', orientation'⟩ := pair
        rw [Option.bind_eq_some_iff] at hfiltered
        obtain ⟨orientation, -, hpair⟩ := hfiltered
        obtain ⟨hmixed, hslerp⟩ := filtered_spec hpair (hqtranslation.trans hprevious) hinside
          hcurrent
        exact hkeep _ rfl (hqreference.trans hreference).symm rfl rfl rfl
          ⟨translation', rfl, hmixed⟩ ⟨orientation', rfl, hslerp⟩ hcontained

/-- A safe sample that is no jump, in any state. -/
theorem tracks_stateStep {n : ℕ} {quest : CanonicalQuestState ℝ} {request : StepRequest}
    (hbox : Inside config fun _ => 0) (ht : Tracks config wrist history p)
    (hjump : p.jumpReason config (wrist n) (some n) = .ok none)
    (hsteady : OperatorCall.Steady config (.step quest request))
    (hsample : (OperatorCall.step quest request).sample? = some ⟨wrist n, some n⟩) :
    Tracks config wrist (.step quest request :: history)
      ((p.rememberInput (wrist n) (some n)).stateStep config quest.hostMonotonicNs (some n)
        (wrist n) request).2 := by
  obtain ⟨hqstate, -⟩ := rememberInput_frame (p := p) (wrist n) (some n)
  obtain ⟨hqlast, hqpose⟩ := rememberInput_input (n := n) ht.input
  unfold stateStep
  cases hstate : p.state with
  | disengaged =>
    rw [hqstate, hstate]
    dsimp only
    split
    · rename_i hengage
      obtain ⟨-, -, hpose, hlast, -, -⟩ := transition_frame
        (p := p.rememberInput (wrist n) (some n)) quest.hostMonotonicNs .armedReferenceCapture
        "explicit_engage_request_with_fresh_right_hand"
      refine ⟨.inr ⟨n, hlast.trans hqlast, hpose.trans hqpose⟩, fun _ => ?_, fun h => ?_⟩
      · refine ⟨[.step quest request], ⟨history, rfl⟩, ⟨?_, ?_⟩, ⟨[], _, rfl, hengage⟩,
          newest_cons hsample (hlast.trans hqlast) (hpose.trans hqpose)⟩
        · intro c hc
          rw [List.mem_singleton.mp hc]
          exact hsteady
        · rw [List.filterMap_cons, hsample]
          exact List.isChain_singleton _
      · rw [state_transition] at h
        cases h
    · exact tracks_disengaged (hqstate.trans hstate) (.inr ⟨n, hqlast, hqpose⟩)
  | armedReferenceCapture =>
    obtain ⟨since, hprefix, hwatched, harmed, hnewest⟩ := ht.armed hstate
    have hwatched' := watched_cons ht (.inl hstate) hjump hsteady hsample hwatched hnewest
    rw [hqstate, hstate]
    dsimp only
    split
    · rename_i hcapture
      obtain ⟨hreference, hsequence, hpose, hlast, htranslation, horientation⟩ := transition_frame
        (p := { p.rememberInput (wrist n) (some n) with
          referencePose := some (wrist n)
          referenceHostSequence := some n
          filteredTranslation := some neutralTranslation
          filteredOrientation := some neutralOrientation
          lastOutputNs := some quest.hostMonotonicNs }) quest.hostMonotonicNs .engaged
        "fresh_right_hand_reference_captured"
      refine ⟨.inr ⟨n, hlast.trans hqlast, hpose.trans hqpose⟩, fun h => ?_, fun _ => ?_⟩
      · change (transition _ _ _ _).state = _ at h
        rw [state_transition] at h
        cases h
      · obtain ⟨between, engage, rfl, hengage⟩ := harmed
        refine ⟨_, ⟨wrist n, some n⟩, prefix_cons hprefix, hwatched',
          ⟨[], _, between, engage, rfl, hengage, hcapture, hsample, ?_⟩,
          newest_cons hsample (hlast.trans hqlast) (hpose.trans hqpose), hreference, hsequence,
          ⟨neutralTranslation, htranslation, ?_⟩, neutralOrientation, horientation,
          neutralOrientation_unit⟩
        · intro c hc
          cases hc
        · have hzero : (neutralTranslation : Vector3 ℝ) = fun _ => 0 := by
            funext i
            simp [neutralTranslation]
          rw [hzero]
          exact hbox
    · refine ⟨.inr ⟨n, hqlast, hqpose⟩, fun _ => ?_, fun h => ?_⟩
      · exact ⟨_, prefix_cons hprefix, hwatched', armed_cons harmed,
          newest_cons hsample hqlast hqpose⟩
      · rw [hqstate, hstate] at h
        cases h
  | engaged =>
    rw [hqstate, hstate]
    exact tracks_engagedStep ht hstate hjump hsteady hsample

/-- The jump test of a call without overflow raises nothing. -/
theorem jumpReason_ok {quest : CanonicalQuestState ℝ} {pose : Pose6D ℝ}
    (hfits : OperatorCall.NoOverflow config p (.step quest request))
    (hsafe : unsafeReason config quest request = none)
    (hkeeps : request.disengageRequest = false) (hpose : quest.right.wristPose = some pose) :
    ∃ reason, p.jumpReason config pose quest.right.hostSequenceNumber = .ok reason := by
  unfold jumpReason
  cases hlast : p.lastInputPose with
  | none => exact ⟨none, rfl⟩
  | some last =>
    dsimp only
    split
    · rename_i htested
      obtain ⟨d, hd⟩ := distance_isSome (hfits hsafe hkeeps htested pose last hpose hlast)
      rw [hd]
      dsimp only
      split
      · exact ⟨_, rfl⟩
      split
      · exact ⟨_, rfl⟩
      · exact ⟨_, rfl⟩
    · exact ⟨none, rfl⟩

/-- **Step lemma.** Every call without overflow keeps what the state says of the history. -/
theorem tracks_apply (hbox : Inside config fun _ => 0) (ht : Tracks config wrist history p)
    (hc : Determined wrist c) (hfits : c.NoOverflow config p) :
    Tracks config wrist (c :: history) (p.apply config c) := by
  cases c with
  | forceFault timestampMonotonicNs reason =>
    unfold apply forceFault
    dsimp only
    split
    · rename_i hblank
      -- a refused call is part of the history, without a sample
      have hsteady : OperatorCall.Steady config (.forceFault timestampMonotonicNs reason) := hblank
      have hwatched : ∀ since, Watched config since →
          Watched config (.forceFault timestampMonotonicNs reason :: since) := by
        intro since hwatched
        refine ⟨?_, hwatched.2⟩
        intro e he
        rcases List.mem_cons.mp he with rfl | he
        · exact hsteady
        · exact hwatched.1 e he
      refine ⟨ht.input, fun h => ?_, fun h => ?_⟩
      · obtain ⟨since, hprefix, hsince, harmed, hnewest⟩ := ht.armed h
        exact ⟨_, prefix_cons hprefix, hwatched since hsince, armed_cons harmed, hnewest⟩
      · obtain ⟨since, reference, hprefix, hsince, hcaptured, hnewest, hrest⟩ := ht.engaged h
        refine ⟨_, reference, prefix_cons hprefix, hwatched since hsince,
          captured_cons hcaptured ?_, hnewest, hrest⟩
        intro sample hsample
        cases hsample
    · exact tracks_forceDisengaged ht _ _
  | step quest request =>
    show Tracks config wrist _ (p.step config quest request).2
    unfold step
    dsimp only
    cases hreason : unsafeReason config quest request with
    | some reason => exact tracks_forceDisengaged ht _ _
    | none =>
      obtain ⟨hsound, hmalformed, hfrozen⟩ := sound_of_unsafeReason hreason
      obtain ⟨pose, hpose⟩ := Option.isSome_iff_exists.mp hsound.2.1
      have hsample : (OperatorCall.step quest request).sample? =
          some ⟨pose, quest.right.hostSequenceNumber⟩ := by
        simp [OperatorCall.sample?, hpose]
      obtain ⟨n, hn⟩ := hc _ hsample
      rw [WristSample.mk.injEq] at hn
      obtain ⟨hwrist, hsequence⟩ := hn
      have hreasons : request.disengageRequest = false → _ := fun hkeeps =>
        jumpReason_ok hfits hreason hkeeps hpose
      rw [hwrist, hsequence] at hsample hreasons
      rw [hpose]
      dsimp only
      rw [hwrist, hsequence]
      split
      · exact tracks_forceDisengaged ht _ _
      · rename_i hdisengage
        obtain ⟨reason?, hjump⟩ := hreasons (by simpa using hdisengage)
        rw [hjump]
        cases reason? with
        | some reason =>
          obtain ⟨hforced, hlastpose, hlast⟩ := forceDisengaged_frame (p := p)
            quest.hostMonotonicNs reason
          obtain ⟨hqstate, -⟩ := rememberInput_frame
            (p := p.forceDisengaged quest.hostMonotonicNs reason) (wrist n) (some n)
          refine tracks_disengaged (hqstate.trans hforced) (.inr ⟨n, ?_⟩)
          apply rememberInput_input
          rw [hlastpose, hlast]
          exact ht.input
        | none =>
          exact tracks_stateStep hbox ht hjump
            ⟨hsound, hmalformed, hfrozen, by simpa using hdisengage⟩ hsample

/-- **Run lemma.** -/
theorem tracks_run (hbox : Inside config fun _ => 0) {calls : List (OperatorCall ℝ)}
    (hcalls : ∀ c ∈ calls, Determined wrist c)
    (hmeets : Meets (apply config) (fun p c => c.NoOverflow config p) init calls) :
    Tracks config wrist calls.reverse (run (apply config) init calls) := by
  induction calls using List.reverseRecOn with
  | nil => exact ⟨.inl ⟨rfl, rfl⟩, by simp [init], by simp [init]⟩
  | append_singleton calls c ih =>
    rw [run_concat, List.reverse_append]
    obtain ⟨hbefore, hfits⟩ := (meets_concat _ _ _).mp hmeets
    refine tracks_apply hbox (ih (fun e he => hcalls e ?_) hbefore) (hcalls c ?_) hfits
    · exact List.mem_append_left _ he
    · exact List.mem_append_right _ (List.mem_singleton_self c)

end Step

/-! ## Outputs -/

/-- The identity transform with `emergency_neutral`. -/
def Neutral (target : OfflineOperatorTarget ℝ) : Prop :=
  target.validForMapping = false ∧ target.emergencyNeutral = true ∧
    target.translationM = neutralTranslation ∧ target.orientationXyzw = neutralOrientation

/-- A valid output is that of an engaged pipeline and its filter. -/
def Mapped (target : OfflineOperatorTarget ℝ) (p : RightHandOperatorPipeline ℝ) : Prop :=
  target.validForMapping = true ∧ p.state = .engaged ∧ target.state = p.state ∧
    target.referenceHostSequence = p.referenceHostSequence ∧
    p.filteredTranslation = some target.translationM ∧
    p.filteredOrientation = some target.orientationXyzw

/-- What a call returns is valid or neutral. -/
def Output (result : Except OperatorError (OfflineOperatorTarget ℝ) × RightHandOperatorPipeline ℝ) :
    Prop :=
  ∀ target, result.1 = .ok target → Mapped target result.2 ∨ Neutral target

section Output

variable {p : RightHandOperatorPipeline ℝ}

theorem output_neutral (nowNs : ℤ) (sequence : Option ℕ) (reason : String)
    (q : RightHandOperatorPipeline ℝ) : Output (.ok (p.neutral nowNs sequence reason), q) := by
  intro target h
  cases h
  exact .inr ⟨rfl, rfl, rfl, rfl⟩

theorem output_error (error : OperatorError) (q : RightHandOperatorPipeline ℝ) :
    Output (.error error, q) := by
  intro target h
  cases h

theorem output_engagedStep (hstate : p.state = .engaged) (nowNs : ℤ) (sequence : Option ℕ)
    (pose : Pose6D ℝ) : Output (p.engagedStep config nowNs sequence pose) := by
  unfold engagedStep
  split
  · exact output_error _ _
  split
  · exact output_error _ _
  split
  · exact output_neutral _ _ _ _
  split
  · exact output_error _ _
  · intro target h
    cases h
    exact .inl ⟨rfl, hstate, rfl, rfl, rfl, rfl⟩

theorem output_stateStep (nowNs : ℤ) (sequence : Option ℕ) (pose : Pose6D ℝ)
    (request : StepRequest) : Output (p.stateStep config nowNs sequence pose request) := by
  unfold stateStep
  split
  · split
    · exact output_neutral _ _ _ _
    · exact output_neutral _ _ _ _
  · split
    · intro target h
      cases h
      obtain ⟨-, -, -, -, htranslation, horientation⟩ := transition_frame
        (p := { p with
          referencePose := some pose
          referenceHostSequence := sequence
          filteredTranslation := some neutralTranslation
          filteredOrientation := some neutralOrientation
          lastOutputNs := some nowNs }) nowNs .engaged "fresh_right_hand_reference_captured"
      exact .inl ⟨rfl, state_transition _ _ _, rfl, rfl, htranslation, horientation⟩
    · exact output_neutral _ _ _ _
  · rename_i hstate
    exact output_engagedStep hstate _ _ _

theorem output_step (quest : CanonicalQuestState ℝ) (request : StepRequest) :
    Output (p.step config quest request) := by
  unfold step
  dsimp only
  split
  · exact output_neutral _ _ _ _
  split
  · exact output_error _ _
  split
  · exact output_neutral _ _ _ _
  split
  · exact output_error _ _
  · exact output_neutral _ _ _ _
  · exact output_stateStep _ _ _ _

end Output

/-- **Engagement.** After calls without overflow, an output that is valid for mapping is
    engaged: some calls back there was an engage request, after it the capture
    of the output's reference, and since then only near and safe samples inside
    the workspace. Every other output is neutral. -/
theorem operator_engagement (config : RightHandOperatorConfig ℝ) (wrist : ℕ → Pose6D ℝ)
    (hbox : Inside config fun _ => 0) (calls : List (OperatorCall ℝ))
    (quest : CanonicalQuestState ℝ) (request : StepRequest)
    (hcalls : ∀ c ∈ calls ++ [.step quest request], Determined wrist c)
    (hmeets : Meets (apply config) (fun p c => c.NoOverflow config p) init
      (calls ++ [.step quest request])) (target : OfflineOperatorTarget ℝ)
    (h : ((run (apply config) init calls).step config quest request).1 = .ok target) :
    (target.validForMapping = true ∧ target.state = .engaged ∧
      (∃ since reference, since <+: .step quest request :: calls.reverse ∧
        Watched config since ∧ Captured config since reference ∧
        target.referenceHostSequence = reference.hostSequence ∧
        ((run (apply config) init calls).step config quest request).2.referencePose =
          some reference.pose) ∧
      Inside config target.translationM ∧
      ∑ i, target.orientationXyzw i * target.orientationXyzw i = 1) ∨
    Neutral target := by
  rcases output_step quest request target h with ⟨hvalid, hengaged, hstate, hsequence,
    htranslation, horientation⟩ | hneutral
  · left
    have ht := tracks_run hbox hcalls hmeets
    rw [run_concat, List.reverse_append] at ht
    change Tracks config wrist (.step quest request :: calls.reverse)
      ((run (apply config) init calls).step config quest request).2 at ht
    obtain ⟨since, reference, hprefix, hwatched, hcaptured, -, hpose, hreference,
      ⟨translation, ht1, hinside⟩, orientation, ho1, hunit⟩ := ht.engaged hengaged
    rw [htranslation, Option.some.injEq] at ht1
    rw [horientation, Option.some.injEq] at ho1
    subst ht1 ho1
    exact ⟨hvalid, hstate.trans hengaged,
      ⟨since, reference, hprefix, hwatched, hcaptured, hsequence.trans hreference, hpose⟩,
      hinside, hunit⟩
  · exact .inr hneutral

/-! ## A first capture -/

/-- The defaults of `RightHandOperatorConfig`. -/
noncomputable def defaultConfig : RightHandOperatorConfig ℝ where
  staleAfterS := 1 / 4
  translationScale := fun _ => 7 / 20
  orientationMapping := .relative
  orientationScale := 1
  filterTimeConstantS := 1 / 50
  jumpRejectTranslationM := 1 / 4
  jumpRejectRotationRad := Real.pi / 4
  workspaceMinM := fun _ => -(1 / 5)
  workspaceMaxM := fun _ => 1 / 5
  accepted := by
    have hpi := Real.pi_pos
    simp [OperatorSettings.checked, finitePositive, HandLab.Teleoperation.allFinite]
    norm_num
    exact hpi

/-- A hand with all coordinates at `x`. -/
noncomputable def poseAt (x : ℝ) : Pose6D ℝ where
  positionM := fun _ => x
  orientationXyzw := neutralOrientation
  finite := by simp [HandLab.Teleoperation.allFinite]
  unit := by
    have hnorm : quaternionNorm (neutralOrientation : QuaternionXyzw ℝ) = 1 := by
      have hsum : quaternionNorm (neutralOrientation : QuaternionXyzw ℝ) =
          Real.sqrt (∑ i, (neutralOrientation : QuaternionXyzw ℝ) i * neutralOrientation i) :=
        congrArg Real.sqrt (tupleSum_real _)
      rw [hsum, neutralOrientation_unit, Real.sqrt_one]
    rw [hnorm]
    simp

/-- A fresh and complete sample of it. -/
noncomputable def stateAt (n : ℕ) (x : ℝ) : CanonicalQuestState ℝ where
  hostMonotonicNs := 0
  right := ⟨true, some n, some 0, some (poseAt x), 21⟩

/-- The request to engage. -/
def engage : StepRequest := ⟨true, false, false, false, false⟩

/-- The request to capture. -/
def captureReference : StepRequest := ⟨false, true, false, false, false⟩

/-- No request. -/
def watch : StepRequest := ⟨false, false, false, false, false⟩

/-- The first sample is at the origin, the later ones are at `x`. -/
noncomputable def wristTo (x : ℝ) (n : ℕ) : Pose6D ℝ := poseAt (if n = 0 then 0 else x)

section Capture

variable {q : RightHandOperatorPipeline ℝ} {n : ℕ} {x : ℝ}

theorem unsafeReason_stateAt {request : StepRequest} (hm : request.malformedData = false)
    (hf : request.frozenStream = false) :
    unsafeReason defaultConfig (stateAt n x) request = none := by
  simp [unsafeReason, stateAt, defaultConfig, requiredJointCount, hm, hf]

noncomputable def armedAtOrigin : RightHandOperatorPipeline ℝ :=
  (init.step defaultConfig (stateAt 0 0) engage).2

theorem armedAtOrigin_spec : armedAtOrigin.state = .armedReferenceCapture ∧
    armedAtOrigin.lastInputSequence = some 0 ∧
    armedAtOrigin.lastInputPose = some (poseAt 0) := by
  unfold armedAtOrigin step
  rw [unsafeReason_stateAt rfl rfl]
  exact ⟨rfl, rfl, rfl⟩

theorem step_capture (hstate : q.state = .armedReferenceCapture)
    (hjump : q.jumpReason defaultConfig (poseAt x) (some n) = .ok none) :
    ∃ target, (q.step defaultConfig (stateAt n x) captureReference).1 = .ok target ∧
      target.validForMapping = true := by
  refine ⟨((q.rememberInput (poseAt x) (some n)).capture 0 (some n) (poseAt x)).target 0 (some n)
    neutralTranslation neutralOrientation "reference_captured", ?_, rfl⟩
  have hpose : (stateAt n x).right.wristPose = some (poseAt x) := rfl
  have hnumber : (stateAt n x).right.hostSequenceNumber = some n := rfl
  have hkeeps : captureReference.disengageRequest = false := rfl
  unfold step
  rw [unsafeReason_stateAt rfl rfl, hpose, hnumber, hkeeps]
  dsimp only
  rw [if_neg Bool.false_ne_true, hjump]
  dsimp only
  unfold stateStep
  rw [(rememberInput_frame _ _).1, hstate]
  rfl

theorem determined_origin {request : StepRequest} (y : ℝ) :
    Determined (wristTo y) (.step (stateAt 0 0) request) := by
  intro sample hsample
  cases hsample
  exact ⟨0, by simp [stateAt, wristTo]⟩

theorem determined_later {request : StepRequest} :
    Determined (wristTo x) (.step (stateAt 1 x) request) := by
  intro sample hsample
  cases hsample
  exact ⟨1, by simp [stateAt, wristTo]⟩

end Capture

theorem separation_poseAt (x : ℝ) :
    separation (poseAt x).positionM (poseAt 0).positionM = Real.sqrt (3 * (x * x)) := by
  unfold separation poseAt
  rw [Fin.sum_univ_three, sub_zero]
  congr 1
  ring

theorem quaternionDistance_neutral :
    quaternionDistance (neutralOrientation : QuaternionXyzw ℝ) neutralOrientation = 0 := by
  have hproduct : tupleSum (fun i => mul ((neutralOrientation : QuaternionXyzw ℝ) i)
      (neutralOrientation i)) = (1 : ℝ) :=
    (tupleSum_real _).trans neutralOrientation_unit
  unfold quaternionDistance
  rw [hproduct]
  have hmin : pyMin (ofRat 1) (Double.abs (1 : ℝ)) = 1 := by simp [pyMin]
  rw [hmin]
  show mul (ofRat 2) (Real.arccos 1) = 0
  rw [Real.arccos_one, Exact.mul_eq, mul_zero]

/-- The capture of a sample that is near the one of the engage request. -/
theorem operator_engagement_captured :
    ∃ target : OfflineOperatorTarget ℝ, target.validForMapping = true ∧ target.state = .engaged ∧
      ∃ since reference, since <+: [.step (stateAt 1 (1 / 10)) captureReference,
          .step (stateAt 0 0) engage] ∧
        Watched defaultConfig since ∧ Captured defaultConfig since reference ∧
        target.referenceHostSequence = reference.hostSequence := by
  obtain ⟨hstate, hsequence, hpose⟩ := armedAtOrigin_spec
  have hfits : ∀ i, |(poseAt (1 / 10)).positionM i - (poseAt 0).positionM i| < overflowThreshold →
      ((poseAt (1 / 10)).positionM i - (poseAt 0).positionM i) *
        ((poseAt (1 / 10)).positionM i - (poseAt 0).positionM i) < overflowThreshold := by
    intro i _
    have hone : ((1 : ℚ) : ℝ) < overflowThreshold := Rat.cast_lt.mpr (by decide +kernel)
    refine lt_trans ?_ hone
    show (1 / 10 - 0) * (1 / 10 - 0 : ℝ) < ((1 : ℚ) : ℝ)
    norm_num
  have hjump : armedAtOrigin.jumpReason defaultConfig (poseAt (1 / 10)) (some 1) = .ok none := by
    obtain ⟨d, hd⟩ := distance_isSome hfits
    have hnear : d ≤ 1 / 4 := by
      rw [distance_some hd, separation_poseAt, Real.sqrt_le_left (by norm_num)]
      norm_num
    have hstill : quaternionDistance (poseAt (1 / 10)).orientationXyzw (poseAt 0).orientationXyzw ≤
        defaultConfig.jumpRejectRotationRad := by
      have hzero := quaternionDistance_neutral
      exact hzero.trans_le (div_nonneg Real.pi_pos.le (by norm_num))
    unfold jumpReason
    rw [hpose]
    dsimp only
    rw [if_pos ⟨by simp [hsequence], .inl hstate⟩, hd]
    dsimp only
    rw [if_neg (by simpa [defaultConfig] using hnear), if_neg (by simpa using hstill)]
  obtain ⟨target, hok, hvalid⟩ := step_capture hstate hjump
  have hdetermined : ∀ c ∈ [OperatorCall.step (stateAt 0 0) engage] ++
      [.step (stateAt 1 (1 / 10)) captureReference], Determined (wristTo (1 / 10)) c := by
    intro c hc
    rcases List.mem_cons.mp hc with rfl | hc
    · exact determined_origin _
    · rw [List.mem_singleton.mp hc]
      exact determined_later
  have hbox : Inside defaultConfig fun _ => 0 := by
    intro i
    show -(1 / 5 : ℝ) ≤ 0 ∧ (0 : ℝ) ≤ 1 / 5
    norm_num
  have hmeets : Meets (apply defaultConfig) (fun p c => c.NoOverflow defaultConfig p) init
      ([.step (stateAt 0 0) engage] ++ [.step (stateAt 1 (1 / 10)) captureReference]) := by
    refine ⟨?_, ?_, trivial⟩
    · rintro - - - pose last - hlast
      cases hlast
    · rintro - - - pose last hnew hlast
      cases hnew
      obtain rfl := Option.some.inj (hpose.symm.trans hlast)
      exact hfits
  rcases operator_engagement defaultConfig (wristTo (1 / 10)) hbox [.step (stateAt 0 0) engage]
    (stateAt 1 (1 / 10)) captureReference hdetermined hmeets target hok with hmapped | hneutral
  · obtain ⟨-, hengaged, ⟨since, reference, hprefix, hwatched, hcaptured, hsame, -⟩, -⟩ := hmapped
    exact ⟨target, hvalid, hengaged, since, reference, hprefix, hwatched, hcaptured, hsame⟩
  · rw [hneutral.1] at hvalid
    exact absurd hvalid Bool.false_ne_true

/-! ## A far sample -/

/-- The coordinates of a finite sample whose square overflows. -/
noncomputable def farAway : ℝ := ofRat (10 ^ 200)

/-- **A far sample is forgotten**: `step` raises behind the engage request, and the capture
    after it is valid, although the samples since are no watched ones. -/
theorem far_sample_forgotten :
    (∀ c ∈ [OperatorCall.step (stateAt 0 0) engage, .step (stateAt 1 farAway) watch,
        .step (stateAt 0 0) captureReference], Determined (wristTo farAway) c) ∧
    (∃ target, ((run (apply defaultConfig) init [.step (stateAt 0 0) engage,
        .step (stateAt 1 farAway) watch]).step defaultConfig (stateAt 0 0)
          captureReference).1 = .ok target ∧ target.validForMapping = true) ∧
    ¬∃ since reference, since <+: [OperatorCall.step (stateAt 0 0) captureReference,
        .step (stateAt 1 farAway) watch, .step (stateAt 0 0) engage] ∧
      Watched defaultConfig since ∧ Captured defaultConfig since reference := by
  obtain ⟨hstate, hsequence, hpose⟩ := armedAtOrigin_spec
  have hfar : farAway = ((10 ^ 200 : ℚ) : ℝ) := rfl
  have hdistance : distance (poseAt farAway).positionM (poseAt 0).positionM = none := by
    have hsquare : square (sub farAway 0) = none := by
      rw [Exact.sub_eq, sub_zero, square_real, if_pos]
      rw [hfar, abs_of_nonneg (by positivity), ← Rat.cast_mul]
      exact ⟨Rat.cast_lt.mpr (by decide +kernel), Rat.cast_le.mpr (by decide +kernel)⟩
    unfold distance poseAt
    rw [hsquare]
    rfl
  have hraises : apply defaultConfig armedAtOrigin (.step (stateAt 1 farAway) watch) =
      armedAtOrigin := by
    have hjump : armedAtOrigin.jumpReason defaultConfig (poseAt farAway) (some 1) =
        .error .overflow := by
      unfold jumpReason
      rw [hpose]
      dsimp only
      rw [if_pos ⟨by simp [hsequence], .inl hstate⟩, hdistance]
    have hnew : (stateAt 1 farAway).right.wristPose = some (poseAt farAway) := rfl
    have hnumber : (stateAt 1 farAway).right.hostSequenceNumber = some 1 := rfl
    have hkeeps : watch.disengageRequest = false := rfl
    show (armedAtOrigin.step defaultConfig (stateAt 1 farAway) watch).2 = armedAtOrigin
    unfold step
    rw [unsafeReason_stateAt rfl rfl, hnew, hnumber, hkeeps]
    dsimp only
    rw [if_neg Bool.false_ne_true, hjump]
  refine ⟨?_, ?_, ?_⟩
  · intro c hc
    simp only [List.mem_cons, List.not_mem_nil, or_false] at hc
    rcases hc with rfl | rfl | rfl
    · exact determined_origin _
    · exact determined_later
    · exact determined_origin _
  · have hrun : run (apply defaultConfig) init [.step (stateAt 0 0) engage,
        .step (stateAt 1 farAway) watch] = armedAtOrigin := hraises
    rw [hrun]
    refine step_capture hstate ?_
    unfold jumpReason
    rw [hpose]
    dsimp only
    rw [if_neg fun h => h.1 hsequence.symm]
  · rintro ⟨since, reference, hprefix, ⟨-, hchain⟩, hcaptured⟩
    obtain ⟨later, capture, between, engaging, hsince, hengages, -⟩ := hcaptured
    -- only the oldest call requests engagement
    have hall : since = [OperatorCall.step (stateAt 0 0) captureReference,
        .step (stateAt 1 farAway) watch, .step (stateAt 0 0) engage] := by
      obtain ⟨rest, hrest⟩ := hprefix
      obtain ⟨front, rfl⟩ : ∃ front, since = front ++ [engaging] :=
        ⟨later ++ capture :: between, by rw [hsince]; simp⟩
      rcases front with _ | ⟨a, _ | ⟨b, _ | ⟨c, front⟩⟩⟩
      · obtain ⟨rfl, -⟩ := List.cons.inj hrest
        cases hengages
      · obtain ⟨-, hrest⟩ := List.cons.inj hrest
        obtain ⟨rfl, -⟩ := List.cons.inj hrest
        cases hengages
      · simp only [List.cons_append, List.nil_append, List.cons.injEq] at hrest
        obtain ⟨rfl, rfl, rfl, -⟩ := hrest
        rfl
      · simp at hrest
    rw [hall] at hchain
    have hnear : Near defaultConfig ⟨poseAt farAway, some 1⟩ ⟨poseAt 0, some 0⟩ := by
      have hcons : [(⟨poseAt 0, some 0⟩ : WristSample ℝ), ⟨poseAt farAway, some 1⟩,
        ⟨poseAt 0, some 0⟩].IsChain (Near defaultConfig) := hchain
      rw [List.isChain_cons_cons, List.isChain_cons_cons] at hcons
      exact hcons.2.1
    rcases hnear with heq | ⟨hdistance, -⟩
    · simp at heq
    · rw [separation_poseAt, hfar, Real.sqrt_le_left (by norm_num [defaultConfig])] at hdistance
      norm_num [defaultConfig] at hdistance

end HandLab.Operator
