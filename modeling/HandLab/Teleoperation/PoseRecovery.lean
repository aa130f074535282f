import HandLab.Teleoperation.Discontinuity

/-!
# When the validator recovers

Two samples that fit each other, one after the other, and what the validator says of the second
(`src/teleoperation/processing/pose_validator.py`, lines 74–153). A sample that the motion test
refuses does not become the previous sample, and a source sequence that restarts does not reset
its tracker.

* `validator_recovers_iff`: the second sample is accepted exactly if the first one became the
  previous sample, or the second one fits what was the previous sample before.
* `stays_refused`: a validator whose previous sample fits none of the later ones accepts none.
* `jump_refused`: one jump is enough.
-/

namespace HandLab.Teleoperation

open HandLab.Lib Double

variable {δ : Type*}

/-! ## Two samples -/

/-- The ages of `__post_init__`. -/
def PoseValidationConfig.AgesIncrease (config : PoseValidationConfig δ) : Prop :=
  config.holdAgeNs < config.controlledStopAgeNs ∧ config.controlledStopAgeNs < config.fatalAgeNs

/-- A sample that nothing but the history of the validator speaks against. -/
structure ArmPoseSample.Regular (config : PoseValidationConfig δ) (sample : ArmPoseSample δ)
    (nowNs : ℤ) : Prop where
  frame : sample.frameId = config.expectedFrameId
  tracking : sample.trackingValid = true ∧ sample.trackingState ≠ .invalid
  discontinuity : sample.discontinuity = .none
  fresh : sample.ageAt nowNs < config.holdAgeNs

/-- The verdict is `ACCEPT` or `WARNING`. -/
def Verdict.Accepts (verdict : Option Verdict) : Prop :=
  ∃ v, verdict = some v ∧ (v.1 = .accept ∨ v.1 = .warning)

/-- The result is `ACCEPT` or `WARNING`. -/
def ValidationResult.Accepts (result : Option (ValidationResult δ)) : Prop :=
  ∃ r, result = some r ∧ (r.action = .accept ∨ r.action = .warning)

section Conditions

variable (v : PoseValidator δ) (sample : ArmPoseSample δ) (nowNs : ℤ)

/-- Both trackers take the sample, and it is not of the future. -/
structure PoseValidator.Passes : Prop where
  takes : v.Takes sample
  notRepeated : ¬v.SourceRepeated sample
  notRegressed : ¬v.SourceRegressed sample
  notFuture : (sample.localReceiveNs : ℤ) ≤ nowNs + 5000000

/-- The connection epoch is not the last one. -/
def PoseValidator.ChangesEpoch : Prop :=
  ∃ epoch, v.connectionEpoch = some epoch ∧ sample.connectionEpoch ≠ epoch

variable [NumPy δ]

/-- The sample is within the limits of the previous one, if there is one. -/
def PoseValidator.Fits : Prop :=
  ∀ previous, v.previous = some previous → v.config.motion sample previous = some none

/-- The sample becomes the previous one. -/
def PoseValidator.Adopts : Prop :=
  v.Passes sample nowNs ∧ (v.ChangesEpoch sample ∨ v.Awaiting ∨ v.Fits sample)

/-- The sample is accepted. -/
def PoseValidator.Welcomes : Prop :=
  v.Passes sample nowNs ∧ ¬v.ChangesEpoch sample ∧ ¬v.Awaiting ∧ v.Fits sample

end Conditions

/-- Two samples that follow and fit each other. -/
structure Consecutive [NumPy δ] (config : PoseValidationConfig δ) (first second : ArmPoseSample δ) :
    Prop where
  sequence : first.sequence < second.sequence
  source : ∀ m n, first.sourceSequence = some m → second.sourceSequence = some n → m < n
  receive : first.localReceiveNs < second.localReceiveNs
  epoch : first.connectionEpoch = second.connectionEpoch
  motion : config.motion second first = some none

/-! ## One sample -/

section One

variable {v : PoseValidator δ} {sample : ArmPoseSample δ} {nowNs : ℤ}

theorem ArmPoseSample.Regular.not_trackingInvalid (h : sample.Regular v.config nowNs) :
    sample.trackingInvalid = false := by
  simp [trackingInvalid, h.tracking]

/-- A sample behind the trackers is judged, or of the future. -/
theorem dropout_regular (hages : v.config.AgesIncrease) (h : sample.Regular v.config nowNs) :
    v.config.dropout sample nowNs = if (sample.localReceiveNs : ℤ) ≤ nowNs + 5000000 then none
      else some (.abort, "future_receive_timestamp") := by
  obtain ⟨hstop, hfatal⟩ := hages
  have hfresh := h.fresh
  unfold PoseValidationConfig.dropout
  by_cases hfuture : nowNs + 5000000 < sample.localReceiveNs
  · rw [if_pos hfuture, if_neg (not_le.mpr hfuture)]
  · rw [if_neg hfuture, if_pos (not_lt.mp hfuture), if_neg (by omega), if_neg (by omega),
      if_neg (by omega)]

/-- What both trackers do with a sample: they refuse it, or leave it to the tests behind them. -/
theorem observe_passes (v : PoseValidator δ) (sample : ArmPoseSample δ) :
    (∃ verdict sequence, v.observe sample = (some verdict, { v with sequence }) ∧
        verdict.1 ≠ .accept ∧ verdict.1 ≠ .warning ∧ ∀ nowNs, ¬v.Passes sample nowNs) ∨
      ∃ source, v.observe sample = (none, v.behind sample source) ∧
        ∀ nowNs, v.Passes sample nowNs ↔ (sample.localReceiveNs : ℤ) ≤ nowNs + 5000000 := by
  rcases observe_cases v sample with ⟨last, reason, hlast, hle, hobserve⟩ | ⟨htakes, hobserve⟩
  · refine .inl ⟨_, v.sequence, hobserve, nofun, nofun, fun _ hp => ?_⟩
    have := hp.takes last hlast
    omega
  rw [hobserve]
  rcases observeSource_cases { v with sequence := some sample.sequence } sample with
    ⟨hrepeated, heq⟩ | ⟨hregressed, heq⟩ | ⟨hrepeated, hregressed, source, heq⟩
  · exact .inl ⟨_, some sample.sequence, heq, nofun, nofun, fun _ hp => hp.notRepeated hrepeated⟩
  · exact .inl ⟨_, some sample.sequence, heq, nofun, nofun, fun _ hp => hp.notRegressed hregressed⟩
  · refine .inr ⟨source, heq, fun nowNs => ⟨fun hp => hp.notFuture, fun hfuture => ?_⟩⟩
    exact ⟨htakes, hrepeated, hregressed, hfuture⟩

/-- A tracker that was asked for a number takes the same numbers above it as before. -/
theorem observeSequence_takes (tracker : Option ℕ) {n m : ℕ} (h : n < m) :
    (∀ last, (observeSequence tracker n).2 = some last → last < m) ↔
      ∀ last, tracker = some last → last < m := by
  cases tracker with
  | none => simp [observeSequence, h]
  | some last =>
    unfold observeSequence
    dsimp only
    split_ifs with heq hlt
    · exact Iff.rfl
    · exact Iff.rfl
    · have hlast : last < m := by omega
      simp [h, hlast]

theorem source_takes : (¬v.SourceRepeated sample ∧ ¬v.SourceRegressed sample) ↔
    ∀ n, sample.sourceSequence = some n → ∀ last, v.sourceSequence = some last → last < n := by
  constructor
  · rintro ⟨hrepeated, hregressed⟩ n hn last hlast
    rcases lt_trichotomy last n with hlt | rfl | hgt
    · exact hlt
    · exact absurd ⟨last, hn, hlast⟩ hrepeated
    · exact absurd ⟨n, last, hn, hlast, hgt⟩ hregressed
  · intro h
    refine ⟨?_, ?_⟩
    · rintro ⟨n, hn, hlast⟩
      exact absurd (h n hn n hlast) (lt_irrefl n)
    · rintro ⟨n, last, hn, hlast, hlt⟩
      exact absurd (h n hn last hlast) hlt.le.not_gt

theorem passes_iff : v.Passes sample nowNs ↔
    (∀ last, v.sequence = some last → last < sample.sequence) ∧
      (∀ n, sample.sourceSequence = some n → ∀ last, v.sourceSequence = some last → last < n) ∧
      (sample.localReceiveNs : ℤ) ≤ nowNs + 5000000 := by
  rw [← source_takes]
  exact ⟨fun h => ⟨h.takes, ⟨h.notRepeated, h.notRegressed⟩, h.notFuture⟩,
    fun h => ⟨h.1, h.2.1.1, h.2.1.2, h.2.2⟩⟩

theorem observe_trackers (v : PoseValidator δ) (sample : ArmPoseSample δ) :
    (v.observe sample).2.sequence = (observeSequence v.sequence sample.sequence).2 ∧
      ((v.observe sample).2.sourceSequence = v.sourceSequence ∨
        ∃ n, sample.sourceSequence = some n ∧
          (v.observe sample).2.sourceSequence = (observeSequence v.sourceSequence n).2) := by
  have hsource (u : PoseValidator δ) : (u.observeSource sample).2.sequence = u.sequence ∧
      ((u.observeSource sample).2.sourceSequence = u.sourceSequence ∨
        ∃ n, sample.sourceSequence = some n ∧
          (u.observeSource sample).2.sourceSequence = (observeSequence u.sourceSequence n).2) := by
    unfold PoseValidator.observeSource
    cases hsource : sample.sourceSequence with
    | none => exact ⟨rfl, .inl rfl⟩
    | some n => exact ⟨rfl, .inr ⟨n, rfl, rfl⟩⟩
  unfold PoseValidator.observe
  generalize observeSequence v.sequence sample.sequence = answer
  obtain ⟨disposition, last⟩ := answer
  cases disposition with
  | duplicate => exact ⟨rfl, .inl rfl⟩
  | reordered => exact ⟨rfl, .inl rfl⟩
  | first => exact hsource { v with sequence := last }
  | new => exact hsource { v with sequence := last }

/-- The trackers take the second sample behind the first one exactly if they took it before. -/
theorem passes_behind [NumPy δ] {config : PoseValidationConfig δ} {first second : ArmPoseSample δ}
    (h : Consecutive config first second) {w : PoseValidator δ}
    (hsequence : w.sequence = (v.observe first).2.sequence)
    (hsource : w.sourceSequence = (v.observe first).2.sourceSequence) :
    w.Passes second nowNs ↔ v.Passes second nowNs := by
  obtain ⟨hlast, hcases⟩ := observe_trackers v first
  have hnumber := observeSequence_takes v.sequence h.sequence
  have hnumbers : (∀ n, second.sourceSequence = some n →
      ∀ last, w.sourceSequence = some last → last < n) ↔
        ∀ n, second.sourceSequence = some n → ∀ last, v.sourceSequence = some last → last < n := by
    rw [hsource]
    rcases hcases with heq | ⟨m, hm, heq⟩
    · rw [heq]
    · rw [heq]
      refine forall_congr' fun n => ⟨fun hall hn => ?_, fun hall hn => ?_⟩
      · exact (observeSequence_takes _ (h.source m n hm hn)).mp (hall hn)
      · exact (observeSequence_takes _ (h.source m n hm hn)).mpr (hall hn)
  rw [passes_iff, passes_iff, hsequence, hlast]
  exact and_congr hnumber (and_congr hnumbers Iff.rfl)

end One

/-! ## The judgement -/

section Judge

theorem accepting_accepts (config : PoseValidationConfig δ) (sample : ArmPoseSample δ) (nowNs : ℤ) :
    Verdict.Accepts (some (config.accepting sample nowNs)) := by
  unfold PoseValidationConfig.accepting
  split
  · exact ⟨_, rfl, .inr rfl⟩
  · exact ⟨_, rfl, .inl rfl⟩

theorem not_accepts {verdict : Verdict} (h : verdict.1 ≠ .accept ∧ verdict.1 ≠ .warning) :
    ¬Verdict.Accepts (some verdict) := by
  rintro ⟨v, hv, haction⟩
  obtain rfl := Option.some.inj hv
  exact haction.elim h.1 h.2

theorem none_not_accepts : ¬Verdict.Accepts none := by
  rintro ⟨v, hv, -⟩
  exact nomatch hv

variable [NumPy δ] {v : PoseValidator δ} {sample : ArmPoseSample δ} {nowNs : ℤ}

/-- A motion test that does not pass does not accept. -/
theorem motion_not_accepts {config : PoseValidationConfig δ} {previous : ArmPoseSample δ}
    {verdict : Option Verdict} (h : config.motion sample previous = some verdict) :
    ¬Verdict.Accepts verdict := by
  rcases motion_cases config sample previous with h' | h' | h' | ⟨reason, h', -⟩
  · rw [h'] at h
    exact nomatch h
  · obtain rfl := Option.some.inj (h'.symm.trans h)
    exact none_not_accepts
  · obtain rfl := Option.some.inj (h'.symm.trans h)
    exact not_accepts ⟨nofun, nofun⟩
  · obtain rfl := Option.some.inj (h'.symm.trans h)
    exact not_accepts ⟨nofun, nofun⟩

/-- **The motion test** accepts a sample that fits and makes it the previous one; else it leaves
    the validator as it was. -/
theorem compare_spec (v : PoseValidator δ) (sample : ArmPoseSample δ) (nowNs : ℤ) :
    v.Fits sample ∧ Verdict.Accepts (v.compare sample nowNs).1 ∧
        (v.compare sample nowNs).2 =
          { v with previous := some sample, previousTrackingValid := true } ∨
      ¬v.Fits sample ∧ ¬Verdict.Accepts (v.compare sample nowNs).1 ∧
        (v.compare sample nowNs).2 = v := by
  unfold PoseValidator.compare PoseValidator.Fits
  cases hprevious : v.previous with
  | none => exact .inl ⟨nofun, accepting_accepts .., rfl⟩
  | some previous =>
    dsimp only
    cases hmotion : v.config.motion sample previous with
    | none =>
      refine .inr ⟨fun h => ?_, none_not_accepts, rfl⟩
      exact nomatch hmotion.symm.trans (h previous rfl)
    | some verdict =>
      cases verdict with
      | none =>
        refine .inl ⟨fun other hother => ?_, accepting_accepts .., rfl⟩
        obtain rfl := Option.some.inj hother
        exact hmotion
      | some verdict =>
        refine .inr ⟨fun h => ?_, motion_not_accepts hmotion, rfl⟩
        exact nomatch hmotion.symm.trans (h previous rfl)

omit [NumPy δ] in
theorem changesEpoch_iff (v : PoseValidator δ) (sample : ArmPoseSample δ) :
    (v.connectionEpoch.any (· ≠ sample.connectionEpoch)) = true ↔ v.ChangesEpoch sample := by
  unfold PoseValidator.ChangesEpoch
  cases v.connectionEpoch with
  | none => simp
  | some epoch =>
    rw [Option.any_some, decide_eq_true_eq]
    constructor
    · exact fun hne => ⟨epoch, rfl, hne.symm⟩
    · rintro ⟨other, hother, hne⟩
      obtain rfl := Option.some.inj hother
      exact hne.symm

/-- The validator whose previous sample is this one. -/
def PoseValidator.adopt (v : PoseValidator δ) (sample : ArmPoseSample δ) : PoseValidator δ :=
  { v with
    connectionEpoch := some sample.connectionEpoch
    previous := some sample, previousTrackingValid := true }

/-- **The tests behind the trackers** for a regular sample. -/
theorem judge_spec (h : sample.Regular v.config nowNs) :
    (Verdict.Accepts (v.judge sample nowNs).1 ↔
        ¬v.ChangesEpoch sample ∧ ¬v.Awaiting ∧ v.Fits sample) ∧
      (v.ChangesEpoch sample ∨ v.Awaiting ∨ v.Fits sample →
        (v.judge sample nowNs).2 = v.adopt sample) ∧
      (¬(v.ChangesEpoch sample ∨ v.Awaiting ∨ v.Fits sample) →
        (v.judge sample nowNs).2 =
          { v with connectionEpoch := some sample.connectionEpoch }) := by
  unfold PoseValidator.judge
  rw [if_neg (by rw [h.not_trackingInvalid]; exact Bool.false_ne_true)]
  by_cases hepoch : v.ChangesEpoch sample
  · rw [if_pos ((changesEpoch_iff v sample).mpr hepoch)]
    refine ⟨?_, fun _ => rfl, fun hnot => absurd (.inl hepoch) hnot⟩
    exact iff_of_false (not_accepts ⟨nofun, nofun⟩) fun hw => hw.1 hepoch
  rw [if_neg fun hany => hepoch ((changesEpoch_iff v sample).mp hany)]
  dsimp only
  have hreclutch : ¬sample.discontinuity.requiresReclutch = true := by
    rw [h.discontinuity]
    exact Bool.false_ne_true
  rw [if_neg hreclutch]
  by_cases hawaiting : v.Awaiting
  · have hrecovered : (!v.previousTrackingValid && v.previous.isSome) = true := by
      simp [hawaiting.1, hawaiting.2]
    rw [if_pos hrecovered]
    refine ⟨?_, fun _ => rfl, fun hnot => absurd (.inr (.inl hawaiting)) hnot⟩
    exact iff_of_false (not_accepts ⟨nofun, nofun⟩) fun hw => hw.2.1 hawaiting
  have hsettled : ¬(!v.previousTrackingValid && v.previous.isSome) = true := by
    intro hboth
    rw [Bool.and_eq_true, Bool.not_eq_true'] at hboth
    exact hawaiting ⟨hboth.2, hboth.1⟩
  rw [if_neg hsettled]
  rcases compare_spec { v with connectionEpoch := some sample.connectionEpoch } sample nowNs with
    ⟨hfits, haccepts, hafter⟩ | ⟨hfits, haccepts, hafter⟩
  · have hfits' : v.Fits sample := hfits
    refine ⟨iff_of_true haccepts ⟨hepoch, hawaiting, hfits'⟩, fun _ => hafter, ?_⟩
    exact fun hnot => absurd (.inr (.inr hfits')) hnot
  · have hfits' : ¬v.Fits sample := hfits
    refine ⟨iff_of_false haccepts fun hw => hfits' hw.2.2, ?_, fun _ => hafter⟩
    rintro (hchange | hawait | hfit)
    · exact absurd hchange hepoch
    · exact absurd hawait hawaiting
    · exact absurd hfit hfits'

/-- **One call** with a regular sample. -/
theorem validateSample_spec (hages : v.config.AgesIncrease) (h : sample.Regular v.config nowNs) :
    (Verdict.Accepts (v.validateSample sample nowNs).1 ↔ v.Welcomes sample nowNs) ∧
      ∃ sequence sourceSequence, sequence = (v.observe sample).2.sequence ∧
        sourceSequence = (v.observe sample).2.sourceSequence ∧
        (v.Adopts sample nowNs → (v.validateSample sample nowNs).2 =
          { v.adopt sample with sequence, sourceSequence }) ∧
        (¬v.Adopts sample nowNs → ∃ connectionEpoch,
          (v.validateSample sample nowNs).2 =
            { v with sequence, sourceSequence, connectionEpoch } ∧
          (connectionEpoch = v.connectionEpoch ∨
            connectionEpoch = some sample.connectionEpoch ∧ ¬v.ChangesEpoch sample)) := by
  unfold PoseValidator.validateSample PoseValidator.Welcomes PoseValidator.Adopts
  rcases observe_passes v sample with ⟨verdict, sequence, hobserve, haccept, hwarning, hpasses⟩ |
    ⟨source, hobserve, hpasses⟩
  · rw [hobserve]
    refine ⟨iff_of_false (not_accepts ⟨haccept, hwarning⟩) fun hw => hpasses nowNs hw.1,
      _, _, rfl, rfl, fun hadopts => absurd hadopts.1 (hpasses nowNs), fun _ => ?_⟩
    exact ⟨v.connectionEpoch, rfl, .inl rfl⟩
  rw [hobserve, hpasses nowNs]
  dsimp only
  have hdropout : (v.behind sample source).config.dropout sample nowNs = _ :=
    dropout_regular hages h
  rw [hdropout]
  by_cases hfuture : (sample.localReceiveNs : ℤ) ≤ nowNs + 5000000
  · rw [if_pos hfuture]
    obtain ⟨haccepts, hadopts, hstays⟩ := @judge_spec _ _ (v.behind sample source) _ nowNs h
    refine ⟨?_, _, _, rfl, rfl, fun hboth => hadopts hboth.2, fun hnot => ?_⟩
    · rw [and_iff_right hfuture]
      exact haccepts
    · have hnone : ¬(v.ChangesEpoch sample ∨ v.Awaiting ∨ v.Fits sample) :=
        fun hsome => hnot ⟨hfuture, hsome⟩
      exact ⟨_, hstays hnone, .inr ⟨rfl, fun hchange => hnone (.inl hchange)⟩⟩
  · rw [if_neg hfuture]
    refine ⟨iff_of_false (not_accepts ⟨nofun, nofun⟩) fun hw => hfuture hw.1,
      _, _, rfl, rfl, fun hboth => absurd hboth.1 hfuture, fun _ => ?_⟩
    exact ⟨v.connectionEpoch, rfl, .inl rfl⟩

theorem validate_eq (h : sample.Regular v.config nowNs) :
    v.validate (some sample) nowNs =
      ((v.validateSample sample nowNs).1.map (·.of sample), (v.validateSample sample nowNs).2) := by
  unfold PoseValidator.validate
  dsimp only
  rw [if_neg (not_not.mpr h.frame)]

omit [NumPy δ] in
theorem accepts_of {verdict : Option Verdict} :
    ValidationResult.Accepts (verdict.map (·.of sample)) ↔ Verdict.Accepts verdict := by
  constructor
  · rintro ⟨r, hr, haction⟩
    obtain ⟨v, rfl, rfl⟩ := Option.map_eq_some_iff.mp hr
    exact ⟨v, rfl, haction⟩
  · rintro ⟨v, rfl, haction⟩
    exact ⟨_, rfl, haction⟩

end Judge

/-! ## Two samples, one after the other -/

section Recovery

variable [NumPy δ]

/-- The validator accepts the second of two samples. -/
def PoseValidator.Recovers (v : PoseValidator δ) (first second : ArmPoseSample δ)
    (firstNs secondNs : ℤ) : Prop :=
  v.Passes second secondNs ∧
    (v.Adopts first firstNs ∨ ¬v.ChangesEpoch second ∧ ¬v.Awaiting ∧ v.Fits second)

/-- **Recovery.** In any state, the second of two samples that follow and fit each other is
    accepted exactly if the trackers take it, and the first one became the previous sample or the
    second one fits the previous sample of that state. -/
theorem validator_recovers_iff (v : PoseValidator δ) (hages : v.config.AgesIncrease)
    {first second : ArmPoseSample δ} {firstNs secondNs : ℤ}
    (hfirst : first.Regular v.config firstNs) (hsecond : second.Regular v.config secondNs)
    (h : Consecutive v.config first second) :
    ValidationResult.Accepts
        ((v.validate (some first) firstNs).2.validate (some second) secondNs).1 ↔
      v.Recovers first second firstNs secondNs := by
  rw [validate_eq hfirst]
  obtain ⟨-, sequence, sourceSequence, hsequence, hsource, hadopts, hstays⟩ :=
    validateSample_spec hages hfirst
  dsimp only
  unfold PoseValidator.Recovers
  by_cases hadopt : v.Adopts first firstNs
  · rw [hadopts hadopt]
    obtain ⟨w, hw⟩ : ∃ w : PoseValidator δ, w =
        { v.adopt first with sequence, sourceSequence } := ⟨_, rfl⟩
    rw [← hw]
    have hconfig : w.config = v.config := by rw [hw]; rfl
    have hregular : second.Regular w.config secondNs := hconfig ▸ hsecond
    rw [validate_eq hregular, accepts_of,
      (validateSample_spec (hconfig ▸ hages) hregular).1, PoseValidator.Welcomes,
      passes_behind (v := v) h (by rw [hw]; exact hsequence) (by rw [hw]; exact hsource)]
    refine and_congr_right fun _ => iff_of_true ⟨?_, ?_, ?_⟩ (.inl hadopt)
    · rintro ⟨epoch, hepoch, hne⟩
      rw [hw] at hepoch
      exact hne (h.epoch.symm.trans (Option.some.inj hepoch))
    · rintro ⟨-, hinvalid⟩
      rw [hw] at hinvalid
      exact nomatch hinvalid
    · intro previous hprevious
      rw [hw] at hprevious
      obtain rfl := Option.some.inj hprevious
      rw [hconfig]
      exact h.motion
  · obtain ⟨connectionEpoch, hafter, hepoch⟩ := hstays hadopt
    rw [hafter]
    obtain ⟨w, hw⟩ : ∃ w : PoseValidator δ, w =
        { v with sequence, sourceSequence, connectionEpoch } := ⟨_, rfl⟩
    rw [← hw]
    have hconfig : w.config = v.config := by rw [hw]
    have hregular : second.Regular w.config secondNs := hconfig ▸ hsecond
    have hchange : w.ChangesEpoch second ↔ v.ChangesEpoch second := by
      rcases hepoch with heq | ⟨heq, hsame⟩
      · rw [hw, heq]
        exact Iff.rfl
      · refine iff_of_false ?_ ?_
        · rintro ⟨epoch, hepoch, hne⟩
          rw [hw] at hepoch
          exact hne (h.epoch.symm.trans (Option.some.inj (heq.symm.trans hepoch)))
        · rintro ⟨epoch, hepoch, hne⟩
          exact hsame ⟨epoch, hepoch, h.epoch ▸ hne⟩
    have hfits : w.Fits second ↔ v.Fits second := by rw [hw]; exact Iff.rfl
    have hawaiting : w.Awaiting ↔ v.Awaiting := by rw [hw]; exact Iff.rfl
    rw [validate_eq hregular, accepts_of,
      (validateSample_spec (hconfig ▸ hages) hregular).1, PoseValidator.Welcomes,
      passes_behind (v := v) h (by rw [hw]; exact hsequence) (by rw [hw]; exact hsource),
      hchange, hfits, hawaiting, or_iff_right hadopt]

/-! ## Refused for ever -/

/-- The previous sample of a validator that tracks. -/
structure PoseValidator.Holds (config : PoseValidationConfig δ) (previous : ArmPoseSample δ)
    (epoch : ℕ) (v : PoseValidator δ) : Prop where
  config : v.config = config
  previous : v.previous = some previous
  tracking : v.previousTrackingValid = true
  epoch : v.connectionEpoch = some epoch

/-- A regular sample of the same connection that is out of the limits of the previous one. -/
structure Strays (config : PoseValidationConfig δ) (previous : ArmPoseSample δ) (epoch : ℕ)
    (call : ArmPoseSample δ × ℤ) : Prop where
  regular : call.1.Regular config call.2
  epoch : call.1.connectionEpoch = epoch
  motion : config.motion call.1 previous ≠ some none

variable {config : PoseValidationConfig δ} {previous : ArmPoseSample δ} {epoch : ℕ}

/-- A call with a sample. -/
def PoseValidator.call (v : PoseValidator δ) (call : ArmPoseSample δ × ℤ) : PoseValidator δ :=
  (v.validate (some call.1) call.2).2

theorem PoseValidator.Holds.refuses {v : PoseValidator δ} (h : v.Holds config previous epoch)
    (hages : config.AgesIncrease) {call : ArmPoseSample δ × ℤ}
    (hcall : Strays config previous epoch call) :
    ¬ValidationResult.Accepts (v.validate (some call.1) call.2).1 ∧
      (v.call call).Holds config previous epoch := by
  obtain ⟨rfl, hprevious, htracking, hepoch⟩ := h
  have hfits : ¬v.Fits call.1 := fun hfit => hcall.motion (hfit previous hprevious)
  have hchange : ¬v.ChangesEpoch call.1 := by
    rintro ⟨other, hother, hne⟩
    obtain rfl := Option.some.inj (hepoch.symm.trans hother)
    exact hne hcall.epoch
  have hawaiting : ¬v.Awaiting := by
    rintro ⟨-, hinvalid⟩
    exact absurd (htracking.symm.trans hinvalid) nofun
  obtain ⟨haccepts, sequence, sourceSequence, -, -, -, hstays⟩ :=
    validateSample_spec hages hcall.regular
  have hadopts : ¬v.Adopts call.1 call.2 := by
    rintro ⟨-, h | h | h⟩
    · exact hchange h
    · exact hawaiting h
    · exact hfits h
  obtain ⟨connectionEpoch, hafter, hsame⟩ := hstays hadopts
  unfold PoseValidator.call
  rw [validate_eq hcall.regular, accepts_of, haccepts]
  refine ⟨fun hw => hfits hw.2.2.2, ?_⟩
  dsimp only
  rw [hafter]
  refine ⟨rfl, hprevious, htracking, ?_⟩
  rcases hsame with heq | ⟨heq, -⟩
  · exact heq.trans hepoch
  · exact heq.trans (congrArg some hcall.epoch)

/-- **Refused for ever.** After any number of samples that are out of the limits of the previous
    one, such a sample is not accepted. -/
theorem stays_refused {v : PoseValidator δ} (h : v.Holds config previous epoch)
    (hages : config.AgesIncrease) {calls : List (ArmPoseSample δ × ℤ)}
    (hcalls : ∀ call ∈ calls, Strays config previous epoch call) {last : ArmPoseSample δ × ℤ}
    (hlast : Strays config previous epoch last) :
    ¬ValidationResult.Accepts
      ((run PoseValidator.call v calls).validate (some last.1) last.2).1 := by
  have hholds : (run PoseValidator.call v calls).Holds config previous epoch :=
    run_invariant_of_meets (fun v call hstrays hv => (hv.refuses hages hstrays).2) h
      (meets_of_forall hcalls v)
  exact (hholds.refuses hages hlast).1

end Recovery

/-! ## Runs of the default configuration -/

/-- A sample at rest, a metre away. -/
noncomputable def displacedSample (sequence localReceiveNs : ℕ) : ArmPoseSample ℝ :=
  { restingSample sequence localReceiveNs with pose := ⟨![1, 0, 0], identityRotation⟩ }

/-- The validator after one sample at rest. -/
noncomputable def restingValidator : PoseValidator ℝ :=
  (({ config := defaultPoseValidation } : PoseValidator ℝ).validate (some (restingSample 1 0)) 0).2

theorem defaultPoseValidation_ages : defaultPoseValidation.AgesIncrease := by
  constructor <;> decide

theorem restingValidator_eq : restingValidator =
    { config := defaultPoseValidation, sequence := some 1, previous := some (restingSample 1 0)
      previousTrackingValid := true, connectionEpoch := some 0 } := rfl

theorem displaced_motion {sequence receiveNs : ℕ} (hreceive : 0 < receiveNs) :
    defaultPoseValidation.motion (displacedSample sequence receiveNs) (restingSample 1 0) =
      some (some (.reclutchRequired, "translation_discontinuity")) := by
  have hfar : translation (displacedSample sequence receiveNs).pose (restingSample 1 0).pose =
      (1 : ℝ) := by
    simp [translation, displacedSample, restingSample, NumPy.norm_real, Fin.sum_univ_three]
  have hangle : quaternionAngle (displacedSample sequence receiveNs).pose.quaternionXyzw
      (restingSample 1 0).pose.quaternionXyzw = some (0 : ℝ) := quaternionAngle_identity
  have hdt : ¬((displacedSample sequence receiveNs).localReceiveNs : ℤ) -
      (restingSample 1 0).localReceiveNs ≤ 0 := by
    show ¬(receiveNs : ℤ) - ((0 : ℕ) : ℤ) ≤ 0
    omega
  have hjump : (0.2 : ℝ) < 1 := by norm_num
  unfold PoseValidationConfig.motion
  rw [if_neg hdt, hangle, hfar]
  simp [defaultPoseValidation, hjump]

theorem displaced_strays {sequence receiveNs : ℕ} (hreceive : 0 < receiveNs) :
    Strays defaultPoseValidation (restingSample 1 0) 0
      (displacedSample sequence receiveNs, receiveNs) := by
  refine ⟨⟨rfl, ⟨rfl, nofun⟩, rfl, ?_⟩, rfl, ?_⟩
  · show max ((0 : ℕ) : ℤ) (max 0 ((receiveNs : ℤ) - receiveNs)) < 100000000
    omega
  · rw [displaced_motion hreceive]
    exact nofun

/-- **A jump is never forgiven.** Two samples that follow and fit each other, a metre from the one
    before, are refused, and so is every later one there. -/
theorem jump_refused :
    (displacedSample 2 10000000).Regular restingValidator.config 10000000 ∧
      (displacedSample 3 20000000).Regular restingValidator.config 20000000 ∧
      Consecutive restingValidator.config (displacedSample 2 10000000)
        (displacedSample 3 20000000) ∧
      ¬ValidationResult.Accepts ((restingValidator.validate (some (displacedSample 2 10000000))
        10000000).2.validate (some (displacedSample 3 20000000)) 20000000).1 ∧
      ∀ count : ℕ, ¬ValidationResult.Accepts ((run PoseValidator.call restingValidator
        ((List.range count).map fun i => (displacedSample (i + 2) (i + 1), i + 1))).validate
          (some (displacedSample (count + 2) (count + 1))) (count + 1 : ℕ)).1 := by
  have hholds : restingValidator.Holds defaultPoseValidation (restingSample 1 0) 0 := by
    rw [restingValidator_eq]
    exact ⟨rfl, rfl, rfl, rfl⟩
  have hconfig := hholds.config
  rw [hconfig]
  have hfirst := @displaced_strays 2 10000000 (by decide)
  have hsecond := @displaced_strays 3 20000000 (by decide)
  refine ⟨hfirst.regular, hsecond.regular, ⟨by decide, nofun, by decide, rfl, ?_⟩, ?_,
    fun count => ?_⟩
  · exact motion_resting rfl rfl (by decide)
  · have hcalls := List.forall_mem_singleton.mpr hfirst
    exact stays_refused hholds defaultPoseValidation_ages hcalls hsecond
  · refine stays_refused hholds defaultPoseValidation_ages ?_
      (displaced_strays (Nat.succ_pos count))
    intro call hcall
    obtain ⟨i, -, rfl⟩ := List.mem_map.mp hcall
    exact displaced_strays (Nat.succ_pos i)

/-- The validator after a sample at rest and one a metre away that has lost its tracking. -/
noncomputable def lostValidator : PoseValidator ℝ :=
  (restingValidator.validate
    (some { displacedSample 2 10000000 with trackingValid := false }) 10000000).2

theorem lostValidator_eq : lostValidator =
    { config := defaultPoseValidation, sequence := some 2
      previous := some { displacedSample 2 10000000 with trackingValid := false }
      previousTrackingValid := false, connectionEpoch := some 0 } := rfl

/-- Two samples recover a validator that has lost its tracking. -/
theorem validator_recovers_resting : ValidationResult.Accepts
    ((lostValidator.validate (some (displacedSample 3 20000000)) 20000000).2.validate
      (some (displacedSample 4 30000000)) 30000000).1 := by
  have hconfig : lostValidator.config = defaultPoseValidation := by rw [lostValidator_eq]
  have hfirst := (@displaced_strays 3 20000000 (by decide)).regular
  have hsecond := (@displaced_strays 4 30000000 (by decide)).regular
  have hfollow : Consecutive defaultPoseValidation (displacedSample 3 20000000)
      (displacedSample 4 30000000) :=
    ⟨by decide, nofun, by decide, rfl, motion_resting rfl rfl (by decide)⟩
  rw [← hconfig] at hfirst hsecond hfollow
  refine (validator_recovers_iff lostValidator (hconfig ▸ defaultPoseValidation_ages)
    hfirst hsecond hfollow).mpr ?_
  have hpasses : ∀ (sequence receiveNs : ℕ), 2 < sequence →
      lostValidator.Passes (displacedSample sequence receiveNs) receiveNs := by
    intro sequence receiveNs hlater
    refine passes_iff.mpr ⟨fun last hlast => ?_, fun n hn => ?_, ?_⟩
    · rw [lostValidator_eq] at hlast
      obtain rfl := Option.some_inj.mp hlast
      exact hlater
    · exact nomatch hn
    · show (receiveNs : ℤ) ≤ receiveNs + 5000000
      omega
  -- tracking is back: the first of them becomes the previous sample
  have hawaiting : lostValidator.Awaiting := by
    rw [lostValidator_eq]
    exact ⟨rfl, rfl⟩
  exact ⟨hpasses 4 30000000 (by decide),
    .inl ⟨hpasses 3 20000000 (by decide), .inr (.inl hawaiting)⟩⟩

end HandLab.Teleoperation
