import HandLab.Lib.History
import HandLab.Lib.Run
import HandLab.Teleoperation.PoseValidator

/-!
# Discontinuities that the validator announces

A sample is a discontinuity if its tracking is invalid, if it says so, or if its
connection epoch is another than the accepted one. `HidesNothing` asks that no
discontinuity with a new sequence number is followed by an accepted sample before
an alarm.

* `hides_nothing`: it holds in every run whose swallowed samples are no
  discontinuities, or find the validator waiting for tracking to recover.
* `reconnect_hidden`: a late reconnect is answered by `HOLD` and forgotten.
-/

namespace HandLab.Teleoperation

open HandLab.Lib Double

variable {δ : Type*}

/-! ## The property -/

/-- A `validate` call: the sample and the result; no result if the call raised. -/
structure ValidationEntry (δ : Type*) where
  sample : Option (ArmPoseSample δ)
  result : Option (ValidationResult δ)

namespace ValidationEntry

variable (e : ValidationEntry δ)

/-- The result is `ACCEPT` or `WARNING`. -/
def Accepts : Prop := ∃ r, e.result = some r ∧ (r.action = .accept ∨ r.action = .warning)

/-- The result is `RECLUTCH_REQUIRED`, `ABORT` or `CONTROLLED_STOP`. -/
def Alarms : Prop := ∃ r, e.result = some r ∧
  (r.action = .reclutchRequired ∨ r.action = .abort ∨ r.action = .controlledStop)

/-- The connection epoch that the call made the accepted one. -/
def adopted? : Option ℕ :=
  match e.sample, e.result with
  | some sample, some r =>
    if r.action = .accept ∨ r.action = .warning ∨
        r.action = .reclutchRequired ∧ r.reason = "connection_epoch_changed" then
      some sample.connectionEpoch
    else none
  | _, _ => none

theorem Accepts.not_alarms {e : ValidationEntry δ} (h : e.Accepts) : ¬e.Alarms := by
  obtain ⟨r, hr, haction⟩ := h
  rintro ⟨r', hr', halarm⟩
  obtain rfl := Option.some_inj.mp (hr.symm.trans hr')
  rcases haction with h | h <;> simp [h] at halarm

end ValidationEntry

section Property

variable (frameId : String) (past : List (ValidationEntry δ)) (sample : ArmPoseSample δ)

def acceptedEpoch : Option ℕ := latest ValidationEntry.adopted? past

/-- The sequence number is above those of all earlier samples of the frame. -/
def IsNew : Prop := ∀ e ∈ past, ∀ earlier, e.sample = some earlier → earlier.frameId = frameId →
  earlier.sequence < sample.sequence

/-- The sample says that tracking is not continuous. -/
def ArmPoseSample.Broken : Prop :=
  sample.trackingInvalid = true ∨ sample.discontinuity.requiresReclutch = true

/-- The connection epoch is not the accepted one. -/
def ChangesEpoch : Prop := ∃ epoch, acceptedEpoch past = some epoch ∧ sample.connectionEpoch ≠ epoch

variable (e : ValidationEntry δ)

/-- A new sample was a discontinuity. -/
def Breaks : Prop := ∃ sample, e.sample = some sample ∧ IsNew frameId past sample ∧
  (sample.Broken ∨ ChangesEpoch past sample)

end Property

/-- From a discontinuity `d` on, no call accepts its sample before an
    alarm. `between` ends with `d`, or is empty if the call is that of `d`. -/
def HidesNothing (frameId : String) (h : List (ValidationEntry δ)) : Prop :=
  ∀ recent d older, h = recent ++ d :: older → Breaks frameId older d →
    ∀ newer a between, recent ++ [d] = newer ++ a :: between → a.Accepts →
      ∃ e ∈ between, e.Alarms

variable {h : List (ValidationEntry δ)}

theorem hidesNothing_of_whenever {frameId : String}
    (hw : Whenever (fun e past => e.Accepts → ¬Outstanding (fun e past => Breaks frameId past e)
      ValidationEntry.Alarms (e :: past)) h) : HidesNothing frameId h :=
  fun _ _ _ hd hbreaks _ _ _ ha haccepts =>
    answered_between hw (fun _ h => h.not_alarms) hd hbreaks ha haccepts

/-! ## The stages -/

section Stages

variable (v : PoseValidator δ) (sample : ArmPoseSample δ) (nowNs : ℤ)

/-- `_source_sequence` has seen the number. -/
def PoseValidator.SourceRepeated : Prop :=
  ∃ n, sample.sourceSequence = some n ∧ v.sourceSequence = some n

/-- `_source_sequence` has seen a larger number. -/
def PoseValidator.SourceRegressed : Prop :=
  ∃ n last, sample.sourceSequence = some n ∧ v.sourceSequence = some last ∧ n < last

/-- Not of the future, and younger than the ages that alarm. -/
def PoseValidationConfig.Recent (config : PoseValidationConfig δ) : Prop :=
  (sample.localReceiveNs : ℤ) ≤ nowNs + 5000000 ∧ sample.ageAt nowNs < config.fatalAgeNs ∧
    sample.ageAt nowNs < config.controlledStopAgeNs

/-- The number repeats that of the source, or the sample has the age of a hold. -/
def PoseValidator.Swallowed : Prop :=
  v.SourceRepeated sample ∨ ¬v.SourceRegressed sample ∧ v.config.Recent sample nowNs ∧
    v.config.holdAgeNs ≤ sample.ageAt nowNs

/-- `tracking_recovered` is due. -/
def PoseValidator.Awaiting : Prop := v.previous.isSome = true ∧ v.previousTrackingValid = false

/-- The sequence tracker takes the sample. -/
def PoseValidator.Takes : Prop := ∀ last, v.sequence = some last → last < sample.sequence

/-- The sample gets as far as the comparison with the previous one. -/
structure PoseValidator.Compares : Prop where
  takes : v.Takes sample
  source : ¬v.SourceRepeated sample ∧ ¬v.SourceRegressed sample
  recent : v.config.Recent sample nowNs
  fresh : sample.ageAt nowNs < v.config.holdAgeNs
  whole : ¬sample.Broken
  epoch : ∀ epoch, v.connectionEpoch = some epoch → sample.connectionEpoch = epoch
  settled : ¬v.Awaiting

theorem observeSource_cases :
    v.SourceRepeated sample ∧
        v.observeSource sample = (some (.reject, "duplicate_source_sequence"), v) ∨
      v.SourceRegressed sample ∧
        v.observeSource sample = (some (.reclutchRequired, "source_sequence_reset"), v) ∨
      ¬v.SourceRepeated sample ∧ ¬v.SourceRegressed sample ∧
        ∃ source, v.observeSource sample = (none, { v with sourceSequence := source }) := by
  unfold PoseValidator.observeSource PoseValidator.SourceRepeated PoseValidator.SourceRegressed
  cases hsource : sample.sourceSequence with
  | none => exact .inr (.inr ⟨nofun, nofun, v.sourceSequence, rfl⟩)
  | some n =>
    cases hlast : v.sourceSequence with
    | none => exact .inr (.inr ⟨nofun, nofun, some n, rfl⟩)
    | some last =>
      rcases lt_trichotomy n last with hlt | rfl | hgt
      · refine .inr (.inl ⟨⟨n, last, rfl, rfl, hlt⟩, ?_⟩)
        simp [observeSequence, hlt, hlt.ne, ← hlast]
      · refine .inl ⟨⟨n, rfl, rfl⟩, ?_⟩
        simp [observeSequence, ← hlast]
      · refine .inr (.inr ⟨?_, ?_, some n, ?_⟩)
        · simpa using hgt.ne
        · simpa using hgt.le
        · simp [observeSequence, hgt.ne', not_lt.mpr hgt.le]

theorem observe_cases :
    (∃ last reason, v.sequence = some last ∧ sample.sequence ≤ last ∧
      v.observe sample = (some (.reject, reason), v)) ∨
    v.Takes sample ∧
      v.observe sample = { v with sequence := some sample.sequence }.observeSource sample := by
  unfold PoseValidator.observe PoseValidator.Takes
  cases hlast : v.sequence with
  | none => exact .inr ⟨nofun, rfl⟩
  | some last =>
    rcases lt_trichotomy sample.sequence last with hlt | heq | hgt
    · refine .inl ⟨last, "reordered_sequence", rfl, hlt.le, ?_⟩
      simp [observeSequence, hlt, hlt.ne, ← hlast]
    · refine .inl ⟨last, "duplicate_sequence", rfl, heq.le, ?_⟩
      simp [observeSequence, heq, ← hlast]
    · refine .inr ⟨fun _ h => Option.some_inj.mp h ▸ hgt, ?_⟩
      simp [observeSequence, hgt.ne', not_lt.mpr hgt.le]

theorem dropout_cases (config : PoseValidationConfig δ) :
    (∃ action reason, config.dropout sample nowNs = some (action, reason) ∧
      (action = .abort ∨ action = .controlledStop) ∧ reason ≠ "connection_epoch_changed") ∨
    config.Recent sample nowNs ∧
      (config.holdAgeNs ≤ sample.ageAt nowNs ∧
          config.dropout sample nowNs = some (.hold, "short_dropout") ∨
        sample.ageAt nowNs < config.holdAgeNs ∧ config.dropout sample nowNs = none) := by
  unfold PoseValidationConfig.dropout
  split
  · exact .inl ⟨_, _, rfl, .inl rfl, by decide⟩
  · rename_i hfuture
    split
    · exact .inl ⟨_, _, rfl, .inl rfl, by decide⟩
    · rename_i hfatal
      split
      · exact .inl ⟨_, _, rfl, .inr rfl, by decide⟩
      · rename_i hstop
        refine .inr ⟨⟨not_lt.mp hfuture, not_le.mp hfatal, not_le.mp hstop⟩, ?_⟩
        split
        · rename_i hhold
          exact .inl ⟨hhold, rfl⟩
        · rename_i hhold
          exact .inr ⟨not_le.mp hhold, rfl⟩

end Stages

/-! ## What a call does -/

section Handled

variable [NumPy δ]

/-- The verdict of the validator on a sample of the expected frame, and the validator after it. -/
inductive Handled (v : PoseValidator δ) (sample : ArmPoseSample δ) (nowNs : ℤ) :
    Option Verdict → PoseValidator δ → Prop
  | repeated {last : ℕ} (hlast : v.sequence = some last) (hle : sample.sequence ≤ last)
      (reason : String) : Handled v sample nowNs (some (.reject, reason)) v
  | swallowed (hs : v.Swallowed sample nowNs) {action : ValidationAction}
      (haction : action = .reject ∨ action = .hold) (reason : String) (source : Option ℕ) :
      Handled v sample nowNs (some (action, reason))
        { v with sequence := some sample.sequence, sourceSequence := source }
  | alarmed {action : ValidationAction}
      (haction : action = .reclutchRequired ∨ action = .abort ∨ action = .controlledStop)
      {reason : String} (hreason : reason ≠ "connection_epoch_changed") {w : PoseValidator δ}
      (hconfig : w.config = v.config) (hsequence : w.sequence = some sample.sequence)
      (hepoch : ∀ epoch, v.connectionEpoch = some epoch → w.connectionEpoch = some epoch) :
      Handled v sample nowNs (some (action, reason)) w
  | switched {w : PoseValidator δ} (hconfig : w.config = v.config)
      (hsequence : w.sequence = some sample.sequence)
      (hepoch : w.connectionEpoch = some sample.connectionEpoch) :
      Handled v sample nowNs (some (.reclutchRequired, "connection_epoch_changed")) w
  | unmoved (hc : v.Compares sample nowNs) {verdict : Option Verdict}
      (hverdict : verdict = none ∨ verdict = some (.reject, "nonmonotonic_receive_timestamp"))
      (source : Option ℕ) :
      Handled v sample nowNs verdict
        { v with
          sequence := some sample.sequence, sourceSequence := source
          connectionEpoch := some sample.connectionEpoch }
  | accepted (hc : v.Compares sample nowNs) {action : ValidationAction}
      (haction : action = .accept ∨ action = .warning) (reason : String) (source : Option ℕ) :
      Handled v sample nowNs (some (action, reason))
        { v with
          sequence := some sample.sequence, sourceSequence := source
          connectionEpoch := some sample.connectionEpoch
          previous := some sample, previousTrackingValid := true }

variable {v : PoseValidator δ} {sample : ArmPoseSample δ} {nowNs : ℤ}

theorem motion_cases (config : PoseValidationConfig δ) (sample previous : ArmPoseSample δ) :
    config.motion sample previous = none ∨ config.motion sample previous = some none ∨
      config.motion sample previous = some (some (.reject, "nonmonotonic_receive_timestamp")) ∨
      ∃ reason, config.motion sample previous = some (some (.reclutchRequired, reason)) ∧
        reason ≠ "connection_epoch_changed" := by
  unfold PoseValidationConfig.motion
  dsimp only
  split
  · exact .inr (.inr (.inl rfl))
  cases quaternionAngle sample.pose.quaternionXyzw previous.pose.quaternionXyzw with
  | none => exact .inl rfl
  | some rotation =>
    rw [Option.map_some]
    split
    · exact .inr (.inr (.inr ⟨_, rfl, by decide⟩))
    split
    · exact .inr (.inr (.inr ⟨_, rfl, by decide⟩))
    split
    · exact .inr (.inr (.inr ⟨_, rfl, by decide⟩))
    split
    · exact .inr (.inr (.inr ⟨_, rfl, by decide⟩))
    · exact .inr (.inl rfl)

/-- The validator that `compare` sees, behind both trackers. -/
def PoseValidator.behind (v : PoseValidator δ) (sample : ArmPoseSample δ) (source : Option ℕ) :
    PoseValidator δ :=
  { v with sequence := some sample.sequence, sourceSequence := source }

theorem Handled.compare (hc : v.Compares sample nowNs) (source : Option ℕ) :
    let w := { v.behind sample source with connectionEpoch := some sample.connectionEpoch }
    Handled v sample nowNs (w.compare sample nowNs).1 (w.compare sample nowNs).2 := by
  intro w
  have hpass : Handled v sample nowNs (some (w.config.accepting sample nowNs))
      { w with previous := some sample, previousTrackingValid := true } := by
    unfold PoseValidationConfig.accepting
    split
    · exact .accepted hc (.inr rfl) _ source
    · exact .accepted hc (.inl rfl) _ source
  unfold PoseValidator.compare
  cases hprevious : w.previous with
  | none => exact hpass
  | some previous =>
    dsimp only
    rcases motion_cases w.config sample previous with h | h | h | ⟨reason, h, hreason⟩
    · rw [h]
      exact .unmoved hc (.inl rfl) source
    · rw [h]
      exact hpass
    · rw [h]
      exact .unmoved hc (.inr rfl) source
    · rw [h]
      exact .alarmed (.inl rfl) hreason rfl rfl fun epoch he => congrArg some (hc.epoch epoch he)

theorem Handled.judge (htakes : v.Takes sample)
    (hsource : ¬v.SourceRepeated sample ∧ ¬v.SourceRegressed sample)
    (hrecent : v.config.Recent sample nowNs) (hfresh : sample.ageAt nowNs < v.config.holdAgeNs)
    (source : Option ℕ) :
    let w := v.behind sample source
    Handled v sample nowNs (w.judge sample nowNs).1 (w.judge sample nowNs).2 := by
  intro w
  have halarm : ∀ (reason : String) (u : PoseValidator δ), u.config = v.config →
      u.sequence = some sample.sequence → reason ≠ "connection_epoch_changed" →
      (∀ epoch, v.connectionEpoch = some epoch → u.connectionEpoch = some epoch) →
      Handled v sample nowNs (some (.reclutchRequired, reason)) u :=
    fun reason u hconfig hsequence hreason hepoch =>
      .alarmed (.inl rfl) hreason hconfig hsequence hepoch
  unfold PoseValidator.judge
  split
  · exact halarm _ _ rfl rfl (by decide) fun _ h => h
  rename_i htracking
  split
  · exact .switched rfl rfl rfl
  rename_i hepoch
  have hsame : ∀ epoch, v.connectionEpoch = some epoch → sample.connectionEpoch = epoch := by
    intro epoch h
    have hany : ¬(v.connectionEpoch.any (· ≠ sample.connectionEpoch)) = true := hepoch
    rw [h] at hany
    simp only [Option.any_some, decide_not, Bool.not_eq_true', decide_eq_false_iff_not,
      not_not] at hany
    exact hany.symm
  have hadopt : ∀ epoch, v.connectionEpoch = some epoch →
      some sample.connectionEpoch = some epoch :=
    fun epoch h => congrArg some (hsame epoch h)
  dsimp only
  split
  · refine halarm _ _ rfl rfl ?_ hadopt
    cases sample.discontinuity <;> decide
  rename_i hkind
  split
  · exact halarm _ _ rfl rfl (by decide) hadopt
  rename_i hsettled
  refine Handled.compare ⟨htakes, hsource, hrecent, hfresh, ?_, hsame, ?_⟩ source
  · rintro (h | h)
    · exact htracking h
    · exact hkind h
  · rintro ⟨hprevious, hvalid⟩
    refine hsettled ?_
    change (!v.previousTrackingValid && v.previous.isSome) = true
    simp [hprevious, hvalid]

/-- **Inversion of a call** with a sample of the expected frame. -/
theorem validateSample_handled (v : PoseValidator δ) (sample : ArmPoseSample δ) (nowNs : ℤ) :
    Handled v sample nowNs (v.validateSample sample nowNs).1
      (v.validateSample sample nowNs).2 := by
  unfold PoseValidator.validateSample
  rcases observe_cases v sample with ⟨last, reason, hlast, hle, h⟩ | ⟨htakes, h⟩
  · rw [h]
    exact .repeated hlast hle reason
  rw [h]
  have hstays : ∀ epoch, v.connectionEpoch = some epoch → v.connectionEpoch = some epoch :=
    fun _ h => h
  rcases observeSource_cases { v with sequence := some sample.sequence } sample with
    ⟨hs, h⟩ | ⟨hs, h⟩ | ⟨hrepeated, hregressed, source, h⟩
  · rw [h]
    have hswallowed : v.Swallowed sample nowNs := .inl hs
    exact .swallowed hswallowed (.inl rfl) _ v.sourceSequence
  · rw [h]
    dsimp only
    exact .alarmed (.inl rfl) (by decide) rfl rfl hstays
  rw [h]
  dsimp only
  rcases dropout_cases sample nowNs v.config with
    ⟨action, reason, hd, haction, hreason⟩ | ⟨hrecent, ⟨hhold, hd⟩ | ⟨hfresh, hd⟩⟩
  · rw [hd]
    exact .alarmed (.inr haction) hreason rfl rfl hstays
  · rw [hd]
    have hswallowed : v.Swallowed sample nowNs := .inr ⟨hregressed, hrecent, hhold⟩
    exact .swallowed hswallowed (.inr rfl) _ source
  · rw [hd]
    exact Handled.judge htakes ⟨hrepeated, hregressed⟩ hrecent hfresh source

end Handled

/-! ## Runs -/

section Runs

/-- A validator with its calls, newest first. -/
structure PoseSession (δ : Type*) where
  validator : PoseValidator δ
  log : List (ValidationEntry δ)

/-- A new validator. -/
def PoseSession.start (config : PoseValidationConfig δ) : PoseSession δ := ⟨{ config }, []⟩

/-- The call `validate(sample, now_ns=now)`. -/
def PoseSession.step [NumPy δ] (s : PoseSession δ)
    (call : Option (ArmPoseSample δ) × ℤ) : PoseSession δ :=
  let (result, validator) := s.validator.validate call.1 call.2
  ⟨validator, ⟨call.1, result⟩ :: s.log⟩

/-- A new sample that is swallowed continues the last one: its tracking is sound and it
    is of the accepted epoch. Any other finds the validator waiting for tracking to
    recover. -/
def Announced (frameId : String) (s : PoseSession δ) (call : Option (ArmPoseSample δ) × ℤ) :
    Prop :=
  ∀ sample, call.1 = some sample → sample.frameId = frameId → IsNew frameId s.log sample →
    s.validator.Swallowed sample call.2 →
      ¬sample.Broken ∧ ¬ChangesEpoch s.log sample ∨ s.validator.Awaiting

/-- The invariant of the runs. -/
structure Watching (frameId : String) (s : PoseSession δ) : Prop where
  frame : s.validator.config.expectedFrameId = frameId
  number : ∀ last, s.validator.sequence = some last → ∃ e ∈ s.log, ∃ earlier,
    e.sample = some earlier ∧ earlier.frameId = frameId ∧ earlier.sequence = last
  epoch : ∀ epoch, acceptedEpoch s.log = some epoch → s.validator.connectionEpoch = some epoch
  owed : Outstanding (fun e past => Breaks frameId past e) ValidationEntry.Alarms s.log →
    s.validator.Awaiting
  quiet : Whenever (fun e past => e.Accepts →
    ¬Outstanding (fun e past => Breaks frameId past e) ValidationEntry.Alarms (e :: past)) s.log

/-- The entry of a sample of the expected frame. -/
def ValidationEntry.ofVerdict (sample : ArmPoseSample δ) (verdict : Option Verdict) :
    ValidationEntry δ :=
  ⟨some sample, verdict.map (·.of sample)⟩

section Entries

variable (sample : ArmPoseSample δ) (action : ValidationAction) (reason : String)

theorem accepts_ofVerdict : (ValidationEntry.ofVerdict sample (some (action, reason))).Accepts ↔
    action = .accept ∨ action = .warning := by
  simp [ValidationEntry.Accepts, ValidationEntry.ofVerdict, Verdict.of]

theorem alarms_ofVerdict : (ValidationEntry.ofVerdict sample (some (action, reason))).Alarms ↔
    action = .reclutchRequired ∨ action = .abort ∨ action = .controlledStop := by
  simp [ValidationEntry.Alarms, ValidationEntry.ofVerdict, Verdict.of]

theorem adopted?_ofVerdict :
    (ValidationEntry.ofVerdict sample (some (action, reason))).adopted? =
      if action = .accept ∨ action = .warning ∨
          action = .reclutchRequired ∧ reason = "connection_epoch_changed" then
        some sample.connectionEpoch
      else none := rfl

end Entries

variable {frameId : String} {s : PoseSession δ}

theorem not_outstanding_of_alarms {raises : ValidationEntry δ → List (ValidationEntry δ) → Prop}
    {e : ValidationEntry δ} (he : e.Alarms) (past : List (ValidationEntry δ)) :
    ¬Outstanding raises ValidationEntry.Alarms (e :: past) :=
  fun ho => ho.1 he

variable {w : PoseValidator δ}

/-- A call that alarms. -/
theorem Watching.alarm (hw : Watching frameId s) {e : ValidationEntry δ} (he : e.Alarms)
    (hconfig : w.config = s.validator.config)
    (hnumber : ∀ last, w.sequence = some last → s.validator.sequence = some last ∨
      ∃ earlier, e.sample = some earlier ∧ earlier.frameId = frameId ∧ earlier.sequence = last)
    (hepoch : ∀ epoch, acceptedEpoch (e :: s.log) = some epoch →
      w.connectionEpoch = some epoch) : Watching frameId ⟨w, e :: s.log⟩ where
  frame := by rw [hconfig]; exact hw.frame
  number last hlast := by
    rcases hnumber last hlast with h | h
    · obtain ⟨d, hd, hearlier⟩ := hw.number last h
      exact ⟨d, List.mem_cons_of_mem e hd, hearlier⟩
    · exact ⟨e, List.mem_cons_self, h⟩
  epoch := hepoch
  owed ho := absurd ho (not_outstanding_of_alarms he _)
  quiet := whenever_cons.mpr ⟨fun _ => not_outstanding_of_alarms he _, hw.quiet⟩

/-- A call that neither alarms nor accepts, and leaves the previous sample alone. -/
theorem Watching.pass (hw : Watching frameId s) {e : ValidationEntry δ} (haccepts : ¬e.Accepts)
    (hadopted : e.adopted? = none) (hconfig : w.config = s.validator.config)
    (hnumber : ∀ last, w.sequence = some last → s.validator.sequence = some last ∨
      ∃ earlier, e.sample = some earlier ∧ earlier.frameId = frameId ∧ earlier.sequence = last)
    (hepoch : ∀ epoch, s.validator.connectionEpoch = some epoch → w.connectionEpoch = some epoch)
    (hprevious : w.Awaiting ↔ s.validator.Awaiting)
    (hbreaks : Breaks frameId s.log e → s.validator.Awaiting) :
    Watching frameId ⟨w, e :: s.log⟩ where
  frame := by rw [hconfig]; exact hw.frame
  number last hlast := by
    rcases hnumber last hlast with h | h
    · obtain ⟨d, hd, hearlier⟩ := hw.number last h
      exact ⟨d, List.mem_cons_of_mem e hd, hearlier⟩
    · exact ⟨e, List.mem_cons_self, h⟩
  epoch epoch h := by
    rw [acceptedEpoch, latest_cons_of_none hadopted] at h
    exact hepoch epoch (hw.epoch epoch h)
  owed ho := hprevious.mpr (ho.2.elim hbreaks hw.owed)
  quiet := whenever_cons.mpr ⟨fun h => absurd h haccepts, hw.quiet⟩

theorem Watching.continues (hw : Watching frameId s) {sample : ArmPoseSample δ} {nowNs : ℤ}
    (hc : s.validator.Compares sample nowNs) :
    ¬(sample.Broken ∨ ChangesEpoch s.log sample) := by
  rintro (hbroken | ⟨epoch, hepoch, hne⟩)
  · exact hc.whole hbroken
  · exact hne (hc.epoch epoch (hw.epoch epoch hepoch))

/-- **A call with a sample of the expected frame keeps the invariant.** -/
theorem Watching.handled (hw : Watching frameId s) {sample : ArmPoseSample δ} {nowNs : ℤ}
    (hframe : sample.frameId = frameId) {verdict : Option Verdict}
    (hhandled : Handled s.validator sample nowNs verdict w)
    (hannounced : Announced frameId s (some sample, nowNs)) :
    Watching frameId ⟨w, .ofVerdict sample verdict :: s.log⟩ := by
  have hself : ∀ verdict last, some sample.sequence = some last →
      ∃ earlier, (ValidationEntry.ofVerdict sample verdict).sample = some earlier ∧
        earlier.frameId = frameId ∧ earlier.sequence = last :=
    fun _ last h => ⟨sample, rfl, hframe, Option.some_inj.mp h⟩
  cases hhandled with
  | repeated hlast hle reason =>
    refine hw.pass (by simp [accepts_ofVerdict]) (by simp [adopted?_ofVerdict]) rfl
      (fun last h => .inl h) (fun _ h => h) Iff.rfl ?_
    rintro ⟨sample', hsample, hnew, -⟩
    obtain rfl := Option.some_inj.mp hsample
    -- the number of the tracker is that of an earlier sample
    obtain ⟨d, hd, earlier, hearlier, hearlierFrame, rfl⟩ := hw.number _ hlast
    exact absurd (hnew d hd earlier hearlier hearlierFrame) hle.not_gt
  | swallowed hs haction reason source =>
    refine hw.pass ?_ ?_ rfl (fun last h => .inr (hself _ last h)) (fun _ h => h) Iff.rfl ?_
    · rcases haction with rfl | rfl <;> simp [accepts_ofVerdict]
    · rcases haction with rfl | rfl <;> simp [adopted?_ofVerdict]
    · rintro ⟨sample', hsample, hnew, hbroken⟩
      obtain rfl := Option.some_inj.mp hsample
      exact (hannounced sample rfl hframe hnew hs).resolve_left fun ⟨hwhole, hepoch⟩ =>
        hbroken.elim hwhole hepoch
  | alarmed haction hreason hconfig hsequence hepoch =>
    refine hw.alarm ((alarms_ofVerdict ..).mpr haction) hconfig
      (fun last h => .inr (hself _ last (hsequence ▸ h))) ?_
    intro epoch h
    rw [acceptedEpoch, latest_cons_of_none] at h
    · exact hepoch epoch (hw.epoch epoch h)
    · rcases haction with rfl | rfl | rfl <;> simp [adopted?_ofVerdict, hreason]
  | switched hconfig hsequence hepoch =>
    refine hw.alarm ((alarms_ofVerdict ..).mpr (.inl rfl)) hconfig
      (fun last h => .inr (hself _ last (hsequence ▸ h))) ?_
    intro epoch h
    rw [acceptedEpoch, latest_cons_of_some (adopted?_ofVerdict ..)] at h
    exact hepoch.trans h
  | unmoved hc hverdict source =>
    refine hw.pass ?_ ?_ rfl (fun last h => .inr (hself _ last h))
      (fun epoch h => congrArg some (hc.epoch epoch h)) Iff.rfl ?_
    · rcases hverdict with rfl | rfl
      · simp [ValidationEntry.Accepts, ValidationEntry.ofVerdict]
      · simp [accepts_ofVerdict]
    · rcases hverdict with rfl | rfl
      · rfl
      · simp [adopted?_ofVerdict]
    · rintro ⟨sample', hsample, -, hbroken⟩
      obtain rfl := Option.some_inj.mp hsample
      exact absurd hbroken (hw.continues hc)
  | @accepted hc action haction reason source =>
    have hadopted : (ValidationEntry.ofVerdict sample (some (action, reason))).adopted? =
        some sample.connectionEpoch := by
      rw [adopted?_ofVerdict, if_pos (haction.imp_right .inl)]
    have hquiet : ¬Outstanding (fun e past => Breaks frameId past e) ValidationEntry.Alarms
        (.ofVerdict sample (some (action, reason)) :: s.log) := by
      rintro ⟨-, ⟨sample', hsample, -, hbroken⟩ | ho⟩
      · obtain rfl := Option.some_inj.mp hsample
        exact hw.continues hc hbroken
      · exact hc.settled (hw.owed ho)
    refine ⟨hw.frame, ?_, ?_, fun ho => absurd ho hquiet,
      whenever_cons.mpr ⟨fun _ => hquiet, hw.quiet⟩⟩
    · exact fun last h => ⟨_, List.mem_cons_self, hself _ last h⟩
    · intro epoch h
      rwa [acceptedEpoch, latest_cons_of_some hadopted] at h

variable [NumPy δ]

theorem Watching.step (hw : Watching frameId s) (call : Option (ArmPoseSample δ) × ℤ)
    (hannounced : Announced frameId s call) : Watching frameId (s.step call) := by
  obtain ⟨sample, nowNs⟩ := call
  cases sample with
  | none =>
    refine hw.pass ?_ rfl rfl (fun _ h => .inl h) (fun _ h => h) Iff.rfl nofun
    simp [ValidationEntry.Accepts]
  | some sample =>
    unfold PoseSession.step PoseValidator.validate
    dsimp only
    split
    · exact hw.alarm ((alarms_ofVerdict ..).mpr (.inr (.inl rfl))) rfl (fun _ h => .inl h)
        fun epoch h => hw.epoch epoch h
    · rename_i hframe
      exact hw.handled ((not_not.mp hframe).trans hw.frame)
        (validateSample_handled s.validator sample nowNs) hannounced

/-- **No discontinuity is hidden** as long as no discontinuity is swallowed. -/
theorem hides_nothing (config : PoseValidationConfig δ)
    (calls : List (Option (ArmPoseSample δ) × ℤ))
    (h : Meets PoseSession.step (Announced config.expectedFrameId) (.start config) calls) :
    HidesNothing config.expectedFrameId (run PoseSession.step (.start config) calls).log := by
  have hstart : Watching config.expectedFrameId (PoseSession.start config) :=
    ⟨rfl, nofun, nofun, nofun, whenever_nil⟩
  exact hidesNothing_of_whenever
    (run_invariant_of_meets (fun s call hc hw => hw.step call hc) hstart h).quiet

end Runs

/-! ## Runs of the default configuration -/

/-- The default limits, in exact arithmetic. -/
noncomputable def defaultPoseValidation : PoseValidationConfig ℝ where
  expectedFrameId := "frame"
  maximumTranslationJumpM := 0.2
  maximumRotationJumpRad := 35 * Real.pi / 180
  maximumLinearSpeedMS := 3
  maximumAngularSpeedRadS := 720 * Real.pi / 180

noncomputable def restingSample (sequence localReceiveNs : ℕ) : ArmPoseSample ℝ where
  sequence
  frameId := "frame"
  pose := ⟨fun _ => 0, identityRotation⟩
  localReceiveNs

theorem motion_resting {sample previous : ArmPoseSample ℝ} (hpose : sample.pose = previous.pose)
    (hidentity : sample.pose.quaternionXyzw = identityRotation)
    (hlater : previous.localReceiveNs < sample.localReceiveNs) :
    defaultPoseValidation.motion sample previous = some none := by
  have hstill : translation sample.pose previous.pose = 0 := by
    simp [translation, hpose, NumPy.norm_real]
  have hangle : quaternionAngle sample.pose.quaternionXyzw previous.pose.quaternionXyzw =
      some 0 := by rw [← hpose, hidentity, quaternionAngle_identity]
  have hdt : ¬(sample.localReceiveNs : ℤ) - previous.localReceiveNs ≤ 0 := by omega
  have hjump : ¬(0.2 : ℝ) < 0 := by norm_num
  have hspeed : ¬(3 : ℝ) < 0 := by norm_num
  have hturn : ¬35 * Real.pi / 180 < 0 := not_lt.mpr (by positivity)
  have hspin : ¬720 * Real.pi / 180 < 0 := not_lt.mpr (by positivity)
  unfold PoseValidationConfig.motion
  rw [if_neg hdt, hangle, hstill]
  simp [defaultPoseValidation, hjump, hspeed, hturn, hspin]

/-- A sample at rest is accepted after another. -/
theorem compare_resting {v : PoseValidator ℝ} (hconfig : v.config = defaultPoseValidation)
    {earlier earlierNs : ℕ} {discontinuity : DiscontinuityKind}
    (hprevious : v.previous = some { restingSample earlier earlierNs with discontinuity })
    (sequence : ℕ) {receiveNs : ℕ} (hlater : earlierNs < receiveNs) :
    (v.compare (restingSample sequence receiveNs) receiveNs).1 = some (.accept, "ok") := by
  have hmotion : defaultPoseValidation.motion (restingSample sequence receiveNs)
      { restingSample earlier earlierNs with discontinuity } = some none :=
    motion_resting rfl rfl hlater
  have hage : ¬(40000000 : ℤ) ≤ (restingSample sequence receiveNs).ageAt receiveNs := by
    simp [ArmPoseSample.ageAt, restingSample]
  simp only [PoseValidator.compare, hprevious, hconfig, hmotion, PoseValidationConfig.accepting]
  rw [if_neg (by simpa [defaultPoseValidation] using hage)]

/-- A sample, a reconnect that arrives 110 ms late, and a sample. -/
noncomputable def lateReconnect : List (Option (ArmPoseSample ℝ) × ℤ) :=
  [(some (restingSample 1 0), 0),
    (some { restingSample 2 10000000 with discontinuity := .reconnect }, 120000000),
    (some (restingSample 3 130000000), 130000000)]

theorem lateReconnect_log : (run PoseSession.step (.start defaultPoseValidation) lateReconnect).log =
    [.ofVerdict (restingSample 3 130000000) (some (.accept, "ok")),
      .ofVerdict { restingSample 2 10000000 with discontinuity := .reconnect }
        (some (.hold, "short_dropout")),
      .ofVerdict (restingSample 1 0) (some (.accept, "ok"))] := by
  let v : PoseValidator ℝ :=
    { config := defaultPoseValidation, sequence := some 3, previous := some (restingSample 1 0)
      previousTrackingValid := true, connectionEpoch := some 0 }
  show ValidationEntry.ofVerdict _ (v.compare (restingSample 3 130000000) 130000000).1 :: _ = _
  have hprevious : v.previous = some { restingSample 1 0 with discontinuity := .none } := rfl
  have hcompare := compare_resting rfl hprevious 3 (show 0 < 130000000 by decide)
  rw [show ((130000000 : ℕ) : ℤ) = 130000000 from rfl] at hcompare
  rw [hcompare]
  rfl

/-- **A late reconnect is forgotten.** -/
theorem reconnect_hidden : ¬HidesNothing "frame"
    (run PoseSession.step (.start defaultPoseValidation) lateReconnect).log := by
  rw [lateReconnect_log]
  intro h
  have hnew : IsNew "frame" [.ofVerdict (restingSample 1 0) (some (.accept, "ok"))]
      ({ restingSample 2 10000000 with discontinuity := .reconnect } : ArmPoseSample ℝ) := by
    intro e he earlier hearlier _
    obtain rfl := List.mem_singleton.mp he
    obtain rfl := Option.some_inj.mp hearlier
    decide
  obtain ⟨e, he, halarms⟩ := h [_] _ [_] rfl ⟨_, rfl, hnew, .inl (.inr rfl)⟩ [] _ [_] rfl
    ((accepts_ofVerdict ..).mpr (.inl rfl))
  obtain rfl := List.mem_singleton.mp he
  simp [alarms_ofVerdict] at halarms

/-- A sample, a reconnect that comes in time, a loss of tracking whose second sample is
    late, and two samples. -/
noncomputable def reconnectInTime : List (Option (ArmPoseSample ℝ) × ℤ) :=
  [(some (restingSample 1 0), 0),
    (some { restingSample 2 10000000 with discontinuity := .reconnect }, 20000000),
    (some { restingSample 3 30000000 with trackingValid := false }, 30000000),
    (some { restingSample 4 40000000 with trackingValid := false }, 150000000),
    (some (restingSample 5 160000000), 160000000),
    (some (restingSample 6 170000000), 170000000)]

/-- Two alarms answer the reconnect and the loss of tracking, a third the recovery, and
    the last sample is accepted. -/
theorem hides_nothing_reconnect :
    (∃ e ∈ (run PoseSession.step (.start defaultPoseValidation) reconnectInTime).log.head?,
      e.Accepts) ∧
      HidesNothing "frame" (run PoseSession.step (.start defaultPoseValidation)
        reconnectInTime).log := by
  have hfresh : ∀ {v : PoseValidator ℝ} {sample : ArmPoseSample ℝ} {nowNs : ℤ},
      sample.sourceSequence = none → sample.ageAt nowNs < v.config.holdAgeNs →
      ¬v.Swallowed sample nowNs := by
    rintro v sample nowNs hsource hage (⟨n, hn, -⟩ | ⟨-, -, hhold⟩)
    · exact absurd (hsource.symm.trans hn) (by simp)
    · exact hage.not_ge hhold
  constructor
  · let v : PoseValidator ℝ :=
      { config := defaultPoseValidation, sequence := some 6
        previous := some (restingSample 5 160000000), previousTrackingValid := true
        connectionEpoch := some 0 }
    have hcompare : (v.compare (restingSample 6 170000000) 170000000).1 = some (.accept, "ok") :=
      compare_resting rfl (show v.previous = some { restingSample 5 160000000 with
        discontinuity := .none } from rfl) 6 (by decide)
    refine ⟨.ofVerdict _ (v.compare (restingSample 6 170000000) 170000000).1, rfl, ?_⟩
    rw [hcompare]
    exact (accepts_ofVerdict ..).mpr (.inl rfl)
  · refine hides_nothing defaultPoseValidation _ ⟨?_, ?_, ?_, ?_, ?_, ?_, trivial⟩ <;>
      intro sample hsample _ _ hswallowed <;> obtain rfl := Option.some_inj.mp hsample
    · exact absurd hswallowed (hfresh rfl (by decide))
    · exact absurd hswallowed (hfresh rfl (by decide))
    · exact absurd hswallowed (hfresh rfl (by decide))
    · exact .inr ⟨rfl, rfl⟩
    · exact absurd hswallowed (hfresh rfl (by decide))
    · exact absurd hswallowed (hfresh rfl (by decide))

end HandLab.Teleoperation
