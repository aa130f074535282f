import HandLab.Teleoperation.Se3

/-!
# `PoseValidator`

`src/teleoperation/processing/pose_validator.py` with the `SequenceTracker` of
`src/teleoperation/sequence.py`. Every call returns its result with the
validator after it, and no result where `quaternion_angle` raises.

`validate` is cut at the source's stages: the sequence numbers (`observe`), the
age (`dropout`), the tracking (`judge`) and the motion (`compare`). The fields
of a sample that nobody reads are left out.
-/

namespace HandLab.Teleoperation

open HandLab.Lib Double

variable {δ : Type*}

/-! ## Data -/

/-- `TrackingState`. -/
inductive TrackingState
  | unknown | valid | limited | invalid
  deriving DecidableEq, Repr

/-- `DiscontinuityKind`. -/
inductive DiscontinuityKind
  | none | initial | reconnect | sequenceReset | trackingRecovery | relocalization
  deriving DecidableEq, Repr

/-- The `value` of a `DiscontinuityKind`. -/
def DiscontinuityKind.value : DiscontinuityKind → String
  | .none => "none"
  | .initial => "initial"
  | .reconnect => "reconnect"
  | .sequenceReset => "sequence_reset"
  | .trackingRecovery => "tracking_recovery"
  | .relocalization => "relocalization"

/-- The kinds that `validate` answers with `RECLUTCH_REQUIRED`. -/
def DiscontinuityKind.requiresReclutch : DiscontinuityKind → Bool
  | .reconnect | .sequenceReset | .trackingRecovery | .relocalization => true
  | .none | .initial => false

/-- `ArmPoseSample`, with the `local_receive_ns` of its timestamps. -/
structure ArmPoseSample (δ : Type*) where
  sequence : ℕ
  frameId : String
  pose : Pose3D δ
  localReceiveNs : ℕ
  trackingValid : Bool := true
  trackingState : TrackingState := .unknown
  validityReason : String := ""
  sampleAgeNs : ℕ := 0
  connectionEpoch : ℕ := 0
  discontinuity : DiscontinuityKind := .none
  sourceSequence : Option ℕ := none
  deriving DecidableEq

/-- `ValidationAction`. -/
inductive ValidationAction
  | accept | warning | hold | controlledStop | abort | reclutchRequired | reject
  deriving DecidableEq, Repr

/-- `ValidationResult`. -/
structure ValidationResult (δ : Type*) where
  action : ValidationAction
  reason : String
  sample : Option (ArmPoseSample δ)
  deriving DecidableEq

/-- `PoseValidationConfig`. -/
structure PoseValidationConfig (δ : Type*) where
  expectedFrameId : String
  warningAgeNs : ℤ := 40000000
  holdAgeNs : ℤ := 100000000
  controlledStopAgeNs : ℤ := 500000000
  fatalAgeNs : ℤ := 2000000000
  maximumTranslationJumpM : δ
  maximumRotationJumpRad : δ
  maximumLinearSpeedMS : δ
  maximumAngularSpeedRadS : δ

/-- The members of `PoseValidator`; a `SequenceTracker` is its `last_sequence`. -/
structure PoseValidator (δ : Type*) where
  config : PoseValidationConfig δ
  sequence : Option ℕ := none
  sourceSequence : Option ℕ := none
  previous : Option (ArmPoseSample δ) := none
  previousTrackingValid : Bool := false
  connectionEpoch : Option ℕ := none

/-! ## Sequence numbers -/

/-- `SequenceDisposition`. -/
inductive SequenceDisposition
  | first | new | duplicate | reordered
  deriving DecidableEq, Repr

/-- `SequenceTracker.observe`: the disposition and `last_sequence` after it. -/
def observeSequence (last : Option ℕ) (sequence : ℕ) : SequenceDisposition × Option ℕ :=
  match last with
  | none => (.first, some sequence)
  | some previous =>
    if sequence = previous then (.duplicate, last)
    else if sequence < previous then (.reordered, last)
    else (.new, some sequence)

/-- An action with its reason. -/
abbrev Verdict := ValidationAction × String

/-- The result for a sample. -/
def Verdict.of (verdict : Verdict) (sample : ArmPoseSample δ) : ValidationResult δ :=
  ⟨verdict.1, verdict.2, some sample⟩

namespace PoseValidator

variable (v : PoseValidator δ) (sample : ArmPoseSample δ)

/-- The tracker of the source's numbers (lines 84–89), with an early result. -/
def observeSource : Option Verdict × PoseValidator δ :=
  match sample.sourceSequence with
  | none => (none, v)
  | some sourceSequence =>
    let (disposition, last) := observeSequence v.sourceSequence sourceSequence
    (match disposition with
      | .duplicate => some (.reject, "duplicate_source_sequence")
      | .reordered => some (.reclutchRequired, "source_sequence_reset")
      | .first | .new => none,
      { v with sourceSequence := last })

/-- Both sequence trackers (lines 79–89), with an early result. -/
def observe : Option Verdict × PoseValidator δ :=
  let (disposition, last) := observeSequence v.sequence sample.sequence
  let v := { v with sequence := last }
  match disposition with
  | .duplicate => (some (.reject, "duplicate_sequence"), v)
  | .reordered => (some (.reject, "reordered_sequence"), v)
  | .first | .new => v.observeSource sample

end PoseValidator

/-! ## Ages -/

/-- The age of a sample (line 94). -/
def ArmPoseSample.ageAt (sample : ArmPoseSample δ) (nowNs : ℤ) : ℤ :=
  max sample.sampleAgeNs (max 0 (nowNs - sample.localReceiveNs))

/-- The result for a sample of the future or of a hold age (lines 91–100). -/
def PoseValidationConfig.dropout (config : PoseValidationConfig δ) (sample : ArmPoseSample δ)
    (nowNs : ℤ) : Option Verdict :=
  if nowNs + 5000000 < sample.localReceiveNs then some (.abort, "future_receive_timestamp")
  else if config.fatalAgeNs ≤ sample.ageAt nowNs then some (.abort, "fatal_sample_age")
  else if config.controlledStopAgeNs ≤ sample.ageAt nowNs then
    some (.controlledStop, "prolonged_dropout")
  else if config.holdAgeNs ≤ sample.ageAt nowNs then some (.hold, "short_dropout")
  else none

/-- The result for a sample that passes every check (lines 151–153). -/
def PoseValidationConfig.accepting (config : PoseValidationConfig δ) (sample : ArmPoseSample δ)
    (nowNs : ℤ) : Verdict :=
  if config.warningAgeNs ≤ sample.ageAt nowNs then (.warning, "sample_age_warning")
  else (.accept, "ok")

/-! ## Tracking and motion -/

def ArmPoseSample.trackingInvalid (sample : ArmPoseSample δ) : Bool :=
  !sample.trackingValid || decide (sample.trackingState = .invalid)

section Motion

variable [NumPy δ]

/-- The motion since the previous sample (lines 132–147); `none` where
    `quaternion_angle` raises. -/
def PoseValidationConfig.motion (config : PoseValidationConfig δ)
    (sample previous : ArmPoseSample δ) : Option (Option Verdict) :=
  let dtNs : ℤ := sample.localReceiveNs - previous.localReceiveNs
  if dtNs ≤ 0 then some (some (.reject, "nonmonotonic_receive_timestamp"))
  else
    let dt : δ := div (ofInt dtNs) (ofRat 1e9)
    let translation := translation sample.pose previous.pose
    (quaternionAngle sample.pose.quaternionXyzw previous.pose.quaternionXyzw).map fun rotation =>
      if lt config.maximumTranslationJumpM translation then
        some (.reclutchRequired, "translation_discontinuity")
      else if lt config.maximumRotationJumpRad rotation then
        some (.reclutchRequired, "rotation_discontinuity")
      else if lt config.maximumLinearSpeedMS (div translation dt) then
        some (.reclutchRequired, "impossible_linear_speed")
      else if lt config.maximumAngularSpeedRadS (div rotation dt) then
        some (.reclutchRequired, "impossible_angular_speed")
      else none

namespace PoseValidator

variable (v : PoseValidator δ) (sample : ArmPoseSample δ) (nowNs : ℤ)

/-- The end of `validate` (lines 130–153). -/
def compare : Option Verdict × PoseValidator δ :=
  let motion := match v.previous with
    | none => some none
    | some previous => v.config.motion sample previous
  match motion with
  | none => (none, v)
  | some (some verdict) => (some verdict, v)
  | some none =>
    (some (v.config.accepting sample nowNs),
      { v with previous := some sample, previousTrackingValid := true })

/-- The tracking checks of a sample that is not too old (lines 102–153). -/
def judge : Option Verdict × PoseValidator δ :=
  if sample.trackingInvalid then
    (some (.reclutchRequired, "tracking_invalid"),
      { v with previous := some sample, previousTrackingValid := false })
  else if v.connectionEpoch.any (· ≠ sample.connectionEpoch) then
    (some (.reclutchRequired, "connection_epoch_changed"),
      { v with
        connectionEpoch := some sample.connectionEpoch
        previous := some sample, previousTrackingValid := true })
  else
    let v := { v with connectionEpoch := some sample.connectionEpoch }
    if sample.discontinuity.requiresReclutch then
      (some (.reclutchRequired, "discontinuity:" ++ sample.discontinuity.value),
        { v with previous := some sample, previousTrackingValid := true })
    else if !v.previousTrackingValid && v.previous.isSome then
      (some (.reclutchRequired, "tracking_recovered"),
        { v with previous := some sample, previousTrackingValid := true })
    else v.compare sample nowNs

/-- `validate` for a sample of the expected frame. -/
def validateSample : Option Verdict × PoseValidator δ :=
  let (verdict, v) := v.observe sample
  match verdict with
  | some verdict => (some verdict, v)
  | none =>
    match v.config.dropout sample nowNs with
    | some verdict => (some verdict, v)
    | none => v.judge sample nowNs

/-- `validate` (lines 74–153). -/
def validate (sample : Option (ArmPoseSample δ)) (nowNs : ℤ) :
    Option (ValidationResult δ) × PoseValidator δ :=
  match sample with
  | none => (some ⟨.hold, "no_sample", none⟩, v)
  | some sample =>
    if sample.frameId ≠ v.config.expectedFrameId then
      (some (Verdict.of (.abort, "unexpected_source_frame") sample), v)
    else
      let (verdict, v) := v.validateSample sample nowNs
      (verdict.map (·.of sample), v)

end PoseValidator

end Motion

end HandLab.Teleoperation
