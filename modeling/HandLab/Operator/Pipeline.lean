import HandLab.Quest.Provider
import HandLab.Teleoperation.Se3

/-!
# `RightHandOperatorPipeline`

The right-hand operator state machine and its filter
(`src/motion_input/hts_operator.py`, lines 34–83 and 138–518). `step` and
`forceFault` return what the call returns or raises, and the pipeline after it.
-/

namespace HandLab.Operator

open HandLab.Lib Double NumPy PyMath
open HandLab.Teleoperation (Vector3 QuaternionXyzw allFinite negated)

variable {δ : Type*}

/-! ## Quaternions -/

section Quaternions

variable [PyMath δ]

/-- `math.sqrt(sum(value * value for value in quaternion))`. -/
def quaternionNorm (q : QuaternionXyzw δ) : δ := sqrt (tupleSum fun i => mul (q i) (q i))

/-- `_normalized_quaternion`; `none` where it raises `ProtocolValidationError`. -/
def normalizedQuaternion (q : QuaternionXyzw δ) : Option (QuaternionXyzw δ) :=
  if eq (quaternionNorm q) zero then none else some fun i => div (q i) (quaternionNorm q)

/-- `_quaternion_conjugate`. -/
def quaternionConjugate (q : QuaternionXyzw δ) : QuaternionXyzw δ :=
  ![negated (q 0), negated (q 1), negated (q 2), q 3]

/-- `_quaternion_multiply`. -/
def quaternionMultiply (l r : QuaternionXyzw δ) : Option (QuaternionXyzw δ) :=
  normalizedQuaternion
    ![sub (add (add (mul (l 3) (r 0)) (mul (l 0) (r 3))) (mul (l 1) (r 2))) (mul (l 2) (r 1)),
      add (add (sub (mul (l 3) (r 1)) (mul (l 0) (r 2))) (mul (l 1) (r 3))) (mul (l 2) (r 0)),
      add (sub (add (mul (l 3) (r 2)) (mul (l 0) (r 1))) (mul (l 1) (r 0))) (mul (l 2) (r 3)),
      sub (sub (sub (mul (l 3) (r 3)) (mul (l 0) (r 0))) (mul (l 1) (r 1))) (mul (l 2) (r 2))]

/-- The Rodrigues form of `_rotate_vector` for a normalised quaternion. -/
def rodrigues (q : QuaternionXyzw δ) (v : Vector3 δ) : Vector3 δ :=
  let tx := mul (ofRat 2) (sub (mul (q 1) (v 2)) (mul (q 2) (v 1)))
  let ty := mul (ofRat 2) (sub (mul (q 2) (v 0)) (mul (q 0) (v 2)))
  let tz := mul (ofRat 2) (sub (mul (q 0) (v 1)) (mul (q 1) (v 0)))
  ![add (add (v 0) (mul (q 3) tx)) (sub (mul (q 1) tz) (mul (q 2) ty)),
    add (add (v 1) (mul (q 3) ty)) (sub (mul (q 2) tx) (mul (q 0) tz)),
    add (add (v 2) (mul (q 3) tz)) (sub (mul (q 0) ty) (mul (q 1) tx))]

/-- `_rotate_vector`. -/
def rotateVector (q : QuaternionXyzw δ) (v : Vector3 δ) : Option (Vector3 δ) :=
  (normalizedQuaternion q).map fun unit => rodrigues unit v

/-- `_distance`; `none` where a square raises `OverflowError`. -/
def distance (a b : Vector3 δ) : Option δ :=
  (square (sub (a 0) (b 0))).bind fun x => (square (sub (a 1) (b 1))).bind fun y =>
    (square (sub (a 2) (b 2))).map fun z => sqrt (tupleSum ![x, y, z])

/-- `min(a, b)`. -/
def pyMin (a b : δ) : δ := if lt b a then b else a

/-- `max(a, b)`. -/
def pyMax (a b : δ) : δ := if lt a b then b else a

/-- `_quaternion_distance`. -/
def quaternionDistance (l r : QuaternionXyzw δ) : δ :=
  mul (ofRat 2) (acos (pyMin (ofRat 1) (abs (tupleSum fun i => mul (l i) (r i)))))

/-- `_quaternion_scaled`. -/
def quaternionScaled (q : QuaternionXyzw δ) (scale : δ) : Option (QuaternionXyzw δ) :=
  (normalizedQuaternion q).bind fun unit =>
    let unit := if lt (unit 3) zero then fun i => negated (unit i) else unit
    let halfAngle := acos (pyMax (ofRat (-1)) (pyMin (ofRat 1) (unit 3)))
    let sine := sin halfAngle
    if lt (abs sine) (ofRat (1 / 10 ^ 12)) then some ![zero, zero, zero, ofRat 1]
    else
      let factor := div (sin (mul halfAngle scale)) sine
      normalizedQuaternion
        ![mul (unit 0) factor, mul (unit 1) factor, mul (unit 2) factor,
          cos (mul halfAngle scale)]

/-- `_quaternion_slerp`. -/
def quaternionSlerp (start finish : QuaternionXyzw δ) (fraction : δ) :
    Option (QuaternionXyzw δ) :=
  let fraction := pyMax zero (pyMin (ofRat 1) fraction)
  let product := tupleSum fun i => mul (start i) (finish i)
  let finish := if lt product zero then fun i => negated (finish i) else finish
  let product := if lt product zero then negated product else product
  let product := pyMax (ofRat (-1)) (pyMin (ofRat 1) product)
  if lt (ofRat (1999 / 2000)) product then
    normalizedQuaternion fun i =>
      add (start i) (mul fraction (sub (finish i) (start i)))
  else
    let angle := acos product
    let sine := sin angle
    let leftWeight := div (sin (mul (sub (ofRat 1) fraction) angle)) sine
    let rightWeight := div (sin (mul fraction angle)) sine
    normalizedQuaternion fun i => add (mul leftWeight (start i)) (mul rightWeight (finish i))

/-- `_inside_workspace`. -/
def insideWorkspace (position lower upper : Vector3 δ) : Bool :=
  (List.finRange 3).all fun i => le (lower i) (position i) && le (position i) (upper i)

end Quaternions

/-! ## Inputs -/

/-- `Pose6D`, which accepts a quaternion whose norm is within `1e-3` of one. -/
structure Pose6D (δ : Type*) [PyMath δ] where
  positionM : Vector3 δ
  orientationXyzw : QuaternionXyzw δ
  finite : (allFinite positionM && allFinite orientationXyzw) = true
  unit : lt (ofRat (1 / 1000)) (abs (sub (quaternionNorm orientationXyzw) (ofRat 1))) = false

variable [PyMath δ]

/-- What the pipeline reads of `QuestHandObservation`. -/
structure QuestHandObservation (δ : Type*) [PyMath δ] where
  trackingValid : Bool
  hostSequenceNumber : Option ℕ
  streamAgeS : Option δ
  wristPose : Option (Pose6D δ)
  /-- `len(joints)` -/
  jointCount : ℕ

/-- What the pipeline reads of `CanonicalQuestState`. -/
structure CanonicalQuestState (δ : Type*) [PyMath δ] where
  hostMonotonicNs : ℤ
  right : QuestHandObservation δ

/-- The keyword arguments of `step`. -/
structure StepRequest where
  engageRequest : Bool
  captureReferenceRequest : Bool
  disengageRequest : Bool
  frozenStream : Bool
  malformedData : Bool
  deriving DecidableEq, Repr

/-- `orientation_mapping`. -/
inductive OrientationMapping
  | relative
  | disabled
  deriving DecidableEq, Repr

/-- The numbers of `RightHandOperatorConfig`. The required hand is the right
    one, without the left hand and the head; the joints are 21. -/
structure OperatorSettings (δ : Type*) where
  staleAfterS : δ
  translationScale : Vector3 δ
  orientationMapping : OrientationMapping
  orientationScale : δ
  filterTimeConstantS : δ
  jumpRejectTranslationM : δ
  jumpRejectRotationRad : δ
  workspaceMinM : Vector3 δ
  workspaceMaxM : Vector3 δ

/-- `math.isfinite(value) and value > 0`. -/
def finitePositive (value : δ) : Bool := isFinite value && lt zero value

/-- `__post_init__` raises nothing (lines 51–84). -/
def OperatorSettings.checked (c : OperatorSettings δ) : Bool :=
  finitePositive c.staleAfterS && finitePositive c.orientationScale &&
    finitePositive c.jumpRejectTranslationM && finitePositive c.jumpRejectRotationRad &&
    (isFinite c.filterTimeConstantS && !lt c.filterTimeConstantS zero) &&
    allFinite c.translationScale && allFinite c.workspaceMinM && allFinite c.workspaceMaxM &&
    (List.finRange 3).all (fun i => !lt (c.translationScale i) zero) &&
    (List.finRange 3).all fun i => lt (c.workspaceMinM i) (c.workspaceMaxM i)

/-- `RightHandOperatorConfig`. -/
structure RightHandOperatorConfig (δ : Type*) [PyMath δ] extends OperatorSettings δ where
  accepted : toOperatorSettings.checked = true

/-- `required_joint_count`. -/
def requiredJointCount : ℕ := 21

/-! ## The pipeline -/

/-- `OperatorInputState`. -/
inductive OperatorInputState
  | disengaged
  | armedReferenceCapture
  | engaged
  deriving DecidableEq, Repr

/-- `OperatorStateTransition`. -/
structure OperatorStateTransition where
  timestampMonotonicNs : ℤ
  previous : OperatorInputState
  current : OperatorInputState
  reason : String
  deriving DecidableEq, Repr

/-- `OfflineOperatorTarget`; `frame_id` is always `CANONICAL_OPERATOR_FRAME`. -/
structure OfflineOperatorTarget (δ : Type*) where
  timestampMonotonicNs : ℤ
  state : OperatorInputState
  validForMapping : Bool
  emergencyNeutral : Bool
  translationM : Vector3 δ
  orientationXyzw : QuaternionXyzw δ
  referenceHostSequence : Option ℕ
  currentHostSequence : Option ℕ
  reason : String

/-- What the calls raise. -/
inductive OperatorError
  /-- a failed `assert` -/
  | assertion
  /-- `ProtocolValidationError("cannot normalize a zero quaternion")` -/
  | zeroQuaternion
  /-- `ValueError("fault reason must not be empty")` -/
  | emptyReason
  /-- `OverflowError` of `**` -/
  | overflow
  deriving DecidableEq, Repr

/-- `RightHandOperatorPipeline`. -/
structure RightHandOperatorPipeline (δ : Type*) [PyMath δ] where
  state : OperatorInputState
  referencePose : Option (Pose6D δ)
  referenceHostSequence : Option ℕ
  transitions : List OperatorStateTransition
  lastInputPose : Option (Pose6D δ)
  lastInputSequence : Option ℕ
  filteredTranslation : Option (Vector3 δ)
  filteredOrientation : Option (QuaternionXyzw δ)
  lastOutputNs : Option ℤ

/-- `(0.0, 0.0, 0.0)`. -/
def neutralTranslation : Vector3 δ := fun _ => zero

/-- `(0.0, 0.0, 0.0, 1.0)`. -/
def neutralOrientation : QuaternionXyzw δ := ![zero, zero, zero, ofRat 1]

/-- `_unsafe_reason` (lines 289–309). -/
def unsafeReason (config : RightHandOperatorConfig δ) (quest : CanonicalQuestState δ)
    (request : StepRequest) : Option String :=
  let hand := quest.right
  if request.malformedData then some "malformed_right_hand_data"
  else if request.frozenStream then some "frozen_right_hand_stream"
  else if !hand.trackingValid || hand.wristPose.isNone then
    if hand.streamAgeS.any fun age => lt config.staleAfterS age then some "right_hand_stale"
    else some "right_hand_not_tracking"
  else if hand.streamAgeS.all fun age => lt config.staleAfterS age then some "right_hand_stale"
  else if hand.jointCount ≠ requiredJointCount then some "right_hand_joint_count_invalid"
  else none

namespace RightHandOperatorPipeline

/-- After `__init__`. -/
def init : RightHandOperatorPipeline δ where
  state := .disengaged
  referencePose := none
  referenceHostSequence := none
  transitions := []
  lastInputPose := none
  lastInputSequence := none
  filteredTranslation := none
  filteredOrientation := none
  lastOutputNs := none

variable (config : RightHandOperatorConfig δ) (p : RightHandOperatorPipeline δ)

/-- `_transition`. -/
def transition (nowNs : ℤ) (current : OperatorInputState) (reason : String) :
    RightHandOperatorPipeline δ :=
  if current = p.state then p
  else
    { p with
      state := current
      transitions := p.transitions ++ [⟨nowNs, p.state, current, reason⟩] }

/-- `_force_disengaged`. -/
def forceDisengaged (nowNs : ℤ) (reason : String) : RightHandOperatorPipeline δ :=
  transition
    { p with
      referencePose := none
      referenceHostSequence := none
      filteredTranslation := none
      filteredOrientation := none
      lastOutputNs := none } nowNs .disengaged reason

/-- `_remember_input`. -/
def rememberInput (pose : Pose6D δ) (sequence : Option ℕ) : RightHandOperatorPipeline δ :=
  if sequence = p.lastInputSequence then p
  else { p with lastInputPose := some pose, lastInputSequence := sequence }

/-- `_neutral`. -/
def neutral (nowNs : ℤ) (currentSequence : Option ℕ) (reason : String) :
    OfflineOperatorTarget δ where
  timestampMonotonicNs := nowNs
  state := p.state
  validForMapping := false
  emergencyNeutral := true
  translationM := neutralTranslation
  orientationXyzw := neutralOrientation
  referenceHostSequence := p.referenceHostSequence
  currentHostSequence := currentSequence
  reason

/-- `_target`. -/
def target (nowNs : ℤ) (currentSequence : Option ℕ) (translation : Vector3 δ)
    (orientation : QuaternionXyzw δ) (reason : String) : OfflineOperatorTarget δ where
  timestampMonotonicNs := nowNs
  state := p.state
  validForMapping := true
  emergencyNeutral := false
  translationM := translation
  orientationXyzw := orientation
  referenceHostSequence := p.referenceHostSequence
  currentHostSequence := currentSequence
  reason

/-- The jump test applies to the sample: it is new, and the pipeline is armed or engaged. -/
def JumpTested (sequence : Option ℕ) : Prop :=
  sequence ≠ p.lastInputSequence ∧ (p.state = .armedReferenceCapture ∨ p.state = .engaged)

instance (sequence : Option ℕ) : Decidable (p.JumpTested sequence) :=
  inferInstanceAs (Decidable (_ ∧ _))

/-- The jump test (lines 178–201): the reason it rejects the sample for. -/
def jumpReason (pose : Pose6D δ) (sequence : Option ℕ) : Except OperatorError (Option String) :=
  match p.lastInputPose with
  | none => .ok none
  | some last =>
    if p.JumpTested sequence then
      match distance pose.positionM last.positionM with
      | none => .error .overflow
      | some translationJump =>
        if lt config.jumpRejectTranslationM translationJump then
          .ok (some "excessive_translation_jump")
        else if lt config.jumpRejectRotationRad
            (quaternionDistance pose.orientationXyzw last.orientationXyzw) then
          .ok (some "excessive_orientation_jump")
        else .ok none
    else .ok none

/-- `alpha` of `_filter`. -/
def filterAlpha (nowNs : ℤ) : δ :=
  match p.filteredTranslation, p.filteredOrientation, p.lastOutputNs with
  | some _, some _, some last =>
    if eq config.filterTimeConstantS zero then ofRat 1
    else
      let dtS := pyMax zero (div (ofInt (nowNs - last)) (ofRat (10 ^ 9)))
      sub (ofRat 1) (exp (div (negated dtS) config.filterTimeConstantS))
  | _, _, _ => ofRat 1

/-- `previous + alpha * (current - previous)`. -/
def mixed (alpha : δ) (previous current : Vector3 δ) : Vector3 δ :=
  fun i => add (previous i) (mul alpha (sub (current i) (previous i)))

/-- `_filter`: the filtered translation and orientation. -/
def filtered (nowNs : ℤ) (translation : Vector3 δ) (orientation : QuaternionXyzw δ) :
    Option (Vector3 δ × QuaternionXyzw δ) :=
  (quaternionSlerp (p.filteredOrientation.getD orientation) orientation
    (p.filterAlpha config nowNs)).map fun filteredOrientation =>
      (mixed (p.filterAlpha config nowNs) (p.filteredTranslation.getD translation) translation,
        filteredOrientation)

/-- `translation` before the workspace test (lines 239–256). -/
def relativeTranslation (reference pose : Pose6D δ) : Option (Vector3 δ) :=
  (rotateVector (quaternionConjugate reference.orientationXyzw)
    fun i => sub (pose.positionM i) (reference.positionM i)).map fun localDelta i =>
      mul (localDelta i) (config.translationScale i)

/-- `orientation` before the filter (lines 264–271). -/
def relativeOrientation (reference pose : Pose6D δ) : Option (QuaternionXyzw δ) :=
  match config.orientationMapping with
  | .disabled => some neutralOrientation
  | .relative =>
    (quaternionMultiply (quaternionConjugate reference.orientationXyzw)
      pose.orientationXyzw).bind fun relative => quaternionScaled relative config.orientationScale

/-- `step` while engaged, after the sample is remembered (lines 235–280). -/
def engagedStep (nowNs : ℤ) (sequence : Option ℕ) (pose : Pose6D δ) :
    Except OperatorError (OfflineOperatorTarget δ) × RightHandOperatorPipeline δ :=
  match p.referencePose with
  | none => (.error .assertion, p)
  | some reference =>
    match relativeTranslation config reference pose with
    | none => (.error .zeroQuaternion, p)
    | some translation =>
      if !insideWorkspace translation config.workspaceMinM config.workspaceMaxM then
        let stopped := p.forceDisengaged nowNs "operator_workspace_envelope_violation"
        (.ok (stopped.neutral nowNs sequence "operator_workspace_envelope_violation"), stopped)
      else
        match (relativeOrientation config reference pose).bind fun orientation =>
            p.filtered config nowNs translation orientation with
        | none => (.error .zeroQuaternion, p)
        | some (translation, orientation) =>
          let moved := { p with
            filteredTranslation := some translation
            filteredOrientation := some orientation
            lastOutputNs := some nowNs }
          (.ok (moved.target nowNs sequence translation orientation
            "engaged_relative_operator_transform"), moved)

/-- The capture of the reference (lines 217–233). -/
def capture (nowNs : ℤ) (sequence : Option ℕ) (pose : Pose6D δ) : RightHandOperatorPipeline δ :=
  transition
    { p with
      referencePose := some pose
      referenceHostSequence := sequence
      filteredTranslation := some neutralTranslation
      filteredOrientation := some neutralOrientation
      lastOutputNs := some nowNs } nowNs .engaged "fresh_right_hand_reference_captured"

/-- `step` on a safe sample that is remembered, by the state (lines 205–280). -/
def stateStep (nowNs : ℤ) (sequence : Option ℕ) (pose : Pose6D δ) (request : StepRequest) :
    Except OperatorError (OfflineOperatorTarget δ) × RightHandOperatorPipeline δ :=
  match p.state with
  | .disengaged =>
    if request.engageRequest then
      let armed := p.transition nowNs .armedReferenceCapture
        "explicit_engage_request_with_fresh_right_hand"
      (.ok (armed.neutral nowNs sequence "awaiting_reference_capture"), armed)
    else (.ok (p.neutral nowNs sequence "disengaged"), p)
  | .armedReferenceCapture =>
    if request.captureReferenceRequest then
      let engaged := p.capture nowNs sequence pose
      (.ok (engaged.target nowNs sequence neutralTranslation neutralOrientation
        "reference_captured"), engaged)
    else (.ok (p.neutral nowNs sequence "awaiting_reference_capture"), p)
  | .engaged => p.engagedStep config nowNs sequence pose

/-- `step` (lines 153–280). -/
def step (quest : CanonicalQuestState δ) (request : StepRequest) :
    Except OperatorError (OfflineOperatorTarget δ) × RightHandOperatorPipeline δ :=
  let nowNs := quest.hostMonotonicNs
  let sequence := quest.right.hostSequenceNumber
  match unsafeReason config quest request with
  | some reason =>
    let stopped := p.forceDisengaged nowNs reason
    (.ok (stopped.neutral nowNs sequence reason), stopped)
  | none =>
    match quest.right.wristPose with
    | none => (.error .assertion, p)
    | some pose =>
      if request.disengageRequest then
        let stopped := p.forceDisengaged nowNs "explicit_disengage_request"
        (.ok (stopped.neutral nowNs sequence "explicit_disengage_request"), stopped)
      else
        match p.jumpReason config pose sequence with
        | .error error => (.error error, p)
        | .ok (some reason) =>
          let stopped := (p.forceDisengaged nowNs reason).rememberInput pose sequence
          (.ok (stopped.neutral nowNs sequence reason), stopped)
        | .ok none => (p.rememberInput pose sequence).stateStep config nowNs sequence pose request

/-- `force_fault`. -/
def forceFault (timestampMonotonicNs : ℤ) (reason : String) :
    Except OperatorError Unit × RightHandOperatorPipeline δ :=
  if reason.toList.all Quest.ControllerProvider.isSpace then (.error .emptyReason, p)
  else (.ok (), p.forceDisengaged timestampMonotonicNs reason)

end RightHandOperatorPipeline

/-! ## Calls -/

/-- One call on the pipeline. -/
inductive OperatorCall (δ : Type*) [PyMath δ]
  | step (quest : CanonicalQuestState δ) (request : StepRequest)
  | forceFault (timestampMonotonicNs : ℤ) (reason : String)

/-- The pipeline after a call, whether it returned or raised. -/
def RightHandOperatorPipeline.apply (config : RightHandOperatorConfig δ)
    (p : RightHandOperatorPipeline δ) : OperatorCall δ → RightHandOperatorPipeline δ
  | .step quest request => (p.step config quest request).2
  | .forceFault timestampMonotonicNs reason => (p.forceFault timestampMonotonicNs reason).2

end HandLab.Operator
