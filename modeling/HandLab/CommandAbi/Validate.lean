import HandLab.CommandAbi.Types
import Mathlib.Data.List.FinRange

/-!
# `Validate`

The validators of `native/teleop_shaping/src/abi_v1.cpp`, in the order of
their checks: the first check that fails decides error, field and index.

* `validateCommand_ok`: what an accepted `ShapedJointCommandV1` satisfies.
-/

namespace HandLab.CommandAbi

open HandLab.Lib

/-- `Ok` (lines 11–14). -/
def ok : ValidationResult := ⟨true, .ok, .none, noFieldIndex⟩

/-- `Error` (lines 16–19). -/
def error (e : ValidationError) (field : ValidationField) (index : UInt8 := noFieldIndex) :
    ValidationResult :=
  ⟨false, e, field, index⟩

/-- `if (!result.ok) return result;` and then the rest of the function. -/
def ValidationResult.andThen (result : ValidationResult) (rest : ValidationResult) :
    ValidationResult :=
  if result.ok then rest else result

/-- A loop over an array that returns at the first index with an error. -/
def firstError {n : ℕ} (check : Fin n → Option ValidationResult) : ValidationResult :=
  ((List.finRange n).findSome? check).getD ok

/-- The loop index as the byte of the result. -/
def fieldIndex {n : ℕ} (i : Fin n) : UInt8 := UInt8.ofNat i

/-- `ValidateHeader<T>` (lines 21–41), with `sizeof(T)`. -/
def validateHeader (size : UInt16) (header : AbiHeader) : ValidationResult :=
  if header.magic ≠ abiMagic then error .badMagic .header
  else if header.schemaVersion ≠ schemaVersionV1 then error .unsupportedVersion .header
  else if header.structSize ≠ size then error .wrongStructSize .header
  else if header.hostEndianness ≠ littleEndian then error .unsupportedEndianness .header
  else firstError fun i =>
    if header.reserved i ≠ 0 then some (error .nonzeroReserved .header (fieldIndex i)) else none

/-! ## `EnumAtMost` (lines 43–52): the value is one of the enumerators -/

def EngagementState.named : EngagementState → Bool
  | .outOfRange _ _ => false
  | _ => true

def TargetValidity.named : TargetValidity → Bool
  | .outOfRange _ _ => false
  | _ => true

def OutputMode.named : OutputMode → Bool
  | .outOfRange _ _ => false
  | _ => true

def StopClass.named : StopClass → Bool
  | .outOfRange _ _ => false
  | _ => true

def StopReason.named : StopReason → Bool
  | .outOfRange _ _ => false
  | _ => true

def MeasurementValidity.named : MeasurementValidity → Bool
  | .outOfRange _ _ => false
  | _ => true

/-! ## Arrays -/

section Arrays

variable {δ : Type*} [Double δ]

/-- `ValidateFiniteActiveZeroUnused` (lines 54–67). -/
def validateFiniteActiveZeroUnused (values : AxisArray δ) (dof : UInt8)
    (field : ValidationField) : ValidationResult :=
  firstError fun i =>
    if i.val < dof.toNat then
      if !Double.isFinite (values i) then some (error .nonFinite field (fieldIndex i)) else none
    else if !Double.eq (values i) Double.zero then
      some (error .targetSmuggling .unusedAxis (fieldIndex i))
    else none

/-- `ValidateAllZero` (lines 69–80). -/
def validateAllZero (values : AxisArray δ) (field : ValidationField) : ValidationResult :=
  firstError fun i =>
    if !Double.isFinite (values i) then some (error .nonFinite field (fieldIndex i))
    else if !Double.eq (values i) Double.zero then
      some (error .targetSmuggling field (fieldIndex i))
    else none

end Arrays

/-- `ValidateDof` (lines 82–90). -/
def validateDof (dof : UInt8) (context : ValidationContext) : ValidationResult :=
  if dof = 0 ∨ maxDof < dof then error .invalidDof .dof
  else if context.expectedDof ≠ 0 ∧ dof ≠ context.expectedDof then error .invalidDof .dof
  else ok

/-- `ValidateIdentity` (lines 92–104). -/
def validateIdentity (sequence epoch : UInt64) (context : ValidationContext) : ValidationResult :=
  if sequence = 0 ∨ sequence ≤ context.previousSequence then error .invalidSequence .sequence
  else if epoch = 0 then error .epochMismatch .safetyEpoch
  else if context.expectedEpoch ≠ 0 ∧ epoch ≠ context.expectedEpoch then
    error .epochMismatch .safetyEpoch
  else ok

/-! ## The validators -/

section Validators

variable {δ : Type*} [Double δ]

/-- `Validate(AcceptedJointTargetV1)` (lines 110–150). -/
def validateTarget (value : AcceptedJointTargetV1 δ) (context : ValidationContext) :
    ValidationResult :=
  (validateHeader acceptedJointTargetSize value.header).andThen <|
  (validateIdentity value.sequence value.safetyEpoch context).andThen <|
  (validateDof value.dof context).andThen <|
  if value.reserved0 ≠ 0 then error .nonzeroReserved .header
  else if !value.engagement.named then error .invalidEnum .engagement
  else if !value.validity.named then error .invalidEnum .validity
  else if value.sourceMonotonicNs < 0 ∨ value.acceptedMonotonicNs < 0 ∨
      value.validUntilMonotonicNs < 0 ∨ value.acceptedMonotonicNs < value.sourceMonotonicNs ∨
      value.validUntilMonotonicNs < value.acceptedMonotonicNs then
    error .timestampOrdering .acceptedTimestamp
  else if 0 ≤ context.nowNs ∧ context.nowNs < value.acceptedMonotonicNs then
    error .timestampOrdering .acceptedTimestamp
  else if 0 ≤ context.nowNs ∧ value.validUntilMonotonicNs < context.nowNs then
    error .staleValidityWindow .validUntilTimestamp
  else if value.validity = .accepted then
    if value.engagement ≠ .engaged then error .invalidModeContract .engagement
    else validateFiniteActiveZeroUnused value.positionRad value.dof .position
  else validateAllZero value.positionRad .position

/-- `Validate(MeasuredJointStateV1)` (lines 152–183). -/
def validateMeasured (value : MeasuredJointStateV1 δ) (context : ValidationContext) :
    ValidationResult :=
  (validateHeader measuredJointStateSize value.header).andThen <|
  (validateIdentity value.stateSequence value.safetyEpoch context).andThen <|
  (validateDof value.dof context).andThen <|
  (firstError fun i =>
    if value.reserved0 i ≠ 0 then some (error .nonzeroReserved .header (fieldIndex i))
    else none).andThen <|
  if !value.validity.named then error .invalidEnum .validity
  else if value.validity ≠ .valid then error .invalidMeasurement .validity
  else if value.measuredMonotonicNs < 0 ∨
      (0 ≤ context.nowNs ∧ context.nowNs < value.measuredMonotonicNs) then
    error .timestampOrdering .measuredTimestamp
  else
    (validateFiniteActiveZeroUnused value.positionRad value.dof .position).andThen <|
    (validateFiniteActiveZeroUnused value.velocityRadS value.dof .velocity).andThen <|
    validateFiniteActiveZeroUnused value.accelerationRadS2 value.dof .acceleration

/-- One used axis of `Validate(JointDynamicLimitsV1)` (lines 206–229). -/
def validateLimitsAxis (value : JointDynamicLimitsV1 δ) (i : Fin 8) : Option ValidationResult :=
  let fields : List (δ × ValidationField) :=
    [(value.minimumPositionRad i, .minimumPosition),
      (value.maximumPositionRad i, .maximumPosition),
      (value.maximumVelocityRadS i, .maximumVelocity),
      (value.maximumAccelerationRadS2 i, .maximumAcceleration),
      (value.maximumJerkRadS3 i, .maximumJerk)]
  match fields.find? fun entry => !Double.isFinite entry.1 with
  | some entry => some (error .nonFinite entry.2 (fieldIndex i))
  | none =>
    if !Double.lt (value.minimumPositionRad i) (value.maximumPositionRad i) then
      some (error .invalidLimits .minimumPosition (fieldIndex i))
    else if !Double.lt Double.zero (value.maximumVelocityRadS i) then
      some (error .invalidLimits .maximumVelocity (fieldIndex i))
    else if !Double.lt Double.zero (value.maximumAccelerationRadS2 i) then
      some (error .invalidLimits .maximumAcceleration (fieldIndex i))
    else if !Double.lt Double.zero (value.maximumJerkRadS3 i) then
      some (error .invalidLimits .maximumJerk (fieldIndex i))
    else none

/-- `Validate(JointDynamicLimitsV1)` (lines 185–232). -/
def validateLimits (value : JointDynamicLimitsV1 δ) : ValidationResult :=
  (validateHeader jointDynamicLimitsSize value.header).andThen <|
  (validateDof value.dof {}).andThen <|
  (firstError fun i =>
    if value.reserved0 i ≠ 0 then some (error .nonzeroReserved .header (fieldIndex i))
    else none).andThen <|
  firstError fun i =>
    if value.dof.toNat ≤ i.val then
      if !Double.eq (value.minimumPositionRad i) Double.zero ∨
          !Double.eq (value.maximumPositionRad i) Double.zero ∨
          !Double.eq (value.maximumVelocityRadS i) Double.zero ∨
          !Double.eq (value.maximumAccelerationRadS2 i) Double.zero ∨
          !Double.eq (value.maximumJerkRadS3 i) Double.zero then
        some (error .targetSmuggling .unusedAxis (fieldIndex i))
      else none
    else validateLimitsAxis value i

/-- The per-mode checks at the end of `Validate(ShapedJointCommandV1)` (lines 264–316). -/
def validateModeContract (value : ShapedJointCommandV1 δ) : ValidationResult :=
  if (value.outputMode = .activeTracking ∨ value.outputMode = .controlledBraking) ∧
      value.sourceSequence = 0 then
    error .invalidSequence .sequence
  else if value.outputMode = .activeTracking ∧
      (value.stopClass ≠ .none ∨ value.stopReason ≠ .none) then
    error .invalidModeContract .outputMode
  else if value.outputMode = .controlledBraking ∧
      (value.stopClass ≠ .controlled ∨ value.stopReason = .none) then
    error .invalidModeContract .outputMode
  else if value.outputMode = .stopped ∧
      (value.stopClass ≠ .controlled ∨ value.stopReason = .none) then
    error .invalidModeContract .outputMode
  else if value.outputMode = .hardStopped ∧
      (value.stopClass ≠ .immediate ∨ value.stopReason = .none) then
    error .invalidModeContract .outputMode
  else if value.outputMode = .inactive ∨ value.outputMode = .hardStopped then
    if value.outputMode = .inactive ∧ (value.stopClass ≠ .none ∨ value.stopReason ≠ .none) then
      error .invalidModeContract .outputMode
    else
      (validateAllZero value.positionRad .position).andThen <|
      (validateAllZero value.velocityRadS .velocity).andThen <|
      validateAllZero value.accelerationRadS2 .acceleration
  else
    (validateFiniteActiveZeroUnused value.positionRad value.dof .position).andThen <|
    (validateFiniteActiveZeroUnused value.velocityRadS value.dof .velocity).andThen <|
    (validateFiniteActiveZeroUnused value.accelerationRadS2 value.dof .acceleration).andThen <|
    if value.outputMode = .stopped then
      firstError fun i =>
        if i.val < value.dof.toNat ∧ (!Double.eq (value.velocityRadS i) Double.zero ∨
            !Double.eq (value.accelerationRadS2 i) Double.zero) then
          some (error .invalidModeContract .velocity (fieldIndex i))
        else none
    else ok

/-- `Validate(ShapedJointCommandV1)` (lines 234–317). -/
def validateCommand (value : ShapedJointCommandV1 δ) (context : ValidationContext) :
    ValidationResult :=
  (validateHeader shapedJointCommandSize value.header).andThen <|
  (validateIdentity value.outputSequence value.safetyEpoch context).andThen <|
  (validateDof value.dof context).andThen <|
  if !value.outputMode.named then error .invalidEnum .outputMode
  else if !value.stopClass.named then error .invalidEnum .stopClass
  else if !value.stopReason.named then error .invalidEnum .stopReason
  else if value.generatedMonotonicNs < 0 ∨ value.validUntilMonotonicNs < 0 ∨
      value.validUntilMonotonicNs < value.generatedMonotonicNs then
    error .timestampOrdering .generatedTimestamp
  else if 0 ≤ context.nowNs ∧ context.nowNs < value.generatedMonotonicNs then
    error .timestampOrdering .generatedTimestamp
  else if 0 ≤ context.nowNs ∧ value.validUntilMonotonicNs < context.nowNs then
    error .staleValidityWindow .validUntilTimestamp
  else validateModeContract value

end Validators

/-! ## What acceptance means -/

@[simp] theorem ok_ok : ok.ok = true := rfl

@[simp] theorem error_ok (e : ValidationError) (f : ValidationField) (i : UInt8) :
    (error e f i).ok = false := rfl

@[simp] theorem andThen_ok (r s : ValidationResult) :
    (r.andThen s).ok = true ↔ r.ok = true ∧ s.ok = true := by
  unfold ValidationResult.andThen
  split_ifs with h <;> simp [h]

theorem validateIdentity_ok {sequence epoch : UInt64} {context : ValidationContext} :
    (validateIdentity sequence epoch context).ok = true ↔
      sequence ≠ 0 ∧ context.previousSequence < sequence ∧ epoch ≠ 0 ∧
        (context.expectedEpoch ≠ 0 → epoch = context.expectedEpoch) := by
  unfold validateIdentity
  split_ifs with h1 h2 h3
  · rcases h1 with rfl | h1
    · simp
    · simp [UInt64.not_lt.mpr h1]
  · simp [h2]
  · simp [h3]
  · push Not at h1 h3
    exact iff_of_true rfl ⟨h1.1, UInt64.not_le.mp h1.2, h2, h3⟩

section Command

variable {δ : Type*} [Double δ]

/-- What the transport relies on about a command that `Validate` accepted in
    the context. -/
structure Accepted (c : ShapedJointCommandV1 δ) (context : ValidationContext) : Prop where
  sequence_ne_zero : c.outputSequence ≠ 0
  sequence_lt : context.previousSequence < c.outputSequence
  epoch_ne_zero : c.safetyEpoch ≠ 0
  epoch_eq : context.expectedEpoch ≠ 0 → c.safetyEpoch = context.expectedEpoch
  mode_named : c.outputMode.named = true
  generated_nonneg : 0 ≤ c.generatedMonotonicNs
  window : c.generatedMonotonicNs ≤ c.validUntilMonotonicNs
  fresh : 0 ≤ context.nowNs →
    c.generatedMonotonicNs ≤ context.nowNs ∧ context.nowNs ≤ c.validUntilMonotonicNs

theorem validateCommand_ok {c : ShapedJointCommandV1 δ} {context : ValidationContext}
    (h : (validateCommand c context).ok = true) : Accepted c context := by
  simp only [validateCommand, andThen_ok, validateIdentity_ok] at h
  obtain ⟨-, ⟨hseq, hprev, hepoch, hexp⟩, -, h⟩ := h
  split_ifs at h with h1 h2 h3 h4 h5 h6
  iterate 6 exact absurd h Bool.false_ne_true
  push Not at h4 h5 h6
  exact
    { sequence_ne_zero := hseq
      sequence_lt := hprev
      epoch_ne_zero := hepoch
      epoch_eq := hexp
      mode_named := by simpa using h1
      generated_nonneg := h4.1
      window := h4.2.2
      fresh := fun hn => ⟨h5 hn, h6 hn⟩ }

/-- A loop that returns nothing has found no error at any index. -/
theorem firstError_ok {n : ℕ} {check : Fin n → Option ValidationResult}
    (herror : ∀ i r, check i = some r → r.ok = false) (h : (firstError check).ok = true)
    (i : Fin n) : check i = none := by
  cases hfound : (List.finRange n).findSome? check with
  | none => exact List.findSome?_eq_none_iff.mp hfound i (List.mem_finRange i)
  | some r =>
    obtain ⟨j, -, hj⟩ := List.exists_of_findSome?_eq_some hfound
    rw [firstError, hfound] at h
    exact absurd h (by rw [Option.getD_some, herror j r hj]; exact Bool.false_ne_true)

theorem validateFiniteActiveZeroUnused_ok {values : AxisArray δ} {dof : UInt8}
    {field : ValidationField} (h : (validateFiniteActiveZeroUnused values dof field).ok = true)
    {i : Fin 8} (hi : i.val < dof.toNat) : Double.isFinite (values i) = true := by
  have hnone := firstError_ok ?_ h i
  · rw [if_pos hi] at hnone
    by_contra hfinite
    rw [if_pos (by simpa using hfinite)] at hnone
    cases hnone
  · intro i r hr
    split_ifs at hr <;> cases hr <;> rfl

theorem validateCommand_finite {c : ShapedJointCommandV1 δ} {context : ValidationContext}
    (h : (validateCommand c context).ok = true) (hmode : c.outputMode = .activeTracking)
    {i : Fin 8} (hi : i.val < context.expectedDof.toNat) :
    Double.isFinite (c.positionRad i) = true := by
  simp only [validateCommand, andThen_ok] at h
  obtain ⟨-, -, hdof, h⟩ := h
  have hexpected : c.dof = context.expectedDof := by
    have hne : context.expectedDof ≠ 0 := by
      rintro h0
      rw [h0] at hi
      exact absurd hi (Nat.not_lt_zero _)
    unfold validateDof at hdof
    split_ifs at hdof with h1 h2
    · exact absurd hdof Bool.false_ne_true
    · exact absurd hdof Bool.false_ne_true
    · exact not_not.mp fun hdiffers => h2 ⟨hne, hdiffers⟩
  split_ifs at h
  iterate 6 exact absurd h Bool.false_ne_true
  have hposition : (validateFiniteActiveZeroUnused c.positionRad c.dof .position).ok = true := by
    unfold validateModeContract at h
    rw [hmode] at h
    split_ifs at h <;> simp_all
  rw [← hexpected] at hi
  exact validateFiniteActiveZeroUnused_ok hposition hi

end Command

end HandLab.CommandAbi
