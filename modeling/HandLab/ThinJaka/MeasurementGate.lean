import HandLab.ThinJaka.Types
import HandLab.CommandAbi.Validate

/-!
# The measurement gate

`RecoveryMeasurementGate` (`native/teleop_shaping/src/clutch_recovery_transport.cpp`
lines 111–251): a measured state is released only after enough consecutive
stationary samples.
-/

namespace HandLab.ThinJaka

open HandLab.Lib HandLab.CommandAbi

/-- `RecoveryMeasurementCode`; `kIoFailure` is not returned by `Observe`. -/
inductive RecoveryMeasurementCode
  | ready | needMoreSamples | unstable | stale | invalidSample | sequenceError | epochError
  deriving DecidableEq, Repr

/-- `RecoveryMeasurementQuality`. -/
inductive RecoveryMeasurementQuality
  | none | directQVelocityAcceleration | directQVelocityZeroAccelerationAfterStable
  | estimatedVelocityZeroAccelerationAfterStable
  deriving DecidableEq, Repr

/-- `RecoveryMeasurementResult`. -/
structure RecoveryMeasurementResult where
  code : RecoveryMeasurementCode
  quality : RecoveryMeasurementQuality
  stableSamples : UInt8
  offendingIndex : UInt8
  deriving DecidableEq, Repr

/-- `Result` (lines 18–23). -/
def result (code : RecoveryMeasurementCode) (quality : RecoveryMeasurementQuality) (count : UInt8)
    (index : UInt8 := noFieldIndex) : RecoveryMeasurementResult :=
  ⟨code, quality, count, index⟩

/-- `IsKnownFields` (lines 12–16). -/
def isKnownFields (fields : JointSampleFields) : Bool :=
  fields = .positionOnly || fields = .positionVelocity || fields = .positionVelocityAcceleration

/-- `Reset` (lines 115–119). -/
def RecoveryMeasurementGate.reset {δ : Type*} : RecoveryMeasurementGate δ := ⟨none, 0⟩

section Gate

variable {δ : Type*} [Double δ]

/-- The axis loop of `Observe` (lines 144–165): the first axis with a value
    that is not finite or that its field selection excludes. -/
def invalidAxis (sample : FakeSdkJointSample δ) : Option (Fin 8) :=
  (List.finRange 8).find? fun i =>
    let nonzero (a : AxisArray δ) : Bool := !Double.eq (a i) Double.zero
    !Double.isFinite (sample.positionRad i) || !Double.isFinite (sample.velocityRadS i) ||
      !Double.isFinite (sample.accelerationRadS2 i) ||
      (!decide (i.val < sample.dof.toNat) && (nonzero sample.positionRad ||
        nonzero sample.velocityRadS || nonzero sample.accelerationRadS2)) ||
      (decide (sample.fields = .positionOnly) &&
        (nonzero sample.velocityRadS || nonzero sample.accelerationRadS2)) ||
      (decide (sample.fields = .positionVelocity) && nonzero sample.accelerationRadS2)

/-- The tail of `Observe` (lines 223–250), from the velocity that the sample
    carries or that was estimated. -/
def RecoveryMeasurementGate.release (policy : RecoveryMeasurementPolicy δ)
    (gate : RecoveryMeasurementGate δ) (sample : FakeSdkJointSample δ) (velocity : AxisArray δ)
    (quality : RecoveryMeasurementQuality) (safetyEpoch : UInt64) (nowNs : ℤ) :
    RecoveryMeasurementResult × Option (MeasuredJointStateV1 δ) × RecoveryMeasurementGate δ :=
  let direct := sample.fields = .positionVelocityAcceleration
  let stable := (List.finRange 8).all fun i =>
    !decide (i.val < sample.dof.toNat) ||
      Double.le (Double.abs (velocity i)) policy.stationaryVelocityRadS
  if ¬direct ∧ !stable then
    (result .unstable quality 0, none, ⟨some sample, 0⟩)
  else
    let count := if ¬direct ∧ gate.stableSamples < 255 then gate.stableSamples + 1
      else gate.stableSamples
    if ¬direct ∧ count < policy.stableSampleCount then
      (result .needMoreSamples quality count, none, ⟨some sample, count⟩)
    else
      let measured : MeasuredJointStateV1 δ :=
        { header := makeHeaderV1 measuredJointStateSize
          stateSequence := sample.sampleSequence
          safetyEpoch
          measuredMonotonicNs := sample.sampledMonotonicNs
          dof := sample.dof
          validity := .valid
          reserved0 := fun _ => 0
          positionRad := sample.positionRad
          velocityRadS := velocity
          accelerationRadS2 :=
            if direct then sample.accelerationRadS2 else fun _ => Double.zero }
      if !(validateMeasured measured ⟨nowNs, policy.dof, safetyEpoch, 0⟩).ok then
        -- only the stationary branch has stored the sample by now
        (result .invalidSample quality count, none,
          ⟨if direct then gate.previous else some sample, count⟩)
      else (result .ready quality count, some measured, ⟨some sample, count⟩)

/-- `Observe` (lines 121–251); the second component is what is written to
    `*measured`. -/
def RecoveryMeasurementGate.observe (policy : RecoveryMeasurementPolicy δ)
    (gate : RecoveryMeasurementGate δ) (sample : FakeSdkJointSample δ) (safetyEpoch : UInt64)
    (nowNs : ℤ) :
    RecoveryMeasurementResult × Option (MeasuredJointStateV1 δ) × RecoveryMeasurementGate δ :=
  if safetyEpoch = 0 then (result .epochError .none gate.stableSamples, none, gate)
  else if policy.dof = 0 ∨ maxDof < policy.dof ∨ policy.stableSampleCount = 0 ∨
      policy.maximumSampleAgeNs < 0 ∨ policy.maximumSampleIntervalNs ≤ 0 ∨
      !Double.isFinite policy.stationaryVelocityRadS ∨
      Double.lt policy.stationaryVelocityRadS Double.zero ∨ sample.dof ≠ policy.dof ∨
      sample.sampleSequence = 0 ∨ sample.sampledMonotonicNs < 0 ∨
      !isKnownFields sample.fields then
    (result .invalidSample .none gate.stableSamples, none, gate)
  else if nowNs < sample.sampledMonotonicNs ∨
      policy.maximumSampleAgeNs < nowNs - sample.sampledMonotonicNs then
    (result .stale .none gate.stableSamples, none, gate)
  else
    match invalidAxis sample with
    | some i => (result .invalidSample .none gate.stableSamples (fieldIndex i), none, gate)
    | none =>
      let stalled := match gate.previous with
        | some previous => decide (sample.sampleSequence ≤ previous.sampleSequence) ||
            decide (sample.sampledMonotonicNs ≤ previous.sampledMonotonicNs)
        | none => false
      if stalled then (result .sequenceError .none gate.stableSamples, none, gate)
      else if sample.fields = .positionVelocityAcceleration then
        gate.release policy sample sample.velocityRadS .directQVelocityAcceleration safetyEpoch
          nowNs
      else if sample.fields = .positionVelocity then
        gate.release policy sample sample.velocityRadS .directQVelocityZeroAccelerationAfterStable
          safetyEpoch nowNs
      else
        match gate.previous with
        | none =>
          (result .needMoreSamples .estimatedVelocityZeroAccelerationAfterStable 1, none,
            ⟨some sample, 1⟩)
        | some previous =>
          let intervalNs := sample.sampledMonotonicNs - previous.sampledMonotonicNs
          if policy.maximumSampleIntervalNs < intervalNs then
            (result .needMoreSamples .estimatedVelocityZeroAccelerationAfterStable 1, none,
              ⟨some sample, 1⟩)
          else
            let intervalS := Double.mul (Double.ofInt intervalNs) (Double.ofRat 1e-9 : δ)
            let velocity : AxisArray δ := fun i =>
              if i.val < sample.dof.toNat then
                Double.div (Double.sub (sample.positionRad i) (previous.positionRad i)) intervalS
              else Double.zero
            gate.release policy sample velocity .estimatedVelocityZeroAccelerationAfterStable
              safetyEpoch nowNs

end Gate

end HandLab.ThinJaka
