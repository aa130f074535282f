import HandLab.Shaper.Types
import Mathlib.Data.Fin.VecNotation

/-!
# Braking plans

The planners of `ReferenceJointShaperV1` in
`native/teleop_shaping/src/reference_joint_shaper.cpp` (lines 201–468) and
`AdvanceBrakeAxis` (lines 543–574), for one axis. A plan has four phases of
constant jerk.
-/

namespace HandLab.Shaper

open HandLab.Lib Double CMath

variable {δ : Type*} [CMath δ]

structure AxisLimits (δ : Type*) where
  minimumPosition : δ
  maximumPosition : δ
  maximumVelocity : δ
  maximumAcceleration : δ
  maximumJerk : δ

/-- `position < minimum || position > maximum`. -/
def AxisLimits.outside (limits : AxisLimits δ) (position : δ) : Bool :=
  lt position limits.minimumPosition || lt limits.maximumPosition position

/-- The loop that integrates the phases of a plan. -/
def predict (plan : BrakeAxis δ) (s : AxisState δ) : AxisState δ :=
  (List.finRange 4).foldl
    (fun s phase => integrateConstantJerk (plan.jerkRadS3 phase) (plan.durationS phase) s) s

/-! ## The direct plan -/

/-- The durations that `PlanBrakeAxis` computes (lines 220–238) from the
    normalized velocity and acceleration. -/
def directDurations (limits : AxisLimits δ) (velocity acceleration : δ) : δ × δ × δ :=
  let peak := sqrt (add (mul (mul (ofRat 0.5) acceleration) acceleration)
    (mul limits.maximumJerk velocity))
  if le peak limits.maximumAcceleration then
    (div (add acceleration peak) limits.maximumJerk, zero, div peak limits.maximumJerk)
  else
    let first := div (add acceleration limits.maximumAcceleration) limits.maximumJerk
    let final := div limits.maximumAcceleration limits.maximumJerk
    let firstDelta := mul (mul (ofRat 0.5) (sub acceleration limits.maximumAcceleration)) first
    let finalDelta := mul (mul (ofRat (-0.5)) limits.maximumAcceleration) final
    (first, div (add (add velocity firstDelta) finalDelta) limits.maximumAcceleration, final)

/-- `PlanBrakeAxis` (lines 201–267): the plan it writes, and its result. -/
def planBrakeAxis (limits : AxisLimits δ) (s : AxisState δ) : BrakeAxis δ × Bool :=
  let plan := BrakeAxis.blank false false
  if le (abs s.velocity) numericalEpsilon then
    if le (abs s.acceleration) numericalEpsilon then ({ plan with complete := true }, true)
    else (plan, false)
  else
    let sign := copysign (ofRat 1) s.velocity
    let (first, hold, final) :=
      directDurations limits (mul sign s.velocity) (mul sign s.acceleration)
    if !isFinite first || !isFinite hold || !isFinite final || lt first (neg numericalEpsilon) ||
        lt hold (neg numericalEpsilon) || lt final (neg numericalEpsilon) then (plan, false)
    else
      let plan := { plan with
        durationS := ![Double.max zero first, Double.max zero hold, Double.max zero final, zero]
        jerkRadS3 := ![mul (neg sign) limits.maximumJerk, zero, mul sign limits.maximumJerk, zero] }
      let predicted := predict plan s
      let velocityTolerance := mul (ofRat 1e-8) (Double.max (ofRat 1) (abs s.velocity))
      let accelerationTolerance := mul (ofRat 1e-8) (Double.max (ofRat 1) (abs s.acceleration))
      (plan, !(!isFinite predicted.position || lt velocityTolerance (abs predicted.velocity) ||
        lt accelerationTolerance (abs predicted.acceleration) ||
        limits.outside predicted.position))

/-! ## The acceleration-neutralized plan -/

/-- The phases after the neutralization (lines 327–347). -/
def residualPhases (limits : AxisLimits δ) (velocity : δ) (plan : BrakeAxis δ) : BrakeAxis δ :=
  if lt numericalEpsilon (abs velocity) then
    let sign := copysign (ofRat 1) velocity
    let speed := abs velocity
    let peak := sqrt (mul limits.maximumJerk speed)
    let ramp := if le peak limits.maximumAcceleration then div peak limits.maximumJerk
      else div limits.maximumAcceleration limits.maximumJerk
    let hold := if le peak limits.maximumAcceleration then zero
      else div (sub speed (div (mul limits.maximumAcceleration limits.maximumAcceleration)
        limits.maximumJerk)) limits.maximumAcceleration
    { plan with
      durationS := ![plan.durationS 0, ramp, hold, ramp]
      jerkRadS3 := ![plan.jerkRadS3 0, mul (neg sign) limits.maximumJerk, zero,
        mul sign limits.maximumJerk] }
  else plan

/-- A turning point inside a phase is outside the position limits (lines 362–396). -/
def turnsOutside (limits : AxisLimits δ) (jerk duration : δ) (s : AxisState δ) : Bool :=
  let inside := fun candidate => lt zero candidate && lt candidate duration
  let discriminant := sub (mul s.acceleration s.acceleration)
    (mul (mul (ofRat 2) jerk) s.velocity)
  if lt numericalEpsilon (abs jerk) && le zero discriminant then
    let root := sqrt discriminant
    [div (add (neg s.acceleration) root) jerk, div (sub (neg s.acceleration) root) jerk].any
      fun candidate => inside candidate && limits.outside
        (add (add (add s.position (mul s.velocity candidate))
          (mul (mul (mul (ofRat 0.5) s.acceleration) candidate) candidate))
          (div (mul (mul (mul jerk candidate) candidate) candidate) (ofRat 6)))
  else if lt numericalEpsilon (abs s.acceleration) then
    let candidate := div (neg s.velocity) s.acceleration
    inside candidate && limits.outside
      (add (add s.position (mul s.velocity candidate))
        (mul (mul (mul (ofRat 0.5) s.acceleration) candidate) candidate))
  else false

/-- The checks of one phase (lines 353–411). -/
def phaseFailure? (limits : AxisLimits δ) (jerk duration : δ) (s : AxisState δ) :
    Option BrakePlanningFailure :=
  let next := integrateConstantJerk jerk duration s
  if !isFinite duration || lt duration zero || !isFinite jerk ||
      lt (add limits.maximumJerk (ofRat 1e-10)) (abs jerk) then some .numerical
  else if lt zero duration && turnsOutside limits jerk duration s then some .positionLimit
  else if limits.outside next.position then some .positionLimit
  else if lt (add limits.maximumVelocity (ofRat 1e-9)) (abs next.velocity) ||
      lt (add limits.maximumAcceleration (ofRat 1e-9)) (abs next.acceleration) then
    some .velocityLimit
  else none

/-- The loop over the phases (lines 352–412), and the check after it. -/
def checkPhases (limits : AxisLimits δ) (plan : BrakeAxis δ) :
    List (Fin 4) → AxisState δ → Option BrakePlanningFailure
  | [], s =>
    if lt (ofRat 1e-8) (abs s.velocity) || lt (ofRat 1e-8) (abs s.acceleration) then
      some .numerical
    else none
  | phase :: phases, s =>
    match phaseFailure? limits (plan.jerkRadS3 phase) (plan.durationS phase) s with
    | some failure => some failure
    | none => checkPhases limits plan phases
        (integrateConstantJerk (plan.jerkRadS3 phase) (plan.durationS phase) s)

/-- `PlanAccelerationNeutralizedBrakeAxis` (lines 269–420): the plan it writes, and
    the failure that it records. -/
def planAccelerationNeutralizedBrakeAxis (limits : AxisLimits δ) (s : AxisState δ) :
    BrakeAxis δ × Option BrakePlanningFailure :=
  let plan := BrakeAxis.blank false true
  if !isFinite s.velocity || !isFinite s.acceleration ||
      lt (add limits.maximumVelocity (ofRat 1e-12)) (abs s.velocity) ||
      lt (add limits.maximumAcceleration (ofRat 1e-12)) (abs s.acceleration) then
    (plan, some .invalidDynamicState)
  else
    let duration := div (abs s.acceleration) limits.maximumJerk
    let jerk := if le (abs s.acceleration) numericalEpsilon then zero
      else neg (copysign limits.maximumJerk s.acceleration)
    let neutral := integrateConstantJerk jerk duration s
    let residual := if le (abs neutral.velocity) (ofRat 1e-10) then zero else neutral.velocity
    if !isFinite neutral.position || !isFinite residual then (plan, some .numerical)
    else if lt (add limits.maximumVelocity (ofRat 1e-10)) (abs residual) then
      (plan, some .velocityLimit)
    else
      let plan := { plan with
        durationS := ![duration, zero, zero, zero]
        jerkRadS3 := ![jerk, zero, zero, zero] }
      if eq residual zero then
        (plan, if limits.outside neutral.position then some .positionLimit else none)
      else
        let plan := residualPhases limits residual plan
        (plan, checkPhases limits plan (List.finRange 4) s)

/-! ## The synchronized plan -/

/-- `SynchronizeBrakeAxis` (lines 422–468): the plan it leaves, and its result. -/
def synchronizeBrakeAxis (limits : AxisLimits δ) (s : AxisState δ) (durationS : δ)
    (plan : BrakeAxis δ) : BrakeAxis δ × Bool :=
  if !(lt zero durationS) || !isFinite durationS then (plan, false)
  else if le (abs s.velocity) numericalEpsilon then
    (plan, le (abs s.acceleration) numericalEpsilon)
  else
    let sign := copysign (ofRat 1) s.velocity
    let velocity := mul sign s.velocity
    let acceleration := mul sign s.acceleration
    let linear := add (mul (mul (ofRat 2) durationS) acceleration) (mul (ofRat 4) velocity)
    let discriminant := add (mul linear linear)
      (mul (mul (mul (mul (ofRat 4) durationS) durationS) acceleration) acceleration)
    let jerk := div (add linear (sqrt (Double.max zero discriminant)))
      (mul (mul (ofRat 2) durationS) durationS)
    if !(lt zero jerk) || lt (add limits.maximumJerk (ofRat 1e-9)) jerk then (plan, false)
    else
      let peak := mul (ofRat 0.5) (sub (mul jerk durationS) acceleration)
      let first := div (add acceleration peak) jerk
      let final := div peak jerk
      if lt (add limits.maximumAcceleration (ofRat 1e-9)) peak ||
          lt first (neg numericalEpsilon) || lt final (neg numericalEpsilon) ||
          lt (ofRat 1e-8) (abs (sub (add first final) durationS)) then (plan, false)
      else
        let plan : BrakeAxis δ :=
          { durationS := ![Double.max zero first, zero, Double.max zero final, zero]
            jerkRadS3 := ![mul (neg sign) jerk, zero, mul sign jerk, zero]
            phase := 0, phaseElapsedS := zero, complete := false
            usesAccelerationNeutralization := false }
        let predicted := predict plan s
        (plan, isFinite predicted.position && le (abs predicted.velocity) (ofRat 1e-8) &&
          le (abs predicted.acceleration) (ofRat 1e-8) &&
          le limits.minimumPosition predicted.position &&
          le predicted.position limits.maximumPosition)

/-! ## Advancing a plan -/

/-- The duration of a phase, zero after the last. -/
def BrakeAxis.duration (plan : BrakeAxis δ) (phase : ℕ) : δ :=
  if h : phase < 4 then plan.durationS ⟨phase, h⟩ else zero

/-- The jerk of a phase, zero after the last. -/
def BrakeAxis.jerk (plan : BrakeAxis δ) (phase : ℕ) : δ :=
  if h : phase < 4 then plan.jerkRadS3 ⟨phase, h⟩ else zero

/-- The phase that `AdvanceBrakeAxis` is in is over. -/
def BrakeAxis.phaseOver (plan : BrakeAxis δ) : Bool :=
  plan.phase < 4 && le (sub (plan.duration plan.phase) plan.phaseElapsedS) numericalEpsilon

/-- The inner loop of `AdvanceBrakeAxis`: phases that are over are left. There
    are four of them. -/
def skipPhases : ℕ → BrakeAxis δ → BrakeAxis δ
  | 0, plan => plan
  | phases + 1, plan =>
    if plan.phaseOver then
      skipPhases phases { plan with phase := plan.phase + 1, phaseElapsedS := zero }
    else plan

/-- The outer loop of `AdvanceBrakeAxis`, with the iterations that are left. -/
def advancePhases : ℕ → BrakeAxis δ → δ → AxisState δ → BrakeAxis δ × AxisState δ
  | 0, plan, _, s => (plan, s)
  | iterations + 1, plan, remaining, s =>
    if plan.complete || !lt numericalEpsilon remaining then (plan, s)
    else
      let plan := skipPhases 4 plan
      if 4 ≤ plan.phase then
        ({ plan with complete := true }, { s with velocity := zero, acceleration := zero })
      else
        let step := Double.min remaining (sub (plan.duration plan.phase) plan.phaseElapsedS)
        advancePhases iterations { plan with phaseElapsedS := add plan.phaseElapsedS step }
          (sub remaining step) (integrateConstantJerk (plan.jerk plan.phase) step s)

/-- `AdvanceBrakeAxis` (lines 543–574). -/
def advanceBrakeAxis (plan : BrakeAxis δ) (dtS : δ) (s : AxisState δ) :
    BrakeAxis δ × AxisState δ :=
  let (plan, s) := advancePhases 6 plan dtS s
  let plan := { plan with complete := plan.complete || decide (4 ≤ plan.phase) }
  (plan, if plan.complete then { s with velocity := zero, acceleration := zero } else s)

end HandLab.Shaper
