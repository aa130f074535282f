import HandLab.Lib.Double
import Mathlib.Data.Fin.VecNotation
import Mathlib.Data.Fintype.Pi

/-!
# The joint servo resampler

`native/jaka_servo_worker/joint_servo_resampler.hpp`: the latest-destination
resampler and the transition limiter. A member function that assigns and then
throws returns the members it left behind together with the error. The counters
of the class are left out: nothing reads them through the C API.
-/

namespace HandLab.Resampler

open HandLab.Lib Double

/-- `std::array<double, 6>`. -/
abbrev Joints (δ : Type*) := Fin 6 → δ

/-- What the resampler and its C API throw. -/
inductive ResamplerError (δ : Type*)
  | inputNull
  | pointNull
  | servoPeriod
  | positionLimits
  | initializationTime
  | notInitialized
  | holdTimestamp
  | acceptedStamp
  | acceptedTimeOrder
  | acceptedSequenceOrder
  | segmentOverflow
  | noAcceptedTarget
  | evaluationBackwards
  | commitBackwards
  | limitedCommitBackwards
  | limitedOverflow
  | limiterTimestep
  | limiterLimits
  | notConfigured
  | invalidLimits
  | commandBackwards
  | velocityBoundary (joint : Fin 6) (value limit : δ)
  | accelerationBoundary (joint : Fin 6) (value limit : δ)
  | jerkBoundary (joint : Fin 6) (value limit : δ)
  deriving DecidableEq

section Constants

/-- `std::numeric_limits<std::uint64_t>::max()`. -/
def maximumUnsigned : UInt64 := 0xFFFFFFFFFFFFFFFF

/-- `kControllerServoPeriodNs`. -/
def controllerServoPeriodNs : UInt64 := 8000000

variable {δ : Type*} [Double δ]

/-- `kJointLower`. -/
def jointLower : Joints δ :=
  ![ofRat (-6.28), ofRat (-2.09), ofRat (-2.27), ofRat (-6.28), ofRat (-2.09), ofRat (-6.28)]

/-- `kJointUpper`. -/
def jointUpper : Joints δ :=
  ![ofRat 6.28, ofRat 2.09, ofRat 2.27, ofRat 6.28, ofRat 2.09, ofRat 6.28]

/-- `output_jerk_transition_target`. -/
def outputJerkTransitionTarget (limit : δ) : δ := mul (abs limit) (sub (ofRat 1) (ofRat 0.005))

/-- `output_jerk_hard_boundary_with_tolerance`. -/
def outputJerkHardBoundaryWithTolerance (limit : δ) : δ :=
  add (abs limit) (add (ofRat 1e-6) (mul (ofRat 2.5e-7) (abs limit)))

/-- `output_jerk_within_hard_boundary`. -/
def outputJerkWithinHardBoundary (jerk limit : δ) : Bool :=
  isFinite jerk && isFinite limit && le (abs jerk) (outputJerkHardBoundaryWithTolerance limit)

/-- `validate_manufacturer_joint_position_limits` does not throw. -/
def withinPositionLimits (target : Joints δ) : Bool :=
  (List.finRange 6).all fun j =>
    isFinite (target j) && !lt (target j) (jointLower j) && !lt (jointUpper j) (target j)

/-- `static_cast<double>` of an unsigned integer. -/
def ofUnsigned (n : UInt64) : δ := ofRat n.toNat

end Constants

/-- `ResampledServoPoint`. -/
structure ResampledServoPoint (δ : Type*) where
  position : Joints δ
  segmentVelocityRadS : Joints δ
  servoTimeNs : UInt64
  fromSequence : UInt64
  toSequence : UInt64
  fromAcceptedNs : UInt64
  toAcceptedNs : UInt64
  alpha : δ
  endpoint : Bool
  deriving DecidableEq

/-- `JointServoResampler`. -/
structure JointServoResampler (δ : Type*) where
  emitted : Joints δ
  start : Joints δ
  destination : Joints δ
  servoPeriodNs : UInt64
  lastServoTimeNs : UInt64 := 0
  segmentStartNs : UInt64 := 0
  segmentEndNs : UInt64 := 0
  lastAcceptedNs : UInt64 := 0
  fromAcceptedNs : UInt64 := 0
  toAcceptedNs : UInt64 := 0
  fromSequence : UInt64 := 0
  toSequence : UInt64 := 0
  initialized : Bool := false
  hasAccepted : Bool := false
  internalHold : Bool := false
  active : Bool := false
  deriving DecidableEq

variable {δ : Type*} [Double δ]

/-! ## The transition limiter -/

/-- One joint of `transition_limited_point`. -/
def limitedPosition (accelerationBoundary jerkBoundary dtS proposed position velocity
    acceleration : δ) : δ :=
  let frequency := div jerkBoundary accelerationBoundary
  let desired := sub (mul (mul frequency frequency) (sub proposed position))
    (mul (mul (ofRat 2) frequency) velocity)
  let change := mul jerkBoundary dtS
  let jerkLimited := clamp desired (sub acceleration change) (add acceleration change)
  let limited := clamp jerkLimited (sub zero accelerationBoundary) accelerationBoundary
  add position (mul (add velocity (mul limited dtS)) dtS)

/-- `transition_limited_point` (lines 75–122). -/
def transitionLimitedPoint (proposed : ResampledServoPoint δ)
    (position velocity acceleration : Joints δ) (dtS accelerationBoundaryRadS2
    jerkBoundaryRadS3 : δ) : Except (ResamplerError δ) (ResampledServoPoint δ) :=
  if !(isFinite dtS && lt zero dtS) then .error .limiterTimestep
  else if !(isFinite accelerationBoundaryRadS2 && lt zero accelerationBoundaryRadS2 &&
      isFinite jerkBoundaryRadS3 && lt zero jerkBoundaryRadS3) then .error .limiterLimits
  else
    let accelerationBoundary := sub accelerationBoundaryRadS2
      (Double.max (ofRat 1e-9) (mul accelerationBoundaryRadS2 (ofRat 1e-9)))
    let jerkBoundary := outputJerkTransitionTarget jerkBoundaryRadS3
    let limited := fun j => limitedPosition accelerationBoundary jerkBoundary dtS
      (proposed.position j) (position j) (velocity j) (acceleration j)
    if withinPositionLimits limited then
      .ok { proposed with position := limited, endpoint := false }
    else .error .positionLimits

/-! ## The resampler -/

namespace JointServoResampler

/-- The members of a new resampler. -/
def ofPeriod (servoPeriodNs : UInt64) : JointServoResampler δ where
  emitted _ := zero
  start _ := zero
  destination _ := zero
  servoPeriodNs

/-- The constructor. -/
def create (servoPeriodNs : UInt64) : Except (ResamplerError δ) (JointServoResampler δ) :=
  if servoPeriodNs = 0 ∨ servoPeriodNs % controllerServoPeriodNs ≠ 0 then .error .servoPeriod
  else .ok (ofPeriod servoPeriodNs)

/-- `initialize` (lines 135–146). -/
def initializeAt (r : JointServoResampler δ) (measured : Joints δ) (servoTimeNs : UInt64) :
    JointServoResampler δ × Option (ResamplerError δ) :=
  if !withinPositionLimits measured then (r, some .positionLimits)
  else if servoTimeNs = 0 then (r, some .initializationTime)
  else
    ({ r with
        emitted := measured, start := measured, destination := measured
        lastServoTimeNs := servoTimeNs, segmentStartNs := servoTimeNs
        segmentEndNs := servoTimeNs
        initialized := true, hasAccepted := false, internalHold := false, active := false },
      none)

/-- `hold` (lines 148–162). -/
def hold (r : JointServoResampler δ) (position : Joints δ) (acceptedNs sequence : UInt64) :
    JointServoResampler δ × Option (ResamplerError δ) :=
  if !r.initialized then (r, some .notInitialized)
  else if !withinPositionLimits position then (r, some .positionLimits)
  else if acceptedNs = 0 then (r, some .holdTimestamp)
  else
    ({ r with
        emitted := position, start := position, destination := position
        segmentStartNs := r.lastServoTimeNs, segmentEndNs := r.lastServoTimeNs
        lastAcceptedNs := acceptedNs, fromAcceptedNs := acceptedNs, toAcceptedNs := acceptedNs
        fromSequence := sequence, toSequence := sequence
        hasAccepted := true, internalHold := true, active := false },
      none)

/-- The segment of a first destination, or of the first after a hold. -/
def begin (r : JointServoResampler δ) (destination : Joints δ) (acceptedNs sequence : UInt64) :
    JointServoResampler δ :=
  { r with
    lastAcceptedNs := acceptedNs, fromAcceptedNs := acceptedNs, toAcceptedNs := acceptedNs
    fromSequence := sequence, toSequence := sequence
    start := r.emitted, destination
    segmentStartNs := r.lastServoTimeNs
    segmentEndNs := r.lastServoTimeNs + r.servoPeriodNs
    active := true }

/-- The members that `accept` assigns before the last check of a replacement. -/
def retarget (r : JointServoResampler δ) (destination : Joints δ) : JointServoResampler δ :=
  { r with start := r.emitted, destination, segmentStartNs := r.lastServoTimeNs }

/-- `accept` (lines 164–223). -/
def accept (r : JointServoResampler δ) (destination : Joints δ) (acceptedNs sequence : UInt64) :
    JointServoResampler δ × Option (ResamplerError δ) :=
  if !r.initialized then (r, some .notInitialized)
  else if !withinPositionLimits destination then (r, some .positionLimits)
  else if acceptedNs = 0 ∨ sequence = 0 then (r, some .acceptedStamp)
  else if !r.hasAccepted then
    ({ r.begin destination acceptedNs sequence with hasAccepted := true }, none)
  else if acceptedNs ≤ r.lastAcceptedNs then (r, some .acceptedTimeOrder)
  else if sequence ≤ r.toSequence then (r, some .acceptedSequenceOrder)
  else if r.internalHold then
    ({ r.begin destination acceptedNs sequence with internalHold := false }, none)
  else
    let durationNs := acceptedNs - r.lastAcceptedNs
    let r := r.retarget destination
    -- the members above are assigned even if the duration is refused
    if maximumUnsigned - r.segmentStartNs < durationNs then (r, some .segmentOverflow)
    else
      ({ r with
          segmentEndNs := r.segmentStartNs + durationNs
          fromSequence := r.toSequence, toSequence := sequence
          fromAcceptedNs := r.lastAcceptedNs, toAcceptedNs := acceptedNs
          lastAcceptedNs := acceptedNs
          active := true },
        none)

/-- `alpha` on a segment. -/
def alphaAt (r : JointServoResampler δ) (servoTimeNs : UInt64) : δ :=
  clamp (div (ofUnsigned (servoTimeNs - r.segmentStartNs))
    (ofUnsigned (r.segmentEndNs - r.segmentStartNs))) zero (ofRat 1)

/-- The interpolated position on a segment. -/
def positionAt (r : JointServoResampler δ) (servoTimeNs : UInt64) : Joints δ := fun j =>
  add (r.start j) (mul (r.alphaAt servoTimeNs) (sub (r.destination j) (r.start j)))

/-- `evaluate` (lines 225–255). -/
def evaluate (r : JointServoResampler δ) (servoTimeNs : UInt64) :
    Except (ResamplerError δ) (ResampledServoPoint δ) :=
  if !r.initialized || !r.hasAccepted then .error .noAcceptedTarget
  else if servoTimeNs < r.lastServoTimeNs then .error .evaluationBackwards
  else if !r.active ∨ r.segmentEndNs ≤ r.segmentStartNs then
    .ok { position := r.emitted, segmentVelocityRadS := fun _ => zero, servoTimeNs
          fromSequence := r.fromSequence, toSequence := r.toSequence
          fromAcceptedNs := r.fromAcceptedNs, toAcceptedNs := r.toAcceptedNs
          alpha := if r.active then ofRat 1 else zero
          endpoint := r.active }
  else
    .ok { position := r.positionAt servoTimeNs
          segmentVelocityRadS := fun j =>
            div (mul (sub (r.destination j) (r.start j)) (ofRat 1e9))
              (ofUnsigned (r.segmentEndNs - r.segmentStartNs))
          servoTimeNs
          fromSequence := r.fromSequence, toSequence := r.toSequence
          fromAcceptedNs := r.fromAcceptedNs, toAcceptedNs := r.toAcceptedNs
          alpha := r.alphaAt servoTimeNs
          endpoint := le (ofRat 1) (r.alphaAt servoTimeNs) }

/-- `commit_emitted`. -/
def commitEmitted (r : JointServoResampler δ) (point : ResampledServoPoint δ) :
    JointServoResampler δ :=
  { r with emitted := point.position, lastServoTimeNs := point.servoTimeNs }

/-- `commit` (lines 257–268). -/
def commit (r : JointServoResampler δ) (point : ResampledServoPoint δ) :
    JointServoResampler δ × Option (ResamplerError δ) :=
  if point.servoTimeNs < r.lastServoTimeNs then (r, some .commitBackwards)
  else
    let r := r.commitEmitted point
    ({ r with active := r.active && !point.endpoint }, none)

/-- The members that `commit_transition_limited` assigns before its last check. -/
def emitLimited (r : JointServoResampler δ) (point : ResampledServoPoint δ) :
    JointServoResampler δ :=
  let r := r.commitEmitted point
  { r with start := r.emitted, segmentStartNs := r.lastServoTimeNs }

/-- `commit_transition_limited` (lines 270–287). -/
def commitTransitionLimited (r : JointServoResampler δ) (point : ResampledServoPoint δ) :
    JointServoResampler δ × Option (ResamplerError δ) :=
  if point.servoTimeNs < r.lastServoTimeNs then (r, some .limitedCommitBackwards)
  else
    let r := r.emitLimited point
    -- the point is emitted even if the next segment would not end
    if maximumUnsigned - r.segmentStartNs < r.servoPeriodNs then (r, some .limitedOverflow)
    else
      ({ r with
          segmentEndNs := r.segmentStartNs + r.servoPeriodNs
          fromSequence := r.toSequence
          fromAcceptedNs := r.toAcceptedNs
          active := true },
        none)

end JointServoResampler

end HandLab.Resampler
