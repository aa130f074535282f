import HandLab.Resampler.Servo
import Mathlib.Tactic.Positivity

/-!
# The C API of the resampler

`native/jaka_servo_worker/resampler_c_api.cpp`: a handle with the resampler, the
limits, and the position, velocity and acceleration of the last selected point.

A call that fails returns `-1` and leaves behind what it had assigned by then
(`step`); the exception is part of the result. A null array or a null point is
`none` or `false`.
-/

namespace HandLab.Resampler

open HandLab.Lib Double

variable {δ : Type*}

/-- `ResamplerHandle`. -/
structure ResamplerHandle (δ : Type*) where
  resampler : JointServoResampler δ
  maximumVelocity : Joints δ
  previousPosition : Joints δ
  previousVelocity : Joints δ
  previousAcceleration : Joints δ
  recoverableAcceleration : δ
  hardAcceleration : δ
  maximumJerk : δ
  previousCommandNs : UInt64 := 0
  transitionConfigured : Bool := false
  previousTransitionLimited : Bool := false
  deriving DecidableEq

/-- `MotionSample`. -/
structure MotionSample (δ : Type*) where
  velocity : Joints δ
  acceleration : Joints δ
  jerk : Joints δ
  deriving DecidableEq

/-- `jaka_resampler_point_v1`, with the servo point as a part. -/
structure ResamplerPoint (δ : Type*) where
  servo : ResampledServoPoint δ
  motion : MotionSample δ
  transitionLimited : Bool
  recoveredFromTransition : Bool
  deriving DecidableEq

variable [Double δ]

/-! ## The checks -/

/-- `dt_s`. -/
def seconds (start stop : UInt64) : δ := div (ofUnsigned (stop - start)) (ofRat 1e9)

/-- `measure` (lines 62–81). -/
def measure (h : ResamplerHandle δ) (point : ResampledServoPoint δ) (commandNs : UInt64) :
    Except (ResamplerError δ) (MotionSample δ) :=
  if commandNs = h.previousCommandNs then .ok ⟨fun _ => zero, fun _ => zero, fun _ => zero⟩
  else if commandNs < h.previousCommandNs then .error .commandBackwards
  else
    let dtS : δ := seconds h.previousCommandNs commandNs
    let velocity := fun j => div (sub (point.position j) (h.previousPosition j)) dtS
    let acceleration := fun j => div (sub (velocity j) (h.previousVelocity j)) dtS
    let jerk := fun j => div (sub (acceleration j) (h.previousAcceleration j)) dtS
    .ok ⟨velocity, acceleration, jerk⟩

/-- `transition_required` (lines 83–93). -/
def transitionRequired (h : ResamplerHandle δ) (sample : MotionSample δ) : Bool :=
  (List.finRange 6).any fun j =>
    lt (add (h.maximumVelocity j) (ofRat 1e-12)) (abs (sample.velocity j)) ||
      lt (add h.recoverableAcceleration (ofRat 1e-12)) (abs (sample.acceleration j)) ||
      lt (add h.maximumJerk (ofRat 1e-12)) (abs (sample.jerk j))

/-- The checks of one joint in `require_final_boundaries`. -/
def boundaryError? (h : ResamplerHandle δ) (sample : MotionSample δ) (j : Fin 6) :
    Option (ResamplerError δ) :=
  if lt (add (h.maximumVelocity j) (ofRat 1e-12)) (abs (sample.velocity j)) then
    some (.velocityBoundary j (sample.velocity j) (h.maximumVelocity j))
  else if lt (add h.hardAcceleration (ofRat 1e-12)) (abs (sample.acceleration j)) then
    some (.accelerationBoundary j (sample.acceleration j) h.hardAcceleration)
  else if !outputJerkWithinHardBoundary (sample.jerk j) h.maximumJerk then
    some (.jerkBoundary j (sample.jerk j) h.maximumJerk)
  else none

/-- `require_final_boundaries` (lines 95–118). -/
def requireFinalBoundaries (h : ResamplerHandle δ) (sample : MotionSample δ) :
    Option (ResamplerError δ) :=
  (List.finRange 6).findSome? (boundaryError? h sample)

/-! ## The calls -/

/-- The members of a new handle. -/
def ResamplerHandle.ofResampler (resampler : JointServoResampler δ) : ResamplerHandle δ where
  resampler
  maximumVelocity _ := zero
  previousPosition _ := zero
  previousVelocity _ := zero
  previousAcceleration _ := zero
  recoverableAcceleration := zero
  hardAcceleration := zero
  maximumJerk := zero

/-- `jaka_resampler_create_with_period`. -/
def create (servoPeriodNs : UInt64) : Except (ResamplerError δ) (ResamplerHandle δ) :=
  (JointServoResampler.create servoPeriodNs).map .ofResampler

/-- A call on a handle. -/
inductive Call (δ : Type*)
  | initializeAt (positionRad : Option (Joints δ)) (servoTimeNs : UInt64)
  | hold (positionRad : Option (Joints δ)) (acceptedNs sequence : UInt64)
  | configureTransition (maximumVelocityRadS : Option (Joints δ))
      (recoverableAccelerationRadS2 hardAccelerationRadS2 maximumJerkRadS3 : δ)
  | accept (destinationRad : Option (Joints δ)) (acceptedNs sequence : UInt64)
  | evaluateSelected (servoTimeNs : UInt64) (point : Bool)
  deriving DecidableEq

namespace ResamplerHandle

/-- The point that `jaka_resampler_evaluate_selected` selects before it commits. -/
structure Selection (δ : Type*) where
  selected : ResampledServoPoint δ
  motion : MotionSample δ
  limited : Bool

/-- `jaka_resampler_initialize` with an array. -/
def initializeAt (h : ResamplerHandle δ) (position : Joints δ) (servoTimeNs : UInt64) :
    ResamplerHandle δ × Option (ResamplerError δ) :=
  let (resampler, error) := h.resampler.initializeAt position servoTimeNs
  -- the members of the handle are assigned before the resampler checks its arguments
  ({ h with
      previousPosition := position
      previousVelocity := fun _ => zero
      previousAcceleration := fun _ => zero
      previousCommandNs := servoTimeNs
      previousTransitionLimited := false
      resampler },
    error)

/-- The check of `jaka_resampler_configure_transition`. -/
def validLimits (maximumVelocity : Joints δ) (recoverableAcceleration hardAcceleration
    maximumJerk : δ) : Bool :=
  ((List.finRange 6).all fun j =>
      isFinite (maximumVelocity j) && lt zero (maximumVelocity j)) &&
    isFinite recoverableAcceleration && !le recoverableAcceleration zero &&
    isFinite hardAcceleration && !lt hardAcceleration recoverableAcceleration &&
    isFinite maximumJerk && !le maximumJerk zero

/-- `jaka_resampler_configure_transition` with an array. -/
def configureTransition (h : ResamplerHandle δ) (maximumVelocity : Joints δ)
    (recoverableAcceleration hardAcceleration maximumJerk : δ) :
    ResamplerHandle δ × Option (ResamplerError δ) :=
  -- the velocities are assigned before the check
  let h := { h with maximumVelocity }
  if !validLimits maximumVelocity recoverableAcceleration hardAcceleration maximumJerk then
    (h, some .invalidLimits)
  else
    ({ h with recoverableAcceleration, hardAcceleration, maximumJerk,
              transitionConfigured := true }, none)

/-- The `selected` point of `jaka_resampler_evaluate_selected` (lines 230–239). -/
def selectPoint (h : ResamplerHandle δ) (proposed : ResampledServoPoint δ) (limited : Bool)
    (servoTimeNs : UInt64) : Except (ResamplerError δ) (ResampledServoPoint δ) :=
  if limited ∧ h.previousCommandNs < servoTimeNs then
    transitionLimitedPoint proposed h.previousPosition h.previousVelocity
      h.previousAcceleration (seconds h.previousCommandNs servoTimeNs)
      (Double.min h.recoverableAcceleration h.hardAcceleration) h.maximumJerk
  else .ok proposed

/-- The selection of `jaka_resampler_evaluate_selected` (lines 227–241). -/
def select (h : ResamplerHandle δ) (servoTimeNs : UInt64) :
    Except (ResamplerError δ) (Selection δ) := do
  let proposed ← h.resampler.evaluate servoTimeNs
  let proposedMotion ← measure h proposed servoTimeNs
  let limited := transitionRequired h proposedMotion
  let selected ← h.selectPoint proposed limited servoTimeNs
  let motion ← measure h selected servoTimeNs
  match requireFinalBoundaries h motion with
  | some error => .error error
  | none => .ok ⟨selected, motion, limited⟩

/-- The commit of the resampler in `jaka_resampler_evaluate_selected`. -/
def commitSelected (h : ResamplerHandle δ) (selection : Selection δ) (servoTimeNs : UInt64) :
    JointServoResampler δ × Option (ResamplerError δ) :=
  if selection.limited ∧ h.previousCommandNs < servoTimeNs then
    h.resampler.commitTransitionLimited selection.selected
  else h.resampler.commit selection.selected

/-- `jaka_resampler_evaluate_selected` with a point (lines 220–254). -/
def evaluateSelected (h : ResamplerHandle δ) (servoTimeNs : UInt64) :
    ResamplerHandle δ × Except (ResamplerError δ) (ResamplerPoint δ) :=
  if !h.transitionConfigured then (h, .error .notConfigured)
  else
    match h.select servoTimeNs with
    | .error error => (h, .error error)
    | .ok selection =>
      match h.commitSelected selection servoTimeNs with
      | (resampler, some error) => ({ h with resampler }, .error error)
      | (resampler, none) =>
        ({ h with
            resampler
            previousPosition := selection.selected.position
            previousVelocity := selection.motion.velocity
            previousAcceleration := selection.motion.acceleration
            previousCommandNs := servoTimeNs
            previousTransitionLimited := selection.limited },
          .ok
            { servo := selection.selected
              motion := selection.motion
              transitionLimited := selection.limited
              recoveredFromTransition := h.previousTransitionLimited && !selection.limited })

end ResamplerHandle

/-- What a call returns: `-1` with the exception, or `0` and the point if it writes one. -/
abbrev Result (δ : Type*) := Except (ResamplerError δ) (Option (ResamplerPoint δ))

/-- `0`, or `-1` with the exception. -/
def resultOf : Option (ResamplerError δ) → Result δ
  | none => .ok none
  | some error => .error error

/-- A call on a handle. -/
def step (h : ResamplerHandle δ) : Call δ → ResamplerHandle δ × Result δ
  | .initializeAt none _ | .hold none _ _ | .configureTransition none _ _ _ | .accept none _ _ =>
    (h, .error .inputNull)
  | .initializeAt (some position) servoTimeNs =>
    let (h, error) := h.initializeAt position servoTimeNs
    (h, resultOf error)
  | .hold (some position) acceptedNs sequence =>
    let (resampler, error) := h.resampler.hold position acceptedNs sequence
    ({ h with resampler }, resultOf error)
  | .configureTransition (some velocity) recoverable hard jerk =>
    let (h, error) := h.configureTransition velocity recoverable hard jerk
    (h, resultOf error)
  | .accept (some destination) acceptedNs sequence =>
    let (resampler, error) := h.resampler.accept destination acceptedNs sequence
    ({ h with resampler }, resultOf error)
  | .evaluateSelected _ false => (h, .error .pointNull)
  | .evaluateSelected servoTimeNs true =>
    let (h, result) := h.evaluateSelected servoTimeNs
    (h, result.map some)

/-! ## Time -/

section Exact

variable {δ : Type*} [Field δ] [LinearOrder δ] [IsStrictOrderedRing δ] [Double δ] [Exact δ]

theorem seconds_eq {m n : UInt64} (h : m ≤ n) :
    (seconds m n : δ) = ((n.toNat : δ) - m.toNat) / 10 ^ 9 := by
  have hsub : (n - m).toNat = n.toNat - m.toNat := UInt64.toNat_sub_of_le _ _ h
  rw [seconds, ofUnsigned, hsub]
  simp only [Exact.div_eq, Exact.ofRat_eq, Rat.cast_natCast]
  rw [Nat.cast_sub (UInt64.le_iff_toNat_le.mp h)]
  norm_num

theorem seconds_pos {m n : UInt64} (h : m < n) : (0 : δ) < seconds m n := by
  have hlt : (m.toNat : δ) < n.toNat := Nat.cast_lt.mpr (UInt64.lt_iff_toNat_lt.mp h)
  rw [seconds_eq (UInt64.le_of_lt h)]
  exact div_pos (sub_pos.mpr hlt) (by positivity)

end Exact

/-! ## The selection -/

/-- A point of `evaluate`, on the active segment or at the emitted position. -/
theorem evaluate_ok {r : JointServoResampler δ} {t : UInt64} {point : ResampledServoPoint δ}
    (h : r.evaluate t = .ok point) :
    r.lastServoTimeNs ≤ t ∧ point.servoTimeNs = t ∧
      if r.active = true ∧ r.segmentStartNs < r.segmentEndNs then
        point.position = r.positionAt t ∧ point.alpha = r.alphaAt t ∧
          point.endpoint = le (ofRat 1) (r.alphaAt t)
      else point.position = r.emitted ∧ point.endpoint = r.active := by
  unfold JointServoResampler.evaluate at h
  by_cases hmoves : r.active = true ∧ r.segmentStartNs < r.segmentEndNs
  · have hmoving : ¬((!r.active) = true ∨ r.segmentEndNs ≤ r.segmentStartNs) := by
      simpa using hmoves
    simp only [if_neg hmoving] at h
    split_ifs at h with hready hback
    obtain rfl := Except.ok.inj h
    rw [if_pos hmoves]
    exact ⟨UInt64.not_lt.mp hback, rfl, rfl, rfl, rfl⟩
  · have hidle : (!r.active) = true ∨ r.segmentEndNs ≤ r.segmentStartNs := by
      simpa [imp_iff_not_or] using hmoves
    simp only [if_pos hidle] at h
    split_ifs at h with hready hback
    all_goals
      obtain rfl := Except.ok.inj h
      rw [if_neg hmoves]
      exact ⟨UInt64.not_lt.mp hback, rfl, rfl, rfl⟩

theorem evaluate_servoTime {r : JointServoResampler δ} {t : UInt64}
    {point : ResampledServoPoint δ} (h : r.evaluate t = .ok point) : point.servoTimeNs = t :=
  (evaluate_ok h).2.1

variable {h : ResamplerHandle δ}

theorem selectPoint_servoTime {proposed selected : ResampledServoPoint δ}
    {limited : Bool} {t : UInt64} (hselect : h.selectPoint proposed limited t = .ok selected) :
    selected.servoTimeNs = proposed.servoTimeNs := by
  unfold ResamplerHandle.selectPoint transitionLimitedPoint at hselect
  dsimp only at hselect
  split_ifs at hselect <;> (obtain rfl := Except.ok.inj hselect; rfl)

variable {selection : ResamplerHandle.Selection δ}

/-- The steps of a selection that does not throw. -/
theorem select_ok {t : UInt64}
    (hselect : h.select t = .ok selection) :
    ∃ proposed motion, h.resampler.evaluate t = .ok proposed ∧
      measure h proposed t = .ok motion ∧
      selection.limited = transitionRequired h motion ∧
      h.selectPoint proposed selection.limited t = .ok selection.selected ∧
      measure h selection.selected t = .ok selection.motion ∧
      requireFinalBoundaries h selection.motion = none := by
  unfold ResamplerHandle.select at hselect
  cases hproposed : h.resampler.evaluate t with
  | error error => rw [hproposed] at hselect; exact absurd hselect nofun
  | ok proposed =>
    rw [hproposed] at hselect
    cases hmotion : measure h proposed t with
    | error error => simp [hmotion, bind, Except.bind] at hselect
    | ok motion =>
      simp only [hmotion, bind, Except.bind] at hselect
      cases hpoint : h.selectPoint proposed (transitionRequired h motion) t with
      | error error => simp [hpoint] at hselect
      | ok selected =>
        simp only [hpoint] at hselect
        cases hsample : measure h selected t with
        | error error => simp [hsample] at hselect
        | ok sample =>
          simp only [hsample] at hselect
          cases hfinal : requireFinalBoundaries h sample with
          | some error => simp [hfinal] at hselect
          | none =>
            simp only [hfinal] at hselect
            obtain rfl := Except.ok.inj hselect
            exact ⟨proposed, motion, rfl, hmotion, rfl, hpoint, hsample, hfinal⟩

theorem select_servoTime {t : UInt64}
    (hselect : h.select t = .ok selection) :
    selection.selected.servoTimeNs = t := by
  obtain ⟨proposed, motion, hproposed, -, -, hpoint, -⟩ := select_ok hselect
  rw [selectPoint_servoTime hpoint, evaluate_servoTime hproposed]

end HandLab.Resampler
