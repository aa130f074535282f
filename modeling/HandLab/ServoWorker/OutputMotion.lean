import HandLab.Lib.Run
import HandLab.Lib.ThirdOrder
import HandLab.Resampler.CApi

/-!
# The output of the servo worker

What `native/jaka_servo_worker/main.cpp` checks of the points it is about to
command in the joint modes: `OutputMotionDiagnostics` (lines 656–908), and the
part of a cycle from the evaluation of the resampler to the commits (lines
2912–3009).

The measured tracking error, the bookkeeping of holds without progress and the SDK
call stand behind one bit of a cycle: whether the point is dispatched. What the
diagnostics count for the metrics is left out.
-/

namespace HandLab.ServoWorker

open HandLab.Lib Double
open HandLab.Resampler (Joints ResampledServoPoint ResamplerError JointServoResampler
  withinPositionLimits seconds transitionLimitedPoint outputJerkWithinHardBoundary)

variable {δ : Type*}

/-! ## Options -/

/-- What the output checks read of `Options`. -/
structure OutputOptions (δ : Type*) where
  excessiveTrackingErrorAbortRad : δ
  startupAlignmentToleranceRad : δ
  maximumOutputJointVelocityRadS : δ
  maximumOutputJointVelocityRadSPerJoint : Joints δ
  maximumOutputJointVelocityPerJointSet : Bool := false
  diagnosticJointAccelerationBoundaryRadS2 : δ
  abortOnDiagnosticAccelerationBoundary : Bool := false
  maximumOutputJointAccelerationRadS2 : δ
  outputJointJerkLimitRadS3 : δ
  recoverOutputAccelerationTransition : Bool := false
  startupTimingGraceCycles : UInt32 := 25

/-! ## The diagnostics -/

/-- `OutputMotionSample`. -/
structure OutputMotionSample (δ : Type*) where
  commandNs : UInt64
  velocity : Joints δ
  acceleration : Joints δ
  jerk : Joints δ
  deriving DecidableEq

/-- The boundaries of `check_final`. -/
inductive OutputBoundary
  | velocity | acceleration | jerk
  deriving DecidableEq, Repr

/-- What a cycle throws. -/
inductive OutputFault (δ : Type*)
  /-- `joint target violates JAKA manufacturer position limits` -/
  | positionLimits
  /-- another error of the resampler -/
  | resampler (error : ResamplerError δ)
  /-- `output diagnostic initialization time is invalid` -/
  | initializationTime
  /-- `output command timestamp is invalid` -/
  | commandTimestamp
  /-- `output command timestamps are not strictly monotonic` -/
  | commandOrder
  /-- `non-finite controller-visible output diagnostic` -/
  | nonFinite
  /-- `diagnostic output acceleration boundary crossed before SDK call` -/
  | diagnosticAcceleration (joint : Fin 6) (acceleration limit : δ)
  /-- `internal output-feasibility contract violation before SDK call` -/
  | boundary (kind : OutputBoundary) (joint : Fin 6) (value limit alpha : δ)
      (fromSequence toSequence : UInt64)
  /-- `output transition limiter is not initialized` -/
  | limiterNotInitialized
  /-- `output transition limiter timestamp is invalid` -/
  | limiterTimestamp
  /-- a fault of the checks between `check_final` and the commits, or of the SDK -/
  | notDispatched
  deriving DecidableEq

/-- An error of the resampler header. -/
def OutputFault.ofResampler : ResamplerError δ → OutputFault δ
  | .positionLimits => .positionLimits
  | error => .resampler error

/-- `OutputMotionDiagnostics`. -/
structure OutputMotionDiagnostics (δ : Type*) where
  previousPosition : Joints δ
  previousVelocity : Joints δ
  previousAcceleration : Joints δ
  previousCommandNs : UInt64 := 0
  firstRecoverableViolatingJoint : Fin 6 := 0
  initialized : Bool := false
  deriving DecidableEq

namespace OutputMotionDiagnostics

variable [Double δ]

/-- `initialize` (lines 660–668). -/
def initializeAt (d : OutputMotionDiagnostics δ) (position : Joints δ) (commandNs : UInt64) :
    Except (OutputFault δ) (OutputMotionDiagnostics δ) :=
  if !withinPositionLimits position then .error .positionLimits
  else if commandNs = 0 then .error .initializationTime
  else .ok
    { d with
      previousPosition := position
      previousVelocity := fun _ => zero
      previousAcceleration := fun _ => zero
      previousCommandNs := commandNs
      initialized := true }

/-- `measure` (lines 777–796). -/
def measure (d : OutputMotionDiagnostics δ) (point : ResampledServoPoint δ)
    (commandNs : UInt64) : Except (OutputFault δ) (OutputMotionSample δ) :=
  if !withinPositionLimits point.position then .error .positionLimits
  else if commandNs = 0 then .error .commandTimestamp
  else if !d.initialized then .ok ⟨commandNs, fun _ => zero, fun _ => zero, fun _ => zero⟩
  else if commandNs ≤ d.previousCommandNs then .error .commandOrder
  else
    let dtS : δ := seconds d.previousCommandNs commandNs
    let velocity := fun j => div (sub (point.position j) (d.previousPosition j)) dtS
    let acceleration := fun j => div (sub (velocity j) (d.previousVelocity j)) dtS
    let jerk := fun j => div (sub (acceleration j) (d.previousAcceleration j)) dtS
    if (List.finRange 6).all fun j =>
        isFinite (velocity j) && isFinite (acceleration j) && isFinite (jerk j) then
      .ok ⟨commandNs, velocity, acceleration, jerk⟩
    else .error .nonFinite

variable (o : OutputOptions δ)

/-- `value` is beyond `limit`, with the tolerance of the output checks. -/
def beyond (limit value : δ) : Bool := lt (add limit (ofRat 1e-12)) (abs value)

/-- `velocity_boundary_crossing` (lines 719–727). -/
def velocityBoundaryCrossing (sample : OutputMotionSample δ) : Bool :=
  (List.finRange 6).any fun j =>
    beyond (if o.maximumOutputJointVelocityPerJointSet then
        o.maximumOutputJointVelocityRadSPerJoint j
      else o.maximumOutputJointVelocityRadS) (sample.velocity j)

/-- `recoverable_acceleration_crossing` (lines 709–717). -/
def recoverableAccelerationCrossing (sample : OutputMotionSample δ) : Bool :=
  (List.finRange 6).any fun j =>
    beyond o.diagnosticJointAccelerationBoundaryRadS2 (sample.acceleration j)

/-- The fault of the first joint beyond a boundary. -/
def requireBoundary (kind : OutputBoundary) (crossed : Fin 6 → Bool) (value limit : Joints δ)
    (point : ResampledServoPoint δ) : Option (OutputFault δ) :=
  ((List.finRange 6).find? crossed).map fun j =>
    .boundary kind j (value j) (limit j) point.alpha point.fromSequence point.toSequence

/-- `require_velocity_boundary` (lines 798–817). -/
def requireVelocityBoundary (point : ResampledServoPoint δ) (sample : OutputMotionSample δ) :
    Option (OutputFault δ) :=
  requireBoundary .velocity
    (fun j => beyond (o.maximumOutputJointVelocityRadSPerJoint j) (sample.velocity j))
    sample.velocity o.maximumOutputJointVelocityRadSPerJoint point

/-- `require_hard_acceleration_boundary` (lines 832–849). -/
def requireHardAccelerationBoundary (point : ResampledServoPoint δ)
    (sample : OutputMotionSample δ) : Option (OutputFault δ) :=
  requireBoundary .acceleration
    (fun j => beyond o.maximumOutputJointAccelerationRadS2 (sample.acceleration j))
    sample.acceleration (fun _ => o.maximumOutputJointAccelerationRadS2) point

/-- `require_jerk_boundary` (lines 851–866). -/
def requireJerkBoundary (point : ResampledServoPoint δ) (sample : OutputMotionSample δ) :
    Option (OutputFault δ) :=
  requireBoundary .jerk
    (fun j => !outputJerkWithinHardBoundary (sample.jerk j) o.outputJointJerkLimitRadS3)
    sample.jerk (fun _ => o.outputJointJerkLimitRadS3) point

/-- `record_recoverable_crossings` (lines 819–830), with the joint that it records. -/
def recordRecoverableCrossings (d : OutputMotionDiagnostics δ) (sample : OutputMotionSample δ) :
    OutputMotionDiagnostics δ :=
  match (List.finRange 6).find? fun j =>
      beyond o.diagnosticJointAccelerationBoundaryRadS2 (sample.acceleration j) with
  | some j => { d with firstRecoverableViolatingJoint := j }
  | none => d

/-- `check_candidate` (lines 670–697). -/
def checkCandidate (d : OutputMotionDiagnostics δ) (point : ResampledServoPoint δ)
    (commandNs : UInt64) :
    Except (OutputFault δ) (OutputMotionSample δ × OutputMotionDiagnostics δ) :=
  match d.measure point commandNs with
  | .error fault => .error fault
  | .ok sample =>
    let recovers := o.recoverOutputAccelerationTransition
    let aborts := o.abortOnDiagnosticAccelerationBoundary
    let recorded := d.recordRecoverableCrossings o sample
    let joint := recorded.firstRecoverableViolatingJoint
    if velocityBoundaryCrossing o sample && recovers then .ok (sample, d)
    else
      match (if velocityBoundaryCrossing o sample then requireVelocityBoundary o point sample
        else none) with
      | some fault => .error fault
      | none =>
        if recoverableAccelerationCrossing o sample && recovers then .ok (sample, recorded)
        else if recoverableAccelerationCrossing o sample && aborts then
          .error (.diagnosticAcceleration joint (sample.acceleration joint)
            o.diagnosticJointAccelerationBoundaryRadS2)
        else
          match (if recovers || aborts then requireHardAccelerationBoundary o point sample
            else none) with
          | some fault => .error fault
          | none => .ok (sample, recorded)

/-- `check_final` (lines 699–707). -/
def checkFinal (d : OutputMotionDiagnostics δ) (point : ResampledServoPoint δ)
    (commandNs : UInt64) : Except (OutputFault δ) (OutputMotionSample δ) :=
  match d.measure point commandNs with
  | .error fault => .error fault
  | .ok sample =>
    match (requireVelocityBoundary o point sample).or
        ((requireHardAccelerationBoundary o point sample).or
          (requireJerkBoundary o point sample)) with
    | some fault => .error fault
    | none => .ok sample

/-- `selected_boundary`. -/
def selectedBoundary : δ :=
  Double.min o.diagnosticJointAccelerationBoundaryRadS2 o.maximumOutputJointAccelerationRadS2

/-- `transition_limited_point` (lines 729–748). -/
def transitionLimited (d : OutputMotionDiagnostics δ) (proposed : ResampledServoPoint δ)
    (proposedMotion : OutputMotionSample δ) :
    Except (OutputFault δ) (ResampledServoPoint δ) :=
  if !d.initialized then .error .limiterNotInitialized
  else if proposedMotion.commandNs ≤ d.previousCommandNs then .error .limiterTimestamp
  else
    (transitionLimitedPoint proposed d.previousPosition d.previousVelocity
      d.previousAcceleration (seconds d.previousCommandNs proposedMotion.commandNs)
      (selectedBoundary o) o.outputJointJerkLimitRadS3).mapError .ofResampler

/-- `commit` (lines 869–884). -/
def commit (d : OutputMotionDiagnostics δ) (point : ResampledServoPoint δ)
    (sample : OutputMotionSample δ) : OutputMotionDiagnostics δ :=
  { d with
    previousPosition := point.position
    previousVelocity := sample.velocity
    previousAcceleration := sample.acceleration
    previousCommandNs := sample.commandNs
    initialized := true }

end OutputMotionDiagnostics

/-! ## The cycle -/

/-- The resampler and the diagnostics of the loop. -/
structure ServoOutput (δ : Type*) where
  resampler : JointServoResampler δ
  diagnostics : OutputMotionDiagnostics δ
  deriving DecidableEq

/-- A point that has been committed, with its motion. -/
structure CommittedPoint (δ : Type*) where
  point : ResampledServoPoint δ
  motion : OutputMotionSample δ
  transitionLimited : Bool
  deriving DecidableEq

/-- The output side of a run: its state, the committed points, newest first, and what it
    has thrown. -/
structure ServoRun (δ : Type*) where
  output : ServoOutput δ
  committed : List (CommittedPoint δ) := []
  fault : Option (OutputFault δ) := none
  deriving DecidableEq

/-- What the loop does to its output side. -/
inductive ServoEvent (δ : Type*)
  | accept (destination : Joints δ) (acceptedNs sequence : UInt64)
  /-- the hold at the last position of the diagnostics -/
  | hold (acceptedNs sequence : UInt64)
  | cycle (servoEvaluationTime commandStart : UInt64) (dispatched : Bool)
  deriving DecidableEq

variable [Double δ]

/-- The post-EDG set-up before the loop (lines 2520–2540), with the constructor of the
    resampler. -/
def ServoOutput.start (servoPeriodNs : UInt64) (qHold : Joints δ) (handoffNs : UInt64) :
    Except (OutputFault δ) (ServoOutput δ) :=
  match JointServoResampler.create servoPeriodNs with
  | .error error => .error (.ofResampler error)
  | .ok created =>
    match created.initializeAt qHold handoffNs with
    | (_, some error) => .error (.ofResampler error)
    | (initialized, none) =>
      match initialized.hold qHold handoffNs 0 with
      | (_, some error) => .error (.ofResampler error)
      | (resampler, none) =>
        let diagnostics : OutputMotionDiagnostics δ :=
          { previousPosition := fun _ => zero
            previousVelocity := fun _ => zero
            previousAcceleration := fun _ => zero }
        match diagnostics.initializeAt qHold handoffNs with
        | .error fault => .error fault
        | .ok diagnostics => .ok ⟨resampler, diagnostics⟩

/-- Limits of 12 rad/s² and 60 rad/s³. -/
def roundedOptions : OutputOptions ℚ where
  excessiveTrackingErrorAbortRad := 35 / 100
  startupAlignmentToleranceRad := 1 / 1000
  maximumOutputJointVelocityRadS := 3
  maximumOutputJointVelocityRadSPerJoint _ := 3
  diagnosticJointAccelerationBoundaryRadS2 := 12
  maximumOutputJointAccelerationRadS2 := 12
  outputJointJerkLimitRadS3 := 60

/-- The output side after the handoff at rest, at a period of 8 ms. -/
def ServoOutput.restingAt (t : UInt64) : ServoOutput ℚ where
  resampler :=
    { emitted := fun _ => 0, start := fun _ => 0, destination := fun _ => 0
      servoPeriodNs := 8000000, lastServoTimeNs := t, segmentStartNs := t, segmentEndNs := t
      lastAcceptedNs := t, fromAcceptedNs := t, toAcceptedNs := t
      initialized := true, hasAccepted := true, internalHold := true }
  diagnostics :=
    { previousPosition := fun _ => 0, previousVelocity := fun _ => 0
      previousAcceleration := fun _ => 0, previousCommandNs := t, initialized := true }

namespace ServoOutput

variable (o : OutputOptions δ)

/-- `transition_limited` (lines 2930–2939). -/
def transitionRequired (motion : OutputMotionSample δ) : Bool :=
  o.recoverOutputAccelerationTransition &&
    (OutputMotionDiagnostics.velocityBoundaryCrossing o motion ||
      OutputMotionDiagnostics.recoverableAccelerationCrossing o motion ||
      (List.finRange 6).any fun j =>
        OutputMotionDiagnostics.beyond o.outputJointJerkLimitRadS3 (motion.jerk j))

/-- The limited point, after `check_final` (lines 2946–2950). -/
def limit (d : OutputMotionDiagnostics δ) (proposed : ResampledServoPoint δ)
    (proposedMotion : OutputMotionSample δ) (commandStart : UInt64) :
    Except (OutputFault δ) (CommittedPoint δ) :=
  match d.transitionLimited o proposed proposedMotion with
  | .error fault => .error fault
  | .ok point => (d.checkFinal o point commandStart).map fun motion => ⟨point, motion, true⟩

/-- The point of a cycle, and the diagnostics after `check_candidate` (lines 2919–2954). -/
def select (s : ServoOutput δ) (servoEvaluationTime commandStart : UInt64) :
    Except (OutputFault δ) (CommittedPoint δ × OutputMotionDiagnostics δ) :=
  match s.resampler.evaluate servoEvaluationTime with
  | .error error => .error (.ofResampler error)
  | .ok proposed =>
    match s.diagnostics.checkCandidate o proposed commandStart with
    | .error fault => .error fault
    | .ok (proposedMotion, diagnostics) =>
      if transitionRequired o proposedMotion then
        (limit o diagnostics proposed proposedMotion commandStart).map (·, diagnostics)
      else .ok (⟨proposed, proposedMotion, false⟩, diagnostics)

/-- The commit of the resampler (lines 3005–3009). -/
def commitPoint (r : JointServoResampler δ) (selected : CommittedPoint δ) :
    JointServoResampler δ × Option (ResamplerError δ) :=
  if selected.transitionLimited then r.commitTransitionLimited selected.point
  else r.commit selected.point

end ServoOutput

namespace ServoRun

variable (o : OutputOptions δ)

/-- The rest of a cycle whose point has been dispatched (lines 3004–3009). -/
def emit (s : ServoRun δ) (selected : CommittedPoint δ)
    (diagnostics : OutputMotionDiagnostics δ) : ServoRun δ :=
  let (resampler, error) := ServoOutput.commitPoint s.output.resampler selected
  { output := ⟨resampler, diagnostics.commit selected.point selected.motion⟩
    committed := selected :: s.committed
    fault := error.map .ofResampler }

/-- An event; nothing happens after a fault. -/
def step (s : ServoRun δ) (event : ServoEvent δ) : ServoRun δ :=
  if s.fault.isSome then s
  else
    match event with
    | .accept destination acceptedNs sequence =>
      let (resampler, error) := s.output.resampler.accept destination acceptedNs sequence
      { s with output.resampler := resampler, fault := error.map .ofResampler }
    | .hold acceptedNs sequence =>
      let (resampler, error) :=
        s.output.resampler.hold s.output.diagnostics.previousPosition acceptedNs sequence
      { s with output.resampler := resampler, fault := error.map .ofResampler }
    | .cycle servoEvaluationTime commandStart dispatched =>
      match s.output.select o servoEvaluationTime commandStart with
      | .error fault => { s with fault := some fault }
      | .ok (selected, diagnostics) =>
        if dispatched then s.emit selected diagnostics
        else { s with output.diagnostics := diagnostics, fault := some .notDispatched }

end ServoRun

/-! ## Time -/

/-- The errors of a servo time before the last one. -/
def movedBackwards : ResamplerError δ → Bool
  | .evaluationBackwards | .commitBackwards | .limitedCommitBackwards => true
  | _ => false

/-- A fault of a servo time before the last one. -/
def OutputFault.movedBackwards : OutputFault δ → Bool
  | .resampler error => ServoWorker.movedBackwards error
  | _ => false

section Time

variable {r : JointServoResampler δ} {o : OutputOptions δ}

omit [Double δ] in
theorem ofResampler_movedBackwards (error : ResamplerError δ) :
    (OutputFault.ofResampler error).movedBackwards = movedBackwards error := by
  cases error <;> rfl

theorem accept_forward (destination : Joints δ) (acceptedNs sequence : UInt64) :
    (r.accept destination acceptedNs sequence).1.lastServoTimeNs = r.lastServoTimeNs ∧
      ∀ error ∈ (r.accept destination acceptedNs sequence).2, movedBackwards error = false := by
  unfold JointServoResampler.accept
  dsimp only
  split_ifs <;> exact ⟨rfl, by simp [movedBackwards]⟩

theorem hold_forward (position : Joints δ) (acceptedNs sequence : UInt64) :
    (r.hold position acceptedNs sequence).1.lastServoTimeNs = r.lastServoTimeNs ∧
      ∀ error ∈ (r.hold position acceptedNs sequence).2, movedBackwards error = false := by
  unfold JointServoResampler.hold
  split_ifs <;> exact ⟨rfl, by simp [movedBackwards]⟩

theorem evaluate_forward {servoTimeNs : UInt64} (hle : r.lastServoTimeNs ≤ servoTimeNs)
    {error : ResamplerError δ} (h : r.evaluate servoTimeNs = .error error) :
    movedBackwards error = false := by
  unfold JointServoResampler.evaluate at h
  split_ifs at h with hready hback
  · cases h
    rfl
  · exact absurd hle (UInt64.not_le.mpr hback)

omit [Double δ] in
theorem commitPoint_forward (selected : CommittedPoint δ)
    (hle : r.lastServoTimeNs ≤ selected.point.servoTimeNs) :
    (ServoOutput.commitPoint r selected).1.lastServoTimeNs = selected.point.servoTimeNs ∧
      ∀ error ∈ (ServoOutput.commitPoint r selected).2, movedBackwards error = false := by
  have hnot : ¬selected.point.servoTimeNs < r.lastServoTimeNs := UInt64.not_lt.mpr hle
  unfold ServoOutput.commitPoint
  split
  · unfold JointServoResampler.commitTransitionLimited
    dsimp only
    split_ifs
    · exact ⟨rfl, by simp [movedBackwards]⟩
    · exact ⟨rfl, by simp⟩
  · unfold JointServoResampler.commit
    split_ifs
    exact ⟨rfl, by simp⟩

open OutputMotionDiagnostics

variable {d : OutputMotionDiagnostics δ} {point proposed : ResampledServoPoint δ}
  {motion : OutputMotionSample δ} {commandNs : UInt64} {fault : OutputFault δ}

theorem measure_forward (h : d.measure point commandNs = .error fault) :
    fault.movedBackwards = false := by
  unfold OutputMotionDiagnostics.measure at h
  dsimp only at h
  split_ifs at h
  all_goals cases h
  all_goals rfl

omit [Double δ] in
theorem requireBoundary_forward {kind : OutputBoundary} {crossed : Fin 6 → Bool}
    {value limit : Joints δ} (h : requireBoundary kind crossed value limit point = some fault) :
    fault.movedBackwards = false := by
  rw [requireBoundary, Option.map_eq_some_iff] at h
  obtain ⟨j, -, rfl⟩ := h
  rfl

theorem checkCandidate_forward (h : d.checkCandidate o proposed commandNs = .error fault) :
    fault.movedBackwards = false := by
  unfold checkCandidate at h
  cases hmeasure : d.measure proposed commandNs with
  | error first =>
    rw [hmeasure] at h
    cases h
    exact measure_forward hmeasure
  | ok sample =>
    rw [hmeasure] at h
    dsimp only at h
    split at h
    · cases h
    split at h
    · rename_i hvelocity
      cases h
      split_ifs at hvelocity
      exact requireBoundary_forward hvelocity
    split at h
    · cases h
    split at h
    · cases h
      rfl
    split at h
    · rename_i hhard
      cases h
      split_ifs at hhard
      exact requireBoundary_forward hhard
    · cases h

theorem checkFinal_forward (h : d.checkFinal o point commandNs = .error fault) :
    fault.movedBackwards = false := by
  unfold checkFinal at h
  cases hmeasure : d.measure point commandNs with
  | error first =>
    rw [hmeasure] at h
    cases h
    exact measure_forward hmeasure
  | ok sample =>
    rw [hmeasure] at h
    dsimp only at h
    split at h
    · rename_i hfault
      cases h
      rcases Option.or_eq_some_iff.mp hfault with hvelocity | ⟨-, hrest⟩
      · exact requireBoundary_forward hvelocity
      · rcases Option.or_eq_some_iff.mp hrest with hhard | ⟨-, hjerk⟩
        · exact requireBoundary_forward hhard
        · exact requireBoundary_forward hjerk
    · cases h

/-- The limiter keeps the servo time, and none of its faults is about it. -/
theorem limit_forward (o : OutputOptions δ) (d : OutputMotionDiagnostics δ)
    (proposed : ResampledServoPoint δ) (motion : OutputMotionSample δ) (commandNs : UInt64) :
    (∀ selected, ServoOutput.limit o d proposed motion commandNs = .ok selected →
      selected.point.servoTimeNs = proposed.servoTimeNs) ∧
    ∀ fault, ServoOutput.limit o d proposed motion commandNs = .error fault →
      fault.movedBackwards = false := by
  unfold ServoOutput.limit
  cases hlimited : d.transitionLimited o proposed motion with
  | error first =>
    refine ⟨nofun, fun fault h => ?_⟩
    cases h
    unfold OutputMotionDiagnostics.transitionLimited transitionLimitedPoint at hlimited
    dsimp only at hlimited
    split_ifs at hlimited
    all_goals cases hlimited
    all_goals rfl
  | ok point =>
    have htime : point.servoTimeNs = proposed.servoTimeNs := by
      unfold OutputMotionDiagnostics.transitionLimited transitionLimitedPoint at hlimited
      dsimp only at hlimited
      split_ifs at hlimited
      all_goals cases hlimited
      rfl
    dsimp only
    cases hfinal : d.checkFinal o point commandNs with
    | error first =>
      refine ⟨nofun, fun fault h => ?_⟩
      cases h
      exact checkFinal_forward hfinal
    | ok motion =>
      refine ⟨fun selected h => ?_, nofun⟩
      cases h
      exact htime

/-- **The selection** is for the time of the evaluation, and throws nothing about it if
    that time is not before the last one. -/
theorem select_forward {s : ServoOutput δ} (servoTimeNs commandNs : UInt64) :
    (∀ selected d, s.select o servoTimeNs commandNs = .ok (selected, d) →
      selected.point.servoTimeNs = servoTimeNs) ∧
    (s.resampler.lastServoTimeNs ≤ servoTimeNs →
      ∀ fault, s.select o servoTimeNs commandNs = .error fault →
        fault.movedBackwards = false) := by
  unfold ServoOutput.select
  cases hevaluate : s.resampler.evaluate servoTimeNs with
  | error error =>
    refine ⟨nofun, fun hle fault h => ?_⟩
    cases h
    rw [ofResampler_movedBackwards]
    exact evaluate_forward hle hevaluate
  | ok proposed =>
    have htime := Resampler.evaluate_servoTime hevaluate
    dsimp only
    cases hcandidate : s.diagnostics.checkCandidate o proposed commandNs with
    | error first =>
      refine ⟨nofun, fun _ fault h => ?_⟩
      cases h
      exact checkCandidate_forward hcandidate
    | ok checked =>
      obtain ⟨motion, checked⟩ := checked
      obtain ⟨hkeeps, hfaults⟩ := limit_forward o checked proposed motion commandNs
      dsimp only
      split_ifs
      · cases hlimit : ServoOutput.limit o checked proposed motion commandNs with
        | error first =>
          refine ⟨nofun, fun _ fault h => ?_⟩
          cases h
          exact hfaults _ hlimit
        | ok limited =>
          refine ⟨fun selected d h => ?_, fun _ _ => nofun⟩
          cases h
          exact (hkeeps _ hlimit).trans htime
      · refine ⟨fun selected d h => ?_, fun _ _ => nofun⟩
        cases h
        exact htime

end Time

end HandLab.ServoWorker
