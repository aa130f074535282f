import HandLab.ServoWorker.OutputMotion

/-!
# The transition limiter and its own checks

In exact arithmetic a point of the transition limiter passes the acceleration and
the jerk check that follow it, whatever was committed before: the limiter gives up
no more than the headroom below the selected acceleration boundary, and over a
millisecond that is far below the jerk boundary.

* `measure_limited`: the finite differences of a limited point are those that the
  limiter selected.
* `step_settled`: what an event keeps.
* `limiter_never_trips`: the run lemma, with the faults that are left.
-/

namespace HandLab.ServoWorker

open HandLab.Lib
open HandLab.Resampler (Joints ResampledServoPoint ResamplerError JointServoResampler
  withinPositionLimits seconds seconds_pos seconds_eq transitionLimitedPoint limitedPosition
  outputJerkWithinHardBoundary outputJerkHardBoundaryWithTolerance outputJerkTransitionTarget)

variable {δ : Type*}

/-! ## Statements -/

/-- A command at least a millisecond after the one committed before it. -/
def Spaced (s : ServoRun δ) (commandStart : UInt64) : Prop :=
  ∀ c ∈ s.committed.head?, c.motion.commandNs.toNat + 1000000 ≤ commandStart.toNat

instance (s : ServoRun δ) (commandStart : UInt64) : Decidable (Spaced s commandStart) :=
  inferInstanceAs (Decidable (∀ c ∈ s.committed.head?, _))

def SpacedEvent (s : ServoRun δ) : ServoEvent δ → Prop
  | .cycle _ commandStart _ => Spaced s commandStart
  | _ => True

instance (s : ServoRun δ) : (event : ServoEvent δ) → Decidable (SpacedEvent s event)
  | .cycle _ commandStart _ => inferInstanceAs (Decidable (Spaced s commandStart))
  | .accept _ _ _ | .hold _ _ => isTrue trivial

section Boundaries

open OutputMotionDiagnostics

variable {o : OutputOptions δ} {d d' : OutputMotionDiagnostics δ}
  {point proposed : ResampledServoPoint δ} {motion : OutputMotionSample δ} {commandNs : UInt64}

theorem requireBoundary_eq_none {kind : OutputBoundary} {crossed : Fin 6 → Bool}
    {value limit : Joints δ} (h : ∀ j, crossed j = false) :
    requireBoundary kind crossed value limit point = none := by
  rw [requireBoundary, Option.map_eq_none_iff, List.find?_eq_none]
  intro j _
  simp [h j]

theorem not_crossed_of_requireBoundary {kind : OutputBoundary} {crossed : Fin 6 → Bool}
    {value limit : Joints δ} (h : requireBoundary kind crossed value limit point = none)
    (j : Fin 6) : crossed j = false := by
  rw [requireBoundary, Option.map_eq_none_iff, List.find?_eq_none] at h
  simpa using h j (List.mem_finRange j)

variable [Double δ]

theorem requireVelocityBoundary_some {fault : OutputFault δ}
    (h : requireVelocityBoundary o point motion = some fault) :
    ∃ j value limit alpha fromSequence toSequence,
      fault = .boundary .velocity j value limit alpha fromSequence toSequence := by
  rw [requireVelocityBoundary, requireBoundary, Option.map_eq_some_iff] at h
  obtain ⟨j, -, rfl⟩ := h
  exact ⟨_, _, _, _, _, _, rfl⟩

theorem recordRecoverableCrossings_eq (d : OutputMotionDiagnostics δ)
    (motion : OutputMotionSample δ) :
    ∃ j, d.recordRecoverableCrossings o motion = { d with firstRecoverableViolatingJoint := j } := by
  unfold recordRecoverableCrossings
  split
  · exact ⟨_, rfl⟩
  · exact ⟨d.firstRecoverableViolatingJoint, rfl⟩

/-- A candidate that passes `check_candidate` has been measured, and if it needs no
    transition it is within the hard boundary too. -/
theorem checkCandidate_ok (hrecovers : o.recoverOutputAccelerationTransition = true)
    (h : d.checkCandidate o proposed commandNs = .ok (motion, d')) :
    d.measure proposed commandNs = .ok motion ∧
      (∃ j, d' = { d with firstRecoverableViolatingJoint := j }) ∧
      (ServoOutput.transitionRequired o motion = false →
        ∀ j, beyond o.maximumOutputJointAccelerationRadS2 (motion.acceleration j) = false) := by
  unfold checkCandidate at h
  cases hmeasure : d.measure proposed commandNs with
  | error fault => rw [hmeasure] at h; cases h
  | ok sample =>
    rw [hmeasure] at h
    simp only [hrecovers, Bool.and_true, Bool.true_or, if_true] at h
    cases hvelocity : velocityBoundaryCrossing o sample with
    | true =>
      rw [hvelocity, if_pos rfl] at h
      cases h
      refine ⟨rfl, ⟨_, rfl⟩, fun hrequired => ?_⟩
      simp [ServoOutput.transitionRequired, hrecovers, hvelocity] at hrequired
    | false =>
      rw [hvelocity, if_neg Bool.false_ne_true, if_neg Bool.false_ne_true] at h
      dsimp only at h
      cases hacceleration : recoverableAccelerationCrossing o sample with
      | true =>
        rw [hacceleration, if_pos rfl] at h
        cases h
        refine ⟨rfl, recordRecoverableCrossings_eq d motion, fun hrequired => ?_⟩
        simp [ServoOutput.transitionRequired, hrecovers, hacceleration] at hrequired
      | false =>
        rw [hacceleration, if_neg Bool.false_ne_true, Bool.false_and,
          if_neg Bool.false_ne_true] at h
        split at h
        · cases h
        · rename_i hhard
          cases h
          exact ⟨rfl, recordRecoverableCrossings_eq d motion,
            fun _ => not_crossed_of_requireBoundary hhard⟩

theorem start_diagnostics {period handoffNs : UInt64} {qHold : Joints δ} {output : ServoOutput δ}
    (h : ServoOutput.start period qHold handoffNs = .ok output) :
    output.diagnostics.initialized = true ∧
      output.diagnostics.previousAcceleration = fun _ => Double.zero := by
  unfold ServoOutput.start OutputMotionDiagnostics.initializeAt at h
  dsimp only at h
  repeat' split at h
  all_goals cases h
  rename_i hinitialize
  split_ifs at hinitialize
  cases hinitialize
  exact ⟨rfl, rfl⟩

end Boundaries

variable [Field δ] [LinearOrder δ] [IsStrictOrderedRing δ] [Double δ] [Exact δ]

/-- The acceleration and jerk limits are between 0.01 and 1000. -/
structure LimitsInRange (o : OutputOptions δ) : Prop where
  diagnostic : 1 / 100 ≤ o.diagnosticJointAccelerationBoundaryRadS2 ∧
    o.diagnosticJointAccelerationBoundaryRadS2 ≤ 1000
  hard : 1 / 100 ≤ o.maximumOutputJointAccelerationRadS2 ∧
    o.maximumOutputJointAccelerationRadS2 ≤ 1000
  jerk : 1 / 100 ≤ o.outputJointJerkLimitRadS3 ∧ o.outputJointJerkLimitRadS3 ≤ 1000

/-- A motion within the smaller acceleration boundary and the jerk boundary, with their
    tolerances. -/
def MotionWithin (o : OutputOptions δ) (motion : OutputMotionSample δ) : Prop :=
  ∀ j, |motion.acceleration j| ≤ min o.diagnosticJointAccelerationBoundaryRadS2
      o.maximumOutputJointAccelerationRadS2 + 10⁻¹ ^ 12 ∧
    outputJerkWithinHardBoundary (motion.jerk j) o.outputJointJerkLimitRadS3 = true

/-! ## The checks -/

section Checks

open OutputMotionDiagnostics

variable {o : OutputOptions δ} {d d' : OutputMotionDiagnostics δ}
  {point proposed : ResampledServoPoint δ} {motion : OutputMotionSample δ} {commandNs : UInt64}

theorem not_beyond_iff {limit value : δ} :
    beyond limit value = false ↔ |value| ≤ limit + 10⁻¹ ^ 12 := by
  have hliteral : ((1e-12 : ℚ) : δ) = 10⁻¹ ^ 12 := by norm_num
  simp [beyond, hliteral]

/-- A motion sample is the finite differences from the last one. -/
theorem measure_ok (hd : d.initialized = true) (h : d.measure point commandNs = .ok motion) :
    motion.commandNs = commandNs ∧ d.previousCommandNs < commandNs ∧
      ∀ j, motion.velocity j =
          (point.position j - d.previousPosition j) / seconds d.previousCommandNs commandNs ∧
        motion.acceleration j =
          (motion.velocity j - d.previousVelocity j) / seconds d.previousCommandNs commandNs ∧
        motion.jerk j = (motion.acceleration j - d.previousAcceleration j) /
          seconds d.previousCommandNs commandNs := by
  unfold OutputMotionDiagnostics.measure at h
  dsimp only at h
  split_ifs at h with hlimits hzero hinitialized horder hfinite
  · simp [hd] at hinitialized
  · obtain rfl := Except.ok.inj h
    refine ⟨rfl, UInt64.not_le.mp horder, fun j => ?_⟩
    simp

/-- Finite differences exist from an earlier command to a later one. -/
theorem measure_later (hd : d.initialized = true) (hlt : d.previousCommandNs < commandNs)
    (hlimits : withinPositionLimits point.position = true) :
    ∃ motion, d.measure point commandNs = .ok motion := by
  have hne : commandNs ≠ 0 := by
    rintro rfl
    exact absurd hlt (UInt64.not_lt.mpr UInt64.zero_le)
  unfold OutputMotionDiagnostics.measure
  dsimp only
  rw [if_neg (by simp [hlimits]), if_neg hne, if_neg (by simp [hd]),
    if_neg (UInt64.not_le.mpr hlt), if_pos (by simp)]
  exact ⟨_, rfl⟩

end Checks

/-! ## The limiter -/

/-- The acceleration boundary of the limiter, with its headroom. -/
def accelerationTarget (o : OutputOptions δ) : δ :=
  OutputMotionDiagnostics.selectedBoundary o -
    max (10⁻¹ ^ 9) (OutputMotionDiagnostics.selectedBoundary o * 10⁻¹ ^ 9)

section Target

variable {o : OutputOptions δ}

theorem selectedBoundary_eq : OutputMotionDiagnostics.selectedBoundary o =
    min o.diagnosticJointAccelerationBoundaryRadS2 o.maximumOutputJointAccelerationRadS2 :=
  Exact.min_eq _ _

/-- The headroom is small, and leaves most of the boundary. -/
theorem accelerationTarget_bounds (ho : LimitsInRange o) :
    0 < accelerationTarget o ∧
      accelerationTarget o ≤ OutputMotionDiagnostics.selectedBoundary o ∧
      OutputMotionDiagnostics.selectedBoundary o + 10⁻¹ ^ 12 ≤
        accelerationTarget o + 10⁻¹ ^ 5 := by
  have hlow : 1 / 100 ≤ OutputMotionDiagnostics.selectedBoundary o := by
    rw [selectedBoundary_eq]
    exact le_min ho.diagnostic.1 ho.hard.1
  have hhigh : OutputMotionDiagnostics.selectedBoundary o ≤ 1000 := by
    rw [selectedBoundary_eq]
    exact (min_le_left _ _).trans ho.diagnostic.2
  unfold accelerationTarget
  generalize OutputMotionDiagnostics.selectedBoundary o = boundary at *
  have hheadroom : max ((10⁻¹ : δ) ^ 9) (boundary * 10⁻¹ ^ 9) ≤ 10⁻¹ ^ 6 := by
    refine max_le (by norm_num) ?_
    calc boundary * 10⁻¹ ^ 9 ≤ 1000 * 10⁻¹ ^ 9 :=
          mul_le_mul_of_nonneg_right hhigh (by positivity)
      _ = 10⁻¹ ^ 6 := by norm_num
  have hpositive : (0 : δ) < max (10⁻¹ ^ 9) (boundary * 10⁻¹ ^ 9) :=
    lt_max_of_lt_left (by positivity)
  have hsix : (10⁻¹ : δ) ^ 6 + 10⁻¹ ^ 12 ≤ 10⁻¹ ^ 5 := by norm_num
  have hsmall : (10⁻¹ : δ) ^ 6 < 1 / 100 := by norm_num
  exact ⟨by linarith, by linarith, by linarith⟩

/-- **The acceleration of the limiter.** From an acceleration not far beyond its boundary
    it selects one within the boundary, near the one before. -/
theorem limitedPosition_eq {target jerk dt : δ} (htarget : 0 ≤ target) (hjerk : 0 ≤ jerk * dt)
    {acceleration beyond : δ} (hacceleration : |acceleration| ≤ target + beyond)
    (proposed position velocity : δ) :
    ∃ selected, |selected| ≤ target ∧ |selected - acceleration| ≤ max (jerk * dt) beyond ∧
      limitedPosition target jerk dt proposed position velocity acceleration =
        position + (velocity + selected * dt) * dt := by
  unfold limitedPosition
  simp only [Exact.sub_eq, Exact.add_eq, Exact.mul_eq, Exact.div_eq, Exact.zero_eq, zero_sub]
  generalize jerk / target * (jerk / target) * (proposed - position) -
    Double.ofRat 2 * (jerk / target) * velocity = desired
  rw [Exact.clamp_eq (neg_le_self htarget),
    Exact.clamp_eq (show acceleration - jerk * dt ≤ acceleration + jerk * dt by linarith)]
  refine ⟨_, abs_saturate_le htarget _, abs_saturate_sub_le htarget ?_ hacceleration, rfl⟩
  rw [abs_le]
  constructor
  · linarith [le_max_left (acceleration - jerk * dt) (min (acceleration + jerk * dt) desired)]
  · have hle : max (acceleration - jerk * dt) (min (acceleration + jerk * dt) desired) ≤
        acceleration + jerk * dt :=
      max_le (by linarith) (min_le_left _ _)
    linarith

end Target

/-! ## The limited point -/

section Limited

open OutputMotionDiagnostics

variable {o : OutputOptions δ} {d : OutputMotionDiagnostics δ}
  {point proposed : ResampledServoPoint δ} {motion proposedMotion : OutputMotionSample δ}
  {commandNs : UInt64}

/-- The last committed acceleration lets the limiter pass its checks at `commandNs`. -/
def Ready (o : OutputOptions δ) (d : OutputMotionDiagnostics δ) (commandNs : UInt64) : Prop :=
  ∃ beyond, beyond ≤ o.outputJointJerkLimitRadS3 * seconds d.previousCommandNs commandNs ∧
    ∀ j, |d.previousAcceleration j| ≤ accelerationTarget o + beyond

theorem transitionTarget_eq {limit : δ} (h : 0 ≤ limit) :
    outputJerkTransitionTarget limit = limit * (995 / 1000) := by
  unfold outputJerkTransitionTarget
  simp only [Exact.mul_eq, Exact.abs_eq, Exact.sub_eq, Exact.ofRat_eq, abs_of_nonneg h]
  norm_num

/-- The position limits are the only fault of the limiter. -/
theorem transitionLimited_cases (ho : LimitsInRange o) (hd : d.initialized = true)
    (proposed : ResampledServoPoint δ) (hlt : d.previousCommandNs < commandNs)
    (hmotion : proposedMotion.commandNs = commandNs) :
    d.transitionLimited o proposed proposedMotion = .error .positionLimits ∨
      ∃ point, d.transitionLimited o proposed proposedMotion = .ok point ∧
        withinPositionLimits point.position = true ∧
        point.servoTimeNs = proposed.servoTimeNs ∧
        ∀ j, point.position j = limitedPosition (accelerationTarget o)
          (outputJerkTransitionTarget o.outputJointJerkLimitRadS3)
          (seconds d.previousCommandNs commandNs) (proposed.position j)
          (d.previousPosition j) (d.previousVelocity j) (d.previousAcceleration j) := by
  have hseconds : (0 : δ) < seconds d.previousCommandNs commandNs := seconds_pos hlt
  have hboundary : 0 < selectedBoundary o :=
    (accelerationTarget_bounds ho).1.trans_le (accelerationTarget_bounds ho).2.1
  have hjerk : 0 < o.outputJointJerkLimitRadS3 := lt_of_lt_of_le (by norm_num) ho.jerk.1
  have hnine : ((1e-9 : ℚ) : δ) = 10⁻¹ ^ 9 := by norm_num
  have htarget : Double.sub (selectedBoundary o) (Double.max (Double.ofRat 1e-9)
      (Double.mul (selectedBoundary o) (Double.ofRat 1e-9))) = accelerationTarget o := by
    rw [Exact.max_eq, Exact.sub_eq, Exact.mul_eq, Exact.ofRat_eq, hnine, accelerationTarget]
  unfold OutputMotionDiagnostics.transitionLimited transitionLimitedPoint
  rw [hmotion, if_neg (by simp [hd]), if_neg (UInt64.not_le.mpr hlt),
    if_neg (by simp [hseconds]), if_neg (by simp [hboundary, hjerk]), htarget]
  dsimp only
  split_ifs with hlimits
  · exact .inr ⟨_, rfl, hlimits, rfl, fun j => rfl⟩
  · exact .inl rfl

/-- **The finite differences of a limited point** are those that the limiter selected. -/
theorem measure_limited (ho : LimitsInRange o) (hd : d.initialized = true)
    (hready : Ready o d commandNs)
    (hpoint : ∀ j, point.position j = limitedPosition (accelerationTarget o)
      (outputJerkTransitionTarget o.outputJointJerkLimitRadS3)
      (seconds d.previousCommandNs commandNs) (proposed.position j)
      (d.previousPosition j) (d.previousVelocity j) (d.previousAcceleration j))
    (h : d.measure point commandNs = .ok motion) (j : Fin 6) :
    |motion.acceleration j| ≤ accelerationTarget o ∧
      |motion.jerk j| ≤ o.outputJointJerkLimitRadS3 := by
  obtain ⟨-, hlt, hsample⟩ := measure_ok hd h
  obtain ⟨hvelocity, hacceleration, hjerk⟩ := hsample j
  obtain ⟨beyond, hbeyond, hprevious⟩ := hready
  have hseconds : (0 : δ) < seconds d.previousCommandNs commandNs := seconds_pos hlt
  generalize (seconds d.previousCommandNs commandNs : δ) = dt at *
  have hlimit : 0 < o.outputJointJerkLimitRadS3 := lt_of_lt_of_le (by norm_num) ho.jerk.1
  have hchange : outputJerkTransitionTarget o.outputJointJerkLimitRadS3 * dt ≤
      o.outputJointJerkLimitRadS3 * dt := by
    rw [transitionTarget_eq hlimit.le]
    exact mul_le_mul_of_nonneg_right (by linarith) hseconds.le
  have hnonneg : 0 ≤ outputJerkTransitionTarget o.outputJointJerkLimitRadS3 * dt := by
    rw [transitionTarget_eq hlimit.le]
    positivity
  obtain ⟨selected, hselected, hnear, hposition⟩ := limitedPosition_eq
    (accelerationTarget_bounds ho).1.le hnonneg (hprevious j) (proposed.position j)
    (d.previousPosition j) (d.previousVelocity j)
  have hv : motion.velocity j = d.previousVelocity j + selected * dt := by
    rw [hvelocity, hpoint j, hposition]
    field_simp
    ring
  have ha : motion.acceleration j = selected := by
    rw [hacceleration, hv]
    field_simp
    ring
  refine ⟨ha ▸ hselected, ?_⟩
  rw [hjerk, ha, abs_div, abs_of_pos hseconds, div_le_iff₀ hseconds]
  exact hnear.trans (max_le hchange hbeyond)

theorem jerkWithin_of_le {jerk limit : δ} (h : |jerk| ≤ limit + 10⁻¹ ^ 12) :
    outputJerkWithinHardBoundary jerk limit = true := by
  unfold outputJerkWithinHardBoundary outputJerkHardBoundaryWithTolerance
  simp only [Exact.isFinite_eq, Bool.true_and, Exact.le_eq, Exact.abs_eq, Exact.add_eq,
    Exact.mul_eq, Exact.ofRat_eq, decide_eq_true_eq]
  have habs := le_abs_self limit
  have hnonneg := abs_nonneg limit
  norm_num at h ⊢
  linarith

theorem motionWithin_of_le (h : ∀ j, |motion.acceleration j| ≤ selectedBoundary o + 10⁻¹ ^ 12 ∧
    |motion.jerk j| ≤ o.outputJointJerkLimitRadS3 + 10⁻¹ ^ 12) : MotionWithin o motion :=
  fun j => ⟨selectedBoundary_eq (o := o) ▸ (h j).1, jerkWithin_of_le (h j).2⟩

/-- **The limited point passes its own checks**, but for the position limits and the
    velocity boundary. -/
theorem limit_cases (ho : LimitsInRange o) (hd : d.initialized = true)
    (hready : Ready o d commandNs) (h : d.measure proposed commandNs = .ok proposedMotion) :
    (∃ point motion, ServoOutput.limit o d proposed proposedMotion commandNs =
        .ok ⟨point, motion, true⟩ ∧ motion.commandNs = commandNs ∧
          point.servoTimeNs = proposed.servoTimeNs ∧ MotionWithin o motion) ∨
      ∃ fault, ServoOutput.limit o d proposed proposedMotion commandNs = .error fault ∧
        (fault = .positionLimits ∨ ∃ j value limit alpha fromSequence toSequence,
          fault = .boundary .velocity j value limit alpha fromSequence toSequence) := by
  obtain ⟨htime, hlt, -⟩ := measure_ok hd h
  unfold ServoOutput.limit
  rcases transitionLimited_cases ho hd proposed hlt htime with
    herror | ⟨point, hpoint, hlimits, hservo, hposition⟩
  · rw [herror]
    exact .inr ⟨_, rfl, .inl rfl⟩
  · rw [hpoint]
    obtain ⟨motion, hmotion⟩ := measure_later hd hlt hlimits
    have hbounds := measure_limited ho hd hready hposition hmotion
    have hboundary := (accelerationTarget_bounds ho).2.1
    have htolerance : (0 : δ) < 10⁻¹ ^ 12 := by positivity
    have hwithin : MotionWithin o motion := by
      refine motionWithin_of_le fun j => ⟨?_, ?_⟩
      · linarith [(hbounds j).1]
      · linarith [(hbounds j).2]
    have hhard : requireHardAccelerationBoundary o point motion = none := by
      refine requireBoundary_eq_none fun j => not_beyond_iff.mpr ?_
      exact (hwithin j).1.trans (add_le_add_left (min_le_right _ _) _)
    have hjerk : requireJerkBoundary o point motion = none :=
      requireBoundary_eq_none fun j => by simp [(hwithin j).2]
    dsimp only
    unfold OutputMotionDiagnostics.checkFinal
    rw [hmotion]
    dsimp only
    rw [hhard, hjerk, Option.or_none, Option.or_none]
    cases hvelocity : requireVelocityBoundary o point motion with
    | some fault => exact .inr ⟨fault, rfl, .inr (requireVelocityBoundary_some hvelocity)⟩
    | none => exact .inl ⟨point, motion, rfl, (measure_ok hd hmotion).1, hservo, hwithin⟩

/-- A candidate that is committed as it is. -/
theorem transitionRequired_false (hrecovers : o.recoverOutputAccelerationTransition = true)
    (h : ServoOutput.transitionRequired o motion = false) (j : Fin 6) :
    |motion.acceleration j| ≤ o.diagnosticJointAccelerationBoundaryRadS2 + 10⁻¹ ^ 12 ∧
      |motion.jerk j| ≤ o.outputJointJerkLimitRadS3 + 10⁻¹ ^ 12 := by
  simp only [ServoOutput.transitionRequired, hrecovers, Bool.true_and, Bool.or_eq_false_iff,
    recoverableAccelerationCrossing, List.any_eq_false, Bool.not_eq_true] at h
  obtain ⟨⟨-, hacceleration⟩, hjerk⟩ := h
  exact ⟨not_beyond_iff.mp (hacceleration j (List.mem_finRange j)),
    not_beyond_iff.mp (hjerk j (List.mem_finRange j))⟩

end Limited

/-! ## The run -/

section Run

variable {o : OutputOptions δ} {s : ServoRun δ}

/-- What holds between the events of a run. -/
structure Settled (o : OutputOptions δ) (s : ServoRun δ) : Prop where
  initialized : s.output.diagnostics.initialized = true
  atRest : s.committed = [] → ∀ j, s.output.diagnostics.previousAcceleration j = 0
  last : ∀ c ∈ s.committed.head?, s.output.diagnostics.previousCommandNs = c.motion.commandNs ∧
    s.output.diagnostics.previousAcceleration = c.motion.acceleration
  within : ∀ c ∈ s.committed, MotionWithin o c.motion

theorem millisecond_le_seconds {m n : UInt64} (h : m.toNat + 1000000 ≤ n.toNat) :
    1 / 1000 ≤ (seconds m n : δ) := by
  have hle : m ≤ n := UInt64.le_iff_toNat_le.mpr (by omega)
  have hcast : (m.toNat : δ) + 1000000 ≤ n.toNat := by exact_mod_cast h
  rw [seconds_eq hle, le_div_iff₀ (by positivity)]
  calc (1 / 1000 : δ) * 10 ^ 9 = 1000000 := by norm_num
    _ ≤ n.toNat - m.toNat := by linarith

theorem Settled.ready (ho : LimitsInRange o) (hs : Settled o s) {commandNs : UInt64}
    (hspaced : Spaced s commandNs) (hlt : s.output.diagnostics.previousCommandNs < commandNs) :
    Ready o s.output.diagnostics commandNs := by
  have hjerk : (0 : δ) < o.outputJointJerkLimitRadS3 := lt_of_lt_of_le (by norm_num) ho.jerk.1
  obtain ⟨htarget, -, hheadroom⟩ := accelerationTarget_bounds ho
  cases hcommitted : s.committed with
  | nil =>
    refine ⟨0, mul_nonneg hjerk.le (seconds_pos hlt).le, fun j => ?_⟩
    rw [hs.atRest hcommitted j, abs_zero, add_zero]
    exact htarget.le
  | cons c past =>
    have hhead : c ∈ s.committed.head? := by rw [hcommitted]; rfl
    obtain ⟨htime, hacceleration⟩ := hs.last c hhead
    have hgap : (1 / 1000 : δ) ≤ seconds s.output.diagnostics.previousCommandNs commandNs := by
      rw [htime]
      exact millisecond_le_seconds (hspaced c hhead)
    refine ⟨10⁻¹ ^ 5, ?_, fun j => ?_⟩
    · calc (10⁻¹ : δ) ^ 5 = 1 / 100 * (1 / 1000) := by norm_num
        _ ≤ _ := mul_le_mul ho.jerk.1 hgap (by norm_num) hjerk.le
    · rw [hacceleration]
      refine le_trans ?_ hheadroom
      rw [selectedBoundary_eq]
      exact (hs.within c (by rw [hcommitted]; exact List.mem_cons_self) j).1

/-- **The point of a cycle** is within its limits. -/
theorem select_within (ho : LimitsInRange o)
    (hrecovers : o.recoverOutputAccelerationTransition = true) (hs : Settled o s)
    {servoTime commandNs : UInt64} (hspaced : Spaced s commandNs)
    {selected : CommittedPoint δ} {d : OutputMotionDiagnostics δ}
    (h : s.output.select o servoTime commandNs = .ok (selected, d)) :
    MotionWithin o selected.motion ∧ selected.motion.commandNs = commandNs ∧
      ∃ j, d = { s.output.diagnostics with firstRecoverableViolatingJoint := j } := by
  unfold ServoOutput.select at h
  cases hevaluate : s.output.resampler.evaluate servoTime with
  | error error => rw [hevaluate] at h; cases h
  | ok proposed =>
    rw [hevaluate] at h
    dsimp only at h
    cases hcandidate : s.output.diagnostics.checkCandidate o proposed commandNs with
    | error fault => rw [hcandidate] at h; cases h
    | ok checked =>
      obtain ⟨motion, checked⟩ := checked
      rw [hcandidate] at h
      dsimp only at h
      obtain ⟨hmeasure, ⟨j, rfl⟩, hhard⟩ := checkCandidate_ok hrecovers hcandidate
      obtain ⟨htime, hlt, -⟩ := measure_ok hs.initialized hmeasure
      cases hrequired : ServoOutput.transitionRequired o motion with
      | false =>
        rw [hrequired, if_neg Bool.false_ne_true] at h
        cases h
        refine ⟨motionWithin_of_le fun i => ⟨?_, ?_⟩, htime, j, rfl⟩
        · rw [selectedBoundary_eq, ← min_add_add_right]
          exact le_min (transitionRequired_false hrecovers hrequired i).1
            (not_beyond_iff.mp (hhard hrequired i))
        · exact (transitionRequired_false hrecovers hrequired i).2
      | true =>
        rw [hrequired, if_pos rfl] at h
        rcases limit_cases (d := { s.output.diagnostics with firstRecoverableViolatingJoint := j })
          ho hs.initialized (hs.ready ho hspaced hlt) hmeasure with
          ⟨point, limited, hok, hlimited, -, hwithin⟩ | ⟨fault, herror, -⟩
        · rw [hok] at h
          cases h
          exact ⟨hwithin, hlimited, j, rfl⟩
        · rw [herror] at h
          cases h

/-- **One event** keeps the invariant. -/
theorem step_settled (ho : LimitsInRange o)
    (hrecovers : o.recoverOutputAccelerationTransition = true) (event : ServoEvent δ)
    (hspaced : SpacedEvent s event) (hs : Settled o s) : Settled o (s.step o event) := by
  unfold ServoRun.step
  split
  · exact hs
  · cases event with
    | accept destination acceptedNs sequence => exact ⟨hs.1, hs.2, hs.3, hs.4⟩
    | hold acceptedNs sequence => exact ⟨hs.1, hs.2, hs.3, hs.4⟩
    | cycle servoTime commandNs dispatched =>
      dsimp only
      cases hselect : s.output.select o servoTime commandNs with
      | error fault => exact ⟨hs.1, hs.2, hs.3, hs.4⟩
      | ok selection =>
        obtain ⟨selected, d⟩ := selection
        obtain ⟨hwithin, htime, j, rfl⟩ := select_within ho hrecovers hs hspaced hselect
        cases dispatched with
        | false => exact ⟨hs.1, hs.2, hs.3, hs.4⟩
        | true =>
          refine ⟨rfl, nofun, ?_, ?_⟩
          · rintro c ⟨rfl⟩
            exact ⟨rfl, rfl⟩
          · intro c hc
            rcases List.mem_cons.mp hc with rfl | hc
            · exact hwithin
            · exact hs.within c hc

theorem start_settled {period handoffNs : UInt64} {qHold : Joints δ} {output : ServoOutput δ}
    (h : ServoOutput.start period qHold handoffNs = .ok output) : Settled o ⟨output, [], none⟩ := by
  obtain ⟨hinitialized, hacceleration⟩ := start_diagnostics h
  refine ⟨hinitialized, fun _ j => ?_, nofun, nofun⟩
  show output.diagnostics.previousAcceleration j = 0
  rw [hacceleration, Exact.zero_eq]

/-- **The transition limiter never trips its own checks.** Whatever the run accepts and
    holds, and at whatever times at least a millisecond apart it commands, every committed
    motion is within the smaller acceleration boundary and the jerk boundary; and a point
    that the limiter selects for any candidate fails only its position limits or the
    velocity boundary. -/
theorem limiter_never_trips (ho : LimitsInRange o)
    (hrecovers : o.recoverOutputAccelerationTransition = true) {period handoffNs : UInt64}
    {qHold : Joints δ} {output : ServoOutput δ}
    (hstart : ServoOutput.start period qHold handoffNs = .ok output) {events : List (ServoEvent δ)}
    (hspaced : Meets (ServoRun.step o) SpacedEvent ⟨output, [], none⟩ events) :
    (∀ c ∈ (run (ServoRun.step o) ⟨output, [], none⟩ events).committed,
      MotionWithin o c.motion) ∧
    ∀ proposed commandStart motion d,
      Spaced (run (ServoRun.step o) ⟨output, [], none⟩ events) commandStart →
      (run (ServoRun.step o) ⟨output, [], none⟩ events).output.diagnostics.checkCandidate o
        proposed commandStart = .ok (motion, d) →
      ∀ fault, ServoOutput.limit o d proposed motion commandStart = .error fault →
        fault = .positionLimits ∨ ∃ j value limit alpha fromSequence toSequence,
          fault = .boundary .velocity j value limit alpha fromSequence toSequence := by
  have hsettled : Settled o (run (ServoRun.step o) ⟨output, [], none⟩ events) :=
    run_invariant_of_meets (fun s event hevent hs => step_settled ho hrecovers event hevent hs)
      (start_settled hstart) hspaced
  refine ⟨hsettled.within, ?_⟩
  intro proposed commandStart motion d hcommand hcandidate fault hfault
  obtain ⟨hmeasure, ⟨j, rfl⟩, -⟩ := checkCandidate_ok hrecovers hcandidate
  obtain ⟨-, hlt, -⟩ := measure_ok hsettled.initialized hmeasure
  rcases limit_cases ho hsettled.initialized (hsettled.ready ho hcommand hlt) hmeasure with
    ⟨point, limited, hok, -⟩ | ⟨other, herror, hother⟩
  · exact absurd (hok.symm.trans hfault) nofun
  · cases herror.symm.trans hfault
    exact hother

end Run

/-! ## A run with a replacement far away -/

def replacementOptions : OutputOptions ℚ :=
  { roundedOptions with recoverOutputAccelerationTransition := true }

def restingOutput : ServoOutput ℚ := .restingAt 1

/-- A target that no cycle may reach at once, commanded at uneven times, and a hold. -/
def replacementEvents : List (ServoEvent ℚ) :=
  [.accept (fun _ => 1 / 10) 5000000 1, .cycle 8000001 8200000 true,
    .cycle 16000001 16100000 true, .hold 17000000 2, .cycle 24000001 25900000 true]

theorem limiter_never_trips_replacement :
    (run (ServoRun.step replacementOptions) ⟨restingOutput, [], none⟩
      replacementEvents).committed.map (·.transitionLimited) = [true, true, true] ∧
    ∀ c ∈ (run (ServoRun.step replacementOptions) ⟨restingOutput, [], none⟩
      replacementEvents).committed, MotionWithin replacementOptions c.motion := by
  have hlimits : LimitsInRange replacementOptions := by
    constructor <;> exact ⟨by decide +kernel, by decide +kernel⟩
  have hstart : ServoOutput.start 8000000 (fun _ => (0 : ℚ)) 1 = .ok restingOutput := by
    decide +kernel
  have hspaced : Meets (ServoRun.step replacementOptions) SpacedEvent ⟨restingOutput, [], none⟩
      replacementEvents := by
    decide +kernel
  exact ⟨by decide +kernel, (limiter_never_trips hlimits rfl hstart hspaced).1⟩

end HandLab.ServoWorker
