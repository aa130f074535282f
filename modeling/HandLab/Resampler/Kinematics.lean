import HandLab.Lib.History
import HandLab.Lib.Run
import HandLab.Resampler.CApi

/-!
# The kinematic contract

The points that successful evaluations emit on one handle, in exact arithmetic.

* `Contract`: consecutive points respect the velocity limits, their finite
  differences at distinct times the acceleration and the jerk limit, and an
  evaluation that repeats the time changes nothing.
* `Undisturbed`: the call does not overwrite the memory that the next point is
  checked against.
* `points_within`: a run of such calls meets the contract.
-/

namespace HandLab.Resampler

open HandLab.Lib Double

/-! ## Emitted points -/

/-- The limits of the last `jaka_resampler_configure_transition` that succeeded. -/
structure Limits (δ : Type*) where
  maximumVelocity : Joints δ
  recoverableAcceleration : δ
  hardAcceleration : δ
  maximumJerk : δ

/-- The velocity and the acceleration that the next point is checked against. -/
structure Memory (δ : Type*) where
  velocity : Joints δ
  acceleration : Joints δ
  deriving DecidableEq

/-- A point that an evaluation emitted, with the limits in force and the memory
    before and after. -/
structure Emission (δ : Type*) where
  timeNs : UInt64
  position : Joints δ
  limits : Limits δ
  before : Memory δ
  after : Memory δ

/-- A handle, the limits in force, and the emitted points, newest first. -/
structure Session (δ : Type*) where
  handle : ResamplerHandle δ
  limits : Limits δ
  emitted : List (Emission δ)

variable {δ : Type*}

def ResamplerHandle.memory (h : ResamplerHandle δ) : Memory δ :=
  ⟨h.previousVelocity, h.previousAcceleration⟩

section

variable [Double δ]

/-- A new handle. -/
def Session.create (servoPeriodNs : UInt64) : Session δ where
  handle := .ofResampler (.ofPeriod servoPeriodNs)
  limits := ⟨fun _ => zero, zero, zero, zero⟩
  emitted := []

/-- The limits in force after a call. -/
def limitsAfter (limits : Limits δ) : Call δ → Result δ → Limits δ
  | .configureTransition (some velocity) recoverable hard jerk, .ok _ =>
    ⟨velocity, recoverable, hard, jerk⟩
  | _, _ => limits

/-- The points after a call. -/
def emittedAfter (s : Session δ) (h : ResamplerHandle δ) : Call δ → Result δ → List (Emission δ)
  | .evaluateSelected servoTimeNs _, .ok (some point) =>
    ⟨servoTimeNs, point.servo.position, s.limits, s.handle.memory, h.memory⟩ :: s.emitted
  | _, _ => s.emitted

def Session.call (s : Session δ) (c : Call δ) : Session δ :=
  let (handle, result) := step s.handle c
  { handle
    limits := limitsAfter s.limits c result
    emitted := emittedAfter s handle c result }

/-- The memory that the next point is checked against survives the call. -/
def Undisturbed (s : Session δ) : Call δ → Prop
  | .initializeAt (some position) servoTimeNs =>
    s.emitted = [] ∨ s.handle.previousCommandNs = servoTimeNs ∧
      s.handle.previousPosition = position ∧
      s.handle.memory = ⟨fun _ => zero, fun _ => zero⟩
  | .configureTransition (some velocity) recoverable hard jerk =>
    ResamplerHandle.validLimits velocity recoverable hard jerk = true ∨
      s.handle.transitionConfigured = false ∨ s.handle.maximumVelocity = velocity
  | .evaluateSelected servoTimeNs true =>
    s.emitted = [] ∨ s.handle.previousCommandNs ≠ servoTimeNs ∨
      s.handle.memory = ⟨fun _ => zero, fun _ => zero⟩ ∧
        s.handle.resampler.emitted = s.handle.previousPosition
  | _ => True

end

/-! ## The contract -/

section

variable [Field δ] [LinearOrder δ] [IsStrictOrderedRing δ]

/-- The points without those that repeat the time of the point before. -/
def atDistinctTimes : List (Emission δ) → List (Emission δ)
  | e :: d :: past =>
    if e.timeNs = d.timeNs then atDistinctTimes (d :: past) else e :: atDistinctTimes (d :: past)
  | points => points

/-- Seconds from the point `d` to the point `e`. -/
def elapsed (d e : Emission δ) : δ := ((e.timeNs.toNat : δ) - d.timeNs.toNat) / 10 ^ 9

/-- The mean velocity from `d` to `e`. -/
def meanVelocity (d e : Emission δ) (j : Fin 6) : δ := (e.position j - d.position j) / elapsed d e

/-- The finite-difference acceleration of three points. -/
def meanAcceleration (c d e : Emission δ) (j : Fin 6) : δ :=
  (meanVelocity d e j - meanVelocity c d j) / elapsed d e

/-- The finite-difference jerk of four points. -/
def meanJerk (b c d e : Emission δ) (j : Fin 6) : δ :=
  (meanAcceleration c d e j - meanAcceleration b c d j) / elapsed d e

/-- `e` is as near to the point before as the velocity limits in force allow. -/
def VelocityWithin (e : Emission δ) (past : List (Emission δ)) : Prop :=
  ∀ d ∈ past.head?, ∀ j,
    |e.position j - d.position j| ≤
      e.limits.maximumVelocity j * elapsed d e + 10⁻¹ ^ 12 * elapsed d e

/-- The acceleration to `e` is within the hard limit. -/
def AccelerationWithin (e : Emission δ) : List (Emission δ) → Prop
  | d :: c :: _ => ∀ j, |meanAcceleration c d e j| ≤ e.limits.hardAcceleration + 10⁻¹ ^ 12
  | _ => True

/-- The jerk to `e` is within the limit with its tolerance. -/
def JerkWithin (e : Emission δ) : List (Emission δ) → Prop
  | d :: c :: b :: _ => ∀ j, |meanJerk b c d e j| ≤
      |e.limits.maximumJerk| + (10⁻¹ ^ 6 + 25 * 10⁻¹ ^ 8 * |e.limits.maximumJerk|)
  | _ => True

/-- A point at the time of the one before is the same point, and leaves the memory alone. -/
def Repeats (e : Emission δ) (past : List (Emission δ)) : Prop :=
  ∀ d ∈ past.head?, e.timeNs = d.timeNs → e.position = d.position ∧ e.after = e.before

/-- The kinematic contract of the emitted points. -/
structure Contract (points : List (Emission δ)) : Prop where
  ordered : Whenever (fun e past => ∀ d ∈ past.head?, d.timeNs ≤ e.timeNs) points
  velocity : Whenever VelocityWithin points
  acceleration : Whenever AccelerationWithin (atDistinctTimes points)
  jerk : Whenever JerkWithin (atDistinctTimes points)
  repeats : Whenever Repeats points

end

/-! ## The resampler stays where it is -/

section

variable [Double δ]

/-- On its segment the resampler is at the emitted position. -/
def JointServoResampler.Aligned (r : JointServoResampler δ) : Prop :=
  r.active = true → r.segmentStartNs < r.segmentEndNs → r.positionAt r.lastServoTimeNs = r.emitted

variable {r : JointServoResampler δ} {t : UInt64} {point : ResampledServoPoint δ}
  {selection : ResamplerHandle.Selection δ} {h : ResamplerHandle δ}

theorem evaluate_position
    (h : r.evaluate t = .ok point) : r.lastServoTimeNs ≤ t ∧
      point.position =
        if r.active = true ∧ r.segmentStartNs < r.segmentEndNs then r.positionAt t
        else r.emitted := by
  obtain ⟨hle, -, hposition⟩ := evaluate_ok h
  refine ⟨hle, ?_⟩
  split_ifs at hposition ⊢
  · exact hposition.1
  · exact hposition.1

theorem commit_aligned
    (h : r.evaluate t = .ok point) (hr : r.Aligned) : (r.commit point).1.Aligned := by
  obtain ⟨hle, hposition⟩ := evaluate_position h
  have htime := evaluate_servoTime h
  unfold JointServoResampler.commit
  split_ifs
  · exact hr
  · intro hactive hlt
    have hactive' : r.active = true := by
      simp only [JointServoResampler.commitEmitted, Bool.and_eq_true] at hactive
      exact hactive.1
    rw [if_pos ⟨hactive', hlt⟩] at hposition
    show r.positionAt point.servoTimeNs = point.position
    rw [htime, hposition]

theorem hold_last (r : JointServoResampler δ) (position : Joints δ) (n q : UInt64) :
    (r.hold position n q).1.lastServoTimeNs = r.lastServoTimeNs := by
  unfold JointServoResampler.hold
  split_ifs <;> rfl

theorem accept_last (r : JointServoResampler δ) (destination : Joints δ) (n q : UInt64) :
    (r.accept destination n q).1.lastServoTimeNs = r.lastServoTimeNs := by
  unfold JointServoResampler.accept
  dsimp only
  split_ifs <;> rfl

/-- A commit ends at the time of its point, or leaves the resampler alone. -/
theorem commitSelected_last
    (hselect : h.select t = .ok selection) :
    h.resampler.lastServoTimeNs ≤ t ∧ (h.commitSelected selection t).1.lastServoTimeNs = t := by
  obtain ⟨proposed, motion, hproposed, -⟩ := select_ok hselect
  have hle := (evaluate_position hproposed).1
  have htime := select_servoTime hselect
  refine ⟨hle, ?_⟩
  have hback : ¬selection.selected.servoTimeNs < h.resampler.lastServoTimeNs := by
    rw [htime]
    exact UInt64.not_lt.mpr hle
  unfold ResamplerHandle.commitSelected JointServoResampler.commitTransitionLimited
    JointServoResampler.commit
  dsimp only
  rw [if_neg hback, if_neg hback]
  split_ifs <;> exact htime

variable [Field δ] [LinearOrder δ] [IsStrictOrderedRing δ] [Exact δ]

theorem positionAt_segmentStart (r : JointServoResampler δ) :
    r.positionAt r.segmentStartNs = r.start := by
  have hzero : r.alphaAt r.segmentStartNs = 0 := by
    simp [JointServoResampler.alphaAt, ofUnsigned, clamp]
  funext j
  simp [JointServoResampler.positionAt, hzero]

theorem aligned_of_start (hstart : r.start = r.emitted)
    (htime : r.segmentStartNs = r.lastServoTimeNs) : r.Aligned := by
  intro _ _
  rw [← htime, positionAt_segmentStart, hstart]

theorem initializeAt_aligned (hr : r.Aligned) (measured : Joints δ)
    (t : UInt64) : (r.initializeAt measured t).1.Aligned := by
  unfold JointServoResampler.initializeAt
  split_ifs
  · exact hr
  · exact hr
  · exact aligned_of_start rfl rfl

theorem hold_aligned (hr : r.Aligned) (position : Joints δ)
    (n q : UInt64) : (r.hold position n q).1.Aligned := by
  unfold JointServoResampler.hold
  split_ifs
  · exact hr
  · exact hr
  · exact hr
  · exact aligned_of_start rfl rfl

theorem accept_aligned (hr : r.Aligned) (destination : Joints δ)
    (n q : UInt64) : (r.accept destination n q).1.Aligned := by
  unfold JointServoResampler.accept
  dsimp only
  split_ifs
  · exact hr
  · exact hr
  · exact hr
  · exact aligned_of_start rfl rfl
  · exact hr
  · exact hr
  · exact aligned_of_start rfl rfl
  · exact aligned_of_start rfl rfl
  · exact aligned_of_start rfl rfl

theorem commitTransitionLimited_aligned (hr : r.Aligned)
    (point : ResampledServoPoint δ) : (r.commitTransitionLimited point).1.Aligned := by
  unfold JointServoResampler.commitTransitionLimited
  dsimp only
  split_ifs
  · exact hr
  · exact aligned_of_start rfl rfl
  · exact aligned_of_start rfl rfl

theorem commitSelected_aligned
    (hselect : h.select t = .ok selection)
    (hr : h.resampler.Aligned) : (h.commitSelected selection t).1.Aligned := by
  obtain ⟨proposed, motion, hproposed, -, -, hpoint, -⟩ := select_ok hselect
  unfold ResamplerHandle.commitSelected
  split_ifs with hlimited
  · exact commitTransitionLimited_aligned hr _
  · rw [ResamplerHandle.selectPoint, if_neg hlimited] at hpoint
    obtain rfl := Except.ok.inj hpoint
    exact commit_aligned hproposed hr

/-! ## The checks -/

theorem measure_later (hlt : h.previousCommandNs < t)
    {motion : MotionSample δ}
    (hm : measure h point t = .ok motion) (j : Fin 6) :
    motion.velocity j =
        (point.position j - h.previousPosition j) / seconds h.previousCommandNs t ∧
      motion.acceleration j =
        (motion.velocity j - h.previousVelocity j) / seconds h.previousCommandNs t ∧
      motion.jerk j =
        (motion.acceleration j - h.previousAcceleration j) / seconds h.previousCommandNs t := by
  rw [measure, if_neg (UInt64.ne_of_lt hlt).symm, if_neg (UInt64.not_lt.mpr (UInt64.le_of_lt hlt))]
    at hm
  obtain rfl := Except.ok.inj hm
  simp

theorem boundaries_within {sample : MotionSample δ}
    (hs : requireFinalBoundaries h sample = none) (j : Fin 6) :
    |sample.velocity j| ≤ h.maximumVelocity j + 10⁻¹ ^ 12 ∧
      |sample.acceleration j| ≤ h.hardAcceleration + 10⁻¹ ^ 12 ∧
      |sample.jerk j| ≤
        |h.maximumJerk| + (10⁻¹ ^ 6 + 25 * 10⁻¹ ^ 8 * |h.maximumJerk|) := by
  rw [requireFinalBoundaries, List.findSome?_eq_none_iff] at hs
  have hj := hs j (List.mem_finRange j)
  unfold boundaryError? outputJerkWithinHardBoundary outputJerkHardBoundaryWithTolerance at hj
  simp only [Exact.lt_eq, Exact.add_eq, Exact.mul_eq, Exact.ofRat_eq, Exact.abs_eq, Exact.le_eq,
    Exact.isFinite_eq, Bool.true_and, decide_eq_true_eq] at hj
  split_ifs at hj with hvelocity hacceleration hjerk
  refine ⟨?_, ?_, ?_⟩
  · refine (not_lt.mp hvelocity).trans (le_of_eq ?_)
    norm_num
  · refine (not_lt.mp hacceleration).trans (le_of_eq ?_)
    norm_num
  · have hle := by simpa using hjerk
    refine hle.trans (le_of_eq ?_)
    norm_num

/-! ## The memory -/

variable {past : List (Emission δ)}

omit [LinearOrder δ] [IsStrictOrderedRing δ] [Double δ] [Exact δ] [Field δ] in
/-- The newest of the points at distinct times is where the newest point is. -/
theorem atDistinctTimes_head {d : Emission δ}
    (h : Whenever Repeats (d :: past)) :
    ∃ d' rest, atDistinctTimes (d :: past) = d' :: rest ∧ d'.timeNs = d.timeNs ∧
      d'.position = d.position := by
  induction past generalizing d with
  | nil => exact ⟨d, [], rfl, rfl, rfl⟩
  | cons c past ih =>
    obtain ⟨hd, hpast⟩ := whenever_cons.mp h
    by_cases htime : d.timeNs = c.timeNs
    · obtain ⟨c', rest, heq, hctime, hcposition⟩ := ih hpast
      refine ⟨c', rest, ?_, hctime.trans htime.symm,
        hcposition.trans (hd c rfl htime).1.symm⟩
      rw [atDistinctTimes, if_pos htime, heq]
    · exact ⟨d, _, by rw [atDistinctTimes, if_neg htime], rfl, rfl⟩

/-- A memory holds the finite differences at the newest of the points. -/
structure Remembered (memory : Memory δ) (points : List (Emission δ)) : Prop where
  velocity : ∀ e d past, points = e :: d :: past → memory.velocity = meanVelocity d e
  acceleration : ∀ e d c past, points = e :: d :: c :: past →
    memory.acceleration = meanAcceleration c d e

/-- The handle is coherent with the emitted points. -/
structure Coherent (s : Session δ) : Prop where
  velocity : s.handle.transitionConfigured = true →
    s.handle.maximumVelocity = s.limits.maximumVelocity
  hard : s.handle.hardAcceleration = s.limits.hardAcceleration
  jerk : s.handle.maximumJerk = s.limits.maximumJerk
  aligned : s.handle.resampler.Aligned
  point : ∀ d ∈ s.emitted.head?, s.handle.previousCommandNs = d.timeNs ∧
    s.handle.previousPosition = d.position ∧ d.timeNs ≤ s.handle.resampler.lastServoTimeNs
  remembered : Remembered s.handle.memory (atDistinctTimes s.emitted)
  contract : Contract s.emitted

theorem elapsed_eq {d e : Emission δ} (h : d.timeNs ≤ e.timeNs) :
    elapsed d e = seconds d.timeNs e.timeNs :=
  (seconds_eq h).symm

omit [IsStrictOrderedRing δ] [Double δ] [Exact δ] in
/-- The first point. -/
theorem contract_single (e : Emission δ) :
    Contract [e] ∧ Remembered e.after (atDistinctTimes [e]) := by
  refine ⟨⟨?_, ?_, ?_, ?_, ?_⟩, ⟨?_, ?_⟩⟩
  · exact whenever_cons.mpr ⟨by simp, whenever_nil⟩
  · exact whenever_cons.mpr ⟨by simp [VelocityWithin], whenever_nil⟩
  · exact whenever_cons.mpr ⟨trivial, whenever_nil⟩
  · exact whenever_cons.mpr ⟨trivial, whenever_nil⟩
  · exact whenever_cons.mpr ⟨by simp [Repeats], whenever_nil⟩
  · intro e d past h
    simp [atDistinctTimes] at h
  · intro e d c past h
    simp [atDistinctTimes] at h

omit [Double δ] [Exact δ] in
/-- A point at the time of the last one. -/
theorem Contract.repeated {d e : Emission δ}
    (hc : Contract (d :: past)) (htime : e.timeNs = d.timeNs)
    (hposition : e.position = d.position) (hmemory : e.after = e.before) :
    Contract (e :: d :: past) ∧ atDistinctTimes (e :: d :: past) = atDistinctTimes (d :: past) := by
  have hdistinct : atDistinctTimes (e :: d :: past) = atDistinctTimes (d :: past) := by
    rw [atDistinctTimes, if_pos htime]
  refine ⟨⟨?_, ?_, ?_, ?_, ?_⟩, hdistinct⟩
  · refine whenever_cons.mpr ⟨?_, hc.ordered⟩
    rintro c ⟨rfl⟩
    exact htime ▸ UInt64.le_refl _
  · refine whenever_cons.mpr ⟨?_, hc.velocity⟩
    rintro c ⟨rfl⟩ j
    have helapsed : elapsed d e = 0 := by
      rw [elapsed, htime, sub_self, zero_div]
    rw [hposition, helapsed]
    simp
  · exact hdistinct ▸ hc.acceleration
  · exact hdistinct ▸ hc.jerk
  · refine whenever_cons.mpr ⟨?_, hc.repeats⟩
    rintro c ⟨rfl⟩ _
    exact ⟨hposition, hmemory⟩

/-- A later point whose sample, taken from the memory, is within the limits. -/
theorem Contract.later {d e : Emission δ} (hc : Contract (d :: past))
    (hr : Remembered e.before (atDistinctTimes (d :: past))) (htime : d.timeNs < e.timeNs)
    {motion : MotionSample δ} (hafter : e.after = ⟨motion.velocity, motion.acceleration⟩)
    (hmotion : ∀ j, motion.velocity j = (e.position j - d.position j) / elapsed d e ∧
      motion.acceleration j = (motion.velocity j - e.before.velocity j) / elapsed d e ∧
      motion.jerk j = (motion.acceleration j - e.before.acceleration j) / elapsed d e)
    (hwithin : ∀ j, |motion.velocity j| ≤ e.limits.maximumVelocity j + 10⁻¹ ^ 12 ∧
      |motion.acceleration j| ≤ e.limits.hardAcceleration + 10⁻¹ ^ 12 ∧
      |motion.jerk j| ≤
        |e.limits.maximumJerk| + (10⁻¹ ^ 6 + 25 * 10⁻¹ ^ 8 * |e.limits.maximumJerk|)) :
    Contract (e :: d :: past) ∧ Remembered e.after (atDistinctTimes (e :: d :: past)) := by
  have hne : e.timeNs ≠ d.timeNs := (UInt64.ne_of_lt htime).symm
  have hpos : 0 < elapsed d e := by
    rw [elapsed_eq (UInt64.le_of_lt htime)]
    exact seconds_pos htime
  obtain ⟨d', rest, hdistinct, hdtime, hdposition⟩ := atDistinctTimes_head hc.repeats
  have helapsed : elapsed d' e = elapsed d e := by rw [elapsed, elapsed, hdtime]
  have hnew : atDistinctTimes (e :: d :: past) = e :: d' :: rest := by
    rw [atDistinctTimes, if_neg hne, hdistinct]
  have hvelocity : motion.velocity = meanVelocity d' e := by
    funext j
    rw [(hmotion j).1, meanVelocity, helapsed, hdposition]
  have hacceleration {c : Emission δ} {older : List (Emission δ)} (hrest : rest = c :: older) :
      motion.acceleration = meanAcceleration c d' e := by
    funext j
    rw [(hmotion j).2.1, hvelocity, hr.velocity d' c older (hrest ▸ hdistinct), meanAcceleration,
      helapsed]
  have hjerk {c b : Emission δ} {older : List (Emission δ)} (hrest : rest = c :: b :: older) :
      motion.jerk = meanJerk b c d' e := by
    funext j
    rw [(hmotion j).2.2, hacceleration hrest,
      hr.acceleration d' c b older (hrest ▸ hdistinct), meanJerk, helapsed]
  refine ⟨⟨?_, ?_, ?_, ?_, ?_⟩, ⟨?_, ?_⟩⟩
  · refine whenever_cons.mpr ⟨?_, hc.ordered⟩
    rintro c ⟨rfl⟩
    exact UInt64.le_of_lt htime
  · refine whenever_cons.mpr ⟨?_, hc.velocity⟩
    rintro c ⟨rfl⟩ j
    have hle := (hwithin j).1
    rw [(hmotion j).1, abs_div, abs_of_pos hpos, div_le_iff₀ hpos] at hle
    linarith
  · rw [hnew]
    refine whenever_cons.mpr ⟨?_, hdistinct ▸ hc.acceleration⟩
    cases hrest : rest with
    | nil => trivial
    | cons c older =>
      intro j
      rw [← hacceleration hrest]
      exact (hwithin j).2.1
  · rw [hnew]
    refine whenever_cons.mpr ⟨?_, hdistinct ▸ hc.jerk⟩
    match hrest : rest with
    | [] => trivial
    | [c] => trivial
    | c :: b :: older =>
      intro j
      rw [← hjerk rfl]
      exact (hwithin j).2.2
  · refine whenever_cons.mpr ⟨?_, hc.repeats⟩
    rintro c ⟨rfl⟩ heq
    exact absurd heq hne
  · intro e₁ d₁ past₁ heq
    rw [hnew] at heq
    obtain ⟨rfl, rfl, -⟩ := by simpa only [List.cons.injEq] using heq
    rw [hafter, hvelocity]
  · intro e₁ d₁ c₁ past₁ heq
    rw [hnew] at heq
    obtain ⟨rfl, rfl, hrest⟩ := by simpa only [List.cons.injEq] using heq
    rw [hafter, hacceleration hrest]

/-! ## Runs -/

omit [IsStrictOrderedRing δ] [Exact δ] in
theorem coherent_create (servoPeriodNs : UInt64) :
    Coherent (Session.create servoPeriodNs : Session δ) where
  velocity h := absurd h nofun
  hard := rfl
  jerk := rfl
  aligned := fun h => absurd h nofun
  point _ h := absurd h nofun
  remembered := ⟨fun _ _ _ h => absurd h nofun, fun _ _ _ _ h => absurd h nofun⟩
  contract := ⟨whenever_nil, whenever_nil, whenever_nil, whenever_nil, whenever_nil⟩

variable {s : Session δ}

omit [IsStrictOrderedRing δ] [Exact δ] in
/-- A call that emits nothing and changes the resampler only. -/
theorem Coherent.withResampler (hs : Coherent s)
    (hr : r.Aligned) (hlast : s.handle.resampler.lastServoTimeNs ≤ r.lastServoTimeNs) :
    Coherent { s with handle := { s.handle with resampler := r } } where
  velocity := hs.velocity
  hard := hs.hard
  jerk := hs.jerk
  aligned := hr
  point d hd := by
    obtain ⟨htime, hposition, hle⟩ := hs.point d hd
    exact ⟨htime, hposition, UInt64.le_trans hle hlast⟩
  remembered := hs.remembered
  contract := hs.contract

theorem Coherent.initializeAt (hs : Coherent s) {position : Joints δ}
    (hc : Undisturbed s (.initializeAt (some position) t)) :
    Coherent { s with handle := (s.handle.initializeAt position t).1 } where
  velocity := hs.velocity
  hard := hs.hard
  jerk := hs.jerk
  aligned := initializeAt_aligned hs.aligned position t
  point d hd := by
    rcases hc with hnone | ⟨htime, hposition, -⟩
    · rw [hnone] at hd
      exact absurd hd nofun
    · obtain ⟨hdtime, hdposition, hle⟩ := hs.point d hd
      refine ⟨htime ▸ hdtime, hposition ▸ hdposition, ?_⟩
      show d.timeNs ≤ (s.handle.resampler.initializeAt position t).1.lastServoTimeNs
      unfold JointServoResampler.initializeAt
      split_ifs
      · exact hle
      · exact hle
      · exact (htime ▸ hdtime : t = d.timeNs) ▸ UInt64.le_refl _
  remembered := by
    rcases hc with hnone | ⟨-, -, hmemory⟩
    · rw [hnone]
      exact ⟨fun _ _ _ h => absurd h nofun, fun _ _ _ _ h => absurd h nofun⟩
    · have hkept : (s.handle.initializeAt position t).1.memory = s.handle.memory := hmemory.symm
      rw [hkept]
      exact hs.remembered
  contract := hs.contract

/-- The session after a selection that is committed. -/
def Session.emit (s : Session δ) (t : UInt64) (selection : ResamplerHandle.Selection δ)
    (r : JointServoResampler δ) : Session δ where
  handle := { s.handle with
    resampler := r
    previousPosition := selection.selected.position
    previousVelocity := selection.motion.velocity
    previousAcceleration := selection.motion.acceleration
    previousCommandNs := t
    previousTransitionLimited := selection.limited }
  limits := s.limits
  emitted := ⟨t, selection.selected.position, s.limits, s.handle.memory,
    ⟨selection.motion.velocity, selection.motion.acceleration⟩⟩ :: s.emitted

/-- At the time of the last point an undisturbed evaluation selects that point again. -/
theorem select_repeated (hs : Coherent s)
    (hselect : s.handle.select t = .ok selection)
    {d : Emission δ} (hd : d ∈ s.emitted.head?) (htime : s.handle.previousCommandNs = t)
    (hheld : s.handle.resampler.emitted = s.handle.previousPosition) :
    selection.selected.position = d.position ∧
      selection.motion = ⟨fun _ => 0, fun _ => 0, fun _ => 0⟩ := by
  obtain ⟨proposed, motion, hproposed, -, -, hpoint, hmotion, -⟩ := select_ok hselect
  obtain ⟨hcommand, hposition, hlast⟩ := hs.point d hd
  obtain ⟨hle, hinterpolated⟩ := evaluate_position hproposed
  have hnow : s.handle.resampler.lastServoTimeNs = t :=
    UInt64.le_antisymm hle (htime ▸ hcommand ▸ hlast)
  rw [ResamplerHandle.selectPoint, htime, if_neg (fun h => UInt64.lt_irrefl t h.2)] at hpoint
  have hselected : proposed = selection.selected := Except.ok.inj hpoint
  have hemitted : proposed.position = s.handle.resampler.emitted := by
    rw [hinterpolated]
    split_ifs with hactive
    · rw [← hnow]
      exact hs.aligned hactive.1 hactive.2
    · rfl
  refine ⟨by rw [← hselected, hemitted, hheld, hposition], ?_⟩
  rw [measure, if_pos htime.symm] at hmotion
  rw [← Except.ok.inj hmotion]
  simp

theorem Coherent.emit (hs : Coherent s)
    (hc : Undisturbed s (.evaluateSelected t true))
    (hconfigured : s.handle.transitionConfigured = true)
    (hselect : s.handle.select t = .ok selection)
    (hcommit : s.handle.commitSelected selection t = (r, none)) :
    Coherent (s.emit t selection r) := by
  have haligned : r.Aligned := by
    have h := commitSelected_aligned hselect hs.aligned
    rwa [hcommit] at h
  obtain ⟨hle, hlast⟩ := commitSelected_last hselect
  rw [hcommit] at hlast
  obtain ⟨proposed, motion, hproposed, -, -, hpoint, hmotion, hfinal⟩ := select_ok hselect
  have hpoints : Contract (s.emit t selection r).emitted ∧
      Remembered (s.emit t selection r).handle.memory
        (atDistinctTimes (s.emit t selection r).emitted) := by
    cases hemitted : s.emitted with
    | nil =>
      have h := contract_single (⟨t, selection.selected.position, s.limits, s.handle.memory,
        ⟨selection.motion.velocity, selection.motion.acceleration⟩⟩ : Emission δ)
      rw [Session.emit, hemitted]
      exact h
    | cons d past =>
      have hd : d ∈ s.emitted.head? := by rw [hemitted]; rfl
      obtain ⟨hcommand, hposition, hbefore⟩ := hs.point d hd
      have hcontract : Contract (d :: past) := hemitted ▸ hs.contract
      have hremembered : Remembered s.handle.memory (atDistinctTimes (d :: past)) :=
        hemitted ▸ hs.remembered
      rw [Session.emit, hemitted]
      by_cases htime : s.handle.previousCommandNs = t
      · -- the time of the last point again
        obtain hnone | hne | ⟨hmemory, hheld⟩ := hc
        · rw [hemitted] at hnone
          exact absurd hnone nofun
        · exact absurd htime hne
        obtain ⟨hsame, hzero⟩ := select_repeated hs hselect hd htime hheld
        have hafter : (⟨selection.motion.velocity, selection.motion.acceleration⟩ : Memory δ) =
            s.handle.memory := by
          rw [hzero, hmemory]
          simp
        have h := hcontract.repeated (e := ⟨t, selection.selected.position, s.limits,
          s.handle.memory, ⟨selection.motion.velocity, selection.motion.acceleration⟩⟩)
          (htime ▸ hcommand) hsame hafter
        refine ⟨h.1, ?_⟩
        rw [h.2]
        show Remembered (⟨selection.motion.velocity, selection.motion.acceleration⟩ : Memory δ) _
        rw [hafter]
        exact hremembered
      · -- a later time
        have hlt : d.timeNs < t := by
          refine UInt64.lt_of_le_of_ne (UInt64.le_trans hbefore hle) ?_
          rwa [← hcommand]
        have hsample := measure_later (hcommand ▸ hlt) hmotion
        refine hcontract.later (e := ⟨t, selection.selected.position, s.limits,
          s.handle.memory, ⟨selection.motion.velocity, selection.motion.acceleration⟩⟩)
          hremembered hlt rfl (fun j => ?_) (fun j => ?_)
        · rw [elapsed_eq (UInt64.le_of_lt hlt), ← hcommand, ← hposition]
          exact hsample j
        · have hwithin := boundaries_within hfinal j
          rw [hs.velocity hconfigured, hs.hard, hs.jerk] at hwithin
          exact hwithin
  exact
    { velocity := hs.velocity
      hard := hs.hard
      jerk := hs.jerk
      aligned := haligned
      point := by
        rintro d ⟨rfl⟩
        refine ⟨rfl, rfl, ?_⟩
        exact hlast ▸ UInt64.le_refl _
      remembered := hpoints.2
      contract := hpoints.1 }

omit [Field δ] [LinearOrder δ] [IsStrictOrderedRing δ] [Exact δ] in
theorem call_evaluate (s : Session δ) (t : UInt64) :
    s.call (.evaluateSelected t true) =
      { handle := (s.handle.evaluateSelected t).1
        limits := s.limits
        emitted := emittedAfter s (s.handle.evaluateSelected t).1 (.evaluateSelected t true)
          ((s.handle.evaluateSelected t).2.map some) } := rfl

/-- **One call.** -/
theorem Coherent.call (hs : Coherent s) (c : Call δ) (hc : Undisturbed s c) :
    Coherent (s.call c) := by
  match c with
  | .initializeAt none _ | .hold none _ _ | .configureTransition none _ _ _ | .accept none _ _ =>
    exact hs
  | .evaluateSelected _ false => exact hs
  | .initializeAt (some position) t => exact hs.initializeAt hc
  | .hold (some position) n q =>
    exact hs.withResampler (hold_aligned hs.aligned position n q)
      (UInt64.le_of_eq (hold_last _ position n q).symm)
  | .accept (some destination) n q =>
    exact hs.withResampler (accept_aligned hs.aligned destination n q)
      (UInt64.le_of_eq (accept_last _ destination n q).symm)
  | .configureTransition (some velocity) recoverable hard jerk =>
    by_cases hvalid : ResamplerHandle.validLimits velocity recoverable hard jerk = true
    · have hcall : s.call (.configureTransition (some velocity) recoverable hard jerk) =
          { s with
            handle := { s.handle with
              maximumVelocity := velocity, recoverableAcceleration := recoverable
              hardAcceleration := hard, maximumJerk := jerk, transitionConfigured := true }
            limits := ⟨velocity, recoverable, hard, jerk⟩ } := by
        simp [Session.call, step, ResamplerHandle.configureTransition, hvalid, limitsAfter,
          emittedAfter, resultOf]
      rw [hcall]
      exact ⟨fun _ => rfl, rfl, rfl, hs.aligned, hs.point, hs.remembered, hs.contract⟩
    · have hcall : s.call (.configureTransition (some velocity) recoverable hard jerk) =
          { s with handle := { s.handle with maximumVelocity := velocity } } := by
        simp [Session.call, step, ResamplerHandle.configureTransition, hvalid, limitsAfter,
          emittedAfter, resultOf]
      rw [hcall]
      refine ⟨fun hconfigured => ?_, hs.hard, hs.jerk, hs.aligned, hs.point, hs.remembered,
        hs.contract⟩
      obtain hv | hnot | hsame := hc
      · exact absurd hv hvalid
      · exact absurd (hnot.symm.trans hconfigured) nofun
      · exact hsame ▸ hs.velocity hconfigured
  | .evaluateSelected t true =>
    rw [call_evaluate]
    unfold ResamplerHandle.evaluateSelected
    by_cases hconfigured : s.handle.transitionConfigured = true
    swap
    · rw [if_pos (by simpa using hconfigured)]
      exact hs
    rw [if_neg (by simpa using hconfigured)]
    cases hselect : s.handle.select t with
    | error error => exact hs
    | ok selection =>
      obtain ⟨hle, hlast⟩ := commitSelected_last hselect
      have haligned := commitSelected_aligned hselect hs.aligned
      dsimp only
      cases hcommit : s.handle.commitSelected selection t with
      | mk r error =>
        cases error with
        | none => exact hs.emit hc hconfigured hselect hcommit
        | some error =>
          rw [hcommit] at hlast haligned
          exact hs.withResampler haligned (hlast.symm ▸ hle)

/-- **The kinematic contract.** It holds of the points of every run whose calls leave the
    memory of the last point alone. -/
theorem points_within (servoPeriodNs : UInt64) (calls : List (Call δ))
    (hcalls : Meets Session.call Undisturbed (Session.create servoPeriodNs : Session δ) calls) :
    Contract (run Session.call (Session.create servoPeriodNs : Session δ) calls).emitted :=
  (run_invariant_of_meets (P := Coherent) (fun _ c hc hs => hs.call c hc)
    (coherent_create servoPeriodNs) hcalls).contract

end

/-- The calls of a session that starts to move. -/
def movingCalls : List (Call ℚ) :=
  [.initializeAt (some fun _ => 0) 1000, .configureTransition (some fun _ => 1) 2 2 400,
    .hold (some fun _ => 0) 1000 0, .accept (some fun _ => 1 / 2) 2000 1,
    .evaluateSelected 8001000 true, .evaluateSelected 16001000 true,
    .evaluateSelected 24001000 true]

/-- Its points meet the contract. -/
theorem points_within_moving :
    Contract (run Session.call (Session.create 8000000) movingCalls).emitted :=
  points_within 8000000 movingCalls
    ⟨.inl rfl, .inl (by decide +kernel), trivial, trivial, .inl rfl,
      .inr (.inl (by decide +kernel)), .inr (.inl (by decide +kernel)), trivial⟩

instance (e : Emission ℚ) : (past : List (Emission ℚ)) → Decidable (AccelerationWithin e past)
  | [] | [_] => isTrue trivial
  | _ :: _ :: _ => inferInstanceAs (Decidable (∀ _, _))

/-- An evaluation that repeats the last time forgets the velocity, and the next point brakes
    harder than the limit allows. -/
theorem repeated_evaluation :
    ¬Contract (run Session.call (Session.create 8000000) (movingCalls ++
      [.evaluateSelected 24001000 true, .evaluateSelected 32001000 true])).emitted :=
  fun hcontract => absurd hcontract.acceleration (by decide +kernel)

end HandLab.Resampler
