import HandLab.Lib.Mealy
import HandLab.Resampler.CApi
import Mathlib.Tactic.FinCases

/-!
# Failed calls

A call that fails may have assigned members before it threw.

* `Keeps`: what a failing call assigns before it throws is there already, or no
  later call reads it.
* `failed_call`: then no sequence of later calls tells that it was made; for
  `jaka_resampler_initialize` there is one otherwise.
-/

namespace HandLab.Resampler

universe u

open HandLab.Lib Double

/-! ## What later calls read -/

section

variable {δ : Type*}

/-- Two handles agree in what a call can read: the velocities are read after a
    configuration, the last point after an initialization, and all of it but its
    time and its flag only at a later time. -/
structure Agree (h k : ResamplerHandle δ) : Prop where
  resampler : h.resampler = k.resampler
  configured : h.transitionConfigured = k.transitionConfigured
  recoverable : h.recoverableAcceleration = k.recoverableAcceleration
  hard : h.hardAcceleration = k.hardAcceleration
  jerk : h.maximumJerk = k.maximumJerk
  velocity : h.transitionConfigured = true → h.maximumVelocity = k.maximumVelocity
  command : h.resampler.initialized = true → h.previousCommandNs = k.previousCommandNs
  limited : h.resampler.initialized = true →
    h.previousTransitionLimited = k.previousTransitionLimited
  memory : h.resampler.initialized = true → h.previousCommandNs = maximumUnsigned ∨
    h.previousPosition = k.previousPosition ∧ h.previousVelocity = k.previousVelocity ∧
      h.previousAcceleration = k.previousAcceleration

theorem Agree.refl (h : ResamplerHandle δ) : Agree h h where
  resampler := rfl
  configured := rfl
  recoverable := rfl
  hard := rfl
  jerk := rfl
  velocity _ := rfl
  command _ := rfl
  limited _ := rfl
  memory _ := .inr ⟨rfl, rfl, rfl⟩

variable {h k : ResamplerHandle δ} {r : JointServoResampler δ}

/-- A change of the resampler alone. -/
theorem Agree.withResampler (ha : Agree h k)
    (hr : r.initialized = h.resampler.initialized) :
    Agree { h with resampler := r } { k with resampler := r } where
  resampler := rfl
  configured := ha.configured
  recoverable := ha.recoverable
  hard := ha.hard
  jerk := ha.jerk
  velocity := ha.velocity
  command hi := ha.command (hr ▸ hi)
  limited hi := ha.limited (hr ▸ hi)
  memory hi := ha.memory (hr ▸ hi)

theorem commit_initialized (r : JointServoResampler δ) (point : ResampledServoPoint δ) :
    (r.commit point).1.initialized = r.initialized := by
  unfold JointServoResampler.commit
  split_ifs <;> rfl

theorem commitTransitionLimited_initialized (r : JointServoResampler δ)
    (point : ResampledServoPoint δ) :
    (r.commitTransitionLimited point).1.initialized = r.initialized := by
  unfold JointServoResampler.commitTransitionLimited
  dsimp only
  split_ifs <;> rfl

theorem commitSelected_initialized (h : ResamplerHandle δ)
    (selection : ResamplerHandle.Selection δ) (t : UInt64) :
    (h.commitSelected selection t).1.initialized = h.resampler.initialized := by
  unfold ResamplerHandle.commitSelected
  split_ifs
  · exact commitTransitionLimited_initialized _ _
  · exact commit_initialized _ _

theorem not_maximumUnsigned_lt (n : UInt64) : ¬maximumUnsigned < n := by
  have hn := n.toNat_lt
  have hmax : maximumUnsigned.toNat = 2 ^ 64 - 1 := rfl
  rw [UInt64.lt_iff_toNat_lt]
  omega

variable [Double δ]

/-- The checks read the limits only. -/
theorem Agree.transitionRequired_eq (ha : Agree h k)
    (hc : h.transitionConfigured = true) (sample : MotionSample δ) :
    transitionRequired h sample = transitionRequired k sample := by
  rw [transitionRequired, transitionRequired, ha.velocity hc, ha.recoverable, ha.jerk]

theorem Agree.requireFinalBoundaries_eq (ha : Agree h k)
    (hc : h.transitionConfigured = true) (sample : MotionSample δ) :
    requireFinalBoundaries h sample = requireFinalBoundaries k sample := by
  have hjoint : boundaryError? h sample = boundaryError? k sample := by
    funext j
    rw [boundaryError?, boundaryError?, ha.velocity hc, ha.hard, ha.jerk]
  rw [requireFinalBoundaries, requireFinalBoundaries, hjoint]

theorem Agree.measure_eq (ha : Agree h k)
    (hi : h.resampler.initialized = true) (point : ResampledServoPoint δ) (t : UInt64) :
    measure h point t = measure k point t := by
  rcases ha.memory hi with hmax | ⟨hposition, hvelocity, hacceleration⟩
  · -- at the last moment there is no later time to measure at
    have hlast := not_maximumUnsigned_lt t
    rw [measure, measure, ← ha.command hi, hmax]
    split_ifs with heq hlt
    · rfl
    · rfl
    · exact absurd (UInt64.lt_of_le_of_ne (UInt64.not_lt.mp hlt) (Ne.symm heq)) hlast
  · rw [measure, measure, ha.command hi, hposition, hvelocity, hacceleration]

theorem Agree.selectPoint_eq (ha : Agree h k)
    (hi : h.resampler.initialized = true) (proposed : ResampledServoPoint δ) (limited : Bool)
    (t : UInt64) : h.selectPoint proposed limited t = k.selectPoint proposed limited t := by
  unfold ResamplerHandle.selectPoint
  rw [ha.command hi, ha.recoverable, ha.hard, ha.jerk]
  split_ifs with hlt
  · rcases ha.memory hi with hmax | ⟨hposition, hvelocity, hacceleration⟩
    · rw [← ha.command hi, hmax] at hlt
      exact absurd hlt.2 (not_maximumUnsigned_lt t)
    · rw [hposition, hvelocity, hacceleration]
  · rfl

theorem Agree.select_eq (ha : Agree h k)
    (hc : h.transitionConfigured = true) (hi : h.resampler.initialized = true) (t : UInt64) :
    h.select t = k.select t := by
  unfold ResamplerHandle.select
  simp only [ha.measure_eq hi, ha.transitionRequired_eq hc, ha.requireFinalBoundaries_eq hc,
    ha.selectPoint_eq hi, ha.resampler]

theorem evaluate_of_not_initialized (h : r.initialized = false)
    (t : UInt64) : r.evaluate t = .error .noAcceptedTarget := by
  rw [JointServoResampler.evaluate, h]
  rfl

theorem select_of_not_initialized {h : ResamplerHandle δ} (hi : h.resampler.initialized = false)
    (t : UInt64) : h.select t = .error .noAcceptedTarget := by
  rw [ResamplerHandle.select, evaluate_of_not_initialized hi]
  rfl

/-! ## Calls keep the agreement -/

theorem hold_initialized (r : JointServoResampler δ) (position : Joints δ) (n q : UInt64) :
    (r.hold position n q).1.initialized = r.initialized := by
  unfold JointServoResampler.hold
  split_ifs <;> rfl

theorem accept_initialized (r : JointServoResampler δ) (destination : Joints δ) (n q : UInt64) :
    (r.accept destination n q).1.initialized = r.initialized := by
  unfold JointServoResampler.accept
  dsimp only
  split_ifs <;> rfl

theorem Agree.evaluateSelected (ha : Agree h k) (t : UInt64) :
    (h.evaluateSelected t).2 = (k.evaluateSelected t).2 ∧
      Agree (h.evaluateSelected t).1 (k.evaluateSelected t).1 := by
  unfold ResamplerHandle.evaluateSelected
  by_cases hc : h.transitionConfigured = true
  swap
  · have hk : ¬k.transitionConfigured = true := ha.configured ▸ hc
    rw [if_pos (by simpa using hc), if_pos (by simpa using hk)]
    exact ⟨rfl, ha⟩
  have hk : k.transitionConfigured = true := ha.configured ▸ hc
  rw [if_neg (by simpa using hc), if_neg (by simpa using hk)]
  by_cases hi : h.resampler.initialized = true
  swap
  · have hi' : h.resampler.initialized = false := by simpa using hi
    rw [select_of_not_initialized hi', select_of_not_initialized (ha.resampler ▸ hi')]
    exact ⟨rfl, ha⟩
  rw [← ha.select_eq hc hi]
  cases h.select t with
  | error error => exact ⟨rfl, ha⟩
  | ok selection =>
    have hcommit : k.commitSelected selection t = h.commitSelected selection t := by
      rw [ResamplerHandle.commitSelected, ResamplerHandle.commitSelected, ha.resampler,
        ha.command hi]
    have hinitialized := commitSelected_initialized h selection t
    simp only [hcommit]
    generalize h.commitSelected selection t = result at hinitialized
    obtain ⟨resampler, _ | error⟩ := result
    · refine ⟨?_, rfl, ha.configured, ha.recoverable, ha.hard, ha.jerk, ha.velocity,
        fun _ => rfl, fun _ => rfl, fun _ => .inr ⟨rfl, rfl, rfl⟩⟩
      rw [ha.limited hi]
    · exact ⟨rfl, ha.withResampler hinitialized⟩

theorem Agree.initializeAt (ha : Agree h k) (position : Joints δ)
    (t : UInt64) : (h.initializeAt position t).2 = (k.initializeAt position t).2 ∧
      Agree (h.initializeAt position t).1 (k.initializeAt position t).1 := by
  unfold ResamplerHandle.initializeAt
  rw [← ha.resampler]
  exact ⟨rfl, rfl, ha.configured, ha.recoverable, ha.hard, ha.jerk, ha.velocity,
    fun _ => rfl, fun _ => rfl, fun _ => .inr ⟨rfl, rfl, rfl⟩⟩

theorem Agree.configureTransition (ha : Agree h k)
    (velocity : Joints δ) (recoverable hard jerk : δ) :
    (h.configureTransition velocity recoverable hard jerk).2 =
        (k.configureTransition velocity recoverable hard jerk).2 ∧
      Agree (h.configureTransition velocity recoverable hard jerk).1
        (k.configureTransition velocity recoverable hard jerk).1 := by
  unfold ResamplerHandle.configureTransition
  dsimp only
  split_ifs
  · exact ⟨rfl, ha.resampler, ha.configured, ha.recoverable, ha.hard, ha.jerk, fun _ => rfl,
      ha.command, ha.limited, ha.memory⟩
  · exact ⟨rfl, ha.resampler, rfl, rfl, rfl, rfl, fun _ => rfl, ha.command, ha.limited,
      ha.memory⟩

/-- **Agreement is a simulation.** -/
theorem agree_simulates : Simulates (step (δ := δ)) Agree := by
  intro h k call ha
  match call with
  | .initializeAt none _ | .hold none _ _ | .configureTransition none _ _ _ | .accept none _ _ =>
    exact ⟨rfl, ha⟩
  | .initializeAt (some position) t =>
    obtain ⟨herror, hnext⟩ := ha.initializeAt position t
    exact ⟨congrArg resultOf herror, hnext⟩
  | .hold (some position) n q =>
    have hnext := ha.withResampler (hold_initialized h.resampler position n q)
    simp only [step, ← ha.resampler]
    exact ⟨trivial, hnext⟩
  | .configureTransition (some velocity) recoverable hard jerk =>
    obtain ⟨herror, hnext⟩ := ha.configureTransition velocity recoverable hard jerk
    exact ⟨congrArg resultOf herror, hnext⟩
  | .accept (some destination) n q =>
    have hnext := ha.withResampler (accept_initialized h.resampler destination n q)
    simp only [step, ← ha.resampler]
    exact ⟨trivial, hnext⟩
  | .evaluateSelected _ false => exact ⟨rfl, ha⟩
  | .evaluateSelected t true =>
    obtain ⟨hresult, hnext⟩ := ha.evaluateSelected t
    exact ⟨congrArg (Except.map some) hresult, hnext⟩

/-! ## What a failing call leaves behind -/

/-- `accept` gets to its last check, which refuses the duration of the segment. -/
def Overflows (r : JointServoResampler δ) (destination : Joints δ) (acceptedNs sequence : UInt64) :
    Prop :=
  r.initialized = true ∧ withinPositionLimits destination = true ∧ acceptedNs ≠ 0 ∧
    sequence ≠ 0 ∧ r.hasAccepted = true ∧ r.lastAcceptedNs < acceptedNs ∧
    r.toSequence < sequence ∧ r.internalHold = false ∧
    maximumUnsigned - r.lastServoTimeNs < acceptedNs - r.lastAcceptedNs

/-- What a failing call assigns before it throws is there already, or no later call reads it. -/
def Keeps (h : ResamplerHandle δ) : Call δ → Prop
  | .initializeAt (some position) servoTimeNs =>
    h.resampler.initialized = true →
      h.previousCommandNs = servoTimeNs ∧ h.previousTransitionLimited = false ∧
        (servoTimeNs = maximumUnsigned ∨ h.previousPosition = position ∧
          h.previousVelocity = (fun _ => zero) ∧ h.previousAcceleration = fun _ => zero)
  | .configureTransition (some velocity) _ _ _ =>
    h.transitionConfigured = true → h.maximumVelocity = velocity
  | .accept (some destination) acceptedNs sequence =>
    Overflows h.resampler destination acceptedNs sequence →
      h.resampler.retarget destination = h.resampler
  | .evaluateSelected servoTimeNs true =>
    h.transitionConfigured = true → ∀ selection, h.select servoTimeNs = .ok selection →
      selection.limited = true → h.previousCommandNs < servoTimeNs →
      maximumUnsigned - servoTimeNs < h.resampler.servoPeriodNs →
        h.resampler.emitLimited selection.selected = h.resampler
  | _ => True

variable {error : ResamplerError δ}

omit [Double δ] in
theorem resultOf_error {e : Option (ResamplerError δ)}
    (he : resultOf e = .error error) : e = some error := by
  cases e with
  | none => exact absurd he nofun
  | some e => rw [Except.error.inj he]

theorem initializeAt_error {measured : Joints δ} {t : UInt64}
    (h : (r.initializeAt measured t).2 = some error) :
    (r.initializeAt measured t).1 = r := by
  unfold JointServoResampler.initializeAt at h ⊢
  split_ifs at h ⊢
  · rfl
  · rfl

theorem hold_error {position : Joints δ} {n q : UInt64}
    (h : (r.hold position n q).2 = some error) :
    (r.hold position n q).1 = r := by
  unfold JointServoResampler.hold at h ⊢
  split_ifs at h ⊢
  · rfl
  · rfl
  · rfl

theorem accept_error {destination : Joints δ} {n q : UInt64}
    (h : (r.accept destination n q).2 = some error) :
    (r.accept destination n q).1 = r ∨
      Overflows r destination n q ∧ (r.accept destination n q).1 = r.retarget destination := by
  unfold JointServoResampler.accept at h ⊢
  dsimp only at h ⊢
  split_ifs at h ⊢ with hinitialized hlimits hstamp haccepted htime hsequence hhold hduration
  · exact .inl rfl
  · exact .inl rfl
  · exact .inl rfl
  · exact .inl rfl
  · exact .inl rfl
  · rw [not_or] at hstamp
    refine .inr ⟨⟨?_, ?_, hstamp.1, hstamp.2, ?_, UInt64.not_le.mp htime,
      UInt64.not_le.mp hsequence, ?_, hduration⟩, rfl⟩
    · simpa using hinitialized
    · simpa using hlimits
    · simpa using haccepted
    · simpa using hhold

omit [Double δ] in
theorem commit_error {point : ResampledServoPoint δ}
    (h : (r.commit point).2 = some error) :
    (r.commit point).1 = r := by
  unfold JointServoResampler.commit at h ⊢
  split_ifs at h ⊢
  rfl

omit [Double δ] in
theorem commitTransitionLimited_error {point : ResampledServoPoint δ}
    (h : (r.commitTransitionLimited point).2 = some error) :
    (r.commitTransitionLimited point).1 = r ∨
      maximumUnsigned - point.servoTimeNs < r.servoPeriodNs ∧
        (r.commitTransitionLimited point).1 = r.emitLimited point := by
  unfold JointServoResampler.commitTransitionLimited at h ⊢
  dsimp only at h ⊢
  split_ifs at h ⊢ with hback hroom
  · exact .inl rfl
  · exact .inr ⟨hroom, rfl⟩

theorem configureTransition_error {h : ResamplerHandle δ} {velocity : Joints δ}
    {recoverable hard jerk : δ}
    (hfail : (h.configureTransition velocity recoverable hard jerk).2 = some error) :
    (h.configureTransition velocity recoverable hard jerk).1 =
      { h with maximumVelocity := velocity } := by
  unfold ResamplerHandle.configureTransition at hfail ⊢
  dsimp only at hfail ⊢
  split_ifs at hfail ⊢
  rfl

theorem commitSelected_error {h : ResamplerHandle δ} {selection : ResamplerHandle.Selection δ}
    {t : UInt64} (hselect : h.select t = .ok selection)
    (hfail : (h.commitSelected selection t).2 = some error) :
    (h.commitSelected selection t).1 = h.resampler ∨
      selection.limited = true ∧ h.previousCommandNs < t ∧
        maximumUnsigned - t < h.resampler.servoPeriodNs ∧
        (h.commitSelected selection t).1 = h.resampler.emitLimited selection.selected := by
  have htime := select_servoTime hselect
  unfold ResamplerHandle.commitSelected at hfail ⊢
  split_ifs at hfail ⊢ with hlimited
  · rcases commitTransitionLimited_error hfail with hr | ⟨hroom, hr⟩
    · exact .inl hr
    · rw [htime] at hroom
      exact .inr ⟨hlimited.1, hlimited.2, hroom, hr⟩
  · exact .inl (commit_error hfail)

/-- **A failing call that keeps what it assigns leaves an agreeing handle.** -/
theorem Keeps.agree {h : ResamplerHandle δ} {call : Call δ}
    (hkeeps : Keeps h call) (hfail : (step h call).2 = .error error) :
    Agree (step h call).1 h := by
  match call with
  | .initializeAt none _ | .hold none _ _ | .configureTransition none _ _ _ | .accept none _ _ =>
    exact .refl h
  | .initializeAt (some position) t =>
    have hr := initializeAt_error (resultOf_error hfail)
    refine ⟨hr, rfl, rfl, rfl, rfl, fun _ => rfl, fun hi => ?_, fun hi => ?_, fun hi => ?_⟩
    · exact (hkeeps (hr ▸ hi)).1.symm
    · exact (hkeeps (hr ▸ hi)).2.1.symm
    · rcases (hkeeps (hr ▸ hi)).2.2 with hmax | ⟨hposition, hvelocity, hacceleration⟩
      · exact .inl hmax
      · exact .inr ⟨hposition.symm, hvelocity.symm, hacceleration.symm⟩
  | .hold (some position) n q =>
    have hr := hold_error (resultOf_error hfail)
    have hstep : (step h (.hold (some position) n q)).1 = h := by
      show { h with resampler := (h.resampler.hold position n q).1 } = h
      rw [hr]
    rw [hstep]
    exact .refl h
  | .configureTransition (some velocity) recoverable hard jerk =>
    have hstep : (step h (.configureTransition (some velocity) recoverable hard jerk)).1 =
        { h with maximumVelocity := velocity } := configureTransition_error (resultOf_error hfail)
    rw [hstep]
    exact ⟨rfl, rfl, rfl, rfl, rfl, fun hc => (hkeeps hc).symm, fun _ => rfl, fun _ => rfl,
      fun _ => .inr ⟨rfl, rfl, rfl⟩⟩
  | .accept (some destination) n q =>
    have hr : (h.resampler.accept destination n q).1 = h.resampler := by
      rcases accept_error (resultOf_error hfail) with hr | ⟨hoverflow, hr⟩
      · exact hr
      · rw [hr, hkeeps hoverflow]
    have hstep : (step h (.accept (some destination) n q)).1 = h := by
      show { h with resampler := (h.resampler.accept destination n q).1 } = h
      rw [hr]
    rw [hstep]
    exact .refl h
  | .evaluateSelected _ false => exact .refl h
  | .evaluateSelected t true =>
    have hstep : (h.evaluateSelected t).1 = h := by
      replace hfail : (h.evaluateSelected t).2.map some = .error error := hfail
      unfold ResamplerHandle.evaluateSelected at hfail ⊢
      split_ifs at hfail ⊢ with hc
      · rfl
      · cases hselect : h.select t with
        | error e => rfl
        | ok selection =>
          have hr {e : ResamplerError δ} (he : (h.commitSelected selection t).2 = some e) :=
            commitSelected_error hselect he
          rw [hselect] at hfail
          dsimp only at hfail ⊢
          generalize h.commitSelected selection t = result at hfail hr ⊢
          obtain ⟨resampler, _ | e⟩ := result
          · exact absurd hfail nofun
          · rcases hr rfl with rfl | ⟨hlimited, hlt, hroom, rfl⟩
            · rfl
            · have hemit := hkeeps (by simpa using hc) selection hselect hlimited hlt hroom
              rw [hemit]
    show Agree (h.evaluateSelected t).1 h
    rw [hstep]
    exact .refl h

end

/-! ## Handles that later calls tell apart -/

section Exact

variable {δ : Type*} [Field δ] [LinearOrder δ] [IsStrictOrderedRing δ] [Double δ] [Exact δ]

/-- Every member of a sample is at most a bound. -/
def MotionSample.Within (sample : MotionSample δ) (bound : δ) : Prop :=
  ∀ j, |sample.velocity j| ≤ bound ∧ |sample.acceleration j| ≤ bound ∧ |sample.jerk j| ≤ bound

omit [Double δ] [Exact δ] in
theorem MotionSample.exists_within (sample : MotionSample δ) : ∃ bound, sample.Within bound := by
  have hle {f : Joints δ} (j : Fin 6) : |f j| ≤ ∑ i, |f i| :=
    Finset.single_le_sum (fun i _ => abs_nonneg (f i)) (Finset.mem_univ j)
  have hnonneg (f : Joints δ) : 0 ≤ ∑ i, |f i| := Finset.sum_nonneg fun i _ => abs_nonneg (f i)
  have hv := hnonneg sample.velocity
  have ha := hnonneg sample.acceleration
  have hj := hnonneg sample.jerk
  refine ⟨∑ i, |sample.velocity i| + ∑ i, |sample.acceleration i| + ∑ i, |sample.jerk i|,
    fun j => ⟨?_, ?_, ?_⟩⟩
  · linarith [hle (f := sample.velocity) j]
  · linarith [hle (f := sample.acceleration) j]
  · linarith [hle (f := sample.jerk) j]

variable {sample : MotionSample δ}

omit [Double δ] [Exact δ] [IsStrictOrderedRing δ] in
theorem MotionSample.Within.mono {b c : δ} (h : sample.Within b)
    (hle : b ≤ c) : sample.Within c :=
  fun j => ⟨(h j).1.trans hle, (h j).2.1.trans hle, (h j).2.2.trans hle⟩

/-- The sample of a position at the last moment. -/
def lastMotion (h : ResamplerHandle δ) (position : Joints δ) : MotionSample δ :=
  if h.previousCommandNs = maximumUnsigned then ⟨fun _ => 0, fun _ => 0, fun _ => 0⟩
  else
    let dtS : δ := seconds h.previousCommandNs maximumUnsigned
    let velocity := fun j => (position j - h.previousPosition j) / dtS
    let acceleration := fun j => (velocity j - h.previousVelocity j) / dtS
    ⟨velocity, acceleration, fun j => (acceleration j - h.previousAcceleration j) / dtS⟩

theorem measure_last (h : ResamplerHandle δ) (point : ResampledServoPoint δ) :
    measure h point maximumUnsigned = .ok (lastMotion h point.position) := by
  rw [measure, lastMotion]
  by_cases hlast : h.previousCommandNs = maximumUnsigned
  · rw [if_pos hlast.symm, if_pos hlast]
    simp
  · rw [if_neg (Ne.symm hlast), if_neg (not_maximumUnsigned_lt _), if_neg hlast]
    simp

theorem transitionRequired_of_within {h : ResamplerHandle δ} {bound : δ}
    (hs : sample.Within bound) (hv : h.maximumVelocity = fun _ => bound)
    (ha : h.recoverableAcceleration = bound) (hj : h.maximumJerk = bound) :
    transitionRequired h sample = false := by
  have htolerance : (0 : δ) ≤ ((1e-12 : ℚ) : δ) := by
    exact_mod_cast (by norm_num : (0 : ℚ) ≤ 1e-12)
  rw [transitionRequired, List.any_eq_false]
  intro j _
  obtain ⟨hvelocity, hacceleration, hjerk⟩ := hs j
  simp only [Exact.lt_eq, Exact.add_eq, Exact.ofRat_eq, Exact.abs_eq, hv, ha, hj,
    Bool.or_eq_true, decide_eq_true_eq, not_or, not_lt]
  exact ⟨⟨by linarith, by linarith⟩, by linarith⟩

theorem requireFinalBoundaries_of_within {h : ResamplerHandle δ}
    {bound : δ} (hs : sample.Within bound) (hv : h.maximumVelocity = fun _ => bound)
    (ha : h.hardAcceleration = bound) (hj : h.maximumJerk = bound) :
    requireFinalBoundaries h sample = none := by
  have htolerance : (0 : δ) ≤ ((1e-12 : ℚ) : δ) := by
    exact_mod_cast (by norm_num : (0 : ℚ) ≤ 1e-12)
  rw [requireFinalBoundaries, List.findSome?_eq_none_iff]
  intro j _
  obtain ⟨hvelocity, hacceleration, hjerk⟩ := hs j
  have hbound : |sample.jerk j| ≤ |bound| := hjerk.trans (le_abs_self bound)
  have hrelative : (0 : δ) ≤ ((2.5e-7 : ℚ) : δ) * |bound| :=
    mul_nonneg (by exact_mod_cast (by norm_num : (0 : ℚ) ≤ 2.5e-7)) (abs_nonneg _)
  have habsolute : (0 : δ) ≤ ((1e-6 : ℚ) : δ) := by
    exact_mod_cast (by norm_num : (0 : ℚ) ≤ 1e-6)
  have hle : |sample.jerk j| ≤ |bound| + (((1e-6 : ℚ) : δ) + ((2.5e-7 : ℚ) : δ) * |bound|) := by
    linarith
  have hvelocity' : ¬bound + ((1e-12 : ℚ) : δ) < |sample.velocity j| := by
    rw [not_lt]
    linarith
  have hacceleration' : ¬bound + ((1e-12 : ℚ) : δ) < |sample.acceleration j| := by
    rw [not_lt]
    linarith
  simp only [boundaryError?, outputJerkWithinHardBoundary, outputJerkHardBoundaryWithTolerance,
    Exact.lt_eq, Exact.add_eq, Exact.mul_eq, Exact.ofRat_eq, Exact.abs_eq, Exact.le_eq,
    Exact.isFinite_eq, hv, ha, hj, hvelocity', hacceleration', hle, decide_false, decide_true,
    Bool.and_self, Bool.not_true, Bool.false_eq_true, if_false]

/-- A configuration that no motion within the bound exceeds, a hold, and an
    evaluation at the last moment. -/
def probe (bound : δ) (position : Joints δ) : List (Call δ) :=
  [.configureTransition (some fun _ => bound) bound bound bound, .hold (some position) 1 0,
    .evaluateSelected maximumUnsigned true]

variable {position : Joints δ}

theorem outputs_probe {h : ResamplerHandle δ} (hi : h.resampler.initialized = true) {bound : δ}
    (hbound : 0 < bound) (hlimits : withinPositionLimits position = true)
    (hs : (lastMotion h position).Within bound) :
    ∃ servo, outputs step h (probe bound position) =
      [.ok none, .ok none, .ok (some ⟨servo, lastMotion h position, false,
        h.previousTransitionLimited⟩)] := by
  -- the handle after the configuration
  obtain ⟨g, hg⟩ : ∃ g, g = { h with
      maximumVelocity := fun _ => bound, recoverableAcceleration := bound
      hardAcceleration := bound, maximumJerk := bound, transitionConfigured := true } := ⟨_, rfl⟩
  have hconfigure : step h (.configureTransition (some fun _ => bound) bound bound bound) =
      (g, .ok none) := by
    have hvalid : ResamplerHandle.validLimits (fun _ => bound) bound bound bound = true := by
      simp [ResamplerHandle.validLimits, hbound]
    rw [step, ResamplerHandle.configureTransition, hvalid, hg]
    rfl
  -- the resampler after the hold
  obtain ⟨r, hr⟩ : ∃ r, r = (h.resampler.hold position 1 0).1 := ⟨_, rfl⟩
  have hheld : h.resampler.hold position 1 0 = (r, none) := by
    rw [hr, JointServoResampler.hold, hi, hlimits]
    rfl
  have hhold : step g (.hold (some position) 1 0) = ({ g with resampler := r }, .ok none) := by
    have hg' : g.resampler = h.resampler := by rw [hg]
    rw [step, hg', hheld]
    rfl
  have hinitialized : r.initialized = true := by
    rw [hr, hold_initialized, hi]
  have haccepted : r.hasAccepted = true := by
    rw [hr, JointServoResampler.hold, hi, hlimits]
    rfl
  have hactive : r.active = false := by
    rw [hr, JointServoResampler.hold, hi, hlimits]
    rfl
  have hemitted : r.emitted = position := by
    rw [hr, JointServoResampler.hold, hi, hlimits]
    rfl
  obtain ⟨servo, hservo, hposition⟩ : ∃ servo, r.evaluate maximumUnsigned = .ok servo ∧
      servo.position = position := by
    rw [JointServoResampler.evaluate, if_neg (by simp [hinitialized, haccepted]),
      if_neg (not_maximumUnsigned_lt _), if_pos (.inl (by simp [hactive]))]
    exact ⟨_, rfl, hemitted⟩
  -- the evaluation
  obtain ⟨k, hk⟩ : ∃ k, k = { g with resampler := r } := ⟨_, rfl⟩
  have hmeasure : measure k servo maximumUnsigned = .ok (lastMotion h position) := by
    rw [measure_last, hposition, hk, hg]
    rfl
  have hrequired : transitionRequired k (lastMotion h position) = false :=
    transitionRequired_of_within hs (by rw [hk, hg]) (by rw [hk, hg]) (by rw [hk, hg])
  have hfinal : requireFinalBoundaries k (lastMotion h position) = none :=
    requireFinalBoundaries_of_within hs (by rw [hk, hg]) (by rw [hk, hg]) (by rw [hk, hg])
  have hselect : k.select maximumUnsigned =
      .ok ⟨servo, lastMotion h position, false⟩ := by
    have hpoint : k.selectPoint servo false maximumUnsigned = .ok servo := by
      rw [ResamplerHandle.selectPoint, if_neg (by simp)]
    have hk' : k.resampler = r := by rw [hk]
    rw [ResamplerHandle.select, hk', hservo]
    simp only [bind, Except.bind, hmeasure, hrequired, hpoint, hfinal]
  have hcommit : (k.commitSelected ⟨servo, lastMotion h position, false⟩ maximumUnsigned).2 =
      none := by
    have htime := evaluate_servoTime hservo
    rw [ResamplerHandle.commitSelected, if_neg (by simp), JointServoResampler.commit,
      if_neg (by rw [htime]; exact not_maximumUnsigned_lt _)]
  have hconfigured : k.transitionConfigured = true := by rw [hk, hg]
  have hlimited : k.previousTransitionLimited = h.previousTransitionLimited := by rw [hk, hg]
  have hevaluate : (step k (.evaluateSelected maximumUnsigned true)).2 =
      .ok (some ⟨servo, lastMotion h position, false, h.previousTransitionLimited⟩) := by
    show (k.evaluateSelected maximumUnsigned).2.map some = _
    rw [ResamplerHandle.evaluateSelected, if_neg (by simp [hconfigured]), hselect]
    dsimp only
    generalize k.commitSelected ⟨servo, lastMotion h position, false⟩ maximumUnsigned = result
      at hcommit
    obtain ⟨resampler, _ | error⟩ := result
    · rw [hlimited]
      simp [Except.map]
    · exact absurd hcommit nofun
  refine ⟨servo, ?_⟩
  rw [probe, outputs_cons, hconfigure, outputs_cons, hhold, ← hk, outputs_cons, hevaluate,
    outputs_nil]

/-- Alike handles show the same motion at the last moment. -/
theorem lastMotion_of_alike {h k : ResamplerHandle δ} (hi : h.resampler.initialized = true)
    (hk : k.resampler.initialized = true) (halike : Alike step h k)
    (hlimits : withinPositionLimits position = true) :
    lastMotion h position = lastMotion k position ∧
      h.previousTransitionLimited = k.previousTransitionLimited := by
  obtain ⟨b, hb⟩ := (lastMotion h position).exists_within
  obtain ⟨c, hc⟩ := (lastMotion k position).exists_within
  obtain ⟨bound, hbound, hb', hc'⟩ : ∃ bound, 0 < bound ∧
      (lastMotion h position).Within bound ∧ (lastMotion k position).Within bound :=
    ⟨1 + |b| + |c|, by linarith [abs_nonneg b, abs_nonneg c],
      hb.mono (by linarith [le_abs_self b, abs_nonneg c]),
      hc.mono (by linarith [le_abs_self c, abs_nonneg b])⟩
  obtain ⟨servo, hservo⟩ := outputs_probe hi hbound hlimits hb'
  obtain ⟨servo', hservo'⟩ := outputs_probe hk hbound hlimits hc'
  have heq := (hservo.symm.trans (halike _)).trans hservo'
  simp only [List.cons.injEq, Except.ok.injEq, Option.some.injEq, ResamplerPoint.mk.injEq] at heq
  exact ⟨heq.2.2.1.2.1, heq.2.2.1.2.2.2⟩

theorem within_zero : withinPositionLimits (fun _ => (0 : δ)) = true := by
  rw [withinPositionLimits, List.all_eq_true]
  intro j _
  fin_cases j <;> simp [jointLower, jointUpper] <;> norm_num

theorem within_one : withinPositionLimits (fun _ => (1 : δ)) = true := by
  rw [withinPositionLimits, List.all_eq_true]
  intro j _
  fin_cases j <;> simp [jointLower, jointUpper] <;> norm_num

theorem lt_maximumUnsigned {n : UInt64} (hn : n ≠ maximumUnsigned) : n < maximumUnsigned :=
  UInt64.lt_of_le_of_ne (UInt64.not_lt.mp (not_maximumUnsigned_lt n)) hn

theorem seconds_injective {m n : UInt64}
    (h : (seconds m maximumUnsigned : δ) = seconds n maximumUnsigned) : m = n := by
  have hle (n : UInt64) : n ≤ maximumUnsigned := UInt64.not_lt.mp (not_maximumUnsigned_lt n)
  rw [seconds_eq (hle m), seconds_eq (hle n), div_left_inj' (by norm_num), sub_right_inj] at h
  exact UInt64.toNat_inj.mp (Nat.cast_injective h)

/-- The inverse of the time to the last moment. -/
def lastRate (h : ResamplerHandle δ) : δ :=
  if h.previousCommandNs = maximumUnsigned then 0
  else (seconds h.previousCommandNs maximumUnsigned)⁻¹

omit [LinearOrder δ] [IsStrictOrderedRing δ] [Exact δ] in
theorem lastMotion_eq (h : ResamplerHandle δ) (position : Joints δ) (j : Fin 6) :
    (lastMotion h position).velocity j = (position j - h.previousPosition j) * lastRate h ∧
      (lastMotion h position).acceleration j =
        ((lastMotion h position).velocity j - h.previousVelocity j) * lastRate h ∧
      (lastMotion h position).jerk j =
        ((lastMotion h position).acceleration j - h.previousAcceleration j) * lastRate h := by
  unfold lastMotion lastRate
  split_ifs
  · simp
  · exact ⟨div_eq_mul_inv _ _, div_eq_mul_inv _ _, div_eq_mul_inv _ _⟩

theorem lastRate_ne_zero {h : ResamplerHandle δ} (hne : h.previousCommandNs ≠ maximumUnsigned) :
    lastRate h ≠ 0 := by
  rw [lastRate, if_neg hne]
  exact inv_ne_zero (seconds_pos (lt_maximumUnsigned hne)).ne'

theorem lastRate_injective {h k : ResamplerHandle δ} (heq : lastRate h = lastRate k) :
    h.previousCommandNs = k.previousCommandNs := by
  by_cases hh : h.previousCommandNs = maximumUnsigned
  · by_contra hne
    have hk := lastRate_ne_zero fun hk => hne (hh.trans hk.symm)
    rw [← heq, lastRate, if_pos hh] at hk
    exact hk rfl
  · have hk : k.previousCommandNs ≠ maximumUnsigned := by
      intro hk
      have hne := lastRate_ne_zero hh
      rw [heq, lastRate, if_pos hk] at hne
      exact hne rfl
    rw [lastRate, lastRate, if_neg hh, if_neg hk] at heq
    exact seconds_injective (inv_injective heq)

/-- An initialization that failed unnoticed had nothing to assign. -/
theorem keeps_of_alike {h : ResamplerHandle δ} {t : UInt64}
    {error : ResamplerError δ}
    (hfail : (step h (.initializeAt (some position) t)).2 = .error error)
    (halike : Alike step (step h (.initializeAt (some position) t)).1 h) :
    Keeps h (.initializeAt (some position) t) := by
  intro hi
  have hr := initializeAt_error (resultOf_error hfail)
  obtain ⟨k, hk⟩ : ∃ k, k = (step h (.initializeAt (some position) t)).1 := ⟨_, rfl⟩
  have hresampler : k.resampler = h.resampler := hk ▸ hr
  have htime : k.previousCommandNs = t := hk ▸ rfl
  have hposition : k.previousPosition = position := hk ▸ rfl
  have hvelocity : k.previousVelocity = fun _ => 0 := by
    rw [hk, ← Exact.zero_eq]
    rfl
  have hacceleration : k.previousAcceleration = fun _ => 0 := by
    rw [hk, ← Exact.zero_eq]
    rfl
  have hlimited : k.previousTransitionLimited = false := hk ▸ rfl
  rw [← hk] at halike
  have hsame {target : Joints δ} (htarget : withinPositionLimits target = true) :=
    lastMotion_of_alike (hresampler ▸ hi) hi halike htarget
  have hflag : h.previousTransitionLimited = false := (hsame within_zero).2 ▸ hlimited
  have hzero := (hsame within_zero).1
  have hone := (hsame within_one).1
  have hrate : lastRate h = lastRate k := by
    have hv (g : ResamplerHandle δ) : lastRate g =
        (lastMotion g fun _ => 1).velocity 0 - (lastMotion g fun _ => 0).velocity 0 := by
      rw [(lastMotion_eq g _ 0).1, (lastMotion_eq g _ 0).1]
      ring
    rw [hv h, hv k, hzero, hone]
  have hcommand : h.previousCommandNs = t := htime ▸ lastRate_injective hrate
  refine ⟨hcommand, hflag, ?_⟩
  by_cases hmax : t = maximumUnsigned
  · exact .inl hmax
  -- before the last moment the sample shows the position, then the velocity, then the rest
  have hne : lastRate h ≠ 0 := lastRate_ne_zero (hcommand ▸ hmax)
  have hjoint (j : Fin 6) : h.previousPosition j = position j ∧ h.previousVelocity j = 0 ∧
      h.previousAcceleration j = 0 := by
    obtain ⟨hv, ha, hj⟩ := lastMotion_eq h (fun _ => 0) j
    obtain ⟨hv', ha', hj'⟩ := lastMotion_eq k (fun _ => 0) j
    rw [hzero, ← hrate, hposition] at hv'
    rw [hzero, ← hrate, hvelocity] at ha'
    rw [hzero, ← hrate, hacceleration] at hj'
    have h1 := mul_right_cancel₀ hne (hv.symm.trans hv')
    have h2 := mul_right_cancel₀ hne (ha.symm.trans ha')
    have h3 := mul_right_cancel₀ hne (hj.symm.trans hj')
    exact ⟨by linarith, by linarith, by linarith⟩
  have hzero' : (fun _ => zero : Joints δ) = fun _ => 0 := by simp
  rw [hzero']
  exact .inr ⟨funext fun j => (hjoint j).1, funext fun j => (hjoint j).2.1,
    funext fun j => (hjoint j).2.2⟩

end Exact

/-! ## Results -/

/-- **Failed calls.** No sequence of later calls tells that a failed call was made if it
    keeps what it assigns. In exact arithmetic an initialization is told apart otherwise. -/
theorem failed_call {δ : Type u} [Double δ] (h : ResamplerHandle δ) (call : Call δ)
    (error : ResamplerError δ) (hfail : (step h call).2 = .error error) :
    (Keeps h call → Alike step (step h call).1 h) ∧
    ∀ [Field δ] [LinearOrder δ] [IsStrictOrderedRing δ] [Exact δ] (position : Joints δ)
      (t : UInt64), call = .initializeAt (some position) t →
        (Alike step (step h call).1 h ↔ Keeps h call) := by
  have hkept (hk : Keeps h call) : Alike step (step h call).1 h :=
    agree_simulates.alike (hk.agree hfail)
  refine ⟨hkept, ?_⟩
  intro _ _ _ _ position t hcall
  subst hcall
  exact ⟨keeps_of_alike hfail, hkept⟩

/-- A handle that has emitted a point and accepted a destination. -/
def sessionHandle : ResamplerHandle ℚ :=
  final step (.ofResampler (.ofPeriod 8000000))
    [.initializeAt (some fun _ => 0) 1000, .configureTransition (some fun _ => 1) 2 2 400,
      .hold (some fun _ => 0) 1000 0, .accept (some fun _ => 1 / 100) 2000 1,
      .evaluateSelected 8001000 true]

/-- The velocities that the handle has, with a jerk limit that is refused, are not noticed
    later. -/
theorem failed_call_session :
    (step sessionHandle (.configureTransition (some fun _ => 1) 2 2 0)).2 =
        .error .invalidLimits ∧
      Alike step (step sessionHandle (.configureTransition (some fun _ => 1) 2 2 0)).1
        sessionHandle := by
  have hfail : (step sessionHandle (.configureTransition (some fun _ => 1) 2 2 0)).2 =
      .error .invalidLimits := by
    decide +kernel
  have hvelocity : sessionHandle.maximumVelocity = fun _ => 1 := by
    decide +kernel
  exact ⟨hfail, (failed_call _ _ .invalidLimits hfail).1 fun _ => hvelocity⟩

/-- Refused positions, velocities with a refused jerk limit, and a refused duration, which
    the next evaluations show. -/
theorem failed_calls_seen :
    create 8000000 = .ok (.ofResampler (.ofPeriod 8000000) : ResamplerHandle ℚ) ∧
    ∀ call ∈ ([.initializeAt (some fun _ => 7) 9000000,
        .configureTransition (some fun _ => 1 / 1000) 2 2 0,
        .accept (some fun _ => -1) 0xFFFFFFFFFFFFFFFF 2] : List (Call ℚ)),
      (∃ error, (step sessionHandle call).2 = .error error) ∧
        ¬Alike step (step sessionHandle call).1 sessionHandle := by
  have hlater {h k : ResamplerHandle ℚ}
      (hne : outputs step h [.evaluateSelected 16001000 true, .evaluateSelected 24001000 true] ≠
        outputs step k [.evaluateSelected 16001000 true, .evaluateSelected 24001000 true]) :
      ¬Alike step h k := fun halike => hne (halike _)
  refine ⟨rfl, ?_⟩
  intro call hcall
  simp only [List.mem_cons, List.not_mem_nil, or_false] at hcall
  obtain rfl | rfl | rfl := hcall
  · exact ⟨⟨.positionLimits, by decide +kernel⟩, hlater (by decide +kernel)⟩
  · exact ⟨⟨.invalidLimits, by decide +kernel⟩, hlater (by decide +kernel)⟩
  · exact ⟨⟨.segmentOverflow, by decide +kernel⟩, hlater (by decide +kernel)⟩

end HandLab.Resampler
