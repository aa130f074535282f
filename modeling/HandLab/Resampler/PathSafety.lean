import HandLab.Resampler.Atomic
import HandLab.Resampler.Kinematics

/-!
# The path of the resampler

Runs of `JointServoResampler` in exact arithmetic, in which a turn commits the point that it has
evaluated, as the worker and the C API do (`main.cpp`, lines 2920–3008; `resampler_c_api.cpp`,
lines 227–245).

* `Journey`: the resampler with the point emitted when its segment started and the target it has
  last accepted.
* `Fits`: the segment that a call begins ends at a time of the servo clock.
* `OnCourse`: what every such call keeps.
* `path_safe`: every point is on its segment, and the target is reached exactly and once.
-/

namespace HandLab.Resampler

open HandLab.Lib Double

variable {δ : Type*}

/-! ## Runs -/

/-- A resampler, the point emitted when the current segment started, and the target that was
    last accepted. -/
structure Journey (δ : Type*) where
  resampler : JointServoResampler δ
  origin : Joints δ
  target : Joints δ
  deriving DecidableEq

/-- A call of the resampler. `commit` and `limit` evaluate the point first, and `limit` commits
    the transition-limited one. -/
inductive ServoCall (δ : Type*)
  | initializeAt (measured : Joints δ) (servoTimeNs : UInt64)
  | hold (position : Joints δ) (acceptedNs sequence : UInt64)
  | accept (destination : Joints δ) (acceptedNs sequence : UInt64)
  | commit (servoTimeNs : UInt64)
  | limit (servoTimeNs : UInt64) (position velocity acceleration : Joints δ)
      (dtS accelerationBoundaryRadS2 jerkBoundaryRadS3 : δ)

namespace JointServoResampler

variable [Double δ]

/-- What `accept` asks of its arguments before it computes the end of the segment. -/
def Takes (r : JointServoResampler δ) (destination : Joints δ) (acceptedNs sequence : UInt64) :
    Prop :=
  r.initialized = true ∧ withinPositionLimits destination = true ∧
    (acceptedNs ≠ 0 ∧ sequence ≠ 0) ∧
      (r.hasAccepted = true → r.lastAcceptedNs < acceptedNs ∧ r.toSequence < sequence)

instance (r : JointServoResampler δ) (destination : Joints δ) (acceptedNs sequence : UInt64) :
    Decidable (r.Takes destination acceptedNs sequence) := by
  unfold Takes
  infer_instance

/-- The duration of the segment that `accept` begins. -/
def segmentNs (r : JointServoResampler δ) (acceptedNs : UInt64) : UInt64 :=
  if r.hasAccepted && !r.internalHold then acceptedNs - r.lastAcceptedNs else r.servoPeriodNs

end JointServoResampler

section Run

variable [Double δ]

/-- A resampler that has accepted nothing. -/
def Journey.new (resampler : JointServoResampler δ) : Journey δ :=
  ⟨resampler, resampler.start, resampler.destination⟩

def Journey.call (g : Journey δ) : ServoCall δ → Journey δ
  | .initializeAt measured servoTimeNs =>
    match g.resampler.initializeAt measured servoTimeNs with
    | (resampler, some _) => { g with resampler }
    | (resampler, none) => ⟨resampler, measured, measured⟩
  | .hold position acceptedNs sequence =>
    match g.resampler.hold position acceptedNs sequence with
    | (resampler, some _) => { g with resampler }
    | (resampler, none) => ⟨resampler, position, position⟩
  | .accept destination acceptedNs sequence =>
    match g.resampler.accept destination acceptedNs sequence with
    | (resampler, some _) => { g with resampler }
    | (resampler, none) => ⟨resampler, g.resampler.emitted, destination⟩
  | .commit servoTimeNs =>
    match g.resampler.evaluate servoTimeNs with
    | .error _ => g
    | .ok point => { g with resampler := (g.resampler.commit point).1 }
  | .limit servoTimeNs position velocity acceleration dtS accelerationBoundary jerkBoundary =>
    match g.resampler.evaluate servoTimeNs with
    | .error _ => g
    | .ok proposed =>
      match transitionLimitedPoint proposed position velocity acceleration dtS
        accelerationBoundary jerkBoundary with
      | .error _ => g
      | .ok point =>
        match g.resampler.commitTransitionLimited point with
        | (resampler, some _) => { g with resampler }
        | (resampler, none) => { g with resampler, origin := point.position }

/-- The points of the commits at the times. -/
def Journey.committed (g : Journey δ) : List UInt64 → List (ResampledServoPoint δ)
  | [] => []
  | servoTimeNs :: times =>
    match g.resampler.evaluate servoTimeNs with
    | .error _ => (g.call (.commit servoTimeNs)).committed times
    | .ok point => point :: (g.call (.commit servoTimeNs)).committed times

/-- The journey after commits at the times. -/
def Journey.commitAll (g : Journey δ) (times : List UInt64) : Journey δ :=
  run Journey.call g (times.map .commit)

/-- The segment that the call begins ends at a time of the servo clock. -/
def Fits (g : Journey δ) : ServoCall δ → Prop
  | .accept destination acceptedNs sequence =>
    g.resampler.Takes destination acceptedNs sequence →
      g.resampler.lastServoTimeNs.toNat + (g.resampler.segmentNs acceptedNs).toNat < 2 ^ 64
  | .limit servoTimeNs _ _ _ _ _ _ =>
    g.resampler.lastServoTimeNs ≤ servoTimeNs →
      servoTimeNs.toNat + g.resampler.servoPeriodNs.toNat < 2 ^ 64
  | _ => True

instance (g : Journey δ) : (c : ServoCall δ) → Decidable (Fits g c)
  | .initializeAt _ _ => isTrue trivial
  | .hold _ _ _ => isTrue trivial
  | .accept _ _ _ => inferInstanceAs (Decidable (_ → _))
  | .commit _ => isTrue trivial
  | .limit _ _ _ _ _ _ _ => inferInstanceAs (Decidable (_ → _))

/-! ## One evaluation -/

section Evaluate

variable {r : JointServoResampler δ} {t : UInt64} {point : ResampledServoPoint δ}

/-- A point without an active segment. -/
theorem evaluate_idle (h : r.evaluate t = .ok point) (hidle : r.active = false) :
    r.lastServoTimeNs ≤ t ∧ point.servoTimeNs = t ∧ point.position = r.emitted ∧
      point.endpoint = false := by
  obtain ⟨hle, htime, hpoint⟩ := evaluate_ok h
  rw [if_neg (by simp [hidle]), hidle] at hpoint
  exact ⟨hle, htime, hpoint⟩

theorem evaluate_active (h : r.evaluate t = .ok point) (hactive : r.active = true)
    (hsegment : r.segmentStartNs < r.segmentEndNs) :
    r.lastServoTimeNs ≤ t ∧ point.servoTimeNs = t ∧ point.position = r.positionAt t ∧
      point.alpha = r.alphaAt t ∧ point.endpoint = le (ofRat 1) (r.alphaAt t) := by
  obtain ⟨hle, htime, hpoint⟩ := evaluate_ok h
  rw [if_pos ⟨hactive, hsegment⟩] at hpoint
  exact ⟨hle, htime, hpoint⟩

end Evaluate

/-! ## One accepted target -/

/-- The segment that `accept` begins. -/
structure Begins (r s : JointServoResampler δ) (destination : Joints δ) (durationNs : UInt64) :
    Prop where
  emitted : s.emitted = r.emitted
  start : s.start = r.emitted
  destination : s.destination = destination
  servoPeriodNs : s.servoPeriodNs = r.servoPeriodNs
  lastServoTimeNs : s.lastServoTimeNs = r.lastServoTimeNs
  segmentStartNs : s.segmentStartNs = r.lastServoTimeNs
  segmentEndNs : s.segmentEndNs = r.lastServoTimeNs + durationNs
  active : s.active = true
  ready : s.initialized = true ∧ s.hasAccepted = true

section Accept

variable {r s : JointServoResampler δ} {destination : Joints δ} {acceptedNs sequence : UInt64}

omit [Double δ] in
theorem segmentNs_period (h : (r.hasAccepted && !r.internalHold) = false) :
    r.segmentNs acceptedNs = r.servoPeriodNs := by
  unfold JointServoResampler.segmentNs
  rw [h, if_neg Bool.false_ne_true]

omit [Double δ] in
theorem segmentNs_replaces (h : (r.hasAccepted && !r.internalHold) = true) :
    r.segmentNs acceptedNs = acceptedNs - r.lastAcceptedNs := by
  unfold JointServoResampler.segmentNs
  rw [h, if_pos rfl]

/-- `accept` refuses its arguments and changes nothing, or begins a segment; else its end is not
    a time. -/
theorem accept_cases (r : JointServoResampler δ) (destination : Joints δ)
    (acceptedNs sequence : UInt64) :
    (¬r.Takes destination acceptedNs sequence ∧
        ∃ error, r.accept destination acceptedNs sequence = (r, some error)) ∨
      r.Takes destination acceptedNs sequence ∧
        ((∃ s, r.accept destination acceptedNs sequence = (s, none) ∧
            Begins r s destination (r.segmentNs acceptedNs)) ∨
          2 ^ 64 ≤ r.lastServoTimeNs.toNat + (r.segmentNs acceptedNs).toNat ∧
            ∃ s error, r.accept destination acceptedNs sequence = (s, some error)) := by
  unfold JointServoResampler.accept JointServoResampler.Takes
  cases hinit : r.initialized with
  | false => exact .inl ⟨fun h => absurd h.1 nofun, _, rfl⟩
  | true =>
    cases hwithin : withinPositionLimits destination with
    | false => exact .inl ⟨fun h => absurd h.2.1 nofun, _, rfl⟩
    | true =>
      rw [Bool.not_true, if_neg Bool.false_ne_true, if_neg Bool.false_ne_true]
      by_cases hstamp : acceptedNs = 0 ∨ sequence = 0
      · rw [if_pos hstamp]
        exact .inl ⟨fun h => hstamp.elim h.2.2.1.1 h.2.2.1.2, _, rfl⟩
      rw [if_neg hstamp]
      have hstamps : acceptedNs ≠ 0 ∧ sequence ≠ 0 := not_or.mp hstamp
      cases haccepted : r.hasAccepted with
      | false =>
        rw [segmentNs_period (by rw [haccepted]; rfl)]
        exact .inr ⟨⟨rfl, rfl, hstamps, nofun⟩,
          .inl ⟨_, rfl, rfl, rfl, rfl, rfl, rfl, rfl, rfl, rfl, hinit, rfl⟩⟩
      | true =>
        rw [Bool.not_true, if_neg Bool.false_ne_true]
        by_cases hold : acceptedNs ≤ r.lastAcceptedNs
        · rw [if_pos hold]
          exact .inl ⟨fun h => UInt64.not_lt.mpr hold (h.2.2.2 rfl).1, _, rfl⟩
        rw [if_neg hold]
        by_cases hpast : sequence ≤ r.toSequence
        · rw [if_pos hpast]
          exact .inl ⟨fun h => UInt64.not_lt.mpr hpast (h.2.2.2 rfl).2, _, rfl⟩
        rw [if_neg hpast]
        refine .inr ⟨⟨rfl, rfl, hstamps, fun _ =>
          ⟨UInt64.not_le.mp hold, UInt64.not_le.mp hpast⟩⟩, ?_⟩
        cases hhold : r.internalHold with
        | true =>
          rw [segmentNs_period (by rw [haccepted, hhold]; rfl)]
          exact .inl ⟨_, rfl, rfl, rfl, rfl, rfl, rfl, rfl, rfl, rfl, hinit, haccepted⟩
        | false =>
          rw [if_neg Bool.false_ne_true, segmentNs_replaces (by rw [haccepted, hhold]; rfl)]
          dsimp only
          by_cases hover : maximumUnsigned - (r.retarget destination).segmentStartNs <
              acceptedNs - r.lastAcceptedNs
          · rw [if_pos hover]
            refine .inr ⟨?_, _, _, rfl⟩
            have hlt : (maximumUnsigned - r.lastServoTimeNs).toNat <
                (acceptedNs - r.lastAcceptedNs).toNat := UInt64.lt_iff_toNat_lt.mp hover
            have hmax : maximumUnsigned.toNat = 2 ^ 64 - 1 := rfl
            have hlast := r.lastServoTimeNs.toNat_lt
            rw [UInt64.toNat_sub_of_le _ _ (UInt64.le_iff_toNat_le.mpr (by omega)), hmax] at hlt
            omega
          · rw [if_neg hover]
            exact .inl ⟨_, rfl, rfl, rfl, rfl, rfl, rfl, rfl, rfl, rfl, hinit, haccepted⟩

end Accept

/-! ## One commit -/

section Commit

variable {r : JointServoResampler δ} {t : UInt64} {point : ResampledServoPoint δ}

/-- An evaluated point is never refused. -/
theorem commit_evaluated (h : r.evaluate t = .ok point) :
    r.commit point = ({ r.commitEmitted point with active := r.active && !point.endpoint }, none) := by
  have htime : ¬point.servoTimeNs < r.lastServoTimeNs := by
    rw [evaluate_servoTime h]
    exact UInt64.not_lt.mpr (evaluate_position h).1
  unfold JointServoResampler.commit
  rw [if_neg htime]
  rfl

theorem transitionLimitedPoint_ok {proposed : ResampledServoPoint δ}
    {position velocity acceleration : Joints δ} {dtS accelerationBoundary jerkBoundary : δ}
    (h : transitionLimitedPoint proposed position velocity acceleration dtS accelerationBoundary
      jerkBoundary = .ok point) :
    point.servoTimeNs = proposed.servoTimeNs ∧ withinPositionLimits point.position = true := by
  unfold transitionLimitedPoint at h
  split_ifs at h with htimestep hlimits
  dsimp only at h
  split_ifs at h with hwithin
  obtain rfl := Except.ok.inj h
  exact ⟨rfl, hwithin⟩

end Commit

/-! ## The invariant -/

/-- The segment leads from the origin to the target within the limits, it has begun and has not
    ended, and without one the target has been emitted. -/
structure OnCourse (g : Journey δ) : Prop where
  period : 0 < g.resampler.servoPeriodNs.toNat
  start : g.resampler.start = g.origin
  destination : g.resampler.destination = g.target
  within_origin : withinPositionLimits g.origin = true
  within_target : withinPositionLimits g.target = true
  within_emitted : withinPositionLimits g.resampler.emitted = true
  begun : g.resampler.segmentStartNs ≤ g.resampler.lastServoTimeNs
  ends : g.resampler.active = true → g.resampler.lastServoTimeNs < g.resampler.segmentEndNs
  arrived : g.resampler.active = false → g.resampler.emitted = g.target

section Invariant

variable {g : Journey δ} {t : UInt64} {point : ResampledServoPoint δ}

theorem OnCourse.segment (hg : OnCourse g) (hactive : g.resampler.active = true) :
    g.resampler.segmentStartNs < g.resampler.segmentEndNs :=
  UInt64.lt_of_le_of_lt hg.begun (hg.ends hactive)

theorem OnCourse.initializeAt (hg : OnCourse g) (measured : Joints δ) :
    OnCourse (g.call (.initializeAt measured t)) := by
  unfold Journey.call JointServoResampler.initializeAt
  dsimp only
  cases hwithin : withinPositionLimits measured with
  | false => exact hg
  | true =>
    rw [Bool.not_true, if_neg Bool.false_ne_true]
    by_cases hzero : t = 0
    · rw [if_pos hzero]
      exact hg
    · rw [if_neg hzero]
      exact ⟨hg.period, rfl, rfl, hwithin, hwithin, hwithin, UInt64.le_refl _, nofun, fun _ => rfl⟩

theorem OnCourse.hold (hg : OnCourse g) (position : Joints δ) (acceptedNs sequence : UInt64) :
    OnCourse (g.call (.hold position acceptedNs sequence)) := by
  unfold Journey.call JointServoResampler.hold
  dsimp only
  cases hinit : g.resampler.initialized with
  | false => exact hg
  | true =>
    rw [Bool.not_true, if_neg Bool.false_ne_true]
    cases hwithin : withinPositionLimits position with
    | false => exact hg
    | true =>
      rw [Bool.not_true, if_neg Bool.false_ne_true]
      by_cases hzero : acceptedNs = 0
      · rw [if_pos hzero]
        exact hg
      · rw [if_neg hzero]
        exact ⟨hg.period, rfl, rfl, hwithin, hwithin, hwithin, UInt64.le_refl _, nofun,
          fun _ => rfl⟩

/-- A segment that `accept` begins is not over. -/
theorem segmentNs_pos (hg : OnCourse g) {destination : Joints δ} {acceptedNs sequence : UInt64}
    (htakes : g.resampler.Takes destination acceptedNs sequence) :
    0 < (g.resampler.segmentNs acceptedNs).toNat := by
  by_cases hreplaces : (g.resampler.hasAccepted && !g.resampler.internalHold) = true
  · rw [segmentNs_replaces hreplaces]
    have hlt := (htakes.2.2.2 (Bool.and_eq_true_iff.mp hreplaces).1).1
    rw [UInt64.toNat_sub_of_le _ _ (UInt64.le_of_lt hlt)]
    exact Nat.sub_pos_of_lt (UInt64.lt_iff_toNat_lt.mp hlt)
  · rw [segmentNs_period (Bool.eq_false_iff.mpr hreplaces)]
    exact hg.period

theorem lt_add_of_fits {a b : UInt64} (hpos : 0 < b.toNat) (hfits : a.toNat + b.toNat < 2 ^ 64) :
    a < a + b := by
  rw [UInt64.lt_iff_toNat_lt, UInt64.toNat_add, Nat.mod_eq_of_lt hfits]
  omega

theorem OnCourse.accept (hg : OnCourse g) {destination : Joints δ} {acceptedNs sequence : UInt64}
    (hfits : Fits g (.accept destination acceptedNs sequence)) :
    OnCourse (g.call (.accept destination acceptedNs sequence)) := by
  unfold Journey.call
  dsimp only
  rcases accept_cases g.resampler destination acceptedNs sequence with
    ⟨-, error, h⟩ | ⟨htakes, ⟨s, h, hbegins⟩ | ⟨hover, -⟩⟩
  · rw [h]
    exact hg
  · rw [h]
    refine ⟨?_, hbegins.start, hbegins.destination, hg.within_emitted, htakes.2.1, ?_, ?_,
      fun _ => ?_, fun hidle => ?_⟩
    · rw [hbegins.servoPeriodNs]
      exact hg.period
    · rw [hbegins.emitted]
      exact hg.within_emitted
    · rw [hbegins.segmentStartNs, hbegins.lastServoTimeNs]
      exact UInt64.le_refl _
    · rw [hbegins.segmentEndNs, hbegins.lastServoTimeNs]
      exact lt_add_of_fits (segmentNs_pos hg htakes) (hfits htakes)
    · exact absurd (hbegins.active.symm.trans hidle) nofun
  · exact absurd (hfits htakes) (Nat.not_lt.mpr hover)

theorem OnCourse.limit (hg : OnCourse g) {position velocity acceleration : Joints δ}
    {dtS accelerationBoundary jerkBoundary : δ}
    (hfits : g.resampler.lastServoTimeNs ≤ t →
      t.toNat + g.resampler.servoPeriodNs.toNat < 2 ^ 64) :
    OnCourse (g.call (.limit t position velocity acceleration dtS accelerationBoundary
      jerkBoundary)) := by
  unfold Journey.call
  dsimp only
  cases h : g.resampler.evaluate t with
  | error error => exact hg
  | ok proposed =>
    dsimp only
    cases hlimit : transitionLimitedPoint proposed position velocity acceleration dtS
      accelerationBoundary jerkBoundary with
    | error error => exact hg
    | ok point =>
      obtain ⟨htime, hwithin⟩ := transitionLimitedPoint_ok hlimit
      rw [evaluate_servoTime h] at htime
      have hfits' := hfits (evaluate_position h).1
      have hback : ¬point.servoTimeNs < g.resampler.lastServoTimeNs := by
        rw [htime]
        exact UInt64.not_lt.mpr (evaluate_position h).1
      have hover : ¬maximumUnsigned - point.servoTimeNs < g.resampler.servoPeriodNs := by
        have hmax : maximumUnsigned.toNat = 2 ^ 64 - 1 := rfl
        have ht := t.toNat_lt
        rw [htime, UInt64.lt_iff_toNat_lt, UInt64.toNat_sub_of_le _ _
          (UInt64.le_iff_toNat_le.mpr (by omega)), hmax]
        omega
      have hcommit : g.resampler.commitTransitionLimited point =
          ({ g.resampler.emitLimited point with
              segmentEndNs := point.servoTimeNs + g.resampler.servoPeriodNs
              fromSequence := g.resampler.toSequence
              fromAcceptedNs := g.resampler.toAcceptedNs
              active := true }, none) := by
        unfold JointServoResampler.commitTransitionLimited
        rw [if_neg hback]
        exact if_neg hover
      dsimp only
      rw [hcommit]
      refine ⟨hg.period, rfl, hg.destination, hwithin, hg.within_target, hwithin,
        UInt64.le_refl _, fun _ => ?_, nofun⟩
      show point.servoTimeNs < point.servoTimeNs + g.resampler.servoPeriodNs
      rw [htime]
      exact lt_add_of_fits hg.period hfits'

theorem call_commit (g : Journey δ) (t : UInt64) :
    (g.call (.commit t)).target = g.target ∧
      (g.call (.commit t)).resampler.segmentStartNs = g.resampler.segmentStartNs ∧
      (g.call (.commit t)).resampler.segmentEndNs = g.resampler.segmentEndNs ∧
      ((g.call (.commit t)).resampler.active = true → g.resampler.active = true) := by
  unfold Journey.call
  dsimp only
  cases h : g.resampler.evaluate t with
  | error error => exact ⟨rfl, rfl, rfl, id⟩
  | ok point =>
    dsimp only
    rw [commit_evaluated h]
    exact ⟨rfl, rfl, rfl, fun hactive => (Bool.and_eq_true_iff.mp hactive).1⟩

theorem call_commit_active {t : UInt64} {point : ResampledServoPoint δ}
    (h : g.resampler.evaluate t = .ok point) :
    (g.call (.commit t)).resampler.active = (g.resampler.active && !point.endpoint) := by
  unfold Journey.call
  dsimp only
  rw [h]
  dsimp only
  rw [commit_evaluated h]

theorem call_commit_error {t : UInt64} {error : ResamplerError δ}
    (h : g.resampler.evaluate t = .error error) : g.call (.commit t) = g := by
  unfold Journey.call
  dsimp only
  rw [h]

theorem commitAll_segment (times : List UInt64) :
    (g.commitAll times).resampler.segmentStartNs = g.resampler.segmentStartNs ∧
      (g.commitAll times).resampler.segmentEndNs = g.resampler.segmentEndNs ∧
      ((g.commitAll times).resampler.active = true → g.resampler.active = true) := by
  unfold Journey.commitAll
  induction times generalizing g with
  | nil => exact ⟨rfl, rfl, id⟩
  | cons t times ih =>
    obtain ⟨-, hstart, hend, hactive⟩ := call_commit g t
    obtain ⟨hstart', hend', hactive'⟩ := @ih (g.call (.commit t))
    exact ⟨hstart'.trans hstart, hend'.trans hend, fun h => hactive (hactive' h)⟩

theorem exists_evaluate {r : JointServoResampler δ} {t : UInt64} (hinit : r.initialized = true)
    (haccepted : r.hasAccepted = true) (hle : r.lastServoTimeNs ≤ t) :
    ∃ point, r.evaluate t = .ok point := by
  unfold JointServoResampler.evaluate
  rw [hinit, haccepted, if_neg (UInt64.not_lt.mpr hle)]
  by_cases hidle : (!r.active) = true ∨ r.segmentEndNs ≤ r.segmentStartNs
  · rw [if_pos hidle]
    exact ⟨_, rfl⟩
  · rw [if_neg hidle]
    exact ⟨_, rfl⟩

theorem accepted_later {r s : JointServoResampler δ} {destination : Joints δ}
    {acceptedNs sequence : UInt64} (haccepted : r.hasAccepted = true)
    (h : r.accept destination acceptedNs sequence = (s, none)) : r.lastAcceptedNs < acceptedNs := by
  rcases accept_cases r destination acceptedNs sequence with
    ⟨-, error, hrefused⟩ | ⟨htakes, -⟩
  · exact absurd (congrArg Prod.snd (h.symm.trans hrefused)) nofun
  · exact (htakes.2.2.2 haccepted).1

end Invariant

end Run

/-! ## Safety and arrival -/

section Exact

variable [Field δ] [LinearOrder δ] [IsStrictOrderedRing δ] [Double δ]

/-- The position is on the segment from `origin` to `target`, at `a`. -/
def OnSegment (origin target position : Joints δ) (a : δ) : Prop :=
  0 ≤ a ∧ a ≤ 1 ∧ ∀ j, position j = origin j + a * (target j - origin j)

/-- The commits that follow reach the target: before the end of an active segment no point is an
    endpoint; the first point at or after it is the target and the endpoint; and every point after
    that, or with no segment active, is the target and no endpoint. -/
def Arrives (g : Journey δ) (points : List (ResampledServoPoint δ)) : Prop :=
  ∃ before rest, points = before ++ rest ∧
    (∀ p ∈ before, g.resampler.active = true ∧ p.servoTimeNs < g.resampler.segmentEndNs ∧
      p.endpoint = false) ∧
    if g.resampler.active = true then
      ∀ first later, rest = first :: later →
        g.resampler.segmentEndNs ≤ first.servoTimeNs ∧ first.position = g.target ∧
          first.endpoint = true ∧ ∀ p ∈ later, p.position = g.target ∧ p.endpoint = false
    else ∀ p ∈ rest, p.position = g.target ∧ p.endpoint = false

/-- The safety of the path and the arrival, in one state of a run. -/
structure PathSafe (g : Journey δ) : Prop where
  on_segment : ∀ t point, g.resampler.evaluate t = .ok point →
    (∃ a, OnSegment g.origin g.target point.position a ∧
      (g.resampler.active = true → point.alpha = a)) ∧
    withinPositionLimits point.position = true
  alpha_mono : ∀ times t t' p p', t ≤ t' → g.resampler.evaluate t = .ok p →
    (g.commitAll times).resampler.evaluate t' = .ok p' →
    (g.commitAll times).resampler.active = true → p.alpha ≤ p'.alpha
  no_jump : ∀ destination acceptedNs sequence resampler,
    g.resampler.accept destination acceptedNs sequence = (resampler, none) →
    ∃ point, resampler.evaluate g.resampler.lastServoTimeNs = .ok point ∧
      point.position = g.resampler.emitted
  no_underflow : ∀ t, g.resampler.lastServoTimeNs ≤ t → g.resampler.segmentStartNs ≤ t
  no_underflow_end : g.resampler.active = true →
    g.resampler.segmentStartNs < g.resampler.segmentEndNs
  no_underflow_accept : ∀ destination acceptedNs sequence resampler,
    g.resampler.hasAccepted = true →
    g.resampler.accept destination acceptedNs sequence = (resampler, none) →
    g.resampler.lastAcceptedNs < acceptedNs
  arrival : ∀ times, Arrives g (g.committed times)

/-! ## The course of a segment -/

variable [Exact δ]

section Alpha

variable {r : JointServoResampler δ} {t t' : UInt64}

theorem alphaAt_eq : (r.alphaAt t : δ) = Min.min 1 (((t - r.segmentStartNs).toNat : δ) /
    ((r.segmentEndNs - r.segmentStartNs).toNat : δ)) := by
  have hnonneg : (0 : δ) ≤ ((t - r.segmentStartNs).toNat : δ) /
      ((r.segmentEndNs - r.segmentStartNs).toNat : δ) := by
    positivity
  simp only [JointServoResampler.alphaAt, ofUnsigned, Exact.div_eq, Exact.ofRat_eq, Exact.zero_eq,
    Rat.cast_natCast, Rat.cast_one]
  rw [Exact.clamp_eq zero_le_one, max_eq_right (le_min zero_le_one hnonneg)]

theorem alphaAt_nonneg : (0 : δ) ≤ r.alphaAt t := by
  rw [alphaAt_eq]
  exact le_min zero_le_one (by positivity)

theorem alphaAt_le_one : (r.alphaAt t : δ) ≤ 1 := by
  rw [alphaAt_eq]
  exact min_le_left _ _

theorem alphaAt_mono (hstart : r.segmentStartNs ≤ t) (htime : t ≤ t') :
    (r.alphaAt t : δ) ≤ r.alphaAt t' := by
  have hsub : (t - r.segmentStartNs).toNat ≤ (t' - r.segmentStartNs).toNat := by
    rw [UInt64.toNat_sub_of_le _ _ hstart, UInt64.toNat_sub_of_le _ _ (UInt64.le_trans hstart htime)]
    exact Nat.sub_le_sub_right (UInt64.le_iff_toNat_le.mp htime) _
  rw [alphaAt_eq, alphaAt_eq]
  gcongr

/-- The end of the segment is where `alpha` gets to one. -/
theorem one_le_alphaAt_iff (hstart : r.segmentStartNs ≤ t)
    (hsegment : r.segmentStartNs < r.segmentEndNs) :
    (1 : δ) ≤ r.alphaAt t ↔ r.segmentEndNs ≤ t := by
  have hle := UInt64.le_iff_toNat_le.mp hstart
  have hlt := UInt64.lt_iff_toNat_lt.mp hsegment
  have hpos : (0 : δ) < ((r.segmentEndNs - r.segmentStartNs).toNat : δ) := by
    rw [UInt64.toNat_sub_of_le _ _ (UInt64.le_of_lt hsegment)]
    exact_mod_cast Nat.sub_pos_of_lt hlt
  rw [alphaAt_eq, le_min_iff, and_iff_right le_rfl, one_le_div hpos, Nat.cast_le,
    UInt64.toNat_sub_of_le _ _ (UInt64.le_of_lt hsegment), UInt64.toNat_sub_of_le _ _ hstart,
    UInt64.le_iff_toNat_le]
  omega

theorem onSegment_positionAt :
    OnSegment r.start r.destination (r.positionAt t) (r.alphaAt t) := by
  refine ⟨alphaAt_nonneg, alphaAt_le_one, fun j => ?_⟩
  simp only [JointServoResampler.positionAt, Exact.add_eq, Exact.mul_eq, Exact.sub_eq]

end Alpha

omit [Double δ] [Exact δ] in
theorem onSegment_target (origin target : Joints δ) :
    OnSegment origin target target 1 := by
  refine ⟨zero_le_one, le_rfl, fun j => ?_⟩
  ring

omit [IsStrictOrderedRing δ] [Double δ] [Exact δ] in
theorem OnSegment.eq_target {origin target position : Joints δ} {a : δ}
    (h : OnSegment origin target position a) (ha : 1 ≤ a) : position = target := by
  obtain ⟨-, hle, hposition⟩ := h
  obtain rfl := le_antisymm hle ha
  funext j
  rw [hposition j]
  ring

theorem withinPositionLimits_iff {position : Joints δ} :
    withinPositionLimits position = true ↔
      ∀ j, (jointLower j : δ) ≤ position j ∧ position j ≤ jointUpper j := by
  rw [withinPositionLimits, List.all_eq_true]
  simp

/-- The limits of the manufacturer hold on a segment if they hold at its ends. -/
theorem OnSegment.within {origin target position : Joints δ} {a : δ}
    (h : OnSegment origin target position a) (horigin : withinPositionLimits origin = true)
    (htarget : withinPositionLimits target = true) : withinPositionLimits position = true := by
  obtain ⟨hnonneg, hle, hposition⟩ := h
  rw [withinPositionLimits_iff] at horigin htarget ⊢
  intro j
  obtain ⟨hlow, hhigh⟩ := horigin j
  obtain ⟨hlow', hhigh'⟩ := htarget j
  rw [hposition j]
  have heq : origin j + a * (target j - origin j) = (1 - a) * origin j + a * target j := by
    ring
  rw [heq]
  constructor
  · nlinarith [sub_nonneg.mpr hle]
  · nlinarith [sub_nonneg.mpr hle]

/-! ## What an evaluated point is -/

section Points

variable {g : Journey δ} {t : UInt64} {point : ResampledServoPoint δ}

theorem OnCourse.on_segment (hg : OnCourse g) (h : g.resampler.evaluate t = .ok point) :
    ∃ a, OnSegment g.origin g.target point.position a ∧
      (g.resampler.active = true → point.alpha = a) := by
  cases hactive : g.resampler.active with
  | true =>
    obtain ⟨-, -, hposition, halpha, -⟩ := evaluate_active h hactive (hg.segment hactive)
    refine ⟨g.resampler.alphaAt t, ?_, fun _ => halpha⟩
    rw [hposition, ← hg.start, ← hg.destination]
    exact onSegment_positionAt
  | false =>
    obtain ⟨-, -, hposition, -⟩ := evaluate_idle h hactive
    refine ⟨1, ?_, nofun⟩
    rw [hposition, hg.arrived hactive]
    exact onSegment_target _ _

theorem OnCourse.endpoint_iff (hg : OnCourse g) (h : g.resampler.evaluate t = .ok point)
    (hactive : g.resampler.active = true) :
    point.endpoint = true ↔ g.resampler.segmentEndNs ≤ t := by
  obtain ⟨hle, -, -, -, hendpoint⟩ := evaluate_active h hactive (hg.segment hactive)
  rw [hendpoint, Exact.le_eq, Exact.ofRat_eq, Rat.cast_one, decide_eq_true_eq]
  exact one_le_alphaAt_iff (UInt64.le_trans hg.begun hle) (hg.segment hactive)

theorem OnCourse.endpoint_position (hg : OnCourse g) (h : g.resampler.evaluate t = .ok point)
    (hactive : g.resampler.active = true) (hendpoint : point.endpoint = true) :
    point.position = g.target := by
  obtain ⟨hle, -, hposition, -, -⟩ := evaluate_active h hactive (hg.segment hactive)
  have hone := (one_le_alphaAt_iff (δ := δ) (UInt64.le_trans hg.begun hle)
    (hg.segment hactive)).mpr ((hg.endpoint_iff h hactive).mp hendpoint)
  have hsegment : OnSegment g.origin g.target point.position (g.resampler.alphaAt t) := by
    rw [hposition, ← hg.start, ← hg.destination]
    exact onSegment_positionAt
  exact hsegment.eq_target hone

theorem OnCourse.within (hg : OnCourse g) (h : g.resampler.evaluate t = .ok point) :
    withinPositionLimits point.position = true := by
  obtain ⟨a, hsegment, -⟩ := hg.on_segment h
  exact hsegment.within hg.within_origin hg.within_target

/-! ## One call -/

theorem OnCourse.commit (hg : OnCourse g) : OnCourse (g.call (.commit t)) := by
  unfold Journey.call
  dsimp only
  cases h : g.resampler.evaluate t with
  | error error => exact hg
  | ok point =>
    have hle := (evaluate_position h).1
    have htime := evaluate_servoTime h
    dsimp only
    rw [commit_evaluated h]
    refine ⟨hg.period, hg.start, hg.destination, hg.within_origin, hg.within_target, hg.within h,
      ?_, fun hactive => ?_, fun hidle => ?_⟩
    · show g.resampler.segmentStartNs ≤ point.servoTimeNs
      rw [htime]
      exact UInt64.le_trans hg.begun hle
    · show point.servoTimeNs < g.resampler.segmentEndNs
      obtain ⟨hmoving, hendpoint⟩ := Bool.and_eq_true_iff.mp hactive
      rw [htime, ← UInt64.not_le, ← hg.endpoint_iff h hmoving]
      exact fun hbad => absurd (hendpoint.symm.trans (congrArg not hbad)) nofun
    · show point.position = g.target
      cases hmoving : g.resampler.active with
      | false =>
        rw [(evaluate_idle h hmoving).2.2.1]
        exact hg.arrived hmoving
      | true =>
        refine hg.endpoint_position h hmoving ?_
        have hnot : (true && !point.endpoint) = false := by
          rw [← hmoving]
          exact hidle
        simpa using hnot

/-- **One call** keeps the course. -/
theorem OnCourse.call (hg : OnCourse g) {c : ServoCall δ} (hfits : Fits g c) :
    OnCourse (g.call c) := by
  cases c with
  | initializeAt measured t => exact hg.initializeAt measured
  | hold position acceptedNs sequence => exact hg.hold position acceptedNs sequence
  | accept destination acceptedNs sequence => exact hg.accept hfits
  | commit t => exact hg.commit
  | limit t position velocity acceleration dtS accelerationBoundary jerkBoundary =>
    exact hg.limit hfits

end Points

/-! ## The commits that follow -/

section Commits

variable {g : Journey δ}

theorem OnCourse.commitAll (hg : OnCourse g) (times : List UInt64) : OnCourse (g.commitAll times) := by
  unfold Journey.commitAll
  induction times generalizing g with
  | nil => exact hg
  | cons t times ih => exact ih hg.commit

/-- With no segment active every point is the target. -/
theorem committed_idle (hg : OnCourse g) (hidle : g.resampler.active = false)
    (times : List UInt64) :
    ∀ p ∈ g.committed times, p.position = g.target ∧ p.endpoint = false := by
  induction times generalizing g with
  | nil => exact fun p hp => absurd hp List.not_mem_nil
  | cons t times ih =>
    unfold Journey.committed
    cases h : g.resampler.evaluate t with
    | error error =>
      dsimp only
      rw [call_commit_error h]
      exact ih hg hidle
    | ok point =>
      obtain ⟨-, -, hposition, hendpoint⟩ := evaluate_idle h hidle
      have hnext : (g.call (.commit t)).resampler.active = false := by
        rw [call_commit_active h, hidle]
        rfl
      refine List.forall_mem_cons.mpr ⟨⟨hposition.trans (hg.arrived hidle), hendpoint⟩, ?_⟩
      rw [← (call_commit g t).1]
      exact ih hg.commit hnext

/-- By induction on the commits: until the first at or after the end the segment stays active. -/
theorem arrives_active (hg : OnCourse g) (hactive : g.resampler.active = true)
    (times : List UInt64) :
    ∃ before rest, g.committed times = before ++ rest ∧
      (∀ p ∈ before, p.servoTimeNs < g.resampler.segmentEndNs ∧ p.endpoint = false) ∧
      ∀ first later, rest = first :: later →
        g.resampler.segmentEndNs ≤ first.servoTimeNs ∧ first.position = g.target ∧
          first.endpoint = true ∧ ∀ p ∈ later, p.position = g.target ∧ p.endpoint = false := by
  induction times generalizing g with
  | nil => exact ⟨[], [], rfl, fun p hp => absurd hp List.not_mem_nil, nofun⟩
  | cons t times ih =>
    unfold Journey.committed
    cases h : g.resampler.evaluate t with
    | error error =>
      dsimp only
      rw [call_commit_error h]
      exact ih hg hactive
    | ok point =>
      dsimp only
      have htime := evaluate_servoTime h
      have hnext := call_commit_active h
      rw [hactive, Bool.true_and] at hnext
      cases hendpoint : point.endpoint with
      | true =>
        rw [hendpoint] at hnext
        refine ⟨[], _, rfl, fun p hp => absurd hp List.not_mem_nil, fun first later hrest => ?_⟩
        obtain ⟨rfl, rfl⟩ := List.cons.inj hrest
        refine ⟨?_, hg.endpoint_position h hactive hendpoint, hendpoint, ?_⟩
        · rw [htime]
          exact (hg.endpoint_iff h hactive).mp hendpoint
        · rw [← (call_commit g t).1]
          exact committed_idle hg.commit hnext times
      | false =>
        rw [hendpoint] at hnext
        obtain ⟨htarget, -, hend, -⟩ := call_commit g t
        obtain ⟨before, rest, hpoints, hbefore, hrest⟩ := ih hg.commit hnext
        rw [hend] at hbefore hrest
        rw [htarget] at hrest
        refine ⟨point :: before, rest, by rw [hpoints]; rfl, ?_, hrest⟩
        refine List.forall_mem_cons.mpr ⟨⟨?_, hendpoint⟩, hbefore⟩
        rw [htime, ← UInt64.not_le, ← hg.endpoint_iff h hactive, hendpoint]
        exact Bool.false_ne_true

/-- **Arrival.** -/
theorem OnCourse.arrives (hg : OnCourse g) (times : List UInt64) :
    Arrives g (g.committed times) := by
  by_cases hactive : g.resampler.active = true
  · obtain ⟨before, rest, hpoints, hbefore, hrest⟩ := arrives_active hg hactive times
    refine ⟨before, rest, hpoints, fun p hp => ⟨hactive, hbefore p hp⟩, ?_⟩
    rw [if_pos hactive]
    exact hrest
  · refine ⟨[], _, rfl, fun p hp => absurd hp List.not_mem_nil, ?_⟩
    rw [if_neg hactive]
    exact committed_idle hg (Bool.eq_false_iff.mpr hactive) times

end Commits

/-! ## Every run -/

section Safe

variable {g : Journey δ}

theorem alpha_mono_of_onCourse (hg : OnCourse g) {times : List UInt64} {t t' : UInt64}
    {p p' : ResampledServoPoint δ} (htime : t ≤ t') (h : g.resampler.evaluate t = .ok p)
    (h' : (g.commitAll times).resampler.evaluate t' = .ok p')
    (hactive' : (g.commitAll times).resampler.active = true) : p.alpha ≤ p'.alpha := by
  obtain ⟨hstart, hend, hactive⟩ := commitAll_segment (g := g) times
  have hsegment := hg.segment (hactive hactive')
  obtain ⟨hle, -, -, halpha, -⟩ := evaluate_active h (hactive hactive') hsegment
  obtain ⟨-, -, -, halpha', -⟩ :=
    evaluate_active h' hactive' ((hg.commitAll times).segment hactive')
  have hsame : (g.commitAll times).resampler.alphaAt t' = g.resampler.alphaAt t' := by
    unfold JointServoResampler.alphaAt
    rw [hstart, hend]
  rw [halpha, halpha', hsame]
  exact alphaAt_mono (UInt64.le_trans hg.begun hle) htime

/-- The segment of an accepted target starts at the point that was emitted last. -/
theorem no_jump_of_accept {r s : JointServoResampler δ} {destination : Joints δ}
    {acceptedNs sequence : UInt64} (h : r.accept destination acceptedNs sequence = (s, none)) :
    ∃ point, s.evaluate r.lastServoTimeNs = .ok point ∧ point.position = r.emitted := by
  rcases accept_cases r destination acceptedNs sequence with
    ⟨-, error, hrefused⟩ | ⟨-, ⟨s', haccept, hbegins⟩ | ⟨-, s', error, hover⟩⟩
  · exact absurd (congrArg Prod.snd (h.symm.trans hrefused)) nofun
  · obtain rfl : s = s' := congrArg Prod.fst (h.symm.trans haccept)
    have hnow : s.lastServoTimeNs ≤ r.lastServoTimeNs := by
      rw [hbegins.lastServoTimeNs]
      exact UInt64.le_refl _
    obtain ⟨point, hpoint⟩ := exists_evaluate hbegins.ready.1 hbegins.ready.2 hnow
    refine ⟨point, hpoint, ?_⟩
    have haligned := aligned_of_start (hbegins.start.trans hbegins.emitted.symm)
      (hbegins.segmentStartNs.trans hbegins.lastServoTimeNs.symm)
    rw [(evaluate_position hpoint).2, ← hbegins.emitted]
    by_cases hmoving : s.active = true ∧ s.segmentStartNs < s.segmentEndNs
    · rw [if_pos hmoving, ← hbegins.lastServoTimeNs]
      exact haligned hmoving.1 hmoving.2
    · rw [if_neg hmoving]
  · exact absurd (congrArg Prod.snd (h.symm.trans hover)) nofun

theorem OnCourse.pathSafe (hg : OnCourse g) : PathSafe g where
  on_segment _ _ h := ⟨hg.on_segment h, hg.within h⟩
  alpha_mono _ _ _ _ _ htime h h' hactive := alpha_mono_of_onCourse hg htime h h' hactive
  no_jump _ _ _ _ h := no_jump_of_accept h
  no_underflow _ hle := UInt64.le_trans hg.begun hle
  no_underflow_end := hg.segment
  no_underflow_accept _ _ _ _ haccepted h := accepted_later haccepted h
  arrival := hg.arrives

theorem onCourse_new {servoPeriodNs : UInt64} {r : JointServoResampler δ}
    (hr : JointServoResampler.create servoPeriodNs = .ok r) : OnCourse (Journey.new r) := by
  unfold JointServoResampler.create at hr
  by_cases hbad : servoPeriodNs = 0 ∨ servoPeriodNs % controllerServoPeriodNs ≠ 0
  · rw [if_pos hbad] at hr
    exact absurd hr nofun
  rw [if_neg hbad] at hr
  obtain rfl := Except.ok.inj hr
  have hzero : withinPositionLimits (fun _ => (zero : δ)) = true := by
    rw [Exact.zero_eq]
    exact within_zero
  refine ⟨?_, rfl, rfl, hzero, hzero, hzero, UInt64.le_refl _, nofun, fun _ => rfl⟩
  refine Nat.pos_of_ne_zero fun heq => hbad (.inl ?_)
  exact UInt64.toNat_inj.mp heq

/-- **Path safety and arrival.** In every state of a run whose segments end at times of the servo
    clock, the points are on their segments, and the target is reached exactly and once. -/
theorem path_safe {servoPeriodNs : UInt64} {r : JointServoResampler δ}
    (hr : JointServoResampler.create servoPeriodNs = .ok r) {calls : List (ServoCall δ)}
    (hfits : Meets Journey.call Fits (Journey.new r) calls) :
    PathSafe (run Journey.call (Journey.new r) calls) :=
  (run_invariant_of_meets (P := OnCourse) (fun _ _ hfit hg => hg.call hfit) (onCourse_new hr)
    hfits).pathSafe

end Safe

end Exact

/-- A segment that is preempted, shaped, replaced and ended. -/
def preemptedCalls : List (ServoCall ℚ) :=
  [.initializeAt (fun _ => 0) 1000, .hold (fun _ => 0) 1000 0, .accept (fun _ => 1 / 2) 2000 1,
    .commit 4001000, .accept (fun _ => 1) 16002000 2,
    .limit 8001000 (fun _ => 1 / 4) (fun _ => 0) (fun _ => 0) (1 / 125) 2 400, .commit 20001000,
    .accept (fun _ => 1 / 2) 32002000 3, .commit 40001000]

/-- It arrives. -/
theorem path_safe_preempted :
    PathSafe (run Journey.call (Journey.new (.ofPeriod 8000000)) preemptedCalls) := by
  have hcreate : JointServoResampler.create 8000000 =
      .ok (.ofPeriod 8000000 : JointServoResampler ℚ) := by
    decide +kernel
  exact path_safe hcreate (by decide +kernel)

/-! ## A segment whose end wraps around -/

/-- A target accepted at the last time of the servo clock. -/
def wrappedJourney : Journey ℚ :=
  run Journey.call (Journey.new (.ofPeriod 8000000))
    [.initializeAt (fun _ => 0) maximumUnsigned, .accept (fun _ => 1) 1 1]

/-- The first point of the segment is flagged as the endpoint where the segment starts, and the
    target is never reached. -/
theorem wrapped_segment_lost :
    ((wrappedJourney.committed [maximumUnsigned, maximumUnsigned]).map fun p =>
        (p.position 0, p.endpoint)) = [(0, true), (0, false)] ∧
      wrappedJourney.target 0 = 1 ∧ ¬PathSafe wrappedJourney := by
  have hpoints : ((wrappedJourney.committed [maximumUnsigned]).map fun p =>
      (p.position 0, p.endpoint)) = [(0, true)] := by
    decide +kernel
  have hactive : wrappedJourney.resampler.active = true := by decide +kernel
  have htarget : wrappedJourney.target 0 = 1 := by decide +kernel
  refine ⟨by decide +kernel, htarget, fun hsafe => ?_⟩
  obtain ⟨before, rest, heq, hbefore, hrest⟩ := hsafe.arrival [maximumUnsigned]
  rw [if_pos hactive] at hrest
  rw [heq, List.map_append] at hpoints
  cases before with
  | cons p before =>
    have hendpoint := (hbefore p List.mem_cons_self).2.2
    have hflag := congrArg Prod.snd (List.cons.inj hpoints).1
    exact absurd (hflag.symm.trans hendpoint) nofun
  | nil =>
    cases rest with
    | nil => exact absurd hpoints nofun
    | cons first later =>
      have hposition := congrFun (hrest first later rfl).2.1 0
      have hzero : first.position 0 = 0 := congrArg Prod.fst (List.cons.inj hpoints).1
      rw [htarget, hzero] at hposition
      exact absurd hposition (by decide)

end HandLab.Resampler
