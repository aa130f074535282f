import HandLab.Lib.Numeral
import Mathlib.Data.List.Chain
import Mathlib.Tactic.Linarith
import Mathlib.Tactic.LinearCombination
import Mathlib.Tactic.Positivity
import Mathlib.Tactic.Ring

/-!
# Clamped third-order motion

One axis follows a desired velocity in steps of fixed length: the acceleration
moves towards it by the jerk limit at most, the velocity is clamped after the
acceleration has been integrated, and the acceleration is kept as it was before
that clamp.

* `abs_saturate_sub_le`: how far saturation takes a value from where a step started.
* `abs_accelerate_sub_le`: the kept acceleration has the jerk limit.
* `Tracks.advance`: what the kept acceleration says about the motion, a step lemma.
* `Tracks.jerk_iff`: a step keeps the jerk limit exactly if the motion before it
  leaves slack below the velocity limit.
* `successive_bounded_iff`, `keepsBounds_iff`: the run lemma, for the positions of a
  run from rest.
* `position_advance_le_iff`: when a step ends before an edge.
-/

namespace HandLab.Lib

variable {K : Type*} [Field K] [LinearOrder K] [IsStrictOrderedRing K]

/-! ## Saturation -/

/-- `x`, kept within `bound` on either side. -/
def saturate (bound x : K) : K := max (-bound) (min bound x)

section Saturate

variable {bound x y : K}

theorem saturate_neg (hbound : 0 ≤ bound) : saturate bound (-x) = -saturate bound x := by
  unfold saturate
  have h : -bound ≤ bound := by linarith
  rcases le_total bound x with hx | hx
  · rw [min_eq_left hx, min_eq_right (by linarith), max_eq_left (by linarith), max_eq_right h]
  · rw [min_eq_right hx]
    rcases le_total (-bound) x with hx' | hx'
    · rw [max_eq_right hx', min_eq_right (by linarith), max_eq_right (by linarith)]
    · rw [max_eq_left hx', min_eq_left (by linarith), max_eq_right (by linarith), neg_neg]

theorem abs_saturate_le (hbound : 0 ≤ bound) (x : K) : |saturate bound x| ≤ bound :=
  abs_le.mpr ⟨le_max_left _ _, max_le (by linarith) (min_le_left _ _)⟩

theorem saturate_eq (h : |x| ≤ bound) : saturate bound x = x := by
  obtain ⟨hlow, hhigh⟩ := abs_le.mp h
  rw [saturate, min_eq_right hhigh, max_eq_right hlow]

omit [IsStrictOrderedRing K] in
theorem saturate_mono (bound : K) (h : x ≤ y) : saturate bound x ≤ saturate bound y :=
  max_le_max le_rfl (min_le_min le_rfl h)

omit [IsStrictOrderedRing K] in
/-- Below the upper bound, saturation only raises. -/
theorem le_saturate (h : x ≤ bound) : x ≤ saturate bound x := by
  rw [saturate, min_eq_right h]
  exact le_max_right _ _

/-- Which of three values saturation gives. -/
theorem saturate_cases (hbound : 0 ≤ bound) (x : K) :
    (saturate bound x = bound ∧ bound ≤ x) ∨ (saturate bound x = -bound ∧ x ≤ -bound) ∨
      (saturate bound x = x ∧ |x| ≤ bound) := by
  rcases le_total bound x with hx | hx
  · left
    rw [saturate, min_eq_left hx, max_eq_right (by linarith)]
    exact ⟨rfl, hx⟩
  right
  rcases le_total x (-bound) with hx' | hx'
  · left
    rw [saturate, min_eq_right hx, max_eq_left hx']
    exact ⟨rfl, hx'⟩
  · right
    exact ⟨saturate_eq (abs_le.mpr ⟨hx', hx⟩), abs_le.mpr ⟨hx', hx⟩⟩

/-- A saturated step leaves its start by no more than the step is long, or than the start
    was beyond the bound. -/
theorem abs_saturate_sub_le (hbound : 0 ≤ bound) {start change beyond : K}
    (hx : |x - start| ≤ change) (hstart : |start| ≤ bound + beyond) :
    |saturate bound x - start| ≤ max change beyond := by
  obtain ⟨hxLow, hxHigh⟩ := abs_le.mp hx
  obtain ⟨hlow, hhigh⟩ := abs_le.mp hstart
  have hchange : 0 ≤ change := (abs_nonneg _).trans hx
  rcases saturate_cases hbound x with ⟨heq, hle⟩ | ⟨heq, hle⟩ | ⟨heq, -⟩
  · rw [heq]
    rcases le_total start bound with h | h
    · exact le_max_of_le_left (abs_le.mpr ⟨by linarith, by linarith⟩)
    · exact le_max_of_le_right (abs_le.mpr ⟨by linarith, by linarith⟩)
  · rw [heq]
    rcases le_total (-bound) start with h | h
    · exact le_max_of_le_left (abs_le.mpr ⟨by linarith, by linarith⟩)
    · exact le_max_of_le_right (abs_le.mpr ⟨by linarith, by linarith⟩)
  · rw [heq]
    exact le_max_of_le_left hx

end Saturate

/-! ## The law -/

/-- The limits of an axis, and the length of a step. -/
structure MotionLimits (K : Type*) [Field K] [LinearOrder K] where
  velocity : K
  acceleration : K
  jerk : K
  dt : K
  velocity_pos : 0 < velocity
  acceleration_pos : 0 < acceleration
  jerk_pos : 0 < jerk
  dt_pos : 0 < dt

/-- What an axis keeps between steps. -/
structure AxisMotion (K : Type*) where
  position : K
  velocity : K
  acceleration : K

/-- `P` of every four successive values after the first three. -/
def Successive (P : K → K → K → K → Prop) : K → K → K → List K → Prop
  | _, _, _, [] => True
  | p₀, p₁, p₂, p₃ :: rest => P p₀ p₁ p₂ p₃ ∧ Successive P p₁ p₂ p₃ rest

instance decidableSuccessive {P : K → K → K → K → Prop}
    [∀ p₀ p₁ p₂ p₃, Decidable (P p₀ p₁ p₂ p₃)] :
    (p₀ p₁ p₂ : K) → (positions : List K) → Decidable (Successive P p₀ p₁ p₂ positions)
  | _, _, _, [] => isTrue trivial
  | p₀, p₁, p₂, p₃ :: rest =>
    have : Decidable (Successive P p₁ p₂ p₃ rest) := decidableSuccessive p₁ p₂ p₃ rest
    inferInstanceAs (Decidable (P p₀ p₁ p₂ p₃ ∧ Successive P p₁ p₂ p₃ rest))

namespace MotionLimits

variable (l : MotionLimits K)

/-- The acceleration of a step towards a desired velocity. -/
def accelerate (desired : K) (m : AxisMotion K) : K :=
  saturate l.acceleration (m.acceleration + saturate (l.jerk * l.dt)
    (saturate l.acceleration ((desired - m.velocity) / l.dt) - m.acceleration))

/-- One step towards a desired velocity. -/
def advance (desired : K) (m : AxisMotion K) : AxisMotion K where
  position := m.position +
    saturate l.velocity (m.velocity + l.accelerate desired m * l.dt) * l.dt
  velocity := saturate l.velocity (m.velocity + l.accelerate desired m * l.dt)
  acceleration := l.accelerate desired m

/-- The axis at rest. -/
def rest (position : K) : AxisMotion K := ⟨position, 0, 0⟩

/-- The motion the other way. -/
def mirror (m : AxisMotion K) : AxisMotion K := ⟨-m.position, -m.velocity, -m.acceleration⟩

variable {l} {desired : K} {m : AxisMotion K}

theorem jerk_dt_nonneg : 0 ≤ l.jerk * l.dt := (mul_pos l.jerk_pos l.dt_pos).le

theorem accelerate_mirror : l.accelerate (-desired) (mirror m) = -l.accelerate desired m := by
  unfold accelerate mirror
  have hdesired : (-desired - -m.velocity) / l.dt = -((desired - m.velocity) / l.dt) := by ring
  dsimp only
  rw [hdesired, saturate_neg l.acceleration_pos.le, ← neg_sub', saturate_neg jerk_dt_nonneg,
    ← neg_add, saturate_neg l.acceleration_pos.le]

/-- The law does not tell the two directions apart. -/
theorem advance_mirror : l.advance (-desired) (mirror m) = mirror (l.advance desired m) := by
  have hvelocity : (mirror m).velocity + -l.accelerate desired m * l.dt =
      -(m.velocity + l.accelerate desired m * l.dt) := by
    unfold mirror
    ring
  unfold advance
  rw [accelerate_mirror, hvelocity, saturate_neg l.velocity_pos.le]
  unfold mirror
  dsimp only
  congr 1
  ring

theorem abs_accelerate_le : |l.accelerate desired m| ≤ l.acceleration :=
  abs_saturate_le l.acceleration_pos.le _

/-- The kept acceleration changes by the jerk limit at most. -/
theorem abs_accelerate_sub_le (hm : |m.acceleration| ≤ l.acceleration) :
    |l.accelerate desired m - m.acceleration| ≤ l.jerk * l.dt := by
  obtain ⟨hlow, hhigh⟩ := abs_le.mp hm
  obtain ⟨hslow, hshigh⟩ := abs_le.mp (abs_saturate_le (jerk_dt_nonneg (l := l))
    (saturate l.acceleration ((desired - m.velocity) / l.dt) - m.acceleration))
  unfold accelerate
  rw [abs_le]
  rcases saturate_cases l.acceleration_pos.le (m.acceleration + saturate (l.jerk * l.dt)
    (saturate l.acceleration ((desired - m.velocity) / l.dt) - m.acceleration)) with
    ⟨heq, hle⟩ | ⟨heq, hle⟩ | ⟨heq, -⟩
  · rw [heq]
    constructor <;> linarith
  · rw [heq]
    constructor <;> linarith
  · rw [heq]
    constructor <;> linarith

theorem accelerate_of_above (hm : |m.acceleration| ≤ l.acceleration)
    (hdesired : desired ≤ m.velocity) (hnonneg : 0 ≤ m.acceleration) :
    l.accelerate desired m ≤ m.acceleration ∧
      desired - m.velocity ≤ l.accelerate desired m * l.dt := by
  obtain ⟨hlow, hhigh⟩ := abs_le.mp hm
  have hnegative : (desired - m.velocity) / l.dt ≤ 0 :=
    div_nonpos_of_nonpos_of_nonneg (by linarith) l.dt_pos.le
  have htoward : (desired - m.velocity) / l.dt ≤
      saturate l.acceleration ((desired - m.velocity) / l.dt) :=
    le_saturate (hnegative.trans l.acceleration_pos.le)
  have hfalls : saturate l.acceleration ((desired - m.velocity) / l.dt) ≤ 0 := by
    have h := saturate_mono l.acceleration hnegative
    rwa [saturate_eq (x := (0 : K)) (by rw [abs_zero]; exact l.acceleration_pos.le)] at h
  have hbound := (abs_le.mp (abs_saturate_le l.acceleration_pos.le
    ((desired - m.velocity) / l.dt))).1
  generalize hgoal : saturate l.acceleration ((desired - m.velocity) / l.dt) = goal at *
  have hstep : goal - m.acceleration ≤ saturate (l.jerk * l.dt) (goal - m.acceleration) :=
    le_saturate (by linarith [jerk_dt_nonneg (l := l)])
  have hdown : saturate (l.jerk * l.dt) (goal - m.acceleration) ≤ 0 := by
    have h := saturate_mono (l.jerk * l.dt)
      (show goal - m.acceleration ≤ 0 by linarith)
    rwa [saturate_eq (x := (0 : K)) (by rw [abs_zero]; exact jerk_dt_nonneg)] at h
  have heq : l.accelerate desired m =
      m.acceleration + saturate (l.jerk * l.dt) (goal - m.acceleration) := by
    unfold accelerate
    rw [hgoal]
    exact saturate_eq (abs_le.mpr ⟨by linarith, by linarith⟩)
  rw [heq]
  refine ⟨by linarith, ?_⟩
  rw [← div_le_iff₀ l.dt_pos]
  linarith

/-! ## What the kept acceleration says -/

/-- After a step from velocity `before`, the axis moves with its kept acceleration,
    or at a velocity limit that cut this acceleration. -/
structure Tracks (l : MotionLimits K) (before : K) (m : AxisMotion K) : Prop where
  velocity : |m.velocity| ≤ l.velocity
  acceleration : |m.acceleration| ≤ l.acceleration
  emitted : m.velocity - before = m.acceleration * l.dt ∨
    (m.velocity = l.velocity ∧ 0 ≤ m.velocity - before ∧
      m.velocity - before ≤ m.acceleration * l.dt) ∨
    (m.velocity = -l.velocity ∧ m.acceleration * l.dt ≤ m.velocity - before ∧
      m.velocity - before ≤ 0)

/-- One more step with the last change of velocity passes the velocity limit by no
    more than the jerk limit can take back. -/
def Slack (l : MotionLimits K) (before velocity : K) : Prop :=
  |velocity + (velocity - before)| ≤ l.velocity + l.jerk * l.dt ^ 2

theorem tracks_rest (position : K) : Tracks l 0 (rest position) := by
  refine ⟨?_, ?_, .inl ?_⟩
  · simp [rest, l.velocity_pos.le]
  · simp [rest, l.acceleration_pos.le]
  · simp [rest]

variable {before : K}

theorem Tracks.mirror (h : Tracks l before m) :
    Tracks l (-before) (mirror m) := by
  obtain ⟨hvelocity, hacceleration, hemitted⟩ := h
  refine ⟨by rwa [MotionLimits.mirror, abs_neg], by rwa [MotionLimits.mirror, abs_neg], ?_⟩
  unfold MotionLimits.mirror
  dsimp only
  rcases hemitted with h | ⟨h, h1, h2⟩ | ⟨h, h1, h2⟩
  · left
    linarith
  · right
    right
    exact ⟨by rw [h], by linarith, by linarith⟩
  · right
    left
    exact ⟨by rw [h, neg_neg], by linarith, by linarith⟩

/-- What a step does to the velocity. -/
theorem advance_cases (l : MotionLimits K) (desired : K) (m : AxisMotion K) :
    ((l.advance desired m).velocity = m.velocity + l.accelerate desired m * l.dt) ∨
      ((l.advance desired m).velocity = l.velocity ∧
        l.velocity ≤ m.velocity + l.accelerate desired m * l.dt) ∨
      ((l.advance desired m).velocity = -l.velocity ∧
        m.velocity + l.accelerate desired m * l.dt ≤ -l.velocity) := by
  rcases saturate_cases l.velocity_pos.le (m.velocity + l.accelerate desired m * l.dt) with
    h | h | ⟨h, -⟩
  · exact .inr (.inl h)
  · exact .inr (.inr h)
  · exact .inl h

/-- **Step lemma.** The axis keeps tracking, whatever the desired velocity. -/
theorem Tracks.advance (h : Tracks l before m) :
    Tracks l m.velocity (l.advance desired m) := by
  obtain ⟨hlow, hhigh⟩ := abs_le.mp h.velocity
  refine ⟨abs_saturate_le l.velocity_pos.le _, abs_accelerate_le, ?_⟩
  have hacceleration : (l.advance desired m).acceleration = l.accelerate desired m := rfl
  rw [hacceleration]
  rcases advance_cases l desired m with hv | ⟨hv, hle⟩ | ⟨hv, hle⟩
  · left
    rw [hv]
    ring
  · right
    left
    rw [hv]
    exact ⟨rfl, by linarith, by linarith⟩
  · right
    right
    rw [hv]
    exact ⟨rfl, by linarith, by linarith⟩

/-- The change of velocity in a step has the acceleration limit. -/
theorem Tracks.abs_sub_le (h : Tracks l before m) :
    |m.velocity - before| ≤ l.acceleration * l.dt := by
  have hdt := l.dt_pos
  have hbound : |m.acceleration * l.dt| ≤ l.acceleration * l.dt := by
    rw [abs_mul, abs_of_pos hdt]
    exact mul_le_mul_of_nonneg_right h.acceleration hdt.le
  obtain ⟨hlow, hhigh⟩ := abs_le.mp hbound
  rw [abs_le]
  rcases h.emitted with heq | ⟨-, h1, h2⟩ | ⟨-, h1, h2⟩
  · rw [heq]
    exact ⟨hlow, hhigh⟩
  · constructor <;> linarith
  · constructor <;> linarith

/-- The change of the kept acceleration, as a change of velocity. -/
theorem abs_accelerate_mul_sub_le (desired : K) (hm : |m.acceleration| ≤ l.acceleration) :
    |l.accelerate desired m * l.dt - m.acceleration * l.dt| ≤ l.jerk * l.dt ^ 2 := by
  rw [← sub_mul, abs_mul, abs_of_pos l.dt_pos, pow_two, ← mul_assoc]
  exact mul_le_mul_of_nonneg_right (abs_accelerate_sub_le hm) l.dt_pos.le

/-- With slack, a step from the upper velocity limit or with the kept acceleration
    keeps the jerk limit. -/
theorem Tracks.jerk_of_slack (h : Tracks l before m)
    (hdesired : |desired| ≤ l.velocity) (hslack : Slack l before m.velocity)
    (hupper : m.velocity - before = m.acceleration * l.dt ∨
      (m.velocity = l.velocity ∧ 0 ≤ m.velocity - before ∧
        m.velocity - before ≤ m.acceleration * l.dt)) :
    |((l.advance desired m).velocity - m.velocity) - (m.velocity - before)| ≤
      l.jerk * l.dt ^ 2 := by
  obtain ⟨hslackLow, hslackHigh⟩ := abs_le.mp hslack
  obtain ⟨hjerkLow, hjerkHigh⟩ := abs_le.mp (abs_accelerate_mul_sub_le desired
    h.acceleration)
  rw [abs_le]
  rcases hupper with heq | ⟨hlimit, hnonneg, hle⟩
  · rcases advance_cases l desired m with hv | ⟨hv, hle⟩ | ⟨hv, hle⟩
    · rw [hv]
      constructor <;> linarith
    · rw [hv]
      constructor <;> linarith
    · rw [hv]
      constructor <;> linarith
  · -- the kept acceleration falls, and the step ends above the desired velocity
    have hacceleration : 0 ≤ m.acceleration := by
      have h0 : 0 ≤ m.acceleration * l.dt := hnonneg.trans hle
      exact nonneg_of_mul_nonneg_left h0 l.dt_pos
    obtain ⟨hdesiredLow, hdesiredHigh⟩ := abs_le.mp hdesired
    obtain ⟨hfalls, habove⟩ := accelerate_of_above h.acceleration (by linarith) hacceleration
    have hfalls' := mul_le_mul_of_nonneg_right hfalls l.dt_pos.le
    rcases advance_cases l desired m with hv | ⟨hv, hle'⟩ | ⟨hv, hle'⟩
    · have hsaturated : (l.advance desired m).velocity ≤ l.velocity :=
        (abs_le.mp (abs_saturate_le l.velocity_pos.le _)).2
      rw [hv] at hsaturated ⊢
      constructor <;> linarith
    · rw [hv]
      constructor <;> linarith
    · rw [hv]
      constructor <;> linarith

/-- **The jerk of a step** is within its limit exactly if there is slack before it. -/
theorem Tracks.jerk_iff (h : Tracks l before m)
    (hdesired : |desired| ≤ l.velocity) :
    |((l.advance desired m).velocity - m.velocity) - (m.velocity - before)| ≤
        l.jerk * l.dt ^ 2 ↔
      Slack l before m.velocity := by
  constructor
  · intro hjerk
    obtain ⟨hlow, hhigh⟩ := abs_le.mp hjerk
    obtain ⟨hvLow, hvHigh⟩ := abs_le.mp (abs_saturate_le l.velocity_pos.le
      (m.velocity + l.accelerate desired m * l.dt))
    change -l.velocity ≤ (l.advance desired m).velocity at hvLow
    change (l.advance desired m).velocity ≤ l.velocity at hvHigh
    rw [Slack, abs_le]
    constructor <;> linarith
  · intro hslack
    rcases h.emitted with heq | hupper | ⟨hlimit, h1, h2⟩
    · exact h.jerk_of_slack hdesired hslack (.inl heq)
    · exact h.jerk_of_slack hdesired hslack (.inr hupper)
    · -- the lower velocity limit is the upper one of the mirrored motion
      have hmirror := h.mirror.jerk_of_slack (show |-desired| ≤ l.velocity by rwa [abs_neg]) ?_
        (.inr ⟨?_, ?_, ?_⟩)
      · rw [advance_mirror] at hmirror
        unfold MotionLimits.mirror at hmirror
        rw [← abs_neg]
        convert hmirror using 2
        ring
      · unfold Slack MotionLimits.mirror at *
        rw [← abs_neg]
        convert hslack using 2
        dsimp only
        ring
      · unfold MotionLimits.mirror
        dsimp only
        rw [hlimit, neg_neg]
      · unfold MotionLimits.mirror
        dsimp only
        linarith
      · unfold MotionLimits.mirror
        dsimp only
        linarith

/-! ## Runs -/

variable (l)

/-- The difference quotients up to the third, within the limits. -/
def Bounded (p₀ p₁ p₂ p₃ : K) : Prop :=
  |p₃ - p₂| / l.dt ≤ l.velocity ∧
    |p₃ - 2 * p₂ + p₁| / l.dt ^ 2 ≤ l.acceleration ∧
    |p₃ - 3 * p₂ + 3 * p₁ - p₀| / l.dt ^ 3 ≤ l.jerk

/-- The slack that three positions leave. -/
def SlackAt (p₀ p₁ p₂ : K) : Prop := Slack l ((p₁ - p₀) / l.dt) ((p₂ - p₁) / l.dt)

/-- The difference quotients of a motion from rest are within the limits. -/
def KeepsBounds (start : K) (positions : List K) : Prop :=
  Successive l.Bounded start start start positions

/-- There is slack before every step of a motion from rest. -/
def LeavesSlack (start : K) (positions : List K) : Prop :=
  Successive (fun p₀ p₁ p₂ _ => l.SlackAt p₀ p₁ p₂) start start start positions

instance (start : K) (positions : List K) : Decidable (l.KeepsBounds start positions) :=
  have : ∀ p₀ p₁ p₂ p₃, Decidable (l.Bounded p₀ p₁ p₂ p₃) := fun _ _ _ _ =>
    inferInstanceAs (Decidable (_ ∧ _ ∧ _))
  decidableSuccessive start start start positions

instance (start : K) (positions : List K) : Decidable (l.LeavesSlack start positions) :=
  have : ∀ p₀ p₁ p₂, Decidable (l.SlackAt p₀ p₁ p₂) := fun _ _ _ =>
    inferInstanceAs (Decidable (_ ≤ _))
  decidableSuccessive start start start positions

/-- A step of the axis towards an admissible velocity. -/
def Follows (m next : AxisMotion K) : Prop :=
  ∃ desired, |desired| ≤ l.velocity ∧ next = l.advance desired m

variable {l}

/-- **One step**: its difference quotients are within the limits exactly if there was
    slack. -/
theorem Tracks.bounded_iff (h : Tracks l before m) {next : AxisMotion K}
    (hnext : Follows l m next) {p₀ p₁ : K} (hp₁ : m.position - p₁ = m.velocity * l.dt)
    (hp₀ : p₁ - p₀ = before * l.dt) :
    Bounded l p₀ p₁ m.position next.position ↔ SlackAt l p₀ p₁ m.position := by
  obtain ⟨desired, hdesired, rfl⟩ := hnext
  have hdt := l.dt_pos
  have hposition : (l.advance desired m).position - m.position =
      (l.advance desired m).velocity * l.dt := by
    unfold MotionLimits.advance
    ring
  have hfirst : |(l.advance desired m).position - m.position| / l.dt ≤ l.velocity := by
    rw [div_le_iff₀ hdt, hposition, abs_mul, abs_of_pos hdt]
    exact mul_le_mul_of_nonneg_right h.advance.velocity hdt.le
  have hsecond : |(l.advance desired m).position - 2 * m.position + p₁| / l.dt ^ 2 ≤
      l.acceleration := by
    have hdifference : (l.advance desired m).position - 2 * m.position + p₁ =
        ((l.advance desired m).velocity - m.velocity) * l.dt := by linear_combination hposition - hp₁
    rw [div_le_iff₀ (by positivity), hdifference, abs_mul, abs_of_pos hdt, pow_two, ← mul_assoc]
    exact mul_le_mul_of_nonneg_right h.advance.abs_sub_le hdt.le
  have hthird : |(l.advance desired m).position - 3 * m.position + 3 * p₁ - p₀| / l.dt ^ 3 ≤
      l.jerk ↔ |((l.advance desired m).velocity - m.velocity) - (m.velocity - before)| ≤
        l.jerk * l.dt ^ 2 := by
    have hdifference : (l.advance desired m).position - 3 * m.position + 3 * p₁ - p₀ =
        (((l.advance desired m).velocity - m.velocity) - (m.velocity - before)) * l.dt := by
      linear_combination hposition - 2 * hp₁ + hp₀
    rw [div_le_iff₀ (by positivity), hdifference, abs_mul, abs_of_pos hdt, pow_succ l.dt 2,
      ← mul_assoc]
    exact mul_le_mul_iff_of_pos_right hdt
  have hslack : SlackAt l p₀ p₁ m.position ↔ Slack l before m.velocity := by
    unfold SlackAt
    rw [hp₁, hp₀, mul_div_cancel_right₀ _ hdt.ne', mul_div_cancel_right₀ _ hdt.ne']
  rw [Bounded, hthird, hslack, ← h.jerk_iff hdesired]
  exact ⟨fun hbounded => hbounded.2.2, fun hjerk => ⟨hfirst, hsecond, hjerk⟩⟩

/-- **Run lemma.** From an axis that tracks, the difference quotients of a run are
    within the limits exactly if there is slack before every step. -/
theorem successive_bounded_iff {next : List (AxisMotion K)} (h : Tracks l before m)
    (hrun : (m :: next).IsChain (Follows l)) {p₀ p₁ : K}
    (hp₁ : m.position - p₁ = m.velocity * l.dt) (hp₀ : p₁ - p₀ = before * l.dt) :
    Successive (Bounded l) p₀ p₁ m.position (next.map AxisMotion.position) ↔
      Successive (fun p₀ p₁ p₂ _ => SlackAt l p₀ p₁ p₂) p₀ p₁ m.position
        (next.map AxisMotion.position) := by
  induction next generalizing before m p₀ p₁ with
  | nil => exact Iff.rfl
  | cons m' next ih =>
    obtain ⟨hstep, hrest⟩ := List.isChain_cons_cons.mp hrun
    obtain ⟨desired, hdesired, rfl⟩ := hstep
    have hposition : (l.advance desired m).position - m.position =
        (l.advance desired m).velocity * l.dt := by
      unfold MotionLimits.advance
      ring
    exact and_congr (h.bounded_iff ⟨desired, hdesired, rfl⟩ hp₁ hp₀)
      (ih h.advance hrest hposition hp₁)

/-- **The run lemma from rest.** -/
theorem keepsBounds_iff {position : K} {next : List (AxisMotion K)}
    (hrun : (rest position :: next).IsChain (Follows l)) :
    l.KeepsBounds position (next.map AxisMotion.position) ↔
      l.LeavesSlack position (next.map AxisMotion.position) :=
  successive_bounded_iff (tracks_rest position) hrun (by simp [rest]) (by simp)

/-! ## Stopping before an edge -/

/-- The step ends before an edge: at full speed, or braking as hard as the limits
    allow, unless the law pushes on and the hardest push crosses it. -/
def StopsBefore (l : MotionLimits K) (edge desired : K) (m : AxisMotion K) : Prop :=
  l.velocity * l.dt ≤ edge - m.position ∨
    (m.velocity + max (-l.acceleration) (m.acceleration - l.jerk * l.dt) * l.dt) * l.dt ≤
        edge - m.position ∧
      (desired * l.dt ≤ edge - m.position ∨
        (m.velocity + min l.acceleration (m.acceleration + l.jerk * l.dt) * l.dt) * l.dt ≤
          edge - m.position)

omit [IsStrictOrderedRing K] in
theorem saturate_le_iff {bound x y : K} :
    saturate bound x ≤ y ↔ -bound ≤ y ∧ (bound ≤ y ∨ x ≤ y) := by
  rw [saturate, max_le_iff, min_le_iff]

/-- The acceleration of a step, between the hardest braking and the hardest push. -/
theorem accelerate_le_iff {bound : K} (hm : |m.acceleration| ≤ l.acceleration) :
    l.accelerate desired m ≤ bound ↔
      max (-l.acceleration) (m.acceleration - l.jerk * l.dt) ≤ bound ∧
        (desired - m.velocity ≤ bound * l.dt ∨
          min l.acceleration (m.acceleration + l.jerk * l.dt) ≤ bound) := by
  obtain ⟨hlow, hhigh⟩ := abs_le.mp hm
  have hjerk := jerk_dt_nonneg (l := l)
  unfold accelerate
  rw [saturate_le_iff, ← le_sub_iff_add_le', saturate_le_iff, sub_le_sub_iff_right,
    saturate_le_iff, div_le_iff₀ l.dt_pos, max_le_iff, min_le_iff]
  constructor
  · rintro ⟨hbrake, hfull | ⟨hjerkLow, hpush | ⟨-, hfull | hdesired⟩⟩⟩
    · exact ⟨⟨hbrake, by linarith⟩, .inr (.inl hfull)⟩
    · exact ⟨⟨hbrake, by linarith⟩, .inr (.inr (by linarith))⟩
    · exact ⟨⟨hbrake, by linarith⟩, .inr (.inl hfull)⟩
    · exact ⟨⟨hbrake, by linarith⟩, .inl hdesired⟩
  · rintro ⟨⟨hbrake, hjerkLow⟩, hdesired | hfull | hpush⟩
    · exact ⟨hbrake, .inr ⟨by linarith, .inr ⟨hbrake, .inr hdesired⟩⟩⟩
    · exact ⟨hbrake, .inl hfull⟩
    · exact ⟨hbrake, .inr ⟨by linarith, .inl (by linarith)⟩⟩

/-- **A step from before an edge** ends before it exactly as `StopsBefore` says. -/
theorem position_advance_le_iff {edge : K} (hm : |m.acceleration| ≤ l.acceleration)
    (hposition : m.position ≤ edge) :
    (l.advance desired m).position ≤ edge ↔ StopsBefore l edge desired m := by
  have hdt := l.dt_pos
  have hspeed : -l.velocity * l.dt ≤ edge - m.position := by
    have hnonneg := mul_pos l.velocity_pos hdt
    linarith
  have hgoal : (l.advance desired m).position ≤ edge ↔
      saturate l.velocity (m.velocity + l.accelerate desired m * l.dt) ≤
        (edge - m.position) / l.dt := by
    rw [le_div_iff₀ hdt, le_sub_iff_add_le']
    rfl
  have haccelerate : ∀ a r : K, m.velocity + a * l.dt ≤ r ↔ a ≤ (r - m.velocity) / l.dt := by
    intro a r
    rw [le_div_iff₀ hdt, le_sub_iff_add_le']
  have hstep : ∀ a : K, a ≤ ((edge - m.position) / l.dt - m.velocity) / l.dt ↔
      (m.velocity + a * l.dt) * l.dt ≤ edge - m.position := by
    intro a
    rw [← haccelerate, le_div_iff₀ hdt]
  have hdesired : desired - m.velocity ≤
        ((edge - m.position) / l.dt - m.velocity) / l.dt * l.dt ↔
      desired * l.dt ≤ edge - m.position := by
    rw [div_mul_cancel₀ _ hdt.ne', sub_le_sub_iff_right, le_div_iff₀ hdt]
  rw [hgoal, saturate_le_iff, le_div_iff₀ hdt, le_div_iff₀ hdt, and_iff_right hspeed, haccelerate,
    accelerate_le_iff hm, hstep, hstep, hdesired]
  rfl

end MotionLimits

end HandLab.Lib
