import HandLab.Lib.Extended
import HandLab.Lib.Run

/-!
# `PinchPoseBlender`

The blender of the continuous hand target with a validated pinch pose
(`src/quest_jaka_sim/hand_retarget.py`, lines 572–638), in runs of updates and resets.
A pose is mixed in with a weight that moves by one step an update; the output does not
jump as long as the weight is zero whenever a pose appears or disappears.

* `Sound.advance`: what an update makes of the weight.
* `neverJumps_iff`: one update keeps every bound exactly if it is guarded.
* `blender_never_jumps_iff`: the same of a run.
* `blender_jumps`: a confidence without a mode raises the weight, and the next mode
  appears at its full weight.
-/

namespace HandLab.HandRetarget

open HandLab.Lib Double PyFloat

/-! ## Model -/

/-- Six channels, in the order `RH56_CANONICAL_ORDER`. -/
abbrev Channels (δ : Type*) := Fin 6 → δ

/-- `PinchPoseBlender`. -/
structure PinchPoseBlender (δ : Type*) where
  validatedPoses : List (String × Channels δ)
  maximumWeightStep : δ
  mode : String
  weight : δ

/-- The arguments of `update`. -/
structure BlendCall (δ : Type*) where
  continuousTarget : Channels δ
  detectedMode : String
  confidence : δ
  trackingValid : Bool := true

/-- What `update` raises: `ValueError` for a target that is not finite, `KeyError` for a
    mode without a pose. -/
inductive BlendError
  | continuousTarget
  | mode
  deriving DecidableEq, Repr

variable {δ : Type*} [PyFloat δ]

namespace PinchPoseBlender

/-- `__init__`. -/
def construct (validatedPoses : List (String × Channels δ)) (maximumWeightStep : δ) :
    PinchPoseBlender δ :=
  ⟨validatedPoses, maximumWeightStep, "none", zero⟩

variable (b : PinchPoseBlender δ)

def reset : PinchPoseBlender δ := { b with mode := "none", weight := zero }

/-- `desired_mode`. -/
def desiredMode (call : BlendCall δ) : String :=
  if call.trackingValid && (b.validatedPoses.lookup call.detectedMode).isSome &&
      isFinite call.confidence && lt zero call.confidence then call.detectedMode
  else "none"

/-- The mode and the desired weight of lines 615–618. -/
def desired (call : BlendCall δ) : String × δ :=
  let clipped := clip call.confidence zero (ofRat 1)
  if b.mode = "none" ∧ b.desiredMode call ≠ "none" then (b.desiredMode call, clipped)
  else if b.mode ≠ "none" ∧ b.desiredMode call ≠ b.mode then (b.mode, zero)
  else (b.mode, clipped)

/-- The weight after one step towards the desired one. -/
def slewed (desiredWeight : δ) : δ :=
  clip (add b.weight (clip (sub desiredWeight b.weight) (sub zero b.maximumWeightStep)
    b.maximumWeightStep)) zero (ofRat 1)

/-- The blender after an update with a finite target. -/
def advance (call : BlendCall δ) : PinchPoseBlender δ :=
  let weight := b.slewed (b.desired call).2
  { b with
    weight
    mode :=
      if eq weight zero && decide (b.desiredMode call ≠ (b.desired call).1) then b.desiredMode call
      else (b.desired call).1 }

/-- What the blender returns for a target. -/
def blend (continuous : Channels δ) : Except BlendError (Channels δ) :=
  if b.mode = "none" then .ok continuous
  else
    match b.validatedPoses.lookup b.mode with
    | none => .error .mode
    | some pose =>
      .ok fun i => add (mul (sub (ofRat 1) b.weight) (continuous i)) (mul b.weight (pose i))

/-- `update`: the target; the mode and the weight are those of the blender after it. -/
def update (call : BlendCall δ) : Except BlendError (Channels δ) × PinchPoseBlender δ :=
  if (List.finRange 6).all fun i => isFinite (call.continuousTarget i) then
    ((b.advance call).blend call.continuousTarget, b.advance call)
  else (.error .continuousTarget, b)

end PinchPoseBlender

/-! ## Runs -/

/-- A call of the blender. -/
inductive BlendEvent (δ : Type*)
  | update (call : BlendCall δ)
  | reset

/-- The blender, with the target and the output of the call before, if that was an update. -/
structure BlendRun (δ : Type*) where
  blender : PinchPoseBlender δ
  last : Option (Channels δ × Channels δ)

namespace BlendRun

/-- One call. -/
def step (s : BlendRun δ) : BlendEvent δ → BlendRun δ
  | .reset => ⟨s.blender.reset, none⟩
  | .update call =>
    ⟨(s.blender.update call).2,
      match (s.blender.update call).1 with
      | .ok output => some (call.continuousTarget, output)
      | .error _ => none⟩

def init (validatedPoses : List (String × Channels δ)) (maximumWeightStep : δ) : BlendRun δ :=
  ⟨.construct validatedPoses maximumWeightStep, none⟩

end BlendRun

/-- The value is a number in `[0, 1]`. -/
def InUnit (x : δ) : Prop := le zero x = true ∧ le x (ofRat 1) = true

/-- What an update owes: a weight in `[0, 1]` within one step of the last, a mode that
    changes at weight zero only, and an output in `[0, 1]` that follows the target up to
    one step of the weight. -/
def NeverJumps (s : BlendRun δ) : BlendEvent δ → Prop
  | .reset => InUnit s.blender.reset.weight
  | .update call =>
    InUnit (s.blender.update call).2.weight ∧
      le (abs (sub (s.blender.update call).2.weight s.blender.weight))
        s.blender.maximumWeightStep = true ∧
      ((s.blender.update call).2.mode ≠ s.blender.mode →
        eq s.blender.weight zero = true ∨ eq (s.blender.update call).2.weight zero = true) ∧
      match (s.blender.update call).1 with
      | .error _ => False
      | .ok output =>
        (∀ i, InUnit (output i)) ∧
          ∀ last ∈ s.last, ∀ i,
            le (abs (sub (output i) (last.2 i)))
              (add (abs (sub (call.continuousTarget i) (last.1 i))) s.blender.maximumWeightStep) =
                true

/-- While no mode is active, an update has a confidence that is not `NaN`, and finds a
    mode only at weight zero. -/
def Guarded (s : BlendRun δ) : BlendEvent δ → Prop
  | .reset => True
  | .update call =>
    s.blender.mode = "none" →
      eq call.confidence call.confidence = true ∧
        (s.blender.desiredMode call = "none" ∨ eq s.blender.weight zero = true)

/-- The target of the call is in `[0, 1]`. -/
def BlendEvent.InUnit : BlendEvent δ → Prop
  | .reset => True
  | .update call => ∀ i, HandRetarget.InUnit (call.continuousTarget i)

/-! ## Exact numbers with special values -/

section Extended

variable {K : Type*} [Field K] [LinearOrder K]

open Extended

/-! ### Mixtures -/

/-- The channels are numbers in `[0, 1]`. -/
structure UnitChannels (k : Channels K) : Prop where
  nonneg : ∀ i, 0 ≤ k i
  le_one : ∀ i, k i ≤ 1

/-- The convex combination of two channels. -/
def PinchPoseBlender.mix (e : K) (k q : Channels K) : Channels K := fun i => (1 - e) * k i + e * q i

/-- One step of the weight `w` towards `d`. -/
def slewTo (step w d : K) : K := min (max (w + min (max (d - w) (-step)) step) 0) 1

section Ordered

variable [IsStrictOrderedRing K]

theorem slewTo_unit (step w d : K) : 0 ≤ slewTo step w d ∧ slewTo step w d ≤ 1 :=
  ⟨le_min (le_max_right _ _) zero_le_one, min_le_right _ _⟩

theorem abs_slewTo_sub_le {step w : K} (hstep : 0 ≤ step) (hw : 0 ≤ w ∧ w ≤ 1) (d : K) :
    |slewTo step w d - w| ≤ step := by
  have hlow : -step ≤ min (max (d - w) (-step)) step :=
    le_min (le_max_right _ _) (by linarith)
  have hhigh : min (max (d - w) (-step)) step ≤ step := min_le_right _ _
  unfold slewTo
  rw [abs_le]
  constructor
  · have : w - step ≤ min (max (w + min (max (d - w) (-step)) step) 0) 1 :=
      le_min (le_max_of_le_left (by linarith)) (by linarith [hw.2])
    linarith
  · have : min (max (w + min (max (d - w) (-step)) step) 0) 1 ≤ w + step :=
      (min_le_left _ _).trans (max_le (by linarith) (by linarith [hw.1]))
    linarith

/-- The weight does not reach zero on its way between positive numbers. -/
theorem slewTo_pos {step w d : K} (hstep : 0 < step) (hw : 0 < w) (hd : 0 < d) :
    0 < slewTo step w d := by
  refine lt_min (lt_max_of_lt_left ?_) zero_lt_one
  rcases le_total w d with h | h
  · have : 0 ≤ min (max (d - w) (-step)) step :=
      le_min (le_max_of_le_left (by linarith)) hstep.le
    linarith
  · have : d - w ≤ min (max (d - w) (-step)) step := le_min (le_max_left _ _) (by linarith)
    linarith

theorem PinchPoseBlender.mix_unit {e : K} (he : 0 ≤ e ∧ e ≤ 1) {k q : Channels K} (hk : UnitChannels k)
    (hq : UnitChannels q) (i : Fin 6) : 0 ≤ mix e k q i ∧ mix e k q i ≤ 1 := by
  unfold mix
  constructor
  · exact add_nonneg (mul_nonneg (sub_nonneg.mpr he.2) (hk.nonneg i)) (mul_nonneg he.1 (hq.nonneg i))
  · calc (1 - e) * k i + e * q i ≤ (1 - e) * 1 + e * 1 :=
          add_le_add (mul_le_mul_of_nonneg_left (hk.le_one i) (sub_nonneg.mpr he.2))
            (mul_le_mul_of_nonneg_left (hq.le_one i) he.1)
      _ = 1 := by ring

/-- A mixture follows its channels up to the change of its weight. -/
theorem PinchPoseBlender.abs_mix_sub_le {stride e e' : K} (he' : 0 ≤ e' ∧ e' ≤ 1)
    (hstep : |e' - e| ≤ stride) {k k' q : Channels K} (hk : UnitChannels k) (hq : UnitChannels q) (i : Fin 6) :
    |mix e' k' q i - mix e k q i| ≤ |k' i - k i| + stride := by
  have hsplit : mix e' k' q i - mix e k q i = (1 - e') * (k' i - k i) + (e' - e) * (q i - k i) := by
    unfold mix
    ring
  have hpose : |q i - k i| ≤ 1 := by
    rw [abs_le]
    constructor <;> linarith [hk.nonneg i, hk.le_one i, hq.nonneg i, hq.le_one i]
  calc |mix e' k' q i - mix e k q i|
      ≤ |(1 - e') * (k' i - k i)| + |(e' - e) * (q i - k i)| := hsplit ▸ abs_add_le _ _
    _ = |1 - e'| * |k' i - k i| + |e' - e| * |q i - k i| := by rw [abs_mul, abs_mul]
    _ ≤ 1 * |k' i - k i| + stride * 1 := by
        refine add_le_add (mul_le_mul_of_nonneg_right ?_ (abs_nonneg _))
          (mul_le_mul hstep hpose (abs_nonneg _) ((abs_nonneg _).trans hstep))
        rw [abs_le]
        constructor <;> linarith [he'.1, he'.2]
    _ = |k' i - k i| + stride := by ring

end Ordered

variable [FloorRing K]

/-! ### The weight -/

theorem inUnit_iff {x : Extended K} : InUnit x ↔ ∃ y, x = finite y ∧ 0 ≤ y ∧ y ≤ 1 := by
  unfold InUnit zero
  constructor
  · rintro ⟨hzero, hone⟩
    cases x with
    | finite y =>
      refine ⟨y, rfl, ?_, ?_⟩
      · simpa using hzero
      · simpa using hone
    | infinite negative =>
      cases negative with
      | false => cases hone
      | true => cases hzero
    | nan => cases hzero
  · rintro ⟨y, rfl, hzero, hone⟩
    simp [hzero, hone]

theorem exists_unitChannels {c : Channels (Extended K)} (h : ∀ i, InUnit (c i)) :
    ∃ k : Channels K, (c = fun i => finite (k i)) ∧ UnitChannels k := by
  choose k hk using fun i => inUnit_iff.mp (h i)
  exact ⟨k, funext fun i => (hk i).1, ⟨fun i => (hk i).2.1, fun i => (hk i).2.2⟩⟩

/-- A confidence that is not `NaN` is cut to `[0, 1]`, a positive one to a positive number. -/
theorem clip_confidence {x : Extended K} (h : eq x x = true) :
    ∃ d, clip x zero (ofRat 1) = finite d ∧ 0 ≤ d ∧ d ≤ 1 ∧ (lt zero x = true → 0 < d) := by
  unfold zero
  simp only [ofRat_eq, Rat.cast_zero, Rat.cast_one]
  cases x with
  | finite y =>
    refine ⟨min (max y 0) 1, clip_finite y 0 1, le_min (le_max_right _ _) zero_le_one,
      min_le_right _ _, fun hy => lt_min (lt_max_of_lt_left ?_) zero_lt_one⟩
    simpa using hy
  | infinite negative =>
    refine ⟨_, clip_infinite negative zero_le_one, ?_⟩
    cases negative with
    | false => exact ⟨zero_le_one, le_rfl, fun _ => zero_lt_one⟩
    | true => exact ⟨le_rfl, zero_le_one, fun h => by cases h⟩
  | nan => cases h

namespace PinchPoseBlender

variable {b : PinchPoseBlender (Extended K)} {stride w : K}

theorem slewed_finite (hstep : b.maximumWeightStep = finite stride) (hw : b.weight = finite w)
    (d : K) : b.slewed (finite d) = finite (slewTo stride w d) := by
  unfold slewed slewTo zero
  rw [hstep, hw]
  simp

theorem slewed_nan (hw : b.weight = finite w) : b.slewed nan = nan := by
  unfold slewed
  rw [hw]
  show clip (add (finite w) (clip nan _ _)) _ _ = nan
  rw [clip_nan]
  exact clip_nan _ _

/-! ### The blender between calls -/

/-- What `b` is between calls: its poses and its weight are in `[0, 1]`, and its mode has
    a pose. -/
structure Sound (b : PinchPoseBlender (Extended K)) (stride w : K) : Prop where
  poses : ∀ name pose, b.validatedPoses.lookup name = some pose → ∀ i, InUnit (pose i)
  step : b.maximumWeightStep = finite stride
  stride_pos : 0 < stride
  weight : b.weight = finite w
  unit : 0 ≤ w ∧ w ≤ 1
  known : b.mode ≠ "none" → ∃ pose, b.validatedPoses.lookup b.mode = some pose

/-- The blender mixes `q` in with the weight `e`. -/
def Mixes (b : PinchPoseBlender (Extended K)) (e : K) (q : Channels K) : Prop :=
  ∀ k : Channels K, b.blend (fun i => finite (k i)) = .ok fun i => finite (mix e k q i)

theorem mixes_none (h : b.mode = "none") (q : Channels K) : Mixes b 0 q := by
  intro k
  unfold blend mix
  rw [if_pos h]
  simp

theorem mixes_pose {pose : Channels (Extended K)} {q : Channels K} (hmode : b.mode ≠ "none")
    (hpose : b.validatedPoses.lookup b.mode = some pose) (hq : pose = fun i => finite (q i))
    (hw : b.weight = finite w) : Mixes b w q := by
  intro k
  unfold blend mix
  rw [if_neg hmode, hpose, hq, hw]
  simp

theorem mixes_zero (hw : b.weight = finite 0)
    (hknown : b.mode ≠ "none" → ∃ pose, b.validatedPoses.lookup b.mode = some pose)
    (hposes : ∀ name pose, b.validatedPoses.lookup name = some pose → ∀ i, InUnit (pose i))
    (q : Channels K) : Mixes b 0 q := by
  by_cases hmode : b.mode = "none"
  · exact mixes_none hmode q
  · obtain ⟨pose, hpose⟩ := hknown hmode
    obtain ⟨p, hp, -⟩ := exists_unitChannels (hposes _ _ hpose)
    intro k
    have hmix : mix 0 k q = mix 0 k p := by
      funext i
      simp [mix]
    rw [hmix]
    exact mixes_pose hmode hpose hp hw k

/-! ### One update -/

variable {call : BlendCall (Extended K)}

theorem desiredMode_spec (h : b.desiredMode call ≠ "none") :
    (∃ pose, b.validatedPoses.lookup (b.desiredMode call) = some pose) ∧
      eq call.confidence call.confidence = true ∧ lt zero call.confidence = true := by
  unfold desiredMode at h ⊢
  split at h
  · rename_i hdetected
    rw [if_pos hdetected]
    simp only [Bool.and_eq_true] at hdetected
    obtain ⟨⟨⟨-, hpose⟩, hfinite⟩, hpositive⟩ := hdetected
    refine ⟨Option.isSome_iff_exists.mp hpose, ?_, hpositive⟩
    revert hfinite
    cases call.confidence with
    | finite x => simp
    | infinite negative => exact fun h => by cases h
    | nan => exact fun h => by cases h
  · exact absurd rfl h

/-- The pose of a mode that is active, as numbers. -/
theorem Sound.pose (h : Sound b stride w) {name : String} {pose : Channels (Extended K)}
    (hpose : b.validatedPoses.lookup name = some pose) :
    ∃ q : Channels K, (pose = fun i => finite (q i)) ∧ UnitChannels q :=
  exists_unitChannels (h.poses name pose hpose)

theorem Sound.advance_weight (h : Sound b stride w) {d : K}
    (hd : (b.desired call).2 = finite d) : (b.advance call).weight = finite (slewTo stride w d) := by
  unfold advance
  rw [hd]
  exact slewed_finite h.step h.weight d

/-- The mode after an update towards a desired mode that stays. -/
theorem advance_mode_of_eq {m : String} (hdesired : (b.desired call).1 = m)
    (hmode : b.desiredMode call = m) : (b.advance call).mode = m := by
  unfold advance
  dsimp only
  rw [hdesired, hmode]
  simp

variable [IsStrictOrderedRing K]

/-- An update that was guarded, in which the weight goes from `w` to `w'`. -/
structure Advances (b next : PinchPoseBlender (Extended K)) (stride w w' : K) : Prop where
  sound : Sound next stride w'
  weight : |w' - w| ≤ stride
  mode : next.mode ≠ b.mode → w = 0 ∨ w' = 0
  mixes : ∃ e e' q, UnitChannels q ∧ (0 ≤ e ∧ e ≤ 1) ∧ (0 ≤ e' ∧ e' ≤ 1) ∧ |e' - e| ≤ stride ∧
    Mixes b e q ∧ Mixes next e' q

/-- The blender after the weight has moved towards `d`. -/
theorem Sound.next (h : Sound b stride w) {d : K} (hd : (b.desired call).2 = finite d)
    (hknown : (b.advance call).mode ≠ "none" →
      ∃ pose, b.validatedPoses.lookup (b.advance call).mode = some pose) :
    Sound (b.advance call) stride (slewTo stride w d) where
  poses := h.poses
  step := h.step
  stride_pos := h.stride_pos
  weight := h.advance_weight hd
  unit := slewTo_unit stride w d
  known := hknown

/-- **One update** that is guarded. -/
theorem Sound.advance (h : Sound b stride w)
    (hguarded : b.mode = "none" → eq call.confidence call.confidence = true ∧
      (b.desiredMode call = "none" ∨ w = 0)) :
    ∃ w', Advances b (b.advance call) stride w w' := by
  have hweight := abs_slewTo_sub_le (w := w) h.stride_pos.le h.unit
  by_cases hnone : b.mode = "none"
  · obtain ⟨hnumber, hquiet⟩ := hguarded hnone
    obtain ⟨d, hd, -⟩ := clip_confidence hnumber
    by_cases hdesired : b.desiredMode call = "none"
    · -- no mode before and after: the weight has no effect
      have hsame : b.desired call = ("none", finite d) := by
        unfold desired
        rw [if_neg (fun hboth => hboth.2 hdesired), if_neg (fun hboth => hboth.1 hnone), hnone, hd]
      have hmode := advance_mode_of_eq (congrArg Prod.fst hsame) hdesired
      refine ⟨slewTo stride w d, h.next (congrArg Prod.snd hsame) fun hne => absurd hmode hne,
        hweight d, fun hne => absurd (hmode.trans hnone.symm) hne, 0, 0, fun _ => 0,
        ⟨fun _ => le_rfl, fun _ => zero_le_one⟩, ⟨le_rfl, zero_le_one⟩, ⟨le_rfl, zero_le_one⟩, ?_,
        mixes_none hnone _, mixes_none hmode _⟩
      simpa using h.stride_pos.le
    · -- a mode appears, at weight zero
      have hzero : w = 0 := hquiet.resolve_left hdesired
      subst hzero
      obtain ⟨pose, hpose⟩ := (desiredMode_spec hdesired).1
      obtain ⟨q, hq, hunit⟩ := h.pose hpose
      have hstarted : b.desired call = (b.desiredMode call, finite d) := by
        unfold desired
        rw [if_pos ⟨hnone, hdesired⟩, hd]
      have hmode := advance_mode_of_eq (congrArg Prod.fst hstarted) rfl
      refine ⟨slewTo stride 0 d, h.next (congrArg Prod.snd hstarted) fun _ => ⟨pose, hmode ▸ hpose⟩,
        hweight d, fun _ => .inl rfl, 0, slewTo stride 0 d, q, hunit, ⟨le_rfl, zero_le_one⟩,
        slewTo_unit stride 0 d, hweight d, mixes_none hnone q, ?_⟩
      exact mixes_pose (hmode ▸ hdesired) (hmode ▸ hpose) hq
        (h.advance_weight (congrArg Prod.snd hstarted))
  · obtain ⟨pose, hpose⟩ := h.known hnone
    obtain ⟨q, hq, hunit⟩ := h.pose hpose
    have hbefore : Mixes b w q := mixes_pose hnone hpose hq h.weight
    by_cases hdesired : b.desiredMode call = b.mode
    · -- the mode stays, and the weight follows the confidence
      obtain ⟨-, hnumber, -⟩ := desiredMode_spec (hdesired ▸ hnone)
      obtain ⟨d, hd, -⟩ := clip_confidence hnumber
      have hsame : b.desired call = (b.mode, finite d) := by
        unfold desired
        rw [if_neg (fun hboth => hnone hboth.1), if_neg (fun hboth => hboth.2 hdesired), hd]
      have hmode := advance_mode_of_eq (congrArg Prod.fst hsame) hdesired
      refine ⟨slewTo stride w d, h.next (congrArg Prod.snd hsame) fun _ => ⟨pose, hmode ▸ hpose⟩,
        hweight d, fun hne => absurd hmode hne, w, slewTo stride w d, q, hunit, h.unit,
        slewTo_unit stride w d, hweight d, hbefore, ?_⟩
      exact mixes_pose (hmode ▸ hnone) (hmode ▸ hpose) hq
        (h.advance_weight (congrArg Prod.snd hsame))
    · -- another mode or none is desired: the weight goes to zero first
      have hfades : b.desired call = (b.mode, finite 0) := by
        unfold desired zero
        rw [if_neg (fun hboth => hnone hboth.1), if_pos ⟨hnone, hdesired⟩]
        simp
      have hnext := h.advance_weight (congrArg Prod.snd hfades)
      have hmode : (b.advance call).mode =
          if slewTo stride w 0 = 0 then b.desiredMode call else b.mode := by
        have hslewed := slewed_finite h.step h.weight 0
        unfold PinchPoseBlender.advance
        dsimp only
        rw [hfades, hslewed]
        simp [zero, hdesired]
      have hknown : (b.advance call).mode ≠ "none" →
          ∃ pose, b.validatedPoses.lookup (b.advance call).mode = some pose := by
        rw [hmode]
        split
        · exact fun hne => (desiredMode_spec hne).1
        · exact fun _ => ⟨pose, hpose⟩
      refine ⟨slewTo stride w 0, h.next (congrArg Prod.snd hfades) hknown, hweight 0, ?_,
        w, slewTo stride w 0, q, hunit, h.unit, slewTo_unit stride w 0, hweight 0, hbefore, ?_⟩
      · rw [hmode]
        split
        · rename_i hzero
          exact fun _ => .inr hzero
        · exact fun hne => absurd rfl hne
      · by_cases hzero : slewTo stride w 0 = 0
        · rw [hzero] at hnext ⊢
          exact mixes_zero hnext hknown h.poses q
        · rw [if_neg hzero] at hmode
          exact mixes_pose (hmode ▸ hnone) (hmode ▸ hpose) hq hnext

end PinchPoseBlender

/-! ### Runs -/

open PinchPoseBlender

variable {stride : K} {s : BlendRun (Extended K)} {call : BlendCall (Extended K)}

/-- The blender between calls, with the output of the last update. -/
structure Kept (stride : K) (s : BlendRun (Extended K)) (w : K) : Prop where
  sound : s.blender.Sound stride w
  last : ∀ last ∈ s.last, (∀ i, InUnit (last.1 i)) ∧ s.blender.blend last.1 = .ok last.2

/-- A target in `[0, 1]` is not refused. -/
theorem update_eq (b : PinchPoseBlender (Extended K)) (h : ∀ i, InUnit (call.continuousTarget i)) :
    b.update call = ((b.advance call).blend call.continuousTarget, b.advance call) := by
  obtain ⟨k, hk, -⟩ := exists_unitChannels h
  unfold PinchPoseBlender.update
  rw [if_pos, hk]
  rw [List.all_eq_true]
  intro i _
  rw [hk]
  rfl

/-- Without a mode, `NaN` becomes the weight. -/
theorem not_inUnit_of_nan {w : K} (h : s.blender.Sound stride w) (hnone : s.blender.mode = "none")
    (hnan : eq call.confidence call.confidence = false) :
    ¬InUnit (s.blender.advance call).weight := by
  have hconfidence : call.confidence = nan := by
    revert hnan
    cases call.confidence with
    | finite x => simp
    | infinite negative => cases negative <;> exact fun h => by cases h
    | nan => exact fun _ => rfl
  have hdesired : s.blender.desiredMode call = "none" := by
    by_contra hne
    have hnumber := (desiredMode_spec hne).2.1
    rw [hnan] at hnumber
    cases hnumber
  have hweight : (s.blender.advance call).weight = nan := by
    unfold advance desired
    dsimp only
    rw [if_neg (fun hboth => hboth.2 hdesired), if_neg (fun hboth => hboth.1 hnone), hconfidence,
      clip_nan]
    exact slewed_nan h.weight
  rw [hweight, inUnit_iff]
  rintro ⟨y, hy, -⟩
  cases hy

variable [IsStrictOrderedRing K]

/-- What an update owes, where it mixes the same pose in before and after. -/
theorem neverJumps_of_advances {w w' : K} (h : Kept stride s w)
    (hcall : ∀ i, InUnit (call.continuousTarget i))
    (hadvances : Advances s.blender (s.blender.advance call) stride w w') :
    NeverJumps s (.update call) ∧ ∃ output,
      (s.blender.advance call).blend call.continuousTarget = .ok output ∧
        Kept stride ⟨s.blender.advance call, some (call.continuousTarget, output)⟩ w' := by
  obtain ⟨e, e', q, hq, he, he', hstep, hbefore, hafter⟩ := hadvances.mixes
  obtain ⟨k', hk', hunit'⟩ := exists_unitChannels hcall
  have houtput : (s.blender.advance call).blend call.continuousTarget =
      .ok fun i => finite (mix e' k' q i) := by
    rw [hk']
    exact hafter k'
  refine ⟨?_, _, houtput, hadvances.sound, ?_⟩
  · unfold NeverJumps
    dsimp only
    rw [update_eq s.blender hcall, houtput, hadvances.sound.weight, h.sound.weight, h.sound.step]
    refine ⟨inUnit_iff.mpr ⟨w', rfl, hadvances.sound.unit⟩, ?_, ?_, ?_, ?_⟩
    · simpa using hadvances.weight
    · intro hmode
      simpa [zero] using hadvances.mode hmode
    · exact fun i => inUnit_iff.mpr ⟨_, rfl, mix_unit he' hunit' hq i⟩
    · intro last hlast i
      obtain ⟨hlastUnit, hlastOutput⟩ := h.last last hlast
      obtain ⟨k, hk, hunit⟩ := exists_unitChannels hlastUnit
      rw [hk, hbefore k, Except.ok.injEq] at hlastOutput
      rw [← hlastOutput, hk, hk']
      simpa using abs_mix_sub_le he' hstep hunit hq i
  · rintro last ⟨⟩
    exact ⟨hcall, houtput⟩

theorem Guarded.advances {w : K} (h : Kept stride s w) (hguarded : Guarded s (.update call)) :
    ∃ w', Advances s.blender (s.blender.advance call) stride w w' := by
  refine h.sound.advance fun hnone => ?_
  obtain ⟨hnumber, hquiet⟩ := hguarded hnone
  refine ⟨hnumber, hquiet.imp_right fun hzero => ?_⟩
  rw [h.sound.weight] at hzero
  simpa [zero] using hzero

/-- **One call** that is guarded. -/
theorem Kept.step {w : K} (h : Kept stride s w) (e : BlendEvent (Extended K)) (he : e.InUnit)
    (hguarded : Guarded s e) : ∃ w', Kept stride (s.step e) w' := by
  cases e with
  | reset =>
    refine ⟨0, ⟨h.sound.poses, h.sound.step, h.sound.stride_pos, ?_, ⟨le_rfl, zero_le_one⟩,
      fun hne => absurd rfl hne⟩, by rintro last ⟨⟩⟩
    show zero = finite 0
    simp [zero]
  | update call =>
    obtain ⟨w', hadvances⟩ := Guarded.advances h hguarded
    obtain ⟨-, output, houtput, hkept⟩ := neverJumps_of_advances h he hadvances
    refine ⟨w', ?_⟩
    unfold BlendRun.step
    dsimp only
    rw [update_eq s.blender he, houtput]
    exact hkept

/-- Without a mode, a pose that appears at a positive weight appears at once. -/
theorem mode_appears {w : K} (h : s.blender.Sound stride w) (hnone : s.blender.mode = "none")
    (hdesired : s.blender.desiredMode call ≠ "none") (hw : w ≠ 0) :
    (s.blender.advance call).mode ≠ s.blender.mode ∧
      ∃ w', (s.blender.advance call).weight = finite w' ∧ w' ≠ 0 := by
  obtain ⟨-, hnumber, hpositive⟩ := desiredMode_spec hdesired
  obtain ⟨d, hd, -, -, hdpos⟩ := clip_confidence hnumber
  have hstarted : s.blender.desired call = (s.blender.desiredMode call, finite d) := by
    unfold desired
    rw [if_pos ⟨hnone, hdesired⟩, hd]
  constructor
  · rw [advance_mode_of_eq (congrArg Prod.fst hstarted) rfl, hnone]
    exact hdesired
  · refine ⟨slewTo stride w d, h.advance_weight (congrArg Prod.snd hstarted), ne_of_gt ?_⟩
    exact slewTo_pos h.stride_pos (lt_of_le_of_ne h.unit.1 (Ne.symm hw)) (hdpos hpositive)

/-- **One call** keeps every bound exactly if it is guarded. -/
theorem neverJumps_iff {w : K} (h : Kept stride s w) (e : BlendEvent (Extended K)) (he : e.InUnit) :
    NeverJumps s e ↔ Guarded s e := by
  cases e with
  | reset =>
    refine iff_of_true (inUnit_iff.mpr ⟨0, ?_, le_rfl, zero_le_one⟩) trivial
    show zero = finite 0
    simp [zero]
  | update call =>
    constructor
    · intro hnever hnone
      unfold NeverJumps at hnever
      dsimp only at hnever
      rw [update_eq s.blender he] at hnever
      obtain ⟨hunit, -, hmode, -⟩ := hnever
      constructor
      · by_contra hnan
        exact not_inUnit_of_nan h.sound hnone (by simpa using hnan) hunit
      · by_contra hboth
        obtain ⟨hdesired, hzero⟩ := not_or.mp hboth
        have hw : w ≠ 0 := by
          intro hw
          refine hzero ?_
          rw [h.sound.weight, hw]
          simp [zero]
        obtain ⟨hchanged, w', hweight, hw'⟩ := mode_appears h.sound hnone hdesired hw
        rcases hmode hchanged with hbefore | hafter
        · exact hzero hbefore
        · rw [hweight] at hafter
          exact hw' (by simpa [zero] using hafter)
    · intro hguarded
      obtain ⟨w', hadvances⟩ := Guarded.advances h hguarded
      exact (neverJumps_of_advances h he hadvances).1

/-- **No jump**: for validated poses in `[0, 1]`, a weight step in `(0, 1]`, and every run
    of updates with targets in `[0, 1]` and of resets, every call keeps the bounds exactly
    if every call is guarded. -/
theorem blender_never_jumps_iff {validatedPoses : List (String × Channels (Extended K))}
    (hposes : ∀ name pose, validatedPoses.lookup name = some pose → ∀ i, InUnit (pose i))
    (hstride : 0 < stride) {events : List (BlendEvent (Extended K))}
    (hevents : ∀ e ∈ events, e.InUnit) :
    Meets BlendRun.step NeverJumps (.init validatedPoses (finite stride)) events ↔
      Meets BlendRun.step Guarded (.init validatedPoses (finite stride)) events := by
  refine meets_iff_of_invariant_on (P := fun s => ∃ w, Kept stride s w)
    (fun s e he ⟨w, h⟩ => neverJumps_iff h e he)
    (fun s e he ⟨w, h⟩ hnever => h.step e he ((neverJumps_iff h e he).mp hnever)) ⟨0, ?_⟩ hevents
  refine ⟨⟨hposes, rfl, hstride, ?_, ⟨le_rfl, zero_le_one⟩, fun hne => absurd rfl hne⟩,
    by rintro last ⟨⟩⟩
  show zero = finite 0
  simp [zero]

end Extended

/-! ## A confidence without a mode -/

/-- One validated pose, closed in every channel. -/
def indexPose : List (String × Channels (Extended ℚ)) := [("index", fun _ => .finite 1)]

theorem indexPose_unit : ∀ name pose, indexPose.lookup name = some pose → ∀ i, InUnit (pose i) := by
  intro name pose hpose i
  have hmem : (name, pose) ∈ indexPose := by
    unfold indexPose at hpose ⊢
    rw [List.lookup_cons] at hpose
    split at hpose
    · rename_i hname
      rw [Option.some.injEq] at hpose
      rw [eq_of_beq hname, hpose]
      exact List.mem_singleton_self _
    · cases hpose
  obtain ⟨-, rfl⟩ := Prod.mk.inj (List.mem_singleton.mp hmem)
  exact inUnit_iff.mpr ⟨1, rfl, zero_le_one, le_rfl⟩

def openHand (detectedMode : String) (confidence : Extended ℚ) : BlendEvent (Extended ℚ) :=
  .update ⟨fun _ => .finite 0, detectedMode, confidence, true⟩

theorem openHand_unit (detectedMode : String) (confidence : Extended ℚ) :
    (openHand detectedMode confidence).InUnit :=
  fun _ => inUnit_iff.mpr ⟨0, rfl, le_rfl, zero_le_one⟩

instance (s : BlendRun (Extended ℚ)) : (e : BlendEvent (Extended ℚ)) → Decidable (Guarded s e)
  | .reset => isTrue trivial
  | .update _ => inferInstanceAs (Decidable (_ → _ ∧ (_ ∨ _)))

/-- An index pinch is blended in, and out again when its confidence is lost. -/
theorem index_blended :
    Meets BlendRun.step NeverJumps (.init indexPose (.finite (1 / 4)))
      [openHand "index" (.finite 1), openHand "index" (.finite 1), openHand "index" .nan,
        openHand "none" (.finite 0)] := by
  refine (blender_never_jumps_iff indexPose_unit (by norm_num) ?_).mpr (by decide +kernel)
  simp [openHand_unit]

/-- **The output jumps**: a middle pinch, which has no validated pose, raises the weight
    step by step, and the index pinch after it appears at its full weight; a confidence
    that is `NaN` without a mode makes the weight `NaN`. -/
theorem blender_jumps :
    ¬Meets BlendRun.step NeverJumps (.init indexPose (.finite (1 / 4)))
        [openHand "middle" (.finite 1), openHand "middle" (.finite 1),
          openHand "middle" (.finite 1), openHand "middle" (.finite 1),
          openHand "index" (.finite 1)] ∧
      ¬Meets BlendRun.step NeverJumps (.init indexPose (.finite (1 / 4)))
        [openHand "none" .nan] := by
  constructor
  · rintro ⟨-, -, -, -, ⟨-, -, hmode, -⟩, -⟩
    revert hmode
    decide +kernel
  · rintro ⟨⟨hunit, -⟩, -⟩
    exact absurd hunit.1 (by decide +kernel)

end HandLab.HandRetarget
