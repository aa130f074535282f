import HandLab.Lib.Extended
import HandLab.Vision.Completion
import Mathlib.Algebra.Order.Chebyshev

/-!
# What the guided depth completion fills

The arithmetic is exact, with infinities and NaN.

* `boxMean_finite`: the integral image gives the mean over the mirrored window.
* `variance_nonneg`: the filter divides by a positive number.
* `guided_smul`, `guided_congr`: the filter is homogeneous in its source, and local.
* `guided_completion`: a call fills holes only, near valid depths and in proportion to them.
-/

namespace HandLab.Vision

open HandLab.Lib Double

/-! ## The mirrored window -/

variable {height width radius : ℕ}

theorem cumsum_finite (values : ℕ → ℝ) (n : ℕ) :
    cumsum (fun i => Extended.finite (values i)) n =
      .finite (∑ i ∈ Finset.range (n + 1), values i) := by
  induction n with
  | zero => simp [cumsum]
  | succ n ih => rw [cumsum, ih, Extended.add_finite, Finset.sum_range_succ _ (n + 1)]

theorem bordered_finite (array : Pixels ℝ) (i j : ℕ) :
    bordered (fun i j => Extended.finite (array i j)) i j = .finite (bordered array i j) := by
  cases i <;> cases j <;> simp [bordered, zero]

/-- The integral image sums the rows above and the columns to the left. -/
theorem integral_finite (padded : Pixels ℝ) (i j : ℕ) :
    integral (fun i j => Extended.finite (padded i j)) i j =
      .finite (∑ n ∈ Finset.range j, ∑ m ∈ Finset.range i, padded m n) := by
  have hzero : (zero : ℝ) = 0 := by
    show ((0 : ℚ) : ℝ) = 0
    norm_num
  have hfirst (n : ℕ) : bordered padded 0 n = 0 := by cases n <;> exact hzero
  have hcolumn (m : ℕ) : bordered padded m 0 = 0 := by cases m <;> exact hzero
  simp only [integral, bordered_finite, cumsum_finite, Finset.sum_range_succ' _ i,
    Finset.sum_range_succ' _ j, hfirst, hcolumn, Finset.sum_const_zero, add_zero]
  rfl

/-- The offsets of the window. -/
def window (radius : ℕ) : Finset (ℕ × ℕ) :=
  Finset.range (2 * radius + 1) ×ˢ Finset.range (2 * radius + 1)

theorem card_window (radius : ℕ) : (window radius).card = (2 * radius + 1) * (2 * radius + 1) := by
  simp [window]

/-- The mean over the window around a pixel, mirrored at the sides. -/
noncomputable def windowMean (height width radius : ℕ) (array : Pixels ℝ) : Pixels ℝ := fun i j =>
  (∑ o ∈ window radius,
    array (reflected height radius (i + o.1)) (reflected width radius (j + o.2))) /
    (window radius).card

theorem boxMean_finite (height width radius : ℕ) (array : Pixels ℝ) :
    boxMean height width radius (fun i j => Extended.finite (array i j)) =
      fun i j => .finite (windowMean height width radius array i j) := by
  funext i j
  have hcard : ((window radius).card : ℝ) ≠ 0 := by
    rw [card_window]
    positivity
  have hcorners (f : Pixels ℝ) (s : ℕ) :
      (∑ n ∈ Finset.range (j + s), ∑ m ∈ Finset.range (i + s), f m n) -
          (∑ n ∈ Finset.range (j + s), ∑ m ∈ Finset.range i, f m n) -
          (∑ n ∈ Finset.range j, ∑ m ∈ Finset.range (i + s), f m n) +
          (∑ n ∈ Finset.range j, ∑ m ∈ Finset.range i, f m n) =
        ∑ n ∈ Finset.range s, ∑ m ∈ Finset.range s, f (i + m) (j + n) := by
    simp only [Finset.sum_range_add, Finset.sum_add_distrib]
    ring
  simp only [boxMean, PyFloat.toFloat32, integral_finite, Extended.sub_finite,
    Extended.add_finite, hcorners, Extended.ofRat_eq, Rat.cast_natCast, ← card_window]
  rw [Extended.div_finite _ hcard, windowMean, window, Finset.sum_product_right]

theorem windowMean_smul (c : ℝ) (array : Pixels ℝ) :
    windowMean height width radius (fun i j => c * array i j) =
      fun i j => c * windowMean height width radius array i j := by
  funext i j
  simp only [windowMean, ← Finset.mul_sum, mul_div_assoc]

theorem variance_nonneg (height width radius : ℕ) (array : Pixels ℝ) (i j : ℕ) :
    0 ≤ windowMean height width radius (fun i j => array i j * array i j) i j -
      windowMean height width radius array i j * windowMean height width radius array i j := by
  have hcard : (0 : ℝ) < (window radius).card := by
    rw [card_window]
    positivity
  have hsquare := sq_sum_le_card_mul_sum_sq (s := window radius)
    (f := fun o => array (reflected height radius (i + o.1)) (reflected width radius (j + o.2)))
  simp only [windowMean, sub_nonneg, ← pow_two] at *
  rw [div_pow, div_le_div_iff₀ (by positivity) hcard]
  nlinarith

/-! ## The filter -/

/-- `a` of `_guided_filter`. -/
noncomputable def slope (height width radius : ℕ) (guide source : Pixels ℝ) (epsilon : ℝ) :
    Pixels ℝ := fun i j =>
  let mean := windowMean height width radius
  (mean (fun i j => guide i j * source i j) i j - mean guide i j * mean source i j) /
    (mean (fun i j => guide i j * guide i j) i j - mean guide i j * mean guide i j + epsilon)

/-- The filter without rounding. -/
noncomputable def guided (height width radius : ℕ) (guide source : Pixels ℝ) (epsilon : ℝ) :
    Pixels ℝ := fun i j =>
  let mean := windowMean height width radius
  let a := slope height width radius guide source epsilon
  mean a i j * guide i j + mean (fun i j => mean source i j - a i j * mean guide i j) i j

theorem guidedFilter_finite (guide source : Pixels ℝ) {epsilon : ℝ} (h : 0 < epsilon) :
    guidedFilter height width radius (fun i j => .finite (guide i j))
        (fun i j => .finite (source i j)) (.finite epsilon) =
      fun i j => Extended.finite (guided height width radius guide source epsilon i j) := by
  have hne (i j : ℕ) :=
    (add_pos_of_nonneg_of_pos (variance_nonneg height width radius guide i j) h).ne'
  simp only [guidedFilter, Extended.mul_finite, boxMean_finite, Extended.sub_finite,
    Extended.add_finite, Extended.div_finite _ (hne _ _)]
  rfl

/-- The filter is homogeneous in its source. -/
theorem guided_smul (c : ℝ) (guide source : Pixels ℝ) (epsilon : ℝ) :
    guided height width radius guide (fun i j => c * source i j) epsilon =
      fun i j => c * guided height width radius guide source epsilon i j := by
  have hslope : slope height width radius guide (fun i j => c * source i j) epsilon =
      fun i j => c * slope height width radius guide source epsilon i j := by
    funext i j
    simp only [slope, mul_left_comm _ c, windowMean_smul, ← mul_sub, mul_div_assoc]
  funext i j
  simp only [guided, hslope, windowMean_smul, mul_assoc, ← mul_sub, ← mul_add]

/-! ## Its reach -/

/-- Within `reach` rows and columns. -/
def Near (reach i j p q : ℕ) : Prop :=
  (p ≤ i + reach ∧ i ≤ p + reach) ∧ q ≤ j + reach ∧ j ≤ q + reach

theorem reflected_near {side i o : ℕ} (hradius : radius < side) (hi : i < side)
    (ho : o < 2 * radius + 1) :
    reflected side radius (i + o) < side ∧ reflected side radius (i + o) ≤ i + radius ∧
      i ≤ reflected side radius (i + o) + radius := by
  unfold reflected
  split_ifs <;> omega

theorem windowMean_congr (hheight : radius < height) (hwidth : radius < width)
    {f g : Pixels ℝ} {i j : ℕ} (hi : i < height) (hj : j < width)
    (h : ∀ p < height, ∀ q < width, Near radius i j p q → f p q = g p q) :
    windowMean height width radius f i j = windowMean height width radius g i j := by
  refine congrArg (· / _) (Finset.sum_congr rfl fun o ho => ?_)
  obtain ⟨hp, hq⟩ := Finset.mem_product.mp ho
  obtain ⟨hrow, hrowNear⟩ := reflected_near hheight hi (Finset.mem_range.mp hp)
  obtain ⟨hcolumn, hcolumnNear⟩ := reflected_near hwidth hj (Finset.mem_range.mp hq)
  exact h _ hrow _ hcolumn ⟨hrowNear, hcolumnNear⟩

/-- The two passes see two radii far. -/
theorem guided_congr (hheight : radius < height) (hwidth : radius < width)
    {guide f g : Pixels ℝ} {epsilon : ℝ} {i j : ℕ} (hi : i < height) (hj : j < width)
    (h : ∀ p < height, ∀ q < width, Near (2 * radius) i j p q → f p q = g p q) :
    guided height width radius guide f epsilon i j =
      guided height width radius guide g epsilon i j := by
  have hsource : ∀ p < height, ∀ q < width, Near radius i j p q →
      ∀ m < height, ∀ n < width, Near radius p q m n → f m n = g m n := by
    intro p _ q _ hnear m hm n hn hfar
    refine h m hm n hn ?_
    unfold Near at *
    omega
  have hmean : ∀ p < height, ∀ q < width, Near radius i j p q →
      windowMean height width radius f p q = windowMean height width radius g p q :=
    fun p hp q hq hnear => windowMean_congr hheight hwidth hp hq (hsource p hp q hq hnear)
  have hslope : ∀ p < height, ∀ q < width, Near radius i j p q →
      slope height width radius guide f epsilon p q =
        slope height width radius guide g epsilon p q := by
    intro p hp q hq hnear
    have hproduct := windowMean_congr (f := fun m n => guide m n * f m n)
      (g := fun m n => guide m n * g m n) hheight hwidth hp hq
      fun m hm n hn hfar => congrArg (guide m n * ·) (hsource p hp q hq hnear m hm n hn hfar)
    simp only [slope, hproduct, hmean p hp q hq hnear]
  simp only [guided]
  rw [windowMean_congr hheight hwidth hi hj hslope]
  refine congrArg (_ + ·) (windowMean_congr hheight hwidth hi hj fun p hp q hq hnear => ?_)
  rw [hmean p hp q hq hnear, hslope p hp q hq hnear]

/-! ## The completion -/

/-- The entries are numbers. -/
def Entries.IsFinite : Entries (Extended ℝ) → Prop
  | .integer _ _ => True
  | .floating value => ∀ i j k, ∃ x, value i j k = .finite x

/-- An array times `c`. -/
noncomputable def Image.scaled (c : ℝ) (image : Image (Extended ℝ)) : Image (Extended ℝ) :=
  { image with pixel := fun i j => mul (.finite c) (image.pixel i j) }

theorem luminance_finite (height width : ℕ) {entries : Entries (Extended ℝ)}
    (h : entries.IsFinite) :
    ∃ guide : Pixels ℝ, luminance height width entries = fun i j => .finite (guide i j) := by
  suffices hguide : ∃ guide : ℕ → ℕ → ℕ → ℝ,
      guideOf height width entries = fun i j k => .finite (guide i j k) by
    obtain ⟨guide, hguide⟩ := hguide
    simp only [luminance, hguide, Extended.ofRat_eq, Extended.mul_finite, Extended.add_finite]
    exact ⟨_, rfl⟩
  cases entries with
  | integer top value =>
    have htop : (((((top : ℕ) : ℤ) : ℚ) : ℝ)) ≠ 0 := by simp
    exact ⟨_, funext fun i => funext fun j => funext fun k => Extended.div_finite _ htop⟩
  | floating value =>
    choose number hnumber using h
    have hscale : ((255 : ℚ) : ℝ) ≠ 0 := by norm_num
    have hcast (i j k : ℕ) : PyFloat.toFloat32 (value i j k) = .finite (number i j k) :=
      hnumber i j k
    simp only [guideOf, hcast, Extended.ofRat_eq, Extended.div_finite _ hscale]
    split
    · exact ⟨_, rfl⟩
    · exact ⟨_, rfl⟩

/-! ### A positive factor -/

section Scale

variable {c : ℝ} {o : CompletionOptions (Extended ℝ)}

/-- Both depth bounds times `c`. -/
noncomputable def CompletionOptions.scaled (c : ℝ) (o : CompletionOptions (Extended ℝ)) :
    CompletionOptions (Extended ℝ) :=
  { o with minDepthM := mul (.finite c) o.minDepthM, maxDepthM := mul (.finite c) o.maxDepthM }

variable (hc : 0 < c)
include hc

theorem mul_infinite (s : Bool) :
    mul (Extended.finite c) (.infinite s) = Extended.infinite s := by
  simp [mul, Extended.mul, Extended.negative, hc.ne', hc.not_gt]

theorem lt_scaled (a b : Extended ℝ) : lt (mul (.finite c) a) (mul (.finite c) b) = lt a b := by
  cases a <;> cases b <;> try simp only [mul_infinite hc, Extended.mul_finite, Extended.lt_finite,
    mul_lt_mul_iff_right₀ hc]
  all_goals rfl

theorem le_scaled (a b : Extended ℝ) : le (mul (.finite c) a) (mul (.finite c) b) = le a b := by
  cases a <;> cases b <;> try simp only [mul_infinite hc, Extended.mul_finite, Extended.le_finite,
    mul_le_mul_iff_right₀ hc]
  all_goals rfl

theorem isFinite_scaled (a : Extended ℝ) : isFinite (mul (.finite c) a) = isFinite a := by
  cases a with
  | infinite s => rw [mul_infinite hc]
  | _ => rfl

theorem isValid_scaled (d : Extended ℝ) :
    (o.scaled c).isValid (mul (.finite c) d) = o.isValid d := by
  simp only [CompletionOptions.isValid, CompletionOptions.scaled, le_scaled hc, isFinite_scaled hc]

theorem kept_scaled (d : Extended ℝ) : kept (mul (.finite c) d) = mul (.finite c) (kept d) := by
  simp only [kept, isFinite_scaled hc]
  split
  · rfl
  · simp [zero]

end Scale

namespace CompletionOptions

variable (o : CompletionOptions (Extended ℝ)) (depth : Image (Extended ℝ)) (rgb : Rgb (Extended ℝ))
  (output : Image (Extended ℝ))

/-- A depth as a number, 0 where it is not valid. -/
noncomputable def measured (d : Extended ℝ) : ℝ :=
  match d with
  | .finite x => if o.isValid d then x else 0
  | _ => 0

/-- `valid_float`. -/
noncomputable def mask (d : Extended ℝ) : ℝ :=
  if o.isValid d then 1 else 0

/-- What the checks leave: the least support is positive, and the filter is one of numbers. -/
structure Passes (least : ℝ) (filter : Pixels ℝ → Pixels ℝ) : Prop where
  least_pos : 0 < least
  minSupport_eq : o.minSupport = .finite least
  smul (c : ℝ) (f : Pixels ℝ) : filter (fun i j => c * f i j) = fun i j => c * filter f i j
  congr {i j : ℕ} (hi : i < depth.height) (hj : j < depth.width) {f g : Pixels ℝ}
    (h : ∀ p < depth.height, ∀ q < depth.width, Near (2 * o.radiusPx.toNat) i j p q →
      f p q = g p q) : filter f i j = filter g i j
  finite (f : Pixels ℝ) :
    guidedFilter depth.height depth.width o.radiusPx.toNat
      (luminance depth.height depth.width rgb.entries) (fun i j => .finite (f i j)) o.epsilon =
    fun i j => .finite (filter f i j)

/-- The image that a call returns. -/
noncomputable def completed : Image (Extended ℝ) :=
  { depth with pixel := fun i j =>
    if o.fillable depth rgb i j then o.candidate depth rgb i j else kept (depth.pixel i j) }

/-- The checks of the bounds, of the support and of `epsilon`. -/
def Checked : Prop :=
  ((isFinite o.epsilon = true ∧ le o.epsilon zero = false) ∧
    lt zero o.minSupport = true ∧ le o.minSupport (ofRat 1) = true) ∧
  lt o.minDepthM zero = false ∧ le o.maxDepthM o.minDepthM = false

/-- A completed image: valid depths are kept, and a hole is kept or filled, within the bounds,
    with the one valid depth if there is but one, and only near a valid depth. -/
structure Completes : Prop where
  valid {i j : ℕ} : o.isValid (depth.pixel i j) = true → output.pixel i j = depth.pixel i j
  unfilled {i j : ℕ} : o.fillable depth rgb i j = false →
    output.pixel i j = kept (depth.pixel i j)
  filled {i j : ℕ} : o.fillable depth rgb i j = true → o.isValid (depth.pixel i j) = false ∧
    o.isValid (output.pixel i j) = true
  constant {i j : ℕ} (hi : i < depth.height) (hj : j < depth.width) {d : Extended ℝ} :
    (∀ p < depth.height, ∀ q < depth.width,
      o.isValid (depth.pixel p q) = true → depth.pixel p q = d) →
    o.fillable depth rgb i j = true → output.pixel i j = d
  near {i j : ℕ} (hi : i < depth.height) (hj : j < depth.width) :
    o.fillable depth rgb i j = true → ∃ p < depth.height, ∃ q < depth.width,
      Near (2 * o.radiusPx.toNat) i j p q ∧ o.isValid (depth.pixel p q) = true

variable {o depth rgb output}

theorem weighted_eq (d : Extended ℝ) :
    (if o.isValid d then d else zero) = Extended.finite (o.measured d) := by
  cases d <;> simp [measured, isValid, isFinite, Extended.isFinite, zero]
  split <;> rfl

theorem valid_float_eq (d : Extended ℝ) :
    (if o.isValid d then ofRat 1 else zero) = Extended.finite (o.mask d) := by
  unfold mask
  split <;> simp [zero]

theorem guidedDepthCompletion_ok_iff : guidedDepthCompletion depth rgb o = .ok output ↔
    (rgb.shape = [depth.height, depth.width, 3] ∧ 0 < o.radiusPx ∧ o.Checked) ∧
      o.completed depth rgb = output := by
  have hcast (x : Extended ℝ) : PyFloat.toFloat32 x = x := rfl
  by_cases hshape : rgb.shape = [depth.height, depth.width, 3]
  · simp only [guidedDepthCompletion, Checked, completed, hcast, hshape, ne_eq, not_true, if_false,
      true_and]
    split_ifs <;> grind
  · simp [guidedDepthCompletion, hshape]

theorem Checked.passes (h : o.Checked) (hheight : o.radiusPx.toNat < depth.height)
    (hwidth : o.radiusPx.toNat < depth.width) (hrgb : rgb.entries.IsFinite) :
    ∃ least filter, o.Passes depth rgb least filter := by
  obtain ⟨⟨⟨hfinite, hpos⟩, hleast, hone⟩, -, -⟩ := h
  obtain ⟨guide, hguide⟩ := luminance_finite depth.height depth.width hrgb
  obtain ⟨e, he⟩ : ∃ e : ℝ, o.epsilon = .finite e := by
    cases h : o.epsilon with
    | finite e => exact ⟨e, rfl⟩
    | infinite s => rw [h] at hfinite; cases hfinite
    | nan => rw [h] at hfinite; cases hfinite
  obtain ⟨least, hmin⟩ : ∃ least : ℝ, o.minSupport = .finite least := by
    cases h : o.minSupport with
    | finite e => exact ⟨e, rfl⟩
    | infinite s => rw [h] at hleast hone; cases s <;> cases hleast; cases hone
    | nan => rw [h] at hleast; cases hleast
  have hepos : 0 < e := by simpa [he, zero] using hpos
  exact ⟨least, fun f => guided depth.height depth.width o.radiusPx.toNat guide f e,
    by simpa [hmin, zero] using hleast, hmin, fun c f => guided_smul c guide f e,
    fun hi hj _ _ h => guided_congr hheight hwidth hi hj h,
    fun f => by rw [hguide, he]; exact guidedFilter_finite guide f hepos⟩

namespace Passes

variable {least : ℝ} {filter : Pixels ℝ → Pixels ℝ} {i j : ℕ}
  (h : o.Passes depth rgb least filter)
include h

theorem support_eq :
    o.support depth rgb = fun i j => .finite (filter (fun i j => o.mask (depth.pixel i j)) i j) := by
  rw [← h.finite, support, filtered]
  simp only [valid_float_eq]

theorem numerator_eq :
    o.numerator depth rgb =
      fun i j => .finite (filter (fun i j => o.measured (depth.pixel i j)) i j) := by
  rw [← h.finite, numerator, filtered]
  simp only [weighted_eq]

theorem supported_iff : o.supported depth rgb i j = true ↔
    o.isValid (depth.pixel i j) = false ∧
      least ≤ filter (fun i j => o.mask (depth.pixel i j)) i j := by
  simp [supported, h.support_eq, h.minSupport_eq]

theorem exists_near (hi : i < depth.height)
    (hj : j < depth.width) (hsupported : o.supported depth rgb i j = true) :
    ∃ p < depth.height, ∃ q < depth.width,
      Near (2 * o.radiusPx.toNat) i j p q ∧ o.isValid (depth.pixel p q) = true := by
  by_contra hnone
  have hzero := h.congr hi hj (f := fun i j => o.mask (depth.pixel i j))
    (g := fun i j => 0 * o.mask (depth.pixel i j)) fun p hp q hq hnear => by
      rw [zero_mul, mask, if_neg fun hvalid => hnone ⟨p, hp, q, hq, hnear, hvalid⟩]
  rw [h.smul 0 fun i j => o.mask (depth.pixel i j)] at hzero
  simp only [zero_mul] at hzero
  exact (h.least_pos.trans_le (h.supported_iff.mp hsupported).2).ne' hzero

theorem candidate_eq (hsupported : o.supported depth rgb i j = true) :
    o.candidate depth rgb i j = .finite (filter (fun i j => o.measured (depth.pixel i j)) i j /
      filter (fun i j => o.mask (depth.pixel i j)) i j) := by
  rw [candidate, if_pos hsupported, h.numerator_eq, h.support_eq, Extended.div_finite]
  exact (h.least_pos.trans_le (h.supported_iff.mp hsupported).2).ne'

theorem candidate_constant (hi : i < depth.height)
    (hj : j < depth.width) (hsupported : o.supported depth rgb i j = true) {d : Extended ℝ}
    (hd : ∀ p < depth.height, ∀ q < depth.width,
      o.isValid (depth.pixel p q) = true → depth.pixel p q = d) :
    o.candidate depth rgb i j = d := by
  obtain ⟨p, hp, q, hq, -, hvalid⟩ := h.exists_near hi hj hsupported
  obtain ⟨x, rfl⟩ : ∃ x : ℝ, d = .finite x := by
    rw [← hd p hp q hq hvalid]
    cases hdepth : depth.pixel p q with
    | finite x => exact ⟨x, rfl⟩
    | infinite s => rw [hdepth] at hvalid; cases hvalid
    | nan => rw [hdepth] at hvalid; cases hvalid
  have hnumerator := h.congr hi hj (f := fun i j => o.measured (depth.pixel i j))
    (g := fun i j => x * o.mask (depth.pixel i j)) fun m hm n hn _ => by
      by_cases hmn : o.isValid (depth.pixel m n) = true
      · have hdepth := hd m hm n hn hmn
        rw [hdepth] at hmn ⊢
        simp [measured, mask, hmn]
      · unfold measured mask
        split <;> simp_all
  rw [h.candidate_eq hsupported, hnumerator, h.smul, mul_div_cancel_right₀]
  exact (h.least_pos.trans_le (h.supported_iff.mp hsupported).2).ne'

/-! ### A positive factor -/

variable {c : ℝ}

theorem scaled :
    (o.scaled c).Passes (depth.scaled c) rgb least filter where
  least_pos := h.least_pos
  minSupport_eq := h.minSupport_eq
  smul := h.smul
  congr := h.congr
  finite := h.finite

theorem completed_scaled (hc : 0 < c) :
    (o.scaled c).completed (depth.scaled c) rgb = (o.completed depth rgb).scaled c := by
  have hmask (p q : ℕ) : (o.scaled c).mask ((depth.scaled c).pixel p q) =
      o.mask (depth.pixel p q) := by
    simp only [mask, Image.scaled, isValid_scaled hc]
  have hmeasured (p q : ℕ) : (o.scaled c).measured ((depth.scaled c).pixel p q) =
      c * o.measured (depth.pixel p q) := by
    apply Extended.finite.inj
    rw [← weighted_eq, Image.scaled, isValid_scaled hc, ← Extended.mul_finite, ← weighted_eq]
    split
    · rfl
    · simp [zero]
  have hsupported (i j : ℕ) : (o.scaled c).supported (depth.scaled c) rgb i j =
      o.supported depth rgb i j := by
    have hvalid : (o.scaled c).isValid ((depth.scaled c).pixel i j) =
        o.isValid (depth.pixel i j) := isValid_scaled hc _
    rw [Bool.eq_iff_iff, h.supported_iff, h.scaled.supported_iff]
    simp only [hmask, hvalid]
  have hcandidate (i j : ℕ) : (o.scaled c).candidate (depth.scaled c) rgb i j =
      mul (.finite c) (o.candidate depth rgb i j) := by
    cases hij : o.supported depth rgb i j with
    | false => simp [candidate, hsupported, hij, zero]
    | true =>
      rw [h.candidate_eq hij, h.scaled.candidate_eq ((hsupported i j).trans hij)]
      simp only [hmask, hmeasured, h.smul, Extended.mul_finite, mul_div_assoc]
  have hfillable (i j : ℕ) : (o.scaled c).fillable (depth.scaled c) rgb i j =
      o.fillable depth rgb i j := by
    simp only [fillable, hsupported, hcandidate, isFinite_scaled hc]
    simp only [CompletionOptions.scaled, le_scaled hc]
  simp only [completed, hfillable, hcandidate]
  refine congrArg (Image.mk _ _) (funext fun i => funext fun j => ?_)
  simp only [Image.scaled, kept_scaled hc]
  split <;> rfl

end Passes

theorem Checked.scaled {c : ℝ} (hc : 0 < c) (h : o.Checked) : (o.scaled c).Checked := by
  have hzero : (zero : Extended ℝ) = mul (.finite c) zero := by simp [zero]
  refine ⟨h.1, ?_, (le_scaled hc _ _).trans h.2.2⟩
  rw [hzero]
  exact (lt_scaled hc _ _).trans h.2.1

theorem Passes.completes {least : ℝ} {filter : Pixels ℝ → Pixels ℝ}
    (h : o.Passes depth rgb least filter) : o.Completes depth rgb (o.completed depth rgb) := by
  have hsupported {i j : ℕ} (hfill : o.fillable depth rgb i j = true) :
      o.supported depth rgb i j = true := by
    simp only [fillable, Bool.and_eq_true] at hfill
    exact hfill.1.1.1
  have hpixel {i j : ℕ} (hfill : o.fillable depth rgb i j = true) :
      (o.completed depth rgb).pixel i j = o.candidate depth rgb i j := if_pos hfill
  refine ⟨fun {i j} hvalid => ?_, fun hfill => if_neg (by simp [hfill]), fun {i j} hfill => ?_,
    fun hi hj _ hd hfill => (hpixel hfill).trans (h.candidate_constant hi hj (hsupported hfill) hd),
    fun hi hj hfill => h.exists_near hi hj (hsupported hfill)⟩
  · have hfill : ¬o.fillable depth rgb i j = true := fun hfill => by
      rw [(h.supported_iff.mp (hsupported hfill)).1] at hvalid
      cases hvalid
    refine (if_neg hfill).trans (if_pos ?_)
    simp only [isValid, Bool.and_eq_true] at hvalid
    exact hvalid.1.1
  · refine ⟨(h.supported_iff.mp (hsupported hfill)).1, ?_⟩
    rw [hpixel hfill]
    simp only [fillable, Bool.and_eq_true] at hfill
    simp only [isValid, Bool.and_eq_true]
    exact ⟨⟨hfill.1.1.2, hfill.1.2⟩, hfill.2⟩

end CompletionOptions

/-- The box mean is the mean over the mirrored window, and an accepted call fills holes only, and
    in proportion to the depths. -/
theorem guided_completion {depth output : Image (Extended ℝ)} {rgb : Rgb (Extended ℝ)}
    {o : CompletionOptions (Extended ℝ)} (hheight : o.radiusPx < depth.height)
    (hwidth : o.radiusPx < depth.width) (hrgb : rgb.entries.IsFinite)
    (h : guidedDepthCompletion depth rgb o = .ok output) :
    (∀ array : Pixels ℝ, ∀ i < depth.height, ∀ j < depth.width,
      boxMean depth.height depth.width o.radiusPx.toNat (fun i j => Extended.finite (array i j))
        i j = .finite (windowMean depth.height depth.width o.radiusPx.toNat array i j)) ∧
    o.Completes depth rgb output ∧
    ∀ c : ℝ, 0 < c →
      guidedDepthCompletion (depth.scaled c) rgb (o.scaled c) = .ok (output.scaled c) := by
  obtain ⟨⟨hshape, hradius, hchecked⟩, rfl⟩ := CompletionOptions.guidedDepthCompletion_ok_iff.mp h
  have hrows : o.radiusPx.toNat < depth.height := by omega
  have hcolumns : o.radiusPx.toNat < depth.width := by omega
  obtain ⟨least, filter, hpasses⟩ := hchecked.passes hrows hcolumns hrgb
  refine ⟨fun array i _ j _ => by rw [boxMean_finite], hpasses.completes, fun c hc => ?_⟩
  rw [CompletionOptions.guidedDepthCompletion_ok_iff]
  exact ⟨⟨hshape, hradius, hchecked.scaled hc⟩, hpasses.completed_scaled hc⟩

/-! ## A hole in a corner -/

/-- An image with three measured pixels and a hole. -/
def cornerHole : Image (Extended ℝ) :=
  ⟨2, 2, fun i j => if i = 0 ∧ j = 0 then .nan else .finite 1⟩

/-- A black image of its size. -/
def black : Rgb (Extended ℝ) := ⟨[2, 2, 3], .integer 255 fun _ _ _ => 0⟩

/-- A window of three by three. -/
noncomputable def narrow : CompletionOptions (Extended ℝ) := { radiusPx := 1 }

theorem luminance_black : luminance 2 2 black.entries = fun _ _ => Extended.finite 0 := by
  have hdark : div (Extended.finite 0) (.finite 255) = Extended.finite (0 : ℝ) := by
    rw [Extended.div_finite _ (by norm_num), zero_div]
  funext i j
  simp [luminance, guideOf, black, Double.ofInt, PyFloat.toFloat32, hdark]

theorem guided_black (source : Pixels ℝ) (epsilon : ℝ) :
    guided height width radius (fun _ _ => 0) source epsilon =
      windowMean height width radius (windowMean height width radius source) := by
  have hzero : windowMean height width radius (fun _ _ => 0) = fun _ _ => 0 := by
    funext i j
    simp [windowMean]
  funext i j
  simp [guided, slope, hzero]

/-- In two rows and columns the window shows the opposite ones twice. -/
theorem windowMean_two (array : Pixels ℝ) {i j : ℕ} (hi : i < 2) (hj : j < 2) :
    windowMean 2 2 1 array i j =
      (array i j + 2 * array i (1 - j) + 2 * array (1 - i) j + 4 * array (1 - i) (1 - j)) / 9 := by
  have hreflected : ∀ k < 2, reflected 2 1 (k + 0) = 1 - k ∧ reflected 2 1 (k + 1) = k ∧
      reflected 2 1 (k + 2) = 1 - k := by decide
  obtain ⟨hi0, hi1, hi2⟩ := hreflected i hi
  obtain ⟨hj0, hj1, hj2⟩ := hreflected j hj
  unfold windowMean
  rw [card_window]
  simp only [window, Finset.sum_product, Finset.sum_range_succ, Finset.sum_range_zero, hi0, hi1, hi2,
    hj0, hj1, hj2]
  norm_num
  ring

theorem isValid_one : narrow.isValid (.finite 1) = true := by
  simp [CompletionOptions.isValid, narrow, isFinite, Extended.isFinite]
  norm_num

theorem mask_cornerHole (i j : ℕ) :
    narrow.mask (cornerHole.pixel i j) = if i = 0 ∧ j = 0 then 0 else 1 := by
  unfold CompletionOptions.mask cornerHole
  dsimp only
  split
  · rfl
  · rw [if_pos isValid_one]

theorem support_cornerHole : narrow.support cornerHole black 0 0 = .finite (56 / 81) := by
  have hepsilon : (0 : ℝ) < ((1e-3 : ℚ) : ℝ) := by norm_num
  have hguided : guidedFilter 2 2 1 (fun _ _ => .finite 0)
      (fun i j => .finite (narrow.mask (cornerHole.pixel i j))) (.finite ((1e-3 : ℚ) : ℝ)) =
        fun i j => Extended.finite (guided 2 2 1 (fun _ _ => 0)
          (fun i j => narrow.mask (cornerHole.pixel i j)) ((1e-3 : ℚ) : ℝ) i j) :=
    guidedFilter_finite _ _ hepsilon
  have hsupport : narrow.support cornerHole black = guidedFilter 2 2 1 (fun _ _ => .finite 0)
      (fun i j => .finite (narrow.mask (cornerHole.pixel i j))) (.finite ((1e-3 : ℚ) : ℝ)) := by
    unfold CompletionOptions.support CompletionOptions.filtered
    simp only [CompletionOptions.valid_float_eq]
    rw [← luminance_black]
    rfl
  rw [hsupport, hguided, guided_black]
  simp only [windowMean_two _ (show 0 < 2 by decide) (show 0 < 2 by decide),
    windowMean_two _ (show 0 < 2 by decide) (show 1 < 2 by decide),
    windowMean_two _ (show 1 < 2 by decide) (show 0 < 2 by decide),
    windowMean_two _ (show 1 < 2 by decide) (show 1 < 2 by decide), mask_cornerHole]
  norm_num

theorem cornerHole_supported : narrow.supported cornerHole black 0 0 = true := by
  unfold CompletionOptions.supported
  rw [support_cornerHole]
  simp [CompletionOptions.isValid, cornerHole, narrow, isFinite, Extended.isFinite]
  norm_num

/-- The hole is filled. -/
theorem guided_completion_corner :
    ∃ output, guidedDepthCompletion cornerHole black narrow = .ok output ∧
      narrow.Completes cornerHole black output ∧
      narrow.fillable cornerHole black 0 0 = true ∧ output.pixel 0 0 = .finite 1 := by
  have hchecked : narrow.Checked := by
    norm_num [CompletionOptions.Checked, narrow, zero]
  have h : guidedDepthCompletion cornerHole black narrow = .ok
      (narrow.completed cornerHole black) :=
    CompletionOptions.guidedDepthCompletion_ok_iff.mpr ⟨⟨rfl, by decide, hchecked⟩, rfl⟩
  have hblack : black.entries.IsFinite := trivial
  have hcompletes := (guided_completion (by decide) (by decide) hblack h).2.1
  have hone : ∀ p < cornerHole.height, ∀ q < cornerHole.width,
      narrow.isValid (cornerHole.pixel p q) = true → cornerHole.pixel p q = .finite 1 := by
    intro p _ q _ hvalid
    unfold cornerHole at hvalid ⊢
    dsimp only at hvalid ⊢
    split at hvalid
    · cases hvalid
    · rename_i hmeasured
      rw [if_neg hmeasured]
  have hfillable : narrow.fillable cornerHole black 0 0 = true := by
    obtain ⟨least, filter, hpasses⟩ : ∃ least filter,
        narrow.Passes cornerHole black least filter :=
      hchecked.passes (by decide) (by decide) hblack
    have hcandidate := hpasses.candidate_constant (by decide) (by decide) cornerHole_supported hone
    have hvalid := isValid_one
    simp only [CompletionOptions.isValid, Bool.and_eq_true] at hvalid
    unfold CompletionOptions.fillable
    rw [cornerHole_supported, hcandidate, hvalid.1.1, hvalid.1.2, hvalid.2]
    rfl
  exact ⟨_, h, hcompletes, hfillable,
    hcompletes.constant (by decide) (by decide) hone hfillable⟩

end HandLab.Vision
