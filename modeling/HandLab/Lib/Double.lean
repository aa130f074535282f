import HandLab.Lib.Numeral
import Mathlib.Algebra.Order.Round
import Mathlib.Data.Rat.Floor
import Mathlib.Algebra.Order.Archimedean.Real.Basic

/-!
# The operations of `double`

`Double δ` lists the floating-point operations the programs use and assumes
nothing about them: comparisons are Boolean, so a value may be unordered with
every other (`NaN`), and sums need not be exact. A theorem over an arbitrary
`Double δ` holds for IEEE-754 arithmetic with any rounding, and also for exact
arithmetic, through the instances on `ℚ` and `ℝ`.

`PyFloat δ` adds the conversions and the NumPy selections that Python code
makes. `Ieee δ` says how comparisons of numbers behave, in rounded arithmetic
too, and `Exact δ` that the operations are those of an ordered field;
`ExactConversions δ` says the same of the conversions.
-/

namespace HandLab.Lib

/-- The operations of the C++ type `double` (and of a Python `float`). -/
class Double (δ : Type*) where
  /-- the constant `n / d` of a decimal literal -/
  ofRat : ℚ → δ
  add : δ → δ → δ
  sub : δ → δ → δ
  mul : δ → δ → δ
  div : δ → δ → δ
  /-- `std::abs` -/
  abs : δ → δ
  /-- `a < b` -/
  lt : δ → δ → Bool
  /-- `a == b` -/
  eq : δ → δ → Bool
  /-- `std::isfinite` -/
  isFinite : δ → Bool

namespace Double

variable {δ : Type*} [Double δ]

/-- The literal `0.0`. -/
def zero : δ := ofRat 0

/-- `a <= b`. -/
def le (a b : δ) : Bool := lt a b || eq a b

/-- `std::max(a, b)`: `b` only if `a < b`. -/
def max (a b : δ) : δ := if lt a b then b else a

/-- `std::min(a, b)`: `b` only if `b < a`. -/
def min (a b : δ) : δ := if lt b a then b else a

/-- `std::clamp`. -/
def clamp (value low high : δ) : δ :=
  if lt value low then low else if lt high value then high else value

/-- The conversion of a signed integer. -/
def ofInt (n : ℤ) : δ := ofRat n

/-- Exact rational arithmetic. -/
instance : Double ℚ where
  ofRat q := q
  add := (· + ·)
  sub := (· - ·)
  mul := (· * ·)
  div := (· / ·)
  abs a := if a < 0 then -a else a
  lt a b := decide (a < b)
  eq a b := decide (a = b)
  isFinite _ := true

/-- Exact real arithmetic. -/
noncomputable instance : Double ℝ where
  ofRat q := q
  add := (· + ·)
  sub := (· - ·)
  mul := (· * ·)
  div := (· / ·)
  abs a := |a|
  lt a b := decide (a < b)
  eq a b := decide (a = b)
  isFinite _ := true

end Double

/-! ## Comparisons -/

/-- How IEEE 754 orders the numbers among the values; a number is a value that
    equals itself, and only numbers are less than something. -/
class Ieee (δ : Type*) [Double δ] : Prop where
  lt_trans {a b c : δ} : Double.lt a b = true → Double.lt b c = true → Double.lt a c = true
  eq_self_of_lt {a b : δ} : Double.lt a b = true → Double.eq b b = true
  lt_or_lt {a b c : δ} : Double.eq b b = true → Double.lt a c = true →
    Double.lt a b = true ∨ Double.lt b c = true
  le_of_not_lt {a b : δ} : Double.eq a a = true → Double.eq b b = true →
    Double.lt b a = false → Double.le a b = true
  eq_self_of_isFinite {a : δ} : Double.isFinite a = true → Double.eq a a = true
  /-- the difference of two finite numbers may overflow, but is a number -/
  eq_self_abs_sub {a b : δ} : Double.isFinite a = true → Double.isFinite b = true →
    Double.eq (Double.abs (Double.sub a b)) (Double.abs (Double.sub a b)) = true
  isFinite_zero : Double.isFinite (Double.zero : δ) = true

namespace Ieee

variable {δ : Type*} [Double δ] [Ieee δ]

theorem eq_self_max {a b : δ} (ha : Double.eq a a = true) :
    Double.eq (Double.max a b) (Double.max a b) = true := by
  unfold Double.max
  split_ifs with h
  · exact eq_self_of_lt h
  · exact ha

/-- `std::max` keeps what lies below its first argument. -/
theorem lt_max_of_lt_left {a b c : δ} (h : Double.lt c a = true) :
    Double.lt c (Double.max a b) = true := by
  unfold Double.max
  split_ifs with hab
  · exact lt_trans h hab
  · exact h

theorem lt_max_of_lt_right {a b c : δ} (ha : Double.eq a a = true) (h : Double.lt c b = true) :
    Double.lt c (Double.max a b) = true := by
  unfold Double.max
  split_ifs with hab
  · exact h
  · exact (lt_or_lt ha h).resolve_right hab

end Ieee

/-! ## The C++ library -/

/-- `Double` with the functions of `<cmath>` that the programs call. -/
class CMath (δ : Type*) extends Double δ where
  neg : δ → δ
  /-- `std::sqrt` -/
  sqrt : δ → δ
  /-- `std::ceil` -/
  ceil : δ → δ
  /-- `std::copysign(magnitude, sign)` -/
  copysign : δ → δ → δ
  /-- `std::remainder` -/
  remainder : δ → δ → δ

/-! ## Python and NumPy -/

/-- `Double` with the conversions of Python and NumPy. -/
class PyFloat (δ : Type*) extends Double δ where
  /-- to `numpy.float32` and back -/
  toFloat32 : δ → δ
  /-- `int(round(x))`: to the nearest integer, ties to even -/
  round : δ → ℤ

namespace PyFloat

open Double

variable {δ : Type*} [PyFloat δ]

/-- `numpy.minimum`, which passes a `NaN` of either side on. -/
def minimum (a b : δ) : δ := if le a b || !eq a a then a else b

/-- `numpy.maximum`, which passes a `NaN` of either side on. -/
def maximum (a b : δ) : δ := if le b a || !eq a a then a else b

/-- `numpy.clip(x, low, high)`. -/
def clip (x low high : δ) : δ := minimum (maximum x low) high

/-- The built-in `min(a, b)`: `b` only if `b < a`. -/
def pyMin (a b : δ) : δ := if lt b a then b else a

/-- The built-in `max(a, b)`: `b` only if `b > a`. -/
def pyMax (a b : δ) : δ := if lt a b then b else a

/-- `numpy.allclose(a, b, atol=tolerance, rtol=0.0)` on one pair. -/
def isClose (a b tolerance : δ) : Bool :=
  (le (abs (sub a b)) tolerance && isFinite b) || eq a b

/-- `round` of Python on an exact value: ties go to the even neighbour. -/
def roundHalfEven {K : Type*} [Field K] [LinearOrder K] [FloorRing K] (x : K) : ℤ :=
  if Int.fract x = 1 / 2 then if Even ⌊x⌋ then ⌊x⌋ else ⌊x⌋ + 1 else ⌊x + 1 / 2⌋

/-- Exact rational arithmetic. -/
instance : PyFloat ℚ where
  toFloat32 q := q
  round := roundHalfEven

/-- Exact real arithmetic. -/
noncomputable instance : PyFloat ℝ where
  toFloat32 x := x
  round := roundHalfEven

end PyFloat

/-! ## Exact arithmetic -/

/-- The operations are those of an ordered field, without rounding and without
    special values. -/
class Exact (δ : Type*) [Field δ] [LinearOrder δ] [IsStrictOrderedRing δ] [Double δ] : Prop where
  ofRat_eq (q : ℚ) : (Double.ofRat q : δ) = (q : δ)
  add_eq (a b : δ) : Double.add a b = a + b
  sub_eq (a b : δ) : Double.sub a b = a - b
  mul_eq (a b : δ) : Double.mul a b = a * b
  div_eq (a b : δ) : Double.div a b = a / b
  abs_eq (a : δ) : Double.abs a = |a|
  lt_eq (a b : δ) : Double.lt a b = decide (a < b)
  eq_eq (a b : δ) : Double.eq a b = decide (a = b)
  isFinite_eq (a : δ) : Double.isFinite a = true

instance : Exact ℚ where
  ofRat_eq q := by simp [Double.ofRat]
  add_eq _ _ := rfl
  sub_eq _ _ := rfl
  mul_eq _ _ := rfl
  div_eq _ _ := rfl
  abs_eq a := by
    rcases lt_or_ge a 0 with h | h
    · simp [Double.abs, h, abs_of_neg h]
    · simp [Double.abs, not_lt.mpr h, abs_of_nonneg h]
  lt_eq _ _ := rfl
  eq_eq _ _ := rfl
  isFinite_eq _ := rfl

instance : Exact ℝ where
  ofRat_eq _ := rfl
  add_eq _ _ := rfl
  sub_eq _ _ := rfl
  mul_eq _ _ := rfl
  div_eq _ _ := rfl
  abs_eq _ := rfl
  lt_eq _ _ := rfl
  eq_eq _ _ := rfl
  isFinite_eq _ := rfl

namespace Exact

variable {δ : Type*} [Field δ] [LinearOrder δ] [IsStrictOrderedRing δ]

section Double

variable [Double δ] [Exact δ]

attribute [simp] ofRat_eq add_eq sub_eq mul_eq div_eq abs_eq lt_eq eq_eq isFinite_eq

@[simp] theorem zero_eq : (Double.zero : δ) = 0 := by
  simp [Double.zero]

@[simp] theorem le_eq (a b : δ) : Double.le a b = decide (a ≤ b) := by
  simp [Double.le, le_iff_lt_or_eq]

theorem max_eq (a b : δ) : Double.max a b = Max.max a b := by
  simp only [Double.max, lt_eq, decide_eq_true_eq]
  rcases lt_or_ge a b with h | h
  · rw [if_pos h, max_eq_right h.le]
  · rw [if_neg (not_lt.mpr h), max_eq_left h]

theorem min_eq (a b : δ) : Double.min a b = Min.min a b := by
  simp only [Double.min, lt_eq, decide_eq_true_eq]
  rcases lt_or_ge b a with h | h
  · rw [if_pos h, min_eq_right h.le]
  · rw [if_neg (not_lt.mpr h), min_eq_left h]

theorem clamp_eq {low high : δ} (h : low ≤ high) (value : δ) :
    Double.clamp value low high = Max.max low (Min.min high value) := by
  simp only [Double.clamp, lt_eq, decide_eq_true_eq]
  split_ifs with hlow hhigh
  · rw [min_eq_right (hlow.le.trans h), max_eq_left hlow.le]
  · rw [min_eq_left hhigh.le, max_eq_right h]
  · rw [min_eq_right (not_lt.mp hhigh), max_eq_right (not_lt.mp hlow)]

/-- Exact arithmetic orders its numbers as IEEE 754 does. -/
instance : Ieee δ where
  lt_trans := by
    intro a b c hab hbc
    simp only [lt_eq, decide_eq_true_eq] at hab hbc ⊢
    exact hab.trans hbc
  eq_self_of_lt _ := by simp
  lt_or_lt := by
    intro a b c _ hac
    simp only [lt_eq, decide_eq_true_eq] at hac ⊢
    exact (lt_or_ge a b).imp_right fun hba => hba.trans_lt hac
  le_of_not_lt := by
    intro a b _ _ h
    simpa using h
  eq_self_of_isFinite _ := by simp
  eq_self_abs_sub _ _ := by simp
  isFinite_zero := by simp

end Double

section PyFloat

variable [PyFloat δ] [Exact δ]

@[simp] theorem minimum_eq (a b : δ) : PyFloat.minimum a b = min a b := by
  simp [PyFloat.minimum, min_def]

@[simp] theorem maximum_eq (a b : δ) : PyFloat.maximum a b = max a b := by
  simp [PyFloat.maximum, max_comm a b, max_def]

@[simp] theorem clip_eq (x low high : δ) :
    PyFloat.clip x low high = min (max x low) high := by
  simp [PyFloat.clip]

@[simp] theorem pyMin_eq (a b : δ) : PyFloat.pyMin a b = min a b := by
  simp only [PyFloat.pyMin, lt_eq, decide_eq_true_eq]
  rcases lt_or_ge b a with h | h
  · rw [if_pos h, min_eq_right h.le]
  · rw [if_neg (not_lt.mpr h), min_eq_left h]

@[simp] theorem pyMax_eq (a b : δ) : PyFloat.pyMax a b = max a b := by
  simp only [PyFloat.pyMax, lt_eq, decide_eq_true_eq]
  rcases lt_or_ge a b with h | h
  · rw [if_pos h, max_eq_right h.le]
  · rw [if_neg (not_lt.mpr h), max_eq_left h]

@[simp] theorem isClose_self (a tolerance : δ) : PyFloat.isClose a a tolerance = true := by
  simp [PyFloat.isClose]

end PyFloat

end Exact

/-! ## Exact conversions -/

/-- `numpy.float32` keeps a value, and `round` goes to a nearest integer. -/
class ExactConversions (δ : Type*) [Field δ] [LinearOrder δ] [IsStrictOrderedRing δ]
    [PyFloat δ] : Prop where
  toFloat32_eq (a : δ) : PyFloat.toFloat32 a = a
  abs_round_sub_le (a : δ) : |((PyFloat.round a : ℤ) : δ) - a| ≤ 1 / 2

theorem abs_roundHalfEven_sub_le {K : Type*} [Field K] [LinearOrder K] [IsStrictOrderedRing K]
    [FloorRing K] (x : K) : |(PyFloat.roundHalfEven x : K) - x| ≤ 1 / 2 := by
  have hfloor := Int.floor_add_fract x
  have hnonneg := Int.fract_nonneg x
  unfold PyFloat.roundHalfEven
  split_ifs with htie heven
  · rw [abs_le]
    constructor <;> linarith
  · push_cast
    rw [abs_le]
    constructor <;> linarith
  · have hle := Int.floor_le (x + 1 / 2)
    have hlt := Int.lt_floor_add_one (x + 1 / 2)
    rw [abs_le]
    constructor <;> linarith

theorem roundHalfEven_nonneg {K : Type*} [Field K] [LinearOrder K] [IsStrictOrderedRing K]
    [FloorRing K] {x : K} (h : 0 ≤ x) : 0 ≤ PyFloat.roundHalfEven x := by
  have hround := abs_le.mp (abs_roundHalfEven_sub_le x)
  have hlt : (-1 : K) < (PyFloat.roundHalfEven x : K) := by linarith
  have hcast : (-1 : ℤ) < PyFloat.roundHalfEven x := by exact_mod_cast hlt
  omega

instance : ExactConversions ℚ where
  toFloat32_eq _ := rfl
  abs_round_sub_le := abs_roundHalfEven_sub_le

end HandLab.Lib
