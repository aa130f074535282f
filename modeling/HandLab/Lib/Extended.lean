import HandLab.Lib.Double

/-!
# Numbers, infinities and `NaN`

`Extended K` is an ordered field with the two infinities and a `NaN`, and with the
operations of `double` on them. Finite numbers are exact, and zero has no sign, so a
theorem about `Extended K` shows what a program does with special values, apart from
its rounding.

* `add_finite` to `clip_finite`: on finite numbers the operations are those of `K`.
* `clip_nan`, `clip_infinite`: what `numpy.clip` makes of a special value.
-/

namespace HandLab.Lib

/-- A number, an infinity with its sign, or `NaN`. -/
inductive Extended (K : Type*)
  | finite (x : K)
  | infinite (negative : Bool)
  | nan
  deriving DecidableEq, Repr

namespace Extended

variable {K : Type*} [Field K] [LinearOrder K]

/-- The sign. -/
protected def negative : Extended K → Bool
  | finite x => decide (x < 0)
  | infinite s => s
  | nan => false

protected def neg : Extended K → Extended K
  | finite x => finite (-x)
  | infinite s => infinite !s
  | nan => nan

protected def add : Extended K → Extended K → Extended K
  | finite x, finite y => finite (x + y)
  | finite _, infinite s => infinite s
  | infinite s, finite _ => infinite s
  | infinite s, infinite t => if s = t then infinite s else nan
  | nan, _ => nan
  | _, nan => nan

protected def mul : Extended K → Extended K → Extended K
  | finite x, finite y => finite (x * y)
  | nan, _ => nan
  | _, nan => nan
  | infinite s, y => if y = finite 0 then nan else infinite (s != y.negative)
  | x, infinite s => if x = finite 0 then nan else infinite (s != x.negative)

protected def div : Extended K → Extended K → Extended K
  | finite x, finite y =>
    if y = 0 then if x = 0 then nan else infinite (decide (x < 0)) else finite (x / y)
  | nan, _ => nan
  | _, nan => nan
  | infinite _, infinite _ => nan
  | infinite s, y => infinite (s != y.negative)
  | finite _, infinite _ => finite 0

protected def lt : Extended K → Extended K → Bool
  | finite x, finite y => decide (x < y)
  | infinite s, infinite t => s && !t
  | infinite s, finite _ => s
  | finite _, infinite t => !t
  | nan, _ => false
  | _, nan => false

/-- `==`, which `NaN` is not to itself. -/
protected def eq : Extended K → Extended K → Bool
  | finite x, finite y => decide (x = y)
  | infinite s, infinite t => s == t
  | _, _ => false

protected def abs : Extended K → Extended K
  | finite x => finite |x|
  | infinite _ => infinite false
  | nan => nan

protected def isFinite : Extended K → Bool
  | finite _ => true
  | _ => false

/-- `int(round(x))`, which raises for a special value. -/
protected def round [FloorRing K] : Extended K → ℤ
  | finite x => PyFloat.roundHalfEven x
  | _ => 0

instance : Double (Extended K) where
  ofRat q := finite q
  add := Extended.add
  sub x y := Extended.add x y.neg
  mul := Extended.mul
  div := Extended.div
  abs := Extended.abs
  lt := Extended.lt
  eq := Extended.eq
  isFinite := Extended.isFinite

instance [FloorRing K] : PyFloat (Extended K) where
  toFloat32 x := x
  round := Extended.round

/-! ## Finite numbers -/

@[simp] theorem ofRat_eq (q : ℚ) : (Double.ofRat q : Extended K) = finite (q : K) := rfl

@[simp] theorem add_finite (x y : K) : Double.add (finite x) (finite y) = finite (x + y) := rfl

@[simp] theorem sub_finite (x y : K) : Double.sub (finite x) (finite y) = finite (x - y) :=
  congrArg finite (sub_eq_add_neg x y).symm

@[simp] theorem mul_finite (x y : K) : Double.mul (finite x) (finite y) = finite (x * y) := rfl

theorem div_finite (x : K) {y : K} (h : y ≠ 0) :
    Double.div (finite x) (finite y) = finite (x / y) := if_neg h

@[simp] theorem abs_finite (x : K) : Double.abs (finite x) = finite |x| := rfl

@[simp] theorem lt_finite (x y : K) : Double.lt (finite x) (finite y) = decide (x < y) := rfl

@[simp] theorem eq_finite (x y : K) : Double.eq (finite x) (finite y) = decide (x = y) := rfl

@[simp] theorem isFinite_finite (x : K) : Double.isFinite (finite x) = true := rfl

@[simp] theorem le_finite (x y : K) : Double.le (finite x) (finite y) = decide (x ≤ y) := by
  simp [Double.le, le_iff_lt_or_eq]

variable [FloorRing K]

@[simp] theorem minimum_finite (x y : K) :
    PyFloat.minimum (finite x) (finite y) = finite (min x y) := by
  simp only [PyFloat.minimum, le_finite, eq_finite, min_def]
  split_ifs <;> simp_all

@[simp] theorem maximum_finite (x y : K) :
    PyFloat.maximum (finite x) (finite y) = finite (max x y) := by
  simp only [PyFloat.maximum, le_finite, eq_finite, max_comm x y, max_def]
  split_ifs <;> simp_all

@[simp] theorem clip_finite (x low high : K) :
    PyFloat.clip (finite x) (finite low) (finite high) = finite (min (max x low) high) := by
  simp [PyFloat.clip]

/-! ## Special values -/

omit [FloorRing K] in
@[simp] theorem eq_nan (x : Extended K) : Double.eq nan x = false := by cases x <;> rfl

@[simp] theorem clip_nan (low high : Extended K) : PyFloat.clip nan low high = nan := by
  simp [PyFloat.clip, PyFloat.minimum, PyFloat.maximum]

/-- An infinity is cut to the bound on its side. -/
@[simp] theorem clip_infinite (s : Bool) {low high : K} (h : low ≤ high) :
    PyFloat.clip (infinite s) (finite low) (finite high) = finite (if s then low else high) := by
  cases s with
  | false => rfl
  | true =>
    show PyFloat.minimum (finite low) (finite high) = _
    rw [minimum_finite, min_eq_left h]
    rfl

end Extended

end HandLab.Lib
