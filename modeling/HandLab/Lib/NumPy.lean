import HandLab.Lib.Double
import Mathlib.Analysis.SpecialFunctions.Complex.Arg
import Mathlib.Algebra.BigOperators.Fin
import Mathlib.LinearAlgebra.Matrix.Determinant.Basic

/-!
# The NumPy and `math` functions

`NumPy δ` adds to `Double δ` the functions of `math` and of `numpy.linalg` that
the Python programs call on poses. As for `Double`, nothing is assumed about
them; the instance on `ℝ` is exact.
-/

namespace HandLab.Lib

/-- `Double` with the functions that the pose mathematics calls. -/
class NumPy (δ : Type*) extends Double δ where
  /-- `math.sqrt` -/
  sqrt : δ → δ
  /-- `math.sin` -/
  sin : δ → δ
  /-- `math.cos` -/
  cos : δ → δ
  /-- `math.atan2(y, x)` -/
  atan2 : δ → δ → δ
  /-- `numpy.linalg.norm` of a vector -/
  norm {n : ℕ} : (Fin n → δ) → δ
  /-- one entry of a matrix product `@` -/
  dot {n : ℕ} : (Fin n → δ) → (Fin n → δ) → δ
  /-- `numpy.linalg.det` -/
  det : Matrix (Fin 3) (Fin 3) δ → δ

namespace NumPy

/-- Exact real arithmetic. -/
noncomputable instance : NumPy ℝ where
  sqrt := Real.sqrt
  sin := Real.sin
  cos := Real.cos
  atan2 y x := Complex.arg ⟨x, y⟩
  norm v := Real.sqrt (∑ i, v i * v i)
  dot v w := ∑ i, v i * w i
  det m := m.det

theorem norm_real {n : ℕ} (v : Fin n → ℝ) : norm v = Real.sqrt (∑ i, v i * v i) := rfl

theorem dot_real {n : ℕ} (v w : Fin n → ℝ) : dot v w = ∑ i, v i * w i := rfl

end NumPy

/-- `NumPy` with `math.acos` on `[-1, 1]`, `math.exp` and the square of a `float`. -/
class PyMath (δ : Type*) extends NumPy δ where
  /-- `math.acos` -/
  acos : δ → δ
  /-- `math.exp` -/
  exp : δ → δ
  /-- `x ** 2`; `none` where it raises `OverflowError` -/
  square : δ → Option δ

/-- The least number that rounds to an infinity. -/
def overflowThreshold : ℚ := 2 ^ 1024 - 2 ^ 970

/-- Exact real arithmetic. The square of a finite number may overflow, that of an infinity does
    not. -/
noncomputable instance : PyMath ℝ where
  acos := Real.arccos
  exp := Real.exp
  square x :=
    if |x| < overflowThreshold ∧ overflowThreshold ≤ x * x then none else some (x * x)

theorem square_real (x : ℝ) : PyMath.square x =
    if |x| < overflowThreshold ∧ overflowThreshold ≤ x * x then none else some (x * x) := rfl

theorem square_some {x y : ℝ} (h : PyMath.square x = some y) : y = x * x := by
  rw [square_real] at h
  split_ifs at h
  exact (Option.some.inj h).symm

/-- The built-in `sum` of the entries of a tuple. -/
def tupleSum {δ : Type*} [Double δ] {n : ℕ} (values : Fin n → δ) : δ :=
  (List.ofFn values).foldl Double.add Double.zero

theorem tupleSum_real {n : ℕ} (values : Fin n → ℝ) : tupleSum values = ∑ i, values i := by
  have hfold : ∀ (l : List ℝ) (start : ℝ), l.foldl Double.add start = start + l.sum := by
    intro l
    induction l with
    | nil => intro start; simp
    | cons x l ih =>
      intro start
      rw [List.foldl_cons, ih, List.sum_cons]
      show start + x + l.sum = _
      ring
  have hzero : (Double.zero : ℝ) = 0 := by
    show ((0 : ℚ) : ℝ) = 0
    norm_num
  rw [tupleSum, hfold, hzero, zero_add, List.sum_ofFn]

end HandLab.Lib
