import HandLab.Lib.Double
import Mathlib.Analysis.Real.Sqrt

/-!
# Exact real arithmetic for the C++ library

The functions of `<cmath>` on `ℝ`, where no operation rounds and zero has no sign.
-/

namespace HandLab.Lib

open CMath

/-- Exact real arithmetic. -/
noncomputable instance : CMath ℝ where
  neg a := -a
  sqrt a := Real.sqrt a
  ceil a := ⌈a⌉
  copysign a b := if b < 0 then -|a| else |a|
  remainder a b := a - b * PyFloat.roundHalfEven (a / b)

namespace Exact

variable (a b : ℝ)

@[simp] theorem neg_real : (neg a : ℝ) = -a := rfl

@[simp] theorem sqrt_real : (sqrt a : ℝ) = Real.sqrt a := rfl

@[simp] theorem ceil_real : (ceil a : ℝ) = ⌈a⌉ := rfl

@[simp] theorem copysign_real : (copysign a b : ℝ) = if b < 0 then -|a| else |a| := rfl

end Exact

end HandLab.Lib
