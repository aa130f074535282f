import HandLab.Lib.Numeral
import Mathlib.LinearAlgebra.Matrix.Adjugate
import Mathlib.Tactic.LinearCombination

/-!
# Quaternions and rotation matrices

Quaternions over a commutative ring, in the order `xyzw`, and the matrices of their rotations.

`rotation_product` and `rotation_conjugate`: unit quaternions act as a group of rotations.
-/

namespace HandLab.Lib.Rotation

variable {R : Type*} [CommRing R]

/-- The square of the norm. -/
def normSq (q : Fin 4 → R) : R := ∑ i, q i * q i

/-- The product of two quaternions. -/
def product (l r : Fin 4 → R) : Fin 4 → R :=
  ![l 3 * r 0 + l 0 * r 3 + l 1 * r 2 - l 2 * r 1, l 3 * r 1 - l 0 * r 2 + l 1 * r 3 + l 2 * r 0,
    l 3 * r 2 + l 0 * r 1 - l 1 * r 0 + l 2 * r 3, l 3 * r 3 - l 0 * r 0 - l 1 * r 1 - l 2 * r 2]

/-- The conjugate of a quaternion. -/
def conjugate (q : Fin 4 → R) : Fin 4 → R := ![-q 0, -q 1, -q 2, q 3]

/-- The quaternion of no rotation. -/
def one : Fin 4 → R := ![0, 0, 0, 1]

/-- The matrix of the rotation by a unit quaternion. -/
def rotation (q : Fin 4 → R) : Matrix (Fin 3) (Fin 3) R :=
  !![1 - 2 * (q 1 * q 1 + q 2 * q 2), 2 * (q 0 * q 1 - q 2 * q 3), 2 * (q 0 * q 2 + q 1 * q 3);
    2 * (q 0 * q 1 + q 2 * q 3), 1 - 2 * (q 0 * q 0 + q 2 * q 2), 2 * (q 1 * q 2 - q 0 * q 3);
    2 * (q 0 * q 2 - q 1 * q 3), 2 * (q 1 * q 2 + q 0 * q 3), 1 - 2 * (q 0 * q 0 + q 1 * q 1)]

variable {p q r : Fin 4 → R}

theorem normSq_eq (q : Fin 4 → R) : normSq q = q 0 * q 0 + q 1 * q 1 + q 2 * q 2 + q 3 * q 3 :=
  Fin.sum_univ_four _

theorem normSq_product (p q : Fin 4 → R) : normSq (product p q) = normSq p * normSq q := by
  simp only [normSq_eq, product, Matrix.cons_val]
  ring

theorem normSq_conjugate (q : Fin 4 → R) : normSq (conjugate q) = normSq q := by
  simp only [normSq_eq, conjugate, Matrix.cons_val]
  ring

theorem normSq_neg (q : Fin 4 → R) : normSq (-q) = normSq q := by
  simp only [normSq_eq, Pi.neg_apply, neg_mul_neg]

theorem product_assoc (p q r : Fin 4 → R) : product (product p q) r = product p (product q r) := by
  funext i
  fin_cases i <;> simp only [product, Fin.zero_eta, Fin.mk_one, Fin.reduceFinMk, Matrix.cons_val] <;>
    ring

theorem product_conjugate (h : normSq q = 1) : product q (conjugate q) = one := by
  rw [normSq_eq] at h
  funext i
  fin_cases i <;> simp only [product, conjugate, one, Fin.zero_eta, Fin.mk_one, Fin.reduceFinMk,
    Matrix.cons_val]
  · ring
  · ring
  · ring
  · linear_combination h

/-! ## The matrices -/

@[simp] theorem rotation_one : rotation (one : Fin 4 → R) = 1 := by
  ext i j
  fin_cases i <;> fin_cases j <;> simp [rotation, one]

theorem rotation_conjugate (q : Fin 4 → R) : rotation (conjugate q) = (rotation q).transpose := by
  ext i j
  fin_cases i <;> fin_cases j <;> simp [rotation, conjugate] <;> ring

/-- The matrix with the norm multiplied out. -/
theorem rotation_apply (h : normSq q = 1) : rotation q =
    !![q 3 * q 3 + q 0 * q 0 - q 1 * q 1 - q 2 * q 2, 2 * (q 0 * q 1 - q 2 * q 3),
        2 * (q 0 * q 2 + q 1 * q 3);
      2 * (q 0 * q 1 + q 2 * q 3), q 3 * q 3 - q 0 * q 0 + q 1 * q 1 - q 2 * q 2,
        2 * (q 1 * q 2 - q 0 * q 3);
      2 * (q 0 * q 2 - q 1 * q 3), 2 * (q 1 * q 2 + q 0 * q 3),
        q 3 * q 3 - q 0 * q 0 - q 1 * q 1 + q 2 * q 2] := by
  rw [normSq_eq] at h
  ext i j
  fin_cases i <;> fin_cases j <;> simp [rotation]
  · linear_combination -h
  · linear_combination -h
  · linear_combination -h

/-- **A homomorphism** from the unit quaternions. -/
theorem rotation_product (hp : normSq p = 1) (hq : normSq q = 1) :
    rotation (product p q) = rotation p * rotation q := by
  have hpq : normSq (product p q) = 1 := by rw [normSq_product, hp, hq, mul_one]
  rw [rotation_apply hp, rotation_apply hq, rotation_apply hpq]
  ext i j
  fin_cases i <;> fin_cases j <;>
    simp only [product, Matrix.mul_apply, Fin.sum_univ_three, Matrix.of_apply, Fin.zero_eta,
      Fin.mk_one, Fin.reduceFinMk, Matrix.cons_val] <;> ring

theorem rotation_mul_transpose (h : normSq q = 1) : rotation q * (rotation q).transpose = 1 := by
  rw [← rotation_conjugate, ← rotation_product h (by rw [normSq_conjugate, h]),
    product_conjugate h, rotation_one]

theorem det_rotation (h : normSq q = 1) : (rotation q).det = 1 := by
  have hcube : (rotation q).det = normSq q * normSq q * normSq q := by
    rw [rotation_apply h, Matrix.det_fin_three, normSq_eq]
    simp only [Matrix.of_apply, Matrix.cons_val]
    ring
  rw [hcube, h, mul_one, mul_one]

theorem transpose_mul_self {m : Matrix (Fin 3) (Fin 3) R} (hm : m * m.transpose = 1) :
    m.transpose * m = 1 := mul_eq_one_comm.mp hm

end HandLab.Lib.Rotation
