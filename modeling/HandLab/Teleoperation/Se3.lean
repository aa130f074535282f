import HandLab.Lib.NumPy
import Mathlib.LinearAlgebra.Matrix.Notation
import Mathlib.Data.List.FinRange

/-!
# Poses and quaternions

`src/teleoperation/transforms/se3.py` and the `Pose3D` of
`src/teleoperation/contracts.py`. Quaternions are in the order `xyzw`. A
function that may raise `ValueError` returns `none` then.
-/

namespace HandLab.Teleoperation

open HandLab.Lib Double NumPy

variable {δ : Type*}

/-- A three-vector. -/
abbrev Vector3 (δ : Type*) := Fin 3 → δ

/-- The components of a quaternion, `w` last. -/
abbrev QuaternionXyzw (δ : Type*) := Fin 4 → δ

abbrev Matrix3 (δ : Type*) := Matrix (Fin 3) (Fin 3) δ

/-- `Pose3D`. -/
structure Pose3D (δ : Type*) where
  positionM : Vector3 δ
  quaternionXyzw : QuaternionXyzw δ
  deriving DecidableEq

/-- `numpy.all(numpy.isfinite(values))`. -/
def allFinite [Double δ] {n : ℕ} (values : Fin n → δ) : Bool :=
  (List.finRange n).all fun i => isFinite (values i)

/-- The Python expression `-value`. -/
def negated [Double δ] (value : δ) : δ := mul (ofRat (-1)) value

variable [NumPy δ]

/-! ## Quaternions -/

/-- `normalize_quaternion_xyzw` (lines 18–24). -/
def normalizeQuaternionXyzw (values : QuaternionXyzw δ) : Option (QuaternionXyzw δ) :=
  if !allFinite values then none
  else if lt (norm values) (ofRat 1e-12) then none
  else some fun i => div (values i) (norm values)

/-- `quaternion_conjugate` (lines 27–29). -/
def quaternionConjugate (values : QuaternionXyzw δ) : Option (QuaternionXyzw δ) :=
  (normalizeQuaternionXyzw values).map fun q =>
    ![negated (q 0), negated (q 1), negated (q 2), q 3]

/-- `quaternion_multiply` (lines 32–44). -/
def quaternionMultiply (left right : QuaternionXyzw δ) : Option (QuaternionXyzw δ) := do
  let a ← normalizeQuaternionXyzw left
  let b ← normalizeQuaternionXyzw right
  normalizeQuaternionXyzw
    ![sub (add (add (mul (a 3) (b 0)) (mul (a 0) (b 3))) (mul (a 1) (b 2))) (mul (a 2) (b 1)),
      add (add (sub (mul (a 3) (b 1)) (mul (a 0) (b 2))) (mul (a 1) (b 3))) (mul (a 2) (b 0)),
      add (sub (add (mul (a 3) (b 2)) (mul (a 0) (b 1))) (mul (a 1) (b 0))) (mul (a 2) (b 3)),
      sub (sub (sub (mul (a 3) (b 3)) (mul (a 0) (b 0))) (mul (a 1) (b 1))) (mul (a 2) (b 2))]

/-- `1.0 - 2.0 * (a * a + b * b)`. -/
def diagonalEntry (a b : δ) : δ :=
  sub (ofRat 1) (mul (ofRat 2) (add (mul a a) (mul b b)))

/-- `quaternion_to_matrix` (lines 47–56). -/
def quaternionToMatrix (values : QuaternionXyzw δ) : Option (Matrix3 δ) :=
  (normalizeQuaternionXyzw values).map fun q =>
    let x := q 0
    let y := q 1
    let z := q 2
    let w := q 3
    let difference := fun a b c d => mul (ofRat 2) (sub (mul a b) (mul c d))
    let sum := fun a b c d => mul (ofRat 2) (add (mul a b) (mul c d))
    !![diagonalEntry y z, difference x y z w, sum x z y w;
      sum x y z w, diagonalEntry x z, difference y z x w;
      difference x z y w, sum y z x w, diagonalEntry x y]

/-- `rotation.T @ rotation` is close to the identity, and the determinant to one
    (lines 63–66). -/
def isRotation (rotation : Matrix3 δ) : Bool :=
  let close := fun value target : δ =>
    le (abs (sub value target)) (add (ofRat 2e-3) (mul (ofRat 1e-5) (abs target)))
  let product := fun i j => dot (fun k => rotation k i) (fun k => rotation k j)
  let relative := mul (ofRat 1e-9) (Double.max (abs (det rotation)) (ofRat 1))
  ((List.finRange 3).all fun i => (List.finRange 3).all fun j =>
    close (product i j) (ofRat (if i = j then 1 else 0))) &&
    le (abs (sub (det rotation) (ofRat 1))) (Double.max relative (ofRat 2e-3))

/-- `math.sqrt(max(1.0 + m[i, i] - m[j, j] - m[k, k], 0.0)) * 2.0`. -/
def axisScale (m : Matrix3 δ) (i j k : Fin 3) : δ :=
  mul (sqrt (Double.max (sub (sub (add (ofRat 1) (m i i)) (m j j)) (m k k)) zero)) (ofRat 2)

/-- `numpy.argmax(numpy.diag(m))`: the first of the largest entries. -/
def largestDiagonal (m : Matrix3 δ) : Fin 3 :=
  if lt (m 0 0) (m 1 1) then if lt (m 1 1) (m 2 2) then 2 else 1
  else if lt (m 0 0) (m 2 2) then 2 else 0

/-- The components that `matrix_to_quaternion_xyzw` normalizes (lines 67–99). -/
def matrixComponents (m : Matrix3 δ) : QuaternionXyzw δ :=
  let trace := add (add (m 0 0) (m 1 1)) (m 2 2)
  if lt zero trace then
    let s := mul (sqrt (add trace (ofRat 1))) (ofRat 2)
    ![div (sub (m 2 1) (m 1 2)) s, div (sub (m 0 2) (m 2 0)) s, div (sub (m 1 0) (m 0 1)) s,
      mul (ofRat 0.25) s]
  else match largestDiagonal m with
    | 0 =>
      let s := axisScale m 0 1 2
      ![mul (ofRat 0.25) s, div (add (m 0 1) (m 1 0)) s, div (add (m 0 2) (m 2 0)) s,
        div (sub (m 2 1) (m 1 2)) s]
    | 1 =>
      let s := axisScale m 1 0 2
      ![div (add (m 0 1) (m 1 0)) s, mul (ofRat 0.25) s, div (add (m 1 2) (m 2 1)) s,
        div (sub (m 0 2) (m 2 0)) s]
    | 2 =>
      let s := axisScale m 2 0 1
      ![div (add (m 0 2) (m 2 0)) s, div (add (m 1 2) (m 2 1)) s, mul (ofRat 0.25) s,
        div (sub (m 1 0) (m 0 1)) s]

/-- `-q` for the representative with `w < 0`, else `q`. -/
def upperHalf (q : QuaternionXyzw δ) : QuaternionXyzw δ :=
  if lt (q 3) zero then fun i => mul (q i) (ofRat (-1)) else q

/-- `matrix_to_quaternion_xyzw` (lines 59–103). -/
def matrixToQuaternionXyzw (rotation : Matrix3 δ) : Option (QuaternionXyzw δ) :=
  if !(List.finRange 3).all fun i => allFinite (rotation i) then none
  else if !isRotation rotation then none
  else (normalizeQuaternionXyzw (matrixComponents rotation)).map upperHalf

/-- `quaternion_log` (lines 106–114). -/
def quaternionLog (values : QuaternionXyzw δ) : Option (Vector3 δ) :=
  (normalizeQuaternionXyzw values).map fun normalized =>
    let q := upperHalf normalized
    let vector : Vector3 δ := ![q 0, q 1, q 2]
    if lt (norm vector) (ofRat 1e-12) then fun _ => zero
    else
      let angle := mul (ofRat 2) (atan2 (norm vector) (q 3))
      fun i => mul (vector i) (div angle (norm vector))

/-- `quaternion_exp` (lines 117–124). -/
def quaternionExp (rotationVector : Vector3 δ) : Option (QuaternionXyzw δ) :=
  if !allFinite rotationVector then none
  else
    let angle := norm rotationVector
    if lt angle (ofRat 1e-12) then some ![zero, zero, zero, ofRat 1]
    else
      let half := mul (ofRat 0.5) angle
      let scale := div (sin half) angle
      normalizeQuaternionXyzw ![mul (rotationVector 0) scale, mul (rotationVector 1) scale,
        mul (rotationVector 2) scale, cos half]

/-- `quaternion_angle` (lines 127–129). -/
def quaternionAngle (left right : QuaternionXyzw δ) : Option δ := do
  let conjugate ← quaternionConjugate right
  let delta ← quaternionMultiply left conjugate
  let log ← quaternionLog delta
  return norm log

/-! ## Poses -/

/-- The constructor of `Pose3D`, which checks and normalizes. -/
def Pose3D.checked (positionM : Vector3 δ) (quaternionXyzw : QuaternionXyzw δ) :
    Option (Pose3D δ) :=
  let q := quaternionXyzw
  let square := fun i => mul (q i) (q i)
  let length := sqrt (add (add (add (add zero (square 0)) (square 1)) (square 2)) (square 3))
  if !allFinite positionM || !allFinite q then none
  else if lt length (ofRat 1e-12) then none
  else if lt (ofRat 1e-3) (abs (sub length (ofRat 1))) then none
  else some ⟨positionM, fun i => div (q i) length⟩

/-- The product `m @ v`. -/
def applied (m : Matrix3 δ) (v : Vector3 δ) : Vector3 δ := fun i => dot (m i) v

/-- The product `m @ n`. -/
def matrixProduct (m n : Matrix3 δ) : Matrix3 δ := .of fun i j => dot (m i) fun k => n k j

/-- `compose_pose` (lines 145–151). -/
def composePose (left right : Pose3D δ) : Option (Pose3D δ) := do
  let rotation ← quaternionToMatrix left.quaternionXyzw
  let moved := applied rotation right.positionM
  let quaternion ← quaternionMultiply left.quaternionXyzw right.quaternionXyzw
  Pose3D.checked (fun i => add (left.positionM i) (moved i)) quaternion

/-- `inverse_pose` (lines 154–157). -/
def inversePose (pose : Pose3D δ) : Option (Pose3D δ) := do
  let inverse ← quaternionConjugate pose.quaternionXyzw
  let rotation ← quaternionToMatrix inverse
  let moved := applied rotation pose.positionM
  Pose3D.checked (fun i => negated (moved i)) inverse

/-- `numpy.linalg.norm` of the difference of two positions. -/
def translation (a b : Pose3D δ) : δ := norm fun i => sub (a.positionM i) (b.positionM i)

/-! ## The identity in exact arithmetic -/

/-- The quaternion of no rotation. -/
def identityRotation : QuaternionXyzw ℝ := ![0, 0, 0, 1]

theorem normalizeQuaternionXyzw_identity :
    normalizeQuaternionXyzw identityRotation = some identityRotation := by
  have hnorm : NumPy.norm identityRotation = 1 := by
    simp [norm_real, identityRotation, Fin.sum_univ_four]
  have hsmall : ¬(1 : ℝ) < 1e-12 := by norm_num
  unfold normalizeQuaternionXyzw
  rw [hnorm]
  simp [allFinite, hsmall]

theorem quaternionMultiply_identity :
    quaternionMultiply identityRotation identityRotation = some identityRotation := by
  have hnormalized := normalizeQuaternionXyzw_identity
  rw [quaternionMultiply, hnormalized]
  simpa [identityRotation] using hnormalized

theorem quaternionLog_identity : quaternionLog identityRotation = some fun _ => 0 := by
  have hupper : upperHalf identityRotation = identityRotation := by
    simp [upperHalf, identityRotation]
  have hvector : NumPy.norm (![identityRotation 0, identityRotation 1, identityRotation 2] :
      Vector3 ℝ) = 0 := by
    simp [norm_real, Fin.sum_univ_three, identityRotation]
  rw [quaternionLog, normalizeQuaternionXyzw_identity, Option.map_some, hupper]
  simp [hvector]

theorem quaternionAngle_identity : quaternionAngle identityRotation identityRotation = some 0 := by
  have hconjugate : quaternionConjugate identityRotation = some identityRotation := by
    rw [quaternionConjugate, normalizeQuaternionXyzw_identity, Option.map_some]
    simp [identityRotation, negated]
  simp [quaternionAngle, hconjugate, quaternionMultiply_identity, quaternionLog_identity, norm_real]

end HandLab.Teleoperation
