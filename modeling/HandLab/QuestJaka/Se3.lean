import HandLab.Teleoperation.Se3

/-!
# Rotations and pose steps of the Quest mapper

`src/quest_jaka_sim/se3.py`, lines 23–254, and the `Pose6D` of `src/motion_input/model.py`.
Quaternions are in the order `xyzw`. A function that may raise `ValueError` returns `none` then.
-/

namespace HandLab.QuestJaka

open HandLab.Lib Double NumPy PyMath
open HandLab.Teleoperation (Vector3 QuaternionXyzw Matrix3 Pose3D allFinite negated applied
  largestDiagonal diagonalEntry)

variable {δ : Type*} [PyMath δ]

/-! ## Quaternions -/

/-- `normalize_quaternion_xyzw` (lines 26–33). -/
def normalizeQuaternionXyzw (values : QuaternionXyzw δ) : Option (QuaternionXyzw δ) :=
  if !allFinite values then none
  else if lt (norm values) (ofRat (1 / 10 ^ 9)) then none
  else some fun i => div (values i) (norm values)

/-- `align_quaternion_sign` (lines 36–43). -/
def alignQuaternionSign (quaternion reference : QuaternionXyzw δ) : Option (QuaternionXyzw δ) := do
  let q ← normalizeQuaternionXyzw quaternion
  let ref ← normalizeQuaternionXyzw reference
  return if lt (dot q ref) zero then fun i => negated (q i) else q

/-- `quaternion_angle_rad` (lines 161–168). -/
def quaternionAngleRad (left right : QuaternionXyzw δ) : Option δ := do
  let l ← normalizeQuaternionXyzw left
  let r ← normalizeQuaternionXyzw right
  let cosine := abs (dot l r)
  return if le (sub (ofRat 1) (ofRat (1 / 10 ^ 15))) cosine then zero
    else mul (ofRat 2) (acos (Double.max (ofRat (-1)) (Double.min (ofRat 1) cosine)))

/-- `max(0.0, min(1.0, value))`. -/
def unitClamp (value : δ) : δ := Double.max zero (Double.min (ofRat 1) value)

/-- What `quaternion_slerp_xyzw` normalizes (lines 176–185). -/
def slerpComponents (a b : QuaternionXyzw δ) (t : δ) : QuaternionXyzw δ :=
  let cosine := Double.max (ofRat (-1)) (Double.min (ofRat 1) (dot a b))
  if lt (ofRat (9995 / 10000)) cosine then fun i => add (a i) (mul t (sub (b i) (a i)))
  else
    let angle := acos cosine
    let sine := sin angle
    fun i => add (mul (div (sin (mul (sub (ofRat 1) t) angle)) sine) (a i))
      (mul (div (sin (mul t angle)) sine) (b i))

/-- `quaternion_slerp_xyzw` (lines 171–185). -/
def quaternionSlerpXyzw (start finish : QuaternionXyzw δ) (fraction : δ) :
    Option (QuaternionXyzw δ) := do
  let a ← normalizeQuaternionXyzw start
  let b ← alignQuaternionSign finish a
  normalizeQuaternionXyzw (slerpComponents a b (unitClamp fraction))

/-! ## Poses -/

/-- The constructor of `Pose6D`, which checks the norm and keeps the orientation. -/
def makePose6D (positionM : Vector3 δ) (orientationXyzw : QuaternionXyzw δ) : Option (Pose3D δ) :=
  let length := sqrt (tupleSum fun i => mul (orientationXyzw i) (orientationXyzw i))
  if !allFinite positionM || !allFinite orientationXyzw then none
  else if lt (ofRat (1 / 1000)) (abs (sub length (ofRat 1))) then none
  else some ⟨positionM, orientationXyzw⟩

/-- One bound of `bounded_pose_step` (lines 207–216). -/
def boundedFraction (fraction length maximum : δ) : δ :=
  if lt zero length then Double.min fraction (div (Double.max zero maximum) length) else fraction

/-- The fraction of `bounded_pose_step` (lines 206–217). -/
def stepFraction (displacement rotation maximumTranslationM maximumRotationRad : δ) : δ :=
  unitClamp (boundedFraction (boundedFraction (ofRat 1) displacement maximumTranslationM) rotation
    maximumRotationRad)

/-- `bounded_pose_step` (lines 188–228). -/
def boundedPoseStep (start finish : Pose3D δ) (maximumTranslationM maximumRotationRad : δ) :
    Option (Pose3D δ × δ) := do
  let displacement := norm fun i => sub (finish.positionM i) (start.positionM i)
  let rotation ← quaternionAngleRad start.quaternionXyzw finish.quaternionXyzw
  let fraction := stepFraction displacement rotation maximumTranslationM maximumRotationRad
  let orientation ← quaternionSlerpXyzw start.quaternionXyzw finish.quaternionXyzw fraction
  let pose ← makePose6D
    (fun i => add (start.positionM i) (mul fraction (sub (finish.positionM i) (start.positionM i))))
    orientation
  return (pose, fraction)

end HandLab.QuestJaka
