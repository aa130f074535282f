import HandLab.Teleoperation.Se3

/-!
# Frame mapping

`src/teleoperation/transforms/frame_mapping.py`: the frame chain of the source
poses and the relative mapper with its anchor. `none` is a `ValueError` of the
pose functions. The frame identifiers, which no computation reads, are left out.
-/

namespace HandLab.Teleoperation

open HandLab.Lib Double NumPy

variable {δ : Type*}

/-- `CentralFrameMapping`. -/
structure CentralFrameMapping (δ : Type*) where
  sourceToNormalizedBasis : Matrix3 δ
  deviceToOperatorControl : Pose3D δ

/-- `CentralFrameMapping.source_pose_to_operator` (lines 64–72). -/
def CentralFrameMapping.sourcePoseToOperator [NumPy δ] (frames : CentralFrameMapping δ)
    (pose : Pose3D δ) : Option (Pose3D δ) := do
  let basis := frames.sourceToNormalizedBasis
  let rotation ← quaternionToMatrix pose.quaternionXyzw
  let quaternion ← matrixToQuaternionXyzw
    (matrixProduct (matrixProduct basis rotation) basis.transpose)
  let normalized ← Pose3D.checked (applied basis pose.positionM) quaternion
  composePose normalized frames.deviceToOperatorControl

/-- `RelativePoseMapper`. -/
structure RelativePoseMapper (δ : Type*) where
  frames : CentralFrameMapping δ
  translationScale : δ
  rotationScale : δ
  sourceAnchor : Option (Pose3D δ) := none
  robotAnchor : Option (Pose3D δ) := none
  anchorId : ℕ := 0

namespace RelativePoseMapper

variable (mapper : RelativePoseMapper δ)

/-- `clear` -/
def clear : RelativePoseMapper δ := { mapper with sourceAnchor := none, robotAnchor := none }

/-- `anchor_operator` -/
def anchorOperator (operatorPose robotTcpPose : Pose3D δ) : RelativePoseMapper δ :=
  { mapper with
    sourceAnchor := some operatorPose
    robotAnchor := some robotTcpPose
    anchorId := mapper.anchorId + 1 }

variable [NumPy δ]

/-- The target of `map_operator` (lines 136–147), given the anchor. -/
def relativeTo (source robot current : Pose3D δ) : Option (Pose3D δ) := do
  let delta := fun i => sub (current.positionM i) (source.positionM i)
  let position := fun i => add (robot.positionM i) (mul mapper.translationScale (delta i))
  let currentRotation ← quaternionToMatrix current.quaternionXyzw
  let anchorRotation ← quaternionToMatrix source.quaternionXyzw
  let deltaQ ← matrixToQuaternionXyzw (matrixProduct currentRotation anchorRotation.transpose)
  let log ← quaternionLog deltaQ
  let scaledDeltaQ ← quaternionExp fun i => mul (log i) mapper.rotationScale
  let target ← quaternionMultiply scaledDeltaQ robot.quaternionXyzw
  Pose3D.checked position target

end RelativePoseMapper

/-! ## A pose at rest, in exact arithmetic -/

/-- The pose of the origin. -/
def Pose3D.identity : Pose3D ℝ := ⟨fun _ => 0, identityRotation⟩

end HandLab.Teleoperation
