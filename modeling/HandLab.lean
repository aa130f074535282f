import HandLab.ThinJaka.ModeOrder
import HandLab.ThinJaka.Freshness
import HandLab.ThinJaka.Sequence
import HandLab.Rh56.FeedbackBookkeeping
import HandLab.Rh56.ContactHold
import HandLab.Clutch.Hold
import HandLab.Operator.Engagement
import HandLab.TargetGenerator.AcceptedJoints
import HandLab.Quest.HoldToRun
import HandLab.Engagement.Epochs
import HandLab.Wire.Integrity
import HandLab.ThinJaka.ResumeGate
import HandLab.Teleoperation.ClutchRelease
import HandLab.Episode.RecorderOrder
import HandLab.Episode.CausalSamples
import HandLab.Episode.AsyncWriterOrder
import HandLab.Act.Freshness
import HandLab.SmoothSession.Braking
import HandLab.Episode.SharedCameraRing
import HandLab.Episode.Rotation
import HandLab.Shaper.Release
import HandLab.Shaper.Lockstep
import HandLab.Episode.SlotClock
import HandLab.Quest.ProviderAccounting
import HandLab.Teleoperation.PoseRecovery
import HandLab.Act.TemporalSelection
import HandLab.Rh56.ChannelOrder
import HandLab.Quest.TransportDispatch
import HandLab.Resampler.PathSafety
import HandLab.Materialization.TrainingViews
import HandLab.Materialization.Images
import HandLab.Episode.VideoRows
import HandLab.Episode.SyncCausal
import HandLab.ServoWorker.OutputLimits
import HandLab.ServoWorker.ServoGrid
import HandLab.PoseShaper.Envelope
import HandLab.Quest.ReceiveConservation
import HandLab.HandRetarget.PinchBlender
import HandLab.TargetGenerator.PalmIk
import HandLab.Quest.MotionProviderOrder
import HandLab.Quest.FrameContract
import HandLab.Quest.HtsExact
import HandLab.QuestJaka.PoseStep
import HandLab.Vision.PlaneFit
import HandLab.Vision.HoleFilling
import HandLab.Teleoperation.Rotations
import HandLab.Teleoperation.Supervision
