import HandLab.CommandAbi.Validate

/-!
# The reference lifecycle

The mode branches of `FakeJakaLifecycleAdapter::Send`
(`native/teleop_shaping/src/fake_jaka_lifecycle.cpp`), the reference for the modes that each
lifecycle state accepts.
-/

namespace HandLab.FakeJaka

open HandLab.CommandAbi

/-- `FakeJakaLifecycleState`. -/
inductive FakeJakaLifecycleState
  | disconnected | connecting | connected | servoReady | streaming | controlledStopping | stopped
  | faulted | cleaningUp
  deriving DecidableEq, Repr

/-- The mode branches of `Send` (lines 209–229): may a command of this mode be
    sent from this state? -/
def acceptsMode (state : FakeJakaLifecycleState) (mode : OutputMode) : Bool :=
  if mode = .activeTracking then state = .streaming
  else if mode = .controlledBraking then true
  else if mode = .stopped then state = .controlledStopping
  else false

end HandLab.FakeJaka
