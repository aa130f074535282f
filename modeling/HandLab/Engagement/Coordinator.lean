import HandLab.Lib.Double

/-!
# `EngagementCoordinator`

The recoverable clutch and reference coordination of
`src/teleop_rearchitecture/engagement.py`. Every operation returns its result
with the coordinator after it. `relativePose` reads the state only, and so does
`snapshot`, which is left out with `SpatialPose.checked`, the constructor that
normalizes a quaternion: the coordinator takes any pose.
-/

namespace HandLab.Engagement

open HandLab.Lib

variable {δ : Type*}

/-! ## Data -/

/-- `EngagementMode`. -/
inductive EngagementMode
  | uninitialized | disengaged | engaging | activeTracking | holdRejected | controlledBraking
  | stoppedReady | hardStopped
  deriving DecidableEq, Repr

/-- `EngagementResult`. -/
inductive EngagementResult
  | ok | alreadyApplied | waitForStopped | invalidState | invalidMeasurement | noInputPose
  | oldEpoch | oldSequence
  deriving DecidableEq, Repr

/-- The components of a quaternion, `w` first. -/
structure Quaternion (δ : Type*) where
  w : δ
  x : δ
  y : δ
  z : δ
  deriving DecidableEq, Repr

/-- The components of a position. -/
structure Position (δ : Type*) where
  x : δ
  y : δ
  z : δ
  deriving DecidableEq, Repr

/-- `SpatialPose`. -/
structure SpatialPose (δ : Type*) where
  positionM : Position δ
  orientationWxyz : Quaternion δ
  deriving DecidableEq, Repr

/-- `MeasuredJointState`. -/
structure MeasuredJointState (δ : Type*) where
  sequence : ℤ
  monotonicNs : ℤ
  positionRad : List δ
  velocityRadS : List δ
  accelerationRadS2 : List δ
  valid : Bool := true
  deriving DecidableEq, Repr

/-- `RelativePose`. -/
structure RelativePose (δ : Type*) where
  translationM : Position δ
  rotationWxyz : Quaternion δ
  deriving DecidableEq, Repr

/-- `EngagementCapture`. -/
structure EngagementCapture (δ : Type*) where
  safetyEpoch : ℤ
  robotReference : MeasuredJointState δ
  inputReference : SpatialPose δ
  inputSequence : ℤ
  capturedMonotonicNs : ℤ
  deriving DecidableEq, Repr

/-- The members of `EngagementCoordinator`. -/
structure EngagementCoordinator (δ : Type*) where
  mode : EngagementMode
  safetyEpoch : ℤ
  lastTargetSequence : ℤ
  frozenSourceSequence : ℤ
  latestInputSequence : ℤ
  latestInputPose : Option (SpatialPose δ)
  capture : Option (EngagementCapture δ)
  oldTargetRejectionCount : ℕ
  inputReplacementCount : ℕ
  historyClearCount : ℕ
  deriving DecidableEq, Repr

/-- After `__init__`. -/
def EngagementCoordinator.init : EngagementCoordinator δ where
  mode := .uninitialized
  safetyEpoch := 0
  lastTargetSequence := 0
  frozenSourceSequence := 0
  latestInputSequence := 0
  latestInputPose := none
  capture := none
  oldTargetRejectionCount := 0
  inputReplacementCount := 0
  historyClearCount := 0

/-- `mode in (ACTIVE_TRACKING, HOLD_REJECTED)`. -/
def EngagementMode.isTracking (mode : EngagementMode) : Bool :=
  decide (mode = .activeTracking) || decide (mode = .holdRejected)

/-! ## Poses -/

section Poses

variable [Double δ]

open Double

/-- `is_valid` (lines 66–77). -/
def MeasuredJointState.isValid (s : MeasuredJointState δ) : Bool :=
  s.valid && decide (0 < s.sequence) && decide (0 ≤ s.monotonicNs) &&
    decide (0 < s.positionRad.length) && decide (s.positionRad.length ≤ 8) &&
    decide (s.velocityRadS.length = s.positionRad.length) &&
    decide (s.accelerationRadS2.length = s.positionRad.length) &&
    (s.positionRad ++ s.velocityRadS ++ s.accelerationRadS2).all isFinite

/-- The Python expression `-value`, which is `-1.0 * value`. -/
def negate (value : δ) : δ := mul (ofRat (-1)) value

/-- `_quaternion_product` (lines 106–116). -/
def quaternionProduct (left right : Quaternion δ) : Quaternion δ where
  w := sub (sub (sub (mul left.w right.w) (mul left.x right.x)) (mul left.y right.y))
    (mul left.z right.z)
  x := sub (add (add (mul left.w right.x) (mul left.x right.w)) (mul left.y right.z))
    (mul left.z right.y)
  y := add (add (sub (mul left.w right.y) (mul left.x right.z)) (mul left.y right.w))
    (mul left.z right.x)
  z := add (sub (add (mul left.w right.z) (mul left.x right.y)) (mul left.y right.x))
    (mul left.z right.w)

/-- The pose `current` relative to `reference` (lines 191–205). -/
def SpatialPose.relativeTo (current reference : SpatialPose δ) : RelativePose δ :=
  let inverse : Quaternion δ := ⟨reference.orientationWxyz.w, negate reference.orientationWxyz.x,
    negate reference.orientationWxyz.y, negate reference.orientationWxyz.z⟩
  let rotation := quaternionProduct inverse current.orientationWxyz
  { translationM := ⟨sub current.positionM.x reference.positionM.x,
      sub current.positionM.y reference.positionM.y, sub current.positionM.z reference.positionM.z⟩
    rotationWxyz :=
      if lt rotation.w zero then
        ⟨negate rotation.w, negate rotation.x, negate rotation.y, negate rotation.z⟩
      else rotation }

end Poses

/-! ## Operations -/

namespace EngagementCoordinator

variable (c : EngagementCoordinator δ)

/-- `observe_input` (lines 142–149). -/
def observeInput (sequence : ℤ) (pose : SpatialPose δ) :
    EngagementResult × EngagementCoordinator δ :=
  if sequence ≤ c.latestInputSequence then (.oldSequence, c)
  else
    (.ok, { c with
      inputReplacementCount :=
        if c.latestInputPose.isSome then c.inputReplacementCount + 1 else c.inputReplacementCount
      latestInputSequence := sequence
      latestInputPose := some pose })

/-- `complete_engagement` (lines 178–184). -/
def completeEngagement : EngagementResult × EngagementCoordinator δ :=
  if c.mode = .activeTracking then (.alreadyApplied, c)
  else if c.mode ≠ .engaging ∨ c.capture = none then (.invalidState, c)
  else (.ok, { c with mode := .activeTracking })

/-- `note_target` (lines 207–217). -/
def noteTarget (sequence epoch : ℤ) (accepted : Bool) :
    EngagementResult × EngagementCoordinator δ :=
  if epoch ≠ c.safetyEpoch then
    (.oldEpoch, { c with oldTargetRejectionCount := c.oldTargetRejectionCount + 1 })
  else if !c.mode.isTracking then (.invalidState, c)
  else if sequence ≤ c.lastTargetSequence then (.oldSequence, c)
  else
    (.ok, { c with
      lastTargetSequence := sequence
      mode := if accepted then .activeTracking else .holdRejected })

/-- `request_release` (lines 219–226). -/
def requestRelease : EngagementResult × EngagementCoordinator δ :=
  if c.mode = .controlledBraking then (.alreadyApplied, c)
  else if !c.mode.isTracking then (.invalidState, c)
  else
    (.ok, { c with frozenSourceSequence := c.lastTargetSequence, mode := .controlledBraking })

/-- `braking_complete` (lines 228–234). -/
def brakingComplete : EngagementResult × EngagementCoordinator δ :=
  if c.mode = .stoppedReady then (.alreadyApplied, c)
  else if c.mode ≠ .controlledBraking then (.invalidState, c)
  else (.ok, { c with mode := .stoppedReady })

/-- `hard_stop` (lines 236–237). -/
def hardStop : EngagementCoordinator δ := { c with mode := .hardStopped }

variable [Double δ]

/-- `initialize_disengaged` (lines 134–140). -/
def initializeDisengaged (measured : MeasuredJointState δ) :
    EngagementResult × EngagementCoordinator δ :=
  if c.mode ≠ .uninitialized then (.invalidState, c)
  else if !measured.isValid then (.invalidMeasurement, c)
  else (.ok, { c with mode := .disengaged })

/-- `begin_engagement` (lines 151–176). -/
def beginEngagement (measured : MeasuredJointState δ) (nowNs : ℤ) :
    (EngagementResult × Option (EngagementCapture δ)) × EngagementCoordinator δ :=
  if c.mode = .controlledBraking then ((.waitForStopped, none), c)
  else if c.mode = .engaging then ((.alreadyApplied, c.capture), c)
  else if c.mode ≠ .disengaged ∧ c.mode ≠ .stoppedReady then ((.invalidState, none), c)
  else if !measured.isValid then ((.invalidMeasurement, none), c)
  else
    match c.latestInputPose with
    | none => ((.noInputPose, none), c)
    | some pose =>
      let capture : EngagementCapture δ :=
        { safetyEpoch := c.safetyEpoch + 1
          robotReference := measured
          inputReference := pose
          inputSequence := c.latestInputSequence
          capturedMonotonicNs := nowNs }
      ((.ok, some capture), { c with
        safetyEpoch := c.safetyEpoch + 1
        lastTargetSequence := 0
        frozenSourceSequence := 0
        historyClearCount := c.historyClearCount + 1
        capture := some capture
        mode := .engaging })

/-- `relative_pose` (lines 186–205). -/
def relativePose : Option (RelativePose δ) :=
  if !c.mode.isTracking then none
  else
    match c.capture, c.latestInputPose with
    | some capture, some current => some (current.relativeTo capture.inputReference)
    | _, _ => none

/-- `reset_hard_stop` (lines 239–250). -/
def resetHardStop (measured : MeasuredJointState δ) :
    EngagementResult × EngagementCoordinator δ :=
  if c.mode ≠ .hardStopped then (.invalidState, c)
  else if !measured.isValid then (.invalidMeasurement, c)
  else
    (.ok, { c with
      capture := none
      lastTargetSequence := 0
      frozenSourceSequence := 0
      safetyEpoch := c.safetyEpoch + 1
      historyClearCount := c.historyClearCount + 1
      mode := .disengaged })

end EngagementCoordinator

/-! ## Calls -/

inductive CoordinatorCall (δ : Type*)
  | initializeDisengaged (measured : MeasuredJointState δ)
  | observeInput (sequence : ℤ) (pose : SpatialPose δ)
  | beginEngagement (measured : MeasuredJointState δ) (nowNs : ℤ)
  | completeEngagement
  | noteTarget (sequence epoch : ℤ) (accepted : Bool)
  | requestRelease
  | brakingComplete
  | hardStop
  | resetHardStop (measured : MeasuredJointState δ)
  deriving DecidableEq

/-- What a call returns, and the coordinator after it; `hard_stop` returns nothing. -/
def EngagementCoordinator.call [Double δ] (c : EngagementCoordinator δ) :
    CoordinatorCall δ → EngagementResult × EngagementCoordinator δ
  | .initializeDisengaged measured => c.initializeDisengaged measured
  | .observeInput sequence pose => c.observeInput sequence pose
  | .beginEngagement measured nowNs =>
    let ((result, _), c) := c.beginEngagement measured nowNs
    (result, c)
  | .completeEngagement => c.completeEngagement
  | .noteTarget sequence epoch accepted => c.noteTarget sequence epoch accepted
  | .requestRelease => c.requestRelease
  | .brakingComplete => c.brakingComplete
  | .hardStop => (.ok, c.hardStop)
  | .resetHardStop measured => c.resetHardStop measured

/-- A call that returned `OK`, and the coordinator after it. -/
structure CoordinatorEntry (δ : Type*) where
  call : CoordinatorCall δ
  after : EngagementCoordinator δ
  deriving DecidableEq

/-- A coordinator with the log of the calls that returned `OK`, newest first. -/
structure CoordinatorRun (δ : Type*) where
  coordinator : EngagementCoordinator δ
  history : List (CoordinatorEntry δ)

/-- Nothing has been called. -/
def CoordinatorRun.init : CoordinatorRun δ := ⟨.init, []⟩

/-- One call. -/
def CoordinatorRun.apply [Double δ] (s : CoordinatorRun δ) (call : CoordinatorCall δ) :
    CoordinatorRun δ :=
  let (result, coordinator) := s.coordinator.call call
  { coordinator
    history := if result = .ok then ⟨call, coordinator⟩ :: s.history else s.history }

/-! ## Exact arithmetic -/

/-- In exact arithmetic a pose has no translation relative to itself, and its
    rotation is the identity if the quaternion is a unit. -/
theorem relativeTo_self [Field δ] [LinearOrder δ] [IsStrictOrderedRing δ] [Double δ] [Exact δ]
    (pose : SpatialPose δ) :
    pose.relativeTo pose = ⟨⟨0, 0, 0⟩,
      ⟨pose.orientationWxyz.w ^ 2 + pose.orientationWxyz.x ^ 2 + pose.orientationWxyz.y ^ 2 +
        pose.orientationWxyz.z ^ 2, 0, 0, 0⟩⟩ := by
  have hrotation : quaternionProduct ⟨pose.orientationWxyz.w, negate pose.orientationWxyz.x,
      negate pose.orientationWxyz.y, negate pose.orientationWxyz.z⟩ pose.orientationWxyz =
      ⟨pose.orientationWxyz.w ^ 2 + pose.orientationWxyz.x ^ 2 + pose.orientationWxyz.y ^ 2 +
        pose.orientationWxyz.z ^ 2, 0, 0, 0⟩ := by
    simp only [quaternionProduct, negate, Exact.sub_eq, Exact.add_eq, Exact.mul_eq,
      Exact.ofRat_eq, Quaternion.mk.injEq]
    push_cast
    refine ⟨?_, ?_, ?_, ?_⟩ <;> ring
  have hpositive : ¬pose.orientationWxyz.w ^ 2 + pose.orientationWxyz.x ^ 2 +
      pose.orientationWxyz.y ^ 2 + pose.orientationWxyz.z ^ 2 < 0 := by
    have hnonneg : 0 ≤ pose.orientationWxyz.w ^ 2 + pose.orientationWxyz.x ^ 2 +
        pose.orientationWxyz.y ^ 2 + pose.orientationWxyz.z ^ 2 := by positivity
    exact not_lt.mpr hnonneg
  rw [SpatialPose.relativeTo, hrotation]
  simp [hpositive]

end HandLab.Engagement
