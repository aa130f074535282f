import HandLab.Teleoperation.FrameMapping
import HandLab.Teleoperation.PoseValidator

/-!
# `ClutchController`

`src/teleoperation/processing/clutch.py`, with the methods of `RelativePoseMapper`
that it calls. A call returns its result, or the exception it raised, with the
controller after it: an exception keeps what was assigned before.
-/

namespace HandLab.Teleoperation

open HandLab.Lib

variable {δ : Type*}

/-- `ClutchState`. -/
inductive ClutchState
  | waitingForRelease | disengaged | active | recenterRequired | stopped | fault
  deriving DecidableEq, Repr

/-- `STOPPED` and `FAULT`. -/
def ClutchState.latched : ClutchState → Bool
  | .stopped | .fault => true
  | .waitingForRelease | .disengaged | .active | .recenterRequired => false

/-- `RunGateSample`. -/
structure RunGateSample where
  engaged : Bool
  valid : Bool
  reason : String := ""
  deriving DecidableEq, Repr

/-- `ClutchUpdate`. -/
structure ClutchUpdate (δ : Type*) where
  state : ClutchState
  targetPose : Option (Pose3D δ)
  reason : String
  anchorId : ℕ

/-- What a call raises. -/
inductive ClutchError
  | runtimeError (message : String)
  | valueError
  deriving DecidableEq, Repr

/-- The members of `ClutchController`. -/
structure ClutchController (δ : Type*) where
  mapper : RelativePoseMapper δ
  posesAreOperatorFrame : Bool := false
  state : ClutchState := .waitingForRelease
  lastGateEngaged : Bool := false

namespace ClutchController

variable (c : ClutchController δ)

/-- The `ClutchUpdate` without a target. -/
def held (reason : String) : ClutchUpdate δ := ⟨c.state, none, reason, c.mapper.anchorId⟩

/-- `require_recenter`. -/
def requireRecenter (_reason : String) : ClutchController δ :=
  { c with
    mapper := c.mapper.clear
    state := if c.state.latched then c.state else .recenterRequired }

/-- `release_after_discontinuity`. -/
def releaseAfterDiscontinuity : ClutchController δ :=
  if c.state = .recenterRequired then { c with state := .disengaged, lastGateEngaged := false }
  else c

/-- `stop`. -/
def stop : ClutchController δ := { c with mapper := c.mapper.clear, state := .stopped }

/-- `fault`. -/
def fault : ClutchController δ := { c with mapper := c.mapper.clear, state := .fault }

/-- `reset_fault`. -/
def resetFault (gateReleased safe : Bool) : Except ClutchError Unit × ClutchController δ :=
  if !c.state.latched then
    (.error (.runtimeError "fault reset is only valid from a latched state"), c)
  else if !gateReleased || !safe then
    (.error (.runtimeError "fault reset requires released clutch and verified safe state"), c)
  else (.ok (), { c with state := .waitingForRelease, lastGateEngaged := false })

/-- The update of a released gate (lines 54–63). -/
def released : ClutchController δ :=
  match c.state with
  | .waitingForRelease | .recenterRequired =>
    { c with state := .disengaged, lastGateEngaged := false }
  | .active => { c with mapper := c.mapper.clear, state := .disengaged, lastGateEngaged := false }
  | .disengaged | .stopped | .fault => { c with lastGateEngaged := false }

variable [NumPy δ]

/-- The pose that is anchored or mapped for a sample. -/
def operatorPose (sample : ArmPoseSample δ) : Option (Pose3D δ) :=
  if c.posesAreOperatorFrame then some sample.pose
  else c.mapper.frames.sourcePoseToOperator sample.pose

/-- The anchoring of `update` and `recenter`. -/
def anchor (sample : ArmPoseSample δ) (robotTcpPose : Pose3D δ) :
    Except ClutchError (ClutchController δ) :=
  match c.operatorPose sample with
  | none => .error .valueError
  | some pose => .ok { c with mapper := c.mapper.anchorOperator pose robotTcpPose }

/-- The end of `update` (lines 80–85): `map_operator` or `map`. -/
def follow (sample : ArmPoseSample δ) : Except ClutchError (ClutchUpdate δ) :=
  match c.operatorPose sample with
  | none => .error .valueError
  | some current =>
    match c.mapper.sourceAnchor, c.mapper.robotAnchor with
    | some source, some robot =>
      match c.mapper.relativeTo source robot current with
      | none => .error .valueError
      | some target => .ok ⟨c.state, some target, "following", c.mapper.anchorId⟩
    | _, _ => .error (.runtimeError "relative mapper has no clutch anchor")

/-- The update of an engaged gate (lines 65–85). -/
def engaged (sample : ArmPoseSample δ) (robotTcpPose : Pose3D δ) :
    Except ClutchError (ClutchUpdate δ) × ClutchController δ :=
  let risingEdge := !c.lastGateEngaged
  let c := { c with lastGateEngaged := true }
  match c.state with
  | .waitingForRelease => (.ok (c.held "startup_release_required"), c)
  | .recenterRequired => (.ok (c.held "explicit_release_and_reclutch_required"), c)
  | .disengaged =>
    if !risingEdge then (.ok (c.held "fresh_clutch_edge_required"), c)
    else
      match c.anchor sample robotTcpPose with
      | .error e => (.error e, c)
      | .ok anchored =>
        let c := { anchored with state := .active }
        (c.follow sample, c)
  | .active | .stopped | .fault => (c.follow sample, c)

/-- `update`. -/
def update (sample : ArmPoseSample δ) (gate : RunGateSample) (robotTcpPose : Pose3D δ) :
    Except ClutchError (ClutchUpdate δ) × ClutchController δ :=
  if c.state.latched then (.ok (c.held "latched"), c)
  else if !gate.valid || !sample.trackingValid then
    let reason := if gate.reason ≠ "" then gate.reason
      else if sample.validityReason ≠ "" then sample.validityReason else "invalid_input"
    let c := { c.requireRecenter reason with lastGateEngaged := gate.engaged }
    (.ok (c.held "invalid_input"), c)
  else if !gate.engaged then (.ok (c.released.held "clutch_released"), c.released)
  else c.engaged sample robotTcpPose

/-- `recenter`. -/
def recenter (sample : ArmPoseSample δ) (robotTcpPose : Pose3D δ) (gateReleased : Bool) :
    Except ClutchError ℕ × ClutchController δ :=
  if !gateReleased then
    (.error (.runtimeError "recenter requires the clutch to be released"), c)
  else if !sample.trackingValid then
    (.error (.runtimeError "recenter requires valid tracking"), c)
  else
    match c.anchor sample robotTcpPose with
    | .error e => (.error e, c)
    | .ok anchored =>
      (.ok anchored.mapper.anchorId,
        { anchored with
          mapper := anchored.mapper.clear
          state := .disengaged
          lastGateEngaged := false })

end ClutchController

/-! ## Calls -/

/-- A call to the controller. -/
inductive ClutchCall (δ : Type*)
  | update (sample : ArmPoseSample δ) (gate : RunGateSample) (robotTcpPose : Pose3D δ)
  | recenter (sample : ArmPoseSample δ) (robotTcpPose : Pose3D δ) (gateReleased : Bool)
  | requireRecenter (reason : String)
  | releaseAfterDiscontinuity
  | stop
  | fault
  | resetFault (gateReleased safe : Bool)

/-- What a call returns. -/
inductive ClutchReturn (δ : Type*)
  | update (result : ClutchUpdate δ)
  | anchorId (id : ℕ)
  | none

/-- The call, with what it returned or raised. -/
def ClutchController.call [NumPy δ] (c : ClutchController δ) :
    ClutchCall δ → Except ClutchError (ClutchReturn δ) × ClutchController δ
  | .update sample gate robotTcpPose =>
    let (result, c) := c.update sample gate robotTcpPose
    (result.map .update, c)
  | .recenter sample robotTcpPose gateReleased =>
    let (result, c) := c.recenter sample robotTcpPose gateReleased
    (result.map .anchorId, c)
  | .requireRecenter reason => (.ok .none, c.requireRecenter reason)
  | .releaseAfterDiscontinuity => (.ok .none, c.releaseAfterDiscontinuity)
  | .stop => (.ok .none, c.stop)
  | .fault => (.ok .none, c.fault)
  | .resetFault gateReleased safe =>
    let (result, c) := c.resetFault gateReleased safe
    (result.map fun _ => .none, c)

end HandLab.Teleoperation
