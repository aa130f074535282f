import HandLab.Clutch.Machines
import HandLab.Quest.Receiver
import HandLab.TargetGenerator.Types

/-!
# `SmoothQuestJakaSession`

The arm channel of the session (`src/quest_jaka_sim/smooth_session.py`, lines
385–1197 and 1327–1351): `ingest`, `set_clutch_samples` and `control_tick`.

A tick calls `arm_output` at most once, after everything it decides about the clutch,
so `controlTick` returns the call (`Decision`) and what it answers is left to the
caller. What the session only passes on is a parameter: the caches of the assembler,
the mapper, the target generator, and the hand channel, which reads the same
sample and may raise.
-/

namespace HandLab.SmoothSession

open HandLab.Clutch HandLab.Quest HandLab.TargetGenerator

/-! ## The input -/

/-- The part of `QuestHandObservation` that the session reads. -/
structure QuestHandObservation (π : Type*) where
  trackingValid : Bool
  hostReceiveMonotonicNs : Option ℤ
  sourceTimestampNs : Option ℤ
  sourceSequenceNumber : Option ℤ
  hostSequenceNumber : Option ℕ
  wristPose : Option π
  jointCount : ℕ
  deriving DecidableEq

/-- The part of `QuestHeadObservation` that the session reads. -/
structure QuestHeadObservation (π : Type*) where
  trackingValid : Bool
  pose : π
  deriving DecidableEq

/-- `CanonicalQuestState` without the left hand, which nothing here reads. -/
structure CanonicalQuestState (π : Type*) where
  head : Option (QuestHeadObservation π)
  right : QuestHandObservation π
  deriving DecidableEq

namespace CanonicalQuestState

variable {π : Type*} (state : CanonicalQuestState π)

/-- `wrist_valid` (line 543). -/
def wristValid : Bool := state.right.trackingValid && state.right.wristPose.isSome

/-- `head_valid` (line 545). -/
def headValid : Bool := state.head.any QuestHeadObservation.trackingValid

/-- `ingest` adds the hand to the pose buffer (lines 447–451). -/
def isNewHand (last : Option ℕ) : Bool :=
  state.right.trackingValid && state.right.wristPose.isSome &&
    state.right.jointCount == 21 && state.right.hostSequenceNumber.isSome &&
    decide (state.right.hostSequenceNumber ≠ last)

/-- The pose buffer's wrist takes the place of a wrist that is there (lines 537–538). -/
def interpolate (interpolated : Option π) : CanonicalQuestState π :=
  if state.wristValid then
    { state with right := { state.right with
        wristPose := interpolated.or state.right.wristPose } }
  else state

end CanonicalQuestState

/-! ## The output -/

/-- `ArmControlState` of a heartbeat. -/
inductive HeartbeatState
  | holdRejected | disengaged
  deriving DecidableEq, Repr

/-- The value of `reason` of a tick. -/
inductive TickReason
  | feasibility (reason : FeasibilityReason)
  | disengaged
  | inputRecoveryHold
  | inputRecoveryTimeout
  | inputRecoveryReclutch
  deriving DecidableEq, Repr

/-- `AcceptedArmTarget` without its poses and diagnostics. -/
structure AcceptedArmTarget (δ : Type*) where
  sequenceNumber : ℕ
  inputSequenceNumber : ℕ
  sourceSequenceNumber : Option ℤ
  sourceTimestampNs : Option ℤ
  inputReceiveMonotonicNs : ℤ
  generatedMonotonicNs : ℤ
  referenceGeneration : ℕ
  clutchGeneration : ℕ
  jointPositionRad : Joints δ
  deriving DecidableEq

/-- `AcceptedArmTarget.__post_init__` (lines 70–85), without the test of the joints. -/
def AcceptedArmTarget.wellFormed {δ : Type*} (target : AcceptedArmTarget δ) : Bool :=
  target.sourceSequenceNumber.all (fun sequence => decide (0 ≤ sequence)) &&
    target.sourceTimestampNs.all (fun timestamp => decide (0 ≤ timestamp)) &&
    decide (0 ≤ target.inputReceiveMonotonicNs) &&
    decide (target.inputReceiveMonotonicNs ≤ target.generatedMonotonicNs) &&
    decide (1 ≤ target.referenceGeneration) && decide (1 ≤ target.clutchGeneration)

/-- `ArmControlHeartbeat`. -/
structure ArmControlHeartbeat where
  inputSequenceNumber : ℕ
  inputReceiveMonotonicNs : ℤ
  generatedMonotonicNs : ℤ
  referenceGeneration : ℕ
  clutchGeneration : ℕ
  state : HeartbeatState
  reason : TickReason
  lastAcceptedTargetSequence : ℕ
  deriving DecidableEq

/-- `ArmControlHeartbeat.__post_init__`. -/
def ArmControlHeartbeat.wellFormed (heartbeat : ArmControlHeartbeat) : Bool :=
  decide (0 < heartbeat.inputReceiveMonotonicNs) &&
    decide (heartbeat.inputReceiveMonotonicNs ≤ heartbeat.generatedMonotonicNs) &&
    decide (1 ≤ heartbeat.referenceGeneration) && decide (1 ≤ heartbeat.clutchGeneration)

/-- What a tick does with `arm_output`. -/
inductive Decision (δ : Type*)
  /-- an exception left the tick before any call -/
  | raised
  /-- the tick returns without a call, with `output_applied=False` -/
  | silent (reason : TickReason)
  /-- `arm_output.heartbeat(…)`, whose answer is `output_applied` -/
  | heartbeat (heartbeat : ArmControlHeartbeat)
  /-- `arm_output.apply(…)`, whose answer is `output_applied` -/
  | apply (target : AcceptedArmTarget δ)
  deriving DecidableEq

/-- The target that a tick publishes. -/
def Decision.published {δ : Type*} : Decision δ → Option (AcceptedArmTarget δ)
  | .apply target => some target
  | .raised => none
  | .silent _ => none
  | .heartbeat _ => none

/-! ## The session -/

/-- What `HtsCanonicalAssembler` keeps of the packets that passed the checks of
    `ingest`, and the state it makes of them. -/
structure Assembler (ς δ π : Type*) where
  observe : ς → List (HtsPacket δ) → ℤ → Except HtsError (CanonicalQuestState π) × ς
  state : ς → ℤ → Except HtsError (CanonicalQuestState π)

/-- `LatchedHeadYawArmMapper`; what raises keeps its state. -/
structure ArmMapper (μ π : Type*) where
  clear : μ → μ
  capture : μ → (wrist robotTcp head : π) → ℤ → Except String (π × μ)
  target : μ → (wrist : π) → ℤ → Except String (π × μ)

/-- The constructor arguments and the configuration that the arm channel reads. -/
structure SessionConfig (α : Type*) [LinearOrder α] where
  clutch : ClutchConfig α
  armInputEnabled : Bool
  inputRecoveryTimeoutNs : ℤ
  continuationEnabled : Bool
  maximumContinuationBacktracks : ℕ
  minimumContinuationFraction : ℚ

/-- The members of `SmoothQuestJakaSession` that the arm channel reads. -/
structure SmoothQuestJakaSession (α ς μ : Type*) where
  assembler : ς
  armClutch : ArmClutchMachine α
  armMapper : μ
  indexSample : AnalogClutchSample α
  leftControllerValid : Bool
  inputRecoveryStartedNs : Option ℤ
  inputRecoveryPersistentHold : Bool
  lastInputSequence : Option ℕ
  lastInputReceiveNs : Option ℤ
  acceptedSequence : ℕ
  referenceGeneration : ℕ

/-- What a tick learns from outside the session. -/
structure TickInput (δ π : Type*) where
  nowNs : ℤ
  /-- `self.buffer.sample(now_ns - self.interpolation_delay_ns)` -/
  interpolated : Option π
  /-- the hand channel or the fresh measured joints raise (lines 590–642) -/
  handRaises : Bool
  /-- `target_generator.capture_reference()`, after its synchronization -/
  captureReference : Except String π
  /-- `target_generator.observe_episode_winding(…)` raises -/
  windingRaises : Bool
  /-- the fraction of the first `bounded_pose_step` -/
  boundedFraction : ℚ
  /-- the results of `target_generator.evaluate`, in order -/
  evaluate : ℕ → Except String (FeasibilityResult δ)
  /-- the poses, the joints or the diagnostics of the accepted target are not finite -/
  encodeRaises : Bool

variable {α δ π ς μ : Type*}

namespace SmoothQuestJakaSession

/-- After `__init__`. -/
def init [LinearOrder α] [OrderBot α] (assembler : ς) (armMapper : μ) :
    SmoothQuestJakaSession α ς μ where
  assembler
  armClutch := .init
  armMapper
  indexSample := ⟨⊥, 0, 0, false, none⟩
  leftControllerValid := false
  inputRecoveryStartedNs := none
  inputRecoveryPersistentHold := false
  lastInputSequence := none
  lastInputReceiveNs := none
  acceptedSequence := 0
  referenceGeneration := 0

variable (s : SmoothQuestJakaSession α ς μ)

/-- `set_clutch_samples` (lines 385–410), without the grip. -/
def setClutchSamples (index : AnalogClutchSample α) (leftControllerValid : Bool) :
    SmoothQuestJakaSession α ς μ :=
  { s with indexSample := index, leftControllerValid }

variable (mapper : ArmMapper μ π)

/-- `arm_clutch.fault(…)` with `arm_mapper.clear()`. -/
def faultArm (nowNs : ℤ) (reason : String) : SmoothQuestJakaSession α ς μ :=
  { s with
    armClutch := s.armClutch.fault nowNs reason
    armMapper := mapper.clear s.armMapper }

/-- The hand of a state that was assembled (lines 446–455). -/
def noteHand (state : CanonicalQuestState π) (receiveMonotonicNs : ℤ) :
    SmoothQuestJakaSession α ς μ :=
  if state.isNewHand s.lastInputSequence then
    { s with
      lastInputSequence := state.right.hostSequenceNumber
      lastInputReceiveNs := some (match state.right.hostReceiveMonotonicNs with
        | none => receiveMonotonicNs
        | some ns => if ns = 0 then receiveMonotonicNs else ns) }
  else s

/-- `ingest` after the parser and the checks of the assembler; the `Bool` tells that
    the exception is handled. -/
def ingested (datagram : ReceivedHtsDatagram)
    (outcome : Except HtsError (CanonicalQuestState π)) : Bool × SmoothQuestJakaSession α ς μ :=
  match outcome with
  | .ok state => (true, s.noteHand state datagram.receiveMonotonicNs)
  | .error error =>
    if error.isSerialization then
      (true, s.faultArm mapper datagram.receiveMonotonicNs "MALFORMED_SHARED_RIGHT_HAND_DATA")
    else (false, s)

variable [HtsFloat δ] (assembler : Assembler ς δ π)

/-- What `assembler.ingest(parse_hts_datagram(payload), …)` gives. -/
def assemble (cache : ς) (datagram : ReceivedHtsDatagram) :
    Except HtsError (CanonicalQuestState π) × ς :=
  match parseHtsDatagram (δ := δ) datagram.payload with
  | .error error => (.error error, cache)
  | .ok packets =>
    match checkObservation packets datagram.receiveMonotonicNs with
    | .error error => (.error error, cache)
    | .ok () => assembler.observe cache packets datagram.receiveMonotonicNs

/-- `ingest` (lines 416–457); `false` if an exception leaves it. -/
def ingest (datagram : ReceivedHtsDatagram) : Bool × SmoothQuestJakaSession α ς μ :=
  let (outcome, cache) := assemble assembler s.assembler datagram
  { s with assembler := cache }.ingested mapper datagram outcome

/-- The datagram is rejected. -/
def Rejects (datagram : ReceivedHtsDatagram) : Bool :=
  match (assemble assembler s.assembler datagram).1 with
  | .ok _ => false
  | .error _ => true

end SmoothQuestJakaSession

end HandLab.SmoothSession
