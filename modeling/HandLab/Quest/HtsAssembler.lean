import HandLab.Lib.Dict
import HandLab.Lib.RealMath
import HandLab.Quest.Receiver

/-!
# The canonical assembler

`HtsCanonicalAssembler` and `SourceSequenceTracker`
(`src/motion_input/hts_canonical.py`, lines 132–388). `ingest` writes the caches as it goes
and assembles a state of them at the end; both may raise.

* `ingest_eq`: every check comes before every write.
* `Holds`: what the caches hold of the datagrams that were accepted.
* `assembler_consistent`: refused datagrams leave no trace, a valid hand is made of one datagram,
  and the published sequence number is that of the last accepted datagram.
-/

namespace HandLab.Quest.Canonical

open HandLab.Lib Double

variable {δ : Type*}

/-! ## Poses -/

/-- What assembling a state raises. -/
inductive StateError
  /-- `SerializationError("HTS quaternion must contain four finite floats")` -/
  | quaternion
  /-- `SerializationError("cannot normalize a zero or non-finite quaternion")` -/
  | normalize
  /-- `ProtocolValidationError` of `Pose6D` -/
  | pose
  /-- `ValueError` of `zip(..., strict=True)` -/
  | joints
  deriving DecidableEq, Repr

/-- `Pose6D`. -/
structure Pose6D (δ : Type*) where
  positionM : List δ
  orientationXyzw : List δ

section Pose

variable [HtsFloat δ]

/-- `Pose6D.__post_init__`. -/
def makePose (position orientation : List δ) : Except StateError (Pose6D δ) :=
  if position.length ≠ 3 ∨ ¬position.all isFinite then .error .pose
  else if orientation.length ≠ 4 ∨ ¬orientation.all isFinite then .error .pose
  else if lt (ofRat (1 / 1000)) (abs (sub (quaternionNorm orientation) (ofRat 1))) then .error .pose
  else .ok ⟨position, orientation⟩

/-- `normalize_quaternion`. -/
def normalizeQuaternion (quaternion : List δ) : Except StateError (List δ) :=
  if quaternion.length ≠ 4 ∨ ¬quaternion.all isFinite then .error .quaternion
  else if le (quaternionNorm quaternion) (ofRat (1 / 10 ^ 12)) ||
      !isFinite (quaternionNorm quaternion) then .error .normalize
  else .ok (quaternion.map fun value => div value (quaternionNorm quaternion))

/-- `_unity_to_openxr_position`. -/
def unityToOpenxrPosition : List δ → List δ
  | [x, y, z] => [x, y, CMath.neg z]
  | position => position

/-- The orientation of `unity_to_openxr_pose`. -/
def unityToOpenxrOrientation : List δ → List δ
  | [x, y, z, w] => [CMath.neg x, CMath.neg y, z, w]
  | orientation => orientation

/-- `unity_to_openxr_pose`. -/
def unityToOpenxrPose (pose : Pose6D δ) : Except StateError (Pose6D δ) :=
  makePose (unityToOpenxrPosition pose.positionM) (unityToOpenxrOrientation pose.orientationXyzw)

/-- `_canonical_pose`. -/
def canonicalPose (position quaternion : List δ) : Except StateError (Pose6D δ) := do
  let normalized ← normalizeQuaternion quaternion
  let source ← makePose position normalized
  unityToOpenxrPose source

/-- `_canonical_pose` of a wrist or head packet. -/
def packetPose (packet : HtsPacket δ) : Except StateError (Pose6D δ) :=
  canonicalPose (packet.values.take 3) (packet.values.drop 3)

end Pose

/-! ## Observations -/

/-- `HTS_JOINT_NAMES`. -/
def htsJointNames : List String :=
  ["wrist", "thumb_metacarpal", "thumb_proximal", "thumb_distal", "thumb_tip", "index_proximal",
    "index_intermediate", "index_distal", "index_tip", "middle_proximal", "middle_intermediate",
    "middle_distal", "middle_tip", "ring_proximal", "ring_intermediate", "ring_distal",
    "ring_tip", "little_proximal", "little_intermediate", "little_distal", "little_tip"]

/-- `QuestJointObservation`, without the fields that are the same for every joint. -/
structure QuestJointObservation (δ : Type*) where
  name : String
  positionM : List δ
  frameId : String

/-- `QuestHandObservation`, without the confidence, which is always `None`. -/
structure QuestHandObservation (δ : Type*) where
  side : HandSide
  trackingValid : Bool
  hostReceiveMonotonicNs : Option ℤ
  sourceTimestampNs : Option ℕ
  sourceSequenceNumber : Option ℕ
  hostSequenceNumber : Option ℕ
  streamAgeS : Option δ
  wristPose : Option (Pose6D δ)
  wristFrameId : String
  joints : List (QuestJointObservation δ)
  rawQuaternionNorm : Option δ

/-- `QuestHeadObservation`. -/
structure QuestHeadObservation (δ : Type*) where
  hostReceiveMonotonicNs : ℤ
  sourceTimestampNs : Option ℕ
  sourceSequenceNumber : Option ℕ
  streamAgeS : δ
  pose : Pose6D δ
  rawQuaternionNorm : Option δ

/-- `CanonicalQuestState`. Of the metadata only the endpoint and the size are not fixed texts. -/
structure CanonicalQuestState (δ : Type*) where
  hostMonotonicNs : ℤ
  sourceTimestampNs : Option ℕ
  sequenceNumber : ℕ
  coordinateFrame : String
  head : Option (QuestHeadObservation δ)
  left : QuestHandObservation δ
  right : QuestHandObservation δ
  rawSourceMetadata : Option (String × ℤ)

/-- The hand of a side. -/
def CanonicalQuestState.hand (state : CanonicalQuestState δ) : HandSide → QuestHandObservation δ
  | .left => state.left
  | .right => state.right

/-! ## The caches -/

/-- The stream of a sequence number: `"head"`, `"left"` or `"right"`. -/
inductive Stream
  | head
  | hand (side : HandSide)
  deriving DecidableEq, Repr

/-- `SourceSequenceTracker`. -/
structure SourceSequenceTracker where
  last : List (Stream × ℕ) := []
  gaps : List (Stream × ℕ) := []
  outOfOrder : List (Stream × ℕ) := []

/-- `SourceSequenceTracker.observe`. -/
def SourceSequenceTracker.observe (tracker : SourceSequenceTracker) (stream : Stream) :
    Option ℕ → ℕ × SourceSequenceTracker
  | none => (0, tracker)
  | some sequence =>
    match tracker.last.lookup stream with
    | none => (0, { tracker with last := dictSet stream sequence tracker.last })
    | some previous =>
      let seen := { tracker with last := dictSet stream (max sequence previous) tracker.last }
      if previous + 1 < sequence then
        let gap := sequence - previous - 1
        (gap, { seen with
          gaps := dictSet stream ((seen.gaps.lookup stream).getD 0 + gap) seen.gaps })
      else if sequence ≤ previous then
        (0, { seen with
          outOfOrder := dictSet stream ((seen.outOfOrder.lookup stream).getD 0 + 1)
            seen.outOfOrder })
      else (0, seen)

/-- `_HandCache`. -/
structure HandCache (δ : Type*) where
  wrist : Option (HtsPacket δ) := none
  landmarks : Option (HtsPacket δ) := none
  receiveNs : Option ℤ := none
  hostSequence : Option ℕ := none

/-- `_HeadCache`. -/
structure HeadCache (δ : Type*) where
  packet : HtsPacket δ
  receiveNs : ℤ

/-- `HtsCanonicalAssembler`. -/
structure HtsCanonicalAssembler (δ : Type*) where
  staleAfterNs : ℤ
  hands : HandSide → HandCache δ := fun _ => {}
  head : Option (HeadCache δ) := none
  snapshotSequence : ℕ := 0
  hostHandSequences : HandSide → ℕ := fun _ => 0
  sequenceTracker : SourceSequenceTracker := {}
  lastSequenceGap : ℕ := 0

/-- `_first_not_none`. -/
def firstNotNone (values : List (Option ℕ)) : Option ℕ := (values.filterMap id).head?

def wristFrame : HandSide → String
  | .left => "left_wrist"
  | .right => "right_wrist"

/-- The points of a landmarks packet. -/
def points (values : List δ) : List (List δ) :=
  (List.range htsLandmarkCount).map fun i => (values.drop (3 * i)).take 3

/-- The cached packet of a line. -/
def HandCache.store (cache : HandCache δ) (packet : HtsPacket δ) : HandCache δ :=
  match packet.header.kind with
  | .wrist _ => { cache with wrist := some packet }
  | .landmarks _ => { cache with landmarks := some packet }
  | .headPose => cache

namespace HtsCanonicalAssembler

variable (s : HtsCanonicalAssembler δ)

/-- `self.last_sequence_gap += self.sequence_tracker.observe(stream, sequence)`. -/
def track (stream : Stream) (sequence : Option ℕ) : HtsCanonicalAssembler δ :=
  let answer := s.sequenceTracker.observe stream sequence
  { s with sequenceTracker := answer.2, lastSequenceGap := s.lastSequenceGap + answer.1 }

def writeHead (packet : HtsPacket δ) (receiveMonotonicNs : ℤ) : HtsCanonicalAssembler δ :=
  { s with head := some ⟨packet, receiveMonotonicNs⟩ }.track .head packet.header.sourceSequence

def writeHand (side : HandSide) (observations : List (HtsPacket δ)) (receiveMonotonicNs : ℤ) :
    HtsCanonicalAssembler δ :=
  let stored := observations.foldl HandCache.store (s.hands side)
  let written := { s with
    hands := Function.update s.hands side { stored with
      receiveNs := some receiveMonotonicNs
      hostSequence := some (s.hostHandSequences side) }
    hostHandSequences :=
      Function.update s.hostHandSequences side (s.hostHandSequences side + 1) }
  written.track (.hand side)
    (firstNotNone (observations.map fun packet => packet.header.sourceSequence))

/-- A turn of the loop of `ingest` over the sides. -/
def ingestHand (side : HandSide) (observations : List (HtsPacket δ)) (receiveMonotonicNs : ℤ) :
    Except HtsError Unit × HtsCanonicalAssembler δ :=
  if observations.isEmpty then (.ok (), s)
  else
    match validateHandObservationSet side observations with
    | .error error => (.error error, s)
    | .ok () => (.ok (), s.writeHand side observations receiveMonotonicNs)

section State

variable [HtsFloat δ]

/-- An age in nanoseconds, in seconds. -/
def ageS (ageNs : ℤ) : δ := div (ofInt ageNs) (ofRat 1000000000)

/-- `_hand_observation`. -/
def handObservation (side : HandSide) (nowNs : ℤ) : Except StateError (QuestHandObservation δ) :=
  let cache := s.hands side
  match cache.receiveNs with
  | none => .ok ⟨side, false, none, none, none, none, none, none, wristFrame side, [], none⟩
  | some receiveNs =>
    let ageNs := max 0 (nowNs - receiveNs)
    let packets := [cache.wrist, cache.landmarks].filterMap id
    let sourceSequence := firstNotNone
      (packets.map fun packet : HtsPacket δ => packet.header.sourceSequence)
    let sourceTimestamp := firstNotNone
      (packets.map fun packet : HtsPacket δ => packet.header.sourceTimestampNs)
    match cache.wrist, cache.landmarks with
    | some wrist, some landmarks =>
      if ageNs ≤ s.staleAfterNs then
        match packetPose wrist with
        | .error error => .error error
        | .ok pose =>
          let positions := points landmarks.values
          if htsJointNames.length ≠ positions.length then .error .joints
          else
            .ok ⟨side, true, some receiveNs, sourceTimestamp, sourceSequence, cache.hostSequence,
              some (ageS ageNs), some pose, wristFrame side,
              List.zipWith (fun name position =>
                ⟨name, unityToOpenxrPosition position, wristFrame side⟩) htsJointNames positions,
              wrist.quaternionNorm⟩
      else
        .ok ⟨side, false, some receiveNs, sourceTimestamp, sourceSequence, cache.hostSequence,
          some (ageS ageNs), none, wristFrame side, [], none⟩
    | _, _ =>
      .ok ⟨side, false, some receiveNs, sourceTimestamp, sourceSequence, cache.hostSequence,
        some (ageS ageNs), none, wristFrame side, [], none⟩

/-- `_head_observation`. -/
def headObservation (nowNs : ℤ) : Except StateError (Option (QuestHeadObservation δ)) :=
  match s.head with
  | none => .ok none
  | some cache =>
    let ageNs := max 0 (nowNs - cache.receiveNs)
    if s.staleAfterNs < ageNs then .ok none
    else
      match packetPose cache.packet with
      | .error error => .error error
      | .ok pose =>
        .ok (some ⟨cache.receiveNs, cache.packet.header.sourceTimestampNs,
          cache.packet.header.sourceSequence, ageS ageNs, pose, cache.packet.quaternionNorm⟩)

/-- `state`. -/
def state (nowMonotonicNs : ℤ) (rawSourceMetadata : Option (String × ℤ)) :
    Except StateError (CanonicalQuestState δ) := do
  let left ← s.handObservation .left nowMonotonicNs
  let right ← s.handObservation .right nowMonotonicNs
  let head ← s.headObservation nowMonotonicNs
  let timestamps := [left.sourceTimestampNs, right.sourceTimestampNs,
    head.bind QuestHeadObservation.sourceTimestampNs].filterMap id
  return ⟨nowMonotonicNs, timestamps.max?, s.snapshotSequence, "quest_world", head, left, right,
    rawSourceMetadata⟩

/-- What `ingest` raises. -/
inductive IngestError
  | check (error : HtsError)
  | state (error : StateError)

/-- The end of `ingest`. -/
def publish (receiveMonotonicNs : ℤ) (metadata : String × ℤ) :
    Except IngestError (CanonicalQuestState δ) × HtsCanonicalAssembler δ :=
  let next := { s with snapshotSequence := s.snapshotSequence + 1 }
  ((next.state receiveMonotonicNs (some metadata)).mapError .state, next)

/-- `ingest`. -/
def ingest (packets : List (HtsPacket δ)) (receiveMonotonicNs : ℤ) (metadata : String × ℤ) :
    Except IngestError (CanonicalQuestState δ) × HtsCanonicalAssembler δ :=
  let heads := packets.filter fun packet => packet.side?.isNone
  let left := packets.filter fun packet => packet.side? == some .left
  let right := packets.filter fun packet => packet.side? == some .right
  if receiveMonotonicNs < 0 then (.error (.check .negativeReceive), s)
  else if 1 < heads.length then (.error (.check .duplicateHead), s)
  else if ¬heads.isEmpty ∧ (¬left.isEmpty ∨ ¬right.isEmpty) then
    (.error (.check .headWithHand), s)
  else if ¬left.isEmpty ∧ ¬right.isEmpty then (.error (.check .bothHands), s)
  else
    let headed := match heads with
      | [] => s
      | packet :: _ => s.writeHead packet receiveMonotonicNs
    match headed.ingestHand .left left receiveMonotonicNs with
    | (.error error, after) => (.error (.check error), after)
    | (.ok (), lefted) =>
      match lefted.ingestHand .right right receiveMonotonicNs with
      | (.error error, after) => (.error (.check error), after)
      | (.ok (), righted) => righted.publish receiveMonotonicNs metadata

end State

end HtsCanonicalAssembler

/-! ## Checks and writes -/

namespace HtsCanonicalAssembler

variable (s : HtsCanonicalAssembler δ)

/-- The writes of a turn over the sides. -/
def writeSide (side : HandSide) (observations : List (HtsPacket δ)) (receiveMonotonicNs : ℤ) :
    HtsCanonicalAssembler δ :=
  if observations.isEmpty then s else s.writeHand side observations receiveMonotonicNs

def writeHeads (heads : List (HtsPacket δ)) (receiveMonotonicNs : ℤ) : HtsCanonicalAssembler δ :=
  match heads with
  | [] => s
  | packet :: _ => s.writeHead packet receiveMonotonicNs

/-- All writes of `ingest`. -/
def write (packets : List (HtsPacket δ)) (receiveMonotonicNs : ℤ) : HtsCanonicalAssembler δ :=
  ((s.writeHeads (packets.filter fun packet => packet.side?.isNone) receiveMonotonicNs).writeSide
    .left (packets.filter fun packet => packet.side? == some .left) receiveMonotonicNs).writeSide
    .right (packets.filter fun packet => packet.side? == some .right) receiveMonotonicNs

variable [HtsFloat δ]

/-- **Every check of `ingest` comes before every write.** -/
theorem ingest_eq (packets : List (HtsPacket δ)) (receiveMonotonicNs : ℤ)
    (metadata : String × ℤ) : s.ingest packets receiveMonotonicNs metadata =
      match checkObservation packets receiveMonotonicNs with
      | .error error => (.error (.check error), s)
      | .ok () =>
        (s.write packets receiveMonotonicNs).publish receiveMonotonicNs metadata := by
  unfold ingest checkObservation write ingestHand
  dsimp only
  generalize packets.filter (fun packet => packet.side?.isNone) = heads
  generalize packets.filter (fun packet => packet.side? == some HandSide.left) = left
  generalize packets.filter (fun packet => packet.side? == some HandSide.right) = right
  by_cases hreceive : receiveMonotonicNs < 0
  · rw [if_pos hreceive, if_pos hreceive]
  rw [if_neg hreceive, if_neg hreceive]
  by_cases hduplicate : 1 < heads.length
  · rw [if_pos hduplicate, if_pos hduplicate]
  rw [if_neg hduplicate, if_neg hduplicate]
  by_cases hmixed : ¬heads.isEmpty ∧ (¬left.isEmpty ∨ ¬right.isEmpty)
  · rw [if_pos hmixed, if_pos hmixed]
  rw [if_neg hmixed, if_neg hmixed]
  by_cases hboth : ¬left.isEmpty ∧ ¬right.isEmpty
  · rw [if_pos hboth, if_pos hboth]
  rw [if_neg hboth, if_neg hboth]
  cases left with
  | nil =>
    cases right with
    | nil => rfl
    | cons packet rest =>
      -- No head packet has been cached when the packets of a hand are refused.
      obtain rfl : heads = [] := by
        by_contra hne
        exact hmixed ⟨by simpa using hne, .inr nofun⟩
      cases validateHandObservationSet .right (packet :: rest) <;> rfl
  | cons packet rest =>
    obtain rfl : heads = [] := by
      by_contra hne
      exact hmixed ⟨by simpa using hne, .inl nofun⟩
    obtain rfl : right = [] := by
      by_contra hne
      exact hboth ⟨nofun, by simpa using hne⟩
    cases validateHandObservationSet .left (packet :: rest) <;> rfl

end HtsCanonicalAssembler

/-! ## Packets of the parser -/

section Valid

variable [HtsFloat δ]

/-- What the parser has checked of a packet. -/
def Valid (packet : HtsPacket δ) : Prop :=
  packet.values.all isFinite = true ∧
    if packet.isLandmarks then packet.values.length = htsLandmarkCount * 3
    else packet.values.length = 7 ∧ normRejected (quaternionNorm (packet.values.drop 3)) = false

instance (packet : HtsPacket δ) : Decidable (Valid packet) := by
  unfold Valid
  infer_instance

end Valid

/-! ## Hands -/

/-- The packets of a hand that passed `_validate_hand_observation_set`: a wrist and its
    landmarks, in either order, that do not disagree on their numbers. -/
theorem pair_of_validate {side : HandSide} {observations : List (HtsPacket δ)}
    (hside : ∀ packet ∈ observations, packet.side? = some side)
    (h : validateHandObservationSet side observations = .ok ()) :
    ∃ wrist landmarks, wrist.header.kind = .wrist side ∧ landmarks.header.kind = .landmarks side ∧
      (observations = [wrist, landmarks] ∨ observations = [landmarks, wrist]) ∧
      ∀ a b, wrist.header.sourceSequence = some a → landmarks.header.sourceSequence = some b →
        a = b := by
  unfold validateHandObservationSet at h
  dsimp only at h
  by_cases hcount : (observations.filter HtsPacket.isWrist).length ≠ 1 ∨
      (observations.filter HtsPacket.isLandmarks).length ≠ 1
  · rw [if_pos hcount] at h
    exact absurd h nofun
  rw [if_neg hcount] at h
  by_cases hunpaired : 1 < (observations.filterMap fun packet =>
        packet.header.sourceSequence).dedup.length ∨
      1 < (observations.filterMap fun packet => packet.header.sourceTimestampNs).dedup.length
  · rw [if_pos hunpaired] at h
    exact absurd h nofun
  obtain ⟨hwrists, hlandmarks⟩ := not_or.mp hcount
  rw [not_ne_iff] at hwrists hlandmarks
  have hkind : ∀ packet ∈ observations,
      packet.header.kind = .wrist side ∨ packet.header.kind = .landmarks side := by
    intro packet hpacket
    have hside := hside packet hpacket
    unfold HtsPacket.side? at hside
    cases hkind : packet.header.kind with
    | wrist other =>
      rw [hkind] at hside
      exact .inl (congrArg HtsKind.wrist (Option.some.inj hside))
    | landmarks other =>
      rw [hkind] at hside
      exact .inr (congrArg HtsKind.landmarks (Option.some.inj hside))
    | headPose =>
      rw [hkind] at hside
      exact absurd hside nofun
  have hsplit : observations.filter HtsPacket.isLandmarks =
      observations.filter fun packet => !packet.isWrist := by
    refine List.filter_congr fun packet hpacket => ?_
    unfold HtsPacket.isLandmarks HtsPacket.isWrist
    rcases hkind packet hpacket with h | h <;> rw [h] <;> rfl
  have hlength := List.length_eq_length_filter_add (l := observations) HtsPacket.isWrist
  rw [hwrists, ← hsplit, hlandmarks] at hlength
  obtain ⟨first, second, rfl⟩ := List.length_eq_two.mp hlength
  have hpaired : ∀ a b, first.header.sourceSequence = some a →
      second.header.sourceSequence = some b → a = b := by
    intro a b ha hb
    by_contra hne
    refine hunpaired (.inl ?_)
    simp [ha, hb, hne]
  rcases hkind first List.mem_cons_self with hfirst | hfirst <;>
    rcases hkind second (List.mem_cons_of_mem _ List.mem_cons_self) with hsecond | hsecond
  · simp [HtsPacket.isWrist, hfirst, hsecond] at hwrists
  · exact ⟨first, second, hfirst, hsecond, .inl rfl, hpaired⟩
  · exact ⟨second, first, hsecond, hfirst, .inr rfl, fun a b ha hb => (hpaired b a hb ha).symm⟩
  · simp [HtsPacket.isWrist, hfirst, hsecond] at hwrists

/-! ## Sessions -/

section Session

variable [HtsFloat δ]

variable (δ) in
/-- A call of `ingest` with the packets of a datagram. -/
structure IngestCall where
  packets : List { packet : HtsPacket δ // Valid packet }
  receiveMonotonicNs : ℤ
  metadata : String × ℤ

/-- The packets. -/
def IngestCall.lines (c : IngestCall δ) : List (HtsPacket δ) := c.packets.map Subtype.val

/-- The packets of a hand. -/
def IngestCall.observations (c : IngestCall δ) (side : HandSide) : List (HtsPacket δ) :=
  c.lines.filter fun packet => packet.side? == some side

/-- The sequence number of the packets of a hand. -/
def IngestCall.number (c : IngestCall δ) (side : HandSide) : Option ℕ :=
  firstNotNone ((c.observations side).map fun packet => packet.header.sourceSequence)

variable (δ) in
/-- An assembler with what it published and the calls it accepted, newest first. -/
structure Session where
  assembler : HtsCanonicalAssembler δ
  published : List (CanonicalQuestState δ) := []
  accepted : List (IngestCall δ) := []

namespace Session

/-- `ingest`, as the session sees it. -/
def ingest (s : Session δ) (c : IngestCall δ) :
    Except HtsCanonicalAssembler.IngestError (CanonicalQuestState δ) × HtsCanonicalAssembler δ :=
  s.assembler.ingest c.lines c.receiveMonotonicNs c.metadata

/-- A call of `ingest`. -/
def call (s : Session δ) (c : IngestCall δ) : Session δ :=
  match s.ingest c with
  | (.error _, assembler) => { s with assembler }
  | (.ok state, assembler) => ⟨assembler, state :: s.published, c :: s.accepted⟩

end Session

/-- The last accepted datagram for a hand. -/
def lastFor (side : HandSide) (accepted : List (IngestCall δ)) : Option (IngestCall δ) :=
  accepted.find? fun c => !(c.observations side).isEmpty

/-! ### What the caches hold -/

/-- A wrist and its landmarks are the packets of a hand in a call. -/
structure Pair (side : HandSide) (c : IngestCall δ) (wrist landmarks : HtsPacket δ) : Prop where
  wristMem : wrist ∈ c.observations side
  landmarksMem : landmarks ∈ c.observations side
  wristKind : wrist.header.kind = .wrist side
  landmarksKind : landmarks.header.kind = .landmarks side
  number : c.number side =
    firstNotNone [wrist.header.sourceSequence, landmarks.header.sourceSequence]

/-- What the cache of a hand holds of the last accepted datagram for it. -/
def CacheOf (side : HandSide) (cache : HandCache δ) : Option (IngestCall δ) → Prop
  | none => cache = {}
  | some c => ∃ wrist landmarks hostSequence, Pair side c wrist landmarks ∧
      cache = ⟨some wrist, some landmarks, some c.receiveMonotonicNs, hostSequence⟩

/-- What the caches hold. -/
structure Session.Holds (s : Session δ) : Prop where
  hands : ∀ side, CacheOf side (s.assembler.hands side) (lastFor side s.accepted)
  head : ∀ cache, s.assembler.head = some cache →
    Valid cache.packet ∧ cache.packet.isLandmarks = false

theorem IngestCall.valid_of_mem {c : IngestCall δ} {packet : HtsPacket δ}
    (h : packet ∈ c.lines) : Valid packet := by
  obtain ⟨checked, -, rfl⟩ := List.mem_map.mp h
  exact checked.2

theorem IngestCall.side_of_mem {c : IngestCall δ} {side : HandSide} {packet : HtsPacket δ}
    (h : packet ∈ c.observations side) : packet.side? = some side :=
  eq_of_beq (List.mem_filter.mp h).2

theorem firstNotNone_pair (a b : Option ℕ) (h : ∀ x y, a = some x → b = some y → x = y) :
    firstNotNone [a, b] = firstNotNone [b, a] := by
  cases a with
  | none => cases b <;> rfl
  | some x =>
    cases b with
    | none => rfl
    | some y => rw [h x y rfl rfl]

/-- **The writes of a hand**: the cache holds the pair. -/
theorem writeHand_cache (a : HtsCanonicalAssembler δ) {c : IngestCall δ} {side : HandSide}
    (h : validateHandObservationSet side (c.observations side) = .ok ()) :
    CacheOf side ((a.writeHand side (c.observations side) c.receiveMonotonicNs).hands side)
      (some c) := by
  obtain ⟨wrist, landmarks, hwrist, hlandmarks, hpair, hnumbers⟩ :=
    pair_of_validate (fun packet hpacket => c.side_of_mem hpacket) h
  have hstored : ∀ cache : HandCache δ, (c.observations side).foldl HandCache.store cache =
      { cache with wrist := some wrist, landmarks := some landmarks } := by
    intro cache
    rcases hpair with hpair | hpair <;> rw [hpair] <;>
      simp [HandCache.store, hwrist, hlandmarks]
  have hcache : (a.writeHand side (c.observations side) c.receiveMonotonicNs).hands side =
      ⟨some wrist, some landmarks, some c.receiveMonotonicNs,
        some (a.hostHandSequences side)⟩ := by
    show Function.update a.hands side _ side = _
    rw [Function.update_self, hstored]
  refine ⟨wrist, landmarks, some (a.hostHandSequences side), ⟨?_, ?_, hwrist, hlandmarks, ?_⟩,
    hcache⟩
  · rcases hpair with hpair | hpair <;> rw [hpair] <;> simp
  · rcases hpair with hpair | hpair <;> rw [hpair] <;> simp
  · unfold IngestCall.number
    rcases hpair with hpair | hpair <;> rw [hpair]
    · rfl
    · exact (firstNotNone_pair _ _ hnumbers).symm

omit [HtsFloat δ] in
theorem writeHand_other (a : HtsCanonicalAssembler δ) {side other : HandSide}
    (hne : other ≠ side) (observations : List (HtsPacket δ)) (receiveMonotonicNs : ℤ) :
    (a.writeHand side observations receiveMonotonicNs).hands other = a.hands other :=
  Function.update_of_ne hne _ _

/-- What the checks say of the packets of the hands. -/
theorem hands_of_check {c : IngestCall δ}
    (h : checkObservation c.lines c.receiveMonotonicNs = .ok ()) :
    ((c.observations .left).isEmpty = true ∨ (c.observations .right).isEmpty = true) ∧
      ∀ side, (c.observations side).isEmpty = false →
        validateHandObservationSet side (c.observations side) = .ok () := by
  unfold checkObservation at h
  dsimp only at h
  have hleft : c.lines.filter (fun packet => packet.side? == some HandSide.left) =
      c.observations .left := rfl
  have hright : c.lines.filter (fun packet => packet.side? == some HandSide.right) =
      c.observations .right := rfl
  rw [hleft, hright] at h
  by_cases hreceive : c.receiveMonotonicNs < 0
  · rw [if_pos hreceive] at h
    exact absurd h nofun
  rw [if_neg hreceive] at h
  by_cases hduplicate : 1 < (c.lines.filter fun packet => packet.side?.isNone).length
  · rw [if_pos hduplicate] at h
    exact absurd h nofun
  rw [if_neg hduplicate] at h
  by_cases hmixed : ¬(c.lines.filter fun packet => packet.side?.isNone).isEmpty ∧
      (¬(c.observations .left).isEmpty ∨ ¬(c.observations .right).isEmpty)
  · rw [if_pos hmixed] at h
    exact absurd h nofun
  rw [if_neg hmixed] at h
  by_cases hboth : ¬(c.observations .left).isEmpty ∧ ¬(c.observations .right).isEmpty
  · rw [if_pos hboth] at h
    exact absurd h nofun
  rw [if_neg hboth] at h
  have hone : (c.observations .left).isEmpty = true ∨ (c.observations .right).isEmpty = true := by
    by_contra hnone
    exact hboth (not_or.mp hnone)
  refine ⟨hone, fun side hsome => ?_⟩
  cases side with
  | left =>
    rw [if_pos (by simp [hsome])] at h
    exact h
  | right =>
    have hempty := hone.resolve_right (by simp [hsome])
    rw [if_neg (by simp [hempty]), if_pos (by simp [hsome])] at h
    exact h

omit [HtsFloat δ] in
theorem writeHeads_hands (a : HtsCanonicalAssembler δ) (heads : List (HtsPacket δ))
    (receiveMonotonicNs : ℤ) : (a.writeHeads heads receiveMonotonicNs).hands = a.hands := by
  cases heads <;> rfl

omit [HtsFloat δ] in
theorem writeSide_other (a : HtsCanonicalAssembler δ) {side other : HandSide}
    (hne : other ≠ side) (observations : List (HtsPacket δ)) (receiveMonotonicNs : ℤ) :
    (a.writeSide side observations receiveMonotonicNs).hands other = a.hands other := by
  unfold HtsCanonicalAssembler.writeSide
  split_ifs
  · rfl
  · exact writeHand_other a hne observations receiveMonotonicNs

/-- **The writes of an accepted datagram.** -/
theorem write_hands (a : HtsCanonicalAssembler δ) {c : IngestCall δ}
    (h : checkObservation c.lines c.receiveMonotonicNs = .ok ()) (side : HandSide) :
    ((c.observations side).isEmpty = true →
      (a.write c.lines c.receiveMonotonicNs).hands side = a.hands side) ∧
    ((c.observations side).isEmpty = false →
      CacheOf side ((a.write c.lines c.receiveMonotonicNs).hands side) (some c)) := by
  obtain ⟨hone, hvalid⟩ := hands_of_check h
  have hwrite : a.write c.lines c.receiveMonotonicNs =
      ((a.writeHeads (c.lines.filter fun packet => packet.side?.isNone)
        c.receiveMonotonicNs).writeSide .left (c.observations .left)
          c.receiveMonotonicNs).writeSide .right (c.observations .right)
            c.receiveMonotonicNs := rfl
  rw [hwrite]
  have hheads := writeHeads_hands a (c.lines.filter fun packet => packet.side?.isNone)
    c.receiveMonotonicNs
  generalize a.writeHeads (c.lines.filter fun packet => packet.side?.isNone)
    c.receiveMonotonicNs = headed at hheads
  cases side with
  | left =>
    rw [writeSide_other _ (show HandSide.left ≠ .right by decide)]
    unfold HtsCanonicalAssembler.writeSide
    refine ⟨fun hempty => ?_, fun hsome => ?_⟩
    · rw [if_pos hempty, hheads]
    · rw [if_neg (by simp [hsome])]
      exact writeHand_cache headed (hvalid .left hsome)
  | right =>
    refine ⟨fun hempty => ?_, fun hsome => ?_⟩
    · rw [HtsCanonicalAssembler.writeSide, if_pos hempty,
        writeSide_other _ (show HandSide.right ≠ .left by decide), hheads]
    · rw [HtsCanonicalAssembler.writeSide, if_neg (by simp [hsome])]
      exact writeHand_cache _ (hvalid .right hsome)

variable {a : HtsCanonicalAssembler δ}

omit [HtsFloat δ] in
theorem write_head {packets : List (HtsPacket δ)}
    {receiveMonotonicNs : ℤ} {cache : HeadCache δ}
    (h : (a.write packets receiveMonotonicNs).head = some cache) :
    a.head = some cache ∨ cache.packet ∈ packets ∧ cache.packet.side? = none := by
  have hside : ∀ (a : HtsCanonicalAssembler δ) (side : HandSide)
      (observations : List (HtsPacket δ)) (receiveMonotonicNs : ℤ),
      (a.writeSide side observations receiveMonotonicNs).head = a.head := by
    intro a side observations receiveMonotonicNs
    unfold HtsCanonicalAssembler.writeSide
    split_ifs <;> rfl
  unfold HtsCanonicalAssembler.write at h
  rw [hside, hside] at h
  cases hheads : packets.filter fun packet => packet.side?.isNone with
  | nil =>
    rw [hheads] at h
    exact .inl h
  | cons packet rest =>
    rw [hheads] at h
    obtain rfl : (⟨packet, receiveMonotonicNs⟩ : HeadCache δ) = cache := Option.some.inj h
    obtain ⟨hmem, hnone⟩ := List.mem_filter.mp (hheads ▸ List.mem_cons_self)
    exact .inr ⟨hmem, Option.isNone_iff_eq_none.mp hnone⟩

variable (δ) in
/-- The pose of a wrist or head packet that passed the parser can be assembled. -/
def PosesSucceed : Prop :=
  ∀ packet : HtsPacket δ, Valid packet → packet.isLandmarks = false →
    ∃ pose, packetPose packet = .ok pose

/-- What a valid hand is made of: the wrist and the landmarks of one datagram. -/
structure MadeOf (side : HandSide) (c : IngestCall δ) (hand : QuestHandObservation δ)
    (wrist landmarks : HtsPacket δ) : Prop where
  pair : Pair side c wrist landmarks
  pose : ∃ pose, packetPose wrist = .ok pose ∧ hand.wristPose = some pose
  joints : hand.joints.map QuestJointObservation.positionM =
    (points landmarks.values).map unityToOpenxrPosition
  names : hand.joints.map QuestJointObservation.name = htsJointNames
  hostReceiveMonotonicNs : hand.hostReceiveMonotonicNs = some c.receiveMonotonicNs

theorem handObservation_spec (hposes : PosesSucceed δ)
    {side : HandSide} {last : Option (IngestCall δ)} (h : CacheOf side (a.hands side) last)
    (nowNs : ℤ) : ∃ hand, a.handObservation side nowNs = .ok hand ∧
      hand.sourceSequenceNumber = last.bind (fun c => c.number side) ∧
      (hand.trackingValid = true → ∃ c wrist landmarks, last = some c ∧
        MadeOf side c hand wrist landmarks) := by
  cases last with
  | none =>
    have hcache : a.hands side = {} := h
    unfold HtsCanonicalAssembler.handObservation
    rw [hcache]
    exact ⟨_, rfl, rfl, nofun⟩
  | some c =>
    obtain ⟨wrist, landmarks, hostSequence, hpair, hcache⟩ := h
    have hvalid : Valid wrist := c.valid_of_mem (List.mem_filter.mp hpair.wristMem).1
    have hnot : wrist.isLandmarks = false := by
      unfold HtsPacket.isLandmarks
      rw [hpair.wristKind]
    obtain ⟨pose, hpose⟩ := hposes wrist hvalid hnot
    have hlengths : htsJointNames.length = (points landmarks.values).length := by
      rw [points, List.length_map, List.length_range]
      rfl
    unfold HtsCanonicalAssembler.handObservation
    rw [hcache]
    dsimp only
    rw [hpose]
    dsimp only
    rw [if_neg (not_ne_iff.mpr hlengths)]
    split_ifs
    · refine ⟨_, rfl, hpair.number.symm, fun _ => ⟨c, wrist, landmarks, rfl, hpair,
        ⟨pose, hpose, rfl⟩, ?_, ?_, rfl⟩⟩
      · dsimp only
        rw [List.map_zipWith, ← List.map_uncurry_zip_eq_zipWith]
        show (List.zip _ _).map (unityToOpenxrPosition ∘ Prod.snd) = _
        rw [← List.map_map, List.map_snd_zip hlengths.ge]
      · dsimp only
        rw [List.map_zipWith, ← List.map_uncurry_zip_eq_zipWith]
        exact List.map_fst_zip hlengths.le
    · exact ⟨_, rfl, hpair.number.symm, nofun⟩

theorem headObservation_ok (hposes : PosesSucceed δ)
    (h : ∀ cache, a.head = some cache → Valid cache.packet ∧ cache.packet.isLandmarks = false)
    (nowNs : ℤ) : ∃ head, a.headObservation nowNs = .ok head := by
  unfold HtsCanonicalAssembler.headObservation
  cases hhead : a.head with
  | none => exact ⟨none, rfl⟩
  | some cache =>
    obtain ⟨hvalid, hnot⟩ := h cache hhead
    obtain ⟨pose, hpose⟩ := hposes cache.packet hvalid hnot
    dsimp only
    rw [hpose]
    split_ifs
    · exact ⟨_, rfl⟩
    · exact ⟨_, rfl⟩

/-- What a snapshot shows of the hands. -/
def Shows (accepted : List (IngestCall δ)) (state : CanonicalQuestState δ) : Prop :=
  ∀ side, (state.hand side).sourceSequenceNumber =
      (lastFor side accepted).bind (fun c => c.number side) ∧
    ((state.hand side).trackingValid = true → ∃ c wrist landmarks, lastFor side accepted = some c ∧
      MadeOf side c (state.hand side) wrist landmarks)

theorem Session.Holds.state {s : Session δ} (hposes : PosesSucceed δ) (h : s.Holds) (nowNs : ℤ)
    (metadata : Option (String × ℤ)) :
    ∃ state, s.assembler.state nowNs metadata = .ok state ∧ Shows s.accepted state := by
  obtain ⟨left, hleft, hleftShows⟩ := handObservation_spec hposes (h.hands .left) nowNs
  obtain ⟨right, hright, hrightShows⟩ := handObservation_spec hposes (h.hands .right) nowNs
  obtain ⟨head, hhead⟩ := headObservation_ok hposes h.head nowNs
  unfold HtsCanonicalAssembler.state
  rw [hleft, hright, hhead]
  refine ⟨_, rfl, fun side => ?_⟩
  cases side with
  | left => exact hleftShows
  | right => exact hrightShows

/-! ### Calls -/

theorem lastFor_cons (side : HandSide) (c : IngestCall δ) (accepted : List (IngestCall δ)) :
    lastFor side (c :: accepted) =
      if (c.observations side).isEmpty then lastFor side accepted else some c := by
  unfold lastFor
  rw [List.find?_cons]
  cases (c.observations side).isEmpty <;> rfl

/-- The caches after an accepted datagram. -/
theorem Session.Holds.write {s : Session δ} (h : s.Holds) {c : IngestCall δ}
    (hcheck : checkObservation c.lines c.receiveMonotonicNs = .ok ())
    (published : List (CanonicalQuestState δ)) (snapshotSequence : ℕ) :
    Session.Holds ⟨{ s.assembler.write c.lines c.receiveMonotonicNs with snapshotSequence },
      published, c :: s.accepted⟩ where
  hands side := by
    obtain ⟨hempty, hsome⟩ := write_hands s.assembler hcheck side
    show CacheOf side ((s.assembler.write c.lines c.receiveMonotonicNs).hands side)
      (lastFor side (c :: s.accepted))
    rw [lastFor_cons]
    cases hobservations : (c.observations side).isEmpty with
    | true =>
      rw [if_pos rfl, hempty hobservations]
      exact h.hands side
    | false =>
      rw [if_neg Bool.false_ne_true]
      exact hsome hobservations
  head cache hcache := by
    rcases write_head hcache with hold | ⟨hmem, hside⟩
    · exact h.head cache hold
    · refine ⟨c.valid_of_mem hmem, ?_⟩
      unfold HtsPacket.side? at hside
      unfold HtsPacket.isLandmarks
      cases hkind : cache.packet.header.kind with
      | landmarks side => rw [hkind] at hside; exact absurd hside nofun
      | wrist side => rfl
      | headPose => rfl

/-- **A call of `ingest`**: it raises and leaves everything as it was, or it publishes the state
    of the assembler after it. -/
theorem Session.call_cases {s : Session δ} (hposes : PosesSucceed δ) (h : s.Holds)
    (c : IngestCall δ) :
    (∃ error, s.ingest c = (.error error, s.assembler)) ∧ s.call c = s ∨
      ∃ state after, s.ingest c = (.ok state, after) ∧
        s.call c = ⟨after, state :: s.published, c :: s.accepted⟩ ∧ (s.call c).Holds ∧
        after.state c.receiveMonotonicNs (some c.metadata) = .ok state ∧
        Shows (c :: s.accepted) state := by
  have hingest : s.ingest c = _ := HtsCanonicalAssembler.ingest_eq ..
  cases hcheck : checkObservation c.lines c.receiveMonotonicNs with
  | error error =>
    rw [hcheck] at hingest
    refine .inl ⟨⟨_, hingest⟩, ?_⟩
    unfold Session.call
    rw [hingest]
  | ok =>
    rw [hcheck] at hingest
    have hholds := h.write hcheck s.published
      ((s.assembler.write c.lines c.receiveMonotonicNs).snapshotSequence + 1)
    obtain ⟨state, hstate, hshows⟩ := hholds.state hposes c.receiveMonotonicNs (some c.metadata)
    have hpublish : s.ingest c = (.ok state,
        { s.assembler.write c.lines c.receiveMonotonicNs with
          snapshotSequence :=
            (s.assembler.write c.lines c.receiveMonotonicNs).snapshotSequence + 1 }) := by
      rw [hingest]
      unfold HtsCanonicalAssembler.publish
      dsimp only at hstate ⊢
      rw [hstate]
      rfl
    have hcall : s.call c = ⟨{ s.assembler.write c.lines c.receiveMonotonicNs with
          snapshotSequence :=
            (s.assembler.write c.lines c.receiveMonotonicNs).snapshotSequence + 1 },
        state :: s.published, c :: s.accepted⟩ := by
      unfold Session.call
      rw [hpublish]
    refine .inr ⟨state, _, hpublish, hcall, ?_, hstate, hshows⟩
    rw [hcall]
    exact ⟨hholds.hands, hholds.head⟩

theorem Session.Holds.call {s : Session δ} (hposes : PosesSucceed δ) (h : s.Holds)
    (c : IngestCall δ) : (s.call c).Holds := by
  rcases Session.call_cases hposes h c with ⟨-, hsame⟩ | ⟨state, after, -, -, hholds, -⟩
  · rwa [hsame]
  · exact hholds

theorem Session.holds_init (staleAfterNs : ℤ) :
    Session.Holds (⟨{ staleAfterNs }, [], []⟩ : Session δ) where
  hands _ := rfl
  head _ h := nomatch h

/-! ### The published numbers -/

/-- The sequence numbers that were published for a hand, newest first. -/
def Session.publishedNumbers (s : Session δ) (side : HandSide) : List ℕ :=
  s.published.filterMap fun state => (state.hand side).sourceSequenceNumber

/-- The sequence numbers of the accepted datagrams for a hand, newest first. -/
def Session.acceptedNumbers (s : Session δ) (side : HandSide) : List ℕ :=
  s.accepted.filterMap fun c => c.number side

/-- Numbers, newest first, that never decrease. -/
def NeverDecrease (numbers : List ℕ) : Prop := numbers.Pairwise fun newer older => older ≤ newer

theorem neverDecrease_repeat {n : ℕ} {older : List ℕ} :
    NeverDecrease (n :: n :: older) ↔ NeverDecrease (n :: older) := by
  unfold NeverDecrease
  refine ⟨fun hpair => (List.pairwise_cons.mp hpair).2, fun hpair => ?_⟩
  refine List.pairwise_cons.mpr ⟨List.forall_mem_cons.mpr ⟨le_rfl, ?_⟩, hpair⟩
  exact (List.pairwise_cons.mp hpair).1

theorem neverDecrease_cons_congr {xs ys : List ℕ} (hmem : ∀ n, n ∈ xs ↔ n ∈ ys)
    (h : NeverDecrease xs ↔ NeverDecrease ys) (n : ℕ) :
    NeverDecrease (n :: xs) ↔ NeverDecrease (n :: ys) := by
  unfold NeverDecrease at h ⊢
  rw [List.pairwise_cons, List.pairwise_cons, h]
  refine and_congr_left' ⟨fun hall m hm => ?_, fun hall m hm => ?_⟩
  · exact hall m ((hmem m).mpr hm)
  · exact hall m ((hmem m).mp hm)

/-- How the published numbers follow the accepted ones. -/
structure Session.Follows (s : Session δ) (side : HandSide) : Prop where
  mem : ∀ n, n ∈ s.publishedNumbers side ↔ n ∈ s.acceptedNumbers side
  neverDecrease : NeverDecrease (s.publishedNumbers side) ↔ NeverDecrease (s.acceptedNumbers side)
  last : ∀ n, (lastFor side s.accepted).bind (fun c => c.number side) = some n →
    ∃ older, s.publishedNumbers side = n :: older

section Follows

variable {s s' : Session δ} {side : HandSide} {c : IngestCall δ}

/-- A snapshot after a datagram for something else repeats the number of the hand. -/
theorem Session.Follows.repeats (h : s.Follows side)
    (hlast : lastFor side s'.accepted = lastFor side s.accepted)
    (hpublished : s'.publishedNumbers side =
      ((lastFor side s.accepted).bind fun c => c.number side).toList ++ s.publishedNumbers side)
    (haccepted : s'.acceptedNumbers side = s.acceptedNumbers side) : s'.Follows side := by
  cases hcurrent : (lastFor side s.accepted).bind fun c => c.number side with
  | none =>
    rw [hcurrent] at hpublished
    refine ⟨fun n => ?_, ?_, fun n hn => ?_⟩
    · rw [hpublished, haccepted]
      exact h.mem n
    · rw [hpublished, haccepted]
      exact h.neverDecrease
    · rw [hlast, hcurrent] at hn
      exact absurd hn nofun
  | some current =>
    obtain ⟨older, holder⟩ := h.last current hcurrent
    rw [hcurrent, holder] at hpublished
    refine ⟨fun n => ?_, ?_, fun n hn => ?_⟩
    · rw [hpublished, haccepted]
      show n ∈ current :: current :: older ↔ n ∈ s.acceptedNumbers side
      rw [← h.mem, holder]
      simp
    · rw [hpublished, haccepted]
      show NeverDecrease (current :: current :: older) ↔ NeverDecrease (s.acceptedNumbers side)
      rw [← h.neverDecrease, holder]
      exact neverDecrease_repeat
    · rw [hlast, hcurrent] at hn
      rw [hpublished, ← Option.some.inj hn]
      exact ⟨_, rfl⟩

/-- A snapshot after a datagram for the hand publishes its number. -/
theorem Session.Follows.next (h : s.Follows side) (hlast : lastFor side s'.accepted = some c)
    (hpublished : s'.publishedNumbers side = (c.number side).toList ++ s.publishedNumbers side)
    (haccepted : s'.acceptedNumbers side = (c.number side).toList ++ s.acceptedNumbers side) :
    s'.Follows side := by
  refine ⟨fun n => ?_, ?_, fun n hn => ?_⟩
  · rw [hpublished, haccepted, List.mem_append, List.mem_append, h.mem]
  · rw [hpublished, haccepted]
    cases c.number side with
    | none => exact h.neverDecrease
    | some number => exact neverDecrease_cons_congr h.mem h.neverDecrease number
  · rw [hlast] at hn
    have hn : c.number side = some n := hn
    rw [hpublished, hn]
    exact ⟨_, rfl⟩

end Follows

theorem Session.Follows.call {s : Session δ} (hposes : PosesSucceed δ) (hholds : s.Holds)
    {side : HandSide} (h : s.Follows side) (c : IngestCall δ) : (s.call c).Follows side := by
  rcases Session.call_cases hposes hholds c with
    ⟨-, hsame⟩ | ⟨state, after, -, hcall, -, -, hshows⟩
  · rwa [hsame]
  obtain ⟨hnumber, -⟩ := hshows side
  rw [hcall]
  have hpublished : Session.publishedNumbers ⟨after, state :: s.published, c :: s.accepted⟩ side =
      ((lastFor side (c :: s.accepted)).bind fun c => c.number side).toList ++
        s.publishedNumbers side := by
    unfold Session.publishedNumbers
    rw [List.filterMap_cons, hnumber]
    cases (lastFor side (c :: s.accepted)).bind fun c => c.number side <;> rfl
  have haccepted : Session.acceptedNumbers ⟨after, state :: s.published, c :: s.accepted⟩ side =
      (c.number side).toList ++ s.acceptedNumbers side := by
    unfold Session.acceptedNumbers
    rw [List.filterMap_cons]
    cases c.number side <;> rfl
  cases hobservations : (c.observations side).isEmpty with
  | true =>
    have hlast : lastFor side (c :: s.accepted) = lastFor side s.accepted := by
      rw [lastFor_cons, if_pos hobservations]
    have hnone : c.number side = none := by
      unfold IngestCall.number
      rw [List.isEmpty_iff.mp hobservations]
      rfl
    rw [hlast] at hpublished
    rw [hnone] at haccepted
    exact h.repeats hlast hpublished haccepted
  | false =>
    have hlast : lastFor side (c :: s.accepted) = some c := by
      rw [lastFor_cons, if_neg (by simp [hobservations])]
    rw [hlast] at hpublished
    exact h.next hlast hpublished haccepted

theorem Session.follows_init (staleAfterNs : ℤ) (side : HandSide) :
    Session.Follows (⟨{ staleAfterNs }, [], []⟩ : Session δ) side where
  mem _ := Iff.rfl
  neverDecrease := Iff.rfl
  last n h := by
    have hnone : (none : Option ℕ) = some n := h
    exact absurd hnone nofun

theorem Session.holds_run (hposes : PosesSucceed δ) (staleAfterNs : ℤ)
    (calls : List (IngestCall δ)) :
    (run Session.call (⟨{ staleAfterNs }, [], []⟩ : Session δ) calls).Holds ∧
      ∀ side, (run Session.call (⟨{ staleAfterNs }, [], []⟩ : Session δ) calls).Follows side :=
  run_invariant (P := fun s : Session δ => s.Holds ∧ ∀ side, s.Follows side)
    (fun _ c h => ⟨h.1.call hposes c, fun side => (h.2 side).call hposes h.1 c⟩)
    ⟨Session.holds_init staleAfterNs, Session.follows_init staleAfterNs⟩ calls

end Session

/-! ## Exact arithmetic -/

section Real

/-- Exact real arithmetic. -/
noncomputable abbrev realHtsFloat : HtsFloat ℝ where
  ofText text := (decimal? text).map fun value : ℚ => (value : ℝ)
  sum := List.sum

attribute [local instance] realHtsFloat

theorem quaternionNorm_real (x y z w : ℝ) :
    quaternionNorm [x, y, z, w] = Real.sqrt (x * x + (y * y + (z * z + w * w))) := by
  show Real.sqrt ([x * x, y * y, z * z, w * w].sum) = _
  simp

theorem quaternionNorm_div {x y z w n : ℝ} (hn : 0 < n)
    (h : quaternionNorm [x, y, z, w] = n) {a b : ℝ} (ha : a * a = x / n * (x / n))
    (hb : b * b = y / n * (y / n)) : quaternionNorm [a, b, z / n, w / n] = 1 := by
  rw [quaternionNorm_real] at h ⊢
  have hsquare : x * x + (y * y + (z * z + w * w)) = n * n := by
    rw [← h, Real.mul_self_sqrt]
    exact add_nonneg (mul_self_nonneg x) (add_nonneg (mul_self_nonneg y)
      (add_nonneg (mul_self_nonneg z) (mul_self_nonneg w)))
  have hone : a * a + (b * b + (z / n * (z / n) + w / n * (w / n))) = 1 := by
    rw [ha, hb]
    field_simp
    linarith
  rw [hone, Real.sqrt_one]

theorem makePose_real {position orientation : List ℝ} (hposition : position.length = 3)
    (horientation : orientation.length = 4) (hnorm : quaternionNorm orientation = 1) :
    makePose position orientation = .ok ⟨position, orientation⟩ := by
  have hfinite : ∀ values : List ℝ, values.all isFinite = true := fun values =>
    List.all_eq_true.mpr fun _ _ => rfl
  unfold makePose
  rw [if_neg (by simp [hposition, hfinite]), if_neg (by simp [horientation, hfinite]), hnorm,
    if_neg]
  simp

/-- In exact arithmetic the poses can be assembled. -/
theorem posesSucceed_real : PosesSucceed ℝ := by
  intro packet hvalid hnot
  have hfinite : ∀ values : List ℝ, values.all isFinite = true := fun values =>
    List.all_eq_true.mpr fun _ _ => rfl
  obtain ⟨-, hpose⟩ := hvalid
  rw [if_neg (by simp [hnot])] at hpose
  obtain ⟨hlength, hnorm⟩ := hpose
  match hvalues : packet.values, hlength with
  | [p, q, r, x, y, z, w], _ =>
    rw [hvalues] at hnorm
    have hnorm : normRejected (quaternionNorm [x, y, z, w]) = false := hnorm
    generalize hn : quaternionNorm [x, y, z, w] = n at hnorm
    have hpositive : (1 / 10 ^ 12 : ℝ) < n := by
      unfold normRejected at hnorm
      have := (Bool.or_eq_false_iff.mp hnorm).1
      simpa using this
    have hn0 : 0 < n := lt_trans (by positivity) hpositive
    have hnormalized : normalizeQuaternion [x, y, z, w] = .ok [x / n, y / n, z / n, w / n] := by
      unfold normalizeQuaternion
      rw [if_neg (by simp [hfinite]), hn, if_neg]
      · rfl
      · simpa using hpositive
    have hunit := quaternionNorm_div hn0 hn rfl rfl
    have hreflected : quaternionNorm [-(x / n), -(y / n), z / n, w / n] = 1 :=
      quaternionNorm_div hn0 hn (neg_mul_neg _ _) (neg_mul_neg _ _)
    refine ⟨⟨[p, q, -r], [-(x / n), -(y / n), z / n, w / n]⟩, ?_⟩
    unfold packetPose canonicalPose
    rw [hvalues]
    show (normalizeQuaternion [x, y, z, w] >>= fun normalized =>
      makePose [p, q, r] normalized >>= unityToOpenxrPose) = _
    rw [hnormalized]
    show (makePose [p, q, r] [x / n, y / n, z / n, w / n] >>= unityToOpenxrPose) = _
    rw [makePose_real (show [p, q, r].length = 3 from rfl) rfl hunit]
    exact makePose_real (show [p, q, -r].length = 3 from rfl) rfl hreflected

/-- **Consistency** of the assembler in exact arithmetic, after any calls of `ingest`: a call that
    raises leaves everything as it was; a snapshot can be taken at any time, and a valid hand of
    it is made of one accepted datagram; what `ingest` returns is such a snapshot; and the
    published sequence number is that of the last accepted datagram of the hand, so that it never
    decreases exactly if the numbers of the accepted datagrams never do. -/
theorem assembler_consistent (staleAfterNs : ℤ) (calls : List (IngestCall ℝ)) :
    let s := run Session.call (⟨{ staleAfterNs }, [], []⟩ : Session ℝ) calls
    (∀ c error, (s.ingest c).1 = .error error → s.call c = s) ∧
    (∀ nowNs metadata, ∃ state, s.assembler.state nowNs metadata = .ok state ∧
      Shows s.accepted state) ∧
    (∀ c state, (s.ingest c).1 = .ok state → (s.call c).accepted = c :: s.accepted ∧
      (s.call c).assembler.state c.receiveMonotonicNs (some c.metadata) = .ok state) ∧
    ∀ side, NeverDecrease (s.publishedNumbers side) ↔ NeverDecrease (s.acceptedNumbers side) := by
  intro s
  obtain ⟨hholds, hfollows⟩ := Session.holds_run posesSucceed_real staleAfterNs calls
  refine ⟨fun c error herror => ?_, hholds.state posesSucceed_real, fun c state hstate => ?_,
    fun side => (hfollows side).neverDecrease⟩
  · rcases Session.call_cases posesSucceed_real hholds c with
      ⟨-, hsame⟩ | ⟨state, after, hingest, -⟩
    · exact hsame
    · rw [hingest] at herror
      exact absurd herror nofun
  · rcases Session.call_cases posesSucceed_real hholds c with
      ⟨⟨error, hingest⟩, -⟩ | ⟨published, after, hingest, hcall, -, hafter, -⟩
    · rw [hingest] at hstate
      exact absurd hstate nofun
    · rw [hingest] at hstate
      obtain rfl : published = state := Except.ok.inj hstate
      rw [hcall]
      exact ⟨rfl, hafter⟩

end Real

section Rational

attribute [local instance] exactHtsFloat

def restingWrist (number : ℕ) : HtsPacket ℚ :=
  ⟨⟨.wrist .left, some number, none, []⟩, [0, 1, 0, 0, 0, 0, 1], some 1⟩

def restingLandmarks (number : ℕ) : HtsPacket ℚ :=
  ⟨⟨.landmarks .left, some number, none, []⟩, List.replicate 63 0, none⟩

theorem restingWrist_valid (number : ℕ) : Valid (restingWrist number) := by
  have hnorm : normRejected (quaternionNorm ([0, 0, 0, 1] : List ℚ)) = false := by decide +kernel
  exact ⟨rfl, show _ ∧ _ from ⟨rfl, hnorm⟩⟩

theorem restingLandmarks_valid (number : ℕ) : Valid (restingLandmarks number) :=
  ⟨rfl, show (restingLandmarks number).values.length = _ from rfl⟩

/-- The left hand at rest, with a sequence number. -/
def restingHand (number : ℕ) : IngestCall ℚ where
  packets := [⟨restingWrist number, restingWrist_valid number⟩,
    ⟨restingLandmarks number, restingLandmarks_valid number⟩]
  receiveMonotonicNs := 0
  metadata := ("192.168.1.20", 0)

/-- Of two datagrams in the wrong order the second is published too. -/
theorem reordered_published :
    Session.publishedNumbers (run Session.call ⟨{ staleAfterNs := 250000000 }, [], []⟩
        [restingHand 2, restingHand 1]) .left = [1, 2] ∧
      ¬NeverDecrease (Session.publishedNumbers (run Session.call
        ⟨{ staleAfterNs := 250000000 }, [], []⟩ [restingHand 2, restingHand 1]) .left) := by
  have hnumbers : Session.publishedNumbers (run Session.call
      ⟨{ staleAfterNs := 250000000 }, [], []⟩ [restingHand 2, restingHand 1]) .left = [1, 2] := by
    decide +kernel
  refine ⟨hnumbers, ?_⟩
  rw [hnumbers]
  unfold NeverDecrease
  decide

end Rational

end HandLab.Quest.Canonical
