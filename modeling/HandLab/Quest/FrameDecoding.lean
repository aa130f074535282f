import HandLab.Quest.MotionProvider
import HandLab.Umip.Overflow

/-!
# Decoding a headset frame

`parse_quest_frame` (`src/motion_input/quest.py`, lines 315–411), with the decoders of a
sample for what is the same there. `OverflowError` is not among the exceptions that it
turns into `SerializationError`.

* `frameFromDict_overflows`: a document leaves the decoder by `OverflowError` exactly if
  it breaks (`FrameBreaks`).
* `parseQuestFrame_contained`: the payloads for which nothing else than
  `SerializationError` is raised.
-/

namespace HandLab.Quest

open HandLab.Lib HandLab.Episode HandLab.Umip

variable {δ : Type} [Python δ]

/-! ## `parse_quest_frame` -/

/-- `QUEST_WIRE_SCHEMA`. -/
def questWireSchema : String := "quest-hand-frame"

/-- `QUEST_WIRE_VERSION`. -/
def questWireVersion : String := "1.0"

/-- `value == text`. -/
def isText (text : String) : Json δ → Bool
  | .text other => decide (other = text)
  | .null | .bool _ | .int _ | .float _ | .list _ | .object _ => false

/-- The items of a value that is subscripted with a string. -/
def subscripted : Json δ → Except PyError (Record δ)
  | .object fields => .ok fields
  | .null | .bool _ | .int _ | .float _ | .text _ | .list _ => .error .typeError

/-- An item of `joints` in `_wire_articulation`. -/
def wireJoint (value : Json δ) : Except PyError (JointSample δ) := do
  let joint ← subscripted value
  let name ← pyStr (← getItem joint "name")
  let pose ← optional poseOf (getValue joint "pose")
  let trackingState ← trackingStateOf (← getItem joint "tracking_state")
  construct JointFields.check
    ⟨name, pose, trackingState, getValue joint "confidence", getValue joint "radius_m"⟩

/-- An item of `gestures` in `_wire_articulation`. -/
def wireGesture (value : Json δ) : Except PyError (GestureSample δ) := do
  let gesture ← subscripted value
  let name ← pyStr (← getItem gesture "name")
  let active ← getItem gesture "active"
  construct GestureFields.check
    ⟨name, pyBool active, getValue gesture "confidence", getValue gesture "value"⟩

/-- `_wire_articulation` of a value that is not `None`. -/
def wireArticulation (value : Json δ) : Except PyError (HandArticulation δ) := do
  let item ← mapping value
  let joints ← tupleOf wireJoint ((item.lookup "joints").getD (.list []))
  let gestures ← tupleOf wireGesture ((item.lookup "gestures").getD (.list []))
  construct ArticulationFields.check
    ⟨joints, gestures, getValue item "pinch_strength", getValue item "grasp_strength",
      getValue item "confidence"⟩

/-- The second `try` of `parse_quest_frame`. `_wire_timestamp` and `_wire_pose` are the
    decoders of a sample. -/
def frameFromDict (value : Record δ) : Except PyError (QuestFrame δ) :=
  Except.mapError PyError.wrapped do
    let schema ← getItem value "schema"
    raiseWhen (!isText questWireSchema schema) .serializationError
    let version ← pyStr (← getItem value "version")
    raiseWhen (decide (majorPart version ≠ majorPart questWireVersion)) .serializationError
    let trackingState ← trackingStateOf (← getItem value "tracking_state")
    let wristPose ← optional poseOf (getValue value "wrist_pose")
    let palmPose ← optional poseOf (getValue value "palm_pose")
    let articulation ← optional wireArticulation (getValue value "articulation")
    let side ← sideOf (← getItem value "side")
    raiseWhen (decide (side = .none)) .serializationError
    let metadata ← mapping ((value.lookup "metadata").getD (.object []))
    let sessionId ← pyStr (← getItem value "session_id")
    let streamId ← pyStr (← getItem value "stream_id")
    let sequenceNumber ← pyInt (← getItem value "sequence_number")
    let referenceSpace ← pyStr (← getItem value "reference_space")
    let basis ← pyStr (← getItem value "basis")
    let captureTimestamp ← timestampOf (← getItem value "capture_timestamp")
    let deviceTimestamp ← optional timestampOf (getValue value "device_timestamp")
    return {
      sessionId
      streamId
      sequenceNumber
      side
      referenceSpace
      basis
      captureTimestamp
      deviceTimestamp
      trackingState
      trackingConfidence := getValue value "tracking_confidence"
      wristPose
      palmPose
      articulation
      metadata }

/-- `parse_quest_frame`. -/
def parseQuestFrame (json : JsonModule δ) (payload : Payload) :
    Except PyError (QuestFrame δ) := do
  let value ← orRaise .serializationError (json.loads payload)
  frameFromDict (← mapping value)

theorem parseQuestFrame_object {json : JsonModule δ} {payload : Payload} {fields : Record δ}
    (h : json.loads payload = some (.object fields)) :
    parseQuestFrame json payload = frameFromDict fields := by
  unfold parseQuestFrame
  rw [h]
  rfl

/-! ### `OverflowError` -/

omit [Python δ] in
@[simp] theorem subscripted_overflows (value : Json δ) : ¬Overflows (subscripted value) := by
  cases value with
  | object fields => exact overflows_ok fields
  | _ => exact nofun

omit [Python δ] in
@[simp] theorem then_subscripted (value : Json δ) (p : Record δ → Prop) :
    Then (subscripted value) p ↔ Then (mapping value) p := by
  cases value with
  | object fields => exact Iff.rfl
  | _ => exact iff_of_false (fun ⟨_, h, _⟩ => nomatch h) fun ⟨_, h, _⟩ => nomatch h

theorem wireJoint_overflows (value : Json δ) : Overflows (wireJoint value) ↔ JointBreaks value := by
  unfold wireJoint JointBreaks
  simp [optionalPose_overflows, jointCheck_overflows]

theorem wireGesture_overflows (value : Json δ) :
    Overflows (wireGesture value) ↔ GestureBreaks value := by
  unfold wireGesture GestureBreaks
  simp [gestureCheck_overflows]

/-- Reading an articulation reaches a number too large. -/
def WireArticulationBreaks (value : Json δ) : Prop :=
  Then (mapping value) fun item =>
    let joints := (item.lookup "joints").getD (.list [])
    let gestures := (item.lookup "gestures").getD (.list [])
    ItemsBreak wireJoint JointBreaks joints ∨ Then (tupleOf wireJoint joints) fun js =>
      ItemsBreak wireGesture GestureBreaks gestures ∨
        Then (tupleOf wireGesture gestures) fun _ =>
          (js.map fun joint => joint.val.name).Nodup ∧
            (TooLarge (getValue item "pinch_strength") ∨
              Then (validateUnitInterval (getValue item "pinch_strength")) fun _ =>
                NumbersBreak (getValue item "grasp_strength") (getValue item "confidence"))

theorem wireArticulation_overflows (value : Json δ) :
    Overflows (wireArticulation value) ↔ WireArticulationBreaks value := by
  have hjoints (value : Json δ) : Overflows (tupleOf wireJoint value) ↔
      ItemsBreak wireJoint JointBreaks value :=
    overflows_tupleOf wireJoint_overflows (fun _ ⟨_, h, _⟩ => nomatch h) value
  have hgestures (value : Json δ) : Overflows (tupleOf wireGesture value) ↔
      ItemsBreak wireGesture GestureBreaks value :=
    overflows_tupleOf wireGesture_overflows (fun _ ⟨_, h, _⟩ => nomatch h) value
  unfold wireArticulation WireArticulationBreaks
  simp [hjoints, hgestures, articulationCheck_overflows]

/-- Reading a frame reaches an infinite float where an integer is read, or an integer
    beyond the finite floats where a float is read or validated, and has refused no value
    before. -/
def FrameBreaks (value : Record δ) : Prop :=
  Then (getItem value "schema") fun schema => isText questWireSchema schema = true ∧
    Then (getItem value "version") fun versionValue => Then (pyStr versionValue) fun version =>
    majorPart version = majorPart questWireVersion ∧
    Then (getItem value "tracking_state") fun state => Then (trackingStateOf state) fun _ =>
    (PoseBreaks (getValue value "wrist_pose") ∨
    Then (optional poseOf (getValue value "wrist_pose")) fun _ =>
    PoseBreaks (getValue value "palm_pose") ∨
    Then (optional poseOf (getValue value "palm_pose")) fun _ =>
    WireArticulationBreaks (getValue value "articulation") ∨
    Then (optional wireArticulation (getValue value "articulation")) fun _ =>
    Then (getItem value "side") fun sideValue => Then (sideOf sideValue) fun side =>
    side ≠ .none ∧
    Then (mapping ((value.lookup "metadata").getD (.object []))) fun _ =>
    Then (getItem value "session_id") fun session => Then (pyStr session) fun _ =>
    Then (getItem value "stream_id") fun stream => Then (pyStr stream) fun _ =>
    Then (getItem value "sequence_number") fun sequence =>
    Infinite sequence ∨ Then (pyInt sequence) fun _ =>
    Then (getItem value "reference_space") fun space => Then (pyStr space) fun _ =>
    Then (getItem value "basis") fun basis => Then (pyStr basis) fun _ =>
    Then (getItem value "capture_timestamp") fun capture =>
    TimestampBreaks capture ∨ Then (timestampOf capture) fun _ =>
    TimestampBreaks (getValue value "device_timestamp"))

theorem frameFromDict_overflows (value : Record δ) :
    Overflows (frameFromDict value) ↔ FrameBreaks value := by
  have harticulation (value : Json δ) : Overflows (optional wireArticulation value) ↔
      WireArticulationBreaks value :=
    overflows_optional wireArticulation_overflows (fun ⟨_, h, _⟩ => nomatch h) value
  have hreturn {α : Type} (a : α) : ¬Overflows (pure a : Except PyError α) := overflows_ok a
  unfold frameFromDict FrameBreaks
  simp [harticulation, timestampOf_overflows, optionalTimestamp_overflows, optionalPose_overflows,
    hreturn, -bind_pure_comp]

/-- Reading a document reaches such a number. -/
def FrameDocumentBreaks (value : Json δ) : Prop := Then (mapping value) FrameBreaks

theorem parseQuestFrame_overflows (json : JsonModule δ) (payload : Payload) :
    Overflows (parseQuestFrame json payload) ↔
      ∃ value, json.loads payload = some value ∧ FrameDocumentBreaks value := by
  unfold parseQuestFrame FrameDocumentBreaks
  cases json.loads payload with
  | none => exact iff_of_false nofun (by simp)
  | some value =>
    show Overflows (mapping value >>= frameFromDict) ↔ _
    simp [frameFromDict_overflows]

/-- No third exception leaves the decoder. -/
theorem parseQuestFrame_error {json : JsonModule δ} {payload : Payload} {e : PyError}
    (h : parseQuestFrame json payload = .error e) :
    e = .serializationError ∨ e = .overflowError := by
  unfold parseQuestFrame at h
  cases hvalue : json.loads payload with
  | none =>
    rw [hvalue] at h
    exact .inl (Except.error.inj h).symm
  | some value =>
    rw [hvalue] at h
    have hbind : mapping value >>= frameFromDict = .error e := h
    cases hmapping : mapping value with
    | error e' =>
      rw [hmapping] at hbind
      rw [← Except.error.inj hbind]
      exact .inl (mapping_error hmapping)
    | ok fields =>
      rw [hmapping, ok_bind] at hbind
      unfold frameFromDict Except.mapError at hbind
      split at hbind
      · rename_i e' _
        rw [← Except.error.inj hbind]
        cases e' <;> simp [PyError.wrapped]
      · cases hbind

/-- **The first stage** raises nothing but `SerializationError` exactly if the document
    does not break. -/
theorem parseQuestFrame_contained (json : JsonModule δ) (payload : Payload) :
    (∀ e, parseQuestFrame json payload = .error e → e = .serializationError) ↔
      ∀ value, json.loads payload = some value → ¬FrameDocumentBreaks value := by
  have hover := parseQuestFrame_overflows json payload
  constructor
  · intro hserialization value hvalue hbreaks
    have herror : parseQuestFrame json payload = .error .overflowError :=
      hover.mpr ⟨value, hvalue, hbreaks⟩
    exact nomatch hserialization _ herror
  · intro hfits e he
    rcases parseQuestFrame_error he with hserialization | rfl
    · exact hserialization
    · obtain ⟨value, hvalue, hbreaks⟩ := hover.mp he
      exact absurd hbreaks (hfits value hvalue)

end HandLab.Quest
