import HandLab.Lib.Fields
import HandLab.Umip.RoundTrip

/-!
# What leaves the decoder

`sample_from_dict` turns `KeyError`, `TypeError` and `ValueError` into
`SerializationError`. `OverflowError` is none of them: `int` raises it for an infinite
float, `float` and `math.isfinite` raise it for an integer beyond the finite floats.

* `timestampOf_overflows`, `poseOf_overflows`, …, `sampleFromDict_overflows`: a decoder
  raises `OverflowError` exactly if it reaches such a number (`TimestampBreaks`,
  `PoseBreaks`, …, `SampleBreaks`) before it refuses another value.
* `loads_sample_contract`: the round trip, and what `loads_sample` raises.
* `infinite_sequence_escapes`: a document that raises `OverflowError`.
-/

namespace HandLab.Umip

open HandLab.Lib HandLab.Episode

/-! ## `OverflowError` -/

section Overflows

variable {α β : Type} {e : PyError}

/-- The call raises `OverflowError`. -/
def Overflows (x : Except PyError α) : Prop := x = .error .overflowError

/-- The call returns a value with the property. -/
def Then (x : Except PyError α) (p : α → Prop) : Prop := ∃ a, x = .ok a ∧ p a

@[simp] theorem overflows_ok (a : α) : ¬Overflows (.ok a) := nofun

@[simp] theorem overflows_error :
    Overflows (.error e : Except PyError α) ↔ e = .overflowError :=
  ⟨Except.error.inj, congrArg Except.error⟩

@[simp] theorem overflows_bind (x : Except PyError α) (g : α → Except PyError β) :
    Overflows (x >>= g) ↔ Overflows x ∨ Then x fun a => Overflows (g a) := by
  unfold Then
  cases x with
  | error e =>
    show Overflows (.error e) ↔ _
    simp
  | ok a =>
    show Overflows (g a) ↔ _
    simp

@[simp] theorem overflows_map (x : Except PyError α) (g : α → β) :
    Overflows (x.map g) ↔ Overflows x := by
  cases x with
  | error e =>
    show Overflows (.error e) ↔ _
    simp
  | ok a =>
    show Overflows (.ok (g a)) ↔ _
    simp

@[simp] theorem overflows_wrapped (x : Except PyError α) :
    Overflows (x.mapError PyError.wrapped) ↔ Overflows x := by
  cases x with
  | error e =>
    show Overflows (.error e.wrapped) ↔ _
    rw [overflows_error, overflows_error]
    cases e <;> simp [PyError.wrapped]
  | ok a =>
    show Overflows (.ok a) ↔ _
    simp

theorem overflows_orRaise (he : e ≠ .overflowError) (a : Option α) :
    ¬Overflows (orRaise e a) := by
  cases a with
  | none => exact fun h => he (overflows_error.mp h)
  | some a => exact overflows_ok a

@[simp] theorem overflows_orRaise_self (a : Option α) :
    Overflows (orRaise .overflowError a) ↔ a = none := by
  cases a with
  | none => exact iff_of_true rfl rfl
  | some a => exact iff_of_false (overflows_ok a) nofun

theorem overflows_raiseWhen (he : e ≠ .overflowError) (refused : Bool) :
    ¬Overflows (raiseWhen refused e) := by
  cases refused with
  | true => exact fun h => he (overflows_error.mp h)
  | false => exact overflows_ok ()

@[simp] theorem overflows_refuse (refused : Bool) :
    ¬Overflows (raiseWhen refused .protocolValidationError) :=
  overflows_raiseWhen (e := .protocolValidationError) nofun refused

@[simp] theorem overflows_unsupported (refused : Bool) :
    ¬Overflows (raiseWhen refused .serializationError) :=
  overflows_raiseWhen (e := .serializationError) nofun refused

@[simp] theorem overflows_construct {check : α → Except PyError Unit} (a : α) :
    Overflows (construct check a) ↔ Overflows (check a) := by
  constructor
  · exact construct_error
  · intro h
    unfold construct
    split
    · rename_i hok
      exact nomatch hok.symm.trans h
    · rename_i e herror
      exact overflows_error.mpr (Except.error.inj (herror.symm.trans h))

@[simp] theorem then_raiseWhen (refused : Bool) (p : Unit → Prop) :
    Then (raiseWhen refused e) p ↔ refused = false ∧ p () := by
  unfold Then
  cases refused with
  | true => exact iff_of_false (fun ⟨_, h, _⟩ => nomatch h) fun h => nomatch h.1
  | false => exact ⟨fun ⟨_, _, h⟩ => ⟨rfl, h⟩, fun h => ⟨(), rfl, h.2⟩⟩

/-- Of the items of a list, the first that does not decode raises `OverflowError`. -/
theorem overflows_mapM {decode : α → Except PyError β} {values : List α} :
    Overflows (values.mapM decode) ↔ ∃ before value after, values = before ++ value :: after ∧
      (∀ other ∈ before, ∃ b, decode other = .ok b) ∧ Overflows (decode value) := by
  induction values with
  | nil =>
    constructor
    · exact fun h => absurd h (overflows_ok _)
    · rintro ⟨before, value, after, h, -⟩
      exact absurd h (by simp)
  | cons head rest ih =>
    rw [List.mapM_cons, exists_split_cons]
    simp only [overflows_bind, ih, List.forall_mem_cons]
    constructor
    · rintro (hhead | ⟨b, hb, (⟨before, value, after, rfl, hbefore, hvalue⟩ | ⟨_, _, h⟩)⟩)
      · exact .inl ⟨nofun, hhead⟩
      · exact .inr ⟨before, value, after, rfl, ⟨⟨b, hb⟩, hbefore⟩, hvalue⟩
      · exact absurd h (overflows_ok _)
    · rintro (⟨-, hhead⟩ | ⟨before, value, after, rfl, ⟨⟨b, hb⟩, hbefore⟩, hvalue⟩)
      · exact .inl hhead
      · exact .inr ⟨b, hb, .inl ⟨before, value, after, rfl, hbefore, hvalue⟩⟩

end Overflows

/-! ## Numbers -/

variable {δ : Type} [Python δ]

/-- An infinite float. -/
def Infinite : Json δ → Prop
  | .float x => Double.isFinite x = false ∧ Double.eq x x = true
  | .null | .bool _ | .int _ | .text _ | .list _ | .object _ => False

/-- An integer beyond the finite floats. -/
def TooLarge : Json δ → Prop
  | .int n => (Python.float? n : Option δ) = none
  | .null | .bool _ | .float _ | .text _ | .list _ | .object _ => False

/-- A list whose first item that does not decode breaks. -/
def ItemsBreak {α : Type} (decode : Json δ → Except PyError α) (breaks : Json δ → Prop)
    (value : Json δ) : Prop :=
  ∃ before item after, value = .list (before ++ item :: after) ∧
    (∀ other ∈ before, ∃ a, decode other = .ok a) ∧ breaks item

omit [Python δ] in
@[simp] theorem getItem_overflows (item : Record δ) (key : String) :
    ¬Overflows (getItem item key) := overflows_orRaise (e := .keyError) nofun _

@[simp] theorem pyStr_overflows (value : Json δ) : ¬Overflows (pyStr value) := by
  cases value with
  | text text => exact overflows_ok text
  | _ => exact overflows_orRaise (e := .valueError) nofun _

omit [Python δ] in
@[simp] theorem mapping_overflows (value : Json δ) : ¬Overflows (mapping value) := by
  cases value with
  | object fields => exact overflows_ok fields
  | _ => exact nofun

@[simp] theorem pyInt_overflows (value : Json δ) : Overflows (pyInt value) ↔ Infinite value := by
  cases value with
  | float x =>
    show Overflows (if Double.isFinite x = true then _ else _) ↔ _ ∧ _
    cases Double.isFinite x with
    | true => simp
    | false => cases Double.eq x x <;> simp
  | text text => exact iff_of_false (overflows_orRaise (e := .valueError) nofun _) id
  | bool b => exact iff_of_false (overflows_ok _) id
  | int n => exact iff_of_false (overflows_ok _) id
  | null => exact iff_of_false nofun id
  | list values => exact iff_of_false nofun id
  | object fields => exact iff_of_false nofun id

@[simp] theorem pyFloat_overflows (value : Json δ) :
    Overflows (pyFloat value) ↔ TooLarge value := by
  cases value with
  | int n => exact overflows_orRaise_self _
  | text text => exact iff_of_false (overflows_orRaise (e := .valueError) nofun _) id
  | bool b => exact iff_of_false (overflows_ok _) id
  | float x => exact iff_of_false (overflows_ok _) id
  | null => exact iff_of_false nofun id
  | list values => exact iff_of_false nofun id
  | object fields => exact iff_of_false nofun id

@[simp] theorem validateNumber_overflows (refused : Json δ → Bool) (value : Json δ) :
    Overflows (validateNumber refused value) ↔ TooLarge value := by
  cases value with
  | int n =>
    unfold validateNumber TooLarge mathIsfinite
    simp [Then]
  | null => exact iff_of_false (overflows_ok _) id
  | bool b => exact iff_of_false (by simp [validateNumber, mathIsfinite]) id
  | float x => exact iff_of_false (by simp [validateNumber, mathIsfinite]) id
  | text text => exact iff_of_false nofun id
  | list values => exact iff_of_false nofun id
  | object fields => exact iff_of_false nofun id

/-! ## Decoders -/

section Decoders

omit [Python δ] in
theorem overflows_optional {α : Type} {decode : Json δ → Except PyError α}
    {breaks : Json δ → Prop} (h : ∀ value, Overflows (decode value) ↔ breaks value)
    (hnull : ¬breaks .null) (value : Json δ) :
    Overflows (optional decode value) ↔ breaks value := by
  by_cases hvalue : value = .null
  · subst hvalue
    exact iff_of_false (overflows_ok _) hnull
  · rw [optional_of_ne_null hvalue, overflows_map, h]

@[simp] theorem optionalStr_overflows (value : Json δ) : ¬Overflows (optional pyStr value) := by
  have h : Overflows (optional pyStr value) ↔ False :=
    overflows_optional (fun value => iff_of_false (pyStr_overflows value) id) id value
  exact h.mp

@[simp] theorem optionalInt_overflows (value : Json δ) :
    Overflows (optional pyInt value) ↔ Infinite value :=
  overflows_optional pyInt_overflows id value

omit [Python δ] in
/-- Of the items of a string or of a dictionary, which are strings, none breaks. -/
theorem overflows_tupleOf {α : Type} {decode : Json δ → Except PyError α}
    {breaks : Json δ → Prop} (h : ∀ value, Overflows (decode value) ↔ breaks value)
    (htext : ∀ text, ¬breaks (.text text)) (value : Json δ) :
    Overflows (tupleOf decode value) ↔ ItemsBreak decode breaks value := by
  have htexts {values : List (Json δ)} (hvalues : ∀ v ∈ values, ∃ text, v = .text text) :
      ¬Overflows (values.mapM decode) := by
    intro hover
    obtain ⟨before, item, after, rfl, -, hitem⟩ := overflows_mapM.mp hover
    obtain ⟨text, rfl⟩ := hvalues item (by simp)
    exact htext text ((h _).mp hitem)
  unfold ItemsBreak tupleOf
  rw [overflows_bind]
  cases value with
  | list values =>
    have hlist : Then (iterate (.list values)) (fun items => Overflows (items.mapM decode)) ↔
        Overflows (values.mapM decode) := by
      constructor
      · rintro ⟨items, hitems, hover⟩
        rw [← Except.ok.inj hitems] at hover
        exact hover
      · exact fun hover => ⟨values, rfl, hover⟩
    rw [hlist, or_iff_right (show ¬Overflows (iterate (.list values)) from nofun), overflows_mapM]
    simp only [h, Json.list.injEq]
  | text _ | object _ =>
    refine iff_of_false ?_ (by simp)
    rintro (hover | ⟨items, hitems, hover⟩)
    · exact nomatch hover
    · rw [← Except.ok.inj hitems] at hover
      refine htexts (fun v hv => ?_) hover
      obtain ⟨key, -, rfl⟩ := List.mem_map.mp hv
      exact ⟨_, rfl⟩
  | null | bool _ | int _ | float _ =>
    refine iff_of_false ?_ (by simp)
    rintro (h | ⟨_, h, -⟩) <;> exact nomatch h

@[simp] theorem then_false {α : Type} (x : Except PyError α) : ¬Then x fun _ => False := by
  rintro ⟨a, -, h⟩
  exact h

@[simp] theorem timestampCheck_overflows (t : TimestampFields) : ¬Overflows t.check := by
  unfold TimestampFields.check
  simp

@[simp] theorem poseCheck_overflows (p : PoseFields δ) : ¬Overflows p.check := by
  unfold PoseFields.check finiteTuple
  simp

@[simp] theorem jsonMapping_overflows (fields : Record δ) : ¬Overflows (jsonMapping fields) :=
  overflows_refuse _

@[simp] theorem validateUnitInterval_overflows (value : Json δ) :
    Overflows (validateUnitInterval value) ↔ TooLarge value := validateNumber_overflows _ value

@[simp] theorem deviceCheck_overflows (d : DeviceFields δ) : ¬Overflows d.check := by
  unfold DeviceFields.check
  simp

/-- Reading a timestamp reaches an infinite number. -/
def TimestampBreaks (value : Json δ) : Prop :=
  Then (mapping value) fun item => Then (getItem item "nanoseconds") fun nanoseconds =>
    Infinite nanoseconds ∨ Then (pyInt nanoseconds) fun _ =>
      Then (getItem item "clock_id") fun clockId => Then (pyStr clockId) fun _ =>
        Infinite (getValue item "uncertainty_ns")

theorem timestampOf_overflows (value : Json δ) :
    Overflows (timestampOf value) ↔ TimestampBreaks value := by
  unfold timestampOf TimestampBreaks
  simp

/-- Reading numbers reaches an integer beyond the finite floats. -/
def FloatsBreak (value : Json δ) : Prop := ItemsBreak pyFloat TooLarge value

theorem floats_overflow (value : Json δ) :
    Overflows (tupleOf pyFloat value) ↔ FloatsBreak value :=
  overflows_tupleOf pyFloat_overflows (fun _ => id) value

/-- Reading a pose does. -/
def PoseBreaks (value : Json δ) : Prop :=
  Then (mapping value) fun item => Then (getItem item "position_m") fun position =>
    FloatsBreak position ∨ Then (tupleOf pyFloat position) fun _ =>
      Then (getItem item "orientation_xyzw") fun orientation => FloatsBreak orientation

theorem poseOf_overflows (value : Json δ) : Overflows (poseOf value) ↔ PoseBreaks value := by
  unfold poseOf PoseBreaks
  simp [floats_overflow]

theorem optionalPose_overflows (value : Json δ) :
    Overflows (optional poseOf value) ↔ PoseBreaks value :=
  overflows_optional poseOf_overflows (fun ⟨_, h, _⟩ => nomatch h) value

theorem optionalTimestamp_overflows (value : Json δ) :
    Overflows (optional timestampOf value) ↔ TimestampBreaks value :=
  overflows_optional timestampOf_overflows (fun ⟨_, h, _⟩ => nomatch h) value

theorem requiredTimestamp_overflows (value : Json δ) :
    Overflows (requiredTimestamp value) ↔ TimestampBreaks value := by
  unfold requiredTimestamp
  split
  · exact iff_of_false nofun fun ⟨_, h, _⟩ => nomatch h
  · exact timestampOf_overflows _

omit [Python δ] in
@[simp] theorem enumOf_overflows {α : Type} (value : α → String) (members : List α)
    (text : String) : ¬Overflows (enumOf value members text) :=
  overflows_orRaise (e := .valueError) nofun _

@[simp] theorem trackingStateOf_overflows (value : Json δ) :
    ¬Overflows (trackingStateOf value) := by
  unfold trackingStateOf
  simp

@[simp] theorem sideOf_overflows (value : Json δ) : ¬Overflows (sideOf value) := by
  unfold sideOf
  simp

@[simp] theorem motionKindOf_overflows (value : Json δ) : ¬Overflows (motionKindOf value) := by
  unfold motionKindOf
  simp

/-- Two numbers are validated in turn, and an integer beyond the finite floats is met. -/
def NumbersBreak (first second : Json δ) : Prop :=
  TooLarge first ∨ Then (validateUnitInterval first) fun _ => TooLarge second

theorem jointCheck_overflows (j : JointFields δ) :
    Overflows j.check ↔ blank j.name = false ∧ NumbersBreak j.confidence j.radiusM := by
  unfold JointFields.check NumbersBreak
  simp

/-- Reading a joint reaches an integer beyond the finite floats. -/
def JointBreaks (value : Json δ) : Prop :=
  Then (mapping value) fun item => Then (getItem item "name") fun nameValue =>
    Then (pyStr nameValue) fun name => PoseBreaks (getValue item "pose") ∨
      Then (optional poseOf (getValue item "pose")) fun _ =>
        Then (getItem item "tracking_state") fun state => Then (trackingStateOf state) fun _ =>
          blank name = false ∧
            NumbersBreak (getValue item "confidence") (getValue item "radius_m")

theorem jointFromDict_overflows (value : Json δ) :
    Overflows (jointFromDict value) ↔ JointBreaks value := by
  unfold jointFromDict JointBreaks
  simp [optionalPose_overflows, jointCheck_overflows]

theorem gestureCheck_overflows (g : GestureFields δ) :
    Overflows g.check ↔ blank g.name = false ∧ NumbersBreak g.confidence g.value := by
  unfold GestureFields.check NumbersBreak
  simp

/-- Reading a gesture does. -/
def GestureBreaks (value : Json δ) : Prop :=
  Then (mapping value) fun item => Then (getItem item "name") fun nameValue =>
    Then (pyStr nameValue) fun name => Then (getItem item "active") fun _ =>
      blank name = false ∧ NumbersBreak (getValue item "confidence") (getValue item "value")

theorem gestureFromDict_overflows (value : Json δ) :
    Overflows (gestureFromDict value) ↔ GestureBreaks value := by
  unfold gestureFromDict GestureBreaks
  simp [gestureCheck_overflows]

theorem articulationCheck_overflows (a : ArticulationFields δ) :
    Overflows a.check ↔ (a.joints.map fun joint => joint.val.name).Nodup ∧
      (TooLarge a.pinchStrength ∨ Then (validateUnitInterval a.pinchStrength) fun _ =>
        NumbersBreak a.graspStrength a.confidence) := by
  unfold ArticulationFields.check NumbersBreak
  simp

/-- Reading an articulation does. -/
def ArticulationBreaks (value : Json δ) : Prop :=
  Then (mapping value) fun item =>
    let joints := (item.lookup "joints").getD (.list [])
    let gestures := (item.lookup "gestures").getD (.list [])
    ItemsBreak jointFromDict JointBreaks joints ∨ Then (tupleOf jointFromDict joints) fun js =>
      ItemsBreak gestureFromDict GestureBreaks gestures ∨
        Then (tupleOf gestureFromDict gestures) fun _ =>
          (js.map fun joint => joint.val.name).Nodup ∧
            (TooLarge (getValue item "pinch_strength") ∨
              Then (validateUnitInterval (getValue item "pinch_strength")) fun _ =>
                NumbersBreak (getValue item "grasp_strength") (getValue item "confidence"))

theorem joints_overflow (value : Json δ) : Overflows (tupleOf jointFromDict value) ↔
    ItemsBreak jointFromDict JointBreaks value :=
  overflows_tupleOf jointFromDict_overflows (fun _ ⟨_, h, _⟩ => nomatch h) value

theorem gestures_overflow (value : Json δ) : Overflows (tupleOf gestureFromDict value) ↔
    ItemsBreak gestureFromDict GestureBreaks value :=
  overflows_tupleOf gestureFromDict_overflows (fun _ ⟨_, h, _⟩ => nomatch h) value

theorem articulationOf_overflows (value : Json δ) :
    Overflows (articulationOf value) ↔ ArticulationBreaks value := by
  unfold articulationOf ArticulationBreaks
  simp [joints_overflow, gestures_overflow, articulationCheck_overflows]

theorem optionalArticulation_overflows (value : Json δ) :
    Overflows (optional articulationOf value) ↔ ArticulationBreaks value :=
  overflows_optional articulationOf_overflows (fun ⟨_, h, _⟩ => nomatch h) value

@[simp] theorem deviceFromDict_overflows (value : Record δ) :
    ¬Overflows (deviceFromDict value) := by
  unfold deviceFromDict
  simp

theorem sampleCheck_overflows (s : SampleFields δ) :
    Overflows s.check ↔ blank s.sampleId = false ∧ blank s.streamId = false ∧
      blank s.coordinateFrame = false ∧ 0 ≤ s.sequenceNumber ∧
        versionAdmitted δ s.protocolVersion = true ∧ TooLarge s.trackingConfidence := by
  unfold SampleFields.check
  simp

/-- Reading a sample reaches an infinite float where an integer is read, or an integer
    beyond the finite floats where a float is read or validated, and has refused no value
    before. -/
def SampleBreaks (value : Record δ) : Prop :=
  Then (pyStr ((value.lookup "protocol_version").getD (.text umipVersion))) fun version =>
    majorPart version = majorPart umipVersion ∧
    (ArticulationBreaks (getValue value "articulation") ∨
    Then (optional articulationOf (getValue value "articulation")) fun _ =>
    Then (getItem value "sample_id") fun idValue => Then (pyStr idValue) fun sampleId =>
    Then (getItem value "stream_id") fun streamValue => Then (pyStr streamValue) fun streamId =>
    Then (getItem value "sequence_number") fun sequence =>
    Infinite sequence ∨ Then (pyInt sequence) fun sequenceNumber =>
    Then (getItem value "capture_timestamp") fun capture =>
    TimestampBreaks capture ∨ Then (requiredTimestamp capture) fun _ =>
    Then (getItem value "receive_timestamp") fun receive =>
    TimestampBreaks receive ∨ Then (requiredTimestamp receive) fun _ =>
    TimestampBreaks (getValue value "device_timestamp") ∨
    Then (optional timestampOf (getValue value "device_timestamp")) fun _ =>
    TimestampBreaks (getValue value "processing_timestamp") ∨
    Then (optional timestampOf (getValue value "processing_timestamp")) fun _ =>
    Then (getItem value "tracking_state") fun state => Then (trackingStateOf state) fun _ =>
    Then (getItem value "coordinate_frame") fun frame => Then (pyStr frame) fun frameId =>
    Then (getItem value "device") fun device => Then (mapping device) fun deviceItem =>
    Then (deviceFromDict deviceItem) fun _ =>
    Then (getItem value "side") fun side => Then (sideOf side) fun _ =>
    PoseBreaks (getValue value "wrist_pose") ∨
    Then (optional poseOf (getValue value "wrist_pose")) fun _ =>
    PoseBreaks (getValue value "palm_pose") ∨
    Then (optional poseOf (getValue value "palm_pose")) fun _ =>
    Then (motionKindOf ((value.lookup "motion_kind").getD (.text MotionKind.absolute.value)))
      fun _ =>
    Then (mapping ((value.lookup "metadata").getD (.object []))) fun _ =>
    Then (mapping ((value.lookup "extensions").getD (.object []))) fun _ =>
    blank sampleId = false ∧ blank streamId = false ∧ blank frameId = false ∧
      0 ≤ sequenceNumber ∧ versionAdmitted δ version = true ∧
      TooLarge (getValue value "tracking_confidence"))

theorem sampleFromDict_overflows (value : Record δ) :
    Overflows (sampleFromDict value) ↔ SampleBreaks value := by
  unfold sampleFromDict SampleBreaks
  simp [optionalArticulation_overflows, requiredTimestamp_overflows,
    optionalTimestamp_overflows, optionalPose_overflows, sampleCheck_overflows]

end Decoders

/-! ## Documents -/

/-- Reading a document reaches such a number. -/
def DocumentBreaks (value : Json δ) : Prop :=
  Then (mapping value) SampleBreaks

theorem loadsSample_overflows (json : JsonModule δ) (payload : Payload) :
    Overflows (loadsSample json payload) ↔
      ∃ value, json.loads payload = some value ∧ DocumentBreaks value := by
  unfold loadsSample DocumentBreaks
  cases json.loads payload with
  | none => exact iff_of_false nofun (by simp)
  | some value =>
    show Overflows (mapping value >>= sampleFromDict) ↔ _
    simp [sampleFromDict_overflows]

omit [Python δ] in
theorem mapping_error {value : Json δ} {e : PyError} (h : mapping value = .error e) :
    e = .serializationError := by
  unfold mapping at h
  split at h
  · exact nomatch h
  all_goals exact (Except.error.inj h).symm

theorem sampleFromDict_error {value : Record δ} {e : PyError}
    (h : sampleFromDict value = .error e) : e = .serializationError ∨ e = .overflowError := by
  unfold sampleFromDict Except.mapError at h
  split at h
  · rename_i e' he'
    rw [← Except.error.inj h]
    cases e' <;> simp [PyError.wrapped]
  · exact nomatch h

/-- No other exception leaves the decoder. -/
theorem loadsSample_error {json : JsonModule δ} {payload : Payload} {e : PyError}
    (h : loadsSample json payload = .error e) :
    e = .serializationError ∨ e = .overflowError := by
  unfold loadsSample at h
  cases hvalue : json.loads payload with
  | none =>
    rw [hvalue] at h
    exact .inl (Except.error.inj h).symm
  | some value =>
    rw [hvalue] at h
    cases hmapping : mapping value with
    | error e' =>
      have hraise : mapping value >>= sampleFromDict = .error e := h
      rw [hmapping] at hraise
      rw [← Except.error.inj hraise]
      exact .inl (mapping_error hmapping)
    | ok fields =>
      have hsample : mapping value >>= sampleFromDict = .error e := h
      rw [hmapping] at hsample
      exact sampleFromDict_error hsample

/-- Rational numbers with an infinite value. -/
inductive Extended
  | finite (value : ℚ)
  | infinity
  deriving DecidableEq

/-- An operation on finite values. -/
def Extended.lift (op : ℚ → ℚ → ℚ) : Extended → Extended → Extended
  | .finite a, .finite b => .finite (op a b)
  | _, _ => .infinity

instance : Python Extended where
  ofRat := .finite
  add := Extended.lift (· + ·)
  sub := Extended.lift (· - ·)
  mul := Extended.lift (· * ·)
  div := Extended.lift (· / ·)
  abs
    | .finite a => .finite |a|
    | .infinity => .infinity
  lt
    | .finite a, .finite b => decide (a < b)
    | .finite _, .infinity => true
    | .infinity, _ => false
  eq a b := decide (a = b)
  isFinite a := decide (a ≠ .infinity)
  float? n := if n.natAbs < 2 ^ 1024 then some (.finite n) else none
  trunc
    | .finite a => a.num.tdiv a.den
    | .infinity => 0
  -- the root of a sum that is 0 or 1
  norm values := (values.map fun a => Extended.lift (· * ·) a a).foldl (Extended.lift (· + ·))
    (.finite 0)
  str?
    | .int n => some (toString n)
    | .bool b => some (if b then "True" else "False")
    | .null => some "None"
    | _ => none
  parseInt? := String.toInt?
  parseFloat? text := text.toInt?.map fun n => .finite n
  isdigit := Char.isDigit

/-- A `json` that knows one document. -/
def jsonOf {ε : Type} (text : String) (value : Json ε) : JsonModule ε where
  dumps _ _ := text
  loads payload := if payload = .text text then some value else none

theorem jsonOf_loads {ε : Type} (text : String) (value : Json ε) :
    (jsonOf text value).loads (.text text) = some value := if_pos rfl

/-- A time of the host. -/
def hostTimestamp : Timestamp := ⟨⟨1, "host", none⟩, rfl⟩

/-- A time of the headset. -/
def questTimestamp : Timestamp := ⟨⟨5, "quest", some 2⟩, rfl⟩

/-- A device without metadata. -/
def plainDevice : DeviceDescriptor Extended := ⟨⟨"d", "hand", "m", "v", none, none, none, []⟩, rfl⟩

/-- A pose without rotation. -/
def levelPose (x : ℚ) : PoseFields Extended :=
  ⟨[.finite x, .finite 0, .finite (3 / 2)], [.finite 0, .finite 0, .finite 0, .finite 1]⟩

theorem levelPose_check (x : ℚ) : (levelPose x).check = .ok () := by
  have hposition : finiteTuple (levelPose x).positionM 3 = .ok () := rfl
  have horientation : finiteTuple (levelPose x).orientationXyzw 4 = .ok () := rfl
  have hnorm : Double.lt (Double.ofRat (1 / 1000)) (Double.abs (Double.sub
      (Python.norm (levelPose x).orientationXyzw) (Double.ofRat 1 : Extended))) = false := by
    show Double.lt (Double.ofRat (1 / 1000)) (Double.abs (Double.sub (Python.norm
      [.finite 0, .finite 0, .finite 0, .finite 1]) (Double.ofRat 1 : Extended))) = false
    decide +kernel
  unfold PoseFields.check
  rw [hposition, horientation, hnorm]
  rfl

theorem tipPose_check : (levelPose (1 / 2)).check = .ok () := levelPose_check _

theorem wristPose_check : (levelPose (1 / 4)).check = .ok () := levelPose_check _

def thumbTip : JointFields Extended :=
  ⟨"thumb_tip", some ⟨levelPose (1 / 2), tipPose_check⟩, .tracking, .float (.finite (1 / 2)),
    .null⟩

theorem thumbTip_check : thumbTip.check = .ok () := by
  decide +kernel

def pinch : GestureFields Extended := ⟨"pinch", true, .int 1, .float (.finite (1 / 4))⟩

theorem pinch_check : pinch.check = .ok () := by
  decide +kernel

/-- A hand that pinches. -/
def pinching : ArticulationFields Extended :=
  ⟨[⟨thumbTip, thumbTip_check⟩], [⟨pinch, pinch_check⟩], .float (.finite (1 / 4)), .null, .null⟩

theorem pinching_check : pinching.check = .ok () := by
  decide +kernel

/-- A sample of a tracked hand. -/
def trackedFields : SampleFields Extended where
  protocolVersion := "1.0"
  sampleId := "s"
  streamId := "q"
  sequenceNumber := 7
  captureTimestamp := hostTimestamp
  receiveTimestamp := hostTimestamp
  deviceTimestamp := some questTimestamp
  processingTimestamp := none
  trackingState := .tracking
  trackingConfidence := .float (.finite (3 / 4))
  coordinateFrame := "world"
  device := plainDevice
  side := .right
  wristPose := some ⟨levelPose (1 / 4), wristPose_check⟩
  palmPose := none
  motionKind := .absolute
  articulation := some ⟨pinching, pinching_check⟩
  metadata := [("session", .int 3)]
  extensions := [("vendor.mode", .text "hand")]

theorem trackedFields_check : trackedFields.check = .ok () := by
  decide +kernel

def trackedSample : MotionInputSample Extended := ⟨trackedFields, trackedFields_check⟩

/-- What `json.dumps` makes of it. -/
def trackedText : String :=
  "\x7b\"articulation\":\x7b\"confidence\":null,\"gestures\":[\x7b\"active\":true," ++
  "\"confidence\":1,\"name\":\"pinch\",\"value\":0.25\x7d],\"grasp_strength\":null," ++
  "\"joints\":[\x7b\"confidence\":0.5,\"name\":\"thumb_tip\"," ++
  "\"pose\":\x7b\"orientation_xyzw\":[0.0,0.0,0.0,1.0],\"position_m\":[0.5,0.0,1.5]\x7d," ++
  "\"radius_m\":null,\"tracking_state\":\"tracking\"\x7d],\"pinch_strength\":0.25\x7d," ++
  "\"capture_timestamp\":\x7b\"clock_id\":\"host\",\"nanoseconds\":1," ++
  "\"uncertainty_ns\":null\x7d,\"coordinate_frame\":\"world\"," ++
  "\"device\":\x7b\"device_id\":\"d\",\"device_type\":\"hand\",\"firmware_version\":null," ++
  "\"manufacturer\":\"m\",\"metadata\":\x7b\x7d,\"model\":\"v\",\"serial_number\":null," ++
  "\"software_version\":null\x7d,\"device_timestamp\":\x7b\"clock_id\":\"quest\"," ++
  "\"nanoseconds\":5,\"uncertainty_ns\":2\x7d," ++
  "\"extensions\":\x7b\"vendor.mode\":\"hand\"\x7d,\"metadata\":\x7b\"session\":3\x7d," ++
  "\"motion_kind\":\"absolute_pose\",\"palm_pose\":null,\"processing_timestamp\":null," ++
  "\"protocol_version\":\"1.0\",\"receive_timestamp\":\x7b\"clock_id\":\"host\"," ++
  "\"nanoseconds\":1,\"uncertainty_ns\":null\x7d,\"sample_id\":\"s\",\"sequence_number\":7," ++
  "\"side\":\"right\",\"stream_id\":\"q\",\"tracking_confidence\":0.75," ++
  "\"tracking_state\":\"tracking\",\"wrist_pose\":\x7b\"orientation_xyzw\":[0.0,0.0,0.0," ++
  "1.0],\"position_m\":[0.25,0.0,1.5]\x7d\x7d"

/-- **Main theorem.** A sample is read back from its dictionary and from its text; a text
    gives a sample or `SerializationError` exactly if its document does not break. -/
theorem loads_sample_contract (json : JsonModule δ) (s : MotionInputSample δ) (pretty : Bool)
    (payload : Payload) (hmajor : majorPart s.val.protocolVersion = majorPart umipVersion)
    (hjson : json.loads (.text (json.dumps pretty (document s))) = some (document s)) :
    sampleFromDict (sampleToDict s) = .ok s ∧
      (∃ text, dumpsSample json pretty s = .ok text ∧
        loadsSample json (.text text) = .ok (MotionInputSample.sorted s)) ∧
      ((∀ e, loadsSample json payload = .error e → e = .serializationError) ↔
        ∀ value, json.loads payload = some value → ¬DocumentBreaks value) := by
  refine ⟨sampleFromDict_sampleToDict s hmajor, loadsSample_dumpsSample json pretty s hmajor hjson,
    ?_⟩
  have hover := loadsSample_overflows json payload
  constructor
  · intro hserialization value hvalue hbreaks
    have herror : loadsSample json payload = .error .overflowError :=
      hover.mpr ⟨value, hvalue, hbreaks⟩
    exact nomatch hserialization _ herror
  · intro hfits e he
    rcases loadsSample_error he with hserialization | rfl
    · exact hserialization
    · obtain ⟨value, hvalue, hbreaks⟩ := hover.mp he
      exact absurd hbreaks (hfits value hvalue)

theorem trackedSample_read :
    let json := jsonOf trackedText (document trackedSample)
    sampleFromDict (sampleToDict trackedSample) = .ok trackedSample ∧
      (∃ text, dumpsSample json false trackedSample = .ok text ∧
        loadsSample json (.text text) = .ok (MotionInputSample.sorted trackedSample)) ∧
      ((∀ e, loadsSample json (.text trackedText) = .error e → e = .serializationError) ↔
        ∀ value, json.loads (.text trackedText) = some value → ¬DocumentBreaks value) :=
  loads_sample_contract (jsonOf trackedText (document trackedSample)) trackedSample false
    (.text trackedText) rfl (jsonOf_loads trackedText _)

/-- A document without a finite sequence number. -/
def infiniteText : String :=
  "\x7b\"sample_id\":\"s\",\"stream_id\":\"q\",\"sequence_number\":Infinity\x7d"

/-- What `json.loads` makes of it. -/
def infiniteDocument : Json Extended :=
  .object [("sample_id", .text "s"), ("stream_id", .text "q"),
    ("sequence_number", .float .infinity)]

/-- `int(value["sequence_number"])` raises `OverflowError`, which leaves the decoder. -/
theorem infinite_sequence_escapes :
    ¬∀ e, loadsSample (jsonOf infiniteText infiniteDocument) (.text infiniteText) = .error e →
      e = .serializationError := by
  intro h
  have hloads : (jsonOf infiniteText infiniteDocument).loads (.text infiniteText) =
      some infiniteDocument := jsonOf_loads _ _
  have hover : Overflows (loadsSample (jsonOf infiniteText infiniteDocument)
      (.text infiniteText)) := by
    unfold loadsSample
    rw [hloads]
    rfl
  exact nomatch h _ hover

end HandLab.Umip
