import HandLab.Umip.Serialization

/-!
# Reading a sample back

* `sampleFromDict_arranged`: the dictionary of a sample decodes to the sample, however its
  keys are ordered.
* `sampleToDict_finite`: a sample has no float that `json` refuses to write.
* `loadsSample_dumpsSample`: the text of a sample decodes to the sample, with the keys of
  its metadata sorted.
-/

namespace HandLab.Umip

open HandLab.Lib HandLab.Episode

variable {δ : Type}

/-! ## Dictionaries -/

section Dictionaries

variable {α : Type} {l l' : List (String × α)} {key : String}

theorem lookup_eq_some_iff (hl : (l.map Prod.fst).Nodup) {value : α} :
    l.lookup key = some value ↔ (key, value) ∈ l := by
  induction l with
  | nil => simp
  | cons field rest ih =>
    obtain ⟨k, v⟩ := field
    rw [List.map_cons, List.nodup_cons] at hl
    rw [List.lookup_cons, List.mem_cons]
    by_cases hkey : key = k
    · subst hkey
      have hnot : (key, value) ∉ rest := fun hmem => hl.1 (List.mem_map.mpr ⟨_, hmem, rfl⟩)
      simp [hnot, eq_comm]
    · have hne : (key == k) = false := beq_eq_false_iff_ne.mpr hkey
      rw [hne]
      simp [hkey, ih hl.2]

/-- The order of a dictionary does not matter to a lookup. -/
theorem lookup_perm (hl : (l.map Prod.fst).Nodup) (hperm : l.Perm l') :
    l'.lookup key = l.lookup key := by
  have hl' : (l'.map Prod.fst).Nodup := (hperm.map Prod.fst).nodup_iff.mp hl
  refine Option.ext fun value => ?_
  rw [lookup_eq_some_iff hl', lookup_eq_some_iff hl, hperm.mem_iff]

end Dictionaries

section Arrange

variable {f : Record δ → Record δ}

theorem arrangeAll_eq_map (values : List (Json δ)) :
    arrangeAll f values = values.map (arrange f) := by
  induction values with
  | nil => rfl
  | cons value rest ih => rw [arrangeAll, ih, List.map_cons]

theorem arrangeFields_eq_map (fields : Record δ) :
    arrangeFields f fields = fields.map fun field => (field.1, arrange f field.2) := by
  induction fields with
  | nil => rfl
  | cons field rest ih => rw [arrangeFields, ih, List.map_cons]

theorem lookup_map (fields : Record δ) (key : String) :
    (fields.map fun field => (field.1, arrange f field.2)).lookup key =
      (fields.lookup key).map (arrange f) := by
  induction fields with
  | nil => rfl
  | cons field rest ih =>
    obtain ⟨k, v⟩ := field
    rw [List.map_cons, List.lookup_cons, List.lookup_cons]
    cases key == k with
    | true => rfl
    | false => exact ih

/-- A dictionary with distinct keys is read as before. -/
theorem lookup_arranged (hf : ∀ fields, (f fields).Perm fields) {fields : Record δ}
    (hkeys : (fields.map Prod.fst).Nodup) (key : String) :
    (f (arrangeFields f fields)).lookup key = (fields.lookup key).map (arrange f) := by
  have hmap : (arrangeFields f fields).map Prod.fst = fields.map Prod.fst := by
    rw [arrangeFields_eq_map, List.map_map]
    rfl
  rw [lookup_perm (by rw [hmap]; exact hkeys) (hf _).symm, arrangeFields_eq_map, lookup_map]

/-- A dictionary that reads like the rearranged one. -/
def Reads (f : Record δ → Record δ) (r fields : Record δ) : Prop :=
  ∀ key, r.lookup key = (fields.lookup key).map (arrange f)

theorem reads_arranged (hf : ∀ fields, (f fields).Perm fields) {fields : Record δ}
    (keys : List String) (hkeys : fields.map Prod.fst = keys) (hnodup : keys.Nodup) :
    ∃ r, arrange f (.object fields) = .object r ∧ Reads f r fields := by
  refine ⟨f (arrangeFields f fields), by rw [arrange], fun key => ?_⟩
  exact lookup_arranged hf (hkeys ▸ hnodup) key

section Reads

variable {r fields : Record δ} {key : String} {value : Json δ}

theorem Reads.getItem (h : Reads f r fields) (hvalue : fields.lookup key = some value) :
    getItem r key = .ok (arrange f value) := by
  unfold Umip.getItem
  rw [h key, hvalue]
  rfl

theorem Reads.getValue (h : Reads f r fields) (hvalue : fields.lookup key = some value) :
    getValue r key = arrange f value := by
  unfold Umip.getValue
  rw [h key, hvalue]
  rfl

theorem Reads.text (h : Reads f r fields) {text : String}
    (hvalue : fields.lookup key = some (.text text)) :
    Umip.getItem r key = .ok (.text text) := by
  rw [h.getItem hvalue, arrange]

theorem Reads.object (h : Reads f r fields) {inner : Record δ}
    (hvalue : fields.lookup key = some (.object inner)) :
    r.lookup key = some (.object (f (arrangeFields f inner))) := by
  rw [h key, hvalue, Option.map_some, arrange]

end Reads

end Arrange

variable [Python δ]

/-! ## Validated numbers -/

/-- What passes as a number, or as `None`, is no text and no container. -/
theorem arrange_of_validateNumber {refused : Json δ → Bool} {value : Json δ}
    (h : validateNumber refused value = .ok ()) (f : Record δ → Record δ) :
    arrange f value = value := by
  cases value with
  | null => rfl
  | bool b => rfl
  | int n => rfl
  | float x => rfl
  | text text => exact nomatch h
  | list values => exact nomatch h
  | object fields => exact nomatch h

theorem Reads.number {f : Record δ → Record δ} {r fields : Record δ} {key : String}
    {value : Json δ} {refused : Json δ → Bool} (h : Reads f r fields)
    (hvalue : fields.lookup key = some value) (hcheck : validateNumber refused value = .ok ()) :
    Umip.getValue r key = value :=
  (h.getValue hvalue).trans (arrange_of_validateNumber hcheck f)

theorem raiseWhen_eq_ok {refused : Bool} {error : PyError} :
    raiseWhen refused error = .ok () ↔ refused = false := by
  unfold raiseWhen
  cases refused <;> simp

theorem bind_eq_ok {α β : Type} {x : Except PyError α} {g : α → Except PyError β} {b : β} :
    x >>= g = .ok b ↔ ∃ a, x = .ok a ∧ g a = .ok b := by
  cases x with
  | error e => exact ⟨fun h => (nomatch h), fun ⟨_, h, _⟩ => (nomatch h)⟩
  | ok a =>
    constructor
    · exact fun h => ⟨a, rfl, h⟩
    · rintro ⟨a', h, hg⟩
      rw [← Except.ok.inj h] at hg
      exact hg

@[simp] theorem ok_bind {α β : Type} (a : α) (g : α → Except PyError β) :
    (.ok a : Except PyError α) >>= g = g a := rfl

/-- A number that passes can be written. -/
theorem finite_of_validateNumber {refused : Json δ → Bool} {value : Json δ}
    (h : validateNumber refused value = .ok ()) : jsonFinite value = true := by
  cases value with
  | null => simp [jsonFinite]
  | bool b => simp [jsonFinite]
  | int n => simp [jsonFinite]
  | float x =>
    obtain ⟨finite, hfinite, hraise⟩ := bind_eq_ok.mp h
    obtain rfl : Double.isFinite x = finite := Except.ok.inj hfinite
    have hor := raiseWhen_eq_ok.mp hraise
    rw [jsonFinite]
    simpa using (Bool.or_eq_false_iff.mp hor).1
  | text text => exact nomatch h
  | list values => exact nomatch h
  | object fields => exact nomatch h

/-! ## The components -/

section Components

variable {f : Record δ → Record δ} (hf : ∀ fields, (f fields).Perm fields)

theorem mapM_map {α β γ : Type} {decode : β → Except PyError γ} {encode : α → β} {g : α → γ}
    {values : List α} (h : ∀ value ∈ values, decode (encode value) = .ok (g value)) :
    (values.map encode).mapM decode = .ok (values.map g) := by
  induction values with
  | nil => rfl
  | cons value rest ih =>
    rw [List.map_cons, List.mapM_cons, h value (List.mem_cons_self ..),
      ih fun other hmem => h other (List.mem_cons_of_mem _ hmem)]
    rfl

theorem floats_map (values : List δ) :
    tupleOf pyFloat (.list (values.map .float)) = .ok values := by
  have hmap : (values.map Json.float).mapM pyFloat = .ok (values.map id) :=
    mapM_map fun value _ => rfl
  rw [List.map_id] at hmap
  exact hmap

omit [Python δ] in
theorem optional_of_ne_null {α : Type} {decode : Json δ → Except PyError α} {value : Json δ}
    (h : value ≠ .null) : optional decode value = (decode value).map some := by
  unfold optional
  split
  · exact absurd rfl h
  · rfl

omit [Python δ] in
/-- An optional component that can be read back. -/
theorem optional_arranged {α : Type} {encode : α → Json δ} {decode : Json δ → Except PyError α}
    {value : Option α} (h : ∀ a ∈ value, decode (arrange f (encode a)) = .ok a)
    (hsome : ∀ a, arrange f (encode a) ≠ .null) :
    optional decode (arrange f (optionalDict encode value)) = .ok value := by
  cases value with
  | none => rfl
  | some a =>
    show optional decode (arrange f (encode a)) = _
    rw [optional_of_ne_null (hsome a), h a rfl]
    rfl

include hf

theorem timestampOf_arranged (t : Timestamp) :
    timestampOf (arrange f (timestampDict t : Json δ)) = .ok t := by
  obtain ⟨r, hr, hread⟩ : ∃ r, arrange f (timestampDict t : Json δ) = .object r ∧ Reads f r _ :=
    reads_arranged hf ["nanoseconds", "clock_id", "uncertainty_ns"] rfl (by decide)
  have hnanoseconds : getItem r "nanoseconds" = .ok (arrange f (.int t.val.nanoseconds)) :=
    hread.getItem rfl
  have hclock : getItem r "clock_id" = .ok (arrange f (.text t.val.clockId)) := hread.getItem rfl
  have huncertainty : getValue r "uncertainty_ns" =
      arrange f (Json.ofInt? t.val.uncertaintyNs) := hread.getValue rfl
  have hint : optional pyInt (arrange f (Json.ofInt? t.val.uncertaintyNs)) =
      .ok t.val.uncertaintyNs := by
    cases t.val.uncertaintyNs <;> simp [Json.ofInt?, arrange, optional, pyInt, Except.map]
  unfold timestampOf
  rw [hr]
  simp only [mapping, ok_bind, hnanoseconds, hclock, huncertainty, hint, arrange, pyInt, pyStr]
  exact construct_val t

theorem requiredTimestamp_arranged (t : Timestamp) :
    requiredTimestamp (arrange f (timestampDict t : Json δ)) = .ok t := by
  have h := timestampOf_arranged hf t
  rw [timestampDict, arrange] at h ⊢
  exact h

theorem optionalTimestamp_arranged (t : Option Timestamp) :
    optional timestampOf (arrange f (optionalDict timestampDict t : Json δ)) = .ok t :=
  optional_arranged (fun a _ => timestampOf_arranged hf a) fun a h => by
    rw [timestampDict, arrange] at h
    exact nomatch h

theorem poseOf_arranged (p : Pose6D δ) : poseOf (arrange f (poseDict p)) = .ok p := by
  obtain ⟨r, hr, hread⟩ : ∃ r, arrange f (poseDict p) = .object r ∧ Reads f r _ :=
    reads_arranged hf ["position_m", "orientation_xyzw"] rfl (by decide)
  have hfloats (values : List δ) : arrange f (.list (values.map .float)) =
      .list (values.map .float) := by
    rw [arrange, arrangeAll_eq_map, List.map_map]
    rfl
  have hposition : getItem r "position_m" = .ok (.list (p.val.positionM.map .float)) :=
    (hread.getItem rfl).trans (congrArg Except.ok (hfloats _))
  have horientation : getItem r "orientation_xyzw" =
      .ok (.list (p.val.orientationXyzw.map .float)) :=
    (hread.getItem rfl).trans (congrArg Except.ok (hfloats _))
  unfold poseOf
  rw [hr]
  simp only [mapping, ok_bind, hposition, horientation, floats_map]
  exact construct_val p

theorem optionalPose_arranged (p : Option (Pose6D δ)) :
    optional poseOf (arrange f (optionalDict poseDict p)) = .ok p :=
  optional_arranged (fun a _ => poseOf_arranged hf a) fun a h => by
    rw [poseDict, arrange] at h
    exact nomatch h

omit hf in
theorem trackingStateOf_value (state : TrackingState) :
    trackingStateOf (.text state.value : Json δ) = .ok state := by
  cases state <;> rfl

theorem jointFromDict_arranged (j : JointSample δ) :
    jointFromDict (arrange f (jointDict j)) = .ok j := by
  obtain ⟨r, hr, hread⟩ : ∃ r, arrange f (jointDict j) = .object r ∧ Reads f r _ :=
    reads_arranged hf ["name", "pose", "tracking_state", "confidence", "radius_m"] rfl (by decide)
  have hcheck := j.property
  simp only [JointFields.check, bind_eq_ok] at hcheck
  obtain ⟨_, -, _, hconfidence, _, hradius, -⟩ := hcheck
  have hname : getItem r "name" = .ok (.text j.val.name) := hread.text rfl
  have hpose : getValue r "pose" = arrange f (optionalDict poseDict j.val.pose) :=
    hread.getValue rfl
  have hstate : getItem r "tracking_state" = .ok (.text j.val.trackingState.value) :=
    hread.text rfl
  have hconfidence : getValue r "confidence" = j.val.confidence :=
    hread.number rfl hconfidence
  have hradius : getValue r "radius_m" = j.val.radiusM :=
    hread.number rfl hradius
  unfold jointFromDict
  rw [hr]
  simp only [mapping, ok_bind, hname, hpose, hstate, hconfidence, hradius, pyStr,
    optionalPose_arranged hf, trackingStateOf_value]
  exact construct_val j

theorem gestureFromDict_arranged (g : GestureSample δ) :
    gestureFromDict (arrange f (gestureDict g)) = .ok g := by
  obtain ⟨r, hr, hread⟩ : ∃ r, arrange f (gestureDict g) = .object r ∧ Reads f r _ :=
    reads_arranged hf ["name", "active", "confidence", "value"] rfl (by decide)
  have hcheck := g.property
  simp only [GestureFields.check, bind_eq_ok] at hcheck
  obtain ⟨_, -, _, hconfidence, hvalue⟩ := hcheck
  have hname : getItem r "name" = .ok (.text g.val.name) := hread.text rfl
  have hactive : getItem r "active" = .ok (arrange f (.bool g.val.active)) := hread.getItem rfl
  have hconfidence : getValue r "confidence" = g.val.confidence :=
    hread.number rfl hconfidence
  have hvalue : getValue r "value" = g.val.value :=
    hread.number rfl hvalue
  unfold gestureFromDict
  rw [hr]
  simp only [mapping, ok_bind, hname, hactive, hconfidence, hvalue, arrange, pyStr, pyBool]
  exact construct_val g

omit hf [Python δ] in
theorem mapM_arranged {α : Type} {encode : α → Json δ} {decode : Json δ → Except PyError α}
    {values : List α} (h : ∀ a ∈ values, decode (arrange f (encode a)) = .ok a) :
    ∃ items, arrange f (.list (values.map encode)) = .list items ∧
      items.mapM decode = .ok values := by
  refine ⟨values.map fun a => arrange f (encode a), ?_, ?_⟩
  · rw [arrange, arrangeAll_eq_map, List.map_map]
    rfl
  · rw [mapM_map h]
    exact congrArg Except.ok (List.map_id _)

theorem articulationOf_arranged (a : HandArticulation δ) :
    articulationOf (arrange f (articulationDict a)) = .ok a := by
  obtain ⟨r, hr, hread⟩ : ∃ r, arrange f (articulationDict a) = .object r ∧ Reads f r _ :=
    reads_arranged hf ["joints", "gestures", "pinch_strength", "grasp_strength", "confidence"]
      rfl (by decide)
  have hcheck := a.property
  simp only [ArticulationFields.check, bind_eq_ok] at hcheck
  obtain ⟨_, -, _, hpinch, _, hgrasp, hconfidence⟩ := hcheck
  obtain ⟨joints, hjoints, hjointsM⟩ :=
    mapM_arranged (f := f) fun j (_ : j ∈ a.val.joints) => jointFromDict_arranged hf j
  obtain ⟨gestures, hgestures, hgesturesM⟩ :=
    mapM_arranged (f := f) fun g (_ : g ∈ a.val.gestures) => gestureFromDict_arranged hf g
  have hjoints : r.lookup "joints" = some (.list joints) := by
    rw [← hjoints]
    exact hread "joints"
  have hgestures : r.lookup "gestures" = some (.list gestures) := by
    rw [← hgestures]
    exact hread "gestures"
  have hpinch : getValue r "pinch_strength" = a.val.pinchStrength :=
    hread.number rfl hpinch
  have hgrasp : getValue r "grasp_strength" = a.val.graspStrength :=
    hread.number rfl hgrasp
  have hconfidence : getValue r "confidence" = a.val.confidence :=
    hread.number rfl hconfidence
  unfold articulationOf
  rw [hr]
  simp only [mapping, ok_bind, hjoints, hgestures, Option.getD_some, tupleOf, iterate, hjointsM,
    hgesturesM, hpinch, hgrasp, hconfidence]
  exact construct_val a

theorem optionalArticulation_arranged (a : Option (HandArticulation δ)) :
    optional articulationOf (arrange f (optionalDict articulationDict a)) = .ok a :=
  optional_arranged (fun a _ => articulationOf_arranged hf a) fun a h => by
    rw [articulationDict, arrange] at h
    exact nomatch h

/-! ## Metadata -/

omit hf in
theorem allFinite_eq (values : List (Json δ)) : allFinite values = values.all jsonFinite := by
  induction values with
  | nil => rfl
  | cons value rest ih => rw [allFinite, ih, List.all_cons]

omit hf in
theorem fieldsFinite_eq (fields : Record δ) :
    fieldsFinite fields = fields.all fun field => jsonFinite field.2 := by
  induction fields with
  | nil => rfl
  | cons field rest ih => rw [fieldsFinite, ih, List.all_cons]

omit hf in
theorem fieldsFinite_perm {fields fields' : Record δ} (h : fields.Perm fields') :
    fieldsFinite fields = fieldsFinite fields' := by
  rw [fieldsFinite_eq, fieldsFinite_eq]
  exact h.all_eq

omit hf in
mutual

theorem jsonFinite_arrange (hf : ∀ fields, (f fields).Perm fields) :
    ∀ value : Json δ, jsonFinite (arrange f value) = jsonFinite value
  | .null => by rw [arrange]
  | .bool b => by rw [arrange]
  | .int n => by rw [arrange]
  | .float x => by rw [arrange]
  | .text text => by rw [arrange]
  | .list values => by rw [arrange, jsonFinite, jsonFinite, allFinite_arrangeAll hf values]
  | .object fields => by
    rw [arrange, jsonFinite, jsonFinite, fieldsFinite_perm (hf _),
      fieldsFinite_arrangeFields hf fields]

theorem allFinite_arrangeAll (hf : ∀ fields, (f fields).Perm fields) :
    ∀ values : List (Json δ), allFinite (arrangeAll f values) = allFinite values
  | [] => rfl
  | value :: rest => by
    rw [arrangeAll, allFinite, allFinite, jsonFinite_arrange hf value,
      allFinite_arrangeAll hf rest]

theorem fieldsFinite_arrangeFields (hf : ∀ fields, (f fields).Perm fields) :
    ∀ fields : List (String × Json δ), fieldsFinite (arrangeFields f fields) = fieldsFinite fields
  | [] => rfl
  | (key, value) :: rest => by
    rw [arrangeFields, fieldsFinite, fieldsFinite, jsonFinite_arrange hf value,
      fieldsFinite_arrangeFields hf rest]

end

/-- Rearranged metadata passes the same check. -/
theorem jsonMapping_arranged (fields : Record δ) :
    jsonMapping (f (arrangeFields f fields)) = jsonMapping fields := by
  unfold jsonMapping
  rw [fieldsFinite_perm (hf _), fieldsFinite_arrangeFields hf]

/-- The device with its metadata rearranged. -/
def DeviceDescriptor.arranged (f : Record δ → Record δ) (hf : ∀ fields, (f fields).Perm fields)
    (d : DeviceDescriptor δ) : DeviceDescriptor δ :=
  ⟨{ d.val with metadata := f (arrangeFields f d.val.metadata) }, by
    have hcheck := d.property
    unfold DeviceFields.check at hcheck ⊢
    dsimp only
    rw [jsonMapping_arranged hf]
    exact hcheck⟩

/-- The sample with its metadata, its extensions and the metadata of its device
    rearranged. -/
def MotionInputSample.arranged (f : Record δ → Record δ)
    (hf : ∀ fields, (f fields).Perm fields) (s : MotionInputSample δ) : MotionInputSample δ :=
  ⟨{ s.val with
      device := DeviceDescriptor.arranged f hf s.val.device
      metadata := f (arrangeFields f s.val.metadata)
      extensions := f (arrangeFields f s.val.extensions) }, by
    have hcheck := s.property
    have hkeys : (f (arrangeFields f s.val.extensions)).all
        (fun extension => extension.1.toList.contains '.') =
        s.val.extensions.all fun extension => extension.1.toList.contains '.' := by
      rw [(hf _).all_eq, arrangeFields_eq_map, List.all_map]
      rfl
    unfold SampleFields.check at hcheck ⊢
    dsimp only
    rw [jsonMapping_arranged hf, jsonMapping_arranged hf, hkeys]
    exact hcheck⟩

/-! ## The sample -/

theorem deviceFromDict_arranged (d : DeviceDescriptor δ) :
    deviceFromDict (f (arrangeFields f (deviceToDict d))) =
      .ok (DeviceDescriptor.arranged f hf d) := by
  obtain ⟨r, hr, hread⟩ : ∃ r, arrange f (.object (deviceToDict d)) = .object r ∧ Reads f r _ :=
    reads_arranged hf ["device_id", "device_type", "manufacturer", "model", "serial_number",
      "firmware_version", "software_version", "metadata"] rfl (by decide)
  rw [arrange] at hr
  rw [Json.object.inj hr]
  have hoptional {key : String} {text : Option String}
      (h : (deviceToDict d).lookup key = some (Json.ofText? text)) :
      optional pyStr (getValue r key) = .ok text := by
    rw [hread.getValue h]
    cases text <;> simp [Json.ofText?, arrange, optional, pyStr, Except.map]
  have hmetadata : r.lookup "metadata" =
      some (.object (f (arrangeFields f d.val.metadata))) := hread.object rfl
  have hid : getItem r "device_id" = .ok (.text d.val.deviceId) := hread.text rfl
  have htype : getItem r "device_type" = .ok (.text d.val.deviceType) := hread.text rfl
  have hmanufacturer : getItem r "manufacturer" = .ok (.text d.val.manufacturer) := hread.text rfl
  have hmodel : getItem r "model" = .ok (.text d.val.model) := hread.text rfl
  have hserial : optional pyStr (getValue r "serial_number") = .ok d.val.serialNumber :=
    hoptional rfl
  have hfirmware : optional pyStr (getValue r "firmware_version") = .ok d.val.firmwareVersion :=
    hoptional rfl
  have hsoftware : optional pyStr (getValue r "software_version") = .ok d.val.softwareVersion :=
    hoptional rfl
  unfold deviceFromDict
  simp only [mapping, ok_bind, pyStr, hid, htype, hmanufacturer, hmodel, hserial, hfirmware,
    hsoftware, hmetadata, Option.getD_some]
  have hconstruct := construct_val (DeviceDescriptor.arranged f hf d)
  exact congrArg (Except.mapError PyError.wrapped) hconstruct

omit hf in
theorem sideOf_value (side : Side) : sideOf (.text side.value : Json δ) = .ok side := by
  cases side <;> rfl

omit hf in
theorem motionKindOf_value (kind : MotionKind) :
    motionKindOf (.text kind.value : Json δ) = .ok kind := by
  cases kind <;> rfl

/-- **The dictionary of a sample is read back**, in any order of its keys. -/
theorem sampleFromDict_arranged (s : MotionInputSample δ)
    (hmajor : majorPart s.val.protocolVersion = majorPart umipVersion) :
    sampleFromDict (f (arrangeFields f (sampleToDict s))) =
      .ok (MotionInputSample.arranged f hf s) := by
  obtain ⟨r, hr, hread⟩ : ∃ r, arrange f (.object (sampleToDict s)) = .object r ∧ Reads f r _ :=
    reads_arranged hf ["protocol_version", "sample_id", "stream_id", "sequence_number",
      "capture_timestamp", "receive_timestamp", "device_timestamp", "processing_timestamp",
      "tracking_state", "tracking_confidence", "coordinate_frame", "device", "side",
      "wrist_pose", "palm_pose", "motion_kind", "articulation", "metadata", "extensions"] rfl
      (by decide)
  rw [arrange] at hr
  rw [Json.object.inj hr]
  have htextD {key text : String} (h : (sampleToDict s).lookup key = some (.text text)) :
      r.lookup key = some (.text text) := by
    rw [hread key, h, Option.map_some, arrange]
  have hoptionalTimestamp {key : String} {t : Option Timestamp}
      (h : (sampleToDict s).lookup key = some (optionalDict timestampDict t)) :
      optional timestampOf (getValue r key) = .ok t := by
    rw [hread.getValue h, optionalTimestamp_arranged hf]
  have hpose {key : String} {p : Option (Pose6D δ)}
      (h : (sampleToDict s).lookup key = some (optionalDict poseDict p)) :
      optional poseOf (getValue r key) = .ok p := by
    rw [hread.getValue h, optionalPose_arranged hf]
  have hcheck := s.property
  simp only [SampleFields.check, bind_eq_ok] at hcheck
  obtain ⟨_, -, _, -, _, -, _, -, _, -, _, hconfidence, -⟩ := hcheck
  have hversion : r.lookup "protocol_version" = some (.text s.val.protocolVersion) :=
    htextD rfl
  have hsample : getItem r "sample_id" = .ok (.text s.val.sampleId) := hread.text rfl
  have hstream : getItem r "stream_id" = .ok (.text s.val.streamId) := hread.text rfl
  have hsequence : getItem r "sequence_number" = .ok (arrange f (.int s.val.sequenceNumber)) :=
    hread.getItem rfl
  have hcapture : getItem r "capture_timestamp" =
      .ok (arrange f (timestampDict s.val.captureTimestamp)) := hread.getItem rfl
  have hreceive : getItem r "receive_timestamp" =
      .ok (arrange f (timestampDict s.val.receiveTimestamp)) := hread.getItem rfl
  have hdevice : optional timestampOf (getValue r "device_timestamp") =
      .ok s.val.deviceTimestamp := hoptionalTimestamp rfl
  have hprocessing : optional timestampOf (getValue r "processing_timestamp") =
      .ok s.val.processingTimestamp := hoptionalTimestamp rfl
  have hstate : getItem r "tracking_state" = .ok (.text s.val.trackingState.value) := hread.text rfl
  have hconfidence : getValue r "tracking_confidence" = s.val.trackingConfidence :=
    hread.number rfl hconfidence
  have hframe : getItem r "coordinate_frame" = .ok (.text s.val.coordinateFrame) := hread.text rfl
  have hdescriptor : getItem r "device" =
      .ok (.object (f (arrangeFields f (deviceToDict s.val.device)))) := by
    unfold getItem
    rw [hread.object rfl]
    rfl
  have hside : getItem r "side" = .ok (.text s.val.side.value) := hread.text rfl
  have hwrist : optional poseOf (getValue r "wrist_pose") = .ok s.val.wristPose := hpose rfl
  have hpalm : optional poseOf (getValue r "palm_pose") = .ok s.val.palmPose := hpose rfl
  have hkind : r.lookup "motion_kind" = some (.text s.val.motionKind.value) := htextD rfl
  have harticulation : getValue r "articulation" =
      arrange f (optionalDict articulationDict s.val.articulation) := hread.getValue rfl
  have hmetadata : r.lookup "metadata" =
      some (.object (f (arrangeFields f s.val.metadata))) := hread.object rfl
  have hextensions : r.lookup "extensions" =
      some (.object (f (arrangeFields f s.val.extensions))) := hread.object rfl
  have hsupported : raiseWhen
      (decide (majorPart s.val.protocolVersion ≠ majorPart umipVersion)) .serializationError =
        .ok () := by
    rw [raiseWhen_eq_ok, decide_eq_false_iff_not, not_not]
    exact hmajor
  unfold sampleFromDict
  simp only [ok_bind, mapping, pyStr, pyInt, arrange, Option.getD_some, hversion, hsupported,
    harticulation, optionalArticulation_arranged hf, hsample, hstream, hsequence, hcapture,
    hreceive, requiredTimestamp_arranged hf, hdevice, hprocessing, hstate,
    trackingStateOf_value, hconfidence, hframe, hdescriptor, deviceFromDict_arranged hf, hside,
    sideOf_value, hwrist, hpalm, hkind, motionKindOf_value, hmetadata, hextensions]
  have hconstruct := construct_val (MotionInputSample.arranged f hf s)
  exact congrArg (Except.mapError PyError.wrapped) hconstruct

end Components

/-! ## The order of the source -/

section Identity

variable {ε : Type}

mutual

theorem arrange_id : ∀ value : Json ε, arrange id value = value
  | .null => by rw [arrange]
  | .bool b => by rw [arrange]
  | .int n => by rw [arrange]
  | .float x => by rw [arrange]
  | .text text => by rw [arrange]
  | .list values => by rw [arrange, arrangeAll_id values]
  | .object fields => by rw [arrange, arrangeFields_id fields, id]

theorem arrangeAll_id : ∀ values : List (Json ε), arrangeAll id values = values
  | [] => rfl
  | value :: rest => by rw [arrangeAll, arrange_id value, arrangeAll_id rest]

theorem arrangeFields_id : ∀ fields : List (String × Json ε), arrangeFields id fields = fields
  | [] => rfl
  | (key, value) :: rest => by rw [arrangeFields, arrange_id value, arrangeFields_id rest]

end

end Identity

/-- **`sample_from_dict` inverts `sample_to_dict`.** -/
theorem sampleFromDict_sampleToDict (s : MotionInputSample δ)
    (hmajor : majorPart s.val.protocolVersion = majorPart umipVersion) :
    sampleFromDict (sampleToDict s) = .ok s := by
  have hid : ∀ fields : Record δ, (id fields).Perm fields := fun fields => List.Perm.refl fields
  have hread := sampleFromDict_arranged hid s hmajor
  have hsame : MotionInputSample.arranged id hid s = s := by
    have hdevice : DeviceDescriptor.arranged id hid s.val.device = s.val.device := by
      refine Subtype.ext ?_
      simp only [DeviceDescriptor.arranged, arrangeFields_id, id]
    refine Subtype.ext ?_
    simp only [MotionInputSample.arranged, arrangeFields_id, id]
    rw [hdevice]
  rw [arrangeFields_id, hsame] at hread
  exact hread

/-! ## The document -/

section Finite

theorem timestampDict_finite (t : Timestamp) : jsonFinite (timestampDict t : Json δ) = true := by
  cases h : t.val.uncertaintyNs <;>
    simp [timestampDict, h, Json.ofInt?, jsonFinite, fieldsFinite]

theorem optionalDict_finite {α : Type} {encode : α → Json δ}
    (h : ∀ a, jsonFinite (encode a) = true) (value : Option α) :
    jsonFinite (optionalDict encode value) = true := by
  cases value with
  | none => rw [optionalDict, jsonFinite]
  | some a => exact h a

theorem listMap_finite {α : Type} {encode : α → Json δ} {values : List α}
    (h : ∀ a ∈ values, jsonFinite (encode a) = true) :
    jsonFinite (.list (values.map encode)) = true := by
  rw [jsonFinite, allFinite_eq, List.all_map, List.all_eq_true]
  exact h

theorem ofText_finite (text : Option String) : jsonFinite (Json.ofText? text : Json δ) = true := by
  cases text <;> simp [Json.ofText?, jsonFinite]

theorem poseDict_finite (p : Pose6D δ) : jsonFinite (poseDict p) = true := by
  have hcheck := p.property
  simp only [PoseFields.check, bind_eq_ok] at hcheck
  obtain ⟨_, hposition, _, horientation, -⟩ := hcheck
  have hfinite {values : List δ} {n : ℕ}
      (h : finiteTuple values n = .ok ()) : jsonFinite (.list (values.map Json.float)) = true := by
    refine listMap_finite fun x hx => ?_
    rw [jsonFinite]
    have hall := (Bool.or_eq_false_iff.mp (raiseWhen_eq_ok.mp h)).2
    rw [Bool.not_eq_false', List.all_eq_true] at hall
    exact hall x hx
  rw [poseDict, jsonFinite, fieldsFinite_eq]
  simp only [List.all_cons, List.all_nil, hfinite hposition, hfinite horientation, Bool.and_self]

theorem jointDict_finite (j : JointSample δ) : jsonFinite (jointDict j) = true := by
  have hcheck := j.property
  simp only [JointFields.check, bind_eq_ok] at hcheck
  obtain ⟨_, -, _, hconfidence, _, hradius, -⟩ := hcheck
  rw [jointDict, jsonFinite, fieldsFinite_eq]
  simp only [List.all_cons, List.all_nil, optionalDict_finite poseDict_finite,
    finite_of_validateNumber hconfidence, finite_of_validateNumber hradius, jsonFinite,
    Bool.and_self]

theorem gestureDict_finite (g : GestureSample δ) : jsonFinite (gestureDict g) = true := by
  have hcheck := g.property
  simp only [GestureFields.check, bind_eq_ok] at hcheck
  obtain ⟨_, -, _, hconfidence, hvalue⟩ := hcheck
  rw [gestureDict, jsonFinite, fieldsFinite_eq]
  simp only [List.all_cons, List.all_nil, finite_of_validateNumber hconfidence,
    finite_of_validateNumber hvalue, jsonFinite, Bool.and_self]

theorem articulationDict_finite (a : HandArticulation δ) :
    jsonFinite (articulationDict a) = true := by
  have hcheck := a.property
  simp only [ArticulationFields.check, bind_eq_ok] at hcheck
  obtain ⟨_, -, _, hpinch, _, hgrasp, hconfidence⟩ := hcheck
  have hjoints : jsonFinite (.list (a.val.joints.map jointDict)) = true :=
    listMap_finite fun j _ => jointDict_finite j
  have hgestures : jsonFinite (.list (a.val.gestures.map gestureDict)) = true :=
    listMap_finite fun g _ => gestureDict_finite g
  rw [articulationDict, jsonFinite, fieldsFinite_eq]
  simp only [List.all_cons, List.all_nil, hjoints, hgestures, finite_of_validateNumber hpinch,
    finite_of_validateNumber hgrasp, finite_of_validateNumber hconfidence, Bool.and_self]

theorem finite_of_jsonMapping {fields : Record δ} (h : jsonMapping fields = .ok ()) :
    jsonFinite (.object fields) = true := by
  rw [jsonFinite]
  have hraise := raiseWhen_eq_ok.mp h
  simpa using hraise

theorem deviceToDict_finite (d : DeviceDescriptor δ) :
    jsonFinite (.object (deviceToDict d)) = true := by
  have hcheck := d.property
  simp only [DeviceFields.check, bind_eq_ok] at hcheck
  obtain ⟨_, -, _, -, _, -, _, -, hmetadata⟩ := hcheck
  rw [deviceToDict, jsonFinite, fieldsFinite_eq]
  simp only [List.all_cons, List.all_nil, ofText_finite, finite_of_jsonMapping hmetadata]
  simp only [jsonFinite, Bool.and_self]

theorem sampleToDict_finite (s : MotionInputSample δ) :
    jsonFinite (.object (sampleToDict s)) = true := by
  have hcheck := s.property
  simp only [SampleFields.check, bind_eq_ok] at hcheck
  obtain ⟨_, -, _, -, _, -, _, -, _, -, _, hconfidence, _, -, _, -, _, hmetadata, _, hextensions,
    -⟩ := hcheck
  rw [sampleToDict, jsonFinite, fieldsFinite_eq]
  simp only [List.all_cons, List.all_nil, timestampDict_finite,
    optionalDict_finite timestampDict_finite, optionalDict_finite poseDict_finite,
    optionalDict_finite articulationDict_finite, finite_of_validateNumber hconfidence,
    deviceToDict_finite, finite_of_jsonMapping hmetadata, finite_of_jsonMapping hextensions]
  simp only [jsonFinite, Bool.and_self]

end Finite

/-! ## Texts -/

omit [Python δ] in
theorem sortKeys_perm (fields : Record δ) : (sortKeys fields).Perm fields :=
  List.mergeSort_perm fields _

/-- The sample with sorted metadata. As a dictionary does not depend on the order of its
    keys, it is the same sample. -/
def MotionInputSample.sorted (s : MotionInputSample δ) : MotionInputSample δ :=
  MotionInputSample.arranged sortKeys sortKeys_perm s

/-- **The text of a sample is read back** if `json` reads what it writes. -/
theorem loadsSample_dumpsSample (json : JsonModule δ) (pretty : Bool) (s : MotionInputSample δ)
    (hmajor : majorPart s.val.protocolVersion = majorPart umipVersion)
    (hjson : json.loads (.text (json.dumps pretty (document s))) = some (document s)) :
    ∃ text, dumpsSample json pretty s = .ok text ∧
      loadsSample json (.text text) = .ok (MotionInputSample.sorted s) := by
  have hfinite : jsonFinite (document s) = true := by
    unfold document
    rw [jsonFinite_arrange sortKeys_perm]
    exact sampleToDict_finite s
  refine ⟨json.dumps pretty (document s), ?_, ?_⟩
  · unfold dumpsSample
    rw [if_pos hfinite]
  · unfold loadsSample
    rw [hjson]
    unfold document
    rw [arrange]
    exact sampleFromDict_arranged sortKeys_perm s hmajor

end HandLab.Umip
