import HandLab.Quest.FrameDecoding

/-!
# The contract of a headset frame

What a frame of `parse_quest_frame` does in `QuestMotionProvider._read`
(`src/motion_input/quest.py`, lines 232–284). The decoder passes the tracking confidence
and the metadata on as they are, and the sample refuses them after the provider has taken
over the number of the frame and the time.

* `translated_succeeds`, `translated_foreign`: the frames that become a sample, and those
  that raise an exception which is not of this package.
* `frame_contained_iff`: the contract of both stages.
* `frames_escape`: an infinite number and a confidence that is a text.
-/

namespace HandLab.Quest

open HandLab.Lib HandLab.Episode HandLab.Umip

/-! ## Exceptions -/

section Exceptions

variable {α β : Type} {e : PyError}

/-- The call returns. -/
def Succeeds (x : Except PyError α) : Prop := ∃ a, x = .ok a

/-- The call raises an exception that is neither a `SerializationError` nor a
    `ProtocolValidationError`. -/
def Foreign (x : Except PyError α) : Prop :=
  ∃ e, x = .error e ∧ e ≠ .serializationError ∧ e ≠ .protocolValidationError

@[simp] theorem succeeds_ok (a : α) : Succeeds (.ok a : Except PyError α) := ⟨a, rfl⟩

@[simp] theorem not_succeeds_error : ¬Succeeds (.error e : Except PyError α) := fun ⟨_, h⟩ => nomatch h

@[simp] theorem not_foreign_ok (a : α) : ¬Foreign (.ok a : Except PyError α) :=
  fun ⟨_, h, _⟩ => nomatch h

@[simp] theorem foreign_error : Foreign (.error e : Except PyError α) ↔
    e ≠ .serializationError ∧ e ≠ .protocolValidationError := by
  constructor
  · rintro ⟨e', h, hkinds⟩
    rw [Except.error.inj h]
    exact hkinds
  · exact fun h => ⟨e, rfl, h⟩

theorem succeeds_bind (x : Except PyError α) (g : α → Except PyError β) :
    Succeeds (x >>= g) ↔ Then x fun a => Succeeds (g a) := by
  cases x with
  | error e => exact iff_of_false not_succeeds_error fun ⟨_, h, _⟩ => nomatch h
  | ok a =>
    rw [ok_bind]
    exact ⟨fun h => ⟨a, rfl, h⟩, fun ⟨b, hb, h⟩ => by rw [Except.ok.inj hb]; exact h⟩

theorem then_const (x : Except PyError α) (q : Prop) : (Then x fun _ => q) ↔ Succeeds x ∧ q :=
  ⟨fun ⟨a, ha, hq⟩ => ⟨⟨a, ha⟩, hq⟩, fun ⟨⟨a, ha⟩, hq⟩ => ⟨a, ha, hq⟩⟩

theorem foreign_bind (x : Except PyError α) (g : α → Except PyError β) :
    Foreign (x >>= g) ↔ Foreign x ∨ Then x fun a => Foreign (g a) := by
  cases x with
  | error e =>
    have hbind : (.error e : Except PyError α) >>= g = .error e := rfl
    rw [hbind, foreign_error, foreign_error, or_iff_left fun ⟨_, h, _⟩ => nomatch h]
  | ok a =>
    rw [ok_bind, or_iff_right (not_foreign_ok a)]
    exact ⟨fun h => ⟨a, rfl, h⟩, fun ⟨b, hb, h⟩ => by rw [Except.ok.inj hb]; exact h⟩

@[simp] theorem succeeds_map (x : Except PyError α) (g : α → β) :
    Succeeds (x.map g) ↔ Succeeds x := by
  cases x with
  | error e => exact iff_of_false not_succeeds_error not_succeeds_error
  | ok a => exact iff_of_true (succeeds_ok (g a)) (succeeds_ok a)

@[simp] theorem foreign_map (x : Except PyError α) (g : α → β) :
    Foreign (x.map g) ↔ Foreign x := by
  cases x with
  | error e => exact foreign_error.trans foreign_error.symm
  | ok a => exact iff_of_false (not_foreign_ok _) (not_foreign_ok _)

@[simp] theorem succeeds_raiseWhen (refused : Bool) :
    Succeeds (raiseWhen refused e) ↔ refused = false := by
  cases refused with
  | true => exact iff_of_false not_succeeds_error nofun
  | false => exact iff_of_true (succeeds_ok ()) rfl

@[simp] theorem not_foreign_refuse (refused : Bool) :
    ¬Foreign (raiseWhen refused .protocolValidationError) := by
  cases refused with
  | true => exact fun h => (foreign_error.mp h).2 rfl
  | false => exact not_foreign_ok ()

@[simp] theorem succeeds_construct {check : α → Except PyError Unit} (a : α) :
    Succeeds (construct check a) ↔ Succeeds (check a) := by
  constructor
  · rintro ⟨b, hb⟩
    exact ⟨(), construct_eq_ok hb ▸ b.property⟩
  · rintro ⟨_, h⟩
    exact ⟨_, construct_ok h⟩

@[simp] theorem foreign_construct {check : α → Except PyError Unit} (a : α) :
    Foreign (construct check a) ↔ Foreign (check a) := by
  cases h : check a with
  | ok u => rw [construct_ok h]; exact iff_of_false (not_foreign_ok _) (not_foreign_ok _)
  | error e =>
    have hconstruct : construct check a = .error e := by
      unfold construct
      split
      · rename_i hok
        exact nomatch hok.symm.trans h
      · rename_i e' herror
        rw [Except.error.inj (herror.symm.trans h)]
    rw [hconstruct, foreign_error, foreign_error]

variable {f : α → Except PyError β}

/-- A list is converted if all its items are. -/
theorem succeeds_mapM {values : List α} :
    Succeeds (values.mapM f) ↔ ∀ value ∈ values, Succeeds (f value) := by
  induction values with
  | nil => exact iff_of_true (succeeds_ok []) (by simp)
  | cons head rest ih =>
    rw [List.mapM_cons, succeeds_bind, List.forall_mem_cons, ← ih]
    constructor
    · rintro ⟨b, hb, h⟩
      obtain ⟨bs, hbs, -⟩ := (succeeds_bind _ _).mp h
      exact ⟨⟨b, hb⟩, ⟨bs, hbs⟩⟩
    · rintro ⟨⟨b, hb⟩, ⟨bs, hbs⟩⟩
      exact ⟨b, hb, (succeeds_bind _ _).mpr ⟨bs, hbs, succeeds_ok _⟩⟩

theorem not_foreign_mapM {values : List α}
    (h : ∀ value ∈ values, ¬Foreign (f value)) : ¬Foreign (values.mapM f) := by
  induction values with
  | nil => exact not_foreign_ok []
  | cons head rest ih =>
    obtain ⟨hhead, hrest⟩ := List.forall_mem_cons.mp h
    rw [List.mapM_cons, foreign_bind]
    rintro (hforeign | ⟨b, -, hforeign⟩)
    · exact hhead hforeign
    · rcases (foreign_bind _ _).mp hforeign with hforeign | ⟨bs, -, hforeign⟩
      · exact ih hrest hforeign
      · exact not_foreign_ok _ hforeign

/-- What the conversion of the items keeps. -/
theorem map_of_mapM {γ : Type} (key : α → γ) {key' : β → γ}
    (hf : ∀ value b, f value = .ok b → key' b = key value) {values : List α} {bs : List β}
    (h : values.mapM f = .ok bs) : bs.map key' = values.map key := by
  induction values generalizing bs with
  | nil => rw [← Except.ok.inj h]; rfl
  | cons head rest ih =>
    rw [List.mapM_cons] at h
    obtain ⟨b, hb, h⟩ := bind_eq_ok.mp h
    obtain ⟨bs', hbs, h⟩ := bind_eq_ok.mp h
    rw [← Except.ok.inj h, List.map_cons, List.map_cons, hf head b hb, ih hbs]

end Exceptions

variable {δ : Type} [Python δ]

/-! ## Conversions -/

/-- A value that is no number. -/
def NotNumber : Json δ → Prop
  | .null | .bool _ | .int _ | .float _ => False
  | .text _ | .list _ | .object _ => True

theorem foreign_validateUnitInterval (value : Json δ) :
    Foreign (validateUnitInterval value) ↔ NotNumber value ∨ TooLarge value := by
  have hfinite (n : ℤ) : Foreign (mathIsfinite (.int n : Json δ)) ↔ TooLarge (.int n : Json δ) := by
    show Foreign ((orRaise .overflowError (Python.float? n : Option δ)).map _) ↔
      (Python.float? n : Option δ) = none
    rw [foreign_map]
    cases (Python.float? n : Option δ) with
    | none => exact iff_of_true (foreign_error.mpr (by decide)) rfl
    | some x => exact iff_of_false (not_foreign_ok x) (Option.some_ne_none x)
  have htype : Foreign (.error .typeError : Except PyError Unit) := foreign_error.mpr (by decide)
  unfold validateUnitInterval validateNumber
  cases value with
  | null => exact iff_of_false (not_foreign_ok ()) (by simp [NotNumber, TooLarge])
  | int n =>
    rw [foreign_bind, hfinite]
    have hrefuse : ¬Then (mathIsfinite (.int n : Json δ)) fun finite => Foreign
        (raiseWhen (!finite || (below 0 (.int n : Json δ) || above 1 (.int n : Json δ)))
          .protocolValidationError) := by
      rintro ⟨_, _, h⟩
      exact not_foreign_refuse _ h
    rw [or_iff_left hrefuse, or_iff_right (show ¬NotNumber (.int n : Json δ) from id)]
  | bool b =>
    exact iff_of_false (fun h => not_foreign_refuse _ h) (by simp [NotNumber, TooLarge])
  | float x =>
    exact iff_of_false (fun h => not_foreign_refuse _ h) (by simp [NotNumber, TooLarge])
  | text text => exact iff_of_true htype (.inl trivial)
  | list values => exact iff_of_true htype (.inl trivial)
  | object fields => exact iff_of_true htype (.inl trivial)

/-- The numbers of a pose. -/
theorem pose_shape (pose : Pose6D δ) : ∃ x y z qx qy qz qw,
    pose.val.positionM = [x, y, z] ∧ pose.val.orientationXyzw = [qx, qy, qz, qw] := by
  obtain ⟨⟨position, orientation⟩, hcheck⟩ := pose
  unfold PoseFields.check at hcheck
  obtain ⟨_, hposition, hcheck⟩ := bind_eq_ok.mp hcheck
  obtain ⟨_, horientation, -⟩ := bind_eq_ok.mp hcheck
  have hthree : position.length = 3 := by
    have h := (Bool.or_eq_false_iff.mp (raiseWhen_eq_ok.mp hposition)).1
    simpa using h
  have hfour : orientation.length = 4 := by
    have h := (Bool.or_eq_false_iff.mp (raiseWhen_eq_ok.mp horientation)).1
    simpa using h
  obtain ⟨x, y, z, rfl⟩ := List.length_eq_three.mp hthree
  match orientation, hfour with
  | [qx, qy, qz, qw], _ => exact ⟨x, y, z, qx, qy, qz, qw, rfl, rfl⟩

theorem not_foreign_poseCheck (p : PoseFields δ) : ¬Foreign p.check := by
  unfold PoseFields.check finiteTuple
  simp [foreign_bind, Then]

theorem not_foreign_unityToOpenxrPose (pose : Pose6D δ) : ¬Foreign (unityToOpenxrPose pose) := by
  obtain ⟨x, y, z, qx, qy, qz, qw, hposition, horientation⟩ := pose_shape pose
  unfold unityToOpenxrPose
  rw [hposition, horientation, foreign_construct]
  exact not_foreign_poseCheck _

theorem not_foreign_conversion {basis : String} {convert : Pose6D δ → Except PyError (Pose6D δ)}
    (h : conversion basis = some convert) (pose : Pose6D δ) : ¬Foreign (convert pose) := by
  unfold conversion at h
  split_ifs at h
  · rw [← Option.some.inj h]
    exact not_foreign_unityToOpenxrPose pose
  · rw [← Option.some.inj h]
    exact not_foreign_ok pose

section Convert

variable {convert : Pose6D δ → Except PyError (Pose6D δ)}

theorem succeeds_convertPose (pose : Option (Pose6D δ)) :
    Succeeds (convertPose convert pose) ↔ ∀ q ∈ pose, Succeeds (convert q) := by
  cases pose with
  | none => exact iff_of_true (succeeds_ok none) nofun
  | some q =>
    rw [convertPose, succeeds_map]
    exact ⟨fun h q' hq' => Option.some.inj hq' ▸ h, fun h => h q rfl⟩

theorem not_foreign_convertPose (hconvert : ∀ pose, ¬Foreign (convert pose))
    (pose : Option (Pose6D δ)) : ¬Foreign (convertPose convert pose) := by
  cases pose with
  | none => exact not_foreign_ok none
  | some q =>
    rw [convertPose, foreign_map]
    exact hconvert q

/-- A conversion does not make a pose out of `None`, nor `None` out of a pose. -/
theorem isNone_of_convertPose {pose converted : Option (Pose6D δ)}
    (h : convertPose convert pose = .ok converted) : converted.isNone = pose.isNone := by
  cases pose with
  | none => rw [← Except.ok.inj h]
  | some q =>
    rw [convertPose] at h
    cases hq : convert q with
    | error e => rw [hq] at h; exact nomatch h
    | ok r => rw [hq] at h; rw [← Except.ok.inj h]; rfl

/-- A joint with its pose converted passes the check that it passed before. -/
theorem jointCheck_converted (joint : JointSample δ) {pose : Option (Pose6D δ)}
    (h : pose.isNone = joint.val.pose.isNone) :
    JointFields.check ⟨joint.val.name, pose, joint.val.trackingState, joint.val.confidence,
      joint.val.radiusM⟩ = .ok () := by
  refine Eq.trans ?_ joint.property
  unfold JointFields.check
  dsimp only
  rw [h]

theorem succeeds_convertJoint (joint : JointSample δ) :
    Succeeds (convertJoint convert joint) ↔ ∀ q ∈ joint.val.pose, Succeeds (convert q) := by
  rw [convertJoint, succeeds_bind, ← succeeds_convertPose]
  constructor
  · rintro ⟨pose, hpose, -⟩
    exact ⟨pose, hpose⟩
  · rintro ⟨pose, hpose⟩
    refine ⟨pose, hpose, (succeeds_construct _).mpr ⟨(), ?_⟩⟩
    exact jointCheck_converted joint (isNone_of_convertPose hpose)

theorem not_foreign_convertJoint (hconvert : ∀ pose, ¬Foreign (convert pose))
    (joint : JointSample δ) : ¬Foreign (convertJoint convert joint) := by
  rw [convertJoint, foreign_bind]
  rintro (h | ⟨pose, hpose, h⟩)
  · exact not_foreign_convertPose hconvert _ h
  · rw [foreign_construct, jointCheck_converted joint (isNone_of_convertPose hpose)] at h
    exact not_foreign_ok () h

theorem name_of_convertJoint {joint converted : JointSample δ}
    (h : convertJoint convert joint = .ok converted) : converted.val.name = joint.val.name := by
  obtain ⟨pose, -, h⟩ := bind_eq_ok.mp h
  rw [construct_eq_ok h]

theorem articulationCheck_converted (articulation : HandArticulation δ)
    {joints : List (JointSample δ)}
    (h : articulation.val.joints.mapM (convertJoint convert) = .ok joints) :
    ArticulationFields.check ⟨joints, articulation.val.gestures, articulation.val.pinchStrength,
      articulation.val.graspStrength, articulation.val.confidence⟩ = .ok () := by
  have hnames := map_of_mapM (fun joint : JointSample δ => joint.val.name)
    (fun _ _ => name_of_convertJoint) h
  refine Eq.trans ?_ articulation.property
  unfold ArticulationFields.check
  dsimp only
  rw [hnames]

theorem succeeds_convertArticulation (articulation : Option (HandArticulation δ)) :
    Succeeds (convertArticulation convert articulation) ↔ ∀ a ∈ articulation,
      ∀ joint ∈ a.val.joints, ∀ q ∈ joint.val.pose, Succeeds (convert q) := by
  cases articulation with
  | none => exact iff_of_true (succeeds_ok none) nofun
  | some a =>
    have hjoints : Succeeds (a.val.joints.mapM (convertJoint convert)) ↔
        ∀ joint ∈ a.val.joints, ∀ q ∈ joint.val.pose, Succeeds (convert q) := by
      rw [succeeds_mapM]
      exact forall₂_congr fun joint _ => succeeds_convertJoint joint
    rw [convertArticulation, succeeds_bind]
    constructor
    · rintro ⟨joints, h, -⟩ a' ha'
      rw [← Option.some.inj ha']
      exact hjoints.mp ⟨joints, h⟩
    · intro h
      obtain ⟨joints, hconverted⟩ := hjoints.mpr (h a rfl)
      refine ⟨joints, hconverted, (succeeds_bind _ _).mpr ?_⟩
      exact ⟨_, construct_ok (articulationCheck_converted a hconverted), succeeds_ok _⟩

theorem not_foreign_convertArticulation (hconvert : ∀ pose, ¬Foreign (convert pose))
    (articulation : Option (HandArticulation δ)) :
    ¬Foreign (convertArticulation convert articulation) := by
  cases articulation with
  | none => exact not_foreign_ok none
  | some a =>
    rw [convertArticulation, foreign_bind]
    rintro (h | ⟨joints, hjoints, h⟩)
    · exact not_foreign_mapM (fun joint _ => not_foreign_convertJoint hconvert joint) h
    · rw [construct_ok (articulationCheck_converted a hjoints), ok_bind] at h
      exact not_foreign_ok _ h

end Convert

/-! ## The sample of a frame -/

theorem succeeds_hostTimestamp (ns : ℤ) : Succeeds (hostTimestamp ns) ↔ 0 ≤ ns := by
  constructor
  · rintro ⟨t, ht⟩
    have hcheck := t.property
    rw [construct_eq_ok ht] at hcheck
    obtain ⟨_, hnegative, -⟩ := bind_eq_ok.mp hcheck
    exact not_lt.mp (of_decide_eq_false (raiseWhen_eq_ok.mp hnegative))
  · exact hostTimestamp_ok

theorem not_foreign_hostTimestamp (ns : ℤ) : ¬Foreign (hostTimestamp ns) := by
  rw [hostTimestamp, foreign_construct]
  unfold TimestampFields.check
  simp [foreign_bind, Then]

theorem sampleCheck_succeeds (s : SampleFields δ) : Succeeds s.check ↔
    blank s.sampleId = false ∧ blank s.streamId = false ∧ blank s.coordinateFrame = false ∧
      0 ≤ s.sequenceNumber ∧ versionAdmitted δ s.protocolVersion = true ∧
      Succeeds (validateUnitInterval s.trackingConfidence) ∧
      (s.trackingState = .tracking → s.wristPose.isNone = false) ∧
      (s.trackingState = .notTracking ∨ s.trackingState = .disconnected →
        s.wristPose.isNone = true ∧ s.palmPose.isNone = true) ∧
      fieldsFinite s.metadata = true ∧ fieldsFinite s.extensions = true ∧
      s.extensions.all (fun extension => extension.1.toList.contains '.') = true := by
  have htracking : (decide (s.trackingState = .tracking) && s.wristPose.isNone) = false ↔
      (s.trackingState = .tracking → s.wristPose.isNone = false) := by
    by_cases h : s.trackingState = .tracking <;> simp [h]
  have hlost : ((decide (s.trackingState = .notTracking) || decide (s.trackingState = .disconnected))
      && (s.wristPose.isSome || s.palmPose.isSome)) = false ↔
      (s.trackingState = .notTracking ∨ s.trackingState = .disconnected →
        s.wristPose.isNone = true ∧ s.palmPose.isNone = true) := by
    cases s.trackingState <;> simp
  unfold SampleFields.check jsonMapping
  simp only [succeeds_bind, then_const, succeeds_raiseWhen, htracking, hlost, Bool.not_eq_false',
    decide_eq_false_iff_not, not_lt]

theorem sampleCheck_foreign (s : SampleFields δ) : Foreign s.check ↔
    blank s.sampleId = false ∧ blank s.streamId = false ∧ blank s.coordinateFrame = false ∧
      0 ≤ s.sequenceNumber ∧ versionAdmitted δ s.protocolVersion = true ∧
      (NotNumber s.trackingConfidence ∨ TooLarge s.trackingConfidence) := by
  unfold SampleFields.check jsonMapping
  simp only [foreign_bind, then_const, succeeds_raiseWhen, not_foreign_refuse,
    foreign_validateUnitInterval, Bool.not_eq_false', decide_eq_false_iff_not, not_lt, false_or,
    and_false, or_false]

def QuestFrame.poses (frame : QuestFrame δ) : List (Pose6D δ) :=
  frame.wristPose.toList ++ frame.palmPose.toList ++ frame.articulation.toList.flatMap fun a =>
    a.val.joints.flatMap fun joint => joint.val.pose.toList

/-- What the frame says of itself passes the checks of a sample. -/
structure QuestFrame.Fits (frame : QuestFrame δ) : Prop where
  stream : blank frame.streamId = false
  number : 0 ≤ frame.sequenceNumber
  confidence : Succeeds (validateUnitInterval frame.trackingConfidence)
  tracking : frame.trackingState = .tracking → frame.wristPose.isNone = false
  lost : frame.trackingState = .notTracking ∨ frame.trackingState = .disconnected →
    frame.wristPose.isNone = true ∧ frame.palmPose.isNone = true
  metadata : fieldsFinite (MotionProvider.sampleMetadata frame) = true

/-- The frame comes as far as the check of its confidence, which is no number, or an
    integer beyond the finite floats. -/
structure QuestFrame.Odd (frame : QuestFrame δ) : Prop where
  stream : blank frame.streamId = false
  number : 0 ≤ frame.sequenceNumber
  confidence : NotNumber frame.trackingConfidence ∨ TooLarge frame.trackingConfidence

/-- What is made before the check of the sample. -/
structure Prepared (p : MotionProvider δ) (uuid5? : String → Option Uuid)
    (convert : Pose6D δ → Except PyError (Pose6D δ)) (frame : QuestFrame δ)
    (receiveNs processingNs : ℤ) : Prop where
  uuid : uuid5? (p.sampleName frame) ≠ none
  clock : 0 ≤ receiveNs ∧ 0 ≤ processingNs
  poses : ∀ pose ∈ frame.poses, Succeeds (convert pose)

namespace MotionProvider

variable {p : MotionProvider δ} {uuid5? : String → Option Uuid}
  {convert : Pose6D δ → Except PyError (Pose6D δ)} {frame : QuestFrame δ}
  {receiveNs processingNs : ℤ}

theorem then_congr {α : Type} {x : Except PyError α} {f : α → Prop} {q : Prop}
    (h : ∀ a, x = .ok a → (f a ↔ q)) : Then x f ↔ Succeeds x ∧ q := by
  constructor
  · rintro ⟨a, ha, hf⟩
    exact ⟨⟨a, ha⟩, (h a ha).mp hf⟩
  · rintro ⟨⟨a, ha⟩, hq⟩
    exact ⟨a, ha, (h a ha).mpr hq⟩

theorem succeeds_orRaise {α : Type} (e : PyError) (a : Option α) :
    Succeeds (orRaise e a) ↔ a ≠ none := by
  cases a with
  | none => exact iff_of_false not_succeeds_error (not_not.mpr rfl)
  | some a => exact iff_of_true (succeeds_ok a) nofun

theorem foreign_orRaise {α : Type} (a : Option α) :
    Foreign (orRaise .valueError a) ↔ a = none := by
  cases a with
  | none => exact iff_of_true (foreign_error.mpr ⟨nofun, nofun⟩) rfl
  | some a => exact iff_of_false (not_foreign_ok a) nofun

theorem frameId_not_blank (p : MotionProvider δ) (frame : QuestFrame δ) :
    blank (p.frameId frame) = false := by
  unfold frameId
  simp only [String.append_assoc]
  exact blank_append (c := 'q') (by decide) rfl _

theorem prepared_iff : Prepared p uuid5? convert frame receiveNs processingNs ↔
    Succeeds (orRaise .valueError (uuid5? (p.sampleName frame))) ∧
      Succeeds (hostTimestamp receiveNs) ∧ Succeeds (hostTimestamp processingNs) ∧
      Succeeds (convertPose convert frame.wristPose) ∧
      Succeeds (convertPose convert frame.palmPose) ∧
      Succeeds (convertArticulation convert frame.articulation) := by
  rw [succeeds_orRaise, succeeds_hostTimestamp, succeeds_hostTimestamp, succeeds_convertPose,
    succeeds_convertPose, succeeds_convertArticulation]
  constructor
  · rintro ⟨huuid, ⟨hreceive, hprocessing⟩, hposes⟩
    refine ⟨huuid, hreceive, hprocessing, fun q hq => hposes q ?_, fun q hq => hposes q ?_,
      fun a ha joint hjoint q hq => hposes q ?_⟩
    · simp [QuestFrame.poses, Option.mem_def.mp hq]
    · simp [QuestFrame.poses, Option.mem_def.mp hq]
    · simp only [QuestFrame.poses, List.mem_append, List.mem_flatMap, Option.mem_toList]
      exact .inr ⟨a, ha, joint, hjoint, hq⟩
  · rintro ⟨huuid, hreceive, hprocessing, hwrist, hpalm, hjoints⟩
    refine ⟨huuid, ⟨hreceive, hprocessing⟩, fun q hq => ?_⟩
    simp only [QuestFrame.poses, List.mem_append, List.mem_flatMap, Option.mem_toList] at hq
    rcases hq with (hq | hq) | ⟨a, ha, joint, hjoint, hq⟩
    · exact hwrist q hq
    · exact hpalm q hq
    · exact hjoints a ha joint hjoint q hq

/-- **The frames that become a sample.** -/
theorem translated_succeeds (hversion : versionAdmitted δ umipVersion = true) :
    Succeeds (p.translated convert uuid5? frame receiveNs processingNs) ↔
      Prepared p uuid5? convert frame receiveNs processingNs ∧ frame.Fits := by
  rw [prepared_iff]
  simp only [and_assoc]
  unfold translated
  rw [succeeds_bind]
  refine then_congr fun uuid huuid => ?_
  rw [succeeds_bind]
  refine then_congr fun receive hreceive => ?_
  rw [succeeds_bind]
  refine then_congr fun processing hprocessing => ?_
  rw [succeeds_bind]
  refine then_congr fun wrist hwrist => ?_
  rw [succeeds_bind]
  refine then_congr fun palm hpalm => ?_
  rw [succeeds_bind]
  refine then_congr fun articulation harticulation => ?_
  rw [succeeds_construct, sampleCheck_succeeds]
  dsimp only
  rw [isNone_of_convertPose hwrist, isNone_of_convertPose hpalm]
  constructor
  · rintro ⟨-, hstream, -, hnumber, -, hconfidence, htracking, hlost, hmetadata, -, -⟩
    exact ⟨hstream, hnumber, hconfidence, htracking, hlost, hmetadata⟩
  · intro h
    exact ⟨uuid.nonblank, h.stream, frameId_not_blank p frame, h.number, hversion, h.confidence,
      h.tracking, h.lost, h.metadata, rfl, rfl⟩

/-- **The frames that raise an exception of another module.** -/
theorem translated_foreign (hversion : versionAdmitted δ umipVersion = true)
    (hconvert : ∀ pose, ¬Foreign (convert pose)) :
    Foreign (p.translated convert uuid5? frame receiveNs processingNs) ↔
      uuid5? (p.sampleName frame) = none ∨
        Prepared p uuid5? convert frame receiveNs processingNs ∧ frame.Odd := by
  rw [prepared_iff]
  simp only [and_assoc]
  unfold translated
  rw [foreign_bind, foreign_orRaise]
  refine or_congr_right (then_congr fun uuid huuid => ?_)
  rw [foreign_bind, or_iff_right (not_foreign_hostTimestamp _)]
  refine then_congr fun receive hreceive => ?_
  rw [foreign_bind, or_iff_right (not_foreign_hostTimestamp _)]
  refine then_congr fun processing hprocessing => ?_
  rw [foreign_bind, or_iff_right (not_foreign_convertPose hconvert _)]
  refine then_congr fun wrist hwrist => ?_
  rw [foreign_bind, or_iff_right (not_foreign_convertPose hconvert _)]
  refine then_congr fun palm hpalm => ?_
  rw [foreign_bind, or_iff_right (not_foreign_convertArticulation hconvert _)]
  refine then_congr fun articulation harticulation => ?_
  rw [foreign_construct, sampleCheck_foreign]
  constructor
  · rintro ⟨-, hstream, -, hnumber, -, hconfidence⟩
    exact ⟨hstream, hnumber, hconfidence⟩
  · intro h
    exact ⟨uuid.nonblank, h.stream, frameId_not_blank p frame, h.number, hversion, h.confidence⟩

end MotionProvider

/-! ## Both stages -/

namespace MotionProvider

/-- A read returns a sample, or raises an exception of this package and leaves the numbers
    and the activity of the provider as they were. -/
def Contained (before : MotionProvider δ) :
    Except PyError (Option (MotionInputSample δ)) × MotionProvider δ → Prop
  | (.ok sample, _) => sample.isSome = true
  | (.error e, after) => (e = .serializationError ∨ e = .protocolValidationError) ∧
      after.lastSequence = before.lastSequence ∧
      after.lastActivityNs = before.lastActivityNs ∧ after.disconnected = before.disconnected

variable (p : MotionProvider δ) (uuid5? : String → Option Uuid) (i : ReadInput δ)
  (frame : QuestFrame δ)

/-- The frame brings neither a new number nor a new time. -/
structure Unmoved : Prop where
  number : frame.sequenceNumber ≤ p.lastSequence frame.side
  time : i.nowNs = p.lastActivityNs
  connected : p.disconnected = false

/-- The frames with which a read is contained. -/
def Admits : Prop :=
  match conversion (δ := δ) frame.basis with
  | none => p.Unmoved i frame
  | some convert =>
    Prepared p uuid5? convert frame i.nowNs i.processingNs ∧ frame.Fits ∨
      p.Unmoved i frame ∧ uuid5? (p.sampleName frame) ≠ none ∧
        ¬(Prepared p uuid5? convert frame i.nowNs i.processingNs ∧ frame.Odd)

variable {p uuid5? i frame}

theorem received_eq_iff : (p.received frame i.nowNs).lastSequence = p.lastSequence ∧
    (p.received frame i.nowNs).lastActivityNs = p.lastActivityNs ∧
    (p.received frame i.nowNs).disconnected = p.disconnected ↔ p.Unmoved i frame := by
  have hsequence : (p.received frame i.nowNs).lastSequence = p.lastSequence ↔
      frame.sequenceNumber ≤ p.lastSequence frame.side := by
    refine Function.update_eq_self_iff.trans ?_
    exact max_eq_left_iff
  rw [hsequence]
  exact ⟨fun h => ⟨h.1, h.2.1, h.2.2.symm⟩, fun h => ⟨h.number, h.time, h.connected.symm⟩⟩

theorem read_frame (hpending : p.pending = []) (hanswer : i.answer = .frame frame) :
    p.read uuid5? i =
      match conversion frame.basis with
      | none => (.error .serializationError, p.received frame i.nowNs)
      | some convert =>
        ((p.translated convert uuid5? frame i.nowNs i.processingNs).map some,
          { p.received frame i.nowNs with
            lastStreamId := Function.update p.lastStreamId frame.side frame.streamId }) := by
  unfold read
  rw [if_neg (not_not.mpr hpending), hanswer]
  dsimp only
  unfold translate
  cases conversion (δ := δ) frame.basis with
  | none => rfl
  | some convert => rfl

/-- **The second stage.** -/
theorem contained_read_iff (hversion : versionAdmitted δ umipVersion = true)
    (hpending : p.pending = []) (hanswer : i.answer = .frame frame) :
    p.Contained (p.read uuid5? i) ↔ p.Admits uuid5? i frame := by
  rw [read_frame hpending hanswer]
  unfold Admits
  cases hbasis : conversion (δ := δ) frame.basis with
  | none => exact (and_iff_right (.inl rfl)).trans received_eq_iff
  | some convert =>
    have hsucceeds : Succeeds (p.translated convert uuid5? frame i.nowNs i.processingNs) ↔
        Prepared p uuid5? convert frame i.nowNs i.processingNs ∧ frame.Fits :=
      translated_succeeds hversion
    have hforeign : Foreign (p.translated convert uuid5? frame i.nowNs i.processingNs) ↔
        uuid5? (p.sampleName frame) = none ∨
          Prepared p uuid5? convert frame i.nowNs i.processingNs ∧ frame.Odd :=
      translated_foreign hversion (not_foreign_conversion hbasis)
    dsimp only
    cases htranslated : p.translated convert uuid5? frame i.nowNs i.processingNs with
    | ok sample =>
      rw [htranslated] at hsucceeds
      exact iff_of_true rfl (.inl (hsucceeds.mp (succeeds_ok sample)))
    | error e =>
      rw [htranslated] at hsucceeds hforeign
      have hkinds : (e = .serializationError ∨ e = .protocolValidationError) ↔
          uuid5? (p.sampleName frame) ≠ none ∧
            ¬(Prepared p uuid5? convert frame i.nowNs i.processingNs ∧ frame.Odd) := by
        rw [← not_or, ← hforeign, foreign_error, not_and_or, not_not, not_not]
      rw [or_iff_right (fun h => not_succeeds_error (hsucceeds.mpr h)), ← hkinds, and_comm]
      exact and_congr_right fun _ => received_eq_iff

end MotionProvider

/-- **The contract of both stages**, for a payload and for a provider that has nothing waiting
    and is given the frame. -/
theorem frame_contained_iff (json : JsonModule δ) (uuid5? : String → Option Uuid)
    (payload : Payload) (p : MotionProvider δ) (i : ReadInput δ)
    (hversion : versionAdmitted δ umipVersion = true) :
    ((∀ e, parseQuestFrame json payload = .error e → e = .serializationError) ∧
        ∀ frame, parseQuestFrame json payload = .ok frame → p.pending = [] →
          i.answer = .frame frame → p.Contained (p.read uuid5? i)) ↔
      (∀ value, json.loads payload = some value → ¬FrameDocumentBreaks value) ∧
        ∀ frame, parseQuestFrame json payload = .ok frame → p.pending = [] →
          i.answer = .frame frame → p.Admits uuid5? i frame := by
  refine and_congr (parseQuestFrame_contained json payload) (forall₂_congr fun frame _ => ?_)
  exact forall₂_congr fun hpending hanswer => p.contained_read_iff hversion hpending hanswer

/-! ## Frames that escape -/

/-- A `json` that knows one payload. -/
def jsonOfBytes {ε : Type} (bytes : List UInt8) (value : Json ε) : JsonModule ε where
  dumps _ _ := ""
  loads payload := if payload = .bytes bytes then some value else none

theorem jsonOfBytes_loads {ε : Type} (bytes : List UInt8) (value : Json ε) :
    (jsonOfBytes bytes value).loads (.bytes bytes) = some value := if_pos rfl

/-- The document of a frame with a number and a confidence. -/
def frameDocument (sequenceNumber trackingConfidence : Json Umip.Extended) :
    Record Umip.Extended :=
  [("schema", .text "quest-hand-frame"), ("version", .text "1.0"), ("session_id", .text "s"),
    ("stream_id", .text "q"), ("sequence_number", sequenceNumber), ("side", .text "left"),
    ("reference_space", .text "r"), ("basis", .text "openxr"),
    ("capture_timestamp", .object [("nanoseconds", .int 1), ("clock_id", .text "c")]),
    ("tracking_state", .text "limited"), ("tracking_confidence", trackingConfidence)]

/-- Its bytes, with the number and the confidence as they are written. -/
def frameBytes (sequenceNumber trackingConfidence : String) : List UInt8 :=
  ("\x7b\"schema\":\"quest-hand-frame\",\"version\":\"1.0\",\"session_id\":\"s\"," ++
    "\"stream_id\":\"q\",\"sequence_number\":" ++ sequenceNumber ++ ",\"side\":\"left\"," ++
    "\"reference_space\":\"r\",\"basis\":\"openxr\",\"capture_timestamp\":" ++
    "\x7b\"nanoseconds\":1,\"clock_id\":\"c\"\x7d,\"tracking_state\":\"limited\"," ++
    "\"tracking_confidence\":" ++ trackingConfidence ++ "\x7d").toUTF8.toList

/-- The frame, with number 0. -/
def limitedFrame (trackingConfidence : Json Umip.Extended) : QuestFrame Umip.Extended where
  sessionId := "s"
  streamId := "q"
  sequenceNumber := 0
  side := .left
  referenceSpace := "r"
  basis := "openxr"
  captureTimestamp := ⟨⟨1, "c", none⟩, by decide⟩
  deviceTimestamp := none
  trackingState := .limited
  trackingConfidence
  wristPose := none
  palmPose := none
  articulation := none
  metadata := []

theorem frameFromDict_limited (trackingConfidence : Json Umip.Extended) :
    frameFromDict (frameDocument (.int 0) trackingConfidence) =
      .ok (limitedFrame trackingConfidence) := rfl

/-- The parser finds the frame in its bytes. -/
theorem parseQuestFrame_limited (text : String) (trackingConfidence : Json Umip.Extended) :
    parseQuestFrame
      (jsonOfBytes (frameBytes "0" text) (.object (frameDocument (.int 0) trackingConfidence)))
      (.bytes (frameBytes "0" text)) = .ok (limitedFrame trackingConfidence) :=
  (parseQuestFrame_object (jsonOfBytes_loads _ _)).trans (frameFromDict_limited trackingConfidence)

/-- A provider after `open`. -/
def openedProvider : MotionProvider Umip.Extended := (MotionProvider.init plainDevice 1000).opened 0

def readFrame (frame : QuestFrame Umip.Extended) : ReadInput Umip.Extended :=
  ⟨.frame frame, 10, 11, fun _ => ⟨"u", by decide⟩⟩

/-- A frame without a confidence. -/
theorem plain_frame_contained :
    (∀ e, parseQuestFrame
        (jsonOfBytes (frameBytes "0" "null") (.object (frameDocument (.int 0) .null)))
        (.bytes (frameBytes "0" "null")) = .error e → e = .serializationError) ∧
      ∀ frame, parseQuestFrame
          (jsonOfBytes (frameBytes "0" "null") (.object (frameDocument (.int 0) .null)))
          (.bytes (frameBytes "0" "null")) = .ok frame → openedProvider.pending = [] →
        (readFrame (limitedFrame .null)).answer = .frame frame →
          openedProvider.Contained
            (openedProvider.read (fun _ => some ⟨"u", by decide⟩)
              (readFrame (limitedFrame .null))) := by
  refine (frame_contained_iff _ _ _ _ _ rfl).mpr
    ⟨fun value hvalue hbreaks => ?_, fun frame _ _ hframe => ?_⟩
  · have hover := (parseQuestFrame_overflows _ _).mpr ⟨value, hvalue, hbreaks⟩
    rw [parseQuestFrame_limited] at hover
    exact overflows_ok _ hover
  · obtain rfl := SourceAnswer.frame.inj hframe
    have hposes : (limitedFrame .null).poses = [] := rfl
    refine .inl ⟨⟨nofun, by decide, ?_⟩, ⟨by decide, by decide, ⟨(), rfl⟩, nofun, ?_, rfl⟩⟩
    · intro pose hpose
      rw [hposes] at hpose
      exact absurd hpose List.not_mem_nil
    · rintro (h | h) <;> exact nomatch h

/-- **Two frames that escape**: an infinite number leaves the parser by `OverflowError`; a
    confidence that is a text passes the parser, and the read raises `TypeError` after it
    has taken over the number of the frame. -/
theorem frames_escape :
    (¬∀ e, parseQuestFrame
        (jsonOfBytes (frameBytes "Infinity" "null")
          (.object (frameDocument (.float .infinity) .null)))
        (.bytes (frameBytes "Infinity" "null")) = .error e → e = .serializationError) ∧
      ¬∀ frame, parseQuestFrame
          (jsonOfBytes (frameBytes "0" "\"high\"") (.object (frameDocument (.int 0) (.text "high"))))
          (.bytes (frameBytes "0" "\"high\"")) = .ok frame → openedProvider.pending = [] →
        (readFrame frame).answer = .frame frame →
          openedProvider.Contained
            (openedProvider.read (fun _ => some ⟨"u", by decide⟩) (readFrame frame)) := by
  constructor
  · intro h
    have hover : parseQuestFrame
        (jsonOfBytes (frameBytes "Infinity" "null")
          (.object (frameDocument (.float .infinity) .null)))
        (.bytes (frameBytes "Infinity" "null")) = .error .overflowError :=
      (parseQuestFrame_object (jsonOfBytes_loads _ _)).trans rfl
    exact nomatch h _ hover
  · intro h
    have hcontained := h (limitedFrame (.text "high"))
      (parseQuestFrame_limited "\"high\"" (.text "high")) rfl rfl
    have hread : (openedProvider.read (fun _ => some ⟨"u", by decide⟩)
        (readFrame (limitedFrame (.text "high")))).1 = .error .typeError := rfl
    generalize openedProvider.read _ _ = outcome at hcontained hread
    obtain ⟨result, after⟩ := outcome
    obtain rfl : result = .error .typeError := hread
    exact absurd hcontained.1 (by decide)

end HandLab.Quest
