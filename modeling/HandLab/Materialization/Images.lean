import HandLab.Materialization.Leakage
import HandLab.Materialization.Segments

/-!
# Images and rows

The exported videos of the two materializations, against their rows. The bottle
materialization chooses the rows by their quality and their timestamps and the images by
the quality alone, and it numbers the rows by their frame indices and the images by
their positions.

* `exportedImages_iff`: the images of a segment are those of its rows exactly if its clean
  rows are in place.
* `linkOrCropVideo_ok`: the images of a training episode are always those of its rows.
* `images_belong`: both, for every source and configuration.
* `late_row`: a clean row that is not later than the row before it leaves its image behind.
-/

namespace HandLab.Materialization

open HandLab.Lib

variable {δ : Type}

/-! ## Written videos -/

theorem writeFrames_ok {unread index : ℕ} {wanted : List ℤ} {written : List ℕ}
    (h : writeFrames unread index wanted = .ok written) : written.map Int.ofNat = wanted := by
  fun_induction writeFrames unread index wanted generalizing written with
  | case1 unread index =>
    obtain rfl := Except.ok.inj h
    rfl
  | case2 index next wanted => exact nomatch h
  | case3 unread index wanted ih =>
    cases hrest : writeFrames unread (index + 1) wanted with
    | error e => simp [hrest, Except.map] at h
    | ok rest =>
      rw [hrest] at h
      obtain rfl := Except.ok.inj h
      rw [List.map_cons, ih hrest]
      rfl
  | case4 unread index next wanted hne ih => exact ih h

theorem writeVideoSubset_ok {frameCount : ℕ} {rawIndices : List ℤ} {video : List ℕ}
    (h : writeVideoSubset frameCount rawIndices = .ok video) :
    video.map Int.ofNat = rawIndices := by
  unfold writeVideoSubset at h
  cases hwritten : writeFrames frameCount 0 rawIndices with
  | error e => simp [hwritten, bind, Except.bind] at h
  | ok written =>
    simp only [hwritten, bind, Except.bind, pure, Except.pure] at h
    split_ifs at h
    obtain rfl := Except.ok.inj h
    exact writeFrames_ok hwritten

/-- The frames of a video belong to the rows with their index. -/
def Aligned (frameCount : ℕ) (frameIndices : List (Option ℤ)) : Prop :=
  ∀ i : ℕ, i < frameCount ↔ some (i : ℤ) ∈ frameIndices

/-! ## The bottle videos -/

section Bottle

variable [Double δ]

/-- `raw_indices`: the positions of the clean rows, from the given one on (line 865). -/
def rawIndices (ordinal : ℕ) (selected : List (SourceRow δ)) : List ℤ :=
  ((selected.zipIdx ordinal).filter fun (row, _) => row.qualityReasons = []).map
    fun (_, ordinal) => (ordinal : ℤ)

/-- The numbers of frames of the source videos. -/
abbrev SourceVideos := ℤ → CameraRole → ℕ

/-- What is raised with the videos. -/
inductive BottleError
  | rows (error : MaterializationError)
  | video (role : CameraRole) (error : VideoError)
  deriving DecidableEq, Repr

/-- The videos of a segment (lines 865–870). -/
def exportSegmentVideos (tree : SourceTree δ) (videos : SourceVideos) (segment : LogicalSegment) :
    Except BottleError Videos :=
  match tree.lookup segment.sourceEpisode with
  | some { metadata := some releaseNs, rows := some rows, .. } =>
    match cropSegment rows releaseNs segment with
    | .error reason => .error (.rows (.cropReview segment.id reason))
    | .ok selected => do
      let write := fun role => (writeVideoSubset (videos segment.sourceEpisode role)
        (rawIndices segment.startFrame.toNat selected)).mapError (.video role)
      let workspace ← write .workspace
      let wrist ← write .wrist
      return fun
        | .workspace => workspace
        | .wrist => wrist
  | _ => .error (.rows (.missingSourceFiles segment.id))

/-- The rows and the videos of the segment with the index. -/
structure SegmentExport (δ : Type) where
  rows : List (RichRow δ)
  videos : Videos

/-- The segment loop (lines 826–891), from the logical index and the rows so far. -/
def segmentLoop (tree : SourceTree δ) (videos : SourceVideos) :
    ℕ → ℕ → List LogicalSegment → Except BottleError (List (SegmentExport δ))
  | _, _, [] => .ok []
  | logicalIndex, offset, segment :: rest => do
    let output ← (exportSegment tree segment).mapError .rows
    let numbered := output.zipIdx.map fun (row, i) =>
      { row with index := offset + i, episodeIndex := logicalIndex }
    let segmentVideos ← exportSegmentVideos tree videos segment
    let others ← segmentLoop tree videos (logicalIndex + 1) (offset + output.length) rest
    return ⟨numbered, segmentVideos⟩ :: others

/-- `materialize_physical_bottle` at an empty root, with its videos. -/
def materializePhysicalBottle (statistics : AxisStatistics δ) (config : BottleConfig)
    (tree : SourceTree δ) (videos : SourceVideos) :
    Except BottleError (Output δ × List (SegmentExport δ)) := do
  (config.audit tree).mapError .rows
  if config.included = [] then throw (.rows .nothingIncluded)
  let segments ← segmentLoop tree videos 0 0 config.included
  let rowsBySegment := segments.map SegmentExport.rows
  let splits ← config.assignSplits.mapError .rows
  let trainRows := (splits .train).flatMap fun index => rowsBySegment.getD index []
  let stats ← (normalization statistics trainRows).mapError .rows
  return (⟨rowsBySegment, splits, stats⟩, segments)

/-! ## The properties -/

/-- The images of each video are those of the rows. -/
def SegmentExport.ImagesBelong (segment : SegmentExport δ) : Prop :=
  ∀ role, (segment.videos role).map Int.ofNat = segment.rows.map RichRow.sourceFrameIndex

/-- The images of each video are those of the rows. -/
def MasterEpisode.ImagesBelong (episode : MasterEpisode δ) : Prop :=
  ∀ role, (episode.videos role).map Int.ofNat = episode.rows.map MasterRow.rawFrameIndex

/-- Every clean row is later than the row before it, and its frame index is its position
    in the row file; `previous` and `count` are the timestamp before the selected rows and
    the number of the rows admitted so far. -/
def InPlaceFrom (previous : Option ℤ) (count ordinal : ℕ) (selected : List (SourceRow δ)) :
    Prop :=
  ∀ i row, selected[i]? = some row → row.qualityReasons = [] →
    admits previous selected i = true ∧
      frameAt previous count selected i = some ((ordinal + i : ℕ) : ℤ)

/-- The clean rows that the manifest selects for the segment are in place. -/
def InPlace (segment : LogicalSegment) (selected : List (SourceRow δ)) : Prop :=
  InPlaceFrom none 0 segment.startFrame.toNat selected

/-! ## The rows and the images of a segment -/

theorem rawIndices_cons (ordinal : ℕ) (row : SourceRow δ) (rest : List (SourceRow δ)) :
    rawIndices ordinal (row :: rest) =
      if row.qualityReasons = [] then (ordinal : ℤ) :: rawIndices (ordinal + 1) rest
      else rawIndices (ordinal + 1) rest := by
  unfold rawIndices
  rw [List.zipIdx_cons, List.filter_cons]
  by_cases h : row.qualityReasons = []
  · simp [h]
  · simp [h]

/-- At least as many images as rows are chosen. -/
theorem length_exportRows_le (segment : LogicalSegment) (previous : Option ℤ) (count ordinal : ℕ)
    (selected : List (SourceRow δ)) :
    (exportRows segment previous count selected).length ≤ (rawIndices ordinal selected).length := by
  induction selected generalizing previous count ordinal with
  | nil => simp [exportRows]
  | cons row rest ih =>
    rw [exportRows, rawIndices_cons]
    by_cases hclean : row.qualityReasons = []
    · rw [if_pos hclean, List.length_cons]
      split
      · simpa using ih (some row.timestampNs) (count + 1) (ordinal + 1)
      · exact (ih _ _ _).trans (Nat.le_succ _)
    · rw [if_neg hclean, if_neg fun h => hclean h.1]
      exact ih _ _ _

theorem admits_zero (previous : Option ℤ) (row : SourceRow δ) (rest : List (SourceRow δ)) :
    admits previous (row :: rest) 0 = true ↔
      row.qualityReasons = [] ∧ ∀ last ∈ previous, last < row.timestampNs := by
  simp [admits, previousNs]

theorem inPlaceFrom_cons (previous : Option ℤ) (count ordinal : ℕ) (row : SourceRow δ)
    (rest : List (SourceRow δ)) :
    InPlaceFrom previous count ordinal (row :: rest) ↔
      (row.qualityReasons = [] → admits previous (row :: rest) 0 = true ∧
        row.frameIndex.getD count = (ordinal : ℤ)) ∧
      InPlaceFrom (some row.timestampNs)
        (count + if admits previous (row :: rest) 0 = true then 1 else 0) (ordinal + 1) rest := by
  have hfirst : frameAt previous count (row :: rest) 0 = some (row.frameIndex.getD count) := by
    simp [frameAt]
  unfold InPlaceFrom
  rw [← Nat.and_forall_add_one]
  simp only [List.getElem?_cons_zero, List.getElem?_cons_succ, Option.some.injEq, admits_cons,
    frameAt_cons, hfirst, Nat.add_zero]
  refine and_congr ?_ ?_
  · constructor
    · intro h
      exact h row rfl
    · rintro h first rfl
      exact h
  · refine forall_congr' fun i => ?_
    rw [show ordinal + (i + 1) = ordinal + 1 + i by omega]

/-- **Images and rows of a segment** agree exactly if the clean rows are in place. -/
theorem exportRows_eq_rawIndices_iff (segment : LogicalSegment) (previous : Option ℤ)
    (count ordinal : ℕ) (selected : List (SourceRow δ)) :
    (exportRows segment previous count selected).map RichRow.sourceFrameIndex =
        rawIndices ordinal selected ↔
      InPlaceFrom previous count ordinal selected := by
  induction selected generalizing previous count ordinal with
  | nil => simp [exportRows, rawIndices, InPlaceFrom]
  | cons row rest ih =>
    rw [inPlaceFrom_cons, rawIndices_cons, exportRows]
    simp only [admits_zero]
    by_cases hclean : row.qualityReasons = []
    · by_cases hlater : ∀ last ∈ previous, last < row.timestampNs
      · -- both choose the row
        rw [if_pos hclean, if_pos ⟨hclean, hlater⟩, if_pos ⟨hclean, hlater⟩, List.map_cons,
          List.cons_eq_cons, ih]
        simp only [richRow, hclean, true_and, forall_const]
        exact and_congr_left fun _ => ⟨fun h => ⟨hlater, h⟩, fun h => h.2⟩
      · -- the image is chosen and the row is not
        rw [if_pos hclean, if_neg fun h => hlater h.2]
        constructor
        · intro h
          have hlength := congrArg List.length h
          have hle := length_exportRows_le segment (some row.timestampNs) count (ordinal + 1) rest
          simp only [List.length_map, List.length_cons] at hlength
          omega
        · intro h
          exact absurd (h.1 hclean).1.2 hlater
    · rw [if_neg hclean, if_neg fun h => hclean h.1, if_neg fun h => hclean h.1, ih]
      simp only [hclean, false_implies, true_and, Nat.add_zero]

/-! ## The segment loop -/

section Loop

variable {tree : SourceTree δ} {videos : SourceVideos}

theorem exportSegmentVideos_ok {segment : LogicalSegment} {selected : List (SourceRow δ)}
    {exported : Videos} (hselects : Selects tree segment selected)
    (h : exportSegmentVideos tree videos segment = .ok exported) (role : CameraRole) :
    (exported role).map Int.ofNat = rawIndices segment.startFrame.toNat selected := by
  obtain ⟨⟨metadata, rows, _, _⟩, releaseNs, rows, hepisode, rfl, rfl, hcrop⟩ := hselects
  simp only [exportSegmentVideos, hepisode, hcrop] at h
  cases hworkspace : writeVideoSubset (videos segment.sourceEpisode .workspace)
      (rawIndices segment.startFrame.toNat selected) with
  | error e => simp [hworkspace, bind, Except.bind, Except.mapError] at h
  | ok workspace =>
    cases hwrist : writeVideoSubset (videos segment.sourceEpisode .wrist)
        (rawIndices segment.startFrame.toNat selected) with
    | error e => simp [hworkspace, hwrist, bind, Except.bind, Except.mapError] at h
    | ok wrist =>
      simp only [hworkspace, hwrist, bind, Except.bind, Except.mapError, pure, Except.pure,
        Except.ok.injEq] at h
      subst h
      cases role with
      | workspace => exact writeVideoSubset_ok hworkspace
      | wrist => exact writeVideoSubset_ok hwrist

/-- What is exported for a segment. -/
def ExportsImages (tree : SourceTree δ) (segment : LogicalSegment) (exported : SegmentExport δ) :
    Prop :=
  ∃ selected, Selects tree segment selected ∧
    exported.rows.map RichRow.sourceFrameIndex =
      (exportRows segment none 0 selected).map RichRow.sourceFrameIndex ∧
    ∀ role, (exported.videos role).map Int.ofNat = rawIndices segment.startFrame.toNat selected

/-- The loop exports the rows of `exportSegments`, and the images of every segment. -/
theorem segmentLoop_ok {segments : List LogicalSegment} {logicalIndex offset : ℕ}
    {exported : List (SegmentExport δ)}
    (h : segmentLoop tree videos logicalIndex offset segments = .ok exported) :
    exportSegments tree logicalIndex offset segments = .ok (exported.map SegmentExport.rows) ∧
      List.Forall₂ (ExportsImages tree) segments exported := by
  induction segments generalizing logicalIndex offset exported with
  | nil =>
    obtain rfl := Except.ok.inj h
    exact ⟨rfl, .nil⟩
  | cons segment rest ih =>
    rw [segmentLoop] at h
    cases houtput : exportSegment tree segment with
    | error e => simp [houtput, bind, Except.bind, Except.mapError] at h
    | ok output =>
      cases hvideos : exportSegmentVideos tree videos segment with
      | error e => simp [houtput, hvideos, bind, Except.bind, Except.mapError] at h
      | ok segmentVideos =>
        cases hothers : segmentLoop tree videos (logicalIndex + 1) (offset + output.length)
            rest with
        | error e => simp [houtput, hvideos, hothers, bind, Except.bind, Except.mapError] at h
        | ok others =>
          simp only [houtput, hvideos, hothers, bind, Except.bind, Except.mapError, pure,
            Except.pure, Except.ok.injEq] at h
          subst h
          obtain ⟨hrest, hall⟩ := ih hothers
          obtain ⟨selected, hselects, hrows⟩ := exportSegment_ok houtput
          refine ⟨?_, .cons ⟨selected, hselects, ?_, ?_⟩ hall⟩
          · rw [exportSegments, houtput]
            simp only [bind, Except.bind, hrest, pure, Except.pure, List.map_cons]
          · rw [← hrows]
            conv_rhs => rw [← List.zipIdx_map_fst 0 output]
            rw [List.map_map, List.map_map]
            rfl
          · exact exportSegmentVideos_ok hselects hvideos

variable {statistics : AxisStatistics δ} {config : BottleConfig} {output : Output δ}
  {segments : List (SegmentExport δ)}

/-- What the materialization does. -/
theorem materializePhysicalBottle_ok
    (h : materializePhysicalBottle statistics config tree videos = .ok (output, segments)) :
    config.audit tree = .ok () ∧ materialize statistics config tree = .ok output ∧
      List.Forall₂ (ExportsImages tree) config.included segments := by
  unfold materializePhysicalBottle at h
  cases haudit : config.audit tree with
  | error e => simp [haudit, bind, Except.bind, Except.mapError] at h
  | ok u =>
    simp only [haudit, bind, Except.bind, Except.mapError] at h
    split_ifs at h with hincluded
    cases hloop : segmentLoop tree videos 0 0 config.included with
    | error e => simp [hloop] at h
    | ok exported =>
      simp only [hloop] at h
      cases hsplits : config.assignSplits with
      | error e => simp [hsplits] at h
      | ok splits =>
        simp only [hsplits] at h
        cases hstats : normalization statistics ((splits .train).flatMap fun index =>
            (exported.map SegmentExport.rows).getD index []) with
        | error e => simp only [hstats, reduceCtorEq] at h
        | ok stats =>
          simp only [hstats, pure, Except.pure, Except.ok.injEq, Prod.mk.injEq] at h
          obtain ⟨rfl, rfl⟩ := h
          obtain ⟨hrows, himages⟩ := segmentLoop_ok hloop
          refine ⟨rfl, ?_, himages⟩
          simp only [materialize, hincluded, if_false, hrows, hsplits, hstats, bind, Except.bind,
            pure, Except.pure]

/-- **The images of the bottle segments** are those of the rows exactly if the clean rows
    of every segment are in place. -/
theorem exportedImages_iff
    (h : materializePhysicalBottle statistics config tree videos = .ok (output, segments)) :
    (∀ segment ∈ segments, segment.ImagesBelong) ↔
      ∀ segment ∈ config.included, ∀ selected, Selects tree segment selected →
        InPlace segment selected := by
  obtain ⟨-, -, himages⟩ := materializePhysicalBottle_ok h
  -- the same for one segment
  have hone : ∀ segment exported, ExportsImages tree segment exported →
      (exported.ImagesBelong ↔ ∀ selected, Selects tree segment selected →
        InPlace segment selected) := by
    rintro segment exported ⟨selected, hselects, hrows, hvideos⟩
    have hunique : (∀ selected', Selects tree segment selected' → InPlace segment selected') ↔
        InPlace segment selected := by
      constructor
      · intro hall
        exact hall selected hselects
      · intro hplace selected' hselects'
        rwa [hselects'.unique hselects]
    rw [hunique, InPlace, ← exportRows_eq_rawIndices_iff segment, ← hrows]
    unfold SegmentExport.ImagesBelong
    constructor
    · intro hbelong
      rw [← hbelong .workspace, hvideos .workspace]
    · intro hsame role
      rw [hvideos role, hsame]
  clear h
  generalize config.included = included at himages ⊢
  induction himages with
  | nil => simp
  | cons hfirst _ ih => simp only [List.forall_mem_cons, hone _ _ hfirst, ih]

end Loop

end Bottle

/-! ## The training videos -/

section Training

variable [Double δ] {hashFraction : String → ℤ → δ} {config : TrainingConfig δ}
  {tree : ℤ → TrainingEpisode δ} {episodes : List (MasterEpisode δ)}

theorem contiguous_ok {indices : List ℤ} (h : contiguous indices = true) :
    indices = (List.range indices.length).map Int.ofNat := by
  unfold contiguous at h
  split at h
  · exact nomatch h
  · rename_i last _
    have heq := of_decide_eq_true h
    have hlength := congrArg List.length heq
    rw [List.length_map, List.length_range] at hlength
    rw [hlength]
    exact heq

theorem admittedRows_sublist (previous : Option ℤ) (candidates : List (TrainingRow δ)) :
    (admittedRows previous candidates).Sublist candidates := by
  induction candidates generalizing previous with
  | nil => exact List.Sublist.slnil
  | cons row rest ih =>
    rw [admittedRows]
    split
    · exact (ih _).cons_cons row
    · exact (ih _).cons row

omit [Double δ] in
theorem candidatesOf_sublist {entry : TrainingEntry} {episode : TrainingEpisode δ}
    {startNs : ℤ} {candidates : List (TrainingRow δ)}
    (h : candidatesOf entry episode = some (startNs, candidates)) :
    ∃ rows, episode.rows = some rows ∧ candidates.Sublist rows ∧
      ∀ role, (episode.videos role).isSome = true := by
  unfold candidatesOf at h
  split at h
  · rename_i metadata rows hmetadata hrows
    split_ifs at h with hvideos hreadable
    unfold cropRows at h
    dsimp only at h
    split_ifs at h
    obtain ⟨rfl, rfl⟩ := Prod.mk.inj (Option.some.inj h)
    refine ⟨rows, hrows, List.filter_sublist, fun role => ?_⟩
    have hnone := not_or.mp hvideos
    cases role with
    | workspace => simpa [Option.isSome_iff_ne_none] using hnone.1
    | wrist => simpa [Option.isSome_iff_ne_none] using hnone.2
  · exact nomatch h

omit [Double δ] in
/-- A video has as many frames as there are rows, if their frame indices count up from 0. -/
theorem Aligned.frameCount_eq {frameCount : ℕ} {rows : List (TrainingRow δ)}
    (h : Aligned frameCount (rows.map TrainingRow.frameIndex))
    (hindices : rows.map TrainingRow.rawFrameIndex = (List.range rows.length).map Int.ofNat) :
    frameCount = rows.length := by
  have hmem : ∀ i : ℕ, some (i : ℤ) ∈ rows.map TrainingRow.frameIndex ↔ i < rows.length := by
    intro i
    have hraw : (i : ℤ) ∈ rows.map TrainingRow.rawFrameIndex ↔ i < rows.length := by
      rw [hindices]
      simp
    rw [← hraw, List.mem_map, List.mem_map]
    refine exists_congr fun row => and_congr_right fun _ => ?_
    unfold TrainingRow.rawFrameIndex
    cases row.frameIndex with
    | none => simp
    | some index => simp
  have heq : ∀ i, i < frameCount ↔ i < rows.length := fun i => (h i).trans (hmem i)
  have h1 := heq frameCount
  have h2 := heq rows.length
  omega

/-- **A linked or cropped video** shows the frames of the rows. -/
theorem linkOrCropVideo_ok {entry : TrainingEntry} {episode : MasterEpisode δ}
    (h : Exports config tree entry episode)
    (haligned : ∀ rows role frameCount, (tree entry.id).rows = some rows →
      (tree entry.id).videos role = some frameCount →
        Aligned frameCount (rows.map TrainingRow.frameIndex)) : episode.ImagesBelong := by
  obtain ⟨hid, hne, ⟨offset, hexported⟩, hvideos⟩ := h
  obtain ⟨hincluded, startNs, candidates, hcandidates⟩ := exportEpisode_rows hexported hne
  obtain ⟨-, hplaces⟩ := exportEpisode_ok hexported hincluded hcandidates
  obtain ⟨rows, hrows, hsublist, hsome⟩ := candidatesOf_sublist hcandidates
  have hlinked : ∀ role video, linkOrCropVideo (((tree entry.id).videos role).getD 0)
      (episode.rows.map MasterRow.rawFrameIndex) ((tree entry.id).rows.getD []).length =
        .ok video → video.map Int.ofNat = episode.rows.map MasterRow.rawFrameIndex := by
    intro role video hvideo
    obtain ⟨frameCount, hcount⟩ := Option.isSome_iff_exists.mp (hsome role)
    rw [hrows, hcount, Option.getD_some, Option.getD_some] at hvideo
    unfold linkOrCropVideo at hvideo
    split_ifs at hvideo with hlink
    · -- a link: all rows were admitted
      obtain rfl := Except.ok.inj hvideo
      simp only [Bool.and_eq_true, decide_eq_true_eq, List.length_map] at hlink
      have hlength := congrArg List.length hplaces
      rw [List.length_map, List.length_map] at hlength
      have hall : admittedRows none candidates = rows :=
        ((admittedRows_sublist none candidates).trans hsublist).eq_of_length (by omega)
      rw [hall] at hplaces
      have hindices : episode.rows.map MasterRow.rawFrameIndex =
          rows.map TrainingRow.rawFrameIndex := by
        have hfirst := congrArg (List.map Prod.fst) hplaces
        rw [List.map_map, List.map_map] at hfirst
        exact hfirst
      have hrange := contiguous_ok hlink.1
      rw [List.length_map, ← hlink.2, hindices] at hrange
      rw [(haligned rows role frameCount hrows hcount).frameCount_eq hrange, hindices, hrange]
    · exact writeVideoSubset_ok hvideo
  unfold exportVideos at hvideos
  cases hworkspace : linkOrCropVideo (((tree entry.id).videos .workspace).getD 0)
      (episode.rows.map MasterRow.rawFrameIndex) ((tree entry.id).rows.getD []).length with
  | error e => simp [hworkspace, bind, Except.bind, Except.mapError] at hvideos
  | ok workspace =>
    cases hwrist : linkOrCropVideo (((tree entry.id).videos .wrist).getD 0)
        (episode.rows.map MasterRow.rawFrameIndex) ((tree entry.id).rows.getD []).length with
    | error e => simp [hworkspace, hwrist, bind, Except.bind, Except.mapError] at hvideos
    | ok wrist =>
      simp only [hworkspace, hwrist, bind, Except.bind, Except.mapError, pure, Except.pure,
        Except.ok.injEq] at hvideos
      intro role
      rw [← hvideos]
      cases role with
      | workspace => exact hlinked .workspace workspace hworkspace
      | wrist => exact hlinked .wrist wrist hwrist

end Training

/-! ## The datasets -/

/-- **Images.** The images of the bottle segments are those of their rows exactly if the
    clean rows that the manifest selects are in place; those of the training episodes
    always are, if the videos of the source are aligned with its rows. -/
theorem images_belong [Double δ] :
    (∀ (statistics : AxisStatistics δ) (config : BottleConfig) (tree : SourceTree δ)
      (videos : SourceVideos) (output : Output δ) (segments : List (SegmentExport δ)),
      materializePhysicalBottle statistics config tree videos = .ok (output, segments) →
        ((∀ segment ∈ segments, segment.ImagesBelong) ↔
          ∀ segment ∈ config.included, ∀ selected, Selects tree segment selected →
            InPlace segment selected)) ∧
    ∀ (hashFraction : String → ℤ → δ) (config : TrainingConfig δ)
      (tree : ℤ → TrainingEpisode δ) (episodes : List (MasterEpisode δ)),
      materializeTrainingDataset hashFraction config tree = .ok episodes →
      (∀ id rows role frameCount, (tree id).rows = some rows →
        (tree id).videos role = some frameCount →
          Aligned frameCount (rows.map TrainingRow.frameIndex)) →
      ∀ episode ∈ episodes, episode.ImagesBelong := by
  refine ⟨fun _ _ _ _ _ _ h => exportedImages_iff h, ?_⟩
  intro hashFraction config tree episodes h haligned episode hepisode
  obtain ⟨entry, -, hexports⟩ := (materializeTrainingDataset_ok h).1 episode hepisode
  exact linkOrCropVideo_ok hexports (haligned entry.id)

/-! ## A late row -/

section LateRow

/-- Three clean rows; the last has the timestamp of the first. -/
def lateRows : List (SourceRow ℚ) :=
  [recordedRow 0, recordedRow 1, { recordedRow 0 with frameIndex := some 2 }]

/-- One segment with the three rows. -/
def lateConfig : BottleConfig where
  sourceReviews := [1]
  segments := [⟨"a", 1, true, 0, some 2, none, none⟩]
  splits := [("train", ["a"]), ("val", []), ("test", [])]

/-- The source with the three rows. -/
def lateTree : SourceTree ℚ := [(1, ⟨some none, some lateRows, true, true⟩)]

/-- The materialization of the three rows, with three frames in each video. -/
def lateOutcome : Except BottleError (Output ℚ × List (SegmentExport ℚ)) :=
  materializePhysicalBottle singleRow lateConfig lateTree fun _ _ => 3

theorem lateOutcome_ok (accepts : List (SegmentExport ℚ) → Bool)
    (h : (lateOutcome.toOption.any fun o => accepts o.2) = true) :
    ∃ output segments, lateOutcome = .ok (output, segments) ∧ accepts segments = true := by
  cases houtcome : lateOutcome with
  | error e => rw [houtcome] at h; exact nomatch h
  | ok value =>
    rw [houtcome] at h
    exact ⟨value.1, value.2, rfl, h⟩

theorem images_belong_late : ∃ output segments episodes, lateOutcome = .ok (output, segments) ∧
    twoFrameDataset 1 2 = .ok episodes ∧
    ((∀ segment ∈ segments, segment.ImagesBelong) ↔
      ∀ segment ∈ lateConfig.included, ∀ selected, Selects lateTree segment selected →
        InPlace segment selected) ∧
    ∀ episode ∈ episodes, episode.ImagesBelong := by
  obtain ⟨output, segments, houtcome, -⟩ := lateOutcome_ok (fun _ => true) (by decide +kernel)
  obtain ⟨episodes, hdataset, -⟩ := twoFrameDataset_ok 1 2 (fun _ => true) (by decide +kernel)
  refine ⟨output, segments, episodes, houtcome, hdataset,
    images_belong.1 _ _ _ _ _ _ houtcome, images_belong.2 _ _ _ _ hdataset ?_⟩
  intro id rows role frameCount hrows hcount
  obtain rfl := Option.some.inj hrows
  obtain rfl := Option.some.inj hcount
  intro i
  simp only [List.map_cons, List.map_nil, List.mem_cons, List.not_mem_nil, or_false, trainingRow,
    Option.some.injEq]
  omega

/-- A video of some segment has another number of frames than there are rows. -/
def miscounted (segments : List (SegmentExport ℚ)) : Bool :=
  segments.any fun segment => (segment.videos .workspace).length != segment.rows.length

/-- **A late row** is not exported, and its image is. -/
theorem late_row : Aligned 3 (lateRows.map SourceRow.frameIndex) ∧
    ∃ output segments, lateOutcome = .ok (output, segments) ∧
      ¬∀ segment ∈ segments, segment.ImagesBelong := by
  refine ⟨?_, ?_⟩
  · intro i
    simp only [lateRows, recordedRow, List.map_cons, List.map_nil, List.mem_cons,
      List.not_mem_nil, or_false, Option.some.injEq]
    omega
  · obtain ⟨output, segments, houtcome, hmiscounted⟩ := lateOutcome_ok miscounted (by decide +kernel)
    refine ⟨output, segments, houtcome, fun hbelong => ?_⟩
    obtain ⟨segment, hsegment, hlength⟩ := List.any_eq_true.mp hmiscounted
    have hsame := congrArg List.length (hbelong segment hsegment .workspace)
    rw [List.length_map, List.length_map] at hsame
    simp [hsame] at hlength

end LateRow

end HandLab.Materialization
