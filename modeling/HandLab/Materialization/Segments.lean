import HandLab.Materialization.Training
import Mathlib.Data.List.Chain

/-!
# Segments of the training dataset

The row loop of `materialize_training_dataset` compares a timestamp with itself where it
tests for a gap: `previous_timestamp` is assigned before. So a segment ends at a missing
frame index only.

* `rowLoop_spec`: the rows and the segments of the loop, for any candidates.
* `segments_iff`: the segments of every dataset are free of gaps exactly if the source has
  none that its frame indices do not show.
* `unseen_gap`: two rows a second apart are put into one segment.
-/

namespace HandLab.Materialization

open HandLab.Lib Double

variable {δ : Type}

/-! ## The property -/

/-- At most 1.5 nominal periods. -/
def WithinPeriods (fps : ℕ) (gapNs : ℤ) : Prop := 2 * fps * gapNs ≤ 3 * 10 ^ 9

instance (fps : ℕ) (gapNs : ℤ) : Decidable (WithinPeriods fps gapNs) :=
  inferInstanceAs (Decidable (_ ≤ _))

/-- The row continues the one before it: the next raw frame, at most 1.5 nominal periods
    later. -/
def MasterRow.Continues (fps : ℕ) (previous row : MasterRow δ) : Prop :=
  row.rawFrameIndex = previous.rawFrameIndex + 1 ∧
    WithinPeriods fps (row.timestampNs - previous.timestampNs)

/-- The segments contain no gap, end only at one, and are in order. -/
structure GapFree (fps : ℕ) (rows : List (MasterRow δ)) : Prop where
  exact : rows.IsChain fun previous row =>
    (row.segmentId = previous.segmentId ↔ previous.Continues fps row)
  ordered : rows.Pairwise fun previous row => previous.segmentId ≤ row.segmentId

/-! ## The row loop -/

/-- A segment ends where a raw frame is missing. -/
def Numbered (previous row : MasterRow δ) : Prop :=
  row.segmentId =
    if row.rawFrameIndex = previous.rawFrameIndex + 1 then previous.segmentId
    else previous.segmentId + 1

theorem expectedPeriodNs_nonneg (fps : ℕ) : 0 ≤ expectedPeriodNs fps :=
  roundHalfEven_nonneg (by positivity)

/-- **The test for a gap sees no timestamps**: the row's own is compared with itself. -/
theorem startsSegment_eq {s : RowLoop δ} {periodNs rawFrameIndex timestamp : ℤ}
    (hperiod : 0 ≤ periodNs) (hprevious : s.previousTimestamp = some timestamp) :
    startsSegment s periodNs rawFrameIndex timestamp =
      s.previousRawFrameIndex.any fun previous => decide (rawFrameIndex ≠ previous + 1) := by
  have hsame : orTimestamp s.previousTimestamp timestamp = timestamp := by
    rw [hprevious, orTimestamp]
    split_ifs <;> simp_all
  unfold startsSegment
  rw [hsame, sub_self]
  cases s.previousRawFrameIndex with
  | none => rfl
  | some previous =>
    have hnever : ¬(0 : ℤ) > periodNs * 3 / 2 := by omega
    simp [hnever]

/-- What the loop keeps of the rows so far. -/
structure RowLoop.Sound (s : RowLoop δ) : Prop where
  numbered : s.outputRows.IsChain Numbered
  previous : s.previousRawFrameIndex = s.outputRows.getLast?.map MasterRow.rawFrameIndex
  segment : ∀ last ∈ s.outputRows.getLast?, last.segmentId = s.segmentId

/-- What a gap is judged by. -/
def MasterRow.place (row : MasterRow δ) : ℤ × ℤ := (row.rawFrameIndex, row.timestampNs)

/-- What a gap is judged by, in the source. -/
def TrainingRow.place (row : TrainingRow δ) : ℤ × ℤ := (row.rawFrameIndex, row.timestampNs)

theorem rowLoop_start (globalIndex : ℕ) : RowLoop.Sound (δ := δ) { globalIndex } where
  numbered := List.isChain_nil
  previous := rfl
  segment := fun _ h => nomatch h

theorem numbered_ordered {rows : List (MasterRow δ)} (h : rows.IsChain Numbered) :
    rows.Pairwise fun previous row => previous.segmentId ≤ row.segmentId := by
  have hle : rows.IsChain fun previous row => previous.segmentId ≤ row.segmentId := by
    refine h.imp fun previous row hnumbered => ?_
    unfold Numbered at hnumbered
    split_ifs at hnumbered <;> omega
  have hsegments : (rows.map MasterRow.segmentId).IsChain (· ≤ ·) :=
    (List.isChain_map MasterRow.segmentId).mpr hle
  exact List.pairwise_map.mp (List.isChain_iff_pairwise.mp hsegments)

/-- Between two numbered rows the segment is right unless the gap is long. -/
theorem segment_iff {fps : ℕ} {previous row : MasterRow δ} (h : Numbered previous row) :
    (row.segmentId = previous.segmentId ↔ previous.Continues fps row) ↔
      (row.rawFrameIndex = previous.rawFrameIndex + 1 →
        WithinPeriods fps (row.timestampNs - previous.timestampNs)) := by
  unfold Numbered at h
  unfold MasterRow.Continues
  split_ifs at h with hnext
  · simp [h, hnext]
  · simp [h, hnext]

section Loop

variable [Double δ]

/-- The candidates that become rows, from the timestamp before them. -/
def admittedRows : Option ℤ → List (TrainingRow δ) → List (TrainingRow δ)
  | _, [] => []
  | previous, row :: rest =>
    if admitted previous row then row :: admittedRows (some row.timestampNs) rest
    else admittedRows (some row.timestampNs) rest

/-- One turn of the loop. -/
theorem rowStep_sound {s : RowLoop δ} (h : s.Sound) (episodeId startNs : ℤ) {periodNs : ℤ}
    (hperiod : 0 ≤ periodNs) (row : TrainingRow δ) :
    (rowStep episodeId startNs periodNs s row).Sound ∧
      (rowStep episodeId startNs periodNs s row).previousTimestamp = some row.timestampNs ∧
      (rowStep episodeId startNs periodNs s row).outputRows.map MasterRow.place =
        s.outputRows.map MasterRow.place ++
          if admitted s.previousTimestamp row then [row.place] else [] := by
  unfold rowStep
  by_cases hadmitted : admitted s.previousTimestamp row = true
  · simp only [hadmitted, Bool.not_true, Bool.false_eq_true, if_false, if_true]
    rw [startsSegment_eq hperiod rfl]
    refine ⟨⟨?_, by simp [masterRow], by simp [masterRow]⟩, trivial, ?_⟩
    · apply List.IsChain.append h.numbered (List.isChain_singleton _)
      intro last hlast first hfirst
      obtain rfl : _ = first := by simpa using hfirst
      have hprevious : s.previousRawFrameIndex = some last.rawFrameIndex := by
        rw [h.previous, hlast]
        rfl
      have hsegment := h.segment last hlast
      simp only [Numbered, masterRow, hprevious, Option.any_some]
      by_cases hnext : row.rawFrameIndex = last.rawFrameIndex + 1
      · simp [hnext, hsegment]
      · simp [hnext, hsegment]
    · simp [MasterRow.place, TrainingRow.place, masterRow]
  · simp only [hadmitted, Bool.not_false, if_true, Bool.false_eq_true, if_false, List.append_nil]
    exact ⟨⟨h.numbered, h.previous, h.segment⟩, trivial, trivial⟩

/-- **The row loop**: its rows are the admitted candidates, numbered by their frame indices. -/
theorem rowLoop_spec {s : RowLoop δ} (h : s.Sound) (episodeId startNs : ℤ) {periodNs : ℤ}
    (hperiod : 0 ≤ periodNs) (candidates : List (TrainingRow δ)) :
    (candidates.foldl (rowStep episodeId startNs periodNs) s).Sound ∧
      (candidates.foldl (rowStep episodeId startNs periodNs) s).outputRows.map MasterRow.place =
        s.outputRows.map MasterRow.place ++
          (admittedRows s.previousTimestamp candidates).map TrainingRow.place := by
  induction candidates generalizing s with
  | nil => exact ⟨h, by simp [admittedRows]⟩
  | cons row rest ih =>
    obtain ⟨hsound, hprevious, hplaces⟩ := rowStep_sound h episodeId startNs hperiod row
    obtain ⟨hfinal, hrest⟩ := ih hsound
    rw [List.foldl_cons]
    refine ⟨hfinal, ?_⟩
    rw [hrest, hplaces, hprevious, admittedRows]
    split_ifs <;> simp

/-! ## Gaps -/

/-- The admitted rows of the episode have no gap between consecutive frame indices. -/
def SourceGapFree (fps : ℕ) (candidates : List (TrainingRow δ)) : Prop :=
  (admittedRows none candidates).IsChain fun previous row =>
    row.rawFrameIndex = previous.rawFrameIndex + 1 →
      WithinPeriods fps (row.timestampNs - previous.timestampNs)

end Loop

/-! ## The dataset -/

section Dataset

variable [Double δ]

theorem exportEpisodes_mem {config : TrainingConfig δ} {tree : ℤ → TrainingEpisode δ}
    {entries : List TrainingEntry} {globalIndex : ℕ} {output : List (ℤ × List (MasterRow δ))}
    (h : exportEpisodes config tree globalIndex entries = .ok output) :
    (∀ entry ∈ entries, ∃ offset rows,
        exportEpisode config entry (tree entry.id) offset = .ok rows ∧
          (rows ≠ [] → (entry.id, rows) ∈ output)) ∧
      ∀ item ∈ output, ∃ entry ∈ entries, ∃ offset, item.1 = entry.id ∧ item.2 ≠ [] ∧
        exportEpisode config entry (tree entry.id) offset = .ok item.2 := by
  induction entries generalizing globalIndex output with
  | nil =>
    obtain rfl := Except.ok.inj h
    exact ⟨nofun, nofun⟩
  | cons entry rest ih =>
    rw [exportEpisodes] at h
    cases hrows : exportEpisode config entry (tree entry.id) globalIndex with
    | error e => simp [hrows, bind, Except.bind] at h
    | ok rows =>
      cases hothers : exportEpisodes config tree (globalIndex + rows.length) rest with
      | error e => simp [hrows, hothers, bind, Except.bind] at h
      | ok others =>
        simp only [hrows, hothers, bind, Except.bind, pure, Except.pure, Except.ok.injEq] at h
        obtain ⟨hall, hsome⟩ := ih hothers
        by_cases hempty : rows = []
        · rw [if_pos hempty] at h
          subst h
          refine ⟨?_, ?_⟩
          · intro other hother
            rcases List.mem_cons.mp hother with rfl | hother
            · exact ⟨globalIndex, rows, hrows, fun hne => absurd hempty hne⟩
            · exact hall other hother
          · intro item hitem
            obtain ⟨other, hother, hexport⟩ := hsome item hitem
            exact ⟨other, List.mem_cons_of_mem _ hother, hexport⟩
        · rw [if_neg hempty] at h
          subst h
          refine ⟨?_, ?_⟩
          · intro other hother
            rcases List.mem_cons.mp hother with rfl | hother
            · exact ⟨globalIndex, rows, hrows, fun _ => List.mem_cons_self⟩
            · obtain ⟨offset, others', hexport, hmem⟩ := hall other hother
              exact ⟨offset, others', hexport, fun hne => List.mem_cons_of_mem _ (hmem hne)⟩
          · intro item hitem
            rcases List.mem_cons.mp hitem with rfl | hitem
            · exact ⟨entry, List.mem_cons_self, globalIndex, rfl, hempty, hrows⟩
            · obtain ⟨other, hother, hexport⟩ := hsome item hitem
              exact ⟨other, List.mem_cons_of_mem _ hother, hexport⟩

theorem mem_of_mapM_ok {α β ε : Type} {f : α → Except ε β} {l : List α} {out : List β}
    (h : l.mapM f = .ok out) :
    (∀ a ∈ l, ∃ b ∈ out, f a = .ok b) ∧ ∀ b ∈ out, ∃ a ∈ l, f a = .ok b := by
  induction l generalizing out with
  | nil =>
    obtain rfl := Except.ok.inj h
    exact ⟨nofun, nofun⟩
  | cons a l ih =>
    rw [List.mapM_cons] at h
    cases hfirst : f a with
    | error e => simp [hfirst, bind, Except.bind] at h
    | ok b =>
      cases hrest : l.mapM f with
      | error e => simp [hfirst, hrest, bind, Except.bind] at h
      | ok rest =>
        simp only [hfirst, hrest, bind, Except.bind, pure, Except.pure, Except.ok.injEq] at h
        subst h
        obtain ⟨hall, hsome⟩ := ih hrest
        refine ⟨?_, ?_⟩
        · intro other hother
          rcases List.mem_cons.mp hother with rfl | hother
          · exact ⟨b, List.mem_cons_self, hfirst⟩
          · obtain ⟨value, hvalue, hof⟩ := hall other hother
            exact ⟨value, List.mem_cons_of_mem _ hvalue, hof⟩
        · intro value hvalue
          rcases List.mem_cons.mp hvalue with rfl | hvalue
          · exact ⟨a, List.mem_cons_self, hfirst⟩
          · obtain ⟨other, hother, hof⟩ := hsome value hvalue
            exact ⟨other, List.mem_cons_of_mem _ hother, hof⟩

variable {hashFraction : String → ℤ → δ} {config : TrainingConfig δ}
  {tree : ℤ → TrainingEpisode δ} {episodes : List (MasterEpisode δ)}

omit [Double δ] in
theorem exportMaster_ok {output : ℤ × List (MasterRow δ)} {episode : MasterEpisode δ}
    (h : exportMaster tree output = .ok episode) :
    episode.id = output.1 ∧ episode.rows = output.2 ∧
      exportVideos (tree output.1) output.2 = .ok episode.videos := by
  unfold exportMaster at h
  cases hvideos : exportVideos (tree output.1) output.2 with
  | error e => simp [hvideos, bind, Except.bind] at h
  | ok videos =>
    simp only [hvideos, bind, Except.bind, pure, Except.pure, Except.ok.injEq] at h
    subst h
    exact ⟨rfl, rfl, rfl⟩

/-- What a materialization exports of an entry. -/
def Exports (config : TrainingConfig δ) (tree : ℤ → TrainingEpisode δ) (entry : TrainingEntry)
    (episode : MasterEpisode δ) : Prop :=
  episode.id = entry.id ∧ episode.rows ≠ [] ∧
    (∃ offset, exportEpisode config entry (tree entry.id) offset = .ok episode.rows) ∧
    exportVideos (tree entry.id) episode.rows = .ok episode.videos

/-- What a materialization does. -/
theorem materializeTrainingDataset_ok
    (h : materializeTrainingDataset hashFraction config tree = .ok episodes) :
    (∀ episode ∈ episodes, ∃ entry ∈ config.episodes, Exports config tree entry episode) ∧
      ∀ entry ∈ config.episodes, ∃ offset rows,
        exportEpisode config entry (tree entry.id) offset = .ok rows ∧
          (rows ≠ [] → ∃ episode ∈ episodes, Exports config tree entry episode ∧
            episode.rows = rows) := by
  unfold materializeTrainingDataset at h
  simp only [bind, Except.bind, pure, Except.pure] at h
  split_ifs at h with hids hprompt
  cases hsplits : splitIds hashFraction config.splitPolicy
      ((config.episodes.filter TrainingEntry.included).map TrainingEntry.id) with
  | error e => simp [hsplits] at h
  | ok splits =>
    cases hrows : exportEpisodes config tree 0
        (config.episodes.insertionSort fun a b => a.id ≤ b.id) with
    | error e => simp [hsplits, hrows] at h
    | ok output =>
      simp only [hsplits, hrows] at h
      split_ifs at h with hempty
      split at h
      · exact nomatch h
      · rename_i made hmade
        split_ifs at h with htrain
        obtain rfl := Except.ok.inj h
        obtain ⟨hmakes, hmakesOf⟩ := mem_of_mapM_ok hmade
        obtain ⟨hall, hsome⟩ := exportEpisodes_mem hrows
        refine ⟨?_, ?_⟩
        · intro episode hepisode
          obtain ⟨item, hitem, hmake⟩ := hmakesOf episode hepisode
          obtain ⟨hid, hrowsOf, hexport⟩ := exportMaster_ok hmake
          obtain ⟨entry, hentry, offset, hentryId, hne, hexported⟩ := hsome item hitem
          rw [hentryId] at hid hexport
          refine ⟨entry, (List.mem_insertionSort _).mp hentry, hid, ?_, ⟨offset, ?_⟩, ?_⟩
          · rw [hrowsOf]
            exact hne
          · rw [hrowsOf]
            exact hexported
          · rw [hrowsOf]
            exact hexport
        · intro entry hentry
          obtain ⟨offset, rows, hexported, hmem⟩ :=
            hall entry ((List.mem_insertionSort _).mpr hentry)
          refine ⟨offset, rows, hexported, fun hne => ?_⟩
          obtain ⟨episode, hepisode, hmake⟩ := hmakes _ (hmem hne)
          obtain ⟨hid, hrowsOf, hexport⟩ := exportMaster_ok hmake
          refine ⟨episode, hepisode, ⟨hid, ?_, ⟨offset, ?_⟩, ?_⟩, hrowsOf⟩
          · rw [hrowsOf]
            exact hne
          · rw [hrowsOf]
            exact hexported
          · rw [hrowsOf]
            exact hexport

variable {rows : List (MasterRow δ)}

theorem exportEpisode_ok {entry : TrainingEntry} {episode : TrainingEpisode δ} {offset : ℕ}
    (h : exportEpisode config entry episode offset = .ok rows)
    (hincluded : entry.included = true) {startNs : ℤ} {candidates : List (TrainingRow δ)}
    (hcandidates : candidatesOf entry episode = some (startNs, candidates)) :
    rows.IsChain Numbered ∧
      rows.map MasterRow.place = (admittedRows none candidates).map TrainingRow.place := by
  rw [exportEpisode, hcandidates] at h
  simp only [hincluded, Bool.not_true, Bool.false_eq_true, if_false] at h
  split_ifs at h
  obtain rfl := Except.ok.inj h
  obtain ⟨hsound, hplaces⟩ := rowLoop_spec (rowLoop_start offset) entry.id startNs
    (expectedPeriodNs_nonneg config.fps) candidates
  exact ⟨hsound.numbered, by simpa using hplaces⟩

theorem exportEpisode_rows {entry : TrainingEntry} {episode : TrainingEpisode δ} {offset : ℕ}
    (h : exportEpisode config entry episode offset = .ok rows)
    (hne : rows ≠ []) : entry.included = true ∧ ∃ startNs candidates,
      candidatesOf entry episode = some (startNs, candidates) := by
  rw [exportEpisode] at h
  cases hcandidates : candidatesOf entry episode with
  | none =>
    rw [hcandidates] at h
    exact absurd (Except.ok.inj h).symm hne
  | some found =>
    rw [hcandidates] at h
    cases hincluded : entry.included with
    | true => exact ⟨rfl, found.1, found.2, rfl⟩
    | false =>
      simp only [hincluded, Bool.not_false, if_true] at h
      exact absurd (Except.ok.inj h).symm hne

/-- Consecutive frame indices are at most 1.5 nominal periods apart. -/
def CloseIfNext (fps : ℕ) (previous next : ℤ × ℤ) : Prop :=
  next.1 = previous.1 + 1 → WithinPeriods fps (next.2 - previous.2)

theorem gapFree_iff {fps : ℕ} {candidates : List (TrainingRow δ)}
    (hnumbered : rows.IsChain Numbered)
    (hplaces : rows.map MasterRow.place = (admittedRows none candidates).map TrainingRow.place) :
    GapFree fps rows ↔ SourceGapFree fps candidates := by
  have hsource : SourceGapFree fps candidates ↔
      ((admittedRows none candidates).map TrainingRow.place).IsChain (CloseIfNext fps) := by
    rw [List.isChain_map]
    rfl
  have hrows : (rows.map MasterRow.place).IsChain (CloseIfNext fps) ↔
      rows.IsChain fun previous row => row.rawFrameIndex = previous.rawFrameIndex + 1 →
        WithinPeriods fps (row.timestampNs - previous.timestampNs) := by
    rw [List.isChain_map]
    rfl
  have hexact : (rows.IsChain fun previous row =>
      (row.segmentId = previous.segmentId ↔ previous.Continues fps row)) ↔
        rows.IsChain fun previous row => row.rawFrameIndex = previous.rawFrameIndex + 1 →
          WithinPeriods fps (row.timestampNs - previous.timestampNs) := by
    simp only [List.isChain_iff_getElem] at hnumbered ⊢
    exact forall_congr' fun i => forall_congr' fun hi => segment_iff (hnumbered i hi)
  rw [hsource, ← hplaces, hrows, ← hexact]
  exact ⟨fun h => h.exact, fun h => ⟨h, numbered_ordered hnumbered⟩⟩

/-- **Segments.** The segments of a materialized dataset end exactly at the gaps of its rows
    if and only if no included episode has admitted rows with consecutive frame indices more
    than 1.5 nominal periods apart. -/
theorem segments_iff (h : materializeTrainingDataset hashFraction config tree = .ok episodes) :
    (∀ episode ∈ episodes, GapFree config.fps episode.rows) ↔
      ∀ entry ∈ config.episodes, entry.included = true → ∀ startNs candidates,
        candidatesOf entry (tree entry.id) = some (startNs, candidates) →
          SourceGapFree config.fps candidates := by
  obtain ⟨hepisodes, hentries⟩ := materializeTrainingDataset_ok h
  constructor
  · intro hfree entry hentry hincluded startNs candidates hcandidates
    obtain ⟨offset, rows, hexported, hmem⟩ := hentries entry hentry
    obtain ⟨hnumbered, hplaces⟩ := exportEpisode_ok hexported hincluded hcandidates
    rw [← gapFree_iff hnumbered hplaces]
    by_cases hempty : rows = []
    · rw [hempty]
      exact ⟨List.isChain_nil, List.Pairwise.nil⟩
    · obtain ⟨episode, hepisode, -, hrows⟩ := hmem hempty
      rw [← hrows]
      exact hfree episode hepisode
  · intro hsource episode hepisode
    obtain ⟨entry, hentry, -, hne, ⟨offset, hexported⟩, -⟩ := hepisodes episode hepisode
    obtain ⟨hincluded, startNs, candidates, hcandidates⟩ := exportEpisode_rows hexported hne
    obtain ⟨hnumbered, hplaces⟩ := exportEpisode_ok hexported hincluded hcandidates
    rw [gapFree_iff hnumbered hplaces]
    exact hsource entry hentry hincluded startNs candidates hcandidates

end Dataset

/-! ## A gap that is not seen -/

section UnseenGap

/-- A camera with a frame. -/
def trainingCamera : TrainingCamera := ⟨⟨true, some 7⟩, some "global_time"⟩

/-- A clean row with the frame index, at so many seconds. -/
def trainingRow (frameIndex : ℤ) (seconds : ℤ) : TrainingRow ℚ where
  timestampNs := seconds * 10 ^ 9
  frameIndex := some frameIndex
  state := List.replicate 12 0
  action := List.replicate 12 0
  force := List.replicate 6 0
  timing := some {
    canonicalHostMonotonicNs := some (seconds * 10 ^ 9)
    synchronizationValid := true
    rh56ForceActValid := true
    sourceTimestampsNs := []
    sourceTimestampDomains := []
    sourceValidity := ["jaka_observation", "rh56_angle_act", "workspace", "wrist"].map (·, true)
    sourceAgeNs := [] }
  workspace := trainingCamera
  wrist := trainingCamera
  cameraFrameIndex := fun _ => frameIndex

/-- One included episode, with thirty frames a second. -/
def oneEpisode : TrainingConfig ℚ where
  episodes := [{ id := 1, included := true, cropEndTimestampNs := some (10 ^ 10) }]
  taskPrompt := taskPrompt
  splitPolicy := .explicit [1] [] []

/-- Frames 0 and 1, from one second to the other. -/
def twoFrames (first second : ℤ) : ℤ → TrainingEpisode ℚ := fun _ => {
  metadata := some ⟨"completed", none⟩
  rows := some [trainingRow 0 first, trainingRow 1 second]
  readErrors := []
  videos := fun _ => some 2 }

def twoFrameDataset (first second : ℤ) : Except TrainingError (List (MasterEpisode ℚ)) :=
  materializeTrainingDataset (fun _ _ => 0) oneEpisode (twoFrames first second)

theorem twoFrameDataset_ok (first second : ℤ) (accepts : List (MasterEpisode ℚ) → Bool)
    (h : ((twoFrameDataset first second).toOption.any accepts) = true) :
    ∃ episodes, twoFrameDataset first second = .ok episodes ∧ accepts episodes = true := by
  cases hdataset : twoFrameDataset first second with
  | error e => rw [hdataset] at h; exact nomatch h
  | ok episodes =>
    rw [hdataset] at h
    exact ⟨episodes, rfl, h⟩

theorem segments_two_frames : ∃ episodes, twoFrameDataset 1 2 = .ok episodes ∧
    ((∀ episode ∈ episodes, GapFree 30 episode.rows) ↔
      ∀ entry ∈ oneEpisode.episodes, entry.included = true → ∀ startNs candidates,
        candidatesOf entry (twoFrames 1 2 entry.id) = some (startNs, candidates) →
          SourceGapFree 30 candidates) := by
  obtain ⟨episodes, hdataset, -⟩ := twoFrameDataset_ok 1 2 (fun _ => true) (by decide +kernel)
  exact ⟨episodes, hdataset, segments_iff hdataset⟩

/-- Some episode has two rows of one segment a second apart. -/
def secondApart (episodes : List (MasterEpisode ℚ)) : Bool :=
  episodes.any fun episode => match episode.rows with
    | [previous, row] => row.segmentId == previous.segmentId &&
      row.timestampNs - previous.timestampNs == 10 ^ 9
    | _ => false

/-- **An unseen gap**: frames 0 and 1 are a second apart and in one segment. -/
theorem unseen_gap : ∃ episodes, twoFrameDataset 1 2 = .ok episodes ∧
    ¬∀ episode ∈ episodes, GapFree 30 episode.rows := by
  obtain ⟨episodes, hdataset, hapart⟩ := twoFrameDataset_ok 1 2 secondApart (by decide +kernel)
  refine ⟨episodes, hdataset, fun hfree => ?_⟩
  obtain ⟨episode, hepisode, hrows⟩ := List.any_eq_true.mp hapart
  have hexact := (hfree episode hepisode).exact
  split at hrows
  · rename_i previous row hpair
    rw [hpair, List.isChain_cons_cons] at hexact
    simp only [Bool.and_eq_true, beq_iff_eq] at hrows
    have hclose := (hexact.1.mp hrows.1).2
    rw [hrows.2] at hclose
    exact absurd hclose (by decide)
  · exact nomatch hrows

end UnseenGap

end HandLab.Materialization
