import HandLab.Lib.ChainPrefix
import HandLab.Lib.Dict
import HandLab.Lib.Double

/-!
# Action chunks of the ACT view

`ActDatasetAdapter` of `src/episode_dataset/training_views.py`. The stored
numbers are of type `float32`, so `np.asarray(…, dtype=np.float32)` keeps them;
`δ` stands for that type. The product `expected_period_ns * 1.5` of the source
is the double `50000000.0`. The images are what the video reader returns.

* `chunkRows_eq`: the rows of a chunk are the longest run of followers at the
  row, within the horizon.
* `action_chunks`: the mask, the actions and the length of every chunk.
* `backward_chunk`: a step of the clock backwards is no boundary.
-/

namespace HandLab.Materialization

open HandLab.Lib Double

variable {δ ι : Type}

/-- A row of a stored episode, as `to_pylist` gives it; a column may be missing. -/
structure StoredRow (δ : Type) where
  index : ℤ
  frameIndex : ℤ
  rawFrameIndex : Option ℤ
  segmentId : Option ℤ
  timestampNs : ℤ
  state : List δ
  action : List δ
  force : List δ
  forceAgeS : Option δ
  forceValid : Bool
  forceTimestampNs : Option ℤ
  task : String
  deriving DecidableEq

/-- `row.get("segment_id", 0)`. -/
def StoredRow.segment (row : StoredRow δ) : ℤ := row.segmentId.getD 0

/-- `int(row.get("raw_frame_index", -1))`. -/
def StoredRow.rawFrame (row : StoredRow δ) : ℤ := row.rawFrameIndex.getD (-1)

/-- What the adapter raises. -/
inductive ViewError
  | horizonNotPositive
  | unknownSplit (name : String)
  | indexOutOfRange
  /-- `StopIteration` of the search for the row -/
  | rowNotFound
  | actionNotFinite
  | imageUnreadable (role : String)
  deriving DecidableEq, Repr

/-- A stored dataset: the splits, and the lines of `episodes.jsonl` with their rows. -/
structure StoredDataset (δ : Type) where
  splits : List (String × List ℤ)
  episodes : List (ℤ × List (StoredRow δ))

/-- `ActDatasetAdapter`. -/
structure ActDatasetAdapter (δ : Type) where
  actionHorizon : ℕ
  forceEnabled : Bool
  episodes : List (ℤ × List (StoredRow δ))
  refs : List (ℤ × StoredRow δ)

structure ForceObservation (δ : Type) where
  force : List δ
  ageS : Option δ
  valid : Bool
  timestampNs : Option ℤ
  deriving DecidableEq

/-- An example. -/
structure ActItem (δ ι : Type) where
  workspace : ι
  wrist : ι
  state : List δ
  force : Option (ForceObservation δ)
  action : List (List δ)
  actionMask : List Bool
  episodeIndex : ℤ
  frameIndex : ℤ
  timestampNs : ℤ
  task : String

/-! ## The adapter -/

section Code

variable [Double δ]

/-- `absolute_native_action`. -/
def absoluteNativeAction (values : List δ) : Except ViewError (List δ) :=
  if values.length = 12 ∧ values.all isFinite = true then .ok values else .error .actionNotFinite

/-- One line of `episodes.jsonl` in the constructor. -/
def ActDatasetAdapter.register (ids : List ℤ) (a : ActDatasetAdapter δ)
    (episode : ℤ × List (StoredRow δ)) : ActDatasetAdapter δ :=
  if episode.1 ∉ ids then a
  else { a with
    episodes := dictSet episode.1 episode.2 a.episodes
    refs := a.refs ++ episode.2.map (episode.1, ·) }

/-- `ActDatasetAdapter.__init__`. -/
def ActDatasetAdapter.create (dataset : StoredDataset δ) (split : String) (actionHorizon : ℤ)
    (force : Bool) : Except ViewError (ActDatasetAdapter δ) :=
  if actionHorizon ≤ 0 then .error .horizonNotPositive
  else match dataset.splits.lookup split with
    | none => .error (.unknownSplit split)
    | some ids => .ok (dataset.episodes.foldl (register ids)
        { actionHorizon := actionHorizon.toNat, forceEnabled := force, episodes := [], refs := [] })

/-- The gaps between two rows break a chunk (lines 98–101). -/
def breaksChunk (candidate previous : StoredRow δ) : Bool :=
  decide (candidate.rawFrame - previous.rawFrame ≠ 1) ||
    decide (candidate.timestampNs - previous.timestampNs > 50000000)

/-- The loop that collects the rows of a chunk (lines 94–103), from the rows so far and
    `previous`. -/
def collectChunk (segment : ℤ) :
    List (StoredRow δ) → StoredRow δ → List (StoredRow δ) → List (StoredRow δ)
  | chunkRows, _, [] => chunkRows
  | chunkRows, previous, candidate :: rest =>
    if candidate.segment ≠ segment then chunkRows
    else if !chunkRows.isEmpty && breaksChunk candidate previous then chunkRows
    else collectChunk segment (chunkRows ++ [candidate]) candidate rest

/-- `chunk` and `mask` (lines 104–116). -/
def fillChunk (horizon : ℕ) (row : StoredRow δ) (actions : List (List δ)) :
    Except ViewError (List (List δ) × List Bool) :=
  let zeros := List.replicate 12 zero
  match actions.getLast? with
  | some last => .ok (actions ++ List.replicate (horizon - actions.length) last,
      List.replicate actions.length true ++ List.replicate (horizon - actions.length) false)
  | none => do
    let first ← absoluteNativeAction row.action
    return (first :: List.replicate (horizon - 1) zeros, true :: List.replicate (horizon - 1) false)

/-- `_read_image`, where `images` gives the frames that can be read. -/
def readImage (images : ℤ → String → ℤ → Option ι) (episode : ℤ) (role : String) (frame : ℤ) :
    Except ViewError ι :=
  match images episode role frame with
  | some image => .ok image
  | none => .error (.imageUnreadable role)

/-- `ActDatasetAdapter.__getitem__`. -/
def ActDatasetAdapter.getItem (images : ℤ → String → ℤ → Option ι) (a : ActDatasetAdapter δ)
    (index : ℕ) : Except ViewError (ActItem δ ι) := do
  let some (episode, row) := a.refs[index]? | throw .indexOutOfRange
  let episodeRows := (a.episodes.lookup episode).getD []
  let some localIndex := episodeRows.findIdx? fun candidate => decide (candidate.index = row.index)
    | throw .rowNotFound
  let chunkRows := collectChunk row.segment [] row
    ((episodeRows.drop localIndex).take a.actionHorizon)
  let actions ← chunkRows.mapM fun candidate => absoluteNativeAction candidate.action
  let (chunk, mask) ← fillChunk a.actionHorizon row actions
  let workspace ← readImage images episode "workspace" row.frameIndex
  let wrist ← readImage images episode "wrist" row.frameIndex
  return {
    workspace, wrist
    state := row.state
    force := if a.forceEnabled then
      some ⟨row.force, row.forceAgeS, row.forceValid, row.forceTimestampNs⟩ else none
    action := chunk
    actionMask := mask
    episodeIndex := episode
    frameIndex := row.frameIndex
    timestampNs := row.timestampNs
    task := row.task }

end Code

/-! ## Runs of rows -/

/-- The row directly follows the one before it: the same segment, the next raw frame, at
    most 1.5 periods of 30 Hz later; it may be earlier. -/
def Follows (previous row : StoredRow δ) : Prop :=
  row.segment = previous.segment ∧ row.rawFrame = previous.rawFrame + 1 ∧
    2 * 30 * (row.timestampNs - previous.timestampNs) ≤ 3 * 10 ^ 9

instance : DecidableRel (Follows (δ := δ)) := fun _ _ => inferInstanceAs (Decidable (_ ∧ _))

/-- The `k` rows from row `i` on follow one another. -/
def IsRun (rows : List (StoredRow δ)) (i k : ℕ) : Prop :=
  i + k ≤ rows.length ∧ ((rows.drop i).take k).IsChain Follows

theorem breaksChunk_iff {segment : ℤ} {candidate previous : StoredRow δ}
    (hprevious : previous.segment = segment) (hsegment : candidate.segment = segment) :
    breaksChunk candidate previous = true ↔ ¬Follows previous candidate := by
  simp only [breaksChunk, Follows, Bool.or_eq_true, decide_eq_true_eq, hprevious, hsegment,
    true_and]
  omega

variable {rows : List (StoredRow δ)}

/-- The loop past its first row. -/
theorem collectChunk_cons {segment : ℤ} (collected : List (StoredRow δ))
    {previous : StoredRow δ} (hprevious : previous.segment = segment) :
    collectChunk segment (collected ++ [previous]) previous rows =
      collected ++ chainPrefix Follows (previous :: rows) := by
  induction rows generalizing collected previous with
  | nil => rfl
  | cons candidate rest ih =>
    rw [collectChunk]
    by_cases hsegment : candidate.segment = segment
    · by_cases hfollows : Follows previous candidate
      · have hkept : breaksChunk candidate previous = false := by
          simpa [hfollows] using breaksChunk_iff hprevious hsegment
        rw [if_neg (not_not.mpr hsegment), hkept, Bool.and_false, if_neg Bool.false_ne_true,
          ih _ hsegment, chainPrefix_cons_of_pos hfollows, List.append_assoc]
        rfl
      · have hbroken : breaksChunk candidate previous = true :=
          (breaksChunk_iff hprevious hsegment).mpr hfollows
        rw [if_neg (not_not.mpr hsegment), hbroken, if_pos (by simp),
          chainPrefix_cons_of_neg hfollows]
    · have hother : ¬Follows previous candidate := fun h => hsegment (h.1.trans hprevious)
      rw [if_pos hsegment, chainPrefix_cons_of_neg hother]

/-- **The rows of a chunk** are the longest run at the front. -/
theorem chunkRows_eq (row : StoredRow δ) (rest : List (StoredRow δ)) :
    collectChunk row.segment [] row (row :: rest) = chainPrefix Follows (row :: rest) := by
  rw [collectChunk, if_neg (not_not.mpr rfl)]
  exact collectChunk_cons [] rfl

/-- How many rows a chunk has: the longest run from row `i` on within the horizon. -/
structure IsChunkLength (rows : List (StoredRow δ)) (horizon i k : ℕ) : Prop where
  pos : 0 < k
  le_horizon : k ≤ horizon
  run : IsRun rows i k
  maximal : ∀ m, m ≤ horizon → IsRun rows i m → m ≤ k

theorem isChunkLength_chainPrefix {horizon i : ℕ}
    (hhorizon : 0 < horizon) (hi : i < rows.length) :
    IsChunkLength rows horizon i
      (chainPrefix Follows ((rows.drop i).take horizon)).length := by
  set window := (rows.drop i).take horizon with hwindow
  set k := (chainPrefix Follows window).length with hk
  have hlength : window.length = min horizon (rows.length - i) := by
    rw [hwindow, List.length_take, List.length_drop]
  have hkle : k ≤ window.length := (chainPrefix_isPrefix Follows window).length_le
  have htake : ∀ m ≤ horizon, window.take m = (rows.drop i).take m := by
    intro m hm
    rw [hwindow, List.take_take, min_eq_left hm]
  refine ⟨?_, by omega, ⟨by omega, ?_⟩, ?_⟩
  · obtain ⟨first, rest, hcons⟩ := List.exists_cons_of_length_pos (l := window) (by omega)
    obtain ⟨others, hothers⟩ := chainPrefix_cons (R := Follows) first rest
    rw [hk, hcons, hothers, List.length_cons]
    exact Nat.succ_pos _
  · rw [← htake k (by omega), ← chainPrefix_eq_take]
    exact isChain_chainPrefix Follows window
  · intro m hm hrun
    refine length_le_chainPrefix Follows (by have := hrun.1; omega) ?_
    rw [htake m hm]
    exact hrun.2

/-! ## Filling a chunk -/

/-- The mask and the actions of a chunk of `k` rows from row `i` on. -/
structure FillsChunk (rows : List (StoredRow δ)) (horizon i k : ℕ) (chunk : List (List δ))
    (mask : List Bool) : Prop where
  length_chunk : chunk.length = horizon
  length_mask : mask.length = horizon
  /-- the mask is true exactly on the first `k` places -/
  mask_eq : ∀ j < horizon, mask[j]? = some (decide (j < k))
  /-- the stored actions of the run, then the last of them -/
  chunk_eq : ∀ j < horizon, chunk[j]? = rows[i + min j (k - 1)]?.map StoredRow.action

theorem fillsChunk {horizon i k : ℕ} {last : StoredRow δ}
    (h : IsChunkLength rows horizon i k) (hlast : rows[i + (k - 1)]? = some last) :
    FillsChunk rows horizon i k
      (((rows.drop i).take k).map StoredRow.action ++ List.replicate (horizon - k) last.action)
      (List.replicate k true ++ List.replicate (horizon - k) false) := by
  have hpos := h.pos
  have hle := h.le_horizon
  have hrun := h.run.1
  have hlength : (((rows.drop i).take k).map StoredRow.action).length = k := by
    simp
    omega
  refine ⟨?_, ?_, ?_, ?_⟩
  · rw [List.length_append, hlength, List.length_replicate]
    omega
  · simp
    omega
  · intro j hj
    by_cases hjk : j < k
    · rw [List.getElem?_append_left (by simpa using hjk), List.getElem?_replicate_of_lt hjk]
      simp [hjk]
    · rw [List.getElem?_append_right (by simpa using hjk), List.length_replicate,
        List.getElem?_replicate_of_lt (by omega)]
      simp [hjk]
  · intro j hj
    by_cases hjk : j < k
    · rw [List.getElem?_append_left (by omega), List.getElem?_map, List.getElem?_take_of_lt hjk,
        List.getElem?_drop, min_eq_left (by omega)]
    · rw [List.getElem?_append_right (by omega), hlength,
        List.getElem?_replicate_of_lt (by omega), min_eq_right (by omega), hlast]
      rfl

/-! ## The rows of the adapter -/

/-- Every row of an episode of the adapter has its example. -/
theorem ActDatasetAdapter.create_refs {dataset : StoredDataset δ} {split : String}
    {actionHorizon : ℤ} {force : Bool} {a : ActDatasetAdapter δ}
    (hcreate : ActDatasetAdapter.create dataset split actionHorizon force = .ok a) :
    0 < a.actionHorizon ∧ (a.actionHorizon : ℤ) = actionHorizon ∧
      ∀ episode rows, a.episodes.lookup episode = some rows → ∀ row ∈ rows,
        (episode, row) ∈ a.refs := by
  unfold create at hcreate
  split_ifs at hcreate with hhorizon
  cases hids : dataset.splits.lookup split with
  | none => rw [hids] at hcreate; exact nomatch hcreate
  | some ids =>
    rw [hids] at hcreate
    obtain rfl := Except.ok.inj hcreate
    have hfold : ∀ (episodes : List (ℤ × List (StoredRow δ))) (b : ActDatasetAdapter δ),
        (∀ episode rows, b.episodes.lookup episode = some rows → ∀ row ∈ rows,
          (episode, row) ∈ b.refs) →
        (episodes.foldl (register ids) b).actionHorizon = b.actionHorizon ∧
          ∀ episode rows, (episodes.foldl (register ids) b).episodes.lookup episode = some rows →
            ∀ row ∈ rows, (episode, row) ∈ (episodes.foldl (register ids) b).refs := by
      intro episodes
      induction episodes with
      | nil => exact fun b hb => ⟨rfl, hb⟩
      | cons line rest ih =>
        intro b hb
        have hkept : (b.register ids line).actionHorizon = b.actionHorizon := by
          unfold register
          split_ifs <;> rfl
        rw [List.foldl_cons, ← hkept]
        apply ih
        intro episode rows hrows row hrow
        by_cases hskip : line.1 ∉ ids
        · simp only [register, if_pos hskip] at hrows ⊢
          exact hb episode rows hrows row hrow
        · simp only [register, if_neg hskip] at hrows ⊢
          apply List.mem_append.mpr
          by_cases hself : episode = line.1
          · subst hself
            rw [lookup_dictSet_self] at hrows
            obtain rfl := Option.some.inj hrows
            exact Or.inr (List.mem_map_of_mem hrow)
          · rw [lookup_dictSet_of_ne hself] at hrows
            exact Or.inl (hb episode rows hrows row hrow)
    obtain ⟨hlength, hrefs⟩ := hfold dataset.episodes
      { actionHorizon := actionHorizon.toNat, forceEnabled := force, episodes := [], refs := [] }
      (by simp)
    refine ⟨?_, ?_, hrefs⟩
    · rw [hlength]
      simp
      omega
    · rw [hlength]
      simp
      omega

theorem findIdx?_index
    (hindex : rows.Pairwise fun previous row => previous.index < row.index) {i : ℕ}
    {row : StoredRow δ} (hrow : rows[i]? = some row) :
    rows.findIdx? (fun candidate => decide (candidate.index = row.index)) = some i := by
  obtain ⟨hi, hget⟩ := List.getElem?_eq_some_iff.mp hrow
  apply List.findIdx?_eq_some_iff_getElem.mpr
  refine ⟨hi, by simp [hget], ?_⟩
  intro j hj
  have hlt := List.pairwise_iff_getElem.mp hindex j i (by omega) hi hj
  rw [hget] at hlt
  simpa using hlt.ne

/-! ## Examples -/

section Chunks

variable [Double δ]

/-- `absolute_native_action` of the row does not raise. -/
def StoredRow.ActionValid (row : StoredRow δ) : Prop :=
  row.action.length = 12 ∧ row.action.all isFinite = true

instance (row : StoredRow δ) : Decidable row.ActionValid := inferInstanceAs (Decidable (_ ∧ _))

theorem mapM_absoluteNativeAction (rows : List (StoredRow δ)) :
    rows.mapM (fun candidate => absoluteNativeAction candidate.action) =
      if ∀ row ∈ rows, row.ActionValid then .ok (rows.map StoredRow.action)
      else .error .actionNotFinite := by
  induction rows with
  | nil => simp [pure, Except.pure]
  | cons row rest ih =>
    rw [List.mapM_cons]
    by_cases hrow : row.ActionValid
    · have hok : absoluteNativeAction row.action = .ok row.action := if_pos hrow
      rw [hok, ih]
      by_cases hrest : ∀ row ∈ rest, row.ActionValid
      · rw [if_pos hrest, if_pos (by simpa [hrow] using hrest)]
        rfl
      · rw [if_neg hrest, if_neg (by simpa [hrow] using hrest)]
        rfl
    · have hraise : absoluteNativeAction row.action = .error .actionNotFinite := if_neg hrow
      rw [hraise, if_neg fun h => hrow (h row List.mem_cons_self)]
      rfl

variable (images : ℤ → String → ℤ → Option ι)

/-- The images of the row can be read. -/
def Readable (episode : ℤ) (row : StoredRow δ) : Prop :=
  (images episode "workspace" row.frameIndex).isSome ∧
    (images episode "wrist" row.frameIndex).isSome

/-- What `__getitem__` returns for a row whose chunk is `chunkRows`. -/
theorem ActDatasetAdapter.getItem_eq {a : ActDatasetAdapter δ} {n i : ℕ} {episode : ℤ}
    {rows chunkRows : List (StoredRow δ)} {row last : StoredRow δ}
    (hrows : a.episodes.lookup episode = some rows)
    (hindex : rows.Pairwise fun previous row => previous.index < row.index)
    (hrow : rows[i]? = some row) (hn : a.refs[n]? = some (episode, row))
    (hchunk : collectChunk row.segment [] row ((rows.drop i).take a.actionHorizon) = chunkRows)
    (hlast : chunkRows.getLast? = some last) :
    ((∃ item, a.getItem images n = .ok item) ↔
        (∀ candidate ∈ chunkRows, candidate.ActionValid) ∧ Readable images episode row) ∧
      ∀ item, a.getItem images n = .ok item →
        item.action = chunkRows.map StoredRow.action ++
          List.replicate (a.actionHorizon - chunkRows.length) last.action ∧
        item.actionMask = List.replicate chunkRows.length true ++
          List.replicate (a.actionHorizon - chunkRows.length) false := by
  have hlast' : (chunkRows.map StoredRow.action).getLast? = some last.action := by
    rw [List.getLast?_map, hlast]
    rfl
  simp only [getItem, hn, hrows, Option.getD_some, findIdx?_index hindex hrow, hchunk,
    mapM_absoluteNativeAction]
  by_cases hvalid : ∀ candidate ∈ chunkRows, candidate.ActionValid
  · rw [if_pos hvalid]
    cases hworkspace : images episode "workspace" row.frameIndex with
    | none =>
      simp [fillChunk, hlast', readImage, hworkspace, Readable, bind, Except.bind]
    | some workspace =>
      cases hwrist : images episode "wrist" row.frameIndex with
      | none =>
        simp [fillChunk, hlast', readImage, hworkspace, hwrist, Readable, bind, Except.bind]
      | some wrist =>
        simp only [fillChunk, hlast', readImage, hworkspace, hwrist, Readable, bind, Except.bind,
          pure, Except.pure, List.length_map, Except.ok.injEq, exists_eq', Option.isSome_some,
          and_self, and_true, true_iff]
        refine ⟨hvalid, ?_⟩
        rintro item rfl
        exact ⟨rfl, rfl⟩
  · rw [if_neg hvalid]
    simp [bind, Except.bind, hvalid]

/-- **Action chunks.** For row `i` of an episode with increasing indices, the mask is true on
    the first `k > 0` places and the actions are those of the rows `i … i + k - 1`, padded
    with the last of them, where `k` is the longest run from row `i` on within the horizon.
    An example is returned exactly if the actions of the run are finite and the images can
    be read. -/
theorem action_chunks {dataset : StoredDataset δ} {split : String} {actionHorizon : ℤ}
    {force : Bool} {a : ActDatasetAdapter δ}
    (hcreate : ActDatasetAdapter.create dataset split actionHorizon force = .ok a)
    {episode : ℤ} {rows : List (StoredRow δ)} (hrows : a.episodes.lookup episode = some rows)
    (hindex : rows.Pairwise fun previous row => previous.index < row.index)
    {i : ℕ} {row : StoredRow δ} (hrow : rows[i]? = some row) :
    (a.actionHorizon : ℤ) = actionHorizon ∧ (∃ n : ℕ, a.refs[n]? = some (episode, row)) ∧
      ∀ n : ℕ, a.refs[n]? = some (episode, row) →
        ∃ k, IsChunkLength rows a.actionHorizon i k ∧
          ((∃ item, a.getItem images n = .ok item) ↔
            (∀ j < k, ∀ other ∈ rows[i + j]?, other.ActionValid) ∧
              Readable images episode row) ∧
          ∀ item, a.getItem images n = .ok item →
            FillsChunk rows a.actionHorizon i k item.action item.actionMask := by
  obtain ⟨hpos, hhorizon, hrefs⟩ := a.create_refs hcreate
  obtain ⟨hi, hget⟩ := List.getElem?_eq_some_iff.mp hrow
  refine ⟨hhorizon, List.mem_iff_getElem?.mp (hrefs episode rows hrows row
    (List.mem_of_getElem? hrow)), ?_⟩
  intro n hn
  set window := (rows.drop i).take a.actionHorizon with hwindow
  set k := (chainPrefix Follows window).length with hk
  have hlength : IsChunkLength rows a.actionHorizon i k := isChunkLength_chainPrefix hpos hi
  have hcons : ∃ rest, window = row :: rest := by
    obtain ⟨m, hm⟩ := Nat.exists_eq_succ_of_ne_zero hpos.ne'
    rw [hwindow, List.drop_eq_getElem_cons hi, hget, hm, List.take_succ_cons]
    exact ⟨_, rfl⟩
  have hchunk : collectChunk row.segment [] row window = (rows.drop i).take k := by
    obtain ⟨rest, hrest⟩ := hcons
    rw [hrest, chunkRows_eq, ← hrest, chainPrefix_eq_take, ← hk, hwindow, List.take_take,
      min_eq_left hlength.le_horizon]
  have hrun := hlength.run.1
  have hkpos := hlength.pos
  have hchunkLength : ((rows.drop i).take k).length = k := by
    simp
    omega
  have hmem : ∀ j, ((rows.drop i).take k)[j]? = if j < k then rows[i + j]? else none := by
    intro j
    rw [List.getElem?_take, List.getElem?_drop]
  obtain ⟨last, hlast⟩ : ∃ last, rows[i + (k - 1)]? = some last :=
    ⟨_, List.getElem?_eq_getElem (by omega)⟩
  have hgetLast : ((rows.drop i).take k).getLast? = some last := by
    rw [List.getLast?_eq_getElem?, hchunkLength, hmem, if_pos (by omega), hlast]
  obtain ⟨hreturns, hitem⟩ := a.getItem_eq images hrows hindex hrow hn hchunk hgetLast
  refine ⟨k, hlength, ?_, ?_⟩
  · rw [hreturns]
    apply and_congr_left'
    constructor
    · intro h j hj other hother
      refine h other (List.mem_iff_getElem?.mpr ⟨j, ?_⟩)
      rw [hmem, if_pos hj]
      exact hother
    · intro h candidate hcandidate
      obtain ⟨j, hj⟩ := List.mem_iff_getElem?.mp hcandidate
      rw [hmem] at hj
      split_ifs at hj with hjk
      exact h j hjk candidate hj
  · intro item hok
    obtain ⟨haction, hmask⟩ := hitem item hok
    rw [haction, hmask, hchunkLength]
    exact fillsChunk hlength hlast

end Chunks

/-! ## An episode with a boundary -/

/-- A row whose action repeats its index. -/
def storedRow (index rawFrame segment timestampNs : ℤ) : StoredRow ℚ where
  index
  frameIndex := index
  rawFrameIndex := some rawFrame
  segmentId := some segment
  timestampNs
  state := List.replicate 12 0
  action := List.replicate 12 index
  force := List.replicate 6 0
  forceAgeS := none
  forceValid := false
  forceTimestampNs := none
  task := "pick"

/-- Two rows of one segment and one of the next. -/
def boundaryRows : List (StoredRow ℚ) :=
  [storedRow 0 4 0 0, storedRow 1 5 0 33000000, storedRow 2 6 1 66000000]

/-- The adapter of the episode, with a horizon of four. -/
def boundaryAdapter : ActDatasetAdapter ℚ where
  actionHorizon := 4
  forceEnabled := false
  episodes := [(7, boundaryRows)]
  refs := boundaryRows.map (7, ·)

theorem action_chunks_boundary : ∃ k, IsChunkLength boundaryRows 4 0 k ∧
    ∀ item : ActItem ℚ Unit, boundaryAdapter.getItem (fun _ _ _ => some ()) 0 = .ok item →
      FillsChunk boundaryRows 4 0 k item.action item.actionMask := by
  obtain ⟨-, -, hitems⟩ := action_chunks (fun _ _ _ => some ())
    (show ActDatasetAdapter.create ⟨[("train", [7])], [(7, boundaryRows)]⟩ "train" 4 false =
      .ok boundaryAdapter from rfl)
    (show boundaryAdapter.episodes.lookup 7 = some boundaryRows from rfl) (by decide)
    (show boundaryRows[0]? = some (storedRow 0 4 0 0) from rfl)
  obtain ⟨k, hlength, -, hitem⟩ := hitems 0 rfl
  exact ⟨k, hlength, hitem⟩

/-- Two rows of one segment, the second ten seconds before the first. -/
def backwardRows : List (StoredRow ℚ) := [storedRow 0 4 0 (10 ^ 10), storedRow 1 5 0 0]

/-- The adapter of the episode, with a horizon of two. -/
def backwardAdapter : ActDatasetAdapter ℚ where
  actionHorizon := 2
  forceEnabled := false
  episodes := [(7, backwardRows)]
  refs := backwardRows.map (7, ·)

/-- The two rows share a chunk. -/
theorem backward_chunk :
    ActDatasetAdapter.create ⟨[("train", [7])], [(7, backwardRows)]⟩ "train" 2 false =
        .ok backwardAdapter ∧
      (∃ item : ActItem ℚ Unit, backwardAdapter.getItem (fun _ _ _ => some ()) 0 = .ok item ∧
        item.actionMask = [true, true]) ∧
      ∀ first ∈ backwardRows[0]?, ∀ second ∈ backwardRows[1]?,
        3 * 10 ^ 9 < 2 * 30 * |second.timestampNs - first.timestampNs| := by
  refine ⟨rfl, ⟨_, rfl, rfl⟩, ?_⟩
  decide

end HandLab.Materialization
