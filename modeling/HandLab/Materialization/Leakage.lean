import HandLab.Lib.Run
import HandLab.Materialization.PhysicalBottle

/-!
# Leakage across splits

* `no_leakage`: every output of every sequence of calls keeps its splits apart if and
  only if the ranges of its manifest do.
* `overlapping_ranges`: two segments of one source episode whose ranges overlap are
  put into two splits, although every segment has a split group.
-/

namespace HandLab.Materialization

open HandLab.Lib

variable {δ : Type} [Double δ]

/-! ## The property -/

/-- What the statistics read of a row. -/
def RichRow.features (row : RichRow δ) : List δ × List δ × List δ × Bool :=
  (row.state, row.action, row.force, row.forceValid)

/-- The output of a materialization leaks nothing across its splits. -/
structure Output.NoLeakage (statistics : AxisStatistics δ) (o : Output δ) : Prop where
  /-- every segment is in exactly one split -/
  exactlyOnce : ∀ index < o.rowsBySegment.length, ∃ split, (o.splits split).count index = 1 ∧
    ∀ other, other ≠ split → index ∉ o.splits other
  /-- no source frame is in two splits -/
  apart : ∀ split other, split ≠ other → ∀ row ∈ o.rowsOf split, ∀ row' ∈ o.rowsOf other,
    (row.sourceEpisodeIndex, row.sourceFrameIndex) ≠
      (row'.sourceEpisodeIndex, row'.sourceFrameIndex)
  /-- an output with the same train rows has the same statistics -/
  stats : ∀ config tree o', materialize statistics config tree = .ok o' →
    (o'.rowsOf .train).map RichRow.features = (o.rowsOf .train).map RichRow.features →
      o'.stats = o.stats

/-! ## The condition -/

/-- The timestamp before the row at the position. -/
def previousNs (previous : Option ℤ) (selected : List (SourceRow δ)) : ℕ → Option ℤ
  | 0 => previous
  | i + 1 => selected[i]?.map SourceRow.timestampNs

/-- The row at the position has good quality and is later than the one before it. -/
def admits (previous : Option ℤ) (selected : List (SourceRow δ)) (i : ℕ) : Bool :=
  match selected[i]? with
  | none => false
  | some row => row.qualityReasons = [] ∧
      ∀ last ∈ previousNs previous selected i, last < row.timestampNs

/-- The frame index of the row at the position; a row without one counts the admitted
    rows before it. -/
def frameAt (previous : Option ℤ) (count : ℕ) (selected : List (SourceRow δ)) (i : ℕ) :
    Option ℤ :=
  selected[i]?.map fun row =>
    row.frameIndex.getD (count + (List.range i).countP (admits previous selected) : ℕ)

/-- The rows that the manifest selects for a segment. -/
def Selects (tree : SourceTree δ) (segment : LogicalSegment) (selected : List (SourceRow δ)) :
    Prop :=
  ∃ episode releaseNs rows, tree.lookup segment.sourceEpisode = some episode ∧
    episode.metadata = some releaseNs ∧ episode.rows = some rows ∧
    cropSegment rows releaseNs segment = .ok selected

/-- The ranges of two segments of one source episode in different splits admit no
    rows with the same frame index. -/
def KeepsApart (config : BottleConfig) (tree : SourceTree δ) : Prop :=
  ∀ split other, split ≠ other → ∀ a ∈ config.included, ∀ b ∈ config.included,
    a.id ∈ config.splitIds split → b.id ∈ config.splitIds other →
    a.sourceEpisode = b.sourceEpisode → ∀ selected selected', Selects tree a selected →
      Selects tree b selected' → ∀ i j, admits none selected i = true →
        admits none selected' j = true → frameAt none 0 selected i ≠ frameAt none 0 selected' j

/-! ## The exported rows -/

section Rows

omit [Double δ] in
theorem previousNs_cons (previous : Option ℤ) (row : SourceRow δ) (rest : List (SourceRow δ))
    (i : ℕ) : previousNs previous (row :: rest) (i + 1) =
      previousNs (some row.timestampNs) rest i := by
  cases i <;> rfl

theorem admits_cons (previous : Option ℤ) (row : SourceRow δ) (rest : List (SourceRow δ))
    (i : ℕ) : admits previous (row :: rest) (i + 1) = admits (some row.timestampNs) rest i := by
  unfold admits
  rw [List.getElem?_cons_succ, previousNs_cons]

theorem frameAt_cons (previous : Option ℤ) (count : ℕ) (row : SourceRow δ)
    (rest : List (SourceRow δ)) (i : ℕ) :
    frameAt previous count (row :: rest) (i + 1) =
      frameAt (some row.timestampNs)
        (count + if admits previous (row :: rest) 0 = true then 1 else 0) rest i := by
  have hcount : (List.range (i + 1)).countP (admits previous (row :: rest)) =
      (if admits previous (row :: rest) 0 = true then 1 else 0) +
        (List.range i).countP (admits (some row.timestampNs) rest) := by
    rw [List.range_succ_eq_map, List.countP_cons, List.countP_map, Nat.add_comm]
    have hshift : (admits previous (row :: rest)) ∘ Nat.succ =
        admits (some row.timestampNs) rest := funext fun i => admits_cons previous row rest i
    rw [hshift]
  unfold frameAt
  rw [List.getElem?_cons_succ, hcount, Nat.add_assoc]

theorem frameAt_of_admits {selected : List (SourceRow δ)} {previous : Option ℤ} {i count : ℕ}
    (h : admits previous selected i = true) : ∃ f, frameAt previous count selected i = some f := by
  unfold admits at h
  cases hrow : selected[i]? with
  | none => simp [hrow] at h
  | some row => exact ⟨_, by rw [frameAt, hrow, Option.map_some]⟩

/-- **The rows that are exported** are the admitted ones. -/
theorem mem_exportRows (segment : LogicalSegment) (f : ℤ) (previous : Option ℤ) (count : ℕ)
    (selected : List (SourceRow δ)) :
    (∃ row ∈ exportRows segment previous count selected, row.sourceFrameIndex = f) ↔
      ∃ i, admits previous selected i = true ∧ frameAt previous count selected i = some f := by
  induction selected generalizing previous count with
  | nil => simp [exportRows, admits]
  | cons row rest ih =>
    have hfirst : admits previous (row :: rest) 0 = true ↔
        row.qualityReasons = [] ∧ ∀ last ∈ previous, last < row.timestampNs := by
      simp [admits, previousNs]
    have hframe : frameAt previous count (row :: rest) 0 = some (row.frameIndex.getD count) := by
      simp [frameAt]
    -- the positions behind the first are those of the rest
    have hlater : (∃ i, admits previous (row :: rest) (i + 1) = true ∧
        frameAt previous count (row :: rest) (i + 1) = some f) ↔
        ∃ row' ∈ exportRows segment (some row.timestampNs)
          (count + if admits previous (row :: rest) 0 = true then 1 else 0) rest,
          row'.sourceFrameIndex = f := by
      rw [ih]
      simp only [admits_cons, frameAt_cons]
    rw [exportRows, ← Nat.or_exists_add_one, hlater, hframe]
    by_cases hadmits : admits previous (row :: rest) 0 = true
    · rw [if_pos (hfirst.mp hadmits), if_pos hadmits]
      simp [hadmits, richRow]
    · rw [if_neg (fun h => hadmits (hfirst.mpr h)), if_neg hadmits]
      simp [hadmits]

theorem exportRows_sourceEpisode {segment : LogicalSegment} {previous : Option ℤ} {count : ℕ}
    {selected : List (SourceRow δ)} {row : RichRow δ}
    (h : row ∈ exportRows segment previous count selected) :
    row.sourceEpisodeIndex = segment.sourceEpisode := by
  induction selected generalizing previous count with
  | nil => simp [exportRows] at h
  | cons first rest ih =>
    rw [exportRows] at h
    split at h
    · rcases List.mem_cons.mp h with rfl | h
      · rfl
      · exact ih h
    · exact ih h

end Rows

/-! ## The segments -/

section Segments

variable {config : BottleConfig} {tree : SourceTree δ}

theorem exportSegment_ok {segment : LogicalSegment} {output : List (RichRow δ)}
    (h : exportSegment tree segment = .ok output) :
    ∃ selected, Selects tree segment selected ∧ output = exportRows segment none 0 selected := by
  unfold exportSegment at h
  split at h
  · rename_i releaseNs rows _ _ hlookup
    split at h
    · exact nomatch h
    · rename_i selected hcrop
      dsimp only at h
      split at h
      · exact nomatch h
      · refine ⟨selected, ⟨_, releaseNs, rows, hlookup, rfl, rfl, hcrop⟩, ?_⟩
        exact (Except.ok.inj h).symm
  · exact nomatch h

omit [Double δ] in
theorem Selects.unique {segment : LogicalSegment} {selected selected' : List (SourceRow δ)}
    (h : Selects tree segment selected) (h' : Selects tree segment selected') :
    selected = selected' := by
  obtain ⟨episode, releaseNs, rows, hepisode, hmetadata, hrows, hcrop⟩ := h
  obtain ⟨episode', releaseNs', rows', hepisode', hmetadata', hrows', hcrop'⟩ := h'
  obtain rfl := Option.some_inj.mp (hepisode.symm.trans hepisode')
  obtain rfl := Option.some_inj.mp (hmetadata.symm.trans hmetadata')
  obtain rfl := Option.some_inj.mp (hrows.symm.trans hrows')
  exact Except.ok.inj (hcrop.symm.trans hcrop')

theorem exportSegments_ok {segments : List LogicalSegment} {logicalIndex offset : ℕ}
    {output : List (List (RichRow δ))}
    (h : exportSegments tree logicalIndex offset segments = .ok output) :
    List.Forall₂ (fun segment rows => ∃ exported, exportSegment tree segment = .ok exported ∧
      rows.map (fun row => (row.sourceEpisodeIndex, row.sourceFrameIndex)) =
        exported.map fun row => (row.sourceEpisodeIndex, row.sourceFrameIndex))
      segments output := by
  induction segments generalizing logicalIndex offset output with
  | nil =>
    obtain rfl := Except.ok.inj h
    exact .nil
  | cons segment rest ih =>
    unfold exportSegments at h
    cases hexported : exportSegment tree segment with
    | error e => simp [hexported, bind, Except.bind] at h
    | ok exported =>
      cases hothers : exportSegments tree (logicalIndex + 1) (offset + exported.length) rest with
      | error e => simp [hexported, hothers, bind, Except.bind] at h
      | ok others =>
        simp only [hexported, hothers, bind, Except.bind, pure, Except.pure,
          Except.ok.injEq] at h
        subst h
        refine .cons ⟨exported, hexported, ?_⟩ (ih hothers)
        conv_rhs => rw [← List.zipIdx_map_fst 0 exported]
        rw [List.map_map, List.map_map]
        rfl

theorem segmentIndex_iff (hnodup : (config.included.map LogicalSegment.id).Nodup) {id : String}
    {index : ℕ} : config.segmentIndex id = some index ↔
      ∃ a, config.included[index]? = some a ∧ a.id = id := by
  unfold BottleConfig.segmentIndex
  rw [List.idxOf?_eq_some_iff]
  constructor
  · rintro ⟨hlt, hid, -⟩
    rw [List.length_map] at hlt
    exact ⟨config.included[index], List.getElem?_eq_getElem hlt, by simpa using hid⟩
  · rintro ⟨a, ha, rfl⟩
    obtain ⟨hlt, hget⟩ := List.getElem?_eq_some_iff.mp ha
    have hlen : index < (config.included.map LogicalSegment.id).length := by simpa using hlt
    refine ⟨hlen, by simp [hget], fun j hj heq => ?_⟩
    have hindex : (config.included.map LogicalSegment.id)[index] = a.id := by simp [hget]
    have := (hnodup.getElem_inj_iff).mp (heq.trans hindex.symm)
    omega

theorem mem_splitIndices {split : Split} {indices : List ℕ}
    (h : config.splitIndices split = .ok indices) {index : ℕ} :
    index ∈ indices ↔ ∃ id ∈ config.splitIds split, config.segmentIndex id = some index := by
  unfold BottleConfig.splitIndices at h
  dsimp only at h
  split at h
  · exact nomatch h
  · obtain rfl := Except.ok.inj h
    rw [List.mem_insertionSort, List.mem_filterMap]

theorem assignSplits_ok {splits : Split → List ℕ} (h : config.assignSplits = .ok splits) :
    (∀ split, config.splitIndices split = .ok (splits split)) ∧
      (splits .train ++ splits .val ++ splits .test).Perm (List.range config.included.length) := by
  unfold BottleConfig.assignSplits at h
  cases htrain : config.splitIndices .train with
  | error e => simp [htrain, bind, Except.bind] at h
  | ok train =>
    cases hval : config.splitIndices .val with
    | error e => simp [htrain, hval, bind, Except.bind] at h
    | ok val =>
      cases htest : config.splitIndices .test with
      | error e => simp [htrain, hval, htest, bind, Except.bind] at h
      | ok test =>
        simp only [htrain, hval, htest, bind, Except.bind] at h
        split at h
        · exact nomatch h
        rename_i hsorted
        cases hgroups : config.validateSplitGroups with
        | error e => simp [hgroups] at h
        | ok u =>
          simp only [hgroups, pure, Except.pure, Except.ok.injEq] at h
          subst h
          refine ⟨fun split => by cases split <;> assumption, ?_⟩
          have hperm := List.perm_insertionSort (· ≤ ·) (train ++ val ++ test)
          rw [not_not.mp hsorted] at hperm
          exact hperm.symm

omit [Double δ] in
theorem audit_ok (h : config.audit tree = .ok ()) :
    (config.included.map LogicalSegment.id).Nodup := by
  have hnodup : (config.segments.map LogicalSegment.id).Nodup := by
    unfold BottleConfig.audit at h
    split at h
    · exact nomatch h
    dsimp only at h
    split at h
    · exact nomatch h
    split at h
    · exact nomatch h
    split at h
    · exact nomatch h
    split at h
    · exact nomatch h
    · rename_i hids
      exact not_not.mp (not_or.mp hids).1
  exact hnodup.sublist (List.filter_sublist.map _)

end Segments

/-! ## Materializations -/

section Materialized

variable {statistics : AxisStatistics δ} {config : BottleConfig} {tree : SourceTree δ}
  {o : Output δ}

/-- What a materialization does. -/
theorem materialize_ok (h : materialize statistics config tree = .ok o) :
    exportSegments tree 0 0 config.included = .ok o.rowsBySegment ∧
      config.assignSplits = .ok o.splits ∧
      normalization statistics (o.rowsOf .train) = .ok o.stats := by
  unfold materialize at h
  split at h
  · exact nomatch h
  cases hrows : exportSegments tree 0 0 config.included with
  | error e => simp [hrows, bind, Except.bind] at h
  | ok rowsBySegment =>
    cases hsplits : config.assignSplits with
    | error e => simp [hrows, hsplits, bind, Except.bind] at h
    | ok splits =>
      simp only [hrows, hsplits, bind, Except.bind] at h
      split at h
      · exact nomatch h
      · rename_i stats hstats
        obtain rfl := Except.ok.inj h
        exact ⟨rfl, rfl, hstats⟩

theorem normalization_congr {rows rows' : List (RichRow δ)}
    (h : rows.map RichRow.features = rows'.map RichRow.features) :
    normalization statistics rows = normalization statistics rows' := by
  have hstate : ∀ rows : List (RichRow δ), rows.map RichRow.state =
      (rows.map RichRow.features).map fun f => f.1 := by simp [RichRow.features]
  have haction : ∀ rows : List (RichRow δ), rows.map RichRow.action =
      (rows.map RichRow.features).map fun f => f.2.1 := by simp [RichRow.features]
  have hforce : ∀ rows : List (RichRow δ), (rows.filter RichRow.forceValid).map RichRow.force =
      ((rows.map RichRow.features).filter fun f => f.2.2.2).map fun f => f.2.2.1 := by
    intro rows
    rw [List.filter_map, List.map_map]
    rfl
  have hempty : ∀ rows : List (RichRow δ), rows.filter RichRow.forceValid = [] ↔
      (rows.filter RichRow.forceValid).map RichRow.force = [] := by simp
  unfold normalization
  simp only [hempty, hstate, haction, hforce, h]

/-- **The frames of a split** are those that its segments admit. -/
theorem mem_rowsOf (haudit : config.audit tree = .ok ())
    (h : materialize statistics config tree = .ok o) (split : Split) (episode f : ℤ) :
    (∃ row ∈ o.rowsOf split, row.sourceEpisodeIndex = episode ∧ row.sourceFrameIndex = f) ↔
      ∃ a ∈ config.included, a.id ∈ config.splitIds split ∧ a.sourceEpisode = episode ∧
        ∃ selected, Selects tree a selected ∧ ∃ i, admits none selected i = true ∧
          frameAt none 0 selected i = some f := by
  obtain ⟨hexport, hassign, -⟩ := materialize_ok h
  have hnodup := audit_ok haudit
  have hrows := exportSegments_ok hexport
  have hmem : ∀ index, index ∈ o.splits split ↔ ∃ a, config.included[index]? = some a ∧
      a.id ∈ config.splitIds split := by
    intro index
    rw [mem_splitIndices ((assignSplits_ok hassign).1 split)]
    simp only [segmentIndex_iff hnodup]
    constructor
    · rintro ⟨id, hid, a, ha, rfl⟩
      exact ⟨a, ha, hid⟩
    · rintro ⟨a, ha, hid⟩
      exact ⟨a.id, hid, a, ha, rfl⟩
  have hget : ∀ index, ∀ hlt : index < o.rowsBySegment.length,
      o.rowsBySegment.getD index [] = o.rowsBySegment[index] := by
    intro index hlt
    rw [List.getD_eq_getElem?_getD, List.getElem?_eq_getElem hlt]
    rfl
  constructor
  · rintro ⟨row, hrow, rfl, rfl⟩
    obtain ⟨index, hindex, hrow⟩ := List.mem_flatMap.mp hrow
    obtain ⟨a, ha, hid⟩ := (hmem index).mp hindex
    obtain ⟨hlt, rfl⟩ := List.getElem?_eq_some_iff.mp ha
    have hlt' : index < o.rowsBySegment.length := hrows.length_eq ▸ hlt
    obtain ⟨exported, hexported, hpairs⟩ := hrows.get hlt hlt'
    obtain ⟨selected, hselects, rfl⟩ := exportSegment_ok hexported
    rw [hget index hlt'] at hrow
    -- the numbering keeps the source episode and the source frame
    obtain ⟨row', hrow', hpair⟩ := List.mem_map.mp (hpairs ▸ List.mem_map_of_mem hrow)
    obtain ⟨hepisode, hframe⟩ := Prod.mk.inj hpair
    have hadmitted := (mem_exportRows _ _ none 0 selected).mp ⟨row', hrow', hframe⟩
    exact ⟨_, List.getElem_mem hlt, hid, hepisode ▸ (exportRows_sourceEpisode hrow').symm, selected,
      hselects, hadmitted⟩
  · rintro ⟨a, ha, hid, rfl, selected, hselects, hadmitted⟩
    obtain ⟨index, hlt, rfl⟩ := List.getElem_of_mem ha
    have hlt' : index < o.rowsBySegment.length := hrows.length_eq ▸ hlt
    obtain ⟨exported, hexported, hpairs⟩ := hrows.get hlt hlt'
    obtain ⟨selected', hselects', rfl⟩ := exportSegment_ok hexported
    obtain rfl := hselects.unique hselects'
    obtain ⟨row', hrow', hframe⟩ :=
      (mem_exportRows config.included[index] f none 0 selected).mpr hadmitted
    obtain ⟨row, hrow, hpair⟩ := List.mem_map.mp (hpairs.symm ▸ List.mem_map_of_mem hrow')
    obtain ⟨hepisode, hsame⟩ := Prod.mk.inj hpair
    refine ⟨row, List.mem_flatMap.mpr ⟨index, ?_, ?_⟩, ?_, hsame.trans hframe⟩
    · exact (hmem index).mpr ⟨_, List.getElem?_eq_getElem hlt, hid⟩
    · rw [hget index hlt']
      exact hrow
    · exact hepisode.trans (exportRows_sourceEpisode hrow')

theorem exactlyOnce (h : materialize statistics config tree = .ok o) :
    ∀ index < o.rowsBySegment.length, ∃ split, (o.splits split).count index = 1 ∧
      ∀ other, other ≠ split → index ∉ o.splits other := by
  obtain ⟨hexport, hassign, -⟩ := materialize_ok h
  have hlength := (exportSegments_ok hexport).length_eq
  intro index hlt
  have hcount := (assignSplits_ok hassign).2.count_eq index
  rw [List.count_append, List.count_append, List.count_eq_one_of_mem List.nodup_range
    (List.mem_range.mpr (hlength ▸ hlt))] at hcount
  have hnone : ∀ split, (o.splits split).count index = 0 → index ∉ o.splits split :=
    fun split => List.count_eq_zero.mp
  rcases Nat.eq_zero_or_pos ((o.splits .train).count index) with htrain | htrain
  · rcases Nat.eq_zero_or_pos ((o.splits .val).count index) with hval | hval
    · refine ⟨.test, by omega, fun other hother => ?_⟩
      cases other with
      | train => exact hnone _ htrain
      | val => exact hnone _ hval
      | test => exact absurd rfl hother
    · refine ⟨.val, by omega, fun other hother => ?_⟩
      cases other with
      | train => exact hnone _ htrain
      | val => exact absurd rfl hother
      | test => exact hnone _ (by omega)
  · refine ⟨.train, by omega, fun other hother => ?_⟩
    cases other with
    | train => exact absurd rfl hother
    | val => exact hnone _ (by omega)
    | test => exact hnone _ (by omega)

/-- **A materialization leaks nothing if and only if its ranges are apart.** -/
theorem noLeakage_iff (haudit : config.audit tree = .ok ())
    (h : materialize statistics config tree = .ok o) :
    o.NoLeakage statistics ↔ KeepsApart config tree := by
  have hframes := mem_rowsOf haudit h
  constructor
  · intro hleak split other hne a ha b hb hid hid' hepisode selected selected' hselects hselects'
      i j hi hj heq
    obtain ⟨f, hf⟩ := frameAt_of_admits hi
    obtain ⟨row, hrow, hrowEpisode, hrowFrame⟩ := (hframes split a.sourceEpisode f).mpr
      ⟨a, ha, hid, rfl, selected, hselects, i, hi, hf⟩
    obtain ⟨row', hrow', hrowEpisode', hrowFrame'⟩ := (hframes other a.sourceEpisode f).mpr
      ⟨b, hb, hid', hepisode.symm, selected', hselects', j, hj, heq ▸ hf⟩
    refine hleak.apart split other hne row hrow row' hrow' (Prod.ext ?_ ?_)
    · exact hrowEpisode.trans hrowEpisode'.symm
    · exact hrowFrame.trans hrowFrame'.symm
  · intro hapart
    refine ⟨exactlyOnce h, ?_, ?_⟩
    · intro split other hne row hrow row' hrow' hpair
      obtain ⟨hepisode, hframe⟩ := Prod.mk.inj hpair
      obtain ⟨a, ha, hid, hrowEpisode, selected, hselects, i, hi, hf⟩ :=
        (hframes split _ _).mp ⟨row, hrow, rfl, rfl⟩
      obtain ⟨b, hb, hid', hrowEpisode', selected', hselects', j, hj, hf'⟩ :=
        (hframes other _ _).mp ⟨row', hrow', hepisode.symm, hframe.symm⟩
      exact hapart split other hne a ha b hb hid hid' (hrowEpisode.trans hrowEpisode'.symm)
        selected selected' hselects hselects' i j hi hj (hf.trans hf'.symm)
    · intro config' tree' o' h' hfeatures
      have hstats := (materialize_ok h).2.2
      have hstats' := (materialize_ok h').2.2
      rw [normalization_congr hfeatures] at hstats'
      exact Except.ok.inj (hstats'.symm.trans hstats)

end Materialized

/-! ## Calls -/

section Calls

variable {φ : Type} [DecidableEq φ] (statistics : AxisStatistics δ)
  (fingerprint : MaterializeCall δ → φ)

/-- Every output at the root was materialized by a call with its fingerprint. -/
def Made (calls : List (MaterializeCall δ)) : OutputRoot φ δ → Prop
  | .empty | .foreign | .marked => True
  | .materialized existing output => ∃ made ∈ calls, fingerprint made = existing ∧
      made.config.audit made.tree = .ok () ∧
      materialize statistics made.config made.tree = .ok output

omit [DecidableEq φ] in
theorem Made.mono {statistics : AxisStatistics δ} {fingerprint : MaterializeCall δ → φ}
    {calls calls' : List (MaterializeCall δ)} {root : OutputRoot φ δ}
    (h : Made statistics fingerprint calls root) (hsub : calls ⊆ calls') :
    Made statistics fingerprint calls' root := by
  cases root with
  | materialized existing output =>
    obtain ⟨made, hmade, hrest⟩ := h
    exact ⟨made, hsub hmade, hrest⟩
  | _ => trivial

omit [DecidableEq φ] [Double δ] in
theorem write_materialized {root : OutputRoot φ δ} {place : ReportPlace} (existing : φ)
    (output : Output δ) (h : root.write place = .materialized existing output) :
    root = root.write place := by
  cases place <;> cases root <;> first | rfl | exact nomatch h

/-- **What a call does**: it builds the output, reuses that of the root, or fails and leaves no
    output that was not there. -/
theorem call_cases (root : OutputRoot φ δ) (c : MaterializeCall δ) :
    (∃ output, root.call statistics fingerprint c =
        (.ok (output, false), .materialized (fingerprint c) output) ∧
      c.config.audit c.tree = .ok () ∧ materialize statistics c.config c.tree = .ok output) ∨
    (∃ output, root.call statistics fingerprint c = (.ok (output, true), root) ∧
      root = .materialized (fingerprint c) output) ∨
    ∃ e after, root.call statistics fingerprint c = (.error e, after) ∧
      ∀ existing output, after = .materialized existing output → root = after := by
  unfold OutputRoot.call
  cases haudit : c.config.audit c.tree with
  | error e => exact .inr (.inr ⟨e, root, rfl, fun _ _ _ => rfl⟩)
  | ok u =>
    have hbuild : (∃ output, c.build statistics fingerprint =
          (.ok (output, false), .materialized (fingerprint c) output) ∧
        Except.ok u = (Except.ok () : Except MaterializationError Unit) ∧
        materialize statistics c.config c.tree = .ok output) ∨
        (∃ output, c.build statistics fingerprint = (.ok (output, true), root) ∧
          root = .materialized (fingerprint c) output) ∨
        ∃ e after, c.build statistics fingerprint = (.error e, after) ∧
          ∀ existing output, after = .materialized existing output → root = after := by
      unfold MaterializeCall.build
      cases materialize statistics c.config c.tree with
      | error e => exact .inr (.inr ⟨e, .empty, rfl, nofun⟩)
      | ok output =>
        cases c.materializationReport with
        | outside => exact .inl ⟨output, rfl, rfl, rfl⟩
        | inside => exact .inr (.inr ⟨.rootOccupied, .foreign, rfl, nofun⟩)
        | marker => exact .inr (.inr ⟨.rootOccupied, .marked, rfl, nofun⟩)
    have hwrite : ∀ (existing : φ) (output : Output δ),
        root.write c.auditReport = .materialized existing output →
          root = root.write c.auditReport :=
      write_materialized
    dsimp only
    generalize root.write c.auditReport = audited at hwrite
    by_cases hdisjoint : c.disjoint = false
    · rw [if_pos hdisjoint]
      exact .inr (.inr ⟨.rootsOverlap, audited, rfl, hwrite⟩)
    rw [if_neg hdisjoint]
    cases audited with
    | empty => exact hbuild
    | foreign =>
      cases c.replace with
      | true => exact hbuild
      | false => exact .inr (.inr ⟨.outputNotEmpty, .foreign, rfl, hwrite⟩)
    | marked =>
      cases c.replace with
      | true => exact hbuild
      | false => exact .inr (.inr ⟨.differentFingerprint, .marked, rfl, hwrite⟩)
    | materialized existing output =>
      cases c.replace with
      | true => exact hbuild
      | false =>
        obtain rfl := hwrite existing output rfl
        by_cases hsame : existing = fingerprint c
        · subst hsame
          exact .inr (.inl ⟨output, if_pos rfl, rfl⟩)
        · exact .inr (.inr ⟨.differentFingerprint, _, if_neg hsame, hwrite⟩)

/-- **No leakage**, exactly where the ranges are apart, for every output that a
    sequence of calls returns. -/
theorem no_leakage (statistics : AxisStatistics δ) (fingerprint : MaterializeCall δ → φ)
    (occupied : Bool) (calls : List (MaterializeCall δ)) (c : MaterializeCall δ)
    (output : Output δ) (reused : Bool)
    (h : ((run (fun root c => (OutputRoot.call statistics fingerprint root c).2)
      (if occupied then .foreign else .empty) calls).call statistics fingerprint c).1 =
        .ok (output, reused)) :
    ∃ made ∈ calls ++ [c], fingerprint made = fingerprint c ∧ (reused = false → made = c) ∧
      (output.NoLeakage statistics ↔ KeepsApart made.config made.tree) := by
  have hmade : Made statistics fingerprint calls
      (run (fun root c => (OutputRoot.call statistics fingerprint root c).2)
        (if occupied then .foreign else .empty) calls) := by
    clear h
    induction calls using List.reverseRecOn with
    | nil => cases occupied <;> trivial
    | append_singleton calls last ih =>
      rw [run_concat]
      rcases call_cases statistics fingerprint
        (run (fun root c => (OutputRoot.call statistics fingerprint root c).2)
          (if occupied then .foreign else .empty) calls) last with
        ⟨output, hcall, haudit, hmaterialize⟩ | ⟨output, hcall, -⟩ | ⟨e, after, hcall, hafter⟩
      · rw [hcall]
        exact ⟨last, by simp, rfl, haudit, hmaterialize⟩
      · rw [hcall]
        exact ih.mono (List.subset_append_left _ _)
      · rw [hcall]
        cases after with
        | materialized existing output =>
          exact hafter existing output rfl ▸ ih.mono (List.subset_append_left _ _)
        | _ => trivial
  rcases call_cases statistics fingerprint _ c with
    ⟨output', hcall, haudit, hmaterialize⟩ | ⟨output', hcall, hroot⟩ | ⟨e, after, hcall, -⟩
  · rw [hcall] at h
    obtain ⟨rfl, rfl⟩ := Prod.mk.inj (Except.ok.inj h)
    exact ⟨c, by simp, rfl, fun _ => rfl, noLeakage_iff haudit hmaterialize⟩
  · rw [hcall] at h
    obtain ⟨rfl, rfl⟩ := Prod.mk.inj (Except.ok.inj h)
    rw [hroot] at hmade
    obtain ⟨made, hmem, hfingerprint, haudit, hmaterialize⟩ := hmade
    exact ⟨made, List.mem_append_left _ hmem, hfingerprint, nofun,
      noLeakage_iff haudit hmaterialize⟩
  · rw [hcall] at h
    exact nomatch h

end Calls

/-! ## Overlapping ranges -/

section Overlap

/-- A camera with a frame. -/
def recordedCamera : RowCamera := ⟨true, some 7⟩

/-- A recorded row with the frame index. -/
def recordedRow (frameIndex : ℕ) : SourceRow ℚ where
  timestampNs := 1000 + frameIndex
  frameIndex := some frameIndex
  state := List.replicate 12 frameIndex
  action := List.replicate 12 frameIndex
  force := List.replicate 6 0
  timing := {
    canonicalHostMonotonicNs := some (1000 + frameIndex)
    synchronizationValid := true
    rh56ForceActValid := true
    sourceTimestampsNs := []
    sourceTimestampDomains := []
    sourceValidity := ["jaka_observation", "rh56_angle_act", "workspace", "wrist"].map (·, true) }
  workspace := recordedCamera
  wrist := recordedCamera

/-- Two segments of one episode with two rows, in two splits and two groups: the first
    has the first row, the second the rows from the given one on. -/
def bottleCall (startFrame : ℤ) : MaterializeCall ℚ where
  config := {
    sourceReviews := [1]
    segments := [⟨"a", 1, true, 0, some 0, none, none⟩,
      ⟨"b", 1, true, startFrame, some 1, none, none⟩]
    splits := [("train", ["a"]), ("val", ["b"]), ("test", [])]
    splitGroups := some [⟨"ga", ["a"]⟩, ⟨"gb", ["b"]⟩] }
  tree := [(1, ⟨some none, some [recordedRow 0, recordedRow 1], true, true⟩)]

def singleRow : AxisStatistics ℚ where
  mean values := values.getD 0 []
  std values := (values.getD 0 []).map fun _ => 0
  minimum values := values.getD 0 []
  maximum values := values.getD 0 []

/-- The outcome of a call at an empty root. -/
def bottleOutcome (startFrame : ℤ) : Except MaterializationError (Output ℚ × Bool) :=
  (OutputRoot.call singleRow (fun _ => ()) .empty (bottleCall startFrame)).1

theorem bottleOutcome_ok (startFrame : ℤ) (accepts : Output ℚ → Bool)
    (h : ((bottleOutcome startFrame).toOption.any fun o => !o.2 && accepts o.1) = true) :
    ∃ output, bottleOutcome startFrame = .ok (output, false) ∧ accepts output = true := by
  cases hcall : bottleOutcome startFrame with
  | error e => rw [hcall] at h; exact nomatch h
  | ok value =>
    rw [hcall] at h
    obtain ⟨output, reused⟩ := value
    cases reused with
    | true => exact nomatch h
    | false => exact ⟨output, rfl, h⟩

/-- With disjoint ranges the call succeeds. -/
theorem no_leakage_disjoint : ∃ output, bottleOutcome 1 = .ok (output, false) ∧
    (output.NoLeakage singleRow ↔ KeepsApart (bottleCall 1).config (bottleCall 1).tree) := by
  obtain ⟨output, hcall, -⟩ := bottleOutcome_ok 1 (fun _ => true) (by decide +kernel)
  obtain ⟨made, hmem, -, -, hiff⟩ :=
    no_leakage singleRow (fun _ => ()) false [] (bottleCall 1) output false hcall
  obtain rfl := List.mem_singleton.mp hmem
  exact ⟨output, hcall, hiff⟩

/-- Some frame is in train and in validation. -/
def trainedOnValidation (o : Output ℚ) : Bool :=
  (o.rowsOf .train).any fun row => (o.rowsOf .val).any fun row' =>
    (row.sourceEpisodeIndex, row.sourceFrameIndex) ==
      (row'.sourceEpisodeIndex, row'.sourceFrameIndex)

/-- **Overlapping ranges leak**: the call succeeds, and the first row is in train and in
    validation. -/
theorem overlapping_ranges : ∃ output, bottleOutcome 0 = .ok (output, false) ∧
    ¬output.NoLeakage singleRow := by
  obtain ⟨output, hcall, hshared⟩ := bottleOutcome_ok 0 trainedOnValidation (by decide +kernel)
  refine ⟨output, hcall, fun hleak => ?_⟩
  obtain ⟨row, hrow, hother⟩ := List.any_eq_true.mp hshared
  obtain ⟨row', hrow', hsame⟩ := List.any_eq_true.mp hother
  exact hleak.apart .train .val (by decide) row hrow row' hrow' (eq_of_beq hsame)

end Overlap

end HandLab.Materialization
