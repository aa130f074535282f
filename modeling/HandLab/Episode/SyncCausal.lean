import HandLab.Episode.Synchronization

/-!
# Causality of the offline synchronization

The cameras, the hand and an audited arm are searched in sorted lists. Without an audit
the arm is searched in the order of the file, where the search can miss the latest sample;
it never finds a later one.

* `latestBefore_iff`: when `_latest` finds the latest sample.
* `timelineLoop_getElem?`: the grid.
* `validityCounts_eq`: the counts.
* `synchronization_causal`: the report, exactly where no search throws the latest arm
  sample away.
* `ArmFound.of_sorted`: none does in rows whose arm timestamps never decrease.
* `missed_sample`: three rows out of order.
-/

namespace HandLab.Episode.Synchronization

open HandLab.Lib Double

variable {δ β : Type}

/-! ## The latest sample -/

/-- What is selected is the latest of the values at or before the time. -/
def LatestBefore (timestamp : β → ℤ) (values : List β) (timestampNs : ℤ) : Option β → Prop
  | none => ∀ v ∈ values, timestampNs < timestamp v
  | some selected => selected ∈ values ∧ timestamp selected ≤ timestampNs ∧
      ∀ v ∈ values, timestamp v ≤ timestampNs → timestamp v ≤ timestamp selected

section Latest

variable {timestamp : β → ℤ} {values : List β} {timestampNs : ℤ}

/-- What `_latest` selects is never later than the time. -/
theorem latest_le {v : β} (h : latest timestamp values timestampNs = some v) :
    v ∈ values ∧ timestamp v ≤ timestampNs := by
  unfold latest at h
  split at h
  · exact nomatch h
  · rename_i index hplace
    obtain ⟨a, ha, hle⟩ := bisectRight_le index hplace
    rw [List.getElem?_map, h, Option.map_some] at ha
    obtain rfl := Option.some.inj ha
    exact ⟨List.mem_of_getElem? h, hle⟩

/-- **The latest is selected** exactly if no probe of the search throws it away. -/
theorem latestBefore_iff :
    LatestBefore timestamp values timestampNs (latest timestamp values timestampNs) ↔
      KeepsLatest (values.map timestamp) timestampNs values.length 0 values.length := by
  have hlength : (values.map timestamp).length = values.length := List.length_map _
  rw [← hlength, ← isLatest_iff_keeps]
  cases hplace : bisectRight (values.map timestamp) timestampNs with
  | zero =>
    have hnone : latest timestamp values timestampNs = none := by
      rw [latest, hplace]
    rw [hnone]
    constructor
    · intro hafter
      refine ⟨fun i hi => absurd hi (by omega), ?_⟩
      intro b hb hle
      obtain ⟨v, hv, rfl⟩ := List.mem_map.mp hb
      exact absurd (hafter v hv) (not_lt.mpr hle)
    · intro hlatest v hv
      by_contra hle
      obtain ⟨i, a, hi, -⟩ := hlatest.greatest _ (List.mem_map_of_mem hv) (not_lt.mp hle)
      omega
  | succ index =>
    obtain ⟨a, ha, hle⟩ := bisectRight_le index hplace
    rw [List.getElem?_map, Option.map_eq_some_iff] at ha
    obtain ⟨v, hv, rfl⟩ := ha
    have hsome : latest timestamp values timestampNs = some v := by
      rw [latest, hplace]
      exact hv
    rw [hsome]
    constructor
    · rintro ⟨-, -, hmax⟩
      refine ⟨?_, ?_⟩
      · intro i hi
        obtain rfl : index = i := by omega
        exact ⟨timestamp v, by rw [List.getElem?_map, hv, Option.map_some], hle⟩
      · intro b hb hbt
        obtain ⟨w, hw, rfl⟩ := List.mem_map.mp hb
        refine ⟨index, timestamp v, rfl, ?_, hmax w hw hbt⟩
        rw [List.getElem?_map, hv, Option.map_some]
    · intro hlatest
      refine ⟨List.mem_of_getElem? hv, hle, ?_⟩
      intro w hw hwt
      obtain ⟨i, a, hi, ha, hwa⟩ := hlatest.greatest _ (List.mem_map_of_mem hw) hwt
      obtain rfl : index = i := by omega
      rw [List.getElem?_map, hv, Option.map_some] at ha
      obtain rfl := Option.some.inj ha
      exact hwa

theorem sortedBy_pairwise (timestamp : β → ℤ) (values : List β) :
    ((sortedBy timestamp values).map timestamp).Pairwise (· ≤ ·) := by
  rw [List.pairwise_map]
  unfold sortedBy
  exact List.pairwise_insertionSort (fun a b => timestamp a ≤ timestamp b) values

theorem latestBefore_sorted (timestamp : β → ℤ) (values : List β) (timestampNs : ℤ) :
    LatestBefore timestamp (sortedBy timestamp values) timestampNs
      (latest timestamp (sortedBy timestamp values) timestampNs) := by
  rw [latestBefore_iff]
  have h := keepsLatest_sorted (x := timestampNs) (sortedBy_pairwise timestamp values)
  rwa [List.length_map] at h

end Latest

/-! ## The property -/

def TimedValue.of (timestampNs : ℤ) : Option (Observation δ) → TimedValue δ
  | none => ⟨none, none, none, false⟩
  | some o => ⟨some o.values, some o.timestampNs, some (timestampNs - o.timestampNs), true⟩

/-- The value is the latest observation at or before the time. -/
def Selects (observations : List (Observation δ)) (timestampNs : ℤ) (value : TimedValue δ) :
    Prop :=
  ∃ selected, LatestBefore Observation.timestampNs observations timestampNs selected ∧
    value = TimedValue.of timestampNs selected

/-- The value of a frame at the time. -/
def CameraValue.of (timestampNs toleranceNs : ℤ) :
    Option (CameraObservation δ) → CameraValue δ
  | none => ⟨none, none, none, none, none, false⟩
  | some o =>
    if timestampNs - o.timestampNs ≤ toleranceNs then
      ⟨some o.frameIndex, some o.frameNumber, some o.deviceTimestampMs, some o.timestampNs,
        some (timestampNs - o.timestampNs), true⟩
    else ⟨none, none, none, none, some (timestampNs - o.timestampNs), false⟩

/-- The value is the latest frame at or before the time, and valid if it is recent. -/
def SelectsCamera (observations : List (CameraObservation δ)) (timestampNs toleranceNs : ℤ)
    (value : CameraValue δ) : Prop :=
  ∃ selected, LatestBefore CameraObservation.timestampNs observations timestampNs selected ∧
    value = CameraValue.of timestampNs toleranceNs selected

structure EntryCausal (sources : Sources δ) (toleranceNs : ℤ) (entry : TimelineEntry δ) :
    Prop where
  jaka : Selects sources.jaka entry.timestampNs entry.jaka
  rh56Position : Selects sources.rh56Position entry.timestampNs entry.rh56Position
  rh56Force : Selects sources.rh56Force entry.timestampNs entry.rh56Force
  camera : ∀ role,
    SelectsCamera (sources.cameras role) entry.timestampNs toleranceNs (entry.camera role)
  validity : entry.validity = [("jaka", entry.jaka.valid),
    ("rh56_position", entry.rh56Position.valid), ("rh56_force", entry.rh56Force.valid),
    ("camera.workspace", (entry.camera .workspace).valid),
    ("camera.wrist", (entry.camera .wrist).valid)]

/-- A report is causal, its grid complete and its counts right. -/
structure Causal (sources : Sources δ) (startNs endNs periodNs toleranceNs : ℤ)
    (report : SyncReport δ) : Prop where
  grid : ∀ i : ℕ, report.timeline[i]?.map TimelineEntry.timestampNs =
    if startNs + i * periodNs ≤ endNs then some (startNs + i * periodNs) else none
  entries : ∀ entry ∈ report.timeline, EntryCausal sources toleranceNs entry
  counts : ∀ name, (report.validityCounts.lookup name).getD 0 =
    report.timeline.countP fun entry => entry.validity.lookup name == some true

/-! ## Entries -/

section Entries

variable {sources : Sources δ} {toleranceNs timestampNs : ℤ}

theorem timedValue_eq {observations : List (Observation δ)} :
    timedValue (latest Observation.timestampNs observations timestampNs) timestampNs =
      TimedValue.of timestampNs (latest Observation.timestampNs observations timestampNs) := by
  cases h : latest Observation.timestampNs observations timestampNs with
  | none => rfl
  | some o => simp [timedValue, TimedValue.of, (latest_le h).2]

theorem TimedValue.of_injective :
    Function.Injective (TimedValue.of (δ := δ) timestampNs) := by
  intro first second h
  cases first with
  | none =>
    cases second with
    | none => rfl
    | some o => exact absurd (congrArg TimedValue.valid h) (by simp [TimedValue.of])
  | some o =>
    cases second with
    | none => exact absurd (congrArg TimedValue.valid h) (by simp [TimedValue.of])
    | some o' =>
      obtain ⟨timestamp, values⟩ := o
      obtain ⟨timestamp', values'⟩ := o'
      simp only [TimedValue.of, TimedValue.mk.injEq, Option.some.injEq] at h
      obtain ⟨rfl, rfl, -⟩ := h
      rfl

/-- The value selected is the latest exactly if `_latest` finds it. -/
theorem selects_iff {observations : List (Observation δ)} :
    Selects observations timestampNs
        (timedValue (latest Observation.timestampNs observations timestampNs) timestampNs) ↔
      LatestBefore Observation.timestampNs observations timestampNs
        (latest Observation.timestampNs observations timestampNs) := by
  rw [timedValue_eq]
  constructor
  · rintro ⟨selected, hlatest, heq⟩
    rwa [TimedValue.of_injective heq]
  · intro hlatest
    exact ⟨_, hlatest, rfl⟩

theorem selectCamera_eq {observations : List (CameraObservation δ)} :
    selectCamera observations timestampNs toleranceNs = CameraValue.of timestampNs toleranceNs
      (latest CameraObservation.timestampNs observations timestampNs) := by
  unfold selectCamera
  cases h : latest CameraObservation.timestampNs observations timestampNs with
  | none => rfl
  | some o =>
    have hage : 0 ≤ timestampNs - o.timestampNs := by
      have := (latest_le h).2
      omega
    simp only [CameraValue.of, hage, true_and]

theorem validity_entryAt (sources : Sources δ) (toleranceNs timestampNs : ℤ) :
    (entryAt sources toleranceNs timestampNs).validity =
      [("jaka", (entryAt sources toleranceNs timestampNs).jaka.valid),
        ("rh56_position", (entryAt sources toleranceNs timestampNs).rh56Position.valid),
        ("rh56_force", (entryAt sources toleranceNs timestampNs).rh56Force.valid),
        ("camera.workspace", ((entryAt sources toleranceNs timestampNs).camera .workspace).valid),
        ("camera.wrist", ((entryAt sources toleranceNs timestampNs).camera .wrist).valid)] := by
  have hvalid : ∀ observations : List (Observation δ),
      (latest Observation.timestampNs observations timestampNs).isSome =
        (timedValue (latest Observation.timestampNs observations timestampNs)
          timestampNs).valid := by
    intro observations
    rw [timedValue_eq]
    cases latest Observation.timestampNs observations timestampNs <;> rfl
  simp only [entryAt, hvalid]

/-- Sources are sorted but for the arm. -/
structure Sources.Sorted (sources : Sources δ) : Prop where
  rh56Position : ∃ values, sources.rh56Position = sortedBy Observation.timestampNs values
  rh56Force : ∃ values, sources.rh56Force = sortedBy Observation.timestampNs values
  cameras : ∀ role, ∃ values, sources.cameras role = sortedBy CameraObservation.timestampNs values

/-- **One entry** is causal exactly if the search finds the latest arm sample. -/
theorem entryAt_causal_iff (h : sources.Sorted) :
    EntryCausal sources toleranceNs (entryAt sources toleranceNs timestampNs) ↔
      KeepsLatest (sources.jaka.map Observation.timestampNs) timestampNs sources.jaka.length 0
        sources.jaka.length := by
  rw [← latestBefore_iff, ← selects_iff]
  constructor
  · exact fun hentry => hentry.jaka
  · intro hjaka
    refine ⟨hjaka, ?_, ?_, ?_, validity_entryAt sources toleranceNs timestampNs⟩
    · obtain ⟨values, hvalues⟩ := h.rh56Position
      show Selects sources.rh56Position timestampNs (timedValue
        (latest Observation.timestampNs sources.rh56Position timestampNs) timestampNs)
      rw [hvalues, selects_iff]
      exact latestBefore_sorted _ _ _
    · obtain ⟨values, hvalues⟩ := h.rh56Force
      show Selects sources.rh56Force timestampNs (timedValue
        (latest Observation.timestampNs sources.rh56Force timestampNs) timestampNs)
      rw [hvalues, selects_iff]
      exact latestBefore_sorted _ _ _
    · intro role
      obtain ⟨values, hvalues⟩ := h.cameras role
      refine ⟨_, ?_, selectCamera_eq⟩
      rw [hvalues]
      exact latestBefore_sorted _ _ _

end Entries

/-! ## The grid and the counts -/

theorem timelineLoop_getElem? (sources : Sources δ) (toleranceNs : ℤ) {periodNs endNs : ℤ}
    (hperiod : 0 ≤ periodNs) {fuel : ℕ} {startNs : ℤ}
    (hends : periodNs = 0 → endNs < startNs) (hfuel : endNs - startNs < fuel) (i : ℕ) :
    (timelineLoop sources toleranceNs periodNs endNs fuel startNs)[i]? =
      if startNs + i * periodNs ≤ endNs then
        some (entryAt sources toleranceNs (startNs + i * periodNs)) else none := by
  have hmono : endNs < startNs → ¬startNs + i * periodNs ≤ endNs := by
    intro hlt
    have : 0 ≤ (i : ℤ) * periodNs := by positivity
    omega
  induction fuel generalizing startNs i with
  | zero =>
    rw [if_neg (hmono (by omega))]
    rfl
  | succ fuel ih =>
    rw [timelineLoop]
    by_cases hle : startNs ≤ endNs
    · rw [if_pos hle]
      have hpos : 0 < periodNs := by
        by_contra hnot
        have := hends (by omega)
        omega
      cases i with
      | zero => simp [hle]
      | succ i =>
        rw [List.getElem?_cons_succ, ih (fun h => absurd h (by omega)) (by omega) i]
        · have hshift : startNs + periodNs + (i : ℤ) * periodNs =
              startNs + ((i + 1 : ℕ) : ℤ) * periodNs := by
            push_cast
            ring
          rw [hshift]
        · intro hlt
          have : 0 ≤ (i : ℤ) * periodNs := by positivity
          omega
    · rw [if_neg hle, if_neg (hmono (by omega))]
      rfl

theorem counts_lookup (name : String) (items : List (String × Bool)) (counts : List (String × ℕ)) :
    ((items.foldl (fun counts (name, valid) =>
      dictSet name ((counts.lookup name).getD 0 + if valid then 1 else 0) counts)
        counts).lookup name).getD 0 =
      (counts.lookup name).getD 0 + items.countP fun item => item.1 == name && item.2 := by
  induction items generalizing counts with
  | nil => rfl
  | cons item rest ih =>
    obtain ⟨other, valid⟩ := item
    rw [List.foldl_cons, ih, List.countP_cons]
    by_cases hname : other = name
    · subst hname
      cases valid with
      | true => simp; omega
      | false => simp
    · rw [lookup_dictSet_of_ne (Ne.symm hname)]
      simp [hname]

/-- Among distinct names a flag is counted once. -/
theorem countP_eq_of_nodup {items : List (String × Bool)} (h : (items.map Prod.fst).Nodup)
    (name : String) : (items.countP fun item => item.1 == name && item.2) =
      if items.lookup name == some true then 1 else 0 := by
  induction items with
  | nil => rfl
  | cons item rest ih =>
    obtain ⟨other, valid⟩ := item
    rw [List.map_cons, List.nodup_cons] at h
    rw [List.countP_cons, ih h.2, List.lookup_cons]
    by_cases hname : name = other
    · subst hname
      have hrest : rest.lookup name = none := by
        rw [List.lookup_eq_none_iff]
        intro item hitem
        have hne : name ≠ item.1 := fun heq => h.1 (List.mem_map.mpr ⟨item, hitem, heq.symm⟩)
        simpa using hne
      cases valid <;> simp [hrest]
    · have hne : (name == other) = false := by simpa using hname
      have hne' : (other == name) = false := by simpa using Ne.symm hname
      simp [hne, hne']

/-- **The counts** are those of the entries marked valid. -/
theorem validityCounts_eq {timeline : List (TimelineEntry δ)}
    (h : ∀ entry ∈ timeline, (entry.validity.map Prod.fst).Nodup) (name : String) :
    ((validityCounts timeline).lookup name).getD 0 =
      timeline.countP fun entry => entry.validity.lookup name == some true := by
  unfold validityCounts
  rw [counts_lookup]
  simp only [List.lookup_nil, Option.getD_none, Nat.zero_add]
  induction timeline with
  | nil => rfl
  | cons entry rest ih =>
    rw [List.flatMap_cons, List.countP_append, List.countP_cons,
      ih fun other hother => h other (List.mem_cons_of_mem _ hother),
      countP_eq_of_nodup (h entry List.mem_cons_self), Nat.add_comm]

/-! ## The sources of an episode -/

section Episode

variable [PyFloat δ] {builtins : Builtins δ} {e : SyncEpisode δ} {sources : Sources δ}

theorem cameraObservations_ok {rows : List (SyncRow δ)} {role : CameraRole}
    {observations : List (CameraObservation δ)}
    (h : cameraObservations builtins rows role = .ok observations) :
    ∃ values, observations = sortedBy CameraObservation.timestampNs values := by
  unfold cameraObservations at h
  cases hloop : cameraLoop builtins (cameraClockMap builtins rows role) role [] rows with
  | error error => simp [hloop, bind, Except.bind] at h
  | ok values =>
    simp only [hloop, bind, Except.bind, pure, Except.pure, Except.ok.injEq] at h
    exact ⟨values, h.symm⟩

theorem sources_ok (h : e.sources builtins = .ok sources) :
    jakaObservations e.rows e.jakaAudit = .ok sources.jaka ∧ sources.Sorted := by
  unfold SyncEpisode.sources at h
  cases hjaka : jakaObservations e.rows e.jakaAudit with
  | error error => simp [hjaka, bind, Except.bind] at h
  | ok jaka =>
    cases hworkspace : cameraObservations builtins e.rows .workspace with
    | error error => simp [hjaka, hworkspace, bind, Except.bind] at h
    | ok workspace =>
      cases hwrist : cameraObservations builtins e.rows .wrist with
      | error error => simp [hjaka, hworkspace, hwrist, bind, Except.bind] at h
      | ok wrist =>
        simp only [hjaka, hworkspace, hwrist, bind, Except.bind, pure, Except.pure,
          Except.ok.injEq] at h
        subst h
        refine ⟨rfl, ?_, ?_, ?_⟩
        · unfold rh56Observations
          dsimp only
          split
          · exact ⟨_, rfl⟩
          · exact ⟨_, rfl⟩
        · unfold rh56Observations
          dsimp only
          split
          · exact ⟨_, rfl⟩
          · exact ⟨_, rfl⟩
        · intro role
          cases role with
          | workspace => exact cameraObservations_ok hworkspace
          | wrist => exact cameraObservations_ok hwrist

theorem periodNs_nonneg {fps : ℤ} (h : 0 < fps) : 0 ≤ periodNs fps := by
  have hfps : (0 : ℚ) < fps := by exact_mod_cast h
  exact roundHalfEven_nonneg (by positivity)

/-! ## The report -/

/-- `start_ns`. -/
def SyncEpisode.startNs (e : SyncEpisode δ) : Option ℤ := e.rows.head?.bind SyncRow.timestampNs

/-- `end_ns`. -/
def SyncEpisode.endNs (e : SyncEpisode δ) : Option ℤ :=
  e.rows.getLast?.bind SyncRow.timestampNs

/-- The report is causal for the sources of the episode. -/
def CausalReport (builtins : Builtins δ) (e : SyncEpisode δ) (cameraToleranceMs : δ)
    (fps : Option ℤ) (report : SyncReport δ) : Prop :=
  ∃ sources startNs endNs, e.sources builtins = .ok sources ∧ e.startNs = some startNs ∧
    e.endNs = some endNs ∧
    Causal sources startNs endNs (periodNs (datasetFps fps e.metadataFps))
      (PyFloat.round (mul cameraToleranceMs (ofRat 1000000))) report

/-- The arm is audited, or no search in the order of the file throws its latest sample away. -/
def ArmFound (e : SyncEpisode δ) (fps : Option ℤ) : Prop :=
  jakaAudited e.jakaAudit ≠ [] ∨ ∃ observations startNs endNs,
    jakaRows e.rows = .ok observations ∧ e.startNs = some startNs ∧ e.endNs = some endNs ∧
      ∀ i : ℕ, startNs + i * periodNs (datasetFps fps e.metadataFps) ≤ endNs →
        KeepsLatest (observations.map Observation.timestampNs)
          (startNs + i * periodNs (datasetFps fps e.metadataFps)) observations.length 0
            observations.length

omit [PyFloat δ] in
/-- The arm is found if its timestamps never decrease in the order of the file. -/
theorem ArmFound.of_sorted {fps : Option ℤ} {observations : List (Observation δ)}
    {startNs endNs : ℤ} (hrows : jakaRows e.rows = .ok observations)
    (hstart : e.startNs = some startNs) (hend : e.endNs = some endNs)
    (hsorted : (observations.map Observation.timestampNs).Pairwise (· ≤ ·)) :
    ArmFound e fps := by
  refine .inr ⟨observations, startNs, endNs, hrows, hstart, hend, fun i _ => ?_⟩
  have hkeeps := keepsLatest_sorted (x := startNs + i * periodNs (datasetFps fps e.metadataFps))
    hsorted
  rwa [List.length_map] at hkeeps

/-- What a call that returns has done. -/
theorem synchronizeStagingEpisode_ok {cameraToleranceMs : δ} {fps : Option ℤ}
    {report : SyncReport δ}
    (h : synchronizeStagingEpisode builtins e cameraToleranceMs fps = .ok report) :
    ∃ sources startNs endNs, e.sources builtins = .ok sources ∧ e.startNs = some startNs ∧
      e.endNs = some endNs ∧ 0 < datasetFps fps e.metadataFps ∧
      (periodNs (datasetFps fps e.metadataFps) = 0 → endNs < startNs) ∧
      report.timeline = timelineLoop sources
        (PyFloat.round (mul cameraToleranceMs (ofRat 1000000)))
        (periodNs (datasetFps fps e.metadataFps)) endNs ((endNs - startNs).toNat + 1) startNs ∧
      report.validityCounts = validityCounts report.timeline := by
  unfold synchronizeStagingEpisode at h
  split at h
  · rename_i first last hfirst hlast
    simp only [bind, Except.bind, pure, Except.pure, throw, throwThe,
      MonadExceptOf.throw] at h
    split_ifs at h with htolerance hfps
    cases hsources : e.sources builtins with
    | error error => simp [hsources] at h
    | ok sources =>
      simp only [hsources] at h
      split at h
      · rename_i startNs endNs hstart hend
        split_ifs at h with hendless
        obtain rfl := Except.ok.inj h
        refine ⟨sources, startNs, endNs, rfl, ?_, ?_, by omega, by omega, rfl, rfl⟩
        · rw [SyncEpisode.startNs, hfirst]
          exact hstart
        · rw [SyncEpisode.endNs, hlast]
          exact hend
      · exact nomatch h
  · exact nomatch h

/-- **Offline synchronization** is causal, and its grid and counts are right, exactly if the
    arm is found at every grid timestamp. -/
theorem synchronization_causal {cameraToleranceMs : δ} {fps : Option ℤ} {report : SyncReport δ}
    (h : synchronizeStagingEpisode builtins e cameraToleranceMs fps = .ok report) :
    CausalReport builtins e cameraToleranceMs fps report ↔ ArmFound e fps := by
  obtain ⟨sources, startNs, endNs, hsources, hstart, hend, hfps, hends, htimeline, hcounts⟩ :=
    synchronizeStagingEpisode_ok h
  obtain ⟨hjaka, hsorted⟩ := sources_ok hsources
  have hgrid : ∀ i : ℕ, report.timeline[i]? =
      if startNs + i * periodNs (datasetFps fps e.metadataFps) ≤ endNs then
        some (entryAt sources (PyFloat.round (mul cameraToleranceMs (ofRat 1000000)))
          (startNs + i * periodNs (datasetFps fps e.metadataFps))) else none := by
    intro i
    rw [htimeline]
    exact timelineLoop_getElem? sources _ (periodNs_nonneg hfps) hends (by omega) i
  have hmem : ∀ entry, entry ∈ report.timeline ↔ ∃ i : ℕ,
      startNs + i * periodNs (datasetFps fps e.metadataFps) ≤ endNs ∧
        entryAt sources (PyFloat.round (mul cameraToleranceMs (ofRat 1000000)))
          (startNs + i * periodNs (datasetFps fps e.metadataFps)) = entry := by
    intro entry
    rw [List.mem_iff_getElem?]
    refine exists_congr fun i => ?_
    rw [hgrid i]
    split_ifs with hle
    · simp [hle]
    · simp [hle]
  have hcausal : CausalReport builtins e cameraToleranceMs fps report ↔ ∀ i : ℕ,
      startNs + i * periodNs (datasetFps fps e.metadataFps) ≤ endNs →
        KeepsLatest (sources.jaka.map Observation.timestampNs)
          (startNs + i * periodNs (datasetFps fps e.metadataFps)) sources.jaka.length 0
            sources.jaka.length := by
    constructor
    · rintro ⟨sources', startNs', endNs', hsources', hstart', hend', hreport⟩ i hi
      obtain rfl := Except.ok.inj (hsources.symm.trans hsources')
      exact (entryAt_causal_iff hsorted).mp (hreport.entries _ ((hmem _).mpr ⟨i, hi, rfl⟩))
    · intro hkeeps
      refine ⟨sources, startNs, endNs, hsources, hstart, hend, ?_, ?_, ?_⟩
      · intro i
        rw [hgrid i]
        split_ifs <;> rfl
      · intro entry hentry
        obtain ⟨i, hi, rfl⟩ := (hmem entry).mp hentry
        exact (entryAt_causal_iff hsorted).mpr (hkeeps i hi)
      · intro name
        rw [hcounts]
        refine validityCounts_eq ?_ name
        intro entry hentry
        obtain ⟨i, -, rfl⟩ := (hmem entry).mp hentry
        simp [entryAt]
  rw [hcausal]
  unfold jakaObservations at hjaka
  by_cases haudited : jakaAudited e.jakaAudit = []
  · -- the rows in the order of the file
    simp only [haudited, List.isEmpty_nil, Bool.not_true, Bool.false_eq_true, if_false] at hjaka
    constructor
    · intro hkeeps
      exact .inr ⟨sources.jaka, startNs, endNs, hjaka, hstart, hend, hkeeps⟩
    · rintro (hne | ⟨observations, startNs', endNs', hrows, hstart', hend', hkeeps⟩)
      · exact absurd haudited hne
      · obtain rfl := Except.ok.inj (hjaka.symm.trans hrows)
        obtain rfl := Option.some.inj (hstart.symm.trans hstart')
        obtain rfl := Option.some.inj (hend.symm.trans hend')
        exact hkeeps
  · -- the sorted audit
    have hsome : (!(jakaAudited e.jakaAudit).isEmpty) = true := by simpa using haudited
    simp only [hsome, if_true] at hjaka
    refine iff_of_true ?_ (.inl haudited)
    intro i _
    rw [← Except.ok.inj hjaka, ← latestBefore_iff]
    exact latestBefore_sorted _ _ _

end Episode

/-! ## Rows out of order -/

section OutOfOrder

/-- The built-in functions on rationals. -/
def rationalBuiltins : Builtins ℚ where
  sum := List.sum
  int x := some (if 0 ≤ x then ⌊x⌋ else ⌈x⌉)

/-- A row with a state, at so many seconds. -/
def syncRow (seconds : ℤ) : SyncRow ℚ where
  timestampNs := some (seconds * 10 ^ 9)
  frameIndex := some 0
  state := some (List.replicate 12 seconds)
  camera := fun _ => ⟨none, none, none⟩

/-- Rows at these seconds, without audit files. -/
def rowsAt (seconds : List ℤ) : SyncEpisode ℚ where
  rows := seconds.map syncRow

def secondsReport (seconds : List ℤ) : Except SyncError (SyncReport ℚ) :=
  synchronizeStagingEpisode rationalBuiltins (rowsAt seconds) 100 (some 1)

theorem secondsReport_ok (seconds : List ℤ) (accepts : SyncReport ℚ → Bool)
    (h : ((secondsReport seconds).toOption.any accepts) = true) :
    ∃ report, secondsReport seconds = .ok report ∧ accepts report = true := by
  cases hreport : secondsReport seconds with
  | error e => rw [hreport] at h; exact nomatch h
  | ok report =>
    rw [hreport] at h
    exact ⟨report, rfl, h⟩

/-- Rows at one, two and three seconds. -/
theorem synchronization_causal_seconds : ∃ report, secondsReport [1, 2, 3] = .ok report ∧
    CausalReport rationalBuiltins (rowsAt [1, 2, 3]) 100 (some 1) report := by
  obtain ⟨report, hreport, -⟩ := secondsReport_ok [1, 2, 3] (fun _ => true) (by decide +kernel)
  refine ⟨report, hreport, (synchronization_causal hreport).mpr ?_⟩
  let observations : List (Observation ℚ) := [⟨1 * 10 ^ 9, List.replicate 6 1⟩,
    ⟨2 * 10 ^ 9, List.replicate 6 2⟩, ⟨3 * 10 ^ 9, List.replicate 6 3⟩]
  exact .of_sorted (show jakaRows _ = .ok observations from rfl) rfl rfl (by decide)

/-- The third entry has the arm sample of the first second. -/
def missesThird (report : SyncReport ℚ) : Bool :=
  report.timeline[2]?.any fun entry =>
    entry.timestampNs == 3 * 10 ^ 9 && entry.jaka.timestampNs == some (10 ^ 9)

/-- **A missed sample**: with rows at one, nine and three seconds, the entry at three seconds
    has the arm sample of the first. -/
theorem missed_sample : ∃ report, secondsReport [1, 9, 3] = .ok report ∧
    ¬CausalReport rationalBuiltins (rowsAt [1, 9, 3]) 100 (some 1) report := by
  obtain ⟨report, hreport, hmisses⟩ := secondsReport_ok [1, 9, 3] missesThird (by decide +kernel)
  refine ⟨report, hreport, ?_⟩
  rintro ⟨sources, startNs, endNs, hsources, -, -, hcausal⟩
  unfold missesThird at hmisses
  cases hthird : report.timeline[2]? with
  | none => simp [hthird] at hmisses
  | some entry =>
    rw [hthird] at hmisses
    simp only [Option.any_some, Bool.and_eq_true, beq_iff_eq] at hmisses
    obtain ⟨selected, hlatest, hvalue⟩ :=
      (hcausal.entries entry (List.mem_of_getElem? hthird)).jaka
    have hjaka : sources.jaka =
        [⟨10 ^ 9, List.replicate 6 1⟩, ⟨9 * 10 ^ 9, List.replicate 6 9⟩,
          ⟨3 * 10 ^ 9, List.replicate 6 3⟩] := by
      have hrows := (sources_ok hsources).1
      exact (Except.ok.inj hrows).symm
    rw [hvalue] at hmisses
    cases selected with
    | none => exact absurd hmisses.2 (by simp [TimedValue.of])
    | some o =>
      obtain ⟨-, -, hmax⟩ := hlatest
      have hthree := hmax ⟨3 * 10 ^ 9, List.replicate 6 3⟩ (by simp [hjaka])
        (by rw [hmisses.1])
      have hone : o.timestampNs = 10 ^ 9 := Option.some.inj hmisses.2
      rw [hone] at hthree
      exact absurd hthree (by decide)

end OutOfOrder

end HandLab.Episode.Synchronization
