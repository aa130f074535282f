import HandLab.Episode.CollectorLifecycle
import HandLab.Episode.CollectorSight

/-!
# Canonical samples are causal

What a canonical sample is made of, in every run of `SingleEpisodeCollector`. A slot
selects the latest snapshot of the control and a frame of each camera, and splices into
the snapshot what each source reported last. The values of a source and its timestamp
come from one snapshot, but for `jaka_command`: its timestamp is replaced and
`accepted_arm_q` stays the one of the selected snapshot.

* `replaceSource_self`, `replaceSource_of_ne`: what one replacement does.
* `slot_sampled`: the sample of a slot.
* `program_progress`: what a call hands over.
* `canonical_samples_causal`: every sample of a run.
-/

namespace HandLab.Episode

open HandLab.Lib

variable {ω δ ι : Type} [Double δ]

/-! ## Sources -/

/-- What a source records besides its timestamp. -/
def ControlSample.sourceValues (name : String) (sample : ControlSample δ) :
    List (Option (FiniteVector 6 δ)) :=
  if name = "jaka_observation" then [sample.armQMeasured, sample.armDqMeasured]
  else if name = "jaka_command" then [sample.acceptedArmQ]
  else if name = "rh56_angle_act" then [sample.handObservation]
  else if name = "rh56_force_act" then [sample.forceObservation]
  else []

/-- What no source replaces. -/
def ControlSample.unsourced (sample : ControlSample δ) : ControlSample δ :=
  { sample with
    armQMeasured := none
    armDqMeasured := none
    armQSource := .unavailable
    armDqSource := .unavailable
    handObservation := none
    handSource := .unavailable
    forceObservation := none
    sourceTimestampsNs := []
    sourceTimestampDomains := [] }

section Replace

variable (s : Collector ω δ ι) (t : ℤ) {name other : String} {base : ControlSample δ}

theorem replaceSource_disabled (h : name ∉ s.causalSourceEnabled) :
    s.replaceSource t name base = base := by
  unfold Collector.replaceSource
  rw [if_pos h]

theorem replaceSource_unsourced : (s.replaceSource t name base).unsourced = base.unsourced := by
  unfold Collector.replaceSource ControlSample.unsourced
  split
  · rfl
  dsimp only
  split
  · rfl
  split
  · rfl
  split
  · rfl
  · rfl

theorem replaceSource_timestamp (h : name ∈ s.causalSourceEnabled) :
    (s.replaceSource t name base).sourceTimestampsNs =
      dictSet name ((s.causalSource t name).bind (·.sourceTimestamp name))
        base.sourceTimestampsNs := by
  unfold Collector.replaceSource
  rw [if_neg (not_not_intro h)]
  dsimp only
  split
  · rfl
  split
  · rfl
  split
  · rfl
  · rfl

/-- A replacement leaves the other sources alone. -/
theorem replaceSource_of_ne (base : ControlSample δ) (h : other ≠ name) :
    (s.replaceSource t name base).sourceTimestamp other = base.sourceTimestamp other ∧
      (s.replaceSource t name base).sourceValues other = base.sourceValues other := by
  by_cases henabled : name ∈ s.causalSourceEnabled
  · constructor
    · unfold ControlSample.sourceTimestamp
      rw [replaceSource_timestamp s t henabled, lookup_dictSet_of_ne h]
    · unfold Collector.replaceSource ControlSample.sourceValues
      rw [if_neg (not_not_intro henabled)]
      dsimp only
      split_ifs <;> simp_all
  · rw [replaceSource_disabled s t henabled]
    exact ⟨rfl, rfl⟩

/-- The timestamp of a source is the one of the selected snapshot; so are its values, but
    for the command of the arm. -/
theorem replaceSource_self (h : name ∈ s.causalSourceEnabled) :
    (s.replaceSource t name base).sourceTimestamp name =
        (s.causalSource t name).bind (·.sourceTimestamp name) ∧
      (name = "jaka_command" →
        (s.replaceSource t name base).sourceValues name = base.sourceValues name) ∧
      ∀ snapshot, s.causalSource t name = some snapshot → name ≠ "jaka_command" →
        (s.replaceSource t name base).sourceValues name = snapshot.sourceValues name := by
  refine ⟨?_, ?_, ?_⟩
  · unfold ControlSample.sourceTimestamp
    rw [replaceSource_timestamp s t h, lookup_dictSet_self, Option.join_some]
    rfl
  · rintro rfl
    unfold Collector.replaceSource ControlSample.sourceValues
    rw [if_neg (not_not_intro h)]
    simp
  · intro snapshot hsnapshot hcommand
    unfold Collector.replaceSource ControlSample.sourceValues
    rw [if_neg (not_not_intro h), hsnapshot]
    dsimp only
    split_ifs <;> simp_all

/-- A replacement depends on what is recorded of its own source only. -/
theorem replaceSource_congr {base' : ControlSample δ}
    (htimestamp : base'.sourceTimestamp name = base.sourceTimestamp name)
    (hvalues : base'.sourceValues name = base.sourceValues name) :
    (s.replaceSource t name base').sourceTimestamp name =
        (s.replaceSource t name base).sourceTimestamp name ∧
      (s.replaceSource t name base').sourceValues name =
        (s.replaceSource t name base).sourceValues name := by
  by_cases h : name ∈ s.causalSourceEnabled
  · refine ⟨(replaceSource_self s t h).1.trans (replaceSource_self s t h).1.symm, ?_⟩
    unfold Collector.replaceSource ControlSample.sourceValues at *
    rw [if_neg (not_not_intro h), if_neg (not_not_intro h)]
    dsimp only
    split_ifs at hvalues ⊢ <;> simp_all
  · rw [replaceSource_disabled s t h, replaceSource_disabled s t h]
    exact ⟨htimestamp, hvalues⟩

/-- What the splice makes of one source, by induction over the sources. -/
theorem foldl_replaceSource {names : List String} (hnodup : names.Nodup) (hname : name ∈ names) :
    let spliced := names.foldl (fun sample name => s.replaceSource t name sample) base
    spliced.sourceTimestamp name = (s.replaceSource t name base).sourceTimestamp name ∧
      spliced.sourceValues name = (s.replaceSource t name base).sourceValues name := by
  induction names generalizing base with
  | nil => exact nomatch hname
  | cons head rest ih =>
    rw [List.nodup_cons] at hnodup
    rw [List.foldl_cons]
    by_cases hhead : name = head
    · subst hhead
      have hkeep (names : List String) (base : ControlSample δ) (hnot : name ∉ names) :
          (names.foldl (fun sample name => s.replaceSource t name sample) base).sourceTimestamp
              name = base.sourceTimestamp name ∧
            (names.foldl (fun sample name => s.replaceSource t name sample) base).sourceValues
              name = base.sourceValues name := by
        induction names generalizing base with
        | nil => exact ⟨rfl, rfl⟩
        | cons first names ih =>
          obtain ⟨hne, hnot⟩ := not_or.mp (fun h => hnot (List.mem_cons.mpr h))
          obtain ⟨htimestamp, hvalues⟩ := replaceSource_of_ne s t base hne
          obtain ⟨htimestamp', hvalues'⟩ := ih (s.replaceSource t first base) hnot
          exact ⟨htimestamp'.trans htimestamp, hvalues'.trans hvalues⟩
      exact hkeep rest _ hnodup.1
    · obtain ⟨htimestamp, hvalues⟩ := replaceSource_of_ne s t base hhead
      obtain ⟨htimestamp', hvalues'⟩ := @ih (s.replaceSource t head base) hnodup.2
        ((List.mem_cons.mp hname).resolve_left hhead)
      obtain ⟨hcongr, hcongr'⟩ := replaceSource_congr s t htimestamp hvalues
      exact ⟨htimestamp'.trans hcongr, hvalues'.trans hcongr'⟩

theorem causalControlAt_source (hname : name ∈ Collector.causalControlSources) :
    (s.causalControlAt base t).sourceTimestamp name =
        (s.replaceSource t name base).sourceTimestamp name ∧
      (s.causalControlAt base t).sourceValues name =
        (s.replaceSource t name base).sourceValues name :=
  foldl_replaceSource s t (by decide) hname

theorem causalControlAt_unsourced : (s.causalControlAt base t).unsourced = base.unsourced := by
  unfold Collector.causalControlAt Collector.causalControlSources
  simp only [List.foldl_cons, List.foldl_nil, replaceSource_unsourced]

end Replace

/-! ## Samples -/

/-- The last retained item that is not behind the time, and not older than allowed. -/
def CausalTimeline.Latest {τ : Type} (timeline : CausalTimeline τ) (t : ℤ) (value : τ) : Prop :=
  ∃ timestampNs, timestampNs ≤ t ∧ t - timestampNs ≤ timeline.maxAgeNs ∧ ∃ before after,
    timeline.items = before ++ (timestampNs, value) :: after ∧ ∀ later ∈ after, t < later.1

theorem CausalTimeline.latest_of_fresh {τ : Type} {timeline : CausalTimeline τ} {t : ℤ}
    {value : τ} (h : (timeline.latestAtOrBefore t).fresh? = some value) :
    timeline.Latest t value := by
  obtain ⟨timestampNs, hlatest, hage, -⟩ := fresh?_eq_some h
  obtain ⟨hle, -, before, after, hitems, hafter⟩ := latestMatching?_eq_some hlatest
  refine ⟨timestampNs, hle, hage, before, after, hitems, fun later hlater => ?_⟩
  by_contra hnot
  exact absurd (hafter later hlater (not_lt.mp hnot)) nofun

theorem CausalTimeline.Latest.mem {τ : Type} {timeline : CausalTimeline τ} {t : ℤ} {value : τ}
    (h : timeline.Latest t value) : ∃ item ∈ timeline.items, item.2 = value ∧ item.1 ≤ t ∧
      t - item.1 ≤ timeline.maxAgeNs := by
  obtain ⟨timestampNs, hle, hage, before, after, hitems, -⟩ := h
  exact ⟨(timestampNs, value), by rw [hitems]; simp, rfl, hle, hage⟩

/-- The last item at a time is found by the search from the end. -/
theorem CausalTimeline.Latest.unique {τ : Type} {timeline : CausalTimeline τ} {t : ℤ}
    {value value' : τ} (h : timeline.Latest t value) (h' : timeline.Latest t value') :
    value = value' := by
  have hfind {value : τ} (h : timeline.Latest t value) :
      (timeline.items.reverse.find? fun item => decide (item.1 ≤ t)).map Prod.snd =
        some value := by
    obtain ⟨timestampNs, hle, -, before, after, hitems, hafter⟩ := h
    have hnone : after.reverse.find? (fun item => decide (item.1 ≤ t)) = none := by
      refine List.find?_eq_none.mpr fun later hlater => ?_
      have hlt := hafter later (List.mem_reverse.mp hlater)
      simpa using hlt
    rw [hitems, List.reverse_append, List.reverse_cons, List.append_assoc, List.find?_append,
      hnone]
    simp [hle]
  exact Option.some.inj ((hfind h).symm.trans (hfind h'))

/-- The frame of a camera. -/
def CanonicalSample.frame (sample : CanonicalSample δ ι) : CameraRole → CameraRecord δ ι
  | .workspace => sample.workspace
  | .wrist => sample.wrist

/-- The recorded timestamp of a source is not behind the sample, and the recorded values are
    those of the retained snapshot that it was taken from. -/
def Stamped (control : CausalTimeline (ControlSample δ)) (sample : CanonicalSample δ ι)
    (name : String) : Prop :=
  ∀ sourceNs, sample.control.sourceTimestamp name = some sourceNs →
    sourceNs ≤ sample.timestampNs ∧ ∃ snapshot,
      control.sourceAt sample.timestampNs name = some snapshot ∧
        (∃ item ∈ control.items, item.2 = snapshot) ∧
        snapshot.sourceTimestamp name = some sourceNs ∧
        sample.control.sourceValues name = snapshot.sourceValues name

/-- The snapshot that was ingested, but for its segment. -/
def TookControl (calls : List (CollectorCall δ ι)) (snapshot : ControlSample δ) : Prop :=
  ∃ sample referenceEstablished rawRecords captureActive,
    .ingestControl sample referenceEstablished rawRecords captureActive ∈ calls ∧
      snapshot = { sample with
        controlSegmentId := snapshot.controlSegmentId
        controlSegmentMode := snapshot.controlSegmentMode }

/-- What is asked of a sample, but for `jaka_command`. -/
structure Sight.Sampled (config : CollectorConfig δ) (calls : List (CollectorCall δ ι))
    (v : Sight δ ι) (earlier : List (CanonicalSample δ ι)) (sample : CanonicalSample δ ι) :
    Prop where
  slot : ∃ startNs n, v.clock.startNs = some startNs ∧ sample.nominalSlotIndex = some n ∧
    sample.timestampNs = startNs + n * v.clock.periodNs ∧
    ∀ e ∈ earlier, ∃ m, e.nominalSlotIndex = some m ∧ m < n
  control : ∃ base, v.control.Latest sample.timestampNs base ∧ TookControl calls base ∧
    base.hostMonotonicNs ≤ sample.timestampNs ∧
    sample.timestampNs - base.hostMonotonicNs ≤ config.controlMaxAgeNs ∧
    sample.control.unsourced = base.unsourced
  cameras : ∀ role, (v.camera role).Latest sample.timestampNs (sample.frame role) ∧
    .ingestCamera (sample.frame role) ∈ calls ∧
    (sample.frame role).hostMonotonicNs ≤ sample.timestampNs ∧
    sample.timestampNs - (sample.frame role).hostMonotonicNs ≤ config.cameraMaxAgeNs
  sources : ∀ name ∈ Collector.causalControlSources, name ≠ "jaka_command" →
    Stamped v.control sample name

/-- The snapshot that carries the last `jaka_command` has the accepted target of the
    selected snapshot. -/
def CommandKept (control : CausalTimeline (ControlSample δ)) (t : ℤ) : Prop :=
  ∀ snapshot base, control.sourceAt t "jaka_command" = some snapshot →
    control.Latest t base → snapshot.acceptedArmQ = base.acceptedArmQ

/-- What is asked of a sample. -/
def Sight.Causal (config : CollectorConfig δ) (calls : List (CollectorCall δ ι)) (v : Sight δ ι)
    (earlier : List (CanonicalSample δ ι)) (sample : CanonicalSample δ ι) : Prop :=
  v.Sampled config calls earlier sample ∧ Stamped v.control sample "jaka_command"

/-- What is known of a sight. -/
structure Sight.Regular (config : CollectorConfig δ) (calls : List (CollectorCall δ ι))
    (v : Sight δ ι) : Prop where
  control : ∀ item ∈ v.control.items, item.1 = item.2.hostMonotonicNs ∧
    TookControl calls item.2 ∧ ∀ name ∈ Collector.causalControlSources,
      item.2.sourceTimestampsNs.lookup name ≠ none → name ∈ v.enabled
  cameras : ∀ role, ∀ item ∈ (v.camera role).items, item.1 = item.2.hostMonotonicNs ∧
    .ingestCamera item.2 ∈ calls
  controlAge : v.control.maxAgeNs = config.controlMaxAgeNs
  cameraAge : ∀ role, (v.camera role).maxAgeNs = config.cameraMaxAgeNs
  clock : (v.clock.startNs = none ∧ v.clock.nextNs = none ∧ v.samples = []) ∨
    ∃ startNs, v.clock.OnGrid startNs
  samples : ∀ e ∈ v.samples, ∃ m, e.nominalSlotIndex = some m ∧ m ≤ v.clock.lastNominalSlotIndex

/-- A slot that is due: its time, and the numbers of the samples before it. -/
structure Sight.Due (v : Sight δ ι) (frameIndex t : ℤ) : Prop where
  grid : ∃ startNs, v.clock.OnGrid startNs ∧
    t = startNs + (if frameIndex = 0 then 0 else v.clock.lastNominalSlotIndex) * v.clock.periodNs
  earlier : ∀ e ∈ v.samples, ∃ m, e.nominalSlotIndex = some m ∧
    m < if frameIndex = 0 then 0 else v.clock.lastNominalSlotIndex

section Slot

variable {config : CollectorConfig δ} {calls : List (CollectorCall δ ι)}
  {s : Collector (ω × WriterLog δ ι) δ ι} {frameIndex t : ℤ} {sample : CanonicalSample δ ι}

theorem slot_sample (h : s.slot frameIndex t = .sample sample) :
    ∃ base, (s.control.latestAtOrBefore t).fresh? = some base ∧
      sample.control = s.causalControlAt base t ∧ sample.timestampNs = t ∧
      (∀ role, ((s.camera role).latestAtOrBefore t).fresh? = some (sample.frame role)) ∧
      sample.nominalSlotIndex =
        some (if frameIndex = 0 then 0 else s.clock.lastNominalSlotIndex) := by
  unfold Collector.slot at h
  dsimp only at h
  split at h
  · exact nomatch h
  rename_i base hbase
  split at h
  · rename_i workspace wrist hworkspace hwrist
    split at h
    · exact nomatch h
    · obtain rfl := Collector.Slot.sample.inj h
      refine ⟨base, hbase, rfl, rfl, fun role => ?_, rfl⟩
      cases role with
      | workspace => exact hworkspace
      | wrist => exact hwrist
  · exact nomatch h

theorem sourceAt_some {timeline : CausalTimeline (ControlSample δ)} {name : String}
    {snapshot : ControlSample δ} (h : timeline.sourceAt t name = some snapshot) :
    (∃ item ∈ timeline.items, item.2 = snapshot) ∧
      ∃ sourceNs, snapshot.sourceTimestamp name = some sourceNs ∧ sourceNs ≤ t := by
  obtain ⟨item, hitem, rfl⟩ := Option.map_eq_some_iff.mp h
  obtain ⟨-, hcarries, before, after, hitems, -⟩ := CausalTimeline.latestMatching?_eq_some hitem
  refine ⟨⟨item, by rw [hitems]; simp, rfl⟩, ?_⟩
  exact (ControlSample.carries_iff.mp hcarries).2

theorem lookup_of_timestamp {snapshot : ControlSample δ} {name : String} {sourceNs : ℤ}
    (h : snapshot.sourceTimestamp name = some sourceNs) :
    snapshot.sourceTimestampsNs.lookup name ≠ none := by
  intro hnone
  unfold ControlSample.sourceTimestamp at h
  rw [hnone] at h
  exact nomatch h

/-- A recorded timestamp comes from the snapshot that was selected for its source. -/
theorem recorded_timestamp (hs : s.sight.Regular config calls) {base : ControlSample δ}
    (hbase : ∃ item ∈ s.control.items, item.2 = base) {name : String}
    (hname : name ∈ Collector.causalControlSources) {sourceNs : ℤ}
    (h : (s.causalControlAt base t).sourceTimestamp name = some sourceNs) :
    name ∈ s.causalSourceEnabled ∧ ∃ snapshot, s.control.sourceAt t name = some snapshot ∧
      snapshot.sourceTimestamp name = some sourceNs := by
  rw [(causalControlAt_source s t hname).1] at h
  have henabled : name ∈ s.causalSourceEnabled := by
    by_contra hnot
    rw [replaceSource_disabled s t hnot] at h
    obtain ⟨item, hitem, rfl⟩ := hbase
    exact hnot ((hs.control item hitem).2.2 name hname (lookup_of_timestamp h))
  refine ⟨henabled, ?_⟩
  rw [(replaceSource_self s t henabled).1, Collector.causalSource_eq] at h
  exact Option.bind_eq_some_iff.mp h

/-- **The sample of a slot.** -/
theorem slot_sampled (hs : s.sight.Regular config calls) (hdue : s.sight.Due frameIndex t)
    (h : s.slot frameIndex t = .sample sample) :
    s.sight.Sampled config calls s.sight.samples sample ∧
      (Stamped s.control sample "jaka_command" ↔ CommandKept s.control sample.timestampNs) := by
  obtain ⟨base, hfresh, hcontrol, rfl, hframes, hnominal⟩ := slot_sample h
  have hlatest := CausalTimeline.latest_of_fresh hfresh
  obtain ⟨item, hitem, rfl, hle, hage⟩ := hlatest.mem
  have hbase : ∃ other ∈ s.control.items, other.2 = item.2 := ⟨item, hitem, rfl⟩
  obtain ⟨hhost, htook, -⟩ := hs.control item hitem
  constructor
  · refine ⟨?_, ⟨item.2, hlatest, htook, hhost ▸ hle, ?_, ?_⟩, fun role => ?_,
      fun name hname hcommand sourceNs hsource => ?_⟩
    · obtain ⟨startNs, hgrid, ht⟩ := hdue.grid
      exact ⟨startNs, _, hgrid.start, hnominal, ht, hdue.earlier⟩
    · rw [← hhost, ← hs.controlAge]
      exact hage
    · rw [hcontrol, causalControlAt_unsourced]
    · have hframe := CausalTimeline.latest_of_fresh (hframes role)
      obtain ⟨frame, hmem, hvalue, hframeLe, hframeAge⟩ := hframe.mem
      have hrole : s.sight.camera role = s.camera role := by cases role <;> rfl
      rw [hrole]
      obtain ⟨hframeHost, hingested⟩ := hs.cameras role frame (hrole ▸ hmem)
      rw [hvalue] at hframeHost hingested
      refine ⟨hframe, hingested, hframeHost ▸ hframeLe, ?_⟩
      rw [← hframeHost, ← hs.cameraAge role, hrole]
      exact hframeAge
    · rw [hcontrol] at hsource
      obtain ⟨henabled, snapshot, hsnapshot, hsnapshotNs⟩ :=
        recorded_timestamp hs hbase hname hsource
      obtain ⟨hmem, sourceNs', hsourceNs', hsourceLe⟩ := sourceAt_some hsnapshot
      obtain rfl := Option.some.inj (hsnapshotNs.symm.trans hsourceNs')
      refine ⟨hsourceLe, snapshot, hsnapshot, hmem, hsnapshotNs, ?_⟩
      rw [hcontrol, (causalControlAt_source s _ hname).2]
      refine (replaceSource_self s _ henabled).2.2 snapshot ?_ hcommand
      rw [Collector.causalSource_eq]
      exact hsnapshot
  · have hcommandName : "jaka_command" ∈ Collector.causalControlSources := by decide
    have hvalues : sample.control.sourceValues "jaka_command" = [item.2.acceptedArmQ] := by
      have hunsourced : (s.causalControlAt item.2 sample.timestampNs).unsourced =
          item.2.unsourced := causalControlAt_unsourced s _
      have haccepted := congrArg ControlSample.acceptedArmQ hunsourced
      rw [hcontrol]
      exact congrArg (fun values => [values]) haccepted
    constructor
    · intro hstamped snapshot other hsnapshot hother
      obtain rfl := hlatest.unique hother
      obtain ⟨⟨source, hsource, rfl⟩, sourceNs, hsourceNs, -⟩ := sourceAt_some hsnapshot
      have henabled := (hs.control source hsource).2.2 _ hcommandName
        (lookup_of_timestamp hsourceNs)
      have hrecorded : sample.control.sourceTimestamp "jaka_command" = some sourceNs := by
        rw [hcontrol, (causalControlAt_source s _ hcommandName).1,
          (replaceSource_self s _ henabled).1, Collector.causalSource_eq, hsnapshot]
        exact hsourceNs
      obtain ⟨-, snapshot', hsnapshot', -, -, hsame⟩ := hstamped sourceNs hrecorded
      obtain rfl := Option.some.inj (hsnapshot.symm.trans hsnapshot')
      rw [hvalues] at hsame
      exact (List.cons.inj hsame).1.symm
    · intro hkept sourceNs hsource
      rw [hcontrol] at hsource
      obtain ⟨-, snapshot, hsnapshot, hsnapshotNs⟩ :=
        recorded_timestamp hs hbase hcommandName hsource
      obtain ⟨hmem, sourceNs', hsourceNs', hsourceLe⟩ := sourceAt_some hsnapshot
      obtain rfl := Option.some.inj (hsnapshotNs.symm.trans hsourceNs')
      refine ⟨hsourceLe, snapshot, hsnapshot, hmem, hsnapshotNs, ?_⟩
      rw [hvalues, ← hkept snapshot item.2 hsnapshot hlatest]
      rfl

end Slot

/-! ## Samples handed over -/

/-- The sight after a sample was handed over. -/
def Sight.handed (v : Sight δ ι) (sample : CanonicalSample δ ι) : Sight δ ι :=
  { v with samples := v.samples ++ [sample] }

/-- The samples after `old`, each of which is causal. -/
inductive Handed (config : CollectorConfig δ) (calls : List (CollectorCall δ ι)) (v : Sight δ ι)
    (old : List (CanonicalSample δ ι)) : List (CanonicalSample δ ι) → Prop
  | none : Handed config calls v old old
  | hand {earlier : List (CanonicalSample δ ι)} {sample : CanonicalSample δ ι} :
    Handed config calls v old earlier → v.Sampled config calls earlier sample →
    (Stamped v.control sample "jaka_command" ↔ CommandKept v.control sample.timestampNs) →
    Handed config calls v old (earlier ++ [sample])

/-- What may have become of a sight with the samples `old`. -/
def Progress (config : CollectorConfig δ) (calls : List (CollectorCall δ ι))
    (old : List (CanonicalSample δ ι)) (v : Sight δ ι) : Prop :=
  v.Regular config calls ∧ Handed config calls v old v.samples

section Progress

variable {config : CollectorConfig δ} {calls : List (CollectorCall δ ι)} {v v' : Sight δ ι}
  {old all : List (CanonicalSample δ ι)}

/-- The timelines and the grid say whether a sample is causal. -/
theorem Handed.congr (h : Handed config calls v old all) (hcontrol : v'.control = v.control)
    (hcamera : ∀ role, v'.camera role = v.camera role) (hstart : v'.clock.startNs = v.clock.startNs)
    (hperiod : v'.clock.periodNs = v.clock.periodNs) : Handed config calls v' old all := by
  induction h with
  | none => exact .none
  | hand _ hsampled hcommand ih =>
    refine .hand ih ⟨?_, hcontrol ▸ hsampled.control, fun role => ?_, ?_⟩ (hcontrol ▸ hcommand)
    · rw [hstart, hperiod]
      exact hsampled.slot
    · rw [hcamera role]
      exact hsampled.cameras role
    · rw [hcontrol]
      exact hsampled.sources

theorem Handed.eq_nil (h : Handed config calls v old []) : old = [] := by
  generalize hall : ([] : List (CanonicalSample δ ι)) = all at h
  cases h with
  | none => rfl
  | hand => exact absurd hall.symm (List.append_ne_nil_of_right_ne_nil _ (by simp))

theorem Handed.samples_prefix (h : Handed config calls v old all) : old <+: all := by
  induction h with
  | none => exact List.prefix_rfl
  | hand _ _ _ ih => exact ih.trans (List.prefix_append _ _)

/-- A sample behind `old` is causal. -/
theorem Handed.sampled (h : Handed config calls v old all)
    {earlier later : List (CanonicalSample δ ι)} {sample : CanonicalSample δ ι}
    (hall : all = earlier ++ sample :: later) (hold : old.length ≤ earlier.length) :
    v.Sampled config calls earlier sample ∧
      (Stamped v.control sample "jaka_command" ↔ CommandKept v.control sample.timestampNs) := by
  induction h generalizing later with
  | none =>
    have hlength := congrArg List.length hall
    rw [List.length_append, List.length_cons] at hlength
    omega
  | hand _ hsampled hcommand ih =>
    rcases List.eq_nil_or_concat later with rfl | ⟨rest, last, rfl⟩
    · obtain ⟨rfl, hlast⟩ := List.append_inj' hall rfl
      obtain rfl := (List.cons.inj hlast).1
      exact ⟨hsampled, hcommand⟩
    · rw [List.concat_eq_append, ← List.cons_append, ← List.append_assoc] at hall
      exact ih (List.append_inj' hall rfl).1

theorem Sight.Regular.progress (h : v.Regular config calls) : Progress config calls v.samples v :=
  ⟨h, .none⟩

theorem TookControl.mono {more : List (CollectorCall δ ι)} (hmore : calls ⊆ more)
    {snapshot : ControlSample δ} (h : TookControl calls snapshot) : TookControl more snapshot := by
  obtain ⟨sample, referenceEstablished, rawRecords, captureActive, hcall, hsame⟩ := h
  exact ⟨sample, referenceEstablished, rawRecords, captureActive, hmore hcall, hsame⟩

theorem Sight.Regular.mono {more : List (CollectorCall δ ι)} (hmore : calls ⊆ more)
    (h : v.Regular config calls) : v.Regular config more := by
  refine ⟨fun item hitem => ?_, fun role item hitem => ?_, h.controlAge, h.cameraAge, h.clock,
    h.samples⟩
  · obtain ⟨hhost, htook, hnames⟩ := h.control item hitem
    exact ⟨hhost, htook.mono hmore, hnames⟩
  · obtain ⟨hhost, hcall⟩ := h.cameras role item hitem
    exact ⟨hhost, hmore hcall⟩

end Progress

/-! ## Slots -/

section Programs

variable {w : EpisodeWriter ω δ ι} {config : CollectorConfig δ}
  {calls : List (CollectorCall δ ι)} {old : List (CanonicalSample δ ι)}
  {s : Collector (ω × WriterLog δ ι) δ ι} {α : Type}

/-- The program keeps a property of the sight. -/
def Upholds (P : Sight δ ι → Prop) (x : CollectM (ω × WriterLog δ ι) δ ι α) : Prop :=
  ∀ s, P s.sight → Ensures x s (fun _ s' => P s'.sight) fun _ s' => P s'.sight

variable {x : CollectM (ω × WriterLog δ ι) δ ι α} {P : Sight δ ι → Prop}

theorem Still.upholds
    (h : Still x) : Upholds P x := fun s hs =>
  (h.keeps s).mono (fun _ _ hsame => hsame ▸ hs) fun _ _ hsame => hsame ▸ hs

theorem Still.ensures {P Q : Sight δ ι → Prop}
    (h : Still x) (hs : P s.sight) (hQ : ∀ v, P v → Q v) :
    Ensures x s (fun _ s' => P s'.sight) fun _ s' => Q s'.sight :=
  (h.upholds s hs).mono (fun _ _ h => h) fun _ s' h => hQ s'.sight h

theorem Upholds.bind {β : Type}
    {f : α → CollectM (ω × WriterLog δ ι) δ ι β}
    (hx : Upholds P x) (hf : ∀ a, Upholds P (f a)) : Upholds P (x >>= f) := fun s hs =>
  (hx s hs).bind fun a s' hs' => hf a s' hs'

theorem Upholds.tryCatch
    {h : PyException → CollectM (ω × WriterLog δ ι) δ ι α} (hx : Upholds P x)
    (hh : ∀ exc, Upholds P (h exc)) : Upholds P (MonadExcept.tryCatch x h) := fun s hs =>
  (hx s hs).tryCatch fun exc s' hs' => hh exc s' hs'

theorem Upholds.ite {p : Prop} [Decidable p]
    {x y : CollectM (ω × WriterLog δ ι) δ ι α} (hx : Upholds P x) (hy : Upholds P y) :
    Upholds P (if p then x else y) := by
  split
  · exact hx
  · exact hy

theorem Upholds.pure (a : α) :
    Upholds P (Pure.pure a : CollectM (ω × WriterLog δ ι) δ ι α) := Still.upholds (.pure a)

theorem Upholds.get :
    Upholds P (MonadState.get : CollectM (ω × WriterLog δ ι) δ ι _) := Still.upholds .get

/-- A sample is handed over, whatever the writer answers. -/
theorem ask_sample (sample : CanonicalSample δ ι) :
    Ensures (ask w.logged (.appendSample sample)) s
      (fun _ s' => s'.sight = s.sight.handed sample)
      fun _ s' => s'.sight = s.sight.handed sample := by
  have hsight (writer : ω) (r : Reply) :
      ({ s with writer := (writer, s.writer.2 ++ [(.appendSample sample, r)]) } :
        Collector (ω × WriterLog δ ι) δ ι).sight = s.sight.handed sample := by
    unfold Collector.sight Sight.handed
    dsimp only
    rw [samplesOf_concat]
    rfl
  unfold ask Ensures EpisodeWriter.logged
  dsimp only
  cases h : w.call (.appendSample sample) s.writer.1 with
  | mk r writer =>
    dsimp only
    cases r with
    | returned => exact hsight writer .returned
    | refused => exact hsight writer .refused
    | raised exc => exact hsight writer (.raised exc)

theorem handed_progress (hs : Progress config calls old s.sight) {frameIndex t : ℤ}
    (hdue : s.sight.Due frameIndex t) {sample : CanonicalSample δ ι}
    (h : s.slot frameIndex t = .sample sample) :
    Progress config calls old (s.sight.handed sample) := by
  obtain ⟨hregular, hhanded⟩ := hs
  obtain ⟨hsampled, hcommand⟩ := slot_sampled hregular hdue h
  obtain ⟨startNs, hgrid, -⟩ := hdue.grid
  constructor
  · refine ⟨hregular.control, hregular.cameras, hregular.controlAge, hregular.cameraAge,
      .inr ⟨startNs, hgrid⟩, fun e he => ?_⟩
    rcases List.mem_append.mp he with he | he
    · exact hregular.samples e he
    · obtain rfl := List.mem_singleton.mp he
      obtain ⟨-, -, -, -, -, hnominal⟩ := slot_sample h
      refine ⟨_, hnominal, ?_⟩
      have hlast := hgrid.lastFrame
      show (if frameIndex = 0 then 0 else s.sight.clock.lastNominalSlotIndex) ≤
        s.sight.clock.lastNominalSlotIndex
      split <;> omega
  · exact (hhanded.hand hsampled hcommand).congr rfl (fun _ => rfl) rfl rfl

/-- **One slot.** -/
theorem appendCanonical_progress (hs : Progress config calls old s.sight) {frameIndex t : ℤ}
    (hdue : s.sight.Due frameIndex t) :
    Ensures (appendCanonical w.logged config frameIndex t) s
      (fun _ s' => Progress config calls old s'.sight)
      fun _ s' => Progress config calls old s'.sight := by
  unfold appendCanonical
  rw [ensures_bind, ensures_get]
  cases hslot : s.slot frameIndex t with
  | staleControl => exact (abort_still _ _ _).upholds s hs
  | staleCamera quality =>
    refine Still.upholds (P := Progress config calls old) ?_ s hs
    dsimp only
    refine Moves.bind (.modify fun _ => rfl) fun _ => Moves.bind (.tryCatch ?_ fun exc => ?_)
      fun written => .ite (abort_still _ _ _) (.pure _)
    · exact Moves.bind (publishQuality_still _) fun _ => .pure _
    · exact Moves.bind (abortOn_still _ _) fun _ => .pure _
  | missingFields fields quality =>
    refine Still.upholds (P := Progress config calls old) ?_ s hs
    dsimp only
    refine Moves.bind (.modify fun _ => rfl) fun _ => Moves.bind (publishQuality_still _)
      fun _ => Moves.bind .get fun _ => .ite (abort_still _ _ _) (.pure _)
  | sample sample =>
    dsimp only
    have hprogress := handed_progress hs hdue hslot
    rw [ensures_bind, ensures_modify, ensures_tryCatch, ensures_bind]
    refine (ask_sample sample).mono (fun accepted s' h => ?_) fun exc s' h => ?_
    · have hs' : Progress config calls old s'.sight := by
        rw [h]
        exact hprogress
      split
      · exact hs'
      · exact ((publishQuality_still _).upholds s' hs').mono (fun _ _ h => h)
          fun exc s' hs' => (abortOn_still _ _).upholds s' hs'
    · refine (abortOn_still _ _).upholds s' ?_
      rw [h]
      exact hprogress

/-- A slot that the clock has due. -/
theorem appendDue_progress (nowNs : ℤ) :
    Upholds (Progress config calls old) (appendDue w.logged config nowNs) := by
  intro s hs
  unfold appendDue
  rw [ensures_bind, ensures_get]
  cases hdue : s.clock.due nowNs with
  | notStarted => exact hs
  | waiting => exact hs
  | frame index timestampNs clock =>
    obtain ⟨hregular, hhanded⟩ := hs
    rcases hregular.clock with ⟨-, hnone, -⟩ | ⟨startNs, hgrid⟩
    · unfold CanonicalClock.due at hdue
      rw [show s.clock.nextNs = none from hnone] at hdue
      exact nomatch hdue
    obtain ⟨hgrid', ht, -, hlater, -, hpos, -, hperiod⟩ := CanonicalClock.due_onGrid hgrid hdue
    have hindex : index ≠ 0 := by omega
    rw [ensures_bind, ensures_modify]
    refine appendCanonical_progress ⟨?_, ?_⟩ ⟨⟨startNs, hgrid', ?_⟩, ?_⟩
    · refine ⟨hregular.control, hregular.cameras, hregular.controlAge, hregular.cameraAge,
        .inr ⟨startNs, hgrid'⟩, fun e he => ?_⟩
      obtain ⟨m, hm, hle⟩ := hregular.samples e he
      exact ⟨m, hm, hle.trans hlater.le⟩
    · exact hhanded.congr rfl (fun _ => rfl) (hgrid'.start.trans hgrid.start.symm) hperiod
    · rw [if_neg hindex, ht]
      show startNs + clock.lastNominalSlotIndex * s.clock.periodNs =
        startNs + clock.lastNominalSlotIndex * clock.periodNs
      rw [hperiod]
      rfl
    · intro e he
      obtain ⟨m, hm, hle⟩ := hregular.samples e he
      refine ⟨m, hm, ?_⟩
      rw [if_neg hindex]
      exact lt_of_le_of_lt hle hlater

/-! ## Starts -/

/-- A start opens the grid, and nothing was handed over before. -/
theorem enterRec_progress (p : StartPrerequisites δ ι) (hs : Progress config calls old s.sight) :
    Ensures (enterRec p) s
      (fun _ s' => Progress config calls old s'.sight ∧ s'.sight.Due 0 p.accepted.hostMonotonicNs)
      fun _ s' => Progress config calls old s'.sight := by
  unfold enterRec
  rw [ensures_bind, ensures_get]
  cases hstart : s.clock.start p.accepted.hostMonotonicNs with
  | none => exact hs
  | some clock =>
    obtain ⟨hgrid, hzero, hperiod, hnone⟩ := CanonicalClock.start_onGrid hstart
    obtain ⟨hregular, hhanded⟩ := hs
    have hsamples : s.sight.samples = [] := by
      rcases hregular.clock with ⟨-, -, hsamples⟩ | ⟨startNs, hold⟩
      · exact hsamples
      · exact nomatch hnone.symm.trans hold.start
    have hnil : old = [] := by
      rw [hsamples] at hhanded
      exact hhanded.eq_nil
    have hnew (sample : CanonicalSample δ ι) (h : sample ∈ s.sight.samples) : False := by
      rw [hsamples] at h
      exact nomatch h
    dsimp only
    rw [ensures_bind, ensures_modify]
    refine Still.ensures (P := fun v => Progress config calls old v ∧
      v.Due 0 p.accepted.hostMonotonicNs) (setState_still _) ?_ fun _ h => h.1
    refine ⟨⟨?_, ?_⟩, ⟨_, hgrid, ?_⟩, fun e he => (hnew e he).elim⟩
    · exact ⟨hregular.control, hregular.cameras, hregular.controlAge, hregular.cameraAge,
        .inr ⟨_, hgrid⟩, fun e he => (hnew e he).elim⟩
    · show Handed config calls _ old s.sight.samples
      rw [hsamples, hnil]
      exact .none
    · rw [if_pos rfl, zero_mul, add_zero]

theorem start_progress (p : StartPrerequisites δ ι) :
    Upholds (Progress config calls old) (start w.logged config p) := by
  intro s hs
  have hask {c : WriterCall δ ι} (hc : c.sample? = none) :
      Upholds (Progress config calls old) (ask w.logged c) := (ask_still hc).upholds
  have hopen : Ensures (openEpisode w.logged config p) s
      (fun _ s' => Progress config calls old s'.sight ∧ s'.sight.Due 0 p.accepted.hostMonotonicNs)
      fun _ s' => Progress config calls old s'.sight := by
    unfold openEpisode
    refine (hask rfl s hs).bind fun _ s hs => ?_
    refine (hask rfl s hs).bind fun _ s hs => ?_
    refine (hask rfl s hs).bind fun _ s hs => ?_
    exact enterRec_progress p hs
  unfold start
  exact hopen.bind fun _ s' hs' => appendCanonical_progress hs'.1 hs'.2

theorem startIfReady_progress (sample : ControlSample δ)
    (referenceEstablished captureActive : Bool) :
    Upholds (Progress config calls old)
      (startIfReady w.logged config sample referenceEstablished captureActive) := by
  unfold startIfReady
  refine .bind .get fun s => ?_
  cases startCandidate config s sample referenceEstablished captureActive with
  | none => exact .pure _
  | some p =>
    refine .tryCatch ((start_progress p).bind fun _ => .pure _) fun exc => ?_
    refine .ite (Still.upholds (.throw _)) (.ite ?_ ?_)
    · exact Still.upholds (Moves.bind (.modify fun _ => rfl) fun _ => .pure _)
    · exact Still.upholds (Moves.bind (rejectStart_still _) fun _ => .pure _)

/-! ## Control -/

theorem recordControl_progress (sample : ControlSample δ) (rawRecords : List (String × Record δ))
    (releaseEdge : Bool) :
    Upholds (Progress config calls old)
      (recordControl w.logged config sample rawRecords releaseEdge) := by
  have habort (reason : String) :
      Upholds (Progress config calls old) (abort w.logged config reason false none) :=
    (abort_still _ _ _).upholds
  unfold recordControl
  refine .bind .get fun s => .ite (.pure _) ?_
  refine .bind (checkSources_still _).upholds fun regular => .ite (.pure _) ?_
  refine .bind (.ite (appendRawRecords_still _).upholds (.pure _)) fun _ => ?_
  refine .bind .get fun s => .ite (.pure _) ?_
  refine .ite (habort _) (.ite (habort _) (.ite (habort _) (.ite ?_ ?_)))
  · exact (finishCompleted_still _).upholds
  · exact appendDue_progress _

theorem followTrigger_progress (sample : ControlSample δ) (referenceEstablished : Bool)
    (rawRecords : List (String × Record δ)) (pressed releaseEdge : Bool) :
    Upholds (Progress config calls old)
      (followTrigger w.logged config sample referenceEstablished rawRecords pressed
        releaseEdge) := by
  unfold followTrigger
  refine .bind .get fun s => .ite (rejectStart_still _).upholds (.ite ?_ ?_)
  · refine .bind (startIfReady_progress _ _ _) fun started => .ite ?_ (.ite ?_ (.pure _))
    · exact recordControl_progress _ _ _
    · exact (appendRawRecords_still _).upholds
  · exact recordControl_progress _ _ _

/-- The sight with one more source. -/
def Sight.enable (v : Sight δ ι) (name : String) : Sight δ ι :=
  { v with enabled := v.enabled.insert name }

theorem Sight.Regular.enable {v : Sight δ ι} (h : v.Regular config calls) (name : String) :
    (v.enable name).Regular config calls := by
  refine ⟨fun item hitem => ?_, h.cameras, h.controlAge, h.cameraAge, h.clock, h.samples⟩
  obtain ⟨hhost, htook, hnames⟩ := h.control item hitem
  exact ⟨hhost, htook, fun other hother hpresent =>
    List.mem_insert_of_mem (hnames other hother hpresent)⟩

/-- A sight to which sources were added. -/
def Sight.Enabled (config : CollectorConfig δ) (calls : List (CollectorCall δ ι))
    (v v' : Sight δ ι) : Prop :=
  v'.Regular config calls ∧ v'.samples = v.samples ∧ v.enabled ⊆ v'.enabled

/-- The sources of a snapshot are enabled before the timeline takes it, by induction over
    the names. -/
theorem indexSources_enabled (sample : ControlSample δ) (names : List String)
    (hs : s.sight.Regular config calls) :
    Ensures (indexSources w.logged config sample names) s
      (fun indexed s' => Sight.Enabled config calls s.sight s'.sight ∧ (indexed = true →
        ∀ name ∈ names, sample.sourceTimestampsNs.lookup name ≠ none → name ∈ s'.sight.enabled))
      fun _ s' => Sight.Enabled config calls s.sight s'.sight := by
  induction names generalizing s with
  | nil => exact ⟨⟨hs, rfl, List.Subset.refl _⟩, fun _ => (by simp)⟩
  | cons name rest ih =>
    unfold indexSources
    cases hlookup : sample.sourceTimestampsNs.lookup name with
    | none =>
      refine (ih hs).mono (fun indexed s' h => ⟨h.1, fun hindexed other hother hpresent => ?_⟩)
        fun _ _ h => h
      rcases List.mem_cons.mp hother with rfl | hother
      · exact absurd hlookup hpresent
      · exact h.2 hindexed other hother hpresent
    | some timestamp =>
      -- what the rest of the loop makes of the collector behind this source
      have hstep {s' : Collector (ω × WriterLog δ ι) δ ι} (hsight : s'.sight = s.sight.enable name) :
          s'.sight.Regular config calls ∧ Sight.Enabled config calls s.sight s'.sight := by
        have hregular : s'.sight.Regular config calls := hsight ▸ hs.enable name
        refine ⟨hregular, hregular, ?_, fun other hother => ?_⟩
        · rw [hsight]
          rfl
        rw [hsight]
        exact List.mem_insert_of_mem hother
      have hrest {s' : Collector (ω × WriterLog δ ι) δ ι} (hsight : s'.sight = s.sight.enable name) :
          Ensures (indexSources w.logged config sample rest) s'
            (fun indexed s' => Sight.Enabled config calls s.sight s'.sight ∧ (indexed = true →
              ∀ other ∈ name :: rest, sample.sourceTimestampsNs.lookup other ≠ none →
                other ∈ s'.sight.enabled))
            fun _ s' => Sight.Enabled config calls s.sight s'.sight := by
        obtain ⟨hregular, -, hsamples, hsubset⟩ := hstep hsight
        have htrans {v : Sight δ ι} (h : Sight.Enabled config calls s'.sight v) :
            Sight.Enabled config calls s.sight v :=
          ⟨h.1, h.2.1.trans hsamples, List.Subset.trans hsubset h.2.2⟩
        refine (ih hregular).mono (fun indexed s'' h => ⟨htrans h.1, ?_⟩) fun _ _ h => htrans h
        intro hindexed other hother hpresent
        rcases List.mem_cons.mp hother with rfl | hother
        · refine h.1.2.2 ?_
          rw [hsight]
          exact List.mem_insert_self
        · exact h.2 hindexed other hother hpresent
      have habort (reason : String) {s' : Collector (ω × WriterLog δ ι) δ ι}
          (hsight : s'.sight = s.sight.enable name) :
          Ensures (do abort w.logged config reason true none; pure false) s'
            (fun indexed s' => Sight.Enabled config calls s.sight s'.sight ∧ (indexed = true →
              ∀ other ∈ name :: rest, sample.sourceTimestampsNs.lookup other ≠ none →
                other ∈ s'.sight.enabled))
            fun _ s' => Sight.Enabled config calls s.sight s'.sight := by
        have hstill : Still (abort w.logged config reason true none) := abort_still _ _ _
        have hs' := hstill.upholds (P := Sight.Enabled config calls s.sight) s' (hstep hsight).2
        exact hs'.bind fun _ _ h => ⟨h, (by simp)⟩
      dsimp only
      rw [ensures_bind, ensures_modify, ensures_bind, ensures_get]
      cases timestamp with
      | none => exact hrest rfl
      | some timestampNs =>
        dsimp only
        split
        · exact habort _ rfl
        split
        · exact habort _ rfl
        · rw [ensures_bind, ensures_modify]
          exact hrest rfl

variable {rawRecords : List (String × Record δ)}

/-- The timeline takes a snapshot. -/
theorem takeControl_regular {sample : ControlSample δ} {referenceEstablished : Bool}
    {captureActive : Option Bool}
    (hcall : .ingestControl sample referenceEstablished rawRecords captureActive ∈ calls)
    (hs : s.sight.Regular config calls) :
    Ensures (takeControl w.logged config sample) s
      (fun _ s' => s'.sight.Regular config calls ∧ s'.sight.samples = s.sight.samples)
      fun _ s' => s'.sight.Regular config calls ∧ s'.sight.samples = s.sight.samples := by
  have htook : TookControl calls (s.segmented sample) :=
    ⟨sample, referenceEstablished, rawRecords, captureActive, hcall, rfl⟩
  unfold takeControl
  rw [ensures_bind, ensures_get]
  dsimp only
  rw [ensures_bind, ensures_modify]
  have hindexed := indexSources_enabled (w := w) (s.segmented sample)
    Collector.causalControlSources (s := { s with
      controlSegmentId := (s.segmented sample).controlSegmentId
      lastControlSegmentMode := some (s.segmented sample).controlSegmentMode }) hs
  rw [ensures_bind]
  refine hindexed.mono (fun indexed s' h => ?_) fun _ s' h => ⟨h.1, h.2.1⟩
  obtain ⟨⟨hregular, hsamples, hsubset⟩, hnames⟩ := h
  split
  · exact ⟨hregular, hsamples⟩
  rename_i hindexed
  have hnames := hnames (Bool.eq_true_of_not_eq_false hindexed)
  rw [ensures_bind, ensures_get]
  cases happend : s'.control.append (s.segmented sample).hostMonotonicNs (s.segmented sample) with
  | none =>
    have hstill : Still (abort w.logged config "control_timestamp_regression" true
      (some (s'.control.regressionText (s.segmented sample).hostMonotonicNs))) := abort_still _ _ _
    have habort := hstill.upholds
      (P := fun v => v.Regular config calls ∧ v.samples = s.sight.samples) s' ⟨hregular, hsamples⟩
    exact habort.bind fun _ _ h => h
  | some control =>
    obtain ⟨hitems, hage, -⟩ := CausalTimeline.append_eq_some happend
    dsimp only
    rw [ensures_bind, ensures_modify]
    refine ⟨⟨fun item hitem => ?_, hregular.cameras, hage.trans hregular.controlAge,
      hregular.cameraAge, hregular.clock, hregular.samples⟩, hsamples⟩
    replace hitem : item ∈ control.items := hitem
    rw [hitems] at hitem
    rcases mem_pushBounded hitem with hitem | rfl
    · exact hregular.control item hitem
    · exact ⟨rfl, htook, hnames⟩

theorem ingestControl_progress {sample : ControlSample δ} {referenceEstablished : Bool}
    {captureActive : Option Bool}
    (hcall : .ingestControl sample referenceEstablished rawRecords captureActive ∈ calls)
    (hs : s.sight.Regular config calls) :
    Ensures (ingestControl w.logged config sample referenceEstablished rawRecords captureActive) s
      (fun _ s' => Progress config calls s.sight.samples s'.sight)
      fun _ s' => Progress config calls s.sight.samples s'.sight := by
  have hprogress {v : Sight δ ι} (h : v.Regular config calls ∧ v.samples = s.sight.samples) :
      Progress config calls s.sight.samples v := h.2 ▸ h.1.progress
  unfold ingestControl
  rw [ensures_bind, ensures_get]
  split
  · exact hs.progress
  rw [ensures_bind]
  refine (takeControl_regular hcall hs).mono (fun taken s' h => ?_) fun _ s' h => hprogress h
  cases taken with
  | none => exact hprogress h
  | some sample =>
    refine Upholds.bind (P := Progress config calls s.sight.samples)
      (trackTrigger_still _ _).upholds (fun _ => ?_) s' (hprogress h)
    exact followTrigger_progress _ _ _ _ _

/-! ## Cameras -/

theorem camera_sight (role : CameraRole) : s.sight.camera role = s.camera role := by
  cases role <;> rfl

theorem withCamera_sight (role : CameraRole) (timeline : CausalTimeline (CameraRecord δ ι)) :
    (s.withCamera role timeline).sight = s.sight.withCamera role timeline := by
  cases role <;> rfl

theorem Sight.withCamera_samples {v : Sight δ ι} (role : CameraRole)
    (timeline : CausalTimeline (CameraRecord δ ι)) :
    (v.withCamera role timeline).samples = v.samples := by
  cases role <;> rfl

theorem Sight.Regular.withCamera {v : Sight δ ι} (h : v.Regular config calls) {role : CameraRole}
    {timeline : CausalTimeline (CameraRecord δ ι)}
    (hage : timeline.maxAgeNs = config.cameraMaxAgeNs)
    (hitems : ∀ item ∈ timeline.items, item.1 = item.2.hostMonotonicNs ∧
      .ingestCamera item.2 ∈ calls) : (v.withCamera role timeline).Regular config calls := by
  have hcamera (other : CameraRole) : (v.withCamera role timeline).camera other = timeline ∨
      (v.withCamera role timeline).camera other = v.camera other := by
    cases role <;> cases other <;> simp [Sight.withCamera, Sight.camera]
  have hcameras : ∀ other, ∀ item ∈ ((v.withCamera role timeline).camera other).items,
      item.1 = item.2.hostMonotonicNs ∧ .ingestCamera item.2 ∈ calls := by
    intro other
    rcases hcamera other with hsame | hsame <;> rw [hsame]
    · exact hitems
    · exact h.cameras other
  have hages (other : CameraRole) :
      ((v.withCamera role timeline).camera other).maxAgeNs = config.cameraMaxAgeNs := by
    rcases hcamera other with hsame | hsame <;> rw [hsame]
    · exact hage
    · exact h.cameraAge other
  cases role with
  | workspace => exact ⟨h.control, hcameras, h.controlAge, hages, h.clock, h.samples⟩
  | wrist => exact ⟨h.control, hcameras, h.controlAge, hages, h.clock, h.samples⟩

theorem takeFrame_regular {frame : CameraRecord δ ι} (hcall : .ingestCamera frame ∈ calls)
    (hs : s.sight.Regular config calls) :
    Ensures (takeFrame w.logged frame) s
      (fun _ s' => s'.sight.Regular config calls ∧ s'.sight.samples = s.sight.samples)
      fun _ s' => s'.sight.Regular config calls ∧ s'.sight.samples = s.sight.samples := by
  unfold takeFrame
  rw [ensures_bind, ensures_get]
  dsimp only
  cases happend : (s.camera frame.header.role).append frame.hostMonotonicNs frame with
  | none => exact ⟨hs, rfl⟩
  | some timeline =>
    obtain ⟨hitems, hage, -⟩ := CausalTimeline.append_eq_some happend
    dsimp only
    rw [ensures_bind, ensures_modify]
    have htaken : (s.withCamera frame.header.role timeline).sight.Regular config calls ∧
        (s.withCamera frame.header.role timeline).sight.samples = s.sight.samples := by
      rw [withCamera_sight]
      refine ⟨hs.withCamera (hage.trans ?_) fun item hitem => ?_, Sight.withCamera_samples _ _⟩
      · exact camera_sight (s := s) frame.header.role ▸ hs.cameraAge frame.header.role
      rw [hitems] at hitem
      rcases mem_pushBounded hitem with hitem | rfl
      · exact hs.cameras frame.header.role item (by rwa [camera_sight])
      · exact ⟨rfl, hcall⟩
    have hstill : Still (if s.state = .recording then do
        let _ ← ask w.logged (.appendRawCamera frame)
        pure ()
      else pure () : CollectM (ω × WriterLog δ ι) δ ι PUnit) :=
      .ite (Moves.bind (ask_still rfl) fun _ => .pure _) (.pure _)
    exact hstill.upholds (P := fun v => v.Regular config calls ∧ v.samples = s.sight.samples)
      _ htaken

theorem ingestCamera_progress {frame : CameraRecord δ ι} (hcall : .ingestCamera frame ∈ calls)
    (hs : s.sight.Regular config calls) :
    Ensures (ingestCamera w.logged config frame) s
      (fun _ s' => Progress config calls s.sight.samples s'.sight)
      fun _ s' => Progress config calls s.sight.samples s'.sight := by
  have hprogress {v : Sight δ ι} (h : v.Regular config calls ∧ v.samples = s.sight.samples) :
      Progress config calls s.sight.samples v := h.2 ▸ h.1.progress
  unfold ingestCamera
  rw [ensures_bind, ensures_get]
  split
  · exact hs.progress
  dsimp only
  rw [ensures_bind, ensures_modify]
  split
  · exact (abort_still _ _ _).upholds (P := Progress config calls s.sight.samples) _ hs.progress
  rw [ensures_tryCatch]
  have htaken := takeFrame_regular (w := w) (s := { s with
    lastCameraClock := Function.update s.lastCameraClock frame.header.role (some frame.header) })
    hcall hs
  refine htaken.mono (fun _ s' h => hprogress h) fun exc s' h => ?_
  cases exc with
  | timestampRegression text => exact (abort_still _ _ _).upholds s' (hprogress h)
  | _ => exact (abortOn_still _ _).upholds s' (hprogress h)

/-! ## Runs -/

/-- **One call.** -/
theorem program_progress (c : CollectorCall δ ι) (hs : s.sight.Regular config calls) :
    Progress config (calls ++ [c]) s.sight.samples (s.after w.logged config c).sight := by
  have hmember : c ∈ calls ++ [c] := List.mem_append_right _ (List.mem_singleton_self _)
  have hs := hs.mono (List.subset_append_left calls [c])
  unfold Collector.after
  refine Ensures.after (P := fun s' : Collector (ω × WriterLog δ ι) δ ι =>
    Progress config (calls ++ [c]) s.sight.samples s'.sight) ?_
  cases c with
  | ingestCamera frame => exact ingestCamera_progress hmember hs
  | ingestControl sample referenceEstablished rawRecords captureActive =>
    exact ingestControl_progress hmember hs
  | cameraFault role reason => exact (cameraFault_still _ _).upholds s hs.progress
  | finish retries reason releaseNs => exact (finish_still _ _ _).upholds s hs.progress
  | abort reason invalid detail => exact (abort_still _ _ _).upholds s hs.progress
  | discardCurrent reason => exact (discardCurrent_still _).upholds s hs.progress
  | shutdown retries reason => exact (shutdown_still _ _).upholds s hs.progress
  | finalizePending retries => exact (finalizePending_still _).upholds s hs.progress

theorem fresh_regular {clock : CanonicalClock} (hstart : clock.startNs = none)
    (hnext : clock.nextNs = none) (writer : ω) :
    (config.fresh (ι := ι) clock writer).sight.Regular config [] where
  control _ hitem := absurd hitem List.not_mem_nil
  cameras role _ hitem := by
    cases role with
    | workspace => exact absurd hitem List.not_mem_nil
    | wrist => exact absurd hitem List.not_mem_nil
  controlAge := rfl
  cameraAge role := by cases role <;> rfl
  clock := .inl ⟨hstart, hnext, rfl⟩
  samples _ he := absurd he List.not_mem_nil

theorem run_regular (w : EpisodeWriter ω δ ι) (config : CollectorConfig δ) (fps : ℕ)
    (hpos : 0 < fps) (hfps : fps < 2000000000) (writer : ω) (calls : List (CollectorCall δ ι)) :
    (run (Collector.after w.logged config) (config.fresh (.ofFps fps hpos hfps) writer)
      calls).sight.Regular config calls := by
  induction calls using List.reverseRecOn with
  | nil => exact fresh_regular rfl rfl writer
  | append_singleton calls c ih =>
    rw [run_concat]
    exact (program_progress c ih).1

/-- **The canonical samples of a collector**: in every run, a sample that a call hands over is on
    the grid and causal in all but `jaka_command`, and causal in that too exactly if the
    snapshot with the last command has the accepted target of the selected snapshot. -/
theorem canonical_samples_causal (w : EpisodeWriter ω δ ι) (config : CollectorConfig δ) (fps : ℕ)
    (hpos : 0 < fps) (hfps : fps < 2000000000) (writer : ω) (calls : List (CollectorCall δ ι))
    (c : CollectorCall δ ι) :
    let s := run (Collector.after w.logged config) (config.fresh (.ofFps fps hpos hfps) writer) calls
    let v := (s.after w.logged config c).sight
    s.sight.samples <+: v.samples ∧ ∀ earlier sample later,
      v.samples = earlier ++ sample :: later → s.sight.samples.length ≤ earlier.length →
        v.Sampled config (calls ++ [c]) earlier sample ∧
          (v.Causal config (calls ++ [c]) earlier sample ↔
            CommandKept v.control sample.timestampNs) := by
  intro s v
  obtain ⟨-, hhanded⟩ := program_progress (w := w) c
    (run_regular w config fps hpos hfps writer calls)
  refine ⟨hhanded.samples_prefix, fun earlier sample later hsamples hnew => ?_⟩
  obtain ⟨hsampled, hcommand⟩ := hhanded.sampled hsamples hnew
  exact ⟨hsampled, ⟨fun h => hcommand.mp h.2, fun h => ⟨hsampled, hcommand.mpr h⟩⟩⟩

end Programs

/-! ## A command that is late -/

section Mixed

/-- A command of the arm, and when it was sent. -/
def commandAt (hostMonotonicNs : ℤ) (target : ℚ) (commandNs : Option ℤ) : ControlSample ℚ :=
  { pressedAt hostMonotonicNs with
    acceptedArmQ := some ⟨fun _ => target, fun _ => rfl⟩
    sourceTimestampsNs := [("jaka_command", commandNs)]
    sourceTimestampDomains := [("jaka_command", "host_monotonic_ns")] }

/-- The second snapshot has another target, and no timestamp for it. -/
def mixedCalls : List (CollectorCall ℚ Unit) :=
  [.ingestControl (commandAt 50 0 (some 40)) true [] (some false),
    .ingestCamera (frameAt .workspace 100), .ingestCamera (frameAt .wrist 100)]

/-- The call that starts the episode. -/
def mixedStart : CollectorCall ℚ Unit := .ingestControl (commandAt 100 1 none) true [] (some true)

/-- The collector behind a run at 30 Hz, over a writer that always returns. -/
def mixedRun (calls : List (CollectorCall ℚ Unit)) : Sight ℚ Unit :=
  (run (Collector.after (EpisodeWriter.answering fun _ => .returned).logged promptConfig)
    (promptConfig.fresh (.ofFps 30 fps_pos fps_lt) ()) calls).sight

theorem mixedRun_facts : (mixedRun mixedCalls).samples.length = 0 ∧
    (mixedRun (mixedCalls ++ [mixedStart])).samples.map (fun sample =>
      (sample.timestampNs, sample.control.sourceTimestamp "jaka_command",
        sample.control.acceptedArmQ.map fun q => q.value 0)) = [(100, some 40, some 1)] ∧
    ((mixedRun (mixedCalls ++ [mixedStart])).control.sourceAt 100
      "jaka_command").map (fun snapshot => snapshot.acceptedArmQ.map fun q => q.value 0) =
        some (some 0) := by
  decide +kernel

theorem mixedRun_sample : ∃ sample,
    (mixedRun (mixedCalls ++ [mixedStart])).samples = [sample] :=
  (List.map_eq_singleton_iff.mp mixedRun_facts.2.1).imp fun _ h => h.1

/-- The sample has the timestamp of one command and the target of another. -/
theorem command_mixed : ∃ sample, (mixedRun (mixedCalls ++ [mixedStart])).samples = [sample] ∧
    ¬(mixedRun (mixedCalls ++ [mixedStart])).Causal promptConfig (mixedCalls ++ [mixedStart]) []
      sample := by
  obtain ⟨sample, hsample⟩ := mixedRun_sample
  obtain ⟨-, hmixed, hselected⟩ := mixedRun_facts
  rw [hsample, List.map_singleton] at hmixed
  obtain ⟨hns, hsource, htarget⟩ : sample.timestampNs = 100 ∧
      sample.control.sourceTimestamp "jaka_command" = some 40 ∧
      (sample.control.acceptedArmQ.map fun q => q.value 0) = some 1 := by simpa using hmixed
  refine ⟨sample, hsample, fun hcausal => ?_⟩
  obtain ⟨-, snapshot, hsnapshot, -, -, hsame⟩ := hcausal.2 40 hsource
  have hsame : sample.control.acceptedArmQ = snapshot.acceptedArmQ := (List.cons.inj hsame).1
  rw [hns] at hsnapshot
  rw [hsnapshot, Option.map_some, ← hsame, htarget] at hselected
  exact absurd hselected (by decide)

theorem canonical_samples_causal_start : ∃ sample,
    (mixedRun (mixedCalls ++ [mixedStart])).samples = [sample] ∧
      (mixedRun (mixedCalls ++ [mixedStart])).Sampled promptConfig (mixedCalls ++ [mixedStart]) []
        sample := by
  obtain ⟨sample, hsample⟩ := mixedRun_sample
  have h := canonical_samples_causal (EpisodeWriter.answering fun _ => .returned) promptConfig 30
    (by decide) (by decide) () mixedCalls mixedStart
  refine ⟨sample, hsample, ?_⟩
  unfold mixedRun at *
  rw [run_concat] at *
  exact (h.2 [] sample [] hsample mixedRun_facts.1.le).1

end Mixed

end HandLab.Episode
