import HandLab.Episode.Collector

/-!
# What the canonical samples of a collector depend on

The timelines, the enabled sources, the clock and the samples handed over so far are the
`Sight` of a collector. Most methods leave it alone (`Still`).

* `Collector.causalSource_eq`: the selection of a source depends on the sight only.
* `abort_still`, `publishQuality_still` and the others: the methods that take no sample
  and hand none over.
-/

namespace HandLab.Episode

open HandLab.Lib

variable {ω δ ι : Type} [Double δ]

/-! ## Sights -/

/-- The sample that a call hands over. -/
def WriterCall.sample? : WriterCall δ ι → Option (CanonicalSample δ ι)
  | .appendSample sample => some sample
  | .begin _ _ | .appendRaw _ _ | .appendRawBatch _ | .appendRawCamera _ | .finalize _ _ _
  | .discardRejectedStart _ | .close => none

/-- The samples that were handed over. -/
def samplesOf (log : WriterLog δ ι) : List (CanonicalSample δ ι) :=
  log.filterMap fun e => e.1.sample?

theorem samplesOf_concat (log : WriterLog δ ι) (c : WriterCall δ ι) (r : Reply) :
    samplesOf (log ++ [(c, r)]) = samplesOf log ++ c.sample?.toList := by
  unfold samplesOf
  rw [List.filterMap_append]
  cases c <;> rfl

/-- What the canonical samples depend on. -/
structure Sight (δ ι : Type) [Double δ] where
  control : CausalTimeline (ControlSample δ)
  workspace : CausalTimeline (CameraRecord δ ι)
  wrist : CausalTimeline (CameraRecord δ ι)
  enabled : List String
  clock : CanonicalClock
  samples : List (CanonicalSample δ ι)

/-- The sight of a collector over a logged writer. -/
def Collector.sight (s : Collector (ω × WriterLog δ ι) δ ι) : Sight δ ι where
  control := s.control
  workspace := s.workspace
  wrist := s.wrist
  enabled := s.causalSourceEnabled
  clock := s.clock
  samples := samplesOf s.writer.2

/-- The timeline of a camera. -/
def Sight.camera (v : Sight δ ι) (role : CameraRole) : CausalTimeline (CameraRecord δ ι) :=
  match role with
  | .workspace => v.workspace
  | .wrist => v.wrist

def Sight.withCamera (v : Sight δ ι) (role : CameraRole)
    (timeline : CausalTimeline (CameraRecord δ ι)) : Sight δ ι :=
  match role with
  | .workspace => { v with workspace := timeline }
  | .wrist => { v with wrist := timeline }

/-! ## Sources -/

/-- The snapshot carries a timestamp of the source, on the host clock and not later. -/
def ControlSample.carries (name : String) (timestampNs : ℤ) (sample : ControlSample δ) : Bool :=
  sample.sourceTimestampDomains.lookup name == some "host_monotonic_ns" &&
    match sample.sourceTimestamp name with
    | none => false
    | some sourceNs => decide (sourceNs ≤ timestampNs)

theorem ControlSample.carries_iff {name : String} {timestampNs : ℤ} {sample : ControlSample δ} :
    sample.carries name timestampNs = true ↔
      sample.sourceTimestampDomains.lookup name = some "host_monotonic_ns" ∧
        ∃ sourceNs, sample.sourceTimestamp name = some sourceNs ∧ sourceNs ≤ timestampNs := by
  unfold ControlSample.carries
  rw [Bool.and_eq_true, beq_iff_eq]
  cases sample.sourceTimestamp name with
  | none => simp
  | some sourceNs => simp

/-- The latest snapshot of the timeline that carries the source. -/
def CausalTimeline.sourceAt (timeline : CausalTimeline (ControlSample δ)) (timestampNs : ℤ)
    (name : String) : Option (ControlSample δ) :=
  (timeline.latestMatching? timestampNs (ControlSample.carries name timestampNs)).map Prod.snd

theorem Collector.causalSource_eq (s : Collector ω δ ι) (timestampNs : ℤ) (name : String) :
    s.causalSource timestampNs name = s.control.sourceAt timestampNs name := by
  show (s.control.latestMatchingAtOrBefore timestampNs
    (ControlSample.carries name timestampNs)).value = _
  unfold CausalTimeline.latestMatchingAtOrBefore CausalTimeline.sourceAt
  cases s.control.latestMatching? timestampNs (ControlSample.carries name timestampNs) <;> rfl

/-! ## Methods that leave the sight alone -/

section Still

variable {w : EpisodeWriter ω δ ι} {config : CollectorConfig δ} {α : Type}

/-- The program leaves the sight alone. -/
abbrev Still (x : CollectM (ω × WriterLog δ ι) δ ι α) : Prop :=
  Moves Collector.sight (fun _ _ => False) x

theorem ask_still {c : WriterCall δ ι} (hc : c.sample? = none) : Still (ask w.logged c) := by
  intro s
  have hsight (writer : ω) (r : Reply) :
      ({ s with writer := (writer, s.writer.2 ++ [(c, r)]) } :
        Collector (ω × WriterLog δ ι) δ ι).sight = s.sight := by
    unfold Collector.sight
    dsimp only
    rw [samplesOf_concat, hc, Option.toList_none, List.append_nil]
  unfold ask Ensures EpisodeWriter.logged
  dsimp only
  cases h : w.call c s.writer.1 with
  | mk r writer =>
    dsimp only
    cases r with
    | returned => exact (hsight writer .returned).symm ▸ .refl
    | refused => exact (hsight writer .refused).symm ▸ .refl
    | raised exc => exact (hsight writer (.raised exc)).symm ▸ .refl

theorem setState_still (state : CaptureState) :
    Still (setState state : CollectM (ω × WriterLog δ ι) δ ι PUnit) := .modify fun _ => rfl

theorem terminate_still {c : WriterCall δ ι} (hc : c.sample? = none) :
    Still (terminate w.logged c) :=
  (ask_still hc).bind fun _ => .modify fun _ => rfl

theorem abort_still (reason : String) (invalid : Bool) (detail : Option String) :
    Still (abort w.logged config reason invalid detail) := by
  unfold abort
  refine Moves.bind .get fun s => ?_
  refine .ite (.pure _) (.ite ?_ ?_)
  · dsimp only
    split
    · refine moves_change (fun _ => rfl) ?_
      exact moves_change (fun _ => rfl) (setState_still _)
    · refine Moves.bind (terminate_still rfl) fun _ => ?_
      exact moves_change (fun _ => rfl) (setState_still _)
  · dsimp only
    refine moves_change (fun _ => rfl) (.ite ?_ ?_)
    · exact moves_change (fun _ => rfl) (setState_still _)
    · refine Moves.bind (setState_still _) fun _ => ?_
      exact Moves.bind (terminate_still rfl) fun _ => setState_still _

theorem abortOn_still (reason : String) (exc : PyException) :
    Still (abortOn w.logged config reason exc) :=
  .ite (abort_still _ _ _) (.throw _)

theorem publishQuality_still (quality : Record δ) :
    Still (publishQuality w.logged config quality) := by
  have hpending (f : Collector (ω × WriterLog δ ι) δ ι → List (Record δ)) :
      Still (modify fun s : Collector (ω × WriterLog δ ι) δ ι => { s with pendingQuality := f s }) :=
    .modify fun _ => rfl
  unfold publishQuality
  refine Moves.bind (.tryCatch ?_ fun exc => ?_) fun persisted => ?_
  · exact ask_still rfl
  · exact Moves.bind (abortOn_still _ _) fun _ => .pure _
  · split
    · exact .pure _
    · exact hpending _

theorem appendRawRecords_still (records : List (String × Record δ)) :
    Still (appendRawRecords w.logged config records) := by
  have heach (records : List (String × Record δ)) : Still (appendEach w.logged records) := by
    induction records with
    | nil => exact .pure _
    | cons record rest ih => exact Moves.bind (ask_still rfl) fun _ => ih
  refine Moves.tryCatch ?_ fun exc => abortOn_still _ _
  exact .ite (Moves.bind (ask_still rfl) fun _ => .pure _) (heach records)

theorem finishCompleted_still (releaseNs : ℤ) :
    Still (finishCompleted w.logged config releaseNs) := by
  unfold finishCompleted
  refine .ite ?_ ?_
  · exact moves_change (fun _ => rfl) (setState_still _)
  · refine Moves.bind (setState_still _) fun _ => Moves.bind (terminate_still rfl) fun _ => ?_
    exact moves_change (fun _ => rfl) (setState_still _)

theorem rejectStart_still (text : String) : Still (rejectStart w.logged config text) := by
  unfold rejectStart
  split
  · refine moves_change (fun _ => rfl) ?_
    exact moves_change (fun _ => rfl) (setState_still _)
  · refine Moves.bind (terminate_still rfl) fun _ => ?_
    exact moves_change (fun _ => rfl) (setState_still _)

theorem checkSources_still (timestamps : List (String × Option ℤ)) :
    Still (checkSources w.logged config timestamps) := by
  induction timestamps with
  | nil => exact .pure _
  | cons item rest ih =>
    obtain ⟨name, timestamp⟩ := item
    cases timestamp with
    | none => exact ih
    | some timestampNs =>
      unfold checkSources
      refine Moves.bind .get fun s => .ite ?_ ?_
      · exact Moves.bind (abort_still _ _ _) fun _ => .pure _
      · exact moves_change (fun _ => rfl) ih

theorem trackTrigger_still (hostMonotonicNs : ℤ) (pressed : Bool) :
    Still (trackTrigger hostMonotonicNs pressed : CollectM (ω × WriterLog δ ι) δ ι Bool) := by
  unfold trackTrigger
  refine Moves.bind .get fun s => moves_change (fun _ => rfl) (.ite ?_ (.pure _))
  exact Moves.bind (setState_still _) fun _ => moves_change (fun _ => rfl) (.pure _)

theorem cameraFault_still (role : CameraRole) (reason : String) :
    Still (cameraFault w.logged config role reason) := by
  unfold cameraFault
  exact Moves.bind .get fun s => .ite (abort_still _ _ _) (.pure _)

theorem flushQualityEvents_still (retries : ℕ → ℕ) :
    Still (flushQualityEvents w.logged retries) := by
  have hpersist (quality : Record δ) (n : ℕ) : Still (persistQuality w.logged quality n) := by
    induction n with
    | zero =>
      unfold persistQuality
      exact Moves.bind (ask_still rfl) fun _ => .ite (.pure _) (.modify fun _ => rfl)
    | succ n ih =>
      unfold persistQuality
      exact Moves.bind (ask_still rfl) fun _ => .ite (.pure _) ih
  have heach (qualities : List (Record δ)) : Still (flushEach w.logged retries qualities) := by
    induction qualities with
    | nil => exact .pure _
    | cons quality rest ih =>
      unfold flushEach
      refine Moves.bind (.tryCatch (hpersist _ _) fun exc => ?_) fun _ => ih
      exact .ite (.modify fun _ => rfl) (.throw _)
  unfold flushQualityEvents
  exact Moves.bind .get fun s => moves_change (fun _ => rfl) (heach _)

theorem finalizePending_still (retries : ℕ → ℕ) : Still (finalizePending w.logged retries) := by
  unfold finalizePending
  refine Moves.bind .get fun s => .ite (.pure _) ?_
  split
  · exact moves_change (fun _ => rfl) (terminate_still rfl)
  split
  · refine moves_change (fun _ => rfl) ?_
    refine Moves.bind (flushQualityEvents_still _) fun _ => ?_
    refine Moves.bind (setState_still _) fun _ => ?_
    exact Moves.bind (terminate_still rfl) fun _ => setState_still _
  split
  · refine moves_change (fun _ => rfl) (Moves.bind (setState_still _) fun _ => ?_)
    exact Moves.bind (terminate_still rfl) fun _ => setState_still _
  split
  · refine moves_change (fun _ => rfl) (Moves.bind (setState_still _) fun _ => ?_)
    refine Moves.bind (flushQualityEvents_still _) fun _ => ?_
    exact Moves.bind (terminate_still rfl) fun _ => setState_still _
  · exact .pure _

theorem shutdown_still (retries : ℕ → ℕ) (reason : String) :
    Still (shutdown w.logged config retries reason) := by
  unfold shutdown
  refine Moves.bind .get fun s => .ite (finalizePending_still _) (.ite ?_ (abort_still _ _ _))
  refine Moves.bind (.ite ?_ (.pure _)) fun _ => setState_still _
  exact Moves.bind (ask_still rfl) fun _ => .pure _

theorem finish_still (retries : ℕ → ℕ) (reason : String) (releaseNs : Option ℤ) :
    Still (finish w.logged config retries reason releaseNs) := by
  unfold finish
  refine Moves.bind .get fun s => .ite (.pure _) (.ite (shutdown_still _ _) (.ite ?_ ?_))
  · exact moves_change (fun _ => rfl) (setState_still _)
  · refine Moves.bind (setState_still _) fun _ => Moves.bind (terminate_still rfl) fun _ => ?_
    exact moves_change (fun _ => rfl) (setState_still _)

theorem discardCurrent_still (reason : String) :
    Still (discardCurrent w.logged config reason) := by
  unfold discardCurrent
  refine Moves.bind .get fun s => .ite (.pure _) (.ite (rejectStart_still _) (.ite ?_ ?_))
  · exact moves_change (fun _ => rfl) (setState_still _)
  · refine Moves.bind (setState_still _) fun _ => Moves.bind (terminate_still rfl) fun _ => ?_
    exact moves_change (fun _ => rfl) (setState_still _)

end Still

end HandLab.Episode
