import HandLab.Episode.CollectorLife

/-!
# The lifecycle of a collector

* `collector_lifecycle`: in every run whose steps meet `StepRegular`, the calls of the writer
  fit together (`Lifecycle`), `DONE` is left for the finalization only, and nothing else than
  what the end of the episode raised leaves an `ingest_*` call.
* `lifecycle_broken`: a first sample that is not written, and a start that is retried, break it.
-/

namespace HandLab.Episode

open HandLab.Lib

variable {ω δ ι : Type} [Double δ]

/-! ## The end of an episode -/

section Ends

variable {w : EpisodeWriter ω δ ι} {config : CollectorConfig δ} {o : Origin}
  {s : Collector (ω × WriterLog δ ι) δ ι}

/-- What is deferred is deferred in `DONE`, alone, and the episode has not been ended. -/
theorem Regular.isDeferred {l : Life δ ι} (h : Regular o l) (hpending : 0 < l.pending) :
    l.state = .done ∧ l.pending = 1 ∧ ¬Ended l.log ∧
      (l.finish = true ∨ l.abort = true → Begun l.log) := by
  have hdone : l.state = .done := by
    by_contra hstate
    have := (h.alive hstate).1.pending
    omega
  have hphase := h.phase
  unfold Life.Phase at hphase
  rw [hdone] at hphase
  obtain ⟨hle, hopen, hbegun⟩ := hphase
  exact ⟨hdone, by omega, hopen hpending, hbegun⟩

/-- The end of an episode that was deferred, through `FINALIZING`. -/
theorem terminateDeferred_life {l : Life δ ι} (hlifecycle : Lifecycle l.log) (htrail : o.Trail l)
    (hopen : ¬Ended l.log) (hpending : l.pending = 0) (hfinalizes : o.finalizes = true)
    (hlife : s.life = l.entering .finalizing) {c : WriterCall δ ι} (hc : c.isTerminal = true)
    (hfinalize : c.isFinalize = true → Begun l.log) :
    Ensures (terminate w.logged c) s (fun _ s' => Regular o (s'.life.entering .done))
      fun e s' => Escaped o e s'.life :=
  (finalizing_life hlife hlifecycle (htrail.entering fun _ => ⟨rfl, hfinalizes⟩) hopen hpending hc
    hfinalize).mono (fun _ _ h => h) fun _ _ h => h.1

/-- **`finalize_pending`** carries out the action that was deferred. -/
theorem finalizePending_life (hanswers : Answers w) (h : Regular o s.life)
    (hfinalizes : s.state = .done → o.finalizes = true) (retries : ℕ → ℕ) :
    Ensures (finalizePending w.logged retries) s (fun _ s' => Regular o s'.life)
      fun e s' => Escaped o e s'.life := by
  unfold finalizePending setState
  simp only [ensures_bind, ensures_get]
  split
  · exact h
  cases hrejection : s.deferredRejection with
  | some reason =>
    have hslot : s.life.rejection = true := congrArg Option.isSome hrejection
    obtain ⟨hdone, hone, hopen, -⟩ := h.isDeferred (by simp [Life.pending, hslot])
    simp only [ensures_bind, ensures_modify]
    refine (terminate_life (o := o) (by exact h.lifecycle) (by exact h.trail) (by exact hopen)
      (by rfl) (fun h => by cases h)).mono ?_ fun _ _ h => h.1
    rintro - s' ⟨r, hlife, hlifecycle⟩
    have hzero : s'.life.pending = 0 := by
      rw [hlife]
      show false.toNat + s.life.finish.toNat + s.life.discard.toNat + s.life.abort.toNat = 0
      simp only [Life.pending, hslot, Bool.toNat_true, Bool.toNat_false] at hone ⊢
      omega
    have htrail : o.Trail s'.life := by rw [hlife]; exact h.trail
    have hdone' : s'.life.state = .done := by rw [hlife]; exact hdone
    refine ⟨hlifecycle, ?_, htrail⟩
    unfold Life.Phase
    rw [hdone']
    obtain ⟨-, hfinish, -, habort⟩ := Life.pending_zero hzero
    refine ⟨by omega, fun hpos => by omega, ?_⟩
    rw [hfinish, habort]
    rintro (hfalse | hfalse) <;> exact absurd hfalse (by simp)
  | none =>
  cases hfinish : s.deferredFinish with
  | some deferred =>
    obtain ⟨reason, releaseNs⟩ := deferred
    have hslot : s.life.finish = true := congrArg Option.isSome hfinish
    obtain ⟨hdone, hone, hopen, hbegun⟩ := h.isDeferred (by simp [Life.pending, hslot])
    simp only [ensures_bind, ensures_modify]
    refine (flushQualityEvents_extends hanswers (by exact h.lifecycle) (by exact hopen)
      retries).mono ?_ fun _ _ h => h.elim
    intro _ s₁ hextends
    have hzero : s₁.life.pending = 0 := by
      rw [hextends.life]
      show s.life.rejection.toNat + false.toNat + s.life.discard.toNat + s.life.abort.toNat = 0
      simp only [Life.pending, hslot, Bool.toNat_true, Bool.toNat_false] at hone ⊢
      omega
    have htrail : o.Trail s₁.life := by rw [hextends.life]; exact h.trail
    exact terminateDeferred_life hextends.lifecycle htrail hextends.isOpen hzero
      (hfinalizes hdone) rfl rfl fun _ => hextends.begun (hbegun (.inl hslot))
  | none =>
  cases hdiscard : s.deferredDiscard with
  | some reason =>
    have hslot : s.life.discard = true := congrArg Option.isSome hdiscard
    obtain ⟨hdone, hone, hopen, -⟩ := h.isDeferred (by simp [Life.pending, hslot])
    simp only [ensures_bind, ensures_modify]
    refine terminateDeferred_life (l := { s.life with discard := false }) h.lifecycle h.trail hopen
      ?_ (hfinalizes hdone) rfl rfl (fun h => by cases h)
    simp only [Life.pending, hslot, Bool.toNat_true, Bool.toNat_false] at hone ⊢
    omega
  | none =>
  cases habort : s.deferredAbort with
  | some deferred =>
    obtain ⟨reason, invalid, detail⟩ := deferred
    have hslot : s.life.abort = true := congrArg Option.isSome habort
    obtain ⟨hdone, hone, hopen, hbegun⟩ := h.isDeferred (by simp [Life.pending, hslot])
    simp only [ensures_bind, ensures_modify]
    refine (flushQualityEvents_extends hanswers (by exact h.lifecycle) (by exact hopen)
      retries).mono ?_ fun _ _ h => h.elim
    intro _ s₁ hextends
    -- here `FINALIZING` is entered before the records are flushed
    have hentered : s₁.life = ({ s.life with abort := false, log := s₁.life.log } :
        Life δ ι).entering .finalizing := hextends.life
    refine terminateDeferred_life (l := { s.life with abort := false, log := s₁.life.log })
      hextends.lifecycle h.trail hextends.isOpen ?_ (hfinalizes hdone) hentered rfl
      fun _ => hextends.begun (hbegun (.inr hslot))
    simp only [Life.pending, hslot, Bool.toNat_true, Bool.toNat_false] at hone ⊢
    omega
  | none => exact h

/-- **`shutdown`**. -/
theorem shutdown_life (hanswers : Answers w) (h : Regular o s.life)
    (hfinalizes : s.state = .done → o.finalizes = true) (retries : ℕ → ℕ) (reason : String) :
    Ensures (shutdown w.logged config retries reason) s (fun _ s' => Regular o s'.life)
      fun e s' => Escaped o e s'.life ∨ Regular o s'.life := by
  unfold shutdown setState
  simp only [ensures_bind, ensures_get]
  split
  · exact (finalizePending_life hanswers h hfinalizes retries).mono (fun _ _ h => h)
      fun _ _ h => .inl h
  rename_i hdone
  split
  · rename_i hidle
    have hclosed : ∀ s₁ : Collector (ω × WriterLog δ ι) δ ι, Regular o s₁.life →
        s₁.state = .idle → Regular o (s₁.life.entering .done) := by
      intro s₁ hregular hstate
      have halive := (hregular.alive (by show s₁.state ≠ _; rw [hstate]; simp)).1
      exact Regular.ended halive.lifecycle halive.trail halive.state halive.pending
    have hclose : ∀ {r : Reply}, Regular o (s.life.logged .close r) :=
      fun {r} => (h.between (c := .close) (r := r) rfl rfl rfl (fun h => by cases h)).1
    split
    · simp only [ensures_bind, ensures_pure, ensures_modify]
      refine ensures_ask (fun _ s₁ r hlife _ _ => ?_) fun e s₁ hlife _ _ => ?_
      · refine hclosed s₁ (hlife ▸ hclose) ?_
        show s₁.life.state = _
        rw [hlife]
        exact hidle
      · right
        rw [hlife]
        exact hclose
    · simp only [ensures_bind, ensures_pure, ensures_modify]
      exact hclosed s h hidle
  · exact (abort_life h reason false none).mono (fun _ _ h => h.1) fun _ _ h => .inl h.escaped

/-- `finish`. -/
theorem finish_life (hanswers : Answers w) (h : Regular o s.life) (retries : ℕ → ℕ)
    (reason : String) (releaseNs : Option ℤ) :
    Ensures (finish w.logged config retries reason releaseNs) s (fun _ s' => Regular o s'.life)
      fun e s' => Escaped o e s'.life ∨ Regular o s'.life := by
  unfold finish setState
  simp only [ensures_bind, ensures_get]
  split
  · exact h
  rename_i hdone
  split
  · exact shutdown_life hanswers h (fun hstate => absurd hstate hdone) retries reason
  rename_i hrecording
  have hstate : s.state = .recording := not_not.mp hrecording
  obtain ⟨halive, -⟩ := h.alive hdone
  obtain ⟨hrejection, hfinish, hdiscard, habort⟩ := Life.pending_zero halive.pending
  have hbegun := h.begun hstate
  split
  · simp only [ensures_bind, ensures_modify]
    exact (halive.deferred (l := { s.life with finish := true }) ⟨rfl, rfl, rfl⟩
      (by simp [Life.pending, hrejection, hdiscard, habort]) fun _ => hbegun).1
  · simp only [ensures_bind, ensures_modify]
    exact (finalizing_life (l := s.life) rfl h.lifecycle
      (h.trail.entering fun hd => absurd hd halive.state) halive.isOpen halive.pending rfl
      fun _ => hbegun).mono (fun _ _ h => h) fun _ _ h => .inl h.1

/-- `discard_current`. -/
theorem discardCurrent_life (h : Regular o s.life) (reason : String) :
    Ensures (discardCurrent w.logged config reason) s (fun _ s' => Regular o s'.life)
      fun e s' => Escaped o e s'.life := by
  unfold discardCurrent setState
  simp only [ensures_bind, ensures_get]
  split
  · exact h
  rename_i hdone
  obtain ⟨halive, -⟩ := h.alive hdone
  obtain ⟨hrejection, hfinish, -, habort⟩ := Life.pending_zero halive.pending
  split
  · exact (rejectStart_life halive reason).mono (fun _ _ h => h.1) fun _ _ h => h.escaped
  split
  · simp only [ensures_bind, ensures_modify]
    exact (halive.deferred (l := { s.life with discard := true }) ⟨rfl, rfl, rfl⟩
      (by simp [Life.pending, hrejection, hfinish, habort]) (by simp [hfinish, habort])).1
  · simp only [ensures_bind, ensures_modify]
    exact (finalizing_life (l := s.life) rfl h.lifecycle
      (h.trail.entering fun hd => absurd hd halive.state) halive.isOpen halive.pending rfl
      (fun h => by cases h)).mono (fun _ _ h => h) fun _ _ h => h.1

end Ends

/-! ## Steps -/

section Run

/-- The calls that take a sample. -/
def CollectorCall.ingests : CollectorCall δ ι → Bool
  | .ingestCamera _ | .ingestControl _ _ _ _ => true
  | .cameraFault _ _ | .finish _ _ _ | .abort _ _ _ | .discardCurrent _ | .shutdown _ _
  | .finalizePending _ => false

/-- The calls that carry out what was deferred. -/
def CollectorCall.finalizes : CollectorCall δ ι → Bool
  | .shutdown _ _ | .finalizePending _ => true
  | .ingestCamera _ | .ingestControl _ _ _ _ | .cameraFault _ _ | .finish _ _ _ | .abort _ _ _
  | .discardCurrent _ => false

/-- Where a call begins. -/
def Collector.origin (s : Collector ω δ ι) (c : CollectorCall δ ι) : Origin :=
  ⟨s.published, s.state, c.finalizes⟩

variable (w : EpisodeWriter ω δ ι) (config : CollectorConfig δ)

/-- What a step has to meet: no call that ended the episode has raised before; without
    deferral, a slot is due only where such a call raises nothing that the handlers around the
    slot catch; and a start meets `StartRegular`. -/
structure StepRegular (s : Collector (ω × WriterLog δ ι) δ ι) (c : CollectorCall δ ι) : Prop where
  settled : ∀ e ∈ s.writer.2, ends e = true → e.2.isRaised = false
  due : ∀ sample referenceEstablished rawRecords captureActive,
    c = .ingestControl sample referenceEstablished rawRecords captureActive →
      config.deferFinalization = false → s.state = .recording →
        (∃ index timestampNs clock,
          s.clock.due sample.hostMonotonicNs = .frame index timestampNs clock) →
          Quiet w s.writer.1
  start : ∀ sample referenceEstablished rawRecords captureActive,
    c = .ingestControl sample referenceEstablished rawRecords captureActive →
      Ensures (takeControl w.logged config sample) s
        (fun taken s₁ => ∀ x ∈ taken,
          Ensures (trackTrigger x.hostMonotonicNs (captureActive.getD x.armTrigger)) s₁
            (fun _ s₂ => s₂.state = .arming → captureActive.getD x.armTrigger = true → ∀ p,
              startCandidate config s₂ x referenceEstablished (captureActive.getD x.armTrigger) =
                some p → StartRegular w.logged config s₂ p rawRecords)
            fun _ _ => True)
        fun _ _ => True

variable {w config} {s : Collector (ω × WriterLog δ ι) δ ι}

/-- **`ingest_control`**. -/
theorem ingestControl_life (hanswers : Answers w) {o : Origin} (h : Regular o s.life)
    (sample : ControlSample δ) (referenceEstablished : Bool)
    (rawRecords : List (String × Record δ)) (captureActive : Option Bool)
    (hstep : StepRegular w config s
      (.ingestControl sample referenceEstablished rawRecords captureActive)) :
    Ensures (ingestControl w.logged config sample referenceEstablished rawRecords captureActive) s
      (fun _ s' => Regular o s'.life) (Raises config o) := by
  have hdue := hstep.due _ _ _ _ rfl
  unfold ingestControl
  simp only [ensures_bind, ensures_get]
  split
  · exact h
  simp only [ensures_bind]
  refine ((takeControl_life h sample).and (hstep.start _ _ _ _ rfl)).mono ?_ fun _ _ h => h.1
  rintro taken s₁ ⟨⟨hregular₁, hsame⟩, hstart⟩
  cases taken with
  | none => exact hregular₁
  | some x =>
    obtain ⟨hlife₁, hwriter₁, hhost, -⟩ := hsame x rfl
    simp only [ensures_bind]
    refine ((trackTrigger_life hregular₁ _ _).and (hstart x rfl)).mono ?_ fun _ _ h => h.1.elim
    rintro releaseEdge s₂ ⟨⟨hregular₂, hlife₂, hwriter₂⟩, hstart₂⟩
    refine followTrigger_life hanswers hregular₂ x _ _ _ _ (fun hdefer hstate hframe => ?_) hstart₂
    have hlife : s₂.life = s.life := (hlife₂ hstate).trans hlife₁
    have hclock : s₂.clock = s.clock := congrArg Life.clock hlife
    rw [hclock, hhost] at hframe
    rw [hwriter₂, hwriter₁]
    exact hdue hdefer ((congrArg Life.state hlife).symm.trans hstate) hframe

variable {c : CollectorCall δ ι}

/-- **A step of a collector.** -/
theorem program_life (hanswers : Answers w)
    (h : Regular (s.origin c) s.life) (hstep : StepRegular w config s c) :
    Ensures (c.program w.logged config) s (fun _ s' => Regular (s.origin c) s'.life)
      fun e s' => Escaped (s.origin c) e s'.life ∨
        c.ingests = false ∧ Regular (s.origin c) s'.life := by
  cases c with
  | ingestCamera frame =>
    exact (ingestCamera_life hanswers h frame).mono (fun _ _ h => h) fun _ _ h => .inl h.escaped
  | ingestControl sample referenceEstablished rawRecords captureActive =>
    exact (ingestControl_life hanswers h _ _ _ _ hstep).mono (fun _ _ h => h)
      fun _ _ h => .inl h.escaped
  | cameraFault role reason =>
    unfold CollectorCall.program cameraFault
    simp only [ensures_bind, ensures_get]
    split
    · exact (abort_life h _ _ _).mono (fun _ _ h => h.1) fun _ _ h => .inl h.escaped
    · exact h
  | finish retries reason releaseNs =>
    exact (finish_life hanswers h retries reason releaseNs).mono (fun _ _ h => h)
      fun _ _ h => h.imp id fun hregular => ⟨rfl, hregular⟩
  | abort reason invalid detail =>
    exact (abort_life h reason invalid detail).mono (fun _ _ h => h.1)
      fun _ _ h => .inl h.escaped
  | discardCurrent reason =>
    exact (discardCurrent_life h reason).mono (fun _ _ h => h) fun _ _ h => .inl h
  | shutdown retries reason =>
    exact (shutdown_life hanswers h (fun _ => rfl) retries reason).mono (fun _ _ h => h)
      fun _ _ h => h.imp id fun hregular => ⟨rfl, hregular⟩
  | finalizePending retries =>
    exact (finalizePending_life hanswers h (fun _ => rfl) retries).mono (fun _ _ h => h)
      fun _ _ h => .inl h

/-- What holds between two calls. -/
def Between (l : Life δ ι) : Prop :=
  Lifecycle l.log ∧ (l.Phase ∨ ∃ e ∈ l.log, ends e = true ∧ e.2.isRaised = true)

theorem Between.regular (h : Between s.life)
    (hstep : StepRegular w config s c) : Regular (s.origin c) s.life where
  lifecycle := h.1
  phase := by
    rcases h.2 with hphase | ⟨e, he, hends, hraised⟩
    · exact hphase
    · rw [hstep.settled e he hends] at hraised
      exact nomatch hraised
  trail := ⟨[], by rw [List.append_nil]; rfl, rfl, .singleton _⟩

theorem Escaped.between {o : Origin} {e : PyException} {l : Life δ ι} (h : Escaped o e l) :
    Between l := by
  obtain ⟨c, hc, hlast⟩ := h.raised
  exact ⟨h.lifecycle, .inr ⟨_, List.mem_of_getLast? hlast, hc, rfl⟩⟩

theorem between_step (hanswers : Answers w) (h : Between s.life)
    (hstep : StepRegular w config s c) : Between (s.after w.logged config c).life := by
  refine Ensures.after (P := fun s' : Collector (ω × WriterLog δ ι) δ ι => Between s'.life) ?_
  refine (program_life hanswers (h.regular hstep) hstep).mono
    (fun _ _ h => ⟨h.lifecycle, .inl h.phase⟩) ?_
  rintro e s' (hescaped | ⟨-, hregular⟩)
  · exact hescaped.between
  · exact ⟨hregular.lifecycle, .inl hregular.phase⟩

/-- The collector before its first call, over a writer that keeps a log. -/
def CollectorConfig.fresh (config : CollectorConfig δ) (clock : CanonicalClock) (writer : ω) :
    Collector (ω × WriterLog δ ι) δ ι :=
  config.initial clock (writer, [])

theorem between_initial {clock : CanonicalClock} (hclock : clock.startNs = none) (writer : ω) :
    Between (config.fresh (ι := ι) clock writer).life := by
  refine ⟨Lifecycle.nil, .inl ?_⟩
  show ¬Begun [] ∧ ¬Ended [] ∧ _ ∧ _
  refine ⟨?_, ?_, rfl, hclock⟩
  · rintro ⟨_, h, -⟩
    exact nomatch h
  · rintro ⟨_, h, -⟩
    exact nomatch h

/-- **The lifecycle of a collector**: for a writer that answers `begin` and `append_*` in the ways
    of the source, in every run all of whose steps meet `StepRegular`, the calls of the writer
    fit together; a further call leaves `DONE` only to finalize, and lets out of `ingest_*`
    only what the end of the episode raised. -/
theorem collector_lifecycle (w : EpisodeWriter ω δ ι) (config : CollectorConfig δ) (fps : ℕ)
    (hpos : 0 < fps) (hfps : fps < 2000000000) (writer : ω) (hanswers : Answers w)
    (calls : List (CollectorCall δ ι)) (c : CollectorCall δ ι)
    (h : Meets (Collector.after w.logged config) (StepRegular w config)
      (config.fresh (.ofFps fps hpos hfps) writer) (calls ++ [c])) :
    let s := run (Collector.after w.logged config) (config.fresh (.ofFps fps hpos hfps) writer) calls
    Lifecycle (s.after w.logged config c).writer.2 ∧
      (s.origin c).Trail (s.after w.logged config c).life ∧
      (c.ingests = true → ∀ e, raisedBy (c.program w.logged config) s = some e →
        ∃ end_ : WriterCall δ ι, end_.isTerminal = true ∧
          (s.after w.logged config c).writer.2.getLast? = some (end_, .raised e)) := by
  intro s
  obtain ⟨hcalls, hstep⟩ := (meets_concat _ _ _).mp h
  have hbetween : Between s.life := run_invariant_of_meets
    (P := fun s => Between s.life) (fun s c hstep hs => between_step hanswers hs hstep)
    (between_initial rfl writer) hcalls
  have hlife := program_life hanswers (hbetween.regular hstep) hstep
  refine ⟨(between_step hanswers hbetween hstep).1, ?_, fun hingests e hraised => ?_⟩
  · refine Ensures.after
      (P := fun s' : Collector (ω × WriterLog δ ι) δ ι => (s.origin c).Trail s'.life)
      (hlife.mono (fun _ _ h => h.trail) ?_)
    rintro e s' (hescaped | ⟨-, hregular⟩)
    · exact hescaped.trail
    · exact hregular.trail
  · rcases hlife.raised hraised with hescaped | ⟨hnot, -⟩
    · exact hescaped.raised
    · rw [hingests] at hnot
      exact nomatch hnot

end Run

/-! ## Two starts -/

section Broken

/-- Something was appended last, behind the end. -/
def appendedLast (log : WriterLog δ ι) : Bool :=
  log.getLast?.any (fun e => e.1.isAppend) && log.dropLast.any ends

theorem not_lifecycle_of_appendedLast {log : WriterLog δ ι} (h : appendedLast log = true) :
    ¬Lifecycle log := by
  intro hlifecycle
  rcases List.eq_nil_or_concat log with rfl | ⟨pre, e, rfl⟩
  · exact nomatch h
  · rw [List.concat_eq_append] at h hlifecycle
    unfold appendedLast at h
    rw [List.getLast?_append, List.dropLast_concat, Bool.and_eq_true] at h
    obtain ⟨happend, hends⟩ := h
    exact hlifecycle.appendOpen pre e [] rfl (by simpa using happend)
      (List.any_eq_true.mp hends)

/-- A writer that answers by the call alone. -/
def EpisodeWriter.answering (answer : WriterCall δ ι → Reply) : EpisodeWriter Unit δ ι where
  call c _ := (answer c, ())

/-- A control sample of an arm and a hand at rest, with the trigger pressed. -/
def pressedAt (hostMonotonicNs : ℤ) : ControlSample ℚ where
  hostMonotonicNs
  acceptedArmQ := some ⟨fun _ => 0, fun _ => rfl⟩
  armQMeasured := some ⟨fun _ => 0, fun _ => rfl⟩
  armDqMeasured := some ⟨fun _ => 0, fun _ => rfl⟩
  tcpPoseXyzw := some ⟨fun _ => 0, fun _ => rfl⟩
  handObservation := some ⟨fun _ => 0, fun _ => rfl⟩
  handSource := .measured
  handTarget := some ⟨fun _ => 0, fun _ => rfl⟩
  armTrigger := true
  handGrip := false

/-- A frame of a camera. -/
def frameAt (role : CameraRole) (hostMonotonicNs : ℤ) : CameraRecord ℚ Unit :=
  .sample {
    header := {
      role
      hostMonotonicNs
      deviceRgbTimestampMs := 0
      deviceDepthTimestampMs := 0
      rgbFrameNumber := 0
      depthFrameNumber := 0
      rgbTimestampDomain := "global_time"
      depthTimestampDomain := "global_time" }
    rgb := ()
    depthRaw := () }

/-- The calls up to the start of an episode, which comes with raw records. -/
def startCalls (rawRecords : List (String × Record ℚ)) : List (CollectorCall ℚ Unit) :=
  [.ingestControl (pressedAt 100) true [] none, .ingestCamera (frameAt .workspace 110),
    .ingestCamera (frameAt .wrist 110), .ingestControl (pressedAt 120) true rawRecords none]

/-- A collector that finalizes at once. -/
def promptConfig : CollectorConfig ℚ where
  maximumStartDeltaRad := 1
  maximumHandStartDeltaRad := 1

theorem fps_pos : 0 < 30 := by decide

theorem fps_lt : 30 < 2000000000 := by decide

/-- The calls of the writer in a run at 30 Hz. -/
def writerLog (config : CollectorConfig ℚ) (answer : WriterCall ℚ Unit → Reply)
    (calls : List (CollectorCall ℚ Unit)) : WriterLog ℚ Unit :=
  (run (Collector.after (EpisodeWriter.answering answer).logged config)
    (config.fresh (.ofFps 30 fps_pos fps_lt) ()) calls).writer.2

/-- Every `append_sample` finds the disk full. -/
def fullDisk : WriterCall ℚ Unit → Reply
  | .appendSample _ => .raised (.osError "No space left on device")
  | _ => .returned

/-- Every frame is refused. -/
def badFrames : WriterCall ℚ Unit → Reply
  | .appendRawCamera _ => .raised (.valueError "camera sample shape mismatch")
  | _ => .returned

theorem answers_answering {answer : WriterCall δ ι → Reply}
    (h : ∀ c e, answer c = .raised e → e.caught = true) :
    Answers (EpisodeWriter.answering answer) := fun c _ e _ hraised => h c e hraised

/-- Where the first sample is not written, the raw record is appended behind the end; where a
    refused frame rejects the start, the retry begins once more. -/
theorem lifecycle_broken :
    (Answers (EpisodeWriter.answering fullDisk) ∧
      ¬Lifecycle (writerLog promptConfig fullDisk (startCalls [("robot", [])]))) ∧
    (Answers (EpisodeWriter.answering badFrames) ∧
      ¬Lifecycle (writerLog { promptConfig with retryStartRejections := true } badFrames
        (startCalls [] ++ [.ingestControl (pressedAt 140) true [] none]))) := by
  refine ⟨⟨answers_answering ?_, ?_⟩, answers_answering ?_, ?_⟩
  · intro c e h
    cases c <;> simp only [fullDisk, Reply.raised.injEq, reduceCtorEq] at h
    rw [← h]
    rfl
  · exact not_lifecycle_of_appendedLast (by decide +kernel)
  · intro c e h
    cases c <;> simp only [badFrames, Reply.raised.injEq, reduceCtorEq] at h
    rw [← h]
    rfl
  · intro hlifecycle
    have htwice : (writerLog { promptConfig with retryStartRejections := true } badFrames
        (startCalls [] ++ [.ingestControl (pressedAt 140) true [] none])).countP begins = 2 := by
      decide +kernel
    have := hlifecycle.begunOnce
    omega

/-- The call comes without raw records. -/
def CollectorCall.recordless : CollectorCall δ ι → Bool
  | .ingestControl _ _ rawRecords _ => rawRecords.isEmpty
  | .ingestCamera _ | .cameraFault _ _ | .finish _ _ _ | .abort _ _ _ | .discardCurrent _
  | .shutdown _ _ | .finalizePending _ => true

/-- Over a writer that always returns, a call without raw records is a regular step. -/
theorem stepRegular_returned {config : CollectorConfig δ}
    {s : Collector (Unit × WriterLog δ ι) δ ι} {c : CollectorCall δ ι}
    (hsettled : ∀ e ∈ s.writer.2, ends e = true → e.2.isRaised = false)
    (hrecords : c.recordless = true) :
    StepRegular (EpisodeWriter.answering fun _ => .returned) config s c where
  settled := hsettled
  due _ _ _ _ _ _ _ _ _ _ _ _ _ hraised := nomatch hraised
  start sample referenceEstablished rawRecords captureActive hc := by
    refine .of_forall (fun taken s₁ x _ => .of_forall (fun _ s₂ _ _ p _ => ?_)
      fun _ _ => trivial) fun _ _ => trivial
    exact {
      frames _ _ := by
        unfold FramesAccepted
        exact ⟨fun _ hraised => (nomatch hraised), fun _ _ hraised => nomatch hraised⟩
      slot _ hne := by
        rw [hc] at hrecords
        exact absurd (List.isEmpty_iff.mp hrecords) hne
      quiet _ _ _ _ _ _ hraised := nomatch hraised }

theorem collector_lifecycle_shutdown :
    Lifecycle (writerLog promptConfig (fun _ => .returned)
      (startCalls [] ++ [.shutdown (fun _ => 0) "operator_shutdown"])) := by
  have hanswers : Answers (EpisodeWriter.answering (δ := ℚ) (ι := Unit) fun _ => .returned) :=
    answers_answering (by rintro _ _ ⟨⟩)
  have h := collector_lifecycle _ promptConfig 30 (by decide) (by decide) () hanswers
    (startCalls []) (.shutdown (fun _ => 0) "operator_shutdown")
    ⟨stepRegular_returned (by decide +kernel) rfl,
      stepRegular_returned (by decide +kernel) rfl,
      stepRegular_returned (by decide +kernel) rfl,
      stepRegular_returned (by decide +kernel) rfl,
      stepRegular_returned (by decide +kernel) rfl, trivial⟩
  unfold writerLog
  rw [run_concat]
  exact h.1

end Broken

end HandLab.Episode
