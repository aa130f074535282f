import HandLab.Episode.Collector
import Mathlib.Data.List.Chain

/-!
# The life of a collector

What the methods of the collector do to its state, to the deferred actions and to the
log of its writer, read off as a `Life`. `Phase` says which of these go together between
two calls. Each method has one lemma: from a regular life it ends in a regular one, or it
raises what a call that ends the episode raised.

* `Lifecycle`: what is asked of the log.
* `abort_life`, `appendCanonical_life`, `startIfReady_life`, ...: the lemmas of the methods.
-/

namespace HandLab.Episode

open HandLab.Lib

variable {ω δ ι : Type} [Double δ]

/-! ## The log -/

namespace WriterCall

/-- An `append_*` call. -/
def isAppend : WriterCall δ ι → Bool
  | .appendRaw _ _ | .appendRawBatch _ | .appendRawCamera _ | .appendSample _ => true
  | .begin _ _ | .finalize _ _ _ | .discardRejectedStart _ | .close => false

/-- A call that ends the episode. -/
def isTerminal : WriterCall δ ι → Bool
  | .finalize _ _ _ | .discardRejectedStart _ => true
  | .begin _ _ | .appendRaw _ _ | .appendRawBatch _ | .appendRawCamera _ | .appendSample _
  | .close => false

/-- A call of `finalize`. -/
def isFinalize : WriterCall δ ι → Bool
  | .finalize _ _ _ => true
  | .begin _ _ | .appendRaw _ _ | .appendRawBatch _ | .appendRawCamera _ | .appendSample _
  | .discardRejectedStart _ | .close => false

/-- A call of `begin`. -/
def isBegin : WriterCall δ ι → Bool
  | .begin _ _ => true
  | .appendRaw _ _ | .appendRawBatch _ | .appendRawCamera _ | .appendSample _ | .finalize _ _ _
  | .discardRejectedStart _ | .close => false

end WriterCall

/-- The writer raised. -/
def Reply.isRaised : Reply → Bool
  | .raised _ => true
  | .returned | .refused => false

/-- A `begin` that succeeded. -/
def begins (e : WriterCall δ ι × Reply) : Bool := e.1.isBegin && !e.2.isRaised

/-- A call that ends the episode. -/
def ends (e : WriterCall δ ι × Reply) : Bool := e.1.isTerminal

/-- A `begin` has succeeded. -/
def Begun (log : WriterLog δ ι) : Prop := ∃ e ∈ log, begins e = true

/-- The episode has been ended. -/
def Ended (log : WriterLog δ ι) : Prop := ∃ e ∈ log, ends e = true

/-- What is asked of the calls of a collector. -/
structure Lifecycle (log : WriterLog δ ι) : Prop where
  /-- `begin` succeeds at most once -/
  begunOnce : log.countP begins ≤ 1
  /-- `finalize` and `discard_rejected_start` together are called at most once -/
  endedOnce : log.countP ends ≤ 1
  /-- `finalize` is called behind a successful `begin` -/
  finalizeBegun : ∀ pre e post, log = pre ++ e :: post → e.1.isFinalize = true → Begun pre
  /-- nothing is appended behind the end -/
  appendOpen : ∀ pre e post, log = pre ++ e :: post → e.1.isAppend = true → ¬Ended pre

section Log

variable {log : WriterLog δ ι} {e : WriterCall δ ι × Reply}

theorem begun_concat : Begun (log ++ [e]) ↔ Begun log ∨ begins e = true := by
  simp only [Begun, List.mem_append, List.mem_singleton]
  constructor
  · rintro ⟨x, hx | rfl, hbegins⟩
    · exact .inl ⟨x, hx, hbegins⟩
    · exact .inr hbegins
  · rintro (⟨x, hx, hbegins⟩ | hbegins)
    · exact ⟨x, .inl hx, hbegins⟩
    · exact ⟨e, .inr rfl, hbegins⟩

theorem ended_concat : Ended (log ++ [e]) ↔ Ended log ∨ ends e = true := by
  simp only [Ended, List.mem_append, List.mem_singleton]
  constructor
  · rintro ⟨x, hx | rfl, hends⟩
    · exact .inl ⟨x, hx, hends⟩
    · exact .inr hends
  · rintro (⟨x, hx, hends⟩ | hends)
    · exact ⟨x, .inl hx, hends⟩
    · exact ⟨e, .inr rfl, hends⟩

theorem Lifecycle.nil : Lifecycle ([] : WriterLog δ ι) where
  begunOnce := Nat.zero_le _
  endedOnce := Nat.zero_le _
  finalizeBegun pre e post h := by simp at h
  appendOpen pre e post h := by simp at h

theorem Lifecycle.concat (h : Lifecycle log) (hbegin : begins e = true → ¬Begun log)
    (hend : ends e = true → ¬Ended log) (hfinalize : e.1.isFinalize = true → Begun log)
    (happend : e.1.isAppend = true → ¬Ended log) : Lifecycle (log ++ [e]) := by
  have hcount : ∀ p : WriterCall δ ι × Reply → Bool, (p e = true → ¬∃ x ∈ log, p x = true) →
      log.countP p ≤ 1 → (log ++ [e]).countP p ≤ 1 := by
    intro p hp hle
    rw [List.countP_append, List.countP_singleton]
    split
    · rename_i hpe
      have hzero : log.countP p = 0 :=
        List.countP_eq_zero.mpr fun x hx hpx => hp hpe ⟨x, hx, hpx⟩
      omega
    · omega
  -- a split of the longer log is one of the log, or has the call at its end
  have hsplit : ∀ pre x post, log ++ [e] = pre ++ x :: post →
      (∃ post', log = pre ++ x :: post') ∨ (pre = log ∧ x = e) := by
    intro pre x post heq
    rcases List.eq_nil_or_concat post with rfl | ⟨post', last, rfl⟩
    · obtain ⟨rfl, hlast⟩ := List.append_inj' heq rfl
      exact .inr ⟨rfl, (List.singleton_inj.mp hlast).symm⟩
    · rw [List.concat_eq_append, ← List.cons_append, ← List.append_assoc] at heq
      exact .inl ⟨post', (List.append_inj' heq rfl).1⟩
  refine ⟨hcount begins hbegin h.begunOnce, hcount ends hend h.endedOnce, ?_, ?_⟩
  · intro pre x post heq hx
    rcases hsplit pre x post heq with ⟨post', hlog⟩ | ⟨rfl, rfl⟩
    · exact h.finalizeBegun pre x post' hlog hx
    · exact hfinalize hx
  · intro pre x post heq hx
    rcases hsplit pre x post heq with ⟨post', hlog⟩ | ⟨rfl, rfl⟩
    · exact h.appendOpen pre x post' hlog hx
    · exact happend hx

end Log

/-! ## Lives -/

/-- What the lifecycle is about. -/
structure Life (δ ι : Type) [Double δ] where
  state : CaptureState
  published : List CaptureState
  log : WriterLog δ ι
  clock : CanonicalClock
  rejection : Bool
  finish : Bool
  discard : Bool
  abort : Bool

/-- The life of a collector over a logged writer. -/
def Collector.life (s : Collector (ω × WriterLog δ ι) δ ι) : Life δ ι where
  state := s.state
  published := s.published
  log := s.writer.2
  clock := s.clock
  rejection := s.deferredRejection.isSome
  finish := s.deferredFinish.isSome
  discard := s.deferredDiscard.isSome
  abort := s.deferredAbort.isSome

theorem life_pendingQuality (s : Collector (ω × WriterLog δ ι) δ ι) (pending : List (Record δ)) :
    ({ s with pendingQuality := pending } : Collector _ δ ι).life = s.life := by
  cases s
  rfl

namespace Life

variable (l : Life δ ι)

/-- The number of deferred actions. -/
def pending : ℕ := l.rejection.toNat + l.finish.toNat + l.discard.toNat + l.abort.toNat

/-- The life behind a call of the writer. -/
def logged (c : WriterCall δ ι) (r : Reply) : Life δ ι := { l with log := l.log ++ [(c, r)] }

/-- The life behind `_set_state`. -/
def entering (state : CaptureState) : Life δ ι :=
  { l with state, published := l.published ++ [state] }

/-- What goes together between two calls. -/
def Phase : Prop :=
  match l.state with
  | .idle | .arming => ¬Begun l.log ∧ ¬Ended l.log ∧ l.pending = 0 ∧ l.clock.startNs = none
  | .recording => Begun l.log ∧ ¬Ended l.log ∧ l.pending = 0 ∧ ∃ next, l.clock.nextNs = some next
  | .finalizing => False
  | .done => l.pending ≤ 1 ∧ (0 < l.pending → ¬Ended l.log) ∧
      (l.finish = true ∨ l.abort = true → Begun l.log)

end Life

/-- Where a call began: what was published, the state, and whether the call finalizes. -/
structure Origin where
  published : List CaptureState
  state : CaptureState
  finalizes : Bool

/-- The states that a call has published: `DONE` is left only for `FINALIZING`, and only by a call
    that finalizes. -/
def Origin.Trail (o : Origin) (l : Life δ ι) : Prop :=
  ∃ states, l.published = o.published ++ states ∧
    (o.state :: states).getLast? = some l.state ∧
    (o.state :: states).IsChain fun a b => a = .done → b = .finalizing ∧ o.finalizes = true

theorem Origin.Trail.entering {o : Origin} {l : Life δ ι} (h : o.Trail l) {state : CaptureState}
    (hdone : l.state = .done → state = .finalizing ∧ o.finalizes = true) :
    o.Trail (l.entering state) := by
  obtain ⟨states, hpublished, hlast, hchain⟩ := h
  refine ⟨states ++ [state], ?_, ?_, ?_⟩
  · show l.published ++ [state] = _
    rw [hpublished, List.append_assoc]
  · rw [← List.cons_append, List.getLast?_append]
    rfl
  · rw [← List.cons_append, List.isChain_append]
    refine ⟨hchain, .singleton _, fun a ha b hb => ?_⟩
    obtain rfl := Option.some.inj (hlast.symm.trans ha)
    obtain rfl : state = b := by simpa using hb
    exact hdone

/-- A life that is as it should be. -/
structure Regular (o : Origin) (l : Life δ ι) : Prop where
  lifecycle : Lifecycle l.log
  phase : l.Phase
  trail : o.Trail l

/-- A life that has not come to its end, with an episode or without. -/
structure Alive (o : Origin) (l : Life δ ι) : Prop where
  lifecycle : Lifecycle l.log
  trail : o.Trail l
  isOpen : ¬Ended l.log
  pending : l.pending = 0
  state : l.state ≠ .done

/-- A call that ends the episode has raised the exception. -/
structure Escaped (o : Origin) (e : PyException) (l : Life δ ι) : Prop where
  lifecycle : Lifecycle l.log
  trail : o.Trail l
  raised : ∃ c : WriterCall δ ι, c.isTerminal = true ∧ l.log.getLast? = some (c, .raised e)

/-! ## Steps of a life -/

section Steps

variable {o : Origin} {l : Life δ ι} {c : WriterCall δ ι} {r : Reply}

theorem append_kinds (hc : c.isAppend = true) :
    begins (c, r) = false ∧ ends (c, r) = false ∧ c.isFinalize = false := by
  cases c <;> simp_all [WriterCall.isAppend, WriterCall.isTerminal, WriterCall.isFinalize,
    WriterCall.isBegin, begins, ends]

theorem terminal_kinds (hc : c.isTerminal = true) :
    begins (c, r) = false ∧ ends (c, r) = true ∧ c.isAppend = false := by
  cases c <;> simp_all [WriterCall.isAppend, WriterCall.isTerminal, WriterCall.isBegin, begins, ends]

/-- A call changes the phase through what it begins and ends only. -/
theorem Life.phase_logged (hbegun : Begun (l.logged c r).log ↔ Begun l.log)
    (hended : Ended (l.logged c r).log ↔ Ended l.log) : (l.logged c r).Phase ↔ l.Phase := by
  unfold Life.Phase
  simp only [hbegun, hended]
  exact Iff.rfl

/-- A call that neither begins nor ends an episode keeps the life regular. -/
theorem Regular.between (h : Regular o l) (hbegins : begins (c, r) = false)
    (hends : ends (c, r) = false) (hfinalize : c.isFinalize = false)
    (happend : c.isAppend = true → ¬Ended l.log) :
    Regular o (l.logged c r) ∧ (Ended (l.logged c r).log ↔ Ended l.log) := by
  have hbegun : Begun (l.logged c r).log ↔ Begun l.log := by
    show Begun (l.log ++ [(c, r)]) ↔ _
    rw [begun_concat, hbegins]
    simp
  have hended : Ended (l.logged c r).log ↔ Ended l.log := by
    show Ended (l.log ++ [(c, r)]) ↔ _
    rw [ended_concat, hends]
    simp
  refine ⟨⟨?_, (Life.phase_logged hbegun hended).mpr h.phase, h.trail⟩, hended⟩
  refine h.lifecycle.concat (fun hb => ?_) (fun he => ?_) (fun hf => ?_) happend
  · rw [hbegins] at hb; exact nomatch hb
  · rw [hends] at he; exact nomatch he
  · rw [hfinalize] at hf; exact nomatch hf

theorem Regular.append (h : Regular o l) (hopen : ¬Ended l.log) (hc : c.isAppend = true) :
    Regular o (l.logged c r) ∧ ¬Ended (l.logged c r).log := by
  obtain ⟨hbegins, hends, hfinalize⟩ := append_kinds (r := r) hc
  obtain ⟨hregular, hended⟩ := h.between hbegins hends hfinalize fun _ => hopen
  exact ⟨hregular, mt hended.mp hopen⟩

theorem Lifecycle.terminal (h : Lifecycle l.log) (hopen : ¬Ended l.log) (hc : c.isTerminal = true)
    (hfinalize : c.isFinalize = true → Begun l.log) : Lifecycle (l.logged c r).log := by
  obtain ⟨hbegins, -, happend⟩ := terminal_kinds (r := r) hc
  refine h.concat (fun hb => ?_) (fun _ => hopen) hfinalize fun ha => ?_
  · rw [hbegins] at hb; exact nomatch hb
  · rw [happend] at ha; exact nomatch ha

/-- Before the end nothing is deferred, and the episode has not been ended. -/
theorem Regular.alive (h : Regular o l) (hstate : l.state ≠ .done) :
    Alive o l ∧ l.state ≠ .finalizing := by
  have hphase := h.phase
  unfold Life.Phase at hphase
  have hlive : ¬Ended l.log ∧ l.pending = 0 ∧ l.state ≠ .finalizing := by
    cases hs : l.state with
    | idle => rw [hs] at hphase; exact ⟨hphase.2.1, hphase.2.2.1, nofun⟩
    | arming => rw [hs] at hphase; exact ⟨hphase.2.1, hphase.2.2.1, nofun⟩
    | recording => rw [hs] at hphase; exact ⟨hphase.2.1, hphase.2.2.1, nofun⟩
    | finalizing => rw [hs] at hphase; exact hphase.elim
    | done => exact absurd hs hstate
  exact ⟨⟨h.lifecycle, h.trail, hlive.1, hlive.2.1, hstate⟩, hlive.2.2⟩

theorem Regular.arming (h : Regular o l) (hstate : l.state = .arming) :
    ¬Begun l.log ∧ ¬Ended l.log ∧ l.pending = 0 ∧ l.clock.startNs = none := by
  have hphase := h.phase
  unfold Life.Phase at hphase
  rw [hstate] at hphase
  exact hphase

theorem Regular.recording (h : Regular o l) (hstate : l.state = .recording) :
    Begun l.log ∧ ¬Ended l.log ∧ l.pending = 0 ∧ ∃ next, l.clock.nextNs = some next := by
  have hphase := h.phase
  unfold Life.Phase at hphase
  rw [hstate] at hphase
  exact hphase

theorem Regular.begun (h : Regular o l) (hstate : l.state = .recording) : Begun l.log :=
  (h.recording hstate).1

/-- The writer takes the start of an episode. -/
theorem Alive.begun (h : Alive o l) (hbegun : ¬Begun l.log) {p : StartPrerequisites δ ι}
    {cameraMaxAgeNs : ℤ} (hkept : r.isRaised = false) :
    Alive o (l.logged (.begin p cameraMaxAgeNs) r) ∧
      Begun (l.logged (.begin p cameraMaxAgeNs) r).log := by
  refine ⟨⟨?_, h.trail, ?_, h.pending, h.state⟩, begun_concat.mpr (.inr ?_)⟩
  · exact h.lifecycle.concat (fun _ => hbegun) nofun nofun nofun
  · exact fun hended => (ended_concat.mp hended).elim h.isOpen nofun
  · simp [begins, WriterCall.isBegin, hkept]

/-- A call of a camera of the start keeps the life alive, also where it raises. -/
theorem Alive.camera (h : Alive o l) (hbegun : Begun l.log) {camera : CameraRecord δ ι} :
    Alive o (l.logged (.appendRawCamera camera) r) ∧
      Begun (l.logged (.appendRawCamera camera) r).log := by
  refine ⟨⟨?_, h.trail, ?_, h.pending, h.state⟩, begun_concat.mpr (.inl hbegun)⟩
  · exact h.lifecycle.concat nofun nofun nofun fun _ => h.isOpen
  · exact fun hended => (ended_concat.mp hended).elim h.isOpen nofun

/-- The end of a life in which nothing stays deferred. -/
theorem Regular.ended (hlifecycle : Lifecycle l.log) (htrail : o.Trail l)
    (hstate : l.state ≠ .done) (hpending : l.pending = 0) : Regular o (l.entering .done) where
  lifecycle := hlifecycle
  phase := by
    refine ⟨?_, ?_, ?_⟩
    · show l.pending ≤ 1
      omega
    · intro hpos
      have : 0 < l.pending := hpos
      omega
    · intro hepisode
      have hzero : l.pending = 0 := hpending
      unfold Life.pending at hzero
      rcases hepisode with hfinish | habort
      · have : l.finish = true := hfinish
        simp [this] at hzero
      · have : l.abort = true := habort
        simp [this] at hzero
  trail := htrail.entering fun hdone => absurd hdone hstate

end Steps

/-! ## Methods -/

section Methods

variable (w : EpisodeWriter ω δ ι) (config : CollectorConfig δ) {o : Origin}
  {s : Collector (ω × WriterLog δ ι) δ ι}

/-- A call that leaves the episode open. -/
def WriterCall.isOpening (c : WriterCall δ ι) : Bool := c.isBegin || c.isAppend

/-- Whatever is begun and appended before, a call that ends the episode raises no exception
    that a handler of the collector catches. -/
def Quiet (writer : ω) : Prop :=
  ∀ writer', Path (fun a b => ∃ c, c.isOpening = true ∧ b = (w.call c a).2) writer writer' →
    ∀ c e, c.isTerminal = true → (w.call c writer').1 = .raised e → e.caught = false

/-- `begin` and `append_*` raise a `ValueError` or an `OSError`, if anything. -/
def Answers : Prop :=
  ∀ (c : WriterCall δ ι) writer e, c.isAppend = true ∨ c.isBegin = true →
    (w.call c writer).1 = .raised e → e.caught = true

/-- The first frames of an episode are not answered with a `ValueError`. -/
def FramesAccepted (p : StartPrerequisites δ ι) (writer : ω) : Prop :=
  let workspace := w.call (.appendRawCamera p.workspace) writer
  let wrist := w.call (.appendRawCamera p.wrist) workspace.2
  (∀ e, workspace.1 = .raised e → e.isValueError = false) ∧
    (workspace.1.isRaised = false → ∀ e, wrist.1 = .raised e → e.isValueError = false)

/-- A slot is written, or its loss is. -/
def SlotAccepted (s : Collector ω δ ι) (frameIndex timestampNs : ℤ) : Prop :=
  match s.slot frameIndex timestampNs with
  | .staleControl | .staleCamera _ => False
  | .missingFields _ quality =>
    s.requiredFieldInvalidRun + 1 < config.canonicalRequiredFieldConsecutiveLimit ∧
      (w.call (.appendRaw "data_quality" quality) s.writer).1.isRaised = false
  | .sample sample =>
    match w.call (.appendSample sample) s.writer with
    | (.returned, _) => True
    | (.refused, writer) => (w.call (.appendRaw "data_quality"
        (Collector.qualityFromSample sample "recorder_queue_full")) writer).1.isRaised = false
    | (.raised _, _) => False

/-- What a start has to meet. -/
structure StartRegular (s : Collector ω δ ι) (p : StartPrerequisites δ ι)
    (rawRecords : List (String × Record δ)) : Prop where
  frames : config.retryStartRejections = true →
    (w.call (.begin p config.cameraMaxAgeNs) s.writer).1.isRaised = false →
      FramesAccepted w p (w.call (.begin p config.cameraMaxAgeNs) s.writer).2
  slot : config.deferFinalization = false → rawRecords ≠ [] →
    SlotAccepted w config (stateAfter (openEpisode w config p) s) 0 p.accepted.hostMonotonicNs
  quiet : config.deferFinalization = false → Quiet w s.writer

/-- A call that ends the episode has raised inside a call that ends it at once. -/
structure Raises (o : Origin) (e : PyException) (s : Collector (ω × WriterLog δ ι) δ ι) : Prop where
  escaped : Escaped o e s.life
  notDeferred : config.deferFinalization = false

/-- The same, and with a quiet writer it is caught nowhere. -/
structure RaisesFrom (o : Origin) (writer : ω) (e : PyException)
    (s : Collector (ω × WriterLog δ ι) δ ι) : Prop extends Raises config o e s where
  quiet : Quiet w writer → e.caught = false

variable {w config}

theorem Quiet.call {writer : ω} (h : Quiet w writer) {c : WriterCall δ ι}
    (hc : c.isOpening = true) : Quiet w (w.call c writer).2 := fun writer' hpath =>
  h writer' (.head ⟨c, hc, rfl⟩ hpath)

theorem Quiet.of_logged {writer : ω × WriterLog δ ι} (h : Quiet w.logged writer) :
    Quiet w writer.1 := by
  intro writer' hpath c e hc hraised
  -- the calls of a writer are those of the logged writer
  have hlogged : ∃ log, Path
      (fun a b => ∃ c : WriterCall δ ι, c.isOpening = true ∧ b = (w.logged.call c a).2) writer
      (writer', log) := by
    clear hraised
    induction hpath with
    | refl => exact ⟨writer.2, .refl⟩
    | tail _ hstep ih =>
      obtain ⟨log, hlog⟩ := ih
      obtain ⟨c, hopening, rfl⟩ := hstep
      exact ⟨_, hlog.tail ⟨c, hopening, rfl⟩⟩
  obtain ⟨log, hlog⟩ := hlogged
  exact h _ hlog c e hc hraised

theorem RaisesFrom.of_quiet {a b : ω} {e : PyException} (h : RaisesFrom w config o b e s)
    (hquiet : Quiet w a → Quiet w b) : RaisesFrom w config o a e s where
  toRaises := h.toRaises
  quiet hwriter := h.quiet (hquiet hwriter)

variable {E : PyException → Collector (ω × WriterLog δ ι) δ ι → Prop}

theorem ensures_ask {c : WriterCall δ ι} {Q : Bool → Collector (ω × WriterLog δ ι) δ ι → Prop}
    (hok : ∀ kept s' r, s'.life = s.life.logged c r →
      (w.logged.call c s.writer).1 = r ∧ r.isRaised = false →
      s'.writer = (w.logged.call c s.writer).2 → Q kept s')
    (herror : ∀ e s', s'.life = s.life.logged c (.raised e) →
      (w.logged.call c s.writer).1 = .raised e →
      s'.writer = (w.logged.call c s.writer).2 → E e s') :
    Ensures (ask w.logged c) s Q E := by
  unfold Ensures ask EpisodeWriter.logged
  dsimp only
  cases hreply : (w.call c s.writer.1).1 with
  | returned =>
    exact hok true _ .returned rfl ⟨hreply, rfl⟩ (by simp [EpisodeWriter.logged, hreply])
  | refused =>
    exact hok false _ .refused rfl ⟨hreply, rfl⟩ (by simp [EpisodeWriter.logged, hreply])
  | raised e => exact herror e _ rfl hreply (by simp [EpisodeWriter.logged, hreply])

theorem terminate_life {c : WriterCall δ ι} (hlifecycle : Lifecycle s.life.log)
    (htrail : o.Trail s.life) (hopen : ¬Ended s.life.log) (hc : c.isTerminal = true)
    (hfinalize : c.isFinalize = true → Begun s.life.log) :
    Ensures (terminate w.logged c) s
      (fun _ s' => ∃ r, s'.life = s.life.logged c r ∧ Lifecycle s'.life.log)
      fun e s' => Escaped o e s'.life ∧ (Quiet w s.writer.1 → e.caught = false) := by
  unfold terminate
  simp only [ensures_bind]
  refine ensures_ask (fun _ s' r hlife _ _ => ?_) fun e s' hlife hraised _ => ?_
  · refine ⟨r, hlife, ?_⟩
    show Lifecycle s'.life.log
    rw [hlife]
    exact hlifecycle.terminal hopen hc hfinalize
  · refine ⟨?_, fun hquiet => hquiet _ .refl c e hc hraised⟩
    rw [hlife]
    refine ⟨hlifecycle.terminal hopen hc hfinalize, htrail, c, hc, ?_⟩
    show (s.life.log ++ [(c, Reply.raised e)]).getLast? = _
    rw [List.getLast?_concat]

/-- The end of a life through `FINALIZING`. -/
theorem finalizing_life {l : Life δ ι} (hlife : s.life = l.entering .finalizing)
    (hlifecycle : Lifecycle l.log) (htrail : o.Trail (l.entering .finalizing))
    (hopen : ¬Ended l.log) (hpending : l.pending = 0) {c : WriterCall δ ι}
    (hc : c.isTerminal = true) (hfinalize : c.isFinalize = true → Begun l.log) :
    Ensures (terminate w.logged c) s (fun _ s' => Regular o (s'.life.entering .done))
      fun e s' => Escaped o e s'.life ∧ (Quiet w s.writer.1 → e.caught = false) := by
  have hlog : s.life.log = l.log := by rw [hlife]; rfl
  refine (terminate_life (o := o) ?_ ?_ ?_ hc ?_).mono ?_ fun _ _ h => h
  · rw [hlog]; exact hlifecycle
  · rw [hlife]; exact htrail
  · rw [hlog]; exact hopen
  · rw [hlog]; exact hfinalize
  · rintro - s' ⟨r, hafter, hlifecycle'⟩
    rw [hlife] at hafter
    rw [hafter] at hlifecycle' ⊢
    exact Regular.ended hlifecycle' htrail nofun hpending

/-- A life that a call has just ended. -/
theorem Alive.terminated (h : Alive o s.life) {c : WriterCall δ ι} {r : Reply} {l : Life δ ι}
    (hlife : l = s.life.logged c r) (hlifecycle : Lifecycle l.log) :
    Regular o (l.entering .done) := by
  subst hlife
  exact Regular.ended hlifecycle h.trail h.state h.pending

theorem Alive.deferred (h : Alive o s.life) {l : Life δ ι}
    (hsame : l.state = s.life.state ∧ l.published = s.life.published ∧ l.log = s.life.log)
    (hpending : l.pending ≤ 1) (hbegun : l.finish = true ∨ l.abort = true → Begun s.life.log) :
    Regular o (l.entering .done) ∧ ¬Ended l.log := by
  obtain ⟨hl, hpublished, hlog⟩ := hsame
  have hopen : ¬Ended l.log := hlog ▸ h.isOpen
  obtain ⟨states, htrail⟩ := h.trail
  have htrail' : o.Trail l := ⟨states, by rw [hpublished, hl]; exact htrail⟩
  refine ⟨⟨?_, ⟨hpending, fun _ => hopen, ?_⟩, ?_⟩, hopen⟩
  · show Lifecycle l.log
    rw [hlog]
    exact h.lifecycle
  · intro hepisode
    show Begun l.log
    rw [hlog]
    exact hbegun hepisode
  · exact htrail'.entering fun hdone => absurd (hl.symm.trans hdone) h.state

theorem Life.pending_zero {l : Life δ ι} (h : l.pending = 0) :
    l.rejection = false ∧ l.finish = false ∧ l.discard = false ∧ l.abort = false := by
  unfold Life.pending at h
  refine ⟨?_, ?_, ?_, ?_⟩ <;> refine Bool.eq_false_iff.mpr fun htrue => ?_ <;>
    · rw [htrue, Bool.toNat_true] at h
      omega

/-- A start that is given up ends the life, at once or deferred. -/
theorem discardStart_life (h : Alive o s.life) (text reason : String) :
    Ensures (do
        if config.deferFinalization then modify fun s => { s with deferredRejection := some text }
        else terminate w.logged (.discardRejectedStart text)
        modify fun s => { s with
          terminationReason := some reason, completionStatus := some .invalid }
        setState .done) s
      (fun _ s' => Regular o s'.life ∧ s'.state = .done ∧
        (config.deferFinalization = true → ¬Ended s'.life.log))
      (RaisesFrom w config o s.writer.1) := by
  obtain ⟨-, hfinish, hdiscard, habort⟩ := Life.pending_zero h.pending
  unfold setState
  cases hdefer : config.deferFinalization with
  | true =>
    simp only [ensures_bind, ensures_modify, if_true]
    have hrejected := h.deferred (l := { s.life with rejection := true }) ⟨rfl, rfl, rfl⟩
      (by simp [Life.pending, hfinish, hdiscard, habort]) (by simp [hfinish, habort])
    exact ⟨hrejected.1, trivial, fun _ => hrejected.2⟩
  | false =>
    simp only [ensures_bind, ensures_modify, Bool.false_eq_true, if_false]
    refine (terminate_life h.lifecycle h.trail h.isOpen rfl (fun h => by cases h)).mono ?_ ?_
    · rintro - s' ⟨r, hlife, hlifecycle⟩
      exact ⟨h.terminated hlife hlifecycle, trivial, fun hfalse => hfalse.elim⟩
    · rintro e s' ⟨hescaped, hquiet⟩
      exact ⟨⟨hescaped, hdefer⟩, hquiet⟩

theorem rejectStart_life (h : Alive o s.life) (text : String) :
    Ensures (rejectStart w.logged config text) s
      (fun _ s' => Regular o s'.life ∧ s'.state = .done ∧
        (config.deferFinalization = true → ¬Ended s'.life.log))
      (RaisesFrom w config o s.writer.1) :=
  discardStart_life h text text

/-- **`abort`** ends the life, at once or deferred. -/
theorem abort_life (h : Regular o s.life) (reason : String) (invalid : Bool)
    (detail : Option String) :
    Ensures (abort w.logged config reason invalid detail) s
      (fun _ s' => Regular o s'.life ∧ s'.state = .done ∧
        (config.deferFinalization = true → ¬Ended s.life.log → ¬Ended s'.life.log))
      (RaisesFrom w config o s.writer.1) := by
  unfold abort
  simp only [ensures_bind, ensures_get]
  by_cases hdone : s.state = .done
  · rw [if_pos hdone]
    exact ⟨h, hdone, fun _ hopen => hopen⟩
  rw [if_neg hdone]
  obtain ⟨halive, hfinalizing⟩ := h.alive hdone
  obtain ⟨hrejection, hfinish, hdiscard, -⟩ := Life.pending_zero halive.pending
  by_cases hearly : s.state = .idle ∨ s.state = .arming
  · rw [if_pos hearly]
    refine (discardStart_life halive _ reason).mono ?_ fun _ _ h => h
    exact fun _ _ h => ⟨h.1, h.2.1, fun hdefer _ => h.2.2 hdefer⟩
  · rw [if_neg hearly]
    have hrecording : s.state = .recording := by
      cases hs : s.state with
      | idle => exact absurd (.inl hs) hearly
      | arming => exact absurd (.inr hs) hearly
      | recording => rfl
      | finalizing => exact absurd hs hfinalizing
      | done => exact absurd hs hdone
    have hbegun := h.begun hrecording
    unfold setState
    cases hdefer : config.deferFinalization with
    | true =>
      simp only [ensures_bind, ensures_modify, if_true]
      have haborted := halive.deferred (l := { s.life with abort := true }) ⟨rfl, rfl, rfl⟩
        (by simp [Life.pending, hrejection, hfinish, hdiscard]) fun _ => hbegun
      exact ⟨haborted.1, trivial, fun _ _ => haborted.2⟩
    | false =>
      simp only [ensures_bind, ensures_modify, Bool.false_eq_true, if_false]
      refine (finalizing_life (l := s.life) rfl h.lifecycle
        (h.trail.entering fun hd => absurd hd hdone) halive.isOpen halive.pending rfl
        fun _ => hbegun).mono ?_ ?_
      · intro _ s' hregular
        exact ⟨hregular, trivial, fun hfalse => hfalse.elim⟩
      · rintro e s' ⟨hescaped, hquiet⟩
        exact ⟨⟨hescaped, hdefer⟩, hquiet⟩

theorem abort_regular (h : Regular o s.life) (reason : String) (invalid : Bool)
    (detail : Option String) :
    Ensures (abort w.logged config reason invalid detail) s (fun _ s' => Regular o s'.life)
      (Raises config o) :=
  (abort_life h reason invalid detail).mono (fun _ _ h => h.1) fun _ _ h => h.toRaises

/-- In `DONE` there is nothing left to abort. -/
theorem abort_done (hdone : s.state = .done) (reason : String) (invalid : Bool)
    (detail : Option String) :
    Ensures (abort w.logged config reason invalid detail) s (fun _ s' => s' = s)
      fun _ _ => False := by
  unfold abort
  simp only [ensures_bind, ensures_get]
  rw [if_pos hdone]
  rfl

/-! ### Appends -/

/-- A call of `append_*`, on its own. -/
theorem ask_append (hanswers : Answers w) (h : Regular o s.life) (hopen : ¬Ended s.life.log)
    {c : WriterCall δ ι} (hc : c.isAppend = true) :
    Ensures (ask w.logged c) s
      (fun _ s' => Regular o s'.life ∧ ¬Ended s'.life.log ∧
        (Quiet w s.writer.1 → Quiet w s'.writer.1) ∧ s'.state = s.state ∧ s'.clock = s.clock)
      fun e s' => Regular o s'.life ∧ ¬Ended s'.life.log ∧
        (Quiet w s.writer.1 → Quiet w s'.writer.1) ∧ e.caught = true := by
  have hopening : c.isOpening = true := by rw [WriterCall.isOpening, hc, Bool.or_true]
  refine ensures_ask (fun _ s' r hlife _ hwriter => ?_) fun e s' hlife hraised hwriter => ?_
  · obtain ⟨hregular, hopen'⟩ := h.append (r := r) hopen hc
    have hstate : s'.life.state = s.life.state := by rw [hlife]; rfl
    have hclock : s'.life.clock = s.life.clock := by rw [hlife]; rfl
    rw [hlife, hwriter]
    exact ⟨hregular, hopen', fun hquiet => hquiet.call hopening, hstate, hclock⟩
  · obtain ⟨hregular, hopen'⟩ := h.append (r := .raised e) hopen hc
    rw [hlife, hwriter]
    exact ⟨hregular, hopen', fun hquiet => hquiet.call hopening,
      hanswers c s.writer.1 e (.inl hc) hraised⟩

/-- A handler lets an exception through. -/
theorem ensures_abortOn {e : PyException} (hcaught : e.caught = false) (reason : String)
    {Q : PUnit → Collector (ω × WriterLog δ ι) δ ι → Prop} :
    Ensures (abortOn w.logged config reason e) s Q E ↔ E e s := by
  unfold abortOn
  rw [if_neg (by rw [hcaught]; exact Bool.false_ne_true), ensures_throw]

/-- A handler that aborts. -/
theorem abortOn_life {e : PyException} (h : Regular o s.life) (hcaught : e.caught = true)
    (reason : String) :
    Ensures (abortOn w.logged config reason e) s
      (fun _ s' => Regular o s'.life ∧ s'.state = .done ∧
        (config.deferFinalization = true → ¬Ended s.life.log → ¬Ended s'.life.log))
      (RaisesFrom w config o s.writer.1) := by
  unfold abortOn
  rw [if_pos hcaught]
  exact abort_life h _ _ _

/-- `_publish_quality`. -/
theorem publishQuality_life (hanswers : Answers w) (h : Regular o s.life)
    (hopen : ¬Ended s.life.log) (quality : Record δ) :
    Ensures (publishQuality w.logged config quality) s
      (fun _ s' => Regular o s'.life ∧ (config.deferFinalization = true → ¬Ended s'.life.log) ∧
        (s'.state = .done ∨ (Quiet w s.writer.1 → Quiet w s'.writer.1)))
      (RaisesFrom w config o s.writer.1) := by
  unfold publishQuality
  simp only [ensures_bind, ensures_tryCatch, ensures_pure]
  refine (ask_append hanswers h hopen rfl).mono ?_ ?_
  · rintro kept s' ⟨hregular, hopen', hquiet, -⟩
    cases kept with
    | true =>
      rw [if_pos rfl, ensures_pure]
      exact ⟨hregular, fun _ => hopen', .inr hquiet⟩
    | false =>
      simp only [Bool.false_eq_true, if_false, ensures_modify, life_pendingQuality]
      exact ⟨hregular, fun _ => hopen', .inr hquiet⟩
  · rintro e s' ⟨hregular, hopen', hquiet, hcaught⟩
    refine (abortOn_life hregular hcaught _).mono ?_ fun _ _ h => h.of_quiet hquiet
    rintro - s'' ⟨hregular', hdone, hdeferred⟩
    exact ⟨hregular', fun hdefer => hdeferred hdefer hopen', .inl hdone⟩

/-- The loop over the records of a batch. -/
theorem appendEach_life (hanswers : Answers w) (records : List (String × Record δ))
    (h : Regular o s.life) (hopen : ¬Ended s.life.log) :
    Ensures (appendEach w.logged records) s
      (fun _ s' => Regular o s'.life ∧ (Quiet w s.writer.1 → Quiet w s'.writer.1) ∧
        s'.state = s.state ∧ s'.clock = s.clock)
      fun e s' => Regular o s'.life ∧ (Quiet w s.writer.1 → Quiet w s'.writer.1) ∧
        e.caught = true := by
  induction records generalizing s with
  | nil => exact ⟨h, fun hquiet => hquiet, rfl, rfl⟩
  | cons item rest ih =>
    obtain ⟨stream, record⟩ := item
    unfold appendEach
    simp only [ensures_bind]
    refine (ask_append hanswers h hopen rfl).mono ?_ ?_
    · rintro - s' ⟨hregular, hopen', hquiet, hstate, hclock⟩
      rw [← hstate, ← hclock]
      refine (ih hregular hopen').mono ?_ ?_
      · rintro - s'' ⟨hregular', hquiet', hsame⟩
        exact ⟨hregular', hquiet' ∘ hquiet, hsame⟩
      · rintro e s'' ⟨hregular', hquiet', hcaught⟩
        exact ⟨hregular', hquiet' ∘ hquiet, hcaught⟩
    · rintro e s' ⟨hregular, -, hquiet, hcaught⟩
      exact ⟨hregular, hquiet, hcaught⟩

/-- `_append_raw_records`. -/
theorem appendRawRecords_life (hanswers : Answers w) (h : Regular o s.life)
    (hopen : ¬Ended s.life.log) (records : List (String × Record δ)) :
    Ensures (appendRawRecords w.logged config records) s
      (fun _ s' => Regular o s'.life ∧ (s'.state = .done ∨
        (Quiet w s.writer.1 → Quiet w s'.writer.1) ∧ s'.state = s.state ∧ s'.clock = s.clock))
      (Raises config o) := by
  unfold appendRawRecords
  simp only [ensures_tryCatch]
  have hhandler : ∀ e (s' : Collector (ω × WriterLog δ ι) δ ι),
      Regular o s'.life ∧ (Quiet w s.writer.1 → Quiet w s'.writer.1) ∧ e.caught = true →
        Ensures (abortOn w.logged config "raw_data_write_failure" e) s'
          (fun _ s' => Regular o s'.life ∧ (s'.state = .done ∨
            (Quiet w s.writer.1 → Quiet w s'.writer.1) ∧ s'.state = s.state ∧ s'.clock = s.clock))
          (Raises config o) := by
    rintro e s' ⟨hregular, -, hcaught⟩
    refine (abortOn_life hregular hcaught _).mono ?_ fun _ _ h => h.toRaises
    rintro - s'' ⟨hregular, hdone, -⟩
    exact ⟨hregular, .inl hdone⟩
  cases hbatch : w.logged.hasBatch with
  | true =>
    simp only [if_true, ensures_bind, ensures_pure]
    refine (ask_append hanswers h hopen rfl).mono ?_ ?_
    · rintro - s' ⟨hregular, -, hsame⟩
      exact ⟨hregular, .inr hsame⟩
    · rintro e s' ⟨hregular, -, hcaught⟩
      exact hhandler e s' ⟨hregular, hcaught⟩
  | false =>
    simp only [Bool.false_eq_true, if_false]
    refine (appendEach_life hanswers records h hopen).mono ?_ hhandler
    rintro - s' ⟨hregular, hsame⟩
    exact ⟨hregular, .inr hsame⟩

/-- **`_append_canonical`**. -/
theorem appendCanonical_life (hanswers : Answers w)
    (hwriter : config.deferFinalization = false → Quiet w s.writer.1) (h : Regular o s.life)
    (hstate : s.state = .recording) (frameIndex timestampNs : ℤ) :
    Ensures (appendCanonical w.logged config frameIndex timestampNs) s
      (fun _ s' => Regular o s'.life ∧ (config.deferFinalization = true → ¬Ended s'.life.log))
      (RaisesFrom w config o s.writer.1) := by
  have hopen := (h.recording hstate).2.1
  have habort : ∀ {s' : Collector (ω × WriterLog δ ι) δ ι} (reason invalid detail),
      Regular o s'.life → (config.deferFinalization = true → ¬Ended s'.life.log) →
        (s'.state = .done ∨ (Quiet w s.writer.1 → Quiet w s'.writer.1)) →
          Ensures (abort w.logged config reason invalid detail) s'
            (fun _ s' => Regular o s'.life ∧
              (config.deferFinalization = true → ¬Ended s'.life.log))
            (RaisesFrom w config o s.writer.1) := by
    rintro s' reason invalid detail hregular hopen' (hdone | hquiet)
    · refine (abort_done hdone reason invalid detail).mono ?_ fun _ _ h => h.elim
      rintro - s'' rfl
      exact ⟨hregular, hopen'⟩
    · refine (abort_life hregular reason invalid detail).mono ?_ fun _ _ h => h.of_quiet hquiet
      rintro - s'' ⟨hregular', -, hdeferred⟩
      exact ⟨hregular', fun hdefer => hdeferred hdefer (hopen' hdefer)⟩
  -- what a nested call that ends the episode raises is not caught
  have hthrough : ∀ {e} {s' : Collector (ω × WriterLog δ ι) δ ι},
      RaisesFrom w config o s.writer.1 e s' → e.caught = false :=
    fun hraises => hraises.quiet (hwriter hraises.notDeferred)
  unfold appendCanonical
  simp only [ensures_bind, ensures_get]
  cases s.slot frameIndex timestampNs with
  | staleControl => exact habort _ _ _ h (fun _ => hopen) (.inr fun hquiet => hquiet)
  | staleCamera quality =>
    simp only [ensures_bind, ensures_modify, ensures_tryCatch, ensures_pure]
    refine (publishQuality_life hanswers (by exact h) (by exact hopen) quality).mono ?_ ?_
    · rintro - s' ⟨hregular, hopen', hquiet⟩
      split
      · exact habort _ _ _ hregular hopen' hquiet
      · exact ⟨hregular, hopen'⟩
    · intro e s' hraises
      rw [ensures_abortOn (hthrough hraises)]
      exact hraises
  | missingFields fields quality =>
    simp only [ensures_bind, ensures_modify, ensures_get]
    refine (publishQuality_life hanswers (by exact h) (by exact hopen) quality).mono ?_ fun _ _ h => h
    rintro - s' ⟨hregular, hopen', hquiet⟩
    split
    · exact habort _ _ _ hregular hopen' hquiet
    · exact ⟨hregular, hopen'⟩
  | sample sample =>
    simp only [ensures_bind, ensures_modify, ensures_tryCatch]
    refine (ask_append hanswers (by exact h) (by exact hopen) (by rfl)).mono ?_ ?_
    · rintro kept s' ⟨hregular, hopen', hquiet, -⟩
      cases kept with
      | true => exact ⟨hregular, fun _ => hopen'⟩
      | false =>
        refine (publishQuality_life hanswers hregular hopen' _).mono
          (fun _ _ h => ⟨h.1, h.2.1⟩) ?_
        intro e s'' hraises
        have hraises' := hraises.of_quiet hquiet
        rw [ensures_abortOn (hthrough hraises')]
        exact hraises'
    · rintro e s' ⟨hregular, hopen', hquiet, hcaught⟩
      refine (abortOn_life hregular hcaught _).mono ?_ fun _ _ h => h.of_quiet hquiet
      rintro - s'' ⟨hregular', -, hdeferred⟩
      exact ⟨hregular', fun hdefer => hdeferred hdefer hopen'⟩

/-! ### Cameras -/

theorem life_withCamera (role : CameraRole) (timeline : CausalTimeline (CameraRecord δ ι)) :
    (s.withCamera role timeline).life = s.life := by
  cases role <;> rfl

/-- `ingest_camera`. -/
theorem ingestCamera_life (hanswers : Answers w) (h : Regular o s.life)
    (frame : CameraRecord δ ι) :
    Ensures (ingestCamera w.logged config frame) s (fun _ s' => Regular o s'.life)
      (Raises config o) := by
  unfold ingestCamera
  simp only [ensures_bind, ensures_get]
  split
  · exact h
  simp only [ensures_bind, ensures_modify]
  split
  · exact abort_regular (by exact h) _ _ _
  simp only [ensures_tryCatch]
  unfold takeFrame
  simp only [ensures_bind, ensures_get]
  split
  · exact abort_regular (by exact h) _ _ _
  · rename_i timeline _
    simp only [ensures_bind, ensures_modify]
    have htaken : ∀ {t : Collector (ω × WriterLog δ ι) δ ι}, t.life = s.life →
        Regular o (t.withCamera frame.header.role timeline).life := by
      intro t ht
      rw [life_withCamera, ht]
      exact h
    split
    · rename_i hrecording
      have hopen := (h.recording hrecording).2.1
      simp only [ensures_bind, ensures_pure]
      refine (ask_append hanswers (htaken (by rfl)) (by rw [life_withCamera]; exact hopen)
        (by rfl)).mono (fun _ _ h => h.1) ?_
      rintro e s' ⟨hregular, -, -, hcaught⟩
      cases e with
      | timestampRegression text => exact abort_regular hregular _ _ _
      | valueError text =>
        exact (abortOn_life hregular hcaught _).mono (fun _ _ h => h.1) fun _ _ h => h.toRaises
      | osError text =>
        exact (abortOn_life hregular hcaught _).mono (fun _ _ h => h.1) fun _ _ h => h.toRaises
      | other text => cases hcaught
    · exact htaken rfl

/-! ### Starts -/

/-- `clock.start` and what follows it. -/
theorem enterRec_life (h : Alive o s.life) (hbegun : Begun s.life.log)
    (hclock : s.clock.startNs = none) (p : StartPrerequisites δ ι) :
    Ensures (enterRec p) s
      (fun _ s' => Regular o s'.life ∧ s'.state = .recording ∧ s'.writer = s.writer)
      fun _ _ => False := by
  unfold enterRec setState
  simp only [ensures_bind, ensures_get]
  cases hstart : s.clock.start p.accepted.hostMonotonicNs with
  | none =>
    unfold CanonicalClock.start at hstart
    rw [if_neg (by rw [hclock]; exact Bool.false_ne_true)] at hstart
    exact absurd hstart (by simp)
  | some clock =>
    simp only [ensures_bind, ensures_modify]
    have hgrid := (CanonicalClock.start_onGrid hstart).1
    refine ⟨⟨h.lifecycle, ⟨hbegun, h.isOpen, h.pending, _, hgrid.next⟩, ?_⟩, trivial, trivial⟩
    exact h.trail.entering fun hdone => absurd hdone h.state

/-- The start up to the first slot: where the writer refuses it, nothing has begun or the
    frames were not accepted. -/
theorem openEpisode_life (hanswers : Answers w) (h : Regular o s.life) (hstate : s.state = .arming)
    (p : StartPrerequisites δ ι)
    (hframes : config.retryStartRejections = true →
      (w.logged.call (.begin p config.cameraMaxAgeNs) s.writer).1.isRaised = false →
        FramesAccepted w.logged p (w.logged.call (.begin p config.cameraMaxAgeNs) s.writer).2) :
    Ensures (openEpisode w.logged config p) s
      (fun _ s' => Regular o s'.life ∧ s'.state = .recording ∧
        (Quiet w s.writer.1 → Quiet w s'.writer.1))
      fun e s' => Alive o s'.life ∧ s'.state = .arming ∧ e.caught = true ∧
        (e.isValueError = true → config.retryStartRejections = true → Regular o s'.life) := by
  obtain ⟨halive, -⟩ := h.alive (by show s.state ≠ _; rw [hstate]; simp)
  obtain ⟨hnotBegun, -, -, hclock⟩ := h.arming hstate
  unfold openEpisode
  simp only [ensures_bind]
  refine ensures_ask (fun _ s₁ r₁ hlife₁ hreply₁ hwriter₁ => ?_) fun e s₁ hlife₁ hraised _ => ?_
  · obtain ⟨halive₁, hbegun₁⟩ := halive.begun (r := r₁) hnotBegun hreply₁.2
    rw [← hlife₁] at halive₁ hbegun₁
    have hframes₁ : config.retryStartRejections = true → FramesAccepted w.logged p s₁.writer := by
      intro hretry
      rw [hwriter₁]
      exact hframes hretry (by rw [hreply₁.1]; exact hreply₁.2)
    refine ensures_ask (fun _ s₂ r₂ hlife₂ hreply₂ hwriter₂ => ?_) fun e s₂ hlife₂ hraised _ => ?_
    · obtain ⟨halive₂, hbegun₂⟩ := halive₁.camera (r := r₂) hbegun₁
      rw [← hlife₂] at halive₂ hbegun₂
      refine ensures_ask (fun _ s₃ r₃ hlife₃ _ hwriter₃ => ?_) fun e s₃ hlife₃ hraised _ => ?_
      · obtain ⟨halive₃, hbegun₃⟩ := halive₂.camera (r := r₃) hbegun₂
        rw [← hlife₃] at halive₃ hbegun₃
        have hsame : s₃.life.state = s.life.state ∧ s₃.life.clock = s.life.clock := by
          rw [hlife₃]
          show s₂.life.state = _ ∧ s₂.life.clock = _
          rw [hlife₂]
          show s₁.life.state = _ ∧ s₁.life.clock = _
          rw [hlife₁]
          exact ⟨rfl, rfl⟩
        have hnone : s₃.life.clock.startNs = none := by rw [hsame.2]; exact hclock
        refine (enterRec_life halive₃ hbegun₃ hnone p).mono ?_
          fun _ _ h => h.elim
        rintro - s₄ ⟨hregular, hrecording, hwriter₄⟩
        refine ⟨hregular, hrecording, fun hquiet => ?_⟩
        rw [hwriter₄, hwriter₃, hwriter₂, hwriter₁]
        exact ((hquiet.call rfl).call rfl).call rfl
      · obtain ⟨halive₃, -⟩ := halive₂.camera (r := .raised e) hbegun₂
        rw [← hlife₃] at halive₃
        have hstate₃ : s₃.life.state = .arming := by
          rw [hlife₃]
          show s₂.life.state = _
          rw [hlife₂]
          show s₁.life.state = _
          rw [hlife₁]
          exact hstate
        refine ⟨halive₃, hstate₃, hanswers _ _ e (.inl rfl) hraised, fun hvalue hretry => ?_⟩
        have hwrist := (hframes₁ hretry).2 (by rw [hreply₂.1]; exact hreply₂.2) e
          (by rw [← hwriter₂]; exact hraised)
        rw [hvalue] at hwrist
        exact absurd hwrist (by simp)
    · obtain ⟨halive₂, -⟩ := halive₁.camera (r := .raised e) hbegun₁
      rw [← hlife₂] at halive₂
      have hstate₂ : s₂.life.state = .arming := by
        rw [hlife₂]
        show s₁.life.state = _
        rw [hlife₁]
        exact hstate
      refine ⟨halive₂, hstate₂, hanswers _ _ e (.inl rfl) hraised, fun hvalue hretry => ?_⟩
      have hworkspace := (hframes₁ hretry).1 e hraised
      rw [hvalue] at hworkspace
      exact absurd hworkspace (by simp)
  · have hregular : Regular o s₁.life := by
      rw [hlife₁]
      exact (h.between (c := .begin p config.cameraMaxAgeNs) (r := .raised e) rfl rfl rfl
        (fun h => by cases h)).1
    have hstate₁ : s₁.life.state = .arming := by
      rw [hlife₁]
      exact hstate
    exact ⟨(hregular.alive (by rw [hstate₁]; simp)).1, hstate₁,
      hanswers _ _ e (.inr rfl) hraised, fun _ _ => hregular⟩

theorem ask_kept {w : EpisodeWriter ω δ ι} {s : Collector ω δ ι} {c : WriterCall δ ι}
    (h : (w.call c s.writer).1.isRaised = false) :
    Ensures (ask w c) s
      (fun kept s' => s' = { s with writer := (w.call c s.writer).2 } ∧
        (kept = true ∨ kept = false ∧ (w.call c s.writer).1 = .refused))
      fun _ _ => False := by
  unfold Ensures ask
  rcases hcall : w.call c s.writer with ⟨reply, writer⟩
  rw [hcall] at h
  cases reply with
  | returned => exact ⟨rfl, .inl rfl⟩
  | refused => exact ⟨rfl, .inr ⟨rfl, rfl⟩⟩
  | raised e => exact nomatch h

theorem publishQuality_kept {w : EpisodeWriter ω δ ι} {s : Collector ω δ ι} {quality : Record δ}
    (h : (w.call (.appendRaw "data_quality" quality) s.writer).1.isRaised = false) :
    Ensures (publishQuality w config quality) s
      (fun _ s' => s'.state = s.state ∧ s'.requiredFieldInvalidRun = s.requiredFieldInvalidRun)
      fun _ _ => False := by
  unfold publishQuality
  simp only [ensures_bind, ensures_tryCatch, ensures_pure]
  refine (ask_kept h).mono ?_ fun _ _ h => h.elim
  rintro kept s' ⟨rfl, -⟩
  cases kept with
  | true =>
    rw [if_pos rfl, ensures_pure]
    exact ⟨rfl, rfl⟩
  | false =>
    rw [if_neg Bool.false_ne_true, ensures_modify]
    exact ⟨rfl, rfl⟩

theorem appendCanonical_accepted {w : EpisodeWriter ω δ ι} {s : Collector ω δ ι}
    {frameIndex timestampNs : ℤ} (hstate : s.state = .recording)
    (h : SlotAccepted w config s frameIndex timestampNs) :
    Ensures (appendCanonical w config frameIndex timestampNs) s
      (fun _ s' => s'.state = .recording) fun _ _ => False := by
  unfold SlotAccepted at h
  unfold appendCanonical
  simp only [ensures_bind, ensures_get]
  cases hslot : s.slot frameIndex timestampNs with
  | staleControl => rw [hslot] at h; exact h.elim
  | staleCamera quality => rw [hslot] at h; exact h.elim
  | missingFields fields quality =>
    rw [hslot] at h
    obtain ⟨hrun, hkept⟩ := h
    simp only [ensures_bind, ensures_modify, ensures_get]
    refine (publishQuality_kept (by exact hkept)).mono ?_ fun _ _ h => h.elim
    rintro - s' ⟨hsame, hcount⟩
    rw [if_neg (by rw [hcount]; exact Nat.not_le.mpr hrun), ensures_pure]
    exact hsame.trans hstate
  | sample sample =>
    rw [hslot] at h
    simp only [ensures_bind, ensures_modify, ensures_tryCatch]
    dsimp only at h
    have hraised : (w.call (.appendSample sample) s.writer).1.isRaised = false := by
      rcases hcall : w.call (.appendSample sample) s.writer with ⟨reply, writer⟩
      rw [hcall] at h
      cases reply with
      | returned => rfl
      | refused => rfl
      | raised e => exact h.elim
    refine (ask_kept (by exact hraised)).mono ?_ fun _ _ h => h.elim
    rintro kept s' ⟨rfl, rfl | ⟨rfl, hrefused⟩⟩
    · rw [if_pos rfl, ensures_pure]
      exact hstate
    · rw [if_neg Bool.false_ne_true]
      have hquality : (w.call (.appendRaw "data_quality" (Collector.qualityFromSample sample
          "recorder_queue_full")) (w.call (.appendSample sample) s.writer).2).1.isRaised =
            false := by
        rcases hcall : w.call (.appendSample sample) s.writer with ⟨reply, writer⟩
        have hreply : reply = .refused := by
          have : (w.call (.appendSample sample) s.writer).1 = .refused := hrefused
          rw [hcall] at this
          exact this
        subst hreply
        rw [hcall] at h
        exact h
      refine (publishQuality_kept (by exact hquality)).mono ?_ fun _ _ h => h.elim
      rintro - s' ⟨hsame, -⟩
      exact hsame.trans hstate

/-- **`_start_if_ready`**: behind a start the records can be appended. -/
theorem startIfReady_life (hanswers : Answers w) (h : Regular o s.life)
    (hstate : s.state = .arming) (sample : ControlSample δ)
    (referenceEstablished captureActive : Bool) (rawRecords : List (String × Record δ))
    (hstart : ∀ p, startCandidate config s sample referenceEstablished captureActive = some p →
      StartRegular w.logged config s p rawRecords) :
    Ensures (startIfReady w.logged config sample referenceEstablished captureActive) s
      (fun started s' => Regular o s'.life ∧
        (started = true → rawRecords ≠ [] → ¬Ended s'.life.log) ∧
        (started = false → s'.state ≠ .recording))
      (Raises config o) := by
  unfold startIfReady
  simp only [ensures_bind, ensures_get]
  cases hcandidate :
      startCandidate config s sample referenceEstablished captureActive with
  | none => exact ⟨h, by simp, fun _ => by rw [hstate]; simp⟩
  | some p =>
    have hregular := hstart p hcandidate
    -- the first slot is accepted where the records follow at once
    have hslot : Ensures (openEpisode w.logged config p) s
        (fun _ s' => config.deferFinalization = false → rawRecords ≠ [] →
          SlotAccepted w.logged config s' 0 p.accepted.hostMonotonicNs) fun _ _ => True := by
      have hafter := hregular.slot
      unfold Ensures stateAfter at *
      cases hopened : openEpisode w.logged config p s with
      | ok a s' => rw [hopened] at hafter; exact hafter
      | error e s' => trivial
    unfold start
    simp only [ensures_tryCatch, ensures_bind, ensures_pure]
    refine ((openEpisode_life hanswers h hstate p hregular.frames).and hslot).mono ?_ ?_
    · rintro - s₁ ⟨⟨hregular₁, hstate₁, hopened⟩, hslot₁⟩
      have hquiet : config.deferFinalization = false → Quiet w s₁.writer.1 :=
        fun hdefer => hopened (hregular.quiet hdefer).of_logged
      have hlife := appendCanonical_life hanswers hquiet hregular₁ hstate₁ 0
        p.accepted.hostMonotonicNs
      have hthrough : ∀ e s', RaisesFrom w config o s₁.writer.1 e s' → Ensures
          (if e.caught = false then throw e
          else if e.isValueError = true ∧ config.retryStartRejections = true then do
            modify fun s => { s with
              startRejectionCount := s.startRejectionCount + 1, lastStartRejection := some e.text }
            pure false
          else do
            rejectStart w.logged config e.text
            pure false) s'
          (fun started s' => Regular o s'.life ∧
            (started = true → rawRecords ≠ [] → ¬Ended s'.life.log) ∧
            (started = false → s'.state ≠ .recording))
          (Raises config o) := by
        intro e s' hraises
        rw [if_pos (hraises.quiet (hquiet hraises.notDeferred)), ensures_throw]
        exact hraises.toRaises
      cases hdefer : config.deferFinalization with
      | true =>
        refine hlife.mono ?_ hthrough
        rintro - s₂ ⟨hregular₂, hopen₂⟩
        exact ⟨hregular₂, fun _ _ => hopen₂ hdefer, (by simp)⟩
      | false =>
        by_cases hrecords : rawRecords = []
        · refine hlife.mono ?_ hthrough
          rintro - s₂ ⟨hregular₂, -⟩
          exact ⟨hregular₂, fun _ hne => absurd hrecords hne, (by simp)⟩
        · have haccepted := appendCanonical_accepted hstate₁ (hslot₁ hdefer hrecords)
          refine (hlife.and haccepted).mono ?_ fun e s' hraises => hthrough e s' hraises.1
          rintro - s₂ ⟨⟨hregular₂, -⟩, hstate₂⟩
          refine ⟨hregular₂, fun _ _ => ?_, (by simp)⟩
          exact (hregular₂.recording hstate₂).2.1
    · rintro e s₁ ⟨⟨halive, harming, hcaught, hretry⟩, -⟩
      rw [if_neg (by rw [hcaught]; simp)]
      split
      · rename_i hvalue
        have hregular₁ := hretry hvalue.1 hvalue.2
        simp only [ensures_bind, ensures_modify, ensures_pure]
        exact ⟨hregular₁, by simp, fun _ => by rw [harming]; simp⟩
      · simp only [ensures_bind, ensures_pure]
        refine (rejectStart_life halive e.text).mono ?_ fun _ _ h => h.toRaises
        rintro - s₂ ⟨hregular₂, hdone, -⟩
        exact ⟨hregular₂, by simp, fun _ => by rw [hdone]; simp⟩

/-! ### Control -/

/-- The loop of `_index_control_sources`. -/
theorem indexSources_life (h : Regular o s.life) (sample : ControlSample δ)
    (names : List String) :
    Ensures (indexSources w.logged config sample names) s
      (fun kept s' => Regular o s'.life ∧ (kept = true → s'.life = s.life ∧ s'.writer = s.writer))
      (Raises config o) := by
  have habort : ∀ {s' : Collector (ω × WriterLog δ ι) δ ι} (reason : String),
      Regular o s'.life → Ensures (abort w.logged config reason true none) s'
        (fun _ s' => Ensures (pure false) s'
          (fun kept s' => Regular o s'.life ∧ (kept = true → s'.life = s.life ∧ s'.writer = s.writer))
          (Raises config o)) (Raises config o) :=
    fun reason hregular =>
      (abort_regular hregular reason true none).mono (fun _ _ h => ⟨h, nofun⟩) fun _ _ h => h
  induction names generalizing s with
  | nil => exact ⟨h, fun _ => ⟨rfl, rfl⟩⟩
  | cons name rest ih =>
    unfold indexSources
    split
    · exact ih h habort
    · simp only [ensures_bind, ensures_modify, ensures_get]
      split
      · exact ih (by exact h) habort
      · split
        · simp only [ensures_bind]
          exact habort _ h
        · split
          · simp only [ensures_bind]
            exact habort _ h
          · simp only [ensures_bind, ensures_modify]
            exact ih (by exact h) habort

theorem takeControl_life (h : Regular o s.life) (sample : ControlSample δ) :
    Ensures (takeControl w.logged config sample) s
      (fun taken s' => Regular o s'.life ∧ ∀ x ∈ taken, s'.life = s.life ∧
        s'.writer = s.writer ∧ x.hostMonotonicNs = sample.hostMonotonicNs ∧
        x.armTrigger = sample.armTrigger ∧ x.sourceTimestampsNs = sample.sourceTimestampsNs)
      (Raises config o) := by
  unfold takeControl
  simp only [ensures_bind, ensures_get, ensures_modify]
  refine (indexSources_life (by exact h) _ _).mono ?_ fun _ _ h => h
  rintro kept s₁ ⟨hregular₁, hlife₁⟩
  cases kept with
  | false =>
    rw [if_pos rfl, ensures_pure]
    exact ⟨hregular₁, fun x hx => absurd hx (Option.not_mem_none x)⟩
  | true =>
    rw [if_neg (by simp)]
    simp only [ensures_bind, ensures_get]
    split
    · simp only [ensures_bind, ensures_pure]
      refine (abort_regular hregular₁ _ _ _).mono ?_ fun _ _ h => h
      exact fun _ _ h => ⟨h, fun x hx => absurd hx (Option.not_mem_none x)⟩
    · simp only [ensures_bind, ensures_modify, ensures_pure]
      refine ⟨hregular₁, fun x hx => ?_⟩
      obtain rfl := Option.some.inj hx
      exact ⟨(hlife₁ rfl).1, (hlife₁ rfl).2, rfl, rfl, rfl⟩

/-- The edges of the trigger. -/
theorem trackTrigger_life (h : Regular o s.life) (hostMonotonicNs : ℤ) (pressed : Bool) :
    Ensures (trackTrigger hostMonotonicNs pressed) s
      (fun _ s' => Regular o s'.life ∧ (s'.state = .recording → s'.life = s.life) ∧
        s'.writer = s.writer)
      fun _ _ => False := by
  unfold trackTrigger setState
  simp only [ensures_bind, ensures_get, ensures_modify]
  split
  · rename_i hidle
    simp only [ensures_bind, ensures_modify, ensures_pure]
    have hstate : s.life.state = .idle := hidle.1
    refine ⟨⟨h.lifecycle, ?_, ?_⟩, by simp, trivial⟩
    · have hphase := h.phase
      unfold Life.Phase at hphase
      rw [hstate] at hphase
      exact hphase
    · exact h.trail.entering fun hdone => by rw [hstate] at hdone; exact absurd hdone (by simp)
  · exact ⟨h, fun _ => rfl, rfl⟩

/-- The loop over the source timestamps while recording. -/
theorem checkSources_life (h : Regular o s.life) (timestamps : List (String × Option ℤ)) :
    Ensures (checkSources w.logged config timestamps) s
      (fun kept s' => Regular o s'.life ∧ (kept = true → s'.life = s.life ∧ s'.writer = s.writer))
      (Raises config o) := by
  induction timestamps generalizing s with
  | nil => exact ⟨h, fun _ => ⟨rfl, rfl⟩⟩
  | cons item rest ih =>
    obtain ⟨name, timestamp⟩ := item
    cases timestamp with
    | none => exact ih h
    | some timestampNs =>
      unfold checkSources
      simp only [ensures_bind, ensures_get]
      split
      · simp only [ensures_bind, ensures_pure]
        exact (abort_regular h _ _ _).mono (fun _ _ h => ⟨h, (by simp)⟩) fun _ _ h => h
      · simp only [ensures_bind, ensures_modify]
        exact ih (by exact h)

/-- `_finish_completed`. -/
theorem finishCompleted_life (h : Regular o s.life) (hstate : s.state = .recording)
    (releaseNs : ℤ) :
    Ensures (finishCompleted w.logged config releaseNs) s (fun _ s' => Regular o s'.life)
      (Raises config o) := by
  obtain ⟨halive, -⟩ := h.alive (by show s.state ≠ _; rw [hstate]; nofun)
  obtain ⟨hrejection, hfinish, hdiscard, habort⟩ := Life.pending_zero halive.pending
  have hbegun := h.begun hstate
  unfold finishCompleted setState
  cases hdefer : config.deferFinalization with
  | true =>
    simp only [ensures_bind, ensures_modify, if_true]
    exact (halive.deferred (l := { s.life with finish := true }) ⟨rfl, rfl, rfl⟩
      (by simp [Life.pending, hrejection, hdiscard, habort]) fun _ => hbegun).1
  | false =>
    simp only [ensures_bind, ensures_modify, Bool.false_eq_true, if_false]
    refine (finalizing_life (l := s.life) rfl h.lifecycle
      (h.trail.entering fun hd => absurd hd halive.state) halive.isOpen halive.pending rfl
      fun _ => hbegun).mono (fun _ _ h => h) ?_
    rintro e s' ⟨hescaped, -⟩
    exact ⟨hescaped, hdefer⟩

/-- A slot that is due. -/
theorem appendDue_life (hanswers : Answers w) (h : Regular o s.life)
    (hstate : s.state = .recording) (nowNs : ℤ)
    (hdue : config.deferFinalization = false →
      (∃ index timestampNs clock, s.clock.due nowNs = .frame index timestampNs clock) →
        Quiet w s.writer.1) :
    Ensures (appendDue w.logged config nowNs) s (fun _ s' => Regular o s'.life)
      (Raises config o) := by
  obtain ⟨hbegun, hopen, hpending, next, hnext⟩ := h.recording hstate
  unfold appendDue
  simp only [ensures_bind, ensures_get]
  cases hframe : s.clock.due nowNs with
  | notStarted => exact absurd hframe (CanonicalClock.due_ne_notStarted hnext)
  | waiting => exact h
  | frame index timestampNs clock =>
    simp only [ensures_bind, ensures_modify]
    have hregular : Regular o ({ s with clock } : Collector _ δ ι).life := by
      refine ⟨h.lifecycle, ?_, h.trail⟩
      unfold Life.Phase
      rw [show Life.state _ = _ from hstate]
      exact ⟨hbegun, hopen, hpending, CanonicalClock.due_frame_next hframe⟩
    exact (appendCanonical_life hanswers (by exact fun hdefer => hdue hdefer ⟨_, _, _, hframe⟩)
      hregular hstate index timestampNs).mono (fun _ _ h => h.1) fun _ _ h => h.toRaises

/-- `ingest_control` while recording. -/
theorem recordControl_life (hanswers : Answers w) (h : Regular o s.life)
    (sample : ControlSample δ) (rawRecords : List (String × Record δ)) (releaseEdge : Bool)
    (hdue : config.deferFinalization = false → s.state = .recording →
      (∃ index timestampNs clock,
        s.clock.due sample.hostMonotonicNs = .frame index timestampNs clock) → Quiet w s.writer.1) :
    Ensures (recordControl w.logged config sample rawRecords releaseEdge) s
      (fun _ s' => Regular o s'.life) (Raises config o) := by
  unfold recordControl
  simp only [ensures_bind, ensures_get]
  by_cases hstate : s.state = .recording
  swap
  · rw [if_pos hstate]
    exact h
  rw [if_neg (not_not_intro hstate)]
  simp only [ensures_bind]
  refine (checkSources_life h _).mono ?_ fun _ _ h => h
  rintro kept s₁ ⟨hregular₁, hlife₁⟩
  cases kept with
  | false =>
    rw [if_pos rfl]
    exact hregular₁
  | true =>
    rw [if_neg (by simp)]
    obtain ⟨hlife₁, hwriter₁⟩ := hlife₁ rfl
    have hstate₁ : s₁.state = .recording := (congrArg Life.state hlife₁).trans hstate
    have hclock₁ : s₁.clock = s.clock := congrArg Life.clock hlife₁
    -- what follows the records
    have hrest : ∀ s₂ : Collector (ω × WriterLog δ ι) δ ι, Regular o s₂.life →
        (s₂.state = .done ∧ rawRecords ≠ [] ∨ (Quiet w s.writer.1 → Quiet w s₂.writer.1) ∧
          s₂.state = .recording ∧ s₂.clock = s.clock) →
        Ensures (if rawRecords ≠ [] ∧ s₂.state = .done then pure ()
          else if sample.controllerFault then abort w.logged config "controller_alarm" false none
          else if sample.trackingHardFault then
            abort w.logged config "tracking_hard_fault" false none
          else if sample.controlHeartbeatValid = false then
            abort w.logged config "control_heartbeat_lost" false none
          else if releaseEdge then finishCompleted w.logged config sample.hostMonotonicNs
          else appendDue w.logged config sample.hostMonotonicNs) s₂
          (fun _ s' => Regular o s'.life) (Raises config o) := by
      rintro s₂ hregular₂ (⟨hdone, hrecords⟩ | ⟨hquiet₂, hstate₂, hclock₂⟩)
      · rw [if_pos ⟨hrecords, hdone⟩]
        exact hregular₂
      · rw [if_neg (by rw [hstate₂]; rintro ⟨-, hdone⟩; exact absurd hdone (by simp))]
        split
        · exact abort_regular hregular₂ _ _ _
        split
        · exact abort_regular hregular₂ _ _ _
        split
        · exact abort_regular hregular₂ _ _ _
        split
        · exact finishCompleted_life hregular₂ hstate₂ _
        · refine appendDue_life hanswers hregular₂ hstate₂ _ fun hdefer hframe => ?_
          rw [hclock₂] at hframe
          exact hquiet₂ (hdue hdefer hstate hframe)
    split
    · rename_i hrecords
      simp only [ensures_bind, ensures_get]
      have hopen := (hregular₁.recording hstate₁).2.1
      refine (appendRawRecords_life hanswers hregular₁ hopen rawRecords).mono ?_ fun _ _ h => h
      rintro - s₂ ⟨hregular₂, hdone | ⟨hquiet₂, hstate₂, hclock₂⟩⟩
      · exact hrest s₂ hregular₂ (.inl ⟨hdone, hrecords⟩)
      · exact hrest s₂ hregular₂
          (.inr ⟨hwriter₁ ▸ hquiet₂, hstate₂.trans hstate₁, hclock₂.trans hclock₁⟩)
    · simp only [ensures_bind, ensures_pure, ensures_get]
      exact hrest s₁ hregular₁ (.inr ⟨by rw [hwriter₁]; exact id, hstate₁, hclock₁⟩)

/-- `ingest_control` behind the edges. -/
theorem followTrigger_life (hanswers : Answers w) (h : Regular o s.life)
    (sample : ControlSample δ) (referenceEstablished : Bool)
    (rawRecords : List (String × Record δ)) (pressed releaseEdge : Bool)
    (hdue : config.deferFinalization = false → s.state = .recording →
      (∃ index timestampNs clock,
        s.clock.due sample.hostMonotonicNs = .frame index timestampNs clock) → Quiet w s.writer.1)
    (hstart : s.state = .arming → pressed = true → ∀ p,
      startCandidate config s sample referenceEstablished pressed = some p →
        StartRegular w.logged config s p rawRecords) :
    Ensures (followTrigger w.logged config sample referenceEstablished rawRecords pressed
        releaseEdge) s
      (fun _ s' => Regular o s'.life) (Raises config o) := by
  unfold followTrigger rejectRelease
  simp only [ensures_bind, ensures_get]
  split
  · rename_i hrelease
    refine (rejectStart_life ?_ _).mono (fun _ _ h => h.1) fun _ _ h => h.toRaises
    exact (h.alive (by show s.state ≠ _; rw [hrelease.1]; simp)).1
  split
  · rename_i hpressed
    simp only [ensures_bind]
    refine (startIfReady_life hanswers h hpressed.1 sample referenceEstablished pressed rawRecords
      (hstart hpressed.1 hpressed.2)).mono ?_ fun _ _ h => h
    rintro started s₁ ⟨hregular₁, hopen₁, hstate₁⟩
    split
    · rename_i hnot
      exact recordControl_life hanswers hregular₁ _ _ _ fun _ hrec => absurd hrec (hstate₁ hnot)
    · rename_i hstarted
      split
      · rename_i hrecords
        exact (appendRawRecords_life hanswers hregular₁
          (hopen₁ (Bool.eq_true_of_not_eq_false hstarted) hrecords) _).mono
          (fun _ _ h => h.1) fun _ _ h => h
      · exact hregular₁
  · exact recordControl_life hanswers h _ _ _ hdue

/-! ### The end of an episode -/

/-- Records have been appended to the log. -/
structure Extends (s s' : Collector (ω × WriterLog δ ι) δ ι) : Prop where
  life : s'.life = { s.life with log := s'.life.log }
  lifecycle : Lifecycle s'.life.log
  isOpen : ¬Ended s'.life.log
  begun : Begun s.life.log → Begun s'.life.log

theorem Extends.trans {s s' s'' : Collector (ω × WriterLog δ ι) δ ι} (h : Extends s s')
    (h' : Extends s' s'') : Extends s s'' where
  life := by
    rw [h'.life, h.life]
  lifecycle := h'.lifecycle
  isOpen := h'.isOpen
  begun hbegun := h'.begun (h.begun hbegun)

theorem ask_extends (hanswers : Answers w) (hlifecycle : Lifecycle s.life.log)
    (hopen : ¬Ended s.life.log) {c : WriterCall δ ι} (hc : c.isAppend = true) :
    Ensures (ask w.logged c) s (fun _ s' => Extends s s')
      fun e s' => Extends s s' ∧ e.caught = true := by
  have hextends : ∀ {s' : Collector (ω × WriterLog δ ι) δ ι} {r : Reply},
      s'.life = s.life.logged c r → Extends s s' := by
    intro s' r hlife
    obtain ⟨hbegins, hends, hfinalize⟩ := append_kinds (r := r) hc
    refine ⟨by rw [hlife]; rfl, ?_, ?_, ?_⟩
    · rw [hlife]
      refine hlifecycle.concat (fun hb => ?_) (fun he => ?_) (fun hf => ?_) fun _ => hopen
      · rw [hbegins] at hb; exact nomatch hb
      · rw [hends] at he; exact nomatch he
      · rw [hfinalize] at hf; exact nomatch hf
    · rw [hlife]
      intro hended
      rcases ended_concat.mp hended with hended | hended
      · exact hopen hended
      · rw [hends] at hended; exact nomatch hended
    · intro hbegun
      rw [hlife]
      exact begun_concat.mpr (.inl hbegun)
  exact ensures_ask (fun _ s' r hlife _ _ => hextends hlife)
    fun e s' hlife hraised _ => ⟨hextends hlife, hanswers c s.writer.1 e (.inl hc) hraised⟩

theorem persistQuality_extends (hanswers : Answers w) (hlifecycle : Lifecycle s.life.log)
    (hopen : ¬Ended s.life.log) (quality : Record δ) (retries : ℕ) :
    Ensures (persistQuality w.logged quality retries) s (fun _ s' => Extends s s')
      fun e s' => Extends s s' ∧ e.caught = true := by
  induction retries generalizing s with
  | zero =>
    unfold persistQuality
    simp only [ensures_bind]
    refine (ask_extends hanswers hlifecycle hopen (by rfl)).mono ?_ fun _ _ h => h
    intro kept s' hextends
    cases kept with
    | true => exact hextends
    | false => exact ⟨hextends.life, hextends.lifecycle, hextends.isOpen, hextends.begun⟩
  | succ retries ih =>
    unfold persistQuality
    simp only [ensures_bind]
    refine (ask_extends hanswers hlifecycle hopen (by rfl)).mono ?_ fun _ _ h => h
    intro kept s' hextends
    cases kept with
    | true => exact hextends
    | false =>
      rw [if_neg (by simp)]
      exact (ih hextends.lifecycle hextends.isOpen).mono (fun _ _ h => hextends.trans h)
        fun _ _ h => ⟨hextends.trans h.1, h.2⟩

theorem flushEach_extends (hanswers : Answers w) (hlifecycle : Lifecycle s.life.log)
    (hopen : ¬Ended s.life.log) (retries : ℕ → ℕ) (pending : List (Record δ)) :
    Ensures (flushEach w.logged retries pending) s (fun _ s' => Extends s s')
      fun _ _ => False := by
  induction pending generalizing s with
  | nil => exact ⟨rfl, hlifecycle, hopen, id⟩
  | cons quality rest ih =>
    have hrest : ∀ s' : Collector (ω × WriterLog δ ι) δ ι, Extends s s' →
        Ensures (flushEach w.logged retries rest) s' (fun _ s' => Extends s s')
          fun _ _ => False :=
      fun s' hextends => (ih hextends.lifecycle hextends.isOpen).mono
        (fun _ _ h => hextends.trans h) fun _ _ h => h
    unfold flushEach
    simp only [ensures_bind, ensures_tryCatch]
    refine (persistQuality_extends hanswers hlifecycle hopen quality _).mono
      (fun _ s' hextends => hrest s' hextends) ?_
    rintro e s' ⟨hextends, hcaught⟩
    rw [if_pos hcaught, ensures_modify]
    exact hrest _ ⟨hextends.life, hextends.lifecycle, hextends.isOpen, hextends.begun⟩

theorem flushQualityEvents_extends (hanswers : Answers w) (hlifecycle : Lifecycle s.life.log)
    (hopen : ¬Ended s.life.log) (retries : ℕ → ℕ) :
    Ensures (flushQualityEvents w.logged retries) s (fun _ s' => Extends s s')
      fun _ _ => False := by
  unfold flushQualityEvents
  simp only [ensures_bind, ensures_get, ensures_modify]
  refine (flushEach_extends hanswers (by exact hlifecycle) (by exact hopen) retries _).mono
    ?_ fun _ _ h => h
  exact fun _ s' hextends =>
    ⟨hextends.life, hextends.lifecycle, hextends.isOpen, hextends.begun⟩

end Methods

end HandLab.Episode
