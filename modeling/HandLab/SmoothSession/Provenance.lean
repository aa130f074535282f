import HandLab.Lib.History
import HandLab.SmoothSession.TickSpec

/-!
# Where the published targets come from

A run of `SmoothQuestJakaSession`: any calls of `ingest`, `set_clutch_samples` and
`control_tick`, until one of them raises, which no caller of the session catches.

* `published_provenance`: the targets are numbered and dated in order, the reference
  generation counts the captures, and every target belongs to a reference that was
  captured with a valid head and held ever since (`Backed`).
-/

namespace HandLab.SmoothSession

open HandLab.Lib HandLab.Clutch HandLab.Quest HandLab.TargetGenerator

variable {α δ π ς μ : Type*}

/-! ## Runs -/

inductive SessionCall (α δ π : Type*)
  | ingest (datagram : ReceivedHtsDatagram)
  | setClutchSamples (index : AnalogClutchSample α) (leftControllerValid : Bool)
  | controlTick (input : TickInput δ π)

/-- An entry of the log. -/
inductive SessionEvent (α δ π : Type*)
  | ingested
  /-- the parser or the assembler rejected a datagram -/
  | rejected
  | samplesSet
  /-- a tick, and the reference generation after it -/
  | ticked (entry : TickEntry α δ π) (generation : ℕ)

/-- A session with its log, newest first, and whether a call has raised. -/
structure SessionRun (α δ π ς μ : Type*) where
  session : SmoothQuestJakaSession α ς μ
  history : List (SessionEvent α δ π)
  raised : Bool

/-- The time of a tick. -/
def SessionCall.time : SessionCall α δ π → Option ℤ
  | .controlTick input => some input.nowNs
  | .ingest _ => none
  | .setClutchSamples _ _ => none

def TickEntry.raises (entry : TickEntry α δ π) : Bool :=
  match entry.decision with
  | .raised => true
  | .silent _ => false
  | .heartbeat _ => false
  | .apply _ => false

namespace SessionRun

/-- A new session. -/
def init [LinearOrder α] [OrderBot α] (assembler : ς) (armMapper : μ) : SessionRun α δ π ς μ :=
  ⟨.init assembler armMapper, [], false⟩

variable [LinearOrder α] [HtsFloat δ] (config : SessionConfig α) (mapper : ArmMapper μ π)
  (assembler : Assembler ς δ π)

/-- One call on a run that has not raised. -/
def call (r : SessionRun α δ π ς μ) : SessionCall α δ π → SessionRun α δ π ς μ
  | .ingest datagram =>
    let (handled, session) := r.session.ingest mapper assembler datagram
    { session
      history := (if r.session.Rejects assembler datagram then .rejected else .ingested) ::
        r.history
      raised := !handled }
  | .setClutchSamples index leftControllerValid =>
    { r with
      session := r.session.setClutchSamples index leftControllerValid
      history := .samplesSet :: r.history }
  | .controlTick input =>
    match r.session.controlTick config mapper assembler input with
    | (none, session) => { r with session, raised := true }
    | (some entry, session) =>
      { session
        history := .ticked entry session.referenceGeneration :: r.history
        raised := entry.raises }

/-- One call; a run that has raised is over. -/
def step (r : SessionRun α δ π ς μ) (c : SessionCall α δ π) : SessionRun α δ π ς μ :=
  if r.raised then r else r.call config mapper assembler c

end SessionRun

/-! ## What a log says -/

/-- The target of an entry. -/
def SessionEvent.published : SessionEvent α δ π → Option (AcceptedArmTarget δ)
  | .ticked entry _ => entry.decision.published
  | .ingested => none
  | .rejected => none
  | .samplesSet => none

/-- The targets passed to `arm_output.apply`, in order. -/
def targets (h : List (SessionEvent α δ π)) : List (AcceptedArmTarget δ) :=
  (h.filterMap SessionEvent.published).reverse

/-- The reference generation of an entry. -/
def SessionEvent.generation? : SessionEvent α δ π → Option ℕ
  | .ticked _ generation => some generation
  | .ingested => none
  | .rejected => none
  | .samplesSet => none

/-- The reference generation after the events. -/
def generationOf (h : List (SessionEvent α δ π)) : ℕ := (latest SessionEvent.generation? h).getD 0

/-- A tick counts the reference that it captures. -/
def CountsCapture : SessionEvent α δ π → List (SessionEvent α δ π) → Prop
  | .ticked entry generation, past =>
    generation = generationOf past + if entry.captured then 1 else 0
  | .ingested, _ => True
  | .rejected, _ => True
  | .samplesSet, _ => True

section Backed

variable [LinearOrder α] (config : SessionConfig α)

/-- The reference of the generation was captured at a tick with a valid head; since
    this tick the clutch was held, its inputs were valid at every tick, and no
    datagram was rejected. -/
def Backed (generation : ℕ) (h : List (SessionEvent α δ π)) : Prop :=
  ∃ recent entry past, h = recent ++ .ticked entry generation :: past ∧
    entry.captured = true ∧ entry.state.headValid = true ∧
    (∀ later g, .ticked later g ∈ recent ++ [.ticked entry generation] →
      later.Live config) ∧
    SessionEvent.rejected ∉ recent

/-- A target carries the generation of its tick, whose reference backs it. -/
def PublishesBacked : SessionEvent α δ π → List (SessionEvent α δ π) → Prop
  | .ticked entry generation, past => ∀ target ∈ entry.decision.published,
    target.referenceGeneration = generation ∧
      Backed config generation (.ticked entry generation :: past)
  | .ingested, _ => True
  | .rejected, _ => True
  | .samplesSet, _ => True

variable {config} {generation : ℕ} {h : List (SessionEvent α δ π)}

theorem Backed.cons (hb : Backed config generation h) {event : SessionEvent α δ π}
    (hevent : event = .ingested ∨ event = .samplesSet) :
    Backed config generation (event :: h) := by
  obtain ⟨recent, entry, past, rfl, hcaptured, hhead, hlive, hclean⟩ := hb
  refine ⟨event :: recent, entry, past, rfl, hcaptured, hhead, ?_, ?_⟩
  · intro later g hmem
    rcases List.mem_cons.mp hmem with heq | hmem
    · rcases hevent with rfl | rfl <;> exact absurd heq nofun
    · exact hlive later g hmem
  · rw [List.mem_cons, not_or]
    refine ⟨?_, hclean⟩
    rcases hevent with rfl | rfl <;> nofun

theorem Backed.ticked (hb : Backed config generation h) {entry : TickEntry α δ π} {g : ℕ}
    (hlive : entry.Live config) :
    Backed config generation (.ticked entry g :: h) := by
  obtain ⟨recent, first, past, rfl, hcaptured, hhead, hall, hclean⟩ := hb
  refine ⟨.ticked entry g :: recent, first, past, rfl, hcaptured, hhead, ?_, ?_⟩
  · intro later g' hmem
    rcases List.mem_cons.mp hmem with heq | hmem
    · cases heq
      exact hlive
    · exact hall later g' hmem
  · rw [List.mem_cons, not_or]
    exact ⟨nofun, hclean⟩

theorem backed_capture {entry : TickEntry α δ π}
    (hlive : entry.Live config) (hcaptured : entry.captured = true)
    (hhead : entry.state.headValid = true) :
    Backed config generation (.ticked entry generation :: h) := by
  refine ⟨[], entry, h, rfl, hcaptured, hhead, ?_, nofun⟩
  intro later g hmem
  cases List.mem_singleton.mp hmem
  exact hlive

end Backed

theorem targets_cons (event : SessionEvent α δ π) (h : List (SessionEvent α δ π)) :
    targets (event :: h) = targets h ++ event.published.toList := by
  unfold targets
  cases hp : event.published with
  | none => simp [hp]
  | some target => simp [hp]

/-! ## The invariant -/

section Invariant

variable [LinearOrder α] {config : SessionConfig α}

/-- What every call keeps. -/
structure SessionRun.Proven (config : SessionConfig α) (r : SessionRun α δ π ς μ) : Prop where
  sound : r.session.Sound config
  generation : generationOf r.history = r.session.referenceGeneration
  counted : r.raised = true ∨ (targets r.history).length = r.session.acceptedSequence
  numbered : (targets r.history).map AcceptedArmTarget.sequenceNumber =
    List.range' 1 (targets r.history).length
  engaged : r.raised = false → r.session.armClutch.state = .engaged →
    Backed config r.session.referenceGeneration r.history
  captures : Whenever CountsCapture r.history
  backed : Whenever (PublishesBacked config) r.history

theorem proven_init [OrderBot α] (assembler : ς) (armMapper : μ) :
    (SessionRun.init assembler armMapper : SessionRun α δ π ς μ).Proven config where
  sound := SmoothQuestJakaSession.sound_of_state nofun
  generation := rfl
  counted := .inr rfl
  numbered := rfl
  engaged _ := nofun
  captures := whenever_nil
  backed := whenever_nil

namespace SessionRun.Proven

variable {r : SessionRun α δ π ς μ}

variable {session : SmoothQuestJakaSession α ς μ}

/-- A call that is no tick. -/
theorem quiet (hr : r.Proven config) (hlive : r.raised = false)
    {event : SessionEvent α δ π} {raised : Bool}
    (hnone : event.published = none ∧ event.generation? = none)
    (hcarried : session.referenceGeneration = r.session.referenceGeneration ∧
      session.acceptedSequence = r.session.acceptedSequence)
    (hclutch : session.armClutch = r.session.armClutch ∨
      session.armClutch.state = .trackingFault)
    (hevent : raised = false → session.armClutch.state = .engaged →
      event = .ingested ∨ event = .samplesSet) :
    (SessionRun.mk session (event :: r.history) raised).Proven config := by
  have htargets : targets (event :: r.history) = targets r.history := by
    rw [targets_cons, hnone.1]
    exact List.append_nil _
  have hsame (he : session.armClutch.state = .engaged) :
      session.armClutch = r.session.armClutch := hclutch.resolve_right (by rw [he]; nofun)
  refine ⟨⟨?_, ?_⟩, ?_, ?_, ?_, ?_, ?_, ?_⟩
  · intro he
    show session.armClutch.trigger.pressed = some true
    have hclutch := hsame he
    rw [hclutch]
    exact hr.sound.held (hclutch ▸ he)
  · intro he
    have hclutch := hsame he
    exact hr.sound.enabled (hclutch ▸ he)
  · show generationOf (event :: r.history) = session.referenceGeneration
    rw [hcarried.1, ← hr.generation]
    unfold generationOf
    rw [latest_cons_of_none hnone.2]
  · refine .inr ?_
    show (targets (event :: r.history)).length = session.acceptedSequence
    rw [htargets, hcarried.2]
    exact hr.counted.resolve_left (by rw [hlive]; nofun)
  · show (targets (event :: r.history)).map _ = List.range' 1 (targets (event :: r.history)).length
    rw [htargets]
    exact hr.numbered
  · intro hgoes he
    show Backed config session.referenceGeneration (event :: r.history)
    have hclutch := hsame he
    rw [hcarried.1]
    exact (hr.engaged hlive (hclutch ▸ he)).cons (hevent hgoes he)
  · refine whenever_cons.mpr ⟨?_, hr.captures⟩
    cases event with
    | ticked entry generation => exact absurd hnone.2 nofun
    | ingested => trivial
    | rejected => trivial
    | samplesSet => trivial
  · refine whenever_cons.mpr ⟨?_, hr.backed⟩
    cases event with
    | ticked entry generation => exact absurd hnone.2 nofun
    | ingested => trivial
    | rejected => trivial
    | samplesSet => trivial

variable {mapper : ArmMapper μ π} {assembler : Assembler ς δ π}

theorem ticked (hr : r.Proven config) (hlive : r.raised = false) {input : TickInput δ π}
    {entry : TickEntry α δ π}
    (hspec : r.session.TickSpec config input entry session) :
    (SessionRun.mk session (.ticked entry session.referenceGeneration :: r.history)
      entry.raises).Proven config := by
  have hcounted : (targets r.history).length = r.session.acceptedSequence :=
    hr.counted.resolve_left (by rw [hlive]; nofun)
  -- an engaged clutch is backed, by this tick or by an earlier one
  have hbacked (he : session.armClutch.state = .engaged) :
      Backed config session.referenceGeneration
        (.ticked entry session.referenceGeneration :: r.history) := by
    obtain ⟨hentry, ⟨hcaptured, hhead⟩ | ⟨hcaptured, hbefore⟩⟩ := hspec.engaged he
    · exact backed_capture hentry hcaptured hhead
    · have hsame : session.referenceGeneration = r.session.referenceGeneration := by
        rw [hspec.generation, hcaptured]
        rfl
      have hearlier := hr.engaged hlive hbefore
      rw [← hsame] at hearlier
      exact hearlier.ticked hentry
  have htargets : targets (.ticked entry session.referenceGeneration :: r.history) =
      targets r.history ++ entry.decision.published.toList := targets_cons _ _
  refine ⟨hspec.sound, ?_, ?_, ?_, fun _ => hbacked, ?_, ?_⟩
  · rfl
  · show entry.raises = true ∨ (targets (.ticked entry session.referenceGeneration ::
      r.history)).length = session.acceptedSequence
    rcases hspec.sequence with hraised | hsequence
    · refine .inl ?_
      rw [TickEntry.raises, hraised]
    · refine .inr ?_
      rw [htargets, List.length_append, hcounted, hsequence]
      cases entry.decision.published <;> rfl
  · show (targets (.ticked entry session.referenceGeneration :: r.history)).map _ = List.range' 1
      (targets (.ticked entry session.referenceGeneration :: r.history)).length
    rw [htargets, List.map_append, List.length_append, hr.numbered]
    cases hpublished : entry.decision.published with
    | none => simp
    | some target =>
      obtain ⟨hnumber, -⟩ := hspec.published target hpublished
      simp [hnumber, hcounted, List.range'_1_concat, Nat.add_comm]
  · refine whenever_cons.mpr ⟨?_, hr.captures⟩
    show session.referenceGeneration = generationOf r.history + _
    rw [hr.generation, hspec.generation]
  · refine whenever_cons.mpr ⟨?_, hr.backed⟩
    intro target htarget
    obtain ⟨-, -, hgeneration, he⟩ := hspec.published target htarget
    exact ⟨hgeneration, hbacked he⟩

/-- A run that stops. -/
theorem stopped (hr : r.Proven config) : ({ r with raised := true }).Proven config where
  sound := hr.sound
  generation := hr.generation
  counted := .inl rfl
  numbered := hr.numbered
  engaged := nofun
  captures := hr.captures
  backed := hr.backed

theorem ingest [HtsFloat δ] (hr : r.Proven config) (hlive : r.raised = false)
    (datagram : ReceivedHtsDatagram) :
    (r.call config mapper assembler (.ingest datagram)).Proven config := by
  unfold SessionRun.call SmoothQuestJakaSession.ingest SmoothQuestJakaSession.Rejects
  dsimp only
  generalize SmoothQuestJakaSession.assemble assembler r.session.assembler datagram = outcome
  obtain ⟨outcome, cache⟩ := outcome
  unfold SmoothQuestJakaSession.ingested
  cases outcome with
  | ok state =>
    simp only [Bool.false_eq_true, if_false]
    unfold SmoothQuestJakaSession.noteHand
    split_ifs <;>
      exact hr.quiet hlive ⟨rfl, rfl⟩ ⟨rfl, rfl⟩ (.inl rfl) fun _ _ => .inl rfl
  | error error =>
    simp only [if_true]
    split_ifs
    · refine hr.quiet hlive ⟨rfl, rfl⟩ ⟨rfl, rfl⟩ (.inr (armFault_state _)) fun _ he => ?_
      have hfault : ArmClutchState.trackingFault = .engaged := (armFault_state _).symm.trans he
      exact nomatch hfault
    · exact hr.quiet hlive ⟨rfl, rfl⟩ ⟨rfl, rfl⟩ (.inl rfl) nofun

/-- **Step lemma.** -/
theorem step [HtsFloat δ] (hr : r.Proven config) (c : SessionCall α δ π) :
    (r.step config mapper assembler c).Proven config := by
  unfold SessionRun.step
  split_ifs with hraised
  · exact hr
  have hlive : r.raised = false := by simpa using hraised
  cases c with
  | ingest datagram => exact hr.ingest hlive datagram
  | setClutchSamples index leftControllerValid =>
    exact hr.quiet hlive ⟨rfl, rfl⟩ ⟨rfl, rfl⟩ (.inl rfl) fun _ _ => .inr rfl
  | controlTick input =>
    unfold SessionRun.call
    dsimp only
    generalize htick : r.session.controlTick config mapper assembler input = outcome
    obtain ⟨entry, session⟩ := outcome
    cases entry with
    | some entry => exact hr.ticked hlive (SmoothQuestJakaSession.controlTick_spec hr.sound htick)
    | none =>
      have hsame : session = r.session := by
        unfold SmoothQuestJakaSession.controlTick at htick
        split at htick
        · exact (congrArg Prod.snd htick).symm
        · exact absurd (congrArg Prod.fst htick) nofun
      rw [hsame]
      exact hr.stopped

end SessionRun.Proven

variable [HtsFloat δ] (mapper : ArmMapper μ π) (assembler : Assembler ς δ π)

theorem step_dated {r : SessionRun α δ π ς μ} (hr : r.Proven config) (c : SessionCall α δ π) :
    ∃ dates : List ℤ, dates.Sublist c.time.toList ∧
      (targets (r.step config mapper assembler c).history).map
          AcceptedArmTarget.generatedMonotonicNs =
        (targets r.history).map AcceptedArmTarget.generatedMonotonicNs ++ dates := by
  have hkept : ∃ dates : List ℤ, dates.Sublist c.time.toList ∧
      (targets r.history).map AcceptedArmTarget.generatedMonotonicNs =
        (targets r.history).map AcceptedArmTarget.generatedMonotonicNs ++ dates :=
    ⟨[], List.nil_sublist _, (List.append_nil _).symm⟩
  unfold SessionRun.step
  split_ifs
  · exact hkept
  cases c with
  | ingest datagram =>
    have htargets : targets (r.call config mapper assembler (.ingest datagram)).history =
        targets r.history := by
      show targets ((if _ then SessionEvent.rejected else .ingested) :: r.history) = _
      rw [targets_cons]
      split <;> exact List.append_nil _
    rw [htargets]
    exact hkept
  | setClutchSamples index leftControllerValid =>
    have htargets : targets (r.call config mapper assembler
        (.setClutchSamples index leftControllerValid)).history = targets r.history :=
      (targets_cons _ _).trans (List.append_nil _)
    rw [htargets]
    exact hkept
  | controlTick input =>
    unfold SessionRun.call
    dsimp only
    generalize htick : r.session.controlTick config mapper assembler input = outcome
    obtain ⟨entry, session⟩ := outcome
    cases entry with
    | none => exact hkept
    | some entry =>
      have hspec := SmoothQuestJakaSession.controlTick_spec hr.sound htick
      dsimp only
      rw [targets_cons, List.map_append]
      refine ⟨entry.decision.published.toList.map AcceptedArmTarget.generatedMonotonicNs, ?_, rfl⟩
      cases hpublished : entry.decision.published with
      | none => exact List.nil_sublist _
      | some target =>
        obtain ⟨-, hdate, -, -⟩ := hspec.published target hpublished
        simp [hdate, SessionCall.time]

variable [OrderBot α] (cache : ς) (armMapper : μ)

theorem run_proven (calls : List (SessionCall α δ π)) :
    (run (SessionRun.step config mapper assembler) (.init cache armMapper) calls).Proven config :=
  run_invariant (P := fun r : SessionRun α δ π ς μ => r.Proven config)
    (fun _ c hr => hr.step c) (proven_init cache armMapper) calls

theorem run_dated (calls : List (SessionCall α δ π)) :
    ((targets (run (SessionRun.step config mapper assembler) (.init cache armMapper)
      calls).history).map AcceptedArmTarget.generatedMonotonicNs).Sublist
        (calls.filterMap SessionCall.time) := by
  induction calls using List.reverseRecOn with
  | nil => exact List.nil_sublist _
  | append_singleton calls c ih =>
    obtain ⟨dates, hdates, heq⟩ := step_dated mapper assembler
      (run_proven mapper assembler cache armMapper calls) c
    rw [run_concat, heq, List.filterMap_append]
    refine ih.append ?_
    cases htime : c.time <;> simpa [htime] using hdates

variable (config) in
/-- **Main theorem.** In every run whose ticks are at increasing times, the published
    targets are numbered from one and dated in order, the reference generation counts
    the ticks that captured a reference, and every target is backed by its reference. -/
theorem published_provenance {calls : List (SessionCall α δ π)}
    (htimes : (calls.filterMap SessionCall.time).Pairwise (· < ·)) :
    let r := run (SessionRun.step config mapper assembler) (.init cache armMapper) calls
    (targets r.history).map AcceptedArmTarget.sequenceNumber =
        List.range' 1 (targets r.history).length ∧
      ((targets r.history).map AcceptedArmTarget.generatedMonotonicNs).Pairwise (· < ·) ∧
      generationOf r.history = r.session.referenceGeneration ∧
      Whenever CountsCapture r.history ∧
      Whenever (PublishesBacked config) r.history := by
  intro r
  have hr : r.Proven config := run_proven mapper assembler cache armMapper calls
  have hdated : ((targets r.history).map AcceptedArmTarget.generatedMonotonicNs).Pairwise
      (· < ·) := htimes.sublist (run_dated mapper assembler cache armMapper calls)
  exact ⟨hr.numbered, hdated, hr.generation, hr.captures, hr.backed⟩

end Invariant

/-! ## A run -/

attribute [local instance] exactHtsFloat

/-- An assembler of which only the receive times of the right hand and of the head
    count. -/
def timedAssembler : Assembler (ℤ × Option ℤ) ℚ Unit where
  observe cache packets receiveNs :=
    let cache := if packets.any fun packet => packet.side?.isNone then
      (cache.1, some receiveNs) else cache
    (.ok ⟨cache.2.map fun _ => ⟨true, ()⟩, ⟨true, some cache.1, none, none, some 0, some (), 21⟩⟩,
      cache)
  state cache nowNs :=
    let fresh (receiveNs : ℤ) : Bool := decide (nowNs - receiveNs ≤ 250000000)
    .ok ⟨(cache.2.filter fresh).map fun _ => ⟨true, ()⟩,
      if fresh cache.1 then ⟨true, some cache.1, none, none, some 0, some (), 21⟩
      else ⟨false, some cache.1, none, none, some 0, none, 0⟩⟩

/-- A mapper that says whether it has a reference. -/
def latchedMapper : ArmMapper Bool Unit where
  clear _ := false
  capture _ _ _ _ _ := .ok ((), true)
  target captured _ _ :=
    if captured then .ok ((), true) else .error "arm references have not been captured"

theorem released_lt_pressed : (11 / 20 : ℚ≥0) < 3 / 4 := by decide +kernel

/-- The configuration of the tests: no continuation. -/
def sessionConfig : SessionConfig ℚ≥0 where
  clutch := ⟨150000000, ⟨3 / 4, 11 / 20, released_lt_pressed⟩⟩
  armInputEnabled := true
  inputRecoveryTimeoutNs := 0
  continuationEnabled := false
  maximumContinuationBacktracks := 1
  minimumContinuationFraction := 1 / 32

/-- A tick whose evaluation accepts. -/
def acceptingTick (nowNs : ℤ) : TickInput ℚ Unit where
  nowNs
  interpolated := none
  handRaises := false
  captureReference := .ok ()
  windingRaises := false
  boundedFraction := 1
  evaluate _ := .ok ⟨true, .accepted, some fun _ => 0, none⟩
  encodeRaises := false

/-- A trigger at a value. -/
def triggerAt (value : ℚ≥0) (receiveNs sequence : ℕ) : AnalogClutchSample ℚ≥0 :=
  ⟨value, receiveNs, sequence, true, none⟩

/-- A head pose, a release, a press that captures, and one more tick of the press. -/
def engagedRun : List (SessionCall ℚ≥0 ℚ Unit) :=
  [.ingest identityHeadPose, .setClutchSamples (triggerAt 0 1000000 1) true,
    .controlTick (acceptingTick 2000000), .setClutchSamples (triggerAt (9 / 10) 2500000 2) true,
    .controlTick (acceptingTick 3000000), .setClutchSamples (triggerAt (8 / 10) 3500000 3) true,
    .controlTick (acceptingTick 4000000)]

theorem published_provenance_engaged :
    let r := run (SessionRun.step sessionConfig latchedMapper timedAssembler)
      (.init (500000, none) false) engagedRun
    (targets r.history).map AcceptedArmTarget.sequenceNumber = [1, 2] ∧
      Whenever (PublishesBacked sessionConfig) r.history := by
  intro r
  have htimes : (engagedRun.filterMap SessionCall.time).Pairwise (· < ·) := by decide +kernel
  have hprovenance := published_provenance sessionConfig latchedMapper timedAssembler
    (500000, none) false htimes
  have hlength : (targets r.history).length = 2 := by decide +kernel
  obtain ⟨hnumbered, -, -, -, hbacked⟩ := hprovenance
  refine ⟨?_, hbacked⟩
  exact hnumbered.trans (by rw [hlength]; rfl)

end HandLab.SmoothSession
