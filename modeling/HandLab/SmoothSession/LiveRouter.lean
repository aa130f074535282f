import HandLab.Quest.ControllerProtocol
import HandLab.Quest.SharedRelease
import HandLab.SmoothSession.Provenance

/-!
# The live router

`LiveQuestControllerRouter` (`src/quest_jaka_sim/live_controller.py`, lines 38–115)
over a `SmoothQuestJakaSession`: datagrams and polls, each of which sets the clutch
samples of the session, and control ticks.

A release or a fault of the controller (`Lost`) that comes between two ticks is to end
the engagement at the second one (`Prompt`).

* `tick_engaged`: when a tick leaves an engaged clutch engaged.
* `losses_prompt`: they are in exactly those runs in which no tick after one finds the
  trigger held again (`HeldAgain`).
* `repressed_lost`: `set_clutch_samples` keeps the last sample only, so a release that is
  pressed again before the tick is not seen.
-/

namespace HandLab.SmoothSession

open HandLab.Lib HandLab.Clutch HandLab.Quest HandLab.TargetGenerator

variable {α δ π ς μ : Type*}

/-! ## The router -/

/-- `LiveQuestControllerRouter`, without its counters. -/
structure LiveQuestControllerRouter (α : Type*) where
  provider : ControllerProvider α
  adapter : ControllerClutchAdapter

/-- After `__init__`. -/
def LiveQuestControllerRouter.init : LiveQuestControllerRouter α := ⟨.init, .init⟩

inductive RouterCall (δ π : Type*)
  | ingest (datagram : ReceivedHtsDatagram)
  | poll (nowNs : ℤ)
  | controlTick (input : TickInput δ π)

/-- An entry of the log. -/
inductive RouterEvent (α δ π : Type*)
  /-- a datagram was routed, which was a release or a fault of the controller or not -/
  | routed (lost : Bool)
  | polled
  /-- a tick: the state of the clutch and the reference generation before and after it -/
  | ticked (before : ArmClutchState) (generation : ℕ) (entry : TickEntry α δ π)
      (after : ArmClutchState)

/-- A router with its session and their log, newest first. -/
structure RouterRun (α δ π ς μ : Type*) where
  router : LiveQuestControllerRouter α
  session : SmoothQuestJakaSession α ς μ
  history : List (RouterEvent α δ π)
  raised : Bool

/-- What is known to the router. -/
structure RouterConfig (α : Type*) [LinearOrder α] where
  provider : ProviderConfig
  releasedAt : α
  session : SessionConfig α
  /-- `_parse_unit_float` -/
  unitFloat : List Char → Option α

namespace RouterRun

/-- A new router with a new session. -/
def init [LinearOrder α] [OrderBot α] (cache : ς) (armMapper : μ) : RouterRun α δ π ς μ :=
  ⟨.init, .init cache armMapper, [], false⟩

variable [LinearOrder α] [OrderBot α] (config : RouterConfig α)

/-- `_publish` (lines 106–115). -/
def publish (r : RouterRun α δ π ς μ) (event : RouterEvent α δ π)
    (outcome : Except ProviderError (ControllerProviderState α) × ControllerProvider α) :
    RouterRun α δ π ς μ :=
  match outcome with
  | (.error _, provider) =>
    { r with
      router := { r.router with provider }
      history := event :: r.history
      raised := true }
  | (.ok state, provider) =>
    let (frame, adapter) := r.router.adapter.samples config.releasedAt state
    { r with
      router := ⟨provider, adapter⟩
      session := r.session.setClutchSamples frame.index frame.controllerValid
      history := event :: r.history }

/-- An accepted valid packet with the index trigger released, a packet that says that
    the controller is not there, or the first packet of another session. -/
def Lost (r : RouterRun α δ π ς μ) (packet : ControllerPacket α) : Bool :=
  !packet.factsValid ||
    (r.router.provider.arrival packet).isAccepted &&
      (decide (packet.indexTrigger ≤ config.releasedAt) ||
        r.router.provider.currentSession.any fun session => decide (packet.sessionId ≠ session))

/-- `ingest` of a `CTRL` datagram (lines 61–77). -/
def ingestController (r : RouterRun α δ π ς μ) (datagram : ReceivedHtsDatagram) :
    RouterRun α δ π ς μ :=
  match parseControllerDatagram config.unitFloat datagram.payload with
  | .error error =>
    if error.isPacketError then
      let provider := (r.router.provider.invalidate "malformed_ctrl").2
      r.publish config (.routed true)
        (provider.snapshot config.provider datagram.receiveMonotonicNs)
    else { r with history := .routed true :: r.history, raised := true }
  | .ok packet =>
    r.publish config (.routed (r.Lost config packet))
      (r.router.provider.update config.provider packet datagram.receiveMonotonicNs)

variable [HtsFloat δ] (mapper : ArmMapper μ π) (assembler : Assembler ς δ π)

/-- One call on a run that has not raised. -/
def call (r : RouterRun α δ π ς μ) : RouterCall δ π → RouterRun α δ π ς μ
  | .ingest datagram =>
    if (ascii "CTRL").isPrefixOf datagram.payload then r.ingestController config datagram
    else
      let (handled, session) := r.session.ingest mapper assembler datagram
      { r with session, history := .routed false :: r.history, raised := !handled }
  | .poll nowNs => r.publish config .polled (r.router.provider.snapshot config.provider nowNs)
  | .controlTick input =>
    match r.session.controlTick config.session mapper assembler input with
    | (none, session) => { r with session, raised := true }
    | (some entry, session) =>
      { r with
        session
        history := .ticked r.session.armClutch.state r.session.referenceGeneration entry
          session.armClutch.state :: r.history
        raised := entry.raises }

/-- One call; a run that has raised is over. -/
def step (r : RouterRun α δ π ς μ) (c : RouterCall δ π) : RouterRun α δ π ς μ :=
  if r.raised then r else r.call config mapper assembler c

end RouterRun

/-! ## What a log says -/

/-- The entry is a tick. -/
def RouterEvent.isTick : RouterEvent α δ π → Bool
  | .ticked _ _ _ _ => true
  | .routed _ => false
  | .polled => false

/-- The entry is a release or a fault. -/
def RouterEvent.isLoss : RouterEvent α δ π → Bool
  | .routed lost => lost
  | .polled => false
  | .ticked _ _ _ _ => false

/-- A release or a fault was routed since the last tick. -/
def LostSinceTick (h : List (RouterEvent α δ π)) : Bool :=
  (since RouterEvent.isTick h).any RouterEvent.isLoss

/-- A tick after a release or a fault publishes no target of the earlier reference, and
    leaves the clutch not engaged if it was. -/
def Prompt : RouterEvent α δ π → List (RouterEvent α δ π) → Prop
  | .ticked before generation entry after, past => LostSinceTick past = true →
    (∀ target ∈ entry.decision.published, target.referenceGeneration ≠ generation) ∧
      (before = .engaged → after ≠ .engaged)
  | .routed _, _ => True
  | .polled, _ => True

/-! ## A tick of an engaged clutch -/

section Engaged

variable [LinearOrder α]

/-- A step leaves an engaged machine engaged exactly if its inputs are valid and the
    sample is no new release. -/
theorem step_engaged {config : ClutchConfig α} {m : ArmClutchMachine α}
    {sample : AnalogClutchSample α} {nowNs : ℤ} {controller continuous capture : Bool}
    (hm : m.state = .engaged) (hp : m.trigger.pressed = some true) :
    (m.step config sample nowNs controller continuous capture).1 = .update ↔
      controller = true ∧ sample.fresh nowNs config.staleAfterNs = true ∧ continuous = true ∧
        (m.trigger.lastSequence = some sample.sequenceNumber ∨
          config.thresholds.releasedAt < sample.value) := by
  unfold ArmClutchMachine.step
  extract_lets fresh observation c
  cases hfresh : fresh with
  | false =>
    have hstale : m.state ≠ .armedWaitingForRelease ∧ m.state ≠ .trackingFault ∧
        false = false := by simp [hm]
    rw [if_pos hstale]
    refine iff_of_false nofun ?_
    rintro ⟨hcontroller, hsample, -⟩
    have htrue : fresh = true := Bool.and_eq_true_iff.mpr ⟨hcontroller, hsample⟩
    rw [hfresh] at htrue
    exact nomatch htrue
  | true =>
    obtain ⟨hcontroller, hsample⟩ := Bool.and_eq_true_iff.mp hfresh
    have hnot : ¬(m.state ≠ .armedWaitingForRelease ∧ m.state ≠ .trackingFault ∧
        true = false) := by simp
    rw [if_neg hnot]
    cases continuous with
    | false =>
      rw [if_pos ⟨hm, rfl⟩]
      exact iff_of_false nofun fun h => nomatch h.2.2.1
    | true =>
      have hvalid : ¬(m.state = .engaged ∧ true = false) := by simp
      rw [if_neg hvalid]
      have hobservation : observation.pressed = some false ↔
          ¬(m.trigger.lastSequence = some sample.sequenceNumber ∨
            config.thresholds.releasedAt < sample.value) := by
        show (Clutch.observe config.thresholds m.trigger sample fresh).1.pressed = _ ↔ _
        rw [hfresh, observe_pressed]
        by_cases hlast : m.trigger.lastSequence = some sample.sequenceNumber
        · rw [observe_duplicate hlast]
          simp [hlast, hp]
        · rw [observe_new hlast]
          show debounce config.thresholds m.trigger.pressed sample.value = some false ↔ _
          by_cases hreleased : sample.value ≤ config.thresholds.releasedAt
          · rw [debounce_of_released hreleased]
            simp [hlast, hreleased]
          · refine iff_of_false (fun h => hreleased ?_) fun h => h (.inr (not_le.mp hreleased))
            exact debounce_eq_false h (by simp [hp])
      rw [hm]
      dsimp only
      by_cases hreleased : observation.pressed = some false
      · rw [if_pos hreleased]
        refine iff_of_false nofun ?_
        rintro ⟨-, -, -, hheld⟩
        exact hobservation.mp hreleased hheld
      · rw [if_neg hreleased]
        refine iff_of_true rfl ⟨hcontroller, hsample, rfl, ?_⟩
        by_contra hheld
        exact hreleased (hobservation.mpr hheld)

namespace SmoothQuestJakaSession

variable (config : SessionConfig α) (mapper : ArmMapper μ π)

/-- The samples of the session, and the state of the hand, hold the trigger. -/
def Held (s : SmoothQuestJakaSession α ς μ) (nowNs : ℤ) (state : CanonicalQuestState π) : Bool :=
  s.leftControllerValid && s.indexSample.fresh nowNs config.clutch.staleAfterNs &&
    state.wristValid &&
    (decide (s.armClutch.trigger.lastSequence = some s.indexSample.sequenceNumber) ||
      decide (config.clutch.thresholds.releasedAt < s.indexSample.value))

/-- The evaluation of the mapped target ends the engagement. -/
def EndsHard (s : SmoothQuestJakaSession α ς μ) (input : TickInput δ π)
    (state : CanonicalQuestState π) : Bool :=
  !input.handRaises && !input.windingRaises &&
    (match state.right.wristPose with
    | none => false
    | some wrist =>
      match mapper.target s.armMapper wrist input.nowNs with
      | .error _ => false
      | .ok _ =>
        match evaluated config input with
        | .error _ => false
        | .ok result => stopsHard result)

variable {config mapper} {s : SmoothQuestJakaSession α ς μ} {input : TickInput δ π}
  {nowNs : ℤ} {state : CanonicalQuestState π}

omit [LinearOrder α] in
theorem endHold_armMapper : s.endHold.armMapper = s.armMapper := by
  unfold endHold
  split_ifs <;> rfl

theorem clutchPhase_engaged (hs : s.Sound config) (he : s.armClutch.state = .engaged) :
    ((s.clutchPhase config mapper nowNs state).1 = .update ↔ s.Held config nowNs state = true) ∧
      ((s.clutchPhase config mapper nowNs state).1 = .update →
        (s.clutchPhase config mapper nowNs state).2.armMapper = s.armMapper) := by
  by_cases hinputs : s.leftControllerValid = true ∧ state.right.trackingValid = true
  · -- nothing is faulted before the step
    obtain ⟨hcontroller, htracking⟩ := hinputs
    obtain ⟨t, ⟨⟨-, -, hindex, hvalid⟩, hclutch, hmapper⟩, hphase⟩ :=
      clutchPhase_eq config mapper s nowNs state
    rw [hphase]
    have hfirst : t.faultController mapper nowNs = t := by
      unfold faultController
      rw [hvalid, hcontroller]
      rfl
    have hsecond : t.faultWrist mapper nowNs state.right.trackingValid = t := by
      unfold faultWrist
      rw [htracking]
      rfl
    rw [hfirst, hsecond]
    unfold stepClutch
    rw [if_pos (hs.enabled he)]
    constructor
    · show (t.armClutch.step config.clutch t.indexSample nowNs t.leftControllerValid _ _).1 =
        .update ↔ _
      rw [hclutch, hindex, hvalid, step_engaged he (hs.held he)]
      unfold Held
      simp only [Bool.and_eq_true, Bool.or_eq_true, decide_eq_true_eq]
      tauto
    · intro _
      show (endHold _).armMapper = s.armMapper
      rw [endHold_armMapper]
      exact hmapper
  · have hnot : (s.clutchPhase config mapper nowNs state).1 ≠ .update := by
      intro hupdate
      have hphase : s.Carries (s.clutchPhase config mapper nowNs state).2 ∧ PhaseSpec config s
          (s.clutchPhase config mapper nowNs state).2 nowNs state
          (s.clutchPhase config mapper nowNs state).1 := clutchPhase_spec hs
      rw [hupdate] at hphase
      obtain ⟨-, -, -, -, hlive⟩ := hphase
      exact hinputs ⟨hlive.controller, (Bool.and_eq_true_iff.mp hlive.wrist).1⟩
    refine ⟨iff_of_false hnot fun hheld => ?_, fun h => absurd h hnot⟩
    unfold Held CanonicalQuestState.wristValid at hheld
    simp only [Bool.and_eq_true] at hheld
    exact hinputs ⟨hheld.1.1.1, hheld.1.2.1⟩

theorem targetTick_engaged (he : s.armClutch.state = .engaged) :
    (s.targetTick config mapper input state).2.armClutch.state = .engaged ↔
      ∀ result, evaluated config input = .ok result → stopsHard result = false := by
  unfold targetTick
  cases hresult : evaluated config input with
  | error error =>
    refine iff_of_true he ?_
    intro result hok
    cases hok
  | ok result =>
    have hall : (∀ other, (Except.ok result : Except String (FeasibilityResult δ)) = .ok other →
        stopsHard other = false) ↔ stopsHard result = false := by
      constructor
      · exact fun h => h result rfl
      · rintro h other ⟨⟩
        exact h
    rw [hall]
    dsimp only
    cases haccepted : result.accepted with
    | true =>
      rw [if_pos rfl]
      have hkept : (s.acceptTick input state result).2.armClutch = s.armClutch := by
        unfold acceptTick
        split <;> rfl
      rw [hkept]
      refine iff_of_true he ?_
      rw [stopsHard, haccepted]
      rfl
    | false =>
      rw [if_neg (by simp)]
      unfold rejectTick
      dsimp only
      cases hstops : stopsHard result with
      | true =>
        rw [if_pos rfl]
        refine iff_of_false ?_ nofun
        have hcause : hardStopRequired result = true ∨
            result.reason = .jointBranchDiscontinuity := by
          simpa [stopsHard, haccepted] using hstops
        by_cases hhard : hardStopRequired result = true
        · rw [if_pos hhard]
          intro hengaged
          exact nomatch (armFault_state _).symm.trans hengaged
        · rw [if_neg hhard, if_pos (hcause.resolve_left hhard)]
          intro hengaged
          exact nomatch (armFault_state _).symm.trans hengaged
      | false =>
        rw [if_neg (by simp)]
        have hbranch : result.reason ≠ .jointBranchDiscontinuity := by
          intro hbranch
          simp [stopsHard, haccepted, hbranch] at hstops
        rw [if_neg hbranch]
        refine iff_of_true ?_ rfl
        split <;> exact he

/-- An update leaves the clutch engaged unless the evaluation ends it. -/
theorem actPhase_engaged (he : s.armClutch.state = .engaged) :
    (s.actPhase config mapper input state .update).2.2.armClutch.state = .engaged ↔
      s.EndsHard config mapper input state = false := by
  unfold actPhase EndsHard
  cases hhand : input.handRaises with
  | true => exact iff_of_true he rfl
  | false =>
    rw [if_neg (by simp)]
    unfold armTarget
    cases hwinding : input.windingRaises with
    | true => exact iff_of_true he rfl
    | false =>
      cases hwrist : state.right.wristPose with
      | none => exact iff_of_true he rfl
      | some wrist =>
        dsimp only
        cases htarget : mapper.target s.armMapper wrist input.nowNs with
        | error error => exact iff_of_true he rfl
        | ok mapped =>
          obtain ⟨desired, armMapper⟩ := mapped
          have hengaged : ({ s with armMapper } : SmoothQuestJakaSession α ς μ).armClutch.state =
              .engaged := he
          dsimp only
          rw [targetTick_engaged hengaged]
          cases evaluated config input with
          | error error =>
            refine iff_of_true ?_ rfl
            intro result hok
            cases hok
          | ok result =>
            constructor
            · exact fun h => h result rfl
            · rintro h other ⟨⟩
              exact h

variable {assembler : Assembler ς δ π} {t : SmoothQuestJakaSession α ς μ}
  {entry : TickEntry α δ π}

variable (config mapper assembler s input) in
/-- The tick finds an engaged trigger held, and its evaluation does not end the
    engagement. -/
def HeldAgain : Bool :=
  match assembler.state s.assembler input.nowNs with
  | .error _ => false
  | .ok raw =>
    decide (s.armClutch.state = .engaged) &&
      s.Held config input.nowNs (raw.interpolate input.interpolated) &&
      !s.EndsHard config mapper input (raw.interpolate input.interpolated)

theorem heldAgain_engaged (h : s.HeldAgain config mapper input assembler = true) :
    s.armClutch.state = .engaged := by
  unfold HeldAgain at h
  split at h
  · exact nomatch h
  · simp only [Bool.and_eq_true, decide_eq_true_eq] at h
    exact h.1.1

/-- A tick that leaves no entry. -/
theorem tick_none (h : s.controlTick config mapper assembler input = (none, t)) :
    t = s ∧ s.HeldAgain config mapper input assembler = false := by
  unfold controlTick at h
  unfold HeldAgain
  cases hstate : assembler.state s.assembler input.nowNs with
  | error error =>
    rw [hstate] at h
    exact ⟨(congrArg Prod.snd h).symm, rfl⟩
  | ok raw =>
    rw [hstate] at h
    exact absurd (congrArg Prod.fst h) nofun

/-- **A tick of an engaged clutch** leaves it engaged exactly if it finds it held again. -/
theorem tick_engaged (hs : s.Sound config) (he : s.armClutch.state = .engaged)
    (h : s.controlTick config mapper assembler input = (some entry, t)) :
    t.armClutch.state = .engaged ↔ s.HeldAgain config mapper input assembler = true := by
  unfold controlTick at h
  unfold HeldAgain
  cases hraw : assembler.state s.assembler input.nowNs with
  | error error =>
    rw [hraw] at h
    exact absurd (congrArg Prod.fst h) nofun
  | ok raw => ?_
  rw [hraw] at h
  dsimp only at h ⊢
  generalize raw.interpolate input.interpolated = state at h ⊢
  have hphase : s.Carries (s.clutchPhase config mapper input.nowNs state).2 ∧ PhaseSpec config s
      (s.clutchPhase config mapper input.nowNs state).2 input.nowNs state
      (s.clutchPhase config mapper input.nowNs state).1 := clutchPhase_spec hs
  have hupdate : ((s.clutchPhase config mapper input.nowNs state).1 = .update ↔
      s.Held config input.nowNs state = true) ∧ (_ → _) := clutchPhase_engaged hs he
  generalize s.clutchPhase config mapper input.nowNs state = r at h hphase hupdate
  obtain ⟨action, stepped⟩ := r
  obtain ⟨hheld, hmapper⟩ := hupdate
  obtain ⟨-, hphase⟩ := hphase
  dsimp only at h hphase hheld hmapper
  rw [decide_eq_true he, Bool.true_and]
  cases action with
  | update =>
    have hstepped : stepped.armClutch.state = .engaged := hphase.2.1
    have hact : (stepped.actPhase config mapper input state .update).2.2.armClutch.state =
        .engaged ↔ stepped.EndsHard config mapper input state = false :=
      actPhase_engaged hstepped
    have hends : stepped.EndsHard config mapper input state =
        s.EndsHard config mapper input state := by
      unfold EndsHard
      rw [hmapper rfl]
    rw [hends] at hact
    rw [show (stepped.actPhase config mapper input state .update).2.2 = t from
      congrArg Prod.snd h] at hact
    rw [hheld.mp rfl, Bool.true_and, Bool.not_eq_true']
    exact hact
  | freeze =>
    have hnot : ¬s.Held config input.nowNs state = true := fun hh => nomatch hheld.mpr hh
    have hacted : stepped.Acted input.nowNs .freeze
        (stepped.actPhase config mapper input state .freeze).1
        (stepped.actPhase config mapper input state .freeze).2.1
        (stepped.actPhase config mapper input state .freeze).2.2 := actPhase_spec nofun nofun
    rw [show (stepped.actPhase config mapper input state .freeze).2.2 = t from
      congrArg Prod.snd h] at hacted
    refine iff_of_false (fun ht => ?_) fun hand => hnot (Bool.and_eq_true_iff.mp hand).1
    obtain ⟨-, hcaptured | hengaged⟩ := hacted.engaged ht
    · exact nomatch hacted.captures hcaptured
    · exact hphase hengaged
  | captureArmReference =>
    obtain ⟨hbefore, -⟩ := hphase
    rw [hbefore] at he
    exact nomatch he
  | startHandReacquisition => exact hphase.elim

/-- After a tick no earlier reference has a target, and the clutch is not engaged if it
    was, unless it was and is. -/
theorem prompt_iff (hspec : s.TickSpec config input entry t) :
    ((∀ target ∈ entry.decision.published,
          target.referenceGeneration ≠ s.referenceGeneration) ∧
        (s.armClutch.state = .engaged → t.armClutch.state ≠ .engaged)) ↔
      ¬(s.armClutch.state = .engaged ∧ t.armClutch.state = .engaged) := by
  constructor
  · rintro ⟨-, hleaves⟩ ⟨hbefore, hafter⟩
    exact hleaves hbefore hafter
  · intro hnot
    refine ⟨fun target htarget hsame => ?_, fun hbefore hafter => hnot ⟨hbefore, hafter⟩⟩
    obtain ⟨-, -, hgeneration, hafter⟩ := hspec.published target htarget
    obtain ⟨-, ⟨hcaptured, -⟩ | ⟨-, hbefore⟩⟩ := hspec.engaged hafter
    · have hcounted := hspec.generation
      rw [hcaptured] at hcounted
      simp only [if_true] at hcounted
      omega
    · exact hnot ⟨hbefore, hafter⟩

omit [LinearOrder α] in
theorem ingest_clutch [HtsFloat δ] (datagram : ReceivedHtsDatagram) :
    (s.ingest mapper assembler datagram).2.armClutch = s.armClutch ∨
      (s.ingest mapper assembler datagram).2.armClutch.state = .trackingFault := by
  unfold ingest ingested
  dsimp only
  split
  · refine .inl ?_
    dsimp only
    unfold noteHand
    split_ifs <;> rfl
  · split_ifs
    · exact .inr (armFault_state _)
    · exact .inl rfl

theorem Sound.of_clutch (hs : s.Sound config)
    (h : t.armClutch = s.armClutch ∨ t.armClutch.state = .trackingFault) : t.Sound config := by
  rcases h with h | h
  · refine ⟨fun he => ?_, fun he => ?_⟩
    · rw [h] at he ⊢
      exact hs.held he
    · rw [h] at he
      exact hs.enabled he
  · exact sound_of_state (by rw [h]; nofun)

end SmoothQuestJakaSession

end Engaged

/-! ## Runs -/

section Runs

variable [LinearOrder α] [OrderBot α] [HtsFloat δ] (config : RouterConfig α)
  (mapper : ArmMapper μ π) (assembler : Assembler ς δ π)

/-- What is asked of the calls: no tick after a release or a fault finds the trigger
    held again. -/
def RouterRun.Seen (r : RouterRun α δ π ς μ) : RouterCall δ π → Prop
  | .controlTick input => r.raised = false → LostSinceTick r.history = true →
    r.session.HeldAgain config.session mapper input assembler = false
  | .ingest _ => True
  | .poll _ => True

variable {config mapper assembler} {r : RouterRun α δ π ς μ}

omit [HtsFloat δ] in
/-- Publishing samples changes neither the clutch nor the promptness of the log. -/
theorem publish_spec {event : RouterEvent α δ π} (hevent : event.isTick = false)
    (outcome : Except ProviderError (ControllerProviderState α) × ControllerProvider α) :
    (r.publish config event outcome).session.armClutch = r.session.armClutch ∧
      (Whenever Prompt (r.publish config event outcome).history ↔ Whenever Prompt r.history) := by
  have hquiet : Whenever Prompt (event :: r.history) ↔ Whenever Prompt r.history := by
    rw [whenever_cons]
    refine and_iff_right ?_
    cases event with
    | ticked _ _ _ _ => exact nomatch hevent
    | routed _ => trivial
    | polled => trivial
  unfold RouterRun.publish
  split
  · exact ⟨rfl, hquiet⟩
  · exact ⟨rfl, hquiet⟩

omit [HtsFloat δ] in
theorem ingestController_spec (datagram : ReceivedHtsDatagram) :
    (r.ingestController config datagram).session.armClutch = r.session.armClutch ∧
      (Whenever Prompt (r.ingestController config datagram).history ↔
        Whenever Prompt r.history) := by
  unfold RouterRun.ingestController
  split
  · split_ifs
    · exact publish_spec rfl _
    · refine ⟨rfl, ?_⟩
      rw [whenever_cons]
      exact and_iff_right trivial
  · exact publish_spec rfl _

/-- **Step lemma.** -/
theorem step_prompt (hr : r.session.Sound config.session) (c : RouterCall δ π) :
    (r.step config mapper assembler c).session.Sound config.session ∧
      (Whenever Prompt (r.step config mapper assembler c).history ↔
        Whenever Prompt r.history ∧ r.Seen config mapper assembler c) := by
  unfold RouterRun.step
  split_ifs with hraised
  · refine ⟨hr, (and_iff_left ?_).symm⟩
    cases c with
    | ingest _ => trivial
    | poll _ => trivial
    | controlTick input =>
      intro hlive
      rw [hraised] at hlive
      exact nomatch hlive
  have hlive : r.raised = false := by simpa using hraised
  cases c with
  | ingest datagram =>
    unfold RouterRun.call
    dsimp only
    split_ifs
    · have hrouted : (r.ingestController config datagram).session.armClutch =
          r.session.armClutch ∧ (_ ↔ _) := ingestController_spec datagram
      obtain ⟨hclutch, hprompt⟩ := hrouted
      exact ⟨hr.of_clutch (.inl hclutch), hprompt.trans (and_iff_left trivial).symm⟩
    · refine ⟨hr.of_clutch (SmoothQuestJakaSession.ingest_clutch datagram), ?_⟩
      show Whenever Prompt (.routed false :: r.history) ↔ _
      rw [whenever_cons, and_iff_right (show Prompt (.routed false) r.history from trivial)]
      exact (and_iff_left trivial).symm
  | poll nowNs =>
    have hpolled : (r.publish config .polled
        (r.router.provider.snapshot config.provider nowNs)).session.armClutch =
          r.session.armClutch ∧ (_ ↔ _) := publish_spec rfl _
    obtain ⟨hclutch, hprompt⟩ := hpolled
    exact ⟨hr.of_clutch (.inl hclutch), hprompt.trans (and_iff_left trivial).symm⟩
  | controlTick input =>
    unfold RouterRun.call RouterRun.Seen
    dsimp only
    generalize htick : r.session.controlTick config.session mapper assembler input = outcome
    obtain ⟨entry, session⟩ := outcome
    cases entry with
    | none =>
      obtain ⟨hsame, hheld⟩ := SmoothQuestJakaSession.tick_none htick
      rw [hsame]
      exact ⟨hr, (and_iff_left fun _ _ => hheld).symm⟩
    | some entry =>
      have hspec := SmoothQuestJakaSession.controlTick_spec hr htick
      refine ⟨hspec.sound, ?_⟩
      dsimp only
      rw [whenever_cons, and_comm]
      refine and_congr_right fun _ => ?_
      show (LostSinceTick r.history = true → _) ↔ _
      rw [SmoothQuestJakaSession.prompt_iff hspec]
      -- engaged before and after is held again
      have hagain : r.session.armClutch.state = .engaged ∧ session.armClutch.state = .engaged ↔
          r.session.HeldAgain config.session mapper input assembler = true := by
        constructor
        · rintro ⟨hbefore, hafter⟩
          exact (SmoothQuestJakaSession.tick_engaged hr hbefore htick).mp hafter
        · intro hheld
          have hbefore := SmoothQuestJakaSession.heldAgain_engaged hheld
          exact ⟨hbefore, (SmoothQuestJakaSession.tick_engaged hr hbefore htick).mpr hheld⟩
      rw [hagain, Bool.not_eq_true]
      exact ⟨fun h _ => h, fun h => h hlive⟩

variable (config mapper assembler) (cache : ς) (armMapper : μ)

theorem run_sound (calls : List (RouterCall δ π)) :
    (run (RouterRun.step config mapper assembler) (.init cache armMapper :
      RouterRun α δ π ς μ) calls).session.Sound config.session := by
  have hinit : (.init cache armMapper : RouterRun α δ π ς μ).session.Sound config.session :=
    SmoothQuestJakaSession.sound_of_state nofun
  exact run_invariant (P := fun r : RouterRun α δ π ς μ => r.session.Sound config.session)
    (fun _ c hr => (step_prompt hr c).1) hinit calls

/-- **Main theorem.** A run ends every engagement at the first tick after a release or a
    fault exactly if no such tick finds the trigger held again. -/
theorem losses_prompt (calls : List (RouterCall δ π)) :
    Whenever Prompt (run (RouterRun.step config mapper assembler) (.init cache armMapper)
        calls).history ↔
      Meets (RouterRun.step config mapper assembler) (RouterRun.Seen config mapper assembler)
        (.init cache armMapper) calls := by
  induction calls using List.reverseRecOn with
  | nil => exact iff_of_true whenever_nil trivial
  | append_singleton calls c ih =>
    rw [run_concat, meets_concat, ← ih]
    exact (step_prompt (run_sound config mapper assembler cache armMapper calls) c).2

end Runs

/-! ## A release that is pressed again -/

instance : (event : RouterEvent α δ π) → (past : List (RouterEvent α δ π)) →
    Decidable (Prompt event past)
  | .ticked _ _ _ _, _ => inferInstanceAs (Decidable (_ → (∀ target ∈ _, _) ∧ (_ → _)))
  | .routed _, _ => isTrue trivial
  | .polled, _ => isTrue trivial

attribute [local instance] exactHtsFloat

/-- The router of the tests. -/
def routerConfig : RouterConfig ℚ≥0 where
  provider := defaultProvider
  releasedAt := 11 / 20
  session := sessionConfig
  unitFloat text := (decimal? text).map Rat.toNNRat

/-- A packet of a valid controller. -/
def ctrlDatagram (sequence index : String) (receiveNs : ℤ) : ReceivedHtsDatagram :=
  ⟨ascii ("CTRL,v=1,session=1,seq=" ++ sequence ++
    ",t_ns=0,connected=1,active=1,tracked=1,index=" ++ index ++ ",grip=0"), "192.168.1.20", 9000,
    receiveNs, receiveNs⟩

/-- The trigger is released and pressed, a tick captures; it is released and pressed
    again before the next tick. -/
def repressedRun : List (RouterCall ℚ Unit) :=
  [.ingest (ctrlDatagram "1" "0" 1000000), .controlTick (acceptingTick 2000000),
    .ingest (ctrlDatagram "2" "0.9" 2500000), .controlTick (acceptingTick 3000000),
    .ingest (ctrlDatagram "3" "0" 3200000), .ingest (ctrlDatagram "4" "0.9" 3400000),
    .controlTick (acceptingTick 4000000)]

/-- The last tick finds the trigger pressed, and publishes a target of the first
    reference. -/
theorem repressed_lost :
    ¬Whenever Prompt (run (RouterRun.step routerConfig latchedMapper timedAssembler)
      (.init (500000, some 500000) false) repressedRun).history := by
  simp only [repressedRun, ctrlDatagram, ascii_append]
  repeat rw [ascii_ofList]
  decide +kernel

end HandLab.SmoothSession
