import HandLab.Clutch.Protocol
import HandLab.Quest.SharedRelease

/-!
# Hold to run over the Quest

The Quest input with the arm's clutch: a poll publishes its frame, and a step
of the clutch takes the index sample of the frame published last.

* `released_freezes`: a step whose packet has the index trigger released does
  not return `UPDATE`, in every run in which no such packet repeats the number
  of a packet of another session while the arm is engaged (`NumbersApart`).
* `repeated_number`: the clutch takes such a packet for a duplicate.
-/

namespace HandLab.Quest

open HandLab.Lib HandLab.Clutch ControllerClutchAdapter

variable {α : Type*}

/-! ## The machine -/

/-- A frame with the packet of its snapshot. -/
structure Published (α : Type*) where
  latest : Option (Accepted α)
  frame : ControllerClutchFrame α

/-- A step of the clutch, newest first in the log: the packet of its snapshot,
    whether its sample was fresh, and what it returned. -/
structure ArmEntry (α : Type*) where
  latest : Option (Accepted α)
  fresh : Bool
  action : ClutchAction
  deriving DecidableEq

/-- The Quest input, the arm's clutch and what passes between them. -/
structure QuestArm (α : Type*) where
  input : QuestInput α
  arm : ArmClutchMachine α
  published : Option (Published α)
  history : List (ArmEntry α)

inductive QuestArmCall (α : Type*)
  | input (call : QuestCall α)
  | step (nowNs : ℤ) (continuousInputsValid captureInputsValid : Bool)
  | referenceCaptured (nowNs : ℤ)
  | fault (nowNs : ℤ) (reason : String)

namespace QuestArm

/-- Nothing has been published. -/
def init : QuestArm α := ⟨.init, .init, none, []⟩

variable [LinearOrder α] (clutch : ClutchConfig α)

/-- The freshness that a step of the clutch finds. -/
def fresh (p : Published α) (nowNs : ℤ) : Bool :=
  p.frame.controllerValid && p.frame.index.fresh nowNs clutch.staleAfterNs

/-- `arm_clutch.step(frame.index, …)`. -/
def step (s : QuestArm α) (p : Published α) (nowNs : ℤ)
    (continuousInputsValid captureInputsValid : Bool) : QuestArm α :=
  let (action, arm) := s.arm.step clutch p.frame.index nowNs p.frame.controllerValid
    continuousInputsValid captureInputsValid
  { s with arm, history := ⟨p.latest, fresh clutch p nowNs, action⟩ :: s.history }

variable [OrderBot α] (config : ProviderConfig) (s : QuestArm α)

/-- What is published after a call. -/
def publish : QuestCall α → Option (Published α)
  | .poll nowNs =>
    match s.input.poll config clutch.thresholds.releasedAt nowNs with
    | (.ok frame, input) => some ⟨input.provider.latest, frame⟩
    | (.error _, _) => s.published
  | .update _ _ => s.published
  | .invalidate _ => s.published

/-- The state after a call. -/
def apply : QuestArmCall α → QuestArm α
  | .input call =>
    { s with
      input := s.input.apply config clutch.thresholds.releasedAt call
      published := s.publish clutch config call }
  | .step nowNs continuousInputsValid captureInputsValid =>
    match s.published with
    | none => s
    | some p => s.step clutch p nowNs continuousInputsValid captureInputsValid
  | .referenceCaptured nowNs => { s with arm := (s.arm.referenceCaptured nowNs).2 }
  | .fault nowNs reason => { s with arm := s.arm.fault nowNs reason }

end QuestArm

/-! ## The clutch -/

open ClutchState (phase)

section Clutch

variable {σ : Type*} [LinearOrder α] {τ : Thresholds α}

/-- The clutch is engaged or about to be. -/
def IsEngaging [ClutchState σ] (state : σ) : Prop :=
  phase state = .capturing ∨ phase state = .engaged

instance [ClutchState σ] (state : σ) : Decidable (IsEngaging state) :=
  inferInstanceAs (Decidable (_ ∨ _))

/-- The trigger holds the number of the sample, and knows if it is a release. -/
def Knows (τ : Thresholds α) (trigger : AnalogHoldToRun) (sequenceNumber : ℕ) (value : α) : Prop :=
  trigger.lastSequence = some sequenceNumber ∧
    (value ≤ τ.releasedAt → trigger.pressed = some false)

theorem observe_knows {trigger : AnalogHoldToRun} {sample : AnalogClutchSample α}
    (h : trigger.lastSequence = some sample.sequenceNumber → sample.value ≤ τ.releasedAt →
      trigger.pressed = some false) :
    Knows τ (observe τ trigger sample true).2 sample.sequenceNumber sample.value := by
  by_cases hlast : trigger.lastSequence = some sample.sequenceNumber
  · rw [observe_duplicate hlast]
    exact ⟨hlast, h hlast⟩
  · rw [observe_new hlast]
    exact ⟨rfl, debounce_of_released⟩

variable [DecidableEq σ] [ClutchState σ] {c c' : ClutchMachine σ α}

/-- **Step lemma.** A step that knows its sample, if it is a release with the last
    number, knows it afterwards and does not update on a release. -/
theorem move_knows {sample : AnalogClutchSample α} {fresh : Bool}
    (hmove : ClutchMove τ c (some (sample, fresh)) c')
    (hdup : IsEngaging c.state → fresh = true →
      c.trigger.lastSequence = some sample.sequenceNumber → sample.value ≤ τ.releasedAt →
      c.trigger.pressed = some false) :
    (IsEngaging c'.state → fresh = true ∧
        Knows τ c'.trigger sample.sequenceNumber sample.value) ∧
      (c'.history.head? = some (.returned .update) → ¬sample.value ≤ τ.releasedAt) := by
  have hidle {state : σ} (hs : phase state = .disengaged ∨ phase state = .fault) :
      ¬IsEngaging state := by
    rintro (h | h) <;> rcases hs with hs | hs <;> exact absurd (hs.symm.trans h) nofun
  cases hmove with
  | stepFaulted sample fresh channel nowNs reason =>
    refine ⟨fun h => absurd h (hidle (.inr ?_)), nofun⟩
    show phase (ClutchMachine.transition _ _ _ _).state = .fault
    rw [ClutchMachine.transition_state]
    exact (ClutchState.phase_eq_fault _).mpr rfl
  | rested sample fresh hc hf hr =>
    refine ⟨fun h => ?_, nofun⟩
    have hcapturing : phase c.state = .capturing := h.resolve_right hc
    obtain rfl : fresh = true := hf (by simp [hcapturing]) (by simp [hcapturing])
    exact ⟨rfl, observe_knows (hdup h rfl)⟩
  | released sample nowNs reason hc hp hs =>
    refine ⟨fun h => absurd h (hidle (.inl ?_)), nofun⟩
    show phase (ClutchMachine.transition _ _ _ _).state = .disengaged
    rw [ClutchMachine.transition_state]
    exact hs
  | recovered sample nowNs reason hc ha hlt hp hs =>
    refine ⟨fun h => absurd h (hidle (.inl ?_)), nofun⟩
    show phase (ClutchMachine.transition _ _ _ _).state = .disengaged
    rw [ClutchMachine.transition_state]
    exact hs
  | pressed sample nowNs reason hc hr hs ha =>
    rename_i state action
    refine ⟨fun _ => ⟨rfl, ?_⟩, fun h => ?_⟩
    · show Knows τ (ClutchMachine.transition _ _ _ _).trigger _ _
      rw [ClutchMachine.transition_trigger]
      exact observe_knows fun hlast => absurd hlast (rising_edge hr).2.1
    · have haction : action = .update := by simpa [ClutchMachine.record] using h
      rcases ha with rfl | rfl <;> exact absurd haction nofun
  | updated sample nowNs reason hc hp hs =>
    have hknows : Knows τ (observe τ c.trigger sample true).2 sample.sequenceNumber sample.value :=
      observe_knows (hdup (.inr hc) rfl)
    refine ⟨fun _ => ⟨rfl, ?_⟩, fun _ hvalue => ?_⟩
    · show Knows τ (ClutchMachine.transition _ _ _ _).trigger _ _
      rw [ClutchMachine.transition_trigger]
      exact hknows
    · exact hp ((observe_pressed true).trans (hknows.2 hvalue))

end Clutch

theorem step_returned [LinearOrder α] {clutch : ClutchConfig α} (m : ArmClutchMachine α)
    (sample : AnalogClutchSample α) (nowNs : ℤ)
    (controllerValid continuousInputsValid captureInputsValid : Bool) :
    (m.step clutch sample nowNs controllerValid continuousInputsValid
        captureInputsValid).2.history.head? =
      some (.returned (m.step clutch sample nowNs controllerValid continuousInputsValid
        captureInputsValid).1) := by
  unfold ArmClutchMachine.step
  extract_lets fresh observation c
  by_cases hstale : m.state ≠ .armedWaitingForRelease ∧ m.state ≠ .trackingFault ∧ fresh = false
  · rw [if_pos hstale]
    rfl
  by_cases hinputs : m.state = .engaged ∧ continuousInputsValid = false
  · rw [if_neg hstale, if_pos hinputs]
    rfl
  rw [if_neg hstale, if_neg hinputs]
  split
  case h_1 => rfl
  case h_4 =>
    split
    · split <;> rfl
    · rfl
  all_goals split <;> rfl

/-! ## Packets in order -/

/-- Packets of one session come in the order of their numbers. -/
def Accepted.Ordered (earlier later : Accepted α) : Prop :=
  earlier.packet.sessionId = later.packet.sessionId →
    earlier = later ∨ earlier.packet.sequenceNumber < later.packet.sequenceNumber

/-- A packet was accepted: its session is over, or it is the last one's. -/
def InputView.Known (v : InputView α) (a : Accepted α) : Prop :=
  a.packet.sessionId ∈ v.retired ∨
    ∃ last ∈ v.latest, last.packet.sessionId = a.packet.sessionId ∧ a.Ordered last

section Known

variable {v : InputView α} {a : Accepted α}

theorem known_latest {last : Accepted α} (hlast : last ∈ v.latest) : v.Known last :=
  .inr ⟨last, hlast, rfl, fun _ => .inl rfl⟩

theorem InputView.Known.ordered (ha : v.Known a) (hv : v.Sessions) {last : Accepted α}
    (hlast : last ∈ v.latest) : a.Ordered last := by
  intro hsame
  rcases ha with h | ⟨last', hlast', -, h⟩
  · exact absurd (hsame ▸ h) (hv.current last hlast)
  · obtain rfl := Option.mem_unique hlast hlast'
    exact h hsame

/-- The next packet keeps the order. -/
theorem InputView.Known.accept (ha : v.Known a) {packet : ControllerPacket α}
    (hp : v.Accepts packet) (receiveNs : ℕ) : (v.accept packet receiveNs).Known a := by
  have hsession : a.packet.sessionId ∈ v.retire packet ∨
      packet.sessionId = a.packet.sessionId :=
    InputView.Sessions.retire (ha.imp_right fun ⟨last, hlast, hsame, _⟩ => ⟨last, hlast, hsame⟩)
  refine hsession.imp_right fun hsame => ⟨_, rfl, hsame, fun _ => .inr ?_⟩
  obtain ⟨last, hlast, hlastsame, hordered⟩ := ha.resolve_left fun h => hp.1 (hsame ▸ h)
  have hnewer := hp.2 last hlast (hlastsame.trans hsame.symm)
  rcases hordered hlastsame.symm with rfl | h
  · exact hnewer
  · exact h.trans hnewer

theorem InputView.Known.apply [LinearOrder α] [OrderBot α] {config : ProviderConfig}
    {releasedAt : α} (ha : v.Known a) (call : QuestCall α) :
    (v.apply config releasedAt call).Known a := by
  unfold InputView.apply
  cases call with
  | update packet receiveNs =>
    dsimp only
    split_ifs with h
    · exact ha.accept h.2 _
    · exact ha
  | invalidate reason =>
    dsimp only
    split_ifs
    · exact ha
    · exact ha
  | poll nowNs =>
    dsimp only
    split_ifs
    · exact ha
    · exact ha

end Known

/-! ## The condition and the invariant -/

/-- The packet that a fresh step saw. -/
def ArmEntry.taken? (entry : ArmEntry α) : Option (Accepted α) :=
  if entry.fresh then entry.latest else none

/-- The packet that the last fresh step saw. -/
def lastTaken (h : List (ArmEntry α)) : Option (Accepted α) := latest ArmEntry.taken? h

section Runs

variable [LinearOrder α] {config : ProviderConfig} {clutch : ClutchConfig α} {s : QuestArm α}

/-- What is asked of the steps: while the clutch is engaged or about to be, a fresh
    release with the number that the trigger holds is of the session of the
    packet that the last fresh step saw. -/
def QuestArm.NumbersApart (clutch : ClutchConfig α) (s : QuestArm α) : QuestArmCall α → Prop
  | .step nowNs _ _ =>
    IsEngaging s.arm.state → ∀ p ∈ s.published, ∀ last ∈ p.latest,
      fresh clutch p nowNs = true → last.packet.indexTrigger ≤ clutch.thresholds.releasedAt →
        s.arm.trigger.lastSequence = some last.packet.sequenceNumber →
          ∀ taken ∈ lastTaken s.history, taken.packet.sessionId = last.packet.sessionId
  | .input _ => True
  | .referenceCaptured _ => True
  | .fault _ _ => True

/-- The step did not update on a release. -/
def ArmEntry.Freezes (clutch : ClutchConfig α) (entry : ArmEntry α) : Prop :=
  ∀ last ∈ entry.latest, last.packet.indexTrigger ≤ clutch.thresholds.releasedAt →
    entry.action ≠ .update

/-- A published frame is about its packet, if there is one, and that is known. -/
structure Published.Fits (v : InputView α) (p : Published α) : Prop where
  sample : ∀ last ∈ p.latest, ∃ valid, p.frame.index = sampleOf last last.packet.indexTrigger valid
  known : ∀ last ∈ p.latest, v.Known last
  invalid : p.latest = none → p.frame.index.valid = false

/-- What the calls that meet `NumbersApart` maintain. -/
structure QuestArm.Followed (clutch : ClutchConfig α) (s : QuestArm α) : Prop where
  session : s.input.provider.SessionKnown
  sessions : s.input.view.Sessions
  published : ∀ p ∈ s.published, p.Fits s.input.view
  engaged : IsEngaging s.arm.state → ∃ taken ∈ lastTaken s.history, s.input.view.Known taken ∧
    (∀ p ∈ s.published, ∀ last ∈ p.latest, taken.Ordered last) ∧
    Knows clutch.thresholds s.arm.trigger taken.packet.sequenceNumber taken.packet.indexTrigger
  allowed : ∀ entry ∈ s.history, entry.Freezes clutch

theorem QuestArm.followed_init : (QuestArm.init : QuestArm α).Followed clutch where
  session := rfl
  sessions := .init
  published := by simp [QuestArm.init]
  engaged h := by rcases h with h | h <;> exact absurd h nofun
  allowed := by simp [QuestArm.init]

omit [LinearOrder α] in
/-- A fresh sample is that of a packet. -/
theorem Published.Fits.packet {v : InputView α} {p : Published α} (hp : p.Fits v)
    (hvalid : p.frame.index.valid = true) :
    ∃ last ∈ p.latest, p.frame.index.sequenceNumber = last.packet.sequenceNumber ∧
      p.frame.index.value = last.packet.indexTrigger := by
  cases hlatest : p.latest with
  | none => exact absurd ((hp.invalid hlatest).symm.trans hvalid) nofun
  | some last =>
    obtain ⟨valid, hindex⟩ := hp.sample last hlatest
    rw [hindex]
    exact ⟨last, rfl, rfl, rfl⟩

theorem fresh_valid {p : Published α} {nowNs : ℤ}
    (h : QuestArm.fresh clutch p nowNs = true) : p.frame.index.valid = true := by
  simp only [QuestArm.fresh, AnalogClutchSample.fresh, Bool.and_eq_true] at h
  exact h.2.1.1

namespace QuestArm.Followed

theorem step (hs : s.Followed clutch) {p : Published α} (hp : p ∈ s.published) {nowNs : ℤ}
    {continuousInputsValid captureInputsValid : Bool}
    (hapart : s.NumbersApart clutch (.step nowNs continuousInputsValid captureInputsValid)) :
    (s.step clutch p nowNs continuousInputsValid captureInputsValid).Followed clutch := by
  have hfits := hs.published p hp
  have hmove : ClutchMove clutch.thresholds s.arm.toClutchMachine
      (some (p.frame.index, fresh clutch p nowNs)) _ :=
    s.arm.step_move p.frame.index nowNs p.frame.controllerValid continuousInputsValid
      captureInputsValid
  have hreturned : (s.arm.step clutch p.frame.index nowNs p.frame.controllerValid
      continuousInputsValid captureInputsValid).2.history.head? = _ :=
    step_returned s.arm p.frame.index nowNs p.frame.controllerValid continuousInputsValid
      captureInputsValid
  -- a duplicate is the packet that the trigger has seen
  have hdup (he : IsEngaging s.arm.state) (hfresh : fresh clutch p nowNs = true)
      (hlast : s.arm.trigger.lastSequence = some p.frame.index.sequenceNumber)
      (hvalue : p.frame.index.value ≤ clutch.thresholds.releasedAt) :
      s.arm.trigger.pressed = some false := by
    obtain ⟨last, hlatest, hnumber, hindex⟩ := hfits.packet (fresh_valid hfresh)
    obtain ⟨taken, htaken, -, hordered, hknows⟩ := hs.engaged he
    rw [hnumber] at hlast
    rw [hindex] at hvalue
    have hsession := hapart he p hp last hlatest hfresh hvalue hlast taken htaken
    rcases hordered p hp last hlatest hsession with rfl | hlt
    · exact hknows.2 hvalue
    · have heq := Option.some.inj (hknows.1.symm.trans hlast)
      omega
  obtain ⟨hengaged, hupdate⟩ := move_knows hmove hdup
  refine ⟨hs.session, hs.sessions, hs.published, fun he => ?_, ?_⟩
  · obtain ⟨hfresh, hknows⟩ := hengaged he
    obtain ⟨last, hlatest, hnumber, hindex⟩ := hfits.packet (fresh_valid hfresh)
    rw [hnumber, hindex] at hknows
    refine ⟨last, ?_, hfits.known last hlatest, fun p' hp' last' hlast' => ?_, hknows⟩
    · refine latest_cons_of_some (f := ArmEntry.taken?) ?_ _
      rw [ArmEntry.taken?, if_pos hfresh]
      exact hlatest
    · obtain rfl := Option.mem_unique hp hp'
      obtain rfl := Option.mem_unique hlatest hlast'
      exact fun _ => .inl rfl
  · refine List.forall_mem_cons.mpr ⟨fun last hlast hvalue haction => ?_, hs.allowed⟩
    obtain ⟨valid, hindex⟩ := hfits.sample last hlast
    have hupdated : (s.arm.step clutch p.frame.index nowNs p.frame.controllerValid
        continuousInputsValid captureInputsValid).1 = .update := haction
    rw [hupdated] at hreturned
    refine hupdate hreturned ?_
    rw [hindex]
    exact hvalue

variable [OrderBot α]

theorem input (hs : s.Followed clutch) (call : QuestCall α) :
    (s.apply clutch config (.input call)).Followed clutch := by
  obtain ⟨hview, hsession⟩ : (s.input.apply config clutch.thresholds.releasedAt call).view =
      s.input.view.apply config clutch.thresholds.releasedAt call ∧
    (s.input.apply config clutch.thresholds.releasedAt call).provider.SessionKnown :=
      apply_view hs.session call
  have hknown {a : Accepted α} (ha : s.input.view.Known a) :
      (s.input.apply config clutch.thresholds.releasedAt call).view.Known a := by
    rw [hview]
    exact ha.apply call
  have hsessions : (s.input.apply config clutch.thresholds.releasedAt call).view.Sessions := by
    rw [hview]
    exact hs.sessions.apply call
  -- either the frame is the one before, or a new one of the last packet
  have hpublish : s.publish clutch config call = s.published ∨ ∃ valid,
      (s.publish clutch config call) = some ⟨s.input.view.latest,
        (s.input.view.adapter.samplesAt clutch.thresholds.releasedAt s.input.view.latest
          valid).1⟩ := by
    cases call with
    | update packet receiveNs => exact .inl rfl
    | invalidate reason => exact .inl rfl
    | poll nowNs =>
      by_cases hnow : nowNs < 0
      · refine .inl ?_
        simp [QuestArm.publish, QuestInput.poll, ControllerProvider.snapshot, hnow]
      · refine .inr ⟨s.input.view.factsValid && !s.input.view.isStale config nowNs.toNat, ?_⟩
        have hcore : (s.input.provider.snapshotAt config nowNs.toNat).2.core =
            s.input.provider.core := ControllerProvider.snapshotAt_core nowNs.toNat
        have hlatest : (s.input.provider.snapshotAt config nowNs.toNat).2.latest =
            s.input.provider.latest := congrArg ControllerProvider.Core.latest hcore
        rw [QuestArm.publish, poll_eq hnow]
        dsimp only
        rw [hlatest]
        rfl
  refine ⟨hsession, hsessions, fun p hp => ?_, fun he => ?_, hs.allowed⟩
  · have hpublished : s.publish clutch config call = some p := hp
    rcases hpublish with h | ⟨valid, h⟩
    · have hfits := hs.published p (h.symm.trans hpublished)
      exact ⟨hfits.sample, fun last hlast => hknown (hfits.known last hlast), hfits.invalid⟩
    · obtain rfl := Option.some.inj (h.symm.trans hpublished)
      refine ⟨fun last hlast => ?_, fun last hlast => hknown (known_latest hlast), fun hnone => ?_⟩
      · rw [show s.input.view.latest = some last from hlast]
        exact ⟨_, rfl⟩
      · rw [show s.input.view.latest = none from hnone]
        rfl
  · obtain ⟨taken, htaken, htakenKnown, hordered, hknows⟩ := hs.engaged he
    refine ⟨taken, htaken, hknown htakenKnown, fun p hp last hlast => ?_, hknows⟩
    have hpublished : s.publish clutch config call = some p := hp
    rcases hpublish with h | ⟨valid, h⟩
    · exact hordered p (h.symm.trans hpublished) last hlast
    · obtain rfl := Option.some.inj (h.symm.trans hpublished)
      exact htakenKnown.ordered hs.sessions hlast

/-- **Step lemma.** Calls that meet `NumbersApart` follow the last packet. -/
theorem apply (hs : s.Followed clutch) {call : QuestArmCall α}
    (hapart : s.NumbersApart clutch call) : (s.apply clutch config call).Followed clutch := by
  cases call with
  | input call => exact hs.input call
  | step nowNs continuousInputsValid captureInputsValid =>
    unfold QuestArm.apply
    cases hp : s.published with
    | none => exact hs
    | some p => exact hs.step hp hapart
  | referenceCaptured nowNs =>
    by_cases hcapture : s.arm.state = .referenceCapture
    · have harm : (s.arm.referenceCaptured nowNs).2.toClutchMachine =
          s.arm.toClutchMachine.transition nowNs .engaged "ARM_REFERENCE_CAPTURED" := by
        simp [ArmClutchMachine.referenceCaptured, hcapture]
      refine ⟨hs.session, hs.sessions, hs.published, fun _ => ?_, hs.allowed⟩
      obtain ⟨taken, htaken, hknown, hordered, hknows⟩ :=
        hs.engaged (.inl (congrArg phase hcapture))
      refine ⟨taken, htaken, hknown, hordered, ?_⟩
      show Knows _ (s.arm.referenceCaptured nowNs).2.toClutchMachine.trigger _ _
      rw [harm, ClutchMachine.transition_trigger]
      exact hknows
    · have harm : (s.arm.referenceCaptured nowNs).2 = s.arm := by
        simp [ArmClutchMachine.referenceCaptured, hcapture]
      rw [QuestArm.apply, harm]
      exact hs
  | fault nowNs reason =>
    refine ⟨hs.session, hs.sessions, hs.published, fun he => ?_, hs.allowed⟩
    have hfault : (s.arm.fault nowNs reason).state = .trackingFault := by
      rw [ArmClutchMachine.fault, ClutchMachine.fault, ClutchMachine.transition_state]
      rfl
    have hphase : phase (s.arm.fault nowNs reason).state = .fault := congrArg phase hfault
    rcases he with h | h <;> exact absurd (hphase.symm.trans h) (by simp)

end QuestArm.Followed

variable [OrderBot α]

/-- **Main theorem.** In every run of calls that meet `NumbersApart`, no step
    returns `UPDATE` for a packet with the index trigger released. -/
theorem released_freezes {calls : List (QuestArmCall α)}
    (h : Meets (QuestArm.apply clutch config) (QuestArm.NumbersApart clutch) .init calls) :
    ∀ entry ∈ (run (QuestArm.apply clutch config) .init calls).history,
      ∀ last ∈ entry.latest, last.packet.indexTrigger ≤ clutch.thresholds.releasedAt →
        entry.action ≠ .update := by
  have hfollowed := run_invariant_of_meets (P := fun s : QuestArm α => s.Followed clutch)
    (fun s call hapart hs => hs.apply hapart) QuestArm.followed_init h
  exact hfollowed.allowed

end Runs

/-! ## Witness and counterexample -/

section Decide

variable [LinearOrder α] {clutch : ClutchConfig α}

instance (s : QuestArm α) : (call : QuestArmCall α) → Decidable (s.NumbersApart clutch call)
  | .step _ _ _ =>
    inferInstanceAs (Decidable (_ → ∀ p ∈ s.published, ∀ last ∈ p.latest, _ → _ → _ →
      ∀ taken ∈ lastTaken s.history, _))
  | .input _ => isTrue trivial
  | .referenceCaptured _ => isTrue trivial
  | .fault _ _ => isTrue trivial

end Decide

/-- The default thresholds, on the values of the Quest. -/
def questClutch : ClutchConfig ℚ≥0 := ⟨250000000, 3 / 4, 11 / 20, by decide +kernel⟩

/-- A packet of a session arrives, is polled, and the clutch takes a step. -/
def tick (sessionId sequenceNumber : ℕ) (value : ℚ≥0) (now : ℤ) : List (QuestArmCall ℚ≥0) :=
  [.input (.update { packetAt sequenceNumber value with sessionId } now), .input (.poll (now + 1)),
    .step (now + 2) true true]

/-- The arm engages, and then another session begins with a released packet. -/
def sessionChange (sequenceNumber : ℕ) : List (QuestArmCall ℚ≥0) :=
  tick 1 1 0 0 ++ tick 1 2 1 10 ++ [.referenceCaptured 13] ++ tick 1 3 1 20 ++
    tick 2 sequenceNumber 0 30

theorem released_freezes_session :
    let s := run (QuestArm.apply questClutch defaultProvider) .init (sessionChange 4)
    (∀ entry ∈ s.history, ∀ last ∈ entry.latest,
        last.packet.indexTrigger ≤ questClutch.thresholds.releasedAt → entry.action ≠ .update) ∧
      ⟨some ⟨packetAt 3 1, 20⟩, true, .update⟩ ∈ s.history := by
  have hapart : Meets (QuestArm.apply questClutch defaultProvider)
      (QuestArm.NumbersApart questClutch) .init (sessionChange 4) := by decide +kernel
  exact ⟨released_freezes hapart, by decide +kernel⟩

/-- The first packet of the new session has the number of the last packet of the
    old one: the arm updates on a released trigger. -/
theorem repeated_number :
    ∃ entry ∈ (run (QuestArm.apply questClutch defaultProvider) .init (sessionChange 3)).history,
      ∃ last ∈ entry.latest, last.packet.indexTrigger ≤ questClutch.thresholds.releasedAt ∧
        entry.action = .update := by
  decide +kernel

end HandLab.Quest
