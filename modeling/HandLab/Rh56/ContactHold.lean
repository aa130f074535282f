import HandLab.Rh56.Envelope

/-!
# The contact hold

A channel that is a contact candidate or latched has a hold target, set once at its
onset below the last command and the measured angle
(`src/rh56_driver/pc_direct_control.py`, lines 1254–1465). While the hold lasts, an
ordinary write or a contact relief closes the channel no further than the hold. A
measured activation write is not limited by contacts (lines 788 and 817): it goes to
the measured angle.

* `step_holds`: where the hold target of an active channel comes from.
* `contact_hold`: the hold of a reachable state, and the writes under it.
* `activation_above_hold`: a measured activation write that closes beyond the hold.

Arithmetic is exact here.
-/

namespace HandLab.Rh56

open HandLab.Lib

variable {κ δ : Type*}

theorem measureCommand_contact [PyFloat δ] {m : Machine κ δ} (normalized position : Channels δ) :
    (m.measureCommand normalized position).control.contact = m.control.contact := by
  unfold Machine.measureCommand
  split
  · rfl
  · rfl

variable [Field δ] [LinearOrder δ]

/-! ## Onset -/

/-- The hold lies below the value by the margin, or at zero. -/
def IsBelow (margin hold value : δ) : Prop := hold ≤ max 0 (value - margin)

theorem isBelow_min [IsStrictOrderedRing δ] (margin first second : δ) :
    IsBelow margin (max 0 (min first second - margin)) first ∧
      IsBelow margin (max 0 (min first second - margin)) second :=
  ⟨max_le_max le_rfl (sub_le_sub_right (min_le_left _ _) _),
    max_le_max le_rfl (sub_le_sub_right (min_le_right _ _) _)⟩

variable [PyFloat δ]

/-- What one call makes of the holds: an active channel had its hold before, or was
    inactive and has got it from the last command and the measured angle. -/
def Holds (config : ControlConfig δ) (lastCommand : Option (Channels δ))
    (before after : ContactState δ) : Prop :=
  ∀ i hold, after.isActive i = true → after.holdTarget i = some hold →
    before.isActive i = true ∧ before.holdTarget i = some hold ∨
      before.isActive i = false ∧ ∃ measured, after.lastAngle = some measured ∧
        IsBelow config.contactStop.reliefMargin hold (measured i) ∧
        IsBelow config.contactStop.reliefMargin hold ((lastCommand.getD measured) i)

section Contact

variable {config : ControlConfig δ} {lastCommand : Option (Channels δ)}
  {contact other : ContactState δ}

theorem Holds.same (contact : ContactState δ) : Holds config lastCommand contact contact :=
  fun _ _ hactive hhold => .inl ⟨hactive, hhold⟩

/-- Only the activity and the hold target of the state before matter. -/
theorem Holds.congr {after : ContactState δ} (h : Holds config lastCommand contact after)
    (hl : other.latched = contact.latched) (hc : other.candidateCount = contact.candidateCount)
    (ht : other.holdTarget = contact.holdTarget) : Holds config lastCommand other after := by
  intro i hold hactive hhold
  have hsame : other.isActive i = contact.isActive i := by
    simp only [ContactState.isActive, hl, hc]
  rw [hsame, ht]
  exact h i hold hactive hhold

theorem Holds.reset (feedback : PcDirectFeedback δ) :
    Holds config lastCommand contact (resetContactStop contact feedback) :=
  fun _ _ hactive _ => absurd hactive (by simp [ContactState.isActive, resetContactStop])

theorem Holds.angle (current : Channels δ) :
    Holds config lastCommand contact (observeContactAngle contact current) :=
  fun _ _ hactive hhold => .inl ⟨hactive, hhold⟩

/-- Releasing ends holds and keeps the others. -/
theorem Holds.release {control : RH56PcDirectControl δ} (requested : Channels δ)
    (allowRelease : Bool) :
    Holds config lastCommand control.contact
      (releaseContacts config control requested allowRelease).contact := by
  intro i hold hactive hhold
  simp only [releaseContacts, ContactState.isActive] at hactive hhold
  cases hreleased : releases config control requested allowRelease i with
  | true => simp [hreleased] at hactive
  | false =>
    simp only [hreleased, Bool.false_eq_true, if_false] at hactive hhold
    exact .inl ⟨hactive, hhold⟩

variable [IsStrictOrderedRing δ] [Exact δ]

theorem observeContactChannel_holds (config : ControlConfig δ) (contact : ContactState δ)
    (requested measured baseline force last : Channels δ)
    (i : Fin 6) {hold : δ}
    (hhold : (observeContactChannel config.contactStop contact requested measured baseline force
      last i).holdTarget = some hold) :
    contact.isActive i = true ∧ contact.holdTarget i = some hold ∨
      contact.isActive i = false ∧ IsBelow config.contactStop.reliefMargin hold (measured i) ∧
        IsBelow config.contactStop.reliefMargin hold (last i) := by
  unfold observeContactChannel at hhold
  extract_lets evidence at hhold
  split_ifs at hhold with hlatched hcandidate hfirst
  · exact .inl ⟨by simp [ContactState.isActive, hlatched], hhold⟩
  · -- the onset
    right
    have hcount : contact.candidateCount i = 0 := by
      simp only [evidence, contactEvidence, Bool.and_eq_true, decide_eq_true_eq] at hfirst
      exact hfirst.1.1.1
    obtain rfl := Option.some.inj hhold
    rw [Exact.pyMax_eq, Exact.zero_eq, Exact.sub_eq, Exact.pyMin_eq]
    obtain ⟨hlast, hmeasured⟩ := isBelow_min config.contactStop.reliefMargin (last i) (measured i)
    exact ⟨by simp [ContactState.isActive, hlatched, hcount], hmeasured, hlast⟩
  · have hcount : 0 < contact.candidateCount i := by
      have hconfirmed : evidence.confirmed = true := by simpa [hfirst] using hcandidate
      simp only [evidence, contactEvidence, Bool.and_eq_true, decide_eq_true_eq] at hconfirmed
      exact hconfirmed.1.1
    exact .inl ⟨by simp [ContactState.isActive, hcount], hhold⟩

theorem Holds.observeForce {control : RH56PcDirectControl δ} (force : Channels δ) :
    Holds config control.lastCommandNormalized control.contact
      (observeContactForce config control force) := by
  unfold observeContactForce
  extract_lets contact
  split
  · exact .same control.contact
  · rename_i baseline _
    extract_lets contact'
    split
    · rename_i requested measured _ hmeasured
      split_ifs
      · exact .same control.contact
      · intro i hold hactive hhold
        rcases observeContactChannel_holds config contact' requested
          measured baseline force (control.lastCommandNormalized.getD measured) i hhold with
          ⟨hbefore, hsame⟩ | ⟨hbefore, hbelow, hlast⟩
        · exact .inl ⟨hbefore, hsame⟩
        · exact .inr ⟨hbefore, measured, hmeasured, hbelow, hlast⟩
    · exact .same control.contact

end Contact

/-! ## Calls -/

section Calls

variable {config : ControlConfig δ} {backend : PcDirectBackend κ δ} {m : Machine κ δ}

theorem Unwritten.holds {m' : Machine κ δ} (h : Unwritten config m m') :
    Holds config m.control.lastCommandNormalized m.control.contact m'.control.contact := by
  rcases h.contact with hsame | ⟨requested, hreleased⟩
  · rw [hsame]
    exact .same _
  · rw [hreleased]
    exact .release requested true

theorem activate_holds (monotonicNs : ℤ) :
    Holds config m.control.lastCommandNormalized m.control.contact
      (activate config m monotonicNs).2.control.contact := by
  have hfresh : Unwritten config m (requireFreshFeedback config m monotonicNs).2 :=
    requireFreshFeedback_unwritten monotonicNs
  unfold activate
  split_ifs
  · exact .same _
  · split
    · rename_i heq
      rw [heq] at hfresh
      exact hfresh.holds
    · rename_i fresh heq
      obtain ⟨rfl, -⟩ := requireFreshFeedback_ok heq
      split_ifs
      · exact .same _
      · split
        · exact .same _
        · exact .reset _

variable [IsStrictOrderedRing δ] [Exact δ]

theorem pollFeedback_holds (monotonicNs : ℤ) :
    Holds config m.control.lastCommandNormalized m.control.contact
      (pollFeedback config backend m monotonicNs).2.control.contact := by
  unfold pollFeedback
  split
  · exact .same _
  · split
    rename_i startedNs context _
    split
    · exact .same m.control.contact
    · rename_i readings context' _
      split
      · exact .same m.control.contact
      · rename_i normalized hnormalized
        split
        rename_i endedNs context'' _
        extract_lets stored
        have hstored : Holds config m.control.lastCommandNormalized m.control.contact
            stored.control.contact :=
          (Holds.observeForce readings.loads).congr rfl rfl rfl
        split_ifs
        · exact hstored
        · exact hstored
        · rw [measureCommand_contact]
          exact hstored

theorem pollFeedbackRegister_holds (name : FeedbackRegister) (monotonicNs : ℤ) :
    Holds config m.control.lastCommandNormalized m.control.contact
      (pollFeedbackRegister config backend m name monotonicNs).2.control.contact := by
  unfold pollFeedbackRegister
  split
  · exact .same _
  · split
    split
    · unfold failRegister
      split_ifs
      · extract_lets held
        split
        · exact .same m.control.contact
        · exact .same m.control.contact
      · exact .same m.control.contact
    · split
      unfold checkRegister
      extract_lets stored errors
      split_ifs
      · exact .same m.control.contact
      · exact .same m.control.contact
      · split
        · exact .same m.control.contact
        · rename_i feedback _
          cases name with
          | angle =>
            show Holds config _ _ (Machine.measureCommand _ _ _).control.contact
            rw [measureCommand_contact]
            exact (Holds.angle _).congr rfl rfl rfl
          | force => exact (Holds.observeForce feedback.loadOrForceRawCount).congr rfl rfl rfl
          | current => exact .same m.control.contact
          | status => exact .same m.control.contact
          | error => exact .same m.control.contact

/-- **Step lemma.** -/
theorem step_holds (call : Call δ) :
    Holds config m.control.lastCommandNormalized m.control.contact
      (step config backend m call).control.contact := by
  cases call with
  | openTransport operation =>
    show Holds config _ _ (openTransport backend m operation).2.control.contact
    unfold openTransport
    split
    · exact .same m.control.contact
    · exact .same m.control.contact
    · exact .same m.control.contact
  | pollFeedback monotonicNs => exact pollFeedback_holds monotonicNs
  | pollFeedbackRegister name monotonicNs => exact pollFeedbackRegister_holds name monotonicNs
  | activate monotonicNs => exact activate_holds monotonicNs
  | command args =>
    rcases @command_cases κ δ _ config backend m args with
      ⟨-, hunwritten⟩ | ⟨-, previous, requested, target, hwritten⟩
    · exact hunwritten.holds
    · show Holds config _ _ (command config backend m args).2.control.contact
      rw [hwritten.contact]
      have hlimits : Unwritten config m
          (m.withControl (postContactTarget config m.control args previous requested).2) :=
        postContactTarget_unwritten args previous requested
      exact hlimits.holds
  | hold reason =>
    show Holds config _ _ (m.hold reason).control.contact
    unfold Machine.hold
    split_ifs
    · exact .same _
    · exact .same m.control.contact
  | popContactReliefTarget =>
    obtain ⟨pending, hpop⟩ := popContactReliefTarget_frame m.control
    show Holds config _ _ (m.withControl (popContactReliefTarget m.control).2).control.contact
    rw [hpop]
    exact .same m.control.contact
  | armTerminalStop reason => exact .same m.control.contact
  | transportFault reason => exact .same m.control.contact
  | markFeedbackTimeout monotonicNs =>
    show Holds config _ _ (markFeedbackTimeout config m monotonicNs).2.control.contact
    unfold markFeedbackTimeout
    split_ifs
    · exact .same _
    · exact .same m.control.contact
  | cleanup => exact .same m.control.contact

end Calls

/-! ## Runs -/

section Runs

variable (config : ControlConfig δ) (backend : PcDirectBackend κ δ) (context : κ)

/-- The call sets the hold of the channel, below the last command and the measured
    angle. -/
def OnsetAt (before : List (Call δ)) (call : Call δ) (i : Fin 6) (hold : δ) : Prop :=
  (runCalls config backend context before).control.contact.isActive i = false ∧
    ∃ measured,
      (runCalls config backend context (before ++ [call])).control.contact.lastAngle =
        some measured ∧
      IsBelow config.contactStop.reliefMargin hold (measured i) ∧
      IsBelow config.contactStop.reliefMargin hold
        (((runCalls config backend context before).control.lastCommandNormalized.getD measured) i)

/-- The channel has had this hold since its onset. -/
def HeldSince (calls : List (Call δ)) (i : Fin 6) (hold : δ) : Prop :=
  ∃ before call later, calls = before ++ call :: later ∧
    OnsetAt config backend context before call i hold ∧
    ∀ mid, mid <+: later →
      (runCalls config backend context (before ++ call :: mid)).control.contact.isActive i = true ∧
        (runCalls config backend context (before ++ call :: mid)).control.contact.holdTarget i =
          some hold

variable {config backend context} [IsStrictOrderedRing δ] [Exact δ]

theorem heldSince (calls : List (Call δ)) (i : Fin 6) (hold : δ)
    (hactive : (runCalls config backend context calls).control.contact.isActive i = true)
    (hhold : (runCalls config backend context calls).control.contact.holdTarget i = some hold) :
    HeldSince config backend context calls i hold := by
  induction calls using List.reverseRecOn with
  | nil => cases hactive
  | append_singleton calls call ih =>
    have hstep : runCalls config backend context (calls ++ [call]) =
        step config backend (runCalls config backend context calls) call := run_concat _ _ _ _
    have hcall : Holds config
        (runCalls config backend context calls).control.lastCommandNormalized
        (runCalls config backend context calls).control.contact
        (step config backend (runCalls config backend context calls) call).control.contact :=
      step_holds call
    rw [← hstep] at hcall
    rcases hcall i hold hactive hhold with ⟨hbefore, hsame⟩ | ⟨hbefore, hbelow⟩
    · obtain ⟨before, onset, later, rfl, honset, hkept⟩ := ih hbefore hsame
      refine ⟨before, onset, later ++ [call], by simp, honset, fun mid hmid => ?_⟩
      rcases List.prefix_concat_iff.mp hmid with hwhole | hearlier
      · rw [hwhole]
        have hend : before ++ onset :: (later ++ [call]) = (before ++ onset :: later) ++ [call] := by
          simp
        rw [hend]
        exact ⟨hactive, hhold⟩
      · exact hkept mid hearlier
    · refine ⟨calls, call, [], rfl, ⟨hbefore, hbelow⟩, fun mid hmid => ?_⟩
      rw [List.prefix_nil.mp hmid]
      exact ⟨hactive, hhold⟩

/-- A write that leaves the hold of a channel in place goes no further than the
    hold. -/
theorem Written.le_hold {m m' : Machine κ δ} {args : Command δ}
    {previous requested target : Channels δ} (henabled : config.contactStop.enabled = true)
    (hw : Written config m m' args previous requested target) (hm : m.control.Bounded)
    (hordinary : args.measuredActivationWrite = false) {i : Fin 6} {hold : δ}
    (hactive : m.control.contact.isActive i = true)
    (hhold : m.control.contact.holdTarget i = some hold)
    (hafter : m'.control.contact.isActive i = true) :
    selectTarget config args.measuredActivationWrite previous target i ≤ max (previous i) hold := by
  have hlimit := (postContactTarget_between hm.contact hw.limited (hm.command previous hw.last i).1
    (checkTarget_inUnit hw.checked i).1).2.2 hordinary
  have hreleased : releases config m.control requested true i = false := by
    have hcontact : m'.control.contact.isActive i =
        (releaseContacts config m.control requested true).contact.isActive i := by
      rw [hw.contact]
      unfold postContactTarget limitTarget
      rw [if_neg (by simp [hordinary])]
      extract_lets limited noted budgeted
      split_ifs <;> rfl
    rw [hcontact] at hafter
    cases hreleases : releases config m.control requested true i with
    | false => rfl
    | true => simp [ContactState.isActive, releaseContacts, hreleases] at hafter
  have hle : contactLimitedTarget config m.control requested true i ≤ hold := by
    unfold contactLimitedTarget
    rw [if_pos (by simp [henabled, hactive, hreleased]), hhold]
    simp only [Exact.pyMin_eq]
    exact min_le_right _ _
  exact (selectTarget_between config args.measuredActivationWrite previous target i).2.2.trans
    (max_le_max le_rfl (hlimit.trans hle))

/-- **Main theorem.** In every reachable state each active channel has a hold target,
    finite and not negative, that it got at its onset below the last command and the
    measured angle and has kept since; and a write that is not a measured activation,
    and does not release the channel, takes it no further than the hold. -/
theorem contact_hold (henabled : config.contactStop.enabled = true) (calls : List (Call δ))
    (i : Fin 6)
    (hactive : (runCalls config backend context calls).control.contact.isActive i = true) :
    ∃ hold, (runCalls config backend context calls).control.contact.holdTarget i = some hold ∧
      Double.isFinite hold = true ∧ 0 ≤ hold ∧ HeldSince config backend context calls i hold ∧
      ∀ args, args.measuredActivationWrite = false →
        (command config backend (runCalls config backend context calls) args).1 = .ok true →
        (command config backend (runCalls config backend context calls)
          args).2.control.contact.isActive i = true →
        ∃ previous selected,
          (runCalls config backend context calls).control.lastCommandNormalized = some previous ∧
          (command config backend (runCalls config backend context calls)
            args).2.control.lastCommandNormalized = some selected ∧
          selected i ≤ max (previous i) hold := by
  have hbounded : (runCalls config backend context calls).control.Bounded :=
    runCalls_bounded context calls
  obtain ⟨hold, hhold⟩ := Option.isSome_iff_exists.mp (hbounded.contact.held i hactive)
  refine ⟨hold, hhold, Exact.isFinite_eq hold, hbounded.contact.nonneg i hold hhold,
    heldSince calls i hold hactive hhold, ?_⟩
  intro args hordinary hok hafter
  rcases @command_cases κ δ _ config backend (runCalls config backend context calls) args with
    ⟨hfailed, -⟩ | ⟨-, previous, requested, target, hwritten⟩
  · exact absurd hok hfailed
  · exact ⟨previous, _, hwritten.last, hwritten.normalized,
      hwritten.le_hold henabled hbounded hordinary hactive hhold hafter⟩

end Runs

/-! ## A measured activation under a hold -/

/-- A hand that takes every write and does not move, and is loaded by the first. -/
def blockedBackend : PcDirectBackend (FakeRH56PcDirectBackend ℚ) ℚ :=
  { FakeRH56PcDirectBackend.backend with
    setCanonicalAngles := fun fake _ => (.ok true, { fake with load := fun _ => 500 }) }

/-- The hand rests at `0.03`. -/
def restingHand : FakeRH56PcDirectBackend ℚ :=
  { FakeRH56PcDirectBackend.init with position := fun _ => 970 }

/-- A grip that meets a contact and is taken back to its hold. -/
def contactCalls : List (Call ℚ) :=
  [.openTransport .handOnly, .pollFeedback 0, .activate 0, .command (gripCommand 0.04 0),
    .pollFeedback 25000000, .command (gripCommand 0.04 50000000)]

/-- The channel is a candidate of the contact stop. -/
theorem contact_hold_grip :
    (runCalls teleopConfig blockedBackend restingHand contactCalls).control.contact.isActive 0 =
        true ∧
      ∃ hold, (runCalls teleopConfig blockedBackend restingHand
          contactCalls).control.contact.holdTarget 0 = some hold ∧ 0 ≤ hold := by
  have hactive : (runCalls teleopConfig blockedBackend restingHand
      contactCalls).control.contact.isActive 0 = true := by
    decide +kernel
  obtain ⟨hold, hhold, -, hnonneg, -⟩ := contact_hold (by decide) contactCalls 0 hactive
  exact ⟨hactive, hold, hhold, hnonneg⟩

/-- A command that returns `True` on a channel that stays held. -/
def closesHeld (m : Machine (FakeRH56PcDirectBackend ℚ) ℚ) (args : Command ℚ) : Bool :=
  let result := command teleopConfig blockedBackend m args
  (match result.1 with
    | .ok true => true
    | _ => false) &&
  m.control.contact.isActive 0 && result.2.control.contact.isActive 0 &&
  (match m.control.lastCommandNormalized, result.2.control.lastCommandNormalized,
      m.control.contact.holdTarget 0 with
    | some previous, some selected, some hold => decide (max (previous 0) hold < selected 0)
    | _, _, _ => false)

/-- A measured activation closes a held channel beyond its hold. -/
theorem activation_above_hold :
    ¬∀ args, (command teleopConfig blockedBackend
          (runCalls teleopConfig blockedBackend restingHand contactCalls) args).1 = .ok true →
        (command teleopConfig blockedBackend
          (runCalls teleopConfig blockedBackend restingHand contactCalls)
          args).2.control.contact.isActive 0 = true →
        ∀ hold ∈ (runCalls teleopConfig blockedBackend restingHand
            contactCalls).control.contact.holdTarget 0,
        ∀ previous ∈ (runCalls teleopConfig blockedBackend restingHand
            contactCalls).control.lastCommandNormalized,
        ∀ selected ∈ (command teleopConfig blockedBackend
            (runCalls teleopConfig blockedBackend restingHand contactCalls)
            args).2.control.lastCommandNormalized,
          selected 0 ≤ max (previous 0) hold := by
  intro hclaim
  have hcloses : closesHeld (runCalls teleopConfig blockedBackend restingHand contactCalls)
      (measuredCommand 0.03 75000000) = true := by
    decide +kernel
  simp only [closesHeld, Bool.and_eq_true] at hcloses
  obtain ⟨⟨⟨hok, -⟩, hafter⟩, hclosed⟩ := hcloses
  have hreturned := hclaim (measuredCommand 0.03 75000000)
  split at hok
  next hresult =>
    split at hclosed
    next previous selected hold hprevious hselected hhold =>
      exact absurd (hreturned hresult hafter hold hhold previous hprevious selected hselected)
        (not_le.mpr (of_decide_eq_true hclosed))
    next => cases hclosed
  next => cases hok

end HandLab.Rh56
