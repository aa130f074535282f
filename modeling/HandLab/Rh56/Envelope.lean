import HandLab.Rh56.Closure

/-!
# The write envelope

What every successful position write of `RH56PcDirectControl` keeps to
(`src/rh56_driver/pc_direct_control.py`, lines 706–934), whichever stages of
`command` it skips: the feedback is fresh, no channel moves by more than
`delta_limit`, the written target stays in `[0, 1]` and its raw values between
the safe bounds.

* `step_bounded`: the invariant of the members behind it; the hold targets of the
  contact stop are part of it.
* `write_envelope`: the envelope of a write, and the calls that leave the last
  command alone.

Arithmetic is exact here.
-/

namespace HandLab.Rh56

open HandLab.Lib

variable {κ δ : Type*}

/-! ## The exits of `command` -/

section Commands

variable [PyFloat δ] {config : ControlConfig δ} {backend : PcDirectBackend κ δ} {m m' : Machine κ δ}

/-- What a call of `command` without a successful write leaves alone; at most it
    releases contacts. -/
structure Unwritten (config : ControlConfig δ) (m m' : Machine κ δ) : Prop where
  normalized : m'.control.lastCommandNormalized = m.control.lastCommandNormalized
  raw : m'.control.lastCommandRaw = m.control.lastCommandRaw
  feedback : m'.control.lastFeedback = m.control.lastFeedback
  contact : m'.control.contact = m.control.contact ∨ ∃ requested,
    m'.control.contact = (releaseContacts config m.control requested true).contact

theorem Unwritten.same (m : Machine κ δ) : Unwritten config m m := ⟨rfl, rfl, rfl, .inl rfl⟩

/-- A successful write: the stages it went through. -/
structure Written (config : ControlConfig δ) (m m' : Machine κ δ) (args : Command δ)
    (previous requested target : Channels δ) : Prop where
  gate : commandGate config m args = (.ok true, m)
  checked : checkTarget config m.control args = .ok requested
  last : m.control.lastCommandNormalized = some previous
  limited : (postContactTarget config m.control args previous requested).1 = some target
  contact : m'.control.contact = noteClosure
    (postContactTarget config m.control args previous requested).2.contact previous
    (selectTarget config args.measuredActivationWrite previous target) args.monotonicNs
  normalized : m'.control.lastCommandNormalized =
    some (selectTarget config args.measuredActivationWrite previous target)
  raw : m'.control.lastCommandRaw = some (denormalizeCanonical config.calibration
    (selectTarget config args.measuredActivationWrite previous target))
  feedback : m'.control.lastFeedback = m.control.lastFeedback
  history : m'.history = .wrote ⟨args.measuredActivationWrite, previous,
    selectTarget config args.measuredActivationWrite previous target,
    denormalizeCanonical config.calibration
      (selectTarget config args.measuredActivationWrite previous target)⟩ (.ok true) :: m.history

theorem requireFreshFeedback_unwritten (monotonicNs : ℤ) :
    Unwritten config m (requireFreshFeedback config m monotonicNs).2 := by
  unfold requireFreshFeedback markFeedbackTimeout
  split_ifs
  · exact .same m
  · exact ⟨rfl, rfl, rfl, .inl rfl⟩

theorem commandGate_unwritten (args : Command δ) :
    Unwritten config m (commandGate config m args).2 := by
  have hfresh : Unwritten config m (requireFreshFeedback config m args.monotonicNs).2 :=
    requireFreshFeedback_unwritten args.monotonicNs
  unfold commandGate
  split_ifs
  · exact ⟨rfl, rfl, rfl, .inl rfl⟩
  · show Unwritten config m (m.hold "grip_stale")
    unfold Machine.hold
    split_ifs
    · exact .same m
    · exact ⟨rfl, rfl, rfl, .inl rfl⟩
  · exact ⟨rfl, rfl, rfl, .inl rfl⟩
  · cases hresult : requireFreshFeedback config m args.monotonicNs with
    | mk outcome fresh =>
      rw [hresult] at hfresh
      cases outcome with
      | error error => exact hfresh
      | ok value =>
        simp only
        split_ifs
        · exact ⟨hfresh.normalized, hfresh.raw, hfresh.feedback, hfresh.contact⟩
        · exact ⟨hfresh.normalized, hfresh.raw, hfresh.feedback, hfresh.contact⟩
        · exact ⟨hfresh.normalized, hfresh.raw, hfresh.feedback, hfresh.contact⟩
        · exact hfresh

/-- A gate that a command passes finds fresh feedback, and the hand active or, for a
    contact relief, held. -/
theorem commandGate_fresh {args : Command δ} (h : commandGate config m args = (.ok true, m)) :
    m.control.isFresh config args.monotonicNs = true ∧
      (m.control.state = .active ∨ args.contactRelief = true ∧ m.control.state = .hold) := by
  unfold commandGate at h
  split_ifs at h with hstop hgrip hstate
  · cases (Prod.mk.inj h).1
  · cases (Prod.mk.inj h).1
  · cases (Prod.mk.inj h).1
  · have hwritable : m.control.state = .active ∨
        args.contactRelief = true ∧ m.control.state = .hold := by
      push Not at hstate
      by_cases hactive : m.control.state = .active
      · exact .inl hactive
      · exact .inr (hstate hactive)
    cases hfresh : requireFreshFeedback config m args.monotonicNs with
    | mk outcome fresh =>
      rw [hfresh] at h
      cases outcome with
      | error error => cases (Prod.mk.inj h).1
      | ok value => exact ⟨(requireFreshFeedback_ok hfresh).2, hwritable⟩

/-- What the limits write: the requested target, the disposition and the released
    contacts. -/
theorem postContactTarget_unwritten (args : Command δ) (previous requested : Channels δ) :
    Unwritten config m
      (m.withControl (postContactTarget config m.control args previous requested).2) := by
  unfold postContactTarget
  split_ifs
  · exact ⟨rfl, rfl, rfl, .inl rfl⟩
  · unfold limitTarget
    extract_lets limited noted budgeted
    split_ifs
    · exact ⟨rfl, rfl, rfl, .inr ⟨requested, rfl⟩⟩
    · exact ⟨rfl, rfl, rfl, .inr ⟨requested, rfl⟩⟩
    · exact ⟨rfl, rfl, rfl, .inr ⟨requested, rfl⟩⟩

/-- `command` returns `True` after a write, or writes nothing
    that counts. -/
theorem command_cases (args : Command δ) :
    ((command config backend m args).1 ≠ .ok true ∧
        Unwritten config m (command config backend m args).2) ∨
      (command config backend m args).1 = .ok true ∧
        ∃ previous requested target,
          Written config m (command config backend m args).2 args previous requested target := by
  have hgated : Unwritten config m (commandGate config m args).2 := commandGate_unwritten args
  unfold command
  cases hgate : commandGate config m args with
  | mk outcome gated =>
    rw [hgate] at hgated
    cases outcome with
    | error error => exact .inl ⟨nofun, hgated⟩
    | ok passed =>
      cases passed with
      | false => exact .inl ⟨by simp, hgated⟩
      | true =>
        obtain ⟨rfl, -⟩ := commandGate_ok hgate
        simp only
        cases hchecked : checkTarget config gated.control args with
        | error error => exact .inl ⟨nofun, hgated⟩
        | ok requested =>
          cases hlast : gated.control.lastCommandNormalized with
          | none => exact .inl ⟨nofun, hgated⟩
          | some previous =>
            have hlimits : Unwritten config gated (gated.withControl
                (postContactTarget config gated.control args previous requested).2) :=
              postContactTarget_unwritten args previous requested
            simp only [submitTarget]
            cases hpost : postContactTarget config gated.control args previous requested with
            | mk target control =>
              rw [hpost] at hlimits
              cases target with
              | none => exact .inl ⟨by simp, hlimits⟩
              | some target =>
                simp only
                split_ifs with hduplicate
                · exact .inl ⟨by simp, ⟨hlimits.normalized, hlimits.raw, hlimits.feedback,
                    hlimits.contact⟩⟩
                · unfold writeTarget
                  extract_lets selected raw write
                  generalize hwrite : backend.setCanonicalAngles _ raw = outcome
                  obtain ⟨outcome, context⟩ := outcome
                  cases outcome with
                  | error error => exact .inl ⟨nofun, ⟨hlimits.normalized, hlimits.raw,
                      hlimits.feedback, hlimits.contact⟩⟩
                  | ok accepted =>
                    cases accepted with
                    | false => exact .inl ⟨nofun, ⟨hlimits.normalized, hlimits.raw,
                        hlimits.feedback, hlimits.contact⟩⟩
                    | true =>
                      exact .inr ⟨rfl, previous, requested, target,
                        { gate := hgate
                          checked := hchecked
                          last := hlast
                          limited := by rw [hpost]
                          contact := by rw [hpost]; rfl
                          normalized := rfl
                          raw := rfl
                          feedback := hlimits.feedback
                          history := rfl }⟩

end Commands

/-! ## The last command -/

/-- The target that a successful write or an activation leaves. -/
def Event.commanded? : Event δ → Option (Channels δ)
  | .wrote write (.ok true) => some write.selected
  | .activated target => some target
  | _ => none

/-- The last command is the target last written or activated, once there is one. -/
def Protocol.Commanded (p : Protocol δ) : Prop :=
  ∀ target ∈ latest Event.commanded? p.history, p.lastCommand = some target

theorem Protocol.Commanded.record {p : Protocol δ} (h : p.Commanded) (event : Event δ)
    (he : event.commanded? = none) : (p.record event).Commanded := by
  intro target htarget
  rw [Protocol.record, latest_cons_of_none he] at htarget
  exact h target htarget

theorem Protocol.commanded_of_commanded {p : Protocol δ} {event : Event δ} {target : Channels δ}
    (he : event.commanded? = some target) (hp : p.lastCommand = some target) :
    (p.record event).Commanded := by
  intro latestTarget hlatest
  rw [Protocol.record, latest_cons_of_some he] at hlatest
  exact hp.trans hlatest

theorem Move.commanded [PyFloat δ] {config : ControlConfig δ} {orderly : Prop} {p q : Protocol δ}
    (hmove : Move config orderly p q) (h : p.Commanded) : q.Commanded := by
  cases hmove with
  | fault reason =>
    exact Protocol.Commanded.record (p := { p with state := .fault, faultReason := _ }) h _ rfl
  | opened ho => exact Protocol.Commanded.record (p := { p with state := .hold }) h _ rfl
  | closed => exact Protocol.Commanded.record (p := { p with state := .disabled }) h _ rfl
  | held hf ho => exact h
  | activated target hf ho => exact Protocol.commanded_of_commanded rfl rfl
  | measured target hn =>
    intro latestTarget hlatest
    have hnotCommanded : (Event.measured target).commanded? = none := rfl
    rw [Protocol.record, latest_cons_of_none hnotCommanded] at hlatest
    -- no target was written or activated before the first poll
    have hnone := h latestTarget hlatest
    rw [hn] at hnone
    cases hnone
  | forceObserved => exact Protocol.Commanded.record (p := { p with closure := _ }) h _ rfl
  | wrote write outcome hs hp hb =>
    cases outcome with
    | error error => exact h.record _ rfl
    | ok accepted =>
      cases accepted with
      | false => exact h.record _ rfl
      | true => exact Protocol.commanded_of_commanded rfl rfl

theorem runCalls_commanded [PyFloat δ] {config : ControlConfig δ} {backend : PcDirectBackend κ δ}
    (context : κ) (calls : List (Call δ)) :
    (runCalls config backend context calls).protocol.Commanded :=
  runCalls_invariant (fun _ _ => Move.commanded) nofun calls

/-! ## Invariant -/

variable [Field δ] [LinearOrder δ]

/-- Every channel lies in `[0, 1]`. -/
def InUnit (values : Channels δ) : Prop := ∀ i, 0 ≤ values i ∧ values i ≤ 1

/-- A channel has a hold target exactly while it is a candidate or latched, and it is
    not negative. -/
structure ContactState.Sound (contact : ContactState δ) : Prop where
  counted : ∀ i, 0 ≤ contact.candidateCount i
  held : ∀ i, contact.isActive i = true → (contact.holdTarget i).isSome = true
  nonneg : ∀ i, ∀ hold ∈ contact.holdTarget i, 0 ≤ hold

/-- The same of one channel. -/
structure ContactChannel.Sound (channel : ContactChannel δ) : Prop where
  counted : 0 ≤ channel.candidateCount
  held : (channel.latched || decide (0 < channel.candidateCount)) = true →
    channel.holdTarget.isSome = true
  nonneg : ∀ hold ∈ channel.holdTarget, 0 ≤ hold

/-- The members that a target is made of. -/
structure RH56PcDirectControl.Bounded (control : RH56PcDirectControl δ) : Prop where
  feedback : ∀ feedback ∈ control.lastFeedback, InUnit feedback.positionNormalized
  command : ∀ target ∈ control.lastCommandNormalized, InUnit target
  contact : control.contact.Sound

theorem RH56PcDirectControl.Bounded.congr {control other : RH56PcDirectControl δ}
    (h : control.Bounded) (hf : other.lastFeedback = control.lastFeedback)
    (hc : other.lastCommandNormalized = control.lastCommandNormalized)
    (hs : other.contact = control.contact) : other.Bounded where
  feedback := hf ▸ h.feedback
  command := hc ▸ h.command
  contact := hs ▸ h.contact

section Machine

variable {m : Machine κ δ}

theorem fault_bounded (h : m.control.Bounded) (reason : String) :
    (m.fault reason).control.Bounded := h.congr rfl rfl rfl

theorem hold_bounded (h : m.control.Bounded) (reason : String) :
    (m.hold reason).control.Bounded := by
  unfold Machine.hold
  split_ifs
  · exact h
  · exact h.congr rfl rfl rfl

theorem setFeedback_bounded (h : m.control.Bounded) {feedback : PcDirectFeedback δ}
    (hf : InUnit feedback.positionNormalized) : (m.setFeedback feedback).control.Bounded := by
  refine ⟨?_, h.command, h.contact⟩
  intro latest hlatest
  obtain rfl := Option.some.inj hlatest
  exact hf

end Machine

variable [PyFloat δ]

theorem bounded_init : (RH56PcDirectControl.init : RH56PcDirectControl δ).Bounded where
  feedback := nofun
  command := nofun
  contact := ⟨fun _ => le_rfl, fun _ => nofun, fun _ => nofun⟩

/-! ## The contact members -/

section Contact

variable {contact : ContactState δ}

namespace ContactState.Sound

theorem reset (feedback : PcDirectFeedback δ) : (resetContactStop contact feedback).Sound :=
  ⟨fun _ => le_rfl, fun _ => nofun, fun _ => nofun⟩

theorem release (config : ControlConfig δ) {control : RH56PcDirectControl δ}
    (h : control.contact.Sound) (requested : Channels δ) (allowRelease : Bool) :
    (releaseContacts config control requested allowRelease).contact.Sound := by
  unfold releaseContacts
  extract_lets released contact
  refine ⟨fun i => ?_, fun i => ?_, fun i => ?_⟩
  · show 0 ≤ if released i = true then 0 else contact.candidateCount i
    split_ifs
    · exact le_rfl
    · exact h.counted i
  · intro hactive
    simp only [ContactState.isActive] at hactive
    show (if released i = true then none else contact.holdTarget i).isSome = true
    cases hreleased : released i with
    | true => simp [hreleased] at hactive
    | false =>
      simp only [hreleased, Bool.false_eq_true, if_false] at hactive ⊢
      exact h.held i hactive
  · intro hold hhold
    have hkept : hold ∈ if released i = true then none else contact.holdTarget i := hhold
    split_ifs at hkept
    · cases hkept
    · exact h.nonneg i hold hkept

variable [IsStrictOrderedRing δ] [Exact δ]

theorem observeChannel (h : contact.Sound) (policy : ContactStop δ)
    (requested measured baseline force last : Channels δ) (i : Fin 6) :
    (observeContactChannel policy contact requested measured baseline force last i).Sound := by
  unfold observeContactChannel
  extract_lets evidence count
  split_ifs with hlatched hcandidate hfirst
  · refine ⟨h.counted i, fun _ => h.held i ?_, h.nonneg i⟩
    simp [ContactState.isActive, hlatched]
  · refine ⟨Int.le_add_one (h.counted i), fun _ => rfl, ?_⟩
    intro hold hhold
    obtain rfl := Option.some.inj hhold
    rw [Exact.pyMax_eq, Exact.zero_eq]
    exact le_max_left _ _
  · -- a confirmed candidate had a hold
    have hcount : 0 < contact.candidateCount i := by
      have hconfirmed : evidence.confirmed = true := by simpa [hfirst] using hcandidate
      simp only [evidence, contactEvidence, Bool.and_eq_true, decide_eq_true_eq] at hconfirmed
      exact hconfirmed.1.1
    refine ⟨Int.le_add_one (h.counted i), fun _ => h.held i ?_, h.nonneg i⟩
    simp [ContactState.isActive, hcount]
  · exact ⟨le_rfl, nofun, nofun⟩
  · exact ⟨le_rfl, nofun, nofun⟩

theorem observeForce (config : ControlConfig δ) {control : RH56PcDirectControl δ}
    (h : control.contact.Sound) (force : Channels δ) :
    (observeContactForce config control force).Sound := by
  unfold observeContactForce
  extract_lets contact
  have hcontact : contact.Sound := ⟨h.counted, h.held, h.nonneg⟩
  split
  · exact ⟨h.counted, h.held, h.nonneg⟩
  · extract_lets contact'
    have hcontact' : contact'.Sound := ⟨h.counted, h.held, h.nonneg⟩
    split
    · split_ifs
      · exact hcontact'
      · have hchannel := fun requested measured baseline last i =>
          hcontact'.observeChannel config.contactStop requested measured baseline force last i
        exact ⟨fun i => (hchannel _ _ _ _ i).counted, fun i => (hchannel _ _ _ _ i).held,
          fun i => (hchannel _ _ _ _ i).nonneg⟩
    · exact hcontact'

end ContactState.Sound

end Contact

/-! ## Feedback -/

section Feedback

variable {config : ControlConfig δ} {backend : PcDirectBackend κ δ} {m : Machine κ δ}

theorem markFeedbackTimeout_bounded (h : m.control.Bounded) (monotonicNs : ℤ) :
    (markFeedbackTimeout config m monotonicNs).2.control.Bounded := by
  unfold markFeedbackTimeout
  split_ifs
  · exact h
  · exact fault_bounded h _

theorem requireFreshFeedback_bounded (h : m.control.Bounded) (monotonicNs : ℤ) :
    (requireFreshFeedback config m monotonicNs).2.control.Bounded := by
  have hmark : (markFeedbackTimeout config m monotonicNs).2.control.Bounded :=
    markFeedbackTimeout_bounded h monotonicNs
  unfold requireFreshFeedback
  cases hresult : markFeedbackTimeout config m monotonicNs with
  | mk timedOut after =>
    rw [hresult] at hmark
    cases timedOut <;> exact hmark

theorem measureCommand_bounded (h : m.control.Bounded) {normalized : Channels δ}
    (hn : InUnit normalized) (position : Channels δ) :
    (m.measureCommand normalized position).control.Bounded := by
  unfold Machine.measureCommand
  split
  · exact h
  · refine ⟨h.feedback, ?_, h.contact⟩
    intro target htarget
    obtain rfl := Option.some.inj htarget
    exact hn

theorem observeAngle_bounded (h : m.control.Bounded) (normalized : Channels δ) :
    (m.observeAngle normalized).control.Bounded :=
  ⟨h.feedback, h.command, ⟨h.contact.counted, h.contact.held, h.contact.nonneg⟩⟩

theorem activate_bounded (h : m.control.Bounded) (monotonicNs : ℤ) :
    (activate config m monotonicNs).2.control.Bounded := by
  have hfresh : (requireFreshFeedback config m monotonicNs).2.control.Bounded :=
    requireFreshFeedback_bounded h monotonicNs
  unfold activate
  split_ifs
  · exact h
  · split
    · rename_i heq
      rwa [heq] at hfresh
    · rename_i fresh heq
      rw [heq] at hfresh
      split_ifs
      · exact hfresh
      · split
        · exact hfresh
        · rename_i feedback hfeedback
          refine ⟨hfresh.feedback, ?_, .reset feedback⟩
          intro target htarget
          obtain rfl := Option.some.inj htarget
          exact hfresh.feedback feedback hfeedback

variable [IsStrictOrderedRing δ] [Exact δ]

theorem normalizeRaw_inUnit {calibration : Channels (HandDofCalibration δ)}
    {raw normalized : Channels δ} (h : normalizeRaw calibration raw = .ok normalized) :
    InUnit normalized := by
  unfold normalizeRaw at h
  split_ifs at h
  obtain rfl := Except.ok.inj h
  intro i
  simp only [Exact.clip_eq, Exact.zero_eq, Exact.ofRat_eq, Rat.cast_one]
  exact ⟨le_min (le_max_right _ _) zero_le_one, min_le_right _ _⟩

theorem feedbackFromCache_inUnit {cache : FeedbackCache δ} {feedback : PcDirectFeedback δ}
    (h : feedbackFromCache config cache = .ok feedback) :
    InUnit feedback.positionNormalized := by
  unfold feedbackFromCache at h
  split at h
  · split at h
    · cases h
    · rename_i hnormalized
      obtain rfl := Except.ok.inj h
      exact normalizeRaw_inUnit hnormalized
  · cases h

theorem observeForce_bounded (h : m.control.Bounded) (loads : Channels δ) :
    (Machine.observeForce config m loads).control.Bounded :=
  ⟨h.feedback, h.command, h.contact.observeForce config loads⟩

theorem storeReadings_bounded (h : m.control.Bounded) (readings : Readings δ)
    {normalized : Channels δ} (hn : InUnit normalized) (monotonicNs : ℤ) :
    (storeReadings config m readings normalized monotonicNs).control.Bounded := by
  have hset : (m.setFeedback (readings.toFeedback normalized monotonicNs)).control.Bounded :=
    setFeedback_bounded h hn
  have hstored : ((m.setFeedback (readings.toFeedback normalized monotonicNs)).setCache
      (readings.toCache monotonicNs)).control.Bounded := hset.congr rfl rfl rfl
  exact observeForce_bounded (observeAngle_bounded hstored normalized) readings.loads

theorem pollFeedback_bounded (h : m.control.Bounded) (monotonicNs : ℤ) :
    (pollFeedback config backend m monotonicNs).2.control.Bounded := by
  unfold pollFeedback
  split
  · exact h
  · split
    rename_i startedNs context _
    split
    · exact fault_bounded (m := m.withContext _) h _
    · rename_i readings context' _
      split
      · exact h
      · rename_i normalized hnormalized
        split
        rename_i endedNs context'' _
        extract_lets stored
        have hunit := normalizeRaw_inUnit hnormalized
        have hstored : stored.control.Bounded :=
          storeReadings_bounded (m := m.withContext context'') h readings hunit monotonicNs
        split_ifs
        · exact fault_bounded hstored _
        · exact fault_bounded hstored _
        · exact measureCommand_bounded hstored hunit _

theorem acceptRegister_bounded (h : m.control.Bounded) (name : FeedbackRegister)
    {feedback : PcDirectFeedback δ} (hf : InUnit feedback.positionNormalized) :
    (acceptRegister config m name feedback).control.Bounded := by
  have hset := setFeedback_bounded h hf
  cases name with
  | angle => exact measureCommand_bounded (observeAngle_bounded hset _) hf _
  | force => exact observeForce_bounded hset _
  | current => exact hset
  | status => exact hset
  | error => exact hset

theorem pollFeedbackRegister_bounded (h : m.control.Bounded) (name : FeedbackRegister)
    (monotonicNs : ℤ) :
    (pollFeedbackRegister config backend m name monotonicNs).2.control.Bounded := by
  unfold pollFeedbackRegister
  split
  · exact h
  · split
    rename_i startedNs context _
    split
    · unfold failRegister
      split_ifs
      · extract_lets held
        have hheld : held.control.Bounded := h.congr rfl rfl rfl
        split
        · exact hheld
        · exact hheld
      · exact fault_bounded (m := m.withContext _) h _
    · split
      unfold checkRegister
      extract_lets stored errors
      have hstored : stored.control.Bounded := h.congr rfl rfl rfl
      split_ifs
      · exact fault_bounded hstored _
      · exact fault_bounded hstored _
      · split
        · exact hstored
        · rename_i hfeedback
          exact acceptRegister_bounded hstored name (feedbackFromCache_inUnit hfeedback)

end Feedback

/-! ## Targets -/

section Targets

variable [IsStrictOrderedRing δ] [Exact δ] {config : ControlConfig δ}

theorem maximumClosureStep_le (config : ControlConfig δ) (i : Fin 6) :
    config.contactStop.maximumClosureStep i ≤ config.deltaLimit := by
  have hstep : config.contactStop.maximumClosureStep i ≤
      config.contactStop.closureBudgetPerForceSample i := by
    simpa using config.wellFormed.step_le i
  have hbudget : config.contactStop.closureBudgetPerForceSample i ≤ config.deltaLimit := by
    simpa using config.wellFormed.budget_le i
  exact hstep.trans hbudget

/-- The selected target lies between the previous and the requested one, and within
    `delta_limit` of the previous one. -/
theorem selectTarget_between (config : ControlConfig δ) (measured : Bool)
    (previous requested : Channels δ) (i : Fin 6) :
    |selectTarget config measured previous requested i - previous i| ≤ config.deltaLimit ∧
      min (previous i) (requested i) ≤ selectTarget config measured previous requested i ∧
      selectTarget config measured previous requested i ≤ max (previous i) (requested i) := by
  have hlimit := deltaLimit_pos config
  have hpos := maximumClosureStep_pos config i
  have hle := maximumClosureStep_le config i
  obtain ⟨step, hselect, hclosing, hopening, hbound⟩ : ∃ step,
      selectTarget config measured previous requested i = previous i + step ∧
        (0 ≤ requested i - previous i → 0 ≤ step ∧ step ≤ requested i - previous i) ∧
        (requested i - previous i ≤ 0 → requested i - previous i ≤ step ∧ step ≤ 0) ∧
        |step| ≤ config.deltaLimit := by
    unfold selectTarget
    simp only [Exact.add_eq, Exact.sub_eq, Exact.zero_eq, Exact.le_eq, Exact.minimum_eq,
      Exact.maximum_eq, Exact.clip_eq, zero_sub, decide_eq_true_eq]
    generalize requested i - previous i = delta
    split_ifs with hmode hsign
    · refine ⟨_, rfl, fun h => ⟨le_min h hpos.le, min_le_left _ _⟩, fun h => ?_, ?_⟩
      · have hzero : delta = 0 := le_antisymm h hsign
        rw [hzero, min_eq_left hpos.le]
        exact ⟨le_rfl, le_rfl⟩
      · rw [abs_of_nonneg (le_min hsign hpos.le)]
        exact (min_le_right _ _).trans hle
    · rw [not_le] at hsign
      refine ⟨_, rfl, fun h => absurd h (not_le.mpr hsign), fun _ => ⟨le_max_left _ _, ?_⟩, ?_⟩
      · exact max_le hsign.le (neg_nonpos.mpr hlimit.le)
      · rw [abs_of_nonpos (max_le hsign.le (neg_nonpos.mpr hlimit.le))]
        exact neg_le.mp (le_max_right _ _)
    · refine ⟨_, rfl, fun h => ⟨?_, ?_⟩, fun h => ⟨?_, ?_⟩, ?_⟩
      · exact le_min (le_max_of_le_left h) hlimit.le
      · exact (min_le_left _ _).trans (max_le le_rfl ((neg_nonpos.mpr hlimit.le).trans h))
      · exact le_min (le_max_left _ _) (h.trans hlimit.le)
      · exact (min_le_left _ _).trans (max_le h (neg_nonpos.mpr hlimit.le))
      · rw [abs_le]
        exact ⟨le_min (le_max_right _ _) (by linarith), min_le_right _ _⟩
  rw [hselect, add_sub_cancel_left]
  refine ⟨hbound, ?_, ?_⟩
  · rcases le_total 0 (requested i - previous i) with h | h
    · exact (min_le_left _ _).trans (by linarith [(hclosing h).1])
    · exact (min_le_right _ _).trans (by linarith [(hopening h).1])
  · rcases le_total 0 (requested i - previous i) with h | h
    · exact le_max_of_le_right (by linarith [(hclosing h).2])
    · exact le_max_of_le_left (by linarith [(hopening h).2])

variable {control : RH56PcDirectControl δ}

theorem contactLimitedTarget_nonneg (config : ControlConfig δ)
    (h : control.contact.Sound) {requested : Channels δ} (allowRelease : Bool) {i : Fin 6}
    (hr : 0 ≤ requested i) : 0 ≤ contactLimitedTarget config control requested allowRelease i := by
  unfold contactLimitedTarget
  split_ifs
  · cases hhold : control.contact.holdTarget i with
    | none => exact hr
    | some hold =>
      show 0 ≤ PyFloat.pyMin (requested i) hold
      rw [Exact.pyMin_eq]
      exact le_min hr (h.nonneg i hold hhold)
  · exact hr

theorem budgetTarget_between (config : ControlConfig δ) (closure previous limited : Channels δ)
    (i : Fin 6) :
    min (previous i) (limited i) ≤ budgetTarget config closure previous limited i ∧
      budgetTarget config closure previous limited i ≤ limited i := by
  unfold budgetTarget
  extract_lets remaining
  have hremaining : 0 ≤ remaining := by simp [remaining]
  split_ifs
  · rw [Exact.minimum_eq, Exact.add_eq]
    exact ⟨le_min (min_le_right _ _) ((min_le_left _ _).trans (by linarith)), min_le_left _ _⟩
  · exact ⟨min_le_right _ _, le_rfl⟩

/-- A target after the limits lies between zero and the request; an ordinary one
    keeps to the contact limit. -/
theorem postContactTarget_between (hs : control.contact.Sound)
    {args : Command δ} {previous requested target : Channels δ}
    (h : (postContactTarget config control args previous requested).1 = some target) {i : Fin 6}
    (hp : 0 ≤ previous i) (hr : 0 ≤ requested i) :
    0 ≤ target i ∧ target i ≤ requested i ∧
      (args.measuredActivationWrite = false →
        target i ≤ contactLimitedTarget config control requested true i) := by
  unfold postContactTarget at h
  split_ifs at h with hmeasured
  · obtain rfl := Option.some.inj h
    refine ⟨hr, le_rfl, fun hordinary => ?_⟩
    rw [hmeasured] at hordinary
    cases hordinary
  · have hlimited := contactLimitedTarget_nonneg config hs true hr
    have hle := contactLimitedTarget_le config control requested true i
    unfold limitTarget at h
    extract_lets limited noted budgeted at h
    split_ifs at h
    · obtain rfl := Option.some.inj h
      obtain ⟨hlow, hhigh⟩ := budgetTarget_between config noted.contact.closureSinceForce previous
        limited i
      exact ⟨(le_min hp hlimited).trans hlow, hhigh.trans hle, fun _ => hhigh⟩
    · obtain rfl := Option.some.inj h
      exact ⟨hlimited, hle, fun _ => le_rfl⟩

theorem inRange_of_not {target : Channels δ} {ceiling : δ}
    (h : ¬∃ i, Double.isFinite (target i) = false ∨ Double.lt (target i) Double.zero = true ∨
      Double.lt ceiling (target i) = true) (i : Fin 6) : 0 ≤ target i ∧ target i ≤ ceiling := by
  simp only [Exact.isFinite_eq, Bool.true_eq_false, false_or, Exact.lt_eq, Exact.zero_eq,
    decide_eq_true_eq, not_exists, not_or, not_lt] at h
  exact h i

/-- A checked target lies in `[0, 1]`. -/
theorem checkTarget_inUnit {args : Command δ}
    {requested : Channels δ} (h : checkTarget config control args = .ok requested) :
    InUnit requested := by
  have hceiling : targetCeiling config args ≤ 1 := by
    unfold targetCeiling
    split_ifs
    · simp
    · simpa using config.maxClose_range.2.2
  have hrange : ∀ i, 0 ≤ requested i ∧ requested i ≤ targetCeiling config args := by
    unfold checkTarget at h
    cases htarget : Channels.ofList? args.target with
    | none =>
      rw [htarget] at h
      cases h
    | some target =>
      rw [htarget] at h
      simp only at h
      split_ifs at h with hbad hordinary hforced
      · obtain rfl := Except.ok.inj h
        exact inRange_of_not hbad
      · split at h
        · cases h
        · split_ifs at h
          obtain rfl := Except.ok.inj h
          exact inRange_of_not hbad
  exact fun i => ⟨(hrange i).1, (hrange i).2.trans hceiling⟩

end Targets

/-! ## Runs -/

section Runs

variable {config : ControlConfig δ} {backend : PcDirectBackend κ δ} {m m' : Machine κ δ}

theorem Unwritten.bounded (hu : Unwritten config m m') (h : m.control.Bounded) :
    m'.control.Bounded where
  feedback := hu.feedback ▸ h.feedback
  command := hu.normalized ▸ h.command
  contact := by
    rcases hu.contact with hsame | ⟨requested, hreleased⟩
    · exact hsame ▸ h.contact
    · exact hreleased ▸ h.contact.release config requested true

variable [IsStrictOrderedRing δ] [Exact δ]

variable {previous requested target : Channels δ}

/-- The selected target of a write lies in `[0, 1]`. -/
theorem Written.inUnit {args : Command δ}
    (hw : Written config m m' args previous requested target) (h : m.control.Bounded) :
    InUnit (selectTarget config args.measuredActivationWrite previous target) := by
  intro i
  have hprevious := h.command previous hw.last i
  have hrequested := checkTarget_inUnit hw.checked i
  obtain ⟨htarget, hle, -⟩ := postContactTarget_between h.contact hw.limited hprevious.1
    hrequested.1
  obtain ⟨-, hlow, hhigh⟩ := selectTarget_between config
    args.measuredActivationWrite previous target i
  exact ⟨(le_min hprevious.1 htarget).trans hlow,
    hhigh.trans (max_le hprevious.2 (hle.trans hrequested.2))⟩

theorem Written.bounded {args : Command δ}
    (hw : Written config m m' args previous requested target) (h : m.control.Bounded) :
    m'.control.Bounded where
  feedback := hw.feedback ▸ h.feedback
  command := by
    intro selected hselected
    rw [hw.normalized] at hselected
    obtain rfl := Option.some.inj hselected
    exact hw.inUnit h
  contact := by
    rw [hw.contact]
    have hlimits : (m.withControl (postContactTarget config m.control args previous
        requested).2).control.Bounded :=
      (postContactTarget_unwritten args previous requested).bounded h
    exact ⟨hlimits.contact.counted, hlimits.contact.held, hlimits.contact.nonneg⟩

/-- **Step lemma.** -/
theorem step_bounded (h : m.control.Bounded) (call : Call δ) :
    (step config backend m call).control.Bounded := by
  cases call with
  | openTransport operation =>
    show (openTransport backend m operation).2.control.Bounded
    unfold openTransport
    split
    · exact fault_bounded (m := m.withContext _) h _
    · exact fault_bounded (m := m.withContext _) h _
    · exact h.congr rfl rfl rfl
  | pollFeedback monotonicNs => exact pollFeedback_bounded h monotonicNs
  | pollFeedbackRegister name monotonicNs => exact pollFeedbackRegister_bounded h name monotonicNs
  | activate monotonicNs => exact activate_bounded h monotonicNs
  | command args =>
    rcases command_cases args with ⟨-, hunwritten⟩ | ⟨-, previous, requested, target, hwritten⟩
    · exact hunwritten.bounded h
    · exact hwritten.bounded h
  | hold reason => exact hold_bounded h reason
  | popContactReliefTarget =>
    obtain ⟨pending, hpop⟩ := popContactReliefTarget_frame m.control
    show (m.withControl (popContactReliefTarget m.control).2).control.Bounded
    rw [hpop]
    exact ⟨h.feedback, h.command, ⟨h.contact.counted, h.contact.held, h.contact.nonneg⟩⟩
  | armTerminalStop reason => exact fault_bounded h _
  | transportFault reason => exact fault_bounded h reason
  | markFeedbackTimeout monotonicNs => exact markFeedbackTimeout_bounded h monotonicNs
  | cleanup => exact h.congr rfl rfl rfl

theorem runCalls_bounded (context : κ) (calls : List (Call δ)) :
    (runCalls config backend context calls).control.Bounded :=
  run_invariant (P := fun m : Machine κ δ => m.control.Bounded) (fun _ call h => step_bounded h call)
    bounded_init calls

/-- The raw values of a target lie between the safe bounds, up to rounding. -/
theorem denormalizeCanonical_safe [ExactConversions δ]
    (calibration : Channels (HandDofCalibration δ)) (normalized : Channels δ) (i : Fin 6) :
    min (calibration i).safeMin (calibration i).safeMax - 1 / 2 ≤
        (denormalizeCanonical calibration normalized i : δ) ∧
      (denormalizeCanonical calibration normalized i : δ) ≤ (calibration i).safeMax + 1 / 2 := by
  unfold denormalizeCanonical
  extract_lets dof clipped raw
  have hround := abs_le.mp (ExactConversions.abs_round_sub_le
    (PyFloat.toFloat32 (PyFloat.clip raw dof.safeMin dof.safeMax)))
  rw [ExactConversions.toFloat32_eq, Exact.clip_eq] at hround
  have hlow : min dof.safeMin dof.safeMax ≤ min (max raw dof.safeMin) dof.safeMax :=
    min_le_min (le_max_right _ _) le_rfl
  have hhigh : min (max raw dof.safeMin) dof.safeMax ≤ dof.safeMax := min_le_right _ _
  rw [ExactConversions.toFloat32_eq, Exact.clip_eq]
  constructor
  · linarith [hround.1]
  · linarith [hround.2]

/-- What a successful write keeps to. -/
structure Enveloped (config : ControlConfig δ) (m m' : Machine κ δ) (args : Command δ) : Prop where
  /-- the `ANGLE` snapshot is at most `feedback_stale_timeout_ns` old -/
  fresh : ∃ feedback ∈ m.control.lastFeedback,
    args.monotonicNs - feedback.monotonicNs ≤ config.feedbackStaleTimeoutNs
  state : m.control.state = .active ∨ args.contactRelief = true ∧ m.control.state = .hold
  write : ∃ previous selected raw,
    m'.history = .wrote ⟨args.measuredActivationWrite, previous, selected, raw⟩ (.ok true) ::
      m.history ∧
    m.control.lastCommandNormalized = some previous ∧
    (∀ target ∈ latest Event.commanded? m.history, previous = target) ∧
    m'.control.lastCommandNormalized = some selected ∧
    m'.control.lastCommandRaw = some raw ∧
    ∀ i, |selected i - previous i| ≤ config.deltaLimit ∧ 0 ≤ selected i ∧ selected i ≤ 1 ∧
      min (config.calibration i).safeMin (config.calibration i).safeMax - 1 / 2 ≤ (raw i : δ) ∧
      (raw i : δ) ≤ (config.calibration i).safeMax + 1 / 2

/-- **Main theorem.** In every run, a `command` that returns `True` has written within
    the envelope, and one that returns `False` or raises leaves
    `last_command_normalized` and `last_command_raw` alone. -/
theorem write_envelope [ExactConversions δ] (context : κ) (calls : List (Call δ))
    (args : Command δ) :
    let m := runCalls config backend context calls
    let result := command config backend m args
    (result.1 = .ok true → Enveloped config m result.2 args) ∧
      (result.1 ≠ .ok true →
        result.2.control.lastCommandNormalized = m.control.lastCommandNormalized ∧
          result.2.control.lastCommandRaw = m.control.lastCommandRaw) := by
  intro m result
  have hbounded : m.control.Bounded := runCalls_bounded context calls
  rcases @command_cases κ δ _ config backend m args with
    ⟨hfailed, hunwritten⟩ | ⟨hok, previous, requested, target, hwritten⟩
  · exact ⟨fun h => absurd h hfailed, fun _ => ⟨hunwritten.normalized, hunwritten.raw⟩⟩
  · refine ⟨fun _ => ?_, fun h => absurd hok h⟩
    obtain ⟨hfresh, hstate⟩ := commandGate_fresh hwritten.gate
    have hcommanded : m.protocol.Commanded := runCalls_commanded context calls
    have hunit := hwritten.inUnit hbounded
    refine ⟨?_, hstate, previous, _, _, hwritten.history, hwritten.last, ?_,
      hwritten.normalized, hwritten.raw, fun i => ?_⟩
    · unfold RH56PcDirectControl.isFresh at hfresh
      cases hfeedback : m.control.lastFeedback with
      | none =>
        rw [hfeedback] at hfresh
        cases hfresh
      | some feedback =>
        rw [hfeedback] at hfresh
        exact ⟨feedback, rfl, of_decide_eq_true hfresh⟩
    · intro latestTarget hlatest
      exact Option.some.inj (hwritten.last.symm.trans (hcommanded latestTarget hlatest))
    · have hmoved := selectTarget_between config args.measuredActivationWrite previous
        target i
      have hsafe := denormalizeCanonical_safe config.calibration
        (selectTarget config args.measuredActivationWrite previous target) i
      exact ⟨hmoved.1, (hunit i).1, (hunit i).2, hsafe.1, hsafe.2⟩

end Runs

/-- An engaged grip, before its first write. -/
def engagedCalls : List (Call ℚ) := [.openTransport .handOnly, .pollFeedback 0, .activate 0]

/-- The first write of a grip, in rational arithmetic. -/
theorem write_envelope_grip :
    Enveloped teleopConfig
      (runCalls teleopConfig FakeRH56PcDirectBackend.backend FakeRH56PcDirectBackend.init
        engagedCalls)
      (command teleopConfig FakeRH56PcDirectBackend.backend
        (runCalls teleopConfig FakeRH56PcDirectBackend.backend FakeRH56PcDirectBackend.init
          engagedCalls) (gripCommand 0.05 0)).2
      (gripCommand 0.05 0) := by
  have hwritten : (command teleopConfig FakeRH56PcDirectBackend.backend
      (runCalls teleopConfig FakeRH56PcDirectBackend.backend FakeRH56PcDirectBackend.init
        engagedCalls) (gripCommand 0.05 0)).1.toOption = some true := by
    decide +kernel
  refine (write_envelope FakeRH56PcDirectBackend.init engagedCalls (gripCommand 0.05 0)).1 ?_
  cases hresult : (command teleopConfig FakeRH56PcDirectBackend.backend
      (runCalls teleopConfig FakeRH56PcDirectBackend.backend FakeRH56PcDirectBackend.init
        engagedCalls) (gripCommand 0.05 0)).1 with
  | error error =>
    rw [hresult] at hwritten
    cases hwritten
  | ok written =>
    rw [hresult] at hwritten
    rw [Option.some.inj hwritten]

end HandLab.Rh56
