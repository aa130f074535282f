import Mathlib.Data.Prod.Lex
import HandLab.Lib.Mailbox
import HandLab.ThinJaka.FaultLatch
import HandLab.ThinJaka.Sends

/-!
# Epochs and sequences

Between two resets the slot of the transport is a latest-only mailbox whose keys
are the pairs of epoch and sequence (`Protocol.Ledger`). With what each state
knows of the current epoch (`Protocol.EpochKnown`) and of the counters
(`Protocol.Counted`) this gives the sequence discipline of every run
(`sequence_discipline`).
-/

namespace HandLab.ThinJaka

open HandLab.Lib HandLab.CommandAbi

variable {κ δ : Type*}

/-! ## Reading the history -/

/-- The pair of epoch and sequence, ordered lexicographically. -/
def key (command : ShapedJointCommandV1 δ) : ℕ ×ₗ ℕ :=
  toLex (command.safetyEpoch.toNat, command.outputSequence.toNat)

/-- A command that `OfferLatest` accepts. -/
def Event.offer : Event δ → Option (ShapedJointCommandV1 δ)
  | .offered command _ => some command
  | _ => none

/-- A command that the slot held when `OfferLatest` accepted another. -/
def Event.supersededOffer : Event δ → Option (ShapedJointCommandV1 δ)
  | .offered _ superseded => superseded
  | _ => none

/-- A command that `Send` hands over successfully. -/
def Event.sentOk : Event δ → Option (ShapedJointCommandV1 δ)
  | .send _ command _ .ok => some command
  | _ => none

/-- The commands that `Send` has handed over since the last reset, newest
    first, with or without success. -/
def handed (h : List (Event δ)) : List (ShapedJointCommandV1 δ) :=
  recent (fun e => e.sent.map Prod.fst) h

/-- The commands offered since the last reset. -/
def offered (h : List (Event δ)) : List (ShapedJointCommandV1 δ) := recent Event.offer h

/-- The commands superseded since the last reset. -/
def superseded (h : List (Event δ)) : List (ShapedJointCommandV1 δ) :=
  recent Event.supersededOffer h

/-- The commands sent successfully since the last refresh, newest first. -/
def epochSent (h : List (Event δ)) : List (ShapedJointCommandV1 δ) :=
  (since Event.isRefreshed (sinceReset h)).filterMap Event.sentOk

/-- The epoch of the last successful refresh since the reset, and the value of
    `skipped_output_sequence_count_` at that time. -/
def lastRefresh (h : List (Event δ)) : Option (UInt64 × UInt64) :=
  latest (fun | .refreshed epoch skipped => some (epoch, skipped) | _ => none) (sinceReset h)

/-- A command that is handed over carries the epoch of the last refresh. -/
def CarriesEpoch (e : Event δ) (past : List (Event δ)) : Prop :=
  ∀ command nowNs, e.sent = some (command, nowNs) →
    ∃ skipped, lastRefresh past = some (command.safetyEpoch, skipped)

/-! ## The epoch by state -/

variable {config : ThinJakaConfig δ} {Allow : Sender → ShapedJointCommandV1 δ → ℤ → Prop}

/-- What each state knows of the epoch and of the slot. -/
def Protocol.EpochKnown (p : Protocol δ) : Prop :=
  match p.state with
  | .disconnected | .connecting | .connected => p.safetyEpoch = 0
  | .servoReady => p.safetyEpoch ≠ 0 → p.lastOutputSequence = 0
  | .measuredStateRefresh => p.safetyEpoch < p.refreshEpoch
  | .streaming | .controlledStopping => p.safetyEpoch ≠ 0 ∧ ∀ c, p.pending = some c →
      c.safetyEpoch = p.safetyEpoch ∧ p.lastOutputSequence < c.outputSequence
  | .stoppedReady | .faulted | .cleanup | .resetRequired => True

theorem Protocol.EpochKnown.active {p : Protocol δ} (h : p.EpochKnown)
    (hactive : p.state.isActive = true) : p.safetyEpoch ≠ 0 ∧ ∀ c, p.pending = some c →
      c.safetyEpoch = p.safetyEpoch ∧ p.lastOutputSequence < c.outputSequence := by
  rcases (ThinJakaState.isActive_iff _).mp hactive with hs | hs <;>
    simpa only [Protocol.EpochKnown, hs] using h

theorem Protocol.EpochKnown.of_active {p : Protocol δ} (hactive : p.state.isActive = true)
    (h : p.safetyEpoch ≠ 0 ∧ ∀ c, p.pending = some c →
      c.safetyEpoch = p.safetyEpoch ∧ p.lastOutputSequence < c.outputSequence) :
    p.EpochKnown := by
  rcases (ThinJakaState.isActive_iff _).mp hactive with hs | hs <;>
    simpa only [Protocol.EpochKnown, hs] using h

theorem Protocol.EpochKnown.of_faulted {p : Protocol δ} (h : p.state = .faulted) :
    p.EpochKnown := by
  simp only [Protocol.EpochKnown, h]

theorem isOpen_of_isActive {s : ThinJakaState} (h : s.isActive = true) : s.isOpen = true := by
  rcases (ThinJakaState.isActive_iff s).mp h with rfl | rfl <;> rfl

theorem Protocol.EpochKnown.fault {p : Protocol δ} (h : p.EpochKnown) (reason : StopReason)
    (stop : JakaFunctionResult) : (p.fault reason stop).EpochKnown := by
  by_cases hopen : p.state.isOpen = true
  · exact .of_faulted (Protocol.fault_state _ _ hopen)
  · rwa [Protocol.fault_of_closed _ _ (by simpa using hopen)]

theorem Protocol.EpochKnown.handOver {p : Protocol δ} (hactive : p.state.isActive = true)
    (hzero : p.safetyEpoch ≠ 0) (hpending : p.pending = none)
    (command : ShapedJointCommandV1 δ) (nowNs : ℤ) (result stop : JakaFunctionResult) :
    (p.handOver command nowNs result stop).EpochKnown := by
  have hopen := isOpen_of_isActive hactive
  have hnone {q : Protocol δ} (hq : q.state.isActive = true) (hz : q.safetyEpoch ≠ 0)
      (hp : q.pending = none) : q.EpochKnown :=
    .of_active hq ⟨hz, fun c hc => absurd (hp.symm.trans hc) (by simp)⟩
  exact Protocol.handOver_cases
    (fun _ => .of_faulted (Protocol.fault_state (p := p.log _) _ _ hopen))
    (fun _ _ => hnone rfl hzero hpending) (fun _ _ _ => trivial)
    (fun _ _ _ => .of_faulted (Protocol.fault_state (p := (p.log _).count command) _ _ hopen))
    (fun _ _ _ => hnone hactive hzero hpending)

theorem Move.epochKnown {p q : Protocol δ} (hmove : Move config Allow p q) (hwf : p.Wf config)
    (h : p.EpochKnown) : q.EpochKnown := by
  cases hmove with
  | fault reason stop => exact h.fault reason stop
  | connecting hstate | connected hstate => simpa only [Protocol.EpochKnown, hstate] using h
  | prepared hstate hedg hservo hpolicy =>
    simp only [Protocol.EpochKnown, hstate] at h
    exact fun hzero => absurd h hzero
  | beginFromReady epoch hstate hepoch => exact hepoch
  | beginFromStopped epoch hstate hepoch hedg hservo => exact hepoch
  | refreshed hstate => exact fun _ => rfl
  | first command nowNs r stop hstate hzero hmode hseq hepoch hallow =>
    simp only [Protocol.Wf, hstate] at hwf
    exact .handOver (p := { p with state := .streaming }) rfl hzero hwf.2.2.2.1 command nowNs r stop
  | offer command hstate hepoch hseq hpending =>
    have hzero := (h.active hstate).1
    refine .of_active hstate ⟨hzero, fun c hc => ?_⟩
    cases hc
    exact ⟨hepoch hzero, hseq⟩
  | deliver command nowNs r stop hpending hallow =>
    have hactive := hwf.isActive hpending
    exact .handOver (p := { p with pending := none }) hactive (h.active hactive).1 rfl command
      nowNs r stop
  | explicitReset hstate hclean howned => rfl
  | beginCleanup | endCleanup => trivial
  | _ => exact h

/-! ## The slot as a mailbox -/

/-- The last key that was taken, or the start of the epoch. -/
def Protocol.mark (p : Protocol δ) : ℕ ×ₗ ℕ :=
  toLex (p.safetyEpoch.toNat, p.lastOutputSequence.toNat)

/-- The lists of the mailbox are what has happened since the last reset. -/
structure Books (h : List (Event δ)) (b : Mailbox (ℕ ×ₗ ℕ)) : Prop where
  posted : b.posted = (offered h).map key
  taken : b.taken = (handed h).map key
  superseded : b.superseded = (superseded h).map key

/-- The mailbox keeps the books of the slot; its own slot and mark matter while
    the adapter is open. -/
structure Protocol.Ledger (p : Protocol δ) (b : Mailbox (ℕ ×ₗ ℕ)) : Prop where
  books : Books p.history b
  slot : p.state.isOpen = true → b.slot = p.pending.map key
  mark : p.state.isOpen = true → b.mark ≤ p.mark

theorem key_lt {epoch : UInt64} {sequence : UInt64} {command : ShapedJointCommandV1 δ}
    (hepoch : command.safetyEpoch = epoch) (hseq : sequence < command.outputSequence) :
    toLex (epoch.toNat, sequence.toNat) < key command := by
  rw [key, hepoch, Prod.Lex.toLex_lt_toLex]
  exact .inr ⟨rfl, UInt64.lt_iff_toNat_lt.mp hseq⟩

theorem recent_fault {β : Type*} {f : Event δ → Option β}
    (hlatched : ∀ reason owned, f (.latched reason owned) = none)
    (hstop : ∀ r, f (.stopMotion r) = none) (p : Protocol δ) (reason : StopReason)
    (stop : JakaFunctionResult) : recent f (p.fault reason stop).history = recent f p.history := by
  unfold Protocol.fault
  split_ifs
  · rw [recent_cons _ _ _ rfl, recent_cons _ _ _ rfl, hstop, hlatched]
    rfl
  · rw [recent_cons _ _ _ rfl, hlatched]
    rfl
  · rfl

variable {p q : Protocol δ} {b : Mailbox (ℕ ×ₗ ℕ)}

theorem Books.fault (h : Books p.history b) (reason : StopReason) (stop : JakaFunctionResult) :
    Books (p.fault reason stop).history b where
  posted := by
    rw [offered, recent_fault (fun _ _ => rfl) (fun _ => rfl)]
    exact h.posted
  taken := by
    rw [handed, recent_fault (fun _ _ => rfl) (fun _ => rfl)]
    exact h.taken
  superseded := by
    rw [ThinJaka.superseded, recent_fault (fun _ _ => rfl) (fun _ => rfl)]
    exact h.superseded

variable {e : Event δ}

/-- An event that is neither an offer nor a send nor a reset. -/
theorem Books.quiet {h : List (Event δ)} (hbooks : Books h b)
    (hreset : e.isReset = false) (hoffer : e.offer = none) (hsuperseded : e.supersededOffer = none)
    (hsent : e.sent = none) : Books (e :: h) b where
  posted := by
    rw [offered, recent_cons _ _ _ hreset, hoffer]
    exact hbooks.posted
  taken := by
    rw [handed, recent_cons _ _ _ hreset, hsent]
    exact hbooks.taken
  superseded := by
    rw [ThinJaka.superseded, recent_cons _ _ _ hreset, hsuperseded]
    exact hbooks.superseded

section Books

variable {h : List (Event δ)} (hbooks : Books h b) {command : ShapedJointCommandV1 δ}

include hbooks

theorem Books.pass (sender : Sender) (htop : b.top < key command) (nowNs : ℤ)
    (r : JakaFunctionResult) :
    Books (.send sender command nowNs r :: h) (b.pass (key command) htop) :=
  ⟨hbooks.posted, congrArg (key command :: ·) hbooks.taken, hbooks.superseded⟩

theorem Books.take (sender : Sender) (hslot : b.slot = some (key command)) (nowNs : ℤ)
    (r : JakaFunctionResult) :
    Books (.send sender command nowNs r :: h) (b.take (key command) hslot) :=
  ⟨hbooks.posted, congrArg (key command :: ·) hbooks.taken, hbooks.superseded⟩

theorem Books.post {slot : Option (ShapedJointCommandV1 δ)} (hslot : b.slot = slot.map key)
    (htop : b.top < key command) :
    Books (.offered command slot :: h) (b.post (key command) htop) where
  posted := congrArg (key command :: ·) hbooks.posted
  taken := hbooks.taken
  superseded := by
    rw [ThinJaka.superseded, recent_cons _ _ _ rfl, List.map_append]
    refine congrArg₂ _ ?_ hbooks.superseded
    rw [hslot]
    cases slot <;> rfl

end Books

theorem Protocol.Ledger.of_closed (h : Books q.history b) (hclosed : q.state.isOpen = false) :
    q.Ledger b where
  books := h
  slot ho := absurd ho (by simp [hclosed])
  mark ho := absurd ho (by simp [hclosed])

theorem Protocol.Ledger.fault (h : p.Ledger b) (reason : StopReason) (stop : JakaFunctionResult) :
    (p.fault reason stop).Ledger b := by
  by_cases hopen : p.state.isOpen = true
  · refine .of_closed (h.books.fault reason stop) ?_
    rw [Protocol.fault_state _ _ hopen]
    rfl
  · rwa [Protocol.fault_of_closed _ _ (by simpa using hopen)]

/-- Books that list the command as taken are right after it is handed over. -/
theorem Protocol.Ledger.handOver {command : ShapedJointCommandV1 δ}
    (hbooks : ∀ nowNs r, Books (.send p.sender command nowNs r :: p.history) b)
    (hslot : b.slot = none) (hmark : b.mark = key command) (hpending : p.pending = none)
    (hepoch : command.safetyEpoch = p.safetyEpoch) (hactive : p.state.isActive = true)
    (nowNs : ℤ) (result stop : JakaFunctionResult) :
    (p.handOver command nowNs result stop).Ledger b := by
  have hopen := isOpen_of_isActive hactive
  have hcount : ((p.log (.send p.sender command nowNs .ok)).count command).mark = key command := by
    rw [key, hepoch]
    rfl
  have hlog {q : Protocol δ} (hhistory : q.history = .send p.sender command nowNs .ok :: p.history)
      (hq : q.pending = none) (hm : q.mark = key command) : q.Ledger b :=
    { books := hhistory ▸ hbooks nowNs .ok
      slot := fun _ => by rw [hq]; exact hslot
      mark := fun _ => by rw [hmark, hm] }
  refine Protocol.handOver_cases (P := fun q => q.Ledger b) (fun _ => ?_)
    (fun _ _ => hlog rfl hpending hcount) (fun _ _ _ => hlog rfl hpending hcount)
    (fun _ _ _ => ?_) (fun _ _ _ => hlog rfl hpending hcount)
  · refine .of_closed (Books.fault (p := p.log _) (hbooks nowNs result) _ _) ?_
    rw [Protocol.fault_state _ _ (by exact hopen)]
    rfl
  · exact Protocol.Ledger.fault (p := (p.log _).count command) (hlog rfl hpending hcount) _ _

/-- **The slot is a latest-only mailbox.** -/
theorem Move.ledger (hmove : Move config Allow p q) (hwf : p.Wf config) (hknown : p.EpochKnown)
    (h : p.Ledger b) : ∃ b', q.Ledger b' := by
  have quiet {e : Event δ} (hreset : e.isReset = false) (hoffer : e.offer = none)
      (hsuperseded : e.supersededOffer = none) (hsent : e.sent = none) :
      Books (e :: p.history) b := h.books.quiet hreset hoffer hsuperseded hsent
  cases hmove with
  | observe e he =>
    have hbooks : Books (e :: p.history) b := by
      cases e <;> first | exact quiet rfl rfl rfl rfl | simp [Event.isObservation] at he
    exact ⟨b, hbooks, h.slot, h.mark⟩
  | fault reason stop => exact ⟨b, h.fault reason stop⟩
  | connecting hstate =>
    exact ⟨b, h.books, fun _ => h.slot (by rw [hstate]; rfl), fun _ => h.mark (by rw [hstate]; rfl)⟩
  | connected hstate =>
    exact ⟨b, (quiet (e := .login .ok) rfl rfl rfl rfl).quiet rfl rfl rfl rfl,
      fun _ => h.slot (by rw [hstate]; rfl), fun _ => h.mark (by rw [hstate]; rfl)⟩
  | prepared hstate hedg hservo hpolicy =>
    exact ⟨b, quiet rfl rfl rfl rfl, fun _ => h.slot (by rw [hstate]; rfl),
      fun _ => h.mark (by rw [hstate]; rfl)⟩
  | beginFromReady epoch hstate hepoch =>
    have hslot := h.slot (by rw [hstate]; rfl)
    simp only [Protocol.Wf, hstate] at hwf
    rw [hwf.2.2.2.1] at hslot
    exact ⟨b, h.books, fun _ => hslot, fun _ => h.mark (by rw [hstate]; rfl)⟩
  | beginFromStopped epoch hstate hepoch hedg hservo =>
    have hslot := h.slot (by rw [hstate]; rfl)
    simp only [Protocol.Wf, hstate] at hwf
    rw [hwf.2.2.2.1] at hslot
    exact ⟨b, h.books, fun _ => hslot, fun _ => h.mark (by rw [hstate]; rfl)⟩
  | refreshed hstate =>
    -- a new epoch starts above all of the old one
    simp only [Protocol.EpochKnown, hstate] at hknown
    have hmark : p.mark ≤ toLex (p.refreshEpoch.toNat, 0) := by
      rw [Protocol.mark, Prod.Lex.toLex_le_toLex]
      exact .inl (UInt64.lt_iff_toNat_lt.mp hknown)
    exact ⟨b, quiet rfl rfl rfl rfl, fun _ => h.slot (by rw [hstate]; rfl),
      fun _ => (h.mark (by rw [hstate]; rfl)).trans hmark⟩
  | first command nowNs r stop hstate hzero hmode hseq hepoch hallow =>
    have hslot := h.slot (by rw [hstate]; rfl)
    simp only [Protocol.Wf, hstate] at hwf
    simp only [Protocol.EpochKnown, hstate] at hknown
    rw [hwf.2.2.2.1] at hslot
    have htop : b.top < key command := by
      rw [Mailbox.top, hslot]
      refine (h.mark (by rw [hstate]; rfl)).trans_lt (key_lt hepoch ?_)
      rw [hknown hzero]
      exact UInt64.pos_iff_ne_zero.mpr hseq
    exact ⟨b.pass (key command) htop, .handOver (p := { p with state := .streaming })
      (h.books.pass _ htop) rfl rfl hwf.2.2.2.1 hepoch rfl nowNs r stop⟩
  | offer command hstate hepoch hseq hpending =>
    obtain ⟨hzero, hslotKnown⟩ := hknown.active hstate
    have hopen := isOpen_of_isActive hstate
    have hslot := h.slot hopen
    have htop : b.top < key command := by
      rw [Mailbox.top, hslot]
      cases hp : p.pending with
      | none => exact (h.mark hopen).trans_lt (key_lt (hepoch hzero) hseq)
      | some c =>
        exact key_lt ((hepoch hzero).trans (hslotKnown c hp).1.symm) (hpending c hp)
    exact ⟨b.post (key command) htop, h.books.post hslot htop, fun _ => rfl,
      fun _ => h.mark hopen⟩
  | deliver command nowNs r stop hpending hallow =>
    have hactive := hwf.isActive hpending
    have hslot := h.slot (isOpen_of_isActive hactive)
    rw [hpending] at hslot
    exact ⟨b.take (key command) hslot, .handOver (p := { p with pending := none })
      (h.books.take _ hslot) rfl rfl rfl ((hknown.active hactive).2 command hpending).1 hactive
      nowNs r stop⟩
  | explicitReset hstate hclean howned =>
    exact ⟨.empty (toLex (0, 0)), ⟨rfl, rfl, rfl⟩, fun _ => rfl, fun _ => le_refl _⟩
  | beginCleanup hstate => exact ⟨b, .of_closed h.books rfl⟩
  | endCleanup failed hstate hclean => exact ⟨b, .of_closed h.books rfl⟩
  | _ => exact ⟨b, quiet rfl rfl rfl rfl, h.slot, h.mark⟩

/-! ## The epoch of a refresh -/

/-- The adapter's epoch is that of the last refresh. -/
def Protocol.Refreshed (p : Protocol δ) : Prop :=
  p.safetyEpoch ≠ 0 → ∃ skipped, lastRefresh p.history = some (p.safetyEpoch, skipped)

/-- An event that is neither a reset nor a refresh. -/
def Event.isLocal (e : Event δ) : Prop := e.isReset = false ∧ e.isRefreshed = false

theorem lastRefresh_cons (he : e.isLocal) (h : List (Event δ)) :
    lastRefresh (e :: h) = lastRefresh h := by
  rw [lastRefresh, sinceReset_cons _ _ he.1]
  refine latest_cons_of_none ?_ _
  cases e <;> first | rfl | simp [Event.isLocal, Event.isRefreshed] at he

theorem epochSent_cons (he : e.isLocal) (h : List (Event δ)) :
    epochSent (e :: h) = e.sentOk.toList ++ epochSent h := by
  unfold epochSent
  rw [sinceReset_cons _ _ he.1, since_cons_of_neg he.2]
  cases hs : e.sentOk with
  | none => rw [List.filterMap_cons_none hs]; rfl
  | some c => rw [List.filterMap_cons_some hs]; rfl

theorem Event.isLocal_of_isObservation (he : e.isObservation = true) :
    e.isLocal ∧ e.sentOk = none := by
  cases e <;> first | exact ⟨⟨rfl, rfl⟩, rfl⟩ | simp [Event.isObservation] at he

/-- What the counters of sequences and of skipped sequences say about the
    commands sent in the epoch. -/
structure Protocol.Counted (p : Protocol δ) : Prop where
  start : epochSent p.history = [] → ∀ epoch skipped,
    lastRefresh p.history = some (epoch, skipped) → p.lastOutputSequence = 0 ∧ p.skipped = skipped
  nonzero : epochSent p.history ≠ [] → p.lastOutputSequence ≠ 0
  count : ∀ first, (epochSent p.history).getLast? = some first → ∃ epoch skipped,
    lastRefresh p.history = some (epoch, skipped) ∧
    p.lastOutputSequence.toNat = first.outputSequence.toNat +
      ((epochSent p.history).length - 1) + (p.skipped - skipped).toNat

/-- Nothing has been sent in the epoch. -/
theorem Protocol.Counted.of_nil (hnil : epochSent p.history = [])
    (h : ∀ epoch skipped, lastRefresh p.history = some (epoch, skipped) →
      p.lastOutputSequence = 0 ∧ p.skipped = skipped) : p.Counted where
  start _ := h
  nonzero hne := absurd hnil hne
  count first hfirst := by simp [hnil] at hfirst

/-- A move that neither sends nor begins an epoch. -/
theorem Protocol.Counted.quiet (h : p.Counted) (hsent : epochSent q.history = epochSent p.history)
    (hrefresh : lastRefresh q.history = lastRefresh p.history)
    (hlast : q.lastOutputSequence = p.lastOutputSequence) (hskipped : q.skipped = p.skipped) :
    q.Counted where
  start := by rw [hsent, hrefresh, hlast, hskipped]; exact h.start
  nonzero := by rw [hsent, hlast]; exact h.nonzero
  count := by rw [hsent, hrefresh, hlast, hskipped]; exact h.count

theorem Protocol.Counted.log (h : p.Counted) (he : e.isLocal)
    (hsent : e.sentOk = none) (hq : q.history = e :: p.history)
    (hlast : q.lastOutputSequence = p.lastOutputSequence) (hskipped : q.skipped = p.skipped) :
    q.Counted := by
  refine h.quiet ?_ ?_ hlast hskipped
  · rw [hq, epochSent_cons he, hsent]
    rfl
  · rw [hq, lastRefresh_cons he]

theorem Protocol.Counted.fault (h : p.Counted) (reason : StopReason) (stop : JakaFunctionResult) :
    (p.fault reason stop).Counted := by
  have hlatched : ({ p with history := .latched reason p.sessionOwned :: p.history } :
      Protocol δ).Counted := h.log ⟨rfl, rfl⟩ rfl rfl rfl rfl
  unfold Protocol.fault
  split_ifs
  · exact hlatched.log ⟨rfl, rfl⟩ rfl rfl rfl rfl
  · exact hlatched.quiet rfl rfl rfl rfl
  · exact h

/-- The gap between two sequences is what the second send skips. -/
theorem skipped_gap {last next skipped base : UInt64} (hlt : last < next)
    (hle : (skipped - base).toNat ≤ last.toNat) :
    next.toNat + (skipped - base).toNat = last.toNat + 1 +
      ((if last + 1 < next then skipped + (next - last - 1) else skipped) - base).toNat := by
  have hone : (1 : UInt64).toNat = 1 := rfl
  have hnext := next.toNat_lt
  have hskipped := skipped.toNat_lt
  have hbase := base.toNat_lt
  split_ifs with hgap <;>
    simp only [UInt64.lt_iff_toNat_lt, UInt64.toNat_sub, UInt64.toNat_add, hone] at * <;> omega

/-- A successful send keeps the count. -/
theorem Protocol.Counted.send (h : p.Counted) (hrefresh : p.Refreshed) (hzero : p.safetyEpoch ≠ 0)
    {command : ShapedJointCommandV1 δ} (hlt : p.lastOutputSequence < command.outputSequence)
    (sender : Sender) (nowNs : ℤ) :
    ((p.log (.send sender command nowNs .ok)).count command).Counted := by
  have hsent : epochSent ((p.log (.send sender command nowNs .ok)).count command).history =
      command :: epochSent p.history := epochSent_cons ⟨rfl, rfl⟩ _
  have hlocal : lastRefresh ((p.log (.send sender command nowNs .ok)).count command).history =
      lastRefresh p.history := lastRefresh_cons ⟨rfl, rfl⟩ _
  obtain ⟨base, hbase⟩ := hrefresh hzero
  constructor
  · intro hnil
    rw [hsent] at hnil
    cases hnil
  · intro _ hseq
    rw [show command.outputSequence = 0 from hseq] at hlt
    exact absurd hlt UInt64.not_lt_zero
  · intro first hfirst
    rw [hsent] at hfirst ⊢
    rw [hlocal]
    refine ⟨p.safetyEpoch, base, hbase, ?_⟩
    cases hl : epochSent p.history with
    | nil =>
      obtain ⟨hlast, hskipped⟩ := h.start hl _ _ hbase
      rw [hl] at hfirst
      cases hfirst
      simp [Protocol.count, Protocol.log, hlast, hskipped]
    | cons c l =>
      have hlast := h.nonzero (by rw [hl]; exact List.cons_ne_nil _ _)
      rw [hl, List.getLast?_cons_cons] at hfirst
      obtain ⟨epoch, base', hbase', hcount⟩ := h.count first (by rw [hl]; exact hfirst)
      cases hbase.symm.trans hbase'
      have hle : (p.skipped - base).toNat ≤ p.lastOutputSequence.toNat := by omega
      have hgap := skipped_gap hlt hle
      simp only [hl, List.length_cons] at hcount ⊢
      simp only [Protocol.count, Protocol.log, ne_eq, hlast, not_false_eq_true, true_and]
      omega

theorem Protocol.Counted.handOver (h : p.Counted) (hrefresh : p.Refreshed)
    (hzero : p.safetyEpoch ≠ 0) {command : ShapedJointCommandV1 δ}
    (hlt : p.lastOutputSequence < command.outputSequence) (nowNs : ℤ)
    (result stop : JakaFunctionResult) : (p.handOver command nowNs result stop).Counted := by
  have hsend := h.send hrefresh hzero hlt p.sender nowNs
  refine Protocol.handOver_cases (fun hfailed => ?_) (fun _ _ => hsend.quiet rfl rfl rfl rfl)
    (fun _ _ _ => hsend.quiet rfl rfl rfl rfl) (fun _ _ _ => hsend.fault _ _) (fun _ _ _ => hsend)
  have hlog : (p.log (.send p.sender command nowNs result)).Counted := by
    refine h.log ⟨rfl, rfl⟩ ?_ rfl rfl rfl
    cases result <;> first | rfl | exact absurd rfl hfailed
  exact hlog.fault _ _

theorem Move.counted (hmove : Move config Allow p q) (hwf : p.Wf config) (hknown : p.EpochKnown)
    (hrefresh : p.Refreshed) (h : p.Counted) : q.Counted := by
  cases hmove with
  | observe e he =>
    obtain ⟨hlocal, hsent⟩ := Event.isLocal_of_isObservation he
    exact h.log hlocal hsent rfl rfl rfl
  | fault reason stop => exact h.fault reason stop
  | connected hstate =>
    have hlogin : (p.log (.login .ok)).Counted := h.log ⟨rfl, rfl⟩ rfl rfl rfl rfl
    exact hlogin.log ⟨rfl, rfl⟩ rfl rfl rfl rfl
  | refreshed hstate =>
    refine .of_nil rfl fun epoch skipped hs => ?_
    cases hs
    exact ⟨rfl, rfl⟩
  | explicitReset hstate hclean howned => exact .of_nil rfl fun _ _ hs => by cases hs
  | first command nowNs r stop hstate hzero hmode hseq hepoch hallow =>
    simp only [Protocol.EpochKnown, hstate] at hknown
    refine Protocol.Counted.handOver (p := { p with state := .streaming })
      (h.quiet rfl rfl rfl rfl) hrefresh hzero ?_ nowNs r stop
    rw [show p.lastOutputSequence = 0 from hknown hzero]
    exact UInt64.pos_iff_ne_zero.mpr hseq
  | deliver command nowNs r stop hpending hallow =>
    obtain ⟨hzero, hslot⟩ := hknown.active (hwf.isActive hpending)
    exact Protocol.Counted.handOver (p := { p with pending := none })
      (h.quiet rfl rfl rfl rfl) hrefresh hzero (hslot command hpending).2 nowNs r stop
  | connecting | beginFromReady | beginFromStopped | beginCleanup | endCleanup =>
    exact h.quiet rfl rfl rfl rfl
  | _ => exact h.log ⟨rfl, rfl⟩ rfl rfl rfl rfl

theorem Protocol.Refreshed.log (h : p.Refreshed) (he : e.isLocal)
    (hq : q.history = e :: p.history) (hepoch : q.safetyEpoch = p.safetyEpoch) : q.Refreshed := by
  intro hzero
  rw [hepoch] at hzero ⊢
  rw [hq, lastRefresh_cons he]
  exact h hzero

theorem Protocol.Refreshed.fault (h : p.Refreshed) (reason : StopReason)
    (stop : JakaFunctionResult) : (p.fault reason stop).Refreshed := by
  have hlatched : ({ p with history := .latched reason p.sessionOwned :: p.history } :
      Protocol δ).Refreshed := h.log ⟨rfl, rfl⟩ rfl rfl
  unfold Protocol.fault
  split_ifs
  · exact hlatched.log ⟨rfl, rfl⟩ rfl rfl
  · exact hlatched
  · exact h

theorem Protocol.Refreshed.handOver (h : p.Refreshed) (command : ShapedJointCommandV1 δ)
    (nowNs : ℤ) (result stop : JakaFunctionResult) :
    (p.handOver command nowNs result stop).Refreshed := by
  have hlog (r : JakaFunctionResult) {q : Protocol δ}
      (hq : q.history = .send p.sender command nowNs r :: p.history)
      (hepoch : q.safetyEpoch = p.safetyEpoch) : q.Refreshed := h.log ⟨rfl, rfl⟩ hq hepoch
  exact Protocol.handOver_cases
    (fun _ => Protocol.Refreshed.fault (p := p.log _) (hlog result rfl rfl) _ _)
    (fun _ _ => hlog .ok rfl rfl) (fun _ _ _ => hlog .ok rfl rfl)
    (fun _ _ _ => Protocol.Refreshed.fault (p := (p.log _).count command) (hlog .ok rfl rfl) _ _)
    (fun _ _ _ => hlog .ok rfl rfl)

theorem Move.refreshedKnown (hmove : Move config Allow p q) (h : p.Refreshed) : q.Refreshed := by
  cases hmove with
  | observe e he => exact h.log (Event.isLocal_of_isObservation he).1 rfl rfl
  | fault reason stop => exact h.fault reason stop
  | connected hstate =>
    exact (h.log (q := p.log (.login .ok)) ⟨rfl, rfl⟩ rfl rfl).log ⟨rfl, rfl⟩ rfl rfl
  | refreshed hstate => exact fun _ => ⟨p.skipped, rfl⟩
  | explicitReset hstate hclean howned => exact fun hzero => absurd rfl hzero
  | first command nowNs r stop hstate hzero hmode hseq hepoch hallow =>
    exact Protocol.Refreshed.handOver (p := { p with state := .streaming }) h command nowNs r stop
  | deliver command nowNs r stop hpending hallow =>
    exact Protocol.Refreshed.handOver (p := { p with pending := none }) h command nowNs r stop
  | connecting | beginFromReady | beginFromStopped | beginCleanup | endCleanup => exact h
  | _ => exact h.log ⟨rfl, rfl⟩ rfl rfl

theorem CarriesEpoch.of_none {past : List (Event δ)} (he : e.sent = none) :
    CarriesEpoch e past := by
  intro command nowNs h
  rw [he] at h
  cases h

theorem Move.carriesEpoch (hmove : Move config Allow p q) (hwf : p.Wf config)
    (hknown : p.EpochKnown) (hrefresh : p.Refreshed) (h : Whenever CarriesEpoch p.history) :
    Whenever CarriesEpoch q.history := by
  refine hmove.whenever_sent (fun _ _ => .of_none) h
    (fun command nowNs r hstate hzero hmode hepoch hallow => ?_)
    (fun command nowNs r hpending hallow => ?_)
  · rintro _ _ ⟨⟩
    rw [hepoch]
    exact hrefresh hzero
  · rintro _ _ ⟨⟩
    obtain ⟨hzero, hslot⟩ := hknown.active (hwf.isActive hpending)
    rw [(hslot command hpending).1]
    exact hrefresh hzero

/-! ## Every run -/

/-- The invariant of the sequence discipline. -/
structure Protocol.Sequenced (config : ThinJakaConfig δ) (p : Protocol δ) : Prop where
  wf : p.Wf config
  known : p.EpochKnown
  ledger : ∃ b, p.Ledger b
  refreshed : p.Refreshed
  counted : p.Counted
  sends : Whenever CarriesEpoch p.history

theorem Protocol.sequenced_init : (Protocol.init : Protocol δ).Sequenced config where
  wf := Protocol.wf_init
  known := rfl
  ledger := ⟨.empty (toLex (0, 0)), ⟨rfl, rfl, rfl⟩, fun _ => rfl, fun _ => le_refl _⟩
  refreshed := fun hzero => absurd rfl hzero
  counted := .of_nil rfl fun _ _ hs => by cases hs
  sends := whenever_nil

theorem Move.sequenced (hmove : Move config Allow p q) (h : p.Sequenced config) :
    q.Sequenced config where
  wf := hmove.wf h.wf
  known := hmove.epochKnown h.wf h.known
  ledger := by
    obtain ⟨b, hb⟩ := h.ledger
    exact hmove.ledger h.wf h.known hb
  refreshed := hmove.refreshedKnown h.refreshed
  counted := hmove.counted h.wf h.known h.refreshed h.counted
  sends := hmove.carriesEpoch h.wf h.known h.refreshed h.sends

/-- **Main theorem.** The sequence discipline since the last reset, in every
    run. (a) What is handed over strictly increases in epoch and sequence, and
    (b) carries the epoch of the last refresh. (c) Offers strictly increase, and
    each is handed over once at most. (d) What has been superseded is never
    handed over. (e) In an epoch the last sequence is the first one, plus one for
    every further command sent, plus the increase of the count of skipped
    sequences since the refresh. -/
theorem sequence_discipline [Double δ] (sdk : JakaSdkFunctionTable κ δ)
    (config : ThinJakaConfig δ) (context : κ) (calls : List (Call δ)) :
    let m := runCalls sdk config context calls
    (handed m.history).Pairwise (fun later earlier => key earlier < key later) ∧
    Whenever CarriesEpoch m.history ∧
    ((offered m.history).Pairwise (fun later earlier => key earlier < key later) ∧
      ∀ c ∈ offered m.history, ((handed m.history).filter (key · = key c)).length ≤ 1) ∧
    (∀ c ∈ superseded m.history, ∀ d ∈ handed m.history, key d ≠ key c) ∧
    (∀ first, (epochSent m.history).getLast? = some first → ∃ epoch skipped,
      lastRefresh m.history = some (epoch, skipped) ∧
      m.adapter.lastOutputSequence.toNat = first.outputSequence.toNat +
        ((epochSent m.history).length - 1) +
        (m.adapter.skippedOutputSequenceCount - skipped).toNat) := by
  intro m
  have hm : m.protocol.Sequenced config :=
    runCalls_invariant (fun _ _ hmove h => hmove.sequenced h) Protocol.sequenced_init context calls
  obtain ⟨b, hb⟩ := hm.ledger
  have hbooks : Books m.history b := hb.books
  have htaken := b.taken_sorted
  have hposted := b.posted_sorted
  rw [hbooks.taken, List.pairwise_map] at htaken
  rw [hbooks.posted, List.pairwise_map] at hposted
  refine ⟨htaken, hm.sends, ⟨hposted, fun c _ => ?_⟩, fun c hc d hd heq => ?_, hm.counted.count⟩
  · have honce := b.length_filter_taken_le_one (key c)
    rwa [hbooks.taken, List.filter_map, List.length_map] at honce
  · refine b.disjoint (key c) ?_ ?_
    · rw [hbooks.superseded]
      exact List.mem_map_of_mem hc
    · rw [hbooks.taken, ← heq]
      exact List.mem_map_of_mem hd

end HandLab.ThinJaka
