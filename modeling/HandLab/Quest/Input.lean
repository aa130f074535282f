import HandLab.Lib.History
import HandLab.Quest.Provider

/-!
# The Quest input

`QuestInput` runs a `ControllerProvider` with a `ControllerClutchAdapter`: a
packet is passed to `update`, a fault to `invalidate`, and a poll passes a
`snapshot` to `samples`. Its log holds what was accepted, invalidated and
polled.

`InputView` is what this amounts to, without the counters and the diagnostics.

* `apply_view`: the input refines the view; a call on it is the same call on
  the view.
-/

namespace HandLab.Quest

open HandLab.Lib HandLab.Clutch

variable {α : Type*}

/-- An entry of the log. -/
inductive QuestEvent (α : Type*)
  /-- `_accept` took a packet -/
  | accepted (packet : ControllerPacket α) (receiveNs : ℕ)
  | invalidated
  /-- a poll at a time, whose snapshot was stale or not -/
  | polled (nowNs : ℕ) (stale : Bool) (frame : ControllerClutchFrame α)
  deriving DecidableEq

inductive QuestCall (α : Type*)
  | update (packet : ControllerPacket α) (receiveNs : ℤ)
  | invalidate (reason : String)
  | poll (nowNs : ℤ)

/-! ## The input -/

/-- A provider with its adapter and their log, newest first. -/
structure QuestInput (α : Type*) where
  provider : ControllerProvider α
  adapter : ControllerClutchAdapter
  history : List (QuestEvent α)

/-- A new provider and a new adapter. -/
def QuestInput.init : QuestInput α := ⟨.init, .init, []⟩

section Apply

variable [LinearOrder α] [OrderBot α] (config : ProviderConfig) (releasedAt : α)

/-- The entry of `update`. -/
def QuestInput.arrivalEvents (s : QuestInput α) (packet : ControllerPacket α) (receiveNs : ℤ) :
    List (QuestEvent α) :=
  if 0 ≤ receiveNs ∧ (s.provider.arrival packet).isAccepted = true then
    [.accepted packet receiveNs.toNat]
  else []

/-- A poll: `adapter.samples(provider.snapshot(now))`. -/
def QuestInput.poll (s : QuestInput α) (nowNs : ℤ) :
    Except ProviderError (ControllerClutchFrame α) × QuestInput α :=
  match s.provider.snapshot config nowNs with
  | (.error error, provider) => (.error error, { s with provider })
  | (.ok state, provider) =>
    let (frame, adapter) := s.adapter.samples releasedAt state
    (.ok frame, { provider, adapter
                  history := .polled nowNs.toNat state.stale frame :: s.history })

/-- The input after a call, whether it returned or raised. -/
def QuestInput.apply (s : QuestInput α) : QuestCall α → QuestInput α
  | .update packet receiveNs =>
    { s with
      provider := (s.provider.update config packet receiveNs).2
      history := s.arrivalEvents packet receiveNs ++ s.history }
  | .invalidate reason =>
    { s with
      provider := (s.provider.invalidate reason).2
      history :=
        if reason.toList.all ControllerProvider.isSpace then s.history
        else .invalidated :: s.history }
  | .poll nowNs => (s.poll config releasedAt nowNs).2

end Apply

/-! ## The view -/

/-- The last packet, the sessions before its own, whether it was invalidated
    since, and the adapter. -/
structure InputView (α : Type*) where
  latest : Option (Accepted α)
  retired : Finset ℕ
  invalidated : Bool
  adapter : ControllerClutchAdapter
  history : List (QuestEvent α)

namespace InputView

/-- The first view. -/
def init : InputView α := ⟨none, ∅, false, .init, []⟩

variable (v : InputView α)

/-- A packet is accepted if its session is not over and it is newer than the
    last packet of its session. -/
def Accepts (packet : ControllerPacket α) : Prop :=
  packet.sessionId ∉ v.retired ∧ ∀ last ∈ v.latest,
    last.packet.sessionId = packet.sessionId →
      last.packet.sequenceNumber < packet.sequenceNumber

instance (packet : ControllerPacket α) : Decidable (v.Accepts packet) :=
  inferInstanceAs (Decidable (_ ∧ _))

/-- The session of the last packet is over when a packet of another comes. -/
def retire (packet : ControllerPacket α) : Finset ℕ :=
  match v.latest with
  | none => v.retired
  | some last =>
    if packet.sessionId = last.packet.sessionId then v.retired
    else insert last.packet.sessionId v.retired

/-- A packet is accepted. -/
def accept (packet : ControllerPacket α) (receiveNs : ℕ) : InputView α :=
  { v with
    latest := some ⟨packet, receiveNs⟩
    retired := v.retire packet
    invalidated := false
    history := .accepted packet receiveNs :: v.history }

/-- A fault. -/
def invalidate : InputView α :=
  { v with invalidated := true, history := .invalidated :: v.history }

/-- The last packet is not of this time, or there is none. -/
def isStale (config : ProviderConfig) (nowNs : ℕ) : Bool :=
  match v.latest with
  | none => true
  | some last =>
    decide (nowNs < last.hostReceiveNs) || decide (config.staleAfterNs < nowNs - last.hostReceiveNs)

/-- The last packet says that the controller is valid, and no fault came since. -/
def factsValid : Bool := (v.latest.any fun last => last.packet.factsValid) && !v.invalidated

variable [LinearOrder α] [OrderBot α] (config : ProviderConfig) (releasedAt : α)

/-- What a poll returns. -/
def frame (nowNs : ℕ) : ControllerClutchFrame α × ControllerClutchAdapter :=
  v.adapter.samplesAt releasedAt v.latest (v.factsValid && !v.isStale config nowNs)

def poll (nowNs : ℕ) : InputView α :=
  { v with
    adapter := (v.frame config releasedAt nowNs).2
    history :=
      .polled nowNs (v.isStale config nowNs) (v.frame config releasedAt nowNs).1 :: v.history }

/-- One call. -/
def apply : QuestCall α → InputView α
  | .update packet receiveNs =>
    if 0 ≤ receiveNs ∧ v.Accepts packet then v.accept packet receiveNs.toNat else v
  | .invalidate reason =>
    if reason.toList.all ControllerProvider.isSpace then v else v.invalidate
  | .poll nowNs => if nowNs < 0 then v else v.poll config releasedAt nowNs.toNat

end InputView

/-! ## Sessions -/

/-- The session of the last packet is not over, and the adapter follows it or one
    that is. -/
structure InputView.Sessions (v : InputView α) : Prop where
  current : ∀ last ∈ v.latest, last.packet.sessionId ∉ v.retired
  followed : ∀ session ∈ v.adapter.sessionId,
    session ∈ v.retired ∨ ∃ last ∈ v.latest, last.packet.sessionId = session

namespace InputView.Sessions

variable {v : InputView α}

theorem init : (InputView.init : InputView α).Sessions := ⟨nofun, nofun⟩

variable {packet : ControllerPacket α}

/-- A session that is over, or that of the last packet, is over or that of the
    next packet. -/
theorem retire {session : ℕ}
    (h : session ∈ v.retired ∨ ∃ last ∈ v.latest, last.packet.sessionId = session) :
    session ∈ v.retire packet ∨ packet.sessionId = session := by
  unfold InputView.retire
  cases hlatest : v.latest with
  | none =>
    refine .inl (h.resolve_right ?_)
    rintro ⟨last, hlast, -⟩
    exact absurd (hlatest.symm.trans hlast) nofun
  | some last =>
    have hsession : session ∈ v.retired ∨ last.packet.sessionId = session := by
      refine h.imp_right ?_
      rintro ⟨last', hlast', hsame⟩
      obtain rfl := Option.some.inj (hlatest.symm.trans hlast')
      exact hsame
    by_cases hsame : packet.sessionId = last.packet.sessionId
    · dsimp only
      rw [if_pos hsame, hsame]
      exact hsession
    · dsimp only
      rw [if_neg hsame]
      rcases hsession with h | rfl
      · exact .inl (Finset.mem_insert_of_mem h)
      · exact .inl (Finset.mem_insert_self _ _)

theorem notMem_retire (ha : v.Accepts packet) :
    packet.sessionId ∉ v.retire packet := by
  unfold InputView.retire
  cases v.latest with
  | none => exact ha.1
  | some last =>
    by_cases hsame : packet.sessionId = last.packet.sessionId
    · dsimp only
      rw [if_pos hsame]
      exact ha.1
    · dsimp only
      rw [if_neg hsame, Finset.mem_insert, not_or]
      exact ⟨hsame, ha.1⟩

theorem accept (hv : v.Sessions) (ha : v.Accepts packet)
    (receiveNs : ℕ) : (v.accept packet receiveNs).Sessions where
  current := by
    rintro _ ⟨⟩
    exact notMem_retire ha
  followed session hs := (retire (hv.followed session hs)).imp_right fun h => ⟨_, rfl, h⟩

variable [LinearOrder α] [OrderBot α] {config : ProviderConfig} {releasedAt : α}

theorem poll (hv : v.Sessions) (nowNs : ℕ) : (v.poll config releasedAt nowNs).Sessions where
  current := hv.current
  followed session hs := by
    cases hlatest : v.latest with
    | none =>
      have hsame : (v.poll config releasedAt nowNs).adapter.sessionId = v.adapter.sessionId := by
        rw [InputView.poll, InputView.frame, hlatest]
        rfl
      rw [hsame] at hs
      exact hv.followed session hs
    | some last =>
      have hlast : (v.poll config releasedAt nowNs).adapter.sessionId =
          some last.packet.sessionId := by
        rw [InputView.poll, InputView.frame, hlatest]
        rfl
      rw [hlast] at hs
      exact .inr ⟨last, hlatest, Option.some.inj hs⟩

theorem apply (hv : v.Sessions) (call : QuestCall α) :
    (v.apply config releasedAt call).Sessions := by
  unfold InputView.apply
  cases call with
  | update packet receiveNs =>
    dsimp only
    split_ifs with h
    · exact hv.accept h.2 _
    · exact hv
  | invalidate reason =>
    dsimp only
    split_ifs
    · exact hv
    · exact ⟨hv.current, hv.followed⟩
  | poll nowNs =>
    dsimp only
    split_ifs
    · exact hv
    · exact hv.poll _

end InputView.Sessions

/-! ## Refinement -/

def QuestInput.view (s : QuestInput α) : InputView α where
  latest := s.provider.latest
  retired := s.provider.retiredSessions
  invalidated := s.provider.forcedInvalidReason.isSome
  adapter := s.adapter
  history := s.history

/-- The current session is the session of the last packet. -/
def ControllerProvider.SessionKnown (p : ControllerProvider α) : Prop :=
  p.currentSession = p.latest.map fun last => last.packet.sessionId

section Refinement

variable {s : QuestInput α}

/-- The two machines accept the same packets. -/
theorem arrival_accepted (hs : s.provider.SessionKnown) (packet : ControllerPacket α) :
    (s.provider.arrival packet).isAccepted = true ↔ s.view.Accepts packet := by
  have hspec := s.provider.arrival_spec packet
  cases harrival : s.provider.arrival packet with
  | oldSession =>
    rw [harrival] at hspec
    exact iff_of_false nofun fun h => h.1 hspec
  | initialSession =>
    rw [harrival] at hspec
    obtain ⟨hretired, hcurrent⟩ := hspec
    have hlatest : s.provider.latest = none := by
      rw [ControllerProvider.SessionKnown, hcurrent] at hs
      exact Option.map_eq_none_iff.mp hs.symm
    refine iff_of_true rfl ⟨hretired, fun last hlast => ?_⟩
    exact absurd (hlatest.symm.trans hlast) nofun
  | newSession previous =>
    rw [harrival] at hspec
    obtain ⟨hretired, hcurrent, hne⟩ := hspec
    refine iff_of_true rfl ⟨hretired, fun last hlast hsame => ?_⟩
    rw [ControllerProvider.SessionKnown, hcurrent,
      show s.provider.latest = some last from hlast] at hs
    exact absurd (hsame.symm.trans (Option.some.inj hs).symm) hne
  | duplicate =>
    rw [harrival] at hspec
    obtain ⟨hcurrent, last, hlast, heq⟩ := hspec
    rw [ControllerProvider.SessionKnown, hcurrent, hlast] at hs
    refine iff_of_false nofun fun h => ?_
    have hlt := h.2 last hlast (Option.some.inj hs).symm
    omega
  | reorder =>
    rw [harrival] at hspec
    obtain ⟨hcurrent, last, hlast, hlt⟩ := hspec
    rw [ControllerProvider.SessionKnown, hcurrent, hlast] at hs
    refine iff_of_false nofun fun h => ?_
    have hnewer := h.2 last hlast (Option.some.inj hs).symm
    omega
  | forward last =>
    rw [harrival] at hspec
    obtain ⟨hretired, -, hlast, hlt⟩ := hspec
    refine iff_of_true rfl ⟨hretired, fun last' hlast' _ => ?_⟩
    obtain rfl := Option.some.inj (hlast.symm.trans hlast')
    exact hlt
  | assertion =>
    rw [harrival] at hspec
    rw [ControllerProvider.SessionKnown, hspec.1, hspec.2] at hs
    exact absurd hs nofun

theorem arrival_retired (hs : s.provider.SessionKnown) {packet : ControllerPacket α}
    (h : (s.provider.arrival packet).isAccepted = true) :
    (s.provider.arrival packet).retired s.provider.retiredSessions = s.view.retire packet := by
  have hspec := s.provider.arrival_spec packet
  unfold InputView.retire
  cases harrival : s.provider.arrival packet with
  | oldSession => rw [harrival] at h; exact absurd h nofun
  | duplicate => rw [harrival] at h; exact absurd h nofun
  | reorder => rw [harrival] at h; exact absurd h nofun
  | assertion => rw [harrival] at h; exact absurd h nofun
  | initialSession =>
    rw [harrival] at hspec
    rw [ControllerProvider.SessionKnown, hspec.2] at hs
    rw [show s.view.latest = none from Option.map_eq_none_iff.mp hs.symm]
    rfl
  | newSession previous =>
    rw [harrival] at hspec
    obtain ⟨-, hcurrent, hne⟩ := hspec
    rw [ControllerProvider.SessionKnown, hcurrent] at hs
    obtain ⟨last, hlast, rfl⟩ := Option.map_eq_some_iff.mp hs.symm
    rw [show s.view.latest = some last from hlast]
    dsimp only
    rw [if_neg hne]
    rfl
  | forward last =>
    rw [harrival] at hspec
    obtain ⟨-, hcurrent, hlast, -⟩ := hspec
    rw [ControllerProvider.SessionKnown, hcurrent, hlast] at hs
    rw [show s.view.latest = some last from hlast]
    dsimp only
    rw [if_pos (Option.some.inj hs)]
    rfl

theorem view_congr {t : QuestInput α} (hcore : t.provider.core = s.provider.core)
    (hadapter : t.adapter = s.adapter) (hhistory : t.history = s.history) :
    t.view = s.view ∧ (t.provider.SessionKnown ↔ s.provider.SessionKnown) := by
  obtain ⟨hlatest, hcurrent, hretired, hforced⟩ := (ControllerProvider.Core.mk.injEq ..).mp hcore
  constructor
  · rw [QuestInput.view, QuestInput.view, hlatest, hretired, hforced, hadapter, hhistory]
  · rw [ControllerProvider.SessionKnown, ControllerProvider.SessionKnown, hlatest, hcurrent]

variable [LinearOrder α] [OrderBot α] {config : ProviderConfig} {releasedAt : α}

theorem update_view (hs : s.provider.SessionKnown) (packet : ControllerPacket α) (receiveNs : ℤ) :
    (s.apply config releasedAt (.update packet receiveNs)).view =
        s.view.apply config releasedAt (.update packet receiveNs) ∧
      (s.apply config releasedAt (.update packet receiveNs)).provider.SessionKnown := by
  by_cases hreceive : 0 ≤ receiveNs
  · have hcore : (s.provider.update config packet receiveNs).2.core = _ :=
      ControllerProvider.update_core hreceive
    by_cases haccepted : (s.provider.arrival packet).isAccepted = true
    · have haccepts := (arrival_accepted hs packet).mp haccepted
      rw [ControllerProvider.receive_core_accepted haccepted, arrival_retired hs haccepted] at hcore
      obtain ⟨hlatest, hcurrent, hretired, hforced⟩ :=
        (ControllerProvider.Core.mk.injEq ..).mp hcore
      constructor
      · rw [InputView.apply, if_pos ⟨hreceive, haccepts⟩, InputView.accept, QuestInput.view]
        simp only [QuestInput.apply, QuestInput.arrivalEvents,
          if_pos (And.intro hreceive haccepted)]
        rw [hlatest, hretired, hforced]
        rfl
      · show (s.provider.update config packet receiveNs).2.currentSession =
          (s.provider.update config packet receiveNs).2.latest.map _
        rw [hcurrent, hlatest]
        rfl
    · have hnot : ¬s.view.Accepts packet := fun h => haccepted ((arrival_accepted hs packet).mpr h)
      rw [ControllerProvider.receive_core_refused (by simpa using haccepted)] at hcore
      obtain ⟨hview, hknown⟩ := view_congr (s := s)
        (t := s.apply config releasedAt (.update packet receiveNs)) hcore rfl
        (by simp [QuestInput.apply, QuestInput.arrivalEvents, haccepted])
      refine ⟨?_, hknown.mpr hs⟩
      rw [hview, InputView.apply, if_neg fun h => hnot h.2]
  · have hupdate : (s.provider.update config packet receiveNs).2 = s.provider := by
      rw [ControllerProvider.update, if_pos (not_le.mp hreceive)]
    obtain ⟨hview, hknown⟩ := view_congr (s := s)
      (t := s.apply config releasedAt (.update packet receiveNs))
      (congrArg ControllerProvider.core hupdate) rfl
      (by simp [QuestInput.apply, QuestInput.arrivalEvents, hreceive])
    refine ⟨?_, hknown.mpr hs⟩
    rw [hview, InputView.apply, if_neg fun h => hreceive h.1]

omit [LinearOrder α] [OrderBot α] in
/-- The two machines trust the same packets. -/
theorem factsValid_view : s.provider.factsValid = s.view.factsValid := by
  rw [ControllerProvider.factsValid, ← Option.not_isSome]
  rfl

/-- A poll at a time that is not negative returns the frame of the view. -/
theorem poll_eq {nowNs : ℤ} (hnow : ¬nowNs < 0) : s.poll config releasedAt nowNs =
    (.ok (s.view.frame config releasedAt nowNs.toNat).1,
      { provider := (s.provider.snapshotAt config nowNs.toNat).2
        adapter := (s.view.frame config releasedAt nowNs.toNat).2
        history := .polled nowNs.toNat (s.view.isStale config nowNs.toNat)
          (s.view.frame config releasedAt nowNs.toNat).1 :: s.history }) := by
  have hframe : s.adapter.samples releasedAt (s.provider.snapshotAt config nowNs.toNat).1 =
      s.view.frame config releasedAt nowNs.toNat := by
    rw [ControllerClutchAdapter.samples, ControllerProvider.snapshotAt_latest,
      ControllerProvider.snapshotAt_valid, factsValid_view]
    rfl
  simp only [QuestInput.poll, ControllerProvider.snapshot, if_neg hnow]
  rw [← hframe]
  rfl

theorem poll_view (hs : s.provider.SessionKnown) (nowNs : ℤ) :
    (s.apply config releasedAt (.poll nowNs)).view =
        s.view.apply config releasedAt (.poll nowNs) ∧
      (s.apply config releasedAt (.poll nowNs)).provider.SessionKnown := by
  by_cases hnow : nowNs < 0
  · have hpoll : (s.apply config releasedAt (.poll nowNs)) = s := by
      simp [QuestInput.apply, QuestInput.poll, ControllerProvider.snapshot, hnow]
    rw [hpoll, InputView.apply, if_pos hnow]
    exact ⟨rfl, hs⟩
  · -- the snapshot changes nothing that the view shows
    have hcore : (s.provider.snapshotAt config nowNs.toNat).2.core = s.provider.core :=
      ControllerProvider.snapshotAt_core nowNs.toNat
    obtain ⟨hlatest, hcurrent, hretired, hforced⟩ :=
      (ControllerProvider.Core.mk.injEq ..).mp hcore
    rw [QuestInput.apply, poll_eq hnow, InputView.apply, if_neg hnow]
    constructor
    · rw [InputView.poll, QuestInput.view]
      dsimp only
      rw [hlatest, hretired, hforced]
      rfl
    · show (s.provider.snapshotAt config nowNs.toNat).2.currentSession =
        (s.provider.snapshotAt config nowNs.toNat).2.latest.map _
      rw [hcurrent, hlatest]
      exact hs

/-- **Refinement.** A call on the input is the same call on its view. -/
theorem apply_view (hs : s.provider.SessionKnown) (call : QuestCall α) :
    (s.apply config releasedAt call).view = s.view.apply config releasedAt call ∧
      (s.apply config releasedAt call).provider.SessionKnown := by
  cases call with
  | update packet receiveNs => exact update_view hs packet receiveNs
  | invalidate reason =>
    by_cases hblank : reason.toList.all ControllerProvider.isSpace = true
    · simp [QuestInput.apply, InputView.apply, ControllerProvider.invalidate, hblank, hs]
    · simp only [QuestInput.apply, InputView.apply, ControllerProvider.invalidate, hblank]
      exact ⟨rfl, hs⟩
  | poll nowNs => exact poll_view hs nowNs

end Refinement

end HandLab.Quest
