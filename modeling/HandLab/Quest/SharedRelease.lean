import HandLab.Lib.Numeral
import HandLab.Quest.Input
import Mathlib.Algebra.Field.Rat
import Mathlib.Algebra.Order.Ring.Rat

/-!
# The shared release

After a fault of the controller (`IsFault`) both samples are to stay invalid
until a valid packet that was received after the fault has both triggers
released (`SharedRelease`).

* `shared_release`: they do in every run in which every fault is known to the
  adapter when the next valid packet is accepted, and the clock of the polls
  makes no old packet fresh again (`FaultsSeen`).
* `forgotten_fault`: `_accept` clears a fault that no poll has seen.
-/

namespace HandLab.Quest

open HandLab.Lib HandLab.Clutch ControllerClutchAdapter

variable {α : Type*}

/-! ## What a log says -/

/-- The packet of an entry. -/
def QuestEvent.accepted? : QuestEvent α → Option (Accepted α)
  | .accepted packet receiveNs => some ⟨packet, receiveNs⟩
  | .invalidated => none
  | .polled _ _ _ => none

def lastAccepted (h : List (QuestEvent α)) : Option (Accepted α) := latest QuestEvent.accepted? h

/-- What happened since then. -/
def sinceAccepted (h : List (QuestEvent α)) : List (QuestEvent α) :=
  since (fun event => event.accepted?.isSome) h

/-- A fault of the controller: a packet that says so, that is of another session
    than the last one or comes after a stale period, a call of `invalidate`, or
    a stale poll. -/
def IsFault (config : ProviderConfig) : QuestEvent α → List (QuestEvent α) → Prop
  | .accepted packet receiveNs, past =>
    packet.factsValid = false ∨ ∃ last ∈ lastAccepted past,
      packet.sessionId ≠ last.packet.sessionId ∨
        last.hostReceiveNs + config.staleAfterNs < receiveNs
  | .invalidated, _ => True
  | .polled _ stale _, _ => stale = true

/-- A valid packet with both triggers released. -/
def Accepted.IsRelease [LinearOrder α] (releasedAt : α) (last : Accepted α) : Prop :=
  last.packet.factsValid = true ∧ bothReleased releasedAt last.packet = true

/-- A packet that was accepted before a poll was received after its time. -/
def QuestEvent.before : QuestEvent α → Accepted α → Prop
  | .polled nowNs _ _, last => nowNs < last.hostReceiveNs
  | .accepted _ _, _ => False
  | .invalidated, _ => False

section Settled

variable [LinearOrder α] (config : ProviderConfig) (releasedAt : α)

/-- A release was received after the fault. A packet that ends a stale period or
    starts a session came after it. -/
def ReleasedAfter (later : List (QuestEvent α)) (fault : QuestEvent α)
    (earlier : List (QuestEvent α)) : Prop :=
  ∃ last : Accepted α, last.IsRelease releasedAt ∧
    (some last ∈ (later ++ [fault]).map QuestEvent.accepted? ∨
      some last ∈ earlier.map QuestEvent.accepted? ∧ fault.before last)

/-- A release was received after every fault. -/
def Settled (h : List (QuestEvent α)) : Prop :=
  ∀ later fault earlier, h = later ++ fault :: earlier → IsFault config fault earlier →
    ReleasedAfter releasedAt later fault earlier

/-- A poll gives a valid sample only when a release was received after every fault. -/
def SharedRelease : QuestEvent α → List (QuestEvent α) → Prop
  | .polled _ _ frame, past =>
    frame.index.valid = true ∨ frame.grip.valid = true → Settled config releasedAt past
  | .accepted _ _, _ => True
  | .invalidated, _ => True

variable {config releasedAt} {h : List (QuestEvent α)} {event : QuestEvent α}

theorem ReleasedAfter.cons {later : List (QuestEvent α)} {fault : QuestEvent α}
    {earlier : List (QuestEvent α)} (hr : ReleasedAfter releasedAt later fault earlier) :
    ReleasedAfter releasedAt (event :: later) fault earlier := by
  obtain ⟨last, hlast, hmem | hbefore⟩ := hr
  · exact ⟨last, hlast, .inl (List.mem_cons_of_mem _ hmem)⟩
  · exact ⟨last, hlast, .inr hbefore⟩

theorem Settled.cons (hs : Settled config releasedAt h)
    (he : IsFault config event h → ReleasedAfter releasedAt [] event h) :
    Settled config releasedAt (event :: h) := by
  intro later fault earlier hsplit hfault
  cases later with
  | nil =>
    obtain ⟨rfl, rfl⟩ := List.cons.inj hsplit
    exact he hfault
  | cons e later =>
    obtain ⟨rfl, hrest⟩ := List.cons.inj hsplit
    exact (hs later fault earlier hrest hfault).cons

/-- After a release there is none to wait for. -/
theorem settled_release {packet : ControllerPacket α} {receiveNs : ℕ}
    (hr : Accepted.IsRelease releasedAt ⟨packet, receiveNs⟩) :
    Settled config releasedAt (.accepted packet receiveNs :: h) := by
  intro later fault earlier hsplit _
  refine ⟨⟨packet, receiveNs⟩, hr, .inl ?_⟩
  cases later with
  | nil =>
    obtain ⟨rfl, -⟩ := List.cons.inj hsplit
    exact List.mem_cons_self
  | cons e later =>
    obtain ⟨rfl, -⟩ := List.cons.inj hsplit
    exact List.mem_cons_self

end Settled

/-! ## The condition -/

/-- A poll is not later than the time. -/
def QuestEvent.isBy (deadline : ℕ) : QuestEvent α → Bool
  | .polled nowNs _ _ => decide (nowNs ≤ deadline)
  | .accepted _ _ => true
  | .invalidated => true

namespace InputView

variable (config : ProviderConfig) (v : InputView α)

/-- A fault that the next packet ends. -/
def FaultPending (receiveNs : ℕ) : Prop :=
  v.invalidated = true ∨ ∃ last ∈ v.latest,
    last.packet.factsValid = false ∨ last.hostReceiveNs + config.staleAfterNs < receiveNs

/-- No poll has found the packet too old since it was accepted. -/
def Unexpired (last : Accepted α) : Prop :=
  ∀ event ∈ sinceAccepted v.history, event.isBy (last.hostReceiveNs + config.staleAfterNs) = true

variable [LinearOrder α] (releasedAt : α)

/-- What is asked of the calls: a valid packet that ends a fault finds the adapter
    waiting for a release, or is one; a poll does not take for a fresh release
    what a poll found too old before. -/
def FaultsSeen : QuestCall α → Prop
  | .update packet receiveNs =>
    0 ≤ receiveNs → v.Accepts packet → v.FaultPending config receiveNs.toNat →
      packet.factsValid = true → v.adapter.requiresRelease packet = false →
      bothReleased releasedAt packet = true
  | .invalidate _ => True
  | .poll nowNs =>
    0 ≤ nowNs → v.isStale config nowNs.toNat = false → v.invalidated = false →
      ∀ last ∈ v.latest, last.IsRelease releasedAt → v.Unexpired config last

end InputView

/-! ## The invariant -/

section Invariant

variable {config : ProviderConfig} {v : InputView α}

variable [LinearOrder α] {releasedAt : α}

/-- What the calls that meet `FaultsSeen` maintain. -/
structure InputView.Tracked (config : ProviderConfig) (releasedAt : α) (v : InputView α) :
    Prop where
  last : lastAccepted v.history = v.latest
  sessions : v.Sessions
  released : ∀ last ∈ v.latest, last.IsRelease releasedAt → v.invalidated = false →
    v.Unexpired config last → Settled config releasedAt v.history
  passed : ∀ last ∈ v.latest, v.adapter.requiresRelease last.packet = false →
    v.factsValid = true → Settled config releasedAt v.history
  allowed : Whenever (SharedRelease config releasedAt) v.history

theorem InputView.tracked_init : (InputView.init : InputView α).Tracked config releasedAt where
  last := rfl
  sessions := .init
  released _ h := absurd h nofun
  passed _ h := absurd h nofun
  allowed := whenever_nil

namespace InputView.Tracked

omit [LinearOrder α] in
theorem factsValid_eq {last : Accepted α} (hlast : last ∈ v.latest) :
    v.factsValid = (last.packet.factsValid && !v.invalidated) := by
  rw [InputView.factsValid, Option.mem_def.mp hlast]
  rfl

/-- `invalidate` is a fault until the next packet. -/
theorem invalidate (hv : v.Tracked config releasedAt) :
    v.invalidate.Tracked config releasedAt where
  last := (latest_cons_of_none rfl _).trans hv.last
  sessions := ⟨hv.sessions.current, hv.sessions.followed⟩
  released _ _ _ h := absurd h nofun
  passed last hlast _ hvalid := by
    rw [factsValid_eq (v := v.invalidate) hlast] at hvalid
    simp [InputView.invalidate] at hvalid
  allowed := whenever_cons.mpr ⟨trivial, hv.allowed⟩

/-- A valid packet that the adapter does not wait for comes after no fault, or is
    a release itself. -/
theorem settled_accept (hv : v.Tracked config releasedAt) {packet : ControllerPacket α}
    {receiveNs : ℕ} (ha : v.Accepts packet)
    (hseen : v.FaultPending config receiveNs → packet.factsValid = true →
      v.adapter.requiresRelease packet = false → bothReleased releasedAt packet = true)
    (hvalid : packet.factsValid = true) (hpassed : v.adapter.requiresRelease packet = false) :
    Settled config releasedAt (.accepted packet receiveNs :: v.history) := by
  by_cases hpending : v.FaultPending config receiveNs
  · exact settled_release ⟨hvalid, hseen hpending hvalid hpassed⟩
  rw [InputView.FaultPending, not_or, not_exists] at hpending
  obtain ⟨hinvalidated, hlast⟩ := hpending
  obtain ⟨hsession, hrequired⟩ : v.adapter.sessionId = some packet.sessionId ∧
      v.adapter.sharedReleaseRequired = false := by
    simpa [requiresRelease] using hpassed
  -- the adapter follows the session of the last packet
  obtain ⟨last, hlatest, hsame⟩ :=
    (hv.sessions.followed packet.sessionId hsession).resolve_left ha.1
  have hnone := not_and.mp (hlast last) hlatest
  rw [not_or] at hnone
  refine (hv.passed last hlatest ?_ ?_).cons fun hfault => ?_
  · simp [requiresRelease, hsession, hrequired, hsame]
  · rw [factsValid_eq hlatest]
    simp [hinvalidated, hnone.1]
  · rcases hfault with h | ⟨last', hlast', h⟩
    · exact absurd (h.symm.trans hvalid) nofun
    · rw [hv.last] at hlast'
      obtain rfl := Option.some.inj (hlatest.symm.trans hlast')
      rcases h with h | h
      · exact absurd hsame.symm h
      · exact absurd h hnone.2

theorem accept (hv : v.Tracked config releasedAt) {packet : ControllerPacket α}
    {receiveNs : ℕ} (ha : v.Accepts packet)
    (hseen : v.FaultPending config receiveNs → packet.factsValid = true →
      v.adapter.requiresRelease packet = false → bothReleased releasedAt packet = true) :
    (v.accept packet receiveNs).Tracked config releasedAt where
  last := latest_cons_of_some (f := QuestEvent.accepted?) rfl _
  sessions := hv.sessions.accept ha receiveNs
  released := by
    rintro _ ⟨⟩ hrelease _ _
    exact settled_release hrelease
  passed := by
    rintro _ ⟨⟩ hpassed hvalid
    rw [factsValid_eq (v := v.accept packet receiveNs) rfl] at hvalid
    exact hv.settled_accept ha hseen (by simpa [InputView.accept] using hvalid) hpassed
  allowed := whenever_cons.mpr ⟨trivial, hv.allowed⟩

end InputView.Tracked

variable [OrderBot α] {nowNs : ℕ}

/-- The controller is valid at the poll, and the adapter does not wait, or not
    any more with this packet. -/
def InputView.passes (config : ProviderConfig) (releasedAt : α) (v : InputView α) (nowNs : ℕ)
    (last : Accepted α) : Bool :=
  (v.factsValid && !v.isStale config nowNs) &&
    (!v.adapter.requiresRelease last.packet || bothReleased releasedAt last.packet)

/-- A poll of a packet. -/
theorem InputView.frame_spec {last : Accepted α} (hlast : last ∈ v.latest) :
    (v.frame config releasedAt nowNs).2.sessionId = some last.packet.sessionId ∧
      (v.frame config releasedAt nowNs).2.requiresRelease last.packet =
        !v.passes config releasedAt nowNs last ∧
      (v.frame config releasedAt nowNs).1.index.valid = v.passes config releasedAt nowNs last ∧
      (v.frame config releasedAt nowNs).1.grip.valid = v.passes config releasedAt nowNs last := by
  have hframe : v.frame config releasedAt nowNs = v.adapter.samplesAt releasedAt (some last)
      (v.factsValid && !v.isStale config nowNs) := by
    rw [InputView.frame, Option.mem_def.mp hlast]
  rw [hframe, InputView.passes]
  simp only [samplesAt, sampleOf, ControllerClutchAdapter.observe]
  generalize (v.factsValid && !v.isStale config nowNs) = valid
  generalize bothReleased releasedAt last.packet = both
  have hother : ∀ required, requiresRelease ⟨required, some last.packet.sessionId⟩ last.packet =
      required := by
    simp [requiresRelease]
  rw [hother]
  generalize v.adapter.requiresRelease last.packet = waits
  refine ⟨trivial, ?_⟩
  revert valid both waits
  decide

omit [OrderBot α] in
/-- What a poll lets pass has settled. -/
theorem InputView.Tracked.settled_poll (hv : v.Tracked config releasedAt)
    (hseen : v.isStale config nowNs = false → v.invalidated = false →
      ∀ last ∈ v.latest, last.IsRelease releasedAt → v.Unexpired config last)
    {last : Accepted α} (hlast : last ∈ v.latest)
    (h : v.passes config releasedAt nowNs last = true) :
    v.isStale config nowNs = false ∧ Settled config releasedAt v.history := by
  simp only [InputView.passes, Bool.and_eq_true, Bool.or_eq_true, Bool.not_eq_true'] at h
  obtain ⟨⟨hvalid, hfresh⟩, hpassed | hboth⟩ := h
  · exact ⟨hfresh, hv.passed last hlast hpassed hvalid⟩
  · have hfacts := hvalid
    rw [factsValid_eq hlast, Bool.and_eq_true, Bool.not_eq_true'] at hfacts
    exact ⟨hfresh, hv.released last hlast ⟨hfacts.1, hboth⟩ hfacts.2
      (hseen hfresh hfacts.2 last hlast ⟨hfacts.1, hboth⟩)⟩

theorem InputView.Tracked.poll (hv : v.Tracked config releasedAt)
    (hseen : v.isStale config nowNs = false → v.invalidated = false →
      ∀ last ∈ v.latest, last.IsRelease releasedAt → v.Unexpired config last) :
    (v.poll config releasedAt nowNs).Tracked config releasedAt where
  last := (latest_cons_of_none rfl _).trans hv.last
  sessions := hv.sessions.poll nowNs
  released := by
    intro last hlast hrelease hinvalidated hunexpired
    obtain ⟨hpoll, hbefore⟩ : (QuestEvent.polled nowNs (v.isStale config nowNs)
        (v.frame config releasedAt nowNs).1).isBy
          (last.hostReceiveNs + config.staleAfterNs) = true ∧ v.Unexpired config last := by
      rw [InputView.Unexpired, InputView.poll, sinceAccepted, since_cons_of_neg rfl,
        List.forall_mem_cons] at hunexpired
      exact hunexpired
    refine (hv.released last hlast hrelease hinvalidated hbefore).cons fun hfault => ?_
    -- the poll was not too late for the packet, so it was before the packet
    refine ⟨last, hrelease, .inr ⟨?_, ?_⟩⟩
    · have hmem : lastAccepted v.history = some last := hv.last.trans hlast
      obtain ⟨event, hevent, hsome⟩ := List.exists_of_findSome?_eq_some hmem
      exact List.mem_map.mpr ⟨event, hevent, hsome⟩
    · have hstale : v.isStale config nowNs = true := hfault
      rw [InputView.isStale, show v.latest = some last from hlast] at hstale
      simp only [Bool.or_eq_true, decide_eq_true_eq] at hstale
      have hby : nowNs ≤ last.hostReceiveNs + config.staleAfterNs := of_decide_eq_true hpoll
      show nowNs < last.hostReceiveNs
      omega
  passed last hlast hpassed _ := by
    have hlatest : last ∈ v.latest := hlast
    have hwaits : (v.frame config releasedAt nowNs).2.requiresRelease last.packet = false := hpassed
    rw [(InputView.frame_spec hlatest).2.1, Bool.not_eq_false'] at hwaits
    obtain ⟨hfresh, hsettled⟩ := hv.settled_poll hseen hlatest hwaits
    exact hsettled.cons fun hfault => absurd (hfresh.symm.trans hfault) (by simp)
  allowed := by
    refine whenever_cons.mpr ⟨fun hvalid => ?_, hv.allowed⟩
    cases hlatest : v.latest with
    | none =>
      rw [InputView.frame, hlatest] at hvalid
      rcases hvalid with h | h <;> cases h
    | some last =>
      obtain ⟨-, -, hindex, hgrip⟩ := InputView.frame_spec (v := v) hlatest
      rw [hindex, hgrip, or_self] at hvalid
      exact (hv.settled_poll hseen hlatest hvalid).2

/-- **Step lemma.** Calls that meet `FaultsSeen` wait for a shared release. -/
theorem InputView.Tracked.apply (hv : v.Tracked config releasedAt) {call : QuestCall α}
    (hseen : v.FaultsSeen config releasedAt call) :
    (v.apply config releasedAt call).Tracked config releasedAt := by
  unfold InputView.apply
  cases call with
  | update packet receiveNs =>
    dsimp only
    split_ifs with h
    · exact hv.accept h.2 (hseen h.1 h.2)
    · exact hv
  | invalidate reason =>
    dsimp only
    split_ifs
    · exact hv
    · exact hv.invalidate
  | poll nowNs =>
    dsimp only
    split_ifs with h
    · exact hv
    · exact hv.poll (hseen (not_lt.mp h))

end Invariant

/-! ## The input -/

section Runs

variable [LinearOrder α] [OrderBot α] {config : ProviderConfig} {releasedAt : α}

/-- The calls that find every fault seen. -/
def QuestInput.FaultsSeen (config : ProviderConfig) (releasedAt : α) (s : QuestInput α)
    (call : QuestCall α) : Prop :=
  s.view.FaultsSeen config releasedAt call

/-- **Main theorem.** In every run of calls that find every fault seen, the
    samples are valid only after a shared release. -/
theorem shared_release {calls : List (QuestCall α)}
    (h : Meets (QuestInput.apply config releasedAt) (QuestInput.FaultsSeen config releasedAt) .init
      calls) :
    Whenever (SharedRelease config releasedAt)
      (run (QuestInput.apply config releasedAt) .init calls).history := by
  have hinit : (QuestInput.init : QuestInput α).provider.SessionKnown ∧
      (QuestInput.init : QuestInput α).view.Tracked config releasedAt :=
    ⟨rfl, InputView.tracked_init⟩
  have hstep (s : QuestInput α) (call : QuestCall α) (hseen : s.FaultsSeen config releasedAt call)
      (hs : s.provider.SessionKnown ∧ s.view.Tracked config releasedAt) :
      (s.apply config releasedAt call).provider.SessionKnown ∧
        (s.apply config releasedAt call).view.Tracked config releasedAt := by
    obtain ⟨hview, hknown⟩ : (s.apply config releasedAt call).view =
        s.view.apply config releasedAt call ∧
      (s.apply config releasedAt call).provider.SessionKnown := apply_view hs.1 call
    rw [hview]
    exact ⟨hknown, hs.2.apply hseen⟩
  exact (run_invariant_of_meets hstep hinit h).2.allowed

end Runs

/-! ## Witness and counterexample -/

section Decide

variable [LinearOrder α] {config : ProviderConfig} {releasedAt : α} {v : InputView α}

instance (last : Accepted α) : Decidable (last.IsRelease releasedAt) :=
  inferInstanceAs (Decidable (_ ∧ _))

instance (last : Accepted α) : Decidable (v.Unexpired config last) :=
  inferInstanceAs (Decidable (∀ event ∈ _, _))

instance (receiveNs : ℕ) : Decidable (v.FaultPending config receiveNs) :=
  inferInstanceAs (Decidable (_ ∨ ∃ last ∈ v.latest, _))

instance : (call : QuestCall α) → Decidable (v.FaultsSeen config releasedAt call)
  | .update _ _ => inferInstanceAs (Decidable (_ → _))
  | .invalidate _ => isTrue trivial
  | .poll _ => inferInstanceAs (Decidable (_ → _ → _ → ∀ last ∈ v.latest, _))

instance (s : QuestInput α) (call : QuestCall α) :
    Decidable (s.FaultsSeen config releasedAt call) :=
  inferInstanceAs (Decidable (s.view.FaultsSeen config releasedAt call))

end Decide

/-- The default times. -/
def defaultProvider : ProviderConfig := ⟨250000000, 250000000⟩

/-- A valid packet of the first session with both triggers at a value. -/
def packetAt (sequenceNumber : ℕ) (value : ℚ≥0) : ControllerPacket ℚ≥0 :=
  ⟨1, 1, sequenceNumber, 0, true, true, true, value, value⟩

/-- A fault that a poll sees, and a release after it. -/
def seenFault : List (QuestCall ℚ≥0) :=
  [.update (packetAt 1 0) 0, .poll 10, .invalidate "malformed_ctrl", .poll 15,
    .update (packetAt 2 (9 / 10)) 20, .poll 30, .update (packetAt 3 0) 40, .poll 50]

theorem shared_release_seen :
    Whenever (SharedRelease defaultProvider (11 / 20))
      (run (QuestInput.apply defaultProvider (11 / 20)) .init seenFault).history := by
  have hseen : Meets (QuestInput.apply defaultProvider (11 / 20))
      (QuestInput.FaultsSeen defaultProvider (11 / 20)) .init seenFault := by decide +kernel
  exact shared_release hseen

/-- The fault and the next packet come between two polls: the second poll gives
    valid samples of pressed triggers. -/
theorem forgotten_fault :
    let s := run (QuestInput.apply defaultProvider (11 / 20)) .init
      [.update (packetAt 1 0) 0, .poll 10, .invalidate "malformed_ctrl",
        .update (packetAt 2 (9 / 10)) 20, .poll 30]
    ¬Whenever (SharedRelease defaultProvider (11 / 20)) s.history := by
  intro s h
  have hpolled : (.polled 30 false ⟨⟨9 / 10, 20, 2, true, some 0⟩, ⟨9 / 10, 20, 2, true, some 0⟩,
      true, false, "quest_ctrl_udp_v1"⟩ :: .accepted (packetAt 2 (9 / 10)) 20 ::
        .invalidated :: s.history.drop 3) <:+ s.history := by decide +kernel
  have hsettled := h _ _ hpolled (.inl rfl)
  obtain ⟨last, ⟨-, hrelease⟩, hafter | ⟨-, hbefore⟩⟩ :=
    hsettled [.accepted (packetAt 2 (9 / 10)) 20] .invalidated _ rfl trivial
  · have hlast : last = ⟨packetAt 2 (9 / 10), 20⟩ := by
      simpa [QuestEvent.accepted?] using hafter
    rw [hlast] at hrelease
    exact absurd hrelease (by decide +kernel)
  · exact hbefore

end HandLab.Quest
