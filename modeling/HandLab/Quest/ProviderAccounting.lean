import HandLab.Quest.Provider
import Mathlib.Data.List.Chain

/-!
# The accounts of `ControllerProvider`

What the counters of `ControllerProvider` (`src/motion_input/controller_provider.py`) say of a
run: every packet is counted once, and the missing sequence numbers of a session are those
between its accepted packets.

* `ControllerProvider.update_counts`: what a packet adds to the counters.
* `provider_accounts`: the accounts of any run.
-/

namespace HandLab.Quest

open HandLab.Lib

variable {α : Type*}

/-! ## One packet -/

namespace ControllerProvider

variable {config : ProviderConfig} {p : ControllerProvider α}

/-- The counters that `snapshot` does not touch. -/
theorem snapshotAt_counts (nowNs : ℕ) :
    ∃ staleEventCount, (p.snapshotAt config nowNs).2.counts = { p.counts with staleEventCount } := by
  show ∃ staleEventCount, (p.latchStale (p.isStale config nowNs)).counts = _
  unfold latchStale
  split_ifs
  · exact ⟨_, rfl⟩
  · exact ⟨p.counts.staleEventCount, rfl⟩

theorem snapshot_frame (nowNs : ℤ) : (p.snapshot config nowNs).2.core = p.core ∧
    ∃ staleEventCount, (p.snapshot config nowNs).2.counts = { p.counts with staleEventCount } := by
  unfold snapshot
  split
  · exact ⟨rfl, p.counts.staleEventCount, rfl⟩
  · exact ⟨snapshotAt_core _, snapshotAt_counts _⟩

/-- The sequence numbers that a packet shows to be missing. -/
def Arrival.gap (packet : ControllerPacket α) : Arrival α → ℕ
  | .forward last => packet.sequenceNumber - last.packet.sequenceNumber - 1
  | _ => 0

/-- What an arrival adds to the counters of the packets. -/
structure Counted (packet : ControllerPacket α) (arrival : Arrival α)
    (before after : ProviderCounts) : Prop where
  packets : after.packetCount = before.packetCount + 1
  accepted : after.acceptedCount = before.acceptedCount + arrival.isAccepted.toNat
  classified : arrival.isAccepted.toNat +
    (after.duplicateCount + after.reorderCount + after.oldSessionPacketCount) =
      before.duplicateCount + before.reorderCount + before.oldSessionPacketCount + 1
  missing : after.missingSequenceCount = before.missingSequenceCount + arrival.gap packet

theorem receive_counts {packet : ControllerPacket α} {receiveNs : ℕ}
    (h : ¬(p.currentSession.isSome = true ∧ p.latest = none)) :
    (p.receive config packet receiveNs).1 = .ok () ∧
      Counted packet (p.arrival packet) p.counts (p.receive config packet receiveNs).2.counts := by
  have hspec := p.arrival_spec packet
  unfold receive
  cases harrival : p.arrival packet with
  | oldSession =>
    refine ⟨rfl, rfl, rfl, ?_, rfl⟩
    simp only [Arrival.isAccepted, Bool.toNat_false, arrived]
    omega
  | initialSession =>
    refine ⟨rfl, rfl, rfl, ?_, rfl⟩
    simp only [Arrival.isAccepted, Bool.toNat_true, accept, arrived]
    omega
  | newSession previous =>
    refine ⟨rfl, rfl, rfl, ?_, rfl⟩
    simp only [Arrival.isAccepted, Bool.toNat_true, accept, arrived]
    omega
  | duplicate =>
    refine ⟨rfl, rfl, rfl, ?_, rfl⟩
    simp only [Arrival.isAccepted, Bool.toNat_false, arrived]
    omega
  | reorder =>
    refine ⟨rfl, rfl, rfl, ?_, rfl⟩
    simp only [Arrival.isAccepted, Bool.toNat_false, arrived]
    omega
  | forward last =>
    refine ⟨rfl, rfl, rfl, ?_, rfl⟩
    simp only [Arrival.isAccepted, Bool.toNat_true, accept, compare, arrived]
    omega
  | assertion =>
    rw [harrival] at hspec
    exact absurd ⟨by rw [hspec.1]; rfl, hspec.2⟩ h

/-- **What a packet adds to the counters.** -/
theorem update_counts {packet : ControllerPacket α} {receiveNs : ℤ} (hreceive : 0 ≤ receiveNs)
    (h : ¬(p.currentSession.isSome = true ∧ p.latest = none)) :
    Counted packet (p.arrival packet) p.counts (p.update config packet receiveNs).2.counts := by
  obtain ⟨hok, hcounts⟩ := @receive_counts _ config _ _ receiveNs.toNat h
  unfold update
  rw [if_neg (not_lt.mpr hreceive)]
  generalize p.receive config packet receiveNs.toNat = answer at hok hcounts
  obtain ⟨result, after⟩ := answer
  obtain rfl : result = .ok () := hok
  obtain ⟨staleEventCount, hstale⟩ := @snapshotAt_counts _ config after receiveNs.toNat
  show Counted packet (p.arrival packet) p.counts (after.snapshotAt config receiveNs.toNat).2.counts
  rw [hstale]
  exact ⟨hcounts.packets, hcounts.accepted, hcounts.classified, hcounts.missing⟩

end ControllerProvider

/-! ## Runs -/

inductive ProviderCall (α : Type*)
  | update (packet : ControllerPacket α) (receiveNs : ℤ)
  | snapshot (nowNs : ℤ)
  | invalidate (reason : String)

/-- A call of `update`, with the provider before and after it. -/
structure UpdateRecord (α : Type*) where
  packet : ControllerPacket α
  receiveNs : ℤ
  before : ControllerProvider α
  after : ControllerProvider α

/-- The packet of the call was accepted. -/
def UpdateRecord.isAccepted (u : UpdateRecord α) : Bool :=
  decide (0 ≤ u.receiveNs) && (u.before.arrival u.packet).isAccepted

/-- What the call added to `missing_sequence_count`. -/
def UpdateRecord.missing (u : UpdateRecord α) : ℤ :=
  u.after.counts.missingSequenceCount - u.before.counts.missingSequenceCount

/-- A provider with the calls of `update` that were made. -/
structure Ledger (α : Type*) where
  provider : ControllerProvider α
  updates : List (UpdateRecord α) := []

namespace Ledger

def call (config : ProviderConfig) (r : Ledger α) : ProviderCall α → Ledger α
  | .update packet receiveNs =>
    let after := (r.provider.update config packet receiveNs).2
    ⟨after, r.updates ++ [⟨packet, receiveNs, r.provider, after⟩]⟩
  | .snapshot nowNs => { r with provider := (r.provider.snapshot config nowNs).2 }
  | .invalidate reason => { r with provider := (r.provider.invalidate reason).2 }

variable (r : Ledger α)

/-- The packets that were accepted. -/
def accepted : List (ControllerPacket α) :=
  (r.updates.filter UpdateRecord.isAccepted).map UpdateRecord.packet

/-- The packets of a session that were accepted. -/
def ofSession (session : ℕ) : List (ControllerPacket α) :=
  r.accepted.filter fun packet => packet.sessionId = session

/-- What the packets of a session added to `missing_sequence_count`. -/
def missing (session : ℕ) : ℤ :=
  ((r.updates.filter fun u => u.packet.sessionId = session).map UpdateRecord.missing).sum

end Ledger

/-- Every packet is counted once. -/
def ProviderCounts.Balanced (counts : ProviderCounts) : Prop :=
  counts.packetCount = counts.acceptedCount + counts.duplicateCount + counts.reorderCount +
    counts.oldSessionPacketCount

/-- A packet of a session that had packets before follows a packet of that session. -/
def NeverReturns (packets : List (ControllerPacket α)) : Prop :=
  ∀ before packet after, packets = before ++ packet :: after →
    ∀ earlier ∈ before, earlier.sessionId = packet.sessionId →
      ∀ previous ∈ before.getLast?, previous.sessionId = packet.sessionId

/-- The missing sequence numbers are those between the first packet and the last one. -/
def Spans (packets : List (ControllerPacket α)) (missing : ℤ) : Prop :=
  match packets.head?, packets.getLast? with
  | some first, some last =>
    missing = (last.sequenceNumber - first.sequenceNumber + 1 : ℤ) - packets.length
  | _, _ => missing = 0

section Lists

variable {packets : List (ControllerPacket α)} {packet : ControllerPacket α}

theorem NeverReturns.concat (h : NeverReturns packets)
    (hpacket : ∀ earlier ∈ packets, earlier.sessionId = packet.sessionId →
      ∀ previous ∈ packets.getLast?, previous.sessionId = packet.sessionId) :
    NeverReturns (packets ++ [packet]) := by
  intro before x after hsplit
  rcases List.eq_nil_or_concat after with rfl | ⟨rest, y, rfl⟩
  · obtain ⟨rfl, hx⟩ := List.append_inj' hsplit rfl
    obtain rfl : packet = x := List.singleton_inj.mp hx
    exact hpacket
  · have hlist : packets ++ [packet] = (before ++ x :: rest) ++ [y] := by
      rw [hsplit]
      simp
    exact h before x rest (List.append_inj' hlist rfl).1

theorem Spans.concat {missing : ℤ} (h : Spans packets missing) :
    ∀ gap : ℕ, (∀ last ∈ packets.getLast?,
        last.sequenceNumber < packet.sequenceNumber ∧
          gap = packet.sequenceNumber - last.sequenceNumber - 1) →
      (packets = [] → gap = 0) → Spans (packets ++ [packet]) (missing + gap) := by
  intro gap hlast hnil
  unfold Spans at h ⊢
  cases packets with
  | nil =>
    have hzero : missing = 0 := h
    rw [hnil rfl, hzero]
    show (0 : ℤ) + (0 : ℕ) = (packet.sequenceNumber - packet.sequenceNumber + 1 : ℤ) - (1 : ℕ)
    omega
  | cons first rest =>
    obtain ⟨last, hget⟩ : ∃ last, (first :: rest).getLast? = some last :=
      ⟨_, List.getLast?_eq_getLast_of_ne_nil (List.cons_ne_nil _ _)⟩
    obtain ⟨hlt, hgap⟩ := hlast last hget
    rw [List.head?_cons, hget] at h
    have hmissing : missing =
        (last.sequenceNumber - first.sequenceNumber + 1 : ℤ) - (first :: rest).length := h
    rw [List.getLast?_concat, List.cons_append, List.head?_cons]
    show missing + gap = (packet.sequenceNumber - first.sequenceNumber + 1 : ℤ) -
      (first :: (rest ++ [packet])).length
    simp only [List.length_cons, List.length_append, List.length_nil] at hmissing ⊢
    omega

end Lists

structure Ledger.Accounts (r : Ledger α) : Prop where
  balanced : r.provider.counts.Balanced
  acceptedCount : r.provider.counts.acceptedCount = r.accepted.length
  increasing : ∀ session, (r.ofSession session).IsChain fun a b =>
    a.sequenceNumber < b.sequenceNumber
  neverReturns : NeverReturns r.accepted
  spans : ∀ session, Spans (r.ofSession session) (r.missing session)
  total : r.provider.counts.missingSequenceCount = (r.updates.map UpdateRecord.missing).sum

/-- The provider knows the last accepted packet and the sessions that are over. -/
structure Ledger.Known (r : Ledger α) : Prop where
  latest : r.provider.latest.map Accepted.packet = r.accepted.getLast?
  current : r.provider.currentSession = r.accepted.getLast?.map ControllerPacket.sessionId
  retired : ∀ packet ∈ r.accepted, packet.sessionId ∈ r.provider.retiredSessions ∨
    r.provider.currentSession = some packet.sessionId

namespace Ledger

variable {config : ProviderConfig} {r : Ledger α}

/-- The calls that do not touch what the accounts are about. -/
theorem Known.congr {provider : ControllerProvider α} (h : r.Known)
    (hcore : provider.latest = r.provider.latest ∧
      provider.currentSession = r.provider.currentSession ∧
      provider.retiredSessions = r.provider.retiredSessions) :
    ({ r with provider } : Ledger α).Known := by
  obtain ⟨hlatest, hcurrent, hretired⟩ := hcore
  refine ⟨?_, ?_, ?_⟩
  · exact (congrArg (Option.map Accepted.packet) hlatest).trans h.latest
  · exact hcurrent.trans h.current
  · intro packet hpacket
    show packet.sessionId ∈ provider.retiredSessions ∨ provider.currentSession = _
    rw [hretired, hcurrent]
    exact h.retired packet hpacket

theorem Accounts.congr {provider : ControllerProvider α} (h : r.Accounts)
    (hcounts : ∃ staleEventCount,
      provider.counts = { r.provider.counts with staleEventCount }) :
    ({ r with provider } : Ledger α).Accounts := by
  obtain ⟨staleEventCount, hcounts⟩ := hcounts
  refine ⟨?_, ?_, h.increasing, h.neverReturns, h.spans, ?_⟩
  · show provider.counts.Balanced
    rw [hcounts]
    exact h.balanced
  · show provider.counts.acceptedCount = _
    rw [hcounts]
    exact h.acceptedCount
  · show (provider.counts.missingSequenceCount : ℤ) = _
    rw [hcounts]
    exact h.total

/-! ### A packet in the ledger -/

/-- The ledger with one more call of `update`. -/
def push (r : Ledger α) (u : UpdateRecord α) : Ledger α := ⟨u.after, r.updates ++ [u]⟩

variable {u : UpdateRecord α}

theorem accepted_push (r : Ledger α) (u : UpdateRecord α) :
    (r.push u).accepted = r.accepted ++ if u.isAccepted then [u.packet] else [] := by
  show ((r.updates ++ [u]).filter UpdateRecord.isAccepted).map UpdateRecord.packet = _
  rw [List.filter_append, List.map_append]
  cases h : u.isAccepted <;> simp [h, accepted]

theorem missing_push (r : Ledger α) (u : UpdateRecord α) (session : ℕ) :
    (r.push u).missing session =
      r.missing session + if u.packet.sessionId = session then u.missing else 0 := by
  show (((r.updates ++ [u]).filter _).map UpdateRecord.missing).sum = _
  rw [List.filter_append, List.map_append, List.sum_append]
  by_cases h : u.packet.sessionId = session <;> simp [h, missing]

theorem total_push (r : Ledger α) (u : UpdateRecord α) :
    ((r.push u).updates.map UpdateRecord.missing).sum =
      (r.updates.map UpdateRecord.missing).sum + u.missing := by
  show ((r.updates ++ [u]).map UpdateRecord.missing).sum = _
  simp

/-- A packet that is not accepted, and shows no missing number. -/
theorem Accounts.refused (h : r.Accounts) (hbefore : u.before = r.provider)
    (hrefused : u.isAccepted = false) (hmissing : u.missing = 0)
    (hbalanced : u.after.counts.Balanced)
    (haccepted : u.after.counts.acceptedCount = u.before.counts.acceptedCount) :
    (r.push u).Accounts := by
  have hlist : (r.push u).accepted = r.accepted := by
    rw [accepted_push, hrefused]
    simp
  have hsession (session : ℕ) : (r.push u).ofSession session = r.ofSession session := by
    rw [ofSession, hlist, ofSession]
  refine ⟨hbalanced, ?_, ?_, ?_, ?_, ?_⟩
  · rw [hlist, ← h.acceptedCount, ← hbefore]
    exact haccepted
  · intro session
    rw [hsession]
    exact h.increasing session
  · rw [hlist]
    exact h.neverReturns
  · intro session
    rw [hsession, missing_push, hmissing, ite_self, add_zero]
    exact h.spans session
  · have htotal := h.total
    rw [total_push, hmissing, add_zero, ← htotal, ← hbefore]
    have hzero : (u.after.counts.missingSequenceCount : ℤ) -
        u.before.counts.missingSequenceCount = 0 := hmissing
    show (u.after.counts.missingSequenceCount : ℤ) = _
    omega

theorem getLast?_ofSession {packet : ControllerPacket α} (hlast : r.accepted.getLast? = some packet) :
    (r.ofSession packet.sessionId).getLast? = some packet := by
  obtain ⟨before, hbefore⟩ := List.getLast?_eq_some_iff.mp hlast
  rw [ofSession, hbefore, List.filter_append]
  simp

theorem ofSession_eq_nil {session : ℕ}
    (h : ∀ packet ∈ r.accepted, packet.sessionId ≠ session) : r.ofSession session = [] := by
  rw [ofSession, List.filter_eq_nil_iff]
  intro packet hpacket
  simpa using h packet hpacket

/-- An accepted packet: it is the first of its session, or the next of the session of the packet
    before. -/
theorem Accounts.accept (h : r.Accounts) (hbefore : u.before = r.provider)
    (haccept : u.isAccepted = true) {gap : ℕ}
    (hcounted : u.after.counts.missingSequenceCount = u.before.counts.missingSequenceCount + gap)
    (hbalanced : u.after.counts.Balanced)
    (haccepted : u.after.counts.acceptedCount = u.before.counts.acceptedCount + 1)
    (hfollows : (∀ packet ∈ r.accepted, packet.sessionId ≠ u.packet.sessionId) ∧ gap = 0 ∨
      ∃ last, r.accepted.getLast? = some last ∧ last.sessionId = u.packet.sessionId ∧
        last.sequenceNumber < u.packet.sequenceNumber ∧
        gap = u.packet.sequenceNumber - last.sequenceNumber - 1) :
    (r.push u).Accounts := by
  have hlist : (r.push u).accepted = r.accepted ++ [u.packet] := by
    rw [accepted_push, haccept]
    rfl
  have hmissing : u.missing = gap := by
    show (u.after.counts.missingSequenceCount : ℤ) - u.before.counts.missingSequenceCount = _
    omega
  have hother {session : ℕ} (hne : u.packet.sessionId ≠ session) :
      (r.push u).ofSession session = r.ofSession session := by
    rw [ofSession, hlist, List.filter_append, ofSession]
    simp [hne]
  have hsame : (r.push u).ofSession u.packet.sessionId =
      r.ofSession u.packet.sessionId ++ [u.packet] := by
    rw [ofSession, hlist, List.filter_append, ofSession]
    simp
  -- the packet before it in its session
  have hlast : (∀ last ∈ (r.ofSession u.packet.sessionId).getLast?,
      last.sequenceNumber < u.packet.sequenceNumber ∧
        gap = u.packet.sequenceNumber - last.sequenceNumber - 1) ∧
      (r.ofSession u.packet.sessionId = [] → gap = 0) := by
    rcases hfollows with ⟨hnew, hgap⟩ | ⟨last, hget, hsession, hlt, hgap⟩
    · rw [ofSession_eq_nil hnew]
      exact ⟨nofun, fun _ => hgap⟩
    · have hget' := getLast?_ofSession hget
      rw [hsession] at hget'
      rw [hget']
      refine ⟨fun other hother => ?_, fun hnil => ?_⟩
      · obtain rfl := Option.some.inj hother
        exact ⟨hlt, hgap⟩
      · rw [hnil] at hget'
        exact absurd hget' nofun
  refine ⟨hbalanced, ?_, ?_, ?_, ?_, ?_⟩
  · rw [hlist, List.length_append, ← h.acceptedCount, ← hbefore]
    exact haccepted
  · intro session
    by_cases heq : u.packet.sessionId = session
    · subst heq
      rw [hsame, List.isChain_append]
      refine ⟨h.increasing _, .singleton _, fun last hlast' packet hpacket => ?_⟩
      obtain rfl : u.packet = packet := by simpa using hpacket
      exact (hlast.1 last hlast').1
    · rw [hother heq]
      exact h.increasing session
  · rw [hlist]
    refine h.neverReturns.concat fun earlier hearlier hsession previous hprevious => ?_
    rcases hfollows with ⟨hnew, -⟩ | ⟨last, hget, hlastSession, -⟩
    · exact absurd hsession (hnew earlier hearlier)
    · obtain rfl := Option.some.inj (hget.symm.trans hprevious)
      exact hlastSession
  · intro session
    by_cases heq : u.packet.sessionId = session
    · subst heq
      rw [hsame, missing_push, if_pos rfl, hmissing]
      exact (h.spans _).concat gap hlast.1 hlast.2
    · rw [hother heq, missing_push, if_neg heq, add_zero]
      exact h.spans session
  · rw [total_push, ← h.total, hmissing, ← hbefore]
    show (u.after.counts.missingSequenceCount : ℤ) = _
    omega

/-- A packet that is not accepted leaves what the provider knows as it was. -/
theorem Known.refused (h : r.Known) (hrefused : u.isAccepted = false)
    (hlatest : u.after.latest = r.provider.latest)
    (hcurrent : u.after.currentSession = r.provider.currentSession)
    (hretired : u.after.retiredSessions = r.provider.retiredSessions) : (r.push u).Known := by
  have hlist : (r.push u).accepted = r.accepted := by
    rw [accepted_push, hrefused, if_neg Bool.false_ne_true, List.append_nil]
  refine ⟨?_, ?_, ?_⟩
  · rw [hlist]
    exact (congrArg (Option.map Accepted.packet) hlatest).trans h.latest
  · rw [hlist]
    exact hcurrent.trans h.current
  · rw [hlist]
    show ∀ packet ∈ r.accepted, packet.sessionId ∈ u.after.retiredSessions ∨
      u.after.currentSession = _
    rw [hretired, hcurrent]
    exact h.retired

/-! ### What the provider knows of an accepted packet -/

section Arrival

variable {packet : ControllerPacket α}

theorem Known.live (h : r.Known) :
    ¬(r.provider.currentSession.isSome = true ∧ r.provider.latest = none) := by
  rintro ⟨hsome, hnone⟩
  have hlatest := h.latest
  rw [hnone, Option.map_none] at hlatest
  rw [h.current, ← hlatest] at hsome
  exact absurd hsome nofun

/-- After an accepted packet an earlier session is over, or it is the one that goes on. -/
theorem Known.retired_of_accepted (h : r.Known)
    (haccept : (r.provider.arrival packet).isAccepted = true) :
    ∀ other ∈ r.accepted,
      other.sessionId ∈ (r.provider.arrival packet).retired r.provider.retiredSessions ∨
        some packet.sessionId = some other.sessionId := by
  have hspec := r.provider.arrival_spec packet
  intro other hother
  cases harrival : r.provider.arrival packet with
  | initialSession =>
    rw [harrival] at hspec
    rcases h.retired other hother with hover | hsame
    · exact .inl hover
    · exact absurd (hspec.2.symm.trans hsame) nofun
  | newSession previous =>
    rw [harrival] at hspec
    rcases h.retired other hother with hover | hsame
    · exact .inl (Finset.mem_insert_of_mem hover)
    · obtain rfl := Option.some.inj (hspec.2.1.symm.trans hsame)
      exact .inl (Finset.mem_insert_self _ _)
  | forward last =>
    rw [harrival] at hspec
    rw [← hspec.2.1]
    exact h.retired other hother
  | _ => rw [harrival] at haccept; exact absurd haccept nofun

theorem Known.follows_of_accepted (h : r.Known)
    (haccept : (r.provider.arrival packet).isAccepted = true) :
    (∀ other ∈ r.accepted, other.sessionId ≠ packet.sessionId) ∧
        (r.provider.arrival packet).gap packet = 0 ∨
      ∃ last, r.accepted.getLast? = some last ∧ last.sessionId = packet.sessionId ∧
        last.sequenceNumber < packet.sequenceNumber ∧
        (r.provider.arrival packet).gap packet =
          packet.sequenceNumber - last.sequenceNumber - 1 := by
  have hspec := r.provider.arrival_spec packet
  cases harrival : r.provider.arrival packet with
  | initialSession =>
    rw [harrival] at hspec
    have hnil : r.accepted = [] := by
      have hcurrent := h.current
      rw [hspec.2] at hcurrent
      exact List.getLast?_eq_none_iff.mp (Option.map_eq_none_iff.mp hcurrent.symm)
    left
    rw [hnil]
    exact ⟨nofun, rfl⟩
  | newSession previous =>
    rw [harrival] at hspec
    obtain ⟨hnot, hprevious, hne⟩ := hspec
    refine .inl ⟨fun other hother hsession => ?_, rfl⟩
    rcases h.retired other hother with hover | hsame
    · exact hnot (hsession ▸ hover)
    · exact hne (hsession.symm.trans (Option.some.inj (hsame.symm.trans hprevious)))
  | forward last =>
    rw [harrival] at hspec
    obtain ⟨-, hsession, hlast, hlt⟩ := hspec
    have hget := h.latest
    rw [hlast] at hget
    refine .inr ⟨last.packet, hget.symm, ?_, hlt, rfl⟩
    have hcurrent := h.current
    rw [← hget, hsession] at hcurrent
    exact (Option.some.inj hcurrent).symm
  | _ => rw [harrival] at haccept; exact absurd haccept nofun

end Arrival

/-- A call that raises for a negative time counts nothing. -/
theorem update_negative (hknown : r.Known) (h : r.Accounts) (packet : ControllerPacket α)
    {receiveNs : ℤ} (hnegative : receiveNs < 0) :
    (r.call config (.update packet receiveNs)).Known ∧
      (r.call config (.update packet receiveNs)).Accounts := by
  have hcall : r.call config (.update packet receiveNs) =
      r.push ⟨packet, receiveNs, r.provider, r.provider⟩ := by
    show r.push ⟨packet, receiveNs, r.provider, (r.provider.update config packet receiveNs).2⟩ = _
    rw [ControllerProvider.update, if_pos hnegative]
  have hrefused : (⟨packet, receiveNs, r.provider, r.provider⟩ :
      UpdateRecord α).isAccepted = false := by
    simp [UpdateRecord.isAccepted, hnegative]
  rw [hcall]
  exact ⟨hknown.refused hrefused rfl rfl rfl,
    h.refused rfl hrefused (sub_self _) h.balanced rfl⟩

/-- **One call of `update`.** -/
theorem update_accounts (hknown : r.Known) (h : r.Accounts) (packet : ControllerPacket α)
    (receiveNs : ℤ) :
    (r.call config (.update packet receiveNs)).Known ∧
      (r.call config (.update packet receiveNs)).Accounts := by
  rcases lt_or_ge receiveNs 0 with hnegative | hreceive
  · exact update_negative hknown h packet hnegative
  obtain ⟨u, hu⟩ : ∃ u : UpdateRecord α, u =
      ⟨packet, receiveNs, r.provider, (r.provider.update config packet receiveNs).2⟩ := ⟨_, rfl⟩
  have hcall : r.call config (.update packet receiveNs) = r.push u := by rw [hu]; rfl
  have hafter : u.after = (r.provider.update config packet receiveNs).2 := by rw [hu]
  have hbefore : u.before = r.provider := by rw [hu]
  have hpacket : u.packet = packet := by rw [hu]
  have hcounted : ControllerProvider.Counted packet (r.provider.arrival packet) r.provider.counts
      u.after.counts := by
    rw [hafter]
    exact ControllerProvider.update_counts hreceive hknown.live
  have hbalanced : u.after.counts.Balanced := by
    have hold := h.balanced
    have hpackets := hcounted.packets
    have haccepted := hcounted.accepted
    have hclassified := hcounted.classified
    unfold ProviderCounts.Balanced at hold ⊢
    omega
  have hcore := @ControllerProvider.update_core _ config r.provider packet _ hreceive
  have hisAccepted : u.isAccepted = (r.provider.arrival packet).isAccepted := by
    rw [hu]
    simp [UpdateRecord.isAccepted, hreceive]
  rw [← hafter] at hcore
  rw [hcall]
  cases haccept : (r.provider.arrival packet).isAccepted with
  | false =>
    rw [ControllerProvider.receive_core_refused haccept] at hcore
    obtain ⟨hlatest, hcurrent, hretired, -⟩ :=
      (ControllerProvider.Core.mk.injEq ..).mp hcore
    have hrefused := hisAccepted.trans haccept
    have hgap : (r.provider.arrival packet).gap packet = 0 := by
      cases harrival : r.provider.arrival packet with
      | forward last => rw [harrival] at haccept; exact absurd haccept nofun
      | _ => rfl
    refine ⟨hknown.refused hrefused hlatest hcurrent hretired,
      h.refused hbefore hrefused ?_ hbalanced ?_⟩
    · show (u.after.counts.missingSequenceCount : ℤ) - u.before.counts.missingSequenceCount = 0
      rw [hcounted.missing, hgap, hbefore, add_zero, sub_self]
    · rw [hcounted.accepted, haccept, hbefore]
      rfl
  | true =>
    rw [ControllerProvider.receive_core_accepted haccept] at hcore
    obtain ⟨hlatest, hcurrent, hretired, -⟩ :=
      (ControllerProvider.Core.mk.injEq ..).mp hcore
    have haccepted := hisAccepted.trans haccept
    have hlist : (r.push u).accepted = r.accepted ++ [packet] := by
      rw [accepted_push, haccepted, hpacket]
      rfl
    have hmissing : u.after.counts.missingSequenceCount =
        u.before.counts.missingSequenceCount + (r.provider.arrival packet).gap packet := by
      rw [hbefore]
      exact hcounted.missing
    have hfollows := hknown.follows_of_accepted haccept
    rw [← hpacket] at hfollows hmissing
    refine ⟨⟨?_, ?_, ?_⟩, h.accept hbefore haccepted hmissing hbalanced ?_ hfollows⟩
    · rw [hlist, List.getLast?_concat]
      exact congrArg (Option.map Accepted.packet) hlatest
    · rw [hlist, List.getLast?_concat]
      exact hcurrent
    · rw [hlist]
      show ∀ other ∈ r.accepted ++ [packet], other.sessionId ∈ u.after.retiredSessions ∨
        u.after.currentSession = some other.sessionId
      rw [hretired, hcurrent]
      refine List.forall_mem_append.mpr ⟨hknown.retired_of_accepted haccept, ?_⟩
      exact List.forall_mem_singleton.mpr (.inr rfl)
    · rw [hcounted.accepted, haccept, hbefore]
      rfl

theorem call_accounts (hknown : r.Known) (h : r.Accounts) (c : ProviderCall α) :
    (r.call config c).Known ∧ (r.call config c).Accounts := by
  cases c with
  | update packet receiveNs => exact update_accounts hknown h packet receiveNs
  | snapshot nowNs =>
    obtain ⟨hcore, hcounts⟩ := @ControllerProvider.snapshot_frame _ config r.provider nowNs
    obtain ⟨hlatest, hcurrent, hretired, -⟩ := (ControllerProvider.Core.mk.injEq ..).mp hcore
    exact ⟨hknown.congr ⟨hlatest, hcurrent, hretired⟩, h.congr hcounts⟩
  | invalidate reason =>
    show ({ r with provider := (r.provider.invalidate reason).2 } : Ledger α).Known ∧
      ({ r with provider := (r.provider.invalidate reason).2 } : Ledger α).Accounts
    unfold ControllerProvider.invalidate
    split
    · exact ⟨hknown, h⟩
    · exact ⟨hknown.congr ⟨rfl, rfl, rfl⟩, h.congr ⟨r.provider.counts.staleEventCount, rfl⟩⟩

end Ledger

/-- **The accounts of the provider** hold after every sequence of calls. -/
theorem provider_accounts (config : ProviderConfig) (calls : List (ProviderCall α)) :
    (run (Ledger.call config) ⟨ControllerProvider.init, []⟩ calls).Accounts := by
  have hinit : Ledger.Known (α := α) ⟨ControllerProvider.init, []⟩ :=
    ⟨rfl, rfl, fun _ h => absurd h List.not_mem_nil⟩
  have hbefore : ∀ before after : List (ControllerPacket α), ∀ packet,
      [] ≠ before ++ packet :: after := by
    intro before after packet
    exact (List.append_ne_nil_of_right_ne_nil before (List.cons_ne_nil packet after)).symm
  have haccounts : Ledger.Accounts (α := α) ⟨ControllerProvider.init, []⟩ :=
    ⟨rfl, rfl, fun _ => .nil, fun before packet after h => absurd h (hbefore before after packet),
      fun _ => rfl, rfl⟩
  exact (run_invariant (P := fun r : Ledger α => r.Known ∧ r.Accounts)
    (fun r c h => Ledger.call_accounts h.1 h.2 c) ⟨hinit, haccounts⟩ calls).2

end HandLab.Quest
