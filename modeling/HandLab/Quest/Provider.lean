import HandLab.Clutch.Types
import Mathlib.Data.Finset.Insert
import Mathlib.Order.BoundedOrder.Basic

/-!
# `ControllerProvider` and `ControllerClutchAdapter`

The session-aware host state of the left Quest controller
(`src/motion_input/controller_provider.py`, lines 14–301 and 350–362) and
`ControllerPacket` (`src/motion_input/controller_protocol.py`, lines 44–57),
whose triggers the parser holds in `[0, 1]`. `update` is cut into the decision
about the packet, `arrival`, and what follows from it.
-/

namespace HandLab.Quest

open HandLab.Clutch

variable {α : Type*}

/-! ## Packets and states -/

/-- `ControllerPacket`. -/
structure ControllerPacket (α : Type*) where
  version : ℕ
  sessionId : ℕ
  sequenceNumber : ℕ
  sourceTimestampNs : ℕ
  connected : Bool
  active : Bool
  tracked : Bool
  indexTrigger : α
  gripTrigger : α
  deriving DecidableEq

/-- `facts_valid` (lines 55–57). -/
def ControllerPacket.factsValid (packet : ControllerPacket α) : Bool :=
  packet.connected && packet.active && packet.tracked

/-- `_latest` with `_host_receive_ns`; `_accept` assigns both. -/
structure Accepted (α : Type*) where
  packet : ControllerPacket α
  hostReceiveNs : ℕ
  deriving DecidableEq

/-- The counters of `ControllerProvider`. -/
structure ProviderCounts where
  packetCount : ℕ
  acceptedCount : ℕ
  invalidCount : ℕ
  gapEventCount : ℕ
  missingSequenceCount : ℕ
  duplicateCount : ℕ
  reorderCount : ℕ
  newSessionCount : ℕ
  sessionCount : ℕ
  oldSessionPacketCount : ℕ
  staleEventCount : ℕ
  sourcePauseCount : ℕ
  sourceReorderCount : ℕ
  deriving DecidableEq, Repr

/-- The constructor arguments of `ControllerProvider`, in nanoseconds. -/
structure ProviderConfig where
  staleAfterNs : ℕ
  sourcePauseAfterNs : ℕ
  deriving DecidableEq, Repr

/-- `ControllerProvider`. -/
structure ControllerProvider (α : Type*) where
  latest : Option (Accepted α)
  currentSession : Option ℕ
  retiredSessions : Finset ℕ
  sequenceGap : ℕ
  sourceIntervalNs : Option ℤ
  sourcePause : Bool
  counts : ProviderCounts
  activeFault : String
  staleLatched : Bool
  forcedInvalidReason : Option String

/-- After `__init__`. -/
def ControllerProvider.init : ControllerProvider α where
  latest := none
  currentSession := none
  retiredSessions := ∅
  sequenceGap := 0
  sourceIntervalNs := none
  sourcePause := false
  counts := ⟨0, 0, 0, 0, 0, 0, 0, 0, 0, 0, 0, 0, 0⟩
  activeFault := "no_sample"
  staleLatched := true
  forcedInvalidReason := none

/-- `ControllerProviderState`. -/
structure ControllerProviderState (α : Type*) where
  latest : Option (Accepted α)
  sampleAgeNs : Option ℕ
  stale : Bool
  controllerValid : Bool
  invalidReason : Option String
  activeFault : String
  sequenceGap : ℕ
  sourceIntervalNs : Option ℤ
  sourcePause : Bool
  counts : ProviderCounts

/-- What the provider raises. -/
inductive ProviderError
  /-- `ValueError("host receive monotonic timestamp must be non-negative")` -/
  | negativeReceive
  /-- `ValueError("host monotonic timestamp must be non-negative")` -/
  | negativeTime
  /-- `ValueError("controller invalid reason is required")` -/
  | emptyReason
  /-- a failed `assert` -/
  | assertion
  deriving DecidableEq, Repr

/-- `_invalid_reason` (lines 350–362). -/
def invalidReason (packet : Option (ControllerPacket α)) (stale : Bool) : Option String :=
  if stale then some "stale"
  else
    match packet with
    | none => some "no_sample"
    | some packet =>
      let reasons := (if packet.connected then [] else ["disconnected"]) ++
        (if packet.active then [] else ["inactive"]) ++
        (if packet.tracked then [] else ["untracked"])
      if reasons = [] then none else some ("+".intercalate reasons)

namespace ControllerProvider

variable (config : ProviderConfig) (p : ControllerProvider α)

/-! ## `snapshot` -/

/-- `stale` (lines 183–188). -/
def isStale (nowNs : ℕ) : Bool :=
  match p.latest with
  | none => true
  | some last =>
    decide (nowNs < last.hostReceiveNs) || decide (config.staleAfterNs < nowNs - last.hostReceiveNs)

/-- `facts_valid` (lines 192–196). -/
def factsValid : Bool :=
  (p.latest.any fun last => last.packet.factsValid) && p.forcedInvalidReason.isNone

/-- The latch of a stale sample (lines 189–191). -/
def latchStale (stale : Bool) : ControllerProvider α :=
  if stale && !p.staleLatched then
    { p with
      counts := { p.counts with staleEventCount := p.counts.staleEventCount + 1 }
      staleLatched := true }
  else p

/-- `snapshot` (lines 177–228) at a time that is not negative. -/
def snapshotAt (nowNs : ℕ) : ControllerProviderState α × ControllerProvider α :=
  let stale := p.isStale config nowNs
  let p := p.latchStale stale
  ({ latest := p.latest
     sampleAgeNs := p.latest.map fun last => nowNs - last.hostReceiveNs
     stale
     controllerValid := p.factsValid && !stale
     invalidReason :=
       (invalidReason (p.latest.map Accepted.packet) stale).or p.forcedInvalidReason
     activeFault := if stale then "stale" else p.forcedInvalidReason.getD p.activeFault
     sequenceGap := p.sequenceGap
     sourceIntervalNs := p.sourceIntervalNs
     sourcePause := p.sourcePause
     counts := p.counts }, p)

/-- `snapshot` (lines 177–228). -/
def snapshot (nowNs : ℤ) :
    Except ProviderError (ControllerProviderState α) × ControllerProvider α :=
  if nowNs < 0 then (.error .negativeTime, p)
  else
    let (state, p) := p.snapshotAt config nowNs.toNat
    (.ok state, p)

/-! ## `update` -/

/-- What `update` makes of a packet. -/
inductive Arrival (α : Type*)
  | oldSession
  | initialSession
  | newSession (previous : ℕ)
  | duplicate
  | reorder
  | forward (last : Accepted α)
  | assertion

/-- The tests of `update` (lines 120–148). -/
def arrival (packet : ControllerPacket α) : Arrival α :=
  if packet.sessionId ∈ p.retiredSessions then .oldSession
  else
    match p.currentSession with
    | none => .initialSession
    | some session =>
      if packet.sessionId ≠ session then .newSession session
      else
        match p.latest with
        | none => .assertion
        | some last =>
          if packet.sequenceNumber = last.packet.sequenceNumber then .duplicate
          else if packet.sequenceNumber < last.packet.sequenceNumber then .reorder
          else .forward last

/-- A packet that arrives so is accepted. -/
def Arrival.isAccepted : Arrival α → Bool
  | .initialSession => true
  | .newSession _ => true
  | .forward _ => true
  | .oldSession => false
  | .duplicate => false
  | .reorder => false
  | .assertion => false

/-- `_accept` (lines 230–242). -/
def accept (packet : ControllerPacket α) (receiveNs : ℕ) (activeFault : String) :
    ControllerProvider α :=
  { p with
    latest := some ⟨packet, receiveNs⟩
    forcedInvalidReason := none
    counts := { p.counts with
      acceptedCount := p.counts.acceptedCount + 1
      invalidCount := p.counts.invalidCount + if packet.factsValid then 0 else 1 }
    activeFault := (invalidReason (some packet) false).getD activeFault
    staleLatched := false }

/-- The assignments before the tests (lines 115–118). -/
def arrived : ControllerProvider α :=
  { p with
    counts := { p.counts with packetCount := p.counts.packetCount + 1 }
    sequenceGap := 0
    sourceIntervalNs := none
    sourcePause := false }

/-- The diagnostics of a forward packet (lines 148–159). -/
def compare (packet : ControllerPacket α) (last : Accepted α) : ControllerProvider α :=
  let gap := packet.sequenceNumber - last.packet.sequenceNumber - 1
  let delta := (packet.sourceTimestampNs : ℤ) - last.packet.sourceTimestampNs
  let pause := decide (0 ≤ delta) && decide ((config.sourcePauseAfterNs : ℤ) < delta)
  { p with
    sequenceGap := gap
    sourceIntervalNs := some delta
    sourcePause := pause
    counts := { p.counts with
      gapEventCount := p.counts.gapEventCount + if 0 < gap then 1 else 0
      missingSequenceCount := p.counts.missingSequenceCount + gap
      sourceReorderCount := p.counts.sourceReorderCount + if delta < 0 then 1 else 0
      sourcePauseCount := p.counts.sourcePauseCount + if pause then 1 else 0 } }

/-- `fault` (lines 161–165). -/
def diagnosis : String :=
  if p.sourceIntervalNs.any fun delta => decide (delta < 0) then "source_timestamp_reorder"
  else if p.sourcePause then "source_pause"
  else if p.sequenceGap = 0 then "none"
  else "sequence_gap"

/-- `update` up to its `snapshot` (lines 115–166). -/
def receive (packet : ControllerPacket α) (receiveNs : ℕ) :
    Except ProviderError Unit × ControllerProvider α :=
  let p' := p.arrived
  match p.arrival packet with
  | .oldSession =>
    (.ok (), { p' with
      counts := { p'.counts with oldSessionPacketCount := p'.counts.oldSessionPacketCount + 1 }
      activeFault := "old_session_packet" })
  | .initialSession =>
    (.ok (), accept { p' with
      currentSession := some packet.sessionId
      counts := { p'.counts with sessionCount := 1 } } packet receiveNs "initial_session")
  | .newSession previous =>
    (.ok (), accept { p' with
      retiredSessions := insert previous p'.retiredSessions
      currentSession := some packet.sessionId
      counts := { p'.counts with
        newSessionCount := p'.counts.newSessionCount + 1
        sessionCount := p'.counts.sessionCount + 1 } } packet receiveNs "new_session")
  | .duplicate =>
    (.ok (), { p' with
      counts := { p'.counts with duplicateCount := p'.counts.duplicateCount + 1 }
      activeFault := "duplicate" })
  | .reorder =>
    (.ok (), { p' with
      counts := { p'.counts with reorderCount := p'.counts.reorderCount + 1 }
      activeFault := "sequence_reorder" })
  | .forward last =>
    let compared := p'.compare config packet last
    (.ok (), compared.accept packet receiveNs compared.diagnosis)
  | .assertion => (.error .assertion, p')

/-- `update` (lines 102–167). -/
def update (packet : ControllerPacket α) (receiveNs : ℤ) :
    Except ProviderError (ControllerProviderState α) × ControllerProvider α :=
  if receiveNs < 0 then (.error .negativeReceive, p)
  else
    match p.receive config packet receiveNs.toNat with
    | (.error error, p) => (.error error, p)
    | (.ok (), p) =>
      let (state, p) := p.snapshotAt config receiveNs.toNat
      (.ok state, p)

/-! ## `invalidate` -/

/-- `str.isspace` for one character. -/
def isSpace (c : Char) : Bool :=
  (9 ≤ c.toNat && c.toNat ≤ 13) || (28 ≤ c.toNat && c.toNat ≤ 32) || c.toNat == 133 ||
    c.toNat == 160 || c.toNat == 5760 || (8192 ≤ c.toNat && c.toNat ≤ 8202) ||
    c.toNat == 8232 || c.toNat == 8233 || c.toNat == 8239 || c.toNat == 8287 || c.toNat == 12288

/-- `invalidate` (lines 169–175). -/
def invalidate (reason : String) : Except ProviderError Unit × ControllerProvider α :=
  if reason.toList.all isSpace then (.error .emptyReason, p)
  else (.ok (), { p with activeFault := reason, forcedInvalidReason := some reason })

end ControllerProvider

/-! ## What the calls change -/

namespace ControllerProvider

variable {config : ProviderConfig} {p : ControllerProvider α}

/-- The members that decide what a snapshot says of the controller. -/
structure Core (α : Type*) where
  latest : Option (Accepted α)
  currentSession : Option ℕ
  retiredSessions : Finset ℕ
  forcedInvalidReason : Option String

/-- The core of a provider. -/
def core (p : ControllerProvider α) : Core α :=
  ⟨p.latest, p.currentSession, p.retiredSessions, p.forcedInvalidReason⟩

@[simp] theorem snapshotAt_core (nowNs : ℕ) : (p.snapshotAt config nowNs).2.core = p.core := by
  show (p.latchStale (p.isStale config nowNs)).core = p.core
  unfold latchStale
  split_ifs <;> rfl

theorem snapshotAt_latest (nowNs : ℕ) : (p.snapshotAt config nowNs).1.latest = p.latest := by
  show (p.latchStale (p.isStale config nowNs)).latest = p.latest
  unfold latchStale
  split_ifs <;> rfl

theorem snapshotAt_valid (nowNs : ℕ) : (p.snapshotAt config nowNs).1.controllerValid =
    (p.factsValid && !p.isStale config nowNs) := by
  show ((p.latchStale (p.isStale config nowNs)).factsValid && _) = _
  unfold latchStale
  split_ifs <;> rfl

theorem arrival_spec (packet : ControllerPacket α) :
    match p.arrival packet with
    | .oldSession => packet.sessionId ∈ p.retiredSessions
    | .initialSession => packet.sessionId ∉ p.retiredSessions ∧ p.currentSession = none
    | .newSession previous => packet.sessionId ∉ p.retiredSessions ∧
        p.currentSession = some previous ∧ packet.sessionId ≠ previous
    | .duplicate => p.currentSession = some packet.sessionId ∧
        ∃ last, p.latest = some last ∧ packet.sequenceNumber = last.packet.sequenceNumber
    | .reorder => p.currentSession = some packet.sessionId ∧
        ∃ last, p.latest = some last ∧ packet.sequenceNumber < last.packet.sequenceNumber
    | .forward last => packet.sessionId ∉ p.retiredSessions ∧
        p.currentSession = some packet.sessionId ∧ p.latest = some last ∧
        last.packet.sequenceNumber < packet.sequenceNumber
    | .assertion => p.currentSession = some packet.sessionId ∧ p.latest = none := by
  unfold arrival
  by_cases hretired : packet.sessionId ∈ p.retiredSessions
  · rw [if_pos hretired]
    exact hretired
  rw [if_neg hretired]
  cases hcurrent : p.currentSession with
  | none => exact ⟨hretired, rfl⟩
  | some session =>
    by_cases hsession : packet.sessionId = session
    · obtain rfl := hsession
      dsimp only
      rw [if_neg (not_not.mpr rfl)]
      cases hlatest : p.latest with
      | none => exact ⟨rfl, rfl⟩
      | some last =>
        dsimp only
        by_cases heq : packet.sequenceNumber = last.packet.sequenceNumber
        · rw [if_pos heq]
          exact ⟨rfl, last, rfl, heq⟩
        rw [if_neg heq]
        by_cases hlt : packet.sequenceNumber < last.packet.sequenceNumber
        · rw [if_pos hlt]
          exact ⟨rfl, last, rfl, hlt⟩
        · rw [if_neg hlt]
          exact ⟨hretired, rfl, rfl, by omega⟩
    · dsimp only
      rw [if_pos hsession]
      exact ⟨hretired, rfl, hsession⟩

/-- The sessions that are over after an arrival. -/
def Arrival.retired (retiredSessions : Finset ℕ) : Arrival α → Finset ℕ
  | .newSession previous => insert previous retiredSessions
  | _ => retiredSessions

variable {packet : ControllerPacket α}

theorem receive_core_refused {receiveNs : ℕ}
    (h : (p.arrival packet).isAccepted = false) :
    (p.receive config packet receiveNs).2.core = p.core := by
  unfold receive
  cases harrival : p.arrival packet with
  | oldSession => rfl
  | duplicate => rfl
  | reorder => rfl
  | assertion => rfl
  | initialSession => rw [harrival] at h; exact absurd h nofun
  | newSession previous => rw [harrival] at h; exact absurd h nofun
  | forward last => rw [harrival] at h; exact absurd h nofun

theorem receive_core_accepted {receiveNs : ℕ}
    (h : (p.arrival packet).isAccepted = true) :
    (p.receive config packet receiveNs).2.core =
      ⟨some ⟨packet, receiveNs⟩, some packet.sessionId,
        (p.arrival packet).retired p.retiredSessions, none⟩ := by
  have hspec := p.arrival_spec packet
  unfold receive
  cases harrival : p.arrival packet with
  | oldSession => rw [harrival] at h; exact absurd h nofun
  | duplicate => rw [harrival] at h; exact absurd h nofun
  | reorder => rw [harrival] at h; exact absurd h nofun
  | assertion => rw [harrival] at h; exact absurd h nofun
  | initialSession => rfl
  | newSession previous => rfl
  | forward last =>
    rw [harrival] at hspec
    rw [← hspec.2.1]
    rfl

/-- `update` does what `receive` does to the core. -/
theorem update_core {receiveNs : ℤ} (h : 0 ≤ receiveNs) :
    (p.update config packet receiveNs).2.core =
      (p.receive config packet receiveNs.toNat).2.core := by
  unfold update
  rw [if_neg (not_lt.mpr h)]
  split
  · rename_i heq
    rw [heq]
  · rename_i heq
    rw [heq]
    exact snapshotAt_core _

end ControllerProvider

/-! ## `ControllerClutchAdapter` -/

/-- `ControllerClutchFrame`. -/
structure ControllerClutchFrame (α : Type*) where
  index : AnalogClutchSample α
  grip : AnalogClutchSample α
  controllerValid : Bool
  sharedReleaseRequired : Bool
  providerName : String := "quest_ctrl_udp_v1"
  deriving DecidableEq

/-- The members of `ControllerClutchAdapter` that change. -/
structure ControllerClutchAdapter where
  sharedReleaseRequired : Bool
  sessionId : Option ℕ
  deriving DecidableEq, Repr

namespace ControllerClutchAdapter

/-- After `__init__`. -/
def init : ControllerClutchAdapter := ⟨true, none⟩

variable [LinearOrder α] (releasedAt : α) (a : ControllerClutchAdapter)

/-- Both controls are at or below the release threshold. -/
def bothReleased (packet : ControllerPacket α) : Bool :=
  decide (packet.indexTrigger ≤ releasedAt) && decide (packet.gripTrigger ≤ releasedAt)

/-- `shared_release_required` after the session test (lines 270–272). -/
def requiresRelease (packet : ControllerPacket α) : Bool :=
  decide (a.sessionId ≠ some packet.sessionId) || a.sharedReleaseRequired

/-- The adapter after a state with a packet (lines 270–279). -/
def observe (packet : ControllerPacket α) (controllerValid : Bool) : ControllerClutchAdapter where
  sessionId := some packet.sessionId
  sharedReleaseRequired :=
    if !controllerValid then true
    else if a.requiresRelease packet && bothReleased releasedAt packet then false
    else a.requiresRelease packet

/-- One of the two samples (lines 282–295). -/
def sampleOf (last : Accepted α) (value : α) (valid : Bool) : AnalogClutchSample α where
  value := value
  hostReceiveMonotonicNs := last.hostReceiveNs
  sequenceNumber := last.packet.sequenceNumber
  valid := valid
  sourceTimestampNs := some last.packet.sourceTimestampNs

/-- `samples` for a packet and its validity (lines 261–301). -/
def samplesAt [OrderBot α] (latest : Option (Accepted α)) (controllerValid : Bool) :
    ControllerClutchFrame α × ControllerClutchAdapter :=
  match latest with
  | none =>
    let invalid : AnalogClutchSample α := ⟨⊥, 0, 0, false, none⟩
    ({ index := invalid, grip := invalid, controllerValid := false, sharedReleaseRequired := true },
      { a with sharedReleaseRequired := true })
  | some last =>
    let a := a.observe releasedAt last.packet controllerValid
    let valid := controllerValid && !a.sharedReleaseRequired
    ({ index := sampleOf last last.packet.indexTrigger valid
       grip := sampleOf last last.packet.gripTrigger valid
       controllerValid
       sharedReleaseRequired := a.sharedReleaseRequired }, a)

/-- `samples` (lines 261–301). -/
def samples [OrderBot α] (state : ControllerProviderState α) :
    ControllerClutchFrame α × ControllerClutchAdapter :=
  a.samplesAt releasedAt state.latest state.controllerValid

end ControllerClutchAdapter

end HandLab.Quest
