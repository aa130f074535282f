import HandLab.Episode.CameraFrames
import HandLab.Lib.Run
import HandLab.Lib.SlotRing
import Mathlib.Data.Int.Interval

/-!
# The camera frame ring

`CameraFrameRing` (`src/episode_dataset/camera.py` lines 30–165): one producer
publishes into reused slots while any number of readers copy from them. A step
is one access of a word, an array element or the dictionary; the calls of
producer and readers interleave in any order.

* `Store.Ok`: what the slots and the dictionary hold at each point of a `publish`.
* `Reader.Ok`: what a reader knows at each point of a `read`.
* `Ring.ok_run`: both hold in every run.
* `length_metadata_le`, `Ring.InTime`: how much metadata is kept, and that a read in time
  succeeds.

The counters of the ring are not modelled.
-/

namespace HandLab.Episode.CameraRing

open HandLab.Lib

variable {ρ δ α : Type}

/-! ## State -/

/-- Where `publish` is: what its next step does. -/
inductive Publisher (δ α : Type)
  | idle
  | evict (sample : PixelSample δ α) (sequence : ℤ)
  | mark (sample : PixelSample δ α) (sequence : ℤ)
  | copying (sample : PixelSample δ α) (sequence : ℤ) (i : ℕ)
  | stamp (sample : PixelSample δ α) (sequence : ℤ)
  | settle (sample : PixelSample δ α) (sequence : ℤ)
  | record (sample : PixelSample δ α) (sequence : ℤ)

/-- What the producer writes; a slot is a `_FrameSlot`, and `profile` the shape of
    the allocated slots. -/
structure Store (δ α : Type) extends SlotRing (PixelSample δ α) α where
  profile : Option Profile
  metadata : List (ℤ × CameraFrameRef δ)
  publisher : Publisher δ α

/-- The locals of `read` in its loop; `tries` counts this round and those left. -/
structure Attempt (δ : Type) where
  sequence : ℤ
  profile : Profile
  reference : CameraFrameRef δ
  tries : ℕ

/-- Where a call of `read` is. -/
inductive Reader (δ α : Type)
  | idle
  | lookup (sequence : ℤ) (profile : Option Profile)
  | checkVersion (attempt : Attempt δ)
  | checkSequence (attempt : Attempt δ)
  | copying (attempt : Attempt δ) (copied : List α)
  | recheckVersion (attempt : Attempt δ) (copied : List α)
  | recheckSequence (attempt : Attempt δ) (copied : List α)
  | done (sequence : ℤ) (result : Option (PixelSample δ α))

/-- A ring with the calls in progress. -/
structure Ring (ρ δ α : Type) where
  store : Store δ α
  readers : ρ → Reader δ α

/-- A new ring; nothing is known of the memory that it will allocate. -/
def Ring.init (memory : ℤ → ℕ → α) : Ring ρ δ α where
  store := ⟨.init memory, none, [], .idle⟩
  readers := fun _ => .idle

/-! ## `publish` -/

section Steps

variable (capacity : ℤ)

namespace Store

variable (store : Store δ α)

/-- `publish` is called: the slots are allocated for the first sample, and the
    sequence is taken (lines 71–76). -/
def publish (sample : PixelSample δ α) : Store δ α :=
  match store.publisher with
  | .idle =>
    { store with
      toSlotRing := store.take sample
      profile := some (store.profile.getD sample.profile)
      publisher := .evict sample store.nextSequence }
  | _ => store

/-- The next step of `publish` (lines 77–130). -/
def produce : Store δ α :=
  match store.publisher with
  | .idle => store
  | .evict sample sequence =>
    let slot := store.slot capacity sequence
    let metadata :=
      if 0 ≤ slot.sequence then dictPop slot.sequence store.metadata else store.metadata
    -- a changed profile raises
    { store with
      metadata
      publisher := if store.profile ≠ some sample.profile then .idle else .mark sample sequence }
  | .mark sample sequence =>
    { store with
      toSlotRing := store.setVersion capacity sequence (sequence * 2 + 1)
      publisher := .copying sample sequence 0 }
  | .copying sample sequence i =>
    match sample.elements[i]? with
    | some x =>
      { store with
        toSlotRing := store.setCell capacity sequence i x
        publisher := .copying sample sequence (i + 1) }
    | none => { store with publisher := .stamp sample sequence }
  | .stamp sample sequence =>
    { store with
      toSlotRing := store.stamp capacity sequence
      publisher := .settle sample sequence }
  | .settle sample sequence =>
    { store with
      toSlotRing := store.setVersion capacity sequence (sequence * 2 + 2)
      publisher := .record sample sequence }
  | .record sample sequence =>
    { store with
      toSlotRing := store.finish sequence
      metadata := dictSet sequence (sample.reference sequence) store.metadata
      publisher := .idle }

end Store

/-! ## `read` -/

/-- `continue`: the next round of the loop, or its end (lines 162–164). -/
def Attempt.retry (attempt : Attempt δ) : Reader δ α :=
  if attempt.tries ≤ 1 then .done attempt.sequence none
  else .checkVersion { attempt with tries := attempt.tries - 1 }

/-- The next step of `read` (lines 134–164). -/
def Reader.next (store : Store δ α) : Reader δ α → Reader δ α
  | .idle => .idle
  | .lookup sequence profile =>
    match profile, store.metadata.lookup sequence with
    | some profile, some reference => .checkVersion ⟨sequence, profile, reference, 3⟩
    | _, _ => .done sequence none
  | .checkVersion attempt =>
    let before := (store.slot capacity attempt.sequence).block.version
    if before ≠ attempt.sequence * 2 + 2 ∨ before % 2 = 1 then attempt.retry
    else .checkSequence attempt
  | .checkSequence attempt =>
    if (store.slot capacity attempt.sequence).sequence ≠ attempt.sequence then attempt.retry
    else .copying attempt []
  | .copying attempt copied =>
    if copied.length < attempt.profile.size then
      .copying attempt
        (copied ++ [(store.slot capacity attempt.sequence).block.cells copied.length])
    else .recheckVersion attempt copied
  | .recheckVersion attempt copied =>
    -- `before` was the expected version
    if (store.slot capacity attempt.sequence).block.version = attempt.sequence * 2 + 2 then
      .recheckSequence attempt copied
    else attempt.retry
  | .recheckSequence attempt copied =>
    if (store.slot capacity attempt.sequence).sequence = attempt.sequence then
      .done attempt.sequence
        (some (attempt.reference.sample attempt.profile copied attempt.sequence))
    else attempt.retry
  | .done sequence result => .done sequence result

/-- A call of `read` may start. -/
def Reader.free : Reader δ α → Bool
  | .idle | .done _ _ => true
  | _ => false

/-- One step: a call, or the next access of the producer or of a reader. -/
inductive Event (ρ δ α : Type)
  | publish (sample : { sample : PixelSample δ α // sample.Sized })
  | produce
  | read (reader : ρ) (sequence : ℤ)
  | advance (reader : ρ)

variable [DecidableEq ρ]

def step (ring : Ring ρ δ α) : Event ρ δ α → Ring ρ δ α
  | .publish sample => { ring with store := ring.store.publish sample.val }
  | .produce => { ring with store := ring.store.produce capacity }
  | .read r sequence =>
    if (ring.readers r).free then
      { ring with
        readers := Function.update ring.readers r (.lookup sequence ring.store.profile) }
    else ring
  | .advance r =>
    { ring with
      readers := Function.update ring.readers r ((ring.readers r).next capacity ring.store) }

end Steps

/-! ## The store -/

namespace Store

variable {capacity : ℤ} {store store' : Store δ α}

/-- What holds between any two steps of the producer. -/
structure Core (capacity : ℤ) (store : Store δ α) : Prop where
  ring : store.Sound capacity PixelSample.elements PixelSample.Sized
  nodup : (dictKeys store.metadata).Nodup
  metadata : ∀ s reference, store.metadata.lookup s = some reference →
    (store.slot capacity s).block.version = s * 2 + 2 ∧ ∃ sample, store.passed s = some sample ∧
      store.profile = some sample.profile ∧ reference = sample.reference s
  /-- a published frame is there until its slot is needed again -/
  kept : ∀ s ∈ store.returned, store.nextSequence ≤ s + capacity →
    ∃ reference, store.metadata.lookup s = some reference

/-- No metadata is kept for the slot of a sequence. -/
def Evicted (capacity : ℤ) (store : Store δ α) (sequence : ℤ) : Prop :=
  ∀ k ∈ dictKeys store.metadata, k % capacity ≠ sequence % capacity

/-- What holds at each point of `publish`. -/
def PublisherOk (capacity : ℤ) (store : Store δ α) : Prop :=
  match store.publisher with
  | .idle => store.Below (store.nextSequence * 2)
  | .evict sample sequence => store.Publishing sample sequence ∧ store.Below (sequence * 2)
  | .mark sample sequence =>
    store.Publishing sample sequence ∧ store.profile = some sample.profile ∧
      store.Below (sequence * 2) ∧ store.Evicted capacity sequence
  | .copying sample sequence i =>
    store.Writing capacity sample sequence ∧ store.profile = some sample.profile ∧
      (store.slot capacity sequence).block.Written sample.elements i
  | .stamp sample sequence =>
    store.Writing capacity sample sequence ∧ store.profile = some sample.profile ∧
      (store.slot capacity sequence).block.Holds sample.elements
  | .settle sample sequence =>
    store.Writing capacity sample sequence ∧ store.profile = some sample.profile ∧
      (store.slot capacity sequence).block.Holds sample.elements ∧
      (store.slot capacity sequence).sequence = sequence
  | .record sample sequence =>
    store.Settled capacity sample sequence ∧ store.profile = some sample.profile

/-- The invariant of the producer. -/
structure Ok (capacity : ℤ) (store : Store δ α) : Prop where
  core : Core capacity store
  publisher : PublisherOk capacity store

/-- What the producer keeps for the readers. -/
structure Evolves (capacity : ℤ) (store store' : Store δ α) : Prop extends
    SlotRing.Evolves capacity store.toSlotRing store'.toSlotRing where
  profile : ∀ profile, store.profile = some profile → store'.profile = some profile

/-- A step of the producer. -/
structure Moves (capacity : ℤ) (store store' : Store δ α) : Prop where
  ok : store'.Ok capacity
  evolves : store.Evolves capacity store'

variable {sample : PixelSample δ α} {sequence : ℤ}

theorem Core.evicted (h : Core capacity store) (hw : store.Writing capacity sample sequence) :
    store.Evicted capacity sequence := by
  intro k hk heq
  obtain ⟨reference, hlookup⟩ := lookup_isSome_of_mem_dictKeys hk
  have hv := (h.metadata k reference hlookup).1
  rw [SlotRing.slot_congr heq, hw.version] at hv
  omega

/-- The slot of the publication in progress is written. -/
theorem Core.setSlot (h : Core capacity store) {slot : RingSlot α}
    (hring : (store.setSlot capacity sequence slot).Sound capacity PixelSample.elements
      PixelSample.Sized)
    (hevicted : store.Evicted capacity sequence) (publisher : Publisher δ α) :
    Core capacity
      { store with toSlotRing := store.setSlot capacity sequence slot, publisher } := by
  refine ⟨hring, h.nodup, fun s reference hlookup => ?_, h.kept⟩
  rw [SlotRing.slot_setSlot_of_ne (hevicted s (mem_dictKeys_of_lookup hlookup))]
  exact h.metadata s reference hlookup

/-- A call of `publish`. -/
theorem Ok.publish (h : Ok capacity store) (hsized : sample.Sized) :
    Moves capacity store (store.publish sample) := by
  obtain ⟨hcore, hpublisher⟩ := h
  unfold Store.publish
  cases hp : store.publisher with
  | idle =>
    unfold PublisherOk at hpublisher
    rw [hp] at hpublisher
    have hevolves := hcore.ring.evolves_take sample
    refine ⟨⟨⟨hcore.ring.take hsized, hcore.nodup, fun s reference hlookup => ?_,
      fun s hs hlap => hcore.kept s hs (hevolves.next.trans hlap)⟩,
      hcore.ring.publishing_take sample, hpublisher⟩, hevolves, fun profile hprofile => ?_⟩
    · obtain ⟨hv, old, hold, hprofile, href⟩ := hcore.metadata s reference hlookup
      exact ⟨hv, old, hevolves.passed s old hold, by rw [hprofile, Option.getD_some], href⟩
    · show some (store.profile.getD sample.profile) = some profile
      rw [hprofile, Option.getD_some]
  | _ => exact ⟨⟨hcore, hpublisher⟩, .refl _, fun _ h => h⟩

/-- The eviction of the slot that the publication in progress is going to write. -/
theorem Core.evict (h : Core capacity store) (hp : store.Publishing sample sequence)
    {metadata : List (ℤ × CameraFrameRef δ)} {publisher : Publisher δ α}
    (hmetadata : metadata = if 0 ≤ (store.slot capacity sequence).sequence then
      dictPop (store.slot capacity sequence).sequence store.metadata else store.metadata) :
    Core capacity { store with metadata, publisher } ∧
      Evicted capacity { store with metadata, publisher } sequence := by
  -- the sequence in the slot is the only key that the slot can have
  have hkept {k : ℤ} (hk : k % capacity ≠ sequence % capacity) :
      metadata.lookup k = store.metadata.lookup k := by
    rw [hmetadata]
    split_ifs with h0
    · exact lookup_dictPop_of_ne (fun heq => hk (by rw [heq]; exact h.ring.residue _ h0)) _
    · rfl
  have hkeys : ∀ k ∈ dictKeys metadata, k % capacity ≠ sequence % capacity := by
    intro k hk heq
    have hold : k ∈ dictKeys store.metadata := by
      rw [hmetadata] at hk
      split_ifs at hk
      · exact (mem_dictKeys_dictPop.mp hk).1
      · exact hk
    obtain ⟨reference, hlookup⟩ := lookup_isSome_of_mem_dictKeys hold
    obtain ⟨hv, old, hpassed, -⟩ := h.metadata k reference hlookup
    have h0 := (h.ring.passed k old hpassed).1
    have hsequence := (h.ring.stable k h0 hv).1
    rw [SlotRing.slot_congr heq] at hsequence
    rw [hmetadata, hsequence, if_pos h0] at hk
    exact (mem_dictKeys_dictPop.mp hk).2 rfl
  refine ⟨⟨h.ring, ?_, ?_, ?_⟩, hkeys⟩
  · show (dictKeys metadata).Nodup
    rw [hmetadata]
    split_ifs
    · exact nodup_dictKeys_dictPop h.nodup
    · exact h.nodup
  · intro s reference hlookup
    have hne := hkeys s (mem_dictKeys_of_lookup hlookup)
    exact h.metadata s reference ((hkept hne).symm.trans hlookup)
  · intro s hs hlap
    obtain ⟨reference, hlookup⟩ := h.kept s hs hlap
    exact ⟨reference, (hkept (hp.emod_ne hs hlap)).trans hlookup⟩

/-- The reference of the publication in progress is recorded. -/
theorem Core.record (h : Core capacity store) (hs : store.Settled capacity sample sequence)
    (hprofile : store.profile = some sample.profile) :
    Core capacity { store with
      toSlotRing := store.finish sequence
      metadata := dictSet sequence (sample.reference sequence) store.metadata
      publisher := .idle } := by
  refine ⟨h.ring.finish hs, nodup_dictKeys_dictSet h.nodup, ?_, ?_⟩
  · intro s reference hlookup
    by_cases heq : s = sequence
    · subst heq
      rw [lookup_dictSet_self] at hlookup
      exact ⟨hs.version, sample, hs.passed, hprofile, (Option.some.inj hlookup).symm⟩
    · rw [lookup_dictSet_of_ne heq] at hlookup
      exact h.metadata s reference hlookup
  · intro s hmem hlap
    rcases List.mem_cons.mp hmem with rfl | hmem
    · exact ⟨_, lookup_dictSet_self ..⟩
    · obtain ⟨reference, hlookup⟩ := h.kept s hmem hlap
      refine ⟨reference, ?_⟩
      rw [lookup_dictSet_of_ne (hs.returned s hmem).ne]
      exact hlookup

/-- A step of `publish`. -/
theorem Ok.produce (h : Ok capacity store) : Moves capacity store (store.produce capacity) := by
  obtain ⟨hcore, hpublisher⟩ := h
  unfold PublisherOk at hpublisher
  unfold Store.produce
  cases hp : store.publisher with
  | idle =>
    exact ⟨⟨hcore, by unfold PublisherOk; rwa [hp] at hpublisher ⊢⟩, .refl _, fun _ h => h⟩
  | evict sample sequence =>
    rw [hp] at hpublisher
    obtain ⟨hpub, hbelow⟩ := hpublisher
    have hnext := hpub.next_eq
    obtain ⟨hevicted, hkeys⟩ := hcore.evict hpub rfl
    refine ⟨⟨hevicted, ?_⟩, .refl _, fun _ h => h⟩
    by_cases hprofile : store.profile ≠ some sample.profile
    · unfold PublisherOk
      simp only [if_pos hprofile]
      exact fun i => (hbelow i).trans (by omega)
    · unfold PublisherOk
      simp only [if_neg hprofile]
      exact ⟨hpub, not_not.mp hprofile, hbelow, hkeys⟩
  | mark sample sequence =>
    rw [hp] at hpublisher
    obtain ⟨hpub, hprofile, hbelow, hkeys⟩ := hpublisher
    obtain ⟨hring, hw⟩ := hcore.ring.mark hpub hbelow
    exact ⟨⟨hcore.setSlot hring hkeys _, hw, hprofile, .zero⟩, .mark hbelow, fun _ h => h⟩
  | copying sample sequence i =>
    rw [hp] at hpublisher
    obtain ⟨hw, hprofile, hwritten⟩ := hpublisher
    dsimp only
    cases hx : sample.elements[i]? with
    | none =>
      exact ⟨⟨⟨hcore.ring, hcore.nodup, hcore.metadata, hcore.kept⟩, hw, hprofile,
        hwritten.holds hx⟩, .refl _, fun _ h => h⟩
    | some x =>
      obtain ⟨hring, hw'⟩ := hcore.ring.setCell hw i x
      refine ⟨⟨hcore.setSlot hring (hcore.evicted hw) _, hw', hprofile, ?_⟩, .setCell hw i x,
        fun _ h => h⟩
      show ((store.setCell capacity sequence i x).slot capacity sequence).block.Written _ _
      rw [SlotRing.slot_setCell]
      exact hwritten.setCell hx
  | stamp sample sequence =>
    rw [hp] at hpublisher
    obtain ⟨hw, hprofile, hholds⟩ := hpublisher
    obtain ⟨hring, hw'⟩ := hcore.ring.stamp hw
    refine ⟨⟨hcore.setSlot hring (hcore.evicted hw) _, hw', hprofile, ?_, ?_⟩, .stamp,
      fun _ h => h⟩
    · show ((store.stamp capacity sequence).slot capacity sequence).block.Holds _
      rw [SlotRing.slot_stamp]
      exact hholds
    · exact congrArg RingSlot.sequence SlotRing.slot_stamp
  | settle sample sequence =>
    rw [hp] at hpublisher
    obtain ⟨hw, hprofile, hholds, hsequence⟩ := hpublisher
    obtain ⟨hring, hsettled⟩ := hcore.ring.settle hw hsequence hholds
    exact ⟨⟨hcore.setSlot hring (hcore.evicted hw) _, hsettled, hprofile⟩, .settle hw,
      fun _ h => h⟩
  | record sample sequence =>
    rw [hp] at hpublisher
    obtain ⟨hsettled, hprofile⟩ := hpublisher
    exact ⟨⟨hcore.record hsettled hprofile, hsettled.below⟩, .finish, fun _ h => h⟩

/-- The slots bound the metadata. -/
theorem Core.length_metadata_le (h : Core capacity store) (hcapacity : 0 < capacity) :
    (store.metadata.length : ℤ) ≤ capacity := by
  have hinjective : Set.InjOn (· % capacity) { k | k ∈ dictKeys store.metadata } := by
    intro k hk l hl heq
    obtain ⟨_, hlookupk⟩ := lookup_isSome_of_mem_dictKeys hk
    obtain ⟨_, hlookupl⟩ := lookup_isSome_of_mem_dictKeys hl
    have hvk := (h.metadata k _ hlookupk).1
    have hvl := (h.metadata l _ hlookupl).1
    rw [SlotRing.slot_congr heq] at hvk
    omega
  have hcard := Finset.card_le_card_of_injOn (s := (dictKeys store.metadata).toFinset)
    (t := Finset.Ico 0 capacity) (· % capacity) (fun k _ => by
      simp only [Finset.coe_Ico, Set.mem_Ico]
      exact ⟨Int.emod_nonneg _ hcapacity.ne', Int.emod_lt_of_pos _ hcapacity⟩)
    (by simpa using hinjective)
  rw [List.toFinset_card_of_nodup h.nodup, length_dictKeys, Int.card_Ico, sub_zero] at hcard
  omega

end Store

/-! ## Readers -/

section Readers

variable {capacity : ℤ} {store store' : Store δ α}

/-- What a reader knows in the loop of `read`. -/
structure Attempt.Ok (store : Store δ α) (attempt : Attempt δ) : Prop where
  profile : store.profile = some attempt.profile
  reference : ∃ sample, store.passed attempt.sequence = some sample ∧
    sample.profile = attempt.profile ∧ attempt.reference = sample.reference attempt.sequence

/-- What a reader knows at each point of `read`. -/
def Reader.Ok (capacity : ℤ) (store : Store δ α) : Reader δ α → Prop
  | .idle => True
  | .lookup _ profile => ∀ p, profile = some p → store.profile = some p
  | .checkVersion attempt => attempt.Ok store
  | .checkSequence attempt =>
    attempt.Ok store ∧ Versioned.Copied (attempt.sequence * 2 + 2) ([] : List α)
      (store.slot capacity attempt.sequence).block
  | .copying attempt copied =>
    attempt.Ok store ∧ copied.length ≤ attempt.profile.size ∧
      Versioned.Copied (attempt.sequence * 2 + 2) copied
        (store.slot capacity attempt.sequence).block
  | .recheckVersion attempt copied =>
    attempt.Ok store ∧ copied.length = attempt.profile.size ∧
      Versioned.Copied (attempt.sequence * 2 + 2) copied
        (store.slot capacity attempt.sequence).block
  | .recheckSequence attempt copied =>
    attempt.Ok store ∧ ∃ sample, store.passed attempt.sequence = some sample ∧
      sample.Sized ∧ copied = sample.elements
  | .done sequence result => ∀ read, result = some read →
    ∃ sample, store.passed sequence = some sample ∧ read = sample.inRing sequence

theorem Attempt.Ok.evolves {attempt : Attempt δ} (h : attempt.Ok store)
    (hevolves : store.Evolves capacity store') : attempt.Ok store' := by
  obtain ⟨sample, hpassed, hreference⟩ := h.reference
  exact ⟨hevolves.profile _ h.profile, sample, hevolves.passed _ _ hpassed, hreference⟩

variable {reader : Reader δ α}

/-- The producer does not disturb the readers. -/
theorem Reader.Ok.evolves (h : reader.Ok capacity store)
    (hevolves : store.Evolves capacity store') : reader.Ok capacity store' := by
  cases reader with
  | idle => trivial
  | lookup sequence profile => exact fun p hp => hevolves.profile p (h p hp)
  | checkVersion attempt => exact Attempt.Ok.evolves h hevolves
  | checkSequence attempt => exact ⟨h.1.evolves hevolves, hevolves.copied _ _ h.2⟩
  | copying attempt copied => exact ⟨h.1.evolves hevolves, h.2.1, hevolves.copied _ _ h.2.2⟩
  | recheckVersion attempt copied =>
    exact ⟨h.1.evolves hevolves, h.2.1, hevolves.copied _ _ h.2.2⟩
  | recheckSequence attempt copied =>
    obtain ⟨hattempt, sample, hpassed, hrest⟩ := h
    exact ⟨hattempt.evolves hevolves, sample, hevolves.passed _ _ hpassed, hrest⟩
  | done sequence result =>
    intro read hread
    obtain ⟨sample, hpassed, hsample⟩ := h read hread
    exact ⟨sample, hevolves.passed _ _ hpassed, hsample⟩

theorem Attempt.Ok.retry {attempt : Attempt δ} (h : attempt.Ok store) :
    (attempt.retry : Reader δ α).Ok capacity store := by
  unfold Attempt.retry
  split_ifs
  · rintro _ ⟨⟩
  · exact ⟨h.profile, h.reference⟩

/-- A step of `read`. -/
theorem Reader.Ok.next (h : reader.Ok capacity store)
    (hstore : store.Ok capacity) : (reader.next capacity store).Ok capacity store := by
  cases reader with
  | idle => trivial
  | lookup sequence profile =>
    unfold Reader.next
    dsimp only
    cases profile with
    | none => rintro _ ⟨⟩
    | some profile =>
      cases hlookup : store.metadata.lookup sequence with
      | none => rintro _ ⟨⟩
      | some reference =>
        obtain ⟨-, sample, hpassed, hprofile, href⟩ :=
          hstore.core.metadata sequence reference hlookup
        exact ⟨h profile rfl, sample, hpassed,
          Option.some.inj (hprofile.symm.trans (h profile rfl)), href⟩
  | checkVersion attempt =>
    unfold Reader.next
    dsimp only
    split_ifs with hversion
    · exact Attempt.Ok.retry h
    · exact ⟨h, .nil (not_not.mp (not_or.mp hversion).1).ge⟩
  | checkSequence attempt =>
    unfold Reader.next
    dsimp only
    split_ifs
    · exact h.1.retry
    · exact ⟨h.1, Nat.zero_le _, h.2⟩
  | copying attempt copied =>
    obtain ⟨hattempt, hlength, hcopied⟩ := h
    unfold Reader.next
    dsimp only
    split_ifs with hlt
    · refine ⟨hattempt, ?_, hcopied.read⟩
      rw [List.length_append, List.length_singleton]
      exact hlt
    · exact ⟨hattempt, Nat.le_antisymm hlength (Nat.not_lt.mp hlt), hcopied⟩
  | recheckVersion attempt copied =>
    obtain ⟨hattempt, hlength, hcopied⟩ := h
    unfold Reader.next
    dsimp only
    split_ifs with hversion
    · obtain ⟨sample, hpassed, hprofile, -⟩ := hattempt.reference
      obtain ⟨h0, -, hsized⟩ := hstore.core.ring.passed _ _ hpassed
      obtain ⟨-, stable, hstable, hholds⟩ := hstore.core.ring.stable _ h0 hversion
      obtain rfl := Option.some.inj (hpassed.symm.trans hstable)
      refine ⟨hattempt, sample, hpassed, hsized, hcopied.eq_of_holds hversion hholds ?_⟩
      rw [hlength, hsized.length_elements, hprofile]
    · exact hattempt.retry
  | recheckSequence attempt copied =>
    obtain ⟨hattempt, sample, hpassed, hsized, rfl⟩ := h
    unfold Reader.next
    dsimp only
    split_ifs
    · rintro _ ⟨⟩
      obtain ⟨referred, hreferred, hprofile, hreference⟩ := hattempt.reference
      obtain rfl := Option.some.inj (hreferred.symm.trans hpassed)
      refine ⟨referred, hpassed, ?_⟩
      rw [hreference, ← hprofile]
      exact hsized.sample_elements _
    · exact hattempt.retry
  | done sequence result => exact h

/-- A read of a published frame whose slot is not needed yet has not failed. -/
def Reader.InTime (sequence : ℤ) : Reader δ α → Prop
  | .idle => False
  | .lookup s profile => s = sequence ∧ profile ≠ none
  | .checkVersion attempt | .checkSequence attempt | .copying attempt _
  | .recheckVersion attempt _ | .recheckSequence attempt _ => attempt.sequence = sequence
  | .done s result => s = sequence ∧ result ≠ none

theorem Reader.InTime.next {sequence : ℤ} (h : reader.InTime sequence)
    (hversion : (store.slot capacity sequence).block.version = sequence * 2 + 2)
    (hsequence : (store.slot capacity sequence).sequence = sequence)
    (hlookup : ∃ reference, store.metadata.lookup sequence = some reference) :
    (reader.next capacity store).InTime sequence := by
  cases reader with
  | idle => exact h
  | lookup s profile =>
    obtain ⟨rfl, hprofile⟩ := h
    obtain ⟨reference, hlookup⟩ := hlookup
    obtain ⟨profile, rfl⟩ := Option.ne_none_iff_exists'.mp hprofile
    unfold Reader.next
    dsimp only
    rw [hlookup]
    exact rfl
  | checkVersion attempt =>
    obtain rfl : attempt.sequence = sequence := h
    unfold Reader.next
    dsimp only
    rw [hversion, if_neg (by omega)]
    exact rfl
  | checkSequence attempt =>
    obtain rfl : attempt.sequence = sequence := h
    unfold Reader.next
    dsimp only
    rw [if_neg (not_not.mpr hsequence)]
    exact rfl
  | copying attempt copied =>
    obtain rfl : attempt.sequence = sequence := h
    unfold Reader.next
    dsimp only
    split_ifs <;> exact rfl
  | recheckVersion attempt copied =>
    obtain rfl : attempt.sequence = sequence := h
    unfold Reader.next
    dsimp only
    rw [if_pos hversion]
    exact rfl
  | recheckSequence attempt copied =>
    obtain rfl : attempt.sequence = sequence := h
    unfold Reader.next
    dsimp only
    rw [if_pos hsequence]
    exact ⟨rfl, nofun⟩
  | done s result => exact h

end Readers

/-! ## Runs -/

section Runs

variable [DecidableEq ρ] {capacity : ℤ} {ring : Ring ρ δ α}

/-- The invariant of the ring. -/
structure Ring.Ok (capacity : ℤ) (ring : Ring ρ δ α) : Prop where
  store : ring.store.Ok capacity
  readers : ∀ r, (ring.readers r).Ok capacity ring.store

omit [DecidableEq ρ] in
theorem Ring.ok_init (memory : ℤ → ℕ → α) :
    (Ring.init memory : Ring ρ δ α).Ok capacity :=
  ⟨⟨⟨SlotRing.init_sound memory, List.nodup_nil, by simp [Ring.init],
    by simp [Ring.init, SlotRing.init]⟩, fun _ => le_rfl⟩, fun _ => trivial⟩

omit [DecidableEq ρ] in
/-- The producer moves on. -/
theorem Ring.Ok.moves (h : ring.Ok capacity) {store : Store δ α}
    (hmoves : ring.store.Moves capacity store) :
    ({ ring with store } : Ring ρ δ α).Ok capacity :=
  ⟨hmoves.ok, fun r => (h.readers r).evolves hmoves.evolves⟩

/-- A reader moves on. -/
theorem Ring.Ok.reader (h : ring.Ok capacity) (r : ρ) {reader : Reader δ α}
    (hreader : reader.Ok capacity ring.store) :
    ({ ring with readers := Function.update ring.readers r reader } : Ring ρ δ α).Ok capacity :=
  ⟨h.store, (Function.forall_update_iff ring.readers
    fun _ reader => reader.Ok capacity ring.store).mpr ⟨hreader, fun r' _ => h.readers r'⟩⟩

/-- A step of any call. -/
theorem Ring.Ok.step (h : ring.Ok capacity) (event : Event ρ δ α) :
    (step capacity ring event).Ok capacity := by
  cases event with
  | publish sample => exact h.moves (h.store.publish sample.property)
  | produce => exact h.moves h.store.produce
  | read r sequence =>
    unfold CameraRing.step
    dsimp only
    split_ifs
    · exact h.reader r fun _ hp => hp
    · exact h
  | advance r => exact h.reader r ((h.readers r).next h.store)

/-- Every interleaving of calls keeps the invariant. -/
theorem Ring.ok_run (memory : ℤ → ℕ → α) (events : List (Event ρ δ α)) :
    (run (step capacity) (Ring.init memory) events).Ok capacity :=
  run_invariant (fun _ event h => h.step event) (Ring.ok_init memory) events

/-- The producer's part of any step. -/
theorem Ring.Ok.store_evolves (h : ring.Ok capacity) (event : Event ρ δ α) :
    ring.store.Evolves capacity (CameraRing.step capacity ring event).store := by
  cases event with
  | publish sample => exact (h.store.publish sample.property).evolves
  | produce => exact h.store.produce.evolves
  | read r sequence =>
    unfold CameraRing.step
    dsimp only
    split_ifs <;> exact ⟨.refl _, fun _ h => h⟩
  | advance r => exact ⟨.refl _, fun _ h => h⟩

/-- A reader in time, for as long as the next lap has not reached its slot. -/
structure Ring.InTime (capacity : ℤ) (r : ρ) (sequence : ℤ) (ring : Ring ρ δ α) : Prop where
  ok : ring.Ok capacity
  inTime : ring.store.nextSequence ≤ sequence + capacity →
    sequence ∈ ring.store.returned ∧ (ring.readers r).InTime sequence

theorem Ring.InTime.step {r : ρ} {sequence : ℤ} (h : ring.InTime capacity r sequence)
    {event : Event ρ δ α} (hevent : ∀ s, event ≠ .read r s) :
    (CameraRing.step capacity ring event).InTime capacity r sequence := by
  refine ⟨h.ok.step event, fun hlap => ?_⟩
  have hevolves := h.ok.store_evolves event
  have hlap' := hevolves.next.trans hlap
  obtain ⟨hreturned, hreader⟩ := h.inTime hlap'
  refine ⟨hevolves.returned hreturned, ?_⟩
  cases event with
  | publish sample => exact hreader
  | produce => exact hreader
  | read r' s =>
    have hne : r ≠ r' := by
      rintro rfl
      exact hevent s rfl
    unfold CameraRing.step
    dsimp only
    split_ifs
    · show (Function.update ring.readers r' _ r).InTime sequence
      rwa [Function.update_of_ne hne]
    · exact hreader
  | advance r' =>
    show (Function.update ring.readers r' _ r).InTime sequence
    by_cases heq : r = r'
    · subst heq
      have hcore := h.ok.store.core
      have hversion := hcore.ring.fresh sequence hreturned hlap'
      have h0 := (hcore.ring.returned sequence hreturned).1
      rw [Function.update_self]
      exact hreader.next hversion (hcore.ring.stable sequence h0 hversion).1
        (hcore.kept sequence hreturned hlap')
    · rwa [Function.update_of_ne heq]

/-- A read that starts after the frame is published is in time. -/
theorem Ring.Ok.read_inTime (h : ring.Ok capacity) {r : ρ} {sequence : ℤ}
    (hfree : (ring.readers r).free = true) (hreturned : sequence ∈ ring.store.returned) :
    (CameraRing.step capacity ring (.read r sequence)).InTime capacity r sequence := by
  refine ⟨h.step _, fun hlap => ?_⟩
  unfold CameraRing.step at hlap ⊢
  dsimp only at hlap ⊢
  rw [if_pos hfree] at hlap ⊢
  obtain ⟨reference, hlookup⟩ := h.store.core.kept sequence hreturned hlap
  obtain ⟨-, sample, -, hprofile, -⟩ := h.store.core.metadata sequence reference hlookup
  refine ⟨hreturned, ?_⟩
  show (Function.update ring.readers r _ r).InTime sequence
  rw [Function.update_self, hprofile]
  exact ⟨rfl, nofun⟩

/-- A read that starts after `publish` of its frame. -/
theorem Ring.inTime_run (memory : ℤ → ℕ → α) {before after : List (Event ρ δ α)} {r : ρ}
    {sequence : ℤ}
    (hreturned : sequence ∈ (run (step capacity) (Ring.init memory) before).store.returned)
    (hfree : ((run (step capacity) (Ring.init memory) before).readers r).free = true)
    (hafter : ∀ event ∈ after, ∀ s, event ≠ .read r s) :
    Ring.InTime capacity r sequence
      (run (step capacity) (Ring.init memory) (before ++ .read r sequence :: after)) := by
  rw [run_append, run_cons]
  exact run_invariant_of_meets (C := fun _ event => ∀ s, event ≠ Event.read r s)
    (fun _ _ hevent h => h.step hevent) ((Ring.ok_run memory before).read_inTime hfree hreturned)
    (meets_of_forall hafter _)

omit [DecidableEq ρ] in
/-- It returns the frame if it ends before the slot is published to again. -/
theorem Ring.InTime.result {r : ρ} {sequence : ℤ} (h : ring.InTime capacity r sequence)
    (hlap : ring.store.nextSequence ≤ sequence + capacity)
    {result : Option (PixelSample δ α)} (hdone : ring.readers r = .done sequence result) :
    ∃ sample, ring.store.passed sequence = some sample ∧
      result = some (sample.inRing sequence) := by
  have hreader := (h.inTime hlap).2
  have hok := h.ok.readers r
  rw [hdone] at hreader hok
  obtain ⟨read, rfl⟩ := Option.ne_none_iff_exists'.mp hreader.2
  obtain ⟨sample, hpassed, rfl⟩ := hok read rfl
  exact ⟨sample, hpassed, rfl⟩

end Runs

end HandLab.Episode.CameraRing
