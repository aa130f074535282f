import HandLab.Lib.Seqlock
import Mathlib.Data.Int.Basic

/-!
# A ring of slots

One writer publishes samples under increasing sequences into the reused slots of
a ring, and readers copy from them meanwhile. The version of a slot is odd while
the cells of sequence `s` are written, and `2 s + 2` once they are.

* `Sound`: what the slots hold between any two writes.
* `Publishing`, `Writing`, `Settled`: the stages of a publication.
* `Evolves`: what a write keeps for the readers.
-/

namespace HandLab.Lib

/-- Versioned cells with the sequence stamped on them. -/
structure RingSlot (α : Type*) where
  block : Versioned α
  sequence : ℤ

/-- `passed` and `returned` record the samples passed to the writer and the
    sequences whose publication is over. -/
structure SlotRing (σ α : Type*) where
  slots : ℤ → RingSlot α
  nextSequence : ℤ
  passed : ℤ → Option σ
  returned : List ℤ

namespace SlotRing

variable {σ α : Type*}

/-! ## The writes -/

section Writes

/-- A new ring; nothing is known of its memory. -/
def init (memory : ℤ → ℕ → α) : SlotRing σ α :=
  ⟨fun i => ⟨⟨0, memory i⟩, -1⟩, 0, fun _ => none, []⟩

variable (capacity : ℤ) (ring : SlotRing σ α) (s : ℤ)

/-- The slot of a sequence. -/
def slot : RingSlot α := ring.slots (s % capacity)

def setSlot (slot : RingSlot α) : SlotRing σ α :=
  { ring with slots := Function.update ring.slots (s % capacity) slot }

def setVersion (version : ℤ) : SlotRing σ α :=
  ring.setSlot capacity s
    ⟨(ring.slot capacity s).block.setVersion version, (ring.slot capacity s).sequence⟩

def setCell (i : ℕ) (x : α) : SlotRing σ α :=
  ring.setSlot capacity s
    ⟨(ring.slot capacity s).block.setCell i x, (ring.slot capacity s).sequence⟩

def stamp : SlotRing σ α := ring.setSlot capacity s ⟨(ring.slot capacity s).block, s⟩

/-- A sample is passed to the writer, which takes the next sequence. -/
def take (sample : σ) : SlotRing σ α :=
  { ring with
    nextSequence := ring.nextSequence + 1
    passed := Function.update ring.passed ring.nextSequence (some sample) }

/-- A publication is over. -/
def finish : SlotRing σ α := { ring with returned := s :: ring.returned }

end Writes

variable {capacity s t : ℤ} {ring ring' : SlotRing σ α} {slot : RingSlot α}

/-- Two sequences less than a lap apart use different slots. -/
theorem emod_ne_of_lt (hlt : s < t) (hlap : t < s + capacity) : s % capacity ≠ t % capacity := by
  intro h
  have hzero : (t - s) % capacity = 0 := Int.emod_eq_emod_iff_emod_sub_eq_zero.mp h.symm
  rw [Int.emod_eq_of_lt (by omega) (by omega)] at hzero
  omega

theorem slot_setSlot_of_eq (h : s % capacity = t % capacity) :
    (ring.setSlot capacity t slot).slot capacity s = slot := by
  rw [SlotRing.slot, h]
  exact Function.update_self _ _ _

theorem slot_setSlot_of_ne (h : s % capacity ≠ t % capacity) :
    (ring.setSlot capacity t slot).slot capacity s = ring.slot capacity s :=
  Function.update_of_ne h _ _

theorem slot_congr (h : s % capacity = t % capacity) :
    ring.slot capacity s = ring.slot capacity t := congrArg ring.slots h

/-- What holds of every slot, and of the one that is written. -/
theorem forall_setSlot {p : ℤ → RingSlot α → Prop} (h : ∀ i, p i (ring.slots i))
    (hslot : p (t % capacity) slot) (i : ℤ) : p i ((ring.setSlot capacity t slot).slots i) :=
  (Function.forall_update_iff ring.slots p).mpr ⟨hslot, fun i _ => h i⟩ i

theorem stamp_of_eq (h : (ring.slot capacity s).sequence = s) : ring.stamp capacity s = ring := by
  have hslot : (⟨(ring.slot capacity s).block, s⟩ : RingSlot α) = ring.slots (s % capacity) :=
    congrArg (RingSlot.mk (ring.slot capacity s).block) h.symm
  rw [stamp, hslot, setSlot, Function.update_eq_self]

/-! ## The invariant -/

/-- What the slots hold; `cells` are those of a sample and `Fits` what its callers promise. -/
structure Sound (capacity : ℤ) (cells : σ → List α) (Fits : σ → Prop) (ring : SlotRing σ α) :
    Prop where
  next_nonneg : 0 ≤ ring.nextSequence
  passed : ∀ s sample, ring.passed s = some sample → 0 ≤ s ∧ s < ring.nextSequence ∧ Fits sample
  residue : ∀ i, 0 ≤ (ring.slots i).sequence → (ring.slots i).sequence % capacity = i
  stable : ∀ s, 0 ≤ s → (ring.slot capacity s).block.version = s * 2 + 2 →
    (ring.slot capacity s).sequence = s ∧ ∃ sample, ring.passed s = some sample ∧
      (ring.slot capacity s).block.Holds (cells sample)
  returned : ∀ s ∈ ring.returned, 0 ≤ s ∧ s < ring.nextSequence
  /-- a published sample is there until its slot is needed again -/
  fresh : ∀ s ∈ ring.returned, ring.nextSequence ≤ s + capacity →
    (ring.slot capacity s).block.version = s * 2 + 2

/-- The publication in progress. -/
structure Publishing (ring : SlotRing σ α) (sample : σ) (s : ℤ) : Prop where
  next_eq : s + 1 = ring.nextSequence
  passed : ring.passed s = some sample
  returned : ∀ t ∈ ring.returned, t < s

/-- No version is higher than the bound. -/
def Below (bound : ℤ) (ring : SlotRing σ α) : Prop := ∀ i, (ring.slots i).block.version ≤ bound

/-- Between the two writes of its version a slot has an odd one. -/
structure Writing (capacity : ℤ) (ring : SlotRing σ α) (sample : σ) (s : ℤ) : Prop extends
    Publishing ring sample s where
  version : (ring.slot capacity s).block.version = s * 2 + 1
  below : ring.Below (s * 2 + 1)

/-- The slot is written; its publication is not over yet. -/
structure Settled (capacity : ℤ) (ring : SlotRing σ α) (sample : σ) (s : ℤ) : Prop extends
    Publishing ring sample s where
  sequence_eq : (ring.slot capacity s).sequence = s
  version : (ring.slot capacity s).block.version = s * 2 + 2
  below : ring.Below (ring.nextSequence * 2)

/-- What a write keeps for the readers. -/
structure Evolves (capacity : ℤ) (ring ring' : SlotRing σ α) : Prop where
  passed : ∀ s sample, ring.passed s = some sample → ring'.passed s = some sample
  copied : ∀ s (copied : List α),
    Versioned.Copied (s * 2 + 2) copied (ring.slot capacity s).block →
      Versioned.Copied (s * 2 + 2) copied (ring'.slot capacity s).block
  returned : ring.returned ⊆ ring'.returned
  next : ring.nextSequence ≤ ring'.nextSequence

theorem Evolves.refl (ring : SlotRing σ α) : ring.Evolves capacity ring :=
  ⟨fun _ _ h => h, fun _ _ h => h, List.Subset.refl _, le_rfl⟩

/-- A legal write of one block. -/
theorem Evolves.setSlot
    (h : ∀ t (copied : List α), Versioned.Copied (t * 2 + 2) copied (ring.slot capacity s).block →
      Versioned.Copied (t * 2 + 2) copied slot.block) :
    ring.Evolves capacity (ring.setSlot capacity s slot) := by
  refine ⟨fun _ _ h => h, fun t copied hcopied => ?_, List.Subset.refl _, le_rfl⟩
  by_cases heq : t % capacity = s % capacity
  · rw [slot_congr heq] at hcopied
    rw [slot_setSlot_of_eq heq]
    exact h t copied hcopied
  · rw [slot_setSlot_of_ne heq]
    exact hcopied

/-- The version is raised. -/
theorem Evolves.setVersion {version : ℤ} (h : (ring.slot capacity s).block.version < version) :
    ring.Evolves capacity (ring.setVersion capacity s version) :=
  .setSlot fun _ _ hcopied => hcopied.setVersion h

theorem init_sound (memory : ℤ → ℕ → α) {cells : σ → List α} {Fits : σ → Prop} :
    (init memory).Sound capacity cells Fits := by
  refine ⟨le_rfl, by simp [init], fun i h => absurd h (show ¬(0 : ℤ) ≤ -1 by decide),
    fun s h0 hv => ?_, by simp [init], by simp [init]⟩
  have hv' : (0 : ℤ) = s * 2 + 2 := hv
  omega

variable {cells : σ → List α} {Fits : σ → Prop} {sample : σ}

/-! ## What a write preserves -/

theorem Sound.evolves_take (h : ring.Sound capacity cells Fits) (sample : σ) :
    ring.Evolves capacity (ring.take sample) := by
  refine ⟨fun s old hs => ?_, fun _ _ h => h, List.Subset.refl _, Int.le_add_one le_rfl⟩
  show Function.update ring.passed ring.nextSequence (some sample) s = some old
  rw [Function.update_of_ne (h.passed s old hs).2.1.ne]
  exact hs

theorem Sound.take (h : ring.Sound capacity cells Fits) (hfits : Fits sample) :
    (ring.take sample).Sound capacity cells Fits := by
  have hpassed := (h.evolves_take sample).passed
  refine ⟨Int.le_add_one h.next_nonneg, fun s old hs => ?_, h.residue, fun s hs hv => ?_,
    fun s hs => ⟨(h.returned s hs).1, (h.returned s hs).2.trans (Int.lt_succ _)⟩,
    fun s hs hlap => h.fresh s hs (le_trans (Int.le_add_one le_rfl) hlap)⟩
  · by_cases heq : s = ring.nextSequence
    · subst heq
      obtain rfl : sample = old :=
        Option.some.inj ((Function.update_self (f := ring.passed) ..).symm.trans hs)
      exact ⟨h.next_nonneg, Int.lt_succ _, hfits⟩
    · have hold : ring.passed s = some old :=
        (Function.update_of_ne heq _ ring.passed).symm.trans hs
      obtain ⟨h0, hlt, hold⟩ := h.passed s old hold
      exact ⟨h0, hlt.trans (Int.lt_succ _), hold⟩
  · obtain ⟨hsequence, old, hold, hholds⟩ := h.stable s hs hv
    exact ⟨hsequence, old, hpassed s old hold, hholds⟩

theorem Sound.publishing_take (h : ring.Sound capacity cells Fits) (sample : σ) :
    (ring.take sample).Publishing sample ring.nextSequence :=
  ⟨rfl, Function.update_self .., fun s hs => (h.returned s hs).2⟩

theorem Publishing.setSlot (hp : ring.Publishing sample s) :
    (ring.setSlot capacity s slot).Publishing sample s := ⟨hp.next_eq, hp.passed, hp.returned⟩

/-- A sequence that is over and still in reach has another slot. -/
theorem Publishing.emod_ne (hp : ring.Publishing sample s) (ht : t ∈ ring.returned)
    (hlap : ring.nextSequence ≤ t + capacity) : t % capacity ≠ s % capacity :=
  emod_ne_of_lt (hp.returned t ht) (by have := hp.next_eq; omega)

/-- A write of the slot of the publication in progress. -/
theorem Sound.setSlot (h : ring.Sound capacity cells Fits) (hp : ring.Publishing sample s)
    (hresidue : 0 ≤ slot.sequence → slot.sequence % capacity = s % capacity)
    (hstable : ∀ t, slot.block.version = t * 2 + 2 →
      t = s ∧ slot.sequence = s ∧ slot.block.Holds (cells sample)) :
    (ring.setSlot capacity s slot).Sound capacity cells Fits := by
  refine ⟨h.next_nonneg, h.passed, forall_setSlot (p := fun i slot => 0 ≤ slot.sequence →
    slot.sequence % capacity = i) h.residue hresidue, fun t ht hv => ?_, h.returned,
    fun t ht hlap => ?_⟩
  · by_cases heq : t % capacity = s % capacity
    · rw [slot_setSlot_of_eq heq] at hv ⊢
      obtain ⟨rfl, hsequence, hholds⟩ := hstable t hv
      exact ⟨hsequence, sample, hp.passed, hholds⟩
    · rw [slot_setSlot_of_ne heq] at hv ⊢
      exact h.stable t ht hv
  · rw [slot_setSlot_of_ne (hp.emod_ne ht hlap)]
    exact h.fresh t ht hlap

/-- A slot that is being written. -/
theorem Sound.setWriting (h : ring.Sound capacity cells Fits) (hp : ring.Publishing sample s)
    (hbelow : ring.Below (s * 2 + 1)) (hodd : slot.block.version = s * 2 + 1)
    (hresidue : 0 ≤ slot.sequence → slot.sequence % capacity = s % capacity) :
    (ring.setSlot capacity s slot).Sound capacity cells Fits ∧
      (ring.setSlot capacity s slot).Writing capacity sample s := by
  refine ⟨h.setSlot hp hresidue fun t hv => ?_, hp.setSlot, ?_, ?_⟩
  · rw [hodd] at hv
    omega
  · rw [slot_setSlot_of_eq rfl, hodd]
  · exact forall_setSlot (p := fun _ slot => slot.block.version ≤ s * 2 + 1) hbelow hodd.le

theorem Sound.mark (h : ring.Sound capacity cells Fits) (hp : ring.Publishing sample s)
    (hbelow : ring.Below (s * 2)) :
    (ring.setVersion capacity s (s * 2 + 1)).Sound capacity cells Fits ∧
      (ring.setVersion capacity s (s * 2 + 1)).Writing capacity sample s :=
  h.setWriting hp (fun i => (hbelow i).trans (by omega)) rfl (h.residue _)

theorem Evolves.mark (hbelow : ring.Below (s * 2)) :
    ring.Evolves capacity (ring.setVersion capacity s (s * 2 + 1)) :=
  .setVersion (lt_of_le_of_lt (hbelow (s % capacity)) (by omega))

/-- The next cell is written. -/
theorem Sound.setCell (h : ring.Sound capacity cells Fits) (hw : ring.Writing capacity sample s)
    (i : ℕ) (x : α) :
    (ring.setCell capacity s i x).Sound capacity cells Fits ∧
      (ring.setCell capacity s i x).Writing capacity sample s :=
  h.setWriting hw.toPublishing hw.below hw.version (h.residue _)

theorem Evolves.setCell (hw : ring.Writing capacity sample s) (i : ℕ) (x : α) :
    ring.Evolves capacity (ring.setCell capacity s i x) := by
  refine .setSlot fun t _ hcopied => hcopied.setCell ?_ i x
  rw [hw.version]
  omega

theorem slot_setCell (i : ℕ) (x : α) : (ring.setCell capacity s i x).slot capacity s =
    ⟨(ring.slot capacity s).block.setCell i x, (ring.slot capacity s).sequence⟩ :=
  slot_setSlot_of_eq rfl

theorem slot_stamp : (ring.stamp capacity s).slot capacity s = ⟨(ring.slot capacity s).block, s⟩ :=
  slot_setSlot_of_eq rfl

theorem Sound.stamp (h : ring.Sound capacity cells Fits) (hw : ring.Writing capacity sample s) :
    (ring.stamp capacity s).Sound capacity cells Fits ∧
      (ring.stamp capacity s).Writing capacity sample s :=
  h.setWriting hw.toPublishing hw.below hw.version fun _ => rfl

theorem Evolves.stamp : ring.Evolves capacity (ring.stamp capacity s) :=
  .setSlot fun _ _ hcopied => hcopied

theorem Sound.settle (h : ring.Sound capacity cells Fits) (hw : ring.Writing capacity sample s)
    (hsequence : (ring.slot capacity s).sequence = s)
    (hholds : (ring.slot capacity s).block.Holds (cells sample)) :
    (ring.setVersion capacity s (s * 2 + 2)).Sound capacity cells Fits ∧
      (ring.setVersion capacity s (s * 2 + 2)).Settled capacity sample s := by
  have hnext := hw.next_eq
  have hslot : (ring.setVersion capacity s (s * 2 + 2)).slot capacity s =
      ⟨(ring.slot capacity s).block.setVersion (s * 2 + 2), (ring.slot capacity s).sequence⟩ :=
    slot_setSlot_of_eq rfl
  refine ⟨h.setSlot hw.toPublishing (h.residue _) fun t hv => ?_, hw.toPublishing.setSlot, ?_, ?_,
    ?_⟩
  · have hv' : s * 2 + 2 = t * 2 + 2 := hv
    exact ⟨by omega, hsequence, hholds⟩
  · rw [hslot]
    exact hsequence
  · rw [hslot]
    rfl
  · exact forall_setSlot (p := fun _ slot => slot.block.version ≤ ring.nextSequence * 2)
      (fun i => (hw.below i).trans (by omega)) (show s * 2 + 2 ≤ ring.nextSequence * 2 by omega)

theorem Evolves.settle (hw : ring.Writing capacity sample s) :
    ring.Evolves capacity (ring.setVersion capacity s (s * 2 + 2)) :=
  .setVersion (by rw [hw.version]; omega)

theorem Sound.finish (h : ring.Sound capacity cells Fits) (hs : ring.Settled capacity sample s) :
    (ring.finish s).Sound capacity cells Fits := by
  obtain ⟨h0, hlt, -⟩ := h.passed s sample hs.passed
  refine ⟨h.next_nonneg, h.passed, h.residue, h.stable, fun t ht => ?_, fun t ht hlap => ?_⟩
  · rcases List.mem_cons.mp ht with rfl | ht
    · exact ⟨h0, hlt⟩
    · exact h.returned t ht
  · rcases List.mem_cons.mp ht with rfl | ht
    · exact hs.version
    · exact h.fresh t ht hlap

theorem Evolves.finish : ring.Evolves capacity (ring.finish s) :=
  ⟨fun _ _ h => h, fun _ _ h => h, List.subset_cons_self _ _, le_rfl⟩

end SlotRing

end HandLab.Lib
