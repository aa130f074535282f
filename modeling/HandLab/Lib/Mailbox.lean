import Mathlib.Order.Lattice
import Mathlib.Data.List.Nodup

/-!
# Latest-only mailboxes

A mailbox keeps the newest of the entries posted to it until one is taken.
Entries are told apart by keys of a linear order, and only keys above everything
seen so far are posted. `Mailbox` is the ledger of such a box; what a box
promises is carried by its fields:

* entries are posted, and taken, in strictly increasing order;
* a superseded entry is never taken.

A system that posts and takes from a slot of its own shows that its lists are
those of a `Mailbox` (`post`, `take`, `pass`, `raise`).
-/

namespace HandLab.Lib

/-- The ledger of a latest-only mailbox; the lists are newest first. -/
structure Mailbox (K : Type*) [LinearOrder K] where
  /-- no key up to here will be taken any more -/
  mark : K
  slot : Option K
  posted : List K
  taken : List K
  superseded : List K
  mark_lt : ∀ k ∈ slot, mark < k
  taken_le : ∀ k ∈ taken, k ≤ mark
  posted_le : ∀ k ∈ posted, k ≤ slot.getD mark
  superseded_lt : ∀ k ∈ superseded, k ≤ mark ∨ ∃ s ∈ slot, k < s
  posted_sorted : posted.Pairwise (· > ·)
  taken_sorted : taken.Pairwise (· > ·)
  disjoint : ∀ k ∈ superseded, k ∉ taken

namespace Mailbox

variable {K : Type*} [LinearOrder K]

/-- A new box that takes only keys above `mark`. -/
def empty (mark : K) : Mailbox K where
  mark := mark
  slot := none
  posted := []
  taken := []
  superseded := []
  mark_lt := nofun
  taken_le := nofun
  posted_le := nofun
  superseded_lt := nofun
  posted_sorted := .nil
  taken_sorted := .nil
  disjoint := nofun

variable (b : Mailbox K)

/-- The largest key that the box knows of. -/
def top : K := b.slot.getD b.mark

variable {b}

theorem mark_le_top : b.mark ≤ b.top := by
  unfold top
  cases hs : b.slot with
  | none => exact le_refl _
  | some s => exact (b.mark_lt s hs).le

theorem superseded_le_top {k : K} (hk : k ∈ b.superseded) : k ≤ b.top := by
  rcases b.superseded_lt k hk with h | ⟨s, hs, h⟩
  · exact h.trans mark_le_top
  · unfold top
    rw [Option.mem_def.mp hs]
    exact h.le

/-- The box takes no notice of keys up to `m` any more; its slot is cleared. -/
def raise (b : Mailbox K) (m : K) (h : b.top ≤ m) : Mailbox K :=
  { b with
    mark := m
    slot := none
    mark_lt := nofun
    taken_le := fun k hk => (b.taken_le k hk).trans (mark_le_top.trans h)
    posted_le := fun k hk => (b.posted_le k hk).trans h
    superseded_lt := fun _ hk => .inl ((superseded_le_top hk).trans h) }

/-- An entry goes into the slot, in place of what is there. -/
def post (b : Mailbox K) (k : K) (h : b.top < k) : Mailbox K :=
  { b with
    slot := some k
    posted := k :: b.posted
    superseded := b.slot.toList ++ b.superseded
    mark_lt := fun _ hs => Option.some_inj.mp hs ▸ mark_le_top.trans_lt h
    posted_le := by
      intro j hj
      rcases List.mem_cons.mp hj with rfl | hj
      · exact le_refl _
      · exact ((b.posted_le j hj).trans_lt h).le
    superseded_lt := by
      intro j hj
      refine .inr ⟨k, rfl, ?_⟩
      rcases List.mem_append.mp hj with hj | hj
      · unfold top at h
        rwa [Option.mem_toList.mp hj] at h
      · exact (superseded_le_top hj).trans_lt h
    posted_sorted := List.pairwise_cons.mpr
      ⟨fun j hj => (b.posted_le j hj).trans_lt h, b.posted_sorted⟩
    disjoint := by
      intro j hj htaken
      rcases List.mem_append.mp hj with hj | hj
      · exact absurd (b.taken_le j htaken) (b.mark_lt j (Option.mem_toList.mp hj)).not_ge
      · exact b.disjoint j hj htaken }

/-- An entry above all others is taken without having been in the slot, which is cleared. -/
def pass (b : Mailbox K) (k : K) (h : b.top < k) : Mailbox K :=
  { b.raise k h.le with
    taken := k :: b.taken
    taken_le := by
      intro j hj
      rcases List.mem_cons.mp hj with rfl | hj
      · exact le_refl _
      · exact ((b.taken_le j hj).trans (mark_le_top.trans h.le))
    taken_sorted := List.pairwise_cons.mpr
      ⟨fun j hj => (b.taken_le j hj).trans_lt (mark_le_top.trans_lt h), b.taken_sorted⟩
    disjoint := by
      intro j hj htaken
      rcases List.mem_cons.mp htaken with rfl | htaken
      · exact absurd (superseded_le_top (b := b) hj) h.not_ge
      · exact b.disjoint j hj htaken }

/-- The entry in the slot is taken. -/
def take (b : Mailbox K) (k : K) (h : b.slot = some k) : Mailbox K :=
  have hmark : b.mark < k := b.mark_lt k h
  have htop : b.top = k := by rw [top, h]; rfl
  { b.raise k htop.le with
    taken := k :: b.taken
    taken_le := by
      intro j hj
      rcases List.mem_cons.mp hj with rfl | hj
      · exact le_refl _
      · exact ((b.taken_le j hj).trans hmark.le)
    taken_sorted := List.pairwise_cons.mpr
      ⟨fun j hj => (b.taken_le j hj).trans_lt hmark, b.taken_sorted⟩
    disjoint := by
      intro j hj htaken
      rcases List.mem_cons.mp htaken with rfl | htaken
      · rcases b.superseded_lt j hj with hle | ⟨s, hs, hlt⟩
        · exact absurd hle hmark.not_ge
        · rw [Option.mem_def, h, Option.some_inj] at hs
          exact absurd hlt (hs ▸ lt_irrefl j)
      · exact b.disjoint j hj htaken }

/-- An entry is taken once at most. -/
theorem length_filter_taken_le_one (b : Mailbox K) (k : K) :
    (b.taken.filter (· = k)).length ≤ 1 := by
  have hnodup : b.taken.Nodup := b.taken_sorted.imp fun h => ne_of_gt h
  have hcount := List.nodup_iff_count_le_one.mp hnodup k
  rwa [List.count, List.countP_eq_length_filter] at hcount

end Mailbox

end HandLab.Lib
