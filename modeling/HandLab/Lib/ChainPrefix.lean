import Mathlib.Data.List.Chain

/-!
# The longest chain at the front of a list

`chainPrefix R l` keeps the elements of `l` up to the first that does not follow
its predecessor.

* `chainPrefix_isPrefix`, `isChain_chainPrefix`: it is a prefix and a chain.
* `length_le_chainPrefix`: every chain at the front of the list is at most as long.
-/

namespace HandLab.Lib

variable {α : Type*} (R : α → α → Prop) [DecidableRel R]

/-- The elements up to the first that does not follow its predecessor. -/
def chainPrefix : List α → List α
  | [] => []
  | [a] => [a]
  | a :: b :: l => if R a b then a :: chainPrefix (b :: l) else [a]

@[simp] theorem chainPrefix_nil : chainPrefix R [] = [] := rfl

@[simp] theorem chainPrefix_singleton (a : α) : chainPrefix R [a] = [a] := rfl

variable {R}

theorem chainPrefix_cons_of_pos {a b : α} (h : R a b) (l : List α) :
    chainPrefix R (a :: b :: l) = a :: chainPrefix R (b :: l) := if_pos h

theorem chainPrefix_cons_of_neg {a b : α} (h : ¬R a b) (l : List α) :
    chainPrefix R (a :: b :: l) = [a] := if_neg h

/-- The first element is kept. -/
theorem chainPrefix_cons (a : α) (l : List α) :
    ∃ rest, chainPrefix R (a :: l) = a :: rest := by
  cases l with
  | nil => exact ⟨[], rfl⟩
  | cons b l =>
    by_cases h : R a b
    · exact ⟨_, chainPrefix_cons_of_pos h l⟩
    · exact ⟨[], chainPrefix_cons_of_neg h l⟩

variable (R)

theorem chainPrefix_isPrefix (l : List α) : chainPrefix R l <+: l := by
  fun_induction chainPrefix R l with
  | case1 => exact List.prefix_rfl
  | case2 a => exact List.prefix_rfl
  | case3 a b l hab ih => exact (List.prefix_cons_inj a).mpr ih
  | case4 a b l hab => exact (List.prefix_cons_inj a).mpr (List.nil_prefix)

theorem isChain_chainPrefix (l : List α) : (chainPrefix R l).IsChain R := by
  fun_induction chainPrefix R l with
  | case1 => exact List.isChain_nil
  | case2 a => exact List.isChain_singleton a
  | case3 a b l hab ih =>
    obtain ⟨rest, hrest⟩ := chainPrefix_cons (R := R) b l
    rw [hrest] at ih ⊢
    exact List.isChain_cons_cons.mpr ⟨hab, ih⟩
  | case4 a b l hab => exact List.isChain_singleton a

/-- **Maximality.** A chain at the front of the list is no longer than the one kept. -/
theorem length_le_chainPrefix {l : List α} {n : ℕ} (hn : n ≤ l.length)
    (h : (l.take n).IsChain R) : n ≤ (chainPrefix R l).length := by
  induction l generalizing n with
  | nil => simpa using hn
  | cons a l ih =>
    cases n with
    | zero => exact Nat.zero_le _
    | succ n =>
      cases l with
      | nil => simpa using hn
      | cons b l =>
        cases n with
        | zero =>
          obtain ⟨rest, hrest⟩ := chainPrefix_cons (R := R) a (b :: l)
          rw [hrest, List.length_cons]
          exact Nat.le_add_left 1 _
        | succ n =>
          rw [List.take_succ_cons, List.take_succ_cons, List.isChain_cons_cons] at h
          have hrest : n + 1 ≤ (chainPrefix R (b :: l)).length := by
            refine ih (by simpa using hn) ?_
            rw [List.take_succ_cons]
            exact h.2
          rw [chainPrefix_cons_of_pos h.1, List.length_cons]
          exact Nat.succ_le_succ hrest

/-- The elements kept, as the front of the list. -/
theorem chainPrefix_eq_take (l : List α) :
    chainPrefix R l = l.take (chainPrefix R l).length :=
  List.prefix_iff_eq_take.mp (chainPrefix_isPrefix R l)

end HandLab.Lib
