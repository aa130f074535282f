import Mathlib.Algebra.Order.Ring.Int

/-!
# Versioned cells

A block of cells with a version word, written by one writer and copied by
readers cell by cell while the writer goes on. The writer raises the version
before and after it writes the cells, and a reader compares the version before
and after it copies them.

* `Copied before copied block`: either the version has moved on from `before`,
  or every cell copied so far still has the copied value. The reader's next read
  and every legal write keep it.
* `Copied.eq_of_holds`: a complete copy whose version did not move is what the
  block holds.
-/

namespace HandLab.Lib

/-- Cells with a version word. -/
structure Versioned (α : Type*) where
  version : ℤ
  cells : ℕ → α

namespace Versioned

variable {α : Type*}

/-- The next cell is written. -/
def setCell (block : Versioned α) (i : ℕ) (x : α) : Versioned α :=
  { block with cells := fun j => if j = i then x else block.cells j }

/-- The version is raised. -/
def setVersion (block : Versioned α) (version : ℤ) : Versioned α := { block with version }

variable {block : Versioned α} {values : List α}

/-- The first `n` cells are the first `n` values. -/
def Written (block : Versioned α) (values : List α) (n : ℕ) : Prop :=
  ∀ i < n, values[i]? = some (block.cells i)

theorem Written.zero : Written block values 0 := fun _ h => absurd h (Nat.not_lt_zero _)

/-- The writer's loop. -/
theorem Written.setCell {n : ℕ} (h : Written block values n) {x : α} (hx : values[n]? = some x) :
    Written (block.setCell n x) values (n + 1) := by
  intro i hi
  rcases Nat.lt_succ_iff_lt_or_eq.mp hi with hlt | rfl
  · rw [h i hlt]
    exact congrArg some (if_neg (Nat.ne_of_lt hlt)).symm
  · rw [hx]
    exact congrArg some (if_pos rfl).symm

/-- All cells of the values are written. -/
abbrev Holds (block : Versioned α) (values : List α) : Prop := Written block values values.length

theorem Written.holds {n : ℕ} (h : Written block values n) (hn : values[n]? = none) :
    Holds block values :=
  fun i hi => h i (Nat.lt_of_lt_of_le hi (List.getElem?_eq_none_iff.mp hn))

/-- What a reader that saw the version `before` has copied. -/
structure Copied (before : ℤ) (copied : List α) (block : Versioned α) : Prop where
  le : before ≤ block.version
  agrees : block.version = before → ∀ i x, copied[i]? = some x → block.cells i = x

namespace Copied

variable {before : ℤ} {copied : List α}

theorem nil (h : before ≤ block.version) : Copied before [] block :=
  ⟨h, fun _ _ _ hx => absurd hx (by simp)⟩

/-- The reader copies the next cell. -/
theorem read (h : Copied before copied block) :
    Copied before (copied ++ [block.cells copied.length]) block := by
  refine ⟨h.le, fun hv i x hx => ?_⟩
  rcases Nat.lt_trichotomy i copied.length with hlt | rfl | hgt
  · rw [List.getElem?_append_left hlt] at hx
    exact h.agrees hv i x hx
  · rw [List.getElem?_concat_length] at hx
    exact Option.some.inj hx
  · rw [List.getElem?_eq_none (by simpa using Nat.succ_le_of_lt hgt)] at hx
    cases hx

/-- A version is only raised. -/
theorem setVersion (h : Copied before copied block) {version : ℤ} (hv : block.version < version) :
    Copied before copied (block.setVersion version) :=
  ⟨(lt_of_le_of_lt h.le hv).le, fun heq => absurd heq (lt_of_le_of_lt h.le hv).ne'⟩

/-- Cells are written while the version is not one that a reader has accepted. -/
theorem setCell (h : Copied before copied block) (hne : block.version ≠ before) (i : ℕ) (x : α) :
    Copied before copied (block.setCell i x) :=
  ⟨h.le, fun heq => absurd heq hne⟩

/-- A complete copy at an unchanged version is what the block holds. -/
theorem eq_of_holds (h : Copied before copied block) (hv : block.version = before)
    (hholds : Holds block values) (hlength : copied.length = values.length) :
    copied = values := by
  refine List.ext_getElem hlength fun i hi hi' => ?_
  have hcell := h.agrees hv i _ (List.getElem?_eq_getElem hi)
  have hvalue := hholds i hi'
  rw [List.getElem?_eq_getElem hi', hcell] at hvalue
  exact (Option.some.inj hvalue).symm

end Copied

end Versioned

end HandLab.Lib
