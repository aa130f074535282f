import Mathlib.Data.List.Forall2
import Mathlib.Data.List.TakeWhile

/-!
# Texts of separated fields

`List.splitOn` is the inverse of `List.intercalate` on fields without the separator, and
a list is what is left of it between the blanks at its ends.
-/

namespace HandLab.Lib

variable {β : Type*}

theorem not_mem_splitOn [BEq β] [LawfulBEq β] (separator : β) (text : List β) :
    ∀ part ∈ text.splitOn separator, separator ∉ part := by
  induction text with
  | nil => simp
  | cons c rest ih =>
    rw [List.splitOn_cons_eq_if_modifyHead]
    by_cases hc : (c == separator) = true
    · rw [if_pos hc]
      exact List.forall_mem_cons.mpr ⟨List.not_mem_nil, ih⟩
    · rw [if_neg hc]
      cases hparts : rest.splitOn separator with
      | nil => exact nofun
      | cons first parts =>
        rw [hparts] at ih
        obtain ⟨hfirst, hparts'⟩ := List.forall_mem_cons.mp ih
        refine List.forall_mem_cons.mpr ⟨?_, hparts'⟩
        rintro (_ | ⟨_, hmem⟩)
        · exact hc (beq_self_eq_true _)
        · exact hfirst hmem

/-- The fields of a text. -/
theorem splitOn_eq_iff [BEq β] [LawfulBEq β] {separator : β} {text : List β}
    {parts : List (List β)} : text.splitOn separator = parts ↔
      parts ≠ [] ∧ text = [separator].intercalate parts ∧ ∀ part ∈ parts, separator ∉ part := by
  constructor
  · rintro rfl
    exact ⟨List.splitOn_ne_nil separator text, (List.intercalate_splitOn separator).symm,
      not_mem_splitOn separator text⟩
  · rintro ⟨hne, rfl, hparts⟩
    exact List.splitOn_intercalate separator hparts hne

/-- The front of a list whose rest does not go on like it. -/
theorem takeWhile_append_of_head {p : β → Bool} {front rest : List β}
    (hfront : ∀ c ∈ front, p c = true) (hrest : ∀ c ∈ rest.head?, p c = false) :
    (front ++ rest).takeWhile p = front ∧ (front ++ rest).dropWhile p = rest := by
  rw [List.takeWhile_append_of_pos hfront, List.dropWhile_append_of_pos hfront]
  cases rest with
  | nil => simp
  | cons c rest =>
    have hc := hrest c rfl
    rw [List.takeWhile_cons_of_neg (by simp [hc]), List.dropWhile_cons_of_neg (by simp [hc]),
      List.append_nil]
    exact ⟨rfl, rfl⟩

/-- What follows the front does not go on like it. -/
theorem head_dropWhile_false {p : β → Bool} (text : List β) :
    ∀ c ∈ (text.dropWhile p).head?, p c = false := by
  intro c hc
  have hnot := List.head?_dropWhile_not p text
  rw [Option.mem_def.mp hc] at hnot
  simpa using hnot

theorem takeWhile_dropWhile_iff [BEq β] [LawfulBEq β] {separator : β} {text before after : List β} :
    text = before ++ separator :: after ∧ separator ∉ before ↔
      text.takeWhile (· != separator) = before ∧
        text.dropWhile (· != separator) = separator :: after := by
  constructor
  · rintro ⟨rfl, hbefore⟩
    have hall : ∀ c ∈ before, (c != separator) = true := by
      intro c hc
      rw [bne_iff_ne]
      rintro rfl
      exact hbefore hc
    rw [List.takeWhile_append_of_pos hall, List.dropWhile_append_of_pos hall,
      List.takeWhile_cons_of_neg (by simp), List.dropWhile_cons_of_neg (by simp), List.append_nil]
    exact ⟨rfl, rfl⟩
  · rintro ⟨rfl, hafter⟩
    refine ⟨?_, fun hmem => ?_⟩
    · rw [← hafter, List.takeWhile_append_dropWhile]
    · exact absurd (List.mem_takeWhile_imp hmem) (by simp)

/-- A split of a longer list is at its head, or one of its rest. -/
theorem exists_split_cons {p : List β → β → Prop} {first : β} {rest : List β} :
    (∃ before x after, first :: rest = before ++ x :: after ∧ p before x) ↔
      p [] first ∨ ∃ before x after, rest = before ++ x :: after ∧ p (first :: before) x := by
  constructor
  · rintro ⟨before, x, after, hsplit, hp⟩
    cases before with
    | nil =>
      obtain ⟨rfl, -⟩ := List.cons.inj hsplit
      exact .inl hp
    | cons other before =>
      obtain ⟨rfl, hrest⟩ := List.cons.inj hsplit
      exact .inr ⟨before, x, after, hrest, hp⟩
  · rintro (hp | ⟨before, x, after, rfl, hp⟩)
    · exact ⟨[], first, rest, rfl, hp⟩
    · exact ⟨first :: before, x, after, rfl, hp⟩

theorem mapM_eq_some_iff {α γ : Type*} {f : α → Option γ} {items : List α} {values : List γ} :
    items.mapM f = some values ↔
      List.Forall₂ (fun item value => f item = some value) items values := by
  induction items generalizing values with
  | nil =>
    rw [List.mapM_nil, List.forall₂_nil_left_iff]
    exact ⟨fun h => (Option.some.inj h).symm, fun h => congrArg some h.symm⟩
  | cons item rest ih =>
    rw [List.mapM_cons]
    constructor
    · intro h
      cases hitem : f item with
      | none => rw [hitem] at h; exact nomatch h
      | some value =>
        cases hrest : rest.mapM f with
        | none => rw [hitem, hrest] at h; exact nomatch h
        | some others =>
          rw [hitem, hrest] at h
          rw [← Option.some.inj h]
          exact .cons hitem (ih.mp hrest)
    · intro h
      cases h with
      | cons hitem hrest => rw [hitem, ih.mpr hrest]; rfl

end HandLab.Lib
