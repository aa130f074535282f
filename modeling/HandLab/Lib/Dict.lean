import Mathlib.Data.List.Basic

/-!
# Python dictionaries

A dictionary is its list of items in insertion order; an assignment to a key that is
there keeps the key's place. `List.lookup` reads it.
-/

namespace HandLab.Lib

variable {κ α : Type*} [BEq κ] [LawfulBEq κ]

/-- `d[key] = value`. -/
def dictSet (key : κ) (value : α) : List (κ × α) → List (κ × α)
  | [] => [(key, value)]
  | (k, v) :: rest => if k == key then (key, value) :: rest else (k, v) :: dictSet key value rest

omit [LawfulBEq κ] in
theorem dictSet_nil (key : κ) (value : α) : dictSet key value [] = [(key, value)] := rfl

omit [LawfulBEq κ] in
theorem dictSet_cons (key k : κ) (value v : α) (rest : List (κ × α)) :
    dictSet key value ((k, v) :: rest) =
      if k == key then (key, value) :: rest else (k, v) :: dictSet key value rest := rfl

@[simp] theorem lookup_dictSet_self (key : κ) (value : α) (d : List (κ × α)) :
    (dictSet key value d).lookup key = some value := by
  induction d with
  | nil => simp [dictSet_nil]
  | cons item rest ih =>
    obtain ⟨k, v⟩ := item
    rw [dictSet_cons]
    split
    · rw [List.lookup_cons_self]
    · rename_i hne
      have hne' : (key == k) = false := beq_false_of_ne fun heq => hne (heq ▸ beq_self_eq_true k)
      rw [List.lookup_cons, hne']
      exact ih

variable {key other : κ}

@[simp] theorem lookup_dictSet_of_ne (h : other ≠ key) (value : α)
    (d : List (κ × α)) : (dictSet key value d).lookup other = d.lookup other := by
  have hne : (other == key) = false := by simpa using h
  induction d with
  | nil => rw [dictSet_nil, List.lookup_cons, hne]
  | cons item rest ih =>
    obtain ⟨k, v⟩ := item
    rw [dictSet_cons]
    split
    · rename_i hk
      obtain rfl := eq_of_beq hk
      rw [List.lookup_cons, hne, List.lookup_cons, hne]
    · rw [List.lookup_cons, List.lookup_cons, ih]

/-- `d.pop(key, None)`. -/
def dictPop (key : κ) (d : List (κ × α)) : List (κ × α) := d.filter fun item => item.1 != key

theorem lookup_dictPop_of_ne (h : other ≠ key) (d : List (κ × α)) :
    (dictPop key d).lookup other = d.lookup other := by
  induction d with
  | nil => rfl
  | cons item rest ih =>
    obtain ⟨k, v⟩ := item
    by_cases hk : k = key
    · have hne : (other == k) = false := beq_false_of_ne fun heq => h (heq.trans hk)
      rw [dictPop, List.filter_cons_of_neg (by simp [hk]), List.lookup_cons, hne]
      exact ih
    · rw [dictPop, List.filter_cons_of_pos (by simpa using hk), List.lookup_cons,
        List.lookup_cons]
      cases other == k with
      | true => rfl
      | false => exact ih

/-! ## Keys -/

/-- The keys, in insertion order. -/
def dictKeys (d : List (κ × α)) : List κ := d.map Prod.fst

omit [BEq κ] [LawfulBEq κ] in
@[simp] theorem length_dictKeys (d : List (κ × α)) : (dictKeys d).length = d.length :=
  List.length_map _

variable {d : List (κ × α)}

theorem mem_dictKeys_of_lookup {key : κ} {value : α}
    (h : d.lookup key = some value) : key ∈ dictKeys d := by
  induction d with
  | nil => cases h
  | cons item rest ih =>
    obtain ⟨k, v⟩ := item
    rw [List.lookup_cons] at h
    cases hk : key == k with
    | true => exact List.mem_cons.mpr (.inl (eq_of_beq hk))
    | false =>
      rw [hk] at h
      exact List.mem_cons_of_mem _ (ih h)

theorem lookup_isSome_of_mem_dictKeys {key : κ} (h : key ∈ dictKeys d) :
    ∃ value, d.lookup key = some value := by
  induction d with
  | nil => cases h
  | cons item rest ih =>
    obtain ⟨k, v⟩ := item
    rw [List.lookup_cons]
    cases hk : key == k with
    | true => exact ⟨v, rfl⟩
    | false =>
      refine ih ((List.mem_cons.mp h).resolve_left ?_)
      rintro rfl
      rw [beq_self_eq_true] at hk
      cases hk

theorem mem_dictKeys_dictSet {value : α} :
    other ∈ dictKeys (dictSet key value d) ↔ other = key ∨ other ∈ dictKeys d := by
  induction d with
  | nil => simp [dictKeys, dictSet_nil]
  | cons item rest ih =>
    obtain ⟨k, v⟩ := item
    rw [dictSet_cons]
    split
    · rename_i hk
      simp [dictKeys, eq_of_beq hk]
    · have hcons : other ∈ dictKeys ((k, v) :: dictSet key value rest) ↔
          other = k ∨ other ∈ dictKeys (dictSet key value rest) := List.mem_cons
      rw [hcons, ih]
      simp [dictKeys, or_left_comm]

theorem nodup_dictKeys_dictSet {key : κ} {value : α}
    (h : (dictKeys d).Nodup) : (dictKeys (dictSet key value d)).Nodup := by
  induction d with
  | nil => simp [dictKeys, dictSet_nil]
  | cons item rest ih =>
    obtain ⟨k, v⟩ := item
    obtain ⟨hk, hrest⟩ := List.nodup_cons.mp h
    rw [dictSet_cons]
    split
    · rename_i heq
      exact List.nodup_cons.mpr ⟨by rwa [eq_of_beq heq] at hk, hrest⟩
    · rename_i hne
      refine List.nodup_cons.mpr ⟨fun hmem => ?_, ih hrest⟩
      rcases mem_dictKeys_dictSet.mp hmem with heq | hmem
      · exact hne (beq_iff_eq.mpr heq)
      · exact hk hmem

theorem mem_dictKeys_dictPop :
    other ∈ dictKeys (dictPop key d) ↔ other ∈ dictKeys d ∧ other ≠ key := by
  simp only [dictKeys, dictPop, List.mem_map, List.mem_filter, bne_iff_ne]
  constructor
  · rintro ⟨item, ⟨hmem, hne⟩, rfl⟩
    exact ⟨⟨item, hmem, rfl⟩, hne⟩
  · rintro ⟨⟨item, hmem, rfl⟩, hne⟩
    exact ⟨item, ⟨hmem, hne⟩, rfl⟩

omit [LawfulBEq κ] in
theorem nodup_dictKeys_dictPop {key : κ} (h : (dictKeys d).Nodup) :
    (dictKeys (dictPop key d)).Nodup :=
  h.sublist ((List.filter_sublist).map _)

end HandLab.Lib
