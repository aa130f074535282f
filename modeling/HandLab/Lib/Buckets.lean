import HandLab.Lib.Dict
import Mathlib.Algebra.GroupWithZero.Nat
import Mathlib.Data.List.Perm.Basic

/-!
# Dictionaries of lists

A dictionary whose values are lists, as `setdefault(key, []).append(item)` builds it: the bucket
of a key that is not there is empty.

* `bucket_pushAll`: items are appended to the buckets of their keys.
* `size_push`, `size_dictPop`, `size_filter`: how the number of items changes.
* `setRest`: a bucket changes, and goes if nothing is left in it.
* `NoEmpty`: no bucket is empty, so a key is there exactly if its bucket has items.
-/

namespace HandLab.Lib

variable {κ ε : Type*} [BEq κ] [LawfulBEq κ]

/-- `d.get(key, [])`. -/
def bucket (key : κ) (d : List (κ × List ε)) : List ε := (d.lookup key).getD []

/-- The number of items in all buckets. -/
def size (d : List (κ × List ε)) : ℕ := (d.map fun b => b.2.length).sum

/-- `d.setdefault(key, []).append(item)`. -/
def push (key : κ) (item : ε) (d : List (κ × List ε)) : List (κ × List ε) :=
  dictSet key (bucket key d ++ [item]) d

/-- No bucket is empty, and every key is there once. -/
structure NoEmpty (d : List (κ × List ε)) : Prop where
  nodup : (dictKeys d).Nodup
  items : ∀ b ∈ d, b.2 ≠ []

/-! ## Buckets -/

section Bucket

variable {key other : κ} {d : List (κ × List ε)}

omit [LawfulBEq κ] in
theorem bucket_cons (b : κ × List ε) :
    bucket key (b :: d) = if key == b.1 then b.2 else bucket key d := by
  rw [bucket, List.lookup_cons]
  cases key == b.1 <;> rfl

@[simp] theorem bucket_dictSet_self (items : List ε) :
    bucket key (dictSet key items d) = items := by
  rw [bucket, lookup_dictSet_self, Option.getD_some]

theorem bucket_dictSet_of_ne (h : other ≠ key) (items : List ε) :
    bucket other (dictSet key items d) = bucket other d := by
  rw [bucket, lookup_dictSet_of_ne h, bucket]

theorem bucket_dictPop_of_ne (h : other ≠ key) :
    bucket other (dictPop key d) = bucket other d := by
  rw [bucket, lookup_dictPop_of_ne h, bucket]

theorem bucket_filter (keep : κ → Bool) (key : κ) (d : List (κ × List ε)) :
    bucket key (d.filter fun b => keep b.1) = if keep key then bucket key d else [] := by
  induction d with
  | nil => cases keep key <;> rfl
  | cons b rest ih =>
    by_cases hkeep : keep b.1 = true
    · rw [List.filter_cons_of_pos (p := fun b : κ × List ε => keep b.1) hkeep, bucket_cons,
        bucket_cons, ih]
      by_cases heq : key = b.1
      · subst heq
        simp [hkeep]
      · have hne : (key == b.1) = false := beq_false_of_ne heq
        rw [hne]
        rfl
    · rw [List.filter_cons_of_neg (p := fun b : κ × List ε => keep b.1) hkeep, ih, bucket_cons]
      by_cases heq : key = b.1
      · subst heq
        simp [hkeep]
      · have hne : (key == b.1) = false := beq_false_of_ne heq
        rw [hne]
        rfl

@[simp] theorem bucket_dictPop_self : bucket key (dictPop key d) = [] := by
  rw [dictPop, bucket_filter fun k => k != key]
  simp

theorem mem_dictKeys_of_bucket (h : bucket key d ≠ []) : key ∈ dictKeys d := by
  unfold bucket at h
  cases hlookup : d.lookup key with
  | none => rw [hlookup] at h; exact absurd rfl h
  | some items => exact mem_dictKeys_of_lookup hlookup

/-- A bucket that is there is one of the items of the dictionary. -/
theorem mem_of_bucket (h : key ∈ dictKeys d) : (key, bucket key d) ∈ d := by
  induction d with
  | nil => exact absurd h List.not_mem_nil
  | cons b rest ih =>
    rw [bucket_cons]
    by_cases heq : key = b.1
    · subst heq
      rw [beq_self_eq_true, if_pos rfl]
      exact List.mem_cons_self
    · rw [beq_false_of_ne heq, if_neg Bool.false_ne_true]
      exact List.mem_cons_of_mem _ (ih ((List.mem_cons.mp h).resolve_left heq))

theorem NoEmpty.mem_dictKeys (hd : NoEmpty d) : key ∈ dictKeys d ↔ bucket key d ≠ [] :=
  ⟨fun h => hd.items _ (mem_of_bucket h), mem_dictKeys_of_bucket⟩

/-- With every key once, the items of the dictionary are its buckets. -/
theorem bucket_of_mem (hd : (dictKeys d).Nodup) {b : κ × List ε} (h : b ∈ d) :
    bucket b.1 d = b.2 := by
  induction d with
  | nil => exact absurd h List.not_mem_nil
  | cons c rest ih =>
    obtain ⟨hnot, hrest⟩ := List.nodup_cons.mp hd
    rw [bucket_cons]
    rcases List.mem_cons.mp h with rfl | h
    · simp
    · have hne : b.1 ≠ c.1 := by
        intro heq
        exact hnot (heq ▸ List.mem_map_of_mem h)
      rw [beq_false_of_ne hne, if_neg Bool.false_ne_true]
      exact ih hrest h

end Bucket

/-! ## Sizes -/

section Size

variable {key : κ} {d : List (κ × List ε)}

omit [BEq κ] [LawfulBEq κ] in
theorem size_cons (b : κ × List ε) : size (b :: d) = b.2.length + size d := by
  simp [size]

theorem size_dictSet (items : List ε) :
    size (dictSet key items d) + (bucket key d).length = size d + items.length := by
  induction d with
  | nil => simp [dictSet_nil, size, bucket]
  | cons b rest ih =>
    obtain ⟨k, old⟩ := b
    rw [dictSet_cons, bucket_cons]
    by_cases heq : k = key
    · subst heq
      simp only [beq_self_eq_true, if_true, size_cons]
      omega
    · rw [beq_false_of_ne heq, beq_false_of_ne (Ne.symm heq)]
      simp only [Bool.false_eq_true, if_false, size_cons]
      omega

theorem size_push (item : ε) : size (push key item d) = size d + 1 := by
  have h : size (dictSet key (bucket key d ++ [item]) d) + (bucket key d).length =
      size d + (bucket key d ++ [item]).length := size_dictSet _
  rw [List.length_append, List.length_singleton] at h
  unfold push
  omega

omit [BEq κ] [LawfulBEq κ] in
/-- A filter splits the items. -/
theorem size_filter (keep : κ × List ε → Bool) (d : List (κ × List ε)) :
    size (d.filter keep) + size (d.filter fun b => !keep b) = size d := by
  induction d with
  | nil => rfl
  | cons b rest ih =>
    cases hkeep : keep b with
    | true =>
      rw [List.filter_cons_of_pos hkeep, List.filter_cons_of_neg (by simp [hkeep]), size_cons,
        size_cons]
      omega
    | false =>
      rw [List.filter_cons_of_neg (by simp [hkeep]), List.filter_cons_of_pos (by simp [hkeep]),
        size_cons, size_cons]
      omega

/-- Without its first bucket, a dictionary is what is left when the key is popped. -/
theorem dictPop_cons_self {b : κ × List ε} {rest : List (κ × List ε)}
    (hd : (dictKeys (b :: rest)).Nodup) : dictPop b.1 (b :: rest) = rest := by
  obtain ⟨hnot, -⟩ := List.nodup_cons.mp hd
  rw [dictPop, List.filter_cons_of_neg (by simp), List.filter_eq_self]
  intro c hc
  have hne : c.1 ≠ b.1 := fun h => hnot (h ▸ List.mem_map_of_mem hc)
  simpa using hne

theorem size_dictPop (hd : (dictKeys d).Nodup) :
    size (dictPop key d) + (bucket key d).length = size d := by
  induction d with
  | nil => rfl
  | cons b rest ih =>
    obtain ⟨hnot, hrest⟩ := List.nodup_cons.mp hd
    rw [bucket_cons, size_cons]
    by_cases heq : b.1 = key
    · subst heq
      rw [dictPop_cons_self hd, beq_self_eq_true, if_pos rfl]
      omega
    · have hkept : dictPop key (b :: rest) = b :: dictPop key rest := by
        rw [dictPop, List.filter_cons_of_pos (by simpa using heq), dictPop]
      have hsum := ih hrest
      rw [hkept, size_cons, beq_false_of_ne (Ne.symm heq), if_neg Bool.false_ne_true]
      omega

omit [BEq κ] [LawfulBEq κ] in
/-- Without empty buckets, no items means no buckets. -/
theorem eq_nil_of_size (h : ∀ b ∈ d, b.2 ≠ []) (hsize : size d = 0) : d = [] := by
  cases d with
  | nil => rfl
  | cons b rest =>
    rw [size_cons] at hsize
    have hlength : b.2.length = 0 := by omega
    exact absurd (List.length_eq_zero_iff.mp hlength) (h b List.mem_cons_self)

end Size

/-! ## What keeps the buckets from being empty -/

section NoEmpty

variable {key : κ} {d : List (κ × List ε)}

omit [LawfulBEq κ] in
theorem mem_dictSet {items : List ε} {b : κ × List ε} (h : b ∈ dictSet key items d) :
    b = (key, items) ∨ b ∈ d := by
  induction d with
  | nil => exact .inl (List.mem_singleton.mp h)
  | cons c rest ih =>
    obtain ⟨k, old⟩ := c
    rw [dictSet_cons] at h
    by_cases heq : (k == key) = true
    · rw [if_pos heq] at h
      exact (List.mem_cons.mp h).imp_right (List.mem_cons_of_mem _)
    · rw [if_neg heq] at h
      rcases List.mem_cons.mp h with rfl | h
      · exact .inr List.mem_cons_self
      · exact (ih h).imp_right (List.mem_cons_of_mem _)

theorem NoEmpty.dictSet (hd : NoEmpty d) {items : List ε} (hitems : items ≠ []) :
    NoEmpty (dictSet key items d) where
  nodup := nodup_dictKeys_dictSet hd.nodup
  items b hb := by
    rcases mem_dictSet hb with rfl | hb
    · exact hitems
    · exact hd.items b hb

theorem NoEmpty.push (hd : NoEmpty d) (item : ε) : NoEmpty (push key item d) :=
  hd.dictSet (by simp)

omit [BEq κ] [LawfulBEq κ] in
theorem NoEmpty.filter (hd : NoEmpty d) (keep : κ × List ε → Bool) :
    NoEmpty (d.filter keep) where
  nodup := hd.nodup.sublist (List.filter_sublist.map _)
  items b hb := hd.items b (List.mem_of_mem_filter hb)

/-- The sizes of the buckets determine the number of items. -/
theorem size_congr {ζ : Type*} {d : List (κ × List ε)} {d' : List (κ × List ζ)} (hd : NoEmpty d)
    (hd' : NoEmpty d') (h : ∀ key, (bucket key d).length = (bucket key d').length) :
    size d = size d' := by
  induction d generalizing d' with
  | nil =>
    cases d' with
    | nil => rfl
    | cons b rest =>
      have hlength := h b.1
      rw [bucket_of_mem hd'.nodup List.mem_cons_self] at hlength
      exact absurd (List.length_eq_zero_iff.mp hlength.symm) (hd'.items b List.mem_cons_self)
  | cons b rest ih =>
    have hpop := dictPop_cons_self hd.nodup
    have hrest : NoEmpty rest := hpop ▸ hd.filter _
    have hsame : size rest = size (dictPop b.1 d') := by
      refine ih hrest (hd'.filter _) fun key => ?_
      by_cases heq : key = b.1
      · rw [heq, bucket_dictPop_self, ← hpop, bucket_dictPop_self]
        rfl
      · have hkey : bucket key (dictPop b.1 (b :: rest)) = bucket key (b :: rest) :=
          bucket_dictPop_of_ne heq
        rw [bucket_dictPop_of_ne heq, ← h key, ← hkey, hpop]
    have hsum : size (dictPop b.1 d') + (bucket b.1 d').length = size d' := size_dictPop hd'.nodup
    rw [size_cons, hsame, ← hsum, ← h b.1, bucket_of_mem hd.nodup List.mem_cons_self]
    omega

end NoEmpty

/-! ## A bucket that may become empty -/

section SetRest

variable {key other : κ} {d : List (κ × List ε)}

/-- Store the items, or take the key out if there are none. -/
def setRest (key : κ) (items : List ε) (d : List (κ × List ε)) : List (κ × List ε) :=
  if items.isEmpty then dictPop key d else dictSet key items d

theorem bucket_setRest_self (items : List ε) : bucket key (setRest key items d) = items := by
  unfold setRest
  cases items with
  | nil => exact bucket_dictPop_self
  | cons item rest => exact bucket_dictSet_self _

theorem bucket_setRest_of_ne (h : other ≠ key) (items : List ε) :
    bucket other (setRest key items d) = bucket other d := by
  unfold setRest
  cases items with
  | nil => exact bucket_dictPop_of_ne h
  | cons item rest => exact bucket_dictSet_of_ne h _

theorem size_setRest (hd : NoEmpty d) (items : List ε) :
    size (setRest key items d) + (bucket key d).length = size d + items.length := by
  unfold setRest
  cases items with
  | nil => exact size_dictPop hd.nodup
  | cons item rest => exact size_dictSet _

theorem NoEmpty.setRest (hd : NoEmpty d) (items : List ε) : NoEmpty (setRest key items d) := by
  unfold HandLab.Lib.setRest
  cases items with
  | nil => exact hd.filter _
  | cons item rest => exact hd.dictSet (List.cons_ne_nil item rest)

end SetRest

/-! ## Many items -/

section PushAll

variable (keyOf : ε → κ)

/-- Every item is appended to the bucket of its key. -/
def pushAll (items : List ε) (d : List (κ × List ε)) : List (κ × List ε) :=
  items.foldl (fun d item => push (keyOf item) item d) d

variable {keyOf}

theorem bucket_pushAll (items : List ε) (d : List (κ × List ε)) (key : κ) :
    bucket key (pushAll keyOf items d) =
      bucket key d ++ items.filter fun item => keyOf item == key := by
  induction items generalizing d with
  | nil => simp [pushAll]
  | cons item rest ih =>
    show bucket key (pushAll keyOf rest (push (keyOf item) item d)) = _
    rw [ih]
    by_cases heq : keyOf item = key
    · subst heq
      rw [push, bucket_dictSet_self, List.filter_cons_of_pos (by simp), List.append_assoc]
      rfl
    · rw [push, bucket_dictSet_of_ne (Ne.symm heq), List.filter_cons_of_neg (by simpa using heq)]

theorem size_pushAll (items : List ε) (d : List (κ × List ε)) :
    size (pushAll keyOf items d) = size d + items.length := by
  induction items generalizing d with
  | nil => rfl
  | cons item rest ih =>
    show size (pushAll keyOf rest (push (keyOf item) item d)) = _
    rw [ih, size_push, List.length_cons]
    omega

theorem NoEmpty.pushAll {d : List (κ × List ε)} (hd : NoEmpty d) (items : List ε) :
    NoEmpty (pushAll keyOf items d) := by
  induction items generalizing d with
  | nil => exact hd
  | cons item rest ih => exact ih (hd.push item)

end PushAll

end HandLab.Lib
