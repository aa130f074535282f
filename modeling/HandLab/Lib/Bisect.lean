import Mathlib.Data.Finset.Max

/-!
# Bisection

`bisectRight xs x` is the loop of Python's `bisect.bisect_right`, on any list.

* `bisectRight_le`: what stands before the place found is at most `x`, even in a list
  that is not sorted.
* `isLatest_iff_keeps`: it is the greatest such element exactly if no probe of the search
  throws all greatest elements away.
* `keepsLatest_sorted`: in a sorted list none does.
-/

namespace HandLab.Lib

variable {α : Type*} [LinearOrder α]

/-- The loop between `lo` and `hi`. -/
def bisectLoop (xs : List α) (x : α) : ℕ → ℕ → ℕ → ℕ
  | 0, lo, _ => lo
  | fuel + 1, lo, hi =>
    if lo < hi then
      let mid := (lo + hi) / 2
      if xs[mid]?.any (x < ·) then bisectLoop xs x fuel lo mid
      else bisectLoop xs x fuel (mid + 1) hi
    else lo

/-- `bisect.bisect_right`. -/
def bisectRight (xs : List α) (x : α) : ℕ := bisectLoop xs x xs.length 0 xs.length

/-- The element before the place is the greatest that is at most `x`; at the front of the
    list there is none. -/
structure IsLatest (xs : List α) (x : α) (place : ℕ) : Prop where
  le : ∀ i, place = i + 1 → ∃ a, xs[i]? = some a ∧ a ≤ x
  greatest : ∀ b ∈ xs, b ≤ x → ∃ i a, place = i + 1 ∧ xs[i]? = some a ∧ b ≤ a

variable {xs : List α} {x : α}

variable {lo hi : ℕ}

theorem bisectLoop_probe (xs : List α) (x : α) (fuel : ℕ) (h : lo < hi) :
    bisectLoop xs x (fuel + 1) lo hi =
      if xs[(lo + hi) / 2]?.any (x < ·) then bisectLoop xs x fuel lo ((lo + hi) / 2)
      else bisectLoop xs x fuel ((lo + hi) / 2 + 1) hi := if_pos h

theorem bisectLoop_done (xs : List α) (x : α) (fuel : ℕ) (h : ¬lo < hi) :
    bisectLoop xs x (fuel + 1) lo hi = lo := if_neg h

/-- The loop stays between its bounds. -/
theorem bisectLoop_mem (xs : List α) (x : α) (fuel : ℕ) (h : lo ≤ hi) :
    lo ≤ bisectLoop xs x fuel lo hi ∧ bisectLoop xs x fuel lo hi ≤ hi := by
  induction fuel generalizing lo hi with
  | zero => exact ⟨le_rfl, h⟩
  | succ fuel ih =>
    by_cases hlt : lo < hi
    · rw [bisectLoop_probe xs x fuel hlt]
      split
      · have := ih (show lo ≤ (lo + hi) / 2 by omega)
        omega
      · have := ih (show (lo + hi) / 2 + 1 ≤ hi by omega)
        omega
    · rw [bisectLoop_done xs x fuel hlt]
      omega

/-- A probe that is passed was at most `x`. -/
theorem probe_le {mid : ℕ} (hmid : mid < xs.length) (hprobe : ¬xs[mid]?.any (x < ·) = true) :
    ∀ i, mid + 1 = i + 1 → ∃ a, xs[i]? = some a ∧ a ≤ x := by
  rintro _ ⟨⟩
  rw [List.getElem?_eq_getElem hmid] at hprobe ⊢
  exact ⟨_, rfl, by simpa using hprobe⟩

/-- The probe before the place found was at most `x`. -/
theorem bisectLoop_le (fuel : ℕ) (hhi : hi ≤ xs.length)
    (hlo : ∀ i, lo = i + 1 → ∃ a, xs[i]? = some a ∧ a ≤ x) :
    ∀ i, bisectLoop xs x fuel lo hi = i + 1 → ∃ a, xs[i]? = some a ∧ a ≤ x := by
  induction fuel generalizing lo hi with
  | zero => exact hlo
  | succ fuel ih =>
    by_cases hlt : lo < hi
    · rw [bisectLoop_probe xs x fuel hlt]
      split
      · exact ih (by omega) hlo
      · rename_i hprobe
        exact ih hhi (probe_le (by omega) hprobe)
    · rw [bisectLoop_done xs x fuel hlt]
      exact hlo

/-- **Nothing later is found**, in any list. -/
theorem bisectRight_le (i : ℕ) (h : bisectRight xs x = i + 1) :
    ∃ a, xs[i]? = some a ∧ a ≤ x :=
  bisectLoop_le xs.length le_rfl (fun i hi => absurd hi (by omega)) i h

/-! ## Lists in any order -/

/-- Some greatest element that is at most `x` is in the range, or just before it. -/
def HasLatest (xs : List α) (x : α) (lo hi : ℕ) : Prop :=
  (∃ b ∈ xs, b ≤ x) → ∃ i a, lo ≤ i + 1 ∧ i < hi ∧ xs[i]? = some a ∧ a ≤ x ∧
    ∀ b ∈ xs, b ≤ x → b ≤ a

/-- No probe throws all greatest elements away. -/
def KeepsLatest (xs : List α) (x : α) : ℕ → ℕ → ℕ → Prop
  | 0, _, _ => True
  | fuel + 1, lo, hi => lo < hi →
    let mid := (lo + hi) / 2
    if xs[mid]?.any (x < ·) then HasLatest xs x lo mid ∧ KeepsLatest xs x fuel lo mid
    else HasLatest xs x (mid + 1) hi ∧ KeepsLatest xs x fuel (mid + 1) hi

theorem keepsLatest_probe (fuel : ℕ) (h : lo < hi) :
    KeepsLatest xs x (fuel + 1) lo hi ↔
      if xs[(lo + hi) / 2]?.any (x < ·) then
        HasLatest xs x lo ((lo + hi) / 2) ∧ KeepsLatest xs x fuel lo ((lo + hi) / 2)
      else HasLatest xs x ((lo + hi) / 2 + 1) hi ∧
        KeepsLatest xs x fuel ((lo + hi) / 2 + 1) hi :=
  ⟨fun hkeeps => hkeeps h, fun hkeeps _ => hkeeps⟩

theorem hasLatest_all : HasLatest xs x 0 xs.length := by
  rintro ⟨b, hb, hbx⟩
  obtain ⟨a, ha, hmax⟩ := (xs.filter (· ≤ x)).toFinset.exists_max_image id
    ⟨b, by simp [hb, hbx]⟩
  simp only [List.mem_toFinset, List.mem_filter, decide_eq_true_eq, id] at ha hmax
  obtain ⟨i, hi, rfl⟩ := List.mem_iff_getElem.mp ha.1
  exact ⟨i, xs[i], by omega, hi, List.getElem?_eq_getElem hi, ha.2,
    fun c hc hcx => hmax c ⟨hc, hcx⟩⟩

/-- A place in the range that is the latest shows that the range has it. -/
theorem IsLatest.hasLatest {place lo hi : ℕ} (h : IsLatest xs x place) (hlo : lo ≤ place)
    (hhi : place ≤ hi) : HasLatest xs x lo hi := by
  rintro ⟨b, hb, hbx⟩
  obtain ⟨i, a, rfl, ha, -⟩ := h.greatest b hb hbx
  obtain ⟨a', ha', hax⟩ := h.le i rfl
  obtain rfl := Option.some.inj (ha.symm.trans ha')
  refine ⟨i, a, hlo, hhi, ha, hax, ?_⟩
  intro c hc hcx
  obtain ⟨j, d, hj, hd, hcd⟩ := h.greatest c hc hcx
  obtain rfl : i = j := by omega
  obtain rfl := Option.some.inj (ha.symm.trans hd)
  exact hcd

/-- An empty range has the latest just before it. -/
theorem HasLatest.isLatest {lo : ℕ} (h : HasLatest xs x lo lo)
    (hlo : ∀ i, lo = i + 1 → ∃ a, xs[i]? = some a ∧ a ≤ x) : IsLatest xs x lo := by
  refine ⟨hlo, fun b hb hbx => ?_⟩
  obtain ⟨i, a, hle, hlt, ha, -, hmax⟩ := h ⟨b, hb, hbx⟩
  exact ⟨i, a, by omega, ha, hmax b hb hbx⟩

theorem bisectLoop_isLatest_iff (fuel : ℕ) (hfuel : hi - lo ≤ fuel) (hle : lo ≤ hi)
    (hhi : hi ≤ xs.length) (hlo : ∀ i, lo = i + 1 → ∃ a, xs[i]? = some a ∧ a ≤ x)
    (hhas : HasLatest xs x lo hi) :
    IsLatest xs x (bisectLoop xs x fuel lo hi) ↔ KeepsLatest xs x fuel lo hi := by
  induction fuel generalizing lo hi with
  | zero =>
    obtain rfl : lo = hi := by omega
    exact iff_of_true (hhas.isLatest hlo) trivial
  | succ fuel ih =>
    by_cases hlt : lo < hi
    · rw [bisectLoop_probe xs x fuel hlt, keepsLatest_probe fuel hlt]
      split
      · -- the upper half is thrown away
        have hin := bisectLoop_mem xs x fuel (show lo ≤ (lo + hi) / 2 by omega)
        constructor
        · intro h
          have hleft := h.hasLatest hin.1 hin.2
          exact ⟨hleft, (ih (by omega) (by omega) (by omega) hlo hleft).mp h⟩
        · rintro ⟨hleft, hkeeps⟩
          exact (ih (by omega) (by omega) (by omega) hlo hleft).mpr hkeeps
      · -- the lower half is thrown away, but not the probe
        rename_i hprobe
        have hin := bisectLoop_mem xs x fuel
          (show (lo + hi) / 2 + 1 ≤ hi by omega)
        have hlo' := probe_le (show (lo + hi) / 2 < xs.length by omega) hprobe
        constructor
        · intro h
          have hright := h.hasLatest hin.1 hin.2
          exact ⟨hright, (ih (by omega) (by omega) hhi hlo' hright).mp h⟩
        · rintro ⟨hright, hkeeps⟩
          exact (ih (by omega) (by omega) hhi hlo' hright).mpr hkeeps
    · rw [bisectLoop_done xs x fuel hlt]
      obtain rfl : lo = hi := by omega
      exact iff_of_true (hhas.isLatest hlo) fun h => absurd h hlt

/-- **The latest is found** exactly if no probe throws it away. -/
theorem isLatest_iff_keeps :
    IsLatest xs x (bisectRight xs x) ↔ KeepsLatest xs x xs.length 0 xs.length :=
  bisectLoop_isLatest_iff xs.length le_rfl (Nat.zero_le _) le_rfl
    (fun i hi => absurd hi (by omega)) hasLatest_all

/-! ## Sorted lists -/

/-- In a sorted list a range from a place before everything greater than `x` has the latest. -/
theorem hasLatest_of_sorted (hsorted : xs.Pairwise (· ≤ ·)) (hle : lo ≤ hi)
    (hbefore : ∀ i, lo = i + 1 → ∃ a, xs[i]? = some a ∧ a ≤ x)
    (hafter : ∀ i a, hi ≤ i → xs[i]? = some a → x < a) : HasLatest xs x lo hi := by
  rintro ⟨b, hb, hbx⟩
  obtain ⟨i, a, -, hi', ha, hax, hmax⟩ := (hasLatest_all : HasLatest xs x 0 xs.length) ⟨b, hb, hbx⟩
  have hihi : i < hi := by
    by_contra hge
    exact absurd (hafter i a (by omega) ha) (not_lt.mpr hax)
  by_cases hlo : lo ≤ i + 1
  · exact ⟨i, a, hlo, hihi, ha, hax, hmax⟩
  · -- the element before the range is at least as great
    obtain ⟨c, hc, hcx⟩ := hbefore (lo - 1) (by omega)
    have hac : a ≤ c := by
      obtain ⟨hilt, rfl⟩ := List.getElem?_eq_some_iff.mp ha
      obtain ⟨hclt, rfl⟩ := List.getElem?_eq_some_iff.mp hc
      exact List.pairwise_iff_getElem.mp hsorted i (lo - 1) hilt hclt (by omega)
    refine ⟨lo - 1, c, by omega, by omega, hc, hcx, ?_⟩
    intro d hd hdx
    exact (hmax d hd hdx).trans hac

theorem keepsLatest_of_sorted (hsorted : xs.Pairwise (· ≤ ·)) (fuel : ℕ)
    (hle : lo ≤ hi) (hhi : hi ≤ xs.length)
    (hbefore : ∀ i, lo = i + 1 → ∃ a, xs[i]? = some a ∧ a ≤ x)
    (hafter : ∀ i a, hi ≤ i → xs[i]? = some a → x < a) : KeepsLatest xs x fuel lo hi := by
  induction fuel generalizing lo hi with
  | zero => trivial
  | succ fuel ih =>
    intro hlt
    have hmid : (lo + hi) / 2 < xs.length := by omega
    dsimp only
    split
    · rename_i hprobe
      have hafter' : ∀ i a, (lo + hi) / 2 ≤ i → xs[i]? = some a → x < a := by
        intro i a hi' ha
        rw [List.getElem?_eq_getElem hmid] at hprobe
        simp only [Option.any_some, decide_eq_true_eq] at hprobe
        obtain ⟨hilt, rfl⟩ := List.getElem?_eq_some_iff.mp ha
        rcases Nat.lt_or_eq_of_le hi' with hlt' | rfl
        · exact hprobe.trans_le (List.pairwise_iff_getElem.mp hsorted _ i hmid hilt hlt')
        · exact hprobe
      exact ⟨hasLatest_of_sorted hsorted (by omega) hbefore hafter',
        ih (by omega) (by omega) hbefore hafter'⟩
    · rename_i hprobe
      have hbefore' := probe_le hmid hprobe
      exact ⟨hasLatest_of_sorted hsorted (by omega) hbefore' hafter,
        ih (by omega) hhi hbefore' hafter⟩

/-- No probe of a sorted list throws the latest away. -/
theorem keepsLatest_sorted (hsorted : xs.Pairwise (· ≤ ·)) :
    KeepsLatest xs x xs.length 0 xs.length := by
  refine keepsLatest_of_sorted hsorted xs.length (Nat.zero_le _) le_rfl ?_ ?_
  · intro i hi
    omega
  · intro i a hi ha
    rw [List.getElem?_eq_none hi] at ha
    exact nomatch ha

end HandLab.Lib
