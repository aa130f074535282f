import Mathlib.Logic.Relation
import Mathlib.Data.List.Induction

/-!
# Runs of deterministic machines

A machine is a step function `step : σ → ι → σ`; a run is a left fold of it
over a list of inputs. Every environment choice (results of callbacks, clock
readings) is part of the input or of the state, so a statement about all runs
is a statement about all interleavings.

* `run_invariant`: a property of the initial state that every step keeps holds
  after every run.
* `run_related`: two machines that stay related at every step.
* `run_invariant_of_meets`: the same for runs all of whose steps meet a side
  condition on the state before the step and on the input.
* `meets_append`, `meets_concat`: how side conditions split along a run.
* `meets_iff_of_invariant`: two side conditions that agree under an invariant.
* `meets_of_run`: a run that ends well has met the conditions it had to.
* `run_filter_of_meets`: inputs that leave the state alone can be removed.
* `path_invariant`: the version for a relation of small steps, used where one
  input is simulated by several of them.
-/

namespace HandLab.Lib

variable {σ ι : Type*}

/-- The state after the inputs `is`, in order. -/
def run (step : σ → ι → σ) (s : σ) (is : List ι) : σ := is.foldl step s

section Run

variable (step : σ → ι → σ)

@[simp] theorem run_nil (s : σ) : run step s [] = s := rfl

@[simp] theorem run_cons (s : σ) (i : ι) (is : List ι) :
    run step s (i :: is) = run step (step s i) is := rfl

theorem run_append (s : σ) (is js : List ι) :
    run step s (is ++ js) = run step (run step s is) js := by
  simp [run, List.foldl_append]

theorem run_concat (s : σ) (is : List ι) (i : ι) :
    run step s (is ++ [i]) = step (run step s is) i := by
  rw [run_append, run_cons, run_nil]

variable {step}

/-- **Invariant rule.** -/
theorem run_invariant {P : σ → Prop} (hstep : ∀ s i, P s → P (step s i)) {s : σ} (hs : P s)
    (is : List ι) : P (run step s is) := by
  induction is generalizing s with
  | nil => exact hs
  | cons i is ih => exact ih (hstep s i hs)

/-- **Two machines** that stay related at every step are related after every run. -/
theorem run_related {τ : Type*} {step' : τ → ι → τ} {R : σ → τ → Prop}
    (hstep : ∀ s t i, R s t → R (step s i) (step' t i)) {s : σ} {t : τ} (h : R s t)
    (is : List ι) : R (run step s is) (run step' t is) := by
  induction is generalizing s t with
  | nil => exact h
  | cons i is ih => exact ih (hstep s t i h)

end Run

/-- Every step of the run meets the condition `C` on the state before the step
    and on the input. -/
def Meets (step : σ → ι → σ) (C : σ → ι → Prop) : σ → List ι → Prop
  | _, [] => True
  | s, i :: is => C s i ∧ Meets step C (step s i) is

instance decidableMeets {step : σ → ι → σ} {C : σ → ι → Prop} [∀ s i, Decidable (C s i)] :
    (s : σ) → (is : List ι) → Decidable (Meets step C s is)
  | _, [] => isTrue trivial
  | s, i :: is =>
    have : Decidable (Meets step C (step s i) is) := decidableMeets (step s i) is
    inferInstanceAs (Decidable (C s i ∧ Meets step C (step s i) is))

section Meets

variable {step : σ → ι → σ} {C : σ → ι → Prop}

theorem meets_congr {D : σ → ι → Prop} (h : ∀ s i, C s i ↔ D s i) {s : σ} {is : List ι} :
    Meets step C s is ↔ Meets step D s is := by
  induction is generalizing s with
  | nil => rfl
  | cons i is ih => exact and_congr (h s i) ih

theorem meets_mono {D : σ → ι → Prop} (h : ∀ s i, C s i → D s i) {s : σ} {is : List ι}
    (hC : Meets step C s is) : Meets step D s is := by
  induction is generalizing s with
  | nil => trivial
  | cons i is ih => exact ⟨h s i hC.1, ih hC.2⟩

/-- A condition on the inputs alone. -/
theorem meets_of_forall {D : ι → Prop} {is : List ι} (h : ∀ i ∈ is, D i) (s : σ) :
    Meets step (fun _ i => D i) s is := by
  induction is generalizing s with
  | nil => trivial
  | cons i is ih =>
    exact ⟨h i List.mem_cons_self, ih (fun j hj => h j (List.mem_cons_of_mem i hj)) (step s i)⟩

theorem meets_append (s : σ) (is js : List ι) :
    Meets step C s (is ++ js) ↔ Meets step C s is ∧ Meets step C (run step s is) js := by
  induction is generalizing s with
  | nil => simp [Meets]
  | cons i is ih => simp [Meets, ih, and_assoc]

theorem meets_concat (s : σ) (is : List ι) (i : ι) :
    Meets step C s (is ++ [i]) ↔ Meets step C s is ∧ C (run step s is) i := by
  rw [meets_append]
  simp [Meets]

/-- **Conditional invariant rule.** An invariant that the steps meeting `C`
    keep holds after every run all of whose steps meet `C`. -/
theorem run_invariant_of_meets {P : σ → Prop} (hstep : ∀ s i, C s i → P s → P (step s i)) {s : σ}
    (hs : P s) {is : List ι} (h : Meets step C s is) : P (run step s is) := by
  induction is generalizing s with
  | nil => exact hs
  | cons i is ih => exact ih (hstep s i h.1 hs) h.2

/-- **Equivalent conditions.** Two conditions that agree under an invariant, on inputs
    that meet `Q`, are met by the same runs of such inputs. -/
theorem meets_iff_of_invariant_on {D : σ → ι → Prop} {P : σ → Prop} {Q : ι → Prop}
    (hiff : ∀ s i, Q i → P s → (C s i ↔ D s i))
    (hstep : ∀ s i, Q i → P s → C s i → P (step s i)) {s : σ} (hs : P s) {is : List ι}
    (hQ : ∀ i ∈ is, Q i) : Meets step C s is ↔ Meets step D s is := by
  induction is generalizing s with
  | nil => rfl
  | cons i is ih =>
    obtain ⟨hi, his⟩ := List.forall_mem_cons.mp hQ
    constructor
    · intro h
      exact ⟨(hiff s i hi hs).mp h.1, (ih (hstep s i hi hs h.1) his).mp h.2⟩
    · intro h
      have hC := (hiff s i hi hs).mpr h.1
      exact ⟨hC, (ih (hstep s i hi hs hC) his).mpr h.2⟩

/-- The same on all inputs. -/
theorem meets_iff_of_invariant {D : σ → ι → Prop} {P : σ → Prop}
    (hiff : ∀ s i, P s → (C s i ↔ D s i)) (hstep : ∀ s i, P s → C s i → P (step s i)) {s : σ}
    (hs : P s) (is : List ι) : Meets step C s is ↔ Meets step D s is :=
  meets_iff_of_invariant_on (Q := fun _ => True) (fun s i _ => hiff s i) (fun s i _ => hstep s i)
    hs fun _ _ => trivial

/-- **Conditions from outcomes.** If `G` held of the state before whenever it
    holds of a state, and shows under an invariant that the step met `C`, then a run that
    ends well has met `C` all along. -/
theorem meets_of_run {P G : σ → Prop} (hstep : ∀ s i, C s i → P s → P (step s i))
    (hgood : ∀ s i, G (step s i) → G s)
    (hmeets : ∀ s i, P s → G (step s i) → C s i) {s : σ} (hs : P s) {is : List ι}
    (h : G (run step s is)) : Meets step C s is := by
  induction is using List.reverseRecOn with
  | nil => trivial
  | append_singleton is i ih =>
    rw [run_concat] at h
    have hbefore := ih (hgood _ _ h)
    exact (meets_concat s is i).mpr
      ⟨hbefore, hmeets _ _ (run_invariant_of_meets hstep hs hbefore) h⟩

/-- **Removed inputs.** Where the steps on the inputs that `keep` removes leave
    the state alone, a run is the run of the inputs that stay. -/
theorem run_filter_of_meets {keep : ι → Bool}
    (hskip : ∀ s i, C s i → keep i = false → step s i = s) {s : σ} {is : List ι}
    (h : Meets step C s is) : run step s (is.filter keep) = run step s is := by
  induction is generalizing s with
  | nil => rfl
  | cons i is ih =>
    cases hkeep : keep i with
    | true =>
      rw [List.filter_cons_of_pos hkeep, run_cons, run_cons]
      exact ih h.2
    | false =>
      have hsame : step s i = s := hskip s i h.1 hkeep
      rw [List.filter_cons_of_neg (by simp [hkeep]), run_cons, hsame]
      exact ih (by simpa [hsame] using h.2)

end Meets

/-! ## Small steps -/

/-- A sequence of small steps. -/
abbrev Path (Step : σ → σ → Prop) : σ → σ → Prop := Relation.ReflTransGen Step

theorem path_invariant {Step : σ → σ → Prop} {P : σ → Prop}
    (hstep : ∀ s t, Step s t → P s → P t) {s t : σ} (h : Path Step s t) (hs : P s) : P t := by
  induction h with
  | refl => exact hs
  | tail _ hbc ih => exact hstep _ _ hbc ih

end HandLab.Lib
