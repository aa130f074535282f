import Mathlib.Data.List.Basic

/-!
# Machines with outputs

A step returns the next state and an output. Two states are `Alike` if no
sequence of inputs tells them apart, and a relation that the steps keep and that
gives equal outputs shows that they are (`Simulates.alike`).
-/

namespace HandLab.Lib

variable {σ ι ο : Type*} (step : σ → ι → σ × ο)

/-- The outputs of a run. -/
def outputs : σ → List ι → List ο
  | _, [] => []
  | s, i :: is => (step s i).2 :: outputs (step s i).1 is

/-- The state after a run. -/
def final (s : σ) (is : List ι) : σ := is.foldl (fun s i => (step s i).1) s

@[simp] theorem outputs_nil (s : σ) : outputs step s [] = [] := rfl

@[simp] theorem outputs_cons (s : σ) (i : ι) (is : List ι) :
    outputs step s (i :: is) = (step s i).2 :: outputs step (step s i).1 is := rfl

/-- Every sequence of inputs gives the same outputs from both states. -/
def Alike (s t : σ) : Prop := ∀ is, outputs step s is = outputs step t is

/-- Related states give equal outputs and go to related states. -/
def Simulates (R : σ → σ → Prop) : Prop :=
  ∀ s t i, R s t → (step s i).2 = (step t i).2 ∧ R (step s i).1 (step t i).1

variable {step}

/-- **Simulation rule.** -/
theorem Simulates.alike {R : σ → σ → Prop} (hR : Simulates step R) {s t : σ} (h : R s t) :
    Alike step s t := by
  intro is
  induction is generalizing s t with
  | nil => rfl
  | cons i is ih =>
    obtain ⟨houtput, hnext⟩ := hR s t i h
    rw [outputs_cons, outputs_cons, houtput, ih hnext]

end HandLab.Lib
