import HandLab.Lib.Run

/-!
# Programs with state and exceptions

`Ensures x s Q E`: run from the state `s`, the program `x` returns with `Q` or raises
with `E`. An exception keeps the state that the program left behind, as in Python.

* `bind_apply` and the others run a program step by step.
* `ensures_bind`, `ensures_tryCatch`, `ensures_get` and the others compute the weakest
  precondition of a program from those of its parts.
* `Ensures.mono`, `Ensures.and`, `Ensures.bind`: consequence, conjunction, composition.
* `Ensures.after`: what holds of the state after a program that is run for its effect.
* `Moves f r x`: what the program does to the part `f` of the state is a path of small
  steps `r`, with a rule for each way to compose programs.
-/

namespace HandLab.Lib

universe u

variable {ε σ α β : Type u}

/-- From `s`, the program returns with `Q` or raises with `E`. -/
def Ensures (x : EStateM ε σ α) (s : σ) (Q : α → σ → Prop) (E : ε → σ → Prop) : Prop :=
  match x s with
  | .ok a s' => Q a s'
  | .error e s' => E e s'

/-- The state after the program, whether it returns or raises. -/
def stateAfter (x : EStateM ε σ α) (s : σ) : σ :=
  match x s with
  | .ok _ s' => s'
  | .error _ s' => s'

/-- The exception that the program raises. -/
def raisedBy (x : EStateM ε σ α) (s : σ) : Option ε :=
  match x s with
  | .ok _ _ => none
  | .error e _ => some e

/-! ## Results -/

section Results

theorem bind_apply (x : EStateM ε σ α) (f : α → EStateM ε σ β) (s : σ) :
    (x >>= f) s = match x s with
      | .ok a s' => f a s'
      | .error e s' => .error e s' := by
  show EStateM.bind x f s = _
  unfold EStateM.bind
  cases x s <;> rfl

theorem get_apply (s : σ) : (get : EStateM ε σ σ) s = .ok s s := rfl

theorem modify_apply (f : σ → σ) (s : σ) :
    (modify f : EStateM ε σ PUnit) s = .ok ⟨⟩ (f s) := rfl

end Results

section Rules

variable {s : σ} {Q : α → σ → Prop} {R : β → σ → Prop} {E : ε → σ → Prop}

@[simp] theorem ensures_pure (a : α) : Ensures (pure a : EStateM ε σ α) s Q E ↔ Q a s := Iff.rfl

@[simp] theorem ensures_throw (e : ε) :
    Ensures (throw e : EStateM ε σ α) s Q E ↔ E e s := Iff.rfl

@[simp] theorem ensures_get {Q : σ → σ → Prop} :
    Ensures (get : EStateM ε σ σ) s Q E ↔ Q s s := Iff.rfl

@[simp] theorem ensures_modify (f : σ → σ) {Q : PUnit → σ → Prop} :
    Ensures (modify f : EStateM ε σ PUnit) s Q E ↔ Q ⟨⟩ (f s) := Iff.rfl

@[simp] theorem ensures_bind (x : EStateM ε σ α) (f : α → EStateM ε σ β) :
    Ensures (x >>= f) s R E ↔ Ensures x s (fun a s' => Ensures (f a) s' R E) E := by
  show Ensures (EStateM.bind x f) s R E ↔ _
  unfold Ensures EStateM.bind
  cases x s <;> rfl

@[simp] theorem ensures_tryCatch (x : EStateM ε σ α) (h : ε → EStateM ε σ α) :
    Ensures (tryCatch x h) s Q E ↔ Ensures x s Q fun e s' => Ensures (h e) s' Q E := by
  show Ensures (EStateM.tryCatch x h) s Q E ↔ _
  unfold Ensures EStateM.tryCatch
  cases x s <;> rfl

variable {x : EStateM ε σ α} {E' : ε → σ → Prop}

/-- **Consequence.** -/
theorem Ensures.mono {Q' : α → σ → Prop}
    (h : Ensures x s Q E) (hQ : ∀ a s', Q a s' → Q' a s') (hE : ∀ e s', E e s' → E' e s') :
    Ensures x s Q' E' := by
  unfold Ensures at h ⊢
  cases hx : x s with
  | ok a s' => rw [hx] at h; exact hQ a s' h
  | error e s' => rw [hx] at h; exact hE e s' h

/-- **Conjunction.** -/
theorem Ensures.and {Q' : α → σ → Prop}
    (h : Ensures x s Q E) (h' : Ensures x s Q' E') :
    Ensures x s (fun a s' => Q a s' ∧ Q' a s') fun e s' => E e s' ∧ E' e s' := by
  unfold Ensures at h h' ⊢
  cases hx : x s with
  | ok a s' => rw [hx] at h h'; exact ⟨h, h'⟩
  | error e s' => rw [hx] at h h'; exact ⟨h, h'⟩

theorem Ensures.of_forall (hQ : ∀ a s', Q a s') (hE : ∀ e s', E e s') :
    Ensures x s Q E := by
  unfold Ensures
  cases x s with
  | ok a s' => exact hQ a s'
  | error e s' => exact hE e s'

/-- **Composition.** -/
theorem Ensures.bind {f : α → EStateM ε σ β} (h : Ensures x s Q E)
    (hf : ∀ a s', Q a s' → Ensures (f a) s' R E) : Ensures (x >>= f) s R E :=
  (ensures_bind x f).mpr (h.mono hf fun _ _ he => he)

/-- **Handlers.** -/
theorem Ensures.tryCatch {h : ε → EStateM ε σ α}
    (hx : Ensures x s Q E') (hh : ∀ e s', E' e s' → Ensures (h e) s' Q E) :
    Ensures (MonadExcept.tryCatch x h) s Q E :=
  (ensures_tryCatch x h).mpr (hx.mono (fun _ _ hq => hq) hh)

theorem Ensures.after {P : σ → Prop}
    (h : Ensures x s (fun _ => P) fun _ => P) : P (stateAfter x s) := by
  unfold Ensures at h
  unfold stateAfter
  cases hx : x s with
  | ok a s' => rw [hx] at h; exact h
  | error e s' => rw [hx] at h; exact h

theorem Ensures.raised {e : ε} (h : Ensures x s Q E)
    (hraised : raisedBy x s = some e) : E e (stateAfter x s) := by
  unfold Ensures at h
  unfold raisedBy at hraised
  unfold stateAfter
  cases hx : x s with
  | ok a s' => rw [hx] at hraised; exact nomatch hraised
  | error e' s' =>
    rw [hx] at h hraised
    obtain rfl := Option.some.inj hraised
    exact h

end Rules

/-! ## Parts of the state -/

section Moves

variable {τ : Type*} {f : σ → τ} {r : τ → τ → Prop}

/-- From any state, the part `f` goes along small steps `r`, whether the program returns or
    raises. -/
def Moves (f : σ → τ) (r : τ → τ → Prop) (x : EStateM ε σ α) : Prop :=
  ∀ s, Ensures x s (fun _ s' => Path r (f s) (f s')) fun _ s' => Path r (f s) (f s')

theorem Moves.pure (a : α) : Moves f r (Pure.pure a : EStateM ε σ α) := fun _ => .refl

theorem Moves.throw (e : ε) : Moves f r (MonadExcept.throw e : EStateM ε σ α) := fun _ => .refl

theorem Moves.get : Moves f r (MonadState.get : EStateM ε σ σ) := fun _ => .refl

theorem Moves.modify {g : σ → σ} (h : ∀ s, f (g s) = f s) :
    Moves f r (modify g : EStateM ε σ PUnit) := by
  intro s
  rw [ensures_modify, h s]

theorem Moves.bind {x : EStateM ε σ α} {g : α → EStateM ε σ β} (hx : Moves f r x)
    (hg : ∀ a, Moves f r (g a)) : Moves f r (x >>= g) := by
  intro s
  refine (ensures_bind x g).mpr ((hx s).mono (fun a s' hpath => ?_) fun _ _ h => h)
  exact (hg a s').mono (fun _ _ h => hpath.trans h) fun _ _ h => hpath.trans h

/-- A change of another part first. -/
theorem moves_change {g : σ → σ} {x : EStateM ε σ α} (h : ∀ s, f (g s) = f s)
    (hx : Moves f r x) : Moves f r (modify g >>= fun _ => x) :=
  .bind (.modify h) fun _ => hx

theorem Moves.tryCatch {x : EStateM ε σ α} {h : ε → EStateM ε σ α} (hx : Moves f r x)
    (hh : ∀ e, Moves f r (h e)) : Moves f r (MonadExcept.tryCatch x h) := by
  intro s
  refine (ensures_tryCatch x h).mpr ((hx s).mono (fun _ _ h => h) fun e s' hpath => ?_)
  exact (hh e s').mono (fun _ _ h => hpath.trans h) fun _ _ h => hpath.trans h

theorem Moves.ite {p : Prop} [Decidable p] {x y : EStateM ε σ α} (hx : Moves f r x)
    (hy : Moves f r y) : Moves f r (if p then x else y) := by
  split
  · exact hx
  · exact hy

/-- A part that cannot move is kept. -/
theorem Moves.keeps {x : EStateM ε σ α} (h : Moves f (fun _ _ => False) x) (s : σ) :
    Ensures x s (fun _ s' => f s' = f s) fun _ s' => f s' = f s := by
  have hsame : ∀ {a b : τ}, Path (fun _ _ => False) a b → b = a := by
    intro a b hpath
    cases hpath with
    | refl => rfl
    | tail _ hstep => exact hstep.elim
  exact (h s).mono (fun _ _ hpath => hsame hpath) fun _ _ hpath => hsame hpath

end Moves

end HandLab.Lib
