import Mathlib.Data.List.Infix
import Mathlib.Data.List.TakeWhile

/-!
# Histories

A history is the list of the events so far, **newest first**, so that what
happened before an event is the tail after it.

* `Always P h`: `P` held at every moment of `h`.
* `Whenever Q h`: every event of `h` stands in the relation `Q` to its past.
* `since p h`: the events after the last one that satisfies `p`.
* `latest f h`: the newest value `f` reads off an event of `h`.
* `Outstanding raises answers h`: some event raised what no event since has answered.
-/

namespace HandLab.Lib

variable {ε β : Type*}

/-- `P` held after every event of the history, and before the first. -/
def Always (P : List ε → Prop) (h : List ε) : Prop := ∀ past, past <:+ h → P past

variable {P : List ε → Prop}

@[simp] theorem always_nil : Always P [] ↔ P [] := by
  simp [Always]

variable {e : ε} {h : List ε}

theorem always_cons :
    Always P (e :: h) ↔ P (e :: h) ∧ Always P h := by
  simp [Always, List.suffix_cons_iff, or_imp, forall_and]

theorem Always.now (ha : Always P h) : P h :=
  ha h (List.suffix_refl h)

/-- Every event stands in the relation `Q` to the events before it. -/
def Whenever (Q : ε → List ε → Prop) (h : List ε) : Prop := ∀ e past, (e :: past) <:+ h → Q e past

variable {Q : ε → List ε → Prop}

@[simp] theorem whenever_nil : Whenever Q [] := by
  simp [Whenever]

theorem whenever_cons :
    Whenever Q (e :: h) ↔ Q e h ∧ Whenever Q h := by
  simp only [Whenever, List.suffix_cons_iff, List.cons.injEq]
  constructor
  · exact fun H => ⟨H e h (.inl ⟨rfl, rfl⟩), fun e' t ht => H e' t (.inr ht)⟩
  · rintro ⟨h1, h2⟩ e' t (⟨rfl, rfl⟩ | ht)
    · exact h1
    · exact h2 e' t ht

instance decidableWhenever {Q : ε → List ε → Prop} [∀ e past, Decidable (Q e past)] :
    (h : List ε) → Decidable (Whenever Q h)
  | [] => isTrue whenever_nil
  | _ :: h =>
    have : Decidable (Whenever Q h) := decidableWhenever h
    decidable_of_iff' _ whenever_cons

theorem Whenever.of_suffix {h past : List ε} (hQ : Whenever Q h)
    (hs : past <:+ h) : Whenever Q past :=
  fun e t ht => hQ e t (ht.trans hs)

/-- A property of histories that an event changes only if `Q` fails. -/
theorem always_iff_whenever (hnil : P [])
    (hcons : ∀ e h, P h → (P (e :: h) ↔ Q e h)) : Always P h ↔ Whenever Q h := by
  induction h with
  | nil => simp [hnil]
  | cons e h ih =>
    rw [always_cons, whenever_cons, ih]
    constructor
    · exact fun ⟨hP, hQ⟩ => ⟨(hcons e h (ih.mpr hQ).now).mp hP, hQ⟩
    · exact fun ⟨hq, hQ⟩ => ⟨(hcons e h (ih.mpr hQ).now).mpr hq, hQ⟩

/-! ## The events since a landmark -/

/-- The events after the last one that satisfies `p`; all of them if none does. -/
def since (p : ε → Bool) (h : List ε) : List ε := h.takeWhile fun e => !p e

@[simp] theorem since_nil (p : ε → Bool) : since p [] = [] := rfl

theorem since_cons_of_pos {p : ε → Bool} (he : p e = true) (h : List ε) :
    since p (e :: h) = [] := by
  simp [since, he]

theorem since_cons_of_neg {p : ε → Bool} (he : p e = false) (h : List ε) :
    since p (e :: h) = e :: since p h := by
  simp [since, he]

/-- The newest value that `f` reads off an event. -/
def latest (f : ε → Option β) (h : List ε) : Option β := h.findSome? f

@[simp] theorem latest_nil (f : ε → Option β) : latest f [] = none := rfl

theorem latest_cons_of_none {f : ε → Option β} (he : f e = none) (h : List ε) :
    latest f (e :: h) = latest f h := by
  simp [latest, he]

theorem latest_cons_of_some {f : ε → Option β} {b : β} (he : f e = some b)
    (h : List ε) : latest f (e :: h) = some b := by
  simp [latest, he]

/-! ## What is outstanding -/

/-- Some event of the history `raises` a matter, and neither it nor a later event
    `answers`. -/
def Outstanding (raises : ε → List ε → Prop) (answers : ε → Prop) : List ε → Prop
  | [] => False
  | e :: past => ¬answers e ∧ (raises e past ∨ Outstanding raises answers past)

section Outstanding

variable {raises : ε → List ε → Prop} {answers : ε → Prop}

theorem outstanding_iff {h : List ε} : Outstanding raises answers h ↔
    ∃ after e past, h = after ++ e :: past ∧ raises e past ∧ ∀ d ∈ after ++ [e], ¬answers d := by
  induction h with
  | nil => simp [Outstanding]
  | cons e h ih =>
    rw [Outstanding, ih]
    constructor
    · rintro ⟨hanswers, hraises | ⟨after, d, past, rfl, hraises, hnone⟩⟩
      · exact ⟨[], e, h, rfl, hraises, by simpa using hanswers⟩
      · exact ⟨e :: after, d, past, rfl, hraises, by simpa [hanswers] using hnone⟩
    · rintro ⟨after, d, past, heq, hraises, hnone⟩
      cases after with
      | nil =>
        obtain ⟨rfl, rfl⟩ := List.cons.inj heq
        exact ⟨hnone e (by simp), .inl hraises⟩
      | cons f after =>
        obtain ⟨rfl, rfl⟩ := List.cons.inj heq
        exact ⟨hnone e (by simp), .inr ⟨after, d, past, rfl, hraises,
          fun c hc => hnone c (List.mem_cons_of_mem e hc)⟩⟩

/-- **What is never outstanding is always answered in between.** -/
theorem answered_between {h : List ε} {asks : ε → Prop}
    (hw : Whenever (fun e past => asks e → ¬Outstanding raises answers (e :: past)) h)
    (hdisjoint : ∀ e, asks e → ¬answers e) {recent older newer between : List ε} {d a : ε}
    (hd : h = recent ++ d :: older) (hraises : raises d older)
    (ha : recent ++ [d] = newer ++ a :: between) (hasks : asks a) :
    ∃ e ∈ between, answers e := by
  by_contra hnone
  push Not at hnone
  have hsplit : h = newer ++ (a :: (between ++ older)) := by
    rw [hd, ← List.cons_append, ← List.append_assoc, ← ha]
    simp
  refine hw a (between ++ older) (hsplit ▸ List.suffix_append _ _) hasks (outstanding_iff.mpr ?_)
  -- `d` ends the stretch from `a` on
  obtain ⟨after, hafter⟩ : ∃ after, a :: between = after ++ [d] := by
    have hlast : (a :: between).getLast? = some d := by
      have := congrArg List.getLast? ha
      simpa using this.symm
    exact ⟨_, (List.dropLast_append_getLast? d hlast).symm⟩
  refine ⟨after, d, older, ?_, hraises, ?_⟩
  · rw [← List.cons_append, hafter]
    simp
  · intro e he
    rw [← hafter] at he
    rcases List.mem_cons.mp he with rfl | he
    · exact hdisjoint e hasks
    · exact hnone e he

end Outstanding

end HandLab.Lib
