import HandLab.Lib.Run
import Mathlib.Data.List.Basic
import Mathlib.Algebra.Order.Ring.Int

/-!
# Timelines and the canonical clock

`CausalTimeline` and `CanonicalClock` (`src/episode_dataset/timeline.py`). A timeline
carries the order of its timestamps, a clock the positive length of its period; the
period of the source is positive for every rate below 2·10⁹.

* `CausalTimeline.latestMatching?_eq_some`, `CausalTimeline.fresh?_eq_some`: what a
  selection is.
* `CausalTimeline.append_eq_some`: what an append keeps.
* `CausalTimeline.latestMatching?_run`: what is selected after any appends.
* `CanonicalClock.due_onGrid`: what a clock does when it is asked.
-/

namespace HandLab.Episode

/-! ## Timelines -/

/-- `deque(maxlen=capacity).append`. -/
def pushBounded {τ : Type} (capacity : ℕ) (items : List τ) (item : τ) : List τ :=
  (items ++ [item]).drop (items.length + 1 - capacity)

theorem pushBounded_suffix {τ : Type} (capacity : ℕ) (items : List τ) (item : τ) :
    pushBounded capacity items item <:+ items ++ [item] :=
  List.drop_suffix _ _

theorem mem_pushBounded {τ : Type} {capacity : ℕ} {items : List τ} {item x : τ}
    (h : x ∈ pushBounded capacity items item) : x ∈ items ∨ x = item := by
  have := (pushBounded_suffix capacity items item).subset h
  simpa using this

/-- `CausalTimeline`. -/
structure CausalTimeline (τ : Type) where
  maxAgeNs : ℤ
  capacity : ℕ := 4096
  items : List (ℤ × τ) := []
  /-- no timestamp is before the one of an earlier item -/
  ordered : items.Pairwise (fun a b => a.1 ≤ b.1) := by exact List.Pairwise.nil

/-- `SourceSelection`. -/
structure SourceSelection (τ : Type) where
  value : Option τ
  sourceTimestampNs : Option ℤ
  signedOffsetNs : Option ℤ
  valid : Bool
  stale : Bool
  reason : Option String

/-- The value of a valid selection. -/
def SourceSelection.fresh? {τ : Type} (selection : SourceSelection τ) : Option τ :=
  if selection.valid then selection.value else none

namespace CausalTimeline

variable {τ : Type} (timeline : CausalTimeline τ)

/-- `append`; `none` where it raises `TimestampRegression`. -/
def append (timestampNs : ℤ) (value : τ) : Option (CausalTimeline τ) :=
  if h : ∀ last ∈ timeline.items.getLast?, last.1 ≤ timestampNs then
    some { timeline with
      items := pushBounded timeline.capacity timeline.items (timestampNs, value)
      ordered := by
        refine List.Pairwise.sublist (pushBounded_suffix _ _ _).sublist ?_
        refine List.pairwise_append.mpr ⟨timeline.ordered, List.pairwise_singleton _ _, ?_⟩
        intro a ha b hb
        obtain rfl := List.mem_singleton.mp hb
        obtain ⟨last, hlast⟩ : ∃ last, timeline.items.getLast? = some last :=
          ⟨_, List.getLast?_eq_getLast_of_ne_nil (List.ne_nil_of_mem ha)⟩
        have hle : last.1 ≤ timestampNs := h last hlast
        obtain ⟨pre, hpre⟩ := List.getLast?_eq_some_iff.mp hlast
        have hordered := timeline.ordered
        rw [hpre, List.pairwise_append] at hordered
        rw [hpre] at ha
        rcases List.mem_append.mp ha with ha | ha
        · exact (hordered.2.2 a ha last (List.mem_singleton_self _)).trans hle
        · rw [List.mem_singleton.mp ha]
          exact hle }
  else none

/-- `latest_matching_at_or_before`: the last item of the deque that qualifies. -/
def latestMatching? (canonicalTimestampNs : ℤ) (predicate : τ → Bool) : Option (ℤ × τ) :=
  timeline.items.reverse.find? fun item =>
    decide (item.1 ≤ canonicalTimestampNs) && predicate item.2

/-- `latest_matching_at_or_before`. -/
def latestMatchingAtOrBefore (canonicalTimestampNs : ℤ) (predicate : τ → Bool) :
    SourceSelection τ :=
  match timeline.latestMatching? canonicalTimestampNs predicate with
  | none => ⟨none, none, none, false, false, some "no_causal_sample"⟩
  | some (timestampNs, value) =>
    let offsetNs := timestampNs - canonicalTimestampNs
    let stale := decide (timeline.maxAgeNs < -offsetNs)
    ⟨some value, some timestampNs, some offsetNs, !stale, stale,
      if stale then some "source_sample_stale" else none⟩

/-- `latest_at_or_before`. -/
def latestAtOrBefore (canonicalTimestampNs : ℤ) : SourceSelection τ :=
  timeline.latestMatchingAtOrBefore canonicalTimestampNs fun _ => true

/-- The text of `TimestampRegression`. -/
def regressionText (timestampNs : ℤ) : String :=
  let last := (timeline.items.getLast?.map Prod.fst).getD 0
  s!"source timestamp regressed from {last} to {timestampNs}"

variable {timeline}

/-- The items behind the selected one do not qualify. -/
theorem latestMatching?_eq_some {t : ℤ} {predicate : τ → Bool} {item : ℤ × τ}
    (h : timeline.latestMatching? t predicate = some item) :
    item.1 ≤ t ∧ predicate item.2 = true ∧ ∃ before after,
      timeline.items = before ++ item :: after ∧
        ∀ later ∈ after, later.1 ≤ t → predicate later.2 = false := by
  unfold latestMatching? at h
  obtain ⟨hitem, pre, post, hsplit, hpre⟩ := List.find?_eq_some_iff_append.mp h
  obtain ⟨hle, hpredicate⟩ := Bool.and_eq_true_iff.mp hitem
  refine ⟨of_decide_eq_true hle, hpredicate, post.reverse, pre.reverse, ?_, ?_⟩
  · rw [← List.reverse_reverse timeline.items, hsplit]
    simp
  · intro later hlater hle
    have := hpre later (List.mem_reverse.mp hlater)
    simpa [hle] using this

/-- **A fresh selection** is the last qualifying item, and not older than allowed. -/
theorem fresh?_eq_some {t : ℤ} {predicate : τ → Bool} {value : τ}
    (h : (timeline.latestMatchingAtOrBefore t predicate).fresh? = some value) :
    ∃ timestampNs, timeline.latestMatching? t predicate = some (timestampNs, value) ∧
      t - timestampNs ≤ timeline.maxAgeNs ∧
      (timeline.latestMatchingAtOrBefore t predicate).signedOffsetNs = some (timestampNs - t) := by
  unfold latestMatchingAtOrBefore SourceSelection.fresh? at *
  cases hfound : timeline.latestMatching? t predicate with
  | none => simp [hfound] at h
  | some item =>
    obtain ⟨timestampNs, selected⟩ := item
    simp only [hfound] at h ⊢
    split at h
    · rename_i hvalid
      obtain rfl := Option.some.inj h
      refine ⟨timestampNs, rfl, ?_, rfl⟩
      have hfresh : ¬timeline.maxAgeNs < -(timestampNs - t) := by simpa using hvalid
      omega
    · exact nomatch h

theorem append_eq_some {timestampNs : ℤ} {value : τ} {after : CausalTimeline τ}
    (h : timeline.append timestampNs value = some after) :
    after.items = pushBounded timeline.capacity timeline.items (timestampNs, value) ∧
      after.maxAgeNs = timeline.maxAgeNs ∧ after.capacity = timeline.capacity := by
  unfold append at h
  split at h
  · obtain rfl := Option.some.inj h
    exact ⟨rfl, rfl, rfl⟩
  · exact nomatch h

open HandLab.Lib

/-- One call of `append`, with the items it has accepted. -/
def record (s : CausalTimeline τ × List (ℤ × τ)) (item : ℤ × τ) :
    CausalTimeline τ × List (ℤ × τ) :=
  match s.1.append item.1 item.2 with
  | none => s
  | some after => (after, s.2 ++ [item])

/-- The newest of the accepted items are retained. -/
def Retains (capacity : ℕ) (s : CausalTimeline τ × List (ℤ × τ)) : Prop :=
  s.1.capacity = capacity ∧ s.1.items = s.2.drop (s.2.length - capacity)

theorem Retains.record {capacity : ℕ} {s : CausalTimeline τ × List (ℤ × τ)}
    (h : Retains capacity s) (item : ℤ × τ) : Retains capacity (record s item) := by
  unfold CausalTimeline.record
  split
  · exact h
  · rename_i after hafter
    obtain ⟨hitems, -, hcapacity⟩ := append_eq_some hafter
    refine ⟨hcapacity.trans h.1, hitems.trans ?_⟩
    rw [pushBounded, h.1, h.2, ← List.drop_append_of_le_length (Nat.sub_le _ _), List.drop_drop]
    simp
    omega

/-- **Selection in a run.** Of all accepted items the last that qualifies is selected, if
    fewer than `capacity` were accepted behind it. -/
theorem latestMatching?_run (maxAgeNs : ℤ) (capacity : ℕ) (entries : List (ℤ × τ)) (t : ℤ)
    (predicate : τ → Bool) (item : ℤ × τ) :
    let s := run record ({ maxAgeNs, capacity }, []) entries
    s.1.latestMatching? t predicate = some item ↔ item.1 ≤ t ∧ predicate item.2 = true ∧
      ∃ before after, s.2 = before ++ item :: after ∧ after.length < capacity ∧
        ∀ later ∈ after, later.1 ≤ t → predicate later.2 = false := by
  intro s
  have hretains : Retains capacity s :=
    run_invariant (P := Retains capacity) (fun _ item hs => hs.record item)
      ⟨rfl, List.drop_nil.symm⟩ entries
  constructor
  · intro h
    obtain ⟨hle, hpredicate, before, after, hsplit, hlater⟩ := latestMatching?_eq_some h
    refine ⟨hle, hpredicate, s.2.take (s.2.length - capacity) ++ before, after, ?_, ?_, hlater⟩
    · rw [List.append_assoc, ← hsplit, hretains.2, List.take_append_drop]
    · have hlength := congrArg List.length (hsplit.symm.trans hretains.2)
      simp at hlength
      omega
  · rintro ⟨hle, hpredicate, before, after, hsplit, hlength, hlater⟩
    unfold latestMatching?
    have hfront : s.2.length - capacity ≤ before.length := by
      rw [hsplit]
      simp
      omega
    rw [hretains.2, hsplit, List.drop_append_of_le_length (hsplit ▸ hfront),
      List.find?_eq_some_iff_append]
    refine ⟨by simp [hle, hpredicate], after.reverse, _, by simp; rfl, ?_⟩
    intro later hmem
    simpa [imp_iff_not_or] using hlater later (List.mem_reverse.mp hmem)

end CausalTimeline

/-! ## The clock -/

/-- `round(numerator / denominator)`: to the nearest, ties to even. -/
def roundDiv (numerator denominator : ℕ) : ℕ :=
  let q := numerator / denominator
  let r := numerator % denominator
  if 2 * r < denominator ∨ (2 * r = denominator ∧ q % 2 = 0) then q else q + 1

/-- `CanonicalClock`. -/
structure CanonicalClock where
  periodNs : ℤ
  period_pos : 0 < periodNs
  startNs : Option ℤ := none
  nextNs : Option ℤ := none
  frameIndex : ℤ := 0
  nominalSlotIndex : ℤ := 0
  lastNominalSlotIndex : ℤ := 0
  lastMissedSlotsBefore : ℤ := 0
  lastMissedSlotsAfter : ℤ := 0
  missedSlotsBeforeNext : ℤ := 0

namespace CanonicalClock

theorem roundDiv_pos {fps : ℕ} (hpos : 0 < fps) (hle : fps < 2000000000) :
    0 < roundDiv 1000000000 fps := by
  rcases Nat.eq_zero_or_pos (1000000000 / fps) with hzero | hquotient
  · have hlt : 1000000000 < fps := (Nat.div_eq_zero_iff_lt hpos).mp hzero
    have hround : ¬(2 * 1000000000 < fps ∨ 2 * 1000000000 = fps ∧ 0 % 2 = 0) := by omega
    unfold roundDiv
    dsimp only
    rw [hzero, Nat.mod_eq_of_lt hlt, if_neg hround]
    exact Nat.zero_lt_one
  · unfold roundDiv
    dsimp only
    split
    · exact hquotient
    · exact Nat.succ_pos _

/-- `CanonicalClock.__init__`. -/
def ofFps (fps : ℕ) (hpos : 0 < fps) (hle : fps < 2000000000) : CanonicalClock where
  periodNs := roundDiv 1000000000 fps
  period_pos := by exact_mod_cast roundDiv_pos hpos hle

variable (clock : CanonicalClock)

/-- `start`; `none` where it raises. -/
def start (timestampNs : ℤ) : Option CanonicalClock :=
  if clock.startNs.isSome then none
  else some { clock with
    startNs := some timestampNs
    nextNs := some (timestampNs + clock.periodNs)
    frameIndex := 1
    nominalSlotIndex := 1
    lastNominalSlotIndex := 0
    lastMissedSlotsBefore := 0
    lastMissedSlotsAfter := 0
    missedSlotsBeforeNext := 0 }

/-- What `due` returns: nothing, the frame that is due, or an exception. -/
inductive Due
  | notStarted
  | waiting
  | frame (index timestampNs : ℤ) (clock : CanonicalClock)

/-- `due`. -/
def due (nowNs : ℤ) : Due :=
  match clock.nextNs with
  | none => .notStarted
  | some nextNs =>
    if nowNs < nextNs then .waiting
    else
      let following := nextNs + clock.periodNs
      let missed := if following ≤ nowNs then (nowNs - following) / clock.periodNs + 1 else 0
      .frame clock.frameIndex nextNs { clock with
        lastNominalSlotIndex := clock.nominalSlotIndex
        lastMissedSlotsBefore := clock.missedSlotsBeforeNext
        lastMissedSlotsAfter := missed
        missedSlotsBeforeNext := missed
        frameIndex := clock.frameIndex + 1
        nominalSlotIndex := clock.nominalSlotIndex + 1 + missed
        nextNs := some (following + missed * clock.periodNs) }

/-- The clock runs on its grid. -/
structure OnGrid (startNs : ℤ) : Prop where
  start : clock.startNs = some startNs
  next : clock.nextNs = some (startNs + clock.nominalSlotIndex * clock.periodNs)
  frames : 1 ≤ clock.frameIndex ∧ clock.frameIndex ≤ clock.nominalSlotIndex
  last : clock.lastNominalSlotIndex < clock.nominalSlotIndex
  lastFrame : 0 ≤ clock.lastNominalSlotIndex

variable {clock}

variable {after : CanonicalClock}

theorem start_onGrid {timestampNs : ℤ}
    (h : clock.start timestampNs = some after) :
    after.OnGrid timestampNs ∧ after.lastNominalSlotIndex = 0 ∧
      after.periodNs = clock.periodNs ∧ clock.startNs = none := by
  unfold start at h
  split at h
  · exact nomatch h
  · rename_i hnone
    obtain rfl := Option.some.inj h
    refine ⟨⟨rfl, ?_, ?_, ?_, ?_⟩, rfl, rfl, by simpa using hnone⟩
    · show some (timestampNs + clock.periodNs) = some (timestampNs + 1 * clock.periodNs)
      rw [one_mul]
    · exact ⟨le_refl _, le_refl _⟩
    · exact zero_lt_one
    · exact le_refl _

theorem due_ne_notStarted {next nowNs : ℤ} (h : clock.nextNs = some next) :
    clock.due nowNs ≠ .notStarted := by
  unfold due
  rw [h]
  dsimp only
  split
  · exact nofun
  · exact nofun

theorem due_frame_next {nowNs index timestampNs : ℤ}
    (h : clock.due nowNs = .frame index timestampNs after) :
    ∃ next, after.nextNs = some next := by
  unfold due at h
  split at h
  · exact nomatch h
  · dsimp only at h
    split at h
    · exact nomatch h
    · obtain ⟨-, -, rfl⟩ := Due.frame.inj h
      exact ⟨_, rfl⟩

/-- **The clock advances on its grid**: a frame that is due has the time of its slot, which
    is later than those of the frames before it. -/
theorem due_onGrid {startNs nowNs index timestampNs : ℤ}
    (hgrid : clock.OnGrid startNs) (h : clock.due nowNs = .frame index timestampNs after) :
    after.OnGrid startNs ∧ timestampNs = startNs + after.lastNominalSlotIndex * clock.periodNs ∧
      timestampNs ≤ nowNs ∧ clock.lastNominalSlotIndex < after.lastNominalSlotIndex ∧
      index = clock.frameIndex ∧ 0 < index ∧ index ≤ after.lastNominalSlotIndex ∧
      after.periodNs = clock.periodNs := by
  obtain ⟨hstart, hnext, ⟨hindex, hframes⟩, hlast, hlastFrame⟩ := hgrid
  unfold due at h
  rw [hnext] at h
  dsimp only at h
  split at h
  · exact nomatch h
  rename_i hnow
  obtain ⟨rfl, rfl, rfl⟩ := Due.frame.inj h
  set next := startNs + clock.nominalSlotIndex * clock.periodNs with hnextDef
  set missed : ℤ := if next + clock.periodNs ≤ nowNs then
    (nowNs - (next + clock.periodNs)) / clock.periodNs + 1 else 0 with hmissedDef
  have hmissed : 0 ≤ missed := by
    rw [hmissedDef]
    split
    · have := Int.ediv_nonneg (a := nowNs - (next + clock.periodNs)) (b := clock.periodNs)
        (by omega) clock.period_pos.le
      omega
    · exact le_refl _
  refine ⟨⟨hstart, ?_, ⟨?_, ?_⟩, ?_, ?_⟩, rfl, by omega, hlast, rfl, by omega, hframes, rfl⟩
  · show some (next + clock.periodNs + missed * clock.periodNs) =
      some (startNs + (clock.nominalSlotIndex + 1 + missed) * clock.periodNs)
    rw [hnextDef, add_mul, add_mul, one_mul]
    congr 1
    omega
  · show 1 ≤ clock.frameIndex + 1
    omega
  · show clock.frameIndex + 1 ≤ clock.nominalSlotIndex + 1 + missed
    omega
  · show clock.nominalSlotIndex < clock.nominalSlotIndex + 1 + missed
    omega
  · show 0 ≤ clock.nominalSlotIndex
    omega

end CanonicalClock

end HandLab.Episode
