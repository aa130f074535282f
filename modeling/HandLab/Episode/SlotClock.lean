import HandLab.Episode.Timeline
import Mathlib.Data.List.Chain
import Mathlib.Tactic.Ring

/-!
# The slots of the canonical clock

`CanonicalClock` (`src/episode_dataset/timeline.py`, lines 96–151) with all its counters, for
every frame rate: from 2·10⁹ on the period is zero, and a call of `due` that is not before the
next slot raises after it has advanced the counters.

* `clock_on_slots`: what any sequence of calls of `due` emits.
-/

namespace HandLab.Episode.SlotClock

open HandLab.Lib

/-- `CanonicalClock`. -/
structure Clock where
  periodNs : ℤ
  startNs : Option ℤ := none
  nextNs : Option ℤ := none
  frameIndex : ℤ := 0
  nominalSlotIndex : ℤ := 0
  lastNominalSlotIndex : ℤ := 0
  lastMissedSlotsBefore : ℤ := 0
  lastMissedSlotsAfter : ℤ := 0
  missedSlotsBeforeNext : ℤ := 0
  totalMissedSlots : ℤ := 0

/-- What `due` returns or raises. -/
inductive Due
  /-- `RuntimeError("canonical clock has not started")` -/
  | notStarted
  | waiting
  | frame (index timestampNs : ℤ)
  /-- the `ZeroDivisionError` of a zero period -/
  | zeroDivision
  deriving DecidableEq

namespace Clock

/-- `CanonicalClock.__init__` with a positive rate. -/
def ofFps (fps : ℕ) : Clock where
  periodNs := roundDiv 1000000000 fps

variable (clock : Clock)

/-- `start`; `none` where it raises. It returns frame 0 with the timestamp. -/
def start (timestampNs : ℤ) : Option Clock :=
  if clock.startNs.isSome then none
  else some { clock with
    startNs := some timestampNs
    nextNs := some (timestampNs + clock.periodNs)
    frameIndex := 1
    nominalSlotIndex := 1
    lastNominalSlotIndex := 0
    lastMissedSlotsBefore := 0
    lastMissedSlotsAfter := 0
    missedSlotsBeforeNext := 0
    totalMissedSlots := 0 }

/-- The assignments of `due` before the test for missed slots. -/
def advance (nextNs : ℤ) : Clock :=
  { clock with
    lastNominalSlotIndex := clock.nominalSlotIndex
    lastMissedSlotsBefore := clock.missedSlotsBeforeNext
    lastMissedSlotsAfter := 0
    missedSlotsBeforeNext := 0
    frameIndex := clock.frameIndex + 1
    nominalSlotIndex := clock.nominalSlotIndex + 1
    nextNs := some (nextNs + clock.periodNs) }

/-- The assignments of `due` for missed slots. -/
def skip (nextNs missed : ℤ) : Clock :=
  { clock with
    nextNs := some (nextNs + missed * clock.periodNs)
    nominalSlotIndex := clock.nominalSlotIndex + missed
    missedSlotsBeforeNext := missed
    lastMissedSlotsAfter := missed
    totalMissedSlots := clock.totalMissedSlots + missed }

/-- `due`. -/
def due (nowNs : ℤ) : Due × Clock :=
  match clock.nextNs with
  | none => (.notStarted, clock)
  | some nextNs =>
    if nowNs < nextNs then (.waiting, clock)
    else
      let following := nextNs + clock.periodNs
      if nowNs < following then (.frame clock.frameIndex nextNs, clock.advance nextNs)
      else if clock.periodNs = 0 then (.zeroDivision, clock.advance nextNs)
      else
        (.frame clock.frameIndex nextNs,
          (clock.advance nextNs).skip following ((nowNs - following) / clock.periodNs + 1))

/-! ## One call -/

variable {clock}

@[simp] theorem due_periodNs {nowNs : ℤ} : (clock.due nowNs).2.periodNs = clock.periodNs := by
  unfold due
  split
  · rfl
  · dsimp only
    split_ifs <;> rfl

/-- The counters of a clock that was started at `startNs`. -/
structure OnSlots (startNs : ℤ) (clock : Clock) : Prop where
  next : clock.nextNs = some (startNs + clock.nominalSlotIndex * clock.periodNs)
  last : clock.lastNominalSlotIndex < clock.nominalSlotIndex
  missed : clock.missedSlotsBeforeNext = clock.lastMissedSlotsAfter
  total : clock.totalMissedSlots = clock.nominalSlotIndex - clock.frameIndex

theorem start_onSlots {startNs : ℤ} {after : Clock} (h : clock.start startNs = some after) :
    OnSlots startNs after ∧ after.periodNs = clock.periodNs ∧ after.frameIndex = 1 := by
  unfold start at h
  split_ifs at h
  obtain rfl := Option.some.inj h
  refine ⟨⟨?_, Int.zero_lt_one, rfl, (Int.sub_self 1).symm⟩, rfl, rfl⟩
  show some (startNs + clock.periodNs) = some (startNs + 1 * clock.periodNs)
  rw [one_mul]

theorem start_fresh (h : clock.startNs = none) (startNs : ℤ) :
    ∃ started, clock.start startNs = some started ∧ started.lastNominalSlotIndex = 0 := by
  unfold start
  rw [h]
  exact ⟨_, rfl, rfl⟩

/-- What an emission says: the slot of the timestamp, its frame index, and the slots missed
    around it. -/
structure Emits (startNs nowNs index timestampNs : ℤ) (clock after : Clock) : Prop where
  slots : OnSlots startNs after
  period : after.periodNs = clock.periodNs
  timestamp : timestampNs = startNs + after.lastNominalSlotIndex * after.periodNs
  causal : timestampNs ≤ nowNs
  noBurst : ∃ next, after.nextNs = some next ∧ nowNs < next
  slot : clock.lastNominalSlotIndex < after.lastNominalSlotIndex
  missedBefore : after.lastMissedSlotsBefore = clock.lastMissedSlotsAfter
  index : index = clock.frameIndex
  frame : after.frameIndex = clock.frameIndex + 1

theorem OnSlots.emits {startNs nowNs nextNs missed : ℤ} {after : Clock}
    (h : OnSlots startNs clock) (hnext : clock.nextNs = some nextNs) (hnow : nextNs ≤ nowNs)
    (hmissed : 0 ≤ missed) (hafter : nowNs < nextNs + clock.periodNs + missed * clock.periodNs)
    (heq : after = (clock.advance nextNs).skip (nextNs + clock.periodNs) missed) :
    Emits startNs nowNs clock.frameIndex nextNs clock after := by
  obtain rfl : nextNs = startNs + clock.nominalSlotIndex * clock.periodNs :=
    Option.some.inj (hnext.symm.trans h.next)
  have htotal := h.total
  subst heq
  refine ⟨⟨?_, ?_, rfl, ?_⟩, rfl, rfl, hnow, ⟨_, rfl, hafter⟩, h.last, h.missed, rfl, rfl⟩
  · simp only [skip, advance, Option.some.injEq]
    ring
  · show clock.nominalSlotIndex < clock.nominalSlotIndex + 1 + missed
    omega
  · show clock.totalMissedSlots + missed =
      clock.nominalSlotIndex + 1 + missed - (clock.frameIndex + 1)
    omega

/-- **One call of `due`** with a positive period: it waits or emits. -/
theorem OnSlots.due {startNs : ℤ} (h : OnSlots startNs clock) (hperiod : 0 < clock.periodNs)
    (nowNs : ℤ) :
    (clock.due nowNs).1 = .waiting ∧ (clock.due nowNs).2 = clock ∨
      ∃ index timestampNs, (clock.due nowNs).1 = .frame index timestampNs ∧
        Emits startNs nowNs index timestampNs clock (clock.due nowNs).2 := by
  unfold Clock.due
  rw [h.next]
  dsimp only
  set nextNs := startNs + clock.nominalSlotIndex * clock.periodNs with hnext
  by_cases hwait : nowNs < nextNs
  · left
    simp [hwait]
  right
  by_cases hfollowing : nowNs < nextNs + clock.periodNs
  · refine ⟨_, _, by rw [if_neg hwait, if_pos hfollowing], ?_⟩
    rw [if_neg hwait, if_pos hfollowing]
    refine h.emits h.next (not_lt.mp hwait) le_rfl (by omega) ?_
    simp [skip, advance, hnext]
  · rw [if_neg hwait, if_neg hfollowing, if_neg hperiod.ne']
    refine ⟨_, _, rfl, h.emits h.next (not_lt.mp hwait) ?_ ?_ rfl⟩
    · have := Int.ediv_nonneg (a := nowNs - (nextNs + clock.periodNs)) (by omega) hperiod.le
      omega
    · have hlt := Int.lt_ediv_add_one_mul_self (nowNs - (nextNs + clock.periodNs)) hperiod
      omega

/-- One call of `due` with a zero period: it waits, or raises after it has counted a frame. -/
theorem OnSlots.due_zero {startNs : ℤ} (h : OnSlots startNs clock) (hperiod : clock.periodNs = 0)
    (nowNs : ℤ) :
    OnSlots startNs (clock.due nowNs).2 ∧
      ((clock.due nowNs).1 = .waiting ∨ (clock.due nowNs).1 = .zeroDivision) := by
  have htotal := h.total
  unfold Clock.due
  rw [h.next]
  dsimp only
  rw [hperiod, mul_zero, add_zero, add_zero]
  by_cases hwait : nowNs < startNs
  · simp [hwait, h]
  · rw [if_neg hwait, if_neg hwait, if_pos rfl]
    refine ⟨⟨?_, lt_add_one _, rfl, ?_⟩, .inr rfl⟩
    · simp [advance, hperiod]
    · show clock.totalMissedSlots = clock.nominalSlotIndex + 1 - (clock.frameIndex + 1)
      omega

end Clock

/-! ## Runs -/

/-- A frame that `due` has emitted, with the clock after the call. -/
structure Emission where
  nowNs : ℤ
  index : ℤ
  timestampNs : ℤ
  clock : Clock

/-- A clock with the frames that it has emitted. -/
structure Session where
  clock : Clock
  emissions : List Emission := []

/-- A call of `due`. -/
def Session.call (s : Session) (nowNs : ℤ) : Session :=
  match s.clock.due nowNs with
  | (.frame index timestampNs, clock) =>
    ⟨clock, s.emissions ++ [⟨nowNs, index, timestampNs, clock⟩]⟩
  | (_, clock) => ⟨clock, s.emissions⟩

/-- The clocks after `start` and after every emission. -/
def Session.clocks (started : Clock) (s : Session) : List Clock :=
  started :: s.emissions.map Emission.clock

/-- From one emission to the next: a later slot, and the slots missed in between. -/
def Follows (before after : Clock) : Prop :=
  before.lastNominalSlotIndex < after.lastNominalSlotIndex ∧
    after.lastMissedSlotsBefore = before.lastMissedSlotsAfter

/-- A frame on its slot, emitted in time and without a burst behind it. -/
def Emission.OnSlot (startNs periodNs : ℤ) (e : Emission) : Prop :=
  e.timestampNs = startNs + e.clock.lastNominalSlotIndex * periodNs ∧ e.timestampNs ≤ e.nowNs ∧
    ∃ next, e.clock.nextNs = some next ∧ e.nowNs < next

/-- What holds of a clock that was started and asked. -/
structure Session.Steady (started : Clock) (startNs : ℤ) (s : Session) : Prop where
  slots : s.clock.OnSlots startNs
  period : s.clock.periodNs = started.periodNs
  emissions : ∀ e ∈ s.emissions, e.OnSlot startNs started.periodNs
  indices : s.emissions.map Emission.index =
    (List.range s.emissions.length).map fun i : ℕ => (i : ℤ) + 1
  follows : (s.clocks started).IsChain Follows
  last : 0 < started.periodNs → (s.clocks started).getLast? = some s.clock
  frames : 0 < started.periodNs → s.clock.frameIndex = s.emissions.length + 1

theorem Session.Steady.call {started : Clock} {startNs : ℤ} {s : Session}
    (h : s.Steady started startNs) (hperiod : 0 ≤ started.periodNs) (nowNs : ℤ) :
    (s.call nowNs).Steady started startNs := by
  rcases hperiod.eq_or_lt with hzero | hpos
  · obtain ⟨hslots, hresult⟩ := h.slots.due_zero (h.period.trans hzero.symm) nowNs
    have hcall : s.call nowNs = ⟨(s.clock.due nowNs).2, s.emissions⟩ := by
      unfold Session.call
      generalize s.clock.due nowNs = answer at hresult
      obtain ⟨result, clock⟩ := answer
      rcases hresult with rfl | rfl <;> rfl
    rw [hcall]
    refine ⟨hslots, ?_, h.emissions, h.indices, h.follows, ?_, ?_⟩
    · exact Clock.due_periodNs.trans h.period
    · exact fun hlt => absurd hlt (by omega)
    · exact fun hlt => absurd hlt (by omega)
  have hdue := h.slots.due (hpos.trans_eq h.period.symm) nowNs
  unfold Session.call
  generalize s.clock.due nowNs = answer at hdue
  obtain ⟨result, clock⟩ := answer
  rcases hdue with ⟨rfl, rfl⟩ | ⟨index, timestampNs, rfl, hemits⟩
  · exact h
  · have hemits : Clock.Emits startNs nowNs index timestampNs s.clock clock := hemits
    obtain ⟨hslots, hsame, htimestamp, hcausal, hburst, hslot, hmissed, hindex, hframe⟩ := hemits
    have hperiod' : clock.periodNs = started.periodNs := hsame.trans h.period
    have hframes := h.frames hpos
    refine ⟨hslots, hperiod', ?_, ?_, ?_, ?_, ?_⟩
    · intro e he
      rcases List.mem_append.mp he with he | he
      · exact h.emissions e he
      · obtain rfl := List.mem_singleton.mp he
        exact ⟨hperiod' ▸ htimestamp, hcausal, hburst⟩
    · simp only [List.map_append, h.indices, List.length_append, List.length_singleton,
        List.range_succ, List.map_cons, List.map_nil]
      rw [hindex, hframes]
    · show (started :: (s.emissions ++ [_]).map Emission.clock).IsChain Follows
      rw [List.map_append, ← List.cons_append, List.isChain_append]
      refine ⟨h.follows, .singleton _, fun before hbefore after hafter => ?_⟩
      obtain rfl := Option.some.inj ((h.last hpos).symm.trans hbefore)
      obtain rfl : clock = after := by simpa using hafter
      exact ⟨hslot, hmissed⟩
    · intro _
      show (started :: (s.emissions ++ [_]).map Emission.clock).getLast? = _
      rw [List.map_append, ← List.cons_append, List.getLast?_append]
      rfl
    · intro _
      simp only [List.length_append, List.length_singleton]
      omega

/-- **The clock never drifts or bursts.** A clock of any rate that was started and then asked
    at any times emits the frames `1, 2, …` after the frame `0` of `start`, each on a later slot
    of the grid and none before its time, and accounts for the slots that it misses. -/
theorem clock_on_slots (fps : ℕ) (startNs : ℤ) (nows : List ℤ) :
    ∃ started, (Clock.ofFps fps).start startNs = some started ∧
      let s := run Session.call ⟨started, []⟩ nows
      (s.emissions.map Emission.index =
        (List.range s.emissions.length).map fun i : ℕ => (i : ℤ) + 1) ∧
      (∀ e ∈ s.emissions, e.OnSlot startNs (roundDiv 1000000000 fps)) ∧
      (s.clocks started).IsChain Follows ∧ started.lastNominalSlotIndex = 0 ∧
      s.clock.totalMissedSlots = s.clock.nominalSlotIndex - s.clock.frameIndex := by
  have hfresh : (Clock.ofFps fps).startNs = none := rfl
  obtain ⟨started, hstarted, hfirst⟩ := Clock.start_fresh hfresh startNs
  obtain ⟨hslots, hperiod, hframe⟩ := Clock.start_onSlots hstarted
  have hinit : Session.Steady started startNs ⟨started, []⟩ :=
    ⟨hslots, rfl, fun _ he => absurd he List.not_mem_nil, rfl, .singleton _, fun _ => rfl,
      fun _ => hframe⟩
  have hnonneg : 0 ≤ started.periodNs := by
    rw [hperiod]
    exact Int.natCast_nonneg _
  have hsteady : Session.Steady started startNs (run Session.call ⟨started, []⟩ nows) :=
    run_invariant (fun s nowNs h => h.call hnonneg nowNs) hinit nows
  have hemissions := hsteady.emissions
  rw [hperiod] at hemissions
  exact ⟨started, hstarted, hsteady.indices, hemissions, hsteady.follows, hfirst,
    hsteady.slots.total⟩

end HandLab.Episode.SlotClock
