import HandLab.Act.Rollout
import Mathlib.Tactic.Linarith

/-!
# Time alignment of a rollout

The inference thread counts ticks from the epoch, the command loop counts its iterations, and
the loop sets its deadline anew after an overrun.

* `Rollout.Paced`: without an overrun the deadline of the loop is the time of its tick; behind
  one it is at least a period later.
* `time_alignment`: a command is aligned if and only if no earlier iteration overran.
* `overrun_misaligned`: a run in which one does.
-/

namespace HandLab.Act

open AbsoluteTime HandLab.Lib Double

variable {δ : Type}

/-! ## The pace of the loop -/

/-- The iteration ended before the deadline that follows its own. -/
def Command.OnTime (config : RolloutConfig δ) (c : Command δ) : Prop :=
  c.endNs < c.scheduledNs + config.commandPeriodNs

/-- The time that the inference thread gives to a tick. -/
def RolloutConfig.tickTime (config : RolloutConfig δ) (tick : ℤ) : ℤ :=
  config.commandEpochNs + tick * config.commandPeriodNs

/-- Every entry of the selection was predicted for a time that differs from the start of the
    command by less than a period and the lateness of this iteration. -/
def Command.Aligned (config : RolloutConfig δ) (c : Command δ) : Prop :=
  ∀ x ∈ c.selection.contributors,
    |config.tickTime (x.queryCommandTick + x.sourceHorizon) - c.startNs| <
      config.commandPeriodNs + (c.startNs - c.scheduledNs)

instance (config : RolloutConfig δ) (c : Command δ) : Decidable (c.OnTime config) :=
  inferInstanceAs (Decidable (_ < _))

instance (config : RolloutConfig δ) (c : Command δ) : Decidable (c.Aligned config) :=
  inferInstanceAs (Decidable (∀ x ∈ c.selection.contributors, _ < _))

/-- The deadline of a rollout that has not stopped. -/
structure Rollout.Paced (config : RolloutConfig δ) (s : Rollout δ) : Prop where
  onTime : (∀ c ∈ s.commands, c.OnTime config) → s.nextCommandNs = config.tickTime s.commandTick
  late : (∃ c ∈ s.commands, ¬c.OnTime config) →
    config.tickTime s.commandTick + config.commandPeriodNs ≤ s.nextCommandNs

theorem tickTime_succ (config : RolloutConfig δ) (tick : ℤ) :
    config.tickTime (tick + 1) = config.tickTime tick + config.commandPeriodNs := by
  unfold RolloutConfig.tickTime
  ring

section Steps

variable [PyFloat δ] {config : RolloutConfig δ} {s : Rollout δ}

/-- What is prepared carries the deadline and the clock readings of its iteration. -/
theorem prepare_command {i : Iteration δ} {command : Command δ} {ensembler : Ensembler 12 δ}
    (h : s.prepare config i = some (command, ensembler)) :
    command.tick = s.commandTick ∧ command.scheduledNs = s.nextCommandNs ∧
      command.startNs = i.startNs ∧ command.endNs = i.endNs ∧
      ∃ filled, s.fill config i = some filled ∧
        command.selection = (filled.select config.ensembler s.commandTick).1 ∧
        ensembler = (filled.select config.ensembler s.commandTick).2 ∧
        ∃ selected, policyAction config command.selection i = some selected ∧
          (config.stationaryWriteTest = false → command.rawAction = selected) ∧
          projectRh56Command config.legalMin config.legalMax command.rawAction =
            some command.action ∧ command.startupFallback = command.selection.action.isNone := by
  simp only [Rollout.prepare, Option.bind_eq_bind, Option.bind_eq_some_iff] at h
  obtain ⟨filled, hfilled, selected, hselected, rawAction, hraw, action, haction, h⟩ := h
  split at h
  · exact nomatch h
  obtain ⟨rfl, rfl⟩ := Prod.mk.inj (Option.some.inj h)
  refine ⟨rfl, rfl, rfl, rfl, filled, hfilled, rfl, rfl, selected, hselected, ?_, haction, rfl⟩
  intro hstationary
  unfold rawActionOf at hraw
  rw [hstationary] at hraw
  exact (Option.some.inj hraw).symm

/-- What an iteration does: it stops before the dispatch, or hands over a command, and then
    goes on to the next tick if nothing raises. -/
theorem iterate_cases (config : RolloutConfig δ) (s : Rollout δ) (i : Iteration δ) :
    (s.iterate config i).commands = s.commands ∧ (s.iterate config i).ensembler = s.ensembler ∧
        (s.iterate config i).stopped = true ∨
    ∃ command ensembler, s.stopped = false ∧ s.prepare config i = some (command, ensembler) ∧
      (s.iterate config i).commands = s.commands ++ [command] ∧
      (s.iterate config i).ensembler = ensembler ∧
      ((s.iterate config i).stopped = true ∨
        (s.iterate config i).commandTick = s.commandTick + 1 ∧
        (s.iterate config i).nextCommandNs =
          if s.nextCommandNs + config.commandPeriodNs ≤ i.endNs then
            i.endNs + config.commandPeriodNs
          else s.nextCommandNs + config.commandPeriodNs) := by
  unfold Rollout.iterate
  by_cases hstopped : s.stopped = true ∨ config.deadlineNs ≤ i.headNs
  · rw [if_pos hstopped]
    exact .inl ⟨rfl, rfl, rfl⟩
  rw [if_neg hstopped]
  by_cases halive : i.alive = false
  · rw [if_pos halive]
    exact .inl ⟨rfl, rfl, rfl⟩
  rw [if_neg halive]
  have hrunning : s.stopped = false := Bool.eq_false_iff.mpr fun h => hstopped (.inl h)
  cases hprepare : s.prepare config i with
  | none => exact .inl ⟨rfl, rfl, rfl⟩
  | some prepared =>
    obtain ⟨command, ensembler⟩ := prepared
    refine .inr ⟨command, ensembler, hrunning, rfl, ?_⟩
    dsimp only
    by_cases hraised : i.published = false ∨ i.completes = false
    · rw [if_pos hraised]
      exact ⟨rfl, rfl, .inl rfl⟩
    · rw [if_neg hraised]
      exact ⟨rfl, rfl, .inr ⟨rfl, rfl⟩⟩

/-- An iteration that hands a command over has prepared it. -/
theorem iterate_hands_over {i : Iteration δ} {command : Command δ}
    (h : (s.iterate config i).commands = s.commands ++ [command]) :
    s.stopped = false ∧ ∃ ensembler, s.prepare config i = some (command, ensembler) := by
  obtain ⟨hsame, -⟩ | ⟨prepared, ensembler, hrunning, hprepare, hcommands, -⟩ :=
    iterate_cases config s i
  · rw [hsame] at h
    have := congrArg List.length h
    rw [List.length_append, List.length_singleton] at this
    omega
  · rw [hcommands] at h
    obtain rfl : prepared = command := by simpa using h
    exact ⟨hrunning, ensembler, hprepare⟩

theorem fill_some {i : Iteration δ} {filled : Ensembler 12 δ} (hs : s.ensembler.Sound)
    (h : s.fill config i = some filled) :
    filled.Sound ∧ filled.lastAction = s.ensembler.lastAction ∧
      ∀ tick, ∀ point ∈ bucket tick filled.byTick, point ∈ bucket tick s.ensembler.byTick ∨
        point.prediction ∈ s.pending ∨
        i.query = some (point.prediction.queryTimestampNs, point.prediction.chunk) := by
  unfold Rollout.fill at h
  cases hmode : config.mode with
  | canonicalTemporalEnsemble =>
    rw [hmode] at h
    simp only [Option.bind_eq_bind, Option.bind_eq_some_iff] at h
    obtain ⟨answer, hanswer, hadd⟩ := h
    obtain ⟨added, hsome, rfl⟩ := Option.map_eq_some_iff.mp hadd
    obtain ⟨hsound, hlast, hpoints⟩ := hs.addPrediction_some hsome
    refine ⟨hsound, hlast, fun tick point hpoint => ?_⟩
    rcases hpoints tick point hpoint with hold | hnew
    · exact .inl hold
    · rw [hnew]
      exact .inr (.inr hanswer)
  | asyncTemporalEnsemble =>
    rw [hmode] at h
    dsimp only at h
    generalize s.ensembler = e at h hs ⊢
    generalize s.pending = waiting at h ⊢
    induction waiting generalizing e with
    | nil =>
      obtain rfl := Option.some.inj h
      exact ⟨hs, rfl, fun tick point hpoint => .inl hpoint⟩
    | cons p rest ih =>
      rw [List.foldlM_cons] at h
      obtain ⟨next, hadd, hrest⟩ := Option.bind_eq_some_iff.mp h
      obtain ⟨added, hsome, rfl⟩ := Option.map_eq_some_iff.mp hadd
      obtain ⟨hsound, hlast, hadded⟩ := hs.addPrediction_some hsome
      obtain ⟨hfilled, hkept, hpoints⟩ := ih added.2 hsound hrest
      refine ⟨hfilled, hkept.trans hlast, fun tick point hpoint => ?_⟩
      rcases hpoints tick point hpoint with hold | hnew | hquery
      · rcases hadded tick point hold with hold | hnew
        · exact .inl hold
        · rw [hnew]
          exact .inr (.inl List.mem_cons_self)
      · exact .inr (.inl (List.mem_cons_of_mem p hnew))
      · exact .inr (.inr hquery)

theorem query_same (config : RolloutConfig δ) (s : Rollout δ) (queryEndNs : ℤ)
    (chunk : List (Action δ)) :
    (s.step config (.query queryEndNs chunk)).commands = s.commands ∧
      (s.step config (.query queryEndNs chunk)).stopped = s.stopped ∧
      (s.step config (.query queryEndNs chunk)).commandTick = s.commandTick ∧
      (s.step config (.query queryEndNs chunk)).nextCommandNs = s.nextCommandNs ∧
      (s.step config (.query queryEndNs chunk)).ensembler = s.ensembler := by
  rcases s.step_query config queryEndNs chunk with hstep | hstep
  · rw [hstep]
    exact ⟨rfl, rfl, rfl, rfl, rfl⟩
  · rw [hstep]
    exact ⟨rfl, rfl, rfl, rfl, rfl⟩

/-- **The ensembler of a run** is sound. -/
theorem run_sound (config : RolloutConfig δ) (steps : List (RolloutStep δ)) :
    (run (Rollout.step config) config.initial steps).ensembler.Sound := by
  refine run_invariant (P := fun s : Rollout δ => s.ensembler.Sound) ?_ .empty steps
  intro s st hs
  cases st with
  | query queryEndNs chunk =>
    obtain ⟨-, -, -, -, hsame⟩ := query_same config s queryEndNs chunk
    exact hsame.symm ▸ hs
  | iterate i =>
    show (s.iterate config i).ensembler.Sound
    obtain ⟨-, hsame, -⟩ | ⟨command, ensembler, -, hprepare, -, hensembler, -⟩ :=
      iterate_cases config s i
    · rwa [hsame]
    · obtain ⟨-, -, -, -, filled, hfilled, -, rfl, -⟩ := prepare_command hprepare
      rw [hensembler]
      exact (fill_some hs hfilled).1.select _ _

theorem Rollout.Paced.iterate (h : s.Paced config) (i : Iteration δ)
    (hrunning : (s.iterate config i).stopped = false) : (s.iterate config i).Paced config := by
  obtain ⟨-, -, hstopped⟩ |
    ⟨command, ensembler, -, hprepare, hcommands, -, hstopped | ⟨htick, hnext⟩⟩ :=
    iterate_cases config s i
  · rw [hstopped] at hrunning
    exact nomatch hrunning
  · rw [hstopped] at hrunning
    exact nomatch hrunning
  obtain ⟨-, hscheduled, -, hend, -⟩ := prepare_command hprepare
  have hpos := config.period_pos
  have htime := tickTime_succ config s.commandTick
  have honTime : command.OnTime config ↔ ¬s.nextCommandNs + config.commandPeriodNs ≤ i.endNs := by
    unfold Command.OnTime
    rw [hscheduled, hend]
    exact not_le.symm
  constructor
  · rw [hcommands, htick, hnext]
    intro hall
    have hbefore := h.onTime fun c hc => hall c (List.mem_append_left _ hc)
    rw [if_neg (honTime.mp (hall command (by simp)))]
    omega
  · rw [hcommands, htick, hnext]
    rintro ⟨c, hc, hlate⟩
    -- the deadline was never before the time of the tick
    have hnever : config.tickTime s.commandTick ≤ s.nextCommandNs := by
      by_cases hall : ∀ c ∈ s.commands, c.OnTime config
      · exact (h.onTime hall).ge
      · have hbefore := h.late (by simpa using hall)
        omega
    split
    · omega
    · rename_i hnot
      rcases List.mem_append.mp hc with hc | hc
      · have hbefore := h.late ⟨c, hc, hlate⟩
        omega
      · rw [List.mem_singleton.mp hc] at hlate
        exact absurd (honTime.mpr hnot) hlate

/-- **The pace of a run.** -/
theorem run_paced (config : RolloutConfig δ) (steps : List (RolloutStep δ)) :
    (run (Rollout.step config) config.initial steps).stopped = false →
      (run (Rollout.step config) config.initial steps).Paced config := by
  refine run_invariant (P := fun s : Rollout δ => s.stopped = false → s.Paced config) ?_ ?_ steps
  · intro s st hs hrunning
    cases st with
    | query queryEndNs chunk =>
      obtain ⟨hcommands, hstopped, htick, hnext, -⟩ := query_same config s queryEndNs chunk
      have hpaced := hs (hstopped ▸ hrunning)
      constructor
      · rw [hcommands, htick, hnext]
        exact hpaced.onTime
      · rw [hcommands, htick, hnext]
        exact hpaced.late
    | iterate i =>
      by_cases hstopped : s.stopped = true
      · have hstays : (s.iterate config i).stopped = true := by
          unfold Rollout.iterate
          rw [if_pos (.inl hstopped)]
        have : (s.iterate config i).stopped = false := hrunning
        rw [hstays] at this
        exact nomatch this
      · exact (hs (Bool.eq_false_iff.mpr hstopped)).iterate i hrunning
  · intro _
    constructor
    · intro _
      show config.commandEpochNs = config.commandEpochNs + 0 * config.commandPeriodNs
      ring
    · rintro ⟨c, hc, -⟩
      exact absurd hc List.not_mem_nil

/-- **Time alignment**: a command from a selection that is no fallback is aligned if and only
    if every iteration before it ended before the deadline that followed its own. -/
theorem time_alignment (config : RolloutConfig δ) (steps : List (RolloutStep δ)) (i : Iteration δ)
    (command : Command δ)
    (hsleep : (run (Rollout.step config) config.initial steps).nextCommandNs ≤ i.startNs)
    (hcommand : (run (Rollout.step config) config.initial (steps ++ [.iterate i])).commands =
      (run (Rollout.step config) config.initial steps).commands ++ [command])
    (hselection : command.selection.contributors ≠ []) :
    command.Aligned config ↔
      ∀ earlier ∈ (run (Rollout.step config) config.initial steps).commands,
        earlier.OnTime config := by
  set s := run (Rollout.step config) config.initial steps with hs
  rw [run_concat, ← hs] at hcommand
  obtain ⟨hrunning, ensembler, hprepare⟩ := iterate_hands_over hcommand
  obtain ⟨-, hscheduled, hstart, -, filled, hfilled, hselected, -⟩ := prepare_command hprepare
  have hsound := (fill_some (run_sound config steps) hfilled).1
  have hpaced := run_paced config steps hrunning
  rw [← hs] at hpaced
  -- an entry stands for the tick of the command
  have htick : ∀ x ∈ command.selection.contributors,
      x.queryCommandTick + x.sourceHorizon = s.commandTick := by
    intro x hx
    rw [hselected] at hx
    obtain ⟨point, -, htick, -, hquery, hhorizon, -⟩ := hsound.mem_contributors hx
    rw [hquery, hhorizon, ← htick]
    rfl
  constructor
  · intro haligned
    by_contra hlate
    have hdelay := hpaced.late (by simpa using hlate)
    obtain ⟨x, hx⟩ := List.exists_mem_of_ne_nil _ hselection
    have hlt := haligned x hx
    rw [htick x hx, hscheduled, hstart, abs_lt] at hlt
    omega
  · intro hall x hx
    have hnext := hpaced.onTime hall
    have hpos := config.period_pos
    rw [htick x hx, hscheduled, hstart, abs_lt]
    omega

end Steps

/-! ## A run with an overrun -/

/-- An ensembler of single actions, with equal weights. -/
def plainEnsembler : EnsemblerConfig ℚ where
  chunkSize := 1
  coefficient := 0
  maxSourceHorizon := 0
  maxPredictionAgeTicks := none
  capacity := 4096
  exp := fun _ => 1
  horizon_lt := by decide

/-- A canonical rollout at 100 Hz for a second. -/
def plainRollout : RolloutConfig ℚ where
  mode := .canonicalTemporalEnsemble
  ensembler := plainEnsembler
  commandEpochNs := 0
  commandPeriodNs := 10000000
  period_pos := by decide
  deadlineNs := 1000000000
  pendingCapacity := 4096
  maxPolicyAgeMs := 250
  stationaryWriteTest := false
  jakaWritesEnabled := true
  rh56WritesEnabled := true
  writes _ := ⟨rfl, rfl⟩
  startJoints := fun _ => 0
  legalMin := 0
  legalMax := 1
  ceilQuotient elapsed period := -(-elapsed / period)

/-- An iteration with a query that ends when it starts. -/
def plainIteration (startNs endNs : ℤ) : Iteration ℚ where
  headNs := startNs
  startNs
  query := some (startNs, [fun _ => 0])
  endNs

theorem time_alignment_second : ∃ command,
    (run (Rollout.step plainRollout) plainRollout.initial
      [.iterate (plainIteration 0 4000000), .iterate (plainIteration 10000000 14000000)]).commands
        = (run (Rollout.step plainRollout) plainRollout.initial
          [.iterate (plainIteration 0 4000000)]).commands ++ [command] ∧
      command.Aligned plainRollout := by
  obtain ⟨hsame, -⟩ | ⟨command, -, -, -, hcommand, -⟩ := iterate_cases plainRollout
    (run (Rollout.step plainRollout) plainRollout.initial [.iterate (plainIteration 0 4000000)])
    (plainIteration 10000000 14000000)
  · exact absurd (congrArg List.length hsame) (by decide +kernel)
  have hmem := List.mem_append_right (run (Rollout.step plainRollout) plainRollout.initial
    [.iterate (plainIteration 0 4000000)]).commands (List.mem_singleton_self command)
  rw [← hcommand] at hmem
  have hselected : ∀ c ∈ (run (Rollout.step plainRollout) plainRollout.initial
      [.iterate (plainIteration 0 4000000), .iterate (plainIteration 10000000 14000000)]).commands,
        c.selection.contributors ≠ [] := by decide +kernel
  exact ⟨command, hcommand, (time_alignment plainRollout [.iterate (plainIteration 0 4000000)]
    (plainIteration 10000000 14000000) command (by decide +kernel) hcommand
    (hselected command hmem)).mpr (by decide +kernel)⟩

/-- Behind an iteration of 25 ms the entry for the time 10 ms is executed at 35 ms, at the very
    start that the loop has set. -/
theorem overrun_misaligned :
    ∃ command ∈ (run (Rollout.step plainRollout) plainRollout.initial
      [.iterate (plainIteration 0 25000000), .iterate (plainIteration 35000000 39000000)]).commands,
        command.selection.fallbackUsed = false ∧ command.startNs = command.scheduledNs ∧
          ¬command.Aligned plainRollout := by
  decide +kernel

end HandLab.Act
