import HandLab.Act.TimeAlignment

/-!
# Freshness of a rollout

The freshness gate looks at the contributors of a selection, and a selection without any
repeats the action before.

* `run_grounded`: every point stands for an action that a query of the run predicted.
* `rollout_fresh`: a command is founded on a fresh prediction, or on the measured start, if and
  only if the ensembler holds a point for its tick or has not selected anything yet.
* `repeated_action`: a run in which it repeats the action before.
-/

namespace HandLab.Act

open AbsoluteTime HandLab.Lib Double

variable {δ : Type}

/-! ## Predictions -/

/-- The answer of the model in a step: the end of the query and the chunk. -/
def RolloutStep.answer? : RolloutStep δ → Option (ℤ × List (Action δ))
  | .query queryEndNs chunk => some (queryEndNs, chunk)
  | .iterate i => i.query

/-- The answers of the model in a run. -/
def answers (steps : List (RolloutStep δ)) : List (ℤ × List (Action δ)) :=
  steps.filterMap RolloutStep.answer?

/-- The prediction is one of the answers. -/
def AbsoluteTime.Prediction.From (known : List (ℤ × List (Action δ))) (p : Prediction 12 δ) :
    Prop :=
  (p.queryTimestampNs, p.chunk) ∈ known

/-- What waits and what the ensembler holds was predicted, and the ensembler has selected an
    action once a policy action was handed over. -/
structure Rollout.Grounded (known : List (ℤ × List (Action δ))) (s : Rollout δ) : Prop where
  pending : ∀ p ∈ s.pending, p.From known
  points : ∀ tick, ∀ point ∈ bucket tick s.ensembler.byTick, point.prediction.From known
  selected : s.stopped = false → (∃ c ∈ s.commands, c.startupFallback = false) →
    s.ensembler.lastAction.isSome = true

theorem Rollout.Grounded.mono {known : List (ℤ × List (Action δ))} {s : Rollout δ}
    (h : s.Grounded known) (more : List (ℤ × List (Action δ))) : s.Grounded (known ++ more) where
  pending p hp := List.mem_append_left _ (h.pending p hp)
  points tick point hpoint := List.mem_append_left _ (h.points tick point hpoint)
  selected := h.selected

section Steps

variable [PyFloat δ] {config : RolloutConfig δ} {s : Rollout δ} {known : List (ℤ × List (Action δ))}

/-- What the ensembler takes was predicted. -/
theorem Rollout.Grounded.fill {i : Iteration δ} {filled : Ensembler 12 δ} (hs : s.Grounded known)
    (hsound : s.ensembler.Sound) (hquery : ∀ answer ∈ i.query, answer ∈ known)
    (h : s.fill config i = some filled) :
    ∀ tick, ∀ point ∈ bucket tick filled.byTick, point.prediction.From known := by
  intro tick point hpoint
  rcases (fill_some hsound h).2.2 tick point hpoint with hold | hwaiting | hanswer
  · exact hs.points tick point hold
  · exact hs.pending _ hwaiting
  · exact hquery _ hanswer

/-- What a selection leaves to later selections. -/
theorem select_points (config : EnsemblerConfig δ) (e : Ensembler 12 δ) (commandTick : ℤ) :
    (∀ tick, ∀ point ∈ bucket tick (e.select config commandTick).2.byTick,
        point ∈ bucket tick e.byTick) ∧
      ((e.select config commandTick).1.action.isSome = true →
        (e.select config commandTick).2.lastAction.isSome = true) ∧
      (e.lastAction.isSome = true →
        (e.select config commandTick).2.lastAction.isSome = true) := by
  refine ⟨fun tick point hpoint => ?_, ?_⟩
  · rw [Ensembler.bucket_select] at hpoint
    split_ifs at hpoint
    · exact absurd hpoint List.not_mem_nil
    · exact hpoint
  by_cases hnil : e.selected config commandTick = []
  · obtain ⟨haction, hlast⟩ := Ensembler.select_fallback hnil
    rw [haction, hlast]
    exact ⟨id, id⟩
  · obtain ⟨haction, hlast⟩ := Ensembler.select_action hnil
    rw [hlast, haction]
    exact ⟨id, fun _ => rfl⟩

theorem Rollout.Grounded.iterate (hs : s.Grounded known) (hsound : s.ensembler.Sound)
    (i : Iteration δ) (hquery : ∀ answer ∈ i.query, answer ∈ known) :
    (s.iterate config i).Grounded known := by
  unfold Rollout.iterate
  split
  · exact ⟨hs.pending, hs.points, nofun⟩
  split
  · exact ⟨hs.pending, hs.points, nofun⟩
  rename_i hstopped _
  have hrunning : s.stopped = false := Bool.eq_false_iff.mpr fun h => hstopped (.inl h)
  cases hprepare : s.prepare config i with
  | none => exact ⟨hs.pending, hs.points, nofun⟩
  | some prepared =>
    obtain ⟨command, ensembler⟩ := prepared
    obtain ⟨-, -, -, -, filled, hfilled, hselected, rfl, -, -, -, -, hstartup⟩ :=
      prepare_command hprepare
    obtain ⟨-, hlast, -⟩ := fill_some hsound hfilled
    obtain ⟨hremaining, hnow, hbefore⟩ :=
      select_points config.ensembler filled s.commandTick
    have hkept : ∀ tick,
        ∀ point ∈ bucket tick (filled.select config.ensembler s.commandTick).2.byTick,
          point.prediction.From known := fun tick point hpoint =>
      hs.fill hsound hquery hfilled tick point (hremaining tick point hpoint)
    dsimp only
    split
    · exact ⟨hs.pending, hkept, nofun⟩
    · refine ⟨?_, hkept, fun _ => ?_⟩
      · intro p hp
        dsimp only at hp
        cases hmode : config.mode with
        | canonicalTemporalEnsemble => rw [hmode] at hp; exact hs.pending p hp
        | asyncTemporalEnsemble => rw [hmode] at hp; exact absurd hp List.not_mem_nil
      · rintro ⟨c, hc, hpolicy⟩
        dsimp only at hc
        rcases List.mem_append.mp hc with hc | hc
        · exact hbefore (hlast ▸ hs.selected hrunning ⟨c, hc, hpolicy⟩)
        · rw [List.mem_singleton.mp hc, hstartup, hselected] at hpolicy
          exact hnow (Option.isNone_eq_false_iff.mp hpolicy)

/-- **Everything that is selected was predicted.** -/
theorem run_grounded (config : RolloutConfig δ) (steps : List (RolloutStep δ)) :
    (run (Rollout.step config) config.initial steps).Grounded (answers steps) := by
  induction steps using List.reverseRecOn with
  | nil =>
    refine ⟨fun p hp => absurd hp List.not_mem_nil,
      fun tick point hp => absurd hp List.not_mem_nil, ?_⟩
    rintro - ⟨c, hc, -⟩
    exact absurd hc List.not_mem_nil
  | append_singleton steps st ih =>
    rw [run_concat]
    have hmore : answers (steps ++ [st]) = answers steps ++ st.answer?.toList := by
      unfold answers
      rw [List.filterMap_append]
      cases h : st.answer? <;> simp [h]
    rw [hmore]
    have hs := ih.mono st.answer?.toList
    cases st with
    | query queryEndNs chunk =>
      rcases Rollout.step_query config _ queryEndNs chunk with hstep | hstep
      · rw [hstep]
        exact hs
      · rw [hstep]
        refine ⟨fun p hp => ?_, hs.points, hs.selected⟩
        rcases List.mem_append.mp hp with hp | hp
        · have hpending := hs.pending p
          split at hp
          · exact hpending hp
          · exact hpending (List.mem_of_mem_drop hp)
        · rw [List.mem_singleton.mp hp]
          exact List.mem_append_right _ (List.mem_singleton_self _)
    | iterate i =>
      refine hs.iterate (run_sound config steps) i fun answer hanswer => List.mem_append_right _ ?_
      exact Option.mem_toList.mpr hanswer

/-! ## Commands -/

/-- The contributor is a predicted action whose query ended at most the age limit before the
    start of the command. -/
def Command.FreshContributor (config : RolloutConfig δ) (known : List (ℤ × List (Action δ)))
    (c : Command δ) (x : Contributor 12 δ) : Prop :=
  lt config.maxPolicyAgeMs (ageMs c.startNs x.queryTimestampNs) = false ∧
    ∃ chunk, (x.queryTimestampNs, chunk) ∈ known ∧
      x.predictedAction = chunk.getD x.sourceHorizon fun _ => zero

/-- The command is the weighted mean of predicted actions with a fresh one among them; or,
    before any policy action, the measured start. The hand part is clipped to its range. -/
def Command.Founded (config : RolloutConfig δ) (known : List (ℤ × List (Action δ)))
    (earlier : List (Command δ)) (measured : Option (Fin 6 → δ)) (c : Command δ) : Prop :=
  c.startupFallback = false ∧
      c.action = clipHand config.legalMin config.legalMax
        (Ensembler.contributorMean c.selection.contributors) ∧
      (∃ x ∈ c.selection.contributors, c.FreshContributor config known x) ∨
    c.startupFallback = true ∧ (∀ e ∈ earlier, e.startupFallback = true) ∧
      ∃ hand, measured = some hand ∧
        c.action = clipHand config.legalMin config.legalMax (joinAction config.startJoints hand)

/-- The ensembler, with the predictions that have arrived, holds a point for the tick that is
    not too old, or has not selected an action yet. -/
def Rollout.Supplied (config : RolloutConfig δ) (s : Rollout δ) (i : Iteration δ) : Prop :=
  ∀ filled, s.fill config i = some filled →
    filled.selected config.ensembler s.commandTick ≠ [] ∨ filled.lastAction = none

/-- What passes the gate is no stale selection. -/
theorem policyAction_some {selection : Selection 12 δ} {i : Iteration δ} {action : Action δ}
    (h : policyAction config selection i = some action) :
    staleSelection config selection i.startNs = false ∧
      (selection.action = some action ∨ selection.action = none ∧
        ∃ hand, i.handPosition = some hand ∧ action = joinAction config.startJoints hand) := by
  unfold policyAction at h
  split at h
  · exact nomatch h
  rename_i hfresh
  refine ⟨Bool.eq_false_iff.mpr hfresh, ?_⟩
  cases haction : selection.action with
  | some selected =>
    rw [haction] at h
    exact .inl h
  | none =>
    rw [haction] at h
    dsimp only at h
    split at h
    · exact nomatch h
    · obtain ⟨hand, hhand, rfl⟩ := Option.map_eq_some_iff.mp h
      exact .inr ⟨rfl, hand, hhand, rfl⟩

/-- **Freshness**: outside the stationary test, a command that is handed over is founded if and
    only if the ensembler was supplied. -/
theorem rollout_fresh (config : RolloutConfig δ) (hstationary : config.stationaryWriteTest = false)
    (steps : List (RolloutStep δ)) (i : Iteration δ) (command : Command δ)
    (hcommand : (run (Rollout.step config) config.initial (steps ++ [.iterate i])).commands =
      (run (Rollout.step config) config.initial steps).commands ++ [command]) :
    command.Founded config (answers (steps ++ [.iterate i]))
        (run (Rollout.step config) config.initial steps).commands i.handPosition ↔
      (run (Rollout.step config) config.initial steps).Supplied config i := by
  set s := run (Rollout.step config) config.initial steps with hs
  rw [run_concat, ← hs] at hcommand
  obtain ⟨hrunning, ensembler, hprepare⟩ := iterate_hands_over hcommand
  obtain ⟨-, -, hstart, -, filled, hfilled, hselected, -, action, haction, hraw, hproject, hstartup⟩ :=
    prepare_command hprepare
  have hgrounded : s.Grounded (answers (steps ++ [.iterate i])) := by
    have hrun := (run_grounded config steps).mono i.query.toList
    unfold answers at hrun ⊢
    rw [List.filterMap_append]
    have hanswer : List.filterMap RolloutStep.answer? [RolloutStep.iterate i] = i.query.toList := by
      cases h : i.query <;> simp [RolloutStep.answer?, h]
    rw [hanswer]
    exact hrun
  have hquery : ∀ answer ∈ i.query, answer ∈ answers (steps ++ [.iterate i]) := fun answer hanswer =>
    List.mem_filterMap.mpr ⟨.iterate i, by simp, hanswer⟩
  have hsound := run_sound config steps
  obtain ⟨hfill, hlast, -⟩ := fill_some hsound hfilled
  have hpoints := hgrounded.fill hsound hquery hfilled
  have hclip := projectRh56Command_eq hproject
  rw [hraw hstationary] at hclip
  obtain ⟨hfresh, hsource⟩ := policyAction_some haction
  constructor
  · -- a founded policy action has a contributor
    rintro (⟨-, -, x, hx, -⟩ | ⟨hfallback, hearlier, -⟩) other hother
    · obtain rfl := Option.some.inj (hfilled.symm.trans hother)
      rw [hselected] at hx
      exact .inl fun hnil =>
        List.ne_nil_of_mem hx (Ensembler.contributors_eq_nil.mpr hnil)
    · obtain rfl := Option.some.inj (hfilled.symm.trans hother)
      by_cases hnil : filled.selected config.ensembler s.commandTick = []
      · refine .inr ?_
        have hnone := (Ensembler.select_fallback hnil).1
        rw [← hselected] at hnone
        rw [hstartup, hnone] at hfallback
        exact Option.isNone_iff_eq_none.mp hfallback
      · exact .inl hnil
  · intro hsupplied
    by_cases hnil : filled.selected config.ensembler s.commandTick = []
    · have hnone := (hsupplied filled hfilled).resolve_left (not_not_intro hnil)
      have hfallback := (Ensembler.select_fallback hnil).1
      rw [← hselected, hnone] at hfallback
      refine .inr ⟨by rw [hstartup, hfallback]; rfl, fun e he => ?_, ?_⟩
      · by_contra hpolicy
        have hsome := hgrounded.selected hrunning ⟨e, he, Bool.eq_false_iff.mpr hpolicy⟩
        rw [← hlast, hnone] at hsome
        exact nomatch hsome
      · rcases hsource with hsome | ⟨-, hand, hhand, rfl⟩
        · rw [hfallback] at hsome
          exact nomatch hsome
        · exact ⟨hand, hhand, hclip⟩
    · have hne : (filled.select config.ensembler s.commandTick).1.contributors ≠ [] :=
        fun h => hnil (Ensembler.contributors_eq_nil.mp h)
      have hmean := (Ensembler.select_action hnil).1
      rw [← hselected] at hmean hne
      have hmeaned : action = Ensembler.contributorMean command.selection.contributors := by
        rcases hsource with hsome | ⟨hnone, -⟩
        · exact Option.some.inj (hsome.symm.trans hmean)
        · rw [hmean] at hnone
          exact nomatch hnone
      refine .inl ⟨by rw [hstartup, hmean]; rfl, by rw [hclip, hmeaned], ?_⟩
      obtain ⟨x, hx, hage⟩ := newestAgeMs_mem hne i.startNs
      unfold staleSelection at hfresh
      rw [hage] at hfresh
      refine ⟨x, hx, by rw [hstart]; exact hfresh, ?_⟩
      rw [hselected] at hx
      obtain ⟨point, hpoint, -, htime, -, hhorizon, hpredicted⟩ := hfill.mem_contributors hx
      exact ⟨point.prediction.chunk, by rw [htime]; exact hpoints _ point hpoint, by
        rw [hpredicted, hhorizon]⟩

end Steps

/-! ## Two runs -/

/-- A canonical rollout with chunks of two actions, so that two queries speak for a tick. -/
def overlappingRollout : RolloutConfig ℚ := { plainRollout with
  ensembler := { plainEnsembler with
    chunkSize := 2
    maxSourceHorizon := 1
    horizon_lt := Nat.one_lt_two } }

/-- An iteration of 4 ms whose query predicts a start at 0 and a move to 1. -/
def overlappingIteration (startNs : ℤ) : Iteration ℚ :=
  { plainIteration startNs (startNs + 4000000) with
    query := some (startNs, [fun _ => 0, fun _ => 1]) }

theorem candidates_of_pairwise {config : EnsemblerConfig δ} {commandTick : ℤ}
    {raw : List (Point 12 δ)} (h : (raw.filter (Ensembler.young config commandTick)).Pairwise
      fun a b => Ensembler.keyLe a.prediction b.prediction = true) :
    Ensembler.candidates config commandTick raw =
      raw.filter (Ensembler.young config commandTick) :=
  List.mergeSort_of_pairwise h

/-- The overlapping rollout behind its first iteration. -/
def overlapped : Rollout ℚ :=
  run (Rollout.step overlappingRollout) overlappingRollout.initial
    [.iterate (overlappingIteration 0)]

/-- The second command is the mean of what two queries say for its tick. -/
theorem prepare_overlapped :
    (overlapped.prepare overlappingRollout (overlappingIteration 10000000)).map
      (fun p => (p.1.selection.contributors.length, p.1.action 0)) = some (2, 1 / 2) := by
  have hsorted : ∀ filled ∈ overlapped.fill overlappingRollout (overlappingIteration 10000000),
      ((bucket 1 (filled.expireBefore 1).byTick).filter
        (Ensembler.young overlappingRollout.ensembler 1)).Pairwise
          fun a b => Ensembler.keyLe a.prediction b.prediction = true := by decide +kernel
  obtain ⟨filled, hfilled⟩ := Option.isSome_iff_exists.mp
    (show (overlapped.fill overlappingRollout (overlappingIteration 10000000)).isSome = true by
      decide +kernel)
  have htick : overlapped.commandTick = 1 := by decide +kernel
  unfold Rollout.prepare
  rw [hfilled]
  simp only [Option.bind_eq_bind, Option.bind_some, htick, Ensembler.select,
    candidates_of_pairwise (hsorted filled hfilled)]
  revert filled
  show ∀ filled ∈ overlapped.fill _ _, _
  decide +kernel

theorem rollout_fresh_overlapping : ∃ command,
    (run (Rollout.step overlappingRollout) overlappingRollout.initial
        ([.iterate (overlappingIteration 0)] ++ [.iterate (overlappingIteration 10000000)])
          ).commands = overlapped.commands ++ [command] ∧
    command.selection.contributors.length = 2 ∧ command.action 0 = 1 / 2 ∧
    command.Founded overlappingRollout
      (answers ([.iterate (overlappingIteration 0)] ++
        [.iterate (overlappingIteration 10000000)])) overlapped.commands none := by
  obtain ⟨⟨command, ensembler⟩, hprepare, hvalues⟩ :=
    Option.map_eq_some_iff.mp prepare_overlapped
  obtain ⟨hlength, haction⟩ := Prod.mk.inj hvalues
  have hcommand : (overlapped.iterate overlappingRollout
      (overlappingIteration 10000000)).commands = overlapped.commands ++ [command] := by
    unfold Rollout.iterate
    rw [if_neg (by decide +kernel), if_neg (by decide), hprepare]
    rfl
  refine ⟨command, hcommand, hlength, haction, ?_⟩
  refine (rollout_fresh overlappingRollout rfl [.iterate (overlappingIteration 0)]
    (overlappingIteration 10000000) command hcommand).mpr ?_
  intro filled hfilled
  obtain ⟨-, -, -, -, other, hother, hselected, -⟩ := prepare_command hprepare
  obtain rfl := Option.some.inj (hfilled.symm.trans hother)
  refine .inl fun hnil => ?_
  have hnone : command.selection.contributors = [] := by
    rw [hselected]
    exact Ensembler.contributors_eq_nil.mpr hnil
  rw [hnone] at hlength
  exact absurd hlength (by decide)

/-- The rollout with an inference thread of its own. -/
def threadedRollout : RolloutConfig ℚ := { plainRollout with mode := .asyncTemporalEnsemble }

/-- A query of the thread, the command from it, and an iteration that finds nothing new 400 ms
    later. -/
def starvedSteps : List (RolloutStep ℚ) :=
  [.query 0 [fun _ => 0], .iterate (plainIteration 0 390000000),
    .iterate (plainIteration 400000000 404000000)]

/-- The action before is handed over once more, 400 ms after its query. -/
theorem repeated_action : threadedRollout.maxPolicyAgeMs = 250 ∧
    ∃ command ∈ (run (Rollout.step threadedRollout) threadedRollout.initial starvedSteps).commands,
      command.startNs = 400000000 ∧ command.startupFallback = false ∧
        ∀ known earlier measured,
          ¬command.Founded threadedRollout known earlier measured := by
  refine ⟨rfl, ?_⟩
  have hstarved : ∃ command ∈
      (run (Rollout.step threadedRollout) threadedRollout.initial starvedSteps).commands,
      command.startNs = 400000000 ∧ command.startupFallback = false ∧
        command.selection.contributors = [] := by decide +kernel
  obtain ⟨command, hmem, hstart, hpolicy, hnil⟩ := hstarved
  refine ⟨command, hmem, hstart, hpolicy, ?_⟩
  rintro known earlier measured (⟨-, -, x, hx, -⟩ | ⟨hfallback, -⟩)
  · rw [hnil] at hx
    exact absurd hx List.not_mem_nil
  · rw [hpolicy] at hfallback
    exact nomatch hfallback

end HandLab.Act
