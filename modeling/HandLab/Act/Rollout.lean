import HandLab.Act.TemporalBuffer
import Mathlib.Data.Fin.VecNotation

/-!
# The physical rollout

The command loop of `run` and the queries of `InferenceThread`
(`tools/act_physical_rollout.py`). A step of a rollout is a query of the inference thread or
an iteration of the command loop; what clocks, devices and the model answer is part of the
step, so a run is any interleaving of the two threads. A rollout that raises stops.

Rows for the log and stage timings are left out.
-/

namespace HandLab.Act

open AbsoluteTime HandLab.Lib Double

variable {δ : Type}

/-- An action of the arm and the hand. -/
abbrev Action (δ : Type) := Fin 12 → δ

/-- `--act-execution-mode`. -/
inductive ExecutionMode
  | canonicalTemporalEnsemble | asyncTemporalEnsemble
  deriving DecidableEq, Repr

/-- The settings of a rollout. -/
structure RolloutConfig (δ : Type) where
  mode : ExecutionMode
  ensembler : EnsemblerConfig δ
  commandEpochNs : ℤ
  commandPeriodNs : ℤ
  /-- the command rate is below 2·10⁹ Hz -/
  period_pos : 0 < commandPeriodNs
  deadlineNs : ℤ
  pendingCapacity : ℕ
  maxPolicyAgeMs : δ
  stationaryWriteTest : Bool
  jakaWritesEnabled : Bool
  rh56WritesEnabled : Bool
  /-- write-path isolation requires the stationary test -/
  writes : stationaryWriteTest = false → jakaWritesEnabled = true ∧ rh56WritesEnabled = true
  /-- the measured joints at the start -/
  startJoints : Fin 6 → δ
  legalMin : δ
  legalMax : δ
  /-- `int(numpy.ceil(elapsed / period))` -/
  ceilQuotient : ℤ → ℤ → ℤ

/-- What an iteration of the command loop sees. -/
structure Iteration (δ : Type) where
  /-- the clock at the head of the loop -/
  headNs : ℤ
  /-- the clock behind the sleep -/
  startNs : ℤ
  /-- the workers are alive, and the inference thread has not failed -/
  alive : Bool := true
  /-- the query of the canonical mode: its end and its chunk, unless it raises -/
  query : Option (ℤ × List (Action δ)) := none
  /-- `rh56_worker.latest_feedback` -/
  handPosition : Option (Fin 6 → δ) := none
  /-- the measured state of the stationary test -/
  stationary : Option (Action δ) := none
  /-- the JAKA adapter published -/
  published : Bool := true
  /-- nothing raises behind the dispatch -/
  completes : Bool := true
  /-- the clock at the end -/
  endNs : ℤ

/-- A command that was handed over. -/
structure Command (δ : Type) where
  tick : ℤ
  /-- `next_command_ns` -/
  scheduledNs : ℤ
  startNs : ℤ
  endNs : ℤ
  selection : Selection 12 δ
  startupFallback : Bool
  rawAction : Action δ
  action : Action δ
  /-- handed to the JAKA adapter -/
  toJaka : Bool
  /-- handed to the RH56 worker -/
  toHand : Bool

/-- The state of a rollout. -/
structure Rollout (δ : Type) where
  pending : List (Prediction 12 δ) := []
  nextSequence : ℤ := 1
  ensembler : Ensembler 12 δ := {}
  commandTick : ℤ := 0
  nextCommandNs : ℤ
  stopped : Bool := false
  commands : List (Command δ) := []

/-- The rollout before its first iteration. -/
def RolloutConfig.initial (config : RolloutConfig δ) : Rollout δ where
  nextCommandNs := config.commandEpochNs

/-! ## Actions -/

/-- The arm and the hand. -/
def joinAction (joints hand : Fin 6 → δ) : Action δ := fun i =>
  if h : i.val < 6 then joints ⟨i.val, h⟩ else hand ⟨i.val - 6, by omega⟩

section Actions

variable [PyFloat δ]

/-- `JAKA_UPPER`; `JAKA_LOWER` is its negative. -/
def jakaUpper : Fin 6 → ℚ := ![628 / 100, 209 / 100, 227 / 100, 628 / 100, 209 / 100, 628 / 100]

/-- The hand part is clipped to the legal range. -/
def clipHand (legalMin legalMax : δ) (action : Action δ) : Action δ := fun i =>
  if i.val < 6 then action i else PyFloat.clip (action i) legalMin legalMax

/-- `_project_rh56_command`; `none` where it raises. -/
def projectRh56Command (legalMin legalMax : δ) (action : Action δ) : Option (Action δ) :=
  if (List.finRange 12).all (fun i => isFinite (action i)) = false then none
  else if (isFinite legalMin && isFinite legalMax) = false then none
  else if le legalMax legalMin then none
  else
    let projected := clipHand legalMin legalMax action
    if (List.finRange 12).any fun i => decide (6 ≤ i.val) &&
        lt (add (ofRat (2 / 100)) (ofRat (1 / 1000000000000)))
          (abs (sub (projected i) (action i))) then none
    else some projected

/-- `_assert_policy_action`. -/
def assertPolicyAction (action : Action δ) : Bool :=
  (List.finRange 12).all fun i => isFinite (action i) &&
    if h : i.val < 6 then
      !lt (action i) (ofRat (-jakaUpper ⟨i.val, h⟩)) && !lt (ofRat (jakaUpper ⟨i.val, h⟩)) (action i)
    else !lt (action i) zero && !lt (ofRat 1) (action i)

theorem projectRh56Command_eq {legalMin legalMax : δ} {action projected : Action δ}
    (h : projectRh56Command legalMin legalMax action = some projected) :
    projected = clipHand legalMin legalMax action := by
  unfold projectRh56Command at h
  split at h
  · exact nomatch h
  split at h
  · exact nomatch h
  split at h
  · exact nomatch h
  · dsimp only at h
    split at h
    · exact nomatch h
    · exact (Option.some.inj h).symm

end Actions

/-! ## Ages -/

section Ages

variable [PyFloat δ]

/-- The age of a query in milliseconds. -/
def ageMs (nowNs timestampNs : ℤ) : δ :=
  PyFloat.pyMax zero (div (ofInt (nowNs - timestampNs)) (ofRat 1000000))

/-- The newest age of `_temporal_selection_ages_ms`. -/
def newestAgeMs (contributors : List (Contributor 12 δ)) (nowNs : ℤ) : Option δ :=
  match contributors.map fun c => ageMs nowNs c.queryTimestampNs with
  | [] => none
  | age :: rest => some (rest.foldl PyFloat.pyMin age)

theorem foldl_pyMin_mem (a : δ) (rest : List δ) : rest.foldl PyFloat.pyMin a ∈ a :: rest := by
  induction rest generalizing a with
  | nil => exact List.mem_singleton_self a
  | cons b rest ih =>
    have hmem := ih (PyFloat.pyMin a b)
    have hmin : PyFloat.pyMin a b = a ∨ PyFloat.pyMin a b = b := by
      unfold PyFloat.pyMin
      split
      · exact .inr rfl
      · exact .inl rfl
    rw [List.foldl_cons]
    rcases List.mem_cons.mp hmem with heq | hrest
    · rw [heq]
      rcases hmin with hmin | hmin <;> rw [hmin] <;> simp
    · exact List.mem_cons_of_mem _ (List.mem_cons_of_mem _ hrest)

theorem newestAgeMs_mem {contributors : List (Contributor 12 δ)} (hne : contributors ≠ [])
    (nowNs : ℤ) : ∃ c ∈ contributors,
      newestAgeMs contributors nowNs = some (ageMs nowNs c.queryTimestampNs) := by
  unfold newestAgeMs
  cases contributors with
  | nil => exact absurd rfl hne
  | cons first rest =>
    rw [List.map_cons]
    dsimp only
    have hmem : (rest.map fun c => ageMs nowNs c.queryTimestampNs).foldl PyFloat.pyMin
        (ageMs nowNs first.queryTimestampNs) ∈
          (first :: rest).map fun c => (ageMs nowNs c.queryTimestampNs : δ) :=
      foldl_pyMin_mem _ _
    obtain ⟨c, hc, hage⟩ := List.mem_map.mp hmem
    exact ⟨c, hc, by rw [← hage]⟩

end Ages

/-! ## Steps -/

section Steps

variable [PyFloat δ] (config : RolloutConfig δ)

/-- `query_once` of the inference thread, with the queue that drops its oldest prediction. -/
def Rollout.query (s : Rollout δ) (queryEndNs : ℤ) (chunk : List (Action δ)) : Rollout δ :=
  let prediction : Prediction 12 δ := {
    queryId := s.nextSequence
    queryTimestampNs := queryEndNs
    queryCommandTick :=
      max 0 (config.ceilQuotient (queryEndNs - config.commandEpochNs) config.commandPeriodNs)
    chunk }
  let kept := if s.pending.length < config.pendingCapacity then s.pending else s.pending.drop 1
  { s with pending := kept ++ [prediction], nextSequence := s.nextSequence + 1 }

/-- The ensembler takes the predictions of an iteration; `none` where that raises. -/
def Rollout.fill (s : Rollout δ) (i : Iteration δ) : Option (Ensembler 12 δ) :=
  match config.mode with
  | .canonicalTemporalEnsemble => do
    let (queryEndNs, chunk) ← i.query
    (s.ensembler.addPrediction config.ensembler
      ⟨s.nextSequence, queryEndNs, s.commandTick, chunk⟩).map Prod.snd
  | .asyncTemporalEnsemble =>
    s.pending.foldlM (fun e prediction =>
      (e.addPrediction config.ensembler prediction).map Prod.snd) s.ensembler

/-- The freshness gate: the newest contributor is too old. -/
def staleSelection (selection : Selection 12 δ) (startNs : ℤ) : Bool :=
  (newestAgeMs selection.contributors startNs).any fun age => lt config.maxPolicyAgeMs age

/-- The action of an iteration before the projection; `none` where the iteration raises. -/
def policyAction (selection : Selection 12 δ) (i : Iteration δ) : Option (Action δ) :=
  if staleSelection config selection i.startNs then none
  else match selection.action with
    | some action => some action
    | none =>
      match config.mode with
      | .canonicalTemporalEnsemble => none
      | .asyncTemporalEnsemble => i.handPosition.map (joinAction config.startJoints)

/-- The stationary test commands the measured state. -/
def rawActionOf (selected : Action δ) (i : Iteration δ) : Option (Action δ) :=
  if config.stationaryWriteTest then i.stationary else some selected

/-- An iteration up to the dispatch: the command and the ensembler behind it; `none` where the
    iteration raises before. -/
def Rollout.prepare (s : Rollout δ) (i : Iteration δ) :
    Option (Command δ × Ensembler 12 δ) := do
  let filled ← s.fill config i
  let (selection, ensembler) := filled.select config.ensembler s.commandTick
  let selected ← policyAction config selection i
  let rawAction ← rawActionOf config selected i
  let action ← projectRh56Command config.legalMin config.legalMax rawAction
  if assertPolicyAction action = false then none
  else some ({
    tick := s.commandTick
    scheduledNs := s.nextCommandNs
    startNs := i.startNs
    endNs := i.endNs
    selection
    startupFallback := selection.action.isNone
    rawAction
    action
    toJaka := config.jakaWritesEnabled
    toHand := config.rh56WritesEnabled && i.published }, ensembler)

/-- An iteration of the command loop. -/
def Rollout.iterate (s : Rollout δ) (i : Iteration δ) : Rollout δ :=
  if s.stopped = true ∨ config.deadlineNs ≤ i.headNs then { s with stopped := true }
  else if i.alive = false then { s with stopped := true }
  else match s.prepare config i with
    | none => { s with stopped := true }
    | some (command, ensembler) =>
      let dispatched := { s with ensembler, commands := s.commands ++ [command] }
      if i.published = false ∨ i.completes = false then { dispatched with stopped := true }
      else
        let next := s.nextCommandNs + config.commandPeriodNs
        { dispatched with
          pending := match config.mode with
            | .canonicalTemporalEnsemble => s.pending
            | .asyncTemporalEnsemble => []
          nextSequence := match config.mode with
            | .canonicalTemporalEnsemble => s.nextSequence + 1
            | .asyncTemporalEnsemble => s.nextSequence
          commandTick := s.commandTick + 1
          nextCommandNs := if next ≤ i.endNs then i.endNs + config.commandPeriodNs else next }

/-- A step of a rollout: a query of the inference thread, which the canonical mode does not
    start, or an iteration. -/
inductive RolloutStep (δ : Type)
  | query (queryEndNs : ℤ) (chunk : List (Action δ))
  | iterate (i : Iteration δ)

def Rollout.step (s : Rollout δ) : RolloutStep δ → Rollout δ
  | .query queryEndNs chunk =>
    match config.mode with
    | .canonicalTemporalEnsemble => s
    | .asyncTemporalEnsemble => s.query config queryEndNs chunk
  | .iterate i => s.iterate config i

/-- A query is only taken in the asynchronous mode. -/
theorem Rollout.step_query (s : Rollout δ) (queryEndNs : ℤ) (chunk : List (Action δ)) :
    s.step config (.query queryEndNs chunk) = s ∨
      s.step config (.query queryEndNs chunk) = s.query config queryEndNs chunk := by
  unfold Rollout.step
  dsimp only
  cases config.mode with
  | canonicalTemporalEnsemble => exact .inl rfl
  | asyncTemporalEnsemble => exact .inr rfl

end Steps

end HandLab.Act
