import HandLab.Lib.Buckets
import HandLab.Lib.Double
import HandLab.Lib.Run

/-!
# The buffer of the absolute-time ensembler

`AbsoluteTimeTemporalEnsembler` (`src/embodiment_core/act_temporal_executor.py`) with its map
from ticks to lists, its count of entries and its statistics, for actions of any dimension.

* `Ensembler.Sound`: no bucket is empty, the count of entries is the number of buffered points
  and at most the capacity, and no loop of `_trim_capacity` raises (`Sound.addPrediction`).
* `conserved_iff`: every point added is accounted for exactly if every `reset` finds the buffer
  empty.
-/

namespace HandLab.Act

open HandLab.Lib Double

variable {dim : ℕ} {δ : Type}

/-! ## Weights -/

/-- The settings of an ensembler; `exp` is `numpy.exp`. -/
structure EnsemblerConfig (δ : Type) where
  chunkSize : ℕ
  coefficient : δ
  maxSourceHorizon : ℕ
  maxPredictionAgeTicks : Option ℤ
  capacity : ℕ
  exp : δ → δ
  /-- the check of `__init__` -/
  horizon_lt : maxSourceHorizon < chunkSize

section Weights

variable [Double δ]

/-- The sum of an array. -/
def sum (values : List δ) : δ := values.foldl add zero

/-- `exp(-coefficient * arange(n))`, normalized. -/
def ensembleWeights (config : EnsemblerConfig δ) (n : ℕ) : List δ :=
  let unnormalized := (List.range n).map fun i : ℕ =>
    config.exp (mul (sub zero config.coefficient) (ofInt i))
  unnormalized.map fun weight => div weight (sum unnormalized)

@[simp] theorem length_ensembleWeights (config : EnsemblerConfig δ) (n : ℕ) :
    (ensembleWeights config n).length = n := by
  simp [ensembleWeights]

end Weights

namespace AbsoluteTime

/-! ## The buffer -/

/-- `TemporalPrediction`. -/
structure Prediction (dim : ℕ) (δ : Type) where
  queryId : ℤ
  queryTimestampNs : ℤ
  queryCommandTick : ℤ
  chunk : List (Fin dim → δ)

/-- An entry of the buffer. The serial number of the call that added it stands for the identity
    of the prediction, which the program only passes on. -/
structure Point (dim : ℕ) (δ : Type) where
  serial : ℕ
  prediction : Prediction dim δ
  horizon : ℕ

/-- The target tick. -/
def Point.tick (point : Point dim δ) : ℤ := point.prediction.queryCommandTick + point.horizon

/-- `TemporalContributor`. -/
structure Contributor (dim : ℕ) (δ : Type) where
  queryId : ℤ
  queryTimestampNs : ℤ
  queryCommandTick : ℤ
  sourceHorizon : ℕ
  targetCommandTick : ℤ
  predictedAction : Fin dim → δ
  ensembleWeight : δ

/-- `TemporalSelection`. -/
structure Selection (dim : ℕ) (δ : Type) where
  commandTick : ℤ
  action : Option (Fin dim → δ)
  contributors : List (Contributor dim δ)
  fallbackUsed : Bool
  fallbackActionAgeTicks : Option ℤ

/-- `_stats`. -/
structure Stats where
  predictionsAdded : ℕ := 0
  predictionPointsAdded : ℕ := 0
  predictionPointsCapacityDropped : ℕ := 0
  predictionPointsExpired : ℕ := 0
  predictionPointsAgeExpired : ℕ := 0
  selectedTicks : ℕ := 0
  fallbackTicks : ℕ := 0

/-- `AbsoluteTimeTemporalEnsembler`. -/
structure Ensembler (dim : ℕ) (δ : Type) where
  byTick : List (ℤ × List (Point dim δ)) := []
  entryCount : ℤ := 0
  lastAction : Option (Fin dim → δ) := none
  lastActionTick : Option ℤ := none
  stats : Stats := {}

/-- What `add_prediction` did: the number of points it returns, and the points that
    `_trim_capacity` dropped, oldest first. -/
structure Addition (dim : ℕ) (δ : Type) where
  added : ℕ
  dropped : List (Point dim δ)

namespace Ensembler

/-- `reset`. -/
def reset (e : Ensembler dim δ) : Ensembler dim δ :=
  { e with byTick := [], entryCount := 0, lastAction := none, lastActionTick := none }

/-! ## Additions -/

/-- The points of a prediction. -/
def pointsOf (config : EnsemblerConfig δ) (serial : ℕ) (prediction : Prediction dim δ) :
    List (Point dim δ) :=
  (List.range (config.maxSourceHorizon + 1)).map (⟨serial, prediction, ·⟩)

/-- The loop of `add_prediction`, and its statistics. -/
def fill (config : EnsemblerConfig δ) (prediction : Prediction dim δ) (e : Ensembler dim δ) :
    Ensembler dim δ :=
  let points := pointsOf config e.stats.predictionsAdded prediction
  { e with
    byTick := pushAll Point.tick points e.byTick
    entryCount := e.entryCount + points.length
    stats := { e.stats with
      predictionsAdded := e.stats.predictionsAdded + 1
      predictionPointsAdded := e.stats.predictionPointsAdded + points.length } }

/-- A turn of the loop of `_trim_capacity`: the point that it drops and the ensembler after it;
    `none` where `min` or `pop` raises. -/
def dropOldest (e : Ensembler dim δ) : Option (Point dim δ × Ensembler dim δ) :=
  match (dictKeys e.byTick).min? with
  | none => none
  | some oldest =>
    match bucket oldest e.byTick with
    | [] => none
    | point :: entries =>
      some (point, { e with
        byTick := if entries.isEmpty then dictPop oldest e.byTick
          else dictSet oldest entries e.byTick
        entryCount := e.entryCount - 1
        stats := { e.stats with
          predictionPointsCapacityDropped := e.stats.predictionPointsCapacityDropped + 1 } })

/-- So many turns of the loop. -/
def dropTimes : ℕ → Ensembler dim δ → Option (List (Point dim δ) × Ensembler dim δ)
  | 0, e => some ([], e)
  | turns + 1, e =>
    match e.dropOldest with
    | none => none
    | some (point, after) =>
      match dropTimes turns after with
      | none => none
      | some (points, last) => some (point :: points, last)

/-- `_trim_capacity`. Every turn takes one from the count, so that the loop makes as many turns
    as there are entries too many. -/
def trimCapacity (capacity : ℕ) (e : Ensembler dim δ) :
    Option (List (Point dim δ) × Ensembler dim δ) :=
  dropTimes (e.entryCount - capacity).toNat e

/-! ## Selections -/

/-- `_expire_before`. -/
def expireBefore (commandTick : ℤ) (e : Ensembler dim δ) : Ensembler dim δ :=
  let expired := e.byTick.filter fun b => decide (b.1 < commandTick)
  { e with
    byTick := e.byTick.filter fun b => !decide (b.1 < commandTick)
    entryCount := e.entryCount - size expired
    stats := { e.stats with
      predictionPointsExpired := e.stats.predictionPointsExpired + size expired } }

/-- The age check of `select`. -/
def young (config : EnsemblerConfig δ) (commandTick : ℤ) (point : Point dim δ) : Bool :=
  match config.maxPredictionAgeTicks with
  | none => true
  | some limit => decide (commandTick - point.prediction.queryCommandTick ≤ limit)

/-- The key of the sort: the query's tick, then its id. -/
def keyLe (a b : Prediction dim δ) : Bool :=
  decide (a.queryCommandTick < b.queryCommandTick) ||
    (a.queryCommandTick == b.queryCommandTick && decide (a.queryId ≤ b.queryId))

/-- The candidates for a tick, in the order of their queries. -/
def candidates (config : EnsemblerConfig δ) (commandTick : ℤ) (raw : List (Point dim δ)) :
    List (Point dim δ) :=
  (raw.filter (young config commandTick)).mergeSort fun a b => keyLe a.prediction b.prediction

/-- `self._by_tick.pop(tick, [])`, with the count of the entries that are too old. -/
def consume (config : EnsemblerConfig δ) (commandTick : ℤ) (e : Ensembler dim δ) :
    Ensembler dim δ :=
  let raw := bucket commandTick e.byTick
  { e with
    byTick := dictPop commandTick e.byTick
    entryCount := e.entryCount - raw.length
    stats := { e.stats with
      predictionPointsAgeExpired := e.stats.predictionPointsAgeExpired +
        (raw.filter fun point => !young config commandTick point).length } }

section Select

variable [Double δ]

/-- The finite check of `add_prediction`. -/
def finiteChunk (config : EnsemblerConfig δ) (chunk : List (Fin dim → δ)) : Bool :=
  decide (chunk.length = config.chunkSize) &&
    chunk.all fun action => (List.finRange dim).all fun i => isFinite (action i)

/-- `add_prediction`; `none` where it raises. -/
def addPrediction (config : EnsemblerConfig δ) (prediction : Prediction dim δ)
    (e : Ensembler dim δ) : Option (Addition dim δ × Ensembler dim δ) :=
  if finiteChunk config prediction.chunk then
    (trimCapacity config.capacity (e.fill config prediction)).map fun trimmed =>
      (⟨(pointsOf config e.stats.predictionsAdded prediction).length, trimmed.1⟩, trimmed.2)
  else none

/-- The contributor that an entry becomes. -/
def contributor (commandTick : ℤ) (entry : Prediction dim δ × ℕ) (weight : δ) :
    Contributor dim δ where
  queryId := entry.1.queryId
  queryTimestampNs := entry.1.queryTimestampNs
  queryCommandTick := entry.1.queryCommandTick
  sourceHorizon := entry.2
  targetCommandTick := commandTick
  predictedAction := entry.1.chunk.getD entry.2 fun _ => zero
  ensembleWeight := weight

/-- `numpy.average(actions, axis=0, weights=weights)`. -/
def contributorMean (contributors : List (Contributor dim δ)) : Fin dim → δ := fun i =>
  div (sum (contributors.map fun c => mul (c.predictedAction i) c.ensembleWeight))
    (sum (contributors.map Contributor.ensembleWeight))

/-- The contributors for a tick. -/
def contributorsOf (config : EnsemblerConfig δ) (commandTick : ℤ)
    (entries : List (Prediction dim δ × ℕ)) : List (Contributor dim δ) :=
  List.zipWith (contributor commandTick) entries (ensembleWeights config entries.length)

/-- The entry of a point. -/
def entry (point : Point dim δ) : Prediction dim δ × ℕ := (point.prediction, point.horizon)

/-- `select`. -/
def select (config : EnsemblerConfig δ) (commandTick : ℤ) (e : Ensembler dim δ) :
    Selection dim δ × Ensembler dim δ :=
  let expired := e.expireBefore commandTick
  let entries := (candidates config commandTick (bucket commandTick expired.byTick)).map entry
  let after := expired.consume config commandTick
  if entries.isEmpty then
    (⟨commandTick, after.lastAction, [], true, after.lastActionTick.map (commandTick - ·)⟩,
      { after with stats := { after.stats with fallbackTicks := after.stats.fallbackTicks + 1 } })
  else
    let contributors := contributorsOf config commandTick entries
    let action := contributorMean contributors
    (⟨commandTick, some action, contributors, false, none⟩,
      { after with
        lastAction := some action
        lastActionTick := some commandTick
        stats := { after.stats with selectedTicks := after.stats.selectedTicks + 1 } })

end Select

/-! ## What every call keeps -/

/-- No bucket is empty, every point is in the bucket of its tick, and the points are counted. -/
structure Sound (e : Ensembler dim δ) : Prop where
  noEmpty : NoEmpty e.byTick
  ticks : ∀ tick, ∀ point ∈ bucket tick e.byTick, point.tick = tick
  counted : e.entryCount = size e.byTick

section Sound

variable {config : EnsemblerConfig δ} {e : Ensembler dim δ}

theorem Sound.empty : ({} : Ensembler dim δ).Sound where
  noEmpty := ⟨.nil, nofun⟩
  ticks _ _ h := nomatch h
  counted := rfl

theorem Sound.reset (e : Ensembler dim δ) : e.reset.Sound where
  noEmpty := ⟨.nil, nofun⟩
  ticks _ _ h := nomatch h
  counted := rfl

theorem length_pointsOf (config : EnsemblerConfig δ) (serial : ℕ) (prediction : Prediction dim δ) :
    (pointsOf config serial prediction).length = config.maxSourceHorizon + 1 := by
  simp [pointsOf]

theorem bucket_fill (config : EnsemblerConfig δ) (prediction : Prediction dim δ)
    (e : Ensembler dim δ) (tick : ℤ) :
    bucket tick (e.fill config prediction).byTick = bucket tick e.byTick ++
      (pointsOf config e.stats.predictionsAdded prediction).filter fun point =>
        point.tick == tick :=
  bucket_pushAll ..

theorem Sound.fill (h : e.Sound) (prediction : Prediction dim δ) :
    (e.fill config prediction).Sound where
  noEmpty := h.noEmpty.pushAll _
  ticks tick point hpoint := by
    rw [bucket_fill] at hpoint
    rcases List.mem_append.mp hpoint with hold | hnew
    · exact h.ticks tick point hold
    · exact eq_of_beq (List.mem_filter.mp hnew).2
  counted := by
    show e.entryCount + _ = (size (pushAll Point.tick _ e.byTick) : ℤ)
    rw [size_pushAll, h.counted]
    push_cast
    rfl

/-- What a turn of the loop of `_trim_capacity` does to the buffer. -/
structure Drops (point : Point dim δ) (before after : Ensembler dim δ) : Prop where
  oldest : ∀ tick, Lib.bucket tick before.byTick ≠ [] → point.tick ≤ tick
  bucket : bucket point.tick before.byTick = point :: bucket point.tick after.byTick
  others : ∀ tick ≠ point.tick, Lib.bucket tick after.byTick = Lib.bucket tick before.byTick
  size : size before.byTick = size after.byTick + 1
  entryCount : after.entryCount = before.entryCount - 1
  lastAction : after.lastAction = before.lastAction
  lastActionTick : after.lastActionTick = before.lastActionTick
  stats : after.stats = { before.stats with
    predictionPointsCapacityDropped := before.stats.predictionPointsCapacityDropped + 1 }

/-- The oldest bucket loses its first point, and goes with its last. -/
theorem Sound.dropFirst (h : e.Sound) {point : Point dim δ} {entries : List (Point dim δ)}
    (holdest : ∀ tick, bucket tick e.byTick ≠ [] → point.tick ≤ tick)
    (hbucket : bucket point.tick e.byTick = point :: entries)
    {after : Ensembler dim δ} (hafter : after = { e with
      byTick := setRest point.tick entries e.byTick
      entryCount := e.entryCount - 1
      stats := { e.stats with
        predictionPointsCapacityDropped := e.stats.predictionPointsCapacityDropped + 1 } }) :
    Drops point e after ∧ after.Sound := by
  have hrest : bucket point.tick after.byTick = entries := by
    rw [hafter]
    exact bucket_setRest_self entries
  have hothers : ∀ tick ≠ point.tick, bucket tick after.byTick = bucket tick e.byTick := by
    intro tick hne
    rw [hafter]
    exact bucket_setRest_of_ne hne entries
  have hsize : size e.byTick = size after.byTick + 1 := by
    have hsum : size (setRest point.tick entries e.byTick) + (bucket point.tick e.byTick).length =
        size e.byTick + entries.length := size_setRest h.noEmpty entries
    rw [hbucket, List.length_cons] at hsum
    rw [hafter]
    show size e.byTick = size (setRest point.tick entries e.byTick) + 1
    omega
  have hcount : after.entryCount = e.entryCount - 1 := by rw [hafter]
  have hnoEmpty : NoEmpty after.byTick := by
    rw [hafter]
    exact h.noEmpty.setRest entries
  refine ⟨⟨holdest, by rw [hbucket, hrest], hothers, hsize, hcount, by rw [hafter], by rw [hafter],
    by rw [hafter]⟩, hnoEmpty, fun tick other hother => ?_, ?_⟩
  · by_cases heq : tick = point.tick
    · rw [heq, hrest] at hother
      refine h.ticks tick other ?_
      rw [heq, hbucket]
      exact List.mem_cons_of_mem _ hother
    · rw [hothers tick heq] at hother
      exact h.ticks tick other hother
  · rw [hcount, h.counted, hsize]
    push_cast
    ring

/-- **A turn of the loop** finds a point to drop as long as there is one. -/
theorem Sound.dropOldest (h : e.Sound) (hsize : 0 < size e.byTick) :
    ∃ point after, e.dropOldest = some (point, after) ∧ Drops point e after ∧ after.Sound := by
  have hkeys : dictKeys e.byTick ≠ [] := by
    intro hnil
    rw [List.map_eq_nil_iff.mp hnil] at hsize
    exact absurd hsize (Nat.lt_irrefl 0)
  cases hmin : (dictKeys e.byTick).min? with
  | none => exact absurd (List.min?_eq_none_iff.mp hmin) hkeys
  | some oldest =>
    have hmem : oldest ∈ dictKeys e.byTick := List.min?_mem hmin
    cases hbucket : bucket oldest e.byTick with
    | nil => exact absurd hbucket (h.noEmpty.mem_dictKeys.mp hmem)
    | cons point entries =>
      have htick : point.tick = oldest :=
        h.ticks oldest point (hbucket ▸ List.mem_cons_self)
      subst htick
      have holdest : ∀ tick, bucket tick e.byTick ≠ [] → point.tick ≤ tick := fun tick hne =>
        (List.min?_eq_some_iff.mp hmin).2 tick (mem_dictKeys_of_bucket hne)
      refine ⟨point, _, ?_, h.dropFirst holdest hbucket rfl⟩
      unfold Ensembler.dropOldest
      rw [hmin]
      dsimp only
      rw [hbucket]
      rfl

variable {P : Ensembler dim δ → List (Point dim δ) → Prop}

/-- **The loop of `_trim_capacity`** never raises. A property that every turn keeps holds after
    the loop. -/
theorem Sound.dropTimes
    (hstep : ∀ before point after points, before.Sound → after.Sound → Drops point before after →
      P before points → P after (points ++ [point]))
    (h : e.Sound) {dropped : List (Point dim δ)} (hP : P e dropped) {turns : ℕ}
    (hturns : turns ≤ size e.byTick) :
    ∃ points after, e.dropTimes turns = some (points, after) ∧ after.Sound ∧
      points.length = turns ∧ size e.byTick = size after.byTick + turns ∧
      P after (dropped ++ points) := by
  induction turns generalizing e dropped with
  | zero => exact ⟨[], e, rfl, h, rfl, rfl, by rwa [List.append_nil]⟩
  | succ turns ih =>
    obtain ⟨point, middle, hdrop, hdrops, hmiddle⟩ := h.dropOldest (by omega)
    have hsize := hdrops.size
    obtain ⟨points, after, hrest, hafter, hlength, hleft, hPafter⟩ :=
      ih hmiddle (hstep e point middle dropped h hmiddle hdrops hP) (by omega)
    refine ⟨point :: points, after, ?_, hafter, by rw [List.length_cons, hlength], by omega, ?_⟩
    · unfold Ensembler.dropTimes
      rw [hdrop]
      dsimp only
      rw [hrest]
    · rwa [List.append_assoc, List.singleton_append] at hPafter

theorem bucket_expireBefore (commandTick : ℤ) (e : Ensembler dim δ) (tick : ℤ) :
    bucket tick (e.expireBefore commandTick).byTick =
      if tick < commandTick then [] else bucket tick e.byTick := by
  show bucket tick (e.byTick.filter fun b => !decide (b.1 < commandTick)) = _
  rw [bucket_filter fun tick => !decide (tick < commandTick)]
  by_cases hlt : tick < commandTick
  · simp [hlt]
  · simp [hlt]

theorem Sound.expireBefore (h : e.Sound) (commandTick : ℤ) :
    (e.expireBefore commandTick).Sound where
  noEmpty := h.noEmpty.filter _
  ticks tick point hpoint := by
    rw [bucket_expireBefore] at hpoint
    split_ifs at hpoint with hlt
    · exact absurd hpoint List.not_mem_nil
    · exact h.ticks tick point hpoint
  counted := by
    have hsplit := size_filter (fun b : ℤ × List (Point dim δ) => decide (b.1 < commandTick))
      e.byTick
    show e.entryCount - _ = _
    rw [h.counted, ← hsplit]
    push_cast
    exact add_sub_cancel_left _ _

theorem Sound.consume (h : e.Sound) (config : EnsemblerConfig δ) (commandTick : ℤ) :
    (e.consume config commandTick).Sound where
  noEmpty := h.noEmpty.filter _
  ticks tick point hpoint := by
    have hpoint : point ∈ bucket tick (dictPop commandTick e.byTick) := hpoint
    by_cases heq : tick = commandTick
    · rw [heq, bucket_dictPop_self] at hpoint
      exact absurd hpoint List.not_mem_nil
    · rw [bucket_dictPop_of_ne heq] at hpoint
      exact h.ticks tick point hpoint
  counted := by
    have hsum : size (dictPop commandTick e.byTick) + (bucket commandTick e.byTick).length =
        size e.byTick := size_dictPop h.noEmpty.nodup
    show e.entryCount - _ = (size (dictPop commandTick e.byTick) : ℤ)
    rw [h.counted, ← hsum]
    push_cast
    exact add_sub_cancel_right _ _

variable [Double δ]

/-- The ensembler after `select`, up to the last action and the count of the ticks. -/
theorem select_frame (config : EnsemblerConfig δ) (commandTick : ℤ) (e : Ensembler dim δ) :
    ∃ lastAction lastActionTick selectedTicks fallbackTicks,
      (e.select config commandTick).2 =
        { (e.expireBefore commandTick).consume config commandTick with
          lastAction, lastActionTick
          stats := { ((e.expireBefore commandTick).consume config commandTick).stats with
            selectedTicks, fallbackTicks } } := by
  unfold select
  dsimp only
  split_ifs
  · exact ⟨_, _, _, _, rfl⟩
  · exact ⟨_, _, _, _, rfl⟩

theorem Sound.select (h : e.Sound) (config : EnsemblerConfig δ) (commandTick : ℤ) :
    (e.select config commandTick).2.Sound := by
  obtain ⟨lastAction, lastActionTick, selectedTicks, fallbackTicks, hafter⟩ :=
    select_frame config commandTick e
  have hconsume := (h.expireBefore commandTick).consume config commandTick
  rw [hafter]
  exact ⟨hconsume.noEmpty, hconsume.ticks, hconsume.counted⟩

/-- What `select` leaves: the points for later ticks. -/
theorem bucket_select (config : EnsemblerConfig δ) (commandTick : ℤ) (e : Ensembler dim δ)
    (tick : ℤ) : bucket tick (e.select config commandTick).2.byTick =
      if tick ≤ commandTick then [] else bucket tick e.byTick := by
  obtain ⟨lastAction, lastActionTick, selectedTicks, fallbackTicks, hafter⟩ :=
    select_frame config commandTick e
  rw [hafter]
  show bucket tick (dictPop commandTick (e.expireBefore commandTick).byTick) = _
  by_cases heq : tick = commandTick
  · rw [heq, bucket_dictPop_self, if_pos le_rfl]
  · rw [bucket_dictPop_of_ne heq, bucket_expireBefore]
    refine if_congr ?_ rfl rfl
    omega

theorem length_contributorsOf (config : EnsemblerConfig δ) (commandTick : ℤ)
    (entries : List (Prediction dim δ × ℕ)) :
    (contributorsOf config commandTick entries).length = entries.length := by
  rw [contributorsOf, List.length_zipWith, length_ensembleWeights, min_self]

/-- The entries that a selection combines. -/
def selected (config : EnsemblerConfig δ) (commandTick : ℤ) (e : Ensembler dim δ) :
    List (Point dim δ) :=
  candidates config commandTick (bucket commandTick e.byTick)

variable {commandTick : ℤ}

omit [Double δ] in
theorem candidates_expireBefore :
    candidates config commandTick (bucket commandTick (e.expireBefore commandTick).byTick) =
      e.selected config commandTick := by
  rw [bucket_expireBefore, if_neg (lt_irrefl _), selected]

theorem select_contributors (config : EnsemblerConfig δ) (commandTick : ℤ)
    (e : Ensembler dim δ) : (e.select config commandTick).1.contributors =
      contributorsOf config commandTick ((e.selected config commandTick).map entry) := by
  unfold select
  dsimp only
  rw [candidates_expireBefore]
  split_ifs with hempty
  · rw [List.isEmpty_iff.mp hempty]
    rfl
  · rfl

theorem contributors_eq_nil : (e.select config commandTick).1.contributors = [] ↔
    e.selected config commandTick = [] := by
  rw [select_contributors, ← List.length_eq_zero_iff, length_contributorsOf, List.length_map,
    List.length_eq_zero_iff]

/-- A selection of entries is their weighted mean, and the ensembler remembers it. -/
theorem select_action (h : e.selected config commandTick ≠ []) :
    (e.select config commandTick).1.action =
        some (contributorMean (e.select config commandTick).1.contributors) ∧
      (e.select config commandTick).2.lastAction = (e.select config commandTick).1.action := by
  have hne : ((e.selected config commandTick).map entry).isEmpty = false := by simpa using h
  rw [select_contributors]
  unfold select
  dsimp only
  rw [candidates_expireBefore, hne]
  exact ⟨rfl, rfl⟩

/-- Without entries the action before is repeated. -/
theorem select_fallback (h : e.selected config commandTick = []) :
    (e.select config commandTick).1.action = e.lastAction ∧
      (e.select config commandTick).2.lastAction = e.lastAction := by
  unfold select
  dsimp only
  rw [candidates_expireBefore, h]
  exact ⟨rfl, rfl⟩

/-- **Contributors** are points for the very tick of the command. -/
theorem Sound.mem_contributors (h : e.Sound) {c : Contributor dim δ}
    (hc : c ∈ (e.select config commandTick).1.contributors) :
    ∃ point ∈ bucket commandTick e.byTick, point.tick = commandTick ∧
      c.queryTimestampNs = point.prediction.queryTimestampNs ∧
      c.queryCommandTick = point.prediction.queryCommandTick ∧ c.sourceHorizon = point.horizon ∧
      c.predictedAction = point.prediction.chunk.getD point.horizon fun _ => zero := by
  rw [select_contributors, contributorsOf] at hc
  obtain ⟨i, hi, rfl⟩ := List.mem_iff_getElem.mp hc
  rw [List.length_zipWith, List.length_map] at hi
  have hselected := List.getElem_mem (lt_of_lt_of_le hi (min_le_left _ _))
  have hmem := (List.mem_filter.mp (List.mem_mergeSort.mp hselected)).1
  refine ⟨_, hmem, h.ticks _ _ hmem, ?_⟩
  rw [List.getElem_zipWith, List.getElem_map]
  exact ⟨rfl, rfl, rfl, rfl⟩

theorem length_select (config : EnsemblerConfig δ) (commandTick : ℤ) (e : Ensembler dim δ) :
    (e.select config commandTick).1.contributors.length =
      ((bucket commandTick e.byTick).filter (young config commandTick)).length := by
  rw [select_contributors, length_contributorsOf, List.length_map, selected, candidates,
    List.length_mergeSort]

/-- **`add_prediction`** of a finite chunk does not raise, and leaves at most `capacity` entries.
    A property that every turn of `_trim_capacity` keeps is kept. -/
theorem Sound.addPrediction
    (hstep : ∀ before point after points, before.Sound → after.Sound → Drops point before after →
      P before points → P after (points ++ [point]))
    (h : e.Sound) {prediction : Prediction dim δ} (hP : P (e.fill config prediction) [])
    (hfinite : finiteChunk config prediction.chunk = true) :
    ∃ addition after, e.addPrediction config prediction = some (addition, after) ∧ after.Sound ∧
      addition.added = config.maxSourceHorizon + 1 ∧
      addition.dropped.length =
        size e.byTick + (config.maxSourceHorizon + 1) - config.capacity ∧
      after.entryCount ≤ config.capacity ∧ P after addition.dropped := by
  have hfill : (e.fill config prediction).Sound := h.fill prediction
  have hsize : size (e.fill config prediction).byTick =
      size e.byTick + (config.maxSourceHorizon + 1) := by
    show size (pushAll Point.tick _ e.byTick) = _
    rw [size_pushAll, length_pointsOf]
  have hcounted := hfill.counted
  have hturns : ((e.fill config prediction).entryCount - config.capacity).toNat ≤
      size (e.fill config prediction).byTick := by omega
  obtain ⟨points, after, htrim, hafter, hlength, hleft, hPafter⟩ :=
    hfill.dropTimes hstep hP hturns
  refine ⟨⟨(pointsOf config e.stats.predictionsAdded prediction).length, points⟩, after, ?_,
    hafter, length_pointsOf .., ?_, ?_, hPafter⟩
  · unfold Ensembler.addPrediction trimCapacity
    rw [if_pos hfinite, htrim]
    rfl
  · show points.length = _
    omega
  · have := hafter.counted
    omega

/-- What the ensembler holds behind `add_prediction` was there or is of the prediction. -/
theorem Sound.addPrediction_some (h : e.Sound) {prediction : Prediction dim δ}
    {addition : Addition dim δ} {after : Ensembler dim δ}
    (hadd : e.addPrediction config prediction = some (addition, after)) :
    after.Sound ∧ after.lastAction = e.lastAction ∧ ∀ tick, ∀ point ∈ bucket tick after.byTick,
      point ∈ bucket tick e.byTick ∨ point.prediction = prediction := by
  have hfinite : finiteChunk config prediction.chunk = true := by
    by_contra hnot
    unfold Ensembler.addPrediction at hadd
    rw [if_neg hnot] at hadd
    exact nomatch hadd
  obtain ⟨_, _, hsome, hafter, -, -, -, hkept⟩ := h.addPrediction
    (P := fun next _ => next.lastAction = e.lastAction ∧ ∀ tick, ∀ point ∈ bucket tick next.byTick,
      point ∈ bucket tick e.byTick ∨ point.prediction = prediction)
    (fun before point next points _ _ hdrops hP => by
      refine ⟨hdrops.lastAction.trans hP.1, fun tick other hother => hP.2 tick other ?_⟩
      by_cases htick : tick = point.tick
      · rw [htick] at hother ⊢
        rw [hdrops.bucket]
        exact List.mem_cons_of_mem _ hother
      · rwa [hdrops.others tick htick] at hother)
    (by
      refine ⟨rfl, fun tick point hpoint => ?_⟩
      rw [bucket_fill] at hpoint
      rcases List.mem_append.mp hpoint with hold | hnew
      · exact .inl hold
      · obtain ⟨_, -, rfl⟩ := List.mem_map.mp (List.mem_filter.mp hnew).1
        exact .inr rfl) hfinite
  obtain ⟨rfl, rfl⟩ := Prod.mk.inj (Option.some.inj (hadd.symm.trans hsome))
  exact ⟨hafter, hkept⟩

end Sound

end Ensembler

/-! ## Sessions -/

/-- A call on the ensembler. -/
inductive Call (dim : ℕ) (δ : Type)
  | addPrediction (prediction : Prediction dim δ)
  | select (commandTick : ℤ)
  | reset

/-- What happened to the points. -/
inductive Event (dim : ℕ) (δ : Type)
  | added (serial : ℕ) (prediction : Prediction dim δ)
  | dropped (point : Point dim δ)
  | selected (commandTick : ℤ)
  | reset

/-- An ensembler with what happened to its points and what it returned, newest first, and the
    number of points that were buffered when `reset` was called. -/
structure Session (dim : ℕ) (δ : Type) where
  ensembler : Ensembler dim δ := {}
  events : List (Event dim δ) := []
  selections : List (Selection dim δ) := []
  discarded : ℕ := 0

namespace Session

/-- The contributors ever returned. -/
def returned (s : Session dim δ) : ℕ := (s.selections.map fun a => a.contributors.length).sum

variable [Double δ]

/-- A prediction; where `add_prediction` raises it has not changed anything. -/
def add (config : EnsemblerConfig δ) (prediction : Prediction dim δ) (s : Session dim δ) :
    Session dim δ :=
  match s.ensembler.addPrediction config prediction with
  | none => s
  | some (addition, ensembler) =>
    { s with
      ensembler
      events := (addition.dropped.map Event.dropped).reverse ++
        .added s.ensembler.stats.predictionsAdded prediction :: s.events }

def call (config : EnsemblerConfig δ) (s : Session dim δ) : Call dim δ → Session dim δ
  | .addPrediction prediction => s.add config prediction
  | .select commandTick =>
    let answer := s.ensembler.select config commandTick
    { s with
      ensembler := answer.2
      events := .selected commandTick :: s.events
      selections := answer.1 :: s.selections }
  | .reset =>
    { s with
      ensembler := s.ensembler.reset
      events := .reset :: s.events
      discarded := s.discarded + size s.ensembler.byTick }

variable {config : EnsemblerConfig δ} {s : Session dim δ} {prediction : Prediction dim δ}

theorem add_of_not_finite (h : Ensembler.finiteChunk config prediction.chunk = false) :
    s.add config prediction = s := by
  have hnone : s.ensembler.addPrediction config prediction = none := by
    unfold Ensembler.addPrediction
    rw [h]
    rfl
  unfold add
  rw [hnone]

theorem add_of_some {addition : Addition dim δ} {after : Ensembler dim δ}
    (h : s.ensembler.addPrediction config prediction = some (addition, after)) :
    s.add config prediction = { s with
      ensembler := after
      events := (addition.dropped.map Event.dropped).reverse ++
        .added s.ensembler.stats.predictionsAdded prediction :: s.events } := by
  unfold add
  rw [h]

end Session

/-! ## Conservation -/

/-- The points that statistics account for. -/
def Stats.accounted (stats : Stats) : ℤ :=
  stats.predictionPointsCapacityDropped + stats.predictionPointsExpired +
    stats.predictionPointsAgeExpired

/-- **Conservation.** -/
structure Conserved (config : EnsemblerConfig δ) (s : Session dim δ) : Prop where
  counted : s.ensembler.entryCount = size s.ensembler.byTick
  bounded : s.ensembler.entryCount ≤ config.capacity
  noEmpty : ∀ b ∈ s.ensembler.byTick, b.2 ≠ []
  accounted : (s.ensembler.stats.predictionPointsAdded : ℤ) =
    s.ensembler.entryCount + s.ensembler.stats.accounted + s.returned

/-- What holds of every session: conservation, up to the points that `reset` discarded. -/
structure Session.Accounts (config : EnsemblerConfig δ) (s : Session dim δ) : Prop where
  sound : s.ensembler.Sound
  bounded : s.ensembler.entryCount ≤ config.capacity
  accounted : (s.ensembler.stats.predictionPointsAdded : ℤ) =
    s.ensembler.entryCount + s.ensembler.stats.accounted + s.returned + s.discarded

section Conservation

variable [Double δ] {config : EnsemblerConfig δ} {s : Session dim δ}

/-- What `select` adds to the statistics. -/
theorem accounted_select (s : Session dim δ) (commandTick : ℤ) :
    (s.ensembler.select config commandTick).2.stats.predictionPointsAdded =
        s.ensembler.stats.predictionPointsAdded ∧
      (s.ensembler.select config commandTick).2.entryCount +
          (s.ensembler.select config commandTick).2.stats.accounted +
          (s.ensembler.select config commandTick).1.contributors.length =
        s.ensembler.entryCount + s.ensembler.stats.accounted ∧
      (s.ensembler.select config commandTick).2.entryCount ≤ s.ensembler.entryCount := by
  have hlength := Ensembler.length_select config commandTick s.ensembler
  obtain ⟨lastAction, lastActionTick, selectedTicks, fallbackTicks, hafter⟩ :=
    Ensembler.select_frame config commandTick s.ensembler
  have hraw : bucket commandTick (s.ensembler.expireBefore commandTick).byTick =
      bucket commandTick s.ensembler.byTick := by
    rw [Ensembler.bucket_expireBefore, if_neg (lt_irrefl _)]
  have hsplit : (bucket commandTick s.ensembler.byTick).length =
      ((bucket commandTick s.ensembler.byTick).filter (Ensembler.young config commandTick)).length +
        ((bucket commandTick s.ensembler.byTick).filter fun point =>
          !Ensembler.young config commandTick point).length :=
    List.length_eq_length_filter_add _
  rw [hlength, hafter]
  refine ⟨rfl, ?_, ?_⟩
  · show s.ensembler.entryCount - _ - (bucket commandTick
        (s.ensembler.expireBefore commandTick).byTick).length +
      ((s.ensembler.stats.predictionPointsCapacityDropped : ℤ) + ((_ + _ : ℕ) : ℤ) +
        ((s.ensembler.stats.predictionPointsAgeExpired + (List.filter _ (bucket commandTick
          (s.ensembler.expireBefore commandTick).byTick)).length : ℕ) : ℤ)) + _ =
      s.ensembler.entryCount + (s.ensembler.stats.predictionPointsCapacityDropped +
        s.ensembler.stats.predictionPointsExpired + s.ensembler.stats.predictionPointsAgeExpired)
    rw [hraw, hsplit]
    push_cast
    ring
  · show s.ensembler.entryCount - _ - _ ≤ s.ensembler.entryCount
    omega

/-- **What a call does to the accounts.** -/
theorem Session.Accounts.call (h : s.Accounts config) (c : Call dim δ) :
    (s.call config c).Accounts config := by
  cases c with
  | addPrediction prediction =>
    show (s.add config prediction).Accounts config
    cases hfinite : Ensembler.finiteChunk config prediction.chunk with
    | false => rwa [Session.add_of_not_finite hfinite]
    | true =>
      -- A point that a turn drops moves from the count of entries to that of the dropped.
      obtain ⟨addition, after, hadd, hsound, -, -, hbounded, haccounted⟩ :=
        h.sound.addPrediction (P := fun e _ => (e.stats.predictionPointsAdded : ℤ) =
            e.entryCount + e.stats.accounted + s.returned + s.discarded)
          (fun before point after points _ _ hdrops hP => by
            rw [hdrops.stats, hdrops.entryCount]
            unfold Stats.accounted at hP ⊢
            dsimp only
            push_cast
            linarith)
          (by
            have hold := h.accounted
            show ((_ + _ : ℕ) : ℤ) = _ + _ + s.ensembler.stats.accounted + _ + _
            push_cast
            linarith) hfinite
      rw [Session.add_of_some hadd]
      exact ⟨hsound, hbounded, haccounted⟩
  | select commandTick =>
    obtain ⟨hadded, haccounted, hle⟩ := @accounted_select _ _ _ config s commandTick
    refine ⟨h.sound.select config commandTick, hle.trans h.bounded, ?_⟩
    have hold := h.accounted
    show ((s.ensembler.select config commandTick).2.stats.predictionPointsAdded : ℤ) =
      (s.ensembler.select config commandTick).2.entryCount +
        (s.ensembler.select config commandTick).2.stats.accounted +
        (((s.ensembler.select config commandTick).1.contributors.length + s.returned : ℕ) : ℤ) +
        s.discarded
    rw [hadded, hold, ← haccounted]
    push_cast
    ring
  | reset =>
    refine ⟨.reset _, ?_, ?_⟩
    · show (0 : ℤ) ≤ config.capacity
      exact Int.natCast_nonneg _
    · have hold := h.accounted
      rw [h.sound.counted] at hold
      show (s.ensembler.stats.predictionPointsAdded : ℤ) =
        0 + s.ensembler.stats.accounted + s.returned +
          ((s.discarded + size s.ensembler.byTick : ℕ) : ℤ)
      rw [hold]
      push_cast
      ring

omit [Double δ] in
theorem Session.accounts_empty : ({} : Session dim δ).Accounts config where
  sound := .empty
  bounded := Int.natCast_nonneg _
  accounted := rfl

theorem Session.accounts_run (calls : List (Call dim δ)) :
    (run (Session.call config) ({} : Session dim δ) calls).Accounts config :=
  run_invariant (P := Session.Accounts config) (fun _ c h => h.call c)
    Session.accounts_empty calls

omit [Double δ] in
theorem Session.Accounts.conserved (h : s.Accounts config) :
    Conserved config s ↔ s.discarded = 0 := by
  have haccounted := h.accounted
  constructor
  · intro hconserved
    have := hconserved.accounted
    omega
  · intro hzero
    refine ⟨h.sound.counted, h.bounded, h.sound.noEmpty.items, ?_⟩
    rw [hzero] at haccounted
    simpa using haccounted

/-- **Conservation holds of a run exactly if every `reset` of it finds the buffer empty.** -/
theorem conserved_iff (calls : List (Call dim δ)) :
    Conserved config (run (Session.call config) ({} : Session dim δ) calls) ↔
      Meets (Session.call config) (fun s c => c = .reset → s.ensembler.byTick = [])
        ({} : Session dim δ) calls := by
  rw [(Session.accounts_run calls).conserved]
  have hkeeps : ∀ (s : Session dim δ) (c : Call dim δ), s.discarded ≤ (s.call config c).discarded ∧
      ((c = .reset → s.ensembler.byTick = []) → (s.call config c).discarded = s.discarded) := by
    intro s c
    cases c with
    | addPrediction prediction =>
      have hsame : (s.add config prediction).discarded = s.discarded := by
        unfold Session.add
        cases s.ensembler.addPrediction config prediction <;> rfl
      exact ⟨hsame.ge, fun _ => hsame⟩
    | select commandTick => exact ⟨le_rfl, fun _ => rfl⟩
    | reset =>
      refine ⟨Nat.le_add_right _ _, fun hempty => ?_⟩
      show s.discarded + size s.ensembler.byTick = s.discarded
      rw [hempty rfl]
      rfl
  constructor
  · intro hzero
    refine meets_of_run (P := Session.Accounts config) (G := fun s => s.discarded = 0)
      (fun s c _ h => h.call c) (fun s c hafter => ?_) (fun s c h hafter => ?_)
      Session.accounts_empty hzero
    · have := (hkeeps s c).1
      omega
    · rintro rfl
      have hsum : s.discarded + size s.ensembler.byTick = 0 := hafter
      exact eq_nil_of_size h.sound.noEmpty.items (by omega)
  · intro hmeets
    refine run_invariant_of_meets (P := fun s => s.discarded = 0)
      (fun s c hc hzero => ?_) rfl hmeets
    rw [(hkeeps s c).2 hc, hzero]

end Conservation

/-- Chunks of one action. -/
def singleConfig : EnsemblerConfig ℚ where
  chunkSize := 1
  coefficient := 0
  maxSourceHorizon := 0
  maxPredictionAgeTicks := none
  capacity := 8
  exp _ := 1
  horizon_lt := Nat.zero_lt_one

/-- `reset` discards a point and counts it nowhere. -/
theorem reset_discards : ¬Conserved singleConfig (run (Session.call singleConfig)
    ({} : Session 1 ℚ) [.addPrediction ⟨1, 0, 0, [fun _ => 0]⟩, .reset]) := by
  intro h
  exact absurd h.accounted (by decide)

end AbsoluteTime

end HandLab.Act
