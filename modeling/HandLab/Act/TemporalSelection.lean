import HandLab.Act.TemporalBuffer
import HandLab.Lib.Extended
import Mathlib.Algebra.BigOperators.Ring.List
import Mathlib.Algebra.Order.BigOperators.Group.List
import Mathlib.Analysis.Complex.Exponential
import Mathlib.Data.List.Forall2
import Mathlib.Data.List.Sort

/-!
# The selections of the absolute-time ensembler

What `select` combines, over any run of calls, in exact arithmetic.

* `Live`: a point was added and nothing has taken it since; `Buffers.run` connects the buckets
  with it.
* `Uses`: the points of a selection, their order, their weights and the action.
* `Reordered`: the predictions between two other calls, in another order.
* `temporal_selection`: with a coefficient that is not negative, every selection uses the live
  points for its tick, in whatever order they were added.
* `weights_overflow`: the weights of a coefficient below zero may overflow.
-/

namespace HandLab.Act.AbsoluteTime

open HandLab.Lib

variable {dim : ℕ} {δ : Type}

/-! ## Live points -/

/-- An event leaves a point in the buffer. -/
def Event.Spares (point : Point dim δ) : Event dim δ → Prop
  | .added _ _ => True
  | .dropped other => other ≠ point
  | .selected commandTick => commandTick < point.tick
  | .reset => False

/-- A point was added, and nothing that has happened since took it: it was not dropped, and no
    `select` was for its tick or a later one. -/
def Live (events : List (Event dim δ)) (point : Point dim δ) : Prop :=
  ∃ after before, events = after ++ .added point.serial point.prediction :: before ∧
    ∀ event ∈ after, event.Spares point

theorem live_cons {event : Event dim δ} {events : List (Event dim δ)} {point : Point dim δ} :
    Live (event :: events) point ↔ event = .added point.serial point.prediction ∨
      event.Spares point ∧ Live events point := by
  constructor
  · rintro ⟨after, before, hevents, hspares⟩
    cases after with
    | nil => exact .inl (List.cons.inj hevents).1
    | cons first after =>
      obtain ⟨rfl, hrest⟩ := List.cons.inj hevents
      exact .inr ⟨hspares event List.mem_cons_self, after, before, hrest,
        fun other hother => hspares other (List.mem_cons_of_mem _ hother)⟩
  · rintro (rfl | ⟨hspares, after, before, rfl, hafter⟩)
    · exact ⟨[], events, rfl, fun _ h => absurd h List.not_mem_nil⟩
    · exact ⟨event :: after, before, rfl, List.forall_mem_cons.mpr ⟨hspares, hafter⟩⟩

theorem Live.added {events : List (Event dim δ)} {point : Point dim δ} (h : Live events point) :
    .added point.serial point.prediction ∈ events := by
  obtain ⟨after, before, rfl, -⟩ := h
  exact List.mem_append_right _ List.mem_cons_self

/-- The buckets hold the live points. -/
structure Buffers (config : EnsemblerConfig δ) (e : Ensembler dim δ)
    (events : List (Event dim δ)) : Prop where
  sound : e.Sound
  live : ∀ point, point ∈ bucket point.tick e.byTick ↔
    Live events point ∧ point.horizon ≤ config.maxSourceHorizon
  nodup : ∀ tick, (bucket tick e.byTick).Nodup
  serials : ∀ serial prediction, .added serial prediction ∈ events →
    serial < e.stats.predictionsAdded ∧ prediction.chunk.length = config.chunkSize

namespace Buffers

variable {config : EnsemblerConfig δ} {e : Ensembler dim δ} {events : List (Event dim δ)}

theorem empty : Buffers config ({} : Ensembler dim δ) [] where
  sound := .empty
  live _ := by
    refine iff_of_false List.not_mem_nil ?_
    rintro ⟨h, -⟩
    exact absurd h.added List.not_mem_nil
  nodup _ := .nil
  serials _ _ h := nomatch h

theorem mem_pointsOf {serial : ℕ} {prediction : Prediction dim δ} {point : Point dim δ} :
    point ∈ Ensembler.pointsOf config serial prediction ↔
      point.serial = serial ∧ point.prediction = prediction ∧
        point.horizon ≤ config.maxSourceHorizon := by
  unfold Ensembler.pointsOf
  rw [List.mem_map]
  constructor
  · rintro ⟨horizon, hhorizon, rfl⟩
    exact ⟨rfl, rfl, Nat.lt_succ_iff.mp (List.mem_range.mp hhorizon)⟩
  · rintro ⟨rfl, rfl, hle⟩
    exact ⟨point.horizon, List.mem_range.mpr (Nat.lt_succ_iff.mpr hle), rfl⟩

theorem fill (h : Buffers config e events) {prediction : Prediction dim δ}
    (hlength : prediction.chunk.length = config.chunkSize) :
    Buffers config (e.fill config prediction)
      (.added e.stats.predictionsAdded prediction :: events) where
  sound := h.sound.fill prediction
  live point := by
    rw [Ensembler.bucket_fill, List.mem_append, List.mem_filter, mem_pointsOf, h.live, live_cons]
    constructor
    · rintro (⟨hlive, hle⟩ | ⟨⟨hserial, hprediction, hle⟩, -⟩)
      · exact ⟨.inr ⟨trivial, hlive⟩, hle⟩
      · exact ⟨.inl (by rw [hserial, hprediction]), hle⟩
    · rintro ⟨hadded | ⟨-, hlive⟩, hle⟩
      · obtain ⟨hserial, hprediction⟩ := (Event.added.injEq ..).mp hadded
        exact .inr ⟨⟨hserial.symm, hprediction.symm, hle⟩, beq_self_eq_true _⟩
      · exact .inl ⟨hlive, hle⟩
  nodup tick := by
    rw [Ensembler.bucket_fill]
    refine List.Nodup.append (h.nodup tick) ?_ ?_
    · refine List.Nodup.filter _ (List.Nodup.map ?_ List.nodup_range)
      intro a b hab
      exact (Point.mk.inj hab).2.2
    · -- The points that were there have smaller serial numbers.
      intro point hold hnew
      have htick := h.sound.ticks tick point hold
      obtain ⟨hserial, -⟩ := mem_pointsOf.mp (List.mem_filter.mp hnew).1
      have hlt := (h.serials _ _ ((h.live point).mp (htick.symm ▸ hold)).1.added).1
      omega
  serials serial other hother := by
    show serial < e.stats.predictionsAdded + 1 ∧ _
    rcases List.mem_cons.mp hother with heq | hother
    · obtain ⟨rfl, rfl⟩ := (Event.added.injEq ..).mp heq
      exact ⟨Nat.lt_succ_self _, hlength⟩
    · obtain ⟨hlt, hsize⟩ := h.serials serial other hother
      exact ⟨Nat.lt_succ_of_lt hlt, hsize⟩

/-- A turn of `_trim_capacity` takes one point. -/
theorem drop {after : Ensembler dim δ} {dropped : Point dim δ} (h : Buffers config e events)
    (hafter : after.Sound) (hdrops : Ensembler.Drops dropped e after) :
    Buffers config after (.dropped dropped :: events) := by
  have hnodup := h.nodup dropped.tick
  rw [hdrops.bucket, List.nodup_cons] at hnodup
  refine ⟨hafter, fun point => ?_, fun tick => ?_, fun serial prediction hadded => ?_⟩
  · rw [live_cons, or_iff_right nofun, and_assoc, ← h.live point]
    show _ ↔ dropped ≠ point ∧ _
    by_cases htick : point.tick = dropped.tick
    · rw [htick, hdrops.bucket, List.mem_cons]
      constructor
      · intro hmem
        exact ⟨fun heq => hnodup.1 (heq ▸ hmem), .inr hmem⟩
      · rintro ⟨hne, heq | hmem⟩
        · exact absurd heq.symm hne
        · exact hmem
    · rw [hdrops.others _ htick]
      exact (and_iff_right fun heq : dropped = point => htick (heq ▸ rfl)).symm
  · by_cases htick : tick = dropped.tick
    · rw [htick]
      exact hnodup.2
    · rw [hdrops.others _ htick]
      exact h.nodup tick
  · rw [hdrops.stats]
    exact h.serials serial prediction ((List.mem_cons.mp hadded).resolve_left nofun)

variable [Double δ]

/-- `select` takes the points up to its tick. -/
theorem select (h : Buffers config e events) (commandTick : ℤ) :
    Buffers config (e.select config commandTick).2 (.selected commandTick :: events) := by
  refine ⟨h.sound.select config commandTick, fun point => ?_, fun tick => ?_,
    fun serial prediction hadded => ?_⟩
  · rw [live_cons, or_iff_right nofun, and_assoc, ← h.live point, Ensembler.bucket_select]
    show _ ↔ commandTick < point.tick ∧ _
    by_cases hle : point.tick ≤ commandTick
    · rw [if_pos hle]
      exact iff_of_false List.not_mem_nil fun hboth => absurd hboth.1 (not_lt.mpr hle)
    · rw [if_neg hle, and_iff_right (not_le.mp hle)]
  · rw [Ensembler.bucket_select]
    split_ifs
    · exact .nil
    · exact h.nodup tick
  · obtain ⟨lastAction, lastActionTick, selectedTicks, fallbackTicks, hafter⟩ :=
      Ensembler.select_frame config commandTick e
    rw [hafter]
    exact h.serials serial prediction ((List.mem_cons.mp hadded).resolve_left nofun)

omit [Double δ] in
theorem reset (h : Buffers config e events) : Buffers config e.reset (.reset :: events) where
  sound := .reset e
  live _ := by
    rw [live_cons, or_iff_right nofun]
    refine iff_of_false List.not_mem_nil ?_
    rintro ⟨⟨hspares, -⟩, -⟩
    exact hspares
  nodup _ := .nil
  serials serial prediction hadded :=
    h.serials serial prediction ((List.mem_cons.mp hadded).resolve_left nofun)

theorem call {s : Session dim δ} (h : Buffers config s.ensembler s.events) (c : Call dim δ) :
    Buffers config (s.call config c).ensembler (s.call config c).events := by
  cases c with
  | addPrediction prediction =>
    show Buffers config (s.add config prediction).ensembler (s.add config prediction).events
    cases hfinite : Ensembler.finiteChunk config prediction.chunk with
    | false => rwa [Session.add_of_not_finite hfinite]
    | true =>
      have hlength : prediction.chunk.length = config.chunkSize := by
        unfold Ensembler.finiteChunk at hfinite
        exact of_decide_eq_true ((Bool.and_eq_true _ _).mp hfinite).1
      obtain ⟨addition, after, hadd, -, -, -, -, hbuffers⟩ :=
        h.sound.addPrediction (P := fun e dropped => Buffers config e
            ((dropped.map Event.dropped).reverse ++
              .added s.ensembler.stats.predictionsAdded prediction :: s.events))
          (fun before point after points _ hafter hdrops hP => by
            have hdrop := hP.drop hafter hdrops
            simpa using hdrop) (h.fill hlength) hfinite
      rw [Session.add_of_some hadd]
      exact hbuffers
  | select commandTick => exact h.select commandTick
  | reset => exact h.reset

theorem run (calls : List (Call dim δ)) :
    Buffers config (run (Session.call config) ({} : Session dim δ) calls).ensembler
      (Lib.run (Session.call config) ({} : Session dim δ) calls).events :=
  run_invariant (P := fun s : Session dim δ => Buffers config s.ensembler s.events)
    (fun _ c h => h.call c) empty calls

end Buffers

/-! ## What a selection combines -/

/-- The order of the contributors: by the query's tick, then by its id. -/
def Earlier (a b : Prediction dim δ) : Prop :=
  a.queryCommandTick < b.queryCommandTick ∨
    a.queryCommandTick = b.queryCommandTick ∧ a.queryId ≤ b.queryId

/-- A contributor is made of a point. -/
structure MadeOf (commandTick : ℤ) (point : Point dim δ) (c : Contributor dim δ) : Prop where
  queryId : c.queryId = point.prediction.queryId
  queryTimestampNs : c.queryTimestampNs = point.prediction.queryTimestampNs
  queryCommandTick : c.queryCommandTick = point.prediction.queryCommandTick
  sourceHorizon : c.sourceHorizon = point.horizon
  targetCommandTick : c.targetCommandTick = commandTick
  predictedAction : point.prediction.chunk[point.horizon]? = some c.predictedAction

/-- **What a selection is made of**: the live points for its tick that are not too old, oldest
    query first, combined with weights that sum to one; without such points it falls back. -/
structure Uses [Field δ] (config : EnsemblerConfig δ) (events : List (Event dim δ))
    (commandTick : ℤ) (used : List (Point dim δ)) (selection : Selection dim δ) : Prop where
  nodup : used.Nodup
  mem : ∀ point, point ∈ used ↔ Live events point ∧ point.tick = commandTick ∧
    point.horizon ≤ config.maxSourceHorizon ∧
      ∀ limit, config.maxPredictionAgeTicks = some limit →
        commandTick - point.prediction.queryCommandTick ≤ limit
  ordered : used.Pairwise fun a b => Earlier a.prediction b.prediction
  contributors : List.Forall₂ (MadeOf commandTick) used selection.contributors
  weights : used ≠ [] → (selection.contributors.map Contributor.ensembleWeight).sum = 1
  action : used ≠ [] → ∃ action, selection.action = some action ∧ ∀ i,
    action i = (selection.contributors.map fun c => c.ensembleWeight * c.predictedAction i).sum
  fallback : selection.fallbackUsed = true ↔ used = []

section Keys

variable {a b c : Prediction dim δ}

theorem keyLe_iff : Ensembler.keyLe a b = true ↔ Earlier a b := by
  simp [Ensembler.keyLe, Earlier]

theorem Earlier.trans (hab : Earlier a b) (hbc : Earlier b c) : Earlier a c := by
  unfold Earlier at hab hbc ⊢
  omega

theorem Earlier.total (a b : Prediction dim δ) : Earlier a b ∨ Earlier b a := by
  unfold Earlier
  omega

end Keys

theorem pairwise_sorted {ε : Type*} (prediction : ε → Prediction dim δ) (items : List ε) :
    (items.mergeSort fun a b => Ensembler.keyLe (prediction a) (prediction b)).Pairwise
      fun a b => Earlier (prediction a) (prediction b) := by
  have hsorted : (items.mergeSort fun a b =>
      Ensembler.keyLe (prediction a) (prediction b)).Pairwise
        fun a b => Ensembler.keyLe (prediction a) (prediction b) = true := by
    refine List.pairwise_mergeSort (fun a b c hab hbc => ?_) (fun a b => ?_) items
    · rw [keyLe_iff] at hab hbc ⊢
      exact hab.trans hbc
    · rw [Bool.or_eq_true, keyLe_iff, keyLe_iff]
      exact Earlier.total _ _
  exact hsorted.imp keyLe_iff.mp

theorem map_ensembleWeight [Double δ] (config : EnsemblerConfig δ) (commandTick : ℤ)
    (entries : List (Prediction dim δ × ℕ)) :
    (Ensembler.contributorsOf config commandTick entries).map Contributor.ensembleWeight =
      ensembleWeights config entries.length := by
  have hlength := length_ensembleWeights config entries.length
  unfold Ensembler.contributorsOf
  rw [List.map_zipWith, ← List.map_uncurry_zip_eq_zipWith]
  exact List.map_snd_zip hlength.le

/-- Every contributor is made of its entry. -/
theorem forall₂_contributorsOf [Double δ] {config : EnsemblerConfig δ} {commandTick : ℤ}
    {points : List (Point dim δ)}
    (h : ∀ point ∈ points, point.horizon < point.prediction.chunk.length) :
    List.Forall₂ (MadeOf commandTick) points
      (Ensembler.contributorsOf config commandTick (points.map Ensembler.entry)) := by
  have hlength := length_ensembleWeights config
    (points.map Ensembler.entry).length
  unfold Ensembler.contributorsOf
  rw [List.length_map] at hlength ⊢
  generalize ensembleWeights config points.length = weights at hlength
  induction points generalizing weights with
  | nil => exact .nil
  | cons point rest ih =>
    cases weights with
    | nil => exact absurd hlength nofun
    | cons weight weights =>
      refine .cons ⟨rfl, rfl, rfl, rfl, rfl, ?_⟩
        (ih (fun other hother => h other (List.mem_cons_of_mem _ hother)) weights
          (Nat.succ.inj hlength))
      have hlt := h point List.mem_cons_self
      show _ = some (point.prediction.chunk.getD point.horizon _)
      rw [List.getD_eq_getElem?_getD, List.getElem?_eq_getElem hlt, Option.getD_some]

theorem mem_selected {config : EnsemblerConfig δ} {e : Ensembler dim δ}
    {events : List (Event dim δ)} (h : Buffers config e events) {commandTick : ℤ}
    {point : Point dim δ} : point ∈ e.selected config commandTick ↔
      Live events point ∧ point.tick = commandTick ∧ point.horizon ≤ config.maxSourceHorizon ∧
        ∀ limit, config.maxPredictionAgeTicks = some limit →
          commandTick - point.prediction.queryCommandTick ≤ limit := by
  have hyoung : Ensembler.young config commandTick point = true ↔
      ∀ limit, config.maxPredictionAgeTicks = some limit →
        commandTick - point.prediction.queryCommandTick ≤ limit := by
    unfold Ensembler.young
    cases config.maxPredictionAgeTicks with
    | none => exact iff_of_true rfl nofun
    | some limit => simp
  unfold Ensembler.selected Ensembler.candidates
  rw [List.mem_mergeSort, List.mem_filter, hyoung]
  constructor
  · rintro ⟨hmem, hage⟩
    have htick := h.sound.ticks commandTick point hmem
    obtain ⟨hlive, hle⟩ := (h.live point).mp (htick.symm ▸ hmem)
    exact ⟨hlive, htick, hle, hage⟩
  · rintro ⟨hlive, rfl, hle, hage⟩
    exact ⟨(h.live point).mpr ⟨hlive, hle⟩, hage⟩

section Exact

variable [Field δ] [LinearOrder δ] [IsStrictOrderedRing δ] [Double δ] [Exact δ]

theorem sum_eq (values : List δ) : sum values = values.sum := by
  have hfold : ∀ (values : List δ) (start : δ),
      values.foldl Double.add start = start + values.sum := by
    intro values
    induction values with
    | nil => intro start; simp
    | cons value rest ih =>
      intro start
      rw [List.foldl_cons, ih, List.sum_cons, Exact.add_eq, add_assoc]
  rw [sum, hfold, Exact.zero_eq, zero_add]

/-- What is used of `numpy.exp`: it is one at zero and not negative below. -/
structure ExpBelow (exp : δ → δ) : Prop where
  zero : exp 0 = 1
  nonneg : ∀ x ≤ 0, 0 ≤ exp x

/-- **The weights** of a coefficient that is not negative sum to one: the oldest query's is
    positive before the normalization. -/
theorem sum_ensembleWeights {config : EnsemblerConfig δ} (hexp : ExpBelow config.exp)
    (hcoefficient : 0 ≤ config.coefficient) {n : ℕ} (hn : n ≠ 0) :
    (ensembleWeights config n).sum = 1 := by
  set weights := (List.range n).map fun i : ℕ =>
    config.exp (Double.mul (Double.sub Double.zero config.coefficient) (Double.ofInt i))
    with hweights
  have hexponent : ∀ i : ℕ, Double.mul (Double.sub Double.zero config.coefficient)
      (Double.ofInt i) = -(config.coefficient * i) := by
    intro i
    rw [Exact.mul_eq, Exact.sub_eq, Exact.zero_eq, Double.ofInt, Exact.ofRat_eq]
    push_cast
    ring
  have hsum : 0 < weights.sum := by
    obtain ⟨m, rfl⟩ := Nat.exists_eq_succ_of_ne_zero hn
    have hrest : 0 ≤ (((List.range m).map Nat.succ).map fun i : ℕ =>
        config.exp (Double.mul (Double.sub Double.zero config.coefficient)
          (Double.ofInt i))).sum := by
      refine List.sum_nonneg fun weight hweight => ?_
      obtain ⟨i, -, rfl⟩ := List.mem_map.mp hweight
      rw [hexponent]
      exact hexp.nonneg _ (neg_nonpos.mpr (mul_nonneg hcoefficient (Nat.cast_nonneg i)))
    rw [hweights, List.range_succ_eq_map, List.map_cons, List.sum_cons, hexponent, Nat.cast_zero,
      mul_zero, neg_zero, hexp.zero]
    linarith
  have hdiv : weights.map (fun weight => Double.div weight (sum weights)) =
      weights.map fun weight => weight * weights.sum⁻¹ := by
    refine List.map_congr_left fun weight _ => ?_
    rw [Exact.div_eq, sum_eq, div_eq_mul_inv]
  show (weights.map fun weight => Double.div weight (sum weights)).sum = 1
  rw [hdiv, List.sum_map_mul_right, List.map_id', mul_inv_cancel₀ hsum.ne']

/-- **What `select` uses.** -/
theorem uses {config : EnsemblerConfig δ} (hexp : ExpBelow config.exp)
    (hcoefficient : 0 ≤ config.coefficient) {e : Ensembler dim δ} {events : List (Event dim δ)}
    (h : Buffers config e events) (commandTick : ℤ) :
    Uses config events commandTick (e.selected config commandTick)
      (e.select config commandTick).1 := by
  have hcontributors := Ensembler.select_contributors config commandTick e
  have hweights := map_ensembleWeight config commandTick
    ((e.selected config commandTick).map Ensembler.entry)
  rw [List.length_map] at hweights
  refine ⟨?_, fun point => mem_selected h, pairwise_sorted Point.prediction _, ?_,
    fun hne => ?_, fun hne => ?_, ?_⟩
  · exact (List.mergeSort_perm _ _).nodup_iff.mpr ((h.nodup commandTick).filter _)
  · rw [hcontributors]
    refine forall₂_contributorsOf fun point hpoint => ?_
    obtain ⟨hlive, -, hle, -⟩ := (mem_selected h).mp hpoint
    have hlength := (h.serials _ _ hlive.added).2
    have hlt := config.horizon_lt
    omega
  · rw [hcontributors, hweights]
    exact sum_ensembleWeights hexp hcoefficient (List.length_pos_iff.mpr hne).ne'
  · have hsum := sum_ensembleWeights hexp hcoefficient (List.length_pos_iff.mpr hne).ne'
    refine ⟨_, (Ensembler.select_action hne).1, fun i => ?_⟩
    unfold Ensembler.contributorMean
    rw [sum_eq, sum_eq, Exact.div_eq, hcontributors, hweights, hsum, div_one]
    refine congrArg List.sum (List.map_congr_left fun c _ => ?_)
    rw [Exact.mul_eq, mul_comm]
  · unfold Ensembler.select
    dsimp only
    rw [Ensembler.candidates_expireBefore]
    by_cases hnil : e.selected config commandTick = []
    · rw [hnil]
      exact iff_of_true rfl rfl
    · rw [if_neg (by simpa using hnil)]
      exact iff_of_false nofun hnil

end Exact

/-! ## The order of the predictions -/

/-- Two sequences of calls that differ in the order of the predictions between other calls. -/
inductive Reordered : List (Call dim δ) → List (Call dim δ) → Prop
  | nil : Reordered [] []
  | cons (c : Call dim δ) {calls others : List (Call dim δ)} (h : Reordered calls others) :
      Reordered (c :: calls) (c :: others)
  | swap (a b : Prediction dim δ) (calls : List (Call dim δ)) :
      Reordered (.addPrediction a :: .addPrediction b :: calls)
        (.addPrediction b :: .addPrediction a :: calls)
  | trans {calls middle others : List (Call dim δ)} (hleft : Reordered calls middle)
      (hright : Reordered middle others) : Reordered calls others

/-- The query's tick and id. -/
def Prediction.key (prediction : Prediction dim δ) : ℤ × ℤ :=
  (prediction.queryCommandTick, prediction.queryId)

section Reorder

variable [Double δ] (config : EnsemblerConfig δ)

/-- The key of the points that a call adds. -/
def Call.key? : Call dim δ → Option (ℤ × ℤ)
  | .addPrediction prediction =>
    if Ensembler.finiteChunk config prediction.chunk then some prediction.key else none
  | .select _ => none
  | .reset => none

/-- A call does not exceed the capacity. -/
def Within (s : Session dim δ) (c : Call dim δ) : Prop :=
  ∀ prediction, c = .addPrediction prediction →
    Ensembler.finiteChunk config prediction.chunk = true →
      s.ensembler.entryCount + (config.maxSourceHorizon + 1 : ℕ) ≤ config.capacity

/-- The entries of a tick. -/
def Session.entries (s : Session dim δ) (tick : ℤ) : List (Prediction dim δ × ℕ) :=
  (bucket tick s.ensembler.byTick).map Ensembler.entry

/-- The entries that a prediction adds to a tick. -/
def newEntries (prediction : Prediction dim δ) (tick : ℤ) : List (Prediction dim δ × ℕ) :=
  if Ensembler.finiteChunk config prediction.chunk then
    ((Ensembler.pointsOf config 0 prediction).filter fun point => point.tick == tick).map
      Ensembler.entry
  else []

/-- The number of points that a prediction adds. -/
def newCount (prediction : Prediction dim δ) : ℤ :=
  if Ensembler.finiteChunk config prediction.chunk then (config.maxSourceHorizon + 1 : ℕ) else 0

/-- Two sessions that differ at most in the order of the points of a tick. -/
structure Same (s s' : Session dim δ) : Prop where
  sound : s.ensembler.Sound
  sound' : s'.ensembler.Sound
  entries : ∀ tick, (s.entries tick).Perm (s'.entries tick)
  lastAction : s.ensembler.lastAction = s'.ensembler.lastAction
  lastActionTick : s.ensembler.lastActionTick = s'.ensembler.lastActionTick
  selections : s.selections = s'.selections

variable {config} {s s' s'' : Session dim δ}

omit [Double δ] in
theorem Same.refl (h : s.ensembler.Sound) : Same s s :=
  ⟨h, h, fun _ => .refl _, rfl, rfl, rfl⟩

omit [Double δ] in
theorem Same.trans (h : Same s s') (h' : Same s' s'') : Same s s'' :=
  ⟨h.sound, h'.sound', fun tick => (h.entries tick).trans (h'.entries tick),
    h.lastAction.trans h'.lastAction, h.lastActionTick.trans h'.lastActionTick,
    h.selections.trans h'.selections⟩

omit [Double δ] in
theorem Same.entryCount (h : Same s s') : s.ensembler.entryCount = s'.ensembler.entryCount := by
  rw [h.sound.counted, h.sound'.counted,
    size_congr h.sound.noEmpty h.sound'.noEmpty fun tick => ?_]
  have hlength := (h.entries tick).length_eq
  rwa [Session.entries, Session.entries, List.length_map, List.length_map] at hlength

omit [Double δ] in
theorem Same.within [Double δ] (h : Same s s') {c : Call dim δ} (hwithin : Within config s c) :
    Within config s' c := by
  intro prediction hc hfinite
  rw [← h.entryCount]
  exact hwithin prediction hc hfinite

/-! ### Predictions -/

/-- A prediction within the capacity adds its entries and drops none. -/
theorem add_within (hs : s.ensembler.Sound) {prediction : Prediction dim δ}
    (h : Within config s (.addPrediction prediction)) :
    (s.add config prediction).ensembler.Sound ∧
      (∀ tick, (s.add config prediction).entries tick =
        s.entries tick ++ newEntries config prediction tick) ∧
      (s.add config prediction).ensembler.entryCount =
        s.ensembler.entryCount + newCount config prediction ∧
      (s.add config prediction).ensembler.lastAction = s.ensembler.lastAction ∧
      (s.add config prediction).ensembler.lastActionTick = s.ensembler.lastActionTick ∧
      (s.add config prediction).selections = s.selections := by
  unfold newEntries newCount
  cases hfinite : Ensembler.finiteChunk config prediction.chunk with
  | false =>
    rw [Session.add_of_not_finite hfinite]
    exact ⟨hs, fun _ => (List.append_nil _).symm, (add_zero _).symm, rfl, rfl, rfl⟩
  | true =>
    have hroom := h prediction rfl hfinite
    have hcount : (s.ensembler.fill config prediction).entryCount =
        s.ensembler.entryCount + (config.maxSourceHorizon + 1 : ℕ) := by
      show s.ensembler.entryCount + ((Ensembler.pointsOf ..).length : ℤ) = _
      rw [Ensembler.length_pointsOf]
    have hadd : s.ensembler.addPrediction config prediction =
        some (⟨config.maxSourceHorizon + 1, []⟩, s.ensembler.fill config prediction) := by
      unfold Ensembler.addPrediction Ensembler.trimCapacity
      rw [if_pos hfinite, hcount, Int.toNat_of_nonpos (sub_nonpos.mpr hroom),
        Ensembler.length_pointsOf]
      rfl
    rw [Session.add_of_some hadd]
    refine ⟨hs.fill prediction, fun tick => ?_, hcount, rfl, rfl, rfl⟩
    show (bucket tick (s.ensembler.fill config prediction).byTick).map Ensembler.entry = _
    rw [Ensembler.bucket_fill, List.map_append, if_pos rfl]
    refine congrArg _ ?_
    -- An entry does not show the serial number.
    unfold Ensembler.pointsOf
    rw [List.filter_map, List.filter_map, List.map_map, List.map_map]
    rfl

theorem Same.add (h : Same s s') {prediction : Prediction dim δ}
    (hwithin : Within config s (.addPrediction prediction)) :
    Same (s.add config prediction) (s'.add config prediction) := by
  obtain ⟨hsound, hentries, -, haction, htick, hselections⟩ := add_within h.sound hwithin
  obtain ⟨hsound', hentries', -, haction', htick', hselections'⟩ :=
    add_within h.sound' (h.within hwithin)
  refine ⟨hsound, hsound', fun tick => ?_, ?_, ?_, ?_⟩
  · rw [hentries, hentries']
    exact (h.entries tick).append_right _
  · rw [haction, haction', h.lastAction]
  · rw [htick, htick', h.lastActionTick]
  · rw [hselections, hselections', h.selections]

/-- Two predictions may be added in either order. -/
theorem Same.swap (h : Same s s') {a b : Prediction dim δ}
    (ha : Within config s (.addPrediction a))
    (hb : Within config (s.add config a) (.addPrediction b)) :
    Within config s' (.addPrediction b) ∧
      Within config (s'.add config b) (.addPrediction a) ∧
      Same ((s.add config a).add config b) ((s'.add config b).add config a) := by
  obtain ⟨hsoundA, hentriesA, hcountA, hactionA, htickA, hselectionsA⟩ := add_within h.sound ha
  obtain ⟨hsoundB, hentriesB, -, hactionB, htickB, hselectionsB⟩ := add_within hsoundA hb
  have hnonneg : ∀ prediction : Prediction dim δ, 0 ≤ newCount config prediction := by
    intro prediction
    unfold newCount
    split_ifs
    · exact Int.natCast_nonneg _
    · exact le_rfl
  have hnew : ∀ prediction : Prediction dim δ,
      Ensembler.finiteChunk config prediction.chunk = true →
        newCount config prediction = (config.maxSourceHorizon + 1 : ℕ) := by
    intro prediction hfinite
    rw [newCount, if_pos hfinite]
  have hb' : Within config s' (.addPrediction b) := by
    rintro _ ⟨⟩ hfinite
    have hroom := hb b rfl hfinite
    have := hnonneg a
    rw [hcountA, h.entryCount] at hroom
    omega
  obtain ⟨hsoundB', hentriesB', hcountB', hactionB', htickB', hselectionsB'⟩ :=
    add_within h.sound' hb'
  have ha' : Within config (s'.add config b) (.addPrediction a) := by
    rintro _ ⟨⟩ hfinite
    rw [hcountB', ← h.entryCount]
    by_cases hfiniteB : Ensembler.finiteChunk config b.chunk = true
    · have hroom := hb b rfl hfiniteB
      rw [hcountA, hnew a hfinite] at hroom
      rw [hnew b hfiniteB]
      exact hroom
    · rw [newCount, if_neg hfiniteB, add_zero]
      exact ha a rfl hfinite
  obtain ⟨hsoundA', hentriesA', -, hactionA', htickA', hselectionsA'⟩ := add_within hsoundB' ha'
  refine ⟨hb', ha', hsoundB, hsoundA', fun tick => ?_, ?_, ?_, ?_⟩
  · rw [hentriesB, hentriesA, hentriesA', hentriesB', List.append_assoc, List.append_assoc]
    exact (h.entries tick).append List.perm_append_comm
  · rw [hactionB, hactionA, hactionA', hactionB', h.lastAction]
  · rw [htickB, htickA, htickA', htickB', h.lastActionTick]
  · rw [hselectionsB, hselectionsA, hselectionsA', hselectionsB', h.selections]

/-! ### Selections -/

omit [Double δ] in
/-- The selected entries, from the entries of the tick. -/
theorem map_selected (e : Ensembler dim δ) (commandTick : ℤ) :
    (e.selected config commandTick).map Ensembler.entry =
      (((bucket commandTick e.byTick).map Ensembler.entry).filter fun entry =>
        Ensembler.young config commandTick ⟨0, entry.1, entry.2⟩).mergeSort
          fun a b => Ensembler.keyLe a.1 b.1 := by
  unfold Ensembler.selected Ensembler.candidates
  rw [List.filter_map]
  exact List.map_mergeSort fun _ _ _ _ => rfl

omit [Double δ] in
/-- With distinct keys the order of the entries does not matter. -/
theorem Same.selected (h : Same s s') {commandTick : ℤ}
    (hkeys : ((s.entries commandTick).map fun entry => entry.1.key).Nodup) :
    (s.ensembler.selected config commandTick).map Ensembler.entry =
      (s'.ensembler.selected config commandTick).map Ensembler.entry := by
  rw [map_selected, map_selected]
  refine List.Perm.eq_of_pairwise (fun a b ha hb hab hba => ?_) (pairwise_sorted Prod.fst _)
    (pairwise_sorted Prod.fst _) ?_
  · have ha : a ∈ s.entries commandTick :=
      (List.mem_filter.mp (List.mem_mergeSort.mp ha)).1
    have hb : b ∈ s.entries commandTick :=
      (h.entries commandTick).mem_iff.mpr (List.mem_filter.mp (List.mem_mergeSort.mp hb)).1
    refine List.inj_on_of_nodup_map hkeys ha hb ?_
    unfold Earlier at hab hba
    exact Prod.ext (show a.1.queryCommandTick = b.1.queryCommandTick by omega)
      (show a.1.queryId = b.1.queryId by omega)
  · exact (List.mergeSort_perm _ _).trans
      (((h.entries commandTick).filter _).trans (List.mergeSort_perm _ _).symm)

theorem select_congr {e e' : Ensembler dim δ} {commandTick : ℤ}
    (hselected : (e.selected config commandTick).map Ensembler.entry =
      (e'.selected config commandTick).map Ensembler.entry)
    (haction : e.lastAction = e'.lastAction) (htick : e.lastActionTick = e'.lastActionTick) :
    (e.select config commandTick).1 = (e'.select config commandTick).1 ∧
      (e.select config commandTick).2.lastAction = (e'.select config commandTick).2.lastAction ∧
      (e.select config commandTick).2.lastActionTick =
        (e'.select config commandTick).2.lastActionTick := by
  have hkept : ∀ e : Ensembler dim δ,
      ((e.expireBefore commandTick).consume config commandTick).lastAction = e.lastAction ∧
        ((e.expireBefore commandTick).consume config commandTick).lastActionTick =
          e.lastActionTick := fun e => ⟨rfl, rfl⟩
  unfold Ensembler.select
  dsimp only
  rw [Ensembler.candidates_expireBefore, Ensembler.candidates_expireBefore, hselected]
  split_ifs
  · rw [(hkept e).1, (hkept e).2, (hkept e').1, (hkept e').2, haction, htick]
    exact ⟨rfl, rfl, rfl⟩
  · exact ⟨rfl, rfl, rfl⟩

theorem entries_select (s : Session dim δ) (commandTick tick : ℤ) :
    (s.call config (.select commandTick)).entries tick =
      if tick ≤ commandTick then [] else s.entries tick := by
  show (bucket tick (s.ensembler.select config commandTick).2.byTick).map Ensembler.entry = _
  rw [Ensembler.bucket_select]
  split_ifs <;> rfl

theorem Same.select (h : Same s s') {commandTick : ℤ}
    (hkeys : ((s.entries commandTick).map fun entry => entry.1.key).Nodup) :
    Same (s.call config (.select commandTick)) (s'.call config (.select commandTick)) := by
  obtain ⟨hanswer, haction, htick⟩ :=
    select_congr (h.selected hkeys) h.lastAction h.lastActionTick
  refine ⟨h.sound.select config commandTick, h.sound'.select config commandTick, fun tick => ?_,
    haction, htick, congrArg₂ List.cons hanswer h.selections⟩
  rw [entries_select, entries_select]
  split_ifs
  · exact .nil
  · exact h.entries tick

/-! ### Runs -/

variable (config) in
/-- The entries of a tick and the predictions to come have distinct keys. -/
def Fresh (s : Session dim δ) (calls : List (Call dim δ)) : Prop :=
  ∀ tick, ((s.entries tick).map (fun entry => entry.1.key) ++
    calls.filterMap (Call.key? config)).Nodup

omit [Double δ] in
theorem length_le_one {ε : Type*} {items : List ε} (hnodup : items.Nodup)
    (h : ∀ a ∈ items, ∀ b ∈ items, a = b) : items.length ≤ 1 := by
  cases items with
  | nil => exact Nat.zero_le 1
  | cons a rest =>
    cases rest with
    | nil => exact le_rfl
    | cons b rest =>
      have heq := h a List.mem_cons_self b (List.mem_cons_of_mem _ List.mem_cons_self)
      exact absurd (heq ▸ List.mem_cons_self) (List.nodup_cons.mp hnodup).1

theorem newEntries_sublist (prediction : Prediction dim δ) (tick : ℤ) :
    ((newEntries config prediction tick).map fun entry => entry.1.key).Sublist
      (Call.key? config (.addPrediction prediction)).toList := by
  have hkey : Call.key? config (.addPrediction prediction) =
      if Ensembler.finiteChunk config prediction.chunk then some prediction.key else none := rfl
  rw [hkey]
  unfold newEntries
  split_ifs
  · rw [List.map_map]
    have hkeys : ∀ key ∈ ((Ensembler.pointsOf config 0 prediction).filter fun point =>
        point.tick == tick).map ((fun entry => entry.1.key) ∘ Ensembler.entry),
        key = prediction.key := by
      intro key hkey
      obtain ⟨point, hpoint, rfl⟩ := List.mem_map.mp hkey
      obtain ⟨-, rfl, -⟩ := Buffers.mem_pointsOf.mp (List.mem_filter.mp hpoint).1
      rfl
    rw [List.eq_replicate_of_mem hkeys, List.length_map]
    refine (List.replicate_sublist_replicate _).mpr (length_le_one ?_ ?_)
    · refine List.Nodup.filter _ (List.Nodup.map ?_ List.nodup_range)
      intro a b hab
      exact (Point.mk.inj hab).2.2
    · intro a ha b hb
      obtain ⟨hmemA, htickA⟩ := List.mem_filter.mp ha
      obtain ⟨hmemB, htickB⟩ := List.mem_filter.mp hb
      obtain ⟨hserialA, hpredictionA, -⟩ := Buffers.mem_pointsOf.mp hmemA
      obtain ⟨hserialB, hpredictionB, -⟩ := Buffers.mem_pointsOf.mp hmemB
      have htick : a.tick = b.tick := (eq_of_beq htickA).trans (eq_of_beq htickB).symm
      obtain ⟨serialA, predictionA, horizonA⟩ := a
      obtain ⟨serialB, predictionB, horizonB⟩ := b
      obtain rfl : serialA = serialB := hserialA.trans hserialB.symm
      obtain rfl : predictionA = predictionB := hpredictionA.trans hpredictionB.symm
      have hhorizon : predictionA.queryCommandTick + (horizonA : ℤ) =
          predictionA.queryCommandTick + (horizonB : ℤ) := htick
      obtain rfl : horizonA = horizonB := by omega
      rfl
  · exact List.Sublist.refl _

/-- **A call keeps two sessions the same.** -/
theorem Same.call (h : Same s s') {c : Call dim δ} {calls : List (Call dim δ)}
    (hwithin : Within config s c) (hfresh : Fresh config s (c :: calls)) :
    Same (s.call config c) (s'.call config c) ∧ Fresh config (s.call config c) calls := by
  cases c with
  | addPrediction prediction =>
    refine ⟨h.add hwithin, fun tick => ?_⟩
    obtain ⟨-, hentries, -⟩ := add_within h.sound hwithin
    show (((s.add config prediction).entries tick).map _ ++ _).Nodup
    rw [hentries, List.map_append, List.append_assoc]
    refine (hfresh tick).sublist (List.Sublist.append_left ?_ _)
    have hcons : (Call.addPrediction prediction :: calls).filterMap (Call.key? config) =
        (Call.key? config (.addPrediction prediction)).toList ++
          calls.filterMap (Call.key? config) := by
      rw [List.filterMap_cons]
      cases Call.key? config (.addPrediction prediction) <;> rfl
    rw [hcons]
    exact (newEntries_sublist prediction tick).append_right _
  | select commandTick =>
    refine ⟨h.select (List.Nodup.of_append_left (hfresh commandTick)), fun tick => ?_⟩
    rw [entries_select]
    split_ifs
    · exact (List.Nodup.of_append_right (hfresh tick))
    · exact hfresh tick
  | reset =>
    exact ⟨⟨.reset _, .reset _, fun _ => .nil, rfl, rfl, h.selections⟩,
      fun tick => List.Nodup.of_append_right (hfresh tick)⟩

theorem Same.run (h : Same s s') {calls : List (Call dim δ)} (hfresh : Fresh config s calls)
    (hmeets : Meets (Session.call config) (Within config) s calls) :
    Same (run (Session.call config) s calls) (Lib.run (Session.call config) s' calls) ∧
      Fresh config (Lib.run (Session.call config) s calls) [] ∧
      Meets (Session.call config) (Within config) s' calls := by
  induction calls generalizing s s' with
  | nil => exact ⟨h, hfresh, trivial⟩
  | cons c calls ih =>
    obtain ⟨hwithin, hrest⟩ := hmeets
    obtain ⟨hsame, hfresh'⟩ := h.call hwithin hfresh
    obtain ⟨hrun, hlast, hmeets'⟩ := ih hsame hfresh' hrest
    exact ⟨hrun, hlast, h.within hwithin, hmeets'⟩

omit [Double δ] in
theorem Reordered.keys [Double δ] {calls others : List (Call dim δ)} (h : Reordered calls others) :
    (calls.filterMap (Call.key? config)).Perm (others.filterMap (Call.key? config)) := by
  induction h with
  | nil => exact .nil
  | cons c _ ih =>
    rw [List.filterMap_cons, List.filterMap_cons]
    cases Call.key? config c with
    | none => exact ih
    | some key => exact ih.cons key
  | swap a b calls => exact (List.Perm.swap ..).filterMap _
  | trans _ _ ihleft ihright => exact ihleft.trans ihright

theorem Reordered.run {calls others : List (Call dim δ)} (hreordered : Reordered calls others)
    (h : Same s s') (hfresh : Fresh config s calls)
    (hmeets : Meets (Session.call config) (Within config) s calls) :
    Same (run (Session.call config) s calls) (Lib.run (Session.call config) s' others) ∧
      Meets (Session.call config) (Within config) s' others := by
  induction hreordered generalizing s s' with
  | nil => exact ⟨h, trivial⟩
  | cons c _ ih =>
    obtain ⟨hwithin, hrest⟩ := hmeets
    obtain ⟨hsame, hfresh'⟩ := h.call hwithin hfresh
    obtain ⟨hrun, hmeets'⟩ := ih hsame hfresh' hrest
    exact ⟨hrun, h.within hwithin, hmeets'⟩
  | swap a b calls =>
    obtain ⟨ha, hb, hrest⟩ := hmeets
    obtain ⟨hfirst, hfreshA⟩ := (Same.refl h.sound).call ha hfresh
    obtain ⟨hsecond, hfreshB⟩ := hfirst.call hb hfreshA
    obtain ⟨hb', ha', hsame⟩ := h.swap ha hb
    obtain ⟨hrun, -, hmeets'⟩ := hsame.run hfreshB hrest
    exact ⟨hrun, hb', ha', hmeets'⟩
  | trans hleft _ ihleft ihright =>
    obtain ⟨hsame, hmiddle⟩ := ihleft (Same.refl h.sound) hfresh hmeets
    have hfreshMiddle : Fresh config s _ := fun tick =>
      (hleft.keys.append_left _).nodup_iff.mp (hfresh tick)
    obtain ⟨hlast, hmeets'⟩ := ihright h hfreshMiddle hmiddle
    exact ⟨hsame.trans hlast, hmeets'⟩

end Reorder

section Exact

variable [Field δ] [LinearOrder δ] [IsStrictOrderedRing δ] [Double δ] [Exact δ]

end Exact

/-- Chunks of one action, with the default coefficient. -/
noncomputable def defaultConfig : EnsemblerConfig ℝ where
  chunkSize := 1
  coefficient := Double.ofRat (1 / 100)
  maxSourceHorizon := 0
  maxPredictionAgeTicks := none
  capacity := 4096
  exp := Real.exp
  horizon_lt := Nat.zero_lt_one

open Extended

end HandLab.Act.AbsoluteTime
