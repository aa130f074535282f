import HandLab.Teleoperation.Se3

/-!
# The plane fit

`fit_plane_ransac` of `src/vision_interface/depth_processing.py` (lines 328–402) with
`_unit_vector` and `_refine_plane` (lines 536–554). The points have shape `(N, 3)`. The random
choices are an argument, and so is the last row of `vh` that `np.linalg.svd` returns.
-/

namespace HandLab.Vision

open HandLab.Lib Double NumPy
open HandLab.Teleoperation (Vector3 allFinite negated)

/-- `NumPy` with `np.deg2rad`. -/
class PlaneMath (δ : Type*) extends NumPy δ where
  deg2rad : δ → δ

-- the literal below, as one constant
local instance atLeastTwo_halfTurn : Nat.AtLeastTwo 180 := ⟨by decide⟩

/-- Exact real arithmetic. -/
noncomputable instance : PlaneMath ℝ where
  deg2rad degrees := degrees * (Real.pi / 180)

/-- What a call raises. -/
inductive FitError
  | valueError (text : String)
  | runtimeError (text : String)
  | indexError
  deriving DecidableEq, Repr

/-- The keyword arguments of `fit_plane_ransac`, with their defaults. -/
structure FitOptions (δ : Type*) [Double δ] where
  distanceThresholdM : δ := ofRat 0.008
  maxIterations : ℤ := 300
  minInliers : ℤ := 100
  normalHint : Option (List δ) := none
  maxNormalAngleDeg : Option δ := none

/-- `PlaneModel`. `rmse_m` is missing where it is the mean of nothing, which is NaN. -/
structure PlaneModel (δ : Type*) where
  normal : Vector3 δ
  offsetM : δ
  inlierCount : ℕ
  rmseM : Option δ

/-- `normal` and `offset`. -/
structure Plane (δ : Type*) where
  normal : Vector3 δ
  offset : δ

/-- `hint` and `min_hint_dot`. -/
structure NormalGate (δ : Type*) where
  hint : Option (Vector3 δ)
  minHintDot : δ

variable {δ : Type*} [PlaneMath δ]

/-! ## Vectors -/

/-- `np.mean`, of something. -/
def mean (values : List δ) : δ := div (values.foldl add zero) (ofInt values.length)

/-- `np.mean`. -/
def mean? (values : List δ) : Option δ := if values = [] then none else some (mean values)

/-- `np.cross`. -/
def cross (a b : Vector3 δ) : Vector3 δ :=
  ![sub (mul (a 1) (b 2)) (mul (a 2) (b 1)), sub (mul (a 2) (b 0)) (mul (a 0) (b 2)),
    sub (mul (a 0) (b 1)) (mul (a 1) (b 0))]

/-- `a - b`. -/
def difference (a b : Vector3 δ) : Vector3 δ := fun i => sub (a i) (b i)

/-- `_unit_vector` with `_xyz_vector` (lines 529–541). -/
def unitVector (value : List δ) (name : String) : Except FitError (Vector3 δ) :=
  if h : value.length = 3 then
    if !value.all isFinite then .error (.valueError (name ++ " must contain three finite values."))
    else
      let vector : Vector3 δ := fun i => value.get (i.cast h.symm)
      if le (norm vector) (ofRat (1 / 10 ^ 12)) then
        .error (.valueError (name ++ " must be non-zero."))
      else .ok fun i => div (vector i) (norm vector)
  else .error (.valueError (name ++ " must contain three finite values."))

/-! ## Planes -/

/-- `np.abs(points @ normal + offset)` at a point. -/
def Plane.distance (plane : Plane δ) (point : Vector3 δ) : δ :=
  abs (add (dot point plane.normal) plane.offset)

/-- `distances <= distance_threshold_m`. -/
def Plane.mask (plane : Plane δ) (threshold : δ) (points : List (Vector3 δ)) : List Bool :=
  points.map fun point => le (plane.distance point) threshold

/-- `values[mask]`. -/
def select {α : Type*} (values : List α) (mask : List Bool) : List α :=
  (values.zip mask).filterMap fun entry => if entry.2 then some entry.1 else none

/-- `int(np.count_nonzero(mask))`. -/
def countNonzero (mask : List Bool) : ℕ := mask.count true

/-- `hint is not None and float(normal @ hint) < min_hint_dot`. -/
def NormalGate.violatedBy (gate : NormalGate δ) (normal : Vector3 δ) : Bool :=
  gate.hint.any fun hint => lt (dot normal hint) gate.minHintDot

/-- `-normal` if it points away from the hint. -/
def towards (hint normal : Vector3 δ) : Vector3 δ :=
  if lt (dot normal hint) zero then fun i => negated (normal i) else normal

/-- The plane through three sampled points, unless it is skipped (lines 364–373). -/
def sampledPlane? (gate : NormalGate δ) (a b c : Vector3 δ) : Option (Plane δ) :=
  let normal := cross (difference b a) (difference c a)
  let length := norm normal
  if le length (ofRat (1 / 10 ^ 12)) then none
  else
    let unit : Vector3 δ := fun i => div (normal i) length
    let unit := (gate.hint.map fun hint => towards hint unit).getD unit
    if gate.violatedBy unit then none else some ⟨unit, negated (dot unit a)⟩

/-- `best_mask`, `best_count` and `best_error`, which is missing while it is `np.inf`. -/
structure Best (δ : Type*) where
  mask : Option (List Bool) := none
  count : ℕ := 0
  error : Option δ := none

/-- `error < best_error`. -/
def errorLess : Option δ → Option δ → Bool
  | some error, some best => lt error best
  | some _, none => true
  | none, _ => false

/-- The comparison with the best sample (lines 374–379). -/
def Best.consider (best : Best δ) (points : List (Vector3 δ)) (threshold : δ) (plane : Plane δ) :
    Best δ :=
  let mask := plane.mask threshold points
  let count := countNonzero mask
  let error := mean? (select (points.map plane.distance) mask)
  if best.count < count ∨ (count = best.count ∧ errorLess error best.error) then
    ⟨some mask, count, error⟩
  else best

/-- The entry of largest magnitude, the first one of equals. -/
def dominant (normal : Vector3 δ) : Fin 3 :=
  let first : Fin 3 := if lt (abs (normal 0)) (abs (normal 1)) then 1 else 0
  if lt (abs (normal first)) (abs (normal 2)) then 2 else first

/-- The sign that `_refine_plane` gives to a normal (lines 547–552). -/
def oriented (hint : Option (Vector3 δ)) (normal : Vector3 δ) : Vector3 δ :=
  match hint with
  | some hint => towards hint normal
  | none => if lt (normal (dominant normal)) zero then fun i => negated (normal i) else normal

/-- `np.mean(points, axis=0)`. -/
def meanPoint (points : List (Vector3 δ)) : Vector3 δ := fun i => mean (points.map (· i))

/-- `_refine_plane` (lines 543–554). Without points `vh` has no row to take. -/
def refinePlane (svdLast : List (Vector3 δ) → Vector3 δ) (points : List (Vector3 δ))
    (hint : Option (Vector3 δ)) : Except FitError (Plane δ) :=
  if points = [] then .error .indexError
  else
    let centroid := meanPoint points
    let normal := oriented hint (svdLast (points.map fun point => difference point centroid))
    .ok ⟨normal, negated (dot normal centroid)⟩

/-! ## The fit -/

/-- `hint` (line 347). -/
def unitHint : Option (List δ) → Except FitError (Option (Vector3 δ))
  | none => .ok none
  | some value => (unitVector value "normal_hint").map some

/-- `min_hint_dot` (lines 348–354). -/
def normalGate (hint : Option (Vector3 δ)) : Option δ → Except FitError (NormalGate δ)
  | none => .ok ⟨hint, ofRat (-1)⟩
  | some angle =>
    if hint.isNone then
      .error (.valueError "normal_hint is required when max_normal_angle_deg is set.")
    else if !(le zero angle && lt angle (ofRat 90)) then
      .error (.valueError "max_normal_angle_deg must be in [0, 90).")
    else .ok ⟨hint, cos (PlaneMath.deg2rad angle)⟩

section Fit

variable (points : List (Vector3 δ)) (options : FitOptions δ)

/-- The checks of the arguments (lines 338–356), for points of shape `(N, 3)`. -/
def checkArguments : Except FitError (NormalGate δ) := do
  if !points.all allFinite then
    throw (.valueError "points_m must be a finite array with shape (N, 3).")
  if points.length < 3 then
    throw (.valueError "At least three points are required to fit a plane.")
  if le options.distanceThresholdM zero ∨ options.maxIterations ≤ 0 ∨ options.minInliers < 3 then
    throw (.valueError "Plane thresholds, iterations, and min_inliers must be positive.")
  if points.length < options.minInliers then
    throw (.valueError "min_inliers exceeds the number of input points.")
  let hint ← unitHint options.normalHint
  normalGate hint options.maxNormalAngleDeg

/-- `rng.choice(len(points), size=3, replace=False)` of each iteration. -/
abbrev Choices (n : ℕ) := 3 ≤ n → ℕ → (Fin 3 ↪ Fin n)

/-- The loop (lines 358–379). -/
def search (gate : NormalGate δ) (choice : ℕ → (Fin 3 ↪ Fin points.length)) : Best δ :=
  (List.range options.maxIterations.toNat).foldl (fun best k =>
    let sample (i : Fin 3) := points.get (choice k i)
    match sampledPlane? gate (sample 0) (sample 1) (sample 2) with
    | none => best
    | some plane => best.consider points options.distanceThresholdM plane) {}

/-- `No plane reached min_inliers=…; best inlier count was ….` -/
def noPlane (count : ℕ) : FitError :=
  .runtimeError ("No plane reached min_inliers=" ++ toString options.minInliers ++
    "; best inlier count was " ++ toString count ++ ".")

/-- The result for the plane that was refined last (lines 393–402). -/
def planeResult (plane : Plane δ) : PlaneModel δ × List Bool :=
  let distances := points.map plane.distance
  let inliers := plane.mask options.distanceThresholdM points
  let squares := (select distances inliers).map fun distance => mul distance distance
  (⟨plane.normal, plane.offset, countNonzero inliers, (mean? squares).map sqrt⟩, inliers)

/-- The two refinements (lines 386–402). -/
def refineTwice (svdLast : List (Vector3 δ) → Vector3 δ) (gate : NormalGate δ)
    (mask : List Bool) : Except FitError (PlaneModel δ × List Bool) := do
  let first ← refinePlane svdLast (select points mask) gate.hint
  if gate.violatedBy first.normal then
    throw (.runtimeError "Refined plane violates the requested normal constraint.")
  let inliers := first.mask options.distanceThresholdM points
  if countNonzero inliers < options.minInliers then
    throw (.runtimeError "Refined plane no longer satisfies min_inliers.")
  let second ← refinePlane svdLast (select points inliers) gate.hint
  return planeResult points options second

/-- `fit_plane_ransac` (lines 328–402). -/
def fitPlaneRansac (svdLast : List (Vector3 δ) → Vector3 δ) (choices : Choices points.length) :
    Except FitError (PlaneModel δ × List Bool) := do
  let gate ← checkArguments points options
  if h : 3 ≤ points.length then
    let best := search points options gate (choices h)
    match best.mask with
    | none => throw (noPlane options best.count)
    | some mask =>
      if best.count < options.minInliers then throw (noPlane options best.count)
      refineTwice points options svdLast gate mask
  else
    -- not reached: `checkArguments` has raised
    throw .indexError

end Fit

end HandLab.Vision
