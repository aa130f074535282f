import HandLab.Lib.LeastSquares
import HandLab.Vision.Plane
import Mathlib.Analysis.InnerProductSpace.PiL2
import Mathlib.Geometry.Euclidean.Angle.Unoriented.Basic

/-!
# What the plane fit returns

`fit_plane_ransac` refines the plane twice. The angle to the hint and the number of inliers are
checked between the two, on the plane that is then replaced.

* `Fitted`: what a result should be, in exact real arithmetic.
* `fit_cases`: how a call returns.
* `plane_fit`: the result is measured as it should be, and it passes the checks if the first
  refinement keeps the inliers of the best sample.
* `tilted_fit`: a call that returns a plane tilted further than allowed.
-/

namespace HandLab.Vision

open HandLab.Lib Matrix InnerProductGeometry
open HandLab.Teleoperation (Vector3 allFinite negated)

/-! ## Vectors and lists -/

section Lists

theorem select_map {α β : Type*} (values : List α) (f : α → β) (p : α → Bool) :
    select (values.map f) (values.map p) = (values.filter p).map f := by
  induction values with
  | nil => rfl
  | cons a l ih =>
    unfold select at ih ⊢
    cases h : p a <;> simp [h, ih]

theorem countNonzero_map {α : Type*} (values : List α) (p : α → Bool) :
    countNonzero (values.map p) = (values.filter p).length := by
  unfold countNonzero
  rw [List.count, List.countP_map, List.countP_eq_length_filter]
  congr 2
  funext a
  simp

theorem foldl_add (values : List ℝ) (start : ℝ) :
    values.foldl Double.add start = start + values.sum := by
  induction values generalizing start with
  | nil => simp
  | cons x l ih =>
    rw [List.foldl_cons, ih, List.sum_cons, Exact.add_eq, add_assoc]

theorem mean_map {α : Type*} (l : List α) (f : α → ℝ) : mean (l.map f) = meanOver l f := by
  unfold mean meanOver
  rw [foldl_add, Exact.zero_eq, zero_add, Exact.div_eq, List.length_map]
  simp [Double.ofInt]

theorem meanPoint_eq (points : List (Vector3 ℝ)) : meanPoint points = centroid points := by
  funext i
  exact mean_map points fun p => p i

theorem dot_eq (v w : Vector3 ℝ) : (NumPy.dot v w : ℝ) = v ⬝ᵥ w := rfl

theorem negated_eq (v : Vector3 ℝ) : (fun i => negated (v i)) = -v := by
  funext i
  simp [negated]

theorem difference_eq (v w : Vector3 ℝ) : difference v w = v - w := by
  funext i
  simp [difference]

theorem distance_eq (plane : Plane ℝ) (p : Vector3 ℝ) :
    plane.distance p = |p ⬝ᵥ plane.normal + plane.offset| := by
  unfold Plane.distance
  rw [Exact.abs_eq, Exact.add_eq, dot_eq]

/-- The points near a plane. -/
noncomputable def near (points : List (Vector3 ℝ)) (plane : Plane ℝ) (t : ℝ) :
    List (Vector3 ℝ) :=
  points.filter fun p => decide (|p ⬝ᵥ plane.normal + plane.offset| ≤ t)

variable {points : List (Vector3 ℝ)} {plane : Plane ℝ} {t : ℝ}

theorem mask_eq : plane.mask t points =
    points.map fun p => decide (|p ⬝ᵥ plane.normal + plane.offset| ≤ t) := by
  unfold Plane.mask
  simp only [distance_eq, Exact.le_eq]

theorem select_mask {β : Type*} (f : Vector3 ℝ → β) :
    select (points.map f) (plane.mask t points) = (near points plane t).map f := by
  rw [mask_eq, select_map]
  rfl

theorem select_points : select points (plane.mask t points) = near points plane t := by
  have h : select (points.map id) (plane.mask t points) = (near points plane t).map id :=
    select_mask id
  rwa [List.map_id, List.map_id] at h

theorem countNonzero_mask : countNonzero (plane.mask t points) = (near points plane t).length := by
  rw [mask_eq, countNonzero_map]
  rfl

end Lists

/-! ## Normals -/

section Normals

/-- A sign makes a unit vector of a unit vector. -/
theorem towards_cases (hint normal : Vector3 ℝ) :
    towards hint normal = normal ∨ towards hint normal = -normal := by
  unfold towards
  split
  · exact .inr (negated_eq normal)
  · exact .inl rfl

theorem oriented_cases (hint : Option (Vector3 ℝ)) (normal : Vector3 ℝ) :
    oriented hint normal = normal ∨ oriented hint normal = -normal := by
  unfold oriented
  split
  · exact towards_cases _ normal
  · split
    · exact .inr (negated_eq normal)
    · exact .inl rfl

theorem norm_eq_sqrt (v : Vector3 ℝ) : (NumPy.norm v : ℝ) = √(v ⬝ᵥ v) := rfl

theorem inner_toLp (v w : Vector3 ℝ) : inner ℝ (WithLp.toLp 2 v) (WithLp.toLp 2 w) = v ⬝ᵥ w := by
  rw [EuclideanSpace.inner_toLp_toLp]
  exact dotProduct_comm w v

theorem norm_toLp (v : Vector3 ℝ) : ‖WithLp.toLp 2 v‖ = √(v ⬝ᵥ v) := by
  rw [← inner_toLp, real_inner_self_eq_norm_sq, Real.sqrt_sq (norm_nonneg _)]

/-- The three components of a hint. -/
def hintVector (value : List ℝ) : Vector3 ℝ := fun i => value.getD i 0

/-- What `_unit_vector` returns. -/
theorem unitVector_ok {value : List ℝ} {name : String} {unit : Vector3 ℝ}
    (h : unitVector value name = .ok unit) :
    unit = ‖WithLp.toLp 2 (hintVector value)‖⁻¹ • hintVector value := by
  unfold unitVector at h
  split at h
  · rename_i hlength
    have hvector : (fun i : Fin 3 => value.get (i.cast hlength.symm)) = hintVector value := by
      funext i
      simp [hintVector, hlength]
    simp only [hvector] at h
    split at h
    · contradiction
    split at h
    · contradiction
    rw [norm_eq_sqrt, ← norm_toLp] at h
    rw [← Except.ok.inj h]
    funext i
    rw [Exact.div_eq, Pi.smul_apply, smul_eq_mul, div_eq_inv_mul]
    exact congrArg _ (congrFun hvector i)
  · contradiction

/-- The cosine with the normalized hint is at least that of `limit` exactly if the angle to the
    hint is at most `limit`. -/
theorem cos_le_dot_iff {normal hint : Vector3 ℝ} (hnormal : normal ⬝ᵥ normal = 1)
    {limit : ℝ} (hzero : 0 ≤ limit) (hpi : limit ≤ Real.pi) :
    Real.cos limit ≤ normal ⬝ᵥ (‖WithLp.toLp 2 hint‖⁻¹ • hint) ↔
      angle (WithLp.toLp 2 normal) (WithLp.toLp 2 hint) ≤ limit := by
  have hunit : ‖WithLp.toLp 2 normal‖ = 1 := by rw [norm_toLp, hnormal, Real.sqrt_one]
  have hcos : Real.cos (angle (WithLp.toLp 2 normal) (WithLp.toLp 2 hint)) =
      normal ⬝ᵥ (‖WithLp.toLp 2 hint‖⁻¹ • hint) := by
    rw [cos_angle, inner_toLp, hunit, one_mul, dotProduct_smul, smul_eq_mul, div_eq_inv_mul]
  rw [← hcos]
  exact Real.strictAntiOn_cos.le_iff_ge ⟨hzero, hpi⟩ ⟨angle_nonneg _ _, angle_le_pi _ _⟩

end Normals

/-! ## What a call checks -/

section Checks

variable {points : List (Vector3 ℝ)} {options : FitOptions ℝ} {gate : NormalGate ℝ}

/-- The number of inliers and the direction of a plane are as requested. -/
def Accepted (points : List (Vector3 ℝ)) (options : FitOptions ℝ) (gate : NormalGate ℝ)
    (plane : Plane ℝ) : Prop :=
  gate.violatedBy plane.normal = false ∧
    options.minInliers ≤ (near points plane options.distanceThresholdM).length

/-- What the checks of the arguments leave. -/
structure Checked (points : List (Vector3 ℝ)) (options : FitOptions ℝ) (gate : NormalGate ℝ) :
    Prop where
  length : 3 ≤ points.length
  minInliers : 3 ≤ options.minInliers
  hint : gate.hint = options.normalHint.map fun value =>
    ‖WithLp.toLp 2 (hintVector value)‖⁻¹ • hintVector value
  angle : ∀ limit, options.maxNormalAngleDeg = some limit →
    0 ≤ limit ∧ limit < 90 ∧ gate.minHintDot = Real.cos (limit * (Real.pi / 180))
  noAngle : options.maxNormalAngleDeg = none → gate.minHintDot = -1

theorem unitHint_ok {value : Option (List ℝ)} {hint : Option (Vector3 ℝ)}
    (h : unitHint value = .ok hint) :
    hint = value.map fun value => ‖WithLp.toLp 2 (hintVector value)‖⁻¹ • hintVector value := by
  cases value with
  | none => exact (Except.ok.inj h).symm
  | some value =>
    change (unitVector value "normal_hint").map some = .ok hint at h
    cases hunit : unitVector value "normal_hint" with
    | error e =>
      rw [hunit] at h
      contradiction
    | ok unit =>
      rw [hunit] at h
      rw [← Except.ok.inj h, unitVector_ok hunit]
      rfl

theorem normalGate_ok {hint : Option (Vector3 ℝ)} {angle : Option ℝ}
    (h : normalGate hint angle = .ok gate) :
    gate.hint = hint ∧ (angle = none → gate.minHintDot = -1) ∧
      ∀ limit, angle = some limit → hint.isSome ∧ 0 ≤ limit ∧ limit < 90 ∧
        gate.minHintDot = Real.cos (limit * (Real.pi / 180)) := by
  cases angle with
  | none =>
    obtain rfl := Except.ok.inj h
    exact ⟨rfl, fun _ => by simp, nofun⟩
  | some limit =>
    unfold normalGate at h
    dsimp only at h
    split at h
    · contradiction
    rename_i hhint
    split at h
    · contradiction
    rename_i hrange
    obtain rfl := Except.ok.inj h
    refine ⟨rfl, nofun, ?_⟩
    intro limit' hlimit
    obtain rfl := Option.some.inj hlimit
    simp only [Exact.le_eq, Exact.zero_eq, Exact.lt_eq, Exact.ofRat_eq, Bool.not_eq_true',
      Bool.and_eq_false_iff, decide_eq_false_iff_not, not_or, not_not] at hrange
    refine ⟨Option.isSome_iff_ne_none.mpr (by simpa using hhint), hrange.1, ?_, rfl⟩
    exact_mod_cast hrange.2

theorem checkArguments_ok (h : checkArguments points options = .ok gate) :
    Checked points options gate := by
  unfold checkArguments at h
  simp only [bind, Except.bind, throw, throwThe, MonadExceptOf.throw] at h
  split at h
  · contradiction
  split at h
  · contradiction
  rename_i hlength
  split at h
  · contradiction
  rename_i hpositive
  split at h
  · contradiction
  split at h
  · contradiction
  rename_i hint hhint
  obtain ⟨hgate, hnone, hsome⟩ := normalGate_ok h
  rw [unitHint_ok hhint] at hgate
  constructor
  · exact not_lt.mp hlength
  · exact not_lt.mp fun hlt => hpositive (.inr (.inr hlt))
  · exact hgate
  · exact fun limit hlimit => (hsome limit hlimit).2
  · exact hnone

/-- The mask and the count are those of a plane. -/
def Best.OfPlane (best : Best ℝ) (points : List (Vector3 ℝ)) (t : ℝ) : Prop :=
  ∀ mask, best.mask = some mask → ∃ plane : Plane ℝ, mask = plane.mask t points ∧
    best.count = countNonzero mask

theorem consider_ofPlane {best : Best ℝ} {t : ℝ} (h : best.OfPlane points t) (plane : Plane ℝ) :
    (best.consider points t plane).OfPlane points t := by
  unfold Best.consider
  extract_lets mask count error
  split
  · intro mask' hmask
    obtain rfl := Option.some.inj hmask
    exact ⟨plane, rfl, rfl⟩
  · exact h

theorem search_ofPlane (choice : ℕ → (Fin 3 ↪ Fin points.length)) :
    (search points options gate choice).OfPlane points options.distanceThresholdM := by
  have hempty : ({} : Best ℝ).OfPlane points options.distanceThresholdM := by
    intro mask hmask
    contradiction
  unfold search
  refine List.foldlRecOn (motive := fun best : Best ℝ =>
    best.OfPlane points options.distanceThresholdM) _ _ hempty ?_
  intro best h k _
  dsimp only
  split
  · exact h
  · exact consider_ofPlane h _

end Checks

/-! ## The result -/

/-- What `np.linalg.svd` returns last is a least-squares normal of three or more rows. -/
def LeastSquaresSvd (svdLast : List (Vector3 ℝ) → Vector3 ℝ) : Prop :=
  ∀ rows, 3 ≤ rows.length → IsLeastSquaresNormal rows (svdLast rows)

/-- A result describes the plane that it returns. -/
structure Measured (points : List (Vector3 ℝ)) (options : FitOptions ℝ)
    (result : PlaneModel ℝ × List Bool) : Prop where
  unit : NumPy.norm result.1.normal = 1
  inliers : result.2 = points.map fun p =>
    decide (|p ⬝ᵥ result.1.normal + result.1.offsetM| ≤ options.distanceThresholdM)
  count : result.1.inlierCount = countNonzero result.2
  /-- the mean is not one of nothing -/
  nonempty : select points result.2 ≠ []
  rmse : result.1.rmseM = some √(meanOver (select points result.2) fun p =>
    (p ⬝ᵥ result.1.normal + result.1.offsetM) ^ 2)

/-- What a result should be. -/
structure Fitted (points : List (Vector3 ℝ)) (options : FitOptions ℝ)
    (result : PlaneModel ℝ × List Bool) : Prop extends Measured points options result where
  enough : options.minInliers ≤ result.1.inlierCount
  tilt : ∀ hint limit, options.normalHint = some hint → options.maxNormalAngleDeg = some limit →
    angle (WithLp.toLp 2 result.1.normal) (WithLp.toLp 2 (hintVector hint)) ≤
      limit * (Real.pi / 180)

section Result

variable {svdLast : List (Vector3 ℝ) → Vector3 ℝ} {points : List (Vector3 ℝ)}
  {options : FitOptions ℝ} {gate : NormalGate ℝ} {choices : Choices points.length}

theorem refinePlane_ok {plane : Plane ℝ} {hint : Option (Vector3 ℝ)}
    (hsvd : LeastSquaresSvd svdLast) (hlength : 3 ≤ points.length)
    (h : refinePlane svdLast points hint = .ok plane) :
    IsLeastSquaresNormal (points.map fun p => p - centroid points) plane.normal ∧
      plane.offset = -(centroid points ⬝ᵥ plane.normal) := by
  unfold refinePlane at h
  split at h
  · contradiction
  dsimp only at h
  obtain rfl := Except.ok.inj h
  simp only [meanPoint_eq, difference_eq]
  refine ⟨?_, ?_⟩
  · have hnormal := hsvd (points.map fun p => p - centroid points) (by simpa using hlength)
    rcases oriented_cases hint (svdLast (points.map fun p => p - centroid points)) with h | h
    · rwa [h]
    · rw [h]
      exact hnormal.neg
  · rw [dot_eq, dotProduct_comm]
    simp [negated]

theorem refinePlane_total (svdLast : List (Vector3 ℝ) → Vector3 ℝ) (hpoints : points ≠ [])
    (hint : Option (Vector3 ℝ)) :
    ∃ plane, refinePlane svdLast points hint = .ok plane := by
  unfold refinePlane
  rw [if_neg hpoints]
  exact ⟨_, rfl⟩

/-- The plane `second` is refined from the points near `first`, which is refined from the points
    near the best sample and has passed both checks. -/
structure Refines (svdLast : List (Vector3 ℝ) → Vector3 ℝ) (points : List (Vector3 ℝ))
    (options : FitOptions ℝ) (choices : Choices points.length) (gate : NormalGate ℝ)
    (first second : Plane ℝ) : Prop where
  checked : checkArguments points options = .ok gate
  refined : ∃ h mask, (search points options gate (choices h)).mask = some mask ∧
    options.minInliers ≤ (search points options gate (choices h)).count ∧
    refinePlane svdLast (select points mask) gate.hint = .ok first
  accepted : Accepted points options gate first
  again : refinePlane svdLast (near points first options.distanceThresholdM) gate.hint =
    .ok second

/-- An error that the source names. -/
def Raises {α : Type*} (outcome : Except FitError α) : Prop :=
  ∃ e, e ≠ .indexError ∧ outcome = .error e

theorem raises_runtimeError {α : Type*} (text : String) :
    Raises (.error (.runtimeError text) : Except FitError α) :=
  ⟨.runtimeError text, nofun, rfl⟩

theorem unitVector_error {value : List ℝ} {name : String} {e : FitError}
    (h : unitVector value name = .error e) : e ≠ .indexError := by
  unfold unitVector at h
  split at h
  · split at h
    · rw [← Except.error.inj h]
      nofun
    dsimp only at h
    split at h
    · rw [← Except.error.inj h]
      nofun
    · contradiction
  · rw [← Except.error.inj h]
    nofun

theorem checkArguments_error {e : FitError} (h : checkArguments points options = .error e) :
    e ≠ .indexError := by
  have htext (text : String) (h : (.error (.valueError text) : Except FitError (NormalGate ℝ)) =
      .error e) : e ≠ .indexError := by
    rw [← Except.error.inj h]
    nofun
  unfold checkArguments at h
  simp only [bind, Except.bind, throw, throwThe, MonadExceptOf.throw] at h
  split at h
  · exact htext _ h
  split at h
  · exact htext _ h
  split at h
  · exact htext _ h
  split at h
  · exact htext _ h
  split at h
  · rename_i e' hhint
    obtain rfl := Except.error.inj h
    cases hvalue : options.normalHint with
    | none =>
      rw [hvalue] at hhint
      contradiction
    | some value =>
      rw [hvalue] at hhint
      change (unitVector value "normal_hint").map some = .error e' at hhint
      cases hunit : unitVector value "normal_hint" with
      | error e'' =>
        rw [hunit] at hhint
        obtain rfl := Except.error.inj hhint
        exact unitVector_error hunit
      | ok unit =>
        rw [hunit] at hhint
        contradiction
  · unfold normalGate at h
    split at h
    · contradiction
    split at h
    · exact htext _ h
    split at h
    · exact htext _ h
    · contradiction

/-- A mask that counts some points selects some. -/
theorem select_ne_nil {plane : Plane ℝ} {t : ℝ}
    (h : 0 < (near points plane t).length) : select points (plane.mask t points) ≠ [] := by
  rw [select_points]
  exact List.length_pos_iff.mp h

theorem refineTwice_cases (svdLast : List (Vector3 ℝ) → Vector3 ℝ) (gate : NormalGate ℝ)
    {mask : List Bool} (hmask : select points mask ≠ [])
    (hinliers : 3 ≤ options.minInliers) :
    (∃ first second, refinePlane svdLast (select points mask) gate.hint = .ok first ∧
      Accepted points options gate first ∧
      refinePlane svdLast (near points first options.distanceThresholdM) gate.hint = .ok second ∧
      refineTwice points options svdLast gate mask = .ok (planeResult points options second)) ∨
    Raises (refineTwice points options svdLast gate mask) := by
  obtain ⟨first, hfirst⟩ := refinePlane_total svdLast hmask gate.hint
  unfold refineTwice
  rw [hfirst]
  simp only [bind, Except.bind, throw, throwThe, MonadExceptOf.throw, pure, Except.pure]
  split
  · exact .inr (raises_runtimeError _)
  rename_i hdirection
  rw [countNonzero_mask, select_points]
  split
  · exact .inr (raises_runtimeError _)
  rename_i henough
  have henough := not_lt.mp henough
  have hnear : near points first options.distanceThresholdM ≠ [] := by
    intro hnil
    rw [hnil] at henough
    simp only [List.length_nil] at henough
    omega
  obtain ⟨second, hsecond⟩ := refinePlane_total svdLast hnear gate.hint
  refine .inl ⟨first, second, rfl, ⟨by simpa using hdirection, henough⟩, hsecond, ?_⟩
  rw [hsecond]

/-- A call returns the plane that is refined last, or raises one of its errors. -/
theorem fit_cases (svdLast : List (Vector3 ℝ) → Vector3 ℝ) (choices : Choices points.length) :
    (∃ gate first second, Refines svdLast points options choices gate first second ∧
      fitPlaneRansac points options svdLast choices = .ok (planeResult points options second)) ∨
    Raises (fitPlaneRansac points options svdLast choices) := by
  unfold fitPlaneRansac
  cases hgate : checkArguments points options with
  | error e => exact .inr ⟨e, checkArguments_error hgate, rfl⟩
  | ok gate =>
    have hchecked := checkArguments_ok hgate
    simp only [bind, Except.bind, dif_pos hchecked.length, throw, throwThe, MonadExceptOf.throw]
    split
    · exact .inr (raises_runtimeError _)
    rename_i mask hmask
    split
    · exact .inr (raises_runtimeError _)
    rename_i henough
    have henough := not_lt.mp henough
    -- the best sample counts at least three points
    obtain ⟨plane, rfl, hcount⟩ := search_ofPlane (choices hchecked.length) mask hmask
    have hselect : select points (plane.mask options.distanceThresholdM points) ≠ [] := by
      apply select_ne_nil
      rw [hcount, countNonzero_mask] at henough
      have := hchecked.minInliers
      omega
    rcases refineTwice_cases svdLast gate hselect hchecked.minInliers with
      ⟨first, second, hfirst, haccepted, hsecond, hresult⟩ | hraises
    · exact .inl ⟨gate, first, second,
        ⟨hgate, ⟨_, _, hmask, henough, hfirst⟩, haccepted, hsecond⟩, hresult⟩
    · exact .inr hraises

variable {first second : Plane ℝ}

theorem fit_of_refines
    (h : Refines svdLast points options choices gate first second) :
    fitPlaneRansac points options svdLast choices = .ok (planeResult points options second) := by
  obtain ⟨hchecked, ⟨hlength, mask, hmask, henough, hfirst⟩, ⟨hdirection, hinliers⟩, hsecond⟩ := h
  unfold fitPlaneRansac
  simp only [hchecked, bind, Except.bind, dif_pos hlength, hmask]
  rw [if_neg (not_lt.mpr henough)]
  unfold refineTwice
  simp only [hfirst, hdirection, countNonzero_mask, select_points, hsecond, bind, Except.bind]
  rw [if_neg (not_lt.mpr hinliers)]
  rfl

theorem Refines.normals (hsvd : LeastSquaresSvd svdLast)
    (h : Refines svdLast points options choices gate first second) :
    first.normal ⬝ᵥ first.normal = 1 ∧
      IsLeastSquaresNormal ((near points first options.distanceThresholdM).map fun p =>
        p - centroid (near points first options.distanceThresholdM)) second.normal ∧
      second.offset =
        -(centroid (near points first options.distanceThresholdM) ⬝ᵥ second.normal) := by
  have hinliers := (checkArguments_ok h.checked).minInliers
  obtain ⟨hlength, mask, hmask, henough, hfirst⟩ := h.refined
  obtain ⟨plane, rfl, hcount⟩ := search_ofPlane (choices hlength) mask hmask
  rw [hcount, countNonzero_mask] at henough
  rw [select_points] at hfirst
  refine ⟨(refinePlane_ok hsvd (by omega) hfirst).1.unit, ?_⟩
  have haccepted := h.accepted.2
  exact refinePlane_ok hsvd (by omega) h.again

/-- The gate lets a normal pass exactly if it is within the angle. -/
theorem violatedBy_iff (h : Checked points options gate) {normal : Vector3 ℝ}
    (hnormal : normal ⬝ᵥ normal = 1) : gate.violatedBy normal = false ↔
      ∀ hint limit, options.normalHint = some hint → options.maxNormalAngleDeg = some limit →
        angle (WithLp.toLp 2 normal) (WithLp.toLp 2 (hintVector hint)) ≤
          limit * (Real.pi / 180) := by
  unfold NormalGate.violatedBy
  rw [h.hint]
  cases hhint : options.normalHint with
  | none => simp
  | some hint =>
    simp only [Option.map_some, Option.any_some, Exact.lt_eq, dot_eq, decide_eq_false_iff_not,
      not_lt]
    cases hlimit : options.maxNormalAngleDeg with
    | none =>
      rw [h.noAngle hlimit, ← Real.cos_pi]
      refine iff_of_true ?_ (fun _ _ _ hlimit => absurd hlimit nofun)
      exact (cos_le_dot_iff hnormal Real.pi_pos.le le_rfl).mpr (angle_le_pi _ _)
    | some limit =>
      obtain ⟨hzero, hninety, hdot⟩ := h.angle limit hlimit
      have hpi := Real.pi_pos
      rw [hdot, cos_le_dot_iff hnormal (by positivity) (by nlinarith)]
      constructor
      · intro hle hint' limit' hh hl
        obtain rfl := Option.some.inj hh
        obtain rfl := Option.some.inj hl
        exact hle
      · exact fun hle => hle hint limit rfl rfl

/-- The plane that is returned has an inlier: the points near the first plane are no nearer to
    it, in the mean square, than to the second. -/
theorem Refines.nonempty (hsvd : LeastSquaresSvd svdLast)
    (h : Refines svdLast points options choices gate first second) :
    near points second options.distanceThresholdM ≠ [] := by
  obtain ⟨hfirst, hsecond, hoffset⟩ := h.normals hsvd
  have hminimum := (checkArguments_ok h.checked).minInliers
  have henough := h.accepted.2
  have hnear : near points first options.distanceThresholdM ≠ [] := by
    apply List.length_pos_iff.mp
    omega
  have hbound : ∀ p ∈ near points first options.distanceThresholdM,
      |p ⬝ᵥ first.normal + first.offset| ≤ options.distanceThresholdM := by
    intro p hp
    simpa using List.of_mem_filter hp
  obtain ⟨p, hp, hle⟩ := hsecond.exists_near hnear hfirst hbound
  rw [sub_eq_add_neg, ← hoffset] at hle
  exact List.ne_nil_of_mem (List.mem_filter.mpr ⟨List.mem_of_mem_filter hp, by simpa using hle⟩)

/-- The root of the mean square distance. -/
theorem planeResult_rmse {plane : Plane ℝ}
    (h : near points plane options.distanceThresholdM ≠ []) :
    (planeResult points options plane).1.rmseM =
      some √(meanOver (near points plane options.distanceThresholdM) fun p =>
        (p ⬝ᵥ plane.normal + plane.offset) ^ 2) := by
  have hsquares : (select (points.map plane.distance)
      (plane.mask options.distanceThresholdM points)).map
        (fun distance => Double.mul distance distance) =
      (near points plane options.distanceThresholdM).map fun p =>
        (p ⬝ᵥ plane.normal + plane.offset) ^ 2 := by
    rw [select_mask, List.map_map]
    refine List.map_congr_left fun p _ => ?_
    rw [Function.comp_apply, Exact.mul_eq, distance_eq, abs_mul_abs_self, pow_two]
  unfold planeResult mean?
  dsimp only
  rw [hsquares, if_neg (by simpa using h), mean_map]
  rfl

theorem Refines.measured (hsvd : LeastSquaresSvd svdLast)
    (h : Refines svdLast points options choices gate first second) :
    Measured points options (planeResult points options second) := by
  have hnonempty := h.nonempty hsvd
  obtain ⟨-, hsecond, -⟩ := h.normals hsvd
  have hselect : select points (planeResult points options second).2 =
      near points second options.distanceThresholdM := select_points
  constructor
  · show NumPy.norm second.normal = 1
    rw [norm_eq_sqrt, hsecond.unit, Real.sqrt_one]
  · exact mask_eq
  · rfl
  · rwa [hselect]
  · rw [hselect]
    exact planeResult_rmse hnonempty

/-- The result of the second refinement is as it should be exactly if the plane passes the
    checks that the first one has passed. -/
theorem Refines.fitted_iff (hsvd : LeastSquaresSvd svdLast)
    (h : Refines svdLast points options choices gate first second) :
    Fitted points options (planeResult points options second) ↔
      Accepted points options gate second := by
  obtain ⟨-, hsecond, -⟩ := h.normals hsvd
  have hcount : (planeResult points options second).1.inlierCount =
      (near points second options.distanceThresholdM).length := countNonzero_mask
  have hviolated := violatedBy_iff (checkArguments_ok h.checked) hsecond.unit
  constructor
  · intro hfitted
    refine ⟨hviolated.mpr hfitted.tilt, ?_⟩
    rw [← hcount]
    exact hfitted.enough
  · intro haccepted
    refine ⟨h.measured hsvd, ?_, hviolated.mp haccepted.1⟩
    rw [hcount]
    exact haccepted.2

/-- A call raises, or its result is as it should be. -/
def Postcondition (points : List (Vector3 ℝ)) (options : FitOptions ℝ)
    (outcome : Except FitError (PlaneModel ℝ × List Bool)) : Prop :=
  Raises outcome ∨ ∃ result, outcome = .ok result ∧ Fitted points options result

theorem postcondition_of_refines (hsvd : LeastSquaresSvd svdLast)
    (h : Refines svdLast points options choices gate first second) :
    Postcondition points options (fitPlaneRansac points options svdLast choices) ↔
      Accepted points options gate second := by
  rw [← h.fitted_iff hsvd, fit_of_refines h]
  constructor
  · rintro (⟨e, -, he⟩ | ⟨result, hresult, hfitted⟩)
    · contradiction
    · obtain rfl := Except.ok.inj hresult
      exact hfitted
  · exact fun hfitted => .inr ⟨_, rfl, hfitted⟩

/-- The points near the first refined plane, where it passes the checks, are the inliers of the
    best sample. -/
def KeepsInliers (svdLast : List (Vector3 ℝ) → Vector3 ℝ) (points : List (Vector3 ℝ))
    (options : FitOptions ℝ) (choices : Choices points.length) : Prop :=
  ∀ gate hlength mask first, checkArguments points options = .ok gate →
    (search points options gate (choices hlength)).mask = some mask →
    options.minInliers ≤ (search points options gate (choices hlength)).count →
    refinePlane svdLast (select points mask) gate.hint = .ok first →
    Accepted points options gate first →
      near points first options.distanceThresholdM = select points mask

theorem Refines.second_eq (h : Refines svdLast points options choices gate first second)
    (hkeeps : KeepsInliers svdLast points options choices) : second = first := by
  obtain ⟨hlength, mask, hmask, henough, hfirst⟩ := h.refined
  have hsame := hkeeps gate hlength mask first h.checked hmask henough hfirst h.accepted
  have hagain := h.again
  rw [hsame] at hagain
  exact Except.ok.inj (hagain.symm.trans hfirst)

/-- **The plane fit.** Every call raises or describes the plane that it returns, without a mean
    of no distances; and where the first refinement keeps the inliers of the best sample, the
    plane has the number of inliers and the direction that were asked for. -/
theorem plane_fit (svdLast : List (Vector3 ℝ) → Vector3 ℝ) (hsvd : LeastSquaresSvd svdLast)
    (points : List (Vector3 ℝ)) (options : FitOptions ℝ) (choices : Choices points.length) :
    (Raises (fitPlaneRansac points options svdLast choices) ∨
      ∃ result, fitPlaneRansac points options svdLast choices = .ok result ∧
        Measured points options result) ∧
    (KeepsInliers svdLast points options choices →
      Postcondition points options (fitPlaneRansac points options svdLast choices)) := by
  rcases fit_cases svdLast choices with ⟨gate, first, second, h, hok⟩ | hraises
  · refine ⟨.inr ⟨_, hok, h.measured hsvd⟩, fun hkeeps => ?_⟩
    rw [postcondition_of_refines hsvd h, h.second_eq hkeeps]
    exact h.accepted
  · exact ⟨.inl hraises, fun _ => .inl hraises⟩

end Result

/-! ## A plane that tilts -/

section Tilted

/-- A decomposition that returns a least-squares normal. -/
noncomputable def leastNormal (rows : List (Vector3 ℝ)) : Vector3 ℝ :=
  (exists_isLeastSquaresNormal rows).choose

theorem leastNormal_svd : LeastSquaresSvd leastNormal :=
  fun rows _ => (exists_isLeastSquaresNormal rows).choose_spec

-- the literals below, each as one constant
local instance atLeastTwo_five : Nat.AtLeastTwo 5 := ⟨by decide⟩

local instance atLeastTwo_six : Nat.AtLeastTwo 6 := ⟨by decide⟩

local instance atLeastTwo_thirty : Nat.AtLeastTwo 30 := ⟨by decide⟩

attribute [local instance] atLeastTwo_halfTurn

/-- Six points around the plane at height 2. -/
def levelPoints : List (Vector3 ℝ) :=
  [![-5, 0, 0], ![5, 0, 0], ![0, -6, 0], ![0, 6, 0], ![-5, 0, 6], ![5, 0, 6]]

/-- And one above. -/
def tiltedPoints : List (Vector3 ℝ) := levelPoints ++ [![5, 0, 11]]

/-- At most 30 degrees from the vertical. -/
noncomputable def tiltedOptions : FitOptions ℝ where
  distanceThresholdM := 10
  maxIterations := 1
  minInliers := 6
  normalHint := some [0, 0, 1]
  maxNormalAngleDeg := some 30

/-- The first three points are sampled. -/
def firstThree {n : ℕ} : Choices n := fun h _ => Fin.castLEEmb h

/-- The vertical, and its cosine with the bound. -/
noncomputable def tiltedGate : NormalGate ℝ := ⟨some ![0, 0, 1], Real.cos (30 * (Real.pi / 180))⟩

variable {svdLast : List (Vector3 ℝ) → Vector3 ℝ} (above : List (Vector3 ℝ))

theorem tiltedGate_checked :
    checkArguments (levelPoints ++ above) tiltedOptions = .ok tiltedGate := by
  have hnorm : (NumPy.norm (fun i : Fin 3 => [(0 : ℝ), 0, 1].get (i.cast rfl)) : ℝ) = 1 := by
    rw [NumPy.norm_real, Fin.sum_univ_three]
    simp
  have hunit : unitVector [(0 : ℝ), 0, 1] "normal_hint" = .ok ![0, 0, 1] := by
    have hlength : [(0 : ℝ), 0, 1].length = 3 := rfl
    unfold unitVector
    rw [dif_pos hlength, if_neg (by simp)]
    dsimp only
    rw [hnorm, if_neg (by norm_num)]
    refine congrArg Except.ok (funext fun i => ?_)
    fin_cases i <;> simp
  have hhint : unitHint tiltedOptions.normalHint = .ok (some ![0, 0, 1]) := by
    change (unitVector [(0 : ℝ), 0, 1] "normal_hint").map some = _
    rw [hunit]
    rfl
  have hgate : normalGate (some ![0, 0, 1]) tiltedOptions.maxNormalAngleDeg =
      .ok tiltedGate := by
    change normalGate _ (some 30) = _
    unfold normalGate
    simp only [Option.isNone_some, Bool.false_eq_true, if_false]
    rw [if_neg (by norm_num)]
    rfl
  unfold checkArguments
  rw [if_neg (by simp [allFinite]), if_neg (by simp [levelPoints]),
    if_neg (by simp [tiltedOptions]), if_neg (by simp [tiltedOptions, levelPoints]; omega), hhint]
  exact hgate

/-- The plane of the sample. -/
def levelPlane (height : ℝ) : Plane ℝ := ⟨![0, 0, 1], -height⟩

theorem cos_thirty : Real.cos (30 * (Real.pi / 180)) = √3 / 2 := by
  rw [← Real.cos_pi_div_six]
  congr 1
  ring

theorem vector_two (a b c : ℝ) : (![a, b, c] : Vector3 ℝ) 2 = c := rfl

theorem up_accepted (normal : Vector3 ℝ) :
    tiltedGate.violatedBy normal = decide (normal 2 < √3 / 2) := by
  have hdot : (NumPy.dot normal ![0, 0, 1] : ℝ) = normal 2 := by
    rw [NumPy.dot_real, Fin.sum_univ_three]
    simp
  unfold NormalGate.violatedBy tiltedGate
  rw [Option.any_some, Exact.lt_eq, hdot, cos_thirty]

theorem level_accepted : tiltedGate.violatedBy ![0, 0, 1] = false := by
  have hroot : √3 ≤ 2 := by
    rw [Real.sqrt_le_left] <;> norm_num
  rw [up_accepted, vector_two]
  simp only [decide_eq_false_iff_not, not_lt]
  linarith

theorem towards_up (normal : Vector3 ℝ) :
    towards ![0, 0, 1] normal = if normal 2 < 0 then -normal else normal := by
  have hdot : (NumPy.dot normal ![0, 0, 1] : ℝ) = normal 2 := by
    rw [NumPy.dot_real, Fin.sum_univ_three]
    simp
  unfold towards
  rw [hdot, negated_eq, Exact.lt_eq, Exact.zero_eq]
  simp only [decide_eq_true_eq]

theorem sampledPlane_tilted : sampledPlane? tiltedGate ![-5, 0, 0] ![5, 0, 0] ![0, -6, 0] =
    some (levelPlane 0) := by
  have hcross : cross (difference ![5, 0, 0] ![-5, 0, 0]) (difference ![0, -6, 0] ![-5, 0, 0]) =
      (![0, 0, -60] : Vector3 ℝ) := by
    funext i
    fin_cases i <;> norm_num [cross, difference, vector_two]
  have hnorm : (NumPy.norm (![0, 0, -60] : Vector3 ℝ) : ℝ) = 60 := by
    rw [NumPy.norm_real, Fin.sum_univ_three]
    simp [show (60 : ℝ) * 60 = 60 ^ 2 by norm_num]
  have hunit : (fun i => Double.div ((![0, 0, -60] : Vector3 ℝ) i) 60) = ![0, 0, -1] := by
    funext i
    fin_cases i <;> norm_num
  have hturned : towards ![0, 0, 1] ![0, 0, -1] = (![0, 0, 1] : Vector3 ℝ) := by
    rw [towards_up, vector_two, if_pos (by norm_num)]
    funext i
    fin_cases i <;> simp
  unfold sampledPlane?
  rw [hcross]
  dsimp only
  rw [hnorm, if_neg (by norm_num), hunit]
  change (if tiltedGate.violatedBy (towards ![0, 0, 1] ![0, 0, -1]) then none
    else some (⟨towards ![0, 0, 1] ![0, 0, -1], _⟩ : Plane ℝ)) = _
  rw [hturned, level_accepted, if_neg Bool.false_ne_true]
  have hoffset : negated (NumPy.dot (![0, 0, 1] : Vector3 ℝ) ![-5, 0, 0]) = -(0 : ℝ) := by
    rw [dot_eq]
    simp [negated]
  change some (⟨_, negated (NumPy.dot (towards ![0, 0, 1] ![0, 0, -1]) ![-5, 0, 0])⟩ : Plane ℝ) = _
  rw [hturned, hoffset]
  rfl

theorem near_append (l : List (Vector3 ℝ)) (plane : Plane ℝ) (t : ℝ) :
    near (l ++ above) plane t = near l plane t ++ near above plane t :=
  List.filter_append l above

theorem near_level : near levelPoints (levelPlane 0) 10 = levelPoints ∧
    near levelPoints (levelPlane 2) 10 = levelPoints := by
  unfold near levelPoints levelPlane
  norm_num [dotProduct, Fin.sum_univ_three, abs_le, vector_two]

theorem near_tilted : near [![5, 0, 11]] (levelPlane 0) 10 = [] ∧
    near [![5, 0, 11]] (levelPlane 2) 10 = [![5, 0, 11]] := by
  unfold near levelPlane
  norm_num [dotProduct, Fin.sum_univ_three, abs_le, vector_two]

theorem first_sum (v : Vector3 ℝ) :
    ((levelPoints.map fun p => p - centroid levelPoints).map
      fun row => (row ⬝ᵥ v) ^ 2).sum = 100 * v 0 ^ 2 + 72 * v 1 ^ 2 + 48 * v 2 ^ 2 := by
  have hcentroid : centroid levelPoints = ![0, 0, 2] := by
    funext i
    fin_cases i <;> norm_num [centroid, meanOver, levelPoints]
  rw [hcentroid]
  simp [levelPoints, dotProduct, Fin.sum_univ_three]
  ring

theorem second_sum (v : Vector3 ℝ) :
    ((tiltedPoints.map fun p => p - centroid tiltedPoints).map
      fun row => (row ⬝ᵥ v) ^ 2).sum =
      (850 * v 0 ^ 2 + 504 * v 1 ^ 2 + 822 * v 2 ^ 2 + 540 * (v 0 * v 2)) / 7 := by
  have hcentroid : centroid tiltedPoints = ![5 / 7, 0, 23 / 7] := by
    funext i
    fin_cases i <;> norm_num [centroid, meanOver, tiltedPoints, levelPoints]
  rw [hcentroid]
  simp [tiltedPoints, levelPoints, dotProduct, Fin.sum_univ_three]
  ring

theorem unit_sum {v : Vector3 ℝ} (h : v ⬝ᵥ v = 1) : v 0 ^ 2 + v 1 ^ 2 + v 2 ^ 2 = 1 := by
  rw [← h, dotProduct, Fin.sum_univ_three]
  ring

/-- The first refinement finds the horizontal plane at height 2. -/
theorem refine_first (hsvd : LeastSquaresSvd svdLast) :
    refinePlane svdLast levelPoints (some ![0, 0, 1]) = .ok (levelPlane 2) := by
  obtain ⟨plane, hplane⟩ := refinePlane_total svdLast
    (show levelPoints ≠ [] by simp [levelPoints]) (some ![0, 0, 1])
  obtain ⟨hnormal, hoffset⟩ := refinePlane_ok hsvd (by simp [levelPoints]) hplane
  have hup : 0 ≤ plane.normal 2 := by
    unfold refinePlane at hplane
    rw [if_neg (by simp [levelPoints])] at hplane
    obtain rfl := Except.ok.inj hplane
    change 0 ≤ towards ![0, 0, 1] _ 2
    rw [towards_up]
    split
    · rename_i hdown
      exact neg_nonneg.mpr hdown.le
    · rename_i hup
      exact not_lt.mp hup
  have hunit := unit_sum hnormal.unit
  have hleast := hnormal.least ![0, 0, 1] (by simp [dotProduct, Fin.sum_univ_three])
  rw [first_sum, first_sum] at hleast
  simp only [vector_two, cons_val_zero, cons_val_one] at hleast
  have hvertical : plane.normal = ![0, 0, 1] := by
    have h0 : plane.normal 0 = 0 := by nlinarith
    have h1 : plane.normal 1 = 0 := by nlinarith
    have h2 : plane.normal 2 = 1 := by nlinarith
    funext i
    fin_cases i
    · exact h0
    · exact h1
    · exact h2
  have hheight : plane.offset = -2 := by
    rw [hoffset, hvertical, centroid_dotProduct]
    norm_num [meanOver, levelPoints, dotProduct, Fin.sum_univ_three, vector_two]
  rw [hplane]
  unfold levelPlane
  rw [← hvertical, ← hheight]

/-- The second one finds a plane that leans by more than 30 degrees. -/
theorem refine_second {plane : Plane ℝ} (hsvd : LeastSquaresSvd svdLast)
    (h : refinePlane svdLast tiltedPoints (some ![0, 0, 1]) = .ok plane) :
    tiltedGate.violatedBy plane.normal = true := by
  obtain ⟨hnormal, -⟩ := refinePlane_ok hsvd (by simp [tiltedPoints, levelPoints]) h
  have hunit := unit_sum hnormal.unit
  have hleast := hnormal.least ![-3 / 5, 0, 4 / 5]
    (by norm_num [dotProduct, Fin.sum_univ_three, vector_two])
  rw [second_sum, second_sum] at hleast
  rw [up_accepted, decide_eq_true_eq]
  by_contra hle
  have hroot := Real.sq_sqrt (show (0 : ℝ) ≤ 3 by norm_num)
  have hpositive := Real.sqrt_nonneg 3
  generalize plane.normal 0 = a at *
  generalize plane.normal 1 = b at *
  generalize plane.normal 2 = c at *
  have hleast : 850 * a ^ 2 + 504 * b ^ 2 + 822 * c ^ 2 + 540 * (a * c) ≤ 572.88 := by
    norm_num [vector_two] at hleast ⊢
    linarith
  have hc : 3 / 4 ≤ c ^ 2 := by nlinarith
  have hzero : 0 ≤ c := by linarith
  -- the horizontal part is at most 3/5 of the vertical one
  have ha : -(3 / 5 * c) ≤ a := by
    apply neg_le_of_abs_le
    rw [← abs_of_nonneg (show 0 ≤ 3 / 5 * c by positivity), ← sq_le_sq]
    nlinarith [sq_nonneg b]
  nlinarith [mul_nonneg (show 0 ≤ a + 3 / 5 * c by linarith)
    (show 0 ≤ 346 * a + 332.4 * c by linarith)]

/-- The sample is the best one. -/
theorem search_level (habove : near above (levelPlane 0) 10 = [])
    (hlength : 3 ≤ (levelPoints ++ above).length) :
    (search (levelPoints ++ above) tiltedOptions tiltedGate (firstThree hlength)).mask =
        some ((levelPlane 0).mask 10 (levelPoints ++ above)) ∧
      (search (levelPoints ++ above) tiltedOptions tiltedGate (firstThree hlength)).count = 6 ∧
      select (levelPoints ++ above) ((levelPlane 0).mask 10 (levelPoints ++ above)) =
        levelPoints := by
  have hsample : near (levelPoints ++ above) (levelPlane 0) 10 = levelPoints := by
    rw [near_append, near_level.1, habove, List.append_nil]
  have hsearch : search (levelPoints ++ above) tiltedOptions tiltedGate (firstThree hlength) =
      ({} : Best ℝ).consider (levelPoints ++ above) 10 (levelPlane 0) := by
    have hpoints (i : Fin 3) : (levelPoints ++ above).get (firstThree hlength 0 i) =
        ![![-5, 0, 0], ![5, 0, 0], ![0, -6, 0]] i := by
      fin_cases i <;> rfl
    unfold search
    rw [show List.range tiltedOptions.maxIterations.toNat = [0] from rfl, List.foldl_cons,
      List.foldl_nil]
    simp only [hpoints]
    have hplane : sampledPlane? tiltedGate (![![-5, 0, 0], ![5, 0, 0], ![0, -6, 0]] 0)
        (![![-5, 0, 0], ![5, 0, 0], ![0, -6, 0]] 1) (![![-5, 0, 0], ![5, 0, 0], ![0, -6, 0]] 2) =
        some (levelPlane 0) := sampledPlane_tilted
    rw [hplane]
    rfl
  have hcount : countNonzero ((levelPlane 0).mask 10 (levelPoints ++ above)) = 6 := by
    rw [countNonzero_mask, hsample]
    rfl
  have hbest : ({} : Best ℝ).consider (levelPoints ++ above) 10 (levelPlane 0) =
      ⟨some ((levelPlane 0).mask 10 (levelPoints ++ above)), 6,
        mean? (select ((levelPoints ++ above).map (levelPlane 0).distance)
          ((levelPlane 0).mask 10 (levelPoints ++ above)))⟩ := by
    unfold Best.consider
    dsimp only
    rw [hcount, if_pos (.inl (by decide))]
  rw [hsearch, hbest, select_points, hsample]
  exact ⟨rfl, rfl, rfl⟩

theorem level_refines (hsvd : LeastSquaresSvd svdLast)
    (habove : near above (levelPlane 0) 10 = []) : ∃ second,
      Refines svdLast (levelPoints ++ above) tiltedOptions firstThree tiltedGate (levelPlane 2)
        second := by
  have hlength : 3 ≤ (levelPoints ++ above).length := by simp [levelPoints]
  obtain ⟨hmask, hcount, hselect⟩ := search_level above habove hlength
  have hnear : near (levelPoints ++ above) (levelPlane 2) 10 =
      levelPoints ++ near above (levelPlane 2) 10 := by
    rw [near_append, near_level.2]
  obtain ⟨second, hsecond⟩ := refinePlane_total svdLast
    (show near (levelPoints ++ above) (levelPlane 2) 10 ≠ [] by rw [hnear]; simp [levelPoints])
    (some ![0, 0, 1])
  refine ⟨second, tiltedGate_checked above, ⟨hlength, _, hmask, ?_, ?_⟩, ⟨level_accepted, ?_⟩,
    hsecond⟩
  · rw [hcount]
    exact le_rfl
  · rw [hselect]
    exact refine_first hsvd
  · change (6 : ℤ) ≤ (near (levelPoints ++ above) (levelPlane 2) 10).length
    rw [hnear, List.length_append, show levelPoints.length = 6 from rfl]
    omega

/-- The plane that is returned leans by more than 30 degrees. -/
theorem tilted_fit : ¬Postcondition tiltedPoints tiltedOptions
    (fitPlaneRansac tiltedPoints tiltedOptions leastNormal firstThree) := by
  obtain ⟨second, h⟩ := level_refines _ leastNormal_svd near_tilted.1
  unfold tiltedPoints
  rw [postcondition_of_refines leastNormal_svd h]
  intro haccepted
  have hagain := h.again
  change refinePlane leastNormal (near (levelPoints ++ _) (levelPlane 2) 10) _ = _ at hagain
  rw [near_append, near_level.2, near_tilted.2] at hagain
  exact Bool.false_ne_true (haccepted.1.symm.trans (refine_second leastNormal_svd hagain))

/-- Without the point above, the first refinement keeps the six inliers. -/
theorem level_keepsInliers :
    KeepsInliers leastNormal (levelPoints ++ []) tiltedOptions firstThree := by
  intro gate hlength mask first hchecked hmask _ hfirst _
  obtain rfl := Except.ok.inj ((tiltedGate_checked []).symm.trans hchecked)
  obtain ⟨hmask', -, hselect⟩ := search_level [] rfl hlength
  obtain rfl := Option.some.inj (hmask'.symm.trans hmask)
  rw [hselect] at hfirst ⊢
  obtain rfl := Except.ok.inj ((refine_first leastNormal_svd).symm.trans hfirst)
  rw [List.append_nil]
  exact near_level.2

/-- The plane at height 2 is returned, as it should be. -/
theorem level_fit : ∃ result,
    fitPlaneRansac (levelPoints ++ []) tiltedOptions leastNormal firstThree = .ok result ∧
      result.1.normal = ![0, 0, 1] ∧ Fitted (levelPoints ++ []) tiltedOptions result := by
  obtain ⟨second, h⟩ := level_refines [] leastNormal_svd rfl
  have hok := fit_of_refines h
  rcases (plane_fit leastNormal leastNormal_svd (levelPoints ++ []) tiltedOptions firstThree).2
    level_keepsInliers with ⟨e, -, herror⟩ | ⟨result, hresult, hfitted⟩
  · rw [hok] at herror
    cases herror
  · obtain rfl := Except.ok.inj (hok.symm.trans hresult)
    refine ⟨_, hok, ?_, hfitted⟩
    rw [h.second_eq level_keepsInliers]
    rfl

end Tilted

end HandLab.Vision
