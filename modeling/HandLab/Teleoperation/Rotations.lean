import HandLab.Lib.Rotation
import HandLab.Teleoperation.Se3

/-!
# Conversions between quaternions and matrices

`src/teleoperation/transforms/se3.py`, lines 18–104 and 145–157, in exact arithmetic, against the
algebra of the rotations.

* `matrixComponents_rotation`: each of the four branches gives the quaternion up to its sign.
* `quaternionMultiply_eq`, `composePose_eq`: what the operations compute on unit quaternions.
* `conversions_agree`: the conversions, the product and the poses agree.
-/

namespace HandLab.Teleoperation

open HandLab.Lib NumPy
open HandLab.Lib.Rotation (normSq product conjugate rotation)

variable {p q r : QuaternionXyzw ℝ}

/-! ## Quaternions -/

@[simp] theorem allFinite_exact {n : ℕ} (v : Fin n → ℝ) : allFinite v = true := by
  simp [allFinite]

theorem norm_eq_sqrt (q : QuaternionXyzw ℝ) : (NumPy.norm q : ℝ) = Real.sqrt (normSq q) := rfl

theorem negated_eq (x : ℝ) : negated x = -x := by
  simp [negated]

/-- A quaternion that `normalize_quaternion_xyzw` accepts. -/
def Normalizable (q : QuaternionXyzw ℝ) : Prop := 1 / 10 ^ 12 ≤ Real.sqrt (normSq q)

/-- The unit quaternion of the same direction. -/
noncomputable def normalized (q : QuaternionXyzw ℝ) : QuaternionXyzw ℝ :=
  (Real.sqrt (normSq q))⁻¹ • q

theorem normalizeQuaternionXyzw_eq (h : Normalizable q) :
    normalizeQuaternionXyzw q = some (normalized q) := by
  have hnot : ¬Real.sqrt (normSq q) < ((1e-12 : ℚ) : ℝ) := by
    push_cast
    refine not_lt.mpr (le_trans ?_ h)
    norm_num
  unfold normalizeQuaternionXyzw
  rw [allFinite_exact, Bool.not_true, if_neg Bool.false_ne_true, norm_eq_sqrt, Exact.lt_eq,
    Exact.ofRat_eq, decide_eq_false hnot, if_neg Bool.false_ne_true]
  refine congrArg some (funext fun i => ?_)
  rw [Exact.div_eq, normalized, Pi.smul_apply, smul_eq_mul, div_eq_inv_mul]

theorem normSq_smul (c : ℝ) (q : QuaternionXyzw ℝ) : normSq (c • q) = c * c * normSq q := by
  simp only [Rotation.normSq_eq, Pi.smul_apply, smul_eq_mul]
  ring

theorem normSq_normalized (h : Normalizable q) : normSq (normalized q) = 1 := by
  have hpos : 0 < Real.sqrt (normSq q) := lt_of_lt_of_le (by norm_num) h
  have hsquare := Real.mul_self_sqrt (Real.sqrt_pos.mp hpos).le
  rw [normalized, normSq_smul]
  nth_rewrite 3 [← hsquare]
  field_simp

theorem normalizable_of_unit (h : normSq q = 1) : Normalizable q := by
  rw [Normalizable, h, Real.sqrt_one]
  norm_num

theorem normalized_of_unit (h : normSq q = 1) : normalized q = q := by
  rw [normalized, h, Real.sqrt_one, inv_one, one_smul]

theorem normalizeQuaternionXyzw_unit (h : normSq q = 1) :
    normalizeQuaternionXyzw q = some q := by
  rw [normalizeQuaternionXyzw_eq (normalizable_of_unit h), normalized_of_unit h]

theorem quaternionConjugate_eq (h : normSq q = 1) :
    quaternionConjugate q = some (conjugate q) := by
  rw [quaternionConjugate, normalizeQuaternionXyzw_unit h, Option.map_some]
  simp only [negated_eq]
  rfl

theorem quaternionMultiply_eq (hp : Normalizable p) (hq : Normalizable q) :
    quaternionMultiply p q = some (product (normalized p) (normalized q)) := by
  have hunit : normSq (product (normalized p) (normalized q)) = 1 := by
    rw [Rotation.normSq_product, normSq_normalized hp, normSq_normalized hq, mul_one]
  unfold quaternionMultiply
  rw [normalizeQuaternionXyzw_eq hp, normalizeQuaternionXyzw_eq hq]
  exact normalizeQuaternionXyzw_unit hunit

theorem quaternionMultiply_unit (hp : normSq p = 1) (hq : normSq q = 1) :
    quaternionMultiply p q = some (product p q) := by
  rw [quaternionMultiply_eq (normalizable_of_unit hp) (normalizable_of_unit hq),
    normalized_of_unit hp, normalized_of_unit hq]

theorem quaternionToMatrix_eq (h : Normalizable q) :
    quaternionToMatrix q = some (rotation (normalized q)) := by
  rw [quaternionToMatrix, normalizeQuaternionXyzw_eq h, Option.map_some]
  refine congrArg some ?_
  ext i j
  fin_cases i <;> fin_cases j <;> simp [Rotation.rotation, diagonalEntry]

theorem quaternionToMatrix_unit (h : normSq q = 1) : quaternionToMatrix q = some (rotation q) := by
  rw [quaternionToMatrix_eq (normalizable_of_unit h), normalized_of_unit h]

/-! ## From the matrix -/

/-- The sum of the diagonal. -/
def trace (m : Matrix3 ℝ) : ℝ := m 0 0 + m 1 1 + m 2 2

/-- What the selected branch of `matrix_to_quaternion_xyzw` divides by. -/
noncomputable def branchDivisor (m : Matrix3 ℝ) : ℝ :=
  if 0 < trace m then Real.sqrt (trace m + 1) * 2
  else match largestDiagonal m with
    | 0 => axisScale m 0 1 2
    | 1 => axisScale m 1 0 2
    | 2 => axisScale m 2 0 1

/-- The divisor is four times the component that the branch reads off the diagonal. -/
theorem two_sqrt (c : ℝ) : Real.sqrt (4 * (c * c)) * 2 = 4 * |c| := by
  have hsquare : 4 * (c * c) = 2 * c * (2 * c) := by ring
  rw [hsquare, Real.sqrt_mul_self_eq_abs, abs_mul, abs_two]
  ring

/-- The products of a component with every other, over its size, are the quaternion up to its
    sign. -/
theorem pivot_div {c : ℝ} (hc : c ≠ 0) (h : ∀ i, r i = 4 * (q i * c) / (4 * |c|)) :
    r = q ∨ r = -q := by
  rcases hc.lt_or_gt with hneg | hpos
  · right
    funext i
    rw [h, abs_of_neg hneg, Pi.neg_apply]
    field_simp
  · left
    funext i
    rw [h, abs_of_pos hpos]
    field_simp

theorem trace_rotation (h : normSq q = 1) : trace (rotation q) = 4 * (q 3 * q 3) - 1 := by
  rw [Rotation.normSq_eq] at h
  simp only [trace, Rotation.rotation, Matrix.of_apply, Matrix.cons_val]
  linear_combination -4 * h

theorem le_largestDiagonal (m : Matrix3 ℝ) (i : Fin 3) :
    m i i ≤ m (largestDiagonal m) (largestDiagonal m) := by
  unfold largestDiagonal
  simp only [Exact.lt_eq, decide_eq_true_eq]
  split_ifs <;> fin_cases i <;> simp <;> linarith

theorem axisScale_rotation (q : QuaternionXyzw ℝ) : axisScale (rotation q) 0 1 2 = 4 * |q 0| ∧
    axisScale (rotation q) 1 0 2 = 4 * |q 1| ∧ axisScale (rotation q) 2 0 1 = 4 * |q 2| := by
  have hscale (a b c d : ℝ) (hd : 1 + a - b - c = 4 * (d * d)) :
      (Double.mul (NumPy.sqrt (Double.max (Double.sub (Double.sub (Double.add (Double.ofRat 1) a) b)
        c) Double.zero)) (Double.ofRat 2) : ℝ) = 4 * |d| := by
    have hnonneg : 0 ≤ 4 * (d * d) := mul_nonneg (by norm_num) (mul_self_nonneg d)
    simp only [Exact.mul_eq, Exact.max_eq, Exact.sub_eq, Exact.add_eq, Exact.ofRat_eq,
      Exact.zero_eq]
    push_cast
    rw [hd, max_eq_left hnonneg]
    exact two_sqrt d
  refine ⟨hscale _ _ _ _ ?_, hscale _ _ _ _ ?_, hscale _ _ _ _ ?_⟩
  all_goals simp only [Rotation.rotation, Matrix.of_apply, Matrix.cons_val]; ring_nf

/-- The squares of the components are on the diagonal. -/
theorem diagonal_rotation (q : QuaternionXyzw ℝ) (i : Fin 3) :
    1 + 2 * rotation q i i = trace (rotation q) + 4 * (q i.castSucc * q i.castSucc) := by
  fin_cases i <;> simp [trace, Rotation.rotation] <;> ring

/-- The component that the branch reads off the diagonal. -/
noncomputable def pivot (m : Matrix3 ℝ) : Fin 4 :=
  if 0 < trace m then 3 else (largestDiagonal m).castSucc

theorem branchDivisor_rotation (h : normSq q = 1) :
    branchDivisor (rotation q) = 4 * |q (pivot (rotation q))| := by
  obtain ⟨h0, h1, h2⟩ := axisScale_rotation q
  unfold branchDivisor pivot
  split_ifs with htrace
  · rw [trace_rotation h, sub_add_cancel]
    exact two_sqrt (q 3)
  · generalize largestDiagonal (rotation q) = i
    fin_cases i
    · exact h0
    · exact h1
    · exact h2

/-- **The pivot** stays away from zero. -/
theorem half_le_pivot (h : normSq q = 1) : 1 / 2 ≤ |q (pivot (rotation q))| := by
  have hsquare : 1 ≤ 4 * (q (pivot (rotation q)) * q (pivot (rotation q))) := by
    unfold pivot
    split_ifs with htrace
    · rw [trace_rotation h] at htrace
      linarith
    · have hdiagonal := diagonal_rotation q (largestDiagonal (rotation q))
      have h0 := le_largestDiagonal (rotation q) 0
      have h1 := le_largestDiagonal (rotation q) 1
      have h2 := le_largestDiagonal (rotation q) 2
      have hsum : trace (rotation q) = rotation q 0 0 + rotation q 1 1 + rotation q 2 2 := rfl
      linarith
  by_contra hlt
  have habs := abs_mul_abs_self (q (pivot (rotation q)))
  have hnonneg := abs_nonneg (q (pivot (rotation q)))
  nlinarith

/-- The products of two components are off the diagonal. -/
theorem offDiagonal_rotation (q : QuaternionXyzw ℝ) :
    (Double.sub (rotation q 2 1) (rotation q 1 2) = 4 * (q 0 * q 3) ∧
      Double.sub (rotation q 0 2) (rotation q 2 0) = 4 * (q 1 * q 3) ∧
      Double.sub (rotation q 1 0) (rotation q 0 1) = 4 * (q 2 * q 3)) ∧
    Double.add (rotation q 0 1) (rotation q 1 0) = 4 * (q 0 * q 1) ∧
      Double.add (rotation q 0 2) (rotation q 2 0) = 4 * (q 0 * q 2) ∧
      Double.add (rotation q 1 2) (rotation q 2 1) = 4 * (q 1 * q 2) := by
  simp only [Exact.sub_eq, Exact.add_eq, Rotation.rotation, Matrix.of_apply, Matrix.cons_val]
  refine ⟨⟨?_, ?_, ?_⟩, ?_, ?_, ?_⟩ <;> ring

theorem matrixComponents_apply (h : normSq q = 1) (i : Fin 4) :
    matrixComponents (rotation q) i =
      4 * (q i * q (pivot (rotation q))) / (4 * |q (pivot (rotation q))|) := by
  obtain ⟨h0, h1, h2⟩ := axisScale_rotation q
  obtain ⟨⟨hxw, hyw, hzw⟩, hxy, hxz, hyz⟩ := offDiagonal_rotation q
  have hself (c : ℝ) :
      Double.mul (Double.ofRat 0.25) (4 * |c|) = 4 * (c * c) / (4 * |c|) := by
    rw [mul_div_mul_left _ _ four_ne_zero, ← abs_mul_abs_self, mul_self_div_self, Exact.mul_eq,
      Exact.ofRat_eq]
    push_cast
    ring
  have htrace : Double.lt Double.zero (Double.add (Double.add (rotation q 0 0) (rotation q 1 1))
      (rotation q 2 2) : ℝ) = decide (0 < trace (rotation q)) := by
    rw [Exact.lt_eq, Exact.zero_eq, Exact.add_eq, Exact.add_eq]
    rfl
  unfold matrixComponents pivot
  rw [htrace]
  by_cases hpos : 0 < trace (rotation q)
  · have hscale : (Double.mul (NumPy.sqrt (Double.add (Double.add (Double.add (rotation q 0 0)
        (rotation q 1 1)) (rotation q 2 2)) (Double.ofRat 1))) (Double.ofRat 2) : ℝ) =
        4 * |q 3| := by
      have hsum : trace (rotation q) + 1 = 4 * (q 3 * q 3) := by
        rw [trace_rotation h, sub_add_cancel]
      rw [← two_sqrt, ← hsum]
      simp only [Exact.mul_eq, Exact.add_eq, Exact.ofRat_eq]
      push_cast
      rfl
    rw [decide_eq_true hpos, if_pos rfl, if_pos hpos, hscale, hxw, hyw, hzw]
    fin_cases i <;> simp only [hself, Exact.div_eq] <;> rfl
  · rw [decide_eq_false hpos, if_neg Bool.false_ne_true, if_neg hpos, hxw, hyw, hzw, hxy, hxz, hyz,
      h0, h1, h2]
    generalize largestDiagonal (rotation q) = j
    fin_cases j <;> fin_cases i <;> simp only [hself, Exact.div_eq] <;>
      first | rfl | exact congrArg (fun x => 4 * x / _) (mul_comm _ _)

/-- **Each branch** gives the quaternion up to its sign. -/
theorem matrixComponents_rotation (h : normSq q = 1) :
    matrixComponents (rotation q) = q ∨ matrixComponents (rotation q) = -q := by
  have hpivot : q (pivot (rotation q)) ≠ 0 := by
    intro hzero
    have hhalf := half_le_pivot h
    rw [hzero, abs_zero] at hhalf
    norm_num at hhalf
  exact pivot_div hpivot (matrixComponents_apply h)

theorem isRotation_rotation (h : normSq q = 1) : isRotation (rotation q) = true := by
  have hproduct (i j : Fin 3) :
      (NumPy.dot (fun k => rotation q k i) fun k => rotation q k j : ℝ) =
        if i = j then 1 else 0 := by
    have htranspose := Rotation.transpose_mul_self (Rotation.rotation_mul_transpose h)
    have hentry := congrFun (congrFun htranspose i) j
    rwa [Matrix.mul_apply, Matrix.one_apply] at hentry
  have hdet : (NumPy.det (rotation q) : ℝ) = 1 := Rotation.det_rotation h
  have hclose (value : ℝ) : Double.le (Double.abs (Double.sub value value))
      (Double.add (Double.ofRat 2e-3) (Double.mul (Double.ofRat 1e-5) (Double.abs value))) =
        true := by
    simp only [Exact.sub_eq, sub_self, Exact.abs_eq, abs_zero, Exact.le_eq, Exact.add_eq,
      Exact.mul_eq, Exact.ofRat_eq, decide_eq_true_eq]
    push_cast
    have habs := abs_nonneg value
    linarith
  have hcast (i j : Fin 3) :
      (Double.ofRat (if i = j then 1 else 0) : ℝ) = if i = j then 1 else 0 := by
    split_ifs <;> simp
  unfold isRotation
  simp only [hproduct, hcast, hclose, hdet, List.all_eq_true, Bool.and_eq_true]
  refine ⟨fun _ _ _ _ => trivial, ?_⟩
  simp only [Exact.sub_eq, Exact.ofRat_eq, Rat.cast_one, sub_self, Exact.abs_eq, abs_zero,
    Exact.le_eq, Exact.max_eq, decide_eq_true_eq]
  refine le_max_of_le_right ?_
  norm_num

theorem upperHalf_spec (h : r = q ∨ r = -q) :
    (upperHalf r = q ∨ upperHalf r = -q) ∧ 0 ≤ upperHalf r 3 := by
  have hneg : (fun i => Double.mul (r i) (Double.ofRat (-1))) = -r := by
    funext i
    simp
  unfold upperHalf
  rw [hneg]
  simp only [Exact.lt_eq, Exact.zero_eq, decide_eq_true_eq]
  split_ifs with hlt
  · refine ⟨?_, neg_nonneg.mpr hlt.le⟩
    rcases h with rfl | rfl
    · exact .inr rfl
    · exact .inl (neg_neg q)
  · exact ⟨h, not_lt.mp hlt⟩

/-- **The round trip**: the representative with `w` not negative. -/
theorem matrixToQuaternionXyzw_rotation (h : normSq q = 1) :
    ∃ r, matrixToQuaternionXyzw (rotation q) = some r ∧ (r = q ∨ r = -q) ∧ 0 ≤ r 3 := by
  have hcomponents := matrixComponents_rotation h
  have hunit : normSq (matrixComponents (rotation q)) = 1 := by
    rcases hcomponents with heq | heq
    · rw [heq, h]
    · rw [heq, Rotation.normSq_neg, h]
  refine ⟨upperHalf (matrixComponents (rotation q)), ?_, upperHalf_spec hcomponents⟩
  unfold matrixToQuaternionXyzw
  rw [isRotation_rotation h, normalizeQuaternionXyzw_unit hunit]
  simp

/-! ## Poses -/

/-- A pose that its constructor has normalized. -/
def Pose3D.IsUnit (pose : Pose3D ℝ) : Prop := normSq pose.quaternionXyzw = 1

theorem checked_unit {position : Vector3 ℝ} (h : normSq q = 1) :
    Pose3D.checked position q = some ⟨position, q⟩ := by
  have hlength : (NumPy.sqrt (Double.add (Double.add (Double.add (Double.add Double.zero
      (Double.mul (q 0) (q 0))) (Double.mul (q 1) (q 1))) (Double.mul (q 2) (q 2)))
      (Double.mul (q 3) (q 3))) : ℝ) = 1 := by
    rw [Rotation.normSq_eq] at h
    simp only [Exact.add_eq, Exact.mul_eq, Exact.zero_eq, zero_add]
    rw [h]
    exact Real.sqrt_one
  unfold Pose3D.checked
  simp only [hlength, allFinite_exact]
  norm_num

theorem composePose_eq {a b : Pose3D ℝ} (ha : a.IsUnit) (hb : b.IsUnit) :
    composePose a b = some ⟨a.positionM + (rotation a.quaternionXyzw).mulVec b.positionM,
      product a.quaternionXyzw b.quaternionXyzw⟩ := by
  have hunit : normSq (product a.quaternionXyzw b.quaternionXyzw) = 1 := by
    rw [Rotation.normSq_product, ha, hb, mul_one]
  unfold composePose
  rw [quaternionToMatrix_unit ha, quaternionMultiply_unit ha hb]
  exact checked_unit hunit

theorem isUnit_composed {a b : Pose3D ℝ} (ha : a.IsUnit) (hb : b.IsUnit) (position : Vector3 ℝ) :
    (⟨position, product a.quaternionXyzw b.quaternionXyzw⟩ : Pose3D ℝ).IsUnit := by
  rw [Pose3D.IsUnit, Rotation.normSq_product, ha, hb, mul_one]

/-- **Associativity**. -/
theorem composePose_assoc {a b c : Pose3D ℝ} (ha : a.IsUnit) (hb : b.IsUnit) (hc : c.IsUnit) :
    ∃ ab bc abc, composePose a b = some ab ∧ composePose b c = some bc ∧
      composePose ab c = some abc ∧ composePose a bc = some abc := by
  refine ⟨_, _, _, composePose_eq ha hb, composePose_eq hb hc,
    composePose_eq (isUnit_composed ha hb _) hc, ?_⟩
  rw [composePose_eq ha (isUnit_composed hb hc _)]
  simp only [Rotation.product_assoc, Rotation.rotation_product ha hb, Matrix.mulVec_add,
    Matrix.mulVec_mulVec, add_assoc]

theorem inversePose_eq {pose : Pose3D ℝ} (h : pose.IsUnit) :
    inversePose pose = some ⟨-(rotation (conjugate pose.quaternionXyzw)).mulVec pose.positionM,
      conjugate pose.quaternionXyzw⟩ := by
  have hunit : normSq (conjugate pose.quaternionXyzw) = 1 := by
    rw [Rotation.normSq_conjugate, h]
  unfold inversePose
  rw [quaternionConjugate_eq h]
  simp only [Option.bind_eq_bind, Option.bind_some, quaternionToMatrix_unit hunit, negated_eq]
  exact checked_unit hunit

/-- **The inverse**. -/
theorem composePose_inverse {pose : Pose3D ℝ} (h : pose.IsUnit) :
    ∃ inverse, inversePose pose = some inverse ∧
      composePose pose inverse = some ⟨0, Rotation.one⟩ := by
  have hunit : normSq (conjugate pose.quaternionXyzw) = 1 := by
    rw [Rotation.normSq_conjugate, h]
  refine ⟨_, inversePose_eq h, ?_⟩
  rw [composePose_eq h (b := ⟨_, conjugate pose.quaternionXyzw⟩) hunit]
  simp only [Rotation.product_conjugate h, Rotation.rotation_conjugate, Matrix.mulVec_neg,
    Matrix.mulVec_mulVec, Rotation.rotation_mul_transpose h, Matrix.one_mulVec, add_neg_cancel]

/-! ## The conversions -/

/-- **Agreement**: the round trip gives the representative with `w` not negative and divides by no
    zero, the matrices multiply as the quaternions do, and the poses are a group. -/
theorem conversions_agree :
    (∀ q : QuaternionXyzw ℝ, normSq q = 1 → ∃ m r, quaternionToMatrix q = some m ∧
      matrixToQuaternionXyzw m = some r ∧ (r = q ∨ r = -q) ∧ 0 ≤ r 3 ∧ 2 ≤ branchDivisor m) ∧
    (∀ p q : QuaternionXyzw ℝ, Normalizable p → Normalizable q → ∃ r mp mq,
      quaternionMultiply p q = some r ∧ quaternionToMatrix p = some mp ∧
      quaternionToMatrix q = some mq ∧ quaternionToMatrix r = some (mp * mq)) ∧
    (∀ a b c : Pose3D ℝ, a.IsUnit → b.IsUnit → c.IsUnit → ∃ ab bc abc,
      composePose a b = some ab ∧ composePose b c = some bc ∧
      composePose ab c = some abc ∧ composePose a bc = some abc) ∧
    ∀ pose : Pose3D ℝ, pose.IsUnit → ∃ inverse, inversePose pose = some inverse ∧
      composePose pose inverse = some ⟨0, ![0, 0, 0, 1]⟩ := by
  refine ⟨fun q h => ?_, fun p q hp hq => ?_, fun _ _ _ => composePose_assoc,
    fun _ => composePose_inverse⟩
  · obtain ⟨r, hr, hsign, hw⟩ := matrixToQuaternionXyzw_rotation h
    refine ⟨rotation q, r, quaternionToMatrix_unit h, hr, hsign, hw, ?_⟩
    rw [branchDivisor_rotation h]
    have hhalf := half_le_pivot h
    linarith
  · have hunit : normSq (product (normalized p) (normalized q)) = 1 := by
      rw [Rotation.normSq_product, normSq_normalized hp, normSq_normalized hq, mul_one]
    refine ⟨_, _, _, quaternionMultiply_eq hp hq, quaternionToMatrix_eq hp,
      quaternionToMatrix_eq hq, ?_⟩
    rw [quaternionToMatrix_unit hunit,
      Rotation.rotation_product (normSq_normalized hp) (normSq_normalized hq)]

/-- A half turn about the third axis, where `w` is zero. -/
theorem halfTurn_agrees : ∃ m r, quaternionToMatrix (![0, 0, 1, 0] : QuaternionXyzw ℝ) = some m ∧
    matrixToQuaternionXyzw m = some r ∧ (r = ![0, 0, 1, 0] ∨ r = -![0, 0, 1, 0]) ∧ 0 ≤ r 3 ∧
      2 ≤ branchDivisor m :=
  conversions_agree.1 ![0, 0, 1, 0] (by simp [Rotation.normSq_eq])

end HandLab.Teleoperation
