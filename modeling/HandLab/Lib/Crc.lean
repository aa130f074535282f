import Mathlib.Algebra.Field.ZMod
import Mathlib.Algebra.Polynomial.Div
import Mathlib.RingTheory.AdjoinRoot

/-!
# Reflected cyclic redundancy checks

A check of `w` bits over `GF(2)`, on bits that are sent with the least
significant bit of each byte first. The first bit sent is the highest
coefficient of a polynomial (`bitPoly`), and a register holds a remainder in the
same order (`wordPoly`).

* `IsCrc`: the polynomial definition of the check with a register that starts
  with all ones and is complemented at the end.
* `isCrc_register`: the loop over bytes and bits computes it.
* `isCrc_unique`: it determines the value.
* `isCrc_burst`: two words with right checks differ by more than a burst of
  `w` bits.
-/

namespace HandLab.Lib

open Polynomial

/-! ## Bits as polynomials -/

/-- The `w` low bits of a number, the least significant first. -/
def natBits (w n : ℕ) : List Bool := (List.range w).map n.testBit

@[simp] theorem length_natBits (w n : ℕ) : (natBits w n).length = w := by
  simp [natBits]

theorem natBits_succ (w n : ℕ) : natBits (w + 1) n = n.testBit 0 :: natBits w (n / 2) := by
  simp [natBits, List.range_succ_eq_map, Function.comp_def, Nat.testBit_succ]

theorem natBits_add (v w n : ℕ) : natBits (v + w) n = natBits v n ++ natBits w (n / 2 ^ v) := by
  simp [natBits, List.range_add, Function.comp_def, Nat.testBit_div_two_pow, Nat.add_comm]

theorem natBits_zero (w : ℕ) : natBits w 0 = List.replicate w false := by
  rw [List.eq_replicate_iff]
  simp [natBits]

theorem natBits_xor (w m n : ℕ) :
    natBits w (m ^^^ n) = List.zipWith xor (natBits w m) (natBits w n) := by
  simp [natBits, List.zipWith_map, List.zipWith_self]

/-- The polynomial of some bits, the highest coefficient first. -/
noncomputable def bitPoly : List Bool → (ZMod 2)[X]
  | [] => 0
  | b :: bs => (if b then X ^ bs.length else 0) + bitPoly bs

@[simp] theorem bitPoly_nil : bitPoly [] = 0 := rfl

theorem bitPoly_cons (b : Bool) (bs : List Bool) :
    bitPoly (b :: bs) = (if b then X ^ bs.length else 0) + bitPoly bs := rfl

theorem bitPoly_append (as bs : List Bool) :
    bitPoly (as ++ bs) = bitPoly as * X ^ bs.length + bitPoly bs := by
  induction as with
  | nil => simp
  | cons a as ih =>
    rw [List.cons_append, bitPoly_cons, bitPoly_cons, ih, List.length_append]
    split_ifs <;> ring

theorem bitPoly_replicate_false (w : ℕ) : bitPoly (List.replicate w false) = 0 := by
  induction w with
  | zero => rfl
  | succ w ih => simp [List.replicate_succ, bitPoly_cons, ih]

variable {as bs : List Bool}

theorem bitPoly_xor (h : as.length = bs.length) :
    bitPoly (List.zipWith xor as bs) = bitPoly as + bitPoly bs := by
  induction as generalizing bs with
  | nil =>
    obtain rfl : bs = [] := List.length_eq_zero_iff.mp h.symm
    simp
  | cons a as ih =>
    cases bs with
    | nil => exact absurd h nofun
    | cons b bs =>
      have hlen : as.length = bs.length := Nat.succ.inj h
      rw [List.zipWith_cons_cons, bitPoly_cons, bitPoly_cons, bitPoly_cons, ih hlen,
        List.length_zipWith, hlen, Nat.min_self]
      have htwo : (X ^ bs.length : (ZMod 2)[X]) + X ^ bs.length = 0 := CharTwo.add_self_eq_zero _
      cases a <;> cases b <;> simp [add_assoc, add_left_comm]
      rw [← add_assoc, htwo, zero_add]

theorem degree_bitPoly_lt (bs : List Bool) : (bitPoly bs).degree < bs.length := by
  induction bs with
  | nil => simp
  | cons b bs ih =>
    rw [bitPoly_cons]
    refine (degree_add_le _ _).trans_lt (max_lt ?_ ?_)
    · split_ifs
      · rw [degree_X_pow]
        exact_mod_cast Nat.lt_succ_self _
      · simp
    · refine ih.trans ?_
      exact_mod_cast Nat.lt_succ_self _

/-- The first bit is the coefficient of the highest power. -/
theorem coeff_bitPoly_cons (b : Bool) (bs : List Bool) :
    (bitPoly (b :: bs)).coeff bs.length = if b then 1 else 0 := by
  rw [bitPoly_cons, coeff_add, coeff_eq_zero_of_degree_lt (degree_bitPoly_lt bs), add_zero]
  split_ifs <;> simp

theorem bitPoly_injective (h : as.length = bs.length)
    (heq : bitPoly as = bitPoly bs) : as = bs := by
  induction as generalizing bs with
  | nil => exact (List.length_eq_zero_iff.mp h.symm).symm
  | cons a as ih =>
    cases bs with
    | nil => exact absurd h nofun
    | cons b bs =>
      have hlen : as.length = bs.length := Nat.succ.inj h
      have hhead : a = b := by
        have hcoeff := congrArg (coeff · bs.length) heq
        simp only [coeff_bitPoly_cons] at hcoeff
        rw [← hlen, coeff_bitPoly_cons] at hcoeff
        cases a <;> cases b <;> simp_all
      obtain rfl := hhead
      rw [bitPoly_cons, bitPoly_cons, hlen] at heq
      rw [ih hlen (add_left_cancel heq)]

/-! ## Words -/

variable {w : ℕ}

/-- The polynomial of a word, the highest coefficient in the least significant bit. -/
noncomputable def wordPoly (v : BitVec w) : (ZMod 2)[X] := bitPoly (natBits w v.toNat)

theorem degree_wordPoly_lt (v : BitVec w) : (wordPoly v).degree < w := by
  simpa [wordPoly] using degree_bitPoly_lt (natBits w v.toNat)

variable {a b : BitVec w}

theorem natBits_injective (h : natBits w a.toNat = natBits w b.toNat) :
    a = b := by
  apply BitVec.eq_of_getLsbD_eq
  intro i hi
  have hi' := congrArg (·[i]?) h
  simpa [natBits, hi, BitVec.getLsbD] using hi'

theorem wordPoly_injective (h : wordPoly a = wordPoly b) : a = b :=
  natBits_injective (bitPoly_injective (by simp) h)

theorem wordPoly_xor (a b : BitVec w) : wordPoly (a ^^^ b) = wordPoly a + wordPoly b := by
  rw [wordPoly, BitVec.toNat_xor, natBits_xor, bitPoly_xor (by simp)]
  rfl

@[simp] theorem wordPoly_zero : wordPoly 0#w = 0 := by
  simp [wordPoly, natBits_zero, bitPoly_replicate_false]

/-- A shift multiplies by `X`, and loses the highest coefficient. -/
theorem wordPoly_shift (s : BitVec w) :
    wordPoly (s >>> 1) = X * wordPoly s + if s.getLsbD 0 then X ^ w else 0 := by
  cases w with
  | zero =>
    obtain rfl : s = 0 := BitVec.eq_nil s
    simp [wordPoly, natBits]
  | succ w =>
    have hshift : natBits (w + 1) (s >>> 1).toNat = natBits w (s.toNat / 2) ++ [false] := by
      have hlt : s.toNat / 2 / 2 ^ w = 0 := by
        rw [Nat.div_div_eq_div_mul, ← pow_succ']
        exact Nat.div_eq_of_lt s.isLt
      rw [BitVec.toNat_ushiftRight, Nat.shiftRight_one, natBits_add, hlt]
      simp [natBits]
    have hcons : bitPoly (s.toNat.testBit 0 :: natBits w (s.toNat / 2)) =
        (if s.toNat.testBit 0 then X ^ w else 0) + bitPoly (natBits w (s.toNat / 2)) := by
      rw [bitPoly_cons, length_natBits]
    have hlast : bitPoly [false] = 0 := by simp [bitPoly_cons]
    rw [wordPoly, wordPoly, hshift, natBits_succ, bitPoly_append, hcons, hlast]
    have htwo : (X ^ (w + 1) : (ZMod 2)[X]) + X ^ (w + 1) = 0 := CharTwo.add_self_eq_zero _
    have hbit : s.getLsbD 0 = s.toNat.testBit 0 := rfl
    rw [hbit]
    simp only [List.length_singleton, pow_one]
    split_ifs
    · linear_combination (-1 : (ZMod 2)[X]) * htwo
    · ring

/-! ## The register -/

variable (poly : BitVec w)

/-- The polynomial of the check. -/
noncomputable def generator : (ZMod 2)[X] := X ^ w + wordPoly poly

/-- The register after one bit. -/
def crcStep (s : BitVec w) : BitVec w := (s >>> 1) ^^^ (if s.getLsbD 0 then poly else 0)

/-- The register after one byte. -/
def crcByte (s : BitVec w) (byte : BitVec 8) : BitVec w :=
  (crcStep poly)^[8] (s ^^^ byte.setWidth w)

/-- The register after some bytes. -/
def crcRegister (s : BitVec w) (data : List (BitVec 8)) : BitVec w := data.foldl (crcByte poly) s

/-- The bits of some bytes in the order in which they are sent. -/
def byteBits (data : List (BitVec 8)) : List Bool := data.flatMap fun byte => natBits 8 byte.toNat

@[simp] theorem length_byteBits (data : List (BitVec 8)) :
    (byteBits data).length = 8 * data.length := by
  induction data with
  | nil => rfl
  | cons byte data ih =>
    rw [byteBits, List.flatMap_cons, List.length_append]
    rw [byteBits] at ih
    rw [ih, length_natBits, List.length_cons]
    ring

theorem byteBits_injective {as bs : List (BitVec 8)} (h : byteBits as = byteBits bs) :
    as = bs := by
  induction as generalizing bs with
  | nil =>
    have hlen := congrArg List.length h
    rw [length_byteBits, length_byteBits, List.length_nil] at hlen
    exact (List.length_eq_zero_iff.mp (by omega)).symm
  | cons a as ih =>
    cases bs with
    | nil => exact absurd (congrArg List.length h) (by simp)
    | cons b bs =>
      have happend : natBits 8 a.toNat ++ byteBits as = natBits 8 b.toNat ++ byteBits bs := h
      obtain ⟨hhead, htail⟩ := List.append_inj happend (by simp)
      rw [natBits_injective hhead, ih htail]

/-- Residues modulo the polynomial of the check. -/
noncomputable abbrev residue : (ZMod 2)[X] →+* AdjoinRoot (generator poly) :=
  AdjoinRoot.mk (generator poly)

theorem residue_step (s : BitVec w) :
    residue poly (wordPoly (crcStep poly s)) = residue poly (X * wordPoly s) := by
  have hgenerator : residue poly (X ^ w + wordPoly poly) = 0 := AdjoinRoot.mk_self
  rw [crcStep, wordPoly_xor, wordPoly_shift]
  split_ifs
  · rw [add_assoc, map_add, hgenerator, add_zero]
  · simp

theorem residue_steps (n : ℕ) (s : BitVec w) :
    residue poly (wordPoly ((crcStep poly)^[n] s)) = residue poly (X ^ n * wordPoly s) := by
  induction n generalizing s with
  | zero => simp
  | succ n ih =>
    rw [Function.iterate_succ_apply, ih, map_mul, residue_step, pow_succ, ← map_mul, mul_assoc]

theorem residue_byte (hw : 8 ≤ w) (s : BitVec w) (byte : BitVec 8) :
    residue poly (wordPoly (crcByte poly s byte)) =
      residue poly (X ^ 8 * wordPoly s + X ^ w * bitPoly (natBits 8 byte.toNat)) := by
  have hbyte : wordPoly (byte.setWidth w) =
      bitPoly (natBits 8 byte.toNat) * X ^ (w - 8) := by
    have hlt : byte.toNat < 2 ^ w := byte.isLt.trans_le (Nat.pow_le_pow_right (by omega) hw)
    have hsplit : natBits w byte.toNat =
        natBits 8 byte.toNat ++ List.replicate (w - 8) false := by
      have h8 : w = 8 + (w - 8) := by omega
      conv => lhs; rw [h8, natBits_add, Nat.div_eq_of_lt byte.isLt, natBits_zero]
    rw [wordPoly, BitVec.toNat_setWidth, Nat.mod_eq_of_lt hlt, hsplit, bitPoly_append,
      bitPoly_replicate_false, add_zero, List.length_replicate]
  have hpow : (X : (ZMod 2)[X]) ^ 8 * X ^ (w - 8) = X ^ w := by
    rw [← pow_add]
    congr 1
    omega
  rw [crcByte, residue_steps, wordPoly_xor, hbyte]
  refine congrArg (residue poly) ?_
  rw [← hpow]
  ring

theorem residue_register (hw : 8 ≤ w) (s : BitVec w) (data : List (BitVec 8)) :
    residue poly (wordPoly (crcRegister poly s data)) =
      residue poly (X ^ (8 * data.length) * wordPoly s + X ^ w * bitPoly (byteBits data)) := by
  induction data generalizing s with
  | nil => simp [crcRegister, byteBits]
  | cons byte data ih =>
    have hbits : bitPoly (byteBits (byte :: data)) =
        bitPoly (natBits 8 byte.toNat) * X ^ (8 * data.length) + bitPoly (byteBits data) := by
      rw [← length_byteBits, ← bitPoly_append]
      rfl
    show residue poly (wordPoly (crcRegister poly (crcByte poly s byte) data)) = _
    rw [ih, map_add, map_mul, residue_byte poly hw, hbits, List.length_cons, ← map_mul, ← map_add]
    refine congrArg (residue poly) ?_
    ring

/-! ## The check -/

/-- The check of some bits by its definition: the complement of the value is the
    remainder of the bits after `w` ones, followed by `w` zeros. -/
def IsCrc (data : List Bool) (value : BitVec w) : Prop :=
  generator poly ∣ wordPoly (~~~value) -
    (X ^ data.length * wordPoly (BitVec.allOnes w) + X ^ w * bitPoly data)

variable {poly}

theorem degree_generator : (generator poly).degree = w := by
  rw [generator, degree_add_eq_left_of_degree_lt, degree_X_pow]
  rw [degree_X_pow]
  exact degree_wordPoly_lt poly

theorem isCrc_unique {data : List Bool} (ha : IsCrc poly data a)
    (hb : IsCrc poly data b) : a = b := by
  have hdvd : generator poly ∣ wordPoly (~~~a) - wordPoly (~~~b) := by
    have hsub := dvd_sub ha hb
    rwa [sub_sub_sub_cancel_right] at hsub
  have hdegree : (wordPoly (~~~a) - wordPoly (~~~b)).degree < (generator poly).degree := by
    rw [degree_generator]
    exact (degree_sub_le _ _).trans_lt (max_lt (degree_wordPoly_lt _) (degree_wordPoly_lt _))
  have heq := sub_eq_zero.mp (eq_zero_of_dvd_of_degree_lt hdvd hdegree)
  have hnot : ~~~a = ~~~b := wordPoly_injective heq
  rw [← BitVec.not_not (b := a), hnot, BitVec.not_not]

/-- **Correctness of the loop.** -/
theorem isCrc_register (hw : 8 ≤ w) (data : List (BitVec 8)) :
    IsCrc poly (byteBits data) (~~~crcRegister poly (BitVec.allOnes w) data) := by
  have hregister := residue_register poly hw (BitVec.allOnes w) data
  rw [IsCrc, BitVec.not_not, length_byteBits]
  exact AdjoinRoot.mk_eq_mk.mp hregister

/-! ## Bursts -/

/-- Two lists that differ in at most `w` consecutive places. -/
def Burst (w : ℕ) (as bs : List Bool) : Prop :=
  ∃ before u v after, as = before ++ u ++ after ∧ bs = before ++ v ++ after ∧
    u.length = v.length ∧ u.length ≤ w

/-- The polynomial of the check has a constant term. -/
theorem coeff_generator_zero (h : poly.msb = true) : (generator poly).coeff 0 = 1 := by
  cases w with
  | zero =>
    rw [BitVec.eq_nil poly] at h
    exact absurd h (by decide)
  | succ w =>
    have hbits : natBits (w + 1) poly.toNat = natBits w poly.toNat ++ [true] := by
      have hlast : poly.toNat.testBit w = true := by
        simpa [BitVec.msb_eq_getLsbD_last, BitVec.getLsbD] using h
      simp [natBits, List.range_succ, hlast]
    rw [generator, wordPoly, hbits, bitPoly_append]
    simp [bitPoly_cons, coeff_X_pow]

/-- A burst is no multiple of a polynomial that has a constant term. -/
theorem not_dvd_of_burst (hpoly : poly.msb = true) (h : Burst w as bs)
    (hne : as ≠ bs) : ¬generator poly ∣ bitPoly as - bitPoly bs := by
  obtain ⟨before, u, v, after, rfl, rfl, hlen, hle⟩ := h
  have hdifference : bitPoly (before ++ u ++ after) - bitPoly (before ++ v ++ after) =
      X ^ after.length * (bitPoly u - bitPoly v) := by
    rw [bitPoly_append, bitPoly_append, bitPoly_append, bitPoly_append, hlen]
    ring
  have hcoprime : IsCoprime (generator poly) (X ^ after.length) := by
    refine (IsCoprime.symm ?_).pow_right
    rw [irreducible_X.coprime_iff_not_dvd, X_dvd_iff, coeff_generator_zero hpoly]
    exact one_ne_zero
  intro hdvd
  rw [hdifference] at hdvd
  have hdegree : (bitPoly u - bitPoly v).degree < (generator poly).degree := by
    have hu : (bitPoly u).degree < w :=
      (degree_bitPoly_lt u).trans_le (by exact_mod_cast hle)
    have hv : (bitPoly v).degree < w :=
      (degree_bitPoly_lt v).trans_le (by exact_mod_cast hlen ▸ hle)
    rw [degree_generator]
    exact (degree_sub_le _ _).trans_lt (max_lt hu hv)
  have hzero := eq_zero_of_dvd_of_degree_lt (hcoprime.dvd_of_dvd_mul_left hdvd) hdegree
  exact hne (by rw [bitPoly_injective hlen (sub_eq_zero.mp hzero)])

theorem residue_checked {data : List Bool} {value : BitVec w} (h : IsCrc poly data value) :
    residue poly (bitPoly (data ++ natBits w value.toNat)) =
      residue poly (wordPoly (BitVec.allOnes w) +
        X ^ data.length * wordPoly (BitVec.allOnes w)) := by
  have hvalue : wordPoly value + wordPoly (~~~value) = wordPoly (BitVec.allOnes w) := by
    have hones : value ^^^ ~~~value = BitVec.allOnes w := by
      ext i hi
      simp
    rw [← wordPoly_xor, hones]
  have htwo : X ^ data.length * wordPoly (BitVec.allOnes w) +
      X ^ data.length * wordPoly (BitVec.allOnes w) = 0 := CharTwo.add_self_eq_zero _
  refine AdjoinRoot.mk_eq_mk.mpr ((dvd_neg.mpr h).trans (dvd_of_eq ?_))
  have hword : bitPoly (natBits w value.toNat) = wordPoly value := rfl
  rw [bitPoly_append, length_natBits, hword]
  linear_combination (-1 : (ZMod 2)[X]) * hvalue + htwo

/-- **Burst detection.** Messages with right checks that differ in a burst are the same. -/
theorem isCrc_burst (hpoly : poly.msb = true)
    (ha : IsCrc poly as a) (hb : IsCrc poly bs b) (hlen : as.length = bs.length)
    (h : Burst w (as ++ natBits w a.toNat) (bs ++ natBits w b.toNat)) :
    as ++ natBits w a.toNat = bs ++ natBits w b.toNat := by
  by_contra hne
  refine not_dvd_of_burst hpoly h hne (AdjoinRoot.mk_eq_mk.mp ?_)
  have hresidue := (residue_checked ha).trans (hlen ▸ (residue_checked hb).symm)
  exact hresidue

end HandLab.Lib
