import HandLab.Lib.Crc

/-!
# Little-endian numbers

`leBytes k n` is the number `n` in `k` bytes, and `leNat` reads bytes back. A
record is a list of such numbers, one for each size of its layout, with nothing
between them (`packed`, `unpacked`).
-/

namespace HandLab.Lib

/-! ## Numbers -/

/-- The `k` low bytes of a number, the least significant first. -/
def leBytes : ℕ → ℕ → List (BitVec 8)
  | 0, _ => []
  | k + 1, n => BitVec.ofNat 8 n :: leBytes k (n / 256)

/-- The number that some bytes hold. -/
def leNat : List (BitVec 8) → ℕ
  | [] => 0
  | byte :: bytes => byte.toNat + 256 * leNat bytes

@[simp] theorem length_leBytes (k n : ℕ) : (leBytes k n).length = k := by
  induction k generalizing n with
  | zero => rfl
  | succ k ih => rw [leBytes, List.length_cons, ih]

theorem leNat_lt (bytes : List (BitVec 8)) : leNat bytes < 256 ^ bytes.length := by
  induction bytes with
  | nil => simp [leNat]
  | cons byte bytes ih =>
    have hbyte := byte.isLt
    rw [leNat, List.length_cons, pow_succ]
    omega

theorem leNat_leBytes {k n : ℕ} (h : n < 256 ^ k) : leNat (leBytes k n) = n := by
  induction k generalizing n with
  | zero =>
    rw [pow_zero] at h
    rw [leBytes, leNat]
    omega
  | succ k ih =>
    have hdiv : n / 256 < 256 ^ k := by
      rw [pow_succ] at h
      omega
    rw [leBytes, leNat, ih hdiv, BitVec.toNat_ofNat]
    omega

theorem leBytes_leNat (bytes : List (BitVec 8)) : leBytes bytes.length (leNat bytes) = bytes := by
  induction bytes with
  | nil => rfl
  | cons byte bytes ih =>
    have hbyte := byte.isLt
    have hdiv : (byte.toNat + 256 * leNat bytes) / 256 = leNat bytes := by omega
    have hmod : BitVec.ofNat 8 (byte.toNat + 256 * leNat bytes) = byte := by
      apply BitVec.eq_of_toNat_eq
      rw [BitVec.toNat_ofNat]
      omega
    rw [leNat, List.length_cons, leBytes, hdiv, hmod, ih]

/-- The bits of a number are those of its bytes. -/
theorem byteBits_leBytes (k n : ℕ) : byteBits (leBytes k n) = natBits (8 * k) n := by
  induction k generalizing n with
  | zero => simp [leBytes, byteBits, natBits]
  | succ k ih =>
    have hlow : natBits 8 (n % 2 ^ 8) = natBits 8 n := by
      refine List.map_congr_left fun i hi => ?_
      rw [Nat.testBit_mod_two_pow, decide_eq_true (List.mem_range.mp hi), Bool.true_and]
    have hsize : 8 * (k + 1) = 8 + 8 * k := by ring
    rw [hsize, natBits_add, ← ih, leBytes]
    show natBits 8 (BitVec.ofNat 8 n).toNat ++ _ = _
    rw [BitVec.toNat_ofNat, hlow]
    rfl

/-! ## Records -/

/-- The bytes of some numbers in a layout. -/
def packed : List ℕ → List ℕ → List (BitVec 8)
  | size :: sizes, n :: ns => leBytes size n ++ packed sizes ns
  | _, _ => []

/-- The numbers that some bytes hold in a layout. -/
def unpacked : List ℕ → List (BitVec 8) → List ℕ
  | [], _ => []
  | size :: sizes, bytes => leNat (bytes.take size) :: unpacked sizes (bytes.drop size)

/-- Every number fits its size. -/
def Fits (sizes ns : List ℕ) : Prop := List.Forall₂ (fun size n => n < 256 ^ size) sizes ns

theorem length_packed {sizes ns : List ℕ} (h : Fits sizes ns) :
    (packed sizes ns).length = sizes.sum := by
  induction h with
  | nil => rfl
  | cons _ _ ih => rw [packed, List.length_append, length_leBytes, ih, List.sum_cons]

theorem unpacked_packed {sizes ns : List ℕ} (h : Fits sizes ns) (rest : List (BitVec 8)) :
    unpacked sizes (packed sizes ns ++ rest) = ns := by
  induction h with
  | nil => rfl
  | @cons size n sizes ns hn _ ih =>
    have htake : (leBytes size n ++ (packed sizes ns ++ rest)).take size = leBytes size n :=
      List.take_left' (length_leBytes size n)
    have hdrop : (leBytes size n ++ (packed sizes ns ++ rest)).drop size =
        packed sizes ns ++ rest := List.drop_left' (length_leBytes size n)
    rw [packed, List.append_assoc, unpacked, htake, hdrop, leNat_leBytes hn, ih]

theorem fits_unpacked (sizes : List ℕ) (bytes : List (BitVec 8)) :
    Fits sizes (unpacked sizes bytes) := by
  induction sizes generalizing bytes with
  | nil => exact .nil
  | cons size sizes ih =>
    refine .cons ?_ (ih _)
    refine (leNat_lt _).trans_le (Nat.pow_le_pow_right (by omega) ?_)
    exact List.length_take_le size bytes

theorem packed_unpacked {sizes : List ℕ} {bytes : List (BitVec 8)}
    (h : sizes.sum ≤ bytes.length) :
    packed sizes (unpacked sizes bytes) = bytes.take sizes.sum := by
  induction sizes generalizing bytes with
  | nil => rfl
  | cons size sizes ih =>
    rw [List.sum_cons] at h
    have hhead : leBytes size (leNat (bytes.take size)) = bytes.take size := by
      have hlen : (bytes.take size).length = size := by
        rw [List.length_take]
        omega
      have hbytes := leBytes_leNat (bytes.take size)
      rwa [hlen] at hbytes
    rw [unpacked, packed, hhead, ih (by rw [List.length_drop]; omega), List.sum_cons,
      List.take_add]

theorem unpacked_append (sizes sizes' : List ℕ) (bytes : List (BitVec 8)) :
    unpacked (sizes ++ sizes') bytes =
      unpacked sizes bytes ++ unpacked sizes' (bytes.drop sizes.sum) := by
  induction sizes generalizing bytes with
  | nil => rfl
  | cons size sizes ih =>
    rw [List.cons_append, unpacked, ih, unpacked, List.sum_cons, List.drop_drop]
    rfl

end HandLab.Lib
