import HandLab.Lib.Double
import Mathlib.Data.Nat.Size
import Mathlib.Tactic.IntervalCases

/-!
# The order of the hand's channels

`hand_schema.reorder_values`, the register codecs of `RH56SerialBackend`
(`src/rh56_driver/serial_backend.py`, lines 163–195 and 357–390), and the feedback of
`RH56PcDirectControl.poll_feedback` (`src/rh56_driver/pc_direct_control.py`, lines 442–469). The
values are whole numbers throughout, also where the program holds them as floats.

* `reorderValues_map`: the permutation by names.
* `get_set_canonicalAngles`: the round trip through the registers.
* `aligned_iff`: positions and diagnostics are of one channel exactly if the order is configured.
-/

namespace HandLab.Rh56

open HandLab.Lib

/-! ## Orders -/

/-- A name of `CANONICAL_HAND_ORDER`. -/
inductive HandDof
  | index | middle | ring | pinky | thumbClose | thumbLateral
  deriving DecidableEq, Repr

/-- `CANONICAL_HAND_ORDER`. -/
def canonicalHandOrder : List HandDof :=
  [.index, .middle, .ring, .pinky, .thumbClose, .thumbLateral]

/-- `RH56_PROTOCOL_ORDER`. -/
def rh56ProtocolOrder : List HandDof :=
  [.pinky, .ring, .middle, .index, .thumbClose, .thumbLateral]

/-- What the conversions raise. -/
inductive SchemaError
  /-- `ValueError("Order contains duplicate names: …")` -/
  | duplicateNames
  /-- `ValueError("Order must contain canonical names. …")` -/
  | missingNames
  /-- `ValueError("Expected … values, got ….")` -/
  | valueCount (expected got : ℕ)
  /-- `KeyError` of `by_name[name]` -/
  | unknownName (name : HandDof)
  /-- `ValueError("RH56 command vector must have length 6.")` -/
  | vectorLength
  /-- `ValueError("RH56 value … outside [0, 1000].")` -/
  | outsideRange (value : ℤ)
  /-- `RuntimeError("Insufficient RH56 response payload length.")` -/
  | shortPayload
  deriving DecidableEq, Repr

/-- `_validate_order`; a name that is not canonical cannot be written here. -/
def validateOrder (order : List HandDof) : Except SchemaError (List HandDof) :=
  if ¬order.Nodup then .error .duplicateNames
  else if ∃ name ∈ canonicalHandOrder, name ∉ order then .error .missingNames
  else .ok order

/-- `numpy.float32` of a whole number: 24 significant bits, ties to even. -/
def float32 (value : ℤ) : ℤ :=
  if value.natAbs.size ≤ 24 then value
  else
    let unit : ℕ := 2 ^ (value.natAbs.size - 24)
    PyFloat.roundHalfEven ((value : ℚ) / unit) * unit

/-- `_as_array`. -/
def asArray (values : List ℤ) (expected : ℕ) : Except SchemaError (List ℤ) :=
  if values.length ≠ expected then .error (.valueCount expected values.length)
  else .ok (values.map float32)

/-- `by_name[name]`. -/
def byName (items : List (HandDof × ℤ)) (name : HandDof) : Except SchemaError ℤ :=
  match items.lookup name with
  | none => .error (.unknownName name)
  | some value => .ok value

/-- `reorder_values`. -/
def reorderValues (values : List ℤ) (sourceOrder targetOrder : List HandDof) :
    Except SchemaError (List ℤ) := do
  let source ← validateOrder sourceOrder
  let target ← validateOrder targetOrder
  let array ← asArray values source.length
  target.mapM (byName (source.zip array))

/-- `raw_to_canonical`. -/
def orderRawToCanonical (values : List ℤ) (rawOrder : List HandDof) :
    Except SchemaError (List ℤ) :=
  reorderValues values rawOrder canonicalHandOrder

/-- `canonical_to_raw`. -/
def orderCanonicalToRaw (values : List ℤ) (rawOrder : List HandDof) :
    Except SchemaError (List ℤ) :=
  reorderValues values canonicalHandOrder rawOrder

/-! ## Registers -/

/-- `_u16_list_to_bytes`. -/
def u16ListToBytes (values : List ℤ) : List ℕ :=
  values.flatMap fun value => [(value % 256).toNat, (value / 256 % 256).toNat]

/-- `_u16_list_from_bytes`. -/
def u16ListFromBytes (data : List ℕ) (count : ℕ) : Except SchemaError (List ℤ) :=
  if data.length < 2 * count then .error .shortPayload
  else
    .ok ((List.range count).map fun i =>
      ((data.getD (2 * i) 0 % 256 ||| (data.getD (2 * i + 1) 0 % 256) <<< 8 : ℕ) : ℤ))

/-- `_s16_list_from_bytes`. -/
def s16ListFromBytes (data : List ℕ) (count : ℕ) : Except SchemaError (List ℤ) := do
  let values ← u16ListFromBytes data count
  return values.map fun value => if 32768 ≤ value then value - 65536 else value

/-- `_validate_vector(values, 0, 1000)`. -/
def validateVector (values : List ℤ) : Except SchemaError Unit :=
  if values.length ≠ 6 then .error .vectorLength
  else
    match values.find? fun value => !decide (0 ≤ value ∧ value ≤ 1000) with
    | some value => .error (.outsideRange value)
    | none => .ok ()

/-- `config["hand_schema"]`, with the order of the protocol where it is configured. -/
structure HandSchemaConfig where
  protocolOrder : Option (List HandDof)
  perm : ∀ order, protocolOrder = some order → order.Perm canonicalHandOrder

namespace HandSchemaConfig

variable (config : HandSchemaConfig)

/-- `self.protocol_order` of `RH56SerialBackend`. -/
def backendOrder : List HandDof := config.protocolOrder.getD rh56ProtocolOrder

/-- The order of `STATUS` and `ERROR` in `poll_feedback`. -/
def diagnosticsOrder : List HandDof := config.protocolOrder.getD canonicalHandOrder

/-- `set_canonical_angles`: the bytes that it writes to `ANGLE_SET`. -/
def setCanonicalAngles (values : List ℤ) : Except SchemaError (List ℕ) := do
  let raw ← orderCanonicalToRaw values config.backendOrder
  validateVector raw
  return u16ListToBytes raw

/-- `get_canonical_angles` and `get_canonical_currents` of the bytes of a register. -/
def getCanonicalAngles (data : List ℕ) : Except SchemaError (List ℤ) := do
  let raw ← u16ListFromBytes data 6
  orderRawToCanonical raw config.backendOrder

/-- `get_canonical_forces`. -/
def getCanonicalForces (data : List ℕ) : Except SchemaError (List ℤ) := do
  let raw ← s16ListFromBytes data 6
  orderRawToCanonical raw config.backendOrder

/-- `STATUS` or `ERROR` in `poll_feedback`. -/
def diagnostics (data : List ℕ) : Except SchemaError (List ℤ) :=
  orderRawToCanonical (data.map fun byte : ℕ => (byte : ℤ)) config.diagnosticsOrder

end HandSchemaConfig

/-- The registers that `poll_feedback` reads: words of two bytes, and bytes. -/
structure HandRegisters where
  angle : List (BitVec 8)
  current : List (BitVec 8)
  force : List (BitVec 8)
  status : List (BitVec 8)
  error : List (BitVec 8)
  lengths : angle.length = 12 ∧ current.length = 12 ∧ force.length = 12 ∧ status.length = 6 ∧
    error.length = 6

/-- The values of `PcDirectFeedback` in canonical order. -/
structure HandFeedback where
  position : List ℤ
  current : List ℤ
  load : List ℤ
  status : List ℤ
  error : List ℤ
  deriving DecidableEq

/-- The reads of `poll_feedback`. -/
def HandSchemaConfig.pollFeedback (config : HandSchemaConfig) (registers : HandRegisters) :
    Except SchemaError HandFeedback := do
  let position ← config.getCanonicalAngles (registers.angle.map BitVec.toNat)
  let current ← config.getCanonicalAngles (registers.current.map BitVec.toNat)
  let load ← config.getCanonicalForces (registers.force.map BitVec.toNat)
  let status ← config.diagnostics (registers.status.map BitVec.toNat)
  let error ← config.diagnostics (registers.error.map BitVec.toNat)
  return ⟨position, current, load, status, error⟩

/-! ## Reordering -/

section Reorder

variable {order source target : List HandDof}

theorem validateOrder_perm (h : order.Perm canonicalHandOrder) : validateOrder order = .ok order := by
  have hnodup : order.Nodup := h.nodup_iff.mpr (by decide)
  unfold validateOrder
  rw [if_neg (not_not.mpr hnodup), if_neg]
  rintro ⟨name, hname, hnot⟩
  exact hnot (h.mem_iff.mpr hname)

theorem float32_of_lt {value : ℤ} (h : value.natAbs < 2 ^ 24) : float32 value = value := by
  unfold float32
  rw [if_pos (Nat.size_le.mpr h)]

theorem lookup_zip_map (g : HandDof → ℤ) {name : HandDof} (h : name ∈ source) :
    (source.zip (source.map g)).lookup name = some (g name) := by
  induction source with
  | nil => exact absurd h List.not_mem_nil
  | cons first rest ih =>
    rw [List.map_cons, List.zip_cons_cons, List.lookup_cons]
    by_cases heq : name = first
    · rw [heq, beq_self_eq_true]
    · rw [beq_false_of_ne heq]
      exact ih ((List.mem_cons.mp h).resolve_left heq)

/-- **The permutation by names**: values that are named in one order are named in the other. -/
theorem reorderValues_map (hsource : source.Perm canonicalHandOrder)
    (htarget : target.Perm canonicalHandOrder) {g : HandDof → ℤ}
    (hexact : ∀ name, float32 (g name) = g name) :
    reorderValues (source.map g) source target = .ok (target.map g) := by
  have harray : asArray (source.map g) source.length = .ok (source.map g) := by
    unfold asArray
    rw [if_neg (not_ne_iff.mpr (List.length_map _)), List.map_map]
    exact congrArg _ (List.map_congr_left fun name _ => hexact name)
  unfold reorderValues
  rw [validateOrder_perm hsource, validateOrder_perm htarget]
  show (asArray (source.map g) source.length >>= fun array =>
    target.mapM (byName (source.zip array))) = _
  rw [harray]
  show target.mapM (byName (source.zip (source.map g))) = _
  have hmem : ∀ name ∈ target, name ∈ source := fun name hname =>
    hsource.mem_iff.mpr (htarget.mem_iff.mp hname)
  clear harray htarget
  induction target with
  | nil => rfl
  | cons name rest ih =>
    have hname : byName (source.zip (source.map g)) name = .ok (g name) := by
      unfold byName
      rw [lookup_zip_map g (hmem name List.mem_cons_self)]
    rw [List.mapM_cons, hname, ih fun other hother => hmem other (List.mem_cons_of_mem _ hother)]
    rfl

/-- The name of a value in an order. -/
def named (order : List HandDof) (values : List ℤ) (name : HandDof) : ℤ :=
  values.getD (order.idxOf name) 0

theorem map_named (hnodup : order.Nodup) {values : List ℤ} (hlength : values.length = order.length) :
    order.map (named order values) = values := by
  refine List.ext_getElem (by rw [List.length_map, hlength]) fun i hi hi' => ?_
  rw [List.getElem_map, named, hnodup.idxOf_getElem i, List.getD_eq_getElem?_getD,
    List.getElem?_eq_getElem hi', Option.getD_some]

theorem named_exact {values : List ℤ} (h : ∀ value ∈ values, value.natAbs < 2 ^ 24)
    (name : HandDof) : float32 (named order values name) = named order values name := by
  unfold named
  rw [List.getD_eq_getElem?_getD]
  cases hget : values[order.idxOf name]? with
  | none => exact float32_of_lt (by decide)
  | some value => exact float32_of_lt (h value (List.mem_of_getElem? hget))

theorem reorderValues_named (hsource : source.Perm canonicalHandOrder)
    (htarget : target.Perm canonicalHandOrder) {values : List ℤ} (hlength : values.length = 6)
    (hvalues : ∀ value ∈ values, value.natAbs < 2 ^ 24) :
    reorderValues values source target = .ok (target.map (named source values)) := by
  have hsame := map_named (hsource.nodup_iff.mpr (by decide))
    (hlength.trans hsource.length_eq.symm)
  have hexact : ∀ name, float32 (named source values name) = named source values name :=
    named_exact hvalues
  have hreorder := reorderValues_map hsource htarget hexact
  rwa [hsame] at hreorder

end Reorder

/-! ## The registers -/

/-- The word at a place of a register. -/
def word (register : List (BitVec 8)) (i : ℕ) : ℤ :=
  (register.getD (2 * i) 0).toNat + 256 * (register.getD (2 * i + 1) 0).toNat

theorem word_bounds (register : List (BitVec 8)) (i : ℕ) :
    0 ≤ word register i ∧ word register i < 65536 := by
  have hlow := (register.getD (2 * i) 0).isLt
  have hhigh := (register.getD (2 * i + 1) 0).isLt
  unfold word
  omega

/-- Two bytes, put together. -/
theorem or_shift {low high : ℕ} (hlow : low < 256) : low ||| high <<< 8 = low + 256 * high := by
  rw [Nat.or_comm, ← Nat.shiftLeft_add_eq_or_of_lt hlow, Nat.shiftLeft_eq]
  omega

theorem u16ListFromBytes_register {register : List (BitVec 8)} (h : register.length = 12) :
    u16ListFromBytes (register.map BitVec.toNat) 6 = .ok ((List.range 6).map (word register)) := by
  unfold u16ListFromBytes
  rw [List.length_map, h, if_neg (by decide)]
  refine congrArg _ (List.map_congr_left fun i _ => ?_)
  have hget : ∀ k, (register.map BitVec.toNat).getD k 0 = (register.getD k 0).toNat := by
    intro k
    rw [List.getD_eq_getElem?_getD, List.getD_eq_getElem?_getD, List.getElem?_map]
    cases register[k]? <;> rfl
  have hlow := (register.getD (2 * i) 0).isLt
  have hhigh := (register.getD (2 * i + 1) 0).isLt
  rw [hget, hget, Nat.mod_eq_of_lt hlow, Nat.mod_eq_of_lt hhigh, or_shift hlow]
  unfold word
  push_cast
  rfl

/-- A word that was written is read. -/
theorem u16_bytes {value : ℤ} (hnonneg : 0 ≤ value) (hlt : value < 65536) :
    (((value % 256).toNat % 256 ||| ((value / 256 % 256).toNat % 256) <<< 8 : ℕ) : ℤ) = value := by
  rw [or_shift (Nat.mod_lt _ (by decide))]
  push_cast
  omega

theorem u16ListFromBytes_toBytes {values : List ℤ} (hlength : values.length = 6)
    (h : ∀ value ∈ values, 0 ≤ value ∧ value < 65536) :
    u16ListFromBytes (u16ListToBytes values) 6 = .ok values := by
  match values, hlength with
  | [a, b, c, d, e, f], _ =>
    have hread : u16ListFromBytes (u16ListToBytes [a, b, c, d, e, f]) 6 =
        .ok ([a, b, c, d, e, f].map fun value =>
          (((value % 256).toNat % 256 ||| ((value / 256 % 256).toNat % 256) <<< 8 : ℕ) : ℤ)) :=
      rfl
    rw [hread]
    refine congrArg _ ?_
    conv_rhs => rw [← List.map_id [a, b, c, d, e, f]]
    exact List.map_congr_left fun value hvalue => u16_bytes (h value hvalue).1 (h value hvalue).2

/-! ## Alignment -/

namespace HandSchemaConfig

variable (config : HandSchemaConfig)

theorem backendOrder_perm : config.backendOrder.Perm canonicalHandOrder := by
  unfold backendOrder
  cases horder : config.protocolOrder with
  | none => decide
  | some order => exact config.perm order horder

theorem diagnosticsOrder_perm : config.diagnosticsOrder.Perm canonicalHandOrder := by
  unfold diagnosticsOrder
  cases horder : config.protocolOrder with
  | none => exact .refl _
  | some order => exact config.perm order horder

/-- **The round trip** of a command through the registers. -/
theorem get_set_canonicalAngles {values : List ℤ} (hlength : values.length = 6)
    (h : ∀ value ∈ values, 0 ≤ value ∧ value ≤ 1000) :
    ∃ bytes, config.setCanonicalAngles values = .ok bytes ∧
      config.getCanonicalAngles bytes = .ok values := by
  have hperm := config.backendOrder_perm
  generalize hraw : config.backendOrder.map (named canonicalHandOrder values) = raw
  have hset : orderCanonicalToRaw values config.backendOrder = .ok raw := by
    rw [← hraw]
    exact reorderValues_named (.refl _) hperm hlength fun value hvalue => by
      have := h value hvalue
      omega
  have hrange : ∀ value ∈ raw, 0 ≤ value ∧ value ≤ 1000 := by
    intro value hvalue
    rw [← hraw] at hvalue
    obtain ⟨name, hname, rfl⟩ := List.mem_map.mp hvalue
    have hindex : canonicalHandOrder.idxOf name < values.length := by
      rw [hlength]
      exact List.idxOf_lt_length_iff.mpr (hperm.mem_iff.mp hname)
    refine h _ ?_
    unfold named
    rw [List.getD_eq_getElem?_getD, List.getElem?_eq_getElem hindex]
    exact List.getElem_mem hindex
  have hrawLength : raw.length = 6 := by
    rw [← hraw, List.length_map, hperm.length_eq]
    rfl
  have hvalid : validateVector raw = .ok () := by
    unfold validateVector
    rw [if_neg (not_ne_iff.mpr hrawLength)]
    have hnone : (raw.find? fun value => !decide (0 ≤ value ∧ value ≤ 1000)) = none := by
      rw [List.find?_eq_none]
      intro value hvalue
      simpa using hrange value hvalue
    rw [hnone]
  refine ⟨u16ListToBytes raw, ?_, ?_⟩
  · unfold setCanonicalAngles
    rw [hset]
    show (validateVector raw >>= fun _ => pure (u16ListToBytes raw)) = _
    rw [hvalid]
    rfl
  · unfold getCanonicalAngles
    rw [u16ListFromBytes_toBytes hrawLength fun value hvalue => by
      have := hrange value hvalue
      omega]
    show orderRawToCanonical raw config.backendOrder = _
    have hexact : ∀ name, float32 (named canonicalHandOrder values name) =
        named canonicalHandOrder values name := named_exact fun value hvalue => by
      have := h value hvalue
      omega
    rw [← hraw, orderRawToCanonical, reorderValues_map hperm (.refl _) hexact]
    exact congrArg _ (map_named (by decide) hlength)

/-- What `poll_feedback` makes of the registers. -/
theorem pollFeedback_eq (registers : HandRegisters) :
    ∃ current load, config.pollFeedback registers = .ok
      ⟨canonicalHandOrder.map (named config.backendOrder
          ((List.range 6).map (word registers.angle))), current, load,
        canonicalHandOrder.map (named config.diagnosticsOrder
          ((registers.status.map BitVec.toNat).map fun byte : ℕ => (byte : ℤ))),
        canonicalHandOrder.map (named config.diagnosticsOrder
          ((registers.error.map BitVec.toNat).map fun byte : ℕ => (byte : ℤ)))⟩ := by
  obtain ⟨hangle, hcurrent, hforce, hstatus, herror⟩ := registers.lengths
  have hwords : ∀ register : List (BitVec 8), ∀ value ∈ (List.range 6).map (word register),
      value.natAbs < 2 ^ 24 := by
    intro register value hvalue
    obtain ⟨i, -, rfl⟩ := List.mem_map.mp hvalue
    have := word_bounds register i
    omega
  have hget : ∀ register : List (BitVec 8), register.length = 12 →
      config.getCanonicalAngles (register.map BitVec.toNat) = .ok (canonicalHandOrder.map
        (named config.backendOrder ((List.range 6).map (word register)))) := by
    intro register hlength
    unfold getCanonicalAngles
    rw [u16ListFromBytes_register hlength]
    exact reorderValues_named config.backendOrder_perm (.refl _) rfl (hwords register)
  have hload : ∃ load,
      config.getCanonicalForces (registers.force.map BitVec.toNat) = .ok load := by
    unfold getCanonicalForces s16ListFromBytes
    rw [u16ListFromBytes_register hforce]
    refine ⟨_, reorderValues_named config.backendOrder_perm (.refl _) rfl ?_⟩
    intro value hvalue
    obtain ⟨unsigned, hunsigned, rfl⟩ := List.mem_map.mp hvalue
    obtain ⟨i, -, rfl⟩ := List.mem_map.mp hunsigned
    have := word_bounds registers.force i
    split_ifs <;> omega
  have hdiagnostics : ∀ register : List (BitVec 8), register.length = 6 →
      config.diagnostics (register.map BitVec.toNat) = .ok (canonicalHandOrder.map
        (named config.diagnosticsOrder
          ((register.map BitVec.toNat).map fun byte : ℕ => (byte : ℤ)))) := by
    intro register hlength
    refine reorderValues_named config.diagnosticsOrder_perm (.refl _) ?_ ?_
    · rw [List.length_map, List.length_map, hlength]
    · intro value hvalue
      obtain ⟨byte, hbyte, rfl⟩ := List.mem_map.mp hvalue
      obtain ⟨bits, -, rfl⟩ := List.mem_map.mp hbyte
      have := bits.isLt
      omega
  obtain ⟨load, hload⟩ := hload
  refine ⟨canonicalHandOrder.map (named config.backendOrder
    ((List.range 6).map (word registers.current))), load, ?_⟩
  unfold pollFeedback
  rw [hget _ hangle, hget _ hcurrent, hload, hdiagnostics _ hstatus, hdiagnostics _ herror]
  rfl

end HandSchemaConfig

/-- **Channel alignment**: a command that is written is read back, and every canonical index has
    one channel, of which its position, its status and its error are. -/
structure Aligned (config : HandSchemaConfig) : Prop where
  roundTrip : ∀ values : List ℤ, values.length = 6 →
    (∀ value ∈ values, 0 ≤ value ∧ value ≤ 1000) → ∃ bytes,
      config.setCanonicalAngles values = .ok bytes ∧ config.getCanonicalAngles bytes = .ok values
  channels : ∃ channel : ℕ → ℕ, ∀ registers, ∃ feedback,
    config.pollFeedback registers = .ok feedback ∧ ∀ i < 6,
      feedback.position[i]? = some (word registers.angle (channel i)) ∧
        feedback.status[i]? =
          registers.status[channel i]?.map (fun byte => (byte.toNat : ℤ)) ∧
        feedback.error[i]? = registers.error[channel i]?.map fun byte => (byte.toNat : ℤ)

/-- The name of a canonical index. -/
def dof (i : ℕ) : HandDof := canonicalHandOrder.getD i .index

section Aligned

variable {config : HandSchemaConfig} {order : List HandDof}

theorem idxOf_lt (horder : order.Perm canonicalHandOrder) (name : HandDof) :
    order.idxOf name < 6 := by
  have hmem : name ∈ order := horder.mem_iff.mpr (by cases name <;> decide)
  have hlength : order.length = 6 := horder.length_eq
  rw [← hlength]
  exact List.idxOf_lt_length_iff.mpr hmem

/-- A canonical index reads the place of its name. -/
theorem getElem?_named (horder : order.Perm canonicalHandOrder) {values : List ℤ}
    (hlength : values.length = 6) {i : ℕ} (hi : i < 6) :
    (canonicalHandOrder.map (named order values))[i]? = values[order.idxOf (dof i)]? := by
  have hindex : order.idxOf (dof i) < values.length := by
    rw [hlength]
    exact idxOf_lt horder _
  have hi' : i < canonicalHandOrder.length := hi
  have hname : canonicalHandOrder[i] = dof i := by
    unfold dof
    rw [List.getD_eq_getElem?_getD, List.getElem?_eq_getElem hi', Option.getD_some]
  rw [List.getElem?_map, List.getElem?_eq_getElem hi', Option.map_some, hname,
    List.getElem?_eq_getElem hindex]
  unfold named
  rw [List.getD_eq_getElem?_getD, List.getElem?_eq_getElem hindex, Option.getD_some]

/-- The channels of a canonical index: that of its position, and that of its diagnostics. -/
theorem pollFeedback_channels (config : HandSchemaConfig) (registers : HandRegisters) :
    ∃ feedback, config.pollFeedback registers = .ok feedback ∧ ∀ i < 6,
      feedback.position[i]? =
          some (word registers.angle (config.backendOrder.idxOf (dof i))) ∧
        feedback.status[i]? = registers.status[config.diagnosticsOrder.idxOf (dof i)]?.map
          (fun byte => (byte.toNat : ℤ)) ∧
        feedback.error[i]? = registers.error[config.diagnosticsOrder.idxOf (dof i)]?.map
          fun byte => (byte.toNat : ℤ) := by
  obtain ⟨-, -, -, hstatus, herror⟩ := registers.lengths
  obtain ⟨current, load, hpoll⟩ := config.pollFeedback_eq registers
  have hdiagnostics : ∀ register : List (BitVec 8), register.length = 6 → ∀ i < 6,
      (canonicalHandOrder.map (named config.diagnosticsOrder
        ((register.map BitVec.toNat).map fun byte : ℕ => (byte : ℤ))))[i]? =
        register[config.diagnosticsOrder.idxOf (dof i)]?.map fun byte => (byte.toNat : ℤ) := by
    intro register hlength i hi
    rw [getElem?_named config.diagnosticsOrder_perm
      (by rw [List.length_map, List.length_map, hlength]) hi, List.getElem?_map,
      List.getElem?_map, Option.map_map]
    rfl
  refine ⟨_, hpoll, fun i hi => ⟨?_, hdiagnostics _ hstatus i hi, hdiagnostics _ herror i hi⟩⟩
  have hindex := idxOf_lt config.backendOrder_perm (dof i)
  show (canonicalHandOrder.map (named config.backendOrder
    ((List.range 6).map (word registers.angle))))[i]? = _
  rw [getElem?_named config.backendOrder_perm rfl hi, List.getElem?_map,
    List.getElem?_range hindex]
  rfl

/-- Registers in which every place shows its own number. -/
def numberedRegisters : HandRegisters where
  angle := [0, 0, 1, 0, 2, 0, 3, 0, 4, 0, 5, 0]
  current := List.replicate 12 0
  force := List.replicate 12 0
  status := [0, 1, 2, 3, 4, 5]
  error := [0, 1, 2, 3, 4, 5]
  lengths := by decide

/-- Without a configured order the first canonical index reads the position of channel 3 and
    the status of channel 0. -/
theorem not_aligned_of_none (hnone : config.protocolOrder = none) : ¬Aligned config := by
  rintro ⟨-, channel, hchannel⟩
  obtain ⟨feedback, hpoll, hsame⟩ := hchannel numberedRegisters
  obtain ⟨other, hpoll', hread⟩ := pollFeedback_channels config numberedRegisters
  obtain rfl : feedback = other := Except.ok.inj (hpoll.symm.trans hpoll')
  obtain ⟨hposition, hstatus, -⟩ := hsame 0 (by decide)
  obtain ⟨hposition', hstatus', -⟩ := hread 0 (by decide)
  have hword : word numberedRegisters.angle (channel 0) = 3 := by
    have hbackend : config.backendOrder = rh56ProtocolOrder := by
      rw [HandSchemaConfig.backendOrder, hnone, Option.getD_none]
    rw [hbackend] at hposition'
    exact Option.some.inj (hposition.symm.trans hposition')
  have hbyte : numberedRegisters.status[channel 0]?.map (fun byte => (byte.toNat : ℤ)) =
      some 0 := by
    have hdiagnostics : config.diagnosticsOrder = canonicalHandOrder := by
      rw [HandSchemaConfig.diagnosticsOrder, hnone, Option.getD_none]
    rw [hdiagnostics] at hstatus'
    exact hstatus.symm.trans hstatus'
  have hlt : channel 0 < 6 := by
    by_contra hge
    rw [List.getElem?_eq_none (not_lt.mp hge)] at hbyte
    exact absurd hbyte nofun
  generalize channel 0 = k at hword hbyte hlt
  interval_cases k <;> revert hword hbyte <;> decide

/-- **Alignment** holds of a configuration exactly if it has a protocol order. -/
theorem aligned_iff (config : HandSchemaConfig) :
    Aligned config ↔ config.protocolOrder.isSome = true := by
  constructor
  · intro haligned
    by_contra hnone
    exact not_aligned_of_none (by simpa using hnone) haligned
  · intro hsome
    obtain ⟨order, horder⟩ := Option.isSome_iff_exists.mp hsome
    refine ⟨fun values => config.get_set_canonicalAngles, fun i => order.idxOf (dof i),
      fun registers => ?_⟩
    have hbackend : config.backendOrder = order := by
      rw [HandSchemaConfig.backendOrder, horder, Option.getD_some]
    have hdiagnostics : config.diagnosticsOrder = order := by
      rw [HandSchemaConfig.diagnosticsOrder, horder, Option.getD_some]
    have hchannels := pollFeedback_channels config registers
    rwa [hbackend, hdiagnostics] at hchannels

/-- The configuration without an order is not aligned. -/
theorem default_misaligned : ¬Aligned ⟨none, nofun⟩ := not_aligned_of_none rfl

end Aligned

end HandLab.Rh56
