import HandLab.Lib.Decimal
import HandLab.Lib.Fields
import HandLab.Quest.ControllerProtocol
import Mathlib.Data.Bool.AllAny

/-!
# What the `CTRL` parser accepts

`parse_controller_datagram` with `_parse_unit_float`
(`src/motion_input/controller_protocol.py`, lines 72–184) against the protocol: one line of nine
named fields, and the values that the texts of the fields denote.

* `parse_of_carries` and `parse_of_not_carries`: the parser reads the nine values exactly if the
  datagram is one `CTRL` line with the nine fields.
* `parser_exact_iff`: the parser returns the denoted packet, and raises its own error for
  anything else, exactly if `int` is not asked for more than 4300 digits.
-/

namespace HandLab.Quest

open HandLab.Lib Double

variable {δ : Type*} [Double δ]

/-! ## The triggers -/

/-- What `_parse_unit_float` raises. -/
inductive UnitFloatError
  /-- `ControllerPacketError("CTRL … is not an ASCII finite float")` -/
  | notFloat
  /-- `ControllerPacketError("CTRL … must be finite")` -/
  | notFinite
  /-- `ControllerPacketError("CTRL … is outside [0, 1]")` -/
  | outside
  deriving DecidableEq, Repr

/-- `_parse_unit_float`. -/
def readUnitFloat (raw : List Char) : Except UnitFloatError δ :=
  match Numeral.read? raw with
  | none => .error .notFloat
  | some numeral =>
    let value := ofRat numeral.value
    if !isFinite value then .error .notFinite
    else if !(le zero value && le value (ofRat 1)) then .error .outside
    else .ok value

/-- The parameter of the parser. -/
def unitFloat (raw : List Char) : Option δ := (readUnitFloat raw).toOption

/-! ## The protocol -/

/-- An unsigned integer of 64 bits. -/
def Unsigned (raw : List Char) (n : ℕ) : Prop :=
  raw ≠ [] ∧ (∃ digits : Digits, digits.chars = raw ∧ digits.value = n) ∧ n ≤ uint64Max

/-- `0` or `1`. -/
def Flag (raw : List Char) (b : Bool) : Prop := raw = [if b then '1' else '0']

/-- A decimal float of `[0, 1]`. -/
def UnitFloat (raw : List Char) (value : δ) : Prop :=
  (∃ numeral : Numeral, numeral.text = raw ∧ value = ofRat numeral.value) ∧
    isFinite value = true ∧ le zero value = true ∧ le value (ofRat 1) = true

/-- The texts of the fields denote the members of the packet. -/
def FieldsDenote : List (List Char) → ControllerPacket δ → Prop
  | [v, session, seq, timeNs, connected, active, tracked, index, grip], packet =>
    (Unsigned v packet.version ∧ packet.version = 1) ∧
      Unsigned session packet.sessionId ∧
      Unsigned seq packet.sequenceNumber ∧
      Unsigned timeNs packet.sourceTimestampNs ∧
      Flag connected packet.connected ∧
      Flag active packet.active ∧
      Flag tracked packet.tracked ∧
      UnitFloat index packet.indexTrigger ∧
      UnitFloat grip packet.gripTrigger
  | _, _ => False

/-- `name=value`. -/
def fieldText (name value : List Char) : List Char := name ++ '=' :: value

/-- The line of nine values. -/
def ctrlLine (values : List (List Char)) : List Char :=
  [','].intercalate ("CTRL".toList :: List.zipWith fieldText ctrlFieldNames values)

/-- A value for each of the nine fields, not empty and without a comma. -/
structure NineValues (values : List (List Char)) : Prop where
  count : values.length = ctrlFieldNames.length
  given : ∀ value ∈ values, value ≠ [] ∧ ',' ∉ value

/-- The datagram is one line with the values of the nine fields. -/
structure Carries (payload : List UInt8) (values : List (List Char)) : Prop
    extends NineValues values where
  nonempty : payload ≠ []
  bounded : payload.length ≤ htsMaxDatagramBytes
  one_line : ∃ text, decodeUtf8 payload = some text ∧
    (strLines text).filter (fun line => !line.isEmpty) = [ctrlLine values]

/-- The datagram is well formed and denotes the packet. -/
def Denotes (payload : List UInt8) (packet : ControllerPacket δ) : Prop :=
  ∃ values, Carries payload values ∧ FieldsDenote values packet

/-- `int` refuses the digits for their number. -/
def Overlong (raw : List Char) : Prop := raw.all Char.isDigit = true ∧ 4300 < raw.length

/-- `int` takes the digits, and the number has 64 bits. -/
def Short (raw : List Char) (n : ℕ) : Prop := Unsigned raw n ∧ raw.length ≤ 4300

/-- The first unsigned field that is not `Short` (a version has to be 1) is `Overlong`. -/
def Exceeds : List (List Char) → Prop
  | v :: session :: seq :: timeNs :: _ =>
    Overlong v ∨ Short v 1 ∧ (Overlong session ∨ (∃ n, Short session n) ∧
      (Overlong seq ∨ (∃ n, Short seq n) ∧ Overlong timeNs))
  | _ => False

variable {raw : List Char}

theorem Short.not_overlong {n : ℕ} (h : Short raw n) : ¬Overlong raw :=
  fun hover => absurd hover.2 (Nat.not_lt.mpr h.2)

theorem Unsigned.short {n : ℕ} (h : Unsigned raw n) (hover : ¬Overlong raw) :
    Short raw n := by
  refine ⟨h, ?_⟩
  by_contra hlong
  obtain ⟨digits, rfl, -⟩ := h.2.1
  exact hover ⟨List.all_eq_true.mpr digits.isDigit, Nat.not_le.mp hlong⟩

/-! ## One value -/

theorem unsigned_digits :
    (raw.isEmpty || !raw.all Char.isDigit) = false ↔ raw ≠ [] ∧ raw.all Char.isDigit = true := by
  cases raw <;> simp

theorem parseUint_eq_ok_iff (field : String) {n : ℕ} :
    parseUint raw field = .ok n ↔ Short raw n := by
  unfold parseUint Short Unsigned
  by_cases hbad : (raw.isEmpty || !raw.all Char.isDigit) = true
  · rw [if_pos hbad]
    refine iff_of_false nofun fun h => ?_
    obtain ⟨digits, rfl, -⟩ := h.1.2.1
    have hgood := unsigned_digits.mpr ⟨h.1.1, List.all_eq_true.mpr digits.isDigit⟩
    exact absurd (hbad.symm.trans hgood) nofun
  rw [if_neg hbad]
  obtain ⟨hne, hdigits⟩ := unsigned_digits.mp (Bool.eq_false_iff.mpr hbad)
  by_cases hlong : 4300 < raw.length
  · rw [if_pos hlong]
    exact iff_of_false nofun fun h => absurd hlong (Nat.not_lt.mpr h.2)
  rw [if_neg hlong]
  have hvalue := Digits.foldl_eq_value ⟨raw, List.all_eq_true.mp hdigits⟩
  dsimp only at hvalue ⊢
  rw [hvalue]
  by_cases hrange : uint64Max < Digits.value ⟨raw, List.all_eq_true.mp hdigits⟩
  · rw [if_pos hrange]
    refine iff_of_false nofun fun h => ?_
    obtain ⟨digits, rfl, rfl⟩ := h.1.2.1
    exact absurd hrange (Nat.not_lt.mpr h.1.2.2)
  · rw [if_neg hrange]
    constructor
    · intro h
      obtain rfl := Except.ok.inj h
      exact ⟨⟨hne, ⟨_, rfl, rfl⟩, Nat.not_lt.mp hrange⟩, Nat.not_lt.mp hlong⟩
    · rintro ⟨⟨-, ⟨digits, rfl, rfl⟩, -⟩, -⟩
      rfl

theorem parseUint_digitLimit_iff (field : String) :
    parseUint raw field = .error .digitLimit ↔ Overlong raw := by
  unfold parseUint Overlong
  by_cases hbad : (raw.isEmpty || !raw.all Char.isDigit) = true
  · rw [if_pos hbad]
    refine iff_of_false nofun fun h => ?_
    have hne : raw ≠ [] := by
      rintro rfl
      exact absurd h.2 (Nat.not_lt_zero _)
    exact absurd (hbad.symm.trans (unsigned_digits.mpr ⟨hne, h.1⟩)) nofun
  rw [if_neg hbad]
  obtain ⟨hne, hdigits⟩ := unsigned_digits.mp (Bool.eq_false_iff.mpr hbad)
  by_cases hlong : 4300 < raw.length
  · rw [if_pos hlong]
    exact iff_of_true rfl ⟨hdigits, hlong⟩
  · rw [if_neg hlong]
    refine iff_of_false (fun h => ?_) fun h => hlong h.2
    dsimp only at h
    by_cases hrange : uint64Max < raw.foldl (fun n c => n * 10 + (c.toNat - 48)) 0
    · rw [if_pos hrange] at h
      exact absurd h nofun
    · rw [if_neg hrange] at h
      exact absurd h nofun

/-- The only other error of the parser is that of `int`. -/
theorem isPacketError_iff (error : ControllerError) :
    error.isPacketError = true ↔ error ≠ .digitLimit := by
  cases error <;> simp [ControllerError.isPacketError]

theorem parseBool_eq_ok_iff (field : String) {b : Bool} :
    parseBool raw field = .ok b ↔ Flag raw b := by
  unfold parseBool Flag
  by_cases hzero : raw = ['0']
  · rw [if_pos hzero, hzero]
    cases b <;> simp
  rw [if_neg hzero]
  by_cases hone : raw = ['1']
  · rw [if_pos hone, hone]
    cases b <;> simp
  · rw [if_neg hone]
    cases b <;> simp [hzero, hone]

theorem parseBool_ne_digitLimit (raw : List Char) (field : String) :
    parseBool raw field ≠ .error .digitLimit := by
  unfold parseBool
  split_ifs <;> nofun

theorem readUnitFloat_eq_ok_iff {value : δ} :
    readUnitFloat raw = .ok value ↔ UnitFloat raw value := by
  unfold readUnitFloat UnitFloat
  cases hread : Numeral.read? raw with
  | none =>
    refine iff_of_false nofun fun h => ?_
    obtain ⟨numeral, rfl, -⟩ := h.1
    exact absurd (hread.symm.trans (Numeral.read_text numeral)) nofun
  | some numeral =>
    have hnumeral : (∃ other : Numeral, other.text = raw ∧ value = ofRat other.value) ↔
        ofRat numeral.value = value := by
      constructor
      · rintro ⟨other, rfl, rfl⟩
        rw [Numeral.read_text] at hread
        rw [Option.some.inj hread]
      · rintro rfl
        exact ⟨numeral, Numeral.text_of_read hread, rfl⟩
    dsimp only
    rw [hnumeral]
    by_cases hfinite : isFinite (ofRat numeral.value : δ) = true
    · rw [hfinite, Bool.not_true, if_neg Bool.false_ne_true]
      by_cases hrange : (le zero (ofRat numeral.value : δ) &&
          le (ofRat numeral.value : δ) (ofRat 1)) = true
      · rw [hrange, Bool.not_true, if_neg Bool.false_ne_true]
        rw [Bool.and_eq_true] at hrange
        constructor
        · intro h
          obtain rfl := Except.ok.inj h
          exact ⟨rfl, hfinite, hrange⟩
        · rintro ⟨rfl, -⟩
          rfl
      · rw [Bool.not_eq_true] at hrange
        rw [hrange, Bool.not_false, if_pos rfl]
        refine iff_of_false nofun ?_
        rintro ⟨rfl, -, hlow, hhigh⟩
        rw [hlow, hhigh] at hrange
        exact absurd hrange nofun
    · rw [Bool.not_eq_true] at hfinite
      rw [hfinite, Bool.not_false, if_pos rfl]
      refine iff_of_false nofun ?_
      rintro ⟨rfl, hvalue, -⟩
      exact absurd (hfinite.symm.trans hvalue) nofun

theorem parseUnitFloat_eq_ok_iff (field : String) {value : δ} :
    parseUnitFloat unitFloat raw field = .ok value ↔ UnitFloat raw value := by
  rw [← readUnitFloat_eq_ok_iff]
  unfold parseUnitFloat unitFloat
  cases readUnitFloat (δ := δ) raw with
  | error error => exact iff_of_false nofun nofun
  | ok read => exact ⟨fun h => congrArg _ (Except.ok.inj h), fun h => congrArg _ (Except.ok.inj h)⟩

theorem parseUnitFloat_ne_digitLimit (raw : List Char) (field : String) :
    parseUnitFloat (unitFloat (δ := δ)) raw field ≠ .error .digitLimit := by
  unfold parseUnitFloat
  cases unitFloat (δ := δ) raw <;> nofun

/-! ## The nine values -/

section Values

variable {v session seq timeNs connected active tracked index grip : List Char}

/-- After the version, the first value that is refused decides the error. -/
theorem readPacket_eq_ok_iff {packet : ControllerPacket δ} :
    readPacket unitFloat [v, session, seq, timeNs, connected, active, tracked, index, grip] =
        .ok packet ↔
      (parseUint v "v" = .ok packet.version ∧ packet.version = 1) ∧
        parseUint session "session" = .ok packet.sessionId ∧
        parseUint seq "seq" = .ok packet.sequenceNumber ∧
        parseUint timeNs "t_ns" = .ok packet.sourceTimestampNs ∧
        parseBool connected "connected" = .ok packet.connected ∧
        parseBool active "active" = .ok packet.active ∧
        parseBool tracked "tracked" = .ok packet.tracked ∧
        parseUnitFloat unitFloat index "index" = .ok packet.indexTrigger ∧
        parseUnitFloat unitFloat grip "grip" = .ok packet.gripTrigger := by
  unfold readPacket
  dsimp only
  cases parseUint v "v" with
  | error error => exact iff_of_false nofun fun h => absurd h.1.1 nofun
  | ok version =>
    dsimp only
    by_cases hversion : version ≠ 1
    · rw [if_pos hversion]
      refine iff_of_false nofun fun h => hversion ?_
      exact (Except.ok.inj h.1.1).trans h.1.2
    rw [if_neg hversion]
    cases parseUint session "session" with
    | error error => exact iff_of_false nofun fun h => absurd h.2.1 nofun
    | ok sessionId =>
    cases parseUint seq "seq" with
    | error error => exact iff_of_false nofun fun h => absurd h.2.2.1 nofun
    | ok sequenceNumber =>
    cases parseUint timeNs "t_ns" with
    | error error => exact iff_of_false nofun fun h => absurd h.2.2.2.1 nofun
    | ok sourceTimestampNs =>
    cases parseBool connected "connected" with
    | error error => exact iff_of_false nofun fun h => absurd h.2.2.2.2.1 nofun
    | ok connected =>
    cases parseBool active "active" with
    | error error => exact iff_of_false nofun fun h => absurd h.2.2.2.2.2.1 nofun
    | ok active =>
    cases parseBool tracked "tracked" with
    | error error => exact iff_of_false nofun fun h => absurd h.2.2.2.2.2.2.1 nofun
    | ok tracked =>
    cases parseUnitFloat (unitFloat (δ := δ)) index "index" with
    | error error => exact iff_of_false nofun fun h => absurd h.2.2.2.2.2.2.2.1 nofun
    | ok indexTrigger =>
    cases parseUnitFloat (unitFloat (δ := δ)) grip "grip" with
    | error error => exact iff_of_false nofun fun h => absurd h.2.2.2.2.2.2.2.2 nofun
    | ok gripTrigger =>
      dsimp only
      constructor
      · intro h
        obtain rfl := Except.ok.inj h
        exact ⟨⟨rfl, not_ne_iff.mp hversion⟩, rfl, rfl, rfl, rfl, rfl, rfl, rfl, rfl⟩
      · rintro ⟨⟨h1, -⟩, h2, h3, h4, h5, h6, h7, h8, h9⟩
        cases packet
        cases h1
        cases h2
        cases h3
        cases h4
        cases h5
        cases h6
        cases h7
        cases h8
        cases h9
        rfl

/-- `int` refuses the first of the unsigned values that is not read. -/
theorem readPacket_digitLimit_iff :
    readPacket (unitFloat (δ := δ))
        [v, session, seq, timeNs, connected, active, tracked, index, grip] =
        .error .digitLimit ↔
      parseUint v "v" = .error .digitLimit ∨ parseUint v "v" = .ok 1 ∧
        (parseUint session "session" = .error .digitLimit ∨
          (∃ n, parseUint session "session" = .ok n) ∧
            (parseUint seq "seq" = .error .digitLimit ∨
              (∃ n, parseUint seq "seq" = .ok n) ∧
                parseUint timeNs "t_ns" = .error .digitLimit)) := by
  unfold readPacket
  dsimp only
  cases parseUint v "v" with
  | error error => simp
  | ok version =>
    dsimp only
    by_cases hversion : version ≠ 1
    · rw [if_pos hversion]
      refine iff_of_false nofun ?_
      rintro (h | ⟨h, -⟩)
      · exact absurd h nofun
      · exact hversion (Except.ok.inj h)
    rw [if_neg hversion]
    obtain rfl := not_ne_iff.mp hversion
    cases parseUint session "session" with
    | error error => simp
    | ok sessionId =>
    cases parseUint seq "seq" with
    | error error => simp
    | ok sequenceNumber =>
    cases parseUint timeNs "t_ns" with
    | error error => simp
    | ok sourceTimestampNs =>
    refine iff_of_false ?_ (by simp)
    -- The flags and the triggers are not given to `int`.
    have hconnected := parseBool_ne_digitLimit connected "connected"
    have hactive := parseBool_ne_digitLimit active "active"
    have htracked := parseBool_ne_digitLimit tracked "tracked"
    have hindex := parseUnitFloat_ne_digitLimit (δ := δ) index "index"
    have hgrip := parseUnitFloat_ne_digitLimit (δ := δ) grip "grip"
    cases hc : parseBool connected "connected" with
    | error error => exact fun h => hconnected (hc.trans (congrArg _ (Except.error.inj h)))
    | ok connected =>
    cases ha : parseBool active "active" with
    | error error => exact fun h => hactive (ha.trans (congrArg _ (Except.error.inj h)))
    | ok active =>
    cases ht : parseBool tracked "tracked" with
    | error error => exact fun h => htracked (ht.trans (congrArg _ (Except.error.inj h)))
    | ok tracked =>
    cases hi : parseUnitFloat (unitFloat (δ := δ)) index "index" with
    | error error => exact fun h => hindex (hi.trans (congrArg _ (Except.error.inj h)))
    | ok indexTrigger =>
    cases hg : parseUnitFloat (unitFloat (δ := δ)) grip "grip" with
    | error error => exact fun h => hgrip (hg.trans (congrArg _ (Except.error.inj h)))
    | ok gripTrigger => nofun

end Values

variable {values : List (List Char)}

theorem readPacket_exceeds
    (hcount : values.length = ctrlFieldNames.length) :
    readPacket (unitFloat (δ := δ)) values = .error .digitLimit ↔ Exceeds values := by
  match values, hcount with
  | [v, session, seq, timeNs, connected, active, tracked, index, grip], _ =>
    rw [readPacket_digitLimit_iff]
    unfold Exceeds
    simp only [parseUint_digitLimit_iff, parseUint_eq_ok_iff]

/-- The values are read exactly if they denote the packet and `int` takes their digits. -/
theorem readPacket_denotes {packet : ControllerPacket δ}
    (hcount : values.length = ctrlFieldNames.length) :
    readPacket unitFloat values = .ok packet ↔ FieldsDenote values packet ∧ ¬Exceeds values := by
  match values, hcount with
  | [v, session, seq, timeNs, connected, active, tracked, index, grip], _ =>
    rw [readPacket_eq_ok_iff]
    unfold FieldsDenote Exceeds
    simp only [parseUint_eq_ok_iff, parseBool_eq_ok_iff, parseUnitFloat_eq_ok_iff]
    constructor
    · rintro ⟨⟨hversion, hone⟩, hsession, hseq, htime, hrest⟩
      refine ⟨⟨⟨hversion.1, hone⟩, hsession.1, hseq.1, htime.1, hrest⟩, ?_⟩
      rintro (h | ⟨-, h | ⟨-, h | ⟨-, h⟩⟩⟩)
      · exact hversion.not_overlong h
      · exact hsession.not_overlong h
      · exact hseq.not_overlong h
      · exact htime.not_overlong h
    · rintro ⟨⟨⟨hversion, hone⟩, hsession, hseq, htime, hrest⟩, hexceeds⟩
      have hversion' := hversion.short fun h => hexceeds (.inl h)
      have hfirst : Short v 1 := hone ▸ hversion'
      have hsession' := hsession.short fun h => hexceeds (.inr ⟨hfirst, .inl h⟩)
      have hseq' := hseq.short fun h =>
        hexceeds (.inr ⟨hfirst, .inr ⟨⟨_, hsession'⟩, .inl h⟩⟩)
      have htime' := htime.short fun h =>
        hexceeds (.inr ⟨hfirst, .inr ⟨⟨_, hsession'⟩, .inr ⟨⟨_, hseq'⟩, h⟩⟩⟩)
      exact ⟨⟨hversion', hone⟩, hsession', hseq', htime', hrest⟩

/-! ## The fields of the line -/

theorem fieldText_name {name : List Char} (hname : '=' ∉ name) (value : List Char) :
    (fieldText name value).takeWhile (· != '=') = name ∧
      (fieldText name value).dropWhile (· != '=') = '=' :: value :=
  takeWhile_dropWhile_iff.mp ⟨rfl, hname⟩

/-- A field with `=` is a name and what follows. -/
theorem fieldText_of_contains {field : List Char} (h : field.contains '=' = true) :
    fieldText (field.takeWhile (· != '=')) (field.dropWhile (· != '=')).tail = field := by
  obtain ⟨name, value, heq, hname⟩ := List.eq_append_cons_of_mem (List.contains_iff_mem.mp h)
  obtain ⟨htake, hdrop⟩ := takeWhile_dropWhile_iff.mp ⟨heq, hname⟩
  rw [htake, hdrop]
  exact heq.symm

section Fields

variable {expected field : List Char} {seen names fields : List (List Char)}

/-- One turn of the loop, with the expected field. -/
theorem readFields_expected {value : List Char} (hexpected : expected ≠ [] ∧ '=' ∉ expected)
    (hfresh : expected ∉ seen) (hvalue : value ≠ []) :
    readFields seen (expected :: names) (fieldText expected value :: fields) =
      match readFields (expected :: seen) names fields with
      | .error error => .error error
      | .ok values => .ok (value :: values) := by
  obtain ⟨htake, hdrop⟩ := fieldText_name hexpected.2 value
  have hcontains : (fieldText expected value).contains '=' = true := by
    simp [fieldText]
  have hwhole : (!(fieldText expected value).contains '=' || expected.isEmpty ||
      value.isEmpty) = false := by
    rw [hcontains, List.isEmpty_eq_false_iff.mpr hexpected.1, List.isEmpty_eq_false_iff.mpr hvalue]
    rfl
  rw [readFields]
  simp only [htake, hdrop, List.tail_cons]
  rewrite [if_neg (Bool.eq_false_iff.mp hwhole), if_neg (by simpa using hfresh),
    if_neg (not_not.mpr rfl)]
  cases readFields (expected :: seen) names fields <;> rfl

/-- One turn of the loop, with anything else. -/
theorem readFields_other (hother : ∀ value, value ≠ [] → field ≠ fieldText expected value) :
    ∃ error, error.isPacketError = true ∧
      readFields seen (expected :: names) (field :: fields) = .error error := by
  unfold readFields
  dsimp only
  by_cases hmalformed : (!field.contains '=' || (field.takeWhile (· != '=')).isEmpty ||
      (field.dropWhile (· != '=')).tail.isEmpty) = true
  · rw [if_pos hmalformed]
    exact ⟨_, rfl, rfl⟩
  rw [if_neg hmalformed]
  by_cases hseen : seen.contains (field.takeWhile (· != '=')) = true
  · rw [if_pos hseen]
    exact ⟨_, rfl, rfl⟩
  rw [if_neg hseen]
  by_cases hname : field.takeWhile (· != '=') ≠ expected
  · rw [if_pos hname]
    by_cases hknown : ctrlFieldNames.contains (field.takeWhile (· != '=')) = true
    · rw [if_pos hknown]
      exact ⟨_, rfl, rfl⟩
    · rw [if_neg hknown]
      exact ⟨_, rfl, rfl⟩
  · simp only [Bool.or_eq_true, Bool.not_eq_true', not_or, Bool.not_eq_false,
      List.isEmpty_iff] at hmalformed
    have hfield := fieldText_of_contains hmalformed.1.1
    rw [not_ne_iff.mp hname] at hfield
    exact absurd hfield.symm (hother _ hmalformed.2)

/-- The names of a line: none empty, none with `=`, none twice. -/
structure NamesOk (seen names : List (List Char)) : Prop where
  named : ∀ name ∈ names, name ≠ [] ∧ '=' ∉ name
  fresh : ∀ name ∈ names, name ∉ seen
  nodup : names.Nodup

theorem NamesOk.tail (h : NamesOk seen (expected :: names)) : NamesOk (expected :: seen) names where
  named name hname := h.named name (List.mem_cons_of_mem _ hname)
  fresh name hname := by
    rintro (_ | ⟨_, hseen⟩)
    · exact (List.nodup_cons.mp h.nodup).1 hname
    · exact h.fresh name (List.mem_cons_of_mem _ hname) hseen
  nodup := h.nodup.of_cons

theorem namesOk_ctrl : NamesOk [] ctrlFieldNames := by
  constructor
  · decide +kernel
  · simp
  · decide +kernel

/-- The loop returns the values of the fields with the expected names. -/
theorem readFields_zipWith {values : List (List Char)} (h : NamesOk seen names)
    (hcount : values.length = names.length) (hvalues : ∀ value ∈ values, value ≠ []) :
    readFields seen names (List.zipWith fieldText names values) = .ok values := by
  induction names generalizing seen values with
  | nil =>
    obtain rfl := List.length_eq_zero_iff.mp hcount
    rfl
  | cons expected names ih =>
    cases values with
    | nil => exact absurd hcount nofun
    | cons value values =>
      rw [List.zipWith_cons_cons, readFields_expected (h.named _ List.mem_cons_self)
        (h.fresh _ List.mem_cons_self) (hvalues _ List.mem_cons_self), ih h.tail
        (Nat.succ.inj hcount) fun value hvalue => hvalues value (List.mem_cons_of_mem _ hvalue)]

/-- What the loop returns are the values of such fields, and its errors are those of the parser. -/
theorem readFields_cases (h : NamesOk seen names) (hcount : fields.length = names.length) :
    (∃ values, values.length = names.length ∧ (∀ value ∈ values, value ≠ []) ∧
        fields = List.zipWith fieldText names values) ∨
      ∃ error, error.isPacketError = true ∧ readFields seen names fields = .error error := by
  induction names generalizing seen fields with
  | nil =>
    obtain rfl := List.length_eq_zero_iff.mp hcount
    exact .inl ⟨[], rfl, nofun, rfl⟩
  | cons expected names ih =>
    cases fields with
    | nil => exact absurd hcount nofun
    | cons field fields =>
      by_cases hfield : ∃ value, value ≠ [] ∧ field = fieldText expected value
      · obtain ⟨value, hvalue, rfl⟩ := hfield
        rcases ih h.tail (Nat.succ.inj hcount) with ⟨values, hlength, hvalues, rfl⟩ | hothers
        · exact .inl ⟨value :: values, congrArg (· + 1) hlength,
            List.forall_mem_cons.mpr ⟨hvalue, hvalues⟩, rfl⟩
        · obtain ⟨error, herror, hread⟩ := hothers
          refine .inr ⟨error, herror, ?_⟩
          rw [readFields_expected (h.named _ List.mem_cons_self) (h.fresh _ List.mem_cons_self)
            hvalue, hread]
      · refine .inr (readFields_other fun value hvalue heq => hfield ⟨value, hvalue, heq⟩)

end Fields

/-! ## The line and the datagram -/

/-- No line of `str.splitlines` has a line break in it. -/
theorem splitLinesFrom_break {text line : List Char} {returned : Bool}
    (hline : ∀ c ∈ line, isLineBreak c = false) :
    ∀ other ∈ splitLinesFrom isLineBreak (· == '\r') (· == '\n') line returned text,
      ∀ c ∈ other, isLineBreak c = false := by
  induction text generalizing line returned with
  | nil =>
    unfold splitLinesFrom
    by_cases hempty : line.isEmpty = true
    · rw [if_pos hempty]
      exact nofun
    · rw [if_neg hempty]
      rintro other hother
      obtain rfl := List.mem_singleton.mp hother
      exact fun c hc => hline c (List.mem_reverse.mp hc)
  | cons c rest ih =>
    unfold splitLinesFrom
    by_cases hfeed : (returned && c == '\n') = true
    · rw [if_pos hfeed]
      exact ih hline
    rw [if_neg hfeed]
    by_cases hbreak : isLineBreak c = true
    · rw [if_pos hbreak]
      refine List.forall_mem_cons.mpr ⟨fun c hc => hline c (List.mem_reverse.mp hc), ih nofun⟩
    · rw [if_neg hbreak]
      exact ih (List.forall_mem_cons.mpr ⟨Bool.eq_false_iff.mpr hbreak, hline⟩)

theorem strLines_embedded {text line : List Char} (h : line ∈ strLines text) :
    (line.any fun c => c == '\n' || c == '\r') = false := by
  have hbreak : ∀ c ∈ line, isLineBreak c = false :=
    splitLinesFrom_break (fun c hc => absurd hc List.not_mem_nil) line h
  rw [List.any_eq_false]
  intro c hc hbad
  rcases Bool.or_eq_true_iff.mp hbad with heq | heq
  · exact absurd (hbreak c hc) (by rw [eq_of_beq heq]; decide)
  · exact absurd (hbreak c hc) (by rw [eq_of_beq heq]; decide)

theorem splitCommas_ctrlLine
    (hgiven : ∀ value ∈ values, ',' ∉ value) :
    splitCommas (ctrlLine values) =
      "CTRL".toList :: List.zipWith fieldText ctrlFieldNames values := by
  unfold splitCommas ctrlLine
  refine List.splitOn_intercalate ',' ?_ (List.cons_ne_nil _ _)
  refine List.forall_mem_cons.mpr ⟨by decide, fun field hfield => ?_⟩
  obtain ⟨name, value, hpair, rfl⟩ : ∃ name value, (name, value) ∈ ctrlFieldNames.zip values ∧
      fieldText name value = field := by
    rw [← List.map_uncurry_zip_eq_zipWith] at hfield
    obtain ⟨⟨name, value⟩, hpair, rfl⟩ := List.mem_map.mp hfield
    exact ⟨name, value, hpair, rfl⟩
  obtain ⟨hname, hvalue⟩ := List.of_mem_zip hpair
  unfold fieldText
  have hnames : ∀ name ∈ ctrlFieldNames, ',' ∉ name := by decide
  simp [hnames name hname, hgiven value hvalue]

theorem parseControllerLine_ctrlLine (h : NineValues values)
    (hbreak : ((ctrlLine values).any fun c => c == '\n' || c == '\r') = false) :
    parseControllerLine (unitFloat (δ := δ)) (ctrlLine values) = readPacket unitFloat values := by
  unfold parseControllerLine
  rw [hbreak, if_neg Bool.false_ne_true,
    splitCommas_ctrlLine fun value hvalue => (h.given value hvalue).2]
  dsimp only
  have hlength : (List.zipWith fieldText ctrlFieldNames values).length =
      ctrlFieldNames.length := by
    rw [List.length_zipWith, h.count, Nat.min_self]
  rw [if_neg (not_not.mpr rfl), if_neg (not_not.mpr hlength),
    readFields_zipWith namesOk_ctrl h.count fun value hvalue => (h.given value hvalue).1]

theorem parseControllerLine_other {line : List Char}
    (hbreak : (line.any fun c => c == '\n' || c == '\r') = false)
    (hother : ∀ values, NineValues values → line ≠ ctrlLine values) :
    ∃ error, error.isPacketError = true ∧
      parseControllerLine (unitFloat (δ := δ)) line = .error error := by
  have hline : [','].intercalate (line.splitOn ',') = line := List.intercalate_splitOn ','
  have hparts := not_mem_splitOn ',' line
  unfold parseControllerLine splitCommas
  rw [hbreak, if_neg Bool.false_ne_true]
  cases hsplit : line.splitOn ',' with
  | nil => exact ⟨_, rfl, rfl⟩
  | cons first fields =>
    rw [hsplit] at hline hparts
    dsimp only
    by_cases hctrl : first ≠ "CTRL".toList
    · rw [if_pos hctrl]
      exact ⟨_, rfl, rfl⟩
    rw [if_neg hctrl]
    by_cases hcount : fields.length ≠ ctrlFieldNames.length
    · rw [if_pos hcount]
      exact ⟨_, rfl, rfl⟩
    rw [if_neg hcount]
    rcases readFields_cases namesOk_ctrl (not_ne_iff.mp hcount) with
      ⟨values, hlength, hvalues, rfl⟩ | ⟨error, herror, hread⟩
    · refine absurd ?_ (hother values ⟨hlength, fun value hvalue => ⟨hvalues value hvalue, ?_⟩⟩)
      · rw [← hline, not_ne_iff.mp hctrl]
        rfl
      · -- A comma of the value is one of its field.
        obtain ⟨name, hpair⟩ : ∃ name, (name, value) ∈ ctrlFieldNames.zip values := by
          obtain ⟨i, hi, rfl⟩ := List.getElem_of_mem hvalue
          exact ⟨ctrlFieldNames[i], List.mem_iff_getElem.mpr ⟨i, by simp; omega, by simp⟩⟩
        have hfield : fieldText name value ∈ List.zipWith fieldText ctrlFieldNames values := by
          rw [← List.map_uncurry_zip_eq_zipWith]
          exact List.mem_map.mpr ⟨_, hpair, rfl⟩
        intro hcomma
        refine hparts _ (List.mem_cons_of_mem _ hfield) ?_
        unfold fieldText
        exact List.mem_append_right _ (List.mem_cons_of_mem _ hcomma)
    · rw [hread]
      exact ⟨error, herror, rfl⟩

theorem parse_of_carries {payload : List UInt8}
    (h : Carries payload values) :
    parseControllerDatagram (unitFloat (δ := δ)) payload = readPacket unitFloat values := by
  obtain ⟨text, htext, hlines⟩ := h.one_line
  have hmem : ctrlLine values ∈ strLines text :=
    List.mem_of_mem_filter (hlines ▸ List.mem_singleton_self _)
  unfold parseControllerDatagram
  rw [if_neg (by simpa using h.nonempty), if_neg (Nat.not_lt.mpr h.bounded), htext]
  dsimp only
  rw [hlines]
  exact parseControllerLine_ctrlLine h.toNineValues (strLines_embedded hmem)

/-- Any other datagram is refused with the error of the parser. -/
theorem parse_of_not_carries {payload : List UInt8} (h : ∀ values, ¬Carries payload values) :
    ∃ error, error.isPacketError = true ∧
      parseControllerDatagram (unitFloat (δ := δ)) payload = .error error := by
  unfold parseControllerDatagram
  by_cases hempty : payload.isEmpty = true
  · rw [if_pos hempty]
    exact ⟨_, rfl, rfl⟩
  rw [if_neg hempty]
  by_cases hlong : htsMaxDatagramBytes < payload.length
  · rw [if_pos hlong]
    exact ⟨_, rfl, rfl⟩
  rw [if_neg hlong]
  cases htext : decodeUtf8 payload with
  | none => exact ⟨_, rfl, rfl⟩
  | some text =>
    dsimp only
    cases hlines : (strLines text).filter fun line => !line.isEmpty with
    | nil => exact ⟨_, rfl, rfl⟩
    | cons line others =>
      cases others with
      | cons other others => exact ⟨_, rfl, rfl⟩
      | nil =>
        have hmem : line ∈ strLines text :=
          List.mem_of_mem_filter (hlines ▸ List.mem_singleton_self _)
        refine parseControllerLine_other (strLines_embedded hmem) fun values hvalues hline => ?_
        refine h values ⟨hvalues, ?_, Nat.not_lt.mp hlong, text, htext, ?_⟩
        · simpa using hempty
        · rw [hlines, hline]

/-- **Totality and exactness.** The parser returns a packet exactly for the datagrams that denote
    it and raises its own error for any other, if and only if `int` is never given more than 4300
    digits. -/
theorem parser_exact_iff (payload : List UInt8) :
    ((∀ error, parseControllerDatagram (unitFloat (δ := δ)) payload = .error error →
        error.isPacketError = true) ∧
      ∀ packet : ControllerPacket δ,
        parseControllerDatagram unitFloat payload = .ok packet ↔ Denotes payload packet) ↔
      ∀ values, Carries payload values → ¬Exceeds values := by
  constructor
  · rintro ⟨htotal, -⟩ values hcarries hexceeds
    have hparse := (parse_of_carries (δ := δ) hcarries).trans
      ((readPacket_exceeds hcarries.count).mpr hexceeds)
    exact absurd (htotal _ hparse) nofun
  · intro hwithin
    by_cases hcarries : ∃ values, Carries payload values
    · obtain ⟨values, hvalues⟩ := hcarries
      refine ⟨fun error herror => ?_, fun packet => ⟨fun hparse => ?_, ?_⟩⟩
      · rw [isPacketError_iff]
        rintro rfl
        rw [parse_of_carries hvalues, readPacket_exceeds hvalues.count] at herror
        exact hwithin values hvalues herror
      · rw [parse_of_carries hvalues, readPacket_denotes hvalues.count] at hparse
        exact ⟨values, hvalues, hparse.1⟩
      · rintro ⟨others, hothers, hdenote⟩
        rw [parse_of_carries hothers, readPacket_denotes hothers.count]
        exact ⟨hdenote, hwithin others hothers⟩
    · have hnone := not_exists.mp hcarries
      obtain ⟨error, herror, hparse⟩ := parse_of_not_carries (δ := δ) hnone
      rw [hparse]
      refine ⟨fun other hother => ?_, fun packet => iff_of_false nofun ?_⟩
      · rw [← Except.error.inj hother]
        exact herror
      · rintro ⟨values, hvalues, -⟩
        exact hnone values hvalues

/-! ## A version with leading zeros -/

/-- The digit `1`. -/
def oneDigit : Digits := ⟨['1'], List.all_eq_true.mp rfl⟩

/-- The values of a packet, with a version of 4301 digits. -/
def paddedValues : List (List Char) :=
  [(oneDigit.padded 4300).chars, ['1'], ['1'], ['1'], ['1'], ['1'], ['1'], ['0'], ['0']]

/-- Their datagram. -/
def paddedController : List UInt8 := (ctrlLine paddedValues).map fun c => c.toNat.toUInt8

theorem decodeUtf8_ascii {text : List Char} (h : ∀ c ∈ text, c.toNat < 0x80) :
    decodeUtf8 (text.map fun c => c.toNat.toUInt8) = some text := by
  unfold decodeUtf8
  induction text with
  | nil => rfl
  | cons c rest ih =>
    obtain ⟨hc, hrest⟩ := List.forall_mem_cons.mp h
    have hbyte : c.toNat.toUInt8.toNat = c.toNat := by
      rw [Nat.toUInt8, UInt8.toNat_ofNat']
      omega
    rw [List.map_cons]
    unfold decodeFrom
    rw [hbyte, if_pos (by omega), ih hrest, Char.ofNat_toNat]
    rfl

theorem strLines_of_no_break {text : List Char} (hne : text ≠ [])
    (h : ∀ c ∈ text, isLineBreak c = false) : strLines text = [text] := by
  have hfrom : ∀ line : List Char, line.reverse ++ text ≠ [] →
      splitLinesFrom isLineBreak (· == '\r') (· == '\n') line false text =
        [line.reverse ++ text] := by
    clear hne
    induction text with
    | nil =>
      intro line hline
      unfold splitLinesFrom
      rw [if_neg (by simpa using hline), List.append_nil]
    | cons c rest ih =>
      intro line _
      obtain ⟨hc, hrest⟩ := List.forall_mem_cons.mp h
      unfold splitLinesFrom
      rw [Bool.false_and, if_neg Bool.false_ne_true, hc, if_neg Bool.false_ne_true,
        ih hrest (c :: line) (by simp)]
      simp
  exact hfrom [] hne

theorem ctrlLine_version (version : List Char) :
    ctrlLine [version, ['1'], ['1'], ['1'], ['1'], ['1'], ['1'], ['0'], ['0']] =
      "CTRL,v=".toList ++ (version ++
        ",session=1,seq=1,t_ns=1,connected=1,active=1,tracked=1,index=0,grip=0".toList) := by
  rw [String.toList_ofList, String.toList_ofList]
  rfl

theorem paddedLine_eq : ctrlLine paddedValues =
    "CTRL,v=".toList ++ ((oneDigit.padded 4300).chars ++
      ",session=1,seq=1,t_ns=1,connected=1,active=1,tracked=1,index=0,grip=0".toList) :=
  ctrlLine_version _

theorem length_padded (zeros : ℕ) : (oneDigit.padded zeros).chars.length = zeros + 1 := by
  unfold Digits.padded
  rw [List.length_append, List.length_replicate]
  rfl

theorem mem_padded {zeros : ℕ} {c : Char} (h : c ∈ (oneDigit.padded zeros).chars) :
    c = '0' ∨ c = '1' := by
  rcases List.mem_append.mp h with h | h
  · exact .inl (List.eq_of_mem_replicate h)
  · exact .inr (List.mem_singleton.mp h)

theorem paddedLine_ascii : ∀ c ∈ ctrlLine paddedValues, c.toNat < 0x80 ∧ isLineBreak c = false := by
  rw [paddedLine_eq, String.toList_ofList, String.toList_ofList]
  refine List.forall_mem_append.mpr ⟨List.all_iff_forall_prop.mp (by decide +kernel),
    List.forall_mem_append.mpr ⟨fun c hc => ?_, List.all_iff_forall_prop.mp (by decide +kernel)⟩⟩
  rcases mem_padded hc with rfl | rfl
  · decide
  · decide

theorem paddedLine_ne_nil : ctrlLine paddedValues ≠ [] := by
  rw [paddedLine_eq]
  exact List.append_ne_nil_of_right_ne_nil _
    (List.append_ne_nil_of_left_ne_nil (List.append_ne_nil_of_right_ne_nil _ (by decide)) _)

theorem paddedLine_bounded : (ctrlLine paddedValues).length ≤ htsMaxDatagramBytes := by
  have hbounded : ∀ front back : List Char, front.length ≤ 100 → back.length ≤ 100 →
      (front ++ ((oneDigit.padded 4300).chars ++ back)).length ≤ htsMaxDatagramBytes := by
    intro front back hfront hback
    rw [List.length_append, List.length_append, length_padded]
    unfold htsMaxDatagramBytes
    omega
  rw [paddedLine_eq, String.toList_ofList, String.toList_ofList]
  exact hbounded _ _ (by decide) (by decide +kernel)

theorem paddedController_carries : Carries paddedController paddedValues where
  count := rfl
  given := by
    refine List.forall_mem_cons.mpr ⟨⟨fun hnil => ?_, fun hcomma => ?_⟩, ?_⟩
    · have hlength := length_padded 4300
      rw [hnil] at hlength
      cases hlength
    · rcases mem_padded hcomma with h | h
      · cases h
      · cases h
    · decide
  nonempty hnil := paddedLine_ne_nil (List.map_eq_nil_iff.mp hnil)
  bounded := by
    unfold paddedController
    rw [List.length_map]
    exact paddedLine_bounded
  one_line := by
    refine ⟨ctrlLine paddedValues, decodeUtf8_ascii fun c hc => (paddedLine_ascii c hc).1, ?_⟩
    rw [strLines_of_no_break paddedLine_ne_nil fun c hc => (paddedLine_ascii c hc).2,
      List.filter_cons_of_pos (by simpa using paddedLine_ne_nil), List.filter_nil]

/-- The datagram denotes a packet of version 1, and the parser raises the error of `int`. -/
theorem padded_version_raises :
    Denotes paddedController (⟨1, 1, 1, 1, true, true, true, 0, 0⟩ : ControllerPacket ℚ) ∧
      parseControllerDatagram (unitFloat (δ := ℚ)) paddedController = .error .digitLimit ∧
      ControllerError.digitLimit.isPacketError = false := by
  have hone : Unsigned ['1'] 1 := ⟨by decide, ⟨oneDigit, rfl, rfl⟩, by decide⟩
  have hzero : UnitFloat ['0'] (0 : ℚ) :=
    ⟨⟨⟨⟨['0'], List.all_eq_true.mp rfl⟩, none, none, .inl nofun⟩, rfl, by decide +kernel⟩,
      by decide +kernel⟩
  have hpadded : Unsigned (oneDigit.padded 4300).chars 1 :=
    ⟨List.append_ne_nil_of_right_ne_nil _ (by decide), ⟨_, rfl, oneDigit.padded_value 4300⟩,
      by decide⟩
  refine ⟨⟨_, paddedController_carries, ?_⟩, ?_, rfl⟩
  · exact ⟨⟨hpadded, rfl⟩, hone, hone, hone, rfl, rfl, rfl, hzero, hzero⟩
  · rw [parse_of_carries paddedController_carries,
      readPacket_exceeds paddedController_carries.count]
    exact .inl ⟨List.all_eq_true.mpr (oneDigit.padded 4300).isDigit,
      (length_padded 4300).ge⟩

end HandLab.Quest
