import HandLab.Quest.ControllerExact
import HandLab.Quest.HtsAssembler

/-!
# What the HTS parser accepts

`parse_hts_datagram` and `parse_hts_line` (`src/motion_input/hts_protocol.py`, lines 108–260)
against the format: lines of a label with debug fields, a colon, and numbers between commas.

* `debugField?_iff`: the field that the regular expression finds.
* `fields_spec`, `parseFiniteFloats_eq`, `parseHtsLine_spec`: what the header, the numbers and
  the line denote, and when they are refused.
* `hts_parser_exact_iff`: the parser succeeds exactly on the well-formed datagrams and raises its
  own error for any other, if and only if `int` is not asked for more than 4300 digits.
-/

namespace HandLab.Quest

open HandLab.Lib Double

/-! ## The format -/

def HtsKind.label : HtsKind → String
  | .wrist .left => "Left wrist"
  | .wrist .right => "Right wrist"
  | .landmarks .left => "Left landmarks"
  | .landmarks .right => "Right landmarks"
  | .headPose => "Head pose"

/-- `key = digits`, with white space around the sign. -/
def DebugField (item key digits : List Char) : Prop :=
  ∃ before after, item = key ++ before ++ '=' :: (after ++ digits) ∧
    (key ≠ [] ∧ ∀ c ∈ key, isKeyChar c = true) ∧
    (∀ c ∈ before ++ after, ControllerProvider.isSpace c = true) ∧
    digits ≠ [] ∧ ∀ c ∈ digits, c.isDigit = true

/-- A debug field denotes a key in lower case and a number. -/
def FieldDenotes (field : List Char) (entry : List Char × ℕ) : Prop :=
  ∃ key, ∃ digits : Digits, DebugField (strStrip field) key digits.chars ∧
    entry = (key.map Char.toLower, digits.value)

def sequenceKeys : List (List Char) := ["f".toList, "frame".toList, "frame_id".toList]

def timestampKeys : List (List Char) := ["t".toList, "ts".toList, "timestamp".toList]

-- the membership of a key, as one constant
local instance lawfulBEq_key : LawfulBEq (List Char) := inferInstance

/-- The numbers of the entries with one of these keys. -/
def numbersOf (keys : List (List Char)) (entries : List (List Char × ℕ)) : List ℕ :=
  (entries.filter fun entry => decide (entry.1 ∈ keys)).map Prod.snd

/-- The entries with other keys. -/
def extrasOf (entries : List (List Char × ℕ)) : List (List Char × ℕ) :=
  entries.filter fun entry => decide (entry.1 ∉ sequenceKeys ++ timestampKeys)

/-- The header of the entries: a sequence and a timestamp, each at most once, and the last number
    of every other key. -/
structure EntriesDenote (entries : List (List Char × ℕ)) (header : HtsHeader) : Prop where
  sequence : header.sourceSequence.toList = numbersOf sequenceKeys entries
  timestamp : header.sourceTimestampNs.toList = numbersOf timestampKeys entries
  extra : ∀ key, header.extraFields.lookup key = (extrasOf entries).reverse.lookup key

/-- The header of the debug fields. -/
def DebugDenote (fields : List (List Char)) (header : HtsHeader) : Prop :=
  ∃ entries, List.Forall₂ FieldDenotes fields entries ∧ EntriesDenote entries header

/-- A text is a label and fields, with bars between them. -/
def HeaderText (text label : List Char) (fields : List (List Char)) : Prop :=
  text = ['|'].intercalate (label :: fields) ∧ ∀ part ∈ label :: fields, '|' ∉ part

/-- The text before the colon denotes a header. -/
def HeaderDenotes (text : List Char) (header : HtsHeader) : Prop :=
  ∃ label fields, HeaderText text label fields ∧ strStrip label = header.kind.label.toList ∧
    DebugDenote fields header

section Numbers

variable {δ : Type*} [HtsFloat δ]

/-- A cell with a finite number. -/
def CellDenotes (cell : List Char) (value : δ) : Prop :=
  strStrip cell ≠ [] ∧ HtsFloat.ofText (strStrip cell) = some value ∧ isFinite value = true

/-- The text after the colon denotes numbers; only leading and trailing cells are empty. -/
def ValuesDenote (payload : List Char) (values : List δ) : Prop :=
  ∃ leading cells trailing, payload = [','].intercalate (leading ++ cells ++ trailing) ∧
    (∀ cell ∈ leading ++ cells ++ trailing, ',' ∉ cell) ∧
    (∀ cell ∈ leading ++ trailing, strStrip cell = []) ∧
    cells ≠ [] ∧ List.Forall₂ CellDenotes cells values

def NormWithin (norm : δ) : Prop := lt (ofRat (1 / 50)) (abs (sub norm (ofRat 1))) = false

/-- Seven numbers with a unit quaternion, or 63 numbers, which are the coordinates of 21
    landmarks. -/
def ValuesFit (packet : HtsPacket δ) : Prop :=
  match packet.header.kind with
  | .wrist _ | .headPose => packet.values.length = 7 ∧
      NormWithin (quaternionNorm (packet.values.drop 3)) ∧
      packet.quaternionNorm = some (quaternionNorm (packet.values.drop 3))
  | .landmarks _ => packet.values.length = 63 ∧ packet.quaternionNorm = none ∧
      (Canonical.points packet.values).length = 21 ∧
      ∀ i < 21, ∃ x y z, packet.values[3 * i]? = some x ∧ packet.values[3 * i + 1]? = some y ∧
        packet.values[3 * i + 2]? = some z ∧
          (Canonical.points packet.values)[i]? = some [x, y, z]

def LineDenotes (line : List Char) (packet : HtsPacket δ) : Prop :=
  ∃ header payload, line = header ++ ':' :: payload ∧ ':' ∉ header ∧
    HeaderDenotes header packet.header ∧ ValuesDenote payload packet.values ∧ ValuesFit packet

/-- A datagram of admitted size is UTF-8 text with a line that is not blank. -/
def HasText (payload : List UInt8) (text : List Char) : Prop :=
  payload ≠ [] ∧ payload.length ≤ htsMaxDatagramBytes ∧ decodeUtf8 payload = some text ∧
    ∃ line ∈ strLines text, strStrip line ≠ []

/-- A datagram denotes packets, one for each line that is not blank and does not start with
    `CTRL,`. -/
def DatagramDenotes (payload : List UInt8) (packets : List (HtsPacket δ)) : Prop :=
  ∃ text, HasText payload text ∧ List.Forall₂ LineDenotes (handHeadLines text) packets

end Numbers

/-! ### More than 4300 digits -/

/-- A debug field with more than 4300 digits. -/
def OverlongField (field : List Char) : Prop :=
  ∃ key digits, DebugField (strStrip field) key digits ∧ 4300 < digits.length

/-- A field is overlong, and those before it are in order. -/
def FieldsExceed (fields : List (List Char)) : Prop :=
  ∃ before field after, fields = before ++ field :: after ∧
    (∃ header, DebugDenote before header) ∧ OverlongField field

/-- A header with a known label does. -/
def HeaderExceeds (text : List Char) : Prop :=
  ∃ label fields, HeaderText text label fields ∧
    (∃ kind : HtsKind, strStrip label = kind.label.toList) ∧ FieldsExceed fields

/-- The header of a line does. -/
def LineExceeds (line : List Char) : Prop :=
  ∃ header payload, line = header ++ ':' :: payload ∧ ':' ∉ header ∧ HeaderExceeds header

/-- A line of the datagram does, and those before it are in order. -/
def DatagramExceeds (δ : Type*) [HtsFloat δ] (payload : List UInt8) : Prop :=
  ∃ text, HasText payload text ∧ ∃ before line after, handHeadLines text = before ++ line :: after ∧
    (∀ other ∈ before, ∃ packet : HtsPacket δ, LineDenotes other packet) ∧ LineExceeds line

/-- What an answer of the parser says of its text: it denotes the value, or it exceeds the
    digits of `int`, or it is refused because it does neither. -/
inductive ParserAnswer {α : Type*} (denotes : α → Prop) (exceeds : Prop) :
    Except HtsError α → Prop
  | denoted (a : α) (h : denotes a) (hshort : ¬exceeds) : ParserAnswer denotes exceeds (.ok a)
  | exceeded (h : exceeds) : ParserAnswer denotes exceeds (.error .digitLimit)
  | refused (error : HtsError) (herror : error.isSerialization = true) (h : ∀ a, ¬denotes a)
      (hshort : ¬exceeds) : ParserAnswer denotes exceeds (.error error)

theorem ParserAnswer.congr {α : Type*} {denotes denotes' : α → Prop} {exceeds exceeds' : Prop}
    {answer : Except HtsError α} (h : ParserAnswer denotes exceeds answer)
    (hdenotes : ∀ a, denotes' a ↔ denotes a) (hexceeds : exceeds' ↔ exceeds) :
    ParserAnswer denotes' exceeds' answer := by
  obtain rfl : denotes' = denotes := funext fun a => propext (hdenotes a)
  obtain rfl : exceeds' = exceeds := propext hexceeds
  exact h

/-! ## Debug fields -/

theorem isSpace_bounds {c : Char} (h : ControllerProvider.isSpace c = true) :
    c.toNat ≤ 32 ∨ 133 ≤ c.toNat := by
  unfold ControllerProvider.isSpace at h
  simp only [Bool.or_eq_true, Bool.and_eq_true, decide_eq_true_eq, beq_iff_eq] at h
  omega

theorem isKeyChar_of_isSpace {c : Char} (h : ControllerProvider.isSpace c = true) :
    isKeyChar c = false := by
  have hbounds := isSpace_bounds h
  have halpha : c.isAlpha = false := by
    by_contra halpha
    have halpha : (decide (65 ≤ c.val ∧ c.val ≤ 90) || (decide (97 ≤ c.val) && decide (c.val ≤ 122)))
        = true := (Bool.not_eq_false _).mp halpha
    rw [Bool.or_eq_true, decide_eq_true_eq, Bool.and_eq_true, decide_eq_true_eq,
      decide_eq_true_eq] at halpha
    have hletters : 65 ≤ c.toNat ∧ c.toNat ≤ 90 ∨ 97 ≤ c.toNat ∧ c.toNat ≤ 122 := halpha
    omega
  have hunderscore : c ≠ '_' := by
    rintro rfl
    exact absurd h (by decide)
  rw [isKeyChar, halpha, beq_false_of_ne hunderscore]
  rfl

theorem isSpace_of_isDigit {c : Char} (h : c.isDigit = true) :
    ControllerProvider.isSpace c = false := by
  rw [Char.isDigit, Bool.and_eq_true, decide_eq_true_eq, decide_eq_true_eq] at h
  have hdigits : 48 ≤ c.toNat ∧ c.toNat ≤ 57 := h
  by_contra hspace
  have hbounds := isSpace_bounds (Bool.not_eq_false _ ▸ hspace)
  omega

/-- **The regular expression** finds the two groups of a debug field. -/
theorem debugField?_iff {item key digits : List Char} :
    debugField? item = some (key, digits) ↔ DebugField item key digits := by
  unfold debugField?
  constructor
  · intro h
    dsimp only at h
    split at h
    · rename_i rest hrest
      split at h
      · exact nomatch h
      · rename_i hgood
        obtain ⟨rfl, rfl⟩ := Prod.mk.inj (Option.some.inj h)
        rw [Bool.or_eq_true, Bool.or_eq_true, not_or, not_or] at hgood
        obtain ⟨⟨hkey, hdigits⟩, hall⟩ := hgood
        refine ⟨(item.dropWhile isKeyChar).takeWhile ControllerProvider.isSpace,
          rest.takeWhile ControllerProvider.isSpace, ?_, ⟨by simpa using hkey, ?_⟩, ?_,
          by simpa using hdigits, by simpa using hall⟩
        · rw [List.takeWhile_append_dropWhile, ← hrest, List.append_assoc,
            List.takeWhile_append_dropWhile, List.takeWhile_append_dropWhile]
        · exact fun c hc => List.mem_takeWhile_imp hc
        · intro c hc
          rcases List.mem_append.mp hc with hc | hc <;> exact List.mem_takeWhile_imp hc
    · exact nomatch h
  · rintro ⟨before, after, rfl, ⟨hkey, hkeyChars⟩, hspaces, hdigits, hdigitChars⟩
    have hfront : ∀ c ∈ (before ++ '=' :: (after ++ digits)).head?, isKeyChar c = false := by
      cases before with
      | nil =>
        intro c hc
        obtain rfl := Option.some.inj hc
        decide
      | cons space before =>
        intro c hc
        obtain rfl := Option.some.inj hc
        exact isKeyChar_of_isSpace (hspaces space (by simp))
    have hsign : ∀ c ∈ ('=' :: (after ++ digits)).head?, ControllerProvider.isSpace c = false := by
      intro c hc
      obtain rfl := Option.some.inj hc
      decide
    have hnumber : ∀ c ∈ digits.head?, ControllerProvider.isSpace c = false := fun c hc =>
      isSpace_of_isDigit (hdigitChars c (List.mem_of_mem_head? hc))
    obtain ⟨htake, hdrop⟩ := takeWhile_append_of_head hkeyChars hfront
    obtain ⟨-, hdropSpace⟩ := takeWhile_append_of_head
      (fun c hc => hspaces c (List.mem_append_left _ hc)) hsign
    obtain ⟨-, hdropAfter⟩ := takeWhile_append_of_head
      (fun c hc => hspaces c (List.mem_append_right _ hc)) hnumber
    rw [List.append_assoc]
    dsimp only
    rw [htake, hdrop, hdropSpace]
    show (if (key.isEmpty || ((after ++ digits).dropWhile ControllerProvider.isSpace).isEmpty ||
      !((after ++ digits).dropWhile ControllerProvider.isSpace).all Char.isDigit) = true then none
      else some (key, (after ++ digits).dropWhile ControllerProvider.isSpace)) = _
    rw [hdropAfter, if_neg]
    simpa [hkey, hdigits] using hdigitChars

theorem DebugField.unique {item key key' digits digits' : List Char}
    (h : DebugField item key digits) (h' : DebugField item key' digits') :
    key = key' ∧ digits = digits' :=
  Prod.mk.inj (Option.some.inj ((debugField?_iff.mpr h).symm.trans (debugField?_iff.mpr h')))

theorem FieldDenotes.unique {field : List Char} {entry entry' : List Char × ℕ}
    (h : FieldDenotes field entry) (h' : FieldDenotes field entry') : entry = entry' := by
  obtain ⟨key, digits, hfield, rfl⟩ := h
  obtain ⟨key', digits', hfield', rfl⟩ := h'
  obtain ⟨rfl, hdigits⟩ := hfield.unique hfield'
  rw [Digits.ext hdigits]

/-! ## The header -/

/-- An entry of a header: the tests of `_parse_header` on the key. -/
def HtsHeader.enter (header : HtsHeader) (entry : List Char × ℕ) : Except HtsError HtsHeader :=
  if entry.1 ∈ sequenceKeys then
    if header.sourceSequence.isSome then .error .duplicateSequence
    else .ok { header with sourceSequence := some entry.2 }
  else if entry.1 ∈ timestampKeys then
    if header.sourceTimestampNs.isSome then .error .duplicateTimestamp
    else .ok { header with sourceTimestampNs := some entry.2 }
  else
    .ok { header with
      extraFields := (header.extraFields.filter fun field => field.1 != entry.1) ++ [entry] }

theorem readField_malformed {field : List Char}
    (h : ∀ key digits, ¬DebugField (strStrip field) key digits)
    (header : HtsHeader) :
    header.readField (strStrip field) = .error (.malformedField (strStrip field)) := by
  unfold HtsHeader.readField
  cases hfield : debugField? (strStrip field) with
  | none => rfl
  | some groups => exact absurd (debugField?_iff.mp hfield) (h _ _)

theorem readField_overlong {field : List Char} (h : OverlongField field) (header : HtsHeader) :
    header.readField (strStrip field) = .error .digitLimit := by
  obtain ⟨key, digits, hfield, hlong⟩ := h
  unfold HtsHeader.readField
  rw [(debugField?_iff).mpr hfield]
  dsimp only
  rw [intOfDigits, if_pos hlong]
  rfl

theorem readField_enter {field : List Char} (hshort : ¬OverlongField field)
    {entry : List Char × ℕ} (h : FieldDenotes field entry) (header : HtsHeader) :
    header.readField (strStrip field) = header.enter entry := by
  obtain ⟨key, digits, hfield, rfl⟩ := h
  have hlength : ¬4300 < digits.chars.length := fun hlong => hshort ⟨key, _, hfield, hlong⟩
  unfold HtsHeader.readField
  rw [(debugField?_iff).mpr hfield]
  dsimp only
  rw [intOfDigits, if_neg hlength, digits.foldl_eq_value]
  rfl

theorem DebugField.denotes {field key digits : List Char}
    (h : DebugField (strStrip field) key digits) :
    ∃ entry, FieldDenotes field entry := by
  obtain ⟨-, -, -, -, -, -, hdigits⟩ := id h
  exact ⟨_, key, ⟨digits, hdigits⟩, h, rfl⟩

section Entries

variable {done entries : List (List Char × ℕ)} {entry : List Char × ℕ} {header : HtsHeader}

theorem numbersOf_append (keys : List (List Char)) (done entries : List (List Char × ℕ)) :
    numbersOf keys (done ++ entries) = numbersOf keys done ++ numbersOf keys entries := by
  unfold numbersOf
  rw [List.filter_append, List.map_append]

variable {keys : List (List Char)}

theorem numbersOf_cons_of_mem (h : entry.1 ∈ keys) :
    numbersOf keys (entry :: entries) = entry.2 :: numbersOf keys entries := by
  unfold numbersOf
  rw [List.filter_cons_of_pos (by simpa using h), List.map_cons]

theorem numbersOf_singleton_of_not_mem (h : entry.1 ∉ keys) :
    numbersOf keys [entry] = [] := by
  unfold numbersOf
  rw [List.filter_cons_of_neg (by simpa using h)]
  rfl

theorem numbersOf_concat_of_not_mem (h : entry.1 ∉ keys) :
    numbersOf keys (done ++ [entry]) = numbersOf keys done := by
  rw [numbersOf_append, numbersOf_singleton_of_not_mem h, List.append_nil]

/-- A key that is there already is there twice. -/
theorem not_toList_of_mem (h : entry.1 ∈ keys) {first : Option ℕ}
    (hfirst : first.toList = numbersOf keys done) (hsome : first.isSome = true)
    (number : Option ℕ) : number.toList ≠ numbersOf keys (done ++ entry :: entries) := by
  intro hnumber
  obtain ⟨n, rfl⟩ := Option.isSome_iff_exists.mp hsome
  rw [numbersOf_append, ← hfirst, numbersOf_cons_of_mem h] at hnumber
  cases number with
  | none => exact absurd hnumber nofun
  | some m => exact absurd (List.cons.inj hnumber).2 nofun

/-- The number of a new key. -/
theorem toList_concat (h : entry.1 ∈ keys) {first : Option ℕ}
    (hfirst : first.toList = numbersOf keys done) (hsome : first.isSome = false) :
    (some entry.2).toList = numbersOf keys (done ++ [entry]) := by
  obtain rfl : first = none := by simpa using hsome
  rw [numbersOf_append, ← hfirst, numbersOf_cons_of_mem h]
  rfl

theorem timestampKeys_of_sequenceKeys {key : List Char} (h : key ∈ sequenceKeys) :
    key ∉ timestampKeys := by
  have hdisjoint : ∀ key ∈ sequenceKeys, key ∉ timestampKeys := by decide
  exact hdisjoint key h

theorem extrasOf_concat_of_mem (h : entry.1 ∈ sequenceKeys ++ timestampKeys) :
    extrasOf (done ++ [entry]) = extrasOf done := by
  unfold extrasOf
  rw [List.filter_append, List.filter_cons_of_neg (by rw [decide_eq_true_eq, not_not]; exact h)]
  exact List.append_nil _

theorem extrasOf_concat_of_not_mem (h : entry.1 ∉ sequenceKeys ++ timestampKeys) :
    extrasOf (done ++ [entry]) = extrasOf done ++ [entry] := by
  unfold extrasOf
  rw [List.filter_append, List.filter_cons_of_pos (by simpa using h)]
  rfl

theorem lookup_filter_ne {α : Type*} (key other : List Char) (fields : List (List Char × α)) :
    (fields.filter fun field => field.1 != key).lookup other =
      if other = key then none else fields.lookup other := by
  split
  · rename_i heq
    subst heq
    refine List.lookup_eq_none_iff.mpr fun field hfield => ?_
    have hne := (List.mem_filter.mp hfield).2
    rw [bne_iff_ne] at hne ⊢
    exact hne.symm
  · rename_i hne
    induction fields with
    | nil => rfl
    | cons field fields ih =>
      obtain ⟨k, v⟩ := field
      by_cases hk : k = key
      · have hother : (other == k) = false := beq_false_of_ne fun h => hne (h.trans hk)
        rw [List.filter_cons_of_neg (by simp [hk]), List.lookup_cons, hother]
        exact ih
      · rw [List.filter_cons_of_pos (by simpa using hk), List.lookup_cons, List.lookup_cons, ih]

/-- An entry with a new key, or another key, enters the header. -/
theorem EntriesDenote.enter (h : EntriesDenote done header) (entry : List Char × ℕ) :
    (∃ after, header.enter entry = .ok after ∧ after.kind = header.kind ∧
        EntriesDenote (done ++ [entry]) after) ∨
      ∃ error : HtsError, header.enter entry = .error error ∧ error.isSerialization = true ∧
        ∀ rest after, ¬EntriesDenote (done ++ entry :: rest) after := by
  unfold HtsHeader.enter
  by_cases hsequence : entry.1 ∈ sequenceKeys
  · have htimestamp := timestampKeys_of_sequenceKeys hsequence
    rw [if_pos hsequence]
    cases hsome : header.sourceSequence.isSome with
    | true =>
      exact .inr ⟨_, rfl, rfl, fun rest after hafter =>
        not_toList_of_mem hsequence h.sequence hsome _ hafter.sequence⟩
    | false =>
      refine .inl ⟨_, rfl, rfl, ⟨toList_concat hsequence h.sequence hsome, ?_, fun key => ?_⟩⟩
      · rw [numbersOf_concat_of_not_mem htimestamp]
        exact h.timestamp
      · rw [extrasOf_concat_of_mem (List.mem_append_left _ hsequence)]
        exact h.extra key
  rw [if_neg hsequence]
  by_cases htimestamp : entry.1 ∈ timestampKeys
  · rw [if_pos htimestamp]
    cases hsome : header.sourceTimestampNs.isSome with
    | true =>
      exact .inr ⟨_, rfl, rfl, fun rest after hafter =>
        not_toList_of_mem htimestamp h.timestamp hsome _ hafter.timestamp⟩
    | false =>
      refine .inl ⟨_, rfl, rfl, ⟨?_, toList_concat htimestamp h.timestamp hsome, fun key => ?_⟩⟩
      · rw [numbersOf_concat_of_not_mem hsequence]
        exact h.sequence
      · rw [extrasOf_concat_of_mem (List.mem_append_right _ htimestamp)]
        exact h.extra key
  · rw [if_neg htimestamp]
    have hother : entry.1 ∉ sequenceKeys ++ timestampKeys := by
      rw [List.mem_append, not_or]
      exact ⟨hsequence, htimestamp⟩
    refine .inl ⟨_, rfl, rfl, ⟨?_, ?_, fun key => ?_⟩⟩
    · rw [numbersOf_concat_of_not_mem hsequence]
      exact h.sequence
    · rw [numbersOf_concat_of_not_mem htimestamp]
      exact h.timestamp
    · rw [extrasOf_concat_of_not_mem hother, List.reverse_append, List.lookup_append,
        lookup_filter_ne, List.reverse_singleton, List.singleton_append, List.lookup_cons, h.extra]
      by_cases hkey : key = entry.1
      · rw [if_pos hkey, hkey, List.lookup_cons, beq_self_eq_true]
        rfl
      · have hne : (key == entry.1) = false := beq_false_of_ne hkey
        rw [if_neg hkey, hne, List.lookup_cons, hne]
        exact Option.or_none

end Entries

/-- The header of entries and of fields after them. -/
def DenoteAfter (done : List (List Char × ℕ)) (fields : List (List Char)) (header : HtsHeader) :
    Prop :=
  ∃ entries, List.Forall₂ FieldDenotes fields entries ∧ EntriesDenote (done ++ entries) header

/-- A field after entries is overlong, and those before it are in order. -/
def ExceedAfter (done : List (List Char × ℕ)) (fields : List (List Char)) : Prop :=
  ∃ before field after, fields = before ++ field :: after ∧
    (∃ header, DenoteAfter done before header) ∧ OverlongField field

section Fields

variable {done : List (List Char × ℕ)} {field : List Char} {entry : List Char × ℕ}
  {rest : List (List Char)}

theorem denoteAfter_cons (h : FieldDenotes field entry) (header : HtsHeader) :
    DenoteAfter done (field :: rest) header ↔ DenoteAfter (done ++ [entry]) rest header := by
  constructor
  · rintro ⟨entries, hentries, hheader⟩
    cases hentries with
    | cons hfirst hothers =>
      rw [FieldDenotes.unique hfirst h] at hheader
      exact ⟨_, hothers, by rwa [List.append_assoc]⟩
  · rintro ⟨entries, hentries, hheader⟩
    exact ⟨entry :: entries, .cons h hentries, by rwa [List.append_assoc] at hheader⟩

theorem exceedAfter_cons (h : FieldDenotes field entry) (hshort : ¬OverlongField field) :
    ExceedAfter done (field :: rest) ↔ ExceedAfter (done ++ [entry]) rest := by
  unfold ExceedAfter
  rw [exists_split_cons, or_iff_right fun hlong => hshort hlong.2]
  simp only [denoteAfter_cons h]

/-- A field that denotes nothing ends the denotation. -/
theorem not_denoteAfter_of_malformed (h : ∀ entry, ¬FieldDenotes field entry) (header : HtsHeader) :
    ¬DenoteAfter done (field :: rest) header := by
  rintro ⟨entries, hentries, -⟩
  cases hentries with
  | cons hfirst _ => exact h _ hfirst

theorem not_exceedAfter_of_first (hshort : ¬OverlongField field)
    (h : ∀ others header, ¬DenoteAfter done (field :: others) header) :
    ¬ExceedAfter done (field :: rest) := by
  unfold ExceedAfter
  rw [exists_split_cons]
  rintro (⟨-, hlong⟩ | ⟨before, -, -, -, ⟨header, hheader⟩, -⟩)
  · exact hshort hlong
  · exact h before header hheader

/-- **The loop over the fields.** -/
theorem fields_spec (fields : List (List Char)) {done : List (List Char × ℕ)} {header : HtsHeader}
    (h : EntriesDenote done header) :
    ParserAnswer (fun after => after.kind = header.kind ∧ DenoteAfter done fields after)
      (ExceedAfter done fields) ((fields.map strStrip).foldlM HtsHeader.readField header) := by
  induction fields generalizing done header with
  | nil =>
    refine .denoted header ⟨rfl, [], .nil, by rwa [List.append_nil]⟩ ?_
    rintro ⟨before, field, after, hsplit, -⟩
    exact absurd hsplit (by simp)
  | cons field rest ih =>
    rw [List.map_cons, List.foldlM_cons]
    by_cases hlong : OverlongField field
    · rw [readField_overlong hlong]
      exact .exceeded ⟨[], field, rest, rfl, ⟨header, [], .nil, by rwa [List.append_nil]⟩, hlong⟩
    by_cases hfield : ∃ entry, FieldDenotes field entry
    · obtain ⟨entry, hentry⟩ := hfield
      rw [readField_enter hlong hentry]
      rcases h.enter entry with ⟨after, hafter, hkind, hdenote⟩ | ⟨error, herror, hkind, hnone⟩
      · rw [hafter]
        show ParserAnswer _ _ ((rest.map strStrip).foldlM HtsHeader.readField after)
        rw [← hkind]
        exact (ih hdenote).congr (fun last => and_congr_right' (denoteAfter_cons hentry last))
          (exceedAfter_cons hentry hlong)
      · rw [herror]
        have hnothing (others : List (List Char)) (last : HtsHeader) :
            ¬DenoteAfter done (field :: others) last := by
          rintro ⟨entries, hentries, hlast⟩
          cases hentries with
          | cons hfirst _ =>
            rw [FieldDenotes.unique hfirst hentry] at hlast
            exact hnone _ _ hlast
        exact .refused error hkind (fun last hlast => hnothing rest last hlast.2)
          (not_exceedAfter_of_first hlong hnothing)
    · have hmalformed (key digits : List Char) : ¬DebugField (strStrip field) key digits :=
        fun h => hfield h.denotes
      rw [readField_malformed hmalformed]
      have hnone := not_exists.mp hfield
      exact .refused _ rfl (fun last hlast => not_denoteAfter_of_malformed hnone last hlast.2)
        (not_exceedAfter_of_first hlong fun others => not_denoteAfter_of_malformed hnone)

end Fields

theorem kindOfLabel?_eq_some_iff {label : List Char} {kind : HtsKind} :
    kindOfLabel? label = some kind ↔ label = kind.label.toList := by
  constructor
  · intro h
    unfold kindOfLabel? at h
    split_ifs at h with h1 h2 h3 h4 h5
    · rw [h1, ← Option.some.inj h]; rfl
    · rw [h2, ← Option.some.inj h]; rfl
    · rw [h3, ← Option.some.inj h]; rfl
    · rw [h4, ← Option.some.inj h]; rfl
    · rw [h5, ← Option.some.inj h]; rfl
  · rintro rfl
    cases kind with
    | wrist side => cases side <;> rfl
    | landmarks side => cases side <;> rfl
    | headPose => rfl

theorem label_injective {kind kind' : HtsKind} (h : kind.label.toList = kind'.label.toList) :
    kind = kind' :=
  Option.some.inj ((kindOfLabel?_eq_some_iff.mpr rfl).symm.trans (kindOfLabel?_eq_some_iff.mpr h))

theorem headerText_iff {text label : List Char} {fields : List (List Char)} :
    HeaderText text label fields ↔ text.splitOn '|' = label :: fields := by
  rw [splitOn_eq_iff]
  exact (and_iff_right (List.cons_ne_nil _ _)).symm

theorem HeaderDenotes.kind_eq {text : List Char} {header header' : HtsHeader}
    (h : HeaderDenotes text header) (h' : HeaderDenotes text header') :
    header.kind = header'.kind := by
  obtain ⟨label, fields, htext, hlabel, -⟩ := h
  obtain ⟨label', fields', htext', hlabel', -⟩ := h'
  obtain ⟨rfl, -⟩ :=
    List.cons.inj ((headerText_iff.mp htext).symm.trans (headerText_iff.mp htext'))
  exact label_injective (hlabel.symm.trans hlabel')

/-- **The header.** -/
theorem parseHeader_spec (text : List Char) :
    ParserAnswer (HeaderDenotes text) (HeaderExceeds text) (parseHeader text) := by
  unfold parseHeader
  cases hsplit : text.splitOn '|' with
  | nil => exact absurd hsplit (List.splitOn_ne_nil '|' text)
  | cons label fields =>
    have htext : HeaderText text label fields := (headerText_iff).mpr hsplit
    have hunique {label' : List Char} {fields' : List (List Char)}
        (h : HeaderText text label' fields') : label' = label ∧ fields' = fields :=
      List.cons.inj ((headerText_iff.mp h).symm.trans hsplit)
    have hunknown (error : HtsError) (herror : error.isSerialization = true)
        (h : ∀ kind : HtsKind, strStrip label ≠ kind.label.toList) :
        ParserAnswer (HeaderDenotes text) (HeaderExceeds text) (.error error) := by
      refine .refused error herror ?_ ?_
      · rintro header ⟨label', fields', htext', hlabel, -⟩
        rw [(hunique htext').1] at hlabel
        exact h _ hlabel
      · rintro ⟨label', fields', htext', ⟨kind, hlabel⟩, -⟩
        rw [(hunique htext').1] at hlabel
        exact h _ hlabel
    rw [List.map_cons]
    dsimp only
    by_cases hempty : (strStrip label).isEmpty = true
    · rw [if_pos hempty]
      refine hunknown _ rfl fun kind hlabel => ?_
      rw [List.isEmpty_iff.mp hempty] at hlabel
      have hne : kind.label.toList ≠ [] := by
        cases kind with
        | wrist side => cases side <;> decide
        | landmarks side => cases side <;> decide
        | headPose => decide
      exact hne hlabel.symm
    rw [if_neg hempty]
    cases hkind : kindOfLabel? (strStrip label) with
    | none =>
      refine hunknown _ rfl fun kind hlabel => ?_
      rw [(kindOfLabel?_eq_some_iff).mpr hlabel] at hkind
      exact nomatch hkind
    | some kind =>
      have hlabel := (kindOfLabel?_eq_some_iff).mp hkind
      have hinitial : EntriesDenote [] ⟨kind, none, none, []⟩ := ⟨rfl, rfl, fun _ => rfl⟩
      have hfields := fields_spec fields hinitial
      refine hfields.congr (fun header => ⟨?_, fun h => ?_⟩) ⟨?_, fun h => ?_⟩
      · rintro ⟨label', fields', htext', hlabel', hdenote⟩
        obtain ⟨rfl, rfl⟩ := hunique htext'
        exact ⟨label_injective (hlabel'.symm.trans hlabel), hdenote⟩
      · exact ⟨label, fields, htext, by rw [h.1]; exact hlabel, h.2⟩
      · rintro ⟨label', fields', htext', -, hexceeds⟩
        rwa [(hunique htext').2] at hexceeds
      · exact ⟨label, fields, htext, ⟨kind, hlabel⟩, h⟩

/-! ## The numbers -/

section Strip

variable {β : Type*} {isBlank : β → Bool}

/-- What `strip` takes off is blank. -/
theorem strip_decomposes (text : List β) : ∃ leading trailing,
    text = leading ++ strip isBlank text ++ trailing ∧
      ∀ c ∈ leading ++ trailing, isBlank c = true := by
  refine ⟨text.takeWhile isBlank, ((text.dropWhile isBlank).reverse.takeWhile isBlank).reverse,
    ?_, ?_⟩
  · have hback : (text.dropWhile isBlank) = strip isBlank text ++
        ((text.dropWhile isBlank).reverse.takeWhile isBlank).reverse := by
      unfold strip
      rw [← List.reverse_append, List.takeWhile_append_dropWhile, List.reverse_reverse]
    rw [List.append_assoc, ← hback, List.takeWhile_append_dropWhile]
  · intro c hc
    rcases List.mem_append.mp hc with hc | hc
    · exact List.mem_takeWhile_imp hc
    · exact List.mem_takeWhile_imp (List.mem_reverse.mp hc)

theorem strip_append {leading text trailing : List β}
    (hblank : ∀ c ∈ leading ++ trailing, isBlank c = true) (hne : text ≠ [])
    (htext : ∀ c ∈ text, isBlank c = false) :
    strip isBlank (leading ++ text ++ trailing) = text := by
  have hhead : ∀ c ∈ (text ++ trailing).head?, isBlank c = false := by
    cases text with
    | nil => exact absurd rfl hne
    | cons first rest =>
      intro c hc
      obtain rfl := Option.some.inj hc
      exact htext first (List.mem_cons_self ..)
  have hlast : ∀ c ∈ text.reverse.head?, isBlank c = false := fun c hc =>
    htext c (List.mem_reverse.mp (List.mem_of_mem_head? hc))
  unfold strip
  rw [List.append_assoc,
    (takeWhile_append_of_head (fun c hc => hblank c (List.mem_append_left _ hc)) hhead).2,
    List.reverse_append, (takeWhile_append_of_head
      (fun c hc => hblank c (List.mem_append_right _ (List.mem_reverse.mp hc))) hlast).2,
    List.reverse_reverse]

theorem dropWhile_of_head {text : List β} (h : ∀ c ∈ text.head?, isBlank c = false) :
    text.dropWhile isBlank = text :=
  (takeWhile_append_of_head (fun _ hc => absurd hc List.not_mem_nil) h).2

theorem strip_of_ends {text : List β} (hhead : ∀ c ∈ text.head?, isBlank c = false)
    (hlast : ∀ c ∈ text.reverse.head?, isBlank c = false) : strip isBlank text = text := by
  unfold strip
  rw [dropWhile_of_head hhead, dropWhile_of_head hlast, List.reverse_reverse]

/-- A stripped text has nothing to strip. -/
theorem strip_strip (text : List β) : strip isBlank (strip isBlank text) = strip isBlank text := by
  obtain ⟨trailing, htrimmed⟩ : ∃ trailing,
      text.dropWhile isBlank = strip isBlank text ++ trailing := by
    refine ⟨((text.dropWhile isBlank).reverse.takeWhile isBlank).reverse, ?_⟩
    unfold strip
    rw [← List.reverse_append, List.takeWhile_append_dropWhile, List.reverse_reverse]
  have hhead : ∀ c ∈ (strip isBlank text).head?, isBlank c = false := by
    intro c hc
    refine head_dropWhile_false (p := isBlank) text c ?_
    rw [htrimmed, List.head?_append, Option.mem_def.mp hc]
    rfl
  have hlast : ∀ c ∈ (strip isBlank text).reverse.head?, isBlank c = false := by
    have hreverse : (strip isBlank text).reverse =
        (text.dropWhile isBlank).reverse.dropWhile isBlank := List.reverse_reverse _
    rw [hreverse]
    exact head_dropWhile_false _
  exact strip_of_ends hhead hlast

end Strip

section Values

variable {δ : Type*} [HtsFloat δ]

theorem forall₂_cellDenotes_iff {cells : List (List Char)} {values : List δ} :
    List.Forall₂ CellDenotes cells values ↔
      (∀ cell ∈ cells, strStrip cell ≠ []) ∧
        (cells.map strStrip).mapM HtsFloat.ofText = some values ∧
        ∀ value ∈ values, isFinite value = true := by
  rw [mapM_eq_some_iff, List.forall₂_map_left_iff]
  constructor
  · intro h
    induction h with
    | nil => exact ⟨by simp, .nil, by simp⟩
    | cons hcell _ ih =>
      obtain ⟨hne, hvalues, hfinite⟩ := ih
      exact ⟨List.forall_mem_cons.mpr ⟨hcell.1, hne⟩, .cons hcell.2.1 hvalues,
        List.forall_mem_cons.mpr ⟨hcell.2.2, hfinite⟩⟩
  · rintro ⟨hne, hvalues, hfinite⟩
    induction hvalues with
    | nil => exact .nil
    | cons hvalue _ ih =>
      obtain ⟨hne, hothers⟩ := List.forall_mem_cons.mp hne
      obtain ⟨hfinite, hrest⟩ := List.forall_mem_cons.mp hfinite
      exact .cons ⟨hne, hvalue, hfinite⟩ (ih hothers hrest)

variable {payload : List Char}

/-- The answer on the cells between the empty ones. -/
theorem parseFiniteFloats_eq {chunks : List (List Char)}
    (h : strip List.isEmpty ((payload.splitOn ',').map strStrip) = chunks) :
    parseFiniteFloats (δ := δ) payload =
      if chunks.isEmpty || chunks.any List.isEmpty then .error .emptyValue
      else
        match chunks.mapM (HtsFloat.ofText (δ := δ)) with
        | none => .error .notFloat
        | some values => if values.all isFinite then .ok values else .error .notFinite := by
  rw [← h]
  rfl

theorem parseFiniteFloats_of_denotes {values : List δ}
    (h : ValuesDenote payload values) : parseFiniteFloats payload = .ok values := by
  obtain ⟨leading, cells, trailing, hpayload, hcommas, hblank, hne, hcells⟩ := h
  obtain ⟨hfilled, hread, hfinite⟩ := (forall₂_cellDenotes_iff).mp hcells
  have hsplit : payload.splitOn ',' = leading ++ cells ++ trailing :=
    splitOn_eq_iff.mpr ⟨by simp [hne], hpayload, hcommas⟩
  have hchunks : strip List.isEmpty ((payload.splitOn ',').map strStrip) = cells.map strStrip := by
    rw [hsplit, List.map_append, List.map_append]
    refine strip_append (fun cell hcell => ?_) (by simpa using hne) fun cell hcell => ?_
    · rw [← List.map_append] at hcell
      obtain ⟨raw, hraw, rfl⟩ := List.mem_map.mp hcell
      rw [hblank raw hraw]
      rfl
    · obtain ⟨raw, hraw, rfl⟩ := List.mem_map.mp hcell
      simpa using hfilled raw hraw
  rw [parseFiniteFloats_eq hchunks, if_neg, hread]
  · dsimp only
    rw [if_pos (List.all_eq_true.mpr hfinite)]
  · simp only [Bool.or_eq_true, not_or, List.any_eq_true, not_exists, not_and]
    refine ⟨by simpa using hne, fun cell hcell => ?_⟩
    obtain ⟨raw, hraw, rfl⟩ := List.mem_map.mp hcell
    simpa using hfilled raw hraw

theorem denotes_of_parseFiniteFloats {values : List δ}
    (h : parseFiniteFloats payload = .ok values) : ValuesDenote payload values := by
  obtain ⟨leading, trailing, hdecomposed, hblank⟩ :=
    @strip_decomposes _ List.isEmpty ((payload.splitOn ',').map strStrip)
  rw [parseFiniteFloats_eq rfl] at h
  generalize strip List.isEmpty ((payload.splitOn ',').map strStrip) = chunks at hdecomposed h
  split at h
  · exact nomatch h
  rename_i hfilled
  cases hread : chunks.mapM (HtsFloat.ofText (δ := δ)) with
  | none => rw [hread] at h; exact nomatch h
  | some read =>
    rw [hread] at h
    dsimp only at h
    split at h
    swap
    · exact nomatch h
    rename_i hfinite
    obtain rfl := Except.ok.inj h
    obtain ⟨front, rawTrailing, hsplit, hfront, rfl⟩ := List.map_eq_append_iff.mp hdecomposed
    obtain ⟨rawLeading, cells, rfl, rfl, rfl⟩ := List.map_eq_append_iff.mp hfront
    simp only [Bool.or_eq_true, not_or, List.any_eq_true, not_exists, not_and] at hfilled
    obtain ⟨hnonempty, hfilled⟩ := hfilled
    obtain ⟨-, hpayload, hcommas⟩ := splitOn_eq_iff.mp hsplit
    refine ⟨rawLeading, cells, rawTrailing, hpayload, hcommas, fun cell hcell => ?_,
      by simpa using hnonempty, (forall₂_cellDenotes_iff).mpr ⟨fun cell hcell => ?_, hread,
        List.all_eq_true.mp hfinite⟩⟩
    · have hempty := hblank (strStrip cell) (by
        rw [← List.map_append]
        exact List.mem_map_of_mem hcell)
      simpa using hempty
    · have hne := hfilled (strStrip cell) (List.mem_map_of_mem hcell)
      simpa using hne

theorem parseFiniteFloats_error {error : HtsError}
    (h : parseFiniteFloats (δ := δ) payload = .error error) : error.isSerialization = true := by
  rw [parseFiniteFloats_eq rfl] at h
  split at h
  · rw [← Except.error.inj h]
    rfl
  · split at h
    · rw [← Except.error.inj h]
      rfl
    · split at h
      · exact nomatch h
      · rw [← Except.error.inj h]
        rfl

end Values

/-! ## Lines and datagrams -/

section Lines

variable {δ : Type*} [HtsFloat δ]

variable {values : List δ}

omit [HtsFloat δ] in
/-- The points of 63 numbers. -/
theorem points_spec (h : values.length = 63) :
    (Canonical.points values).length = 21 ∧
      ∀ i < 21, ∃ x y z, values[3 * i]? = some x ∧ values[3 * i + 1]? = some y ∧
        values[3 * i + 2]? = some z ∧ (Canonical.points values)[i]? = some [x, y, z] := by
  refine ⟨by rw [Canonical.points, List.length_map, List.length_range, htsLandmarkCount],
    fun i hi => ?_⟩
  have hx : 3 * i < values.length := by omega
  have hy : 3 * i + 1 < values.length := by omega
  have hz : 3 * i + 2 < values.length := by omega
  refine ⟨_, _, _, List.getElem?_eq_getElem hx, List.getElem?_eq_getElem hy,
    List.getElem?_eq_getElem hz, ?_⟩
  rw [Canonical.points, List.getElem?_map, htsLandmarkCount, List.getElem?_range hi, Option.map_some,
    List.drop_eq_getElem_cons hx, List.drop_eq_getElem_cons hy, List.drop_eq_getElem_cons hz]
  rfl

/-- A norm that is next to zero is not within the tolerance of 1. -/
def SmallNormsRejected (δ : Type*) [HtsFloat δ] : Prop :=
  ∀ norm : δ, le norm (ofRat (1 / 10 ^ 12)) = true →
    lt (ofRat (1 / 50)) (abs (sub norm (ofRat 1))) = true

theorem normRejected_eq_false_iff (hsmall : SmallNormsRejected δ) {norm : δ} :
    normRejected norm = false ↔ NormWithin norm := by
  unfold normRejected NormWithin
  rw [Bool.or_eq_false_iff]
  refine and_iff_right_of_imp fun hwithin => ?_
  by_contra hle
  exact absurd ((hsmall norm (Bool.not_eq_false _ ▸ hle)).symm.trans hwithin) nofun

variable {packet : HtsPacket δ}

theorem parsePose_iff (hsmall : SmallNormsRejected δ) {header : HtsHeader} :
    parsePose header values = .ok packet ↔
      packet.header = header ∧ packet.values = values ∧ packet.values.length = 7 ∧
        NormWithin (quaternionNorm (packet.values.drop 3)) ∧
        packet.quaternionNorm = some (quaternionNorm (packet.values.drop 3)) := by
  unfold parsePose
  by_cases hlength : values.length ≠ 7
  · rw [if_pos hlength]
    exact iff_of_false nofun fun ⟨_, hvalues, hseven, _⟩ => hlength (hvalues ▸ hseven)
  rw [if_neg hlength]
  by_cases hnorm : normRejected (quaternionNorm (values.drop 3)) = true
  · rw [if_pos hnorm]
    refine iff_of_false nofun fun ⟨_, hvalues, _, hwithin, _⟩ => ?_
    rw [hvalues, ← normRejected_eq_false_iff hsmall, hnorm] at hwithin
    exact nomatch hwithin
  rw [if_neg hnorm]
  constructor
  · intro h
    rw [← Except.ok.inj h]
    exact ⟨rfl, rfl, not_ne_iff.mp hlength,
      (normRejected_eq_false_iff hsmall).mp (Bool.eq_false_iff.mpr hnorm), rfl⟩
  · rintro ⟨rfl, rfl, -, -, hquaternion⟩
    rw [← hquaternion]

omit [HtsFloat δ] in
theorem parseLandmarks_iff {header : HtsHeader} :
    parseLandmarks header values = .ok packet ↔
      packet.header = header ∧ packet.values = values ∧ packet.values.length = 63 ∧
        packet.quaternionNorm = none := by
  unfold parseLandmarks
  by_cases hlength : values.length ≠ htsLandmarkCount * 3
  · rw [if_pos hlength]
    exact iff_of_false nofun fun ⟨_, hvalues, hcount, _⟩ => hlength (hvalues ▸ hcount)
  rw [if_neg hlength]
  constructor
  · intro h
    rw [← Except.ok.inj h]
    exact ⟨rfl, rfl, not_ne_iff.mp hlength, rfl⟩
  · rintro ⟨rfl, rfl, -, hnone⟩
    rw [← hnone]

/-- **The numbers of a line.** -/
theorem parseValues_iff (hsmall : SmallNormsRejected δ) {header : HtsHeader} :
    parseValues header values = .ok packet ↔
      packet.header = header ∧ packet.values = values ∧ ValuesFit packet := by
  unfold parseValues ValuesFit
  constructor
  · intro h
    cases hkind : header.kind with
    | wrist side =>
      rw [hkind] at h
      obtain ⟨rfl, hvalues, hfit⟩ := (parsePose_iff hsmall).mp h
      rw [hkind]
      exact ⟨rfl, hvalues, hfit⟩
    | headPose =>
      rw [hkind] at h
      obtain ⟨rfl, hvalues, hfit⟩ := (parsePose_iff hsmall).mp h
      rw [hkind]
      exact ⟨rfl, hvalues, hfit⟩
    | landmarks side =>
      rw [hkind] at h
      obtain ⟨rfl, hvalues, hlength, hnone⟩ := (parseLandmarks_iff).mp h
      rw [hkind]
      exact ⟨rfl, hvalues, hlength, hnone, points_spec hlength⟩
  · rintro ⟨rfl, hvalues, hfit⟩
    cases hkind : packet.header.kind with
    | wrist side =>
      rw [hkind] at hfit
      exact (parsePose_iff hsmall).mpr ⟨rfl, hvalues, hfit⟩
    | headPose =>
      rw [hkind] at hfit
      exact (parsePose_iff hsmall).mpr ⟨rfl, hvalues, hfit⟩
    | landmarks side =>
      rw [hkind] at hfit
      exact (parseLandmarks_iff).mpr ⟨rfl, hvalues, hfit.1, hfit.2.1⟩

theorem parseValues_error {header : HtsHeader} {error : HtsError}
    (h : parseValues header values = .error error) : error.isSerialization = true := by
  have hpose (h : parsePose header values = .error error) : error.isSerialization = true := by
    unfold parsePose at h
    split_ifs at h <;> (rw [← Except.error.inj h]; rfl)
  unfold parseValues at h
  cases hkind : header.kind with
  | wrist side => rw [hkind] at h; exact hpose h
  | headPose => rw [hkind] at h; exact hpose h
  | landmarks side =>
    rw [hkind] at h
    unfold parseLandmarks at h
    dsimp only at h
    split_ifs at h
    rw [← Except.error.inj h]
    rfl

/-- **The line.** -/
theorem parseHtsLine_spec (hsmall : SmallNormsRejected δ) {line : List Char}
    (hstripped : strStrip line = line) (hne : line ≠ []) :
    ParserAnswer (LineDenotes (δ := δ) line) (LineExceeds line) (parseHtsLine line) := by
  unfold parseHtsLine
  rw [hstripped, if_neg (by simpa using hne)]
  cases hcolon : line.dropWhile (· != ':') with
  | nil =>
    have hnone : ':' ∉ line := by
      intro hmem
      have hall := List.dropWhile_eq_nil_iff.mp hcolon ':' hmem
      exact absurd hall (by decide)
    refine .refused _ rfl ?_ ?_
    · rintro packet ⟨header, payload, rfl, -⟩
      exact hnone (by simp)
    · rintro ⟨header, payload, rfl, -⟩
      exact hnone (by simp)
  | cons separator payload =>
    obtain rfl : separator = ':' := by
      have hseparator := head_dropWhile_false (p := (· != ':')) line separator (by rw [hcolon]; rfl)
      simpa using hseparator
    have hparts (header payload' : List Char) :
        line = header ++ ':' :: payload' ∧ ':' ∉ header ↔
          header = line.takeWhile (· != ':') ∧ payload' = payload := by
      rw [takeWhile_dropWhile_iff, hcolon, List.cons.injEq]
      exact and_congr eq_comm ⟨fun h => h.2.symm, fun h => ⟨rfl, h.symm⟩⟩
    obtain ⟨hline, hheader⟩ := (hparts _ _).mpr ⟨rfl, rfl⟩
    have hsplits (p : List Char → List Char → Prop) :
        (∃ header payload, line = header ++ ':' :: payload ∧ ':' ∉ header ∧ p header payload) ↔
          p (line.takeWhile (· != ':')) payload := by
      constructor
      · rintro ⟨header, payload', hsplit, hbefore, h⟩
        obtain ⟨rfl, rfl⟩ := (hparts _ _).mp ⟨hsplit, hbefore⟩
        exact h
      · exact fun h => ⟨_, _, hline, hheader, h⟩
    have hdenotes (packet : HtsPacket δ) : LineDenotes line packet ↔
        HeaderDenotes (line.takeWhile (· != ':')) packet.header ∧
          ValuesDenote payload packet.values ∧ ValuesFit packet :=
      hsplits fun header payload =>
        HeaderDenotes header packet.header ∧ ValuesDenote payload packet.values ∧ ValuesFit packet
    have hexceeds : LineExceeds line ↔ HeaderExceeds (line.takeWhile (· != ':')) :=
      hsplits fun header _ => HeaderExceeds header
    have hspec := parseHeader_spec (line.takeWhile (· != ':'))
    dsimp only
    generalize parseHeader (line.takeWhile (· != ':')) = answer at hspec ⊢
    cases hspec with
    | exceeded h => exact .exceeded (hexceeds.mpr h)
    | refused error herror h hshort =>
      exact .refused error herror (fun packet hpacket => h _ ((hdenotes packet).mp hpacket).1)
        (mt hexceeds.mp hshort)
    | denoted header h hshort =>
      dsimp only
      cases hvalues : parseFiniteFloats (δ := δ) payload with
      | error error =>
        refine .refused error (parseFiniteFloats_error hvalues) (fun packet hpacket => ?_)
          (mt hexceeds.mp hshort)
        have hok := parseFiniteFloats_of_denotes ((hdenotes packet).mp hpacket).2.1
        exact nomatch hok.symm.trans hvalues
      | ok values =>
        dsimp only
        cases hpacket : parseValues header values with
        | ok packet =>
          obtain ⟨rfl, rfl, hfit⟩ := (parseValues_iff hsmall).mp hpacket
          exact .denoted packet
            ((hdenotes packet).mpr ⟨h, denotes_of_parseFiniteFloats hvalues, hfit⟩)
            (mt hexceeds.mp hshort)
        | error error =>
          refine .refused error (parseValues_error hpacket) (fun packet hdenoted => ?_)
            (mt hexceeds.mp hshort)
          -- The extra fields of a header are a dictionary; only its kind matters here.
          obtain ⟨hheader', hvalues', hfit⟩ := (hdenotes packet).mp hdenoted
          obtain rfl : packet.values = values := Except.ok.inj
            ((parseFiniteFloats_of_denotes hvalues').symm.trans hvalues)
          have hfit' : ValuesFit (⟨header, packet.values, packet.quaternionNorm⟩ : HtsPacket δ) := by
            unfold ValuesFit at hfit ⊢
            rw [← hheader'.kind_eq h]
            exact hfit
          have hok := (parseValues_iff hsmall).mpr ⟨rfl, rfl, hfit'⟩
          exact nomatch hok.symm.trans hpacket

/-- What the answers on the lines say of all of them. -/
theorem mapM_spec {α : Type*} {f : List Char → Except HtsError α}
    {denotes : List Char → α → Prop} {exceeds : List Char → Prop} {lines : List (List Char)}
    (h : ∀ line ∈ lines, ParserAnswer (denotes line) (exceeds line) (f line)) :
    ParserAnswer (List.Forall₂ denotes lines)
      (∃ before line after, lines = before ++ line :: after ∧
        (∀ other ∈ before, ∃ a, denotes other a) ∧ exceeds line) (lines.mapM f) := by
  induction lines with
  | nil =>
    refine .denoted [] .nil ?_
    rintro ⟨before, line, after, hsplit, -⟩
    exact absurd hsplit (by simp)
  | cons first rest ih =>
    obtain ⟨hfirst, hrest⟩ := List.forall_mem_cons.mp h
    have hothers := ih hrest
    rw [List.mapM_cons, exists_split_cons]
    generalize f first = answer at hfirst ⊢
    cases hfirst with
    | exceeded hexceeds => exact .exceeded (.inl ⟨by simp, hexceeds⟩)
    | refused error herror hnone hshort =>
      refine .refused error herror ?_ ?_
      · rintro packets hpackets
        cases hpackets with
        | cons hpacket _ => exact hnone _ hpacket
      · rintro (⟨-, hexceeds⟩ | ⟨before, -, -, -, hbefore, -⟩)
        · exact hshort hexceeds
        · obtain ⟨a, ha⟩ := hbefore first (List.mem_cons_self ..)
          exact hnone a ha
    | denoted a ha hshort =>
      show ParserAnswer _ _ (rest.mapM f >>= fun others => pure (a :: others))
      have hdenotes : ∃ a, denotes first a := ⟨a, ha⟩
      rw [or_iff_right fun h => hshort h.2]
      simp only [List.forall_mem_cons, and_iff_right hdenotes]
      generalize rest.mapM f = answers at hothers ⊢
      cases hothers with
      | exceeded h => exact .exceeded h
      | denoted others h hshort' => exact .denoted (a :: others) (.cons ha h) hshort'
      | refused error herror hnone hshort' =>
        refine .refused error herror ?_ hshort'
        rintro packets hpackets
        cases hpackets with
        | cons _ h => exact hnone _ h

/-- The lines that are parsed are stripped and not empty. -/
theorem handHeadLines_spec {text line : List Char} (h : line ∈ handHeadLines text) :
    strStrip line = line ∧ line ≠ [] := by
  obtain ⟨hline, hkept⟩ := List.mem_filter.mp h
  obtain ⟨raw, -, rfl⟩ := List.mem_map.mp hline
  rw [Bool.and_eq_true] at hkept
  exact ⟨strip_strip raw, by simpa using hkept.1⟩

/-- **The datagram.** -/
theorem parseHtsDatagram_spec (hsmall : SmallNormsRejected δ) (payload : List UInt8) :
    ParserAnswer (DatagramDenotes (δ := δ) payload) (DatagramExceeds δ payload)
      (parseHtsDatagram payload) := by
  have hrefused (error : HtsError) (herror : error.isSerialization = true)
      (h : ∀ text, ¬HasText payload text) :
      ParserAnswer (DatagramDenotes (δ := δ) payload) (DatagramExceeds δ payload) (.error error) :=
    .refused error herror (fun _ ⟨text, htext, _⟩ => h text htext) fun ⟨text, htext, _⟩ => h text htext
  unfold parseHtsDatagram
  by_cases hempty : payload.isEmpty = true
  · rw [if_pos hempty]
    exact hrefused _ rfl fun text h => h.1 (List.isEmpty_iff.mp hempty)
  rw [if_neg hempty]
  by_cases hlong : htsMaxDatagramBytes < payload.length
  · rw [if_pos hlong]
    exact hrefused _ rfl fun text h => absurd h.2.1 (Nat.not_le.mpr hlong)
  rw [if_neg hlong]
  cases htext : decodeUtf8 payload with
  | none => exact hrefused _ rfl fun text h => nomatch h.2.2.1.symm.trans htext
  | some text =>
    dsimp only
    by_cases hlines :
        (((strLines text).map strStrip).filter fun line => !line.isEmpty).isEmpty = true
    · rw [if_pos hlines]
      refine hrefused _ rfl fun text' h => ?_
      obtain ⟨-, -, htext', line, hline, hne⟩ := h
      obtain rfl := Option.some.inj (htext'.symm.trans htext)
      have hmem : strStrip line ∈ ((strLines text').map strStrip).filter fun line =>
          !line.isEmpty :=
        List.mem_filter.mpr ⟨List.mem_map_of_mem hline, by simpa using hne⟩
      rw [List.isEmpty_iff.mp hlines] at hmem
      exact absurd hmem List.not_mem_nil
    rw [if_neg hlines]
    have hhas : HasText payload text := by
      refine ⟨by simpa using hempty, Nat.not_lt.mp hlong, htext, ?_⟩
      obtain ⟨line, hline⟩ := List.exists_mem_of_ne_nil _ (mt List.isEmpty_iff.mpr hlines)
      obtain ⟨hmem, hne⟩ := List.mem_filter.mp hline
      obtain ⟨raw, hraw, rfl⟩ := List.mem_map.mp hmem
      exact ⟨raw, hraw, by simpa using hne⟩
    have hunique {text' : List Char} (h : HasText payload text') : text' = text :=
      Option.some.inj (h.2.2.1.symm.trans htext)
    have hfilter : (((strLines text).map strStrip).filter fun line => !line.isEmpty).filter
        (fun line => !"CTRL,".toList.isPrefixOf line) = handHeadLines text := by
      rw [List.filter_filter]
      exact List.filter_congr fun line _ => Bool.and_comm ..
    rw [hfilter]
    have hspec := mapM_spec fun line (hline : line ∈ handHeadLines text) =>
      parseHtsLine_spec hsmall (handHeadLines_spec hline).1 (handHeadLines_spec hline).2
    refine hspec.congr (fun packets => ⟨?_, fun h => ⟨text, hhas, h⟩⟩)
      ⟨?_, fun h => ⟨text, hhas, h⟩⟩
    · rintro ⟨text', htext', h⟩
      rwa [hunique htext'] at h
    · rintro ⟨text', htext', h⟩
      rwa [hunique htext'] at h

/-- **Totality and exactness.** Every exception is a `SerializationError`, the parser succeeds
    exactly on the datagrams that denote packets, and it returns what they denote, if and only if
    no line is reached that gives `int` more than 4300 digits. -/
theorem hts_parser_exact_iff (hsmall : SmallNormsRejected δ) (payload : List UInt8) :
    ((∀ error, parseHtsDatagram (δ := δ) payload = .error error → error.isSerialization = true) ∧
        ((∃ packets, parseHtsDatagram (δ := δ) payload = .ok packets) ↔
          ∃ packets : List (HtsPacket δ), DatagramDenotes payload packets) ∧
        ∀ packets : List (HtsPacket δ), parseHtsDatagram payload = .ok packets →
          DatagramDenotes payload packets) ↔
      ¬DatagramExceeds δ payload := by
  have hspec := parseHtsDatagram_spec hsmall payload
  generalize parseHtsDatagram (δ := δ) payload = answer at hspec ⊢
  cases hspec with
  | exceeded h =>
    refine iff_of_false (fun hall => ?_) (not_not.mpr h)
    exact absurd (hall.1 _ rfl) nofun
  | denoted packets h hshort =>
    refine iff_of_true ⟨nofun, iff_of_true ⟨packets, rfl⟩ ⟨packets, h⟩, ?_⟩ hshort
    intro others hothers
    rw [← Except.ok.inj hothers]
    exact h
  | refused error herror hnone hshort =>
    refine iff_of_true ⟨?_, iff_of_false nofun fun ⟨packets, h⟩ => hnone packets h, nofun⟩ hshort
    intro other hother
    rw [← Except.error.inj hother]
    exact herror

end Lines

/-! ## A sequence with leading zeros -/

attribute [local instance] exactHtsFloat

theorem smallNormsRejected_exact : SmallNormsRejected ℚ := by
  intro norm hle
  have hsmall : norm ≤ 1 / 10 ^ 12 := by
    rcases Bool.or_eq_true_iff.mp hle with h | h
    · exact (of_decide_eq_true h).le
    · exact (of_decide_eq_true h).le
  have hnegative : norm - 1 < 0 := by
    have hone : (1 / 10 ^ 12 : ℚ) < 1 := by norm_num
    linarith
  show decide (1 / 50 < if norm - 1 < 0 then -(norm - 1) else norm - 1) = true
  rw [if_pos hnegative, decide_eq_true_eq]
  have hfar : (1 / 50 : ℚ) < 1 - 1 / 10 ^ 12 := by norm_num
  linarith

/-- The head pose of a headset at rest. -/
theorem head_pose_exact :
    ((∀ error, parseHtsDatagram (δ := ℚ) identityHeadPose.payload = .error error →
          error.isSerialization = true) ∧
        ((∃ packets, parseHtsDatagram (δ := ℚ) identityHeadPose.payload = .ok packets) ↔
          ∃ packets : List (HtsPacket ℚ), DatagramDenotes identityHeadPose.payload packets) ∧
        ∀ packets : List (HtsPacket ℚ), parseHtsDatagram identityHeadPose.payload = .ok packets →
          DatagramDenotes identityHeadPose.payload packets) ↔
      ¬DatagramExceeds ℚ identityHeadPose.payload :=
  hts_parser_exact_iff smallNormsRejected_exact identityHeadPose.payload

/-- A sequence number of 4301 digits. -/
def longField : List Char := 'f' :: '=' :: (oneDigit.padded 4300).chars

/-- A head pose with it. -/
def longHeader : List Char := "Head pose".toList ++ '|' :: longField

/-- Its datagram, without numbers. -/
def longHeadPose : List UInt8 := (longHeader ++ [':']).map fun c => c.toNat.toUInt8

theorem longField_chars {c : Char} (h : c ∈ longField) : c = 'f' ∨ c = '=' ∨ c = '0' ∨ c = '1' := by
  rcases List.mem_cons.mp h with rfl | h
  · exact .inl rfl
  rcases List.mem_cons.mp h with rfl | h
  · exact .inr (.inl rfl)
  · exact .inr (.inr (mem_padded h))

theorem longField_stripped : strStrip longField = longField := by
  have hfield := @strip_append _ ControllerProvider.isSpace [] longField [] nofun nofun
    fun c hc => by rcases longField_chars hc with rfl | rfl | rfl | rfl <;> decide
  rwa [List.append_nil] at hfield

theorem longField_overlong : OverlongField longField := by
  refine ⟨['f'], (oneDigit.padded 4300).chars, ?_, (length_padded 4300).ge⟩
  rw [longField_stripped]
  refine ⟨[], [], rfl, ⟨nofun, ?_⟩, nofun, ?_, (oneDigit.padded 4300).isDigit⟩
  · exact List.forall_mem_singleton.mpr (by decide)
  · exact List.append_ne_nil_of_right_ne_nil _ (by decide)

theorem headerExceeds_of_field {field : List Char} (h : OverlongField field) (hbar : '|' ∉ field) :
    HeaderExceeds ("Head pose".toList ++ '|' :: field) := by
  refine ⟨"Head pose".toList, [field], ⟨by simp [List.intercalate], ?_⟩, ⟨.headPose, by decide⟩,
    [], field, [], rfl, ?_, h⟩
  · exact List.forall_mem_cons.mpr ⟨by decide, List.forall_mem_singleton.mpr hbar⟩
  · exact ⟨⟨.headPose, none, none, []⟩, [], .nil, rfl, rfl, fun _ => rfl⟩

theorem datagramExceeds_of_line {header : List Char} (h : HeaderExceeds header)
    (hchars : ∀ c ∈ header ++ [':'], c.toNat < 0x80 ∧ isLineBreak c = false)
    (hhead : ∀ c ∈ (header ++ [':']).head?, ControllerProvider.isSpace c = false)
    (hcolon : ':' ∉ header) (hctrl : "CTRL,".toList.isPrefixOf (header ++ [':']) = false)
    (hlength : (header ++ [':']).length ≤ htsMaxDatagramBytes) :
    DatagramExceeds ℚ ((header ++ [':']).map fun c => c.toNat.toUInt8) := by
  have hne : header ++ [':'] ≠ [] := List.append_ne_nil_of_right_ne_nil _ (by decide)
  have hlines : strLines (header ++ [':']) = [header ++ [':']] :=
    strLines_of_no_break hne fun c hc => (hchars c hc).2
  have hstripped : strStrip (header ++ [':']) = header ++ [':'] := by
    refine strip_of_ends hhead fun c hc => ?_
    rw [List.reverse_append] at hc
    obtain rfl := Option.some.inj hc
    decide
  refine ⟨header ++ [':'], ⟨fun hnil => hne (List.map_eq_nil_iff.mp hnil), by rwa [List.length_map],
    decodeUtf8_ascii fun c hc => (hchars c hc).1, header ++ [':'], ?_, ?_⟩,
    [], header ++ [':'], [], ?_, nofun, header, [], rfl, hcolon, h⟩
  · rw [hlines]
    exact List.mem_singleton_self _
  · rwa [hstripped]
  · unfold handHeadLines
    rw [hlines, List.map_cons, hstripped, List.map_nil, List.filter_cons_of_pos]
    · rfl
    · rw [hctrl, Bool.not_false, Bool.and_true]
      simp

theorem longHeadPose_exceeds : DatagramExceeds ℚ longHeadPose := by
  have hchars : ∀ c ∈ longHeader, c ∈ "Head pose|f=01".toList := by
    unfold longHeader
    refine List.forall_mem_append.mpr ⟨by simp, List.forall_mem_cons.mpr ⟨by decide, ?_⟩⟩
    intro c hc
    rcases longField_chars hc with rfl | rfl | rfl | rfl <;> decide
  have hplain : ∀ c ∈ "Head pose|f=01".toList,
      (c.toNat < 0x80 ∧ isLineBreak c = false) ∧ c ≠ ':' := by simp [isLineBreak]
  refine datagramExceeds_of_line
    (headerExceeds_of_field longField_overlong fun hbar => ?_) ?_ ?_ ?_ ?_ ?_
  · rcases longField_chars hbar with h | h | h | h <;> cases h
  · exact List.forall_mem_append.mpr ⟨fun c hc => (hplain c (hchars c hc)).1,
      List.forall_mem_singleton.mpr (by decide)⟩
  · intro c hc
    obtain rfl := Option.some.inj hc
    decide
  · exact fun hmem => (hplain ':' (hchars ':' hmem)).2 rfl
  · rfl
  · have hfield : longField.length = 4303 := by
      rw [longField, List.length_cons, List.length_cons, length_padded]
    unfold longHeader
    rw [List.length_append, List.length_append, List.length_cons, hfield]
    decide

/-- **4301 digits**: the parser raises the error of `int`, which is no `SerializationError`. -/
theorem long_sequence_raises :
    ¬((∀ error, parseHtsDatagram (δ := ℚ) longHeadPose = .error error →
          error.isSerialization = true) ∧
        ((∃ packets, parseHtsDatagram (δ := ℚ) longHeadPose = .ok packets) ↔
          ∃ packets : List (HtsPacket ℚ), DatagramDenotes longHeadPose packets) ∧
        ∀ packets : List (HtsPacket ℚ), parseHtsDatagram longHeadPose = .ok packets →
          DatagramDenotes longHeadPose packets) := by
  rintro ⟨htotal, -⟩
  have hspec := parseHtsDatagram_spec smallNormsRejected_exact longHeadPose
  generalize parseHtsDatagram (δ := ℚ) longHeadPose = answer at hspec htotal
  cases hspec with
  | exceeded h => exact absurd (htotal _ rfl) nofun
  | denoted packets h hshort => exact hshort longHeadPose_exceeds
  | refused error herror hnone hshort => exact hshort longHeadPose_exceeds

end HandLab.Quest
