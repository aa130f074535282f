import HandLab.Lib.Double
import HandLab.Quest.Provider

/-!
# The HTS v1.1 text protocol

`parse_hts_datagram` and `parse_hts_line`
(`src/motion_input/hts_protocol.py`, lines 91–260), and the checks of
`HtsCanonicalAssembler.ingest` on what they return
(`src/motion_input/hts_canonical.py`, lines 178–231 and 284–311).

A datagram is a list of bytes. Its text is what strict UTF-8 decoding gives, and
a line of it ends where `str.splitlines` says. `float`, `math.sqrt` and `sum` are
operations of `HtsFloat`.

* `parseHtsDatagram_lines`: the packets of a datagram are the parses of its lines.
-/

namespace HandLab.Quest

open HandLab.Lib Double

/-! ## Bytes and text -/

/-- The bytes of an ASCII literal. -/
def ascii (s : String) : List UInt8 := s.toList.map fun c => c.toNat.toUInt8

/-- A literal is its characters: rewritten so, it is evaluated at once. -/
theorem ascii_ofList (chars : List Char) :
    ascii (String.ofList chars) = chars.map fun c => c.toNat.toUInt8 := by
  rw [ascii, String.toList_ofList]

theorem ascii_append (s t : String) : ascii (s ++ t) = ascii s ++ ascii t := by
  rw [ascii, String.toList_append, List.map_append]
  rfl

/-- `bytes.decode("utf-8", errors="strict")`: `owed` continuation bytes still to
    come, the next of them from `low` to `high`, after the bits `acc`. -/
def decodeFrom : ℕ → ℕ → ℕ → ℕ → List UInt8 → Option (List Char)
  | 0, _, _, _, [] => some []
  | _ + 1, _, _, _, [] => none
  | 0, _, _, _, b :: rest =>
    if b.toNat ≤ 0x7F then (Char.ofNat b.toNat :: ·) <$> decodeFrom 0 0 0 0 rest
    else if 0xC2 ≤ b.toNat ∧ b.toNat ≤ 0xDF then
      decodeFrom 1 0x80 0xBF (b.toNat - 0xC0) rest
    else if 0xE0 ≤ b.toNat ∧ b.toNat ≤ 0xEF then
      -- no overlong form after `E0`, no surrogate after `ED`
      decodeFrom 2 (if b.toNat = 0xE0 then 0xA0 else 0x80) (if b.toNat = 0xED then 0x9F else 0xBF)
        (b.toNat - 0xE0) rest
    else if 0xF0 ≤ b.toNat ∧ b.toNat ≤ 0xF4 then
      decodeFrom 3 (if b.toNat = 0xF0 then 0x90 else 0x80) (if b.toNat = 0xF4 then 0x8F else 0xBF)
        (b.toNat - 0xF0) rest
    else none
  | owed + 1, low, high, acc, b :: rest =>
    if low ≤ b.toNat ∧ b.toNat ≤ high then
      if owed = 0 then
        (Char.ofNat (acc * 64 + (b.toNat - 0x80)) :: ·) <$> decodeFrom 0 0 0 0 rest
      else decodeFrom owed 0x80 0xBF (acc * 64 + (b.toNat - 0x80)) rest
    else none

/-- `payload.decode("utf-8", errors="strict")`. -/
def decodeUtf8 (payload : List UInt8) : Option (List Char) := decodeFrom 0 0 0 0 payload

section Lines

variable {β : Type*} (isBreak isReturn isFeed : β → Bool)

/-- `splitlines` of a string or of bytes, after the characters `line` of the
    present line; `returned` says that a carriage return has just ended one. -/
def splitLinesFrom : List β → Bool → List β → List (List β)
  | line, _, [] => if line.isEmpty then [] else [line.reverse]
  | line, returned, c :: rest =>
    if returned && isFeed c then splitLinesFrom line false rest
    else if isBreak c then line.reverse :: splitLinesFrom [] (isReturn c) rest
    else splitLinesFrom (c :: line) false rest

/-- `strip()` with the white space of the type. -/
def strip (isBlank : β → Bool) (text : List β) : List β :=
  ((text.dropWhile isBlank).reverse.dropWhile isBlank).reverse

end Lines

/-- The line boundaries of `str.splitlines`. -/
def isLineBreak (c : Char) : Bool :=
  (10 ≤ c.toNat && c.toNat ≤ 13) || (28 ≤ c.toNat && c.toNat ≤ 30) || c.toNat == 133 ||
    c.toNat == 8232 || c.toNat == 8233

/-- `str.splitlines`. -/
def strLines (text : List Char) : List (List Char) :=
  splitLinesFrom isLineBreak (· == '\r') (· == '\n') [] false text

/-- `str.strip`. -/
def strStrip : List Char → List Char := strip ControllerProvider.isSpace

/-! ## Packets and errors -/

/-- `Side`, without `NONE`. -/
inductive HandSide
  | left
  | right
  deriving DecidableEq, Repr

/-- `HtsPacketKind` with the side that the label gives. -/
inductive HtsKind
  | wrist (side : HandSide)
  | landmarks (side : HandSide)
  | headPose
  deriving DecidableEq, Repr

/-- `HtsHeader`; numbers read from digits are not negative. -/
structure HtsHeader where
  kind : HtsKind
  sourceSequence : Option ℕ
  sourceTimestampNs : Option ℕ
  extraFields : List (List Char × ℕ)
  deriving DecidableEq, Repr

/-- What the parser and the assembler raise. -/
inductive HtsError
  /-- `SerializationError("HTS datagram is empty")` -/
  | emptyDatagram
  /-- `SerializationError("HTS datagram exceeds … byte limit (got …)")` -/
  | tooLong (bytes : ℕ)
  /-- `SerializationError("HTS datagram is not valid UTF-8: …")` -/
  | notUtf8
  /-- `SerializationError("HTS datagram contains no non-empty lines")` -/
  | noLines
  /-- `SerializationError("HTS line is empty")` -/
  | emptyLine
  /-- `SerializationError("HTS line is missing ':' separator")` -/
  | noSeparator
  /-- `SerializationError("HTS label is empty")` -/
  | emptyLabel
  /-- `SerializationError("unsupported HTS label …")` -/
  | unsupportedLabel (label : List Char)
  /-- `SerializationError("malformed HTS debug header field …")` -/
  | malformedField (item : List Char)
  /-- `SerializationError("duplicate HTS source sequence field")` -/
  | duplicateSequence
  /-- `SerializationError("duplicate HTS source timestamp field")` -/
  | duplicateTimestamp
  /-- `SerializationError("HTS CSV payload contains an empty value")` -/
  | emptyValue
  /-- `SerializationError("HTS CSV payload contains a non-float value")` -/
  | notFloat
  /-- `SerializationError("HTS CSV payload contains NaN or infinity")` -/
  | notFinite
  /-- `SerializationError("HTS … packet requires exactly … floats, got …")` -/
  | wrongCount (kind : HtsKind) (got : ℕ)
  /-- `SerializationError("HTS quaternion norm outside accepted rounded-source tolerance …")` -/
  | quaternionNorm
  /-- `SerializationError("host monotonic timestamp must be non-negative")` -/
  | negativeReceive
  /-- `SerializationError("duplicate HTS head lines in one datagram")` -/
  | duplicateHead
  /-- `SerializationError("HTS head and hand lines must use separate datagrams")` -/
  | headWithHand
  /-- `SerializationError("HTS left and right hands must use separate datagrams")` -/
  | bothHands
  /-- `SerializationError("HTS … datagram requires one wrist and one landmarks line")` -/
  | incompleteHand (side : HandSide)
  /-- `SerializationError("HTS … wrist/landmark debug metadata does not pair")` -/
  | unpairedMetadata (side : HandSide)
  /-- the plain `ValueError` of `int` on more than 4300 digits -/
  | digitLimit
  deriving DecidableEq, Repr

/-- The exception is a `SerializationError`. -/
def HtsError.isSerialization : HtsError → Bool
  | .digitLimit => false
  | _ => true

/-- `CMath` with the conversions of the parser. -/
class HtsFloat (δ : Type*) extends CMath δ where
  /-- `float(text)`, `none` where it raises `ValueError` -/
  ofText : List Char → Option δ
  /-- the built-in `sum` of floats -/
  sum : List δ → δ

variable {δ : Type*}

/-- `HtsWristPacket`, `HtsLandmarksPacket` and `HtsHeadPosePacket`: the header,
    the numbers of the line, and the norm of its quaternion where it has one. -/
structure HtsPacket (δ : Type*) where
  header : HtsHeader
  values : List δ
  quaternionNorm : Option δ
  deriving DecidableEq

/-! ## One line -/

/-- A character of `[A-Za-z_]`. -/
def isKeyChar (c : Char) : Bool := c.isAlpha || c == '_'

/-- `_DEBUG_FIELD.fullmatch(item)`, and its two groups. -/
def debugField? (item : List Char) : Option (List Char × List Char) :=
  let key := item.takeWhile isKeyChar
  match (item.dropWhile isKeyChar).dropWhile ControllerProvider.isSpace with
  | '=' :: rest =>
    let digits := rest.dropWhile ControllerProvider.isSpace
    if key.isEmpty || digits.isEmpty || !digits.all Char.isDigit then none
    else some (key, digits)
  | _ => none

/-- `int(digits)`. -/
def intOfDigits (digits : List Char) : Except HtsError ℕ :=
  if 4300 < digits.length then .error .digitLimit
  else .ok (digits.foldl (fun n c => n * 10 + (c.toNat - 48)) 0)

/-- One turn of the loop of `_parse_header`. -/
def HtsHeader.readField (header : HtsHeader) (item : List Char) : Except HtsError HtsHeader :=
  match debugField? item with
  | none => .error (.malformedField item)
  | some (group, digits) => do
    let number ← intOfDigits digits
    let key := group.map Char.toLower
    if key ∈ ["f".toList, "frame".toList, "frame_id".toList] then
      if header.sourceSequence.isSome then .error .duplicateSequence
      else .ok { header with sourceSequence := some number }
    else if key ∈ ["t".toList, "ts".toList, "timestamp".toList] then
      if header.sourceTimestampNs.isSome then .error .duplicateTimestamp
      else .ok { header with sourceTimestampNs := some number }
    else
      .ok { header with
        extraFields := (header.extraFields.filter fun field => field.1 != key) ++ [(key, number)] }

def kindOfLabel? (label : List Char) : Option HtsKind :=
  if label = "Left wrist".toList then some (.wrist .left)
  else if label = "Right wrist".toList then some (.wrist .right)
  else if label = "Left landmarks".toList then some (.landmarks .left)
  else if label = "Right landmarks".toList then some (.landmarks .right)
  else if label = "Head pose".toList then some .headPose
  else none

/-- `_parse_header`. -/
def parseHeader (value : List Char) : Except HtsError HtsHeader :=
  match (value.splitOn '|').map strStrip with
  | [] => .error .emptyLabel
  | label :: fields =>
    if label.isEmpty then .error .emptyLabel
    else
      match kindOfLabel? label with
      | none => .error (.unsupportedLabel label)
      | some kind => fields.foldlM HtsHeader.readField ⟨kind, none, none, []⟩

section Values

variable [HtsFloat δ]

/-- The chunks without the empty cells at both ends. -/
def trimCells (chunks : List (List Char)) : List (List Char) :=
  ((chunks.dropWhile List.isEmpty).reverse.dropWhile List.isEmpty).reverse

/-- `_parse_finite_floats`. -/
def parseFiniteFloats (payload : List Char) : Except HtsError (List δ) :=
  let chunks := trimCells ((payload.splitOn ',').map strStrip)
  if chunks.isEmpty || chunks.any List.isEmpty then .error .emptyValue
  else
    match chunks.mapM (HtsFloat.ofText (δ := δ)) with
    | none => .error .notFloat
    | some values => if values.all isFinite then .ok values else .error .notFinite

/-- `HTS_LANDMARK_COUNT`. -/
def htsLandmarkCount : ℕ := 21

/-- `quaternion_norm` of finite values. -/
def quaternionNorm (quaternion : List δ) : δ :=
  CMath.sqrt (HtsFloat.sum (quaternion.map fun value => mul value value))

/-- The norm test of `parse_hts_line`. -/
def normRejected (norm : δ) : Bool :=
  le norm (ofRat (1 / 10 ^ 12)) || lt (ofRat (1 / 50)) (abs (sub norm (ofRat 1)))

/-- The test of a wrist or head line. -/
def parsePose (header : HtsHeader) (values : List δ) : Except HtsError (HtsPacket δ) :=
  if values.length ≠ 7 then .error (.wrongCount header.kind values.length)
  else if normRejected (quaternionNorm (values.drop 3)) then .error .quaternionNorm
  else .ok ⟨header, values, some (quaternionNorm (values.drop 3))⟩

/-- The test of a landmarks line. -/
def parseLandmarks (header : HtsHeader) (values : List δ) : Except HtsError (HtsPacket δ) :=
  if values.length ≠ htsLandmarkCount * 3 then .error (.wrongCount header.kind values.length)
  else .ok ⟨header, values, none⟩

/-- The rest of `parse_hts_line` by the kind of the header. -/
def parseValues (header : HtsHeader) (values : List δ) : Except HtsError (HtsPacket δ) :=
  match header.kind with
  | .wrist _ => parsePose header values
  | .headPose => parsePose header values
  | .landmarks _ => parseLandmarks header values

/-- `parse_hts_line`. -/
def parseHtsLine (line : List Char) : Except HtsError (HtsPacket δ) :=
  if (strStrip line).isEmpty then .error .emptyLine
  else
    match (strStrip line).dropWhile (· != ':') with
    | [] => .error .noSeparator
    | _ :: payload =>
      match parseHeader ((strStrip line).takeWhile (· != ':')) with
      | .error error => .error error
      | .ok header =>
        match parseFiniteFloats payload with
        | .error error => .error error
        | .ok values => parseValues header values

/-- `HTS_MAX_DATAGRAM_BYTES`. -/
def htsMaxDatagramBytes : ℕ := 65535

/-- `parse_hts_datagram`. -/
def parseHtsDatagram (payload : List UInt8) : Except HtsError (List (HtsPacket δ)) :=
  if payload.isEmpty then .error .emptyDatagram
  else if htsMaxDatagramBytes < payload.length then .error (.tooLong payload.length)
  else
    match decodeUtf8 payload with
    | none => .error .notUtf8
    | some text =>
      let lines := ((strLines text).map strStrip).filter fun line => !line.isEmpty
      if lines.isEmpty then .error .noLines
      else
        (lines.filter fun line => !"CTRL,".toList.isPrefixOf line).mapM parseHtsLine

/-! ## The lines of a datagram -/

/-- The lines of a hand or head datagram: stripped, without the empty ones and the `CTRL`
    lines. -/
def handHeadLines (text : List Char) : List (List Char) :=
  ((strLines text).map strStrip).filter fun line =>
    !line.isEmpty && !"CTRL,".toList.isPrefixOf line

omit [HtsFloat δ] in
/-- A datagram that passes the checks of a parser has a text. -/
theorem ok_of_text {ε β : Type*} {payload : List UInt8} {empty tooLong notUtf8 : ε}
    {parse : List Char → Except ε β} {result : β}
    (h : (if payload.isEmpty then .error empty
      else if htsMaxDatagramBytes < payload.length then .error tooLong
      else match decodeUtf8 payload with
        | none => .error notUtf8
        | some text => parse text) = Except.ok result) :
    ∃ text, decodeUtf8 payload = some text ∧ parse text = .ok result := by
  split at h
  · cases h
  split at h
  · cases h
  split at h
  · cases h
  · exact ⟨_, ‹_›, h⟩

omit [HtsFloat δ] in
theorem forall₂_of_mapM {ε : Type*} {f : ε → Except HtsError (HtsPacket δ)} {items : List ε}
    {packets : List (HtsPacket δ)} (h : items.mapM f = .ok packets) :
    List.Forall₂ (fun item packet => f item = .ok packet) items packets := by
  induction items generalizing packets with
  | nil =>
    obtain rfl := Except.ok.inj h
    exact .nil
  | cons item rest ih =>
    rw [List.mapM_cons] at h
    cases hfirst : f item with
    | error error =>
      rw [hfirst] at h
      exact absurd h nofun
    | ok first =>
      rw [hfirst] at h
      cases hrest : rest.mapM f with
      | error error =>
        rw [hrest] at h
        exact absurd h nofun
      | ok others =>
        rw [hrest] at h
        obtain rfl := Except.ok.inj h
        exact .cons hfirst (ih hrest)

/-- What the hand and head parser returns. -/
theorem parseHtsDatagram_lines {payload : List UInt8} {packets : List (HtsPacket δ)}
    (h : parseHtsDatagram payload = .ok packets) :
    ∃ text, decodeUtf8 payload = some text ∧
      List.Forall₂ (fun line packet => parseHtsLine line = .ok packet) (handHeadLines text)
        packets := by
  obtain ⟨text, htext, h⟩ := ok_of_text h
  dsimp only at h
  by_cases hlines : (((strLines text).map strStrip).filter fun line => !line.isEmpty).isEmpty = true
  · rw [if_pos hlines] at h
    exact absurd h nofun
  rw [if_neg hlines, List.filter_filter] at h
  have hfilter : ((strLines text).map strStrip).filter (fun line =>
      !"CTRL,".toList.isPrefixOf line && !line.isEmpty) = handHeadLines text :=
    List.filter_congr fun line _ => Bool.and_comm ..
  rw [hfilter] at h
  exact ⟨text, htext, forall₂_of_mapM h⟩

end Values

/-! ## `HtsCanonicalAssembler.ingest` -/

namespace HtsPacket

/-- The side of a hand packet. -/
def side? (packet : HtsPacket δ) : Option HandSide :=
  match packet.header.kind with
  | .wrist side => some side
  | .landmarks side => some side
  | .headPose => none

/-- `isinstance(packet, HtsWristPacket)`. -/
def isWrist (packet : HtsPacket δ) : Bool :=
  match packet.header.kind with
  | .wrist _ => true
  | .landmarks _ => false
  | .headPose => false

/-- `isinstance(packet, HtsLandmarksPacket)`. -/
def isLandmarks (packet : HtsPacket δ) : Bool :=
  match packet.header.kind with
  | .landmarks _ => true
  | .wrist _ => false
  | .headPose => false

end HtsPacket

/-- `_validate_hand_observation_set`. -/
def validateHandObservationSet (side : HandSide) (packets : List (HtsPacket δ)) :
    Except HtsError Unit :=
  let sequences := (packets.filterMap fun packet => packet.header.sourceSequence).dedup
  let timestamps := (packets.filterMap fun packet => packet.header.sourceTimestampNs).dedup
  if (packets.filter HtsPacket.isWrist).length ≠ 1 ∨
      (packets.filter HtsPacket.isLandmarks).length ≠ 1 then
    .error (.incompleteHand side)
  else if 1 < sequences.length ∨ 1 < timestamps.length then .error (.unpairedMetadata side)
  else .ok ()

/-- The checks of `ingest` before the state is assembled. `state` itself
    normalises quaternions that have passed the norm test of the parser. -/
def checkObservation (packets : List (HtsPacket δ)) (receiveMonotonicNs : ℤ) :
    Except HtsError Unit :=
  let heads := packets.filter fun packet => packet.side?.isNone
  let left := packets.filter fun packet => packet.side? == some .left
  let right := packets.filter fun packet => packet.side? == some .right
  if receiveMonotonicNs < 0 then .error .negativeReceive
  else if 1 < heads.length then .error .duplicateHead
  else if ¬heads.isEmpty ∧ (¬left.isEmpty ∨ ¬right.isEmpty) then .error .headWithHand
  else if ¬left.isEmpty ∧ ¬right.isEmpty then .error .bothHands
  else if ¬left.isEmpty then validateHandObservationSet .left left
  else if ¬right.isEmpty then validateHandObservationSet .right right
  else .ok ()

end HandLab.Quest
