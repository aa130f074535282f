import HandLab.Quest.HtsProtocol

/-!
# The `CTRL` protocol

`parse_controller_datagram` (`src/motion_input/controller_protocol.py`, lines 75–184).
`_parse_unit_float`, which gives a trigger of `[0, 1]` or raises, is a parameter.
-/

namespace HandLab.Quest

variable {α : Type*}

/-- What the parser raises. -/
inductive ControllerError
  /-- `ControllerPacketError("CTRL datagram is empty")` -/
  | emptyDatagram
  /-- `ControllerPacketError("CTRL datagram exceeds … byte limit (got …)")` -/
  | tooLong (bytes : ℕ)
  /-- `ControllerPacketError("CTRL datagram is not valid UTF-8: …")` -/
  | notUtf8
  /-- `ControllerPacketError("CTRL datagram must contain exactly one non-empty line")` -/
  | notOneLine
  /-- `ControllerPacketError("CTRL line contains an embedded line break")` -/
  | embeddedBreak
  /-- `ControllerPacketError("packet is not CTRL")` -/
  | notCtrl
  /-- `ControllerPacketError("CTRL v1 requires exactly nine ordered fields")` -/
  | fieldCount
  /-- `ControllerPacketError("malformed CTRL field …")` -/
  | malformedField (field : List Char)
  /-- `ControllerPacketError("duplicate CTRL field …")` -/
  | duplicateField (name : List Char)
  /-- `ControllerPacketError("unknown CTRL field …")` -/
  | unknownField (name : List Char)
  /-- `ControllerPacketError("CTRL field order mismatch: expected …, got …")` -/
  | fieldOrder (expected got : List Char)
  /-- `ControllerPacketError("unsupported CTRL version …")` -/
  | version (version : ℕ)
  /-- `ControllerPacketError("CTRL … must be an ASCII unsigned integer")` -/
  | notUnsigned (field : List Char)
  /-- `ControllerPacketError("CTRL … exceeds uint64 range")` -/
  | outsideUint64 (field : List Char)
  /-- `ControllerPacketError("CTRL … must be 0 or 1")` -/
  | notBool (field : List Char)
  /-- what `_parse_unit_float` raises -/
  | notUnitFloat (field : List Char)
  /-- the plain `ValueError` of `int` on more than 4300 digits -/
  | digitLimit
  deriving DecidableEq, Repr

/-- The exception is a `ControllerPacketError`. -/
def ControllerError.isPacketError : ControllerError → Bool
  | .digitLimit => false
  | _ => true

/-- `CTRL_FIELD_NAMES`. -/
def ctrlFieldNames : List (List Char) :=
  ["v", "session", "seq", "t_ns", "connected", "active", "tracked", "index", "grip"].map
    String.toList

/-- `UINT64_MAX`. -/
def uint64Max : ℕ := 2 ^ 64 - 1

/-- The fields, in their order (lines 120–137). -/
def readFields : List (List Char) → List (List Char) → List (List Char) →
    Except ControllerError (List (List Char))
  | seen, expected :: names, field :: fields =>
    let name := field.takeWhile (· != '=')
    let value := (field.dropWhile (· != '=')).tail
    if !field.contains '=' || name.isEmpty || value.isEmpty then .error (.malformedField field)
    else if seen.contains name then .error (.duplicateField name)
    else if name ≠ expected then
      if ctrlFieldNames.contains name then .error (.fieldOrder expected name)
      else .error (.unknownField name)
    else
      match readFields (name :: seen) names fields with
      | .error error => .error error
      | .ok values => .ok (value :: values)
  | _, _, _ => .ok []

/-- `_parse_uint` (lines 162–168). -/
def parseUint (raw : List Char) (field : String) : Except ControllerError ℕ :=
  if raw.isEmpty || !raw.all Char.isDigit then .error (.notUnsigned field.toList)
  else if 4300 < raw.length then .error .digitLimit
  else
    let value := raw.foldl (fun n c => n * 10 + (c.toNat - 48)) 0
    if uint64Max < value then .error (.outsideUint64 field.toList) else .ok value

/-- `_parse_bool` (lines 171–176). -/
def parseBool (raw : List Char) (field : String) : Except ControllerError Bool :=
  if raw = ['0'] then .ok false
  else if raw = ['1'] then .ok true
  else .error (.notBool field.toList)

section Parse

variable (unitFloat : List Char → Option α)

/-- `_parse_unit_float` (lines 179–187). -/
def parseUnitFloat (raw : List Char) (field : String) : Except ControllerError α :=
  match unitFloat raw with
  | none => .error (.notUnitFloat field.toList)
  | some value => .ok value

/-- `ControllerPacket(…)` of the values (lines 139–153). -/
def readPacket (values : List (List Char)) : Except ControllerError (ControllerPacket α) :=
  match values with
  | [v, session, seq, timeNs, connected, active, tracked, index, grip] =>
    match parseUint v "v" with
    | .error error => .error error
    | .ok version =>
      if version ≠ 1 then .error (.version version)
      else
        match parseUint session "session", parseUint seq "seq", parseUint timeNs "t_ns",
          parseBool connected "connected", parseBool active "active", parseBool tracked "tracked",
          parseUnitFloat unitFloat index "index", parseUnitFloat unitFloat grip "grip" with
        | .error error, _, _, _, _, _, _, _ => .error error
        | _, .error error, _, _, _, _, _, _ => .error error
        | _, _, .error error, _, _, _, _, _ => .error error
        | _, _, _, .error error, _, _, _, _ => .error error
        | _, _, _, _, .error error, _, _, _ => .error error
        | _, _, _, _, _, .error error, _, _ => .error error
        | _, _, _, _, _, _, .error error, _ => .error error
        | _, _, _, _, _, _, _, .error error => .error error
        | .ok sessionId, .ok sequenceNumber, .ok sourceTimestampNs, .ok connected, .ok active,
            .ok tracked, .ok indexTrigger, .ok gripTrigger =>
          .ok { version, sessionId, sequenceNumber, sourceTimestampNs, connected, active, tracked,
                indexTrigger, gripTrigger }
  | _ => .error .fieldCount

/-- `line.split(",")`. -/
def splitCommas (line : List Char) : List (List Char) := line.splitOn ','

/-- `parse_controller_line` (lines 104–153). -/
def parseControllerLine (line : List Char) : Except ControllerError (ControllerPacket α) :=
  if line.any fun c => c == '\n' || c == '\r' then .error .embeddedBreak
  else
    match splitCommas line with
    | prefixField :: fields =>
      if prefixField ≠ "CTRL".toList then .error .notCtrl
      else if fields.length ≠ ctrlFieldNames.length then .error .fieldCount
      else
        match readFields [] ctrlFieldNames fields with
        | .error error => .error error
        | .ok values => readPacket unitFloat values
    | [] => .error .notCtrl

/-- `parse_controller_datagram` (lines 75–101). One line that is not empty leaves no
    trailing content. -/
def parseControllerDatagram (payload : List UInt8) :
    Except ControllerError (ControllerPacket α) :=
  if payload.isEmpty then .error .emptyDatagram
  else if htsMaxDatagramBytes < payload.length then .error (.tooLong payload.length)
  else
    match decodeUtf8 payload with
    | none => .error .notUtf8
    | some text =>
      match (strLines text).filter fun line => !line.isEmpty with
      | [line] => parseControllerLine unitFloat line
      | _ => .error .notOneLine

end Parse

end HandLab.Quest
