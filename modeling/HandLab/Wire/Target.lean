import HandLab.Lib.LittleEndian

/-!
# The target packet

The packet that the Python producer sends to the native workers, as each side
defines it.

* `encodeTarget` and `decodeTarget` of `src/teleoperation/wire.py` (lines
  15–102), with `zlib.crc32` as a parameter.
* the packed `TargetPacket` and the two loops `Crc32` and `crc32` of
  `native/research_thin_jaka_worker/main.cpp` (lines 73–126) and
  `native/jaka_servo_worker/main.cpp` (lines 78–134), whose declarations of the
  packet are the same.

A `double` is its 64-bit pattern here.
-/

namespace HandLab.Wire

open HandLab.Lib

abbrev Byte := BitVec 8

/-! ## The producer -/

/-- `TARGET_MAGIC`. -/
def targetMagic : ℕ := 0x4A544754

/-- `WIRE_VERSION`. -/
def wireVersion : ℕ := 1

/-- The format characters of `struct` that the packet uses. -/
inductive FormatCode
  | unsignedInt | unsignedShort | unsignedLongLong | double
  deriving DecidableEq, Repr

/-- The standard size of a format character. -/
def FormatCode.size : FormatCode → ℕ
  | unsignedInt => 4
  | unsignedShort => 2
  | unsignedLongLong => 8
  | double => 8

/-- `_TARGET_WITHOUT_CRC`, the format `<IHHIIQQQQQ8d`. -/
def targetWithoutCrc : List FormatCode :=
  [.unsignedInt, .unsignedShort, .unsignedShort, .unsignedInt, .unsignedInt,
    .unsignedLongLong, .unsignedLongLong, .unsignedLongLong, .unsignedLongLong, .unsignedLongLong,
    .double, .double, .double, .double, .double, .double, .double, .double]

/-- `TARGET_STRUCT`, the format `<IHHIIQQQQQ8dI`. -/
def targetStruct : List FormatCode := targetWithoutCrc ++ [.unsignedInt]

/-- The sizes of a format, which has no padding after `<`. -/
def sizes (format : List FormatCode) : List ℕ := format.map FormatCode.size

/-- `TargetKind`. -/
inductive TargetKind
  | heartbeat | holdCurrent | jointPosition | cartesianPose | stop
  deriving DecidableEq, Repr

def TargetKind.value : TargetKind → ℕ
  | heartbeat => 0
  | holdCurrent => 1
  | jointPosition => 2
  | cartesianPose => 3
  | stop => 4

/-- `TargetKind(value)`, which raises `ValueError` for other values. -/
def TargetKind.ofValue? : ℕ → Option TargetKind
  | 0 => some heartbeat
  | 1 => some holdCurrent
  | 2 => some jointPosition
  | 3 => some cartesianPose
  | 4 => some stop
  | _ => none

/-- `FrameId`. -/
inductive FrameId
  | none | robotBase | startupTcpRelative
  deriving DecidableEq, Repr

def FrameId.value : FrameId → ℕ
  | none => 0
  | robotBase => 1
  | startupTcpRelative => 2

/-- `FrameId(value)`, which raises `ValueError` for other values. -/
def FrameId.ofValue? : ℕ → Option FrameId
  | 0 => some FrameId.none
  | 1 => some robotBase
  | 2 => some startupTcpRelative
  | _ => Option.none

/-- `TargetPacket` of the producer; `flags` is the value of a `TargetFlags`, an
    `IntFlag` that keeps every bit. -/
structure TargetPacket where
  kind : TargetKind
  flags : ℤ
  frameId : FrameId
  sequence : ℤ
  sourceCaptureNs : ℤ
  localReceiveNs : ℤ
  processingNs : ℤ
  dispatchNs : ℤ
  payload : Fin 8 → BitVec 64
  deriving DecidableEq

/-- What the producer raises. -/
inductive WireError
  /-- `struct.error` of `pack` -/
  | outOfRange
  /-- `ValueError("target packet must be 124 bytes")` -/
  | length
  /-- `ValueError("invalid target magic or version")` -/
  | header
  /-- `ValueError("target CRC mismatch")` -/
  | checksum
  /-- `ValueError` of `TargetKind` -/
  | kind
  /-- `ValueError` of `FrameId` -/
  | frame
  deriving DecidableEq, Repr

/-- The arguments of `_TARGET_WITHOUT_CRC.pack` (lines 85–89). -/
def TargetPacket.values (p : TargetPacket) : List ℤ :=
  ([↑targetMagic, ↑wireVersion, ↑p.kind.value, p.flags, ↑p.frameId.value, p.sequence,
    p.sourceCaptureNs, p.localReceiveNs, p.processingNs, p.dispatchNs] : List ℤ) ++
    List.ofFn fun i => ((p.payload i).toNat : ℤ)

/-- An integer is in the range of a format character. -/
def InRange (code : FormatCode) (value : ℤ) : Prop := 0 ≤ value ∧ value < 256 ^ code.size

instance (code : FormatCode) (value : ℤ) : Decidable (InRange code value) :=
  inferInstanceAs (Decidable (_ ∧ _))

/-- `Struct.pack`, which raises `struct.error` for an integer out of range. -/
def pack (format : List FormatCode) (values : List ℤ) : Except WireError (List Byte) :=
  if List.Forall₂ InRange format values then .ok (packed (sizes format) (values.map Int.toNat))
  else .error .outOfRange

section Crc

variable (crc32 : List Byte → BitVec 32)

/-- `body + struct.pack("<I", zlib.crc32(body))`. -/
def appendCrc (body : List Byte) : List Byte := body ++ leBytes 4 (crc32 body).toNat

/-- `encode_target` (lines 84–90). -/
def encodeTarget (p : TargetPacket) : Except WireError (List Byte) :=
  (pack targetWithoutCrc p.values).map (appendCrc crc32)

/-- `zlib.crc32(data[:-4]) & 0xFFFFFFFF == values[-1]`. -/
def ChecksumMatches (data : List Byte) : Prop :=
  (crc32 (data.take (data.length - 4))).toNat = (unpacked (sizes targetStruct) data).getD 18 0

instance (data : List Byte) : Decidable (ChecksumMatches crc32 data) :=
  inferInstanceAs (Decidable (_ = _))

/-- `decode_target` (lines 93–102). -/
def decodeTarget (data : List Byte) : Except WireError TargetPacket :=
  if data.length ≠ (sizes targetStruct).sum then .error .length
  else
    let values := unpacked (sizes targetStruct) data
    if values.getD 0 0 ≠ targetMagic ∨ values.getD 1 0 ≠ wireVersion then .error .header
    else if ¬ChecksumMatches crc32 data then .error .checksum
    else
      match TargetKind.ofValue? (values.getD 2 0), FrameId.ofValue? (values.getD 4 0) with
      | none, _ => .error .kind
      | some _, none => .error .frame
      | some kind, some frameId => .ok
        { kind
          flags := values.getD 3 0
          frameId
          sequence := values.getD 5 0
          sourceCaptureNs := values.getD 6 0
          localReceiveNs := values.getD 7 0
          processingNs := values.getD 8 0
          dispatchNs := values.getD 9 0
          payload := fun i => BitVec.ofNat 64 (values.getD (10 + i) 0) }

end Crc

/-! ## The workers -/

/-- A member of a packed structure on a little-endian machine. -/
def member (data : List Byte) (offset size : ℕ) : BitVec (8 * size) :=
  BitVec.ofNat _ (leNat ((data.drop offset).take size))

/-- `TargetPacket` of the workers. -/
structure NativeTargetPacket where
  magic : BitVec 32
  version : BitVec 16
  kind : BitVec 16
  flags : BitVec 32
  frameId : BitVec 32
  sequence : BitVec 64
  sourceCaptureNs : BitVec 64
  localReceiveNs : BitVec 64
  processingNs : BitVec 64
  dispatchNs : BitVec 64
  payload : Fin 8 → BitVec 64
  crc32 : BitVec 32
  deriving DecidableEq

/-- `recv` into a `TargetPacket` that is declared under `#pragma pack(push, 1)`:
    a member starts where the one before it ends. -/
def NativeTargetPacket.read (data : List Byte) : NativeTargetPacket where
  magic := member data 0 4
  version := member data 4 2
  kind := member data 6 2
  flags := member data 8 4
  frameId := member data 12 4
  sequence := member data 16 8
  sourceCaptureNs := member data 24 8
  localReceiveNs := member data 32 8
  processingNs := member data 40 8
  dispatchNs := member data 48 8
  payload := fun i => member data (56 + 8 * i) 8
  crc32 := member data 120 4

/-- The members in the order of their declaration. -/
def NativeTargetPacket.values (p : NativeTargetPacket) : List ℕ :=
  [p.magic.toNat, p.version.toNat, p.kind.toNat, p.flags.toNat, p.frameId.toNat,
    p.sequence.toNat, p.sourceCaptureNs.toNat, p.localReceiveNs.toNat, p.processingNs.toNat,
    p.dispatchNs.toNat] ++ (List.ofFn fun i => (p.payload i).toNat) ++ [p.crc32.toNat]

/-- `(crc >> 1) ^ (0xEDB88320 & (0 - (crc & 1)))`. -/
def crcBit (crc : BitVec 32) : BitVec 32 :=
  (crc >>> 1) ^^^ (0xEDB88320#32 &&& (0#32 - (crc &&& 1#32)))

/-- The loop over the bytes and their bits. -/
def crcLoop (data : List Byte) : BitVec 32 :=
  ~~~data.foldl (fun crc byte => crcBit^[8] (crc ^^^ byte.setWidth 32)) 0xFFFFFFFF#32

/-- `Crc32` of the thin worker (lines 116–126). -/
def thinCrc32 (data : List Byte) : BitVec 32 := crcLoop data

/-- `crc32` of the servo worker (lines 126–134). -/
def servoCrc32 (data : List Byte) : BitVec 32 := crcLoop data

/-- `Crc32(&packet, sizeof(packet) - sizeof(packet.crc32)) == packet.crc32` on the bytes of
    the packet (line 353 of the thin worker). -/
def ThinChecksumMatches (data : List Byte) : Prop :=
  thinCrc32 (data.take (data.length - 4)) = (NativeTargetPacket.read data).crc32

instance (data : List Byte) : Decidable (ThinChecksumMatches data) :=
  inferInstanceAs (Decidable (_ = _))

/-- The same check of the servo worker (line 1848). -/
def ServoChecksumMatches (data : List Byte) : Prop :=
  servoCrc32 (data.take (data.length - 4)) = (NativeTargetPacket.read data).crc32

instance (data : List Byte) : Decidable (ServoChecksumMatches data) :=
  inferInstanceAs (Decidable (_ = _))

end HandLab.Wire
