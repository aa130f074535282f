import HandLab.Wire.Target

/-!
# Integrity of the target packet

* `target_wire`: what `encodeTarget` writes `decodeTarget` reads back, and it
  accepts nothing else; no burst of 32 bits passes its check; and the workers
  read the same values and make the same check.
-/

namespace HandLab.Wire

open HandLab.Lib

/-! ## Both checks -/

/-- `value` is the standard reflected CRC-32 of the bytes. -/
def IsCrc32 (data : List Byte) (value : BitVec 32) : Prop :=
  IsCrc 0xEDB88320#32 (byteBits data) value

theorem crcBit_eq (crc : BitVec 32) : crcBit crc = crcStep 0xEDB88320#32 crc := by
  have hmask : 0#32 - (crc &&& 1#32) = if crc.getLsbD 0 then BitVec.allOnes 32 else 0#32 := by
    rw [BitVec.and_one_eq_setWidth_ofBool_getLsbD]
    cases crc.getLsbD 0 <;> rfl
  rw [crcBit, crcStep, hmask]
  cases crc.getLsbD 0 <;> simp

/-- The loop of the workers computes the CRC-32. -/
theorem isCrc32_crcLoop (data : List Byte) : IsCrc32 data (crcLoop data) := by
  have hbit : crcBit = crcStep 0xEDB88320#32 := funext crcBit_eq
  have hloop : crcLoop data = ~~~crcRegister 0xEDB88320#32 (BitVec.allOnes 32) data := by
    rw [crcLoop, hbit]
    rfl
  rw [hloop]
  exact isCrc_register (by omega) data

/-! ## Packing -/

variable {data : List Byte} {format : List FormatCode}

theorem pack_ok_iff {values : List ℤ} :
    pack format values = .ok data ↔
      List.Forall₂ InRange format values ∧ data = packed (sizes format) (values.map Int.toNat) := by
  unfold pack
  split_ifs with h
  · exact ⟨fun heq => ⟨h, (Except.ok.inj heq).symm⟩, fun heq => by rw [heq.2]⟩
  · exact ⟨nofun, fun heq => absurd heq.1 h⟩

theorem fits_of_inRange {values : List ℤ}
    (h : List.Forall₂ InRange format values) : Fits (sizes format) (values.map Int.toNat) := by
  rw [Fits, sizes, List.forall₂_map_left_iff, List.forall₂_map_right_iff]
  refine h.imp fun code value hvalue => ?_
  have hlt : ((value.toNat : ℕ) : ℤ) < 256 ^ code.size := by
    rw [Int.toNat_of_nonneg hvalue.1]
    exact hvalue.2
  exact_mod_cast hlt

theorem nonneg_of_inRange {values : List ℤ}
    (h : List.Forall₂ InRange format values) : ∀ value ∈ values, 0 ≤ value := by
  induction h with
  | nil => exact nofun
  | cons hvalue _ ih => exact List.forall_mem_cons.mpr ⟨hvalue.1, ih⟩

/-- The integer fields fit their widths. -/
structure TargetPacket.Representable (p : TargetPacket) : Prop where
  flags : 0 ≤ p.flags ∧ p.flags < 2 ^ 32
  sequence : 0 ≤ p.sequence ∧ p.sequence < 2 ^ 64
  sourceCaptureNs : 0 ≤ p.sourceCaptureNs ∧ p.sourceCaptureNs < 2 ^ 64
  localReceiveNs : 0 ≤ p.localReceiveNs ∧ p.localReceiveNs < 2 ^ 64
  processingNs : 0 ≤ p.processingNs ∧ p.processingNs < 2 ^ 64
  dispatchNs : 0 ≤ p.dispatchNs ∧ p.dispatchNs < 2 ^ 64

variable {p : TargetPacket}

theorem TargetPacket.values_inRange (hp : p.Representable) :
    List.Forall₂ InRange targetWithoutCrc p.values := by
  have hkind : p.kind.value < 5 := by cases p.kind <;> decide
  have hframe : p.frameId.value < 3 := by cases p.frameId <;> decide
  have hpayload (i : Fin 8) : InRange .double ((p.payload i).toNat : ℤ) := by
    refine ⟨Int.natCast_nonneg _, ?_⟩
    have hlt := (p.payload i).isLt
    norm_num [FormatCode.size]
    omega
  obtain ⟨hflags, hsequence, hsource, hlocal, hprocessing, hdispatch⟩ := hp
  simp only [targetWithoutCrc, TargetPacket.values, List.cons_append, List.nil_append,
    List.ofFn_succ, List.ofFn_zero, List.forall₂_cons, List.forall₂_nil_left_iff, hpayload,
    and_true]
  norm_num [InRange, FormatCode.size, targetMagic, wireVersion]
  omega

/-! ## Round trips -/

variable {crc32 : List Byte → BitVec 32}

/-- An encoded packet is a body of 120 bytes and its checksum. -/
theorem encodeTarget_ok :
    encodeTarget crc32 p = .ok data ↔
      ∃ body, pack targetWithoutCrc p.values = .ok body ∧ data = appendCrc crc32 body := by
  unfold encodeTarget
  generalize pack targetWithoutCrc p.values = result
  cases result with
  | error error => exact ⟨nofun, by rintro ⟨body, h, -⟩; exact absurd h nofun⟩
  | ok body =>
    constructor
    · intro h
      exact ⟨body, rfl, (Except.ok.inj h).symm⟩
    · rintro ⟨_, h, rfl⟩
      rw [Except.ok.inj h]
      rfl

theorem length_body {body : List Byte}
    (h : pack targetWithoutCrc p.values = .ok body) : body.length = 120 := by
  obtain ⟨hrange, rfl⟩ := pack_ok_iff.mp h
  rw [length_packed (fits_of_inRange hrange)]
  rfl

theorem TargetKind.ofValue?_value (kind : TargetKind) : ofValue? kind.value = some kind := by
  cases kind <;> rfl

theorem FrameId.ofValue?_value (frameId : FrameId) : ofValue? frameId.value = some frameId := by
  cases frameId <;> rfl

theorem TargetKind.value_of_ofValue? {value : ℕ} {kind : TargetKind}
    (h : ofValue? value = some kind) : kind.value = value := by
  unfold ofValue? at h
  split at h <;> first | (obtain rfl := Option.some.inj h; rfl) | exact absurd h nofun

theorem FrameId.value_of_ofValue? {value : ℕ} {frameId : FrameId}
    (h : ofValue? value = some frameId) : frameId.value = value := by
  unfold ofValue? at h
  split at h <;> first | (obtain rfl := Option.some.inj h; rfl) | exact absurd h nofun

theorem length_appendCrc (body : List Byte) :
    (appendCrc crc32 body).length = body.length + 4 := by
  rw [appendCrc, List.length_append, length_leBytes]

/-- The values of a packet with its checksum. -/
theorem unpacked_encoded {body : List Byte}
    (h : pack targetWithoutCrc p.values = .ok body) :
    unpacked (sizes targetStruct) (appendCrc crc32 body) =
      p.values.map Int.toNat ++ [(crc32 body).toNat] := by
  obtain ⟨hrange, hbody⟩ := pack_ok_iff.mp h
  have hsizes : sizes targetStruct = sizes targetWithoutCrc ++ [4] := rfl
  have hsum : (sizes targetWithoutCrc).sum = body.length := (length_body h).symm
  have hlt : (crc32 body).toNat < 256 ^ 4 := by
    have hcrc := (crc32 body).isLt
    omega
  have hvalues : unpacked (sizes targetWithoutCrc) (appendCrc crc32 body) =
      p.values.map Int.toNat := by
    unfold appendCrc
    generalize leBytes 4 (crc32 body).toNat = rest
    obtain rfl := hbody
    exact unpacked_packed (fits_of_inRange hrange) rest
  have hcrc : unpacked [4] ((appendCrc crc32 body).drop body.length) = [(crc32 body).toNat] := by
    have htake : (leBytes 4 (crc32 body).toNat).take 4 = leBytes 4 (crc32 body).toNat :=
      List.take_of_length_le (length_leBytes _ _).le
    simp only [appendCrc, List.drop_left, unpacked, htake, leNat_leBytes hlt]
  simp only [hsizes, unpacked_append, hsum, hvalues, hcrc]

theorem decodeTarget_eq {values : List ℕ}
    (hlen : data.length = 124) (hvalues : unpacked (sizes targetStruct) data = values) :
    decodeTarget crc32 data =
      if values.getD 0 0 ≠ targetMagic ∨ values.getD 1 0 ≠ wireVersion then .error .header
      else if (crc32 (data.take 120)).toNat ≠ values.getD 18 0 then .error .checksum
      else
        match TargetKind.ofValue? (values.getD 2 0), FrameId.ofValue? (values.getD 4 0) with
        | none, _ => .error .kind
        | some _, none => .error .frame
        | some kind, some frameId => .ok
          ⟨kind, values.getD 3 0, frameId, values.getD 5 0, values.getD 6 0, values.getD 7 0,
            values.getD 8 0, values.getD 9 0,
            fun i => BitVec.ofNat 64 (values.getD (10 + i) 0)⟩ := by
  have hsum : (sizes targetStruct).sum = 124 := rfl
  unfold decodeTarget ChecksumMatches
  simp only [hsum, hlen, hvalues]
  rfl

theorem TargetPacket.map_values (p : TargetPacket) (crc : ℕ) :
    p.values.map Int.toNat ++ [crc] =
      [targetMagic, wireVersion, p.kind.value, p.flags.toNat, p.frameId.value, p.sequence.toNat,
        p.sourceCaptureNs.toNat, p.localReceiveNs.toNat, p.processingNs.toNat,
        p.dispatchNs.toNat, (p.payload 0).toNat, (p.payload 1).toNat, (p.payload 2).toNat,
        (p.payload 3).toNat, (p.payload 4).toNat, (p.payload 5).toNat, (p.payload 6).toNat,
        (p.payload 7).toNat, crc] := by
  simp [TargetPacket.values, List.ofFn_succ]

theorem decode_encode
    (h : encodeTarget crc32 p = .ok data) : decodeTarget crc32 data = .ok p := by
  obtain ⟨body, hpack, rfl⟩ := encodeTarget_ok.mp h
  obtain ⟨hrange, -⟩ := pack_ok_iff.mp hpack
  have hlen := length_body hpack
  have hbody : (appendCrc crc32 body).take 120 = body := by
    rw [appendCrc, ← hlen, List.take_left]
  have hnonneg := nonneg_of_inRange hrange
  have hflags : 0 ≤ p.flags := hnonneg _ (by simp [TargetPacket.values])
  have hsequence : 0 ≤ p.sequence := hnonneg _ (by simp [TargetPacket.values])
  have hsource : 0 ≤ p.sourceCaptureNs := hnonneg _ (by simp [TargetPacket.values])
  have hlocal : 0 ≤ p.localReceiveNs := hnonneg _ (by simp [TargetPacket.values])
  have hprocessing : 0 ≤ p.processingNs := hnonneg _ (by simp [TargetPacket.values])
  have hdispatch : 0 ≤ p.dispatchNs := hnonneg _ (by simp [TargetPacket.values])
  have hpayload : (fun i : Fin 8 => BitVec.ofNat 64
      ((p.values.map Int.toNat ++ [(crc32 body).toNat]).getD (10 + i) 0)) = p.payload := by
    funext i
    rw [p.map_values]
    fin_cases i <;> simp
  rw [decodeTarget_eq (by rw [length_appendCrc, hlen]) (unpacked_encoded hpack), hbody, hpayload,
    p.map_values]
  simp only [List.getD_cons_zero, List.getD_cons_succ, TargetKind.ofValue?_value,
    FrameId.ofValue?_value, Int.toNat_of_nonneg, hflags, hsequence, hsource, hlocal, hprocessing,
    hdispatch]
  rw [if_neg (by simp), if_neg (not_not.mpr rfl)]

/-- Numbers that were read in a format pack to the bytes they were read from. -/
theorem pack_unpacked
    (h : (sizes format).sum ≤ data.length) :
    pack format ((unpacked (sizes format) data).map fun n : ℕ => (n : ℤ)) =
      .ok (data.take (sizes format).sum) := by
  refine pack_ok_iff.mpr ⟨?_, ?_⟩
  · have hfits := fits_unpacked (sizes format) data
    rw [List.forall₂_map_right_iff]
    generalize unpacked (sizes format) data = values at hfits
    rw [Fits, sizes, List.forall₂_map_left_iff] at hfits
    exact hfits.imp fun code n hn => ⟨Int.natCast_nonneg n, by exact_mod_cast hn⟩
  · have hmap : ((unpacked (sizes format) data).map fun n : ℕ => (n : ℤ)).map Int.toNat =
        unpacked (sizes format) data := by
      simp [Function.comp_def]
    rw [hmap, packed_unpacked h]

theorem encode_decode
    (h : decodeTarget crc32 data = .ok p) : encodeTarget crc32 p = .ok data := by
  have hlen : data.length = 124 := by
    by_contra hne
    have hsum : (sizes targetStruct).sum = 124 := rfl
    rw [decodeTarget, if_pos (by rw [hsum]; exact hne)] at h
    exact absurd h (by simp)
  have hsum : (sizes targetWithoutCrc).sum = 120 := rfl
  have hpack : pack targetWithoutCrc
      ((unpacked (sizes targetWithoutCrc) data).map fun n : ℕ => (n : ℤ)) = .ok (data.take 120) :=
    pack_unpacked (by rw [hsum, hlen]; omega)
  have hfits := fits_unpacked (sizes targetWithoutCrc) data
  have hvalues : unpacked (sizes targetStruct) data = unpacked (sizes targetWithoutCrc) data ++
      [leNat (data.drop 120)] := by
    have hsizes : sizes targetStruct = sizes targetWithoutCrc ++ [4] := rfl
    have htake : (data.drop 120).take 4 = data.drop 120 :=
      List.take_of_length_le (by rw [List.length_drop, hlen])
    simp only [hsizes, unpacked_append, hsum, unpacked, htake]
  obtain ⟨magic, version, kind, flags, frame, sequence, source, receive, processing, dispatch,
      p0, p1, p2, p3, p4, p5, p6, p7, hunpacked⟩ : ∃ magic version kind flags frame sequence source
      receive processing dispatch p0 p1 p2 p3 p4 p5 p6 p7,
      unpacked (sizes targetWithoutCrc) data = [magic, version, kind, flags, frame, sequence,
        source, receive, processing, dispatch, p0, p1, p2, p3, p4, p5, p6, p7] :=
    ⟨_, _, _, _, _, _, _, _, _, _, _, _, _, _, _, _, _, _, rfl⟩
  rw [hunpacked] at hvalues hpack hfits
  rw [decodeTarget_eq hlen hvalues] at h
  simp only [List.cons_append, List.nil_append, List.getD_cons_zero, List.getD_cons_succ] at h
  split_ifs at h with hheader hchecksum
  rw [not_or, not_not, not_not] at hheader
  obtain ⟨rfl, rfl⟩ := hheader
  split at h
  · exact absurd h (by simp)
  · exact absurd h (by simp)
  rename_i kind' frame' hkind hframe
  have hkindvalue := TargetKind.value_of_ofValue? hkind
  have hframevalue := FrameId.value_of_ofValue? hframe
  obtain rfl := Except.ok.inj h
  -- the payload was read from eight bytes each
  simp only [Fits, sizes, targetWithoutCrc, List.map_cons, List.map_nil, FormatCode.size,
    List.forall₂_cons] at hfits
  obtain ⟨-, -, -, -, -, -, -, -, -, -, h0, h1, h2, h3, h4, h5, h6, h7, -⟩ := hfits
  norm_num at h0 h1 h2 h3 h4 h5 h6 h7
  refine encodeTarget_ok.mpr ⟨data.take 120, ?_, ?_⟩
  · refine Eq.trans (congrArg (pack targetWithoutCrc) ?_) hpack
    simp only [TargetPacket.values, hkindvalue, hframevalue, List.ofFn_succ, List.ofFn_zero,
      List.map_cons, List.map_nil, List.cons_append, List.nil_append]
    simp [Nat.mod_eq_of_lt, h0, h1, h2, h3, h4, h5, h6, h7]
  · have hcrc : (crc32 (data.take 120)).toNat = leNat (data.drop 120) := by
      simpa using hchecksum
    have hbytes := leBytes_leNat (data.drop 120)
    rw [List.length_drop, hlen] at hbytes
    rw [appendCrc, hcrc, hbytes, List.take_append_drop]

/-! ## Bursts -/

theorem byteBits_append (as bs : List Byte) : byteBits (as ++ bs) = byteBits as ++ byteBits bs :=
  List.flatMap_append

theorem byteBits_appendCrc (body : List Byte) :
    byteBits (appendCrc crc32 body) = byteBits body ++ natBits 32 (crc32 body).toNat := by
  rw [appendCrc, byteBits_append, byteBits_leBytes]

/-- Two encoded packets that differ in a burst of 32 bits are the same. -/
theorem encoded_burst (hcrc : ∀ data, IsCrc32 data (crc32 data)) {p p' : TargetPacket}
    {data data' : List Byte} (h : encodeTarget crc32 p = .ok data)
    (h' : encodeTarget crc32 p' = .ok data')
    (hburst : Burst 32 (byteBits data) (byteBits data')) : data = data' := by
  obtain ⟨body, hpack, rfl⟩ := encodeTarget_ok.mp h
  obtain ⟨body', hpack', rfl⟩ := encodeTarget_ok.mp h'
  have hmsb : (0xEDB88320#32).msb = true := by decide
  have hlen : (byteBits body).length = (byteBits body').length := by
    rw [length_byteBits, length_byteBits, length_body hpack, length_body hpack']
  rw [byteBits_appendCrc, byteBits_appendCrc] at hburst
  apply byteBits_injective
  rw [byteBits_appendCrc, byteBits_appendCrc]
  exact isCrc_burst hmsb (hcrc body) (hcrc body') hlen hburst

/-! ## The workers -/

theorem toNat_member (data : List Byte) (offset size : ℕ) :
    (member data offset size).toNat = leNat ((data.drop offset).take size) := by
  have hlt : leNat ((data.drop offset).take size) < 2 ^ (8 * size) := by
    refine (leNat_lt _).trans_le ?_
    rw [pow_mul]
    exact Nat.pow_le_pow_right (by omega) (List.length_take_le _ _)
  rw [member, BitVec.toNat_ofNat, Nat.mod_eq_of_lt hlt]

/-- The members are where the format puts the values. -/
theorem values_read (data : List Byte) :
    (NativeTargetPacket.read data).values = unpacked (sizes targetStruct) data := by
  simp only [NativeTargetPacket.values, NativeTargetPacket.read, toNat_member, List.ofFn_succ,
    List.ofFn_zero, sizes, targetStruct, targetWithoutCrc, List.map_cons, List.map_nil,
    List.cons_append, List.nil_append, FormatCode.size, unpacked, List.drop_drop]
  simp

/-- The loop over the same bytes gives the same answer as the producer's function. -/
theorem checksum_read (hcrc : ∀ data, IsCrc32 data (crc32 data)) (data : List Byte) :
    crcLoop (data.take (data.length - 4)) = (NativeTargetPacket.read data).crc32 ↔
      ChecksumMatches crc32 data := by
  have hloop : crcLoop (data.take (data.length - 4)) = crc32 (data.take (data.length - 4)) :=
    isCrc_unique (isCrc32_crcLoop _) (hcrc _)
  have hlast : (unpacked (sizes targetStruct) data).getD 18 0 =
      (NativeTargetPacket.read data).crc32.toNat := by
    rw [← values_read]
    simp [NativeTargetPacket.values, List.ofFn_succ]
  rw [ChecksumMatches, hlast, hloop]
  exact BitVec.toNat_inj.symm

/-- An accepted packet has the values of the worker's structure. -/
theorem values_of_decode
    (h : decodeTarget crc32 data = .ok p) :
    (NativeTargetPacket.read data).values =
      p.values.map Int.toNat ++ [(crc32 (data.take 120)).toNat] := by
  obtain ⟨body, hpack, rfl⟩ := encodeTarget_ok.mp (encode_decode h)
  have hbody : (appendCrc crc32 body).take 120 = body := by
    rw [appendCrc, ← length_body hpack, List.take_left]
  rw [values_read, unpacked_encoded hpack, hbody]

/-- **The wire format.** With a standard CRC-32, encoding and decoding are inverse to each
    other, every burst of 32 bits is detected, and both workers read the values that the
    producer wrote and make the check that it makes. -/
theorem target_wire (crc32 : List Byte → BitVec 32) (hcrc : ∀ data, IsCrc32 data (crc32 data)) :
    (∀ p : TargetPacket, p.Representable →
      ∃ data, encodeTarget crc32 p = .ok data ∧ decodeTarget crc32 data = .ok p) ∧
    (∀ data p, decodeTarget crc32 data = .ok p → encodeTarget crc32 p = .ok data) ∧
    (∀ p data changed, encodeTarget crc32 p = .ok data → changed ≠ data →
      Burst 32 (byteBits data) (byteBits changed) →
        ∃ error, decodeTarget crc32 changed = .error error) ∧
    ∀ data : List Byte, data.length = 124 →
      (NativeTargetPacket.read data).values = unpacked (sizes targetStruct) data ∧
      (∀ p, decodeTarget crc32 data = .ok p →
        (NativeTargetPacket.read data).values =
          p.values.map Int.toNat ++ [(crc32 (data.take 120)).toNat]) ∧
      (ThinChecksumMatches data ↔ ChecksumMatches crc32 data) ∧
      (ServoChecksumMatches data ↔ ChecksumMatches crc32 data) := by
  refine ⟨fun p hp => ?_, fun _ _ => encode_decode, fun p data changed h hne hburst => ?_,
    fun data _ => ⟨values_read data, fun _ => values_of_decode, checksum_read hcrc data,
      checksum_read hcrc data⟩⟩
  · obtain ⟨body, hpack⟩ : ∃ body, pack targetWithoutCrc p.values = .ok body :=
      ⟨_, pack_ok_iff.mpr ⟨TargetPacket.values_inRange hp, rfl⟩⟩
    have hencode : encodeTarget crc32 p = .ok (appendCrc crc32 body) :=
      encodeTarget_ok.mpr ⟨body, hpack, rfl⟩
    exact ⟨_, hencode, decode_encode hencode⟩
  · cases hdecode : decodeTarget crc32 changed with
    | error error => exact ⟨error, rfl⟩
    | ok p' => exact absurd (encoded_burst hcrc h (encode_decode hdecode) hburst).symm hne

/-- A heartbeat of a given number. -/
def heartbeat (sequence : ℤ) : TargetPacket :=
  ⟨.heartbeat, 0, .none, sequence, 0, 0, 0, 0, fun _ => 0⟩

theorem representable_heartbeat : (heartbeat 7).Representable := by
  constructor <;> decide

/-- A heartbeat is read back, with the workers' loop as the producer's function. -/
theorem target_wire_heartbeat :
    ∃ data, encodeTarget crcLoop (heartbeat 7) = .ok data ∧
      decodeTarget crcLoop data = .ok (heartbeat 7) :=
  (target_wire crcLoop isCrc32_crcLoop).1 (heartbeat 7) representable_heartbeat

end HandLab.Wire
