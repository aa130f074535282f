import HandLab.Quest.ControllerProtocol
import HandLab.Quest.Receiver
import Mathlib.Data.Bool.AllAny

/-!
# The shared transport

`parse_quest_transport_datagram` (`src/motion_input/controller_protocol.py`, lines 144–156), which
tells controller datagrams by their first bytes, against `parse_controller_datagram`, which
allows empty lines before its line.

* `decodeFrom_head`: an ASCII character comes from the byte of its number.
* `controller_dispatched_iff`: the dispatch agrees with the parser exactly on the datagrams that do
  not begin with a line break; and a hand or head datagram is the parses of its lines.
-/

namespace HandLab.Quest

open HandLab.Lib

/-! ## Bytes and characters -/

theorem toNat_ofNat_of_lt {n : ℕ} (h : n < 0xD800) : (Char.ofNat n).toNat = n := by
  rw [Char.ofNat, dif_pos (Or.inl h)]
  rfl

theorem toNat_ofNat_of_gt {n : ℕ} (h : 0xDFFF < n) (hlt : n < 0x110000) :
    (Char.ofNat n).toNat = n := by
  rw [Char.ofNat, dif_pos (Or.inr ⟨h, hlt⟩)]
  rfl

/-- A character whose number is 128 or more is not ASCII. -/
theorem toNat_ofNat_ascii {n : ℕ} (h : 0x80 ≤ n) (hlt : n < 0xD800 ∨ 0xDFFF < n ∧ n < 0x110000) :
    ¬(Char.ofNat n).toNat < 0x80 := by
  rcases hlt with hlt | ⟨hgt, hlt⟩
  · rw [toNat_ofNat_of_lt hlt]
    omega
  · rw [toNat_ofNat_of_gt hgt hlt]
    omega

variable {bytes : List UInt8}

theorem decodeFrom_more {owed low high acc : ℕ} {text : List Char}
    (h : decodeFrom (owed + 2) low high acc bytes = some text) :
    ∃ b rest, bytes = b :: rest ∧ low ≤ b.toNat ∧ b.toNat ≤ high ∧
      decodeFrom (owed + 1) 0x80 0xBF (acc * 64 + (b.toNat - 0x80)) rest = some text := by
  cases bytes with
  | nil => exact absurd h nofun
  | cons b rest =>
    unfold decodeFrom at h
    by_cases hrange : low ≤ b.toNat ∧ b.toNat ≤ high
    · rw [if_pos hrange, if_neg (Nat.succ_ne_zero owed)] at h
      exact ⟨b, rest, rfl, hrange.1, hrange.2, h⟩
    · rw [if_neg hrange] at h
      exact absurd h nofun

theorem decodeFrom_last {low high acc : ℕ} {c : Char} {text : List Char}
    (h : decodeFrom 1 low high acc bytes = some (c :: text)) :
    ∃ b rest n, bytes = b :: rest ∧ low ≤ b.toNat ∧ b.toNat ≤ high ∧
      n = acc * 64 + (b.toNat - 0x80) ∧ c = Char.ofNat n := by
  cases bytes with
  | nil => exact absurd h nofun
  | cons b rest =>
    unfold decodeFrom at h
    by_cases hrange : low ≤ b.toNat ∧ b.toNat ≤ high
    · rw [if_pos hrange, if_pos rfl] at h
      obtain ⟨tail, -, htail⟩ := Option.map_eq_some_iff.mp h
      exact ⟨b, rest, _, rfl, hrange.1, hrange.2, rfl, (List.cons.inj htail).1.symm⟩
    · rw [if_neg hrange] at h
      exact absurd h nofun

/-- **The first character**: an ASCII character comes from one byte. -/
theorem decodeFrom_head {c : Char} {text : List Char}
    (h : decodeUtf8 bytes = some (c :: text)) (hascii : c.toNat < 0x80) :
    ∃ b rest, bytes = b :: rest ∧ b.toNat = c.toNat ∧ decodeUtf8 rest = some text := by
  unfold decodeUtf8 at h
  cases bytes with
  | nil => exact absurd h nofun
  | cons b rest =>
    unfold decodeFrom at h
    by_cases hone : b.toNat ≤ 0x7F
    · rw [if_pos hone] at h
      obtain ⟨tail, htail, heq⟩ := Option.map_eq_some_iff.mp h
      obtain ⟨rfl, rfl⟩ := List.cons.inj heq
      have hvalid : b.toNat < 0xD800 := by omega
      exact ⟨b, rest, rfl, (toNat_ofNat_of_lt hvalid).symm, htail⟩
    -- Two or more bytes encode a character from 128 on.
    rw [if_neg hone] at h
    exfalso
    by_cases htwo : 0xC2 ≤ b.toNat ∧ b.toNat ≤ 0xDF
    · rw [if_pos htwo] at h
      obtain ⟨b₂, rest₂, n, -, hlow, hhigh, hn, rfl⟩ := decodeFrom_last h
      refine toNat_ofNat_ascii ?_ (.inl ?_) hascii <;> omega
    rw [if_neg htwo] at h
    by_cases hthree : 0xE0 ≤ b.toNat ∧ b.toNat ≤ 0xEF
    · rw [if_pos hthree] at h
      obtain ⟨b₂, rest₂, -, hlow₂, hhigh₂, hlast⟩ := decodeFrom_more h
      obtain ⟨b₃, rest₃, n, -, hlow₃, hhigh₃, hn, rfl⟩ := decodeFrom_last hlast
      refine toNat_ofNat_ascii ?_ ?_ hascii <;> split_ifs at hlow₂ hhigh₂ <;> omega
    rw [if_neg hthree] at h
    by_cases hfour : 0xF0 ≤ b.toNat ∧ b.toNat ≤ 0xF4
    · rw [if_pos hfour] at h
      obtain ⟨b₂, rest₂, -, hlow₂, hhigh₂, hmore⟩ := decodeFrom_more h
      obtain ⟨b₃, rest₃, -, hlow₃, hhigh₃, hlast⟩ := decodeFrom_more hmore
      obtain ⟨b₄, rest₄, n, -, hlow₄, hhigh₄, hn, rfl⟩ := decodeFrom_last hlast
      refine toNat_ofNat_ascii ?_ (.inr ?_) hascii <;> split_ifs at hlow₂ hhigh₂ <;> omega
    · rw [if_neg hfour] at h
      exact absurd h nofun

/-- A text that begins with ASCII characters comes from bytes that begin with theirs. -/
theorem isPrefixOf_of_decode {start text : List Char}
    (hascii : ∀ c ∈ start, c.toNat < 0x80) (h : decodeUtf8 bytes = some (start ++ text)) :
    (start.map fun c => c.toNat.toUInt8).isPrefixOf bytes = true := by
  induction start generalizing bytes with
  | nil => rfl
  | cons c rest ih =>
    obtain ⟨b, others, rfl, hb, hothers⟩ := decodeFrom_head h (hascii c List.mem_cons_self)
    have hbyte : c.toNat.toUInt8 = b := by
      rw [← hb]
      exact UInt8.ofNat_toNat
    rw [List.map_cons, List.isPrefixOf_cons_cons, hbyte, beq_self_eq_true, Bool.true_and]
    exact ih (fun other hother => hascii other (List.mem_cons_of_mem _ hother)) hothers

/-! ## The first line -/

/-- A line that has begun goes on in the text. -/
theorem splitLinesFrom_first (text : List Char) {line : List Char} (hline : line ≠ []) :
    ∃ more rest others, text = more ++ rest ∧
      splitLinesFrom isLineBreak (· == '\r') (· == '\n') line false text =
        (line.reverse ++ more) :: others := by
  induction text generalizing line with
  | nil =>
    refine ⟨[], [], [], rfl, ?_⟩
    unfold splitLinesFrom
    rw [if_neg (by simpa using hline), List.append_nil]
  | cons c rest ih =>
    unfold splitLinesFrom
    rw [Bool.false_and, if_neg Bool.false_ne_true]
    by_cases hbreak : isLineBreak c = true
    · rw [if_pos hbreak]
      exact ⟨[], c :: rest, _, rfl, by rw [List.append_nil]⟩
    · rw [if_neg hbreak]
      obtain ⟨more, tail, others, rfl, hsplit⟩ := ih (List.cons_ne_nil c line)
      exact ⟨c :: more, tail, others, rfl, by rw [hsplit]; simp⟩

theorem strLines_first {c : Char} {text : List Char} (h : isLineBreak c = false) :
    ∃ line rest others, line ≠ [] ∧ c :: text = line ++ rest ∧
      strLines (c :: text) = line :: others := by
  obtain ⟨more, rest, others, rfl, hsplit⟩ :=
    splitLinesFrom_first text (List.cons_ne_nil c [])
  refine ⟨c :: more, rest, others, List.cons_ne_nil _ _, rfl, ?_⟩
  unfold strLines splitLinesFrom
  rw [Bool.false_and, if_neg Bool.false_ne_true, h, if_neg Bool.false_ne_true]
  exact hsplit

/-! ## The dispatch -/

variable {α δ : Type*}

/-- What `parse_quest_transport_datagram` raises. -/
inductive TransportError
  | controller (error : ControllerError)
  | hts (error : HtsError)
  deriving DecidableEq

/-- `QuestTransportKind`. -/
inductive QuestTransportKind
  | controller | handHead
  deriving DecidableEq, Repr

/-- `QuestTransportPacket`. -/
structure QuestTransportPacket (α δ : Type*) where
  kind : QuestTransportKind
  controller : Option (ControllerPacket α)
  handHead : List (HtsPacket δ)
  deriving DecidableEq

section Dispatch

variable [HtsFloat δ] (unitFloat : List Char → Option α)

variable (δ) in
/-- `parse_quest_transport_datagram`. -/
def parseQuestTransportDatagram (payload : List UInt8) :
    Except TransportError (QuestTransportPacket α δ) :=
  if (ascii "CTRL,").isPrefixOf payload then
    match parseControllerDatagram unitFloat payload with
    | .error error => .error (.controller error)
    | .ok packet => .ok ⟨.controller, some packet, []⟩
  else
    match parseHtsDatagram payload with
    | .error error => .error (.hts error)
    | .ok packets => .ok ⟨.handHead, none, packets⟩

/-- A datagram whose text begins with a line break. -/
def beginsWithBreak (payload : List UInt8) : Bool :=
  match decodeUtf8 payload with
  | some (c :: _) => isLineBreak c
  | _ => false

variable {unitFloat}

/-- A line of the parser begins with `CTRL,`. -/
theorem parseControllerLine_start {line : List Char} {packet : ControllerPacket α}
    (h : parseControllerLine unitFloat line = .ok packet) :
    ∃ rest, line = "CTRL,".toList ++ rest := by
  unfold parseControllerLine at h
  by_cases hembedded : (line.any fun c => c == '\n' || c == '\r') = true
  · rw [if_pos hembedded] at h
    exact absurd h nofun
  rw [if_neg hembedded] at h
  have hline : [','].intercalate (line.splitOn ',') = line := List.intercalate_splitOn ','
  unfold splitCommas at h
  cases hfields : line.splitOn ',' with
  | nil =>
    rw [hfields] at h
    exact absurd h nofun
  | cons first fields =>
    rw [hfields] at h hline
    dsimp only at h
    by_cases hctrl : first ≠ "CTRL".toList
    · rw [if_pos hctrl] at h
      exact absurd h nofun
    rw [if_neg hctrl] at h
    by_cases hcount : fields.length ≠ ctrlFieldNames.length
    · rw [if_pos hcount] at h
      exact absurd h nofun
    obtain rfl := not_ne_iff.mp hctrl
    cases fields with
    | nil => exact absurd (not_ne_iff.mp hcount) (by decide)
    | cons field others =>
      rw [List.intercalate_cons_cons] at hline
      exact ⟨_, hline.symm.trans (List.append_assoc ..)⟩

/-- What the controller parser has accepted begins with `CTRL,` unless it begins with a break. -/
theorem prefix_iff {payload : List UInt8} {packet : ControllerPacket α}
    (h : parseControllerDatagram unitFloat payload = .ok packet) :
    (ascii "CTRL,").isPrefixOf payload = true ↔ beginsWithBreak payload = false := by
  constructor
  · intro hprefix
    obtain ⟨rest, rfl⟩ := List.isPrefixOf_iff_prefix.mp hprefix
    unfold beginsWithBreak
    have hdecode : decodeUtf8 (ascii "CTRL," ++ rest) =
        (Char.ofNat 0x43 :: ·) <$> decodeFrom 0 0 0 0 (ascii "TRL," ++ rest) := rfl
    rw [hdecode]
    cases decodeFrom 0 0 0 0 (ascii "TRL," ++ rest) <;> rfl
  · intro hbreak
    obtain ⟨text, htext, h⟩ := ok_of_text h
    unfold beginsWithBreak at hbreak
    rw [htext] at hbreak
    cases text with
    | nil => exact absurd h nofun
    | cons c text =>
      obtain ⟨line, rest, others, hne, hstart, hlines⟩ := @strLines_first _ text hbreak
      rw [hlines, List.filter_cons_of_pos (by simpa using hne)] at h
      cases hothers : others.filter fun line => !line.isEmpty with
      | cons other more =>
        rw [hothers] at h
        exact absurd h nofun
      | nil =>
        rw [hothers] at h
        obtain ⟨tail, rfl⟩ := parseControllerLine_start h
        rw [hstart, List.append_assoc] at htext
        exact isPrefixOf_of_decode (List.all_iff_forall_prop.mp (by decide)) htext

/-- **The dispatch.** A datagram that the controller parser accepts is dispatched to it exactly
    if it does not begin with a line break; and the packets of a hand or head datagram are the
    parses of its lines, in their order. -/
theorem controller_dispatched_iff (unitFloat : List Char → Option α) (payload : List UInt8) :
    (∀ packet, parseControllerDatagram unitFloat payload = .ok packet →
      (parseQuestTransportDatagram δ unitFloat payload = .ok ⟨.controller, some packet, []⟩ ↔
        beginsWithBreak payload = false)) ∧
    ∀ answer, parseQuestTransportDatagram δ unitFloat payload = .ok answer →
      answer.kind = .handHead → answer.controller = none ∧ ∃ text,
        decodeUtf8 payload = some text ∧
          List.Forall₂ (fun line packet => parseHtsLine line = .ok packet) (handHeadLines text)
            answer.handHead := by
  unfold parseQuestTransportDatagram
  refine ⟨fun packet h => ?_, fun answer h hkind => ?_⟩
  · rw [← prefix_iff h]
    by_cases hprefix : (ascii "CTRL,").isPrefixOf payload = true
    · rw [if_pos hprefix, h]
      exact iff_of_true rfl hprefix
    · rw [if_neg hprefix]
      refine iff_of_false (fun hanswer => ?_) hprefix
      cases hpackets : parseHtsDatagram (δ := δ) payload with
      | error error =>
        rw [hpackets] at hanswer
        exact absurd hanswer nofun
      | ok packets =>
        rw [hpackets] at hanswer
        have hkind := congrArg QuestTransportPacket.kind (Except.ok.inj hanswer)
        exact absurd hkind nofun
  · by_cases hprefix : (ascii "CTRL,").isPrefixOf payload = true
    · rw [if_pos hprefix] at h
      cases hpacket : parseControllerDatagram unitFloat payload with
      | error error =>
        rw [hpacket] at h
        exact absurd h nofun
      | ok packet =>
        rw [hpacket] at h
        obtain rfl := Except.ok.inj h
        exact absurd hkind nofun
    · rw [if_neg hprefix] at h
      cases hpackets : parseHtsDatagram (δ := δ) payload with
      | error error =>
        rw [hpackets] at h
        exact absurd h nofun
      | ok packets =>
        rw [hpackets] at h
        obtain rfl := Except.ok.inj h
        exact ⟨rfl, parseHtsDatagram_lines hpackets⟩

end Dispatch

/-! ## An empty line before the packet -/

attribute [local instance] exactHtsFloat

/-- An empty line, then a controller packet. -/
def lateController : List UInt8 :=
  ascii "\nCTRL,v=1,session=1,seq=1,t_ns=1,connected=1,active=1,tracked=1,index=0,grip=0"

/-- The parser accepts the packet; the dispatch makes an empty hand or head datagram of it. -/
theorem late_controller_lost :
    parseControllerDatagram decimal? lateController =
        .ok ⟨1, 1, 1, 1, true, true, true, 0, 0⟩ ∧
      parseQuestTransportDatagram ℚ decimal? lateController = .ok ⟨.handHead, none, []⟩ := by
  rw [lateController, ascii_ofList]
  constructor <;> decide +kernel

end HandLab.Quest
