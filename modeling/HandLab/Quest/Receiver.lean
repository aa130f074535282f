import HandLab.Quest.HtsProtocol
import Mathlib.Data.Rat.Sqrt

/-!
# `QuestDatagramReceiverWorker`

The channels of the Quest receiver (`src/quest_jaka_sim/live_input.py`, lines
13–174): controller datagrams wait in an ordered queue, and of the hand and head
datagrams only the newest of each modality is kept.

* `slot_receiveAll`: a slot holds the last datagram of its modality.
* `mem_drain`: what a drain returns.
* `malformed_reported`: when a drain returns a rejected datagram.
-/

namespace HandLab.Quest

open HandLab.Lib

/-! ## Datagrams -/

/-- `ReceivedHtsDatagram`. -/
structure ReceivedHtsDatagram where
  payload : List UInt8
  sourceAddress : String
  sourcePort : ℕ
  receiveMonotonicNs : ℤ
  receiveUnixNs : ℤ
  deriving DecidableEq

namespace ReceivedHtsDatagram

/-- `payload.startswith(b"CTRL,")`. -/
def isController (d : ReceivedHtsDatagram) : Bool := (ascii "CTRL,").isPrefixOf d.payload

section Rejected

variable {δ : Type*} [HtsFloat δ]

variable (δ) in
/-- `assembler.ingest(parse_hts_datagram(payload), …)` up to the state. -/
def ingested (d : ReceivedHtsDatagram) : Except HtsError Unit :=
  match parseHtsDatagram (δ := δ) d.payload with
  | .error error => .error error
  | .ok packets => checkObservation packets d.receiveMonotonicNs

variable (δ) in
/-- The datagram makes `SmoothQuestJakaSession.ingest` fault both clutches: the
    parser or the assembler raises `SerializationError`. -/
def rejected (d : ReceivedHtsDatagram) : Bool :=
  match d.ingested δ with
  | .error error => error.isSerialization
  | .ok _ => false

end Rejected

end ReceivedHtsDatagram

/-- The modalities of `_classify_hts_datagram`. -/
inductive Modality
  | rightHand
  | leftHand
  | head
  deriving DecidableEq, Repr

/-- `bytes.strip`. -/
def isBlankByte (b : UInt8) : Bool := (9 ≤ b.toNat && b.toNat ≤ 13) || b.toNat == 32

/-- `bytes.splitlines`. -/
def byteLines (payload : List UInt8) : List (List UInt8) :=
  splitLinesFrom (fun b => b == 10 || b == 13) (· == 13) (· == 10) [] false payload

def modalityOfLabel? (label : List UInt8) : Option Modality :=
  if label = ascii "Right wrist" ∨ label = ascii "Right landmarks" then some .rightHand
  else if label = ascii "Left wrist" ∨ label = ascii "Left landmarks" then some .leftHand
  else if label = ascii "Head pose" then some .head
  else none

/-- The modality of a line that is not blank, `none` where the classifier gives up. -/
def modalityOfLine? (line : List UInt8) : Option Modality :=
  if line.contains 58 then
    modalityOfLabel? (strip isBlankByte ((line.takeWhile (· != 58)).takeWhile (· != 124)))
  else none

/-- `_classify_hts_datagram`. -/
def classifyHtsDatagram (payload : List UInt8) : Option Modality :=
  match (((byteLines payload).map (strip isBlankByte)).filter fun line => !line.isEmpty).mapM
      modalityOfLine? with
  | none => none
  | some modalities =>
    match modalities.dedup with
    | [modality] => some modality
    | _ => none

/-- The slot of a datagram. -/
def ReceivedHtsDatagram.modality? (d : ReceivedHtsDatagram) : Option Modality :=
  classifyHtsDatagram d.payload

/-! ## The worker -/

/-- The counters of `diagnostics`. -/
structure ReceiverCounts where
  dropped : ℕ
  droppedController : ℕ
  droppedHandHead : ℕ
  skippedHandHead : ℕ
  rightHandSuperseded : ℕ
  leftHandSuperseded : ℕ
  headSuperseded : ℕ
  deriving DecidableEq, Repr

/-- The channels of `QuestDatagramReceiverWorker`. Only controller datagrams are
    queued. -/
structure QuestDatagramReceiverWorker where
  capacity : ℕ
  queue : List { d : ReceivedHtsDatagram // d.isController = true }
  latestRightHand : Option ReceivedHtsDatagram
  latestLeftHand : Option ReceivedHtsDatagram
  latestHead : Option ReceivedHtsDatagram
  latestUnclassifiedHts : Option ReceivedHtsDatagram
  counts : ReceiverCounts

namespace QuestDatagramReceiverWorker

/-- `__init__` with a positive capacity. -/
def init (capacity : ℕ) : QuestDatagramReceiverWorker where
  capacity
  queue := []
  latestRightHand := none
  latestLeftHand := none
  latestHead := none
  latestUnclassifiedHts := none
  counts := ⟨0, 0, 0, 0, 0, 0, 0⟩

variable (w : QuestDatagramReceiverWorker)

/-- The slot of a modality, or the remaining one. -/
def slot : Option Modality → Option ReceivedHtsDatagram
  | some .rightHand => w.latestRightHand
  | some .leftHand => w.latestLeftHand
  | some .head => w.latestHead
  | none => w.latestUnclassifiedHts

/-- `setattr(self, attribute, datagram)`. -/
def setSlot (modality : Option Modality) (d : ReceivedHtsDatagram) :
    QuestDatagramReceiverWorker :=
  match modality with
  | some .rightHand => { w with latestRightHand := some d }
  | some .leftHand => { w with latestLeftHand := some d }
  | some .head => { w with latestHead := some d }
  | none => { w with latestUnclassifiedHts := some d }

/-- The counters when a slot is displaced. -/
def ReceiverCounts.displaced (counts : ReceiverCounts) (modality : Option Modality) :
    ReceiverCounts :=
  { dropped := counts.dropped + 1
    droppedController := counts.droppedController
    droppedHandHead := counts.droppedHandHead + 1
    skippedHandHead := counts.skippedHandHead + 1
    rightHandSuperseded :=
      counts.rightHandSuperseded + if modality = some .rightHand then 1 else 0
    leftHandSuperseded := counts.leftHandSuperseded + if modality = some .leftHand then 1 else 0
    headSuperseded := counts.headSuperseded + if modality = some .head then 1 else 0 }

/-- `_store_latest_hts`. -/
def storeLatestHts (d : ReceivedHtsDatagram) : QuestDatagramReceiverWorker :=
  let counted : QuestDatagramReceiverWorker :=
    if (w.slot d.modality?).isSome then
      { w with counts := ReceiverCounts.displaced w.counts d.modality? }
    else w
  counted.setSlot d.modality? d

/-- `put_nowait`, or the counters of a full queue. -/
def enqueue (d : { d : ReceivedHtsDatagram // d.isController = true }) :
    QuestDatagramReceiverWorker :=
  if w.queue.length < w.capacity then { w with queue := w.queue ++ [d] }
  else
    { w with
      counts := { w.counts with
        dropped := w.counts.dropped + 1
        droppedController := w.counts.droppedController + 1 } }

/-- One datagram of the loop of `_run`. -/
def receive (d : ReceivedHtsDatagram) : QuestDatagramReceiverWorker :=
  if h : d.isController = true then w.enqueue ⟨d, h⟩ else w.storeLatestHts d

/-- The datagrams of a while, oldest first. -/
def receiveAll (ds : List ReceivedHtsDatagram) : QuestDatagramReceiverWorker :=
  ds.foldl receive w

/-- `drain(max_controller_packets=limit)`: the datagrams and the worker after. -/
def drain (limit : Option ℤ) : List ReceivedHtsDatagram × QuestDatagramReceiverWorker :=
  let count :=
    match limit with
    | none => w.queue.length
    | some n => (max 1 n).toNat
  ((w.queue.take count).map Subtype.val ++
      ([w.latestRightHand, w.latestLeftHand, w.latestHead, w.latestUnclassifiedHts].filterMap id),
    { w with
      queue := w.queue.drop count
      latestRightHand := none
      latestLeftHand := none
      latestHead := none
      latestUnclassifiedHts := none })

end QuestDatagramReceiverWorker

/-! ## The slots -/

namespace QuestDatagramReceiverWorker

variable {w : QuestDatagramReceiverWorker}

@[simp]
theorem slot_setSlot (modality other : Option Modality) (d : ReceivedHtsDatagram) :
    (w.setSlot modality d).slot other = if other = modality then some d else w.slot other := by
  rcases modality with _ | modality <;> rcases other with _ | other
  · rfl
  · cases other <;> rfl
  · cases modality <;> rfl
  · cases modality <;> cases other <;> rfl

theorem slot_storeLatestHts (d : ReceivedHtsDatagram) (modality : Option Modality) :
    (w.storeLatestHts d).slot modality =
      if modality = d.modality? then some d else w.slot modality := by
  unfold storeLatestHts
  rw [slot_setSlot]
  split
  · rfl
  · show (if (w.slot d.modality?).isSome = true then _ else w).slot modality = _
    split
    · rcases modality with _ | modality
      · rfl
      · cases modality <;> rfl
    · rfl

theorem slot_enqueue (d : { d : ReceivedHtsDatagram // d.isController = true })
    (modality : Option Modality) : (w.enqueue d).slot modality = w.slot modality := by
  unfold enqueue
  split
  · rcases modality with _ | modality
    · rfl
    · cases modality <;> rfl
  · rcases modality with _ | modality
    · rfl
    · cases modality <;> rfl

/-- The datagram goes to the slot. -/
def Lands (modality : Option Modality) (d : ReceivedHtsDatagram) : Bool :=
  !d.isController && decide (d.modality? = modality)

theorem slot_receive (d : ReceivedHtsDatagram) (modality : Option Modality) :
    (w.receive d).slot modality = if Lands modality d = true then some d else w.slot modality := by
  unfold receive Lands
  by_cases h : d.isController = true
  · rw [dif_pos h, slot_enqueue]
    simp [h]
  · rw [dif_neg h, slot_storeLatestHts]
    simp [h, eq_comm]

/-- **A slot** holds the last datagram of its modality. -/
theorem slot_receiveAll (ds : List ReceivedHtsDatagram) (modality : Option Modality) :
    (w.receiveAll ds).slot modality =
      ((ds.filter (Lands modality)).getLast?).or (w.slot modality) := by
  induction ds generalizing w with
  | nil => rfl
  | cons d ds ih =>
    show ((w.receive d).receiveAll ds).slot modality = _
    rw [ih, slot_receive]
    by_cases h : Lands modality d = true
    · rw [if_pos h, List.filter_cons_of_pos h, List.getLast?_cons]
      cases (ds.filter (Lands modality)).getLast? <;> rfl
    · rw [if_neg h, List.filter_cons_of_neg h]

theorem slot_drain (limit : Option ℤ) (modality : Option Modality) :
    (w.drain limit).2.slot modality = none := by
  rcases modality with _ | modality
  · rfl
  · cases modality <;> rfl

/-- What a drain returns: queued controller datagrams, and the four slots. -/
theorem mem_drain {limit : Option ℤ} {d : ReceivedHtsDatagram} (h : d.isController = false) :
    d ∈ (w.drain limit).1 ↔ ∃ modality, w.slot modality = some d := by
  constructor
  · intro hmem
    rcases List.mem_append.mp hmem with hqueued | hslot
    · obtain ⟨c, -, rfl⟩ := List.mem_map.mp hqueued
      rw [c.2] at h
      cases h
    · obtain ⟨latest, hlatest, hd⟩ := List.mem_filterMap.mp hslot
      simp only [List.mem_cons, List.not_mem_nil, or_false] at hlatest
      rcases hlatest with rfl | rfl | rfl | rfl
      · exact ⟨some .rightHand, hd⟩
      · exact ⟨some .leftHand, hd⟩
      · exact ⟨some .head, hd⟩
      · exact ⟨none, hd⟩
  · rintro ⟨modality, hslot⟩
    refine List.mem_append.mpr (.inr (List.mem_filterMap.mpr ⟨w.slot modality, ?_, hslot⟩))
    rcases modality with _ | modality
    · simp [slot]
    · cases modality <;> simp [slot]

/-- The drain after `ds` returns the last datagram of each modality. -/
theorem mem_next_drain {ds : List ReceivedHtsDatagram} {last next : Option ℤ}
    {d : ReceivedHtsDatagram} (h : d.isController = false) :
    d ∈ (((w.drain last).2.receiveAll ds).drain next).1 ↔
      (ds.filter (Lands d.modality?)).getLast? = some d := by
  rw [mem_drain h]
  constructor
  · rintro ⟨modality, hslot⟩
    rw [slot_receiveAll, slot_drain, Option.or_none] at hslot
    have hlands : Lands modality d = true :=
      (List.mem_filter.mp (List.mem_of_getLast? hslot)).2
    have hmodality : d.modality? = modality := by
      simpa [Lands, h] using hlands
    rw [hmodality]
    exact hslot
  · intro hlast
    refine ⟨d.modality?, ?_⟩
    rw [slot_receiveAll, slot_drain, Option.or_none]
    exact hlast

end QuestDatagramReceiverWorker

/-! ## Malformed data -/

open QuestDatagramReceiverWorker

section Malformed

variable {δ : Type*} [HtsFloat δ]

variable (δ) in
/-- A hand or head datagram that the session rejects. -/
def ReceivedHtsDatagram.malformed (d : ReceivedHtsDatagram) : Bool :=
  !d.isController && d.rejected δ

/-- No later hand or head datagram of `after` is of the modality of `d`. -/
def Undisplaced (d : ReceivedHtsDatagram) (after : List ReceivedHtsDatagram) : Prop :=
  ∀ e ∈ after, e.isController = false → e.modality? ≠ d.modality?

/-- The last element of a filtered list has no successor that passes. -/
theorem getLast?_filter {β : Type*} {pass : β → Bool} {l : List β} {x : β} :
    (l.filter pass).getLast? = some x ↔
      ∃ before after, l = before ++ x :: after ∧ pass x = true ∧ ∀ y ∈ after, pass y = false := by
  rw [← List.head?_reverse, ← List.filter_reverse, List.head?_filter, List.find?_eq_some_iff_append]
  constructor
  · rintro ⟨hx, after, before, hl, hafter⟩
    refine ⟨before.reverse, after.reverse, ?_, hx, fun y hy => ?_⟩
    · rw [← List.reverse_reverse l, hl]
      simp
    · simpa using hafter y (List.mem_reverse.mp hy)
  · rintro ⟨before, after, rfl, hx, hafter⟩
    refine ⟨hx, after.reverse, before.reverse, by simp, fun y hy => ?_⟩
    simpa using hafter y (List.mem_reverse.mp hy)

theorem isController_of_malformed {d : ReceivedHtsDatagram} (h : d.malformed δ = true) :
    d.isController = false := by
  unfold ReceivedHtsDatagram.malformed at h
  rw [Bool.and_eq_true, Bool.not_eq_true'] at h
  exact h.1

/-- **Reported**: among the datagrams received between two drains, the second
    drain returns a malformed one exactly if some malformed one is not followed
    by another datagram of its modality. -/
theorem malformed_reported (w : QuestDatagramReceiverWorker) (last next : Option ℤ)
    (ds : List ReceivedHtsDatagram) :
    ((∃ d ∈ ds, d.malformed δ = true) →
      ∃ d ∈ (((w.drain last).2.receiveAll ds).drain next).1, d.malformed δ = true) ↔
    ((∀ d ∈ ds, d.malformed δ = false) ∨
      ∃ before d after, ds = before ++ d :: after ∧ d.malformed δ = true ∧
        Undisplaced d after) := by
  have hreturned : (∃ d ∈ (((w.drain last).2.receiveAll ds).drain next).1,
        d.malformed δ = true) ↔
      ∃ before d after, ds = before ++ d :: after ∧ d.malformed δ = true ∧
        Undisplaced d after := by
    constructor
    · rintro ⟨d, hd, hbad⟩
      have hcontroller := isController_of_malformed hbad
      rw [mem_next_drain hcontroller, getLast?_filter] at hd
      obtain ⟨before, after, rfl, -, hafter⟩ := hd
      refine ⟨before, d, after, rfl, hbad, fun e he hec hmodality => ?_⟩
      have := hafter e he
      simp [Lands, hec, hmodality] at this
    · rintro ⟨before, d, after, rfl, hbad, hlast⟩
      have hcontroller := isController_of_malformed hbad
      refine ⟨d, ?_, hbad⟩
      rw [mem_next_drain hcontroller, getLast?_filter]
      refine ⟨before, after, rfl, by simp [Lands, hcontroller], fun e he => ?_⟩
      cases hec : e.isController with
      | true => simp [Lands, hec]
      | false =>
        have := hlast e he hec
        simp [Lands, hec, this]
  rw [hreturned]
  constructor
  · intro h
    by_cases hex : ∃ d ∈ ds, d.malformed δ = true
    · exact .inr (h hex)
    · refine .inl fun d hd => ?_
      rw [← Bool.not_eq_true]
      exact fun hbad => hex ⟨d, hd, hbad⟩
  · rintro (hnone | hsome) hex
    · obtain ⟨d, hd, hbad⟩ := hex
      rw [hnone d hd] at hbad
      cases hbad
    · exact hsome

end Malformed

/-! ## A masked datagram -/

/-- `float` of plain decimals. -/
def decimal? (text : List Char) : Option ℚ :=
  let digits := text.filter (· != '.')
  if digits.isEmpty || !digits.all Char.isDigit || 1 < text.count '.' then none
  else
    some ((digits.foldl (fun n c => n * 10 + (c.toNat - 48)) 0 : ℕ) /
      10 ^ (text.dropWhile (· != '.')).tail.length)

/-- Exact arithmetic, with roots of squares only. -/
abbrev exactHtsFloat : HtsFloat ℚ where
  neg q := -q
  sqrt := Rat.sqrt
  ceil q := ⌈q⌉
  copysign magnitude sign := if sign < 0 then -|magnitude| else |magnitude|
  remainder x y := x - y * round (x / y)
  ofText := decimal?
  sum := List.sum

attribute [local instance] exactHtsFloat

/-- A head pose without values. -/
def emptyHeadPose : ReceivedHtsDatagram := ⟨ascii "Head pose:", "192.168.1.20", 9000, 0, 0⟩

def identityHeadPose : ReceivedHtsDatagram :=
  ⟨ascii "Head pose:0,1.5,0,0,0,0,1", "192.168.1.20", 9000, 1000000, 1000000⟩

/-- The well-formed head pose takes the slot of the malformed one. -/
theorem malformed_masked :
    emptyHeadPose.malformed ℚ = true ∧
      ∀ d ∈ ((((QuestDatagramReceiverWorker.init 256).drain none).2.receiveAll
        [emptyHeadPose, identityHeadPose]).drain none).1, d.malformed ℚ = false := by
  rw [emptyHeadPose, identityHeadPose, ascii_ofList, ascii_ofList]
  decide +kernel

end HandLab.Quest
