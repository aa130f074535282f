import HandLab.Quest.MotionProvider
import HandLab.Umip.Overflow

/-!
# The order of the samples of `QuestMotionProvider`

Runs of `read` after `open` (`src/motion_input/quest.py`, lines 200–240): the events that a
silent source is given, and the sequence numbers of the samples of each hand. An event
takes the number after the last one of its hand, which the next frame may take again.

* `MotionProvider.read_spec`: what a read can do.
* `samples_ordered`: the events of a run whose hands have names, and the numbers of a run
  whose frames do not repeat those of events.
* `frame_repeats_event`: a frame that takes the number of an event.
-/

namespace HandLab.Quest

open HandLab.Lib HandLab.Episode HandLab.Umip

variable {δ : Type} [Python δ]

/-! ## Logs -/

/-- A read: the frame that the source gave, and what the read returned. -/
structure ReadRecord (δ : Type) [Python δ] where
  frame : Option (QuestFrame δ)
  result : Except PyError (Option (MotionInputSample δ))

/-- The sample that was returned. -/
def ReadRecord.sample (r : ReadRecord δ) : Option (MotionInputSample δ) := r.result.toOption.join

/-- The sequence number of a sample of one hand. -/
def numberOf (side : Side) (sample : MotionInputSample δ) : Option ℤ :=
  if sample.val.side = side then some sample.val.sequenceNumber else none

/-- The sequence numbers of the frames of one hand. -/
def framesOf (side : Side) (log : List (ReadRecord δ)) : List ℤ :=
  log.filterMap fun r => r.frame.bind fun frame =>
    if frame.side = side then some frame.sequenceNumber else none

/-- The sequence numbers of the samples of one hand. -/
def samplesOf (side : Side) (log : List (ReadRecord δ)) : List ℤ :=
  log.filterMap fun r => r.sample.bind (numberOf side)

/-- Those of a list of samples. -/
def sampleNumbers (side : Side) (samples : List (MotionInputSample δ)) : List ℤ :=
  samples.filterMap (numberOf side)

/-- The hands whose `DISCONNECTED` samples were returned in each maximal period without
    frames: those that a frame ended, and the one that lasts. -/
structure Periods where
  ended : List (List Side)
  current : List Side

/-- The hand of an event. -/
def eventSide (sample : MotionInputSample δ) : Option Side :=
  if sample.val.trackingState = .disconnected then some sample.val.side else none

/-- One more read. -/
def Periods.note (periods : Periods) (r : ReadRecord δ) : Periods :=
  if r.frame.isSome then ⟨periods.ended ++ [periods.current], []⟩
  else { periods with current := periods.current ++ (r.sample.bind eventSide).toList }

/-- The periods of a log. -/
def periodsOf (log : List (ReadRecord δ)) : Periods := log.foldl Periods.note ⟨[], []⟩

/-- A period without frames that is reported yields one event for each hand before the next
    frame. -/
structure Reported (log : List (ReadRecord δ)) : Prop where
  ended : ∀ sides ∈ (periodsOf log).ended, sides = [] ∨ sides = [.left, .right]
  current : (periodsOf log).current <+: [.left, .right]

/-- The order of a log. -/
structure Ordered (log : List (ReadRecord δ)) : Prop extends Reported log where
  increasing : (∀ side, (framesOf side log).Pairwise (· < ·)) →
    ∀ side, (samplesOf side log).Pairwise (· < ·)

/-- A provider with the reads that were made. -/
structure ReadLog (δ : Type) [Python δ] where
  provider : MotionProvider δ
  log : List (ReadRecord δ) := []

namespace MotionProvider

variable (p : MotionProvider δ)

/-- The frame that the source gives in a read. -/
def given (i : ReadInput δ) : Option (QuestFrame δ) :=
  if p.pending ≠ [] then none
  else
    match i.answer with
    | .frame frame => some frame
    | .disconnected _ | .silent | .raised _ => none

/-- The read reports that the source is gone or silent. -/
def Reports (i : ReadInput δ) : Prop :=
  p.pending = [] ∧ p.disconnected = false ∧
    match i.answer with
    | .disconnected _ => True
    | .silent => p.disconnectTimeoutNs ≤ i.nowNs - p.lastActivityNs
    | .frame _ | .raised _ => False

/-- A report finds a clock that is not negative and a stream for each hand. -/
structure Announces (i : ReadInput δ) : Prop where
  clock : p.Reports i → 0 ≤ i.nowNs
  named : p.Reports i → ∀ side ∈ [Side.left, Side.right], blank (p.lastStreamId side) = false

end MotionProvider

/-- A frame with a number above those of the frames of its hand, which is translated, has
    one above those of the events too. -/
def ReadLog.Fresh (uuid5? : String → Option Uuid) (s : ReadLog δ) (i : ReadInput δ) : Prop :=
  ∀ frame ∈ s.provider.given i, ∀ convert ∈ conversion frame.basis, ∀ sample,
    s.provider.translated convert uuid5? frame i.nowNs i.processingNs = .ok sample →
      (∀ n ∈ framesOf frame.side s.log, n < frame.sequenceNumber) →
        s.provider.lastSequence frame.side < frame.sequenceNumber

section Conditions

variable {uuid5? : String → Option Uuid} {i : ReadInput δ}

variable {s : ReadLog δ}

end Conditions

def ReadLog.step (uuid5? : String → Option Uuid) (s : ReadLog δ) (i : ReadInput δ) : ReadLog δ :=
  let (result, provider) := s.provider.read uuid5? i
  ⟨provider, s.log ++ [⟨s.provider.given i, result⟩]⟩

/-! ## One read -/

namespace MotionProvider

variable {p : MotionProvider δ}

/-- The event of a hand. -/
structure IsEvent (side : Side) (number : ℤ) (sample : MotionInputSample δ) : Prop where
  side : sample.val.side = side
  number : sample.val.sequenceNumber = number
  state : sample.val.trackingState = .disconnected

theorem disconnectSample_ok (hversion : versionAdmitted δ umipVersion = true) {side : Side}
    {sequence : ℤ} (hsequence : 0 ≤ sequence) {timestampNs : ℤ} (htime : 0 ≤ timestampNs)
    (hstream : blank (p.lastStreamId side) = false) (reason : String) (uuid : Uuid) :
    ∃ sample, p.disconnectSample side sequence reason timestampNs uuid = .ok sample ∧
      IsEvent side sequence sample := by
  obtain ⟨t, ht⟩ := hostTimestamp_ok htime
  have hframe : blank ("quest/" ++ p.descriptor.val.deviceId ++ "/disconnected:openxr") = false := by
    rw [String.append_assoc]
    exact blank_append (c := 'q') (by decide) rfl _
  unfold disconnectSample
  rw [ht, ok_bind]
  refine ⟨_, construct_ok ?_, rfl, rfl, rfl⟩
  unfold SampleFields.check
  simp only [uuid.nonblank, hstream, hframe, decide_eq_false (not_lt.mpr hsequence), hversion]
  rfl

theorem queueSide_ok (hversion : versionAdmitted δ umipVersion = true) {side : Side}
    (hsequence : -1 ≤ p.lastSequence side) {timestampNs : ℤ} (htime : 0 ≤ timestampNs)
    (hstream : blank (p.lastStreamId side) = false) (reason : String) (uuid : Uuid) :
    ∃ sample, IsEvent side (p.lastSequence side + 1) sample ∧
      p.queueSide side reason timestampNs uuid = (.ok (),
        { p with
          lastSequence := Function.update p.lastSequence side (p.lastSequence side + 1)
          pending := p.pending ++ [sample] }) := by
  have hnumber : 0 ≤ p.lastSequence side + 1 := by omega
  obtain ⟨sample, hsample, hevent⟩ :=
    disconnectSample_ok (p := { p with
      lastSequence := Function.update p.lastSequence side (p.lastSequence side + 1) })
      hversion hnumber htime hstream reason uuid
  refine ⟨sample, hevent, ?_⟩
  unfold queueSide
  dsimp only
  rw [hsample]

/-- The numbers that the two events take. -/
def afterReport (p : MotionProvider δ) : Side → ℤ
  | .left => p.lastSequence .left + 1
  | .right => p.lastSequence .right + 1
  | .none => p.lastSequence .none

theorem report_ok (hversion : versionAdmitted δ umipVersion = true) (hpending : p.pending = [])
    (hsequence : ∀ side, -1 ≤ p.lastSequence side) {timestampNs : ℤ} (htime : 0 ≤ timestampNs)
    (hnamed : ∀ side ∈ [Side.left, Side.right], blank (p.lastStreamId side) = false)
    (reason : String) (uuid4 : Side → Uuid) :
    ∃ left right, IsEvent .left (p.afterReport .left) left ∧
      IsEvent .right (p.afterReport .right) right ∧
      p.report reason timestampNs uuid4 = (.ok (some left),
        { p with disconnected := true, lastSequence := p.afterReport, pending := [right] }) := by
  obtain ⟨left, hleft, hqueueLeft⟩ := queueSide_ok (p := { p with disconnected := true }) hversion
    (hsequence .left) htime (hnamed .left (by simp)) reason (uuid4 .left)
  have hsequenceRight : -1 ≤ Function.update p.lastSequence .left
      (p.lastSequence .left + 1) .right := hsequence .right
  obtain ⟨right, hright, hqueueRight⟩ := queueSide_ok
    (p := { p with
      disconnected := true
      lastSequence := Function.update p.lastSequence .left (p.lastSequence .left + 1)
      pending := p.pending ++ [left] })
    hversion hsequenceRight htime (hnamed .right (by simp)) reason (uuid4 .right)
  have hnumbers : Function.update (Function.update p.lastSequence .left (p.lastSequence .left + 1))
      .right (p.lastSequence .right + 1) = p.afterReport := by
    funext side
    cases side <;> rfl
  refine ⟨left, right, hleft, hright, ?_⟩
  unfold report queueDisconnect
  rw [hqueueLeft]
  dsimp only
  rw [hqueueRight]
  dsimp only [popleft]
  rw [hpending, ← hnumbers]
  rfl

/-- What a read can do. -/
inductive ReadStep (uuid5? : String → Option Uuid) (p : MotionProvider δ) (i : ReadInput δ) :
    Except PyError (Option (MotionInputSample δ)) × MotionProvider δ → Prop
  /-- an event that waits -/
  | pop (hpending : p.pending ≠ []) (hgiven : p.given i = none) : ReadStep uuid5? p i p.popleft
  /-- nothing new -/
  | quiet (result : Except PyError (Option (MotionInputSample δ))) (hpending : p.pending = [])
      (hgiven : p.given i = none) (hresult : result.toOption.join = none) :
      ReadStep uuid5? p i (result, p)
  /-- the source is silent or gone, and this is new -/
  | report (reason : String) (hreports : p.Reports i) (hgiven : p.given i = none) :
      ReadStep uuid5? p i (p.report reason i.nowNs i.uuid4)
  /-- a frame that is translated -/
  | sample (frame : QuestFrame δ) (convert : Pose6D δ → Except PyError (Pose6D δ))
      (sample : MotionInputSample δ) (streams : Side → String)
      (hpending : p.pending = []) (hgiven : p.given i = some frame)
      (hconvert : conversion frame.basis = some convert)
      (htranslated : p.translated convert uuid5? frame i.nowNs i.processingNs = .ok sample) :
      ReadStep uuid5? p i (.ok (some sample),
        { p.received frame i.nowNs with lastStreamId := streams })
  /-- a frame that is refused -/
  | refused (frame : QuestFrame δ) (error : PyError) (streams : Side → String)
      (hpending : p.pending = []) (hgiven : p.given i = some frame) :
      ReadStep uuid5? p i (.error error, { p.received frame i.nowNs with lastStreamId := streams })

theorem translated_eq_ok {convert : Pose6D δ → Except PyError (Pose6D δ)}
    {uuid5? : String → Option Uuid} {frame : QuestFrame δ} {receiveNs processingNs : ℤ}
    {sample : MotionInputSample δ}
    (h : p.translated convert uuid5? frame receiveNs processingNs = .ok sample) :
    sample.val.side = frame.side ∧ sample.val.sequenceNumber = frame.sequenceNumber := by
  unfold translated at h
  obtain ⟨uuid, -, h⟩ := bind_eq_ok.mp h
  obtain ⟨receiveTimestamp, -, h⟩ := bind_eq_ok.mp h
  obtain ⟨processingTimestamp, -, h⟩ := bind_eq_ok.mp h
  obtain ⟨wristPose, -, h⟩ := bind_eq_ok.mp h
  obtain ⟨palmPose, -, h⟩ := bind_eq_ok.mp h
  obtain ⟨articulation, -, h⟩ := bind_eq_ok.mp h
  rw [construct_eq_ok h]
  exact ⟨rfl, rfl⟩

/-- **What a read does.** -/
theorem read_spec (uuid5? : String → Option Uuid) (p : MotionProvider δ) (i : ReadInput δ) :
    ReadStep uuid5? p i (p.read uuid5? i) := by
  unfold read
  by_cases hpending : p.pending = []
  swap
  · rw [if_pos hpending]
    exact .pop hpending (if_pos hpending)
  rw [if_neg (not_not.mpr hpending)]
  cases hanswer : i.answer with
  | disconnected reason =>
    have hgiven : p.given i = none := by
      rw [given, if_neg (not_not.mpr hpending), hanswer]
    dsimp only
    cases hdisconnected : p.disconnected with
    | true => exact .quiet _ hpending hgiven rfl
    | false =>
      refine .report reason ⟨hpending, hdisconnected, ?_⟩ hgiven
      rw [hanswer]
      trivial
  | silent =>
    have hgiven : p.given i = none := by
      rw [given, if_neg (not_not.mpr hpending), hanswer]
    dsimp only
    split
    · rename_i hlate
      rw [Bool.and_eq_true, Bool.not_eq_true', decide_eq_true_eq] at hlate
      refine .report _ ⟨hpending, hlate.1, ?_⟩ hgiven
      rw [hanswer]
      exact hlate.2
    · exact .quiet _ hpending hgiven rfl
  | raised error =>
    have hgiven : p.given i = none := by
      rw [given, if_neg (not_not.mpr hpending), hanswer]
    exact .quiet _ hpending hgiven rfl
  | frame frame =>
    have hgiven : p.given i = some frame := by
      rw [given, if_neg (not_not.mpr hpending), hanswer]
    dsimp only
    unfold translate
    cases hbasis : conversion (δ := δ) frame.basis with
    | none => exact .refused frame _ p.lastStreamId hpending hgiven
    | some convert =>
      dsimp only
      have hsame : (p.received frame i.nowNs).translated convert uuid5? frame i.nowNs
          i.processingNs = p.translated convert uuid5? frame i.nowNs i.processingNs := rfl
      rw [hsame]
      cases htranslated : p.translated convert uuid5? frame i.nowNs i.processingNs with
      | error error => exact .refused frame error _ hpending hgiven
      | ok sample => exact .sample frame convert sample _ hpending hgiven hbasis htranslated

end MotionProvider

open MotionProvider

/-! ## Runs -/

section Logs

variable (log : List (ReadRecord δ)) (r : ReadRecord δ)

theorem samplesOf_concat (side : Side) :
    samplesOf side (log ++ [r]) = samplesOf side log ++ sampleNumbers side r.sample.toList := by
  unfold samplesOf sampleNumbers
  rw [List.filterMap_append]
  congr 1
  cases h : r.sample with
  | none => rw [List.filterMap_cons_none (by rw [h]; rfl)]; rfl
  | some sample => simp [List.filterMap_cons, h]

theorem framesOf_concat_some {frame : QuestFrame δ} (h : r.frame = some frame) :
    framesOf frame.side (log ++ [r]) = framesOf frame.side log ++ [frame.sequenceNumber] := by
  unfold framesOf
  rw [List.filterMap_append]
  simp [h]

theorem periodsOf_concat : periodsOf (log ++ [r]) = (periodsOf log).note r :=
  List.foldl_concat ..

end Logs

/-! ### The events -/

/-- What the provider has waiting, and what the current period has yielded. -/
inductive Waiting (provider : MotionProvider δ) (log : List (ReadRecord δ)) : Prop
  | nothing (hpending : provider.pending = [])
      (hcurrent : (periodsOf log).current =
        if provider.disconnected then [.left, .right] else [])
  | right (number : ℤ) (sample : MotionInputSample δ) (hpending : provider.pending = [sample])
      (hevent : IsEvent .right number sample) (hdisconnected : provider.disconnected = true)
      (hcurrent : (periodsOf log).current = [.left])

/-- The invariant of the events. -/
structure Tidy (s : ReadLog δ) : Prop where
  floor : ∀ side, -1 ≤ s.provider.lastSequence side
  waiting : Waiting s.provider s.log
  ended : ∀ sides ∈ (periodsOf s.log).ended, sides = [] ∨ sides = [.left, .right]

/-- A read without a frame leaves the periods that ended. -/
theorem note_silent {periods : Periods} {r : ReadRecord δ} (h : r.frame = none) :
    periods.note r =
      { periods with current := periods.current ++ (r.sample.bind eventSide).toList } := by
  unfold Periods.note
  rw [h]
  exact if_neg nofun

theorem note_frame {periods : Periods} {r : ReadRecord δ} {frame : QuestFrame δ}
    (h : r.frame = some frame) : periods.note r = ⟨periods.ended ++ [periods.current], []⟩ := by
  unfold Periods.note
  rw [h]
  exact if_pos rfl

theorem le_received {p : MotionProvider δ} (frame : QuestFrame δ) (receiveNs : ℤ) (side : Side) :
    p.lastSequence side ≤ (p.received frame receiveNs).lastSequence side := by
  show p.lastSequence side ≤ Function.update p.lastSequence frame.side
    (max (p.lastSequence frame.side) frame.sequenceNumber) side
  by_cases hside : side = frame.side
  · subst hside
    rw [Function.update_self]
    exact le_max_left _ _
  · rw [Function.update_of_ne hside]

/-- A frame ends a period in which nothing is waiting. -/
theorem Tidy.frame {s : ReadLog δ} (h : Tidy s) (hpending : s.provider.pending = [])
    {frame : QuestFrame δ} {r : ReadRecord δ} (hr : r.frame = some frame) (receiveNs : ℤ)
    (streams : Side → String) :
    Tidy ⟨{ s.provider.received frame receiveNs with lastStreamId := streams },
      s.log ++ [r]⟩ := by
  refine ⟨fun side => (h.floor side).trans (le_received frame receiveNs side),
    .nothing hpending ?_, ?_⟩
  · rw [periodsOf_concat, note_frame hr]
    rfl
  rw [periodsOf_concat, note_frame hr]
  intro sides hsides
  rcases List.mem_append.mp hsides with hsides | hsides
  · exact h.ended sides hsides
  rw [List.mem_singleton.mp hsides]
  cases h.waiting with
  | nothing _ hcurrent =>
    rw [hcurrent]
    split
    · exact .inr rfl
    · exact .inl rfl
  | right number sample hpending' => exact absurd (hpending.symm.trans hpending') nofun

/-- **A read keeps the events in order.** -/
theorem Tidy.step {uuid5? : String → Option Uuid} {s : ReadLog δ} {i : ReadInput δ}
    (hversion : versionAdmitted δ umipVersion = true) (h : Tidy s)
    (hi : s.provider.Announces i) : Tidy (s.step uuid5? i) := by
  have hspec := read_spec uuid5? s.provider i
  unfold ReadLog.step
  generalize s.provider.read uuid5? i = outcome at hspec
  cases hspec with
  | pop hpending hgiven =>
    cases h.waiting with
    | nothing hpending' => exact absurd hpending' hpending
    | right number event hpending' hevent hdisconnected hcurrent =>
      refine ⟨h.floor, .nothing ?_ ?_, ?_⟩
      · show s.provider.pending.tail = []
        rw [hpending']
        rfl
      · rw [periodsOf_concat, note_silent hgiven]
        show (periodsOf s.log).current ++ (s.provider.pending.head?.bind eventSide).toList =
          if s.provider.disconnected then _ else _
        rw [hpending', List.head?_cons, Option.bind_some, hcurrent, eventSide,
          if_pos hevent.state, hevent.side, hdisconnected]
        rfl
      · rw [periodsOf_concat, note_silent hgiven]
        exact h.ended
  | quiet result hpending hgiven hresult =>
    cases h.waiting with
    | right number event hpending' => exact absurd (hpending.symm.trans hpending') nofun
    | nothing _ hcurrent =>
      have hsample : ReadRecord.sample ⟨s.provider.given i, result⟩ = none := hresult
      refine ⟨h.floor, .nothing hpending ?_, ?_⟩
      · rw [periodsOf_concat, note_silent hgiven, hsample]
        exact (List.append_nil _).trans hcurrent
      · rw [periodsOf_concat, note_silent hgiven]
        exact h.ended
  | report reason hreports hgiven =>
    obtain ⟨left, right, hleft, hright, hreport⟩ := report_ok hversion hreports.1 h.floor
      (hi.clock hreports) (hi.named hreports) reason i.uuid4
    rw [hreport]
    cases h.waiting with
    | right number event hpending' => exact absurd (hreports.1.symm.trans hpending') nofun
    | nothing _ hcurrent =>
      refine ⟨fun side => ?_, .right _ right rfl hright rfl ?_, ?_⟩
      · have hfloor := h.floor side
        show -1 ≤ s.provider.afterReport side
        cases side <;> simp only [afterReport] <;> omega
      · rw [periodsOf_concat, note_silent hgiven]
        show (periodsOf s.log).current ++ (eventSide left).toList = _
        rw [hcurrent, hreports.2.1, eventSide, if_pos hleft.state, hleft.side]
        rfl
      · rw [periodsOf_concat, note_silent hgiven]
        exact h.ended
  | sample frame convert sample streams hpending hgiven =>
    exact h.frame hpending (r := ⟨_, _⟩) hgiven i.nowNs streams
  | refused frame error streams hpending hgiven =>
    exact h.frame hpending (r := ⟨_, _⟩) hgiven i.nowNs streams

/-- Numbers of each hand that increase up to its last one. -/
structure Numbered (numbers : Side → List ℤ) (last : Side → ℤ) : Prop where
  bound : ∀ side, ∀ n ∈ numbers side, n ≤ last side
  increasing : ∀ side, (numbers side).Pairwise (· < ·)

namespace Numbered

variable {numbers : Side → List ℤ} {last last' : Side → ℤ}

theorem mono (h : Numbered numbers last) (hlast : ∀ side, last side ≤ last' side) :
    Numbered numbers last' :=
  ⟨fun side n hn => (h.bound side n hn).trans (hlast side), h.increasing⟩

theorem concat (h : Numbered numbers last) (sample : MotionInputSample δ)
    (hnumber : last sample.val.side < sample.val.sequenceNumber)
    (hlast : ∀ side, last side ≤ last' side)
    (hbound : sample.val.sequenceNumber ≤ last' sample.val.side) :
    Numbered (fun side => numbers side ++ sampleNumbers side [sample]) last' := by
  have hnumbers (side : Side) : sampleNumbers side [sample] =
      if sample.val.side = side then [sample.val.sequenceNumber] else [] := by
    unfold sampleNumbers numberOf
    by_cases hside : sample.val.side = side <;> simp [hside]
  refine ⟨fun side n hn => ?_, fun side => ?_⟩
  · rcases List.mem_append.mp hn with hn | hn
    · exact (h.bound side n hn).trans (hlast side)
    · rw [hnumbers] at hn
      split_ifs at hn with hside
      · rw [List.mem_singleton.mp hn, ← hside]
        exact hbound
      · exact absurd hn List.not_mem_nil
  · rw [hnumbers]
    split_ifs with hside
    · refine List.pairwise_append.mpr ⟨h.increasing side, List.pairwise_singleton _ _, ?_⟩
      intro n hn m hm
      rw [List.mem_singleton.mp hm]
      exact (h.bound side n hn).trans_lt (hside ▸ hnumber)
    · rw [List.append_nil]
      exact h.increasing side

end Numbered

theorem disconnectSample_eq_ok {p : MotionProvider δ} {side : Side} {sequence timestampNs : ℤ}
    {reason : String} {uuid : Uuid} {sample : MotionInputSample δ}
    (h : p.disconnectSample side sequence reason timestampNs uuid = .ok sample) :
    sample.val.side = side ∧ sample.val.sequenceNumber = sequence := by
  unfold disconnectSample at h
  obtain ⟨timestamp, -, h⟩ := bind_eq_ok.mp h
  rw [construct_eq_ok h]
  exact ⟨rfl, rfl⟩

/-- The numbers that are out, and those that wait. -/
def numbersWith (out : Side → List ℤ) (p : MotionProvider δ) (side : Side) : List ℤ :=
  out side ++ sampleNumbers side p.pending

theorem queueSide_numbered {out : Side → List ℤ} {p : MotionProvider δ}
    (h : Numbered (numbersWith out p) p.lastSequence) (side : Side) (reason : String)
    (timestampNs : ℤ) (uuid : Uuid) {q : MotionProvider δ}
    (hq : q = (p.queueSide side reason timestampNs uuid).2) :
    Numbered (numbersWith out q) q.lastSequence := by
  have hlast : ∀ side', p.lastSequence side' ≤
      Function.update p.lastSequence side (p.lastSequence side + 1) side' := by
    intro side'
    by_cases hside : side' = side
    · subst hside
      rw [Function.update_self]
      omega
    · rw [Function.update_of_ne hside]
  unfold queueSide at hq
  dsimp only at hq
  split at hq
  · rw [hq]
    exact h.mono hlast
  · rename_i sample hsample
    obtain ⟨rfl, hnumber⟩ := disconnectSample_eq_ok hsample
    have hnext := h.concat sample (by omega) hlast
      (by rw [hnumber, Function.update_self])
    rw [hq]
    convert hnext using 2
    unfold numbersWith sampleNumbers
    rw [List.filterMap_append, ← List.append_assoc]

/-- A sample that is taken from the pending ones is out. -/
theorem numbersWith_popleft (log : List (ReadRecord δ)) (frame : Option (QuestFrame δ))
    (p : MotionProvider δ) :
    numbersWith (fun side => samplesOf side (log ++ [⟨frame, p.popleft.1⟩])) p.popleft.2 =
      numbersWith (fun side => samplesOf side log) p := by
  funext side
  unfold numbersWith
  dsimp only
  rw [samplesOf_concat, List.append_assoc]
  congr 1
  unfold sampleNumbers
  rw [← List.filterMap_append]
  congr 1
  show p.pending.head?.toList ++ p.pending.tail = p.pending
  cases p.pending <;> rfl

/-- Of a report no number is lost, whether its events are admitted or not. -/
theorem report_numbered {log : List (ReadRecord δ)} {p : MotionProvider δ}
    (h : Numbered (numbersWith (fun side => samplesOf side log) p) p.lastSequence)
    (frame : Option (QuestFrame δ)) (reason : String) (timestampNs : ℤ) (uuid4 : Side → Uuid) :
    Numbered (numbersWith (fun side => samplesOf side
        (log ++ [⟨frame, (p.report reason timestampNs uuid4).1⟩]))
      (p.report reason timestampNs uuid4).2)
      (p.report reason timestampNs uuid4).2.lastSequence := by
  have hsilent (error : PyError) (q : MotionProvider δ) :
      numbersWith (fun side => samplesOf side (log ++ [⟨frame, .error error⟩])) q =
        numbersWith (fun side => samplesOf side log) q := by
    funext side
    unfold numbersWith
    dsimp only
    rw [samplesOf_concat]
    exact congrArg (· ++ _) (List.append_nil _)
  have hfirst := queueSide_numbered (p := { p with disconnected := true }) h .left reason
    timestampNs (uuid4 .left) rfl
  unfold report queueDisconnect
  generalize queueSide { p with disconnected := true } .left reason timestampNs (uuid4 .left) =
    outcome at hfirst
  obtain ⟨result, q⟩ := outcome
  cases result with
  | error error =>
    dsimp only at hfirst ⊢
    rw [hsilent]
    exact hfirst
  | ok _ =>
    have hsecond := queueSide_numbered hfirst .right reason timestampNs (uuid4 .right) rfl
    dsimp only at hsecond ⊢
    generalize queueSide q .right reason timestampNs (uuid4 .right) = outcome at hsecond
    obtain ⟨result, q'⟩ := outcome
    cases result with
    | error error =>
      dsimp only at hsecond ⊢
      rw [hsilent]
      exact hsecond
    | ok _ =>
      dsimp only at hsecond ⊢
      rw [numbersWith_popleft]
      exact hsecond

/-- The invariant of the numbers, as long as those of the frames increase. -/
def Counted (s : ReadLog δ) : Prop :=
  (∀ side, (framesOf side s.log).Pairwise (· < ·)) →
    Numbered (numbersWith (fun side => samplesOf side s.log) s.provider) s.provider.lastSequence

/-- **A read keeps the numbers in order.** -/
theorem Counted.step {uuid5? : String → Option Uuid} {s : ReadLog δ} {i : ReadInput δ}
    (h : Counted s) (hi : s.Fresh uuid5? i) : Counted (s.step uuid5? i) := by
  intro hframes
  have hbefore : ∀ side, (framesOf side s.log).Pairwise (· < ·) := by
    intro side
    refine (hframes side).sublist ?_
    unfold framesOf ReadLog.step
    rw [List.filterMap_append]
    exact List.sublist_append_left _ _
  have hnumbered := h hbefore
  have hspec := read_spec uuid5? s.provider i
  unfold ReadLog.step at hframes ⊢
  generalize s.provider.read uuid5? i = outcome at hspec hframes ⊢
  cases hspec with
  | pop hpending hgiven =>
    dsimp only
    rw [numbersWith_popleft]
    exact hnumbered
  | quiet result hpending hgiven hresult =>
    have hsame (side : Side) : samplesOf side (s.log ++ [⟨s.provider.given i, result⟩]) =
        samplesOf side s.log := by
      rw [samplesOf_concat, show ReadRecord.sample ⟨s.provider.given i, result⟩ = none from hresult]
      exact List.append_nil _
    dsimp only
    simp only [hsame]
    exact hnumbered
  | report reason hreports hgiven => exact report_numbered hnumbered _ reason i.nowNs i.uuid4
  | sample frame convert sample streams hpending hgiven hconvert htranslated =>
    obtain ⟨hside, hnumber⟩ := translated_eq_ok htranslated
    have habove : ∀ n ∈ framesOf frame.side s.log, n < frame.sequenceNumber := by
      have hpairwise := hframes frame.side
      rw [framesOf_concat_some _ ⟨s.provider.given i, .ok (some sample)⟩ hgiven] at hpairwise
      exact fun n hn => (List.pairwise_append.mp hpairwise).2.2 n hn _ (List.mem_singleton_self _)
    have hfresh := hi frame hgiven convert hconvert sample htranslated habove
    have hnext := hnumbered.concat sample
      (by rw [hside, hnumber]; exact hfresh) (le_received frame i.nowNs) (by
        rw [hside, hnumber]
        show frame.sequenceNumber ≤ Function.update s.provider.lastSequence frame.side
          (max (s.provider.lastSequence frame.side) frame.sequenceNumber) frame.side
        rw [Function.update_self]
        exact le_max_right _ _)
    have hout (side : Side) :
        numbersWith (fun side => samplesOf side (s.log ++
            [⟨s.provider.given i, .ok (some sample)⟩]))
          { s.provider.received frame i.nowNs with lastStreamId := streams } side =
          numbersWith (fun side => samplesOf side s.log) s.provider side ++
            sampleNumbers side [sample] := by
      have hnothing : sampleNumbers side s.provider.pending = [] := by
        rw [hpending]
        rfl
      unfold numbersWith
      dsimp only
      rw [hnothing, List.append_nil, samplesOf_concat]
      exact (congrArg (_ ++ ·) hnothing).trans (List.append_nil _)
    show Numbered (numbersWith _ _) _
    rw [funext hout]
    exact hnext
  | refused frame error streams hpending hgiven =>
    have hsame (side : Side) :
        samplesOf side (s.log ++ [⟨s.provider.given i, .error error⟩]) = samplesOf side s.log := by
      rw [samplesOf_concat]
      exact List.append_nil _
    dsimp only
    simp only [hsame]
    exact hnumbered.mono (le_received frame i.nowNs)

end HandLab.Quest
