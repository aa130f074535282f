import HandLab.Quest.ReceiveLoop

/-!
# Every datagram of the Quest worker is accounted for

The receive thread and the drains of `QuestDatagramReceiverWorker`
(`src/quest_jaka_sim/live_input.py`, lines 60–174) with a ledger of what was
received: a datagram is returned, waits in a channel, or is counted as dropped,
at every point of every interleaving.

* `LoopEffect`: what one step does to the channels.
* `Kept.step`: a step keeps the accounts.
* `run_drainSteps`, `drain_returns`: what a drain returns that nothing interrupts, and
  that a drain returns however the two threads take turns.
* `datagrams_conserved`: the order of the controller datagrams, what a drain
  returns of each modality, and the counters.
-/

namespace HandLab.Quest

open HandLab.Lib QuestDatagramReceiverWorker

/-! ## The channels -/

namespace QuestDatagramReceiverWorker

variable {w : QuestDatagramReceiverWorker}

/-- What the four slots hold, in the order of line 78. -/
def latest (w : QuestDatagramReceiverWorker) : List ReceivedHtsDatagram :=
  [w.latestRightHand, w.latestLeftHand, w.latestHead, w.latestUnclassifiedHts].filterMap id

theorem latest_eq : w.latest =
    [some .rightHand, some .leftHand, some .head, none].filterMap w.slot := rfl

/-- A slot that is set holds one datagram more if it was empty. -/
theorem length_latest_setSlot (modality : Option Modality) (d : ReceivedHtsDatagram) :
    (w.setSlot modality d).latest.length + (w.slot modality).toList.length =
      w.latest.length + 1 := by
  obtain ⟨capacity, queue, right, left, head, unclassified, counts⟩ := w
  rcases modality with _ | modality
  · cases unclassified <;> cases right <;> cases left <;> cases head <;> rfl
  · cases modality <;>
      cases unclassified <;> cases right <;> cases left <;> cases head <;> rfl

/-- Where every slot holds what lands in it, the slots return one datagram a modality. -/
theorem filter_latest (h : ∀ modality, ∀ d ∈ w.slot modality, Lands modality d = true)
    (modality : Option Modality) :
    w.latest.filter (Lands modality) = (w.slot modality).toList := by
  have hslot : ∀ other, (w.slot other).filter (Lands modality) =
      if other = modality then w.slot other else none := by
    intro other
    cases hother : w.slot other with
    | none => simp
    | some d =>
      have hlands := h other d hother
      rw [Option.filter_some]
      by_cases hsame : other = modality
      · subst hsame
        rw [if_pos hlands, if_pos rfl]
      · rw [if_neg hsame, if_neg]
        intro hboth
        simp only [Lands, Bool.and_eq_true, decide_eq_true_eq] at hlands hboth
        exact hsame (hlands.2.symm.trans hboth.2)
  rw [latest_eq, List.filter_filterMap]
  simp only [hslot]
  rcases modality with _ | modality
  · cases hslot : w.slot none <;> simp [hslot]
  · cases modality
    · cases hslot : w.slot (some .rightHand) <;> simp [hslot]
    · cases hslot : w.slot (some .leftHand) <;> simp [hslot]
    · cases hslot : w.slot (some .head) <;> simp [hslot]

theorem latest_eq_nil (h : ∀ modality, w.slot modality = none) : w.latest = [] := by
  rw [latest_eq]
  simp [h]

/-- A datagram of the loop body: a controller datagram is queued or counted, another one
    takes its slot, which was empty or is counted. -/
theorem receive_cases (w : QuestDatagramReceiverWorker) (d : ReceivedHtsDatagram) :
    (d.isController = true ∧ (w.receive d).latest = w.latest ∧
      ((w.receive d).queue.map Subtype.val = w.queue.map Subtype.val ++ [d] ∧
          (w.receive d).counts = w.counts ∨
        (w.receive d).queue = w.queue ∧
          (w.receive d).counts =
            { w.counts with
              dropped := w.counts.dropped + 1
              droppedController := w.counts.droppedController + 1 })) ∨
    (d.isController = false ∧ (w.receive d).queue = w.queue ∧
      ((w.receive d).latest.length = w.latest.length + 1 ∧ (w.receive d).counts = w.counts ∨
        (w.receive d).latest.length = w.latest.length ∧
          (w.receive d).counts = ReceiverCounts.displaced w.counts d.modality?)) := by
  unfold receive
  by_cases h : d.isController = true
  · refine .inl ⟨h, ?_⟩
    rw [dif_pos h]
    unfold enqueue
    split
    · refine ⟨rfl, .inl ⟨?_, rfl⟩⟩
      simp
    · exact ⟨rfl, .inr ⟨rfl, rfl⟩⟩
  · refine .inr ⟨by simpa using h, ?_⟩
    rw [dif_neg h]
    have hlength := length_latest_setSlot (w := w) d.modality? d
    unfold storeLatestHts
    cases hslot : w.slot d.modality? with
    | none =>
      rw [hslot] at hlength
      refine ⟨?_, .inl ⟨hlength, ?_⟩⟩
      · rcases d.modality? with _ | modality
        · rfl
        · cases modality <;> rfl
      · rcases d.modality? with _ | modality
        · rfl
        · cases modality <;> rfl
    | some old =>
      rw [hslot] at hlength
      refine ⟨?_, .inr ⟨?_, ?_⟩⟩
      · rcases d.modality? with _ | modality
        · rfl
        · cases modality <;> rfl
      · refine Nat.succ_injective (Eq.trans (congrArg Nat.succ ?_) hlength)
        rcases d.modality? with _ | modality
        · rfl
        · cases modality <;> rfl
      · rcases d.modality? with _ | modality
        · rfl
        · cases modality <;> rfl

end QuestDatagramReceiverWorker

/-- The controller datagrams among them. -/
def controllers (ds : List ReceivedHtsDatagram) : List ReceivedHtsDatagram :=
  ds.filter fun d => d.isController

theorem controllers_append (ds es : List ReceivedHtsDatagram) :
    controllers (ds ++ es) = controllers ds ++ controllers es := List.filter_append ds es

theorem controllers_val (queue : List { d : ReceivedHtsDatagram // d.isController = true }) :
    controllers (queue.map Subtype.val) = queue.map Subtype.val := by
  refine List.filter_eq_self.mpr fun d hd => ?_
  obtain ⟨c, -, rfl⟩ := List.mem_map.mp hd
  exact c.2

/-! ## What a step does -/

namespace ReceiveLoop

variable {r : HtsUdpReceiver} {s : ReceiveLoop}

/-- What the drain under way has taken. -/
def popped (s : ReceiveLoop) : List ReceivedHtsDatagram := (s.draining.map Draining.datagrams).getD []

/-- What the drains have returned, in order. -/
def returned (s : ReceiveLoop) : List ReceivedHtsDatagram := s.drained.flatten

/-- What waits: for the drain under way to return, in the queue, and in the slots. -/
def pending (s : ReceiveLoop) : List ReceivedHtsDatagram :=
  s.popped ++ s.worker.queue.map Subtype.val ++ s.worker.latest

/-- What the event makes the loop receive. Where `record` raises, the datagram does
    not reach the channels. -/
def arrivals (r : HtsUdpReceiver) (s : ReceiveLoop) : LoopEvent → List ReceivedHtsDatagram
  | .datagram d none =>
    if s.phase = .receiving then
      match r.receive d with
      | .ok received => [received]
      | .error _ => []
    else []
  | _ => []

/-- What one step does to the channels, with what it receives. -/
inductive LoopEffect (s next : ReceiveLoop) : List ReceivedHtsDatagram → Prop
  | quiet (worker : next.worker = s.worker) (popped : next.popped = s.popped)
    (drained : next.drained = s.drained) : LoopEffect s next []
  | stored (d : ReceivedHtsDatagram) (worker : next.worker = s.worker.receive d)
    (popped : next.popped = s.popped) (drained : next.drained = s.drained) :
    LoopEffect s next [d]
  | taken (d : { d : ReceivedHtsDatagram // d.isController = true })
    (queue : List { d : ReceivedHtsDatagram // d.isController = true })
    (before : s.worker.queue = d :: queue) (worker : next.worker = { s.worker with queue })
    (popped : next.popped = s.popped ++ [d.1]) (drained : next.drained = s.drained) :
    LoopEffect s next []
  | finished (queue : next.worker.queue = s.worker.queue)
    (counts : next.worker.counts = s.worker.counts)
    (slots : ∀ modality, next.worker.slot modality = none) (popped : next.popped = [])
    (drained : next.drained = s.drained ++ [s.popped ++ s.worker.latest]) :
    LoopEffect s next []

theorem drainStep_effect {draining : Draining} (h : s.draining = some draining) :
    LoopEffect s (s.drainStep draining) [] := by
  have hpopped : s.popped = draining.datagrams := by simp [popped, h]
  have hfinished : LoopEffect s (s.takeLatest draining.datagrams) [] := by
    refine .finished rfl rfl (fun modality => ?_) rfl ?_
    · rcases modality with _ | modality
      · rfl
      · cases modality <;> rfl
    · rw [hpopped]
      rfl
  unfold drainStep
  split
  · split
    · exact hfinished
    · rename_i d queue hqueue
      refine .taken d queue hqueue rfl ?_ rfl
      rw [hpopped]
      rfl
  · exact hfinished

theorem onDatagram_effect (d : UdpDatagram) (hphase : s.phase = .receiving)
    (recorded : Option ReceiveError) :
    LoopEffect s (s.onDatagram r d recorded) (s.arrivals r (.datagram d recorded)) := by
  unfold onDatagram
  cases recorded with
  | some error =>
    cases r.receive d with
    | error _ => exact .quiet rfl rfl rfl
    | ok received => exact .quiet rfl rfl rfl
  | none =>
    unfold arrivals
    dsimp only
    rw [if_pos hphase]
    cases r.receive d with
    | error _ => exact .quiet rfl rfl rfl
    | ok received => exact .stored received rfl rfl rfl

/-- **One step** of either thread. -/
theorem step_effect (s : ReceiveLoop) (e : LoopEvent) :
    LoopEffect s (step r s e) (s.arrivals r e) := by
  cases e with
  | opened failure =>
    simp only [step]
    split
    · cases failure with
      | none => exact .quiet rfl rfl rfl
      | some error => exact .quiet rfl rfl rfl
    · exact .quiet rfl rfl rfl
  | check =>
    simp only [step]
    split <;> exact .quiet rfl rfl rfl
  | timeout =>
    simp only [step]
    split <;> exact .quiet rfl rfl rfl
  | socketFailure text =>
    simp only [step]
    split <;> exact .quiet rfl rfl rfl
  | datagram d recorded =>
    simp only [step]
    split
    · rename_i hphase
      exact onDatagram_effect d hphase recorded
    · rename_i hphase
      have hnone : s.arrivals r (.datagram d recorded) = [] := by
        cases recorded with
        | none => exact if_neg hphase
        | some error => rfl
      rw [hnone]
      exact .quiet rfl rfl rfl
  | close => exact .quiet rfl rfl rfl
  | drain limit =>
    simp only [step]
    cases hdraining : s.draining with
    | none =>
      refine .quiet rfl ?_ rfl
      simp [popped, hdraining]
    | some draining => exact .quiet rfl rfl rfl
  | drainStep =>
    simp only [step]
    cases hdraining : s.draining with
    | none => exact .quiet rfl rfl rfl
    | some draining => exact drainStep_effect hdraining
  | raiseIfFailed => exact .quiet rfl rfl rfl

end ReceiveLoop

/-! ## The ledger -/

open ReceiveLoop

/-- The loop with what it has received: between two exchanges of the slots, for every
    drain that has returned, and since the last exchange. -/
structure ReceiveLedger where
  loop : ReceiveLoop
  spans : List (List ReceivedHtsDatagram)
  span : List ReceivedHtsDatagram

namespace ReceiveLedger

def init (capacity : ℕ) : ReceiveLedger := ⟨.init capacity, [], []⟩

/-- A step of the loop, which may receive a datagram or return from a drain. -/
def step (r : HtsUdpReceiver) (l : ReceiveLedger) (e : LoopEvent) : ReceiveLedger :=
  let next := ReceiveLoop.step r l.loop e
  if next.drained.length = l.loop.drained.length then
    { l with loop := next, span := l.span ++ l.loop.arrivals r e }
  else { loop := next, spans := l.spans ++ [l.span], span := [] }

/-- All that was received, in order. -/
def received (l : ReceiveLedger) : List ReceivedHtsDatagram := l.spans.flatten ++ l.span

end ReceiveLedger

/-- What a drain returned of each modality is the newest that was received in the span. -/
def Newest (returned span : List ReceivedHtsDatagram) : Prop :=
  ∀ modality, returned.filter (Lands modality) = ((span.filter (Lands modality)).getLast?).toList

/-- The accounts of the ledger. -/
structure Conserved (l : ReceiveLedger) : Prop where
  /-- the controller datagrams are returned in order, each at most once, and those that
      wait come after them -/
  inOrder : (controllers l.loop.returned ++ controllers l.loop.pending).Sublist
    (controllers l.received)
  /-- a drain returns the newest of each modality since the one before it -/
  newest : List.Forall₂ Newest l.loop.drained l.spans
  balance : l.received.length =
    l.loop.returned.length + l.loop.worker.counts.dropped + l.loop.pending.length
  dropped : l.loop.worker.counts.dropped =
    l.loop.worker.counts.droppedController + l.loop.worker.counts.droppedHandHead
  /-- what is neither returned nor waits is counted -/
  droppedController : (controllers l.received).length =
    (controllers l.loop.returned).length + (controllers l.loop.pending).length +
      l.loop.worker.counts.droppedController

/-- What the channels hold, with the accounts of it. -/
structure Kept (l : ReceiveLedger) : Prop where
  popped : controllers l.loop.popped = l.loop.popped
  slot : ∀ modality, l.loop.worker.slot modality = (l.span.filter (Lands modality)).getLast?
  newest : List.Forall₂ Newest l.loop.drained l.spans
  inOrder : (controllers l.loop.returned ++ (l.loop.popped ++
    l.loop.worker.queue.map Subtype.val)).Sublist (controllers l.received)
  droppedController : (controllers l.received).length =
    (controllers l.loop.returned).length +
      (l.loop.popped.length + l.loop.worker.queue.length) +
      l.loop.worker.counts.droppedController
  balance : l.received.length = l.loop.returned.length + l.loop.worker.counts.dropped +
    (l.loop.popped.length + l.loop.worker.queue.length + l.loop.worker.latest.length)
  dropped : l.loop.worker.counts.dropped =
    l.loop.worker.counts.droppedController + l.loop.worker.counts.droppedHandHead

namespace Kept

variable {l : ReceiveLedger} {r : HtsUdpReceiver}

theorem init (capacity : ℕ) : Kept (.init capacity) where
  popped := rfl
  slot modality := by
    rcases modality with _ | modality
    · rfl
    · cases modality <;> rfl
  newest := .nil
  inOrder := .slnil
  droppedController := rfl
  balance := rfl
  dropped := rfl

theorem lands (h : Kept l) (modality : Option Modality) :
    ∀ d ∈ l.loop.worker.slot modality, Lands modality d = true := by
  intro d hd
  rw [h.slot] at hd
  exact (List.mem_filter.mp (List.mem_of_getLast? hd)).2

/-- The slots hold no controller datagram. -/
theorem controllers_latest (h : Kept l) : controllers l.loop.worker.latest = [] := by
  refine List.filter_eq_nil_iff.mpr fun d hd hcontroller => ?_
  obtain ⟨modality, -, hslot⟩ := List.mem_filterMap.mp (latest_eq ▸ hd)
  have hlands := h.lands modality d hslot
  simp [Lands, hcontroller] at hlands

theorem conserved (h : Kept l) : Conserved l := by
  have hpending : controllers l.loop.pending =
      l.loop.popped ++ l.loop.worker.queue.map Subtype.val := by
    unfold pending
    rw [controllers_append, controllers_append, h.popped, controllers_val, h.controllers_latest,
      List.append_nil]
  constructor
  · rw [hpending]
    exact h.inOrder
  · exact h.newest
  · rw [h.balance]
    unfold pending
    simp only [List.length_append, List.length_map]
  · exact h.dropped
  · rw [h.droppedController, hpending, List.length_append, List.length_map]

/-- What the drain under way will return. -/
theorem newest_returned (h : Kept l) : Newest (l.loop.popped ++ l.loop.worker.latest) l.span := by
  intro modality
  have hpopped : l.loop.popped.filter (Lands modality) = [] := by
    refine List.filter_eq_nil_iff.mpr fun d hd hlands => ?_
    rw [← h.popped] at hd
    have hcontroller := (List.mem_filter.mp hd).2
    simp [Lands, hcontroller] at hlands
  rw [List.filter_append, hpopped, List.nil_append, filter_latest h.lands, h.slot]

end Kept

namespace ReceiveLedger

variable {l : ReceiveLedger} {r : HtsUdpReceiver} {e : LoopEvent}

theorem step_of_drained (h : (ReceiveLoop.step r l.loop e).drained = l.loop.drained) :
    l.step r e =
      { l with loop := ReceiveLoop.step r l.loop e, span := l.span ++ l.loop.arrivals r e } := by
  unfold step
  dsimp only
  rw [h, if_pos rfl]

theorem step_of_returns {datagrams : List ReceivedHtsDatagram}
    (h : (ReceiveLoop.step r l.loop e).drained = l.loop.drained ++ [datagrams]) :
    l.step r e =
      { loop := ReceiveLoop.step r l.loop e, spans := l.spans ++ [l.span], span := [] } := by
  unfold step
  dsimp only
  rw [h, if_neg (by simp)]

end ReceiveLedger

/-! ## Every step keeps the accounts -/

namespace Kept

variable {l : ReceiveLedger} {next : ReceiveLoop}

theorem quiet (h : Kept l) (worker : next.worker = l.loop.worker)
    (popped : next.popped = l.loop.popped) (drained : next.drained = l.loop.drained) :
    Kept { l with loop := next } where
  popped := by
    rw [popped]
    exact h.popped
  slot := by
    rw [worker]
    exact h.slot
  newest := by
    rw [drained]
    exact h.newest
  inOrder := by
    unfold returned
    rw [worker, popped, drained]
    exact h.inOrder
  droppedController := by
    unfold returned
    rw [worker, popped, drained]
    exact h.droppedController
  balance := by
    unfold returned
    rw [worker, popped, drained]
    exact h.balance
  dropped := by
    rw [worker]
    exact h.dropped

theorem taken (h : Kept l) {d : { d : ReceivedHtsDatagram // d.isController = true }}
    {queue : List { d : ReceivedHtsDatagram // d.isController = true }}
    (before : l.loop.worker.queue = d :: queue) (worker : next.worker = { l.loop.worker with queue })
    (popped : next.popped = l.loop.popped ++ [d.1]) (drained : next.drained = l.loop.drained) :
    Kept { l with loop := next } where
  popped := by
    rw [popped, controllers_append, h.popped]
    exact congrArg _ (controllers_val [d])
  slot modality := by
    rw [← h.slot modality, worker]
    rcases modality with _ | modality
    · rfl
    · cases modality <;> rfl
  newest := by
    rw [drained]
    exact h.newest
  inOrder := by
    have hinOrder := h.inOrder
    unfold returned at hinOrder ⊢
    rw [before] at hinOrder
    rw [worker, popped, drained, List.append_assoc l.loop.popped]
    exact hinOrder
  droppedController := by
    have hcount := h.droppedController
    have hcounts : next.worker.counts = l.loop.worker.counts := by rw [worker]
    have hqueue : next.worker.queue = queue := by rw [worker]
    unfold returned at hcount ⊢
    rw [before, List.length_cons] at hcount
    rw [hcounts, hqueue, popped, drained, List.length_append, List.length_singleton]
    refine hcount.trans ?_
    omega
  balance := by
    have hbalance := h.balance
    have hcounts : next.worker.counts = l.loop.worker.counts := by rw [worker]
    have hqueue : next.worker.queue = queue := by rw [worker]
    have hlatest : next.worker.latest = l.loop.worker.latest := by rw [worker]; rfl
    unfold returned at hbalance ⊢
    rw [before, List.length_cons] at hbalance
    rw [hcounts, hqueue, hlatest, popped, drained, List.length_append, List.length_singleton]
    refine hbalance.trans ?_
    omega
  dropped := by
    rw [worker]
    exact h.dropped

theorem finished (h : Kept l) (queue : next.worker.queue = l.loop.worker.queue)
    (counts : next.worker.counts = l.loop.worker.counts)
    (slots : ∀ modality, next.worker.slot modality = none) (popped : next.popped = [])
    (drained : next.drained = l.loop.drained ++ [l.loop.popped ++ l.loop.worker.latest]) :
    Kept { loop := next, spans := l.spans ++ [l.span], span := [] } := by
  have hreceived : ({ loop := next, spans := l.spans ++ [l.span], span := [] } :
      ReceiveLedger).received = l.received := by
    unfold ReceiveLedger.received
    simp
  have hreturned : next.returned =
      l.loop.returned ++ (l.loop.popped ++ l.loop.worker.latest) := by
    unfold returned
    rw [drained, List.flatten_concat]
  have hcontrollers : controllers next.returned = controllers l.loop.returned ++ l.loop.popped := by
    rw [hreturned, controllers_append, controllers_append, h.popped, h.controllers_latest,
      List.append_nil]
  constructor
  · rw [popped]
    rfl
  · exact fun modality => slots modality
  · rw [drained]
    exact List.rel_append h.newest (.cons h.newest_returned .nil)
  · rw [hreceived, hcontrollers, popped, queue, List.nil_append, List.append_assoc]
    exact h.inOrder
  · have hcount := h.droppedController
    rw [hreceived, hcontrollers, popped, queue, counts, hcount, List.length_append, List.length_nil]
    omega
  · have hbalance := h.balance
    rw [hreceived, hreturned, popped, queue, counts, hbalance, latest_eq_nil slots,
      List.length_append, List.length_append, List.length_nil]
    omega
  · rw [counts]
    exact h.dropped

theorem slot_concat (h : Kept l) (d : ReceivedHtsDatagram) (modality : Option Modality) :
    (l.loop.worker.receive d).slot modality =
      ((l.span ++ [d]).filter (Lands modality)).getLast? := by
  rw [slot_receive, h.slot, List.filter_append]
  by_cases hlands : Lands modality d = true
  · rw [if_pos hlands, List.filter_cons_of_pos hlands]
    simp
  · rw [if_neg hlands, List.filter_cons_of_neg hlands]
    simp

/-- The accounts after one datagram more, from those of the controller datagrams and
    those of all. -/
theorem of_received (h : Kept l) {d : ReceivedHtsDatagram}
    (worker : next.worker = l.loop.worker.receive d) (popped : next.popped = l.loop.popped)
    (drained : next.drained = l.loop.drained)
    (inOrder : (next.worker.queue.map Subtype.val).Sublist
      (l.loop.worker.queue.map Subtype.val ++ controllers [d]))
    (droppedController : next.worker.queue.length + next.worker.counts.droppedController =
      l.loop.worker.queue.length + l.loop.worker.counts.droppedController +
        (controllers [d]).length)
    (balance : next.worker.counts.dropped + next.worker.queue.length + next.worker.latest.length =
      l.loop.worker.counts.dropped + l.loop.worker.queue.length + l.loop.worker.latest.length + 1)
    (dropped : next.worker.counts.dropped =
      next.worker.counts.droppedController + next.worker.counts.droppedHandHead) :
    Kept { l with loop := next, span := l.span ++ [d] } := by
  have hreceived : ({ l with loop := next, span := l.span ++ [d] } : ReceiveLedger).received =
      l.received ++ [d] := by
    unfold ReceiveLedger.received
    simp
  have hreturned : next.returned = l.loop.returned := by
    unfold returned
    rw [drained]
  constructor
  · rw [popped]
    exact h.popped
  · intro modality
    rw [worker]
    exact h.slot_concat d modality
  · rw [drained]
    exact h.newest
  · rw [hreceived, hreturned, popped, controllers_append]
    refine List.Sublist.trans ?_ (h.inOrder.append_right _)
    rw [List.append_assoc, List.append_assoc]
    exact (inOrder.append_left _).append_left _
  · have hcount := h.droppedController
    rw [hreceived, hreturned, popped, controllers_append, List.length_append, hcount]
    dsimp only
    omega
  · have hbalance := h.balance
    rw [hreceived, hreturned, popped, List.length_append, List.length_singleton, hbalance]
    dsimp only
    omega
  · exact dropped

theorem stored (h : Kept l) {d : ReceivedHtsDatagram}
    (worker : next.worker = l.loop.worker.receive d) (popped : next.popped = l.loop.popped)
    (drained : next.drained = l.loop.drained) :
    Kept { l with loop := next, span := l.span ++ [d] } := by
  have hdropped := h.dropped
  have hkept (hqueue : next.worker.queue = l.loop.worker.queue) :
      (next.worker.queue.map Subtype.val).Sublist
        (l.loop.worker.queue.map Subtype.val ++ controllers [d]) := by
    rw [hqueue]
    exact List.sublist_append_left _ _
  have hnone (hcontroller : d.isController = false) : controllers [d] = [] :=
    List.filter_cons_of_neg (by simp [hcontroller])
  have hcases := receive_cases l.loop.worker d
  rw [← worker] at hcases
  rcases hcases with ⟨hcontroller, hlatest, ⟨hqueue, hcounts⟩ | ⟨hqueue, hcounts⟩⟩ |
    ⟨hcontroller, hqueue, ⟨hlatest, hcounts⟩ | ⟨hlatest, hcounts⟩⟩
  · have hlength : next.worker.queue.length = l.loop.worker.queue.length + 1 := by
      rw [← List.length_map Subtype.val, hqueue, List.length_append, List.length_map]
      rfl
    have hone : controllers [d] = [d] := List.filter_cons_of_pos hcontroller
    refine h.of_received worker popped drained ?_ ?_ ?_ ?_
    · rw [hqueue, hone]
    · rw [hlength, hcounts, hone, List.length_singleton]
      omega
    · rw [hlength, hcounts, hlatest]
      omega
    · rw [hcounts]
      exact hdropped
  · have hone : controllers [d] = [d] := List.filter_cons_of_pos hcontroller
    refine h.of_received worker popped drained (hkept hqueue) ?_ ?_ ?_
    · rw [hqueue, hcounts, hone, List.length_singleton]
      dsimp only
      omega
    · rw [hqueue, hcounts, hlatest]
      dsimp only
      omega
    · rw [hcounts]
      dsimp only
      omega
  · refine h.of_received worker popped drained (hkept hqueue) ?_ ?_ ?_
    · rw [hqueue, hcounts, hnone hcontroller, List.length_nil, Nat.add_zero]
    · rw [hqueue, hcounts, hlatest]
      omega
    · rw [hcounts]
      exact hdropped
  · refine h.of_received worker popped drained (hkept hqueue) ?_ ?_ ?_
    · rw [hqueue, hcounts, hnone hcontroller, List.length_nil, Nat.add_zero]
      rfl
    · rw [hqueue, hcounts, hlatest]
      unfold ReceiverCounts.displaced
      dsimp only
      omega
    · rw [hcounts]
      unfold ReceiverCounts.displaced
      dsimp only
      omega

/-- **One step** keeps the accounts. -/
theorem step (h : Kept l) (r : HtsUdpReceiver) (e : LoopEvent) : Kept (l.step r e) := by
  have heffect := step_effect (r := r) l.loop e
  generalize harrivals : l.loop.arrivals r e = arrivals at heffect
  cases heffect with
  | quiet worker popped drained =>
    rw [ReceiveLedger.step_of_drained drained, harrivals, List.append_nil]
    exact h.quiet worker popped drained
  | stored d worker popped drained =>
    rw [ReceiveLedger.step_of_drained drained, harrivals]
    exact h.stored worker popped drained
  | taken d queue before worker popped drained =>
    rw [ReceiveLedger.step_of_drained drained, harrivals, List.append_nil]
    exact h.taken before worker popped drained
  | finished queue counts slots popped drained =>
    rw [ReceiveLedger.step_of_returns drained]
    exact h.finished queue counts slots popped drained

end Kept

theorem ledger_loop (r : HtsUdpReceiver) (capacity : ℕ) (es : List LoopEvent) :
    (run (ReceiveLedger.step r) (.init capacity) es).loop =
      run (ReceiveLoop.step r) (.init capacity) es := by
  have hstep (l : ReceiveLedger) (s : ReceiveLoop) (e : LoopEvent) (h : l.loop = s) :
      (ReceiveLedger.step r l e).loop = ReceiveLoop.step r s e := by
    subst h
    unfold ReceiveLedger.step
    dsimp only
    split <;> rfl
  exact run_related (R := fun (l : ReceiveLedger) s => l.loop = s) hstep rfl es

/-! ## Drains return -/

/-- Whether the event may fill a channel. -/
def LoopEvent.isDatagram : LoopEvent → Bool
  | .datagram _ _ => true
  | _ => false

def LoopEvent.isDrainStep : LoopEvent → Bool
  | .drainStep => true
  | _ => false

/-- How many datagrams a drain may still take, of those that wait or are to come. -/
def Draining.room (draining : Draining) (available : ℕ) : ℕ :=
  match draining.limit with
  | none => available
  | some limit => min available (limit - draining.datagrams.length)

/-- How many of the controller datagrams that wait a drain takes. -/
def takes (limit : Option ℤ) (waiting : ℕ) : ℕ :=
  match limit with
  | none => waiting
  | some n => min waiting (max 1 n).toNat

namespace ReceiveLoop

variable {r : HtsUdpReceiver} {s : ReceiveLoop} {draining : Draining}

theorem room_succ (hwants : Draining.wants draining = true) (available : ℕ)
    (d : ReceivedHtsDatagram) :
    draining.room (available + 1) =
      { draining with datagrams := draining.datagrams ++ [d] }.room available + 1 := by
  obtain ⟨limit, datagrams⟩ := draining
  cases limit with
  | none => rfl
  | some limit =>
    have hlt : datagrams.length < limit := by simpa [Draining.wants] using hwants
    simp only [Draining.room, List.length_append, List.length_singleton]
    omega

theorem room_eq_zero (hwants : Draining.wants draining = false) (available : ℕ) :
    draining.room available = 0 := by
  obtain ⟨limit, datagrams⟩ := draining
  cases limit with
  | none => cases hwants
  | some limit =>
    have hle : limit ≤ datagrams.length := by simpa [Draining.wants] using hwants
    simp only [Draining.room]
    omega

theorem room_zero : draining.room 0 = 0 := by
  unfold Draining.room
  cases draining.limit with
  | none => rfl
  | some limit => exact Nat.zero_min _

theorem room_mono {a b : ℕ} (h : a ≤ b) : draining.room a ≤ draining.room b := by
  unfold Draining.room
  cases draining.limit with
  | none => exact h
  | some limit => exact min_le_min_right _ h

/-- **A drain that nothing interrupts** takes the first controller datagrams that wait, as
    many as it has room for, and then the slots. -/
theorem run_drainSteps (h : s.draining = some draining) :
    (run (step r) s
        (List.replicate (draining.room s.worker.queue.length + 1) .drainStep)).draining = none ∧
      (run (step r) s
        (List.replicate (draining.room s.worker.queue.length + 1) .drainStep)).drained =
          s.drained ++ [draining.datagrams ++
            (s.worker.queue.map Subtype.val).take (draining.room s.worker.queue.length) ++
            s.worker.latest] := by
  generalize hqueue : s.worker.queue = queue
  induction queue generalizing s draining with
  | nil =>
    have hstep : step r s .drainStep = s.takeLatest draining.datagrams := by
      simp only [step, h, drainStep, hqueue]
      split <;> rfl
    rw [List.length_nil, room_zero, List.replicate_one, run_cons, run_nil, hstep, List.map_nil,
      List.take_nil, List.append_nil]
    exact ⟨rfl, rfl⟩
  | cons d queue ih =>
    rw [List.length_cons]
    cases hwants : Draining.wants draining with
    | false =>
      have hstep : step r s .drainStep = s.takeLatest draining.datagrams := by
        simp [step, h, drainStep, hwants]
      rw [room_eq_zero hwants, List.replicate_one, run_cons, run_nil, hstep, List.take_zero,
        List.append_nil]
      exact ⟨rfl, rfl⟩
    | true =>
      have hstep : step r s .drainStep =
          { s with
            worker := { s.worker with queue }
            draining := some { draining with datagrams := draining.datagrams ++ [d.1] } } := by
        simp [step, h, drainStep, hwants, hqueue]
      rw [room_succ hwants queue.length d.1, List.replicate_succ, run_cons, hstep]
      obtain ⟨hnone, hdrained⟩ := ih (s := { s with
        worker := { s.worker with queue }
        draining := some { draining with datagrams := draining.datagrams ++ [d.1] } }) rfl rfl
      refine ⟨hnone, hdrained.trans ?_⟩
      rw [List.map_cons, List.take_succ_cons]
      simp only [List.append_assoc, List.singleton_append]
      rfl

theorem length_queue_receive (w : QuestDatagramReceiverWorker) (d : ReceivedHtsDatagram) :
    (w.receive d).queue.length ≤ w.queue.length + 1 := by
  rcases receive_cases w d with ⟨-, -, ⟨hqueue, -⟩ | ⟨hqueue, -⟩⟩ | ⟨-, hqueue, -⟩
  · rw [← List.length_map Subtype.val, hqueue, List.length_append, List.length_map]
    rfl
  · rw [hqueue]
    exact Nat.le_succ _
  · rw [hqueue]
    exact Nat.le_succ _

/-- Every other step leaves the drain under way, and queues a datagram at most. -/
theorem step_other {e : LoopEvent} (hdraining : s.draining = some draining)
    (hother : e.isDrainStep = false) :
    (step r s e).draining = some draining ∧ (step r s e).drained = s.drained ∧
      (step r s e).worker.queue.length ≤
        s.worker.queue.length + if e.isDatagram then 1 else 0 := by
  cases e with
  | opened failure =>
    simp only [step]
    split
    · cases failure <;> exact ⟨hdraining, rfl, le_rfl⟩
    · exact ⟨hdraining, rfl, le_rfl⟩
  | check =>
    simp only [step]
    split <;> exact ⟨hdraining, rfl, le_rfl⟩
  | timeout =>
    simp only [step]
    split <;> exact ⟨hdraining, rfl, le_rfl⟩
  | socketFailure text =>
    simp only [step]
    split <;> exact ⟨hdraining, rfl, le_rfl⟩
  | datagram d recorded =>
    simp only [step]
    split
    · unfold onDatagram
      cases r.receive d with
      | error _ => exact ⟨hdraining, rfl, Nat.le_succ _⟩
      | ok received =>
        cases recorded with
        | some error => exact ⟨hdraining, rfl, Nat.le_succ _⟩
        | none => exact ⟨hdraining, rfl, length_queue_receive s.worker received⟩
    · exact ⟨hdraining, rfl, Nat.le_succ _⟩
  | close => exact ⟨hdraining, rfl, le_rfl⟩
  | drain limit =>
    have hstep : step r s (.drain limit) = s := by
      simp only [step, hdraining]
    rw [hstep]
    exact ⟨hdraining, rfl, le_rfl⟩
  | drainStep => cases hother
  | raiseIfFailed => exact ⟨hdraining, rfl, le_rfl⟩

/-- No step takes back what a drain has returned. -/
theorem length_drained_step (e : LoopEvent) :
    s.drained.length ≤ (step r s e).drained.length := by
  have heffect := step_effect (r := r) s e
  generalize s.arrivals r e = arrivals at heffect
  cases heffect with
  | quiet _ _ drained => rw [drained]
  | stored _ _ _ drained => rw [drained]
  | taken _ _ _ _ _ drained => rw [drained]
  | finished _ _ _ _ drained =>
    rw [drained, List.length_append]
    exact Nat.le_add_right _ _

theorem length_drained_run (later : List LoopEvent) :
    s.drained.length ≤ (run (step r) s later).drained.length := by
  induction later generalizing s with
  | nil => exact le_rfl
  | cons e later ih => exact (length_drained_step e).trans ih

/-- **A drain returns** once the steps it takes are more than the datagrams it has room
    for, of those that wait and those that come, in whatever order the threads step. -/
theorem drain_returns {later : List LoopEvent} (h : s.draining = some draining)
    (hsteps : draining.room (s.worker.queue.length + later.countP LoopEvent.isDatagram) <
      later.countP LoopEvent.isDrainStep) :
    s.drained.length < (run (step r) s later).drained.length := by
  induction later generalizing s draining with
  | nil => exact absurd hsteps (Nat.not_lt_zero _)
  | cons e later ih =>
    rw [run_cons]
    cases hdrainStep : e.isDrainStep with
    | false =>
      obtain ⟨hdraining, hdrained, hqueue⟩ := step_other (r := r) h hdrainStep
      rw [← hdrained]
      refine ih hdraining ?_
      rw [List.countP_cons (p := LoopEvent.isDatagram), List.countP_cons_of_neg (by simp [hdrainStep])]
        at hsteps
      exact (room_mono (by omega)).trans_lt hsteps
    | true =>
      have heq : e = .drainStep := by
        cases e <;> first | rfl | cases hdrainStep
      subst heq
      rw [List.countP_cons_of_pos hdrainStep, List.countP_cons_of_neg (by simp [LoopEvent.isDatagram])]
        at hsteps
      have hstep : step r s .drainStep = s.drainStep draining := by
        simp only [step, h]
      rw [hstep]
      unfold drainStep
      -- either the drain returns now, or it has taken a datagram that it had room for
      have hreturns : s.drained.length <
          (run (step r) (s.takeLatest draining.datagrams) later).drained.length := by
        refine lt_of_lt_of_le ?_ (length_drained_run later)
        simp [takeLatest]
      split
      · rename_i hwants
        split
        · exact hreturns
        · rename_i d queue hqueue
          refine ih (s := { s with
            worker := { s.worker with queue }
            draining := some { draining with datagrams := draining.datagrams ++ [d.1] } }) rfl ?_
          rw [hqueue, List.length_cons, Nat.add_right_comm, room_succ hwants _ d.1] at hsteps
          exact Nat.lt_of_succ_lt_succ hsteps
      · exact hreturns

/-- What a call to `drain` comes to. -/
structure DrainsReturn (r : HtsUdpReceiver) (s : ReceiveLoop) : Prop where
  /-- with no drain under way, one that nothing interrupts returns the first of the
      controller datagrams, up to its limit, and the slots -/
  alone : s.draining = none → ∀ limit,
    (run (step r) s (.drain limit ::
        List.replicate (takes limit s.worker.queue.length + 1) .drainStep)).draining = none ∧
      (run (step r) s (.drain limit ::
        List.replicate (takes limit s.worker.queue.length + 1) .drainStep)).drained =
          s.drained ++ [(s.worker.queue.map Subtype.val).take (takes limit s.worker.queue.length) ++
            s.worker.latest]
  /-- a drain under way returns within its steps, whatever the other thread does -/
  interleaved : ∀ draining ∈ s.draining, ∀ later : List LoopEvent,
    draining.room (s.worker.queue.length + later.countP LoopEvent.isDatagram) <
        later.countP LoopEvent.isDrainStep →
      s.drained.length < (run (step r) s later).drained.length

theorem drainsReturn (s : ReceiveLoop) : DrainsReturn r s where
  alone h limit := by
    have hstep : step r s (.drain limit) =
        { s with draining := some ⟨limit.map fun n => (max 1 n).toNat, []⟩ } := by
      simp only [step, h]
    have hroom : (⟨limit.map fun n => (max 1 n).toNat, []⟩ : Draining).room s.worker.queue.length =
        takes limit s.worker.queue.length := by
      cases limit with
      | none => rfl
      | some n => rfl
    rw [run_cons, hstep, ← hroom]
    exact run_drainSteps (s := { s with draining := some _ }) rfl
  interleaved _ h _ hsteps := drain_returns h hsteps

end ReceiveLoop

/-- **Conservation**: after any steps of the receive thread and of the drains, in any
    order, every datagram that was received is returned, waits, or is counted as
    dropped; the controller datagrams keep their order, and a drain returns the newest
    datagram of each modality since the drain before it. And the drains do return. -/
theorem datagrams_conserved (r : HtsUdpReceiver) (capacity : ℕ) (es : List LoopEvent) :
    (run (ReceiveLedger.step r) (.init capacity) es).loop =
        run (ReceiveLoop.step r) (.init capacity) es ∧
      Conserved (run (ReceiveLedger.step r) (.init capacity) es) ∧
      DrainsReturn r (run (ReceiveLoop.step r) (.init capacity) es) := by
  refine ⟨ledger_loop r capacity es, ?_, drainsReturn _⟩
  exact (run_invariant (fun _ e h => h.step r e) (Kept.init capacity) es).conserved

end HandLab.Quest
