import HandLab.Quest.Receiver

/-!
# The receive loop of the Quest worker

`QuestDatagramReceiverWorker._run` and `drain` (`src/quest_jaka_sim/live_input.py`,
lines 60–121) over `HtsUdpReceiver.receive` (`src/motion_input/hts_transport.py`,
lines 87–116), step by step. The receive thread and the thread that drains take
turns in any order; what the socket returns, what `record` raises and when the
worker is closed are inputs.

* `step_rejected`: what a datagram does that the transport rejects.
* `rejected_removable_iff`: when the rejected datagrams can be left out of a run.
-/

namespace HandLab.Quest

open HandLab.Lib

/-! ## The transport -/

/-- An exception of the receive thread: its class where the transport raises it,
    and its text. -/
inductive ReceiveError
  | sourceDisconnected (text : String)
  | serialization (text : String)
  | other (text : String)
  deriving DecidableEq, Repr

/-- `str(exc)`. -/
def ReceiveError.text : ReceiveError → String
  | .sourceDisconnected text => text
  | .serialization text => text
  | .other text => text

/-- A datagram on its way to the socket, with the clock readings of its receipt. -/
structure UdpDatagram where
  payload : List UInt8
  senderAddress : String
  senderPort : ℕ
  receiveMonotonicNs : ℤ
  receiveUnixNs : ℤ
  deriving DecidableEq

/-- `repr` of an address, which has no quotes. -/
def quoted (address : String) : String := "'" ++ address ++ "'"

/-- `HtsUdpReceiver`. -/
structure HtsUdpReceiver where
  allowedSender : Option String
  maxDatagramBytes : ℕ := htsMaxDatagramBytes

namespace HtsUdpReceiver

variable (r : HtsUdpReceiver)

/-- `len(payload) > self.max_datagram_bytes`, of the bytes that `recvfrom` keeps. -/
def oversized (d : UdpDatagram) : Bool :=
  r.maxDatagramBytes < (d.payload.take (r.maxDatagramBytes + 1)).length

/-- `self.allowed_sender is not None and sender[0] != self.allowed_sender`. -/
def unapproved (d : UdpDatagram) : Bool :=
  match r.allowedSender with
  | none => false
  | some allowed => d.senderAddress != allowed

/-- `receive`, where `recvfrom` returns. -/
def receive (d : UdpDatagram) : Except ReceiveError ReceivedHtsDatagram :=
  if r.oversized d then
    .error (.serialization
      ("HTS UDP datagram was truncated/rejected because it exceeds " ++
        toString r.maxDatagramBytes ++ " bytes"))
  else if r.unapproved d then
    .error (.serialization ("HTS datagram from unapproved sender " ++ quoted d.senderAddress))
  else
    .ok
      { payload := d.payload.take (r.maxDatagramBytes + 1)
        sourceAddress := d.senderAddress
        sourcePort := d.senderPort
        receiveMonotonicNs := d.receiveMonotonicNs
        receiveUnixNs := d.receiveUnixNs }

/-- Datagrams of other senders, and the oversized ones. -/
def rejects (d : UdpDatagram) : Bool := r.oversized d || r.unapproved d

variable {r}

theorem receive_of_rejects {d : UdpDatagram} (h : r.rejects d = true) :
    ∃ text, r.receive d = .error (.serialization text) := by
  unfold receive
  cases hsize : r.oversized d with
  | true => exact ⟨_, rfl⟩
  | false =>
    have hsender : r.unapproved d = true := by simpa [rejects, hsize] using h
    rw [if_neg (by decide), if_pos hsender]
    exact ⟨_, rfl⟩

end HtsUdpReceiver

/-! ## The two threads -/

/-- Where the receive thread stands: before its socket is open, at the head of the
    loop, in `recvfrom`, or past the loop. -/
inductive LoopPhase
  | opening
  | checking
  | receiving
  | ended
  deriving DecidableEq, Repr

/-- A `drain` on its way: the limit of line 62 and the datagrams popped so far. -/
structure Draining where
  limit : Option ℕ
  datagrams : List ReceivedHtsDatagram
  deriving DecidableEq

/-- The worker, its receive thread and the thread that drains it. -/
structure ReceiveLoop where
  worker : QuestDatagramReceiverWorker
  phase : LoopPhase
  stopEvent : Bool
  error : Option ReceiveError
  draining : Option Draining
  /-- The results of the drains, in order. -/
  drained : List (List ReceivedHtsDatagram)
  /-- The outcomes of `raise_if_failed`, in order: the text it raises, if any. -/
  raised : List (Option String)

/-- A step of one of the threads. -/
inductive LoopEvent
  /-- `open` succeeds, or raises. -/
  | opened (failure : Option ReceiveError)
  /-- `while not self.stop_event.is_set()`. -/
  | check
  /-- `recvfrom` times out. -/
  | timeout
  /-- `recvfrom` raises `OSError`. -/
  | socketFailure (text : String)
  /-- `recvfrom` returns; `recorded` is what `record` raises where it is called. -/
  | datagram (d : UdpDatagram) (recorded : Option ReceiveError)
  | close
  | drain (limit : Option ℤ)
  /-- One `get_nowait` of the drain, or the exchange of the slots that ends it. -/
  | drainStep
  | raiseIfFailed

namespace ReceiveLoop

/-- `__init__` and `start`. -/
def init (capacity : ℕ) : ReceiveLoop where
  worker := .init capacity
  phase := .opening
  stopEvent := false
  error := none
  draining := none
  drained := []
  raised := []

variable (s : ReceiveLoop)

/-- `except BaseException as exc: self.error = exc`. -/
def fail (error : ReceiveError) : ReceiveLoop := { s with phase := .ended, error := some error }

/-- The body of the loop on what the transport returned. -/
def ingest (d : ReceivedHtsDatagram) (recorded : Option ReceiveError) : ReceiveLoop :=
  match recorded with
  | some error => s.fail error
  | none => { s with worker := s.worker.receive d, phase := .checking }

/-- `receive`, and the loop body on what it returns. -/
def onDatagram (r : HtsUdpReceiver) (d : UdpDatagram) (recorded : Option ReceiveError) :
    ReceiveLoop :=
  match r.receive d with
  | .error error => s.fail error
  | .ok received => s.ingest received recorded

/-- The four slots are taken, in the order of line 78. -/
def takeLatest (datagrams : List ReceivedHtsDatagram) : ReceiveLoop :=
  { s with
    worker :=
      { s.worker with
        latestRightHand := none
        latestLeftHand := none
        latestHead := none
        latestUnclassifiedHts := none }
    draining := none
    drained := s.drained ++ [datagrams ++
      ([s.worker.latestRightHand, s.worker.latestLeftHand, s.worker.latestHead,
        s.worker.latestUnclassifiedHts].filterMap id)] }

/-- `limit is None or len(datagrams) < limit`. -/
def Draining.wants (draining : Draining) : Bool :=
  match draining.limit with
  | none => true
  | some limit => draining.datagrams.length < limit

/-- `drain`, one access of the channels at a time. -/
def drainStep (draining : Draining) : ReceiveLoop :=
  if Draining.wants draining then
    match s.worker.queue with
    | [] => s.takeLatest draining.datagrams
    | d :: queue =>
      { s with
        worker := { s.worker with queue }
        draining := some { draining with datagrams := draining.datagrams ++ [d.1] } }
  else s.takeLatest draining.datagrams

/-- `raise_if_failed`. -/
def raiseIfFailed : ReceiveLoop :=
  { s with raised := s.raised ++ [s.error.map fun error =>
      "Quest receive worker failed: " ++ error.text] }

/-- One step. A step of the receive thread out of its turn does nothing. -/
def step (r : HtsUdpReceiver) (s : ReceiveLoop) : LoopEvent → ReceiveLoop
  | .opened failure =>
    if s.phase = .opening then
      match failure with
      | none => { s with phase := .checking }
      | some error => s.fail error
    else s
  | .check =>
    if s.phase = .checking then
      { s with phase := if s.stopEvent then .ended else .receiving }
    else s
  | .timeout => if s.phase = .receiving then { s with phase := .checking } else s
  | .socketFailure text =>
    if s.phase = .receiving then
      s.fail (.sourceDisconnected ("HTS UDP receive failed: " ++ text))
    else s
  | .datagram d recorded => if s.phase = .receiving then s.onDatagram r d recorded else s
  | .close => { s with stopEvent := true }
  | .drain limit =>
    match s.draining with
    | none => { s with draining := some ⟨limit.map fun n => (max 1 n).toNat, []⟩ }
    | some _ => s
  | .drainStep =>
    match s.draining with
    | none => s
    | some draining => s.drainStep draining
  | .raiseIfFailed => s.raiseIfFailed

end ReceiveLoop

/-- What the caller sees: the datagrams drained, `diagnostics`, `error` and the
    outcomes of `raise_if_failed`. -/
structure ReceiverView where
  drained : List (List ReceivedHtsDatagram)
  diagnostics : ReceiverCounts
  error : Option ReceiveError
  raised : List (Option String)
  deriving DecidableEq

/-- The view of a state. -/
def ReceiveLoop.view (s : ReceiveLoop) : ReceiverView :=
  ⟨s.drained, s.worker.counts, s.error, s.raised⟩

/-- The steps that stay when the datagrams are removed that the transport rejects. -/
def LoopEvent.accepted (r : HtsUdpReceiver) : LoopEvent → Bool
  | .datagram d _ => !r.rejects d
  | _ => true

/-! ## Rejected datagrams -/

namespace ReceiveLoop

variable {r : HtsUdpReceiver} {s : ReceiveLoop}

/-- **A rejected datagram** ends the loop. -/
theorem step_rejected {d : UdpDatagram} (recorded : Option ReceiveError)
    (h : r.rejects d = true) (hphase : s.phase = .receiving) :
    ∃ text, step r s (.datagram d recorded) = s.fail (.serialization text) := by
  obtain ⟨text, htext⟩ := HtsUdpReceiver.receive_of_rejects h
  exact ⟨text, by simp [step, hphase, onDatagram, htext]⟩

/-- The step does not hand a rejected datagram to a loop that is receiving. -/
def Unreached (r : HtsUdpReceiver) (s : ReceiveLoop) (e : LoopEvent) : Prop :=
  s.phase = .receiving → e.accepted r = true

/-- Out of `recvfrom`, no datagram changes anything. -/
theorem step_of_unreached {e : LoopEvent} (h : Unreached r s e) (hdropped : e.accepted r = false) :
    step r s e = s := by
  cases e with
  | datagram d recorded =>
    have hphase : s.phase ≠ .receiving := fun hreceiving => by
      rw [h hreceiving] at hdropped
      cases hdropped
    exact if_neg hphase
  | _ => cases hdropped

/-- The run without the rejected datagrams. -/
theorem run_accepted {es : List LoopEvent} (h : Meets (step r) (Unreached r) s es) :
    run (step r) s (es.filter (LoopEvent.accepted r)) = run (step r) s es :=
  run_filter_of_meets (C := Unreached r) (fun _ _ => step_of_unreached) h

/-- Before the loop ends there is no error. -/
def Sound (s : ReceiveLoop) : Prop := s.phase ≠ .ended → s.error = none

theorem sound_fail (error : ReceiveError) : Sound (s.fail error) := fun h => absurd rfl h

theorem sound_step (e : LoopEvent) (h : Sound s) : Sound (step r s e) := by
  cases e with
  | opened failure =>
    simp only [step]
    split
    next hphase =>
      have herror : s.error = none := h (by rw [hphase]; decide)
      cases failure with
      | none => exact fun _ => herror
      | some error => exact sound_fail error
    next => exact h
  | check =>
    simp only [step]
    split
    next hphase => exact fun _ => h (by rw [hphase]; decide)
    next => exact h
  | timeout =>
    simp only [step]
    split
    next hphase => exact fun _ => h (by rw [hphase]; decide)
    next => exact h
  | socketFailure text =>
    simp only [step]
    split
    next => exact sound_fail _
    next => exact h
  | datagram d recorded =>
    simp only [step]
    split
    next hphase =>
      have herror : s.error = none := h (by rw [hphase]; decide)
      unfold onDatagram
      cases r.receive d with
      | error error => exact sound_fail error
      | ok received =>
        cases recorded with
        | none => exact fun _ => herror
        | some error => exact sound_fail error
    next => exact h
  | close => exact h
  | drain limit =>
    simp only [step]
    cases s.draining <;> exact h
  | drainStep =>
    simp only [step]
    cases s.draining with
    | none => exact h
    | some draining =>
      show Sound (s.drainStep draining)
      unfold drainStep
      cases Draining.wants draining <;> cases s.worker.queue <;> exact h
  | raiseIfFailed => exact h

theorem sound_run (capacity : ℕ) (es : List LoopEvent) :
    Sound (run (step r) (init capacity) es) :=
  run_invariant (fun _ e => sound_step e) (fun _ => rfl) es

end ReceiveLoop

open ReceiveLoop

/-- **Noninterference**: the caller of a worker with an approved sender sees at
    every moment what it would see without the datagrams that the transport
    rejects, if and only if none of these reaches a loop that is receiving. -/
theorem rejected_removable_iff (allowed : String) (capacity : ℕ) (es : List LoopEvent) :
    (∀ seen, seen <+: es →
      (run (step ⟨some allowed, htsMaxDatagramBytes⟩) (init capacity) seen).view =
        (run (step ⟨some allowed, htsMaxDatagramBytes⟩) (init capacity)
          (seen.filter (LoopEvent.accepted ⟨some allowed, htsMaxDatagramBytes⟩))).view) ↔
      Meets (step ⟨some allowed, htsMaxDatagramBytes⟩)
        (Unreached ⟨some allowed, htsMaxDatagramBytes⟩) (init capacity) es := by
  generalize (⟨some allowed, htsMaxDatagramBytes⟩ : HtsUdpReceiver) = r
  constructor
  · intro hsame
    induction es using List.reverseRecOn with
    | nil => trivial
    | append_singleton es e ih =>
      have hbefore := ih fun seen hseen => hsame seen (hseen.trans (List.prefix_append es [e]))
      refine (meets_concat _ es e).mpr ⟨hbefore, fun hphase => ?_⟩
      cases haccepted : e.accepted r with
      | true => rfl
      | false =>
        exfalso
        cases e with
        | datagram d recorded =>
          have hrejects : r.rejects d = true := by simpa [LoopEvent.accepted] using haccepted
          have hview := hsame _ List.prefix_rfl
          obtain ⟨text, hfail⟩ := step_rejected recorded hrejects hphase
          have hclean : (run (step r) (init capacity) es).error = none :=
            sound_run capacity es (by rw [hphase]; decide)
          -- the loop has failed, and the shorter run has not
          rw [run_concat, hfail, List.filter_append, List.filter_cons_of_neg (by simp [haccepted]),
            List.filter_nil, List.append_nil, run_accepted hbefore] at hview
          have herror := congrArg ReceiverView.error hview
          simp [view, fail, hclean] at herror
        | _ => cases haccepted
  · rintro hunreached seen ⟨later, rfl⟩
    have hseen := ((meets_append _ seen later).mp hunreached).1
    rw [run_accepted hseen]

/-! ## A stray packet -/

/-- A head pose of the approved headset, and a byte from elsewhere. -/
def headPose : UdpDatagram :=
  ⟨ascii "Head pose:0,1.5,0,0,0,0,1", "192.168.1.20", 9000, 2000000, 2000000⟩

def strayPacket : UdpDatagram := ⟨[0], "192.168.1.77", 5353, 1000000, 1000000⟩

/-- The stray packet arrives first, and a drain follows. -/
def strayRun : List LoopEvent :=
  [.opened none, .check, .datagram strayPacket none, .check, .datagram headPose none,
    .drain none, .drainStep]

/-- The run without the stray packet drains the head pose. -/
theorem stray_packet_silences :
    ¬ ∀ (allowed : String) (capacity : ℕ) (es : List LoopEvent),
      (run (step ⟨some allowed, htsMaxDatagramBytes⟩) (init capacity) es).view =
        (run (step ⟨some allowed, htsMaxDatagramBytes⟩) (init capacity)
          (es.filter (LoopEvent.accepted ⟨some allowed, htsMaxDatagramBytes⟩))).view := by
  intro h
  have hstray := h "192.168.1.20" 256 strayRun
  revert hstray
  rw [strayRun, headPose, ascii_ofList]
  decide +kernel

end HandLab.Quest
