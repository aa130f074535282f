import HandLab.ThinJaka.Adapter
import HandLab.Lib.History

/-!
# The transport as a protocol

What the adapter is for, without its counters, time stamps and measurements:
one session with the SDK, opened, powered, streaming one command at a time from
a slot that holds only the latest, and closed by a fault latch or a cleanup. The
small steps of the protocol are the relation `Move`; `Refinement.lean` shows that
every public call is a sequence of them.

A move that hands a command over carries a predicate `Allow` on the sender, the
command and the time, so that one relation serves all runs (`Allow` true) and
the runs whose sends meet a condition.
-/

namespace HandLab.ThinJaka

open HandLab.Lib HandLab.CommandAbi

/-! ## Groups of states -/

namespace ThinJakaState

/-- A fault can be latched: no fault, cleanup or reset is pending. -/
def isOpen : ThinJakaState → Bool
  | .faulted | .cleanup | .resetRequired => false
  | _ => true

theorem isOpen_iff (s : ThinJakaState) :
    s.isOpen = true ↔ s ≠ .faulted ∧ s ≠ .cleanup ∧ s ≠ .resetRequired := by
  cases s <;> simp [isOpen]

/-- EDG and servo are on, whatever the resume policy. -/
def isPowered : ThinJakaState → Bool
  | .servoReady | .streaming | .controlledStopping | .measuredStateRefresh => true
  | _ => false

/-- Commands can be offered. -/
def isActive : ThinJakaState → Bool
  | .streaming | .controlledStopping => true
  | _ => false

theorem isActive_iff (s : ThinJakaState) :
    s.isActive = true ↔ s = .streaming ∨ s = .controlledStopping := by
  cases s <;> simp [isActive]

end ThinJakaState

/-! ## Protocol states -/

/-- The part of an adapter that the protocol is about, with its history. -/
structure Protocol (δ : Type*) where
  state : ThinJakaState
  faultReason : StopReason
  sessionOwned : Bool
  edgEnabled : Bool
  servoEnabled : Bool
  cleanupFailed : Bool
  stopCalled : Bool
  /-- the slot -/
  pending : Option (ShapedJointCommandV1 δ)
  /-- the stopped command kept for repetition -/
  stopped : Option (ShapedJointCommandV1 δ)
  safetyEpoch : UInt64
  refreshEpoch : UInt64
  lastOutputSequence : UInt64
  skipped : UInt64
  history : List (Event δ)

variable {κ δ : Type*}

def Machine.protocol (m : Machine κ δ) : Protocol δ where
  state := m.adapter.state
  faultReason := m.adapter.faultReason
  sessionOwned := m.adapter.sessionOwned
  edgEnabled := m.adapter.edgEnabled
  servoEnabled := m.adapter.servoEnabled
  cleanupFailed := m.adapter.cleanupFailed
  stopCalled := m.adapter.hardStopCallbackCalled
  pending := if m.adapter.pendingValid then some m.adapter.pending else none
  stopped := if m.adapter.stoppedCommandValid then some m.adapter.stoppedCommand else none
  safetyEpoch := m.adapter.safetyEpoch
  refreshEpoch := m.adapter.refreshEpoch
  lastOutputSequence := m.adapter.lastOutputSequence
  skipped := m.adapter.skippedOutputSequenceCount
  history := m.history

section

variable (m : Machine κ δ)

@[simp] theorem protocol_state : m.protocol.state = m.adapter.state := rfl

@[simp] theorem protocol_safetyEpoch : m.protocol.safetyEpoch = m.adapter.safetyEpoch := rfl

@[simp] theorem protocol_history : m.protocol.history = m.history := rfl

end

namespace Protocol

/-- The protocol state before the first call. -/
def init : Protocol δ where
  state := .disconnected
  faultReason := .none
  sessionOwned := false
  edgEnabled := false
  servoEnabled := false
  cleanupFailed := false
  stopCalled := false
  pending := none
  stopped := none
  safetyEpoch := 0
  refreshEpoch := 0
  lastOutputSequence := 0
  skipped := 0
  history := []

/-- Who sends. -/
def sender (p : Protocol δ) : Sender := ⟨p.state, p.sessionOwned⟩

/-- One more event. -/
def log (p : Protocol δ) (e : Event δ) : Protocol δ := { p with history := e :: p.history }

/-- The sequence counters after a successful send. -/
def count (p : Protocol δ) (command : ShapedJointCommandV1 δ) : Protocol δ :=
  { p with
    skipped :=
      if p.lastOutputSequence ≠ 0 ∧ p.lastOutputSequence + 1 < command.outputSequence then
        p.skipped + (command.outputSequence - p.lastOutputSequence - 1)
      else p.skipped
    lastOutputSequence := command.outputSequence }

/-- A fault is latched, unless one already is or the adapter is closing; the
    motion is stopped if the session is owned and the motion not yet stopped. -/
def fault (p : Protocol δ) (reason : StopReason) (stop : JakaFunctionResult) : Protocol δ :=
  if p.state.isOpen = true then
    let p' := { p with
      state := .faulted
      faultReason := reason
      pending := none
      history := .latched reason p.sessionOwned :: p.history }
    if p.sessionOwned = true ∧ ¬p.stopCalled = true then
      { p' with stopCalled := true, history := .stopMotion stop :: p'.history }
    else p'
  else p

/-- The state after a successful send of a command: a stopped command without
    braking before it is a fault. -/
def follow (p : Protocol δ) (command : ShapedJointCommandV1 δ) (stop : JakaFunctionResult) :
    Protocol δ :=
  if command.outputMode = .controlledBraking then { p with state := .controlledStopping }
  else if command.outputMode = .stopped then
    if p.state = .controlledStopping then
      { p with stopped := some command, state := .stoppedReady }
    else p.fault .invalidCommand stop
  else p

/-- The reason of the fault of a failed send. -/
def sendReason (result : JakaFunctionResult) : StopReason :=
  if result = .timeout then .timingFault else .sdkFailure

/-- A command is handed to the SDK, which answers `result`, and `stop` if the
    motion has to be stopped. -/
def handOver (p : Protocol δ) (command : ShapedJointCommandV1 δ) (nowNs : ℤ)
    (result stop : JakaFunctionResult) : Protocol δ :=
  let sent := p.log (.send p.sender command nowNs result)
  if result = .ok then (sent.count command).follow command stop
  else sent.fault (sendReason result) stop

/-! ### Faults -/

section Fault

variable {p : Protocol δ} (reason : StopReason) (stop : JakaFunctionResult)

theorem fault_of_closed (h : p.state.isOpen = false) : p.fault reason stop = p := by
  simp [fault, h]

theorem fault_of_stop (hopen : p.state.isOpen = true)
    (hstop : p.sessionOwned = true ∧ ¬p.stopCalled = true) : p.fault reason stop = { p with
      state := .faulted, faultReason := reason, pending := none, stopCalled := true
      history := .stopMotion stop :: .latched reason p.sessionOwned :: p.history } := by
  rw [fault, if_pos hopen, if_pos hstop]

theorem fault_of_no_stop (hopen : p.state.isOpen = true)
    (hstop : ¬(p.sessionOwned = true ∧ ¬p.stopCalled = true)) : p.fault reason stop = { p with
      state := .faulted, faultReason := reason, pending := none
      history := .latched reason p.sessionOwned :: p.history } := by
  rw [fault, if_pos hopen, if_neg hstop]

/-- A fault changes the state, the reason, the slot, the stop latch and the history. -/
theorem fault_eq : p.fault reason stop = { p with
    state := (p.fault reason stop).state
    faultReason := (p.fault reason stop).faultReason
    pending := (p.fault reason stop).pending
    stopCalled := (p.fault reason stop).stopCalled
    history := (p.fault reason stop).history } := by
  unfold fault
  split_ifs <;> rfl

@[simp] theorem fault_edgEnabled : (p.fault reason stop).edgEnabled = p.edgEnabled := by
  rw [fault_eq]

@[simp] theorem fault_servoEnabled : (p.fault reason stop).servoEnabled = p.servoEnabled := by
  rw [fault_eq]

theorem fault_state (hopen : p.state.isOpen = true) : (p.fault reason stop).state = .faulted := by
  unfold fault
  split_ifs <;> rfl

theorem fault_pending (hopen : p.state.isOpen = true) : (p.fault reason stop).pending = none := by
  unfold fault
  split_ifs <;> rfl

end Fault

theorem handOver_cases {P : Protocol δ → Prop} {p : Protocol δ}
    {command : ShapedJointCommandV1 δ} {nowNs : ℤ} {result stop : JakaFunctionResult}
    (failed : result ≠ .ok →
      P ((p.log (.send p.sender command nowNs result)).fault (sendReason result) stop))
    (braking : result = .ok → command.outputMode = .controlledBraking →
      P { (p.log (.send p.sender command nowNs .ok)).count command with
        state := .controlledStopping })
    (stopped : result = .ok → command.outputMode = .stopped → p.state = .controlledStopping →
      P { (p.log (.send p.sender command nowNs .ok)).count command with
        stopped := some command, state := .stoppedReady })
    (unbraked : result = .ok → command.outputMode = .stopped → p.state ≠ .controlledStopping →
      P (((p.log (.send p.sender command nowNs .ok)).count command).fault .invalidCommand stop))
    (tracking : result = .ok → command.outputMode ≠ .controlledBraking →
      command.outputMode ≠ .stopped →
      P ((p.log (.send p.sender command nowNs .ok)).count command)) :
    P (p.handOver command nowNs result stop) := by
  unfold handOver
  extract_lets sent
  split_ifs with hok
  · subst hok
    unfold follow
    split_ifs with h1 h2 h3
    · exact braking rfl h1
    · exact stopped rfl h2 h3
    · exact unbraked rfl h2 h3
    · exact tracking rfl h1 h2
  · exact failed hok

section Whenever

variable {Q : Event δ → List (Event δ) → Prop} {p : Protocol δ}
  (hlatched : ∀ reason owned past, Q (.latched reason owned) past)
  (hstop : ∀ r past, Q (.stopMotion r) past)

include hlatched hstop

theorem whenever_fault (h : Whenever Q p.history) (reason : StopReason)
    (stop : JakaFunctionResult) : Whenever Q (p.fault reason stop).history := by
  unfold fault
  split_ifs
  · exact whenever_cons.mpr ⟨hstop _ _, whenever_cons.mpr ⟨hlatched _ _ _, h⟩⟩
  · exact whenever_cons.mpr ⟨hlatched _ _ _, h⟩
  · exact h

theorem whenever_handOver (h : Whenever Q p.history) (command : ShapedJointCommandV1 δ)
    (nowNs : ℤ) (result stop : JakaFunctionResult)
    (hsend : Q (.send p.sender command nowNs result) p.history) :
    Whenever Q (p.handOver command nowNs result stop).history := by
  have hall {r : JakaFunctionResult} (hr : result = r) :
      Whenever Q (p.log (.send p.sender command nowNs r)).history :=
    whenever_cons.mpr ⟨hr ▸ hsend, h⟩
  exact handOver_cases (P := fun q => Whenever Q q.history)
    (fun _ => whenever_fault hlatched hstop (hall rfl) _ _) (fun hr _ => hall hr)
    (fun hr _ _ => hall hr) (fun hr _ _ => whenever_fault hlatched hstop
      (p := (p.log (.send p.sender command nowNs .ok)).count command) (hall hr) _ _)
    (fun hr _ _ => hall hr)

end Whenever

end Protocol

/-! ## Moves -/

/-- Events that change nothing but the history: reads, and calls that failed. -/
def Event.isObservation : Event δ → Bool
  | .login r | .setEdgEnabled _ r | .setServoEnabled _ r | .logout r => r ≠ .ok
  | .readJointFeedback _ | .readStatus _ => true
  | _ => false

/-- The small steps of the protocol. -/
inductive Move (config : ThinJakaConfig δ)
    (Allow : Sender → ShapedJointCommandV1 δ → ℤ → Prop) : Protocol δ → Protocol δ → Prop
  | observe {p} (e : Event δ) (he : e.isObservation = true) : Move config Allow p (p.log e)
  | fault {p} (reason : StopReason) (stop : JakaFunctionResult) :
      Move config Allow p (p.fault reason stop)
  | connecting {p} (hstate : p.state = .disconnected) :
      Move config Allow p { p with state := .connecting }
  | connected {p} (hstate : p.state = .connecting) :
      Move config Allow p { p with
        state := .connected, sessionOwned := true
        history := .connected :: .login .ok :: p.history }
  | edgOn {p} (hstate : p.state = .connected ∨ p.state = .stoppedReady) :
      Move config Allow p { p with
        edgEnabled := true, history := .setEdgEnabled true .ok :: p.history }
  | servoOn {p} (hstate : p.state = .connected ∨ p.state = .stoppedReady) :
      Move config Allow p { p with
        servoEnabled := true, history := .setServoEnabled true .ok :: p.history }
  | prepared {p} (hstate : p.state = .connected) (hedg : p.edgEnabled = true)
      (hservo : p.servoEnabled = true)
      (hpolicy : config.pausePolicy = .repeatStoppedPositionRequired →
        config.resumePolicy = .keepPrepared) :
      Move config Allow p { p with state := .servoReady, history := .prepared :: p.history }
  | edgOff {p} (hstate : p.state = .cleanup ∨
        (p.state = .stoppedReady ∧ config.resumePolicy ≠ .keepPrepared)) :
      Move config Allow p { p with
        edgEnabled := false, history := .setEdgEnabled false .ok :: p.history }
  | servoOff {p} (hstate : p.state = .cleanup ∨
        (p.state = .stoppedReady ∧ config.resumePolicy = .restartEdgAndServo)) :
      Move config Allow p { p with
        servoEnabled := false, history := .setServoEnabled false .ok :: p.history }
  | beginFromReady {p} (epoch : UInt64) (hstate : p.state = .servoReady)
      (hepoch : p.safetyEpoch < epoch) :
      Move config Allow p { p with
        state := .measuredStateRefresh, refreshEpoch := epoch, pending := none, stopped := none }
  | beginFromStopped {p} (epoch : UInt64) (hstate : p.state = .stoppedReady)
      (hepoch : p.safetyEpoch < epoch) (hedg : p.edgEnabled = true)
      (hservo : config.resumePolicy ≠ .restartEdg → p.servoEnabled = true) :
      Move config Allow p { p with
        state := .measuredStateRefresh, refreshEpoch := epoch, pending := none }
  | refreshed {p} (hstate : p.state = .measuredStateRefresh) :
      Move config Allow p { p with
        state := .servoReady, safetyEpoch := p.refreshEpoch, refreshEpoch := 0
        lastOutputSequence := 0
        history := .refreshed p.refreshEpoch p.skipped :: p.history }
  | first {p} (command : ShapedJointCommandV1 δ) (nowNs : ℤ) (r stop : JakaFunctionResult)
      (hstate : p.state = .servoReady) (hzero : p.safetyEpoch ≠ 0)
      (hmode : command.outputMode = .activeTracking) (hseq : command.outputSequence ≠ 0)
      (hepoch : command.safetyEpoch = p.safetyEpoch)
      (hallow : Allow ⟨.streaming, p.sessionOwned⟩ command nowNs) :
      Move config Allow p
        (({ p with state := .streaming } : Protocol δ).handOver command nowNs r stop)
  | offer {p} (command : ShapedJointCommandV1 δ) (hstate : p.state.isActive = true)
      (hepoch : p.safetyEpoch ≠ 0 → command.safetyEpoch = p.safetyEpoch)
      (hseq : p.lastOutputSequence < command.outputSequence)
      (hpending : ∀ c, p.pending = some c → c.outputSequence < command.outputSequence) :
      Move config Allow p { p with
        pending := some command, history := .offered command p.pending :: p.history }
  | deliver {p} (command : ShapedJointCommandV1 δ) (nowNs : ℤ) (r stop : JakaFunctionResult)
      (hpending : p.pending = some command) (hallow : Allow p.sender command nowNs) :
      Move config Allow p
        (({ p with pending := none } : Protocol δ).handOver command nowNs r stop)
  | repeatStopped {p} (command : ShapedJointCommandV1 δ) (r : JakaFunctionResult)
      (hstate : p.state = .stoppedReady ∨ p.state = .measuredStateRefresh)
      (hpause : config.pausePolicy = .repeatStoppedPositionRequired)
      (hstopped : p.stopped = some command) :
      Move config Allow p (p.log (.repeatStopped p.sender command r))
  | beginCleanup {p} (hstate : p.state = .faulted ∨ p.state = .stoppedReady ∨
        p.state = .servoReady ∨ p.state = .connected) :
      Move config Allow p { p with state := .cleanup }
  | logout {p} (hstate : p.state = .cleanup) :
      Move config Allow p { p with sessionOwned := false, history := .logout .ok :: p.history }
  | endCleanup {p} (failed : Bool) (hstate : p.state = .cleanup)
      (hclean : failed = false →
        p.servoEnabled = false ∧ p.edgEnabled = false ∧ p.sessionOwned = false) :
      Move config Allow p { p with state := .resetRequired, cleanupFailed := failed }
  | explicitReset {p} (hstate : p.state = .resetRequired) (hclean : p.cleanupFailed = false)
      (howned : p.sessionOwned = false) :
      Move config Allow p { p with
        state := .disconnected, faultReason := .none, stopCalled := false
        pending := none, stopped := none, safetyEpoch := 0, refreshEpoch := 0
        lastOutputSequence := 0, history := .explicitReset :: p.history }

end HandLab.ThinJaka
