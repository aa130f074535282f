import HandLab.ThinJaka.Protocol

/-!
# The adapter refines the protocol

Every public call, with any arguments and any results of the SDK, is a
sequence of moves of the protocol.

* `step_moves`: the simulation of one call; the condition `Allow` on handed-over
  commands is needed only for the call that hands one over (`Allows`).
* `runCalls_invariant`, `runCalls_invariant_of_meets`: what every move preserves
  holds after every run of public calls.
-/

namespace HandLab.ThinJaka

open HandLab.Lib HandLab.CommandAbi

variable {κ δ : Type*} (sdk : JakaSdkFunctionTable κ δ) (config : ThinJakaConfig δ)
variable (Allow : Sender → ShapedJointCommandV1 δ → ℤ → Prop)

/-- The protocol moves from one machine to the other. -/
abbrev Moves (m m' : Machine κ δ) : Prop := Path (Move config Allow) m.protocol m'.protocol

@[simp] theorem sdkOk_iff (r : JakaFunctionResult) : sdkOk r = true ↔ r = .ok := by
  simp [sdkOk]

/-! ## Faults and polls -/

/-- `Fault` is the fault of the protocol. -/
theorem fault_protocol (code : ThinJakaCode) (reason : StopReason) (m : Machine κ δ) :
    (fault sdk code reason m).2.protocol =
      m.protocol.fault reason (sdk.stopMotion m.context).1 := by
  have hiff := ThinJakaState.isOpen_iff m.adapter.state
  unfold fault
  split_ifs with hopen hstop
  · exact (Protocol.fault_of_stop (p := m.protocol) reason _ (hiff.mpr hopen) hstop).symm
  · exact (Protocol.fault_of_no_stop (p := m.protocol) reason _ (hiff.mpr hopen) hstop).symm
  · have hclosed := mt hiff.mp hopen
    exact (Protocol.fault_of_closed reason _ (by simpa using hclosed)).symm

theorem fault_moves (code : ThinJakaCode) (reason : StopReason) (m : Machine κ δ) :
    Moves config Allow m (fault sdk code reason m).2 := by
  rw [Moves, fault_protocol]
  exact .single (Move.fault reason _)

theorem observe_fault_moves {m m' : Machine κ δ} (e : Event δ) (he : e.isObservation = true)
    (hm : m'.protocol = m.protocol.log e) (code : ThinJakaCode) (reason : StopReason) :
    Moves config Allow m (fault sdk code reason m').2 := by
  refine .head (Move.observe (p := m.protocol) e he) ?_
  rw [← hm]
  exact fault_moves sdk config Allow code reason m'

theorem fault_code (code : ThinJakaCode) (reason : StopReason) (m : Machine κ δ) :
    (fault sdk code reason m).1 = code := by
  unfold fault
  split_ifs <;> rfl

/-- `PollStatus` changes the protocol state only by a latched fault. -/
theorem pollStatus_moves (m : Machine κ δ) (nowNs : ℤ) :
    Moves config Allow m (pollStatus sdk config m nowNs).2 := by
  have hread {m' : Machine κ δ} (h : m'.protocol = m.protocol.log
      (.readStatus (callReadStatus sdk m).1)) (code : ThinJakaCode) (reason : StopReason) :
      Moves config Allow m (fault sdk code reason m').2 :=
    observe_fault_moves sdk config Allow _ rfl h code reason
  unfold pollStatus
  by_cases howned : ¬m.adapter.sessionOwned = true
  · rw [if_pos howned]
  rw [if_neg howned]
  extract_lets call counted
  split
  · exact hread rfl _ _
  · split
    · exact hread rfl _ _
    · exact .single (Move.observe (p := m.protocol) (.readStatus (callReadStatus sdk m).1) rfl)

variable {nowNs : ℤ}

theorem statusReadFault_ne_ok {a : ThinJakaTransportAdapter δ} {result : JakaFunctionResult}
    {status : JakaNormalizedStatus} {code : ThinJakaCode} {reason : StopReason}
    (h : statusReadFault config a result status nowNs = some (code, reason)) : code ≠ .ok := by
  unfold statusReadFault at h
  split_ifs at h <;> cases h <;> nofun

theorem statusFault_ne_ok {a : ThinJakaTransportAdapter δ} {status : JakaNormalizedStatus}
    {code : ThinJakaCode} {reason : StopReason}
    (h : statusFault a status = some (code, reason)) : code ≠ .ok := by
  unfold statusFault at h
  split_ifs at h <;> cases h <;> nofun

/-- A status poll that succeeds leaves one read in the history. -/
theorem pollStatus_ok {m : Machine κ δ} (h : (pollStatus sdk config m nowNs).1 = .ok) :
    (pollStatus sdk config m nowNs).2.protocol =
      m.protocol.log (.readStatus (callReadStatus sdk m).1) := by
  revert h
  unfold pollStatus
  by_cases howned : ¬m.adapter.sessionOwned = true
  · rw [if_pos howned]
    exact nofun
  rw [if_neg howned]
  extract_lets call counted
  split
  next hfault =>
    intro h
    rw [fault_code] at h
    exact absurd h (statusReadFault_ne_ok config hfault)
  next =>
    split
    next hfault =>
      intro h
      rw [fault_code] at h
      exact absurd h (statusFault_ne_ok hfault)
    next => exact fun _ => rfl

/-! ## Power -/

theorem not_sdkOk {r : JakaFunctionResult} (h : (!sdkOk r) = true) : r ≠ .ok := by
  simpa [sdkOk] using h

theorem of_not_not_sdkOk {r : JakaFunctionResult} (h : ¬(!sdkOk r) = true) : r = .ok := by
  simpa [sdkOk] using h

section Switches

variable {sdk config} {m : Machine κ δ}

theorem setEdgOn_moves (hok : (callSetEdgEnabled sdk m true).1 = .ok)
    (hstate : m.adapter.state = .connected ∨ m.adapter.state = .stoppedReady) :
    Moves config Allow m ((callSetEdgEnabled sdk m true).2.withEdg true) := by
  have h : Move config Allow m.protocol _ := Move.edgOn hstate
  rw [← hok] at h
  exact .single h

theorem setServoOn_moves (hok : (callSetServoEnabled sdk m true).1 = .ok)
    (hstate : m.adapter.state = .connected ∨ m.adapter.state = .stoppedReady) :
    Moves config Allow m ((callSetServoEnabled sdk m true).2.withServo true) := by
  have h : Move config Allow m.protocol _ := Move.servoOn hstate
  rw [← hok] at h
  exact .single h

theorem setEdgOff_moves (hok : (callSetEdgEnabled sdk m false).1 = .ok)
    (hstate : m.adapter.state = .cleanup ∨
      (m.adapter.state = .stoppedReady ∧ config.resumePolicy ≠ .keepPrepared)) :
    Moves config Allow m ((callSetEdgEnabled sdk m false).2.withEdg false) := by
  have h : Move config Allow m.protocol _ := Move.edgOff hstate
  rw [← hok] at h
  exact .single h

theorem setServoOff_moves (hok : (callSetServoEnabled sdk m false).1 = .ok)
    (hstate : m.adapter.state = .cleanup ∨
      (m.adapter.state = .stoppedReady ∧ config.resumePolicy = .restartEdgAndServo)) :
    Moves config Allow m ((callSetServoEnabled sdk m false).2.withServo false) := by
  have h : Move config Allow m.protocol _ := Move.servoOff hstate
  rw [← hok] at h
  exact .single h

theorem setEdg_observe {enabled : Bool} (h : (callSetEdgEnabled sdk m enabled).1 ≠ .ok) :
    Moves config Allow m (callSetEdgEnabled sdk m enabled).2 :=
  .single (Move.observe (p := m.protocol) (.setEdgEnabled enabled _) (decide_eq_true h))

theorem setServo_observe {enabled : Bool} (h : (callSetServoEnabled sdk m enabled).1 ≠ .ok) :
    Moves config Allow m (callSetServoEnabled sdk m enabled).2 :=
  .single (Move.observe (p := m.protocol) (.setServoEnabled enabled _) (decide_eq_true h))

end Switches

theorem prepareServo_moves (m : Machine κ δ) (nowNs : ℤ) :
    Moves config Allow m (prepareServo sdk config m nowNs).2 := by
  unfold prepareServo
  split_ifs with hstate hpolicy hpause
  iterate 3 exact .refl
  have hconn : m.adapter.state = .connected := by
    by_contra hne
    exact hstate (.inl hne)
  extract_lets edg
  split_ifs with hedg hservo
  · exact (setEdg_observe Allow (not_sdkOk hedg)).trans (fault_moves sdk config Allow _ _ _)
  all_goals refine (setEdgOn_moves Allow (of_not_not_sdkOk hedg) (.inl hconn)).trans ?_
  · exact (setServo_observe Allow (not_sdkOk hservo)).trans (fault_moves sdk config Allow _ _ _)
  · refine (setServoOn_moves Allow (of_not_not_sdkOk hservo) (.inl hconn)).trans ?_
    refine .single (Move.prepared hconn rfl rfl fun hp => ?_)
    by_contra hk
    exact hpause ⟨hp, hk⟩

theorem applyResumePreparation_moves {m : Machine κ δ} (hstate : m.adapter.state = .stoppedReady) :
    Moves config Allow m (applyResumePreparation sdk config m).2 := by
  unfold applyResumePreparation
  split_ifs with hkeep hoff hrestart hboth
  · exact fault_moves sdk config Allow _ _ m
  · exact .refl
  · extract_lets edg
    split_ifs with hedg hservo
    · exact (setEdg_observe Allow (not_sdkOk hedg)).trans (fault_moves sdk config Allow _ _ _)
    all_goals refine (setEdgOn_moves Allow (of_not_not_sdkOk hedg) (.inr hstate)).trans ?_
    · exact (setServo_observe Allow (not_sdkOk hservo)).trans (fault_moves sdk config Allow _ _ _)
    · exact setServoOn_moves Allow (of_not_not_sdkOk hservo) (.inr hstate)
  · extract_lets edg
    split_ifs with hedg
    · exact (setEdg_observe Allow (not_sdkOk hedg)).trans (fault_moves sdk config Allow _ _ _)
    · exact setEdgOn_moves Allow (of_not_not_sdkOk hedg) (.inr hstate)
  · exact .refl

/-- What a successful resume preparation leaves. -/
theorem applyResumePreparation_ok {m : Machine κ δ}
    (h : (applyResumePreparation sdk config m).1 = .ok) :
    (applyResumePreparation sdk config m).2.adapter.state = m.adapter.state ∧
      (applyResumePreparation sdk config m).2.adapter.safetyEpoch = m.adapter.safetyEpoch ∧
      (applyResumePreparation sdk config m).2.adapter.edgEnabled = true ∧
      (config.resumePolicy ≠ .restartEdg →
        (applyResumePreparation sdk config m).2.adapter.servoEnabled = true) := by
  revert h
  unfold applyResumePreparation
  split_ifs with hkeep hoff hrestart hboth
  · intro h
    rw [fault_code] at h
    cases h
  · intro _
    simp only [not_or, Bool.not_eq_true, Bool.not_eq_false] at hoff
    exact ⟨rfl, rfl, hoff.1, fun _ => hoff.2⟩
  · extract_lets edg
    split_ifs
    iterate 2
      intro h
      rw [fault_code] at h
      cases h
    exact fun _ => ⟨rfl, rfl, rfl, fun _ => rfl⟩
  · extract_lets edg
    split_ifs
    · intro h
      rw [fault_code] at h
      cases h
    · exact fun _ => ⟨rfl, rfl, rfl, fun hne => absurd hrestart (by simp [hne, hboth])⟩
  · intro h
    cases h

/-- The refresh entered from `kServoReady` forgets the stopped command. -/
theorem enterRefresh_of_ready {m : Machine κ δ} (hstate : m.adapter.state = .servoReady)
    (epoch : UInt64) :
    (enterRefresh m epoch).protocol = { m.protocol with
      state := .measuredStateRefresh, refreshEpoch := epoch
      pending := none, stopped := none } := by
  simp [enterRefresh, Machine.protocol, hstate]

/-- The refresh entered from `kStoppedReady` keeps it. -/
theorem enterRefresh_of_stopped {m : Machine κ δ} (hstate : m.adapter.state = .stoppedReady)
    (epoch : UInt64) :
    (enterRefresh m epoch).protocol = { m.protocol with
      state := .measuredStateRefresh, refreshEpoch := epoch, pending := none } := by
  simp [enterRefresh, Machine.protocol, hstate]

theorem beginMeasuredStateRefresh_moves (m : Machine κ δ) (epoch : UInt64) (nowNs : ℤ) :
    Moves config Allow m (beginMeasuredStateRefresh sdk config m epoch nowNs).2 := by
  unfold beginMeasuredStateRefresh
  split_ifs with hguard hstopped
  · exact .refl
  · simp only [not_or, UInt64.not_le] at hguard
    have hmoves := applyResumePreparation_moves sdk config Allow hstopped
    have hprep := applyResumePreparation_ok sdk config (m := m)
    extract_lets preparation
    split_ifs with hok
    · exact hmoves
    · obtain ⟨hstate, hepoch, hedg, hservo⟩ := hprep (not_not.mp hok)
      refine hmoves.tail ?_
      rw [enterRefresh_of_stopped (hstate.trans hstopped)]
      refine Move.beginFromStopped epoch (hstate.trans hstopped) ?_ hedg hservo
      rw [protocol_safetyEpoch, hepoch]
      exact hguard.2.2.2
  · simp only [not_or, not_and, not_not, UInt64.not_le] at hguard
    have hready : m.adapter.state = .servoReady := by
      by_contra hne
      exact hstopped (hguard.1 hne)
    rw [Moves, enterRefresh_of_ready hready]
    exact .single (Move.beginFromReady epoch hready hguard.2.2.2)

/-! ## Sends -/

theorem stopServo_moves {m : Machine κ δ} (hstate : m.adapter.state = .stoppedReady) :
    Moves config Allow m (stopServo sdk config m).2 := by
  unfold stopServo
  split_ifs with hboth
  · extract_lets servo
    split_ifs with hservo
    · exact (setServo_observe Allow (not_sdkOk hservo)).trans (fault_moves sdk config Allow _ _ _)
    · exact setServoOff_moves Allow (of_not_not_sdkOk hservo) (.inr ⟨hstate, hboth⟩)
  · exact .refl

theorem stopServo_ok {m : Machine κ δ} (h : (stopServo sdk config m).1 = .ok) :
    (stopServo sdk config m).2.adapter.state = m.adapter.state := by
  revert h
  unfold stopServo
  split_ifs with hboth
  · extract_lets servo
    split_ifs
    · intro h
      rw [fault_code] at h
      cases h
    · exact fun _ => rfl
  · exact fun _ => rfl

theorem stopEdg_moves {m : Machine κ δ} (hstate : m.adapter.state = .stoppedReady) :
    Moves config Allow m (stopEdg sdk config m).2 := by
  unfold stopEdg
  split_ifs with hrestart
  · have hkeep : config.resumePolicy ≠ .keepPrepared := by
      rcases hrestart with h | h <;> simp [h]
    extract_lets edg
    split_ifs with hedg
    · exact (setEdg_observe Allow (not_sdkOk hedg)).trans (fault_moves sdk config Allow _ _ _)
    · exact setEdgOff_moves Allow (of_not_not_sdkOk hedg) (.inr ⟨hstate, hkeep⟩)
  · exact .refl

theorem applyStoppedPreparation_moves {m : Machine κ δ} (hstate : m.adapter.state = .stoppedReady) :
    Moves config Allow m (applyStoppedPreparation sdk config m).2 := by
  unfold applyStoppedPreparation
  have hmoves := stopServo_moves sdk config Allow hstate
  extract_lets servo
  split_ifs with hservo
  · exact hmoves
  · have hok := stopServo_ok sdk config (not_not.mp hservo)
    exact hmoves.trans (stopEdg_moves sdk config Allow (hok.trans hstate))

theorem sendFault_protocol (r : JakaFunctionResult) (m : Machine κ δ) :
    (sendFault sdk r m).2.protocol =
      m.protocol.fault (Protocol.sendReason r) (sdk.stopMotion m.context).1 := by
  unfold sendFault Protocol.sendReason
  split_ifs <;> exact fault_protocol sdk _ _ m

theorem sendFault_moves (r : JakaFunctionResult) (m : Machine κ δ) :
    Moves config Allow m (sendFault sdk r m).2 := by
  rw [Moves, sendFault_protocol]
  exact .single (Move.fault _ _)

theorem afterSend_moves (m : Machine κ δ) (command : ShapedJointCommandV1 δ) :
    Path (Move config Allow) (m.protocol.follow command (sdk.stopMotion m.context).1)
      (afterSend sdk config m command).2.protocol := by
  unfold afterSend Protocol.follow
  by_cases hbraking : command.outputMode = .controlledBraking
  · rw [if_pos hbraking, if_pos hbraking]
    exact .refl
  rw [if_neg hbraking, if_neg hbraking]
  by_cases hstopped : command.outputMode = .stopped
  · rw [if_pos hstopped, if_pos hstopped]
    by_cases hstate : m.adapter.state = .controlledStopping
    · rw [if_pos (by exact hstate), if_neg (not_not.mpr hstate)]
      exact applyStoppedPreparation_moves sdk config Allow (m := storeStopped m command) rfl
    · rw [if_neg (by exact hstate), if_pos hstate, fault_protocol]
  · rw [if_neg hstopped, if_neg hstopped]

/-- After the SDK has answered, `Send` goes on from the protocol state in which
    the command is handed over. -/
theorem send_moves (m : Machine κ δ) (command : ShapedJointCommandV1 δ) (nowNs : ℤ) :
    Path (Move config Allow)
      (m.protocol.handOver command nowNs (callSend sdk config m command nowNs).1
        (sdk.stopMotion (callSend sdk config m command nowNs).2.context).1)
      (send sdk config m command nowNs).2.protocol := by
  unfold send Protocol.handOver
  extract_lets sent call
  by_cases hok : call.1 = .ok
  · rw [if_pos hok, if_neg (fun h => not_sdkOk h hok)]
    exact afterSend_moves sdk config Allow
      { call.2 with adapter := countSent call.2.adapter command nowNs } command
  · rw [if_neg hok, if_pos (by simpa [sdkOk] using hok), sendFault_protocol]
    exact .refl

theorem repeatStoppedCommand_moves {m : Machine κ δ}
    (hstate : m.adapter.state = .stoppedReady ∨ m.adapter.state = .measuredStateRefresh)
    (hpause : config.pausePolicy = .repeatStoppedPositionRequired) :
    Moves config Allow m (repeatStoppedCommand sdk config m).2 := by
  unfold repeatStoppedCommand
  split_ifs with hvalid
  swap
  · exact .refl
  extract_lets command call m'
  have hrepeat : Moves config Allow m m' :=
    .single (Move.repeatStopped (p := m.protocol) command call.1 hstate hpause
      (by simp only [Machine.protocol, if_pos hvalid]; rfl))
  split_ifs
  · exact hrepeat.trans (sendFault_moves sdk config Allow call.1 m')
  · exact hrepeat

section Double

variable [Double δ]

theorem connect_moves (m : Machine κ δ) (nowNs : ℤ) :
    Moves config Allow m (connect sdk config m nowNs).2 := by
  unfold connect
  split_ifs with hguard
  · exact .refl
  have hstate : m.adapter.state = .disconnected := by
    by_contra hne
    exact hguard (.inl hne)
  have hconnecting : Move config Allow m.protocol (m.withState .connecting).protocol :=
    Move.connecting hstate
  refine .head hconnecting ?_
  extract_lets call
  split_ifs with hlogin
  · exact observe_fault_moves sdk config Allow (.login call.1)
      (decide_eq_true (not_sdkOk hlogin)) (by rfl) _ _
  · have hmove : Move config Allow (m.withState .connecting).protocol _ := Move.connected rfl
    rw [← of_not_not_sdkOk hlogin] at hmove
    exact .single hmove

/-- `StartStreaming` gets as far as `Send` with this command. -/
def sendsFirst (m : Machine κ δ) (command : ShapedJointCommandV1 δ) (nowNs : ℤ) : Prop :=
  m.adapter.state = .servoReady ∧ m.adapter.safetyEpoch ≠ 0 ∧
    (validateCommand command ⟨nowNs, config.dof, m.adapter.safetyEpoch, 0⟩).ok = true ∧
    command.outputMode = .activeTracking ∧
    Double.lt config.resumePositionToleranceRad
      (maximumDelta config command m.adapter.measured) = false

theorem startStreaming_moves {m : Machine κ δ} {command : ShapedJointCommandV1 δ} {nowNs : ℤ}
    (hallow : sendsFirst config m command nowNs →
      Allow ⟨.streaming, m.adapter.sessionOwned⟩ command nowNs) :
    Moves config Allow m (startStreaming sdk config m command nowNs).2 := by
  unfold startStreaming
  split_ifs with hguard
  · exact .refl
  simp only [not_or, not_not] at hguard
  extract_lets context delta m'
  split_ifs with hvalid hdelta
  · exact fault_moves sdk config Allow _ _ m
  · exact fault_moves sdk config Allow _ _ m'
  · simp only [Bool.not_eq_eq_eq_not, Bool.not_true, not_or, Bool.not_eq_false, not_not] at hvalid
    have haccepted := validateCommand_ok hvalid.1
    refine .head (Move.first (p := m.protocol) command nowNs
      (callSend sdk config (m'.withState .streaming) command nowNs).1 (sdk.stopMotion
        (callSend sdk config (m'.withState .streaming) command nowNs).2.context).1
      hguard.1 hguard.2 hvalid.2 haccepted.sequence_ne_zero (haccepted.epoch_eq hguard.2)
      (hallow ⟨hguard.1, hguard.2, hvalid.1, hvalid.2, by simpa using hdelta⟩)) ?_
    exact send_moves sdk config Allow (m'.withState .streaming) command nowNs

theorem offerLatest_moves (m : Machine κ δ) (command : ShapedJointCommandV1 δ) (nowNs : ℤ) :
    Moves config Allow m (offerLatest sdk config m command nowNs).2 := by
  have hfault (code : ThinJakaCode) (reason : StopReason) :=
    fault_moves sdk config Allow code reason m
  have hepoch := fault_moves sdk config Allow .epochMismatch .epochMismatch (noteOldEpoch m)
  unfold offerLatest
  split_ifs with hguard hold
  · exact .refl
  · extract_lets context validation
    split_ifs
    · exact hepoch
    iterate 3 exact hfault _ _
  · extract_lets context validation
    split_ifs with hvalid
    · exact hepoch
    iterate 2 exact hfault _ _
    have hactive : m.adapter.state.isActive = true := by
      rw [ThinJakaState.isActive_iff]
      by_contra h
      exact hguard (not_or.mp h)
    have haccepted := validateCommand_ok (by simpa using hvalid)
    refine .single (Move.offer (p := m.protocol) command hactive haccepted.epoch_eq
      haccepted.sequence_lt fun c hc => ?_)
    simp only [Machine.protocol] at hc
    split_ifs at hc with hpending
    cases hc
    exact UInt64.not_le.mp fun hle => hold ⟨hpending, hle⟩

/-! ## The refresh -/

omit [Double δ] in
theorem refreshResult_moves {m : Machine κ δ} (hstate : m.adapter.state = .measuredStateRefresh)
    (pointee : Option (MeasuredJointStateV1 δ)) (code : RecoveryMeasurementCode)
    (released : Option (MeasuredJointStateV1 δ)) :
    Moves config Allow m (refreshResult sdk m pointee code released).2.2 := by
  unfold refreshResult
  split
  · exact .refl
  · exact .refl
  · exact .single (Move.refreshed (p := m.protocol) hstate)
  · exact fault_moves sdk config Allow _ _ m
  · exact fault_moves sdk config Allow _ _ m

/-- What the gate stores does not show in the protocol state. -/
theorem observeFeedback_moves {m : Machine κ δ} (hstate : m.adapter.state = .measuredStateRefresh)
    (pointee : Option (MeasuredJointStateV1 δ)) (feedback : JakaJointFeedback δ) :
    Moves config Allow m (observeFeedback sdk config m pointee feedback).2.2 := by
  unfold observeFeedback
  extract_lets stored observed
  exact refreshResult_moves sdk config Allow
    (m := { m with adapter := { stored with measurementGate := observed.2.2 } }) hstate pointee
    observed.1.code observed.2.1

theorem refreshMeasuredState_moves (m : Machine κ δ) (nowNs : ℤ)
    (pointee : Option (MeasuredJointStateV1 δ)) :
    Moves config Allow m (refreshMeasuredState sdk config m nowNs pointee).2.2 := by
  unfold refreshMeasuredState
  split_ifs with hguard
  · exact .refl
  have hstate : m.adapter.state = .measuredStateRefresh := by
    by_contra hne
    exact hguard (.inl hne)
  have hread : Moves config Allow m (callReadJointFeedback sdk m).2.2 :=
    .single (Move.observe (p := m.protocol) (.readJointFeedback _) rfl)
  have hfault (code : ThinJakaCode) (reason : StopReason) :=
    hread.trans (fault_moves sdk config Allow code reason (callReadJointFeedback sdk m).2.2)
  extract_lets io feedback m' sampleAge
  split_ifs
  iterate 4 exact hfault _ _
  exact hread.trans (observeFeedback_moves sdk config Allow (m := (callReadJointFeedback sdk m).2.2)
    hstate pointee feedback)

end Double

/-! ## Ticks -/

/-- `Tick` goes on after its timing check and its status poll with the same
    protocol state, one read later at most. -/
theorem tickGate_ok (m : Machine κ δ) (nowNs : ℤ) (h : (tickGate sdk config m nowNs).1 = .ok) :
    (tickGate sdk config m nowNs).2.protocol = m.protocol ∨
      ∃ r, (tickGate sdk config m nowNs).2.protocol = m.protocol.log (.readStatus r) := by
  revert h
  unfold tickGate
  extract_lets counted
  split_ifs
  · intro h
    cases h
  iterate 2
    intro h
    rw [fault_code] at h
    cases h
  · exact fun h => .inr ⟨_, pollStatus_ok sdk config h⟩
  · exact fun _ => .inl rfl

theorem tickGate_moves (m : Machine κ δ) (nowNs : ℤ) :
    Moves config Allow m (tickGate sdk config m nowNs).2 := by
  unfold tickGate
  extract_lets counted
  split_ifs
  · exact .refl
  · exact fault_moves sdk config Allow _ _ (missDeadline m)
  · exact fault_moves sdk config Allow _ _ (missDeadline (noteInterval m nowNs))
  · exact pollStatus_moves sdk config Allow counted nowNs
  · exact .refl

theorem tickSend_moves {m : Machine κ δ}
    (hallow : ∀ command, m.protocol.pending = some command →
      Allow m.protocol.sender command nowNs) :
    Moves config Allow m (tickSend sdk config m nowNs).2 := by
  unfold tickSend
  split_ifs with hrepeat hpending
  · exact repeatStoppedCommand_moves sdk config Allow hrepeat.1 hrepeat.2.1
  · have hslot : m.protocol.pending = some m.adapter.pending := if_pos hpending
    exact .head (Move.deliver m.adapter.pending nowNs _ _ hslot (hallow _ hslot))
      (send_moves sdk config Allow { m with adapter.pendingValid := false } m.adapter.pending nowNs)
  · exact .refl

theorem tick_moves {m : Machine κ δ}
    (hallow : (tickGate sdk config m nowNs).1 = .ok → ∀ command,
      m.protocol.pending = some command → Allow m.protocol.sender command nowNs) :
    Moves config Allow m (tick sdk config m nowNs).2 := by
  unfold tick
  have hgate := tickGate_moves sdk config Allow m nowNs
  have hok := tickGate_ok sdk config m nowNs
  extract_lets gate
  split_ifs with hcode
  · exact hgate
  · refine hgate.trans (tickSend_moves sdk config Allow ?_)
    have hallow' := hallow (not_not.mp hcode)
    rcases hok (not_not.mp hcode) with h | ⟨r, h⟩ <;> rw [h] <;> exact hallow'

/-! ## Hard stop, cleanup, reset -/

theorem explicitReset_moves (m : Machine κ δ) (nowNs : ℤ) :
    Moves config Allow m (explicitReset m nowNs).2 := by
  unfold explicitReset
  split_ifs with hguard
  · exact .refl
  · simp only [not_or, not_not, Bool.not_eq_true] at hguard
    exact .single (Move.explicitReset (p := m.protocol) hguard.1 hguard.2.1 hguard.2.2)

/-- What the stages of `Cleanup` leave. -/
theorem cleanupServo_spec {m : Machine κ δ} (hstate : m.adapter.state = .cleanup) (failed : Bool) :
    Moves config Allow m (cleanupServo sdk m failed).2 ∧
      (cleanupServo sdk m failed).2.adapter.state = .cleanup ∧
      ((cleanupServo sdk m failed).1 = false →
        failed = false ∧ (cleanupServo sdk m failed).2.adapter.servoEnabled = false) := by
  unfold cleanupServo
  split_ifs with hon
  · extract_lets call
    split_ifs with hok
    · exact ⟨setServoOff_moves Allow ((sdkOk_iff _).mp hok) (.inl hstate), hstate,
        fun h => ⟨h, rfl⟩⟩
    · exact ⟨setServo_observe Allow (fun h => hok ((sdkOk_iff _).mpr h)), hstate,
        fun h => by cases h⟩
  · exact ⟨.refl, hstate, fun h => ⟨h, by simpa using hon⟩⟩

theorem cleanupEdg_spec {m : Machine κ δ} (hstate : m.adapter.state = .cleanup) (failed : Bool) :
    Moves config Allow m (cleanupEdg sdk m failed).2 ∧
      (cleanupEdg sdk m failed).2.adapter.state = .cleanup ∧
      (cleanupEdg sdk m failed).2.adapter.servoEnabled = m.adapter.servoEnabled ∧
      ((cleanupEdg sdk m failed).1 = false →
        failed = false ∧ (cleanupEdg sdk m failed).2.adapter.edgEnabled = false) := by
  unfold cleanupEdg
  split_ifs with hon
  · extract_lets call
    split_ifs with hok
    · exact ⟨setEdgOff_moves Allow ((sdkOk_iff _).mp hok) (.inl hstate), hstate, rfl,
        fun h => ⟨h, rfl⟩⟩
    · exact ⟨setEdg_observe Allow (fun h => hok ((sdkOk_iff _).mpr h)), hstate, rfl,
        fun h => by cases h⟩
  · exact ⟨.refl, hstate, rfl, fun h => ⟨h, by simpa using hon⟩⟩

theorem cleanupSession_spec {m : Machine κ δ} (hstate : m.adapter.state = .cleanup)
    (failed : Bool) :
    Moves config Allow m (cleanupSession sdk m failed).2 ∧
      (cleanupSession sdk m failed).2.adapter.state = .cleanup ∧
      (cleanupSession sdk m failed).2.adapter.servoEnabled = m.adapter.servoEnabled ∧
      (cleanupSession sdk m failed).2.adapter.edgEnabled = m.adapter.edgEnabled ∧
      ((cleanupSession sdk m failed).1 = false →
        failed = false ∧ (cleanupSession sdk m failed).2.adapter.sessionOwned = false) := by
  unfold cleanupSession
  split_ifs with hon
  · extract_lets call
    split_ifs with hok
    · have hlogout : Move config Allow m.protocol _ := Move.logout hstate
      rw [← (sdkOk_iff _).mp hok] at hlogout
      exact ⟨.single hlogout, hstate, rfl, rfl, fun h => ⟨h, rfl⟩⟩
    · exact ⟨.single (Move.observe (p := m.protocol) (.logout call.1)
        (decide_eq_true fun h => hok ((sdkOk_iff _).mpr h))), hstate, rfl, rfl,
        fun h => by cases h⟩
  · exact ⟨.refl, hstate, rfl, rfl, fun h => ⟨h, by simpa using hon⟩⟩

theorem cleanup_moves (m : Machine κ δ) (nowNs : ℤ) :
    Moves config Allow m (cleanup sdk m nowNs).2 := by
  unfold cleanup
  split_ifs with hguard
  · exact .refl
  have hstate : m.adapter.state = .faulted ∨ m.adapter.state = .stoppedReady ∨
      m.adapter.state = .servoReady ∨ m.adapter.state = .connected := by
    by_contra h
    simp only [not_or] at h
    exact hguard h
  have hbegin : Moves config Allow m (m.withState .cleanup) :=
    .single (Move.beginCleanup (p := m.protocol) hstate)
  extract_lets servo edg session m'
  obtain ⟨hservo, hservoState, hservoOff⟩ :=
    cleanupServo_spec sdk config Allow (m := m.withState .cleanup) rfl false
  obtain ⟨hedg, hedgState, hedgServo, hedgOff⟩ :=
    cleanupEdg_spec sdk config Allow hservoState servo.1
  obtain ⟨hsession, hsessionState, hsessionServo, hsessionEdg, hsessionOff⟩ :=
    cleanupSession_spec sdk config Allow hedgState edg.1
  refine hbegin.trans (hservo.trans (hedg.trans (hsession.trans (.single ?_))))
  refine Move.endCleanup (p := session.2.protocol) session.1 hsessionState fun hclean => ?_
  obtain ⟨hedgClean, howned⟩ := hsessionOff hclean
  obtain ⟨hservoClean, hedgFalse⟩ := hedgOff hedgClean
  exact ⟨(hsessionServo.trans hedgServo).trans (hservoOff hservoClean).2,
    hsessionEdg.trans hedgFalse, howned⟩

/-! ## The simulation -/

section Double

variable [Double δ]

/-- What a call has to meet so that a command it hands over is allowed. -/
def Allows (m : Machine κ δ) : Call δ → Prop
  | .startStreaming command nowNs => sendsFirst config m command nowNs →
      Allow ⟨.streaming, m.adapter.sessionOwned⟩ command nowNs
  | .tick nowNs => (tickGate sdk config m nowNs).1 = .ok → ∀ command,
      m.protocol.pending = some command → Allow m.protocol.sender command nowNs
  | _ => True

/-- **Simulation.** A public call is a sequence of moves. -/
theorem step_moves {m : Machine κ δ} {call : Call δ} (h : Allows sdk config Allow m call) :
    Moves config Allow m (step sdk config m call) := by
  cases call with
  | connect nowNs => exact connect_moves sdk config Allow m nowNs
  | prepareServo nowNs => exact prepareServo_moves sdk config Allow m nowNs
  | beginMeasuredStateRefresh epoch nowNs =>
    exact beginMeasuredStateRefresh_moves sdk config Allow m epoch nowNs
  | refreshMeasuredState nowNs pointee =>
    exact refreshMeasuredState_moves sdk config Allow m nowNs pointee
  | startStreaming command nowNs => exact startStreaming_moves sdk config Allow h
  | offerLatest command nowNs => exact offerLatest_moves sdk config Allow m command nowNs
  | tick nowNs => exact tick_moves sdk config Allow h
  | pollStatus nowNs => exact pollStatus_moves sdk config Allow m nowNs
  | hardStop reason nowNs => exact fault_moves sdk config Allow _ _ m
  | cleanup nowNs => exact cleanup_moves sdk config Allow m nowNs
  | explicitReset nowNs => exact explicitReset_moves config Allow m nowNs

/-- Every command may be handed over. -/
def anyCommand (_ : Sender) (_ : ShapedJointCommandV1 δ) (_ : ℤ) : Prop := True

theorem allows_anyCommand (m : Machine κ δ) (call : Call δ) :
    Allows sdk config anyCommand m call := by
  cases call <;> simp [Allows, anyCommand]

variable {sdk config}

variable {P : Protocol δ → Prop}

/-- What every move preserves holds after every run of public calls. -/
theorem run_invariant_of_moves
    (hmove : ∀ p q, Move config anyCommand p q → P p → P q) {m : Machine κ δ} (hm : P m.protocol)
    (calls : List (Call δ)) : P (run (step sdk config) m calls).protocol :=
  run_invariant (P := fun m => P m.protocol) (fun m call h => path_invariant hmove
    (step_moves sdk config anyCommand (allows_anyCommand sdk config m call)) h) hm calls

/-- The same from a new adapter. -/
theorem runCalls_invariant
    (hmove : ∀ p q, Move config anyCommand p q → P p → P q) (hinit : P Protocol.init)
    (context : κ) (calls : List (Call δ)) : P (runCalls sdk config context calls).protocol :=
  run_invariant_of_moves hmove (m := .init context) hinit calls

theorem runCalls_invariant_of_meets
    (hmove : ∀ p q, Move config Allow p q → P p → P q) (hinit : P Protocol.init)
    {context : κ} {calls : List (Call δ)}
    (h : Meets (step sdk config) (Allows sdk config Allow) (.init context) calls) :
    P (runCalls sdk config context calls).protocol :=
  run_invariant_of_meets (P := fun m => P m.protocol)
    (fun _ _ hallow hm => path_invariant hmove (step_moves sdk config Allow hallow) hm) hinit h

end Double

end HandLab.ThinJaka
