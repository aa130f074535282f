import HandLab.ThinJaka.Refinement

/-!
# What every state of the protocol promises

`Protocol.Wf` lists, state by state, what is known of the session, the two
switches, the slot and the stop latch. Every move keeps it (`Move.wf`), so it
holds of every reachable adapter (`runCalls_wf`).
-/

namespace HandLab.ThinJaka

open HandLab.Lib HandLab.CommandAbi

variable {κ δ : Type*} (config : ThinJakaConfig δ)

/-- The combination of policies that `PrepareServo` refuses does not occur. -/
def PolicyOk : Prop :=
  config.pausePolicy = .repeatStoppedPositionRequired → config.resumePolicy = .keepPrepared

/-- What is known in each state. -/
def Protocol.Wf (p : Protocol δ) : Prop :=
  match p.state with
  | .disconnected | .connecting =>
    p.sessionOwned = false ∧ p.edgEnabled = false ∧ p.servoEnabled = false ∧ p.pending = none ∧
      p.stopCalled = false
  | .connected => p.sessionOwned = true ∧ p.pending = none ∧ p.stopCalled = false
  | .servoReady | .measuredStateRefresh =>
    p.sessionOwned = true ∧ p.edgEnabled = true ∧ p.servoEnabled = true ∧ p.pending = none ∧
      p.stopCalled = false ∧ PolicyOk config
  | .streaming | .controlledStopping =>
    p.sessionOwned = true ∧ p.edgEnabled = true ∧ p.servoEnabled = true ∧
      p.stopCalled = false ∧ PolicyOk config
  | .stoppedReady =>
    -- a resume policy that restarts a switch has it off while the arm is stopped
    p.sessionOwned = true ∧ (config.resumePolicy = .keepPrepared → p.edgEnabled = true) ∧
      (config.resumePolicy ≠ .restartEdgAndServo → p.servoEnabled = true) ∧
      p.pending = none ∧ p.stopCalled = false ∧ PolicyOk config
  | .faulted | .cleanup => p.pending = none
  | .resetRequired => p.pending = none ∧ (p.cleanupFailed = false →
      p.sessionOwned = false ∧ p.edgEnabled = false ∧ p.servoEnabled = false)

variable {config} {Allow : Sender → ShapedJointCommandV1 δ → ℤ → Prop}

theorem Protocol.wf_init : (Protocol.init : Protocol δ).Wf config :=
  ⟨rfl, rfl, rfl, rfl, rfl⟩

variable {p : Protocol δ}

theorem Protocol.Wf.isActive (h : p.Wf config) {c : ShapedJointCommandV1 δ}
    (hc : p.pending = some c) : p.state.isActive = true := by
  unfold Protocol.Wf at h
  split at h <;> simp_all [ThinJakaState.isActive]

/-- While a fault can be latched, the motion has not been stopped. -/
theorem Protocol.Wf.stopCalled (h : p.Wf config)
    (hopen : p.state.isOpen = true) : p.stopCalled = false := by
  unfold Protocol.Wf at h
  split at h <;> simp_all [ThinJakaState.isOpen]

/-- Nothing is known of the slot of an active state. -/
theorem Protocol.Wf.without_pending (h : p.Wf config)
    (hactive : p.state.isActive = true) :
    ({ p with pending := none } : Protocol δ).Wf config := by
  rcases (ThinJakaState.isActive_iff _).mp hactive with hs | hs <;>
    simpa only [Protocol.Wf, hs] using h

theorem Protocol.Wf.fault (h : p.Wf config) (reason : StopReason)
    (stop : JakaFunctionResult) : (p.fault reason stop).Wf config := by
  by_cases hopen : p.state.isOpen = true
  · simp only [Protocol.Wf, Protocol.fault_state _ _ hopen, Protocol.fault_pending _ _ hopen]
  · rwa [Protocol.fault_of_closed _ _ (by simpa using hopen)]

theorem Protocol.Wf.handOver (h : p.Wf config)
    (hactive : p.state.isActive = true) (hpending : p.pending = none)
    (command : ShapedJointCommandV1 δ) (nowNs : ℤ) (result stop : JakaFunctionResult) :
    (p.handOver command nowNs result stop).Wf config := by
  have hp : p.sessionOwned = true ∧ p.edgEnabled = true ∧ p.servoEnabled = true ∧
      p.stopCalled = false ∧ PolicyOk config := by
    rcases (ThinJakaState.isActive_iff _).mp hactive with hs | hs <;>
      simpa only [Protocol.Wf, hs] using h
  obtain ⟨howned, hedg, hservo, hstop, hpolicy⟩ := hp
  -- neither the event nor the counters are part of what is known
  have hsent : ((p.log (.send p.sender command nowNs .ok)).count command).Wf config := h
  refine Protocol.handOver_cases (fun _ => ?_) (fun _ _ => ?_) (fun _ _ _ => ?_)
    (fun _ _ _ => ?_) (fun _ _ _ => ?_)
  · exact Protocol.Wf.fault (p := p.log (.send p.sender command nowNs result)) h _ _
  · exact ⟨howned, hedg, hservo, hstop, hpolicy⟩
  · exact ⟨howned, fun _ => hedg, fun _ => hservo, hpending, hstop, hpolicy⟩
  · exact hsent.fault _ _
  · exact hsent

theorem Move.wf {p q : Protocol δ} (hmove : Move config Allow p q) (h : p.Wf config) :
    q.Wf config := by
  cases hmove with
  | observe e he => exact h
  | fault reason stop => exact h.fault reason stop
  | connecting hstate => simpa [Protocol.Wf, hstate] using h
  | connected hstate =>
    simp only [Protocol.Wf, hstate] at h
    exact ⟨rfl, h.2.2.2⟩
  | edgOn hstate =>
    rcases hstate with hs | hs <;> simp only [Protocol.Wf, hs] at h ⊢
    · exact h
    · exact ⟨h.1, fun _ => trivial, h.2.2⟩
  | servoOn hstate =>
    rcases hstate with hs | hs <;> simp only [Protocol.Wf, hs] at h ⊢
    · exact h
    · exact ⟨h.1, h.2.1, fun _ => trivial, h.2.2.2⟩
  | prepared hstate hedg hservo hpolicy =>
    simp only [Protocol.Wf, hstate] at h
    exact ⟨h.1, hedg, hservo, h.2.1, h.2.2, hpolicy⟩
  | edgOff hstate =>
    rcases hstate with hs | ⟨hs, hkeep⟩ <;> simp only [Protocol.Wf, hs] at h ⊢
    · exact h
    · exact ⟨h.1, fun hk => absurd hk hkeep, h.2.2⟩
  | servoOff hstate =>
    rcases hstate with hs | ⟨hs, hboth⟩ <;> simp only [Protocol.Wf, hs] at h ⊢
    · exact h
    · exact ⟨h.1, h.2.1, fun hne => absurd hboth hne, h.2.2.2⟩
  | beginFromReady epoch hstate hepoch =>
    simp only [Protocol.Wf, hstate] at h
    exact ⟨h.1, h.2.1, h.2.2.1, rfl, h.2.2.2.2⟩
  | beginFromStopped epoch hstate hepoch hedg hservo =>
    simp only [Protocol.Wf, hstate] at h
    refine ⟨h.1, hedg, ?_, rfl, h.2.2.2.2⟩
    by_cases hrestart : config.resumePolicy = .restartEdg
    · exact h.2.2.1 (by simp [hrestart])
    · exact hservo hrestart
  | refreshed hstate => simpa only [Protocol.Wf, hstate] using h
  | first command nowNs r stop hstate hzero hmode hseq hepoch hallow =>
    simp only [Protocol.Wf, hstate] at h
    obtain ⟨howned, hedg, hservo, hpending, hstop⟩ := h
    exact Protocol.Wf.handOver (p := { p with state := .streaming })
      ⟨howned, hedg, hservo, hstop⟩ rfl hpending _ _ _ _
  | offer command hstate hepoch hseq hpending =>
    rcases (ThinJakaState.isActive_iff _).mp hstate with hs | hs <;>
      simpa only [Protocol.Wf, hs] using h
  | deliver command nowNs r stop hpending hallow =>
    have hactive := h.isActive hpending
    exact (h.without_pending hactive).handOver hactive rfl _ _ _ _
  | repeatStopped command r hstate hpause hstopped => exact h
  | beginCleanup hstate =>
    rcases hstate with hs | hs | hs | hs <;> simp only [Protocol.Wf, hs] at h ⊢ <;> simp [h]
  | logout hstate => simpa only [Protocol.Wf, hstate] using h
  | endCleanup failed hstate hclean =>
    simp only [Protocol.Wf, hstate] at h
    exact ⟨h, fun hf => ⟨(hclean hf).2.2, (hclean hf).2.1, (hclean hf).1⟩⟩
  | explicitReset hstate hclean howned =>
    simp only [Protocol.Wf, hstate] at h
    exact ⟨howned, (h.2 hclean).2.1, (h.2 hclean).2.2, rfl, rfl⟩

variable [Double δ]

/-- Every reachable adapter is well formed. -/
theorem runCalls_wf (sdk : JakaSdkFunctionTable κ δ) (context : κ) (calls : List (Call δ)) :
    (runCalls sdk config context calls).protocol.Wf config :=
  runCalls_invariant (fun _ _ hmove h => hmove.wf h) Protocol.wf_init context calls

end HandLab.ThinJaka
