import HandLab.ThinJaka.Invariants

/-!
# Which calls hand a command over

Histories only grow (`step_history`). A tick that gets past its timing check and
its status poll sends the command in the slot (`tick_sends`), and
`StartStreaming` sends the first command once it is accepted
(`startStreaming_sends`). So a property of the sends of a run says something
about the calls that made them (`whenever_iff_meets`).
-/

namespace HandLab.ThinJaka

open HandLab.Lib HandLab.CommandAbi

variable {κ δ : Type*}

/-- A command that `Send` hands to `send_joint_position`, with the `now_ns` of the call. -/
def Event.sent : Event δ → Option (ShapedJointCommandV1 δ × ℤ)
  | .send _ command nowNs _ => some (command, nowNs)
  | _ => none

theorem Event.sent_of_isObservation {e : Event δ} (he : e.isObservation = true) :
    e.sent = none := by
  cases e <;> first | rfl | simp [Event.isObservation] at he

/-- A new epoch begins: the measured state has been refreshed. -/
def Event.isRefreshed : Event δ → Bool
  | .refreshed _ _ => true
  | _ => false

/-! ## Histories grow -/

theorem Protocol.fault_history (p : Protocol δ) (reason : StopReason) (stop : JakaFunctionResult) :
    p.history <:+ (p.fault reason stop).history := by
  unfold Protocol.fault
  split_ifs
  · exact (List.suffix_cons _ _).trans (List.suffix_cons _ _)
  · exact List.suffix_cons _ _
  · exact List.suffix_refl _

/-- The send stays in the history of whatever follows it. -/
theorem Protocol.handOver_history (p : Protocol δ) (command : ShapedJointCommandV1 δ) (nowNs : ℤ)
    (result stop : JakaFunctionResult) :
    (.send p.sender command nowNs result :: p.history) <:+
      (p.handOver command nowNs result stop).history := by
  have hok (h : result = .ok) : (.send p.sender command nowNs result :: p.history) =
      (p.log (.send p.sender command nowNs .ok)).history := by rw [h]; rfl
  refine Protocol.handOver_cases
    (P := fun q => (.send p.sender command nowNs result :: p.history) <:+ q.history)
    (fun _ => ?_) (fun h _ => ?_) (fun h _ _ => ?_) (fun h _ _ => ?_) (fun h _ _ => ?_)
  · exact Protocol.fault_history (p.log (.send p.sender command nowNs result)) _ _
  · rw [hok h]
    exact List.suffix_refl _
  · rw [hok h]
    exact List.suffix_refl _
  · rw [hok h]
    exact Protocol.fault_history ((p.log (.send p.sender command nowNs .ok)).count command) _ _
  · rw [hok h]
    exact List.suffix_refl _

variable {config : ThinJakaConfig δ} {Allow : Sender → ShapedJointCommandV1 δ → ℤ → Prop}

theorem Move.history {p q : Protocol δ} (h : Move config Allow p q) : p.history <:+ q.history := by
  cases h with
  | fault reason stop => exact p.fault_history reason stop
  | first command nowNs r stop =>
    exact (List.suffix_cons _ _).trans (Protocol.handOver_history
      ({ p with state := .streaming } : Protocol δ) command nowNs r stop)
  | deliver command nowNs r stop =>
    exact (List.suffix_cons _ _).trans (Protocol.handOver_history
      ({ p with pending := none } : Protocol δ) command nowNs r stop)
  | connected => exact (List.suffix_cons _ _).trans (List.suffix_cons _ _)
  | connecting | beginFromReady | beginFromStopped | beginCleanup | endCleanup =>
    exact List.suffix_refl _
  | _ => exact List.suffix_cons _ _

/-- A relation of the sends to their past that every other event is in. -/
theorem Move.whenever_sent {Q : Event δ → List (Event δ) → Prop}
    (hquiet : ∀ e past, e.sent = none → Q e past) {p q : Protocol δ}
    (hmove : Move config Allow p q) (h : Whenever Q p.history)
    (hfirst : ∀ command nowNs r, p.state = .servoReady → p.safetyEpoch ≠ 0 →
      command.outputMode = .activeTracking → command.safetyEpoch = p.safetyEpoch →
      Allow ⟨.streaming, p.sessionOwned⟩ command nowNs →
      Q (.send ⟨.streaming, p.sessionOwned⟩ command nowNs r) p.history)
    (hdeliver : ∀ command nowNs r, p.pending = some command → Allow p.sender command nowNs →
      Q (.send p.sender command nowNs r) p.history) : Whenever Q q.history := by
  have quiet {e : Event δ} (he : e.sent = none) : Whenever Q (e :: p.history) :=
    whenever_cons.mpr ⟨hquiet _ _ he, h⟩
  have hlatched (reason : StopReason) (owned : Bool) (past : List (Event δ)) :
      Q (.latched reason owned) past := hquiet _ _ rfl
  have hstop (r : JakaFunctionResult) (past : List (Event δ)) : Q (.stopMotion r) past :=
    hquiet _ _ rfl
  cases hmove with
  | observe e he => exact quiet (Event.sent_of_isObservation he)
  | fault reason stop => exact Protocol.whenever_fault hlatched hstop h reason stop
  | connected hstate => exact whenever_cons.mpr ⟨hquiet _ _ rfl, quiet rfl⟩
  | first command nowNs r stop hstate hzero hmode hseq hepoch hallow =>
    exact Protocol.whenever_handOver hlatched hstop (p := { p with state := .streaming }) h
      command nowNs r stop (hfirst command nowNs r hstate hzero hmode hepoch hallow)
  | deliver command nowNs r stop hpending hallow =>
    exact Protocol.whenever_handOver hlatched hstop (p := { p with pending := none }) h
      command nowNs r stop (hdeliver command nowNs r hpending hallow)
  | connecting | beginFromReady | beginFromStopped | beginCleanup | endCleanup => exact h
  | _ => exact quiet rfl

theorem path_history {p q : Protocol δ} (h : Path (Move config Allow) p q) :
    p.history <:+ q.history :=
  path_invariant (P := fun t => p.history <:+ t.history)
    (fun _ _ hmove hp => hp.trans hmove.history) h (List.suffix_refl _)

/-! ## What a call sends -/

section Calls

variable [Double δ] (sdk : JakaSdkFunctionTable κ δ) (config : ThinJakaConfig δ)

theorem step_history (m : Machine κ δ) (call : Call δ) :
    m.history <:+ (step sdk config m call).history :=
  path_history (step_moves sdk config anyCommand (allows_anyCommand sdk config m call))

omit [Double δ] in
theorem send_history (m : Machine κ δ) (command : ShapedJointCommandV1 δ) (nowNs : ℤ) :
    ∃ r, (.send m.protocol.sender command nowNs r :: m.history) <:+
      (send sdk config m command nowNs).2.history :=
  ⟨_, (Protocol.handOver_history m.protocol command nowNs _ _).trans
    (path_history (send_moves sdk config anyCommand m command nowNs))⟩

/-- An accepted first command is sent. -/
theorem startStreaming_sends {m : Machine κ δ} {command : ShapedJointCommandV1 δ} {nowNs : ℤ}
    (h : sendsFirst config m command nowNs) :
    ∃ r, (.send ⟨.streaming, m.adapter.sessionOwned⟩ command nowNs r :: m.history) <:+
      (startStreaming sdk config m command nowNs).2.history := by
  obtain ⟨hstate, hepoch, hvalid, hmode, hdelta⟩ := h
  unfold startStreaming
  rw [if_neg (by simp [hstate, hepoch])]
  extract_lets context delta m'
  rw [if_neg (by simp [context, hvalid, hmode]), if_neg (by simp [delta, hdelta])]
  exact send_history sdk config (m'.withState .streaming) command nowNs

omit [Double δ] in
theorem tick_sends {m : Machine κ δ} (hwf : m.protocol.Wf config) {nowNs : ℤ}
    (hgate : (tickGate sdk config m nowNs).1 = .ok) {command : ShapedJointCommandV1 δ}
    (hslot : m.protocol.pending = some command) :
    ∃ r past, (past = m.history ∨ ∃ s, past = .readStatus s :: m.history) ∧
      (.send m.protocol.sender command nowNs r :: past) <:+
        (tick sdk config m nowNs).2.history := by
  have hactive := hwf.isActive hslot
  have hok := tickGate_ok sdk config m nowNs hgate
  unfold tick
  extract_lets gate
  rw [if_neg (not_not.mpr hgate)]
  have hpast : gate.2.history = m.history ∨ ∃ s, gate.2.history = .readStatus s :: m.history := by
    rcases hok with h | ⟨s, h⟩
    · exact .inl (congrArg Protocol.history h)
    · exact .inr ⟨s, congrArg Protocol.history h⟩
  have hpending : gate.2.protocol.pending = m.protocol.pending := by
    rcases hok with h | ⟨s, h⟩
    · exact congrArg Protocol.pending h
    · exact (congrArg Protocol.pending h :)
  have hsender : gate.2.protocol.sender = m.protocol.sender := by
    rcases hok with h | ⟨s, h⟩
    · exact congrArg Protocol.sender h
    · exact (congrArg Protocol.sender h :)
  have hstate : gate.2.adapter.state = m.adapter.state := congrArg Sender.state hsender
  have hrepeat : ¬(gate.2.adapter.state = .stoppedReady ∨
      gate.2.adapter.state = .measuredStateRefresh) := by
    rw [hstate]
    rintro (hs | hs) <;> simp [hs, ThinJakaState.isActive] at hactive
  rw [hslot] at hpending
  simp only [Machine.protocol] at hpending
  split_ifs at hpending with hvalid
  cases hpending
  obtain ⟨r, hsend⟩ := send_history sdk config
    { gate.2 with adapter.pendingValid := false } gate.2.adapter.pending nowNs
  unfold tickSend
  rw [if_neg (fun h => hrepeat h.1), if_pos hvalid]
  exact ⟨r, gate.2.history, hpast, hsender ▸ hsend⟩

variable {sdk config}

/-- What the sends of a call show of the conditions it had to meet: a relation
    `Q` of the event to its past implies `Allow`. -/
structure Shows (config : ThinJakaConfig δ) (Q : Event δ → List (Event δ) → Prop)
    (Allow : Sender → ShapedJointCommandV1 δ → ℤ → Prop) (m : Machine κ δ) : Prop where
  first : ∀ command nowNs r, sendsFirst config m command nowNs →
    Q (.send ⟨.streaming, m.adapter.sessionOwned⟩ command nowNs r) m.history →
    Allow ⟨.streaming, m.adapter.sessionOwned⟩ command nowNs
  deliver : ∀ command nowNs r past, (past = m.history ∨ ∃ s, past = .readStatus s :: m.history) →
    m.protocol.pending = some command → Q (.send m.protocol.sender command nowNs r) past →
    Allow m.protocol.sender command nowNs

variable {Q : Event δ → List (Event δ) → Prop}

theorem allows_of_whenever {m : Machine κ δ} {call : Call δ}
    (hwf : m.protocol.Wf config) (hshows : Shows config Q Allow m)
    (h : Whenever Q (step sdk config m call).history) : Allows sdk config Allow m call := by
  cases call with
  | startStreaming command nowNs =>
    intro hsends
    obtain ⟨r, hsuffix⟩ := startStreaming_sends sdk config hsends
    exact hshows.first command nowNs r hsends (h _ _ hsuffix)
  | tick nowNs =>
    intro hgate command hslot
    obtain ⟨r, past, hpast, hsuffix⟩ := tick_sends sdk config hwf hgate hslot
    exact hshows.deliver command nowNs r past hpast hslot (h _ _ hsuffix)
  | _ => trivial

/-- **Sends and conditions.** Let an invariant `P` of the moves that meet `Allow`
    imply that `Q` holds of every event, and let `Q` show `Allow`. Then the runs
    in which `Q` holds of every event are those whose calls meet `Allow`. -/
theorem whenever_iff_meets {P : Protocol δ → Prop}
    (hinit : P .init) (hmove : ∀ p q, Move config Allow p q → P p → P q)
    (hwf : ∀ p, P p → p.Wf config) (hsends : ∀ p, P p → Whenever Q p.history)
    (hshows : ∀ m : Machine κ δ, P m.protocol → Shows config Q Allow m)
    (context : κ) (calls : List (Call δ)) :
    Whenever Q (runCalls sdk config context calls).history ↔
      Meets (step sdk config) (Allows sdk config Allow) (.init context) calls := by
  have hstep (m : Machine κ δ) (call : Call δ) (hallow : Allows sdk config Allow m call)
      (hm : P m.protocol) : P (step sdk config m call).protocol :=
    path_invariant hmove (step_moves sdk config Allow hallow) hm
  constructor
  · refine meets_of_run (P := fun m : Machine κ δ => P m.protocol)
      (G := fun m : Machine κ δ => Whenever Q m.history) hstep
      (fun m call h => h.of_suffix (step_history sdk config m call)) (fun m call hm h => ?_)
      (s := Machine.init context) hinit
    exact allows_of_whenever (hwf _ hm) (hshows m hm) h
  · intro h
    exact hsends (runCalls sdk config context calls).protocol
      (runCalls_invariant_of_meets Allow hmove hinit h)

end Calls

/-! ## A controller at rest

The runs on fixed inputs below use a controller with every joint at zero, on
which every call succeeds and the `n`-th read takes place at `n` times 8 ms. -/

section Rest

variable [Double δ]

/-- The time of the `n`-th read. -/
def readNs (n : ℕ) : ℤ := 8000000 * n

/-- A function table whose calls all succeed; its context counts the reads. -/
def restSdk : JakaSdkFunctionTable ℕ δ where
  valid := true
  login n := (.ok, n)
  setEdgEnabled n _ := (.ok, n)
  setServoEnabled n _ := (.ok, n)
  sendJointPosition n _ _ _ := (.ok, n)
  readJointFeedback n := (.ok,
    { sequence := .ofNat (n + 1)
      sdkCallStartMonotonicNs := readNs n
      sdkCallEndMonotonicNs := readNs n
      sampledMonotonicNs := readNs n
      validationMonotonicNs := readNs n
      dof := 6
      positionRad := fun _ => Double.zero
      velocityRadS := fun _ => Double.zero }, n + 1)
  readStatus n := (.ok,
    { sequence := .ofNat (n + 1)
      sdkCallStartMonotonicNs := readNs n
      sdkCallEndMonotonicNs := readNs n
      sampledMonotonicNs := readNs n
      validationMonotonicNs := readNs n
      sessionAlive := true
      poweredOn := true
      servoEnabled := true
      edgReady := true
      alarm := false
      estop := false
      collision := false }, n + 1)
  stopMotion n := (.ok, n)
  logout n := (.ok, n)

/-- The default configuration with the policies that keep the arm prepared. -/
def restConfig : ThinJakaConfig δ :=
  { ThinJakaConfig.default with
    pausePolicy := .noCommandRequired
    resumePolicy := .keepPrepared }

/-- A command of epoch 1 that stays at zero. -/
def restCommand (mode : OutputMode) (sequence : UInt64) (generatedNs validUntilNs : ℤ) :
    ShapedJointCommandV1 δ :=
  let stopping := mode = .controlledBraking ∨ mode = .stopped
  { header := makeHeaderV1 shapedJointCommandSize
    outputSequence := sequence
    sourceSequence := 1
    safetyEpoch := 1
    generatedMonotonicNs := generatedNs
    validUntilMonotonicNs := validUntilNs
    dof := 6
    outputMode := mode
    stopClass := if stopping then .controlled else .none
    stopReason := if stopping then .clutchRelease else .none
    reasonCode := 0
    positionRad := fun _ => Double.zero
    velocityRadS := fun _ => Double.zero
    accelerationRadS2 := fun _ => Double.zero }

/-- The calls from a new adapter to its first command, at 24 ms. -/
def restCalls : List (Call δ) :=
  [.connect 0, .prepareServo 0, .beginMeasuredStateRefresh 1 0,
    .refreshMeasuredState 0 (some .zero), .refreshMeasuredState 8000000 (some .zero),
    .refreshMeasuredState 16000000 (some .zero),
    .startStreaming (restCommand .activeTracking 1 24000000 80000000) 24000000]

end Rest

example : (runCalls restSdk (restConfig : ThinJakaConfig ℚ) 0 restCalls).adapter.state =
    .streaming := by decide +kernel

end HandLab.ThinJaka
