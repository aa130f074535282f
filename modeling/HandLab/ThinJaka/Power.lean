import HandLab.ThinJaka.Invariants

/-!
# Power-up discipline

* `positions_powered`: every call of `send_joint_position`, fresh or repeated,
  is made by the owner of the session, after the last successful switch calls
  turned EDG and servo on.
* In `kStoppedReady` and `kMeasuredStateRefresh` the only position sent is that
  of the last stopped command that was sent successfully in the session.
-/

namespace HandLab.ThinJaka

open HandLab.Lib HandLab.CommandAbi

variable {κ δ : Type*}

/-! ## Reading the history -/

/-- The sender and the command of a call of `send_joint_position`. -/
def Event.positionCall : Event δ → Option (Sender × ShapedJointCommandV1 δ)
  | .send sender command _ _ | .repeatStopped sender command _ => some (sender, command)
  | _ => none

/-- What the last successful `set_edg_enabled` set. -/
def lastEdg : List (Event δ) → Option Bool :=
  latest fun | .setEdgEnabled enabled .ok => some enabled | _ => none

/-- What the last successful `set_servo_enabled` set. -/
def lastServo : List (Event δ) → Option Bool :=
  latest fun | .setServoEnabled enabled .ok => some enabled | _ => none

/-- The events of the current session. -/
def session (h : List (Event δ)) : List (Event δ) :=
  since (fun | .connected => true | _ => false) h

/-- The last stopped command that was sent successfully in the current session. -/
def lastStopped (h : List (Event δ)) : Option (ShapedJointCommandV1 δ) :=
  latest (fun
    | .send _ command _ .ok => if command.outputMode = .stopped then some command else none
    | _ => none) (session h)

/-- The sender holds a stopped command back. -/
def Sender.isHolding (sender : Sender) : Prop :=
  sender.state = .stoppedReady ∨ sender.state = .measuredStateRefresh

/-- What a position call needs of the sender and of the past. -/
structure PoweredSend (past : List (Event δ)) (sender : Sender)
    (command : ShapedJointCommandV1 δ) : Prop where
  owned : sender.sessionOwned = true
  edg : lastEdg past = some true
  servo : lastServo past = some true
  held : sender.isHolding → lastStopped past = some command

/-- An event that is a position call is a powered one. -/
def PositionPowered (e : Event δ) (past : List (Event δ)) : Prop :=
  ∀ sender command, e.positionCall = some (sender, command) → PoweredSend past sender command

variable {e : Event δ}

theorem PositionPowered.of_none {past : List (Event δ)}
    (he : e.positionCall = none) : PositionPowered e past := by
  intro sender command h
  rw [he] at h
  cases h

/-! ## The invariant -/

/-- A switch that is on was turned on by the last successful call. -/
structure Protocol.Switched (p : Protocol δ) : Prop where
  edg : p.edgEnabled = true → lastEdg p.history = some true
  servo : p.servoEnabled = true → lastServo p.history = some true

/-- The command held back is the last stopped one that was sent. -/
def Protocol.Held (p : Protocol δ) : Prop :=
  p.sender.isHolding → ∀ c, p.stopped = some c → lastStopped p.history = some c

variable {config : ThinJakaConfig δ} {Allow : Sender → ShapedJointCommandV1 δ → ℤ → Prop}

variable {p : Protocol δ}

/-- Observations are not successful switch calls. -/
theorem Protocol.Switched.observe (h : p.Switched)
    (he : e.isObservation = true) : (p.log e).Switched := by
  obtain ⟨hedg, hservo⟩ := h
  cases e <;> simp only [Event.isObservation, decide_eq_true_eq, Bool.false_eq_true] at he
  all_goals constructor
  all_goals simp_all [Protocol.log, lastEdg, lastServo, latest]

theorem Protocol.Switched.fault (h : p.Switched) (reason : StopReason)
    (stop : JakaFunctionResult) : (p.fault reason stop).Switched := by
  have hhistory : lastEdg (p.fault reason stop).history = lastEdg p.history ∧
      lastServo (p.fault reason stop).history = lastServo p.history := by
    unfold Protocol.fault
    split_ifs <;> exact ⟨rfl, rfl⟩
  constructor
  · rw [Protocol.fault_edgEnabled, hhistory.1]
    exact h.edg
  · rw [Protocol.fault_servoEnabled, hhistory.2]
    exact h.servo

theorem Protocol.Switched.handOver (h : p.Switched)
    (command : ShapedJointCommandV1 δ) (nowNs : ℤ) (result stop : JakaFunctionResult) :
    (p.handOver command nowNs result stop).Switched := by
  have hlog (r : JakaFunctionResult) : (p.log (.send p.sender command nowNs r)).Switched :=
    ⟨h.edg, h.servo⟩
  have hsent : ((p.log (.send p.sender command nowNs .ok)).count command).Switched :=
    ⟨h.edg, h.servo⟩
  exact Protocol.handOver_cases (fun _ => (hlog result).fault _ _)
    (fun _ _ => ⟨h.edg, h.servo⟩) (fun _ _ _ => ⟨h.edg, h.servo⟩)
    (fun _ _ _ => hsent.fault _ _) (fun _ _ _ => hsent)

theorem Move.switched {p q : Protocol δ} (hmove : Move config Allow p q) (h : p.Switched) :
    q.Switched := by
  cases hmove with
  | observe e he => exact h.observe he
  | fault reason stop => exact h.fault reason stop
  | first command nowNs r stop =>
    exact Protocol.Switched.handOver (p := { p with state := .streaming }) ⟨h.edg, h.servo⟩
      command nowNs r stop
  | deliver command nowNs r stop =>
    exact Protocol.Switched.handOver (p := { p with pending := none }) ⟨h.edg, h.servo⟩
      command nowNs r stop
  | edgOn => exact ⟨fun _ => rfl, h.servo⟩
  | servoOn => exact ⟨h.edg, fun _ => rfl⟩
  | edgOff => exact ⟨nofun, h.servo⟩
  | servoOff => exact ⟨h.edg, nofun⟩
  | _ => exact ⟨h.edg, h.servo⟩

theorem lastStopped_cons_of_isObservation (he : e.isObservation = true)
    (h : List (Event δ)) : lastStopped (e :: h) = lastStopped h := by
  cases e <;> first | rfl | simp [Event.isObservation] at he

theorem not_isHolding_of_isActive {sender : Sender} (h : sender.state.isActive = true) :
    ¬sender.isHolding := by
  rintro (hs | hs) <;> simp [hs, ThinJakaState.isActive] at h

theorem Protocol.Held.of_faulted (h : p.state = .faulted) : p.Held := by
  rintro (hs | hs) <;> simp [Protocol.sender, h] at hs

theorem Protocol.Held.fault (h : p.Held) (reason : StopReason)
    (stop : JakaFunctionResult) : (p.fault reason stop).Held := by
  by_cases hopen : p.state.isOpen = true
  · exact .of_faulted (Protocol.fault_state _ _ hopen)
  · rwa [Protocol.fault_of_closed _ _ (by simpa using hopen)]

theorem Protocol.Held.handOver (hactive : p.state.isActive = true)
    (command : ShapedJointCommandV1 δ) (nowNs : ℤ) (result stop : JakaFunctionResult) :
    (p.handOver command nowNs result stop).Held := by
  have hnot {q : Protocol δ} (hq : q.state.isActive = true) : q.Held :=
    fun hhold => absurd hhold (not_isHolding_of_isActive hq)
  refine Protocol.handOver_cases (fun _ => ?_) (fun _ _ => hnot rfl) (fun _ hmode _ => ?_)
    (fun _ _ _ => ?_) (fun _ _ _ => hnot hactive)
  · exact Protocol.Held.fault (p := p.log (.send p.sender command nowNs result)) (hnot hactive) _ _
  · rintro - c hc
    cases hc
    simp [Protocol.count, Protocol.log, lastStopped, session, since, latest, hmode]
  · exact Protocol.Held.fault
      (p := (p.log (.send p.sender command nowNs .ok)).count command) (hnot hactive) _ _

/-- What is held back changes only when a stopped command is sent. -/
theorem Move.held {p q : Protocol δ} (hmove : Move config Allow p q) (hwf : p.Wf config)
    (h : p.Held) : q.Held := by
  cases hmove with
  | fault reason stop => exact h.fault reason stop
  | observe e he =>
    intro hhold c hc
    exact (lastStopped_cons_of_isObservation he _).trans (h hhold c hc)
  | first command nowNs r stop hstate hzero hmode hseq hepoch hallow =>
    exact Protocol.Held.handOver rfl command nowNs r stop
  | deliver command nowNs r stop hpending hallow =>
    exact Protocol.Held.handOver (p := { p with pending := none }) (hwf.isActive hpending)
      command nowNs r stop
  | _ =>
    intro hhold c hc
    simp_all [Protocol.Held, Sender.isHolding, Protocol.sender, Protocol.log, lastStopped,
      session, since, latest]

/-! ## Every position call -/

/-- An active state has the session and both switches. -/
theorem Protocol.Wf.powered (h : p.Wf config)
    (hstate : p.state.isPowered = true) :
    p.sessionOwned = true ∧ p.edgEnabled = true ∧ p.servoEnabled = true := by
  unfold Protocol.Wf at h
  split at h <;> simp_all [ThinJakaState.isPowered]

theorem PositionPowered.send (hwf : p.Wf config) (hswitched : p.Switched)
    (hstate : p.state.isPowered = true) {sender : Sender} (hsender : sender.state.isActive = true)
    (howned : sender.sessionOwned = p.sessionOwned) (command : ShapedJointCommandV1 δ)
    (nowNs : ℤ) (result : JakaFunctionResult) :
    PositionPowered (.send sender command nowNs result) p.history := by
  obtain ⟨hp, hedg, hservo⟩ := hwf.powered hstate
  intro sender' command' h
  cases h
  exact
    { owned := howned.trans hp
      edg := hswitched.edg hedg
      servo := hswitched.servo hservo
      held := fun hhold => absurd hhold (not_isHolding_of_isActive hsender) }

/-- A repeated stopped command: the resume policy keeps the switches on. -/
theorem PositionPowered.repeatStopped (hwf : p.Wf config)
    (hswitched : p.Switched) (hheld : p.Held)
    (hstate : p.state = .stoppedReady ∨ p.state = .measuredStateRefresh)
    (hpause : config.pausePolicy = .repeatStoppedPositionRequired)
    {command : ShapedJointCommandV1 δ} (hstopped : p.stopped = some command)
    (result : JakaFunctionResult) :
    PositionPowered (.repeatStopped p.sender command result) p.history := by
  have hon : p.sessionOwned = true ∧ p.edgEnabled = true ∧ p.servoEnabled = true := by
    rcases hstate with hs | hs
    · simp only [Protocol.Wf, hs] at hwf
      obtain ⟨howned, hedg, hservo, -, -, hpolicy⟩ := hwf
      have hkeep := hpolicy hpause
      exact ⟨howned, hedg hkeep, hservo (by simp [hkeep])⟩
    · exact hwf.powered (by rw [hs]; rfl)
  obtain ⟨howned, hedg, hservo⟩ := hon
  intro sender' command' h
  cases h
  exact
    { owned := howned
      edg := hswitched.edg hedg
      servo := hswitched.servo hservo
      held := fun hhold => hheld hhold command hstopped }

/-- The invariant of the power-up discipline. -/
structure Protocol.Disciplined (config : ThinJakaConfig δ) (p : Protocol δ) : Prop where
  wf : p.Wf config
  switched : p.Switched
  held : p.Held
  sends : Whenever PositionPowered p.history

theorem Protocol.disciplined_init : (Protocol.init : Protocol δ).Disciplined config where
  wf := Protocol.wf_init
  switched := ⟨nofun, nofun⟩
  held := nofun
  sends := whenever_nil

theorem Event.positionCall_of_isObservation (he : e.isObservation = true) :
    e.positionCall = none := by
  cases e <;> first | rfl | simp [Event.isObservation] at he

theorem Move.positionPowered {p q : Protocol δ} (hmove : Move config Allow p q)
    (h : p.Disciplined config) : Whenever PositionPowered q.history := by
  have quiet {e : Event δ} (he : e.positionCall = none) :
      Whenever PositionPowered (e :: p.history) :=
    whenever_cons.mpr ⟨.of_none he, h.sends⟩
  cases hmove with
  | observe e he => exact quiet (Event.positionCall_of_isObservation he)
  | fault reason stop =>
    exact Protocol.whenever_fault (fun _ _ _ => .of_none rfl) (fun _ _ => .of_none rfl) h.sends
      reason stop
  | connected hstate => exact whenever_cons.mpr ⟨.of_none rfl, quiet rfl⟩
  | first command nowNs r stop hstate hzero hmode hseq hepoch hallow =>
    refine Protocol.whenever_handOver (fun _ _ _ => .of_none rfl) (fun _ _ => .of_none rfl)
      (p := { p with state := .streaming }) h.sends command nowNs r stop ?_
    exact .send h.wf h.switched (by rw [hstate]; rfl) rfl rfl command nowNs r
  | deliver command nowNs r stop hpending hallow =>
    refine Protocol.whenever_handOver (fun _ _ _ => .of_none rfl) (fun _ _ => .of_none rfl)
      (p := { p with pending := none }) h.sends command nowNs r stop ?_
    have hactive := h.wf.isActive hpending
    have hpowered : p.state.isPowered = true := by
      rcases (ThinJakaState.isActive_iff _).mp hactive with hs | hs <;> rw [hs] <;> rfl
    exact .send h.wf h.switched hpowered hactive rfl command nowNs r
  | repeatStopped command r hstate hpause hstopped =>
    exact whenever_cons.mpr
      ⟨.repeatStopped h.wf h.switched h.held hstate hpause hstopped r, h.sends⟩
  | connecting | beginFromReady | beginFromStopped | beginCleanup | endCleanup => exact h.sends
  | _ => exact quiet rfl

theorem Move.disciplined {p q : Protocol δ} (hmove : Move config Allow p q)
    (h : p.Disciplined config) : q.Disciplined config where
  wf := hmove.wf h.wf
  switched := hmove.switched h.switched
  held := hmove.held h.wf h.held
  sends := hmove.positionPowered h

/-- **Main theorem.** In every run, every call of `send_joint_position` is made
    by the owner of the session after EDG and servo were last switched on, and
    from `kStoppedReady` or `kMeasuredStateRefresh` it sends the command of the
    last stopped command sent in this session. -/
theorem positions_powered [Double δ] (sdk : JakaSdkFunctionTable κ δ)
    (config : ThinJakaConfig δ) (context : κ) (calls : List (Call δ)) :
    Whenever PositionPowered (runCalls sdk config context calls).history :=
  (runCalls_invariant (fun _ _ hmove h => Move.disciplined hmove h) Protocol.disciplined_init
    context calls).sends

end HandLab.ThinJaka
