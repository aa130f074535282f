import HandLab.ThinJaka.Power

/-!
# The fault latch

Once a fault is latched, nothing is sent until the adapter has been reset,
connected, prepared and measured again (`Reopened`); the motion is stopped once
if the session was owned; the first reason stays; and a reset succeeds only
when the session and both switches are off.
-/

namespace HandLab.ThinJaka

open HandLab.Lib HandLab.CommandAbi

variable {κ δ : Type*}

/-! ## Reading the history -/

def Event.isReset : Event δ → Bool
  | .explicitReset => true
  | _ => false

def Event.isStop : Event δ → Bool
  | .stopMotion _ => true
  | _ => false

/-- The reason and the ownership of a latched fault. -/
def Event.latchedFault : Event δ → Option (StopReason × Bool)
  | .latched reason owned => some (reason, owned)
  | _ => none

/-- The events since the last successful `ExplicitReset`. -/
def sinceReset (h : List (Event δ)) : List (Event δ) := since Event.isReset h

/-- What `f` reads off the events since the last reset, newest first. -/
def recent {β : Type*} (f : Event δ → Option β) (h : List (Event δ)) : List β :=
  (sinceReset h).filterMap f

/-- The faults latched since the last reset, newest first. -/
def faults (h : List (Event δ)) : List (StopReason × Bool) := recent Event.latchedFault h

/-- The number of `stop_motion` calls since the last reset. -/
def stops (h : List (Event δ)) : ℕ := (sinceReset h).countP Event.isStop

/-- `stop_motion` is called at most once, and once if a fault was latched with
    the session owned. -/
structure StopOnce (h : List (Event δ)) : Prop where
  atMost : stops h ≤ 1
  exactly : (∃ fault ∈ faults h, fault.2 = true) → stops h = 1

/-- A reset, a connection, a preparation and a measured state, in this order. -/
def Reopened (h : List (Event δ)) : Prop :=
  ∃ epoch skipped, [.refreshed epoch skipped, .prepared, .connected, .explicitReset].Sublist h

section Events

variable (e : Event δ) (h : List (Event δ))

theorem sinceReset_cons (he : e.isReset = false) : sinceReset (e :: h) = e :: sinceReset h :=
  since_cons_of_neg he h

theorem recent_cons {β : Type*} (f : Event δ → Option β) (he : e.isReset = false) :
    recent f (e :: h) = (f e).toList ++ recent f h := by
  unfold recent
  rw [sinceReset_cons e h he]
  cases hf : f e with
  | none => rw [List.filterMap_cons_none hf]; rfl
  | some b => rw [List.filterMap_cons_some hf]; rfl

theorem faults_cons (he : e.isReset = false) (hf : e.latchedFault = none) :
    faults (e :: h) = faults h := by
  rw [faults, recent_cons e h _ he, hf]
  rfl

@[simp] theorem faults_latched (reason : StopReason) (owned : Bool) :
    faults (.latched reason owned :: h) = (reason, owned) :: faults h := rfl

theorem stops_cons (he : e.isReset = false) (hs : e.isStop = false) :
    stops (e :: h) = stops h := by
  rw [stops, sinceReset_cons e h he, List.countP_cons_of_neg (by simp [hs])]
  rfl

@[simp] theorem stops_stopMotion (r : JakaFunctionResult) :
    stops (.stopMotion r :: h) = stops h + 1 := by
  rw [stops, sinceReset_cons _ h rfl, List.countP_cons_of_pos rfl]
  rfl

end Events

/-! ## Faults and stops -/

variable {config : ThinJakaConfig δ} {Allow : Sender → ShapedJointCommandV1 δ → ℤ → Prop}

/-- The faults and stops since the last reset: none while the adapter is open;
    after a latch one fault, with the adapter's reason, and one stop if the
    session was owned. -/
structure Protocol.Latch (p : Protocol δ) : Prop where
  one : faults p.history = [] ∧ p.stopCalled = false ∨
    faults p.history = [(p.faultReason, p.stopCalled)]
  opened : p.state.isOpen = true → faults p.history = []
  faulted : p.state = .faulted → faults p.history ≠ []
  stopCount : stops p.history = if p.stopCalled = true then 1 else 0
  past : Whenever (fun e past => e.isReset = true → StopOnce past) p.history

theorem Protocol.latch_init : (Protocol.init : Protocol δ).Latch where
  one := .inl ⟨rfl, rfl⟩
  opened _ := rfl
  faulted := nofun
  stopCount := rfl
  past := whenever_nil

variable {p : Protocol δ}

theorem Protocol.Latch.stopOnce (h : p.Latch) : StopOnce p.history := by
  constructor
  · rw [h.stopCount]
    split_ifs <;> omega
  · rintro ⟨fault, hmem, howned⟩
    rcases h.one with ⟨hnone, -⟩ | hone
    · simp [hnone] at hmem
    · rw [hone, List.mem_singleton] at hmem
      subst hmem
      rw [h.stopCount, if_pos howned]

/-- A move that logs neither a fault nor a stop nor a reset and keeps the latch. -/
theorem Protocol.Latch.quiet {p q : Protocol δ} (h : p.Latch)
    (hreason : q.faultReason = p.faultReason) (hcalled : q.stopCalled = p.stopCalled)
    (hopen : q.state.isOpen = true → p.state.isOpen = true)
    (hfaulted : q.state = .faulted → p.state = .faulted)
    (hfaults : faults q.history = faults p.history)
    (hstops : stops q.history = stops p.history)
    (hpast : Whenever (fun e past => e.isReset = true → StopOnce past) q.history) : q.Latch where
  one := by rw [hfaults, hreason, hcalled]; exact h.one
  opened ho := hfaults.trans (h.opened (hopen ho))
  faulted hf := by rw [hfaults]; exact h.faulted (hfaulted hf)
  stopCount := by rw [hstops, hcalled]; exact h.stopCount
  past := hpast

theorem Protocol.Latch.fault (h : p.Latch) (hwf : p.Wf config)
    (reason : StopReason) (stop : JakaFunctionResult) : (p.fault reason stop).Latch := by
  by_cases hopen : p.state.isOpen = true
  · have hcalled := hwf.stopCalled hopen
    have hnone := h.opened hopen
    have hlatched : Whenever (fun e past => e.isReset = true → StopOnce past)
        (.latched reason p.sessionOwned :: p.history) := whenever_cons.mpr ⟨nofun, h.past⟩
    by_cases howned : p.sessionOwned = true
    · have hfaults : faults (.stopMotion stop :: .latched reason p.sessionOwned :: p.history) =
          [(reason, true)] := by
        rw [faults_cons _ _ rfl rfl, faults_latched, hnone, howned]
      have hstops : stops (.stopMotion stop :: .latched reason p.sessionOwned :: p.history) =
          1 := by
        rw [stops_stopMotion, stops_cons _ _ rfl rfl, h.stopCount, hcalled]
        rfl
      rw [Protocol.fault_of_stop _ _ hopen ⟨howned, by simp [hcalled]⟩]
      exact ⟨.inr hfaults, nofun, fun _ => by rw [hfaults]; exact List.cons_ne_nil _ _, hstops,
        whenever_cons.mpr ⟨nofun, hlatched⟩⟩
    · rw [Protocol.fault_of_no_stop _ _ hopen (fun hs => howned hs.1)]
      rw [Bool.not_eq_true] at howned
      refine ⟨.inr ?_, nofun, fun _ => ?_, ?_, hlatched⟩
      · rw [faults_latched, hnone, howned, hcalled]
      · rw [faults_latched]
        exact List.cons_ne_nil _ _
      · exact (stops_cons _ _ rfl rfl).trans h.stopCount
  · rwa [Protocol.fault_of_closed _ _ (by simpa using hopen)]

theorem Protocol.Latch.handOver (h : p.Latch) (hwf : p.Wf config)
    (hactive : p.state.isActive = true) (command : ShapedJointCommandV1 δ) (nowNs : ℤ)
    (result stop : JakaFunctionResult) : (p.handOver command nowNs result stop).Latch := by
  have hpopen : p.state.isOpen = true := by
    rcases (ThinJakaState.isActive_iff _).mp hactive with hs | hs <;> rw [hs] <;> rfl
  have hlog (r : JakaFunctionResult) : (p.log (.send p.sender command nowNs r)).Latch :=
    h.quiet rfl rfl id id rfl rfl (whenever_cons.mpr ⟨nofun, h.past⟩)
  have hsent : ((p.log (.send p.sender command nowNs .ok)).count command).Latch :=
    (hlog .ok).quiet rfl rfl id id rfl rfl (hlog .ok).past
  refine Protocol.handOver_cases (fun _ => ?_) (fun _ _ => ?_) (fun _ _ _ => ?_)
    (fun _ _ _ => ?_) (fun _ _ _ => hsent)
  · exact (hlog result).fault hwf _ _
  · exact hsent.quiet rfl rfl (fun _ => hpopen) nofun rfl rfl (hlog .ok).past
  · exact hsent.quiet rfl rfl (fun _ => hpopen) nofun rfl rfl (hlog .ok).past
  · exact hsent.fault hwf _ _

theorem Move.latches {p q : Protocol δ} (hmove : Move config Allow p q) (hwf : p.Wf config)
    (h : p.Latch) : q.Latch := by
  have hpast {e : Event δ} (he : e.isReset = false) :
      Whenever (fun e past => e.isReset = true → StopOnce past) (e :: p.history) :=
    whenever_cons.mpr ⟨fun hr => absurd hr (by simp [he]), h.past⟩
  cases hmove with
  | observe e he =>
    have hkind : e.isReset = false ∧ e.latchedFault = none ∧ e.isStop = false := by
      cases e <;> first | exact ⟨rfl, rfl, rfl⟩ | simp [Event.isObservation] at he
    exact h.quiet rfl rfl id id (faults_cons e _ hkind.1 hkind.2.1)
      (stops_cons e _ hkind.1 hkind.2.2) (hpast hkind.1)
  | fault reason stop => exact h.fault hwf reason stop
  | explicitReset hstate hclean howned =>
    exact ⟨.inl ⟨rfl, rfl⟩, fun _ => rfl, by simp, rfl,
      whenever_cons.mpr ⟨fun _ => h.stopOnce, h.past⟩⟩
  | connected hstate =>
    refine h.quiet rfl rfl (fun _ => by rw [hstate]; rfl) (by simp) rfl rfl ?_
    exact whenever_cons.mpr ⟨by rintro ⟨⟩, hpast rfl⟩
  | first command nowNs r stop hstate hzero hmode hseq hepoch hallow =>
    simp only [Protocol.Wf, hstate] at hwf
    have hwf' : ({ p with state := .streaming } : Protocol δ).Wf config :=
      ⟨hwf.1, hwf.2.1, hwf.2.2.1, hwf.2.2.2.2⟩
    have h' : ({ p with state := .streaming } : Protocol δ).Latch :=
      h.quiet rfl rfl (fun _ => by rw [hstate]; rfl) (by simp) rfl rfl h.past
    exact h'.handOver hwf' rfl command nowNs r stop
  | deliver command nowNs r stop hpending hallow =>
    have hactive := hwf.isActive hpending
    have h' : ({ p with pending := none } : Protocol δ).Latch :=
      h.quiet rfl rfl id id rfl rfl h.past
    exact h'.handOver (hwf.without_pending hactive) hactive command nowNs r stop
  | connecting hstate | beginFromReady _ hstate _ | beginFromStopped _ hstate _ _ _ =>
    exact h.quiet rfl rfl (fun _ => by rw [hstate]; rfl) (by simp) rfl rfl h.past
  | prepared hstate _ _ _ | refreshed hstate =>
    exact h.quiet rfl rfl (fun _ => by rw [hstate]; rfl) (by simp) rfl rfl (hpast rfl)
  | beginCleanup | endCleanup =>
    exact h.quiet rfl rfl (fun h => by cases h) (fun h => by cases h) rfl rfl h.past
  | _ => exact h.quiet rfl rfl id id rfl rfl (hpast rfl)

/-! ## Reopening after a fault -/

/-- How far the adapter has been reopened since the history `base`, by state. -/
def Protocol.Progress (p : Protocol δ) (new : List (Event δ)) : Prop :=
  match p.state with
  | .faulted | .cleanup | .resetRequired => True
  | .disconnected | .connecting =>
    [Event.explicitReset].Sublist new ∧ p.safetyEpoch = 0
  | .connected => [Event.connected, .explicitReset].Sublist new ∧ p.safetyEpoch = 0
  | .servoReady => [Event.prepared, .connected, .explicitReset].Sublist new ∧
      (p.safetyEpoch ≠ 0 → Reopened new)
  | .measuredStateRefresh => [Event.prepared, .connected, .explicitReset].Sublist new ∧
      (p.stopped ≠ none → Reopened new)
  | .streaming | .controlledStopping | .stoppedReady => Reopened new

/-- No position call precedes the reopening. -/
def SendsReopened (new : List (Event δ)) : Prop :=
  Whenever (fun e past => e.positionCall ≠ none → Reopened past) new

/-- What has happened since `base`, after which a fault was latched. -/
def Protocol.Since (base : List (Event δ)) (p : Protocol δ) : Prop :=
  ∃ new, p.history = new ++ base ∧ p.Progress new ∧ SendsReopened new

theorem Reopened.cons {h : List (Event δ)} (hr : Reopened h) (e : Event δ) : Reopened (e :: h) := by
  obtain ⟨epoch, skipped, hs⟩ := hr
  exact ⟨epoch, skipped, hs.cons e⟩

theorem Reopened.prepared {h : List (Event δ)} (hr : Reopened h) :
    [Event.prepared, .connected, .explicitReset].Sublist h := by
  obtain ⟨epoch, skipped, hs⟩ := hr
  exact (List.sublist_cons_self _ _).trans hs

variable {new : List (Event δ)}

theorem SendsReopened.cons (h : SendsReopened new) {e : Event δ}
    (he : e.positionCall = none) : SendsReopened (e :: new) :=
  whenever_cons.mpr ⟨fun hne => absurd he hne, h⟩

theorem Protocol.Progress.cons (h : p.Progress new)
    (e : Event δ) : p.Progress (e :: new) := by
  unfold Protocol.Progress at h ⊢
  split at h
  · trivial
  · trivial
  · trivial
  · exact ⟨h.1.cons e, h.2⟩
  · exact ⟨h.1.cons e, h.2⟩
  · exact ⟨h.1.cons e, h.2⟩
  · exact ⟨h.1.cons e, fun hz => (h.2 hz).cons e⟩
  · exact ⟨h.1.cons e, fun hs => (h.2 hs).cons e⟩
  all_goals exact h.cons e

variable {base : List (Event δ)}

theorem Protocol.Since.fault (h : p.Since base)
    (reason : StopReason) (stop : JakaFunctionResult) : (p.fault reason stop).Since base := by
  obtain ⟨new, hhistory, hprogress, hsends⟩ := h
  unfold Protocol.fault
  split_ifs
  · exact ⟨_ :: _ :: new, by rw [hhistory]; rfl, trivial, (hsends.cons rfl).cons rfl⟩
  · exact ⟨_ :: new, by rw [hhistory]; rfl, trivial, hsends.cons rfl⟩
  · exact ⟨new, hhistory, hprogress, hsends⟩

theorem Protocol.Since.handOver
    (hhistory : p.history = new ++ base) (hsends : SendsReopened new) (hreopened : Reopened new)
    (hactive : p.state.isActive = true) (command : ShapedJointCommandV1 δ) (nowNs : ℤ)
    (result stop : JakaFunctionResult) : (p.handOver command nowNs result stop).Since base := by
  have hlog (r : JakaFunctionResult) {q : Protocol δ}
      (hq : q.history = .send p.sender command nowNs r :: p.history)
      (hstate : q.state.isActive = true ∨ q.state = .stoppedReady) : q.Since base := by
    refine ⟨.send p.sender command nowNs r :: new, by rw [hq, hhistory]; rfl, ?_,
      whenever_cons.mpr ⟨fun _ => hreopened, hsends⟩⟩
    have hdone := hreopened.cons (.send p.sender command nowNs r)
    rw [ThinJakaState.isActive_iff] at hstate
    rcases hstate with (hs | hs) | hs <;> simpa only [Protocol.Progress, hs] using hdone
  exact Protocol.handOver_cases
    (fun _ => Protocol.Since.fault (p := p.log _) (hlog result rfl (.inl hactive)) _ _)
    (fun _ _ => hlog .ok rfl (.inl rfl)) (fun _ _ _ => hlog .ok rfl (.inr rfl))
    (fun _ _ _ => Protocol.Since.fault (p := (p.log _).count command)
      (hlog .ok rfl (.inl hactive)) _ _)
    (fun _ _ _ => hlog .ok rfl (.inl hactive))

theorem Move.since {p q : Protocol δ} (hmove : Move config Allow p q)
    (hwf : p.Wf config) (h : p.Since base) : q.Since base := by
  have hfault := h.fault
  obtain ⟨new, hhistory, hprogress, hsends⟩ := h
  have push {e : Event δ} : e :: p.history = (e :: new) ++ base := by rw [hhistory]; rfl
  cases hmove with
  | observe e he =>
    have hnone : e.positionCall = none := Event.positionCall_of_isObservation he
    exact ⟨e :: new, push, hprogress.cons e, hsends.cons hnone⟩
  | fault reason stop => exact hfault reason stop
  | connecting hstate =>
    simp only [Protocol.Progress, hstate] at hprogress
    exact ⟨new, hhistory, hprogress, hsends⟩
  | connected hstate =>
    simp only [Protocol.Progress, hstate] at hprogress
    exact ⟨_ :: _ :: new, by rw [hhistory]; rfl,
      ⟨(hprogress.1.cons _).cons_cons _, hprogress.2⟩, (hsends.cons rfl).cons rfl⟩
  | prepared hstate hedg hservo hpolicy =>
    simp only [Protocol.Progress, hstate] at hprogress
    exact ⟨_ :: new, push, ⟨hprogress.1.cons_cons _, fun hz => absurd hprogress.2 hz⟩,
      hsends.cons rfl⟩
  | beginFromReady epoch hstate hepoch =>
    simp only [Protocol.Progress, hstate] at hprogress
    exact ⟨new, hhistory, ⟨hprogress.1, fun hne => absurd rfl hne⟩, hsends⟩
  | beginFromStopped epoch hstate hepoch hedg hservo =>
    simp only [Protocol.Progress, hstate] at hprogress
    exact ⟨new, hhistory, ⟨hprogress.prepared, fun _ => hprogress⟩, hsends⟩
  | refreshed hstate =>
    simp only [Protocol.Progress, hstate] at hprogress
    have hreopened : Reopened (.refreshed p.refreshEpoch p.skipped :: new) :=
      ⟨_, _, hprogress.1.cons_cons _⟩
    exact ⟨_ :: new, push, ⟨hreopened.prepared, fun _ => hreopened⟩, hsends.cons rfl⟩
  | first command nowNs r stop hstate hzero hmode hseq hepoch hallow =>
    simp only [Protocol.Progress, hstate] at hprogress
    exact Protocol.Since.handOver (p := { p with state := .streaming }) hhistory hsends
      (hprogress.2 hzero) rfl command nowNs r stop
  | offer command hstate hepoch hseq hpending =>
    exact ⟨_ :: new, push, hprogress.cons _, hsends.cons rfl⟩
  | deliver command nowNs r stop hpending hallow =>
    have hactive := hwf.isActive hpending
    have hreopened : Reopened new := by
      rcases (ThinJakaState.isActive_iff _).mp hactive with hs | hs <;>
        simpa only [Protocol.Progress, hs] using hprogress
    exact Protocol.Since.handOver (p := { p with pending := none }) hhistory hsends hreopened
      hactive command nowNs r stop
  | repeatStopped command r hstate hpause hstopped =>
    have hreopened : Reopened new := by
      rcases hstate with hs | hs <;> simp only [Protocol.Progress, hs] at hprogress
      · exact hprogress
      · exact hprogress.2 (by simp [hstopped])
    exact ⟨_ :: new, push, hprogress.cons _, whenever_cons.mpr ⟨fun _ => hreopened, hsends⟩⟩
  | beginCleanup hstate => exact ⟨new, hhistory, trivial, hsends⟩
  | endCleanup failed hstate hclean => exact ⟨new, hhistory, trivial, hsends⟩
  | explicitReset hstate hclean howned =>
    exact ⟨_ :: new, push, ⟨List.singleton_sublist.mpr (by simp), rfl⟩, hsends.cons rfl⟩
  | _ => exact ⟨_ :: new, push, hprogress.cons _, hsends.cons rfl⟩

/-! ## The latch over whole runs -/

section Runs

variable [Double δ] (sdk : JakaSdkFunctionTable κ δ) (config : ThinJakaConfig δ) (context : κ)

theorem runCalls_latch (calls : List (Call δ)) :
    (runCalls sdk config context calls).protocol.Latch :=
  (runCalls_invariant (P := fun p => p.Wf config ∧ p.Latch)
    (fun _ _ hmove h => ⟨hmove.wf h.1, hmove.latches h.1 h.2⟩)
    ⟨Protocol.wf_init, Protocol.latch_init⟩ context calls).2

/-- After a fault no position is sent before the adapter is reopened. -/
theorem run_sendsReopened {calls : List (Call δ)}
    (hfaulted : (runCalls sdk config context calls).adapter.state = .faulted)
    (later : List (Call δ)) :
    ∃ new, (run (step sdk config) (runCalls sdk config context calls) later).history =
      new ++ (runCalls sdk config context calls).history ∧ SendsReopened new := by
  have hstart : (runCalls sdk config context calls).protocol.Since
      (runCalls sdk config context calls).history :=
    ⟨[], rfl, by simp [Protocol.Progress, hfaulted], whenever_nil⟩
  obtain ⟨new, hhistory, -, hsends⟩ := (run_invariant_of_moves
    (P := fun p => p.Wf config ∧ p.Since (runCalls sdk config context calls).history)
    (fun _ _ hmove h => ⟨hmove.wf h.1, hmove.since h.1 h.2⟩)
    ⟨runCalls_wf sdk context calls, hstart⟩ later).2
  exact ⟨new, hhistory, hsends⟩

/-- `ExplicitReset` succeeds only with the session and both switches off. -/
theorem explicitReset_off {calls : List (Call δ)} {nowNs : ℤ}
    (h : (explicitReset (runCalls sdk config context calls) nowNs).1 = .ok) :
    (runCalls sdk config context calls).adapter.sessionOwned = false ∧
      (runCalls sdk config context calls).adapter.servoEnabled = false ∧
      (runCalls sdk config context calls).adapter.edgEnabled = false := by
  have hwf : (runCalls sdk config context calls).protocol.Wf config :=
    runCalls_wf sdk context calls
  unfold explicitReset at h
  split_ifs at h with hguard
  simp only [not_or, not_not, Bool.not_eq_true] at hguard
  simp only [Protocol.Wf, protocol_state, hguard.1] at hwf
  obtain ⟨howned, hedg, hservo⟩ := hwf.2 hguard.2.1
  exact ⟨howned, hservo, hedg⟩

/-- **Main theorem.** The fault latch of every run: (a) from a faulted state on,
    no position is sent before a reset, a connection, a preparation and a
    measured state have followed in this order; (b) between two resets the
    motion is stopped at most once, and once if a fault was latched with the
    session owned; (c) the reason of the first fault stays until the reset, and
    a faulted adapter has one; (d) a reset succeeds only with the session and
    both switches off. -/
theorem fault_latch (calls : List (Call δ)) :
    let m := runCalls sdk config context calls
    (m.adapter.state = .faulted → ∀ later, ∃ new,
      (run (step sdk config) m later).history = new ++ m.history ∧ SendsReopened new) ∧
    (StopOnce m.history ∧
      Whenever (fun e past => e.isReset = true → StopOnce past) m.history) ∧
    ((∀ fault ∈ faults m.history, m.adapter.faultReason = fault.1) ∧
      (faults m.history).length ≤ 1 ∧
      (m.adapter.state = .faulted → faults m.history ≠ [])) ∧
    (∀ nowNs, (explicitReset m nowNs).1 = .ok → m.adapter.sessionOwned = false ∧
      m.adapter.servoEnabled = false ∧ m.adapter.edgEnabled = false) := by
  intro m
  have hlatch := runCalls_latch sdk config context calls
  refine ⟨fun hf later => run_sendsReopened sdk config context hf later,
    ⟨hlatch.stopOnce, hlatch.past⟩, ⟨?_, ?_, hlatch.faulted⟩,
    fun nowNs h => explicitReset_off sdk config context h⟩
  · intro fault hmem
    rcases hlatch.one with ⟨hnone, -⟩ | hone
    · rw [protocol_history] at hnone
      simp [m, hnone] at hmem
    · rw [protocol_history] at hone
      rw [hone, List.mem_singleton] at hmem
      rw [hmem]
      rfl
  · rcases hlatch.one with ⟨hnone, -⟩ | hone
    · rw [protocol_history] at hnone
      simp [m, hnone]
    · rw [protocol_history] at hone
      simp [m, hone]

/-- **Every reachable state**: a command waits only while the arm streams or brakes; prepared
    states have the session and both switches, disconnected ones neither; the flag of the
    stop counts the calls of `stop_motion` since the last reset, and there are none
    before a fault. -/
theorem reachable_states (calls : List (Call δ)) :
    let m := runCalls sdk config context calls
    let a := m.adapter
    (a.pendingValid = true → a.state.isActive = true) ∧
      (a.state.isPowered = true →
        a.sessionOwned = true ∧ a.edgEnabled = true ∧ a.servoEnabled = true) ∧
      stops m.history = (if a.hardStopCallbackCalled then 1 else 0) ∧
      (a.state.isOpen = true → a.hardStopCallbackCalled = false) ∧
      (a.state = .disconnected →
        a.sessionOwned = false ∧ a.edgEnabled = false ∧ a.servoEnabled = false) := by
  have hwf : (runCalls sdk config context calls).protocol.Wf config := runCalls_wf sdk context calls
  have hlatch := runCalls_latch sdk config context calls
  refine ⟨fun hp => hwf.isActive (if_pos hp), hwf.powered, hlatch.stopCount, hwf.stopCalled,
    fun hs => ?_⟩
  simp only [Protocol.Wf, protocol_state, hs] at hwf
  exact ⟨hwf.1, hwf.2.1, hwf.2.2.1⟩

end Runs

end HandLab.ThinJaka
