import HandLab.ThinJaka.Sends
import Mathlib.Data.List.Chain

/-!
# What a resumed stream rests on

A refresh reads the feedback until the gate has counted enough stationary
samples, and the position of the last one bounds the first command of the epoch.

* `Tracked`: a machine with the feedback reads since its refresh began.
* `Counting`: while the refresh goes on, the gate's count is the length of a
  run of stationary reads at the head of them, and it has stored the newest.
* `Resumable`: the invariant of all calls; most of them only `Keeps`.
* `resume_gate`: what `RefreshMeasuredState` has seen when it returns `kOk`, and
  how far from the last read `StartStreaming` may send.
-/

namespace HandLab.ThinJaka

open HandLab.Lib HandLab.CommandAbi

variable {κ δ : Type*}

/-! ## Reads since the refresh began -/

/-- A call of `read_joint_feedback`: its result and what it wrote. -/
abbrev FeedbackRead (δ : Type*) := JakaFunctionResult × JakaJointFeedback δ

/-- A machine and the reads since `BeginMeasuredStateRefresh`, newest first. -/
structure Tracked (κ δ : Type*) where
  machine : Machine κ δ
  reads : List (FeedbackRead δ)

section Tracked

variable [Double δ] (sdk : JakaSdkFunctionTable κ δ) (config : ThinJakaConfig δ)

/-- The reads after a call: a refresh that begins forgets them, and a call of
    `RefreshMeasuredState` that gets past its guard makes one. -/
def readsAfter (m : Machine κ δ) (reads : List (FeedbackRead δ)) : Call δ → List (FeedbackRead δ)
  | .beginMeasuredStateRefresh newSafetyEpoch nowNs =>
    if (beginMeasuredStateRefresh sdk config m newSafetyEpoch nowNs).1 = .ok then [] else reads
  | .refreshMeasuredState _ pointee =>
    if m.adapter.state ≠ .measuredStateRefresh ∨ pointee.isNone then reads
    else
      let io := callReadJointFeedback sdk m
      (io.1, io.2.1) :: reads
  | _ => reads

def trackedStep (t : Tracked κ δ) (call : Call δ) : Tracked κ δ :=
  ⟨step sdk config t.machine call, readsAfter sdk config t.machine t.reads call⟩

/-- A sequence of public calls on a new adapter, with its reads. -/
def trackedCalls (context : κ) (calls : List (Call δ)) : Tracked κ δ :=
  run (trackedStep sdk config) ⟨.init context, []⟩ calls

/-- Tracking the reads changes nothing. -/
theorem trackedCalls_machine (context : κ) (calls : List (Call δ)) :
    (trackedCalls sdk config context calls).machine = runCalls sdk config context calls := by
  induction calls using List.reverseRecOn with
  | nil => rfl
  | append_singleton calls call ih =>
    rw [trackedCalls, runCalls, run_concat, run_concat]
    exact congrArg (step sdk config · call) ih

end Tracked

/-! ## Released reads -/

section Released

variable [Double δ] (config : ThinJakaConfig δ)

/-- A read of an arm at rest. -/
structure Stationary (read : FeedbackRead δ) : Prop where
  ok : read.1 = .ok
  dof : read.2.dof = config.dof
  fresh : 0 ≤ read.2.validationMonotonicNs - read.2.sampledMonotonicNs ∧
    read.2.validationMonotonicNs - read.2.sampledMonotonicNs ≤
      config.measurement.maximumSampleAgeNs
  still : ∀ i : Fin 8, i.val < config.dof.toNat →
    Double.le (Double.abs (read.2.velocityRadS i)) config.measurement.stationaryVelocityRadS = true

omit [Double δ] in
/-- A later read is of a later sample. -/
def Advances (later earlier : FeedbackRead δ) : Prop :=
  earlier.2.sequence < later.2.sequence ∧
    earlier.2.sampledMonotonicNs < later.2.sampledMonotonicNs

/-- The last `stable_sample_count` reads are there, at rest and in order. -/
structure Released (reads : List (FeedbackRead δ)) : Prop where
  enough : config.measurement.stableSampleCount.toNat ≤ reads.length
  stationary : ∀ read ∈ reads.take config.measurement.stableSampleCount.toNat,
    Stationary config read
  advancing : (reads.take config.measurement.stableSampleCount.toNat).IsChain Advances

end Released

/-! ## What the gate counts -/

section Gate

variable [Double δ] (policy : RecoveryMeasurementPolicy δ) (gate : RecoveryMeasurementGate δ)
  (feedback : JakaJointFeedback δ)

/-- What `Observe` returns, writes and leaves. -/
abbrev Observation (δ : Type*) :=
  RecoveryMeasurementResult × Option (MeasuredJointStateV1 δ) × RecoveryMeasurementGate δ

/-- The answers after which a refresh goes on or ends well. -/
def RecoveryMeasurementCode.accepts : RecoveryMeasurementCode → Bool
  | .needMoreSamples | .unstable | .ready => true
  | _ => false

/-- What the gate stores and releases of a sample that it counts. -/
structure Stored (observed : Observation δ) : Prop where
  previous : observed.2.2.previous = some (feedbackSample feedback)
  /-- the count starts again, or goes on with a stationary sample -/
  count : observed.2.2.stableSamples = 0 ∨
    observed.2.2.stableSamples.toNat ≤ gate.stableSamples.toNat + 1 ∧
      ∀ i : Fin 8, i.val < feedback.dof.toNat →
        Double.le (Double.abs (feedback.velocityRadS i)) policy.stationaryVelocityRadS = true
  /-- a measured state is that of the sample, after enough of them -/
  measured : ∀ measured, observed.2.1 = some measured →
    measured.positionRad = feedback.positionRad ∧
      policy.stableSampleCount ≤ observed.2.2.stableSamples

/-- What the gate has checked of a feedback that it accepts. -/
structure Observed (observed : Observation δ) : Prop where
  count_ne_zero : policy.stableSampleCount ≠ 0
  dof : feedback.dof = policy.dof
  finite : ∀ i, Double.isFinite (feedback.positionRad i) = true
  advances : ∀ previous, gate.previous = some previous →
    previous.sampleSequence < feedback.sequence ∧
      previous.sampledMonotonicNs < feedback.sampledMonotonicNs
  stored : Stored policy gate feedback observed

/-- An answer that accepts is explained by what was checked. -/
def Explains (observed : Observation δ) : Prop :=
  observed.1.code.accepts = true → Observed policy gate feedback observed

omit [Double δ] in
theorem countUp_toNat_le {P : Prop} [Decidable P] (count : UInt8) (h : P → count < 255) :
    (if P then count + 1 else count).toNat ≤ count.toNat + 1 := by
  split_ifs with hP
  · have hlt : count.toNat < 255 := UInt8.lt_iff_toNat_lt.mp (h hP)
    rw [UInt8.toNat_add, UInt8.toNat_one]
    exact Nat.mod_le _ _
  · omega

/-- The tail of `Observe` on a sample of positions and velocities. -/
theorem release_feedback (quality : RecoveryMeasurementQuality) (safetyEpoch : UInt64)
    (nowNs : ℤ) :
    Stored policy gate feedback (gate.release policy (feedbackSample feedback)
      feedback.velocityRadS quality safetyEpoch nowNs) := by
  have hfields : ¬(feedbackSample feedback).fields = .positionVelocityAcceleration := nofun
  unfold RecoveryMeasurementGate.release
  extract_lets direct stable count measured
  split
  · exact ⟨rfl, .inl rfl, nofun⟩
  rename_i hunstable
  have hstill : ∀ i : Fin 8, i.val < feedback.dof.toNat →
      Double.le (Double.abs (feedback.velocityRadS i)) policy.stationaryVelocityRadS = true := by
    intro i hi
    have hstable : stable = true := by
      by_contra h
      exact hunstable ⟨hfields, by simpa using h⟩
    have haxis := List.all_eq_true.mp hstable i (List.mem_finRange i)
    simpa [feedbackSample, hi] using haxis
  have hcount : count.toNat ≤ gate.stableSamples.toNat + 1 :=
    countUp_toNat_le gate.stableSamples And.right
  split
  · exact ⟨rfl, .inr ⟨hcount, hstill⟩, nofun⟩
  rename_i hmore
  split
  · refine ⟨?_, .inr ⟨hcount, hstill⟩, nofun⟩
    show (if direct then gate.previous else some (feedbackSample feedback)) = _
    rw [if_neg hfields]
  · refine ⟨rfl, .inr ⟨hcount, hstill⟩, ?_⟩
    rintro _ ⟨⟩
    exact ⟨rfl, UInt8.not_lt.mp fun hlt => hmore ⟨hfields, hlt⟩⟩

theorem observe_feedback (safetyEpoch : UInt64) (nowNs : ℤ) :
    Explains policy gate feedback
      (gate.observe policy (feedbackSample feedback) safetyEpoch nowNs) := by
  unfold RecoveryMeasurementGate.observe
  split
  · exact nofun
  split
  · exact nofun
  rename_i hpolicy
  push Not at hpolicy
  split
  · exact nofun
  cases haxis : invalidAxis (feedbackSample feedback) with
  | some i => exact nofun
  | none =>
    extract_lets stalled
    by_cases hstalled : stalled = true
    · rw [if_pos hstalled]
      exact nofun
    have hfields : (feedbackSample feedback).fields = .positionVelocity := rfl
    rw [if_neg hstalled, if_neg nofun, if_pos hfields]
    intro _
    refine ⟨hpolicy.2.2.1, hpolicy.2.2.2.2.2.2.2.1, ?_, ?_, release_feedback _ _ _ _ _ _⟩
    · intro i
      have hnone := List.find?_eq_none.mp haxis i (List.mem_finRange i)
      simp only [Bool.or_eq_true, not_or] at hnone
      simpa [feedbackSample] using hnone.1.1.1.1.1
    · intro previous h
      simp only [stalled, h, Bool.or_eq_true, decide_eq_true_eq, not_or] at hstalled
      exact ⟨UInt64.not_le.mp hstalled.1, not_le.mp hstalled.2⟩

end Gate

/-! ## Counting -/

section Counting

variable [Double δ] {sdk : JakaSdkFunctionTable κ δ} {config : ThinJakaConfig δ}

/-- A valid configuration measures its own axes. -/
theorem measurement_dof (h : validConfiguration sdk config = true) :
    config.measurement.dof = config.dof := by
  simp only [validConfiguration, Bool.and_eq_true, decide_eq_true_eq] at h
  exact h.1.1.1.1.1.1.2

/-- Nothing is less than the tolerance of a valid configuration by being no number. -/
theorem tolerance_isFinite (h : validConfiguration sdk config = true) :
    Double.isFinite config.resumePositionToleranceRad = true := by
  simp only [validConfiguration, Bool.and_eq_true] at h
  exact h.1.2

/-- While a refresh goes on: what the gate has stored and counted. -/
structure Counting (config : ThinJakaConfig δ) (gate : RecoveryMeasurementGate δ)
    (reads : List (FeedbackRead δ)) : Prop where
  previous : gate.previous = reads.head?.map fun read => feedbackSample read.2
  advancing : reads.IsChain Advances
  counted : gate.stableSamples.toNat ≤ reads.length
  stationary : ∀ read ∈ reads.take gate.stableSamples.toNat, Stationary config read

theorem Counting.reset : Counting config .reset [] :=
  ⟨rfl, .nil, Nat.le_refl 0, by simp⟩

theorem Counting.cons {gate : RecoveryMeasurementGate δ} {reads : List (FeedbackRead δ)}
    (h : Counting config gate reads) (hdof : config.measurement.dof = config.dof)
    {read : FeedbackRead δ} (hok : read.1 = .ok)
    (hfresh : 0 ≤ read.2.validationMonotonicNs - read.2.sampledMonotonicNs ∧
      read.2.validationMonotonicNs - read.2.sampledMonotonicNs ≤
        config.measurement.maximumSampleAgeNs)
    {observed : Observation δ} (hobserved : Observed config.measurement gate read.2 observed) :
    Counting config observed.2.2 (read :: reads) := by
  have hlater : ∀ earlier ∈ reads.head?, Advances read earlier := by
    intro earlier hmem
    refine hobserved.advances (feedbackSample earlier.2) ?_
    rw [h.previous, Option.mem_def.mp hmem]
    rfl
  refine ⟨hobserved.stored.previous, List.isChain_cons.mpr ⟨hlater, h.advancing⟩, ?_, ?_⟩
  · rcases hobserved.stored.count with hzero | ⟨hcount, -⟩
    · rw [hzero]
      exact Nat.zero_le _
    · rw [List.length_cons]
      exact hcount.trans (Nat.succ_le_succ h.counted)
  · rcases hobserved.stored.count with hzero | ⟨hcount, hstill⟩
    · rw [hzero]
      exact fun read hread => absurd hread List.not_mem_nil
    · intro r hr
      have hmem := List.take_subset_take_left _ hcount hr
      rw [List.take_succ_cons] at hmem
      rcases List.mem_cons.mp hmem with rfl | hmem
      · refine ⟨hok, hobserved.dof.trans hdof, hfresh, ?_⟩
        rwa [hobserved.dof.trans hdof] at hstill
      · exact h.stationary r hmem

/-- The reads of a refresh that ends well. -/
theorem Counting.released {gate : RecoveryMeasurementGate δ} {reads : List (FeedbackRead δ)}
    (h : Counting config gate reads)
    (hcount : config.measurement.stableSampleCount ≤ gate.stableSamples) :
    Released config reads := by
  have hle := UInt8.le_iff_toNat_le.mp hcount
  exact ⟨hle.trans h.counted, fun read hread =>
    h.stationary read (List.take_subset_take_left _ hle hread), h.advancing.take _⟩

end Counting

/-! ## Calls that keep the measurement -/

/-- The states of an adapter that has not sent since its last refresh, or never. -/
def ThinJakaState.beforeStream : ThinJakaState → Bool
  | .disconnected | .connecting | .connected | .servoReady | .measuredStateRefresh => true
  | _ => false

/-- What a call keeps that neither connects, prepares nor refreshes. -/
structure Keeps (m m' : Machine κ δ) : Prop where
  measured : m'.adapter.measured = m.adapter.measured
  gate : m'.adapter.measurementGate = m.adapter.measurementGate
  safetyEpoch : m'.adapter.safetyEpoch = m.adapter.safetyEpoch
  owned : m'.adapter.sessionOwned = true → m.adapter.sessionOwned = true
  state : m'.adapter.state = m.adapter.state ∨ m'.adapter.state.beforeStream = false

namespace Keeps

variable {m m' m'' : Machine κ δ}

@[refl] theorem refl (m : Machine κ δ) : Keeps m m := ⟨rfl, rfl, rfl, id, .inl rfl⟩

theorem trans (h : Keeps m m') (h' : Keeps m' m'') : Keeps m m'' := by
  refine ⟨h'.measured.trans h.measured, h'.gate.trans h.gate,
    h'.safetyEpoch.trans h.safetyEpoch, fun ho => h.owned (h'.owned ho), ?_⟩
  rcases h'.state with hs | hs
  · rw [hs]
    exact h.state
  · exact .inr hs

end Keeps

section Calls

variable (sdk : JakaSdkFunctionTable κ δ) (m : Machine κ δ)

theorem fault_keeps (code : ThinJakaCode) (reason : StopReason) :
    Keeps m (fault sdk code reason m).2 := by
  unfold fault
  split_ifs
  · exact ⟨rfl, rfl, rfl, id, .inr rfl⟩
  · exact ⟨rfl, rfl, rfl, id, .inr rfl⟩
  · exact .refl m

/-- A fault of an adapter that works latches. -/
theorem fault_faulted (code : ThinJakaCode) (reason : StopReason)
    (h : m.adapter.state.beforeStream = true) :
    (fault sdk code reason m).2.adapter.state = .faulted := by
  have hopen : m.adapter.state ≠ .faulted ∧ m.adapter.state ≠ .cleanup ∧
      m.adapter.state ≠ .resetRequired := by
    refine ⟨?_, ?_, ?_⟩ <;> intro hs <;> rw [hs] at h <;> exact absurd h nofun
  unfold fault
  rw [if_pos hopen]
  split_ifs <;> rfl

theorem callSetServoEnabled_keeps (enabled : Bool) :
    Keeps m (callSetServoEnabled sdk m enabled).2 := ⟨rfl, rfl, rfl, id, .inl rfl⟩

theorem callSetEdgEnabled_keeps (enabled : Bool) :
    Keeps m (callSetEdgEnabled sdk m enabled).2 := ⟨rfl, rfl, rfl, id, .inl rfl⟩

theorem hardStop_keeps (reason : StopReason) (nowNs : ℤ) :
    Keeps m (hardStop sdk m reason nowNs) :=
  fault_keeps sdk m _ _

theorem sendFault_keeps (result : JakaFunctionResult) :
    Keeps m (sendFault sdk result m).2 := by
  unfold sendFault
  split_ifs <;> exact fault_keeps sdk _ _ _

theorem cleanupServo_keeps (failed : Bool) : Keeps m (cleanupServo sdk m failed).2 := by
  unfold cleanupServo
  split_ifs
  · extract_lets call
    split_ifs
    · exact ⟨rfl, rfl, rfl, id, .inl rfl⟩
    · exact callSetServoEnabled_keeps sdk m false
  · exact .refl m

theorem cleanupEdg_keeps (failed : Bool) : Keeps m (cleanupEdg sdk m failed).2 := by
  unfold cleanupEdg
  split_ifs
  · extract_lets call
    split_ifs
    · exact ⟨rfl, rfl, rfl, id, .inl rfl⟩
    · exact callSetEdgEnabled_keeps sdk m false
  · exact .refl m

theorem cleanupSession_keeps (failed : Bool) : Keeps m (cleanupSession sdk m failed).2 := by
  unfold cleanupSession
  split_ifs
  · extract_lets call
    split_ifs
    · exact ⟨rfl, rfl, rfl, nofun, .inl rfl⟩
    · exact ⟨rfl, rfl, rfl, id, .inl rfl⟩
  · exact .refl m

theorem cleanup_keeps (nowNs : ℤ) : Keeps m (cleanup sdk m nowNs).2 := by
  unfold cleanup
  split
  · exact .refl m
  · extract_lets servo edg session closed
    have hclosing : Keeps m (m.withState .cleanup) := ⟨rfl, rfl, rfl, id, .inr rfl⟩
    have hservo := hclosing.trans (cleanupServo_keeps sdk _ false)
    have hedg := hservo.trans (cleanupEdg_keeps sdk servo.2 servo.1)
    have hsession := hedg.trans (cleanupSession_keeps sdk edg.2 edg.1)
    exact hsession.trans ⟨rfl, rfl, rfl, id, .inr rfl⟩

variable (config : ThinJakaConfig δ)

theorem stopServo_keeps : Keeps m (stopServo sdk config m).2 := by
  have hcall := callSetServoEnabled_keeps sdk m false
  unfold stopServo
  split_ifs
  · extract_lets call
    split_ifs
    · exact hcall.trans (fault_keeps sdk _ _ _)
    · exact hcall.trans ⟨rfl, rfl, rfl, id, .inl rfl⟩
  · exact .refl m

theorem stopEdg_keeps : Keeps m (stopEdg sdk config m).2 := by
  have hcall := callSetEdgEnabled_keeps sdk m false
  unfold stopEdg
  split_ifs
  · extract_lets call
    split_ifs
    · exact hcall.trans (fault_keeps sdk _ _ _)
    · exact hcall.trans ⟨rfl, rfl, rfl, id, .inl rfl⟩
  · exact .refl m

theorem applyStoppedPreparation_keeps : Keeps m (applyStoppedPreparation sdk config m).2 := by
  have hservo := stopServo_keeps sdk m config
  unfold applyStoppedPreparation
  extract_lets servo
  split_ifs
  · exact hservo
  · exact hservo.trans (stopEdg_keeps sdk _ config)

theorem afterSend_keeps (command : ShapedJointCommandV1 δ) :
    Keeps m (afterSend sdk config m command).2 := by
  unfold afterSend
  split_ifs
  · exact ⟨rfl, rfl, rfl, id, .inr rfl⟩
  · exact fault_keeps sdk _ _ _
  · have hstored : Keeps m (storeStopped m command) := ⟨rfl, rfl, rfl, id, .inr rfl⟩
    exact hstored.trans (applyStoppedPreparation_keeps sdk _ config)
  · exact .refl m

theorem send_keeps (command : ShapedJointCommandV1 δ) (nowNs : ℤ) :
    Keeps m (send sdk config m command nowNs).2 := by
  have hcall : Keeps m (callSend sdk config m command nowNs).2 :=
    ⟨rfl, rfl, rfl, id, .inl rfl⟩
  unfold send
  extract_lets call
  split_ifs
  · exact hcall.trans (sendFault_keeps sdk _ _)
  · have hcount : Keeps m { call.2 with adapter := countSent call.2.adapter command nowNs } :=
      ⟨rfl, rfl, rfl, id, .inl rfl⟩
    exact hcount.trans (afterSend_keeps sdk _ config command)

theorem repeatStoppedCommand_keeps : Keeps m (repeatStoppedCommand sdk config m).2 := by
  unfold repeatStoppedCommand
  split
  · exact .refl m
  · extract_lets command call m'
    have hcall : Keeps m m' := ⟨rfl, rfl, rfl, id, .inl rfl⟩
    split_ifs
    · exact hcall.trans (sendFault_keeps sdk _ _)
    · exact hcall.trans ⟨rfl, rfl, rfl, id, .inl rfl⟩

theorem pollStatus_keeps (nowNs : ℤ) : Keeps m (pollStatus sdk config m nowNs).2 := by
  unfold pollStatus
  split
  · exact .refl m
  · extract_lets call polled noted
    have hpolled : Keeps m polled := ⟨rfl, rfl, rfl, id, .inl rfl⟩
    have hnoted : Keeps m noted := ⟨rfl, rfl, rfl, id, .inl rfl⟩
    split
    · exact hpolled.trans (fault_keeps sdk _ _ _)
    · split
      · exact hnoted.trans (fault_keeps sdk _ _ _)
      · exact hnoted

theorem tickGate_keeps (nowNs : ℤ) : Keeps m (tickGate sdk config m nowNs).2 := by
  have hmissed : Keeps m (missDeadline m) := ⟨rfl, rfl, rfl, id, .inl rfl⟩
  have hlate : Keeps m (missDeadline (noteInterval m nowNs)) := ⟨rfl, rfl, rfl, id, .inl rfl⟩
  unfold tickGate
  split_ifs
  · exact .refl m
  · exact hmissed.trans (fault_keeps sdk _ _ _)
  · exact hlate.trans (fault_keeps sdk _ _ _)
  · extract_lets counted
    have hcounted : Keeps m counted := ⟨rfl, rfl, rfl, id, .inl rfl⟩
    split_ifs
    · exact hcounted.trans (pollStatus_keeps sdk _ config nowNs)
    · exact hcounted

theorem tickSend_keeps (nowNs : ℤ) : Keeps m (tickSend sdk config m nowNs).2 := by
  unfold tickSend
  split_ifs
  · exact repeatStoppedCommand_keeps sdk m config
  · have hempty : Keeps m { m with adapter.pendingValid := false } :=
      ⟨rfl, rfl, rfl, id, .inl rfl⟩
    exact hempty.trans (send_keeps sdk _ config _ nowNs)
  · exact .refl m

theorem tick_keeps (nowNs : ℤ) : Keeps m (tick sdk config m nowNs).2 := by
  have hgate := tickGate_keeps sdk m config nowNs
  unfold tick
  extract_lets gate
  split_ifs
  · exact hgate
  · exact hgate.trans (tickSend_keeps sdk _ config nowNs)

theorem applyResumePreparation_keeps : Keeps m (applyResumePreparation sdk config m).2 := by
  unfold applyResumePreparation
  split
  · split
    · exact fault_keeps sdk m _ _
    · exact .refl m
  split
  · extract_lets edg on servo
    have hedg : Keeps m edg.2 := callSetEdgEnabled_keeps sdk m true
    have hon : Keeps m on := hedg.trans ⟨rfl, rfl, rfl, id, .inl rfl⟩
    have hservo : Keeps m servo.2 := hon.trans (callSetServoEnabled_keeps sdk _ true)
    split
    · exact hedg.trans (fault_keeps sdk _ _ _)
    split
    · split
      · exact hservo.trans (fault_keeps sdk _ _ _)
      · exact hservo.trans ⟨rfl, rfl, rfl, id, .inl rfl⟩
    · exact hon
  · exact .refl m

variable [Double δ]

theorem startStreaming_keeps (command : ShapedJointCommandV1 δ) (nowNs : ℤ) :
    Keeps m (startStreaming sdk config m command nowNs).2 := by
  unfold startStreaming
  split_ifs
  · exact .refl m
  · extract_lets context delta noted
    have hnoted : Keeps m noted := ⟨rfl, rfl, rfl, id, .inl rfl⟩
    split_ifs
    · exact fault_keeps sdk m _ _
    · exact hnoted.trans (fault_keeps sdk _ _ _)
    · have hstreaming : Keeps m (noted.withState .streaming) := ⟨rfl, rfl, rfl, id, .inr rfl⟩
      exact hstreaming.trans (send_keeps sdk _ config command nowNs)

theorem offerLatest_keeps (command : ShapedJointCommandV1 δ) (nowNs : ℤ) :
    Keeps m (offerLatest sdk config m command nowNs).2 := by
  unfold offerLatest
  split
  · exact .refl m
  · extract_lets context validation
    have hold : Keeps m (noteOldEpoch m) := ⟨rfl, rfl, rfl, id, .inl rfl⟩
    split_ifs
    · exact hold.trans (fault_keeps sdk _ _ _)
    · exact fault_keeps sdk m _ _
    · exact fault_keeps sdk m _ _
    · exact fault_keeps sdk m _ _
    · exact ⟨rfl, rfl, rfl, id, .inl rfl⟩

end Calls

/-! ## The invariant -/

section Invariant

variable [Double δ] {sdk : JakaSdkFunctionTable κ δ} {config : ThinJakaConfig δ}

/-- What the copy of the measured state rests on. -/
structure Ready (sdk : JakaSdkFunctionTable κ δ) (config : ThinJakaConfig δ)
    (measured : MeasuredJointStateV1 δ) (reads : List (FeedbackRead δ)) : Prop where
  valid : validConfiguration sdk config = true
  released : Released config reads
  last : ∃ last earlier, reads = last :: earlier ∧
    measured.positionRad = last.2.positionRad ∧
      ∀ i, Double.isFinite (last.2.positionRad i) = true

/-- What every call keeps. -/
structure Resumable (sdk : JakaSdkFunctionTable κ δ) (config : ThinJakaConfig δ)
    (t : Tracked κ δ) : Prop where
  valid : t.machine.adapter.sessionOwned = true → validConfiguration sdk config = true
  /-- before the first refresh there is no epoch -/
  unrefreshed : t.machine.adapter.state = .disconnected ∨ t.machine.adapter.state = .connecting ∨
    t.machine.adapter.state = .connected → t.machine.adapter.safetyEpoch = 0
  refreshing : t.machine.adapter.state = .measuredStateRefresh →
    validConfiguration sdk config = true ∧ Counting config t.machine.adapter.measurementGate t.reads
  ready : t.machine.adapter.state = .servoReady → t.machine.adapter.safetyEpoch ≠ 0 →
    Ready sdk config t.machine.adapter.measured t.reads

namespace Resumable

variable {m m' : Machine κ δ} {reads : List (FeedbackRead δ)}

theorem init (context : κ) : Resumable sdk config ⟨.init context, []⟩ :=
  ⟨nofun, fun _ => rfl, nofun, nofun⟩

/-- Of a state that neither refreshes nor is ready only the session matters. -/
theorem of_away (hvalid : m.adapter.sessionOwned = true → validConfiguration sdk config = true)
    (hstate : m.adapter.state.beforeStream = false) : Resumable sdk config ⟨m, reads⟩ := by
  have hne {s : ThinJakaState} (hs : s.beforeStream = true) : m.adapter.state ≠ s := by
    rintro rfl
    exact Bool.false_ne_true (hstate.symm.trans hs)
  refine ⟨hvalid, ?_, fun h => absurd h (hne rfl), fun h => absurd h (hne rfl)⟩
  rintro (h | h | h) <;> exact absurd h (hne rfl)

theorem keeps (h : Resumable sdk config ⟨m, reads⟩) (hkeeps : Keeps m m') :
    Resumable sdk config ⟨m', reads⟩ := by
  have hvalid (ho : m'.adapter.sessionOwned = true) : validConfiguration sdk config = true :=
    h.valid (hkeeps.owned ho)
  rcases hkeeps.state with hs | hs
  · refine ⟨hvalid, ?_, ?_, ?_⟩
    · rw [hs, hkeeps.safetyEpoch]
      exact h.unrefreshed
    · rw [hs, hkeeps.gate]
      exact h.refreshing
    · rw [hs, hkeeps.safetyEpoch, hkeeps.measured]
      exact h.ready
  · exact of_away hvalid hs

end Resumable

variable {m : Machine κ δ} {reads : List (FeedbackRead δ)}

theorem connect_resumable (h : Resumable sdk config ⟨m, reads⟩) (nowNs : ℤ) :
    Resumable sdk config ⟨(connect sdk config m nowNs).2, reads⟩ := by
  unfold connect
  split
  · exact h
  rename_i hguard
  push Not at hguard
  have hvalid : validConfiguration sdk config = true := by simpa using hguard.2
  extract_lets call connected
  have hepoch : m.adapter.safetyEpoch = 0 := h.unrefreshed (.inl hguard.1)
  have hcall : Resumable sdk config ⟨call.2, reads⟩ :=
    ⟨fun _ => hvalid, fun _ => hepoch, nofun, nofun⟩
  split
  · exact hcall.keeps (fault_keeps sdk _ _ _)
  · exact ⟨fun _ => hvalid, fun _ => hepoch, nofun, nofun⟩

theorem prepareServo_resumable (h : Resumable sdk config ⟨m, reads⟩) (nowNs : ℤ) :
    Resumable sdk config ⟨(prepareServo sdk config m nowNs).2, reads⟩ := by
  unfold prepareServo
  split
  · exact h
  rename_i hguard
  push Not at hguard
  split
  · exact h
  split
  · exact h
  extract_lets edg servo prepared
  have hedg : Keeps m edg.2 := callSetEdgEnabled_keeps sdk m true
  have hon : Keeps m (edg.2.withEdg true) := hedg.trans ⟨rfl, rfl, rfl, id, .inl rfl⟩
  have hservo : Keeps m servo.2 := hon.trans (callSetServoEnabled_keeps sdk _ true)
  split
  · exact h.keeps (hedg.trans (fault_keeps sdk _ _ _))
  split
  · exact h.keeps (hservo.trans (fault_keeps sdk _ _ _))
  · -- there is no epoch yet, so nothing can be sent before a refresh
    have hepoch : m.adapter.safetyEpoch = 0 := h.unrefreshed (.inr (.inr hguard.1))
    refine ⟨fun ho => h.valid (hservo.owned ho), fun _ => hepoch, nofun, ?_⟩
    intro _ hne
    exact absurd hepoch hne

theorem beginMeasuredStateRefresh_resumable (h : Resumable sdk config ⟨m, reads⟩)
    (newSafetyEpoch : UInt64) (nowNs : ℤ) :
    Resumable sdk config ⟨(beginMeasuredStateRefresh sdk config m newSafetyEpoch nowNs).2,
      if (beginMeasuredStateRefresh sdk config m newSafetyEpoch nowNs).1 = .ok then []
      else reads⟩ := by
  have henter (m' : Machine κ δ) (hkeeps : Keeps m m') (howned : m.adapter.sessionOwned = true) :
      Resumable sdk config ⟨enterRefresh m' newSafetyEpoch, []⟩ :=
    ⟨fun _ => h.valid howned, nofun, fun _ => ⟨h.valid howned, .reset⟩, nofun⟩
  unfold beginMeasuredStateRefresh
  split
  · exact h
  rename_i hguard
  push Not at hguard
  split
  · extract_lets preparation
    have hprepared : Keeps m preparation.2 := applyResumePreparation_keeps sdk m config
    by_cases hfailed : preparation.1 ≠ .ok
    · rw [if_pos hfailed, if_neg hfailed]
      exact h.keeps hprepared
    · rw [if_neg hfailed]
      exact henter _ hprepared hguard.2.1
  · exact henter m (.refl m) hguard.2.1

/-- A refresh counts its read, ends, or latches a fault. -/
theorem refreshMeasuredState_resumable (h : Resumable sdk config ⟨m, reads⟩) (nowNs : ℤ)
    (pointee : Option (MeasuredJointStateV1 δ)) :
    let after := readsAfter sdk config m reads (.refreshMeasuredState nowNs pointee)
    Resumable sdk config ⟨(refreshMeasuredState sdk config m nowNs pointee).2.2, after⟩ ∧
      ((refreshMeasuredState sdk config m nowNs pointee).1 = .ok → Released config after) := by
  intro after
  by_cases hguard : m.adapter.state ≠ .measuredStateRefresh ∨ pointee.isNone
  · have hafter : after = reads := if_pos hguard
    rw [hafter, refreshMeasuredState, if_pos hguard]
    exact ⟨h, (by simp)⟩
  have hafter : after = ((callReadJointFeedback sdk m).1, (callReadJointFeedback sdk m).2.1) ::
      reads := if_neg hguard
  rw [hafter, refreshMeasuredState, if_neg hguard]
  push Not at hguard
  obtain ⟨hvalid, hcounting⟩ := h.refreshing hguard.1
  extract_lets io feedback read sampleAge
  -- a fault of the refreshing adapter leaves a state that remembers no read
  have hfault {n : Machine κ δ} (hn : n.adapter.state = .measuredStateRefresh)
      (code : ThinJakaCode) (hcode : code ≠ .ok) (reason : StopReason) :
      Resumable sdk config
          ⟨(refreshFault sdk code reason pointee n).2.2, (io.1, feedback) :: reads⟩ ∧
        ((refreshFault sdk code reason pointee n).1 = .ok →
          Released config ((io.1, feedback) :: reads)) := by
    have hfaulted := fault_faulted sdk n code reason (by rw [hn]; rfl)
    refine ⟨.of_away (fun _ => hvalid) ?_, fun hok => absurd hok ?_⟩
    · show (fault sdk code reason n).2.adapter.state.beforeStream = false
      rw [hfaulted]
      rfl
    · rwa [refreshFault, fault_code]
  have hread : read.adapter.state = .measuredStateRefresh := hguard.1
  split
  · split
    · exact hfault hread .stale (by simp) _
    · exact hfault hread .sdkFailure (by simp) _
  rename_i hok
  split
  · exact hfault hread .timingFault (by simp) _
  split
  · exact hfault hread .stale (by simp) _
  rename_i hage
  push Not at hage
  unfold observeFeedback
  extract_lets stored observed
  have hexplains : Explains config.measurement m.adapter.measurementGate feedback observed :=
    observe_feedback _ _ _ _ _
  have hcount (haccepts : observed.1.code.accepts = true) :
      Counting config observed.2.2 ((io.1, feedback) :: reads) :=
    hcounting.cons (measurement_dof hvalid) (of_not_not_sdkOk hok) hage (hexplains haccepts)
  let counted : Machine κ δ :=
    { read with adapter := { stored with measurementGate := observed.2.2 } }
  have hcounted : counted.adapter.state = .measuredStateRefresh := hread
  have hgoes (haccepts : observed.1.code.accepts = true) :
      Resumable sdk config ⟨counted, (io.1, feedback) :: reads⟩ := by
    refine ⟨fun _ => hvalid, ?_, fun _ => ⟨hvalid, hcount haccepts⟩, ?_⟩
    · intro hs
      rw [hcounted] at hs
      exact absurd hs (by decide)
    · intro hs
      rw [hcounted] at hs
      exact absurd hs (by simp)
  unfold refreshResult
  cases hcode : observed.1.code with
  | needMoreSamples => exact ⟨hgoes (by rw [hcode]; rfl), (by simp)⟩
  | unstable => exact ⟨hgoes (by rw [hcode]; rfl), (by simp)⟩
  | ready =>
    cases hmeasured : observed.2.1 with
    | none => exact hfault hcounted .invalidCommand (by simp) _
    | some measured =>
      have haccepts : observed.1.code.accepts = true := by rw [hcode]; rfl
      have hobserved := hexplains haccepts
      obtain ⟨hposition, henough⟩ := hobserved.stored.measured measured hmeasured
      have hreleased := (hcount haccepts).released henough
      refine ⟨⟨fun _ => hvalid, ?_, by rintro ⟨⟩, ?_⟩, fun _ => hreleased⟩
      · rintro (h | h | h) <;> cases h
      · intro _ _
        exact ⟨hvalid, hreleased, _, _, rfl, hposition, hobserved.finite⟩
  | stale => exact hfault hcounted .stale (by simp) _
  | invalidSample => exact hfault hcounted .invalidCommand (by simp) _
  | sequenceError => exact hfault hcounted .invalidCommand (by simp) _
  | epochError => exact hfault hcounted .invalidCommand (by simp) _

theorem trackedStep_resumable {t : Tracked κ δ} (h : Resumable sdk config t) (call : Call δ) :
    Resumable sdk config (trackedStep sdk config t call) := by
  cases call with
  | connect nowNs => exact connect_resumable h nowNs
  | prepareServo nowNs => exact prepareServo_resumable h nowNs
  | beginMeasuredStateRefresh epoch nowNs => exact beginMeasuredStateRefresh_resumable h epoch nowNs
  | refreshMeasuredState nowNs pointee => exact (refreshMeasuredState_resumable h nowNs pointee).1
  | startStreaming command nowNs => exact h.keeps (startStreaming_keeps sdk _ config command nowNs)
  | offerLatest command nowNs => exact h.keeps (offerLatest_keeps sdk _ config command nowNs)
  | tick nowNs => exact h.keeps (tick_keeps sdk _ config nowNs)
  | pollStatus nowNs => exact h.keeps (pollStatus_keeps sdk _ config nowNs)
  | hardStop reason nowNs => exact h.keeps (hardStop_keeps sdk _ reason nowNs)
  | cleanup nowNs => exact h.keeps (cleanup_keeps sdk _ nowNs)
  | explicitReset nowNs =>
    show Resumable sdk config ⟨(explicitReset t.machine nowNs).2, t.reads⟩
    unfold explicitReset
    split
    · exact h
    · exact ⟨h.valid, fun _ => rfl, nofun, nofun⟩

theorem trackedCalls_resumable (context : κ) (calls : List (Call δ)) :
    Resumable sdk config (trackedCalls sdk config context calls) :=
  run_invariant (P := Resumable sdk config) (fun _ call h => trackedStep_resumable h call)
    (Resumable.init context) calls

end Invariant

/-! ## The first command -/

section First

variable [Double δ] (sdk : JakaSdkFunctionTable κ δ) (config : ThinJakaConfig δ)

/-- What `StartStreaming` sends is its argument, which has passed the checks. -/
theorem sent_first {m : Machine κ δ} {first : ShapedJointCommandV1 δ} {nowNs : ℤ}
    {news : List (Event δ)}
    (hnews : (startStreaming sdk config m first nowNs).2.history = news ++ m.history)
    {e : Event δ} (he : e ∈ news) {sent : ShapedJointCommandV1 δ × ℤ} (hsent : e.sent = some sent) :
    sent.1 = first ∧ sendsFirst config m first nowNs := by
  -- what is sent behind the history so far
  let Q (e : Event δ) (past : List (Event δ)) : Prop := m.history <:+ past →
    ∀ sent, e.sent = some sent → sent.1 = first ∧ sendsFirst config m first nowNs
  have hold : Whenever Q m.history := by
    intro e past hpast hbehind
    have hlonger := hpast.length_le.trans hbehind.length_le
    exact absurd hlonger (by simp)
  have hallowed {command : ShapedJointCommandV1 δ} {sendNs : ℤ} {sender : Sender}
      {r : JakaFunctionResult} {past : List (Event δ)}
      (h : command = first ∧ sendsFirst config m first nowNs) :
      Q (.send sender command sendNs r) past := by
    rintro - _ ⟨⟩
    exact h
  have hmoves : Moves config (fun _ command _ => command = first ∧ sendsFirst config m first nowNs)
      m (startStreaming sdk config m first nowNs).2 :=
    startStreaming_moves sdk config _ fun h => ⟨rfl, h⟩
  have hwhenever : Whenever Q (startStreaming sdk config m first nowNs).2.history :=
    path_invariant (P := fun p => Whenever Q p.history) (fun p q hmove h =>
      hmove.whenever_sent (fun _ _ hnone _ _ hsent => nomatch hnone.symm.trans hsent) h
        (fun _ _ _ _ _ _ _ h => hallowed h) fun _ _ _ _ h => hallowed h) hmoves hold
  obtain ⟨newer, older, rfl⟩ := List.append_of_mem he
  refine hwhenever e (older ++ m.history) ?_ (List.suffix_append _ _) sent hsent
  rw [hnews, List.append_assoc]
  exact List.suffix_append _ _

variable {config}

section Delta

variable [Ieee δ] {dof : ℕ} {d : Fin 8 → δ} {tolerance : δ}

/-- A fold of `std::max` from a number stays above what lies below the start. -/
theorem lt_foldl_max (l : List (Fin 8)) {delta : δ} (h : Double.lt tolerance delta = true) :
    Double.lt tolerance (l.foldl (fun delta i =>
      if i.val < dof then Double.max delta (d i) else delta) delta) = true := by
  induction l generalizing delta with
  | nil => exact h
  | cons i l ih =>
    rw [List.foldl_cons]
    refine ih ?_
    split_ifs
    · exact Ieee.lt_max_of_lt_left h
    · exact h

theorem lt_foldl_max_of_mem {l : List (Fin 8)} {i : Fin 8} (hmem : i ∈ l) (hi : i.val < dof)
    (h : Double.lt tolerance (d i) = true) {delta : δ} (hdelta : Double.eq delta delta = true) :
    Double.lt tolerance (l.foldl (fun delta i =>
      if i.val < dof then Double.max delta (d i) else delta) delta) = true := by
  induction l generalizing delta with
  | nil => cases hmem
  | cons j l ih =>
    rw [List.foldl_cons]
    rcases List.mem_cons.mp hmem with rfl | hmem
    · rw [if_pos hi]
      exact lt_foldl_max l (Ieee.lt_max_of_lt_right hdelta h)
    · refine ih hmem ?_
      split_ifs
      · exact Ieee.eq_self_max hdelta
      · exact hdelta

/-- Each axis is as close as the largest distance. -/
theorem le_of_maximumDelta {first : ShapedJointCommandV1 δ} {measured : MeasuredJointStateV1 δ}
    (htolerance : Double.isFinite config.resumePositionToleranceRad = true)
    (h : Double.lt config.resumePositionToleranceRad (maximumDelta config first measured) = false)
    {i : Fin 8} (hi : i.val < config.dof.toNat)
    (hfirst : Double.isFinite (first.positionRad i) = true)
    (hmeasured : Double.isFinite (measured.positionRad i) = true) :
    Double.le (Double.abs (Double.sub (first.positionRad i) (measured.positionRad i)))
      config.resumePositionToleranceRad = true := by
  refine Ieee.le_of_not_lt (Ieee.eq_self_abs_sub hfirst hmeasured)
    (Ieee.eq_self_of_isFinite htolerance) ?_
  by_contra hlt
  rw [Bool.not_eq_false] at hlt
  have hfold := lt_foldl_max_of_mem (d := fun i =>
    Double.abs (Double.sub (first.positionRad i) (measured.positionRad i)))
    (List.mem_finRange i) hi hlt (Ieee.eq_self_of_isFinite Ieee.isFinite_zero)
  exact absurd (hfold.symm.trans h) nofun

end Delta

/-- **Main theorem.** When `RefreshMeasuredState` returns `kOk`, the last
    `stable_sample_count` reads since the refresh began succeeded, were of later
    and later samples, fresh and at rest; and what `StartStreaming` sends after
    them is within the tolerance of the position of the last. -/
theorem resume_gate [Ieee δ] (sdk : JakaSdkFunctionTable κ δ) (config : ThinJakaConfig δ)
    (context : κ) (calls : List (Call δ)) :
    let t := trackedCalls sdk config context calls
    (∀ nowNs pointee, (refreshMeasuredState sdk config t.machine nowNs pointee).1 = .ok →
      Released config
        (readsAfter sdk config t.machine t.reads (.refreshMeasuredState nowNs pointee))) ∧
    ∀ first nowNs news e sent,
      (startStreaming sdk config t.machine first nowNs).2.history = news ++ t.machine.history →
      e ∈ news → e.sent = some sent →
      Released config t.reads ∧ ∃ last earlier, t.reads = last :: earlier ∧
        ∀ i : Fin 8, i.val < config.dof.toNat →
          Double.le (Double.abs (Double.sub (sent.1.positionRad i) (last.2.positionRad i)))
            config.resumePositionToleranceRad = true := by
  intro t
  have hresumable : Resumable sdk config t := trackedCalls_resumable context calls
  refine ⟨fun nowNs pointee => (refreshMeasuredState_resumable hresumable nowNs pointee).2, ?_⟩
  intro first nowNs news e sent hnews he hsent
  obtain ⟨hfirst, hstate, hepoch, hcommand, hmode, hdelta⟩ := sent_first sdk config hnews he hsent
  rw [hfirst]
  obtain ⟨hvalid, hreleased, last, earlier, hreads, hposition, hfinite⟩ :=
    hresumable.ready hstate hepoch
  refine ⟨hreleased, last, earlier, hreads, ?_⟩
  intro i hi
  have hcommand := validateCommand_finite hcommand hmode hi
  rw [← hposition] at hfinite ⊢
  exact le_of_maximumDelta (tolerance_isFinite hvalid) hdelta hi hcommand (hfinite i)

end First

/-- A controller at rest is released at its third read, and its first command is
    close to that read. -/
theorem resume_gate_rest :
    let counting := trackedCalls restSdk (restConfig : ThinJakaConfig ℚ) 0 (restCalls.take 5)
    let ready := trackedCalls restSdk (restConfig : ThinJakaConfig ℚ) 0 (restCalls.take 6)
    Released restConfig (readsAfter restSdk restConfig counting.machine counting.reads
      (.refreshMeasuredState 16000000 (some .zero))) ∧
      ∃ last earlier, ready.reads = last :: earlier ∧ ∀ i : Fin 8, i.val < 6 →
        Double.le (Double.abs (Double.sub 0 (last.2.positionRad i)))
          (restConfig : ThinJakaConfig ℚ).resumePositionToleranceRad = true := by
  intro counting ready
  have hsends : sendsFirst restConfig ready.machine
      (restCommand .activeTracking 1 24000000 80000000) 24000000 :=
    ⟨by decide +kernel, by decide +kernel, by decide +kernel, rfl, by decide +kernel⟩
  obtain ⟨r, pre, hhistory⟩ := startStreaming_sends restSdk restConfig hsends
  rw [List.append_cons] at hhistory
  refine ⟨(resume_gate restSdk restConfig 0 (restCalls.take 5)).1 16000000 (some .zero)
    (by decide +kernel), ?_⟩
  exact ((resume_gate restSdk restConfig 0 (restCalls.take 6)).2 _ 24000000 _ _ _ hhistory.symm
    (List.mem_append_right pre (List.mem_singleton_self _)) rfl).2

end HandLab.ThinJaka
