import HandLab.Lib.History
import HandLab.Lib.Run
import HandLab.Teleoperation.Se3

/-!
# The arm safety supervisor

`ArmSafetySupervisor` (`src/teleoperation/supervision.py`, lines 58–127), for arbitrary arithmetic.
`evaluate_cartesian` asks the fault latch first; `evaluate_joint_target` does not.

* `Remembers.step`: what the latch and the session say of the calls so far.
* `supervised`: the session law in every run, and the latch law in every run in which no joint
  target that is safe by itself is evaluated under a latched fault.
-/

namespace HandLab.Teleoperation

open HandLab.Lib Double NumPy

variable {δ : Type*}

/-! ## The supervisor -/

/-- `JointSafetyLimits`. -/
structure JointSafetyLimits (δ : Type*) where
  lowerRad : Fin 6 → δ
  upperRad : Fin 6 → δ
  softMarginRad : δ
  maximumVelocityRadS : δ
  maximumAccelerationRadS2 : δ
  maximumJerkRadS3 : δ

/-- `SafetyEnvelope`. -/
structure SafetyEnvelope (δ : Type*) where
  startupTcpPose : Pose3D δ
  workspaceHalfExtentM : Vector3 δ
  maximumOrientationDeviationRad : δ
  maximumSessionNs : ℤ

/-- What the supervisor reads of a `JointTarget`. -/
structure JointTarget (δ : Type*) where
  jointPositionRad : Fin 6 → δ
  jointVelocityRadS : Fin 6 → δ
  jointAccelerationRadS2 : Fin 6 → δ

/-- `SafetyAction`. -/
inductive SafetyAction
  | hold
  | allow
  | controlledStop
  | abort
  deriving DecidableEq

/-- `SafetyState`. -/
structure SafetyState where
  action : SafetyAction
  monotonicNs : ℤ
  reason : String
  faultLatched : Bool

/-- `ArmSafetySupervisor`, without its envelope and limits. -/
structure ArmSafetySupervisor where
  startedNs : Option ℤ
  faultLatched : Bool

/-- `numpy.max` of values that are not negative, which passes a `NaN` on. -/
def largestOf [Double δ] (values : Fin 6 → δ) : δ :=
  (List.ofFn values).foldl (fun a b =>
    if !eq a a then a else if !eq b b || lt a b then b else a) zero

namespace ArmSafetySupervisor

variable [NumPy δ] (envelope : SafetyEnvelope δ) (limits : JointSafetyLimits δ)

/-- `__init__`. -/
def init : ArmSafetySupervisor := ⟨none, false⟩

/-- `_decision`; `none` where `SafetyState` raises on a negative time. -/
def decision (s : ArmSafetySupervisor) (action : SafetyAction) (nowNs : ℤ) (reason : String) :
    Option SafetyState × ArmSafetySupervisor :=
  let s := { s with faultLatched := s.faultLatched || action = .abort }
  (if nowNs < 0 then none else some ⟨action, nowNs, reason, s.faultLatched⟩, s)

/-- `np.any(delta > workspace_half_extent_m + 1e-12)`. -/
def outsideWorkspace (pose : Pose3D δ) : Bool :=
  (List.finRange 3).any fun i => lt (add (envelope.workspaceHalfExtentM i) (ofRat 1e-12))
    (abs (sub (pose.positionM i) (envelope.startupTcpPose.positionM i)))

/-- `evaluate_cartesian` (lines 77–95). -/
def evaluateCartesian (s : ArmSafetySupervisor) (pose : Pose3D δ) (nowNs : ℤ) :
    Option SafetyState × ArmSafetySupervisor :=
  if s.faultLatched then s.decision .abort nowNs "fault_latched"
  else match s.startedNs with
    | none => s.decision .hold nowNs "session_not_started"
    | some started =>
      if envelope.maximumSessionNs ≤ nowNs - started then
        s.decision .controlledStop nowNs "maximum_session_duration"
      else if outsideWorkspace envelope pose then
        s.decision .abort nowNs "absolute_workspace_envelope"
      else match quaternionAngle pose.quaternionXyzw envelope.startupTcpPose.quaternionXyzw with
        | none => (none, s)
        | some angle =>
          if lt (add envelope.maximumOrientationDeviationRad (ofRat 1e-12)) angle then
            s.decision .abort nowNs "absolute_orientation_envelope"
          else s.decision .allow nowNs "cartesian_target_safe"

/-- The check that a joint target fails first, if any (lines 106–122). -/
def jointFault (target : JointTarget δ) (previous : Option (JointTarget δ)) (dtS : Option δ) :
    Option String :=
  let lower := fun i => add (limits.lowerRad i) limits.softMarginRad
  let upper := fun i => sub (limits.upperRad i) limits.softMarginRad
  let position := target.jointPositionRad
  if ((List.finRange 6).any fun i => lt (position i) (lower i)) ||
      (List.finRange 6).any fun i => lt (upper i) (position i) then some "joint_soft_limit"
  else if lt (add limits.maximumVelocityRadS (ofRat 1e-12))
      (largestOf fun i => abs (target.jointVelocityRadS i)) then some "joint_velocity_limit"
  else if lt (add limits.maximumAccelerationRadS2 (ofRat 1e-12))
      (largestOf fun i => abs (target.jointAccelerationRadS2 i)) then
    some "joint_acceleration_limit"
  else match previous with
    | none => none
    | some previous => match dtS with
      | none => some "invalid_joint_target_dt"
      | some dt =>
        if le dt zero then some "invalid_joint_target_dt"
        else
          let jerk := fun i => div (sub (target.jointAccelerationRadS2 i)
            (previous.jointAccelerationRadS2 i)) dt
          if lt (add limits.maximumJerkRadS3 (ofRat 1e-9)) (largestOf fun i => abs (jerk i)) then
            some "joint_jerk_limit"
          else none

/-- `evaluate_joint_target` (lines 97–123). -/
def evaluateJointTarget (s : ArmSafetySupervisor) (target : JointTarget δ)
    (previous : Option (JointTarget δ)) (dtS : Option δ) (nowNs : ℤ) :
    Option SafetyState × ArmSafetySupervisor :=
  match jointFault limits target previous dtS with
  | some reason => s.decision .abort nowNs reason
  | none => s.decision .allow nowNs "joint_target_safe"

end ArmSafetySupervisor

/-! ## Runs -/

inductive SupervisorCall (δ : Type*)
  | start (nowNs : ℤ)
  | stop
  | evaluateCartesian (pose : Pose3D δ) (nowNs : ℤ)
  | evaluateJointTarget (target : JointTarget δ) (previous : Option (JointTarget δ))
      (dtS : Option δ) (nowNs : ℤ)
  | resetFault (safe : Bool)

/-- A call, with the decision that it returned. -/
structure Supervised (δ : Type*) where
  call : SupervisorCall δ
  decision : Option SafetyState

/-- The evaluation returned this action. -/
def Supervised.returned (e : Supervised δ) (action : SafetyAction) : Prop :=
  ∃ state, e.decision = some state ∧ state.action = action

/-- The supervisor with the calls so far. -/
structure SupervisorRun (δ : Type*) where
  supervisor : ArmSafetySupervisor
  history : List (Supervised δ)

section Runs

variable [NumPy δ] (envelope : SafetyEnvelope δ) (limits : JointSafetyLimits δ)

/-- One call; `reset_fault(safe=False)` raises and changes nothing. -/
def SupervisorCall.run (s : ArmSafetySupervisor) :
    SupervisorCall δ → Option SafetyState × ArmSafetySupervisor
  | .start nowNs => (none, { s with startedNs := some nowNs })
  | .stop => (none, { s with startedNs := none })
  | .evaluateCartesian pose nowNs => s.evaluateCartesian envelope pose nowNs
  | .evaluateJointTarget target previous dtS nowNs =>
    s.evaluateJointTarget limits target previous dtS nowNs
  | .resetFault safe => (none, if safe then { s with faultLatched := false } else s)

def SupervisorRun.step (r : SupervisorRun δ) (c : SupervisorCall δ) : SupervisorRun δ :=
  let (decision, supervisor) := c.run envelope limits r.supervisor
  ⟨supervisor, ⟨c, decision⟩ :: r.history⟩

def SupervisorRun.init : SupervisorRun δ := ⟨.init, []⟩

/-! ### The laws -/

/-- A reset that does not raise. -/
def Supervised.resets (e : Supervised δ) : Bool :=
  match e.call with
  | .resetFault safe => safe
  | _ => false

/-- The start of the session, where the event says something about it. -/
def Supervised.session? (e : Supervised δ) : Option (Option ℤ) :=
  match e.call with
  | .start nowNs => some (some nowNs)
  | .stop => some none
  | _ => none

/-- After an `ABORT` no evaluation returns `ALLOW`, until the fault is reset. -/
def LatchLaw (history : List (Supervised δ)) : Prop :=
  Whenever (fun e past => e.returned .allow → ∀ d ∈ since Supervised.resets past,
    ¬d.returned .abort) history

/-- A Cartesian target is allowed in a session that is not over, inside the envelope. -/
def SessionLaw (history : List (Supervised δ)) : Prop :=
  Whenever (fun e past => ∀ pose nowNs, e.call = .evaluateCartesian pose nowNs →
    e.returned .allow → ∃ started angle,
      latest Supervised.session? past = some (some started) ∧
      nowNs - started < envelope.maximumSessionNs ∧
      ArmSafetySupervisor.outsideWorkspace envelope pose = false ∧
      quaternionAngle pose.quaternionXyzw envelope.startupTcpPose.quaternionXyzw = some angle ∧
      lt (add envelope.maximumOrientationDeviationRad (ofRat 1e-12)) angle = false) history

/-- No joint target that is safe by itself is evaluated under a latched fault. -/
def JointTargetsWait (r : SupervisorRun δ) : SupervisorCall δ → Prop
  | .evaluateJointTarget target previous dtS _ => r.supervisor.faultLatched = true →
      ArmSafetySupervisor.jointFault limits target previous dtS ≠ none
  | _ => True

/-! ### One call -/

/-- What the state says of the calls so far. -/
structure Remembers (r : SupervisorRun δ) : Prop where
  session : (latest Supervised.session? r.history).getD none = r.supervisor.startedNs
  latch : r.supervisor.faultLatched = false →
    ∀ d ∈ since Supervised.resets r.history, ¬d.returned .abort

variable {envelope limits}

variable {s : ArmSafetySupervisor} {state : SafetyState}

theorem decision_returned {action : SafetyAction} {nowNs : ℤ}
    {reason : String}
    (h : (s.decision action nowNs reason).1 = some state) : state.action = action := by
  unfold ArmSafetySupervisor.decision at h
  dsimp only at h
  split_ifs at h
  rw [← Option.some.inj h]

/-- What an evaluation does: it leaves the session alone and latches what it aborts. -/
structure Evaluates (s : ArmSafetySupervisor)
    (answer : Option SafetyState × ArmSafetySupervisor) : Prop where
  session : answer.2.startedNs = s.startedNs
  kept : answer.2.faultLatched = false → s.faultLatched = false
  latched : ∀ state, answer.1 = some state → state.action = .abort → answer.2.faultLatched = true

theorem evaluates_decision (s : ArmSafetySupervisor) (action : SafetyAction) (nowNs : ℤ)
    (reason : String) : Evaluates s (s.decision action nowNs reason) where
  session := rfl
  kept h := (Bool.or_eq_false_iff.mp h).1
  latched state h haction := by
    rw [decision_returned h] at haction
    simp [ArmSafetySupervisor.decision, haction]

theorem evaluates_cartesian (s : ArmSafetySupervisor) (pose : Pose3D δ) (nowNs : ℤ) :
    Evaluates s (s.evaluateCartesian envelope pose nowNs) := by
  unfold ArmSafetySupervisor.evaluateCartesian
  by_cases hlatched : s.faultLatched = true
  · rw [if_pos hlatched]
    exact evaluates_decision ..
  rw [if_neg hlatched]
  cases hstarted : s.startedNs with
  | none => exact evaluates_decision ..
  | some started =>
    dsimp only
    split_ifs
    · exact evaluates_decision ..
    · exact evaluates_decision ..
    · cases quaternionAngle pose.quaternionXyzw envelope.startupTcpPose.quaternionXyzw with
      | none => exact ⟨rfl, id, nofun⟩
      | some angle =>
        dsimp only
        split_ifs
        · exact evaluates_decision ..
        · exact evaluates_decision ..

theorem evaluates_joint (s : ArmSafetySupervisor) (target : JointTarget δ)
    (previous : Option (JointTarget δ)) (dtS : Option δ) (nowNs : ℤ) :
    Evaluates s (s.evaluateJointTarget limits target previous dtS nowNs) := by
  unfold ArmSafetySupervisor.evaluateJointTarget
  split
  · exact evaluates_decision ..
  · exact evaluates_decision ..

/-- A Cartesian target that is allowed has passed every check. -/
theorem cartesian_allowed {pose : Pose3D δ} {nowNs : ℤ}
    (h : (s.evaluateCartesian envelope pose nowNs).1 = some state)
    (haction : state.action = .allow) : s.faultLatched = false ∧ ∃ started angle,
      s.startedNs = some started ∧ nowNs - started < envelope.maximumSessionNs ∧
      ArmSafetySupervisor.outsideWorkspace envelope pose = false ∧
      quaternionAngle pose.quaternionXyzw envelope.startupTcpPose.quaternionXyzw = some angle ∧
      lt (add envelope.maximumOrientationDeviationRad (ofRat 1e-12)) angle = false := by
  have hother {action : SafetyAction} {reason : String}
      (hd : (s.decision action nowNs reason).1 = some state) (hne : action ≠ .allow) : False :=
    hne ((decision_returned hd).symm.trans haction)
  unfold ArmSafetySupervisor.evaluateCartesian at h
  by_cases hlatched : s.faultLatched = true
  · rw [if_pos hlatched] at h
    exact (hother h (by decide)).elim
  rw [if_neg hlatched] at h
  refine ⟨by simpa using hlatched, ?_⟩
  cases hstarted : s.startedNs with
  | none =>
    rw [hstarted] at h
    exact (hother h (by decide)).elim
  | some started =>
    rw [hstarted] at h
    dsimp only at h
    split_ifs at h with htime hworkspace
    · exact (hother h (by decide)).elim
    · exact (hother h (by decide)).elim
    cases hangle : quaternionAngle pose.quaternionXyzw envelope.startupTcpPose.quaternionXyzw with
    | none => rw [hangle] at h; cases h
    | some angle =>
      rw [hangle] at h
      dsimp only at h
      split_ifs at h with horientation
      · exact (hother h (by decide)).elim
      exact ⟨started, angle, rfl, not_le.mp htime, by simpa using hworkspace, rfl,
        by simpa using horientation⟩

theorem joint_allowed {target : JointTarget δ}
    {previous : Option (JointTarget δ)} {dtS : Option δ} {nowNs : ℤ}
    (h : (s.evaluateJointTarget limits target previous dtS nowNs).1 = some state)
    (haction : state.action = .allow) :
    ArmSafetySupervisor.jointFault limits target previous dtS = none := by
  unfold ArmSafetySupervisor.evaluateJointTarget at h
  split at h
  · rw [decision_returned h] at haction
    cases haction
  · assumption

/-! ### A whole run -/

variable {r : SupervisorRun δ}

omit [NumPy δ] in
/-- An evaluation keeps what the state says. -/
theorem Remembers.evaluate (h : Remembers r) {c : SupervisorCall δ}
    {answer : Option SafetyState × ArmSafetySupervisor} (hanswer : Evaluates r.supervisor answer)
    (hsession : Supervised.session? ⟨c, answer.1⟩ = none)
    (hresets : Supervised.resets ⟨c, answer.1⟩ = false) :
    Remembers ⟨answer.2, ⟨c, answer.1⟩ :: r.history⟩ where
  session := by
    rw [latest_cons_of_none hsession, h.session]
    exact hanswer.session.symm
  latch hclear := by
    rw [since_cons_of_neg hresets]
    refine List.forall_mem_cons.mpr ⟨?_, h.latch (hanswer.kept hclear)⟩
    rintro ⟨state, hstate, haction⟩
    exact absurd (hanswer.latched state hstate haction) (ne_true_of_eq_false hclear)

theorem Remembers.step (h : Remembers r) (c : SupervisorCall δ) :
    Remembers (r.step envelope limits c) := by
  cases c with
  | start nowNs =>
    refine ⟨rfl, fun hclear => ?_⟩
    refine List.forall_mem_cons.mpr ⟨?_, h.latch hclear⟩
    rintro ⟨state, hstate, -⟩
    cases hstate
  | stop =>
    refine ⟨rfl, fun hclear => ?_⟩
    refine List.forall_mem_cons.mpr ⟨?_, h.latch hclear⟩
    rintro ⟨state, hstate, -⟩
    cases hstate
  | evaluateCartesian pose nowNs => exact h.evaluate (evaluates_cartesian ..) rfl rfl
  | evaluateJointTarget target previous dtS nowNs =>
    exact h.evaluate (evaluates_joint ..) rfl rfl
  | resetFault safe =>
    cases safe with
    | true =>
      refine ⟨h.session, fun _ d hd => ?_⟩
      exact absurd hd List.not_mem_nil
    | false =>
      refine ⟨h.session, fun hclear => ?_⟩
      refine List.forall_mem_cons.mpr ⟨?_, h.latch hclear⟩
      rintro ⟨state, hstate, -⟩
      cases hstate

omit [NumPy δ] in
theorem Remembers.init : Remembers (SupervisorRun.init : SupervisorRun δ) :=
  ⟨rfl, fun _ _ hd => absurd hd List.not_mem_nil⟩

/-- What a call adds to the laws. -/
theorem Remembers.lawful (h : Remembers r) (c : SupervisorCall δ) :
    (∀ pose nowNs, c = .evaluateCartesian pose nowNs →
      (⟨c, (c.run envelope limits r.supervisor).1⟩ : Supervised δ).returned .allow →
      ∃ started angle, latest Supervised.session? r.history = some (some started) ∧
        nowNs - started < envelope.maximumSessionNs ∧
        ArmSafetySupervisor.outsideWorkspace envelope pose = false ∧
        quaternionAngle pose.quaternionXyzw envelope.startupTcpPose.quaternionXyzw = some angle ∧
        lt (add envelope.maximumOrientationDeviationRad (ofRat 1e-12)) angle = false) ∧
    (JointTargetsWait limits r c →
      (⟨c, (c.run envelope limits r.supervisor).1⟩ : Supervised δ).returned .allow →
      ∀ d ∈ since Supervised.resets r.history, ¬d.returned .abort) := by
  constructor
  · rintro pose nowNs rfl ⟨state, hstate, haction⟩
    obtain ⟨-, started, angle, hstarted, hrest⟩ := cartesian_allowed hstate haction
    refine ⟨started, angle, ?_, hrest⟩
    have hsession := h.session
    rw [hstarted] at hsession
    cases hlatest : latest Supervised.session? r.history with
    | none => rw [hlatest] at hsession; cases hsession
    | some session =>
      rw [hlatest] at hsession
      exact congrArg some hsession
  · rintro hwait ⟨state, hstate, haction⟩
    refine h.latch ?_
    cases c with
    | start nowNs => cases hstate
    | stop => cases hstate
    | evaluateCartesian pose nowNs => exact (cartesian_allowed hstate haction).1
    | evaluateJointTarget target previous dtS nowNs =>
      by_contra hlatched
      exact hwait (by simpa using hlatched) (joint_allowed hstate haction)
    | resetFault safe => cases hstate

variable (envelope limits)

/-- **The supervisor**: in every run a Cartesian target is allowed only in its session and inside
    the envelope; and where no joint target that is safe by itself is evaluated under a latched
    fault, nothing is allowed after an `ABORT` until the fault is reset. -/
theorem supervised (calls : List (SupervisorCall δ)) :
    SessionLaw envelope (run (SupervisorRun.step envelope limits) .init calls).history ∧
      (Meets (SupervisorRun.step envelope limits) (JointTargetsWait limits) .init calls →
        LatchLaw (run (SupervisorRun.step envelope limits) .init calls).history) := by
  induction calls using List.reverseRecOn with
  | nil => exact ⟨whenever_nil, fun _ => whenever_nil⟩
  | append_singleton calls c ih =>
    have hremembers : Remembers (run (SupervisorRun.step envelope limits) .init calls) :=
      run_invariant (fun r c h => h.step c) .init calls
    obtain ⟨hsession, hlatch⟩ := hremembers.lawful  c
    rw [run_concat]
    refine ⟨whenever_cons.mpr ⟨hsession, ih.1⟩, fun hmeets => ?_⟩
    obtain ⟨hbefore, hwait⟩ := (meets_concat _ calls c).mp hmeets
    exact whenever_cons.mpr ⟨hlatch hwait, ih.2 hbefore⟩

end Runs

/-! ## A joint target after an abort -/

/-- Limits of one radian inside of the margins. -/
def unitLimits : JointSafetyLimits ℝ where
  lowerRad _ := -2
  upperRad _ := 2
  softMarginRad := 1
  maximumVelocityRadS := 1
  maximumAccelerationRadS2 := 1
  maximumJerkRadS3 := 1

/-- An envelope of no size. -/
def pointEnvelope : SafetyEnvelope ℝ := ⟨⟨0, identityRotation⟩, 0, 0, 0⟩

/-- A joint target at rest. -/
def jointsAt (position : ℝ) : JointTarget ℝ := ⟨fun _ => position, 0, 0⟩

theorem largestOf_zero : largestOf (fun _ => (0 : ℝ)) = 0 := by
  simp [largestOf]

theorem jointFault_inside :
    ArmSafetySupervisor.jointFault unitLimits (jointsAt 0) none none = none := by
  simp [ArmSafetySupervisor.jointFault, unitLimits, jointsAt, largestOf_zero]
  norm_num

theorem jointFault_outside : ArmSafetySupervisor.jointFault unitLimits (jointsAt 2) none none =
    some "joint_soft_limit" := by
  simp [ArmSafetySupervisor.jointFault, unitLimits, jointsAt]

/-- The joint target at rest at the origin. -/
def restCall (nowNs : ℤ) : SupervisorCall ℝ := .evaluateJointTarget (jointsAt 0) none none nowNs

/-- A joint target outside of the limits. -/
def outsideCall (nowNs : ℤ) : SupervisorCall ℝ := .evaluateJointTarget (jointsAt 2) none none nowNs

/-- An envelope of no size, for a session of ten nanoseconds. -/
def sessionEnvelope : SafetyEnvelope ℝ := { pointEnvelope with maximumSessionNs := 10 }

/-- The startup pose. -/
def startupCall (nowNs : ℤ) : SupervisorCall ℝ :=
  .evaluateCartesian sessionEnvelope.startupTcpPose nowNs

/-- A session with a fault: two joint targets outside of the limits, and a pose that is held
    back between them. -/
def faultSession : List (SupervisorCall ℝ) :=
  [.start 0, startupCall 1, outsideCall 2, startupCall 3, outsideCall 4, .resetFault true,
    startupCall 5, restCall 6]

theorem evaluateJointTarget_outside (s : ArmSafetySupervisor) (nowNs : ℤ) :
    s.evaluateJointTarget unitLimits (jointsAt 2) none none nowNs =
      s.decision .abort nowNs "joint_soft_limit" := by
  rw [ArmSafetySupervisor.evaluateJointTarget, jointFault_outside]

theorem evaluateJointTarget_inside (s : ArmSafetySupervisor) (nowNs : ℤ) :
    s.evaluateJointTarget unitLimits (jointsAt 0) none none nowNs =
      s.decision .allow nowNs "joint_target_safe" := by
  rw [ArmSafetySupervisor.evaluateJointTarget, jointFault_inside]

theorem evaluateCartesian_startup {nowNs : ℤ} (hnow : nowNs < 10) :
    ArmSafetySupervisor.evaluateCartesian sessionEnvelope ⟨some 0, false⟩
        sessionEnvelope.startupTcpPose nowNs =
      ArmSafetySupervisor.decision ⟨some 0, false⟩ .allow nowNs "cartesian_target_safe" := by
  have hlong : ¬sessionEnvelope.maximumSessionNs ≤ nowNs - 0 := by
    rw [sub_zero]
    exact not_le.mpr hnow
  have hinside : ArmSafetySupervisor.outsideWorkspace sessionEnvelope
      sessionEnvelope.startupTcpPose = false := by
    simp [ArmSafetySupervisor.outsideWorkspace, sessionEnvelope, pointEnvelope]
    norm_num
  have hangle : quaternionAngle sessionEnvelope.startupTcpPose.quaternionXyzw
      sessionEnvelope.startupTcpPose.quaternionXyzw = some 0 := quaternionAngle_identity
  have hdeviation : lt (add sessionEnvelope.maximumOrientationDeviationRad (ofRat 1e-12))
      (0 : ℝ) = false := by
    simp [sessionEnvelope, pointEnvelope]
    norm_num
  unfold ArmSafetySupervisor.evaluateCartesian
  dsimp only
  rw [if_neg (by simp), if_neg hlong, hinside, if_neg (by simp), hangle]
  dsimp only
  rw [hdeviation, if_neg (by simp)]

/-- The decisions before the last call of the session, the last one first. -/
theorem faultSession_dropLast :
    (run (SupervisorRun.step sessionEnvelope unitLimits) .init faultSession.dropLast).supervisor =
        ⟨some 0, false⟩ ∧
      (run (SupervisorRun.step sessionEnvelope unitLimits) .init faultSession.dropLast).history.map
        (fun e => e.decision.map SafetyState.action) =
      [some .allow, none, some .abort, some .abort, some .abort, some .allow, none] := by
  have hstartup : ∀ nowNs < 10, ArmSafetySupervisor.evaluateCartesian sessionEnvelope
      ⟨some 0, false⟩ sessionEnvelope.startupTcpPose nowNs =
        ArmSafetySupervisor.decision ⟨some 0, false⟩ .allow nowNs "cartesian_target_safe" :=
    fun _ => evaluateCartesian_startup
  have hlatched : ∀ nowNs, ArmSafetySupervisor.evaluateCartesian sessionEnvelope ⟨some 0, true⟩
      sessionEnvelope.startupTcpPose nowNs =
        ArmSafetySupervisor.decision ⟨some 0, true⟩ .abort nowNs "fault_latched" := fun _ => rfl
  simp [faultSession, SupervisorRun.step, SupervisorRun.init, SupervisorCall.run, startupCall,
    outsideCall, ArmSafetySupervisor.init, hstartup, hlatched, evaluateJointTarget_outside,
    ArmSafetySupervisor.decision]

/-- The laws in the session, where the joint target that is safe by itself comes after the
    reset. -/
theorem fault_session_supervised :
    (run (SupervisorRun.step sessionEnvelope unitLimits) .init faultSession).history.map
        (fun e => e.decision.map SafetyState.action) =
      [some .allow, some .allow, none, some .abort, some .abort, some .abort, some .allow, none] ∧
    SessionLaw sessionEnvelope
      (run (SupervisorRun.step sessionEnvelope unitLimits) .init faultSession).history ∧
    LatchLaw (run (SupervisorRun.step sessionEnvelope unitLimits) .init faultSession).history := by
  obtain ⟨hstate, hdecisions⟩ := faultSession_dropLast
  have hlast : faultSession = faultSession.dropLast ++ [restCall 6] := rfl
  have hlaws := supervised sessionEnvelope unitLimits faultSession
  have houtside : ArmSafetySupervisor.jointFault unitLimits (jointsAt 2) none none ≠ none := by
    rw [jointFault_outside]
    exact Option.some_ne_none _
  refine ⟨?_, hlaws.1, hlaws.2 ?_⟩
  · rw [hlast, run_concat]
    generalize run (SupervisorRun.step sessionEnvelope unitLimits) .init faultSession.dropLast =
      before at hstate hdecisions
    rw [SupervisorRun.step, restCall, SupervisorCall.run, hstate, evaluateJointTarget_inside]
    show some SafetyAction.allow :: before.history.map _ = _
    rw [hdecisions]
  · rw [hlast, meets_concat]
    refine ⟨⟨trivial, trivial, fun _ => houtside, trivial, fun _ => houtside, trivial, trivial,
      trivial⟩, fun hlatched => ?_⟩
    rw [hstate] at hlatched
    cases hlatched

/-- **A joint target after an abort** is allowed, although the fault is latched. -/
theorem latched_fault_allows :
    ¬(SessionLaw pointEnvelope
        (run (SupervisorRun.step pointEnvelope unitLimits) .init [outsideCall 0, restCall 1]).history ∧
      LatchLaw
        (run (SupervisorRun.step pointEnvelope unitLimits) .init
          [outsideCall 0, restCall 1]).history) := by
  rintro ⟨-, hlaw⟩
  have habort : ArmSafetySupervisor.init.evaluateJointTarget unitLimits (jointsAt 2) none none 0 =
      (some ⟨.abort, 0, "joint_soft_limit", true⟩, ⟨none, true⟩) :=
    evaluateJointTarget_outside _ _
  have hallow : ArmSafetySupervisor.evaluateJointTarget unitLimits ⟨none, true⟩ (jointsAt 0) none
      none 1 = (some ⟨.allow, 1, "joint_target_safe", true⟩, ⟨none, true⟩) :=
    evaluateJointTarget_inside _ _
  have hhistory : (run (SupervisorRun.step pointEnvelope unitLimits) .init
      [outsideCall 0, restCall 1]).history =
        [⟨restCall 1, some ⟨.allow, 1, "joint_target_safe", true⟩⟩,
          ⟨outsideCall 0, some ⟨.abort, 0, "joint_soft_limit", true⟩⟩] := by
    rw [run_cons, run_cons, run_nil]
    simp only [SupervisorRun.step, SupervisorRun.init, outsideCall, restCall, SupervisorCall.run,
      habort, hallow]
  rw [LatchLaw, hhistory, whenever_cons] at hlaw
  exact hlaw.1 ⟨_, rfl, rfl⟩ _ (List.mem_singleton_self _) ⟨_, rfl, rfl⟩

end HandLab.Teleoperation
