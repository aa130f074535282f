import HandLab.PoseShaper.EmittedJerk

/-!
# The workspace of the pose shaper

`_clip_target` keeps targets away from the edge of the workspace by a stopping guard
of the speed, the acceleration and the jerk, and the supervisor aborts where an
emitted position passes the edge (`ArmSafetySupervisor.evaluate_cartesian`,
`src/teleoperation/supervision.py`, lines 45–97). The guard is that of an axis
without acceleration: an axis that is still accelerating when it has to stop passes
the guard and the edge.

* `stays_iff`: what one update does to the envelope, a step lemma.
* `workspace_envelope`: the pose of a run stays in the workspace exactly if every
  update that moves it can still brake, and then the supervisor never aborts.
* `envelope_left`: a run that leaves the workspace.
-/

namespace HandLab.PoseShaper

open HandLab.Lib Double NumPy PyMath
open HandLab.Teleoperation
open JerkLimitedPoseShaper

variable {δ : Type*} [PyMath δ]

/-! ## The supervisor -/

/-- `SafetyAction`. -/
inductive SafetyAction
  | hold | allow | controlledStop | abort
  deriving DecidableEq, Repr

/-- The reasons of `evaluate_cartesian`. -/
inductive CartesianReason
  /-- `fault_latched` -/
  | faultLatched
  /-- `session_not_started` -/
  | sessionNotStarted
  /-- `maximum_session_duration` -/
  | maximumSessionDuration
  /-- `absolute_workspace_envelope` -/
  | absoluteWorkspaceEnvelope
  /-- `absolute_orientation_envelope` -/
  | absoluteOrientationEnvelope
  /-- `cartesian_target_safe` -/
  | cartesianTargetSafe
  deriving DecidableEq, Repr

/-- `SafetyState`. -/
structure SafetyState where
  action : SafetyAction
  monotonicNs : ℤ
  reason : CartesianReason
  faultLatched : Bool
  deriving DecidableEq

/-- `SafetyEnvelope`. -/
structure SafetyEnvelope (δ : Type*) where
  startupTcpPose : Pose3D δ
  workspaceHalfExtentM : Vector3 δ
  maximumOrientationDeviationRad : δ
  maximumSessionNs : ℤ

/-- `ArmSafetySupervisor`, without the joint limits. -/
structure ArmSafetySupervisor (δ : Type*) where
  envelope : SafetyEnvelope δ
  startedNs : Option ℤ
  faultLatched : Bool

namespace ArmSafetySupervisor

variable (v : ArmSafetySupervisor δ)

/-- `_decision`; no state where the timestamp is negative. -/
def decision (action : SafetyAction) (nowNs : ℤ) (reason : CartesianReason) :
    Option SafetyState × ArmSafetySupervisor δ :=
  let latched := { v with faultLatched := v.faultLatched || decide (action = .abort) }
  (if nowNs < 0 then none else some ⟨action, nowNs, reason, latched.faultLatched⟩, latched)

/-- `np.any(delta > half_extent + 1e-12)`. -/
def outsideWorkspace (position : Vector3 δ) : Bool :=
  (List.finRange 3).any fun i =>
    lt (add (v.envelope.workspaceHalfExtentM i) (ofRat (1 / 10 ^ 12)))
      (abs (sub (position i) (v.envelope.startupTcpPose.positionM i)))

/-- `evaluate_cartesian`; no state where it raises. -/
def evaluateCartesian (target : PoseTarget δ) (nowNs : ℤ) :
    Option SafetyState × ArmSafetySupervisor δ :=
  if v.faultLatched then v.decision .abort nowNs .faultLatched
  else
    match v.startedNs with
    | none => v.decision .hold nowNs .sessionNotStarted
    | some startedNs =>
      if v.envelope.maximumSessionNs ≤ nowNs - startedNs then
        v.decision .controlledStop nowNs .maximumSessionDuration
      else if v.outsideWorkspace target.pose.positionM then
        v.decision .abort nowNs .absoluteWorkspaceEnvelope
      else
        match quaternionAngle target.pose.quaternionXyzw
            v.envelope.startupTcpPose.quaternionXyzw with
        | none => (none, v)
        | some angle =>
          if lt (add v.envelope.maximumOrientationDeviationRad (ofRat (1 / 10 ^ 12))) angle then
            v.decision .abort nowNs .absoluteOrientationEnvelope
          else v.decision .allow nowNs .cartesianTargetSafe

omit [PyMath δ] in
theorem decision_reason {action : SafetyAction} {nowNs : ℤ} {reason : CartesianReason}
    {state : SafetyState} (h : state ∈ (v.decision action nowNs reason).1) :
    state.reason = reason := by
  unfold decision at h
  dsimp only at h
  split at h
  · cases h
  · cases h
    rfl

theorem outside_of_reason {target : PoseTarget δ} {nowNs : ℤ} {state : SafetyState}
    (h : state ∈ (v.evaluateCartesian target nowNs).1)
    (hreason : state.reason = .absoluteWorkspaceEnvelope) :
    v.outsideWorkspace target.pose.positionM = true := by
  unfold evaluateCartesian at h
  split at h
  · rw [v.decision_reason h] at hreason
    cases hreason
  split at h
  · rw [v.decision_reason h] at hreason
    cases hreason
  split at h
  · rw [v.decision_reason h] at hreason
    cases hreason
  split at h
  · rename_i houtside
    exact houtside
  split at h
  · cases h
  split at h
  · rw [v.decision_reason h] at hreason
    cases hreason
  · rw [v.decision_reason h] at hreason
    cases hreason

end ArmSafetySupervisor

/-! ## Braking -/

section Exact

variable [Field δ] [LinearOrder δ] [IsStrictOrderedRing δ] [Exact δ]

/-- An axis stops within an extent on either side of an anchor. -/
def StopsWithin (l : MotionLimits δ) (anchor extent desired : δ) (m : AxisMotion δ) : Prop :=
  l.StopsBefore (anchor + extent) desired m ∧
    l.StopsBefore (extent - anchor) (-desired) (MotionLimits.mirror m)

omit [PyMath δ] [Exact δ] in
theorem abs_position_advance_le_iff {l : MotionLimits δ} {anchor extent desired : δ}
    {m : AxisMotion δ} (hm : |m.acceleration| ≤ l.acceleration)
    (hinside : |m.position - anchor| ≤ extent) :
    |(l.advance desired m).position - anchor| ≤ extent ↔
      StopsWithin l anchor extent desired m := by
  obtain ⟨hlow, hhigh⟩ := abs_le.mp hinside
  have hmirror : |(MotionLimits.mirror m).acceleration| ≤ l.acceleration := by
    unfold MotionLimits.mirror
    rwa [abs_neg]
  have hmirrored : (MotionLimits.mirror m).position ≤ extent - anchor := by
    unfold MotionLimits.mirror
    dsimp only
    linarith
  unfold StopsWithin
  rw [← MotionLimits.position_advance_le_iff hm (by linarith),
    ← MotionLimits.position_advance_le_iff hmirror hmirrored, MotionLimits.advance_mirror, abs_le]
  unfold MotionLimits.mirror
  dsimp only
  constructor
  · rintro ⟨h1, h2⟩
    constructor <;> linarith
  · rintro ⟨h1, h2⟩
    constructor <;> linarith

variable {limits : CartesianMotionLimits δ} {anchor : Pose3D δ}

/-- The position is in the workspace around the anchor. -/
def InWorkspace (limits : CartesianMotionLimits δ) (anchor pose : Pose3D δ) : Prop :=
  ∀ i, |pose.positionM i - anchor.positionM i| ≤ limits.workspaceHalfExtentM i

/-- The shaper after a call. -/
def step (s : JerkLimitedPoseShaper δ) (call : UpdateCall δ) : JerkLimitedPoseShaper δ :=
  (s.update call).2

/-- The pose after the call is in the workspace. -/
def Stays (limits : CartesianMotionLimits δ) (anchor : Pose3D δ) (s : JerkLimitedPoseShaper δ)
    (call : UpdateCall δ) : Prop :=
  ∀ pose, (step s call).pose = some pose → InWorkspace limits anchor pose

/-- If the call moves the pose, every axis of the shaper stops within the workspace. -/
def Brakes (limits : CartesianMotionLimits δ) (hlimits : limits.Positive) (anchor : Pose3D δ)
    (s : JerkLimitedPoseShaper δ) (call : UpdateCall δ) : Prop :=
  (step s call).timestampNs ≠ s.timestampNs →
    ∀ pose timestampNs, s.pose = some pose → s.timestampNs = some timestampNs →
      ∀ (hdt : 0 < (stepDt timestampNs call : δ)) (i : Fin 3),
        StopsWithin (limits.linear hlimits hdt) (anchor.positionM i)
          (limits.workspaceHalfExtentM i)
          (desiredVelocity (limits.linear hlimits hdt)
            (s.clippedPosition anchor call.target i - pose.positionM i))
          ⟨pose.positionM i, s.linearVelocity i, s.linearAcceleration i⟩

/-- A shaper that was reset at the anchor and has stayed in the workspace. -/
structure Held (limits : CartesianMotionLimits δ) (anchor : Pose3D δ)
    (s : JerkLimitedPoseShaper δ) : Prop where
  hasLimits : s.limits = limits
  hasAnchor : s.anchor = some anchor
  inside : ∃ pose timestampNs, s.pose = some pose ∧ s.timestampNs = some timestampNs ∧
    InWorkspace limits anchor pose
  acceleration : ∀ i, |s.linearAcceleration i| ≤ limits.maximumLinearAccelerationMS2

theorem held_reset (hlimits : limits.Positive)
    (hextent : ∀ i, 0 < limits.workspaceHalfExtentM i) (timestampNs : ℤ) :
    Held limits anchor ((construct limits).reset anchor timestampNs) := by
  refine ⟨rfl, rfl, ⟨anchor, timestampNs, rfl, rfl, fun i => ?_⟩, fun i => ?_⟩
  · rw [sub_self, abs_zero]
    exact (hextent i).le
  · unfold reset
    simp [hlimits.linearAcceleration.le]

variable {s : JerkLimitedPoseShaper δ}

/-- The acceleration limit holds after every update, also where it raises. -/
theorem abs_linearAcceleration_le (hlimits : s.limits.Positive)
    (hs : ∀ i, |s.linearAcceleration i| ≤ s.limits.maximumLinearAccelerationMS2)
    (call : UpdateCall δ) (i : Fin 3) :
    |(step s call).linearAcceleration i| ≤ s.limits.maximumLinearAccelerationMS2 := by
  have hmoved : ∀ (dt : δ) (pose clipped : Pose3D δ), le dt zero = false →
      |(s.linearStep dt pose clipped).linearAcceleration i| ≤
        s.limits.maximumLinearAccelerationMS2 := by
    intro dt pose clipped hdt
    have hpos : 0 < dt := by simpa using hdt
    have hlaw := boundedDynamicsStep_eq (s.limits.linear hlimits hpos)
      (sub (clipped.positionM i) (pose.positionM i))
      ⟨pose.positionM i, s.linearVelocity i, s.linearAcceleration i⟩
    unfold linearStep
    dsimp only
    rw [show (boundedDynamicsStep dt s.limits.maximumLinearSpeedMS
      s.limits.maximumLinearAccelerationMS2 s.limits.maximumLinearJerkMS3
      (sub (clipped.positionM i) (pose.positionM i)) (s.linearVelocity i)
      (s.linearAcceleration i)) = _ from hlaw]
    exact MotionLimits.abs_accelerate_le (l := s.limits.linear hlimits hpos)
  unfold step update
  split
  · dsimp only
    split
    · exact hs i
    rename_i hpos
    split
    · exact hs i
    split
    · exact hs i
    unfold follow
    dsimp only
    split
    · exact hmoved _ _ _ (Bool.eq_false_iff.mpr hpos)
    split
    · exact hmoved _ _ _ (Bool.eq_false_iff.mpr hpos)
    · exact hmoved _ _ _ (Bool.eq_false_iff.mpr hpos)
  · exact hs i

/-- **Step lemma.** From a pose in the workspace, an update stays in it exactly if it
    brakes. -/
theorem stays_iff (hlimits : limits.Positive)
    (h : Held limits anchor s) (call : UpdateCall δ) :
    Stays limits anchor s call ↔ Brakes limits hlimits anchor s call := by
  obtain ⟨pose, timestampNs, hpose, htimestamp, hinside⟩ := h.inside
  obtain ⟨rfl, hanchor, -, hacceleration⟩ := h
  unfold Stays Brakes step
  rcases update_moves s call with ⟨-, -, -, hsame, hsameTime⟩ |
    ⟨⟨pose', clipped, next, timestampNs', error, hmoves⟩, -⟩
  · refine iff_of_true (fun q hq => ?_) fun hmoved => absurd hsameTime hmoved
    rw [hsame, hpose, Option.some.injEq] at hq
    rw [← hq]
    exact hinside
  · obtain ⟨hpose', htimestamp'⟩ := hmoves.starts
    rw [hpose, Option.some.injEq] at hpose'
    rw [htimestamp, Option.some.injEq] at htimestamp'
    subst hpose' htimestamp'
    obtain ⟨harrives, hnow⟩ := hmoves.arrives
    have hdt := hmoves.stepDt_pos
    have hmoved : (s.update call).2.timestampNs ≠ s.timestampNs := by
      rw [hnow, htimestamp]
      intro heq
      rw [Option.some.injEq] at heq
      unfold stepDt Double.ofInt at hdt
      rw [heq, sub_self, Exact.div_eq, Exact.ofRat_eq] at hdt
      simp at hdt
    obtain ⟨workspace, orientation, hclip⟩ := hmoves.clips
    obtain ⟨anchor', hanchor', -, hclipped⟩ := clipTarget_positionM hclip
    rw [hanchor, Option.some.injEq] at hanchor'
    subst hanchor'
    have hposition : ∀ i, next.positionM i = ((s.limits.linear hlimits hdt).advance
        (desiredVelocity (s.limits.linear hlimits hdt)
          (s.clippedPosition anchor call.target i - pose.positionM i))
        ⟨pose.positionM i, s.linearVelocity i, s.linearAcceleration i⟩).position := by
      intro i
      rw [← hclipped]
      exact congrArg AxisMotion.position (hmoves.linear_advance hlimits hdt rfl i)
    have haxis : ∀ i, |next.positionM i - anchor.positionM i| ≤ s.limits.workspaceHalfExtentM i ↔
        StopsWithin (s.limits.linear hlimits hdt) (anchor.positionM i)
          (s.limits.workspaceHalfExtentM i)
          (desiredVelocity (s.limits.linear hlimits hdt)
            (s.clippedPosition anchor call.target i - pose.positionM i))
          ⟨pose.positionM i, s.linearVelocity i, s.linearAcceleration i⟩ := by
      intro i
      rw [hposition i]
      exact abs_position_advance_le_iff (hacceleration i) (hinside i)
    constructor
    · intro hstays _ q t hq ht hdt' i
      rw [hpose, Option.some.injEq] at hq
      rw [htimestamp, Option.some.injEq] at ht
      subst hq ht
      exact (haxis i).mp (hstays next harrives i)
    · intro hbrakes q hq i
      rw [harrives, Option.some.injEq] at hq
      subst hq
      exact (haxis i).mpr (hbrakes hmoved pose timestampNs hpose htimestamp hdt i)

theorem Held.step (hlimits : limits.Positive)
    (h : Held limits anchor s) {call : UpdateCall δ} (hstays : Stays limits anchor s call) :
    Held limits anchor (step s call) := by
  obtain ⟨pose, timestampNs, hpose, htimestamp, -⟩ := h.inside
  have hacceleration : ∀ i, |(PoseShaper.step s call).linearAcceleration i| ≤
      limits.maximumLinearAccelerationMS2 := by
    obtain ⟨rfl, -, -, hacceleration⟩ := h
    exact abs_linearAcceleration_le hlimits hacceleration call
  rcases update_moves s call with ⟨-, hkept, hkeptAnchor, hsame, hsameTime⟩ |
    ⟨⟨_, _, next, _, _, hmoves⟩, -⟩
  · exact ⟨hkept.trans h.hasLimits, hkeptAnchor.trans h.hasAnchor,
      ⟨pose, timestampNs, hsame.trans hpose, hsameTime.trans htimestamp,
        hstays pose (hsame.trans hpose)⟩, hacceleration⟩
  · exact ⟨hmoves.keeps.1.trans h.hasLimits, hmoves.keeps.2.trans h.hasAnchor,
      ⟨next, call.nowNs, hmoves.arrives.1, hmoves.arrives.2, hstays next hmoves.arrives.1⟩,
      hacceleration⟩

/-- No supervisor of the same envelope aborts on the workspace, on what the call
    emits. -/
def Allowed (limits : CartesianMotionLimits δ) (anchor : Pose3D δ) (s : JerkLimitedPoseShaper δ)
    (call : UpdateCall δ) : Prop :=
  ∀ target, (s.update call).1 = .ok target → ∀ (v : ArmSafetySupervisor δ) (nowNs : ℤ),
    v.envelope.startupTcpPose = anchor →
    v.envelope.workspaceHalfExtentM = limits.workspaceHalfExtentM →
    ∀ state ∈ (v.evaluateCartesian target nowNs).1, state.reason ≠ .absoluteWorkspaceEnvelope

theorem allowed_of_stays {call : UpdateCall δ}
    (h : Stays limits anchor s call) : Allowed limits anchor s call := by
  intro target htarget v nowNs hanchor hextent state hstate hreason
  have houtside := v.outside_of_reason hstate hreason
  rcases update_moves s call with ⟨hnone, -⟩ | ⟨-, hemits⟩
  · exact hnone target htarget
  have hinside := h target.pose (hemits target htarget).pose
  unfold ArmSafetySupervisor.outsideWorkspace at houtside
  rw [List.any_eq_true] at houtside
  obtain ⟨i, -, hi⟩ := houtside
  rw [hanchor, hextent] at hi
  simp only [Exact.lt_eq, Exact.add_eq, Exact.ofRat_eq, Exact.abs_eq, Exact.sub_eq,
    decide_eq_true_eq] at hi
  have hposition := hinside i
  push_cast at hi
  have htolerance : (0 : δ) < 1 / 10 ^ 12 := by positivity
  linarith

/-- **The workspace envelope.** For every run of updates after a reset, the pose stays
    in the workspace exactly if every update that moves it brakes; and then no
    supervisor of the same envelope aborts on it. -/
theorem workspace_envelope (haccepts : limits.postInit = .ok ()) (timestampNs : ℤ)
    (calls : List (UpdateCall δ)) :
    (Meets step (Stays limits anchor) ((construct limits).reset anchor timestampNs) calls ↔
        Meets step (Brakes limits (postInit_positive haccepts) anchor)
          ((construct limits).reset anchor timestampNs) calls) ∧
      (Meets step (Stays limits anchor) ((construct limits).reset anchor timestampNs) calls →
        Meets step (Allowed limits anchor) ((construct limits).reset anchor timestampNs)
          calls) := by
  have hlimits := postInit_positive haccepts
  constructor
  · exact meets_iff_of_invariant (P := Held limits anchor)
      (fun s call hs => stays_iff hlimits hs call)
      (fun s call hs hstays => hs.step hlimits hstays)
      (held_reset hlimits (postInit_extent haccepts) timestampNs) calls
  · intro hstays
    exact meets_mono (fun s call h => allowed_of_stays h) hstays

end Exact

/-! ## A run that leaves the workspace -/

attribute [local instance] TargetGenerator.exactPyMath

/-- A workspace of 20 mm, with an acceleration that takes 0.65 s to build up. -/
def slowLimits : CartesianMotionLimits ℚ :=
  { defaultLimits with
    workspaceHalfExtentM := ![20 / 1000, 20 / 1000, 20 / 1000]
    maximumLinearSpeedMS := 10 / 1000
    maximumLinearAccelerationMS2 := 37 / 1000
    maximumLinearJerkMS3 := 57 / 1000 }

theorem slowLimits_facts : slowLimits.postInit = .ok () ∧
    (∀ i, 0 < slowLimits.effectiveExtent i) ∧
    0 < sub slowLimits.maximumOrientationDeviationRad slowLimits.angularGuard := by
  decide +kernel

theorem slowLimits_accepted : slowLimits.postInit = .ok () := slowLimits_facts.1

/-- A target a metre ahead for twelve steps, behind for twenty, and ahead again. -/
def swingingCalls (count : ℕ) : List (UpdateCall ℚ) :=
  (List.range count).map fun n => callAt (if n < 12 ∨ 32 ≤ n then 1 else -1) (n + 1)

/-- The supervisor of the envelope, started at the reset. -/
def swingingSupervisor : ArmSafetySupervisor ℚ where
  envelope := ⟨poseAt 0, slowLimits.workspaceHalfExtentM, radians 4, 10000000000⟩
  startedNs := some 0
  faultLatched := false

/-- The shaper before the seventy-eighth step. -/
def swungShaper : JerkLimitedPoseShaper ℚ :=
  run step ((construct slowLimits).reset (poseAt 0) 0) (swingingCalls 77)

theorem slowLimits_steps : Steps50ms slowLimits where
  positive := postInit_positive slowLimits_accepted
  maximumStepDtS := by norm_num [slowLimits, defaultLimits]
  effectiveExtent := slowLimits_facts.2.1
  orientation := slowLimits_facts.2.2

/-- The targets of `swingingCalls` on the first axis. -/
def swingingTargets : List ℚ :=
  (List.range' 0 77).map fun n => if n < 12 ∨ 32 ≤ n then 1 else -1

theorem swingingCalls_eq : swingingCalls 77 = callsFrom 0 swingingTargets := by
  unfold swingingCalls swingingTargets
  rw [← map_callAt_eq, ← List.range_eq_range']

/-- The first axis before the seventy-eighth step. -/
def swungAxis : AxisMotion ℚ := swingingTargets.foldl (axisStep slowLimits) ⟨0, 0, 0⟩

theorem swungShaper_straight : Straight slowLimits swungAxis 77 swungShaper := by
  have hrun := (straight_reset slowLimits).run slowLimits_steps swingingTargets
  unfold swungShaper
  rw [swingingCalls_eq]
  exact hrun

theorem swungAxis_outside :
    20 / 1000 + 1 / 10 ^ 12 < (axisStep slowLimits swungAxis 1).position := by
  decide +kernel

theorem swingingSupervisor_aborts {target : PoseTarget ℚ} {x : ℚ} (hpose : target.pose = poseAt x)
    (hx : 20 / 1000 + 1 / 10 ^ 12 < x) :
    (swingingSupervisor.evaluateCartesian target 3900000000).1 =
      some ⟨.abort, 3900000000, .absoluteWorkspaceEnvelope, true⟩ := by
  have houtside : swingingSupervisor.outsideWorkspace target.pose.positionM = true := by
    have hlt : lt (add (20 / 1000 : ℚ) (ofRat (1 / 10 ^ 12))) (Double.abs (sub x 0)) = true := by
      simpa using lt_of_lt_of_le hx (le_abs_self x)
    rw [hpose]
    exact List.any_eq_true.2 ⟨0, List.mem_finRange 0, hlt⟩
  unfold ArmSafetySupervisor.evaluateCartesian
  rw [houtside]
  rfl

/-- **The workspace is left** at the seventy-eighth step, and the supervisor aborts. -/
theorem envelope_left : ∃ target, (swungShaper.update (callAt 1 78)).1 = .ok target ∧
    20 / 1000 < target.pose.positionM 0 - (poseAt 0).positionM 0 ∧
    (swingingSupervisor.evaluateCartesian target 3900000000).1 =
      some ⟨.abort, 3900000000, .absoluteWorkspaceEnvelope, true⟩ := by
  obtain ⟨target, htarget, hpose⟩ := (swungShaper_straight.update slowLimits_steps 1).2
  refine ⟨target, htarget, ?_, swingingSupervisor_aborts hpose swungAxis_outside⟩
  rw [hpose]
  show 20 / 1000 < (axisStep slowLimits swungAxis 1).position - 0
  rw [sub_zero]
  exact lt_trans (by norm_num) swungAxis_outside

theorem workspace_envelope_swinging :
    (Meets step (Stays slowLimits (poseAt 0)) ((construct slowLimits).reset (poseAt 0) 0)
          (swingingCalls 78) ↔
        Meets step (Brakes slowLimits (postInit_positive slowLimits_accepted) (poseAt 0))
          ((construct slowLimits).reset (poseAt 0) 0) (swingingCalls 78)) ∧
      (Meets step (Stays slowLimits (poseAt 0)) ((construct slowLimits).reset (poseAt 0) 0)
          (swingingCalls 78) →
        Meets step (Allowed slowLimits (poseAt 0)) ((construct slowLimits).reset (poseAt 0) 0)
          (swingingCalls 78)) :=
  workspace_envelope slowLimits_accepted 0 (swingingCalls 78)

end HandLab.PoseShaper
