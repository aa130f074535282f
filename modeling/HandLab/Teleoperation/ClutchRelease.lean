import HandLab.Lib.History
import HandLab.Lib.Run
import HandLab.Teleoperation.ClutchController

/-!
# Release before following

What a target of the `ClutchController` rests on, over every order of calls.

* `release_before_following`: in every run that neither recenters a latched
  controller nor calls `release_after_discontinuity` while a release is due, the
  latched states are left by `reset_fault` only, and every target rests on an
  anchor of a rising edge after a release.
* `recenter_unlatches`: what the first of the two calls does.
-/

namespace HandLab.Teleoperation

open HandLab.Lib

variable {δ : Type*}

/-! ## The property -/

/-- A call with its result and the states around it. -/
structure ClutchEvent (δ : Type*) where
  call : ClutchCall δ
  result : Except ClutchError (ClutchReturn δ)
  before : ClutchState
  after : ClutchState

namespace ClutchEvent

variable (e : ClutchEvent δ)

/-- The call raised nothing. -/
def succeeded : Bool := e.result.isOk

/-- The target pose that an update returned. -/
def target? : Option (Pose3D δ) :=
  match e.result with
  | .ok (.update result) => result.targetPose
  | _ => none

/-- An invalid input, a discontinuity, a stop or a fault. -/
def disturbs : Bool :=
  match e.call with
  | .update sample gate _ => !gate.valid || !sample.trackingValid
  | .requireRecenter _ | .stop | .fault => true
  | .recenter .. | .releaseAfterDiscontinuity | .resetFault .. => false

/-- An update with a valid released gate, or a recenter with the gate released. -/
def releases : Bool :=
  match e.call with
  | .update _ gate _ => gate.valid && !gate.engaged
  | .recenter _ _ gateReleased => gateReleased && e.succeeded
  | _ => false

/-- Whether the gate was engaged, as far as the call says. -/
def gate? : Option Bool :=
  match e.call with
  | .update _ gate _ => some gate.engaged
  | .recenter .. => if e.succeeded then some false else none
  | _ => none

/-- The call leaves an anchor alone: an update is valid, tracked and engaged, and no
    other call ends the engagement. -/
def Sustains : Prop :=
  match e.call with
  | .update sample gate _ =>
    gate.valid = true ∧ sample.trackingValid = true ∧ gate.engaged = true
  | .recenter .. => e.succeeded = false
  | .requireRecenter _ | .stop | .fault => False
  | .releaseAfterDiscontinuity | .resetFault .. => True

/-- The latched states are left by a successful `reset_fault` only; `stop` and `fault`
    choose between them. -/
def KeepsLatch : Prop := e.before.latched = true →
  e.after = e.before ∨ (∃ gateReleased safe, e.call = .resetFault gateReleased safe) ∧
    e.succeeded = true ∨ e.call = .stop ∧ e.after = .stopped ∨ e.call = .fault ∧ e.after = .fault

end ClutchEvent

section Property

variable [NumPy δ] (c : ClutchController δ) (past : List (ClutchEvent δ))

/-- A release since the last disturbance, and a gate that was last seen released. -/
structure ReadyToAnchor : Prop where
  released : ∃ r ∈ since ClutchEvent.disturbs past, r.releases = true
  edge : latest ClutchEvent.gate? past = some false

/-- The anchor `source`, `robot` was taken by the update `a` of the history, on a
    rising edge after a release, and all calls since sustain it. -/
def AnchoredAt (source robot : Pose3D δ) : Prop := ∃ mid a older sample gate,
  past = mid ++ a :: older ∧ a.call = .update sample gate robot ∧
    c.operatorPose sample = some source ∧ ReadyToAnchor older ∧
    ∀ e ∈ mid ++ [a], e.Sustains

/-- A target is that of an anchored update. -/
def RestsOnAnchor (e : ClutchEvent δ) (past : List (ClutchEvent δ)) : Prop :=
  ∀ target, e.target? = some target → ∃ source robot sample gate robotTcpPose current,
    e.call = .update sample gate robotTcpPose ∧ c.operatorPose sample = some current ∧
    c.mapper.relativeTo source robot current = some target ∧
    AnchoredAt c (e :: past) source robot

/-- Every call keeps the latch, and every target rests on an anchor. -/
def FollowsRelease (c : ClutchController δ) (h : List (ClutchEvent δ)) : Prop :=
  Whenever (fun e past => e.KeepsLatch ∧ RestsOnAnchor c e past) h

end Property

/-! ## Runs -/

section Runs

/-- A controller with its calls, newest first. -/
structure ClutchSession (δ : Type*) where
  controller : ClutchController δ
  log : List (ClutchEvent δ)

/-- A new controller. -/
def ClutchSession.start (mapper : RelativePoseMapper δ) (posesAreOperatorFrame : Bool) :
    ClutchSession δ := ⟨{ mapper, posesAreOperatorFrame }, []⟩

variable [NumPy δ]

/-- One call. -/
def ClutchSession.step (s : ClutchSession δ) (call : ClutchCall δ) : ClutchSession δ :=
  let (result, controller) := s.controller.call call
  ⟨controller, ⟨call, result, s.controller.state, controller.state⟩ :: s.log⟩

/-- No latched controller is recentered with the gate released, and no release is
    skipped while one is due. -/
def AwaitsRelease (s : ClutchSession δ) : ClutchCall δ → Prop
  | .recenter sample _ gateReleased => s.controller.state.latched = true →
    gateReleased = true → sample.trackingValid = true → s.controller.operatorPose sample = none
  | .releaseAfterDiscontinuity => s.controller.state ≠ .recenterRequired
  | _ => True

structure ClutchController.MapsAs (c d : ClutchController δ) : Prop where
  operatorPose : c.operatorPose = d.operatorPose
  relativeTo : c.mapper.relativeTo = d.mapper.relativeTo

/-- The invariant of the runs. -/
structure Engagement (d : ClutchController δ) (s : ClutchSession δ) : Prop where
  maps : s.controller.MapsAs d
  active : s.controller.state = .active → ∃ source robot,
    s.controller.mapper.sourceAnchor = some source ∧
    s.controller.mapper.robotAnchor = some robot ∧ AnchoredAt d s.log source robot
  released : s.controller.state = .disengaged →
    ∃ r ∈ since ClutchEvent.disturbs s.log, r.releases = true
  edge : s.controller.state = .disengaged → s.controller.lastGateEngaged = false →
    latest ClutchEvent.gate? s.log = some false
  follows : FollowsRelease d s.log

variable {d : ClutchController δ} {s : ClutchSession δ}

variable {log : List (ClutchEvent δ)}

theorem FollowsRelease.cons {c : ClutchController δ}
    (hf : FollowsRelease c log) {e : ClutchEvent δ} (hlatch : e.KeepsLatch)
    (htarget : RestsOnAnchor c e log) : FollowsRelease c (e :: log) :=
  whenever_cons.mpr ⟨⟨hlatch, htarget⟩, hf⟩

omit [NumPy δ] in
theorem keepsLatch_of_not_latched {e : ClutchEvent δ} (h : e.before.latched = false) :
    e.KeepsLatch := fun hlatched => nomatch h.symm.trans hlatched

theorem restsOnAnchor_of_none {c : ClutchController δ}
    {e : ClutchEvent δ} (htarget : e.target? = none) : RestsOnAnchor c e log :=
  fun _ h => nomatch htarget.symm.trans h

theorem AnchoredAt.cons {source robot : Pose3D δ}
    (ha : AnchoredAt d log source robot) {e : ClutchEvent δ} (he : e.Sustains) :
    AnchoredAt d (e :: log) source robot := by
  obtain ⟨mid, a, older, sample, gate, rfl, hcall, hpose, hready, hsustains⟩ := ha
  refine ⟨e :: mid, a, older, sample, gate, rfl, hcall, hpose, hready, ?_⟩
  intro e' he'
  rcases List.mem_cons.mp he' with rfl | he'
  · exact he
  · exact hsustains e' he'

variable (he : Engagement d s) {c : ClutchController δ} {e : ClutchEvent δ}

include he

/-- A call after which the controller is neither engaged nor ready to engage. -/
theorem Engagement.idle (hmaps : c.MapsAs d) (hactive : c.state ≠ .active)
    (hdisengaged : c.state ≠ .disengaged) (hlatch : e.KeepsLatch) (htarget : e.target? = none) :
    Engagement d ⟨c, e :: s.log⟩ where
  maps := hmaps
  active h := absurd h hactive
  released h := absurd h hdisengaged
  edge h := absurd h hdisengaged
  follows := he.follows.cons hlatch (restsOnAnchor_of_none htarget)

/-- A call that releases the controller. -/
theorem Engagement.release (hmaps : c.MapsAs d) (hstate : c.state = .disengaged)
    (hbefore : e.before.latched = false) (hreleases : e.releases = true)
    (hdisturbs : e.disturbs = false) (hgate : e.gate? = some false) (htarget : e.target? = none) :
    Engagement d ⟨c, e :: s.log⟩ where
  maps := hmaps
  active h := nomatch hstate.symm.trans h
  released _ := by
    rw [since_cons_of_neg hdisturbs]
    exact ⟨e, List.mem_cons_self, hreleases⟩
  edge _ _ := latest_cons_of_some hgate _
  follows := he.follows.cons (fun h => nomatch hbefore.symm.trans h)
    (restsOnAnchor_of_none htarget)

/-- A call that leaves the engagement as it is. -/
theorem Engagement.sustain (hmaps : c.MapsAs d) (hstate : c.state = s.controller.state)
    (hmapper : c.mapper = s.controller.mapper) (hsustains : e.Sustains)
    (hdisturbs : e.disturbs = false)
    (hgate : c.lastGateEngaged = true ∨
      e.gate? = none ∧ c.lastGateEngaged = s.controller.lastGateEngaged)
    (hlatch : e.KeepsLatch)
    (htarget : RestsOnAnchor d e s.log) : Engagement d ⟨c, e :: s.log⟩ where
  maps := hmaps
  active h := by
    obtain ⟨source, robot, hsource, hrobot, hanchored⟩ := he.active (hstate ▸ h)
    rw [hmapper]
    exact ⟨source, robot, hsource, hrobot, hanchored.cons hsustains⟩
  released h := by
    obtain ⟨r, hr, hreleases⟩ := he.released (hstate ▸ h)
    rw [since_cons_of_neg hdisturbs]
    exact ⟨r, List.mem_cons_of_mem e hr, hreleases⟩
  edge h hlast := by
    rcases hgate with hgate | ⟨hgate, hsame⟩
    · exact nomatch hgate.symm.trans hlast
    · rw [latest_cons_of_none hgate]
      exact he.edge (hstate ▸ h) (hsame ▸ hlast)
  follows := he.follows.cons hlatch htarget

omit he

namespace ClutchController

variable (c : ClutchController δ)

theorem follow_spec {sample : ArmPoseSample δ} {u : ClutchUpdate δ} {target : Pose3D δ}
    (h : c.follow sample = .ok u) (ht : u.targetPose = some target) :
    ∃ source robot current, c.mapper.sourceAnchor = some source ∧
      c.mapper.robotAnchor = some robot ∧ c.operatorPose sample = some current ∧
      c.mapper.relativeTo source robot current = some target := by
  unfold follow at h
  cases hcurrent : c.operatorPose sample with
  | none => simp [hcurrent] at h
  | some current =>
    cases hsource : c.mapper.sourceAnchor with
    | none => simp [hcurrent, hsource] at h
    | some source =>
      cases hrobot : c.mapper.robotAnchor with
      | none => simp [hcurrent, hsource, hrobot] at h
      | some robot =>
        cases hmap : c.mapper.relativeTo source robot current with
        | none => simp [hcurrent, hsource, hrobot, hmap] at h
        | some pose =>
          simp only [hcurrent, hsource, hrobot, hmap, Except.ok.injEq] at h
          subst h
          obtain rfl := Option.some_inj.mp ht
          exact ⟨source, robot, current, rfl, rfl, rfl, hmap⟩

theorem anchor_spec {sample : ArmPoseSample δ} {robotTcpPose : Pose3D δ}
    {anchored : ClutchController δ} (h : c.anchor sample robotTcpPose = .ok anchored) :
    ∃ pose, c.operatorPose sample = some pose ∧
      anchored = { c with mapper := c.mapper.anchorOperator pose robotTcpPose } := by
  unfold anchor at h
  cases hpose : c.operatorPose sample with
  | none => simp [hpose] at h
  | some pose =>
    simp only [hpose, Except.ok.injEq] at h
    exact ⟨pose, rfl, h.symm⟩

/-- **What the update of an engaged gate does.** -/
theorem engaged_cases (sample : ArmPoseSample δ) (robotTcpPose : Pose3D δ)
    (hlatched : c.state.latched = false) :
    let w := { c with lastGateEngaged := true }
    (∃ result, (∀ u, result = .ok u → u.targetPose = none) ∧
        c.engaged sample robotTcpPose = (result, w)) ∨
      c.state = .active ∧ c.engaged sample robotTcpPose = (w.follow sample, w) ∨
      c.state = .disengaged ∧ c.lastGateEngaged = false ∧ ∃ pose, c.operatorPose sample = some pose ∧
        let anchored := { w with
          mapper := c.mapper.anchorOperator pose robotTcpPose
          state := .active }
        c.engaged sample robotTcpPose = (anchored.follow sample, anchored) := by
  obtain ⟨mapper, poses, state, last⟩ := c
  intro w
  have hheld : ∀ reason u, (.ok (w.held reason) : Except ClutchError (ClutchUpdate δ)) = .ok u →
      u.targetPose = none := by
    intro reason u h
    obtain rfl := Except.ok.inj h
    rfl
  cases state with
  | waitingForRelease => exact .inl ⟨_, hheld "startup_release_required", rfl⟩
  | recenterRequired => exact .inl ⟨_, hheld "explicit_release_and_reclutch_required", rfl⟩
  | stopped => exact nomatch hlatched
  | fault => exact nomatch hlatched
  | active => exact .inr (.inl ⟨rfl, rfl⟩)
  | disengaged =>
    cases last with
    | true => exact .inl ⟨_, hheld "fresh_clutch_edge_required", rfl⟩
    | false =>
      cases hanchor : anchor ⟨mapper, poses, .disengaged, true⟩ sample robotTcpPose with
      | error e => exact .inl ⟨.error e, nofun, by simp [engaged, hanchor, w]⟩
      | ok anchored =>
        obtain ⟨pose, hpose, rfl⟩ := anchor_spec _ hanchor
        exact .inr (.inr ⟨rfl, rfl, pose, hpose, by simp [engaged, hanchor, w]⟩)

/-- **What `recenter` does.** -/
theorem recenter_cases (sample : ArmPoseSample δ) (robotTcpPose : Pose3D δ)
    (gateReleased : Bool) :
    (∃ e, c.recenter sample robotTcpPose gateReleased = (.error e, c)) ∨
    gateReleased = true ∧ sample.trackingValid = true ∧ ∃ pose id, c.operatorPose sample = some pose ∧
      c.recenter sample robotTcpPose gateReleased = (.ok id,
        { c with
          mapper := (c.mapper.anchorOperator pose robotTcpPose).clear
          state := .disengaged
          lastGateEngaged := false }) := by
  unfold recenter
  split
  · exact .inl ⟨_, rfl⟩
  rename_i hreleased
  split
  · exact .inl ⟨_, rfl⟩
  rename_i htracking
  cases hanchor : c.anchor sample robotTcpPose with
  | error e => exact .inl ⟨e, rfl⟩
  | ok anchored =>
    obtain ⟨pose, hpose, rfl⟩ := c.anchor_spec hanchor
    exact .inr ⟨by simpa using hreleased, by simpa using htracking, pose, _, hpose, rfl⟩

end ClutchController

theorem ClutchState.latched_ne {state : ClutchState} (h : state.latched = true) :
    state ≠ .active ∧ state ≠ .disengaged := by
  cases state <;> simp [latched] at h ⊢

theorem restsOnAnchor_follow {c : ClutchController δ} (hmaps : c.MapsAs d)
    {sample : ArmPoseSample δ} {gate : RunGateSample}
    {robotTcpPose : Pose3D δ} {before after : ClutchState}
    (hanchored : ∀ source robot, c.mapper.sourceAnchor = some source →
      c.mapper.robotAnchor = some robot →
      AnchoredAt d (⟨.update sample gate robotTcpPose, (c.follow sample).map .update, before,
        after⟩ :: log) source robot) :
    RestsOnAnchor d ⟨.update sample gate robotTcpPose, (c.follow sample).map .update, before,
      after⟩ log := by
  intro target htarget
  cases hfollow : c.follow sample with
  | error e => simp [ClutchEvent.target?, hfollow, Except.map] at htarget
  | ok u =>
    have htarget : u.targetPose = some target := by
      simpa [ClutchEvent.target?, hfollow, Except.map] using htarget
    obtain ⟨source, robot, current, hsource, hrobot, hcurrent, hmap⟩ := c.follow_spec hfollow htarget
    rw [← hfollow]
    refine ⟨source, robot, sample, gate, robotTcpPose, current, rfl, ?_, ?_,
      hanchored source robot hsource hrobot⟩
    · rw [← hmaps.operatorPose]
      exact hcurrent
    · rw [← hmaps.relativeTo]
      exact hmap

section Calls

variable (he : Engagement d s)

include he

theorem Engagement.engaged {sample : ArmPoseSample δ} {gate : RunGateSample}
    (hvalid : gate.valid = true) (htracking : sample.trackingValid = true)
    (hengaged : gate.engaged = true) (robotTcpPose : Pose3D δ)
    (hlatched : s.controller.state.latched = false) :
    Engagement d ⟨(s.controller.engaged sample robotTcpPose).2,
      ⟨.update sample gate robotTcpPose,
        (s.controller.engaged sample robotTcpPose).1.map .update, s.controller.state,
        (s.controller.engaged sample robotTcpPose).2.state⟩ :: s.log⟩ := by
  have hmaps := he.maps
  have hsustains : ∀ result after, (⟨.update sample gate robotTcpPose, result, s.controller.state,
      after⟩ : ClutchEvent δ).Sustains := fun _ _ => ⟨hvalid, htracking, hengaged⟩
  have hdisturbs : ∀ result after, (⟨.update sample gate robotTcpPose, result, s.controller.state,
      after⟩ : ClutchEvent δ).disturbs = false := by
    simp [ClutchEvent.disturbs, hvalid, htracking]
  have hlatch := fun e : ClutchEvent δ => keepsLatch_of_not_latched (e := e)
  rcases s.controller.engaged_cases sample robotTcpPose hlatched with
    ⟨result, hnone, h⟩ | ⟨hstate, h⟩ | ⟨hstate, hlast, pose, hpose, h⟩
  · rw [h]
    refine he.sustain ⟨hmaps.operatorPose, hmaps.relativeTo⟩ rfl rfl (hsustains ..)
      (hdisturbs ..) (.inl rfl) (hlatch _ hlatched) (restsOnAnchor_of_none ?_)
    cases result with
    | error e => rfl
    | ok u => exact hnone u rfl
  · rw [h]
    refine he.sustain ⟨hmaps.operatorPose, hmaps.relativeTo⟩ rfl rfl (hsustains ..)
      (hdisturbs ..) (.inl rfl) (hlatch _ hlatched)
      (restsOnAnchor_follow ⟨hmaps.operatorPose, hmaps.relativeTo⟩ ?_)
    intro source robot hsource hrobot
    obtain ⟨source', robot', hsource', hrobot', hanchored⟩ := he.active hstate
    obtain rfl := Option.some_inj.mp (hsource.symm.trans hsource')
    obtain rfl := Option.some_inj.mp (hrobot.symm.trans hrobot')
    exact hanchored.cons (hsustains ..)
  · rw [h]
    -- the update itself takes the anchor
    have hanchored : ∀ result after, AnchoredAt d (⟨.update sample gate robotTcpPose, result,
        s.controller.state, after⟩ :: s.log) pose robotTcpPose := fun result after =>
      ⟨[], _, s.log, sample, gate, rfl, rfl, hmaps.operatorPose ▸ hpose,
        ⟨he.released hstate, he.edge hstate hlast⟩, by
          intro e he
          obtain rfl := List.mem_singleton.mp he
          exact hsustains ..⟩
    let w : ClutchController δ := { s.controller with
      mapper := s.controller.mapper.anchorOperator pose robotTcpPose
      state := .active
      lastGateEngaged := true }
    have hw : w.MapsAs d := ⟨hmaps.operatorPose, hmaps.relativeTo⟩
    have hrests : RestsOnAnchor d ⟨.update sample gate robotTcpPose,
        (w.follow sample).map .update, s.controller.state, .active⟩ s.log := by
      refine restsOnAnchor_follow hw fun source robot hsource hrobot => ?_
      obtain rfl := Option.some_inj.mp hsource
      obtain rfl := Option.some_inj.mp hrobot
      exact hanchored ..
    exact ⟨hw, fun _ => ⟨pose, robotTcpPose, rfl, rfl, hanchored ..⟩, nofun, nofun,
      he.follows.cons (hlatch _ hlatched) hrests⟩

theorem Engagement.update (sample : ArmPoseSample δ) (gate : RunGateSample)
    (robotTcpPose : Pose3D δ) : Engagement d (s.step (.update sample gate robotTcpPose)) := by
  have hmaps := he.maps
  unfold ClutchSession.step ClutchController.call ClutchController.update
  dsimp only
  split
  · rename_i hlatched
    obtain ⟨hactive, hdisengaged⟩ := ClutchState.latched_ne hlatched
    exact he.idle hmaps hactive hdisengaged (fun _ => .inl rfl) rfl
  rename_i hlatched
  rw [Bool.not_eq_true] at hlatched
  split
  · refine he.idle ⟨hmaps.operatorPose, hmaps.relativeTo⟩ ?_ ?_
      (keepsLatch_of_not_latched hlatched) rfl <;>
      simp [ClutchController.requireRecenter, hlatched]
  rename_i hvalid
  simp only [Bool.or_eq_true, Bool.not_eq_true', not_or, Bool.not_eq_false] at hvalid
  split
  · rename_i hreleased
    have hstate : s.controller.released.state = .disengaged := by
      unfold ClutchController.released
      cases h : s.controller.state <;> simp [h, ClutchState.latched] at hlatched ⊢
    have hmaps : s.controller.released.MapsAs d := by
      unfold ClutchController.released
      cases s.controller.state <;> exact ⟨hmaps.operatorPose, hmaps.relativeTo⟩
    refine he.release hmaps hstate hlatched ?_ ?_ ?_ rfl
    · simpa [ClutchEvent.releases, hvalid] using hreleased
    · simp [ClutchEvent.disturbs, hvalid]
    · simpa [ClutchEvent.gate?] using hreleased
  · rename_i hengaged
    exact he.engaged hvalid.1 hvalid.2 (by simpa using hengaged) robotTcpPose hlatched

theorem Engagement.recenter (sample : ArmPoseSample δ) (robotTcpPose : Pose3D δ)
    (gateReleased : Bool) (hwaits : AwaitsRelease s (.recenter sample robotTcpPose gateReleased)) :
    Engagement d (s.step (.recenter sample robotTcpPose gateReleased)) := by
  have hmaps := he.maps
  unfold ClutchSession.step ClutchController.call
  dsimp only
  rcases s.controller.recenter_cases sample robotTcpPose gateReleased with
    ⟨error, h⟩ | ⟨hreleased, htracking, pose, id, hpose, h⟩
  · rw [h]
    exact he.sustain hmaps rfl rfl rfl rfl (.inr ⟨rfl, rfl⟩) (fun _ => .inl rfl)
      (restsOnAnchor_of_none rfl)
  · rw [h]
    have hlatched : s.controller.state.latched = false := by
      rw [← Bool.not_eq_true]
      intro hlatched
      exact nomatch hpose.symm.trans (hwaits hlatched hreleased htracking)
    refine he.release ⟨hmaps.operatorPose, hmaps.relativeTo⟩ rfl hlatched ?_ rfl rfl rfl
    rw [ClutchEvent.releases, hreleased]
    rfl

theorem Engagement.resetFault (gateReleased safe : Bool) :
    Engagement d (s.step (.resetFault gateReleased safe)) := by
  have hmaps := he.maps
  have hrefused : ∀ error : ClutchError, Engagement d ⟨s.controller,
      ⟨.resetFault gateReleased safe, .error error, s.controller.state,
        s.controller.state⟩ :: s.log⟩ := fun error =>
    he.sustain hmaps rfl rfl trivial rfl (.inr ⟨rfl, rfl⟩) (fun _ => .inl rfl)
      (restsOnAnchor_of_none rfl)
  unfold ClutchSession.step ClutchController.call ClutchController.resetFault
  dsimp only
  split
  · exact hrefused _
  split
  · exact hrefused _
  · exact he.idle ⟨hmaps.operatorPose, hmaps.relativeTo⟩ nofun nofun
      (fun _ => .inr (.inl ⟨⟨_, _, rfl⟩, rfl⟩)) rfl

/-- **Every call that awaits the release keeps the invariant.** -/
theorem Engagement.step (call : ClutchCall δ) (hwaits : AwaitsRelease s call) :
    Engagement d (s.step call) := by
  have hmaps := he.maps
  cases call with
  | update sample gate robotTcpPose => exact he.update sample gate robotTcpPose
  | recenter sample robotTcpPose gateReleased =>
    exact he.recenter sample robotTcpPose gateReleased hwaits
  | requireRecenter reason =>
    cases hlatched : s.controller.state.latched with
    | true =>
      obtain ⟨hactive, hdisengaged⟩ := ClutchState.latched_ne hlatched
      have hstate : (s.controller.requireRecenter reason).state = s.controller.state := by
        simp [ClutchController.requireRecenter, hlatched]
      refine he.idle ⟨hmaps.operatorPose, hmaps.relativeTo⟩ ?_ ?_ (fun _ => .inl hstate) rfl
      · exact hstate ▸ hactive
      · exact hstate ▸ hdisengaged
    | false =>
      refine he.idle ⟨hmaps.operatorPose, hmaps.relativeTo⟩ ?_ ?_
        (keepsLatch_of_not_latched hlatched) rfl <;>
        simp [ClutchController.requireRecenter, hlatched]
  | releaseAfterDiscontinuity =>
    have hsame : s.controller.releaseAfterDiscontinuity = s.controller := if_neg hwaits
    unfold ClutchSession.step ClutchController.call
    rw [hsame]
    exact he.sustain hmaps rfl rfl trivial rfl (.inr ⟨rfl, rfl⟩) (fun _ => .inl rfl)
      (restsOnAnchor_of_none rfl)
  | stop =>
    exact he.idle ⟨hmaps.operatorPose, hmaps.relativeTo⟩ nofun nofun
      (fun _ => .inr (.inr (.inl ⟨rfl, rfl⟩))) rfl
  | fault =>
    exact he.idle ⟨hmaps.operatorPose, hmaps.relativeTo⟩ nofun nofun
      (fun _ => .inr (.inr (.inr ⟨rfl, rfl⟩))) rfl
  | resetFault gateReleased safe => exact he.resetFault gateReleased safe

end Calls

/-- **Every target rests on a release**, and the latch holds, in every run that awaits the
    release after a discontinuity, a stop or a fault. -/
theorem release_before_following (mapper : RelativePoseMapper δ) (posesAreOperatorFrame : Bool)
    (calls : List (ClutchCall δ))
    (h : Meets ClutchSession.step AwaitsRelease (.start mapper posesAreOperatorFrame) calls) :
    FollowsRelease { mapper, posesAreOperatorFrame }
      (run ClutchSession.step (.start mapper posesAreOperatorFrame) calls).log := by
  have hstart : Engagement { mapper, posesAreOperatorFrame }
      (ClutchSession.start mapper posesAreOperatorFrame) :=
    ⟨⟨rfl, rfl⟩, nofun, nofun, nofun, whenever_nil⟩
  exact (run_invariant_of_meets (P := Engagement { mapper, posesAreOperatorFrame })
    (fun s call hwaits he => he.step call hwaits) hstart h).follows

end Runs

/-! ## The two calls -/

/-- The mapper of the tests, in exact arithmetic. -/
noncomputable def testMapper : RelativePoseMapper ℝ where
  frames := ⟨1, .identity⟩
  translationScale := 0.05
  rotationScale := 0.05

def originSample (sequence : ℕ) : ArmPoseSample ℝ where
  sequence
  frameId := "normalized"
  pose := .identity
  localReceiveNs := sequence

def originUpdate (sequence : ℕ) (engaged : Bool) : ClutchCall ℝ :=
  .update (originSample sequence) ⟨engaged, true, ""⟩ .identity

/-- **A recenter leaves the latch**: the controller is stopped, and its next call
    disengages it without a reset. -/
theorem recenter_unlatches : ¬FollowsRelease { mapper := testMapper, posesAreOperatorFrame := true }
    (run ClutchSession.step (.start testMapper true)
      [.stop, .recenter (originSample 1) .identity true]).log := by
  intro h
  obtain ⟨hlatch, -⟩ := h _ _ (List.suffix_refl _)
  rcases hlatch rfl with h | ⟨⟨_, _, h⟩, -⟩ | ⟨h, -⟩ | ⟨h, -⟩
  · exact nomatch h
  · exact nomatch h
  · exact nomatch h
  · exact nomatch h

/-- The condition is met by an engagement after a release. -/
theorem release_before_following_engaged :
    FollowsRelease { mapper := testMapper, posesAreOperatorFrame := true }
      (run ClutchSession.step (.start testMapper true)
        [originUpdate 1 false, originUpdate 2 true]).log :=
  release_before_following testMapper true _ ⟨trivial, trivial, trivial⟩

end HandLab.Teleoperation
