import HandLab.Engagement.Coordinator
import HandLab.Lib.History
import HandLab.Lib.Run

/-!
# Epochs of the coordinator

Every `begin_engagement` and `reset_hard_stop` that returns `OK` starts an
epoch. `EpochIsolation` says how the epochs keep apart what belongs to them.

* `epoch_isolation`: it holds in every state that any calls reach.
* `relative_pose_recurs`: the relative pose is the identity again when a newer
  input has the pose of the reference, and it is not the identity for a
  reference whose quaternion is not a unit.
-/

namespace HandLab.Engagement

open HandLab.Lib

variable {δ : Type*}

/-! ## What a log says -/

namespace CoordinatorEntry

/-- The call started an epoch, with its capture after `begin_engagement`. -/
def epochStart? (entry : CoordinatorEntry δ) : Option (Option (EngagementCapture δ)) :=
  match entry.call with
  | .beginEngagement _ _ => some entry.after.capture
  | .resetHardStop _ => some none
  | _ => none

/-- The input that was observed. -/
def input? (entry : CoordinatorEntry δ) : Option (ℤ × SpatialPose δ) :=
  match entry.call with
  | .observeInput sequence pose => some (sequence, pose)
  | _ => none

/-- The sequence of the target that was noted. -/
def target? (entry : CoordinatorEntry δ) : Option ℤ :=
  match entry.call with
  | .noteTarget sequence _ _ => some sequence
  | _ => none

/-- `complete_engagement` starts the tracking, and a release, a hard stop or a
    new epoch ends it. -/
def tracking? (entry : CoordinatorEntry δ) : Option Bool :=
  match entry.call with
  | .completeEngagement => some true
  | .requestRelease => some false
  | .hardStop => some false
  | .beginEngagement _ _ => some false
  | .resetHardStop _ => some false
  | _ => none

/-- `hard_stop` stops, and `reset_hard_stop` ends that. -/
def stopped? (entry : CoordinatorEntry δ) : Option Bool :=
  match entry.call with
  | .hardStop => some true
  | .resetHardStop _ => some false
  | _ => none

end CoordinatorEntry

section Log

variable (h : List (CoordinatorEntry δ))

/-- The number of epochs that started. -/
def epochs : ℕ := h.countP fun entry => entry.epochStart?.isSome

/-- What happened in the current epoch. -/
def sinceEpoch : List (CoordinatorEntry δ) := since (fun entry => entry.epochStart?.isSome) h

/-- The current epoch, if it was started by `begin_engagement`: its capture. -/
def epochCapture : Option (EngagementCapture δ) :=
  (latest CoordinatorEntry.epochStart? h).join

/-- The latest observed input. -/
def lastInput : Option (ℤ × SpatialPose δ) := latest CoordinatorEntry.input? h

/-- The sequence of the last target that was noted in the current epoch, or `0`. -/
def lastTarget : ℤ := (latest CoordinatorEntry.target? (sinceEpoch h)).getD 0

/-- The current epoch was begun and completed, and not released or stopped since. -/
def Tracking : Prop :=
  (epochCapture h).isSome = true ∧ latest CoordinatorEntry.tracking? h = some true

/-- The last hard stop was not reset. -/
def HardStopped : Prop := latest CoordinatorEntry.stopped? h = some true

end Log

/-! ## The property -/

variable [Double δ]

/-- What a call that returned `OK` found. -/
def Found (entry : CoordinatorEntry δ) (past : List (CoordinatorEntry δ)) : Prop :=
  match entry.call with
  | .beginEngagement measured nowNs => ∃ sequence pose, lastInput past = some (sequence, pose) ∧
    entry.after.capture = some ⟨epochs past + 1, measured, pose, sequence, nowNs⟩
  | .noteTarget sequence epoch _ => epoch = epochs past ∧ Tracking past ∧
    ∀ earlier ∈ (sinceEpoch past).filterMap CoordinatorEntry.target?, earlier < sequence
  | .resetHardStop measured => HardStopped past ∧ measured.isValid = true
  | _ => True

def EngagementMode.inEpoch (mode : EngagementMode) : Bool :=
  match mode with
  | .engaging | .activeTracking | .holdRejected | .controlledBraking | .stoppedReady => true
  | .uninitialized | .disengaged | .hardStopped => false

/-- The epochs keep apart what belongs to them. -/
structure EpochIsolation (s : CoordinatorRun δ) : Prop where
  /-- `safety_epoch` counts the calls that start an epoch -/
  epoch : s.coordinator.safetyEpoch = epochs s.history
  /-- the stored capture is that of the current epoch -/
  capture : s.coordinator.mode.inEpoch = true → ∃ capture, s.coordinator.capture = some capture ∧
    capture.safetyEpoch = s.coordinator.safetyEpoch ∧ epochCapture s.history = some capture
  frozen : s.coordinator.mode = .controlledBraking ∨ s.coordinator.mode = .stoppedReady →
    s.coordinator.frozenSourceSequence = lastTarget s.history
  stopped : s.coordinator.mode = .hardStopped ↔ HardStopped s.history
  /-- the relative pose is that of the latest input, which is the reference until
      a newer one is observed -/
  relative : s.coordinator.mode.isTracking = true → ∃ capture sequence pose,
    s.coordinator.capture = some capture ∧ lastInput s.history = some (sequence, pose) ∧
      s.coordinator.relativePose = some (pose.relativeTo capture.inputReference) ∧
      ((sinceEpoch s.history).filterMap CoordinatorEntry.input? = [] →
        pose = capture.inputReference)
  found : Whenever Found s.history

/-! ## The moves -/

/-- What a call does, with what it found. -/
inductive CoordinatorMove (c : EngagementCoordinator δ) :
    CoordinatorCall δ → EngagementResult → EngagementCoordinator δ → Prop
  | refused (call : CoordinatorCall δ) {result : EngagementResult} (hr : result ≠ .ok)
      (count : ℕ) : CoordinatorMove c call result { c with oldTargetRejectionCount := count }
  | initialized (measured : MeasuredJointState δ) (hm : c.mode = .uninitialized) :
      CoordinatorMove c (.initializeDisengaged measured) .ok { c with mode := .disengaged }
  | observed (sequence : ℤ) (pose : SpatialPose δ) (count : ℕ) :
      CoordinatorMove c (.observeInput sequence pose) .ok { c with
        inputReplacementCount := count
        latestInputSequence := sequence
        latestInputPose := some pose }
  | begun (measured : MeasuredJointState δ) (nowNs : ℤ) {pose : SpatialPose δ}
      (hm : c.mode ≠ .hardStopped) (hp : c.latestInputPose = some pose) :
      CoordinatorMove c (.beginEngagement measured nowNs) .ok { c with
        safetyEpoch := c.safetyEpoch + 1
        lastTargetSequence := 0
        frozenSourceSequence := 0
        historyClearCount := c.historyClearCount + 1
        capture := some ⟨c.safetyEpoch + 1, measured, pose, c.latestInputSequence, nowNs⟩
        mode := .engaging }
  | completed (hm : c.mode = .engaging) :
      CoordinatorMove c .completeEngagement .ok { c with mode := .activeTracking }
  | noted (sequence : ℤ) (accepted : Bool) {mode : EngagementMode}
      (hm : c.mode.isTracking = true) (hs : c.lastTargetSequence < sequence)
      (ht : mode.isTracking = true) :
      CoordinatorMove c (.noteTarget sequence c.safetyEpoch accepted) .ok { c with
        lastTargetSequence := sequence
        mode }
  | released (hm : c.mode.isTracking = true) :
      CoordinatorMove c .requestRelease .ok { c with
        frozenSourceSequence := c.lastTargetSequence
        mode := .controlledBraking }
  | braked (hm : c.mode = .controlledBraking) :
      CoordinatorMove c .brakingComplete .ok { c with mode := .stoppedReady }
  | stopped : CoordinatorMove c .hardStop .ok { c with mode := .hardStopped }
  | reset (measured : MeasuredJointState δ) (hm : c.mode = .hardStopped)
      (hv : measured.isValid = true) :
      CoordinatorMove c (.resetHardStop measured) .ok { c with
        capture := none
        lastTargetSequence := 0
        frozenSourceSequence := 0
        safetyEpoch := c.safetyEpoch + 1
        historyClearCount := c.historyClearCount + 1
        mode := .disengaged }

theorem call_move (c : EngagementCoordinator δ) (call : CoordinatorCall δ) :
    CoordinatorMove c call (c.call call).1 (c.call call).2 := by
  have hrefused (call : CoordinatorCall δ) {result : EngagementResult} (hr : result ≠ .ok) :
      CoordinatorMove c call result c := .refused call hr c.oldTargetRejectionCount
  cases call with
  | initializeDisengaged measured =>
    simp only [EngagementCoordinator.call, EngagementCoordinator.initializeDisengaged]
    split_ifs with hmode hvalid
    · exact hrefused _ nofun
    · exact hrefused _ nofun
    · exact .initialized measured (not_not.mp hmode)
  | observeInput sequence pose =>
    simp only [EngagementCoordinator.call, EngagementCoordinator.observeInput]
    by_cases hold : sequence ≤ c.latestInputSequence
    · rw [if_pos hold]
      exact hrefused _ nofun
    · rw [if_neg hold]
      exact .observed sequence pose _
  | beginEngagement measured nowNs =>
    simp only [EngagementCoordinator.call, EngagementCoordinator.beginEngagement]
    by_cases hbraking : c.mode = .controlledBraking
    · rw [if_pos hbraking]
      exact hrefused _ nofun
    by_cases hengaging : c.mode = .engaging
    · rw [if_neg hbraking, if_pos hengaging]
      exact hrefused _ nofun
    rw [if_neg hbraking, if_neg hengaging]
    by_cases hmode : c.mode ≠ .disengaged ∧ c.mode ≠ .stoppedReady
    · rw [if_pos hmode]
      exact hrefused _ nofun
    rw [if_neg hmode]
    by_cases hvalid : (!measured.isValid) = true
    · rw [if_pos hvalid]
      exact hrefused _ nofun
    rw [if_neg hvalid]
    split
    · exact hrefused _ nofun
    · rename_i pose hpose
      refine .begun measured nowNs (fun h => hmode ?_) hpose
      rw [h]
      decide
  | completeEngagement =>
    simp only [EngagementCoordinator.call, EngagementCoordinator.completeEngagement]
    split_ifs with hactive hmode
    · exact hrefused _ nofun
    · exact hrefused _ nofun
    · exact .completed (not_not.mp (not_or.mp hmode).1)
  | noteTarget sequence epoch accepted =>
    simp only [EngagementCoordinator.call, EngagementCoordinator.noteTarget]
    by_cases hepoch : epoch = c.safetyEpoch
    · obtain rfl := hepoch
      rw [if_neg (not_not.mpr rfl)]
      by_cases hmode : c.mode.isTracking = true
      · rw [if_neg (by simp [hmode])]
        by_cases hold : sequence ≤ c.lastTargetSequence
        · rw [if_pos hold]
          exact hrefused _ nofun
        · rw [if_neg hold]
          exact .noted sequence accepted hmode (not_le.mp hold) (by cases accepted <;> rfl)
      · rw [if_pos (by simp [hmode])]
        exact hrefused _ nofun
    · rw [if_pos hepoch]
      exact CoordinatorMove.refused (.noteTarget sequence epoch accepted)
        (show EngagementResult.oldEpoch ≠ .ok from nofun) (c.oldTargetRejectionCount + 1)
  | requestRelease =>
    simp only [EngagementCoordinator.call, EngagementCoordinator.requestRelease]
    split_ifs with hbraking hmode
    · exact hrefused _ nofun
    · exact hrefused _ nofun
    · exact .released (by simpa using hmode)
  | brakingComplete =>
    simp only [EngagementCoordinator.call, EngagementCoordinator.brakingComplete]
    split_ifs with hready hmode
    · exact hrefused _ nofun
    · exact hrefused _ nofun
    · exact .braked (not_not.mp hmode)
  | hardStop => exact .stopped
  | resetHardStop measured =>
    simp only [EngagementCoordinator.call, EngagementCoordinator.resetHardStop]
    split_ifs with hmode hvalid
    · exact hrefused _ nofun
    · exact hrefused _ nofun
    · exact .reset measured (not_not.mp hmode) (by simpa using hvalid)

/-! ## The invariant -/

section Cons

variable (entry : CoordinatorEntry δ) (h : List (CoordinatorEntry δ))

omit [Double δ]

theorem epochs_cons : epochs (entry :: h) =
    epochs h + if entry.epochStart?.isSome then 1 else 0 := by
  rw [epochs, List.countP_cons]
  rfl

theorem sinceEpoch_cons : sinceEpoch (entry :: h) =
    if entry.epochStart?.isSome then [] else entry :: sinceEpoch h := by
  cases hstart : entry.epochStart?.isSome with
  | true =>
    exact since_cons_of_pos (p := fun e : CoordinatorEntry δ => e.epochStart?.isSome) hstart h
  | false =>
    exact since_cons_of_neg (p := fun e : CoordinatorEntry δ => e.epochStart?.isSome) hstart h

theorem latest_cons {β : Type*} (f : CoordinatorEntry δ → Option β) :
    latest f (entry :: h) = (f entry).or (latest f h) := by
  cases hf : f entry with
  | none => exact latest_cons_of_none hf h
  | some b => exact latest_cons_of_some hf h

theorem epochCapture_cons : epochCapture (entry :: h) =
    (entry.epochStart?.or (latest CoordinatorEntry.epochStart? h)).join := by
  rw [epochCapture, latest_cons]

theorem lastInput_cons : lastInput (entry :: h) = entry.input?.or (lastInput h) :=
  latest_cons entry h _

end Cons

/-- What the calls maintain. -/
structure CoordinatorRun.Kept (s : CoordinatorRun δ) : Prop where
  epoch : s.coordinator.safetyEpoch = epochs s.history
  capture : s.coordinator.mode.inEpoch = true → ∃ capture, s.coordinator.capture = some capture ∧
    capture.safetyEpoch = s.coordinator.safetyEpoch ∧ epochCapture s.history = some capture
  input : lastInput s.history =
    s.coordinator.latestInputPose.map fun pose => (s.coordinator.latestInputSequence, pose)
  known : s.coordinator.mode.inEpoch = true → s.coordinator.latestInputPose.isSome = true
  still : ∀ capture ∈ epochCapture s.history,
    (sinceEpoch s.history).filterMap CoordinatorEntry.input? = [] →
      s.coordinator.latestInputPose = some capture.inputReference
  target : s.coordinator.lastTargetSequence = lastTarget s.history
  bounded : ∀ sequence ∈ (sinceEpoch s.history).filterMap CoordinatorEntry.target?,
    sequence ≤ s.coordinator.lastTargetSequence
  frozen : s.coordinator.mode = .controlledBraking ∨ s.coordinator.mode = .stoppedReady →
    s.coordinator.frozenSourceSequence = s.coordinator.lastTargetSequence
  tracking : s.coordinator.mode.isTracking = true →
    latest CoordinatorEntry.tracking? s.history = some true
  stopped : s.coordinator.mode = .hardStopped ↔ HardStopped s.history
  found : Whenever Found s.history

omit [Double δ] in
theorem inEpoch_of_isTracking {mode : EngagementMode} (h : mode.isTracking = true) :
    mode.inEpoch = true := by
  cases mode <;> first | rfl | exact absurd h (by decide)

namespace CoordinatorRun.Kept

variable {s : CoordinatorRun δ}

theorem init : (CoordinatorRun.init : CoordinatorRun δ).Kept where
  epoch := rfl
  capture h := absurd h nofun
  input := rfl
  known h := absurd h nofun
  still _ h := absurd h nofun
  target := rfl
  bounded _ h := absurd h nofun
  frozen h := by rcases h with h | h <;> exact absurd h nofun
  tracking h := absurd h nofun
  stopped := iff_of_false nofun nofun
  found := whenever_nil

theorem record (hs : s.Kept) {call : CoordinatorCall δ} {c' : EngagementCoordinator δ}
    (he : (CoordinatorEntry.mk call c').epochStart? = none)
    (hepoch : c'.safetyEpoch = s.coordinator.safetyEpoch)
    (hcapture : c'.mode.inEpoch = true → s.coordinator.mode.inEpoch = true ∧
      c'.capture = s.coordinator.capture)
    (hinput : (CoordinatorEntry.mk call c').input?.or (lastInput s.history) =
      c'.latestInputPose.map fun pose => (c'.latestInputSequence, pose))
    (hpose : s.coordinator.latestInputPose.isSome = true → c'.latestInputPose.isSome = true)
    (hstill : (CoordinatorEntry.mk call c').input? = none →
      c'.latestInputPose = s.coordinator.latestInputPose)
    (htarget : c'.lastTargetSequence = ((CoordinatorEntry.mk call c').target?.or
      (latest CoordinatorEntry.target? (sinceEpoch s.history))).getD 0)
    (hbounded : s.coordinator.lastTargetSequence ≤ c'.lastTargetSequence)
    (hfrozen : c'.mode = .controlledBraking ∨ c'.mode = .stoppedReady →
      c'.frozenSourceSequence = c'.lastTargetSequence)
    (htracking : c'.mode.isTracking = true → (CoordinatorEntry.mk call c').tracking?.or
      (latest CoordinatorEntry.tracking? s.history) = some true)
    (hstopped : c'.mode = .hardStopped ↔ (CoordinatorEntry.mk call c').stopped?.or
      (latest CoordinatorEntry.stopped? s.history) = some true)
    (hfound : Found ⟨call, c'⟩ s.history) :
    (CoordinatorRun.mk c' (⟨call, c'⟩ :: s.history)).Kept := by
  generalize hentry : CoordinatorEntry.mk call c' = entry at *
  have hsince : sinceEpoch (entry :: s.history) = entry :: sinceEpoch s.history := by
    simp [sinceEpoch_cons, he]
  have hsame : epochCapture (entry :: s.history) = epochCapture s.history := by
    rw [epochCapture_cons, he]
    rfl
  refine ⟨?_, fun hm => ?_, ?_, fun hm => ?_, fun capture hlast hnone => ?_, ?_, fun t ht => ?_,
    hfrozen, fun hm => ?_, ?_, ?_⟩
  · simp [hepoch, hs.epoch, epochs_cons, he]
  · obtain ⟨hbefore, heq⟩ := hcapture hm
    rw [heq, hepoch, hsame]
    exact hs.capture hbefore
  · rw [lastInput_cons]
    exact hinput
  · exact hpose (hs.known (hcapture hm).1)
  · dsimp only at hlast hnone ⊢
    rw [hsame] at hlast
    rw [hsince] at hnone
    cases hi : entry.input? with
    | none =>
      rw [List.filterMap_cons_none hi] at hnone
      rw [hstill hi]
      exact hs.still capture hlast hnone
    | some input =>
      rw [List.filterMap_cons_some hi] at hnone
      exact absurd hnone nofun
  · rw [lastTarget, hsince, latest_cons]
    exact htarget
  · dsimp only at ht
    rw [hsince] at ht
    cases hi : entry.target? with
    | none =>
      rw [List.filterMap_cons_none hi] at ht
      exact (hs.bounded t ht).trans hbounded
    | some target =>
      rw [List.filterMap_cons_some hi] at ht
      rcases List.mem_cons.mp ht with rfl | ht
      · rw [hi] at htarget
        exact htarget.ge
      · exact (hs.bounded t ht).trans hbounded
  · rw [latest_cons]
    exact htracking hm
  · rw [HardStopped, latest_cons]
    exact hstopped
  · exact whenever_cons.mpr ⟨hfound, hs.found⟩

/-- **Step lemma.** Every call keeps the epochs apart. -/
theorem apply (hs : s.Kept) (call : CoordinatorCall δ) : (s.apply call).Kept := by
  have hmove := call_move s.coordinator call
  rw [CoordinatorRun.apply]
  obtain ⟨c, h⟩ := s
  dsimp only at hmove ⊢
  generalize (c.call call).1 = result at hmove ⊢
  generalize (c.call call).2 = c' at hmove ⊢
  have hstopped : c.mode = .hardStopped ↔ latest CoordinatorEntry.stopped? h = some true :=
    hs.stopped
  have hepoch {capture : EngagementCapture δ} (hc : epochCapture h = some capture) :
      (epochCapture h).isSome = true := by
    rw [hc]
    rfl
  cases hmove with
  | refused call hr count =>
    rw [if_neg hr]
    exact ⟨hs.epoch, hs.capture, hs.input, hs.known, hs.still, hs.target, hs.bounded, hs.frozen,
      hs.tracking, hs.stopped, hs.found⟩
  | initialized measured hm =>
    rw [if_pos rfl]
    refine hs.record rfl rfl nofun hs.input id (fun _ => rfl) hs.target le_rfl ?_ nofun ?_ trivial
    · rintro (h | h) <;> exact absurd h nofun
    · exact iff_of_false nofun fun hlast => absurd (hm.symm.trans (hstopped.mpr hlast)) nofun
  | observed sequence pose count =>
    rw [if_pos rfl]
    exact hs.record rfl rfl (fun hm => ⟨hm, rfl⟩) rfl (fun _ => rfl) nofun hs.target le_rfl
      hs.frozen hs.tracking hs.stopped trivial
  | completed hm =>
    rw [if_pos rfl]
    refine hs.record rfl rfl (fun _ => ⟨?_, rfl⟩) hs.input id (fun _ => rfl) hs.target le_rfl
      ?_ (fun _ => rfl) ?_ trivial
    · show c.mode.inEpoch = true
      rw [hm]
      rfl
    · rintro (h | h) <;> exact absurd h nofun
    · exact iff_of_false nofun fun hlast => absurd (hm.symm.trans (hstopped.mpr hlast)) nofun
  | noted sequence accepted hm hlt ht =>
    rw [if_pos rfl]
    have hin := inEpoch_of_isTracking hm
    refine hs.record rfl rfl (fun _ => ⟨hin, rfl⟩) hs.input id (fun _ => rfl) rfl hlt.le ?_
      (fun _ => hs.tracking hm) ?_ ?_
    · dsimp only
      rintro (h | h) <;> rw [h] at ht <;> exact absurd ht (by decide)
    · refine iff_of_false (fun h => ?_) fun hlast => ?_
      · dsimp only at h
        rw [h] at ht
        exact absurd ht (by decide)
      · rw [hstopped.mpr hlast] at hm
        exact absurd hm (by decide)
    · obtain ⟨capture, -, -, hlast⟩ := hs.capture hin
      exact ⟨hs.epoch, ⟨hepoch hlast, hs.tracking hm⟩, fun t ht => (hs.bounded t ht).trans_lt hlt⟩
  | released hm =>
    rw [if_pos rfl]
    refine hs.record rfl rfl (fun _ => ⟨inEpoch_of_isTracking hm, rfl⟩) hs.input id (fun _ => rfl)
      hs.target le_rfl (fun _ => rfl) nofun ?_ trivial
    refine iff_of_false nofun fun hlast => ?_
    rw [hstopped.mpr hlast] at hm
    exact absurd hm (by decide)
  | braked hm =>
    rw [if_pos rfl]
    refine hs.record rfl rfl (fun _ => ⟨?_, rfl⟩) hs.input id (fun _ => rfl) hs.target le_rfl
      (fun _ => hs.frozen (.inl hm)) nofun ?_ trivial
    · show c.mode.inEpoch = true
      rw [hm]
      rfl
    · exact iff_of_false nofun fun hlast => absurd (hm.symm.trans (hstopped.mpr hlast)) nofun
  | stopped =>
    rw [if_pos rfl]
    refine hs.record rfl rfl nofun hs.input id (fun _ => rfl) hs.target le_rfl ?_ nofun
      (iff_of_true rfl rfl) trivial
    rintro (h | h) <;> exact absurd h nofun
  | begun measured nowNs hm hp =>
    rename_i pose
    rw [if_pos rfl]
    have hcount : c.safetyEpoch = epochs h := hs.epoch
    exact
      { epoch := by simp [epochs_cons, CoordinatorEntry.epochStart?, hcount]
        capture := fun _ => ⟨_, rfl, rfl, rfl⟩
        input := hs.input
        known := fun _ => by simp [hp]
        still := by
          rintro _ ⟨⟩ _
          exact hp
        target := rfl
        bounded := nofun
        frozen := by rintro (h | h) <;> exact absurd h nofun
        tracking := nofun
        stopped := iff_of_false nofun fun hlast => hm (hstopped.mpr hlast)
        found := by
          refine whenever_cons.mpr ⟨⟨c.latestInputSequence, pose, ?_, ?_⟩, hs.found⟩
          · rw [hs.input]
            exact congrArg (Option.map _) hp
          · rw [← hcount] }
  | reset measured hm hv =>
    rw [if_pos rfl]
    have hcount : c.safetyEpoch = epochs h := hs.epoch
    exact
      { epoch := by simp [epochs_cons, CoordinatorEntry.epochStart?, hcount]
        capture := nofun
        input := hs.input
        known := nofun
        still := nofun
        target := rfl
        bounded := nofun
        frozen := by rintro (h | h) <;> exact absurd h nofun
        tracking := nofun
        stopped := iff_of_false nofun nofun
        found := whenever_cons.mpr ⟨⟨hstopped.mp hm, hv⟩, hs.found⟩ }

/-- What the calls maintain says that the epochs are kept apart. -/
theorem isolation (hs : s.Kept) : EpochIsolation s where
  epoch := hs.epoch
  capture := hs.capture
  frozen h := (hs.frozen h).trans hs.target
  stopped := hs.stopped
  relative := by
    intro hm
    have hin := inEpoch_of_isTracking hm
    obtain ⟨capture, hcapture, -, hlast⟩ := hs.capture hin
    obtain ⟨pose, hpose⟩ := Option.isSome_iff_exists.mp (hs.known hin)
    refine ⟨capture, s.coordinator.latestInputSequence, pose, hcapture, ?_, ?_, fun hnone => ?_⟩
    · rw [hs.input, hpose]
      rfl
    · simp [EngagementCoordinator.relativePose, hm, hcapture, hpose]
    · exact Option.some.inj (hpose.symm.trans (hs.still capture hlast hnone))
  found := hs.found

end CoordinatorRun.Kept

/-! ## Runs -/

/-- The calls that start an epoch when they return `OK`. -/
def CoordinatorCall.startsEpoch : CoordinatorCall δ → Bool
  | .beginEngagement _ _ => true
  | .resetHardStop _ => true
  | .initializeDisengaged _ => false
  | .observeInput _ _ => false
  | .completeEngagement => false
  | .noteTarget _ _ _ => false
  | .requestRelease => false
  | .brakingComplete => false
  | .hardStop => false

/-- `safety_epoch` grows by one with every call that starts an epoch. -/
theorem call_safetyEpoch (c : EngagementCoordinator δ) (call : CoordinatorCall δ) :
    (c.call call).2.safetyEpoch =
      c.safetyEpoch + if (c.call call).1 = .ok ∧ call.startsEpoch = true then 1 else 0 := by
  have hmove := call_move c call
  generalize (c.call call).1 = result at hmove ⊢
  generalize (c.call call).2 = c' at hmove ⊢
  cases hmove with
  | refused call hr count =>
    rw [if_neg fun h => hr h.1]
    exact (add_zero _).symm
  | begun measured nowNs hm hp => rfl
  | reset measured hm hv => rfl
  | _ => exact (add_zero _).symm

/-- **Main theorem.** In every run the epochs are kept apart, and `safety_epoch`
    grows by one when one starts. In real arithmetic the pose of the reference
    relative to itself is the identity if its quaternion is a unit. -/
theorem epoch_isolation (calls : List (CoordinatorCall δ)) :
    let s := run CoordinatorRun.apply .init calls
    EpochIsolation s ∧
      (∀ call, (s.coordinator.call call).2.safetyEpoch = s.coordinator.safetyEpoch +
        if (s.coordinator.call call).1 = .ok ∧ call.startsEpoch = true then 1 else 0) ∧
      ∀ pose : SpatialPose ℝ, pose.relativeTo pose = ⟨⟨0, 0, 0⟩,
        ⟨pose.orientationWxyz.w ^ 2 + pose.orientationWxyz.x ^ 2 + pose.orientationWxyz.y ^ 2 +
          pose.orientationWxyz.z ^ 2, 0, 0, 0⟩⟩ := by
  intro s
  have hkept : s.Kept := run_invariant (P := CoordinatorRun.Kept)
    (fun s call hs => hs.apply call) .init calls
  exact ⟨hkept.isolation, call_safetyEpoch s.coordinator, relativeTo_self⟩

/-! ## Counterexample -/

/-- No relative motion. -/
def identityPose : RelativePose ℚ := ⟨⟨0, 0, 0⟩, ⟨1, 0, 0, 0⟩⟩

/-- The calls of an engagement whose reference has the quaternion `w`. -/
def engagement (w : ℚ) : List (CoordinatorCall ℚ) :=
  [.initializeDisengaged ⟨1, 0, [0], [0], [0], true⟩,
    .observeInput 1 ⟨⟨0, 0, 0⟩, ⟨w, 0, 0, 0⟩⟩,
    .beginEngagement ⟨1, 0, [0], [0], [0], true⟩ 0, .completeEngagement]

/-- The relative pose is the identity again when a newer input has the pose of the
    reference, and is never one for a reference that is not a unit. -/
theorem relative_pose_recurs :
    (¬∀ calls : List (CoordinatorCall ℚ), let s := run CoordinatorRun.apply .init calls
      s.coordinator.mode.isTracking = true → (s.coordinator.relativePose = some identityPose ↔
        (sinceEpoch s.history).filterMap CoordinatorEntry.input? = [])) ∧
    ¬∀ calls : List (CoordinatorCall ℚ), let s := run CoordinatorRun.apply .init calls
      s.coordinator.mode.isTracking = true →
        (sinceEpoch s.history).filterMap CoordinatorEntry.input? = [] →
          s.coordinator.relativePose = some identityPose := by
  constructor
  · intro h
    have hrecurs := h (engagement 1 ++ [.observeInput 2 ⟨⟨0, 0, 0⟩, ⟨1, 0, 0, 0⟩⟩])
      (by decide +kernel)
    exact absurd hrecurs (by decide +kernel)
  · intro h
    exact absurd (h (engagement 2) (by decide +kernel) (by decide +kernel)) (by decide +kernel)

end HandLab.Engagement
