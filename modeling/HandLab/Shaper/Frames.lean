import HandLab.Shaper.Reference

/-!
# What the loops of the shaper keep

The loops of a tick and the planners change some members and leave the others alone
(`trackAxes_frame` to `planStop_frame`).
-/

namespace HandLab.Shaper

open HandLab.Lib HandLab.CommandAbi

variable {δ : Type*} [CMath δ]

namespace ReferenceJointShaperV1

/-! ## Frames -/

section Frames

variable (s : ReferenceJointShaperV1 δ)

/-- The loops of a tick change the motion and the plans. -/
def WithMotion (s' : ReferenceJointShaperV1 δ) : Prop := s' = { s with
  position := s'.position
  velocity := s'.velocity
  acceleration := s'.acceleration
  brake := s'.brake }

variable {s} in
omit [CMath δ] in
theorem WithMotion.trans {s' s'' : ReferenceJointShaperV1 δ} (h : s.WithMotion s')
    (h' : s'.WithMotion s'') : s.WithMotion s'' := by
  unfold WithMotion at h h' ⊢
  rw [h', h]

theorem trackAxes_frame (l : List (Fin 8)) : s.WithMotion (trackAxes l s).1 := by
  induction l generalizing s with
  | nil => rfl
  | cons i rest ih =>
    have hset (a : AxisState δ) : s.WithMotion (s.setAxis i a) := rfl
    rw [trackAxes]
    split_ifs
    · exact (hset _).trans (ih _)
    · exact hset _

theorem brakeAxes_frame (l : List (Fin 8)) : s.WithMotion (brakeAxes l s).1 := by
  induction l generalizing s with
  | nil => rfl
  | cons i rest ih =>
    have hset (plan : BrakeAxis δ) (a : AxisState δ) :
        s.WithMotion ((s.setBrake i plan).setAxis i a) := rfl
    rw [brakeAxes]
    split_ifs
    · exact hset _ _
    · exact (hset _ _).trans (ih _)

/-- The planners change the plans and what is recorded of them. -/
def WithPlans (s' : ReferenceJointShaperV1 δ) : Prop := s' = { s with
  brake := s'.brake
  brakePlanningFailure := s'.brakePlanningFailure
  brakePlanningFailureAxis := s'.brakePlanningFailureAxis
  accelerationNeutralizationAxisCount := s'.accelerationNeutralizationAxisCount }

variable {s} in
omit [CMath δ] in
theorem WithPlans.trans {s' s'' : ReferenceJointShaperV1 δ} (h : s.WithPlans s')
    (h' : s'.WithPlans s'') : s.WithPlans s'' := by
  unfold WithPlans at h h' ⊢
  rw [h', h]

theorem neutralizeAxis_frame (i : Fin 8) : s.WithPlans (s.neutralizeAxis i).1 := by
  unfold neutralizeAxis
  extract_lets planned
  split <;> rfl

theorem planAxes_frame (l : List (Fin 8)) : s.WithPlans (planAxes l s).1 := by
  induction l generalizing s with
  | nil => rfl
  | cons i rest ih =>
    have hset (plan : BrakeAxis δ) : s.WithPlans (s.setBrake i plan) := rfl
    have hneutralized (plan : BrakeAxis δ) :
        s.WithPlans ((s.setBrake i plan).neutralizeAxis i).1 :=
      (hset plan).trans (neutralizeAxis_frame _ i)
    have hcount (s' : ReferenceJointShaperV1 δ) : s'.WithPlans s'.countNeutralized := rfl
    rw [planAxes]
    dsimp only
    split_ifs
    · exact (hset _).trans (ih _)
    · exact hneutralized _
    · exact (hneutralized _).trans ((hcount _).trans (ih _))

theorem synchronizeAxes_frame (durationS : δ) (l : List (Fin 8)) :
    s.WithPlans (synchronizeAxes durationS l s).1 := by
  induction l generalizing s with
  | nil => rfl
  | cons i rest ih =>
    have hset (plan : BrakeAxis δ) : s.WithPlans (s.setBrake i plan) := rfl
    rw [synchronizeAxes]
    dsimp only
    split_ifs
    · exact ih s
    · exact (hset _).trans (ih _)
    · exact hset _

theorem neutralizeAxes_frame (l : List (Fin 8)) : s.WithPlans (neutralizeAxes l s).1 := by
  induction l generalizing s with
  | nil => rfl
  | cons i rest ih =>
    have hneutralized : s.WithPlans (s.neutralizeAxis i).1 := s.neutralizeAxis_frame i
    have hcount (s' : ReferenceJointShaperV1 δ) : s'.WithPlans s'.countNeutralized := rfl
    rw [neutralizeAxes]
    split_ifs
    · exact hneutralized
    · exact hneutralized.trans ((hcount _).trans (ih _))
    · exact hneutralized.trans (ih _)

theorem planStop_frame : s.WithPlans s.planStop.1 := by
  unfold planStop
  extract_lets cleared planned
  have hcleared : s.WithPlans cleared := rfl
  have hplanned : s.WithPlans planned.1 := hcleared.trans (cleared.planAxes_frame _)
  split_ifs
  · exact hplanned
  unfold synchronizePlans
  split_ifs
  · exact hplanned
  extract_lets synchronized
  have hsynchronized : s.WithPlans synchronized.1 :=
    hplanned.trans (planned.1.synchronizeAxes_frame _ _)
  split_ifs
  · exact hsynchronized
  · have hcleared : synchronized.1.WithPlans
        { synchronized.1 with accelerationNeutralizationAxisCount := 0 } := rfl
    exact hsynchronized.trans (hcleared.trans (neutralizeAxes_frame _ _))

theorem hardStop_mode (reason : StopReason) (nowNs : ℤ) :
    (s.hardStop reason nowNs).mode = .hardStopped := by
  unfold hardStop
  split
  · assumption
  · rfl

end Frames

end ReferenceJointShaperV1

end HandLab.Shaper
