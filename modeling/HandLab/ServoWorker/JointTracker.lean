import HandLab.Lib.ThirdOrder
import HandLab.Resampler.Servo

/-!
# The jerk-bounded joint tracker

`JerkBoundedJointTracker` of `native/jaka_servo_worker/main.cpp` (lines 1889–1945),
which the bounded modes of the worker follow their inverse kinematics with. Its
joints take the steps of the third-order law one after the other, and the first one
beyond its soft limit throws.

* `update_follows`: an update that returns is a step of the law on every joint.
* `updates_chain`: the run of a joint, as far as the updates return.
-/

namespace HandLab.ServoWorker

open HandLab.Lib Double
open HandLab.Resampler (Joints jointLower jointUpper ofUnsigned)

variable {δ : Type*}

/-- What the tracker reads of `Options`. -/
structure TrackerOptions (δ : Type*) where
  servoPeriodNs : UInt64
  jointVelocityLimitRadS : δ
  jointAccelerationLimitRadS2 : δ
  jointJerkLimitRadS3 : δ
  jointSoftMarginRad : δ

/-- What the tracker throws. -/
inductive TrackerError
  /-- `joint tracker is not initialized` -/
  | notInitialized
  /-- `joint trajectory crossed soft-limit envelope` -/
  | softLimit
  deriving DecidableEq, Repr

/-- `JerkBoundedJointTracker`. -/
structure JerkBoundedJointTracker (δ : Type*) where
  position : Joints δ
  velocity : Joints δ
  acceleration : Joints δ
  initialized : Bool
  maximumVelocity : δ
  maximumAcceleration : δ
  maximumJerk : δ

section Update

variable [Double δ]

/-- `std::clamp(value, -limit, limit)`. -/
def clampTo (limit value : δ) : δ := clamp value (sub zero limit) limit

namespace TrackerOptions

variable (o : TrackerOptions δ)

/-- `dt`. -/
def dt : δ := div (ofUnsigned o.servoPeriodNs) (ofRat (10 ^ 9))

/-- `frequency`. -/
def frequency : δ :=
  min (ofRat 4) (div o.jointAccelerationLimitRadS2 o.jointVelocityLimitRadS)

/-- `desired_velocity` for an error. -/
def desiredVelocity (error : δ) : δ :=
  clampTo o.jointVelocityLimitRadS (mul o.frequency error)

/-- `acceleration_[joint]` after the update of a joint. -/
def nextAcceleration (error velocity acceleration : δ) : δ :=
  let desiredAcceleration := clampTo o.jointAccelerationLimitRadS2
    (div (sub (o.desiredVelocity error) velocity) o.dt)
  let accelerationStep := clampTo (mul o.jointJerkLimitRadS3 o.dt)
    (sub desiredAcceleration acceleration)
  clampTo o.jointAccelerationLimitRadS2 (add acceleration accelerationStep)

/-- `velocity_[joint]` after that. -/
def nextVelocity (velocity acceleration : δ) : δ :=
  clampTo o.jointVelocityLimitRadS (add velocity (mul acceleration o.dt))

def outsideSoftLimits (joint : Fin 6) (position : δ) : Bool :=
  lt position (add (jointLower joint) o.jointSoftMarginRad) ||
    lt (sub (jointUpper joint) o.jointSoftMarginRad) position

end TrackerOptions

namespace JerkBoundedJointTracker

variable (o : TrackerOptions δ) (t : JerkBoundedJointTracker δ)

/-- The constructor. -/
def construct : JerkBoundedJointTracker δ where
  position := fun _ => zero
  velocity := fun _ => zero
  acceleration := fun _ => zero
  initialized := false
  maximumVelocity := zero
  maximumAcceleration := zero
  maximumJerk := zero

/-- `reset`. -/
def reset (position : Joints δ) : JerkBoundedJointTracker δ :=
  { t with
    position
    velocity := fun _ => zero
    acceleration := fun _ => zero
    initialized := true }

/-- The body of the loop of `update`. -/
def updateJoint (target : Joints δ) (joint : Fin 6) :
    Except TrackerError (JerkBoundedJointTracker δ) :=
  let acceleration := o.nextAcceleration (sub (target joint) (t.position joint))
    (t.velocity joint) (t.acceleration joint)
  let velocity := o.nextVelocity (t.velocity joint) acceleration
  let position := add (t.position joint) (mul velocity o.dt)
  if o.outsideSoftLimits joint position then .error .softLimit
  else .ok
    { t with
      position := Function.update t.position joint position
      velocity := Function.update t.velocity joint velocity
      acceleration := Function.update t.acceleration joint acceleration
      maximumVelocity := max t.maximumVelocity (abs velocity)
      maximumAcceleration := max t.maximumAcceleration (abs acceleration)
      maximumJerk :=
        max t.maximumJerk (div (abs (sub acceleration (t.acceleration joint))) o.dt) }

/-- `update`; the tracker that a throw leaves is not used again. -/
def update (target : Joints δ) : Except TrackerError (JerkBoundedJointTracker δ) :=
  if !t.initialized then .error .notInitialized
  else (List.finRange 6).foldlM (fun t joint => t.updateJoint o target joint) t

/-- The trackers after the updates with successive targets, until one throws. -/
def updates : JerkBoundedJointTracker δ → List (Joints δ) → List (JerkBoundedJointTracker δ)
  | _, [] => []
  | t, target :: targets =>
    match t.update o target with
    | .error _ => []
    | .ok next => next :: updates next targets

/-- The positions that the updates emit for a joint. -/
def emitted (targets : List (Joints δ)) (joint : Fin 6) : List δ :=
  (updates o t targets).map fun next => next.position joint

end JerkBoundedJointTracker

end Update

/-! ## In exact arithmetic -/

section Exact

variable [Double δ] [Field δ] [LinearOrder δ] [IsStrictOrderedRing δ] [Exact δ]

theorem clampTo_eq {limit : δ} (h : 0 ≤ limit) (value : δ) :
    clampTo limit value = saturate limit value := by
  rw [clampTo, Exact.sub_eq, Exact.zero_eq, zero_sub, Exact.clamp_eq (neg_le_self h), saturate]

/-- The limits and the period that `parse_options` requires of the bounded modes. -/
structure TrackerOptions.Positive (o : TrackerOptions δ) : Prop where
  velocity : 0 < o.jointVelocityLimitRadS
  acceleration : 0 < o.jointAccelerationLimitRadS2
  jerk : 0 < o.jointJerkLimitRadS3
  period : 0 < o.servoPeriodNs

theorem TrackerOptions.Positive.dt_pos {o : TrackerOptions δ} (h : o.Positive) : 0 < o.dt := by
  unfold TrackerOptions.dt ofUnsigned
  rw [Exact.div_eq, Exact.ofRat_eq, Exact.ofRat_eq]
  have hperiod : 0 < o.servoPeriodNs.toNat := UInt64.lt_iff_toNat_lt.mp h.period
  push_cast
  positivity

/-- The limits of the law. -/
def TrackerOptions.limits (o : TrackerOptions δ) (h : o.Positive) : MotionLimits δ where
  velocity := o.jointVelocityLimitRadS
  acceleration := o.jointAccelerationLimitRadS2
  jerk := o.jointJerkLimitRadS3
  dt := o.dt
  velocity_pos := h.velocity
  acceleration_pos := h.acceleration
  jerk_pos := h.jerk
  dt_pos := h.dt_pos

namespace JerkBoundedJointTracker

variable {o : TrackerOptions δ} {t t' : JerkBoundedJointTracker δ} {target : Joints δ}

/-- The motion of a joint. -/
def axis (t : JerkBoundedJointTracker δ) (joint : Fin 6) : AxisMotion δ :=
  ⟨t.position joint, t.velocity joint, t.acceleration joint⟩

/-- The body of the loop is a step of the law on its joint. -/
theorem updateJoint_follows (ho : o.Positive) {joint : Fin 6}
    (h : t.updateJoint o target joint = .ok t') :
    (o.limits ho).Follows (t.axis joint) (t'.axis joint) ∧
      (∀ other, other ≠ joint → t'.axis other = t.axis other) := by
  unfold updateJoint at h
  dsimp only at h
  split at h
  · cases h
  cases h
  have hjerk : 0 ≤ o.jointJerkLimitRadS3 * o.dt := (mul_pos ho.jerk ho.dt_pos).le
  constructor
  · refine ⟨o.desiredVelocity (sub (target joint) (t.position joint)), ?_, ?_⟩
    · unfold TrackerOptions.desiredVelocity
      rw [clampTo_eq ho.velocity.le]
      exact abs_saturate_le ho.velocity.le _
    · unfold axis MotionLimits.advance MotionLimits.accelerate TrackerOptions.nextVelocity
        TrackerOptions.nextAcceleration TrackerOptions.limits
      simp only [Function.update_self, clampTo_eq ho.velocity.le, clampTo_eq ho.acceleration.le,
        Exact.mul_eq, clampTo_eq hjerk, Exact.add_eq, Exact.sub_eq, Exact.div_eq]
  · intro other hother
    unfold axis
    simp only [Function.update_of_ne hother]

theorem updateJoints_follow (ho : o.Positive) {joints : List (Fin 6)} (hnodup : joints.Nodup)
    (h : joints.foldlM (fun t joint => t.updateJoint o target joint) t = .ok t') :
    (∀ joint ∈ joints, (o.limits ho).Follows (t.axis joint) (t'.axis joint)) ∧
      ∀ joint ∉ joints, t'.axis joint = t.axis joint := by
  induction joints generalizing t with
  | nil =>
    cases h
    exact ⟨fun joint hjoint => (List.not_mem_nil hjoint).elim, fun _ _ => rfl⟩
  | cons first joints ih =>
    obtain ⟨hfirst, hnodup⟩ := List.nodup_cons.mp hnodup
    rw [List.foldlM_cons] at h
    cases hstep : t.updateJoint o target first with
    | error error =>
      rw [hstep] at h
      cases h
    | ok next =>
      rw [hstep] at h
      obtain ⟨hfollows, hkept⟩ := updateJoint_follows ho hstep
      obtain ⟨hrest, hrestKept⟩ := ih hnodup h
      constructor
      · intro joint hjoint
        rcases List.mem_cons.mp hjoint with rfl | hjoint
        · rw [hrestKept joint hfirst]
          exact hfollows
        · have hne : joint ≠ first := fun heq => hfirst (heq ▸ hjoint)
          rw [← hkept joint hne]
          exact hrest joint hjoint
      · intro joint hjoint
        rw [List.mem_cons, not_or] at hjoint
        rw [hrestKept joint hjoint.2, hkept joint hjoint.1]

/-- **An update that returns** is a step of the law on every joint. -/
theorem update_follows (ho : o.Positive) (h : t.update o target = .ok t') (joint : Fin 6) :
    (o.limits ho).Follows (t.axis joint) (t'.axis joint) := by
  unfold update at h
  split at h
  · cases h
  · exact (updateJoints_follow ho (List.nodup_finRange 6) h).1 joint (List.mem_finRange joint)

/-- The run of a joint, until an update throws. -/
theorem updates_chain (ho : o.Positive) (t : JerkBoundedJointTracker δ)
    (targets : List (Joints δ)) (joint : Fin 6) :
    (t.axis joint :: (updates o t targets).map fun next => next.axis joint).IsChain
      (o.limits ho).Follows := by
  induction targets generalizing t with
  | nil => exact List.isChain_singleton _
  | cons target targets ih =>
    unfold updates
    split
    · exact List.isChain_singleton _
    · rename_i next hnext
      rw [List.map_cons, List.isChain_cons_cons]
      exact ⟨update_follows ho hnext joint, ih next⟩

omit [Exact δ] [IsStrictOrderedRing δ] [LinearOrder δ] [Field δ] in
theorem emitted_eq (t : JerkBoundedJointTracker δ)
    (targets : List (Joints δ)) (joint : Fin 6) :
    emitted o t targets joint =
      ((updates o t targets).map fun next => next.axis joint).map AxisMotion.position := by
  rw [List.map_map]
  rfl

/-- The run of a joint after a reset. -/
theorem emitted_chain (ho : o.Positive) (t : JerkBoundedJointTracker δ) (position : Joints δ)
    (targets : List (Joints δ)) (joint : Fin 6) :
    (MotionLimits.rest (position joint) ::
      (updates o (t.reset position) targets).map fun next => next.axis joint).IsChain
      (o.limits ho).Follows := by
  have hrest : (t.reset position).axis joint = MotionLimits.rest (position joint) := by
    unfold axis reset MotionLimits.rest
    simp
  rw [← hrest]
  exact updates_chain ho (t.reset position) targets joint

/-- **What the tracker emits** after a reset keeps its bounds exactly if it leaves
    slack. -/
theorem emitted_keepsBounds_iff (ho : o.Positive) (t : JerkBoundedJointTracker δ)
    (position : Joints δ) (targets : List (Joints δ)) (joint : Fin 6) :
    (o.limits ho).KeepsBounds (position joint) (emitted o (t.reset position) targets joint) ↔
      (o.limits ho).LeavesSlack (position joint)
        (emitted o (t.reset position) targets joint) := by
  rw [emitted_eq]
  exact MotionLimits.keepsBounds_iff (emitted_chain ho t position targets joint)

end JerkBoundedJointTracker

end Exact

end HandLab.ServoWorker
