import HandLab.ServoWorker.ServoLoop

/-!
# The servo evaluation grid

The evaluation times of the command loop over whole runs, whatever the clock reads
and however late cycles start and complete.

* `Timed`: the clock does not go back, and a wait ends before its deadline only by a
  signal that sets `g_stop`.
* `evaluationTime_spec`: the evaluation time of one cycle.
* `cycle_sound`: what a pass of the loop keeps.
* `grid_iff`: the run lemma. Evaluation times are a servo period apart and never go
  back; they are in the past exactly if no commanding cycle began before its
  deadline.
* `interrupted_wait_ahead`: a signal during a wait lets the last cycle command a
  point that is not due yet.
-/

namespace HandLab.ServoWorker

open HandLab.Lib
open HandLab.Resampler (Joints)
open HandLab.Wire (TargetKind)

variable {δ : Type*}

/-! ## Statements -/

/-- An end of the loop because a time was before the last one. -/
def LoopEnd.movedBackwards : LoopEnd δ → Bool
  | .fault f => f.movedBackwards
  | _ => false

/-- The grid of the commanded cycles of a run: their evaluation times are a servo period
    apart, none lies ahead of the start of its cycle or is a tick that expired more than
    two milliseconds before it, and nothing is thrown because a time went back. -/
structure OnGrid (o : LoopOptions δ) (s : ServoLoop δ) : Prop where
  spaced : s.commanded.IsChain fun later earlier =>
    earlier.servoEvaluationTime.toNat + o.servoPeriodNs.toNat ≤ later.servoEvaluationTime.toNat
  causal : ∀ c ∈ s.commanded, c.servoEvaluationTime ≤ c.cycleStart
  fresh : ∀ c ∈ s.commanded, c.cycleStart.toNat ≤ c.servoEvaluationTime.toNat + 2000000
  forward : ∀ reason ∈ s.ended, reason.movedBackwards = false

/-- The readings of a cycle do not go back, as those of a signed 64-bit nanosecond clock;
    a wait that no signal interrupts ends at its deadline or later. -/
structure Timed (o : LoopOptions δ) (s : ServoLoop δ) (i : CycleInput δ) : Prop where
  start : s.clock ≤ i.cycleStart
  command : i.cycleStart ≤ i.commandStart
  finish : i.commandStart ≤ i.cycleEnd
  bounded : i.cycleEnd.toNat < 2 ^ 63
  waits : i.interrupted = false → s.deadline + o.servoPeriodNs ≤ i.cycleStart

instance (o : LoopOptions δ) (s : ServoLoop δ) (i : CycleInput δ) : Decidable (Timed o s i) :=
  decidable_of_iff (s.clock ≤ i.cycleStart ∧ i.cycleStart ≤ i.commandStart ∧
      i.commandStart ≤ i.cycleEnd ∧ i.cycleEnd.toNat < 2 ^ 63 ∧
      (i.interrupted = false → s.deadline + o.servoPeriodNs ≤ i.cycleStart))
    ⟨fun ⟨h1, h2, h3, h4, h5⟩ => ⟨h1, h2, h3, h4, h5⟩, fun h => ⟨h.1, h.2, h.3, h.4, h.5⟩⟩

/-! ## The invariant -/

/-- Between cycles of a loop that goes on, the next deadline counts from a time that is
    past, and no earlier than anything evaluated. -/
structure Scheduled (s : ServoLoop δ) : Prop where
  fault : s.servo.fault = none
  last_le : s.servo.output.resampler.lastServoTimeNs ≤ s.deadline
  deadline_le : s.deadline ≤ s.previous
  previous_le : s.previous ≤ s.clock
  bounded : s.clock.toNat < 2 ^ 63
  evaluated_le : ∀ c ∈ s.commanded.head?, c.servoEvaluationTime ≤ s.deadline

/-- What holds of the commanded cycles, newest first. -/
structure Recorded (o : LoopOptions δ) (cycles : List CommandedCycle) : Prop where
  spaced : cycles.IsChain fun later earlier =>
    earlier.servoEvaluationTime.toNat + o.servoPeriodNs.toNat ≤ later.servoEvaluationTime.toNat
  causal_iff : ∀ c ∈ cycles, c.servoEvaluationTime ≤ c.cycleStart ↔ c.deadline ≤ c.cycleStart
  fresh : ∀ c ∈ cycles, c.cycleStart.toNat ≤ c.servoEvaluationTime.toNat + 2000000

/-- What holds after every pass of the loop. -/
structure Sound (o : LoopOptions δ) (s : ServoLoop δ) : Prop where
  scheduled : s.ended = none → s.stop = false → Scheduled s
  recorded : Recorded o s.commanded
  forward : ∀ reason ∈ s.ended, reason.movedBackwards = false

section Timing

variable {o : LoopOptions δ} {s s' : ServoLoop δ} {i : CycleInput δ}

theorem servoPeriodNs_bounds (o : LoopOptions δ) :
    8000000 ≤ o.servoPeriodNs.toNat ∧ o.servoPeriodNs.toNat ≤ 128000000 := by
  obtain ⟨hlow, hhigh⟩ := o.stepNum_mem
  have hnat : o.servoPeriodNs.toNat = 8000000 * o.servoStepNum.toNat % 2 ^ 64 := by
    rw [LoopOptions.servoPeriodNs, UInt64.toNat_mul, UInt32.toNat_toUInt64]
    rfl
  rw [hnat, Nat.mod_eq_of_lt (by omega)]
  omega

/-- The next deadline. -/
theorem toNat_deadline (hs : Scheduled s) :
    (s.deadline + o.servoPeriodNs).toNat = s.deadline.toNat + o.servoPeriodNs.toNat := by
  have hperiod := servoPeriodNs_bounds o
  have hle := UInt64.le_iff_toNat_le.mp hs.deadline_le
  have hle' := UInt64.le_iff_toNat_le.mp hs.previous_le
  have hbounded := hs.bounded
  rw [UInt64.toNat_add]
  omega

/-- `s'` has the times and the record of `s`. -/
structure KeepsTimes (s s' : ServoLoop δ) : Prop where
  deadline : s'.deadline = s.deadline
  previous : s'.previous = s.previous
  clock : s'.clock = s.clock
  stop : s'.stop = s.stop
  commanded : s'.commanded = s.commanded
  ended : s'.ended = s.ended
  last : s'.servo.output.resampler.lastServoTimeNs = s.servo.output.resampler.lastServoTimeNs
  fault : s.servo.fault = none → s'.servo.fault = none

theorem KeepsTimes.trans {s'' : ServoLoop δ} (h : KeepsTimes s s') (h' : KeepsTimes s' s'') :
    KeepsTimes s s'' where
  deadline := h'.deadline.trans h.deadline
  previous := h'.previous.trans h.previous
  clock := h'.clock.trans h.clock
  stop := h'.stop.trans h.stop
  commanded := h'.commanded.trans h.commanded
  ended := h'.ended.trans h.ended
  last := h'.last.trans h.last
  fault := fun hs => h'.fault (h.fault hs)

theorem keepsTimes_updateGrace (o : LoopOptions δ) (s : ServoLoop δ) :
    KeepsTimes s (s.updateGrace o) := by
  unfold ServoLoop.updateGrace
  split_ifs <;> exact ⟨rfl, rfl, rfl, rfl, rfl, rfl, rfl, id⟩

theorem keepsTimes_rfl {s : ServoLoop δ} : KeepsTimes s s :=
  ⟨rfl, rfl, rfl, rfl, rfl, rfl, rfl, id⟩

/-- A stage of the cycle keeps the times, or ends the loop for another reason than one of
    them. -/
def Passes (s : ServoLoop δ) : Except (LoopEnd δ) (ServoLoop δ) → Prop
  | .ok s' => KeepsTimes s s'
  | .error reason => reason.movedBackwards = false

theorem classifyStart_passes (o : LoopOptions δ) (s : ServoLoop δ) (i : CycleInput δ) :
    Passes s (s.classifyStart o i) := by
  unfold ServoLoop.classifyStart
  dsimp only
  split_ifs
  all_goals first | exact rfl | exact ⟨rfl, rfl, rfl, rfl, rfl, rfl, rfl, id⟩

end Timing

/-! ## The packet -/

section Packet

variable [Double δ] {o : LoopOptions δ} {s s' : ServoLoop δ} {i : CycleInput δ}

omit [Double δ] in
theorem forward_map {error : Option (Resampler.ResamplerError δ)}
    (h : ∀ e ∈ error, movedBackwards e = false) :
    ∀ fault ∈ error.map OutputFault.ofResampler, fault.movedBackwards = false := by
  intro fault hfault
  obtain ⟨e, he, rfl⟩ := Option.mem_map.mp hfault
  exact (ofResampler_movedBackwards e).trans (h e he)

/-- A target or a hold. -/
theorem output_passes (hfault : s.servo.fault = none) {event : ServoEvent δ}
    (hevent : ∀ time commandStart dispatched, event ≠ .cycle time commandStart dispatched) :
    Passes s (s.output o event) := by
  have hstep : (s.servo.step o.toOutputOptions event).output.resampler.lastServoTimeNs =
        s.servo.output.resampler.lastServoTimeNs ∧
      ∀ fault ∈ (s.servo.step o.toOutputOptions event).fault, fault.movedBackwards = false := by
    unfold ServoRun.step
    rw [if_neg (by simp [hfault])]
    cases event with
    | accept destination acceptedNs sequence =>
      dsimp only
      obtain ⟨hlast, herror⟩ := accept_forward (r := s.servo.output.resampler) destination
        acceptedNs sequence
      generalize s.servo.output.resampler.accept destination acceptedNs sequence = result at *
      obtain ⟨resampler, error⟩ := result
      exact ⟨hlast, forward_map herror⟩
    | hold acceptedNs sequence =>
      dsimp only
      obtain ⟨hlast, herror⟩ := hold_forward (r := s.servo.output.resampler)
        s.servo.output.diagnostics.previousPosition acceptedNs sequence
      generalize s.servo.output.resampler.hold s.servo.output.diagnostics.previousPosition
        acceptedNs sequence = result at *
      obtain ⟨resampler, error⟩ := result
      exact ⟨hlast, forward_map herror⟩
    | cycle time commandStart dispatched => exact absurd rfl (hevent time commandStart dispatched)
  unfold ServoLoop.output
  dsimp only
  generalize s.servo.step o.toOutputOptions event = servo at *
  cases hresult : servo.fault with
  | some fault => exact hstep.2 fault hresult
  | none => exact ⟨rfl, rfl, rfl, rfl, rfl, rfl, hstep.1, fun _ => hresult⟩

omit [Double δ] in
/-- What a stage is told by the locals that hold no times. -/
theorem Passes.of_keepsTimes (hkeeps : KeepsTimes s s')
    {result : Except (LoopEnd δ) (ServoLoop δ)} (h : Passes s' result) : Passes s result := by
  cases result with
  | ok after => exact hkeeps.trans h
  | error reason => exact h

theorem receiveTarget_passes (hfault : s.servo.fault = none) (packet : ServoTarget δ) :
    Passes s (s.receiveTarget o packet) := by
  unfold ServoLoop.receiveTarget
  split_ifs
  · exact rfl
  · exact rfl
  · exact rfl
  · exact rfl
  · have hreceived : KeepsTimes s { s with firstExternalJointTargetReceived := true } :=
      ⟨rfl, rfl, rfl, rfl, rfl, rfl, rfl, id⟩
    exact (output_passes (hreceived.fault hfault) (by simp)).of_keepsTimes hreceived

theorem receivePacket_passes (hfault : s.servo.fault = none) (packet : ServoTarget δ) :
    Passes s (s.receivePacket o packet) := by
  unfold ServoLoop.receivePacket
  dsimp only
  have hreceived : KeepsTimes s
      { s with lastDispatch := packet.dispatchNs, everReceived := true } :=
    ⟨rfl, rfl, rfl, rfl, rfl, rfl, rfl, id⟩
  cases packet.kind with
  | stop => exact hreceived
  | heartbeat =>
    dsimp only
    split_ifs
    · exact rfl
    · exact hreceived
  | holdCurrent =>
    dsimp only
    split_ifs
    · exact rfl
    · exact (output_passes (hreceived.fault hfault) (by simp)).of_keepsTimes hreceived
  | jointPosition =>
    exact (receiveTarget_passes (hreceived.fault hfault) packet).of_keepsTimes hreceived
  | cartesianPose =>
    exact (receiveTarget_passes (hreceived.fault hfault) packet).of_keepsTimes hreceived

omit [Double δ] in
theorem checkReceived_forward {stopped : Bool} {reason : LoopEnd δ}
    (h : s.checkReceived o i stopped = some reason) : reason.movedBackwards = false := by
  unfold ServoLoop.checkReceived at h
  split_ifs at h
  all_goals
    cases h
    rfl

omit [Double δ] in
theorem checkReceived_passes {s' : ServoLoop δ} (hkeeps : KeepsTimes s s') (i : CycleInput δ)
    (stopped : Bool) : Passes s (match s'.checkReceived o i stopped with
      | some reason => .error reason
      | none => .ok s') := by
  cases hreceived : s'.checkReceived o i stopped with
  | some reason => exact checkReceived_forward hreceived
  | none => exact hkeeps

theorem receive_passes (hfault : s.servo.fault = none) : Passes s (s.receive o i) := by
  unfold ServoLoop.receive
  split
  · exact checkReceived_passes keepsTimes_rfl _ _
  · cases i.packet with
    | none => exact checkReceived_passes keepsTimes_rfl _ _
    | some packet =>
      dsimp only
      have hpacket := receivePacket_passes (o := o) hfault packet
      cases hresult : s.receivePacket o packet with
      | error reason =>
        rw [hresult] at hpacket
        exact hpacket
      | ok received =>
        rw [hresult] at hpacket
        exact checkReceived_passes hpacket _ _

end Packet

/-! ## One cycle -/

section Evaluation

variable {o : LoopOptions δ} {s w : ServoLoop δ} {i : CycleInput δ}

/-- **The evaluation time** of a cycle whose deadline is a period after `base`, where the
    cycle before it began no earlier than `base`. -/
theorem evaluationTime_spec {base : ℕ} (hdeadline : w.deadline.toNat = base + o.servoPeriodNs.toNat)
    (hbase : base ≤ w.previous.toNat) (hprevious : w.previous ≤ i.cycleStart) :
    w.deadline ≤ w.servoEvaluationTime i (w.startWarning o i) ∧
      (w.servoEvaluationTime i (w.startWarning o i) ≤ i.cycleStart ↔
        w.deadline ≤ i.cycleStart) ∧
      i.cycleStart.toNat ≤ (w.servoEvaluationTime i (w.startWarning o i)).toNat + 2000000 := by
  have hperiod := servoPeriodNs_bounds o
  have hstart : (w.startPeriod i).toNat = i.cycleStart.toNat - w.previous.toNat :=
    UInt64.toNat_sub_of_le _ _ hprevious
  have hthreshold : (o.servoPeriodNs + 800000).toNat = o.servoPeriodNs.toNat + 800000 := by
    rw [UInt64.toNat_add, show (800000 : UInt64).toNat = 800000 from rfl,
      Nat.mod_eq_of_lt (by omega)]
  have hlateness : (w.wakeLateness i).toNat = i.cycleStart.toNat - w.deadline.toNat := by
    unfold ServoLoop.wakeLateness
    split_ifs with hlt
    · exact UInt64.toNat_sub_of_le _ _ (UInt64.le_of_lt hlt)
    · have hle := UInt64.le_iff_toNat_le.mp (UInt64.not_lt.mp hlt)
      show 0 = _
      omega
  have htwo : (2000000 : UInt64).toNat = 2000000 := rfl
  have hwarning : w.startWarning o i = true ↔
      o.servoPeriodNs.toNat + 800000 < i.cycleStart.toNat - w.previous.toNat ∨
        2000000 < i.cycleStart.toNat - w.deadline.toNat := by
    simp only [ServoLoop.startWarning, Bool.or_eq_true, decide_eq_true_eq,
      UInt64.lt_iff_toNat_lt, hstart, hthreshold, hlateness, htwo]
  have hle := UInt64.le_iff_toNat_le.mp hprevious
  unfold ServoLoop.servoEvaluationTime
  simp only [UInt64.le_iff_toNat_le]
  by_cases hrealign : w.startWarning o i = true
  · have hlate := hwarning.mp hrealign
    rw [if_pos hrealign]
    omega
  · have htimely := mt hwarning.mpr hrealign
    rw [if_neg hrealign]
    omega

/-- What a completion leaves alone. -/
theorem complete_keeps (o : LoopOptions δ) (w : ServoLoop δ) (i : CycleInput δ) (realign : Bool) :
    (w.complete o i realign).servo = w.servo ∧
      (w.complete o i realign).commanded = w.commanded ∧
      (w.complete o i realign).stop = w.stop ∧
      ((w.complete o i realign).ended = w.ended ∨
        (w.complete o i realign).ended = some .hardCompletionTimingMiss) := by
  unfold ServoLoop.complete
  dsimp only
  split_ifs
  all_goals first | exact ⟨rfl, rfl, rfl, .inl rfl⟩ | exact ⟨rfl, rfl, rfl, .inr rfl⟩

/-- **The next deadline** counts from the evaluation time or later, but from no time that
    is still to come. -/
theorem complete_scheduled {realign : Bool} (hdeadline : w.deadline ≤ i.cycleStart)
    (hfinish : i.cycleStart ≤ i.cycleEnd)
    (hended : (w.complete o i realign).ended = none) :
    w.servoEvaluationTime i realign ≤ (w.complete o i realign).deadline ∧
      (w.complete o i realign).deadline ≤ (w.complete o i realign).previous ∧
      (w.complete o i realign).previous ≤ (w.complete o i realign).clock ∧
      (w.complete o i realign).clock = i.cycleEnd := by
  unfold ServoLoop.complete at hended ⊢
  dsimp only at hended ⊢
  cases hlateness : w.completesLate o i with
  | true =>
    simp only [hlateness, Bool.true_and, if_true] at hended ⊢
    split_ifs at hended ⊢ with hhard
    refine ⟨?_, UInt64.le_refl _, UInt64.le_refl _, rfl⟩
    unfold ServoLoop.servoEvaluationTime
    split_ifs
    · exact hfinish
    · exact UInt64.le_trans hdeadline hfinish
  | false =>
    simp only [hlateness, Bool.false_and, Bool.false_eq_true, if_false] at hended ⊢
    unfold ServoLoop.servoEvaluationTime
    cases realign with
    | true => exact ⟨UInt64.le_refl _, UInt64.le_refl _, hfinish, rfl⟩
    | false => exact ⟨UInt64.le_refl _, hdeadline, hfinish, rfl⟩

theorem Recorded.cons {cycles : List CommandedCycle} (hr : Recorded o cycles) {c : CommandedCycle}
    (hspaced : ∀ earlier ∈ cycles.head?,
      earlier.servoEvaluationTime.toNat + o.servoPeriodNs.toNat ≤ c.servoEvaluationTime.toNat)
    (hcausal : c.servoEvaluationTime ≤ c.cycleStart ↔ c.deadline ≤ c.cycleStart)
    (hfresh : c.cycleStart.toNat ≤ c.servoEvaluationTime.toNat + 2000000) :
    Recorded o (c :: cycles) := by
  refine ⟨List.isChain_cons.mpr ⟨hspaced, hr.spaced⟩, ?_, ?_⟩
  · intro d hd
    rcases List.mem_cons.mp hd with rfl | hd
    · exact hcausal
    · exact hr.causal_iff d hd
  · intro d hd
    rcases List.mem_cons.mp hd with rfl | hd
    · exact hfresh
    · exact hr.fresh d hd

theorem sound_of_ended {reason : LoopEnd δ} (hended : s.ended = some reason)
    (hrecorded : Recorded o s.commanded) (hforward : reason.movedBackwards = false) :
    Sound o s where
  scheduled h := absurd (hended.symm.trans h) nofun
  recorded := hrecorded
  forward := by
    rw [hended]
    rintro _ ⟨rfl⟩
    exact hforward

theorem complete_sound {realign : Bool} (hfault : w.servo.fault = none)
    (hlast : w.servo.output.resampler.lastServoTimeNs ≤ w.servoEvaluationTime i realign)
    (hevaluated : ∀ c ∈ w.commanded.head?,
      c.servoEvaluationTime ≤ w.servoEvaluationTime i realign)
    (hrecorded : Recorded o w.commanded) (hgoes : w.ended = none)
    (hwaited : w.stop = false → w.deadline ≤ i.cycleStart) (hfinish : i.cycleStart ≤ i.cycleEnd)
    (hbounded : i.cycleEnd.toNat < 2 ^ 63) : Sound o (w.complete o i realign) := by
  obtain ⟨hservo, hcommanded, hstop, hended⟩ := complete_keeps o w i realign
  refine ⟨fun hend hruns => ?_, hcommanded ▸ hrecorded, fun reason hreason => ?_⟩
  · obtain ⟨hdeadline, hprevious, hclock, hreading⟩ :=
      complete_scheduled (hwaited (hstop ▸ hruns)) hfinish hend
    refine ⟨hservo ▸ hfault, ?_, hprevious, hclock, hreading ▸ hbounded, fun c hc => ?_⟩
    · rw [hservo]
      exact UInt64.le_trans hlast hdeadline
    · rw [hcommanded] at hc
      exact UInt64.le_trans (hevaluated c hc) hdeadline
  · rcases hended with h | h
    · rw [h, hgoes] at hreason
      cases hreason
    · rw [h] at hreason
      cases hreason
      rfl

end Evaluation

section Cycle

variable [Double δ] {o : LoopOptions δ} {s w : ServoLoop δ} {i : CycleInput δ}

/-- **The command** of a cycle that has not ended the loop before. -/
theorem command_sound (hs : Sound o s) (hgoes : s.ended = none) (hruns : s.stop = false)
    (ht : Timed o s i) (hw : KeepsTimes (s.wait o i) w) :
    Sound o (w.command o i (w.startWarning o i)) := by
  have hsched := hs.scheduled hgoes hruns
  have hdeadline : w.deadline = s.deadline + o.servoPeriodNs := hw.deadline
  have hprevious : w.previous = s.previous := hw.previous
  have hcommanded : w.commanded = s.commanded := hw.commanded
  have hnext : w.deadline.toNat = s.deadline.toNat + o.servoPeriodNs.toNat := by
    rw [hdeadline, toNat_deadline hsched]
  obtain ⟨hahead, hcausal, hfresh⟩ := evaluationTime_spec hnext
    (hprevious ▸ UInt64.le_iff_toNat_le.mp hsched.deadline_le)
    (hprevious ▸ UInt64.le_trans hsched.previous_le ht.start)
  generalize hrealign : w.startWarning o i = realign at *
  have hahead' := UInt64.le_iff_toNat_le.mp hahead
  have hlast : w.servo.output.resampler.lastServoTimeNs ≤ w.servoEvaluationTime i realign := by
    have hold := UInt64.le_iff_toNat_le.mp hsched.last_le
    rw [hw.last, UInt64.le_iff_toNat_le]
    show s.servo.output.resampler.lastServoTimeNs.toNat ≤ _
    omega
  have hrecorded : Recorded o w.commanded := hcommanded ▸ hs.recorded
  have hrecorded' : Recorded o
      (⟨w.deadline, i.cycleStart, w.servoEvaluationTime i realign⟩ :: w.commanded) := by
    refine hrecorded.cons (fun earlier hearlier => ?_) hcausal hfresh
    rw [hcommanded] at hearlier
    have hevaluated := UInt64.le_iff_toNat_le.mp (hsched.evaluated_le earlier hearlier)
    show earlier.servoEvaluationTime.toNat + o.servoPeriodNs.toNat ≤
      (w.servoEvaluationTime i realign).toNat
    omega
  obtain ⟨hselected, hfaults⟩ := select_forward (o := o.toOutputOptions) (s := w.servo.output)
    (w.servoEvaluationTime i realign) i.commandStart
  unfold ServoLoop.command
  dsimp only
  cases hselect : w.servo.output.select o.toOutputOptions (w.servoEvaluationTime i realign)
      i.commandStart with
  | error fault => exact sound_of_ended rfl hrecorded (hfaults hlast fault hselect)
  | ok selection =>
    obtain ⟨selected, diagnostics⟩ := selection
    have htime := hselected selected diagnostics hselect
    obtain ⟨hcommits, herror⟩ := commitPoint_forward (r := w.servo.output.resampler) selected
      (htime ▸ hlast)
    dsimp only
    split
    · exact sound_of_ended rfl hrecorded rfl
    · have hservo : (w.servo.emit selected diagnostics).output.resampler.lastServoTimeNs =
          w.servoEvaluationTime i realign := hcommits.trans htime
      have hfault : ∀ fault ∈ (w.servo.emit selected diagnostics).fault,
          fault.movedBackwards = false := forward_map herror
      generalize w.servo.emit selected diagnostics = servo at *
      cases hcommit : servo.fault with
      | some fault => exact sound_of_ended rfl hrecorded' (hfault fault hcommit)
      | none =>
        refine complete_sound hcommit (UInt64.le_of_eq hservo) ?_ hrecorded' ?_ ?_
          (UInt64.le_trans ht.command ht.finish) ht.bounded
        · rintro c ⟨rfl⟩
          exact UInt64.le_refl _
        · exact hw.ended.trans hgoes
        · intro hstop
          have hwait : (s.stop || i.interrupted) = false := hw.stop.symm.trans hstop
          rw [hruns, Bool.false_or] at hwait
          show w.deadline ≤ i.cycleStart
          rw [hdeadline]
          exact ht.waits hwait

/-- **One pass of the loop.** -/
theorem cycle_sound (hs : Sound o s) (ht : Timed o s i) : Sound o (s.cycle o i) := by
  unfold ServoLoop.cycle
  split
  · exact hs
  rename_i hgoes
  have hgoes : s.ended = none := by simpa using hgoes
  split
  · exact sound_of_ended rfl hs.recorded rfl
  rename_i hruns
  have hruns : s.stop = false := by
    simp only [Bool.or_eq_true, not_or] at hruns
    simpa using hruns.1.1
  have hsched := hs.scheduled hgoes hruns
  have hwoken : KeepsTimes (s.wait o i) ((s.wait o i).updateGrace o) :=
    keepsTimes_updateGrace o (s.wait o i)
  generalize (s.wait o i).updateGrace o = woken at *
  have hclassify := classifyStart_passes o woken i
  dsimp only
  cases hstart : woken.classifyStart o i with
  | error reason =>
    rw [hstart] at hclassify
    refine sound_of_ended rfl ?_ hclassify
    exact hwoken.commanded ▸ hs.recorded
  | ok started =>
    rw [hstart] at hclassify
    have hstarted : KeepsTimes (s.wait o i) started := hwoken.trans hclassify
    have hreceive := receive_passes (o := o) (i := i) (hstarted.fault hsched.fault)
    dsimp only
    cases hpacket : started.receive o i with
    | error reason =>
      rw [hpacket] at hreceive
      refine sound_of_ended rfl ?_ hreceive
      exact hstarted.commanded ▸ hs.recorded
    | ok received =>
      rw [hpacket] at hreceive
      have hreceived : KeepsTimes (s.wait o i) received := hstarted.trans hreceive
      have hwarning : woken.startWarning o i = received.startWarning o i := by
        unfold ServoLoop.startWarning ServoLoop.startPeriod ServoLoop.wakeLateness
        rw [hwoken.previous, hwoken.deadline, hreceived.previous, hreceived.deadline]
      dsimp only
      rw [hwarning]
      exact command_sound hs hgoes hruns ht hreceived

end Cycle

/-! ## The run -/

section Run

variable [Double δ] {o : LoopOptions δ}

theorem start_lastServoTime {periodNs handoffNs : UInt64} {qHold : Joints δ}
    {output : ServoOutput δ} (h : ServoOutput.start periodNs qHold handoffNs = .ok output) :
    output.resampler.lastServoTimeNs = handoffNs := by
  unfold ServoOutput.start at h
  dsimp only at h
  split at h
  · cases h
  split at h
  · cases h
  rename_i initialized hinitialize
  split at h
  · cases h
  rename_i resampler hhold
  split at h
  · cases h
  cases h
  have hinitialized : initialized.lastServoTimeNs = handoffNs := by
    unfold Resampler.JointServoResampler.initializeAt at hinitialize
    split_ifs at hinitialize
    all_goals cases hinitialize
    rfl
  have hlast := (hold_forward (r := initialized) qHold handoffNs 0).1
  rw [hhold] at hlast
  exact hlast.trans hinitialized

theorem enter_sound {handoffNs start : UInt64} {qHold : Joints δ} {output : ServoOutput δ}
    (h : ServoOutput.start o.servoPeriodNs qHold handoffNs = .ok output)
    (hclock : handoffNs ≤ start) (hbounded : start.toNat < 2 ^ 63) :
    Sound o (ServoLoop.enter o output qHold start) where
  scheduled _ _ :=
    { fault := rfl
      last_le := by
        show output.resampler.lastServoTimeNs ≤ start
        rw [start_lastServoTime h]
        exact hclock
      deadline_le := UInt64.le_refl _
      previous_le := UInt64.le_refl _
      bounded := hbounded
      evaluated_le := fun _ hc => nomatch hc }
  recorded := ⟨List.isChain_nil, fun _ hc => (nomatch hc), fun _ hc => nomatch hc⟩
  forward := fun _ hreason => nomatch hreason

/-- **The servo evaluation grid.** In every run whose clock does not go back, evaluation
    times are a servo period apart, expired by two milliseconds at most, and never go back;
    they lie in the past exactly if no cycle commanded that had begun before its deadline,
    which only a signal during the wait makes it do. -/
theorem grid_iff {handoffNs start : UInt64} {qHold : Joints δ} {output : ServoOutput δ}
    (hstart : ServoOutput.start o.servoPeriodNs qHold handoffNs = .ok output)
    (hclock : handoffNs ≤ start) (hbounded : start.toNat < 2 ^ 63)
    {cycles : List (CycleInput δ)}
    (htimed : Meets (ServoLoop.cycle o) (Timed o) (ServoLoop.enter o output qHold start) cycles) :
    OnGrid o (run (ServoLoop.cycle o) (ServoLoop.enter o output qHold start) cycles) ↔
      ∀ c ∈ (run (ServoLoop.cycle o) (ServoLoop.enter o output qHold start) cycles).commanded,
        c.deadline ≤ c.cycleStart := by
  have hsound : Sound o (run (ServoLoop.cycle o) (ServoLoop.enter o output qHold start) cycles) :=
    run_invariant_of_meets (P := Sound o) (fun s i ht hs => cycle_sound hs ht)
      (enter_sound hstart hclock hbounded) htimed
  constructor
  · intro hgrid c hc
    exact (hsound.recorded.causal_iff c hc).mp (hgrid.causal c hc)
  · intro hwaited
    exact
      { spaced := hsound.recorded.spaced
        causal := fun c hc => (hsound.recorded.causal_iff c hc).mpr (hwaited c hc)
        fresh := hsound.recorded.fresh
        forward := hsound.forward }

end Run

/-! ## Two sessions -/

/-- Joint teleop with a period of 8 ms. -/
def gridOptions : LoopOptions ℚ := { roundedOptions with teleop := true, stepNum_mem := by decide }

def gridOutput : ServoOutput ℚ := .restingAt 900000000

/-- The loop begins at one second. -/
def gridStart : ServoLoop ℚ := .enter gridOptions gridOutput (fun _ => 0) 1000000000

/-- A timely cycle, a late start, a late completion, and a timely cycle. -/
def lateCycles : List (CycleInput ℚ) :=
  [{ cycleStart := 1008050000, commandStart := 1008200000, cycleEnd := 1009000000 },
    { cycleStart := 1018500000, commandStart := 1018600000, cycleEnd := 1019000000 },
    { cycleStart := 1026550000, commandStart := 1026600000, cycleEnd := 1035000000 },
    { cycleStart := 1043010000, commandStart := 1043100000, cycleEnd := 1043500000 }]

theorem grid_iff_late :
    (run (ServoLoop.cycle gridOptions) gridStart lateCycles).commanded.map
        (·.servoEvaluationTime) = [1043000000, 1026500000, 1018500000, 1008000000] ∧
      OnGrid gridOptions (run (ServoLoop.cycle gridOptions) gridStart lateCycles) := by
  have hstart : ServoOutput.start gridOptions.servoPeriodNs (fun _ => (0 : ℚ)) 900000000 =
      .ok gridOutput := by decide +kernel
  have htimed : Meets (ServoLoop.cycle gridOptions) (Timed gridOptions) gridStart lateCycles := by
    decide +kernel
  exact ⟨by decide +kernel,
    (grid_iff hstart (by decide) (by decide) htimed).mpr (by decide +kernel)⟩

/-- A timely cycle, and a signal two milliseconds into the next wait. -/
def interruptedCycles : List (CycleInput ℚ) :=
  [{ cycleStart := 1008050000, commandStart := 1008200000, cycleEnd := 1009000000 },
    { interrupted := true
      cycleStart := 1010000000, commandStart := 1010100000, cycleEnd := 1010500000 }]

/-- The last cycle commands the point of its deadline, six milliseconds ahead. -/
theorem interrupted_wait_ahead :
    Meets (ServoLoop.cycle gridOptions) (Timed gridOptions) gridStart interruptedCycles ∧
      ⟨1016000000, 1010000000, 1016000000⟩ ∈
        (run (ServoLoop.cycle gridOptions) gridStart interruptedCycles).commanded ∧
      ¬OnGrid gridOptions (run (ServoLoop.cycle gridOptions) gridStart interruptedCycles) := by
  have hmem : (⟨1016000000, 1010000000, 1016000000⟩ : CommandedCycle) ∈
      (run (ServoLoop.cycle gridOptions) gridStart interruptedCycles).commanded := by
    decide +kernel
  refine ⟨by decide +kernel, hmem, fun h => ?_⟩
  exact absurd (h.causal _ hmem) (by decide)

end HandLab.ServoWorker
