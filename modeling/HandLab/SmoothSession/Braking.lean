import HandLab.SmoothSession.ProducerLoop

/-!
# Every engaged motion is ended

What the producer hands over, in every run of its loop and whatever raises.

* `dispatch_spec`, `tickIteration_spec`, `iteration_spec`: what one packet, one tick and one
  iteration preserve.
* `engaged_motion_ended`: packets are numbered upwards, a joint position is handed over
  in an engaged tick only, the first tick that is not engaged hands over a brake
  (`HOLD_CURRENT` or `STOP`), and every run ends with `STOP`.
-/

namespace HandLab.SmoothSession

open HandLab.Lib HandLab.Clutch HandLab.Quest HandLab.TargetGenerator HandLab.Wire

variable {α δ π ς μ : Type}

/-! ## What a log says -/

namespace ProducerEvent

/-- A joint position was handed over. -/
def isJoint : ProducerEvent → Bool
  | .handed packet _ => decide (packet.kind = .jointPosition)
  | .began => false
  | .ticked _ => false
  | .left => false

/-- `HOLD_CURRENT` or `STOP` was handed over. -/
def isBrake : ProducerEvent → Bool
  | .handed packet _ => decide (packet.kind = .holdCurrent) || decide (packet.kind = .stop)
  | .began => false
  | .ticked _ => false
  | .left => false

/-- `STOP` was handed over. -/
def isStop : ProducerEvent → Bool
  | .handed packet _ => decide (packet.kind = .stop)
  | .began => false
  | .ticked _ => false
  | .left => false

/-- A brake was handed over and not sent. -/
def isFailedBrake : ProducerEvent → Bool
  | .handed packet outcome =>
    (decide (packet.kind = .holdCurrent) || decide (packet.kind = .stop)) &&
      decide (outcome ≠ .sent)
  | .began => false
  | .ticked _ => false
  | .left => false

/-- The loop was left. -/
def isLeft : ProducerEvent → Bool
  | .left => true
  | .began => false
  | .ticked _ => false
  | .handed _ _ => false

/-- What a tick made of the clutch. -/
def engaged? : ProducerEvent → Option Bool
  | .ticked engaged => some engaged
  | .began => none
  | .handed _ _ => none
  | .left => none

end ProducerEvent

/-- A joint position was handed over, and no brake since. -/
def Unbraked (h : List ProducerEvent) : Bool :=
  (since ProducerEvent.isBrake h).any ProducerEvent.isJoint

/-- A tick that is not engaged comes after an unbraked joint position. -/
def EndsMotion (event : ProducerEvent) (past : List ProducerEvent) : Prop :=
  event = .ticked false ∧ Unbraked past = true

/-- A tick has ended a motion, and no brake was handed over since. -/
def Owed (h : List ProducerEvent) : Prop :=
  Outstanding EndsMotion (fun event => event.isBrake = true) h

/-- What is asked of the log. -/
def Ended : ProducerEvent → List ProducerEvent → Prop
  | .handed packet _, past =>
    (∀ earlier ∈ past.filterMap ProducerEvent.packet?, earlier.sequence < packet.sequence) ∧
      (packet.kind = .jointPosition → past.head? = some (.ticked true) ∧ ¬Owed past) ∧
      (packet.kind ≠ .stop →
        past.any ProducerEvent.isStop = false ∧ past.any ProducerEvent.isLeft = false)
  | .began, past =>
    ¬Owed past ∧ past.any ProducerEvent.isFailedBrake = false ∧
      past.any ProducerEvent.isStop = false ∧ past.any ProducerEvent.isLeft = false
  | .ticked _, _ => True
  | .left, _ => True

section Owed

variable {h : List ProducerEvent} {event : ProducerEvent}

theorem unbraked_cons_brake (he : event.isBrake = true) : Unbraked (event :: h) = false := by
  unfold Unbraked
  rw [since_cons_of_pos he]
  rfl

theorem unbraked_cons_other (hb : event.isBrake = false) (hj : event.isJoint = false) :
    Unbraked (event :: h) = Unbraked h := by
  unfold Unbraked
  rw [since_cons_of_neg hb, List.any_cons, hj, Bool.false_or]

theorem owed_cons_brake (he : event.isBrake = true) : ¬Owed (event :: h) :=
  fun ho => ho.1 he

theorem owed_cons_other (hb : event.isBrake = false) (ht : event ≠ .ticked false) :
    Owed (event :: h) ↔ Owed h := by
  show ¬event.isBrake = true ∧ (EndsMotion event h ∨ Owed h) ↔ Owed h
  have hnot : ¬EndsMotion event h := fun he => ht he.1
  simp [hb, hnot]

theorem owed_ticked : Owed (.ticked false :: h) ↔ Unbraked h = true ∨ Owed h := by
  show ¬ProducerEvent.isBrake (.ticked false) = true ∧ (EndsMotion _ h ∨ Owed h) ↔ _
  unfold EndsMotion
  simp [ProducerEvent.isBrake]

end Owed

/-! ## Invariants -/

variable [LinearOrder α]

/-- What every entry of the log keeps, in the loop and after it. -/
structure Producer.Kept (config : SessionConfig α) (s : Producer α δ π ς μ) : Prop where
  allowed : Whenever Ended s.history
  numbered : ∀ packet ∈ s.history.filterMap ProducerEvent.packet?,
    packet.sequence ≤ s.adapter.lastSequence
  stopped : s.history.any ProducerEvent.isStop = true → s.adapter.stopped = true
  sound : s.run.session.Sound config

/-- What holds wherever an exception may come from. -/
structure Producer.Settled (config : SessionConfig α) (s : Producer α δ π ς μ) : Prop
    extends s.Kept config where
  halted : s.adapter.stopped = true →
    s.history.any ProducerEvent.isStop = true ∧ Unbraked s.history = false

/-- What holds in the loop besides. -/
structure Producer.Running (config : SessionConfig α) (s : Producer α δ π ς μ) : Prop
    extends s.Kept config where
  goes : s.adapter.stopped = false
  inside : s.history.any ProducerEvent.isLeft = false
  sent : s.history.any ProducerEvent.isFailedBrake = false

/-- Between two iterations. -/
structure Producer.Ready (config : SessionConfig α) (s : Producer α δ π ς μ) : Prop
    extends s.Running config where
  edge : s.priorEngaged = (latest ProducerEvent.engaged? s.history).getD false
  unbraked : Unbraked s.history = true → s.priorEngaged = true
  paid : ¬Owed s.history

/-- In a tick that has decided, before the edge of the clutch. -/
structure Producer.Decided (config : SessionConfig α) (s : Producer α δ π ς μ) : Prop
    extends s.Running config where
  engaged : latest ProducerEvent.engaged? s.history = some s.isEngaged
  motion : s.isEngaged = true → ¬Owed s.history
  debt : s.isEngaged = false → s.priorEngaged = false →
    ¬Owed s.history ∧ Unbraked s.history = false

section Steps

variable {config : SessionConfig α} {s t u : Producer α δ π ς μ}

/-- The log, the adapter and the clutch edge are as they were, and the session is sound. -/
structure Producer.Same (config : SessionConfig α) (s t : Producer α δ π ς μ) : Prop where
  history : t.history = s.history
  adapter : t.adapter = s.adapter
  prior : t.priorEngaged = s.priorEngaged
  sound : t.run.session.Sound config

theorem Producer.Kept.same (hs : s.Kept config) (h : s.Same config t) : t.Kept config where
  allowed := h.history ▸ hs.allowed
  numbered := by rw [h.history, h.adapter]; exact hs.numbered
  stopped := by rw [h.history, h.adapter]; exact hs.stopped
  sound := h.sound

theorem Producer.Kept.settled_of_goes (hs : s.Kept config) (hgoes : s.adapter.stopped = false) :
    s.Settled config where
  toKept := hs
  halted h := by
    rw [hgoes] at h
    exact nomatch h

theorem Producer.Running.settled (hs : s.Running config) : s.Settled config :=
  hs.toKept.settled_of_goes hs.goes

theorem Producer.Settled.same (hs : s.Settled config) (h : s.Same config t) :
    t.Settled config where
  toKept := hs.toKept.same h
  halted := by rw [h.history, h.adapter]; exact hs.halted

theorem Producer.Running.same (hs : s.Running config) (h : s.Same config t) :
    t.Running config where
  toKept := hs.toKept.same h
  goes := by rw [h.adapter]; exact hs.goes
  inside := by rw [h.history]; exact hs.inside
  sent := by rw [h.history]; exact hs.sent

theorem Producer.Ready.same (hs : s.Ready config) (h : s.Same config t) : t.Ready config where
  toRunning := hs.toRunning.same h
  edge := by rw [h.prior, h.history]; exact hs.edge
  unbraked := by rw [h.prior, h.history]; exact hs.unbraked
  paid := by rw [h.history]; exact hs.paid

/-- An entry that is no packet is logged. -/
theorem Producer.Kept.log (hs : s.Kept config) {event : ProducerEvent}
    (he : Ended event s.history) (hp : event.packet? = none) :
    (s.log event).Kept config where
  allowed := whenever_cons.mpr ⟨he, hs.allowed⟩
  numbered packet hmem := by
    refine hs.numbered packet ?_
    have hnone : (event :: s.history).filterMap ProducerEvent.packet? =
        s.history.filterMap ProducerEvent.packet? := by
      rw [List.filterMap_cons, hp]
    rw [← hnone]
    exact hmem
  stopped hmem := by
    refine hs.stopped ?_
    have hstop : event.isStop = false := by
      cases event with
      | handed packet outcome => exact nomatch hp
      | began => rfl
      | ticked engaged => rfl
      | left => rfl
    have hcons : (event.isStop || s.history.any ProducerEvent.isStop) = true := hmem
    rw [hstop, Bool.false_or] at hcons
    exact hcons
  sound := hs.sound

/-! ## Packets -/

variable {publish : ℕ → PublishOutcome} {kind : TargetKind}

/-- The packet may be handed over now. -/
structure Permitted (s : Producer α δ π ς μ) (kind : TargetKind) : Prop where
  joint : kind = .jointPosition → s.history.head? = some (.ticked true) ∧ ¬Owed s.history
  moving : kind ≠ .stop → s.history.any ProducerEvent.isStop = false ∧
    s.history.any ProducerEvent.isLeft = false
  stop : kind = .stop → s.adapter.stopped = true

/-- A packet of the kind was handed over, with the outcome. -/
structure Handed (s : Producer α δ π ς μ) (kind : TargetKind) (outcome : PublishOutcome)
    (t : Producer α δ π ς μ) : Prop where
  history : ∃ packet : PacketHeader, packet.kind = kind ∧
    t.history = .handed packet outcome :: s.history
  stopped : t.adapter.stopped = s.adapter.stopped
  prior : t.priorEngaged = s.priorEngaged
  run : t.run = s.run

/-- The state after the sequence number of a packet was taken. -/
theorem kept_handed (hs : s.Kept config) (hpermitted : Permitted s kind)
    {packet : PacketHeader} (hkind : packet.kind = kind)
    (hsequence : packet.sequence = s.adapter.lastSequence + 1) (outcome : PublishOutcome) :
    ({ s with
        adapter := { s.adapter with lastSequence := s.adapter.lastSequence + 1 }
        history := .handed packet outcome :: s.history } : Producer α δ π ς μ).Kept config where
  allowed := by
    refine whenever_cons.mpr ⟨⟨fun earlier hmem => ?_, ?_, ?_⟩, hs.allowed⟩
    · have hle := hs.numbered earlier hmem
      rw [hsequence]
      omega
    · rw [hkind]
      exact hpermitted.joint
    · rw [hkind]
      exact hpermitted.moving
  numbered earlier hmem := by
    show earlier.sequence ≤ s.adapter.lastSequence + 1
    rcases List.mem_cons.mp hmem with rfl | hmem
    · exact hsequence.le
    · have hle := hs.numbered earlier hmem
      omega
  stopped hmem := by
    show s.adapter.stopped = true
    have hcons : (decide (packet.kind = .stop) || s.history.any ProducerEvent.isStop) = true :=
      hmem
    rcases Bool.or_eq_true_iff.mp hcons with hstop | hstop
    · exact hpermitted.stop (hkind ▸ of_decide_eq_true hstop)
    · exact hs.stopped hstop
  sound := hs.sound

variable {E : Interrupt → Producer α δ π ς μ → Prop}

omit [LinearOrder α] in
theorem ensures_hand {packet : PacketHeader} {Q : Bool → Producer α δ π ς μ → Prop} :
    Ensures (hand publish packet) s Q E ↔
      match publish s.packets.length with
      | .sent => Q true (s.log (.handed packet .sent))
      | .dropped => Q false (s.log (.handed packet .dropped))
      | .raised interrupt => E interrupt (s.log (.handed packet (.raised interrupt))) := by
  unfold Ensures hand
  dsimp only
  cases publish s.packets.length <;> rfl

variable {localReceiveNs processingNs dispatchNs : ℤ}

/-- **One packet.** -/
theorem dispatch_spec (hs : s.Kept config) (hpermitted : Permitted s kind)
    {admitted : Bool} :
    Ensures (dispatch publish kind localReceiveNs processingNs dispatchNs admitted) s
      (fun sent t => t.Kept config ∧ Handed s kind (if sent then .sent else .dropped) t)
      fun interrupt t => t.Kept config ∧ t.adapter.stopped = s.adapter.stopped ∧
        (admitted = true → Handed s kind (.raised interrupt) t) := by
  unfold dispatch
  rw [ensures_bind]
  show Ensures (if admitted then _ else _) _ _ _
  cases admitted with
  | false =>
    refine ⟨⟨hs.allowed, fun packet hmem => ?_, hs.stopped, hs.sound⟩, rfl, nofun⟩
    have hle := hs.numbered packet hmem
    show packet.sequence ≤ s.adapter.lastSequence + 1
    omega
  | true =>
    rw [if_pos rfl, ensures_hand]
    let packet : PacketHeader :=
      ⟨kind, s.adapter.lastSequence + 1, localReceiveNs, processingNs, dispatchNs⟩
    have hkept (outcome : PublishOutcome) := kept_handed hs hpermitted
      (show packet.kind = kind from rfl) (show packet.sequence = _ from rfl) outcome
    split
    · exact ⟨hkept .sent, ⟨packet, rfl, rfl⟩, rfl, rfl, rfl⟩
    · exact ⟨hkept .dropped, ⟨packet, rfl, rfl⟩, rfl, rfl, rfl⟩
    · exact ⟨hkept _, rfl, fun _ => ⟨⟨packet, rfl, rfl⟩, rfl, rfl, rfl⟩⟩

/-- The producer has handed over `STOP`, and no joint position since. -/
structure Producer.Halted (config : SessionConfig α) (s : Producer α δ π ς μ) : Prop
    extends s.Kept config where
  stop : s.history.any ProducerEvent.isStop = true
  unbraked : Unbraked s.history = false

theorem Producer.Halted.settled (hs : s.Halted config) : s.Settled config :=
  ⟨hs.toKept, fun _ => ⟨hs.stop, hs.unbraked⟩⟩

/-- `stop` hands over a `STOP` packet, whatever the publisher does with it. -/
theorem stop_spec (hs : s.Kept config) (clockNs : ℕ) :
    Ensures (stop publish clockNs) s (fun _ t => t.Halted config) fun _ t => t.Halted config := by
  have hstopped : ({ s with adapter := { s.adapter with stopped := true } } :
      Producer α δ π ς μ).Kept config := ⟨hs.allowed, hs.numbered, fun _ => rfl, hs.sound⟩
  have hhalted (outcome : PublishOutcome) (t : Producer α δ π ς μ) (hkept : t.Kept config)
      (h : Handed ({ s with adapter := { s.adapter with stopped := true } }) .stop outcome t) :
      t.Halted config := by
    obtain ⟨packet, hkind, hhistory⟩ := h.history
    refine ⟨hkept, ?_, ?_⟩
    · rw [hhistory, List.any_cons, ProducerEvent.isStop, hkind]
      rfl
    · rw [hhistory]
      refine unbraked_cons_brake ?_
      show (decide (packet.kind = .holdCurrent) || decide (packet.kind = .stop)) = true
      rw [hkind]
      rfl
  have hpermitted : Permitted ({ s with adapter := { s.adapter with stopped := true } } :
      Producer α δ π ς μ) .stop := ⟨nofun, fun h => absurd rfl h, fun _ => rfl⟩
  unfold stop
  rw [ensures_bind, ensures_modify]
  refine (dispatch_spec hstopped hpermitted).mono ?_ ?_
  · rintro sent t ⟨hkept, h⟩
    exact hhalted _ t hkept h
  · rintro interrupt t ⟨hkept, -, h⟩
    exact hhalted _ t hkept (h rfl)

/-- A packet of a running producer is handed over like any other. -/
theorem dispatchUnlessStopped_spec (hs : s.Running config) (hpermitted : Permitted s kind)
    {admitted : Bool} :
    Ensures (dispatchUnlessStopped publish kind localReceiveNs processingNs dispatchNs admitted) s
      (fun sent t => t.Kept config ∧ Handed s kind (if sent then .sent else .dropped) t)
      fun _ t => t.Settled config := by
  unfold dispatchUnlessStopped
  rw [ensures_bind, ensures_get]
  show Ensures (if s.adapter.stopped = true then _ else _) _ _ _
  rw [if_neg (by rw [hs.goes]; nofun)]
  refine (dispatch_spec hs.toKept hpermitted).mono (fun _ _ h => h) ?_
  rintro interrupt t ⟨hkept, hstopped, -⟩
  exact hkept.settled_of_goes (hstopped.trans hs.goes)

/-- A running producer may hand over any packet but a joint position, which asks for an
    engaged tick, and `STOP`, which `stop` hands over. -/
theorem Producer.Running.permitted (hs : s.Running config)
    (hjoint : kind = .jointPosition →
      s.history.head? = some (.ticked true) ∧ ¬Owed s.history)
    (hstop : kind ≠ .stop) : Permitted s kind where
  joint := hjoint
  moving _ := by
    refine ⟨?_, hs.inside⟩
    by_contra hany
    have hstopped := hs.stopped (by simpa using hany)
    rw [hs.goes] at hstopped
    exact nomatch hstopped
  stop h := absurd h hstop

omit [LinearOrder α] in
theorem raiseIf_spec {interrupt : Option Interrupt} {P : Producer α δ π ς μ → Prop} (hs : P s) :
    Ensures (raiseIf interrupt) s (fun _ t => P t) fun _ t => P t := by
  unfold raiseIf
  cases interrupt with
  | none => exact hs
  | some i => exact hs

omit [LinearOrder α] in
theorem raiseIf_bind {β : Type} {interrupt : Option Interrupt}
    {f : Unit → Program α δ π ς μ β} {Q : β → Producer α δ π ς μ → Prop}
    (hraise : ∀ i, E i s)
    (hf : Ensures (f ()) s Q E) : Ensures (raiseIf interrupt >>= f) s Q E := by
  unfold raiseIf
  cases interrupt with
  | none => exact hf
  | some i => exact hraise i

/-! ## One tick -/

/-- A packet that is no brake, in a tick that has decided. -/
theorem Producer.Decided.handed (hs : s.Decided config) (ht : t.Kept config)
    {outcome : PublishOutcome} (hhanded : Handed s kind outcome t)
    (hkind : kind = .heartbeat ∨ kind = .jointPosition ∧ s.isEngaged = true) :
    t.Decided config := by
  obtain ⟨packet, hpacket, hhistory⟩ := hhanded.history
  have hengaged : t.isEngaged = s.isEngaged := by
    unfold Producer.isEngaged
    rw [hhanded.run]
  have hbrake : (ProducerEvent.handed packet outcome).isBrake = false := by
    show (decide (packet.kind = .holdCurrent) || decide (packet.kind = .stop)) = false
    rw [hpacket]
    rcases hkind with rfl | ⟨rfl, -⟩ <;> rfl
  have howed : Owed t.history ↔ Owed s.history := by
    rw [hhistory]
    exact owed_cons_other hbrake nofun
  refine ⟨⟨ht, ?_, ?_, ?_⟩, ?_, ?_, ?_⟩
  · rw [hhanded.stopped]
    exact hs.goes
  · rw [hhistory]
    exact hs.inside
  · rw [hhistory, List.any_cons, hs.sent, Bool.or_false]
    show ((decide (packet.kind = .holdCurrent) || decide (packet.kind = .stop)) && _) = false
    rw [show (decide (packet.kind = .holdCurrent) || decide (packet.kind = .stop)) = false
      from hbrake]
    rfl
  · rw [hengaged, hhistory, latest_cons_of_none rfl]
    exact hs.engaged
  · rw [hengaged, howed]
    exact hs.motion
  · rw [hengaged, hhanded.prior]
    intro hnot hprior
    obtain ⟨hpaid, hunbraked⟩ := hs.debt hnot hprior
    refine ⟨fun h => hpaid (howed.mp h), ?_⟩
    have hjoint : (ProducerEvent.handed packet outcome).isJoint = false := by
      show decide (packet.kind = .jointPosition) = false
      rw [hpacket]
      rcases hkind with rfl | ⟨-, hmoves⟩
      · rfl
      · rw [hnot] at hmoves
        exact nomatch hmoves
    rw [hhistory, unbraked_cons_other hbrake hjoint]
    exact hunbraked

/-- The call of the adapter in a tick that has decided. -/
theorem output_spec (hs : s.Decided config) {decision : Decision δ} (clockNs : ℕ)
    (hhead : s.history.head? = some (.ticked s.isEngaged))
    (hpublished : decision.published.isSome = true → s.isEngaged = true) :
    Ensures (output publish clockNs decision) s (fun _ t => t.Decided config)
      fun _ t => t.Settled config := by
  unfold output
  cases decision with
  | raised => exact hs.toRunning.settled
  | silent reason => exact hs
  | heartbeat heartbeat =>
    dsimp only
    rw [ensures_bind]
    have hpermitted : Permitted s .heartbeat := hs.toRunning.permitted nofun nofun
    refine (dispatchUnlessStopped_spec hs.toRunning hpermitted).mono ?_ fun _ _ h => h
    rintro sent t ⟨ht, hhanded⟩
    exact hs.handed ht hhanded (.inl rfl)
  | apply target =>
    dsimp only
    rw [ensures_bind]
    have hengaged := hpublished rfl
    have hpermitted : Permitted s .jointPosition := by
      refine hs.toRunning.permitted (fun _ => ⟨?_, hs.motion hengaged⟩) nofun
      rw [hhead, hengaged]
    refine (dispatchUnlessStopped_spec hs.toRunning hpermitted).mono ?_ fun _ _ h => h
    rintro sent t ⟨ht, hhanded⟩
    exact hs.handed ht hhanded (.inr ⟨rfl, hengaged⟩)

theorem Producer.Kept.setPrior (hs : s.Kept config) (engaged : Bool) :
    ({ s with priorEngaged := engaged }).Kept config :=
  ⟨hs.allowed, hs.numbered, hs.stopped, hs.sound⟩

/-- The edge after a dispatch that has failed. -/
theorem engagedEdge_failed (hs : s.Settled config) (clockNs : ℕ) :
    Ensures (engagedEdge publish clockNs true) s (fun _ t => t.Settled config)
      fun _ t => t.Settled config := by
  unfold engagedEdge
  simp only [Bool.not_true, Bool.and_false, Bool.false_eq_true, if_false, ensures_bind,
    ensures_get, ensures_pure, ensures_modify]
  exact ⟨hs.toKept.setPrior _, hs.halted⟩

/-- **The engaged edge.** A tick that ends a motion is followed by a hold, or the loop
    ends. -/
theorem engagedEdge_spec (hs : s.Decided config) (clockNs : ℕ) :
    Ensures (engagedEdge publish clockNs false) s
      (fun failed t => t.Settled config ∧ (failed = false → t.Ready config))
      fun _ t => t.Settled config := by
  unfold engagedEdge
  rw [ensures_bind, ensures_get]
  by_cases hedge : (s.priorEngaged && !s.isEngaged && !false) = true
  · rw [if_pos hedge, ensures_bind]
    obtain ⟨hprior, hnot⟩ : s.priorEngaged = true ∧ s.isEngaged = false := by simpa using hedge
    have hpermitted : Permitted s .holdCurrent := hs.toRunning.permitted (by simp) (by simp)
    refine (dispatchUnlessStopped_spec hs.toRunning hpermitted).mono ?_ fun _ _ h => h
    rintro sent t ⟨ht, hhanded⟩
    simp only [ensures_bind, ensures_modify, ensures_pure]
    refine ⟨(ht.setPrior _).settled_of_goes (hhanded.stopped.trans hs.goes), fun hsent => ?_⟩
    obtain rfl : sent = true := by simpa using hsent
    obtain ⟨packet, hpacket, hhistory⟩ := hhanded.history
    have hengaged : t.isEngaged = false := by
      unfold Producer.isEngaged at hnot ⊢
      rw [hhanded.run]
      exact hnot
    have hbrake : (ProducerEvent.handed packet .sent).isBrake = true := by
      show (decide (packet.kind = .holdCurrent) || decide (packet.kind = .stop)) = true
      rw [hpacket]
      rfl
    refine ⟨⟨ht.setPrior _, ?_, ?_, ?_⟩, ?_, ?_, ?_⟩
    · exact hhanded.stopped.trans hs.goes
    · show t.history.any _ = false
      rw [hhistory]
      exact hs.inside
    · show t.history.any _ = false
      rw [hhistory, List.any_cons, hs.sent]
      simp [ProducerEvent.isFailedBrake]
    · show t.isEngaged = (latest ProducerEvent.engaged? t.history).getD false
      rw [hhistory, latest_cons_of_none rfl, hs.engaged, hnot, hengaged]
      rfl
    · intro hunbraked
      have hnone : Unbraked t.history = false := by
        rw [hhistory]
        exact unbraked_cons_brake hbrake
      exact absurd (hnone.symm.trans hunbraked) (by simp)
    · show ¬Owed t.history
      rw [hhistory]
      exact owed_cons_brake hbrake
  · rw [if_neg hedge]
    simp only [ensures_bind, ensures_modify, ensures_pure]
    refine ⟨(hs.toKept.setPrior _).settled_of_goes hs.goes, fun _ => ?_⟩
    have hpaid : ¬Owed s.history ∧ (Unbraked s.history = true → s.isEngaged = true) := by
      cases hengaged : s.isEngaged with
      | true => exact ⟨hs.motion hengaged, fun _ => rfl⟩
      | false =>
        have hprior : s.priorEngaged = false := by simpa [hengaged] using hedge
        obtain ⟨hpaid, hunbraked⟩ := hs.debt hengaged hprior
        refine ⟨hpaid, fun h => ?_⟩
        rw [hunbraked] at h
        exact absurd h (by simp)
    refine ⟨⟨hs.toKept.setPrior _, hs.goes, hs.inside, hs.sent⟩, ?_, hpaid.2, hpaid.1⟩
    show s.isEngaged = (latest ProducerEvent.engaged? s.history).getD false
    rw [hs.engaged]
    rfl

end Steps

/-! ## One iteration -/

section Loop

variable {config : RouterConfig α} {mapper : ArmMapper μ π}
  {assembler : Assembler ς δ π} {publish : ℕ → PublishOutcome}
  {s t : Producer α δ π ς μ}

def TickEntry.decided (entry : Option (TickEntry α δ π)) : Decision δ :=
  (entry.map TickEntry.decision).getD .raised

/-- A tick publishes a target only when it leaves the clutch engaged. -/
theorem controlTick_publishes {session after : SmoothQuestJakaSession α ς μ}
    (hs : session.Sound config.session) {input : TickInput δ π}
    {entry : Option (TickEntry α δ π)}
    (h : session.controlTick config.session mapper assembler input = (entry, after)) :
    after.Sound config.session ∧
      ((TickEntry.decided entry).published.isSome = true → after.armClutch.state = .engaged) := by
  cases entry with
  | none =>
    obtain ⟨rfl, -⟩ := SmoothQuestJakaSession.tick_none h
    exact ⟨hs, fun hsome => nomatch hsome⟩
  | some entry =>
    have hspec := SmoothQuestJakaSession.controlTick_spec hs h
    refine ⟨hspec.sound, fun hsome => ?_⟩
    obtain ⟨target, htarget⟩ := Option.isSome_iff_exists.mp hsome
    exact (hspec.published target htarget).2.2.2

/-- What `control_tick` does to a producer between two iterations. -/
theorem decideTick_spec (hs : s.Ready config.session) (input : TickInput δ π) :
    Ensures (decideTick config mapper assembler input) s
      (fun decision t => t.Decided config.session ∧
        t.history.head? = some (.ticked t.isEngaged) ∧
        (decision.published.isSome = true → t.isEngaged = true))
      fun _ _ => False := by
  unfold Ensures decideTick
  generalize htick : s.run.session.controlTick config.session mapper assembler input = tick
  obtain ⟨entry, session⟩ := tick
  obtain ⟨hsound, hpublished⟩ := controlTick_publishes hs.sound htick
  dsimp only
  generalize hu : ({ s with run := { s.run with session } } : Producer α δ π ς μ) = u
  have hready : u.Ready config.session := by
    refine hs.same ⟨?_, ?_, ?_, ?_⟩ <;> subst hu
    · rfl
    · rfl
    · rfl
    · exact hsound
  refine ⟨⟨⟨hready.toKept.log trivial rfl, hready.goes, hready.inside, hready.sent⟩, rfl, ?_, ?_⟩,
    rfl, ?_⟩
  · intro hengaged howed
    refine hready.paid ((owed_cons_other rfl ?_).mp howed)
    intro h
    have hfalse : u.isEngaged = false := ProducerEvent.ticked.inj h
    exact nomatch hengaged.symm.trans hfalse
  · intro hnot hprior
    have hunbraked : Unbraked u.history = false := by
      by_contra h
      have hstill := hready.unbraked (by simpa using h)
      exact nomatch hstill.symm.trans hprior
    refine ⟨?_, ?_⟩
    · show ¬Owed (.ticked u.isEngaged :: u.history)
      rw [show u.isEngaged = false from hnot, owed_ticked, hunbraked]
      rintro (h | h)
      · exact nomatch h
      · exact hready.paid h
    · exact (unbraked_cons_other rfl rfl).trans hunbraked
  · intro hsome
    subst hu
    exact decide_eq_true (hpublished hsome)

/-- **One tick.** -/
theorem tickIteration_spec (hs : s.Ready config.session) (i : Iteration δ π) :
    Ensures (tickIteration config mapper assembler publish i) s
      (fun more t => t.Settled config.session ∧ (more = true → t.Ready config.session))
      fun _ t => t.Settled config.session := by
  unfold tickIteration
  refine ((decideTick_spec hs i.tick).mono (fun _ _ h => h) fun _ _ h => h.elim).bind ?_
  rintro decision t ⟨ht, hhead, hpublished⟩
  refine (output_spec ht i.clockNs hhead hpublished).bind ?_
  rintro ⟨reason, applied⟩ u hu
  refine raiseIf_bind (fun _ => hu.toRunning.settled) ?_
  dsimp only
  cases hfailed : controlOutputFailed reason applied with
  | false =>
    simp only [Bool.false_eq_true, if_false, Bool.false_or]
    refine (engagedEdge_spec hu i.clockNs).bind ?_
    rintro failed v ⟨hv, hready⟩
    refine raiseIf_bind (fun _ => hv) ?_
    rw [ensures_pure]
    refine ⟨hv, fun hmore => hready ?_⟩
    simpa using hmore
  | true =>
    simp only [if_true, Bool.true_or, Bool.not_true]
    refine raiseIf_bind (fun _ => hu.toRunning.settled) ?_
    refine ((stop_spec hu.toKept i.clockNs).mono (fun _ _ h => h.settled)
      fun _ _ h => h.settled).bind ?_
    rintro - v hv
    refine raiseIf_bind (fun _ => hv) ?_
    refine (engagedEdge_failed hv i.clockNs).bind ?_
    rintro failed w hw
    refine raiseIf_bind (fun _ => hw) ?_
    rw [ensures_pure]
    exact ⟨hw, nofun⟩

/-- An iteration begins. -/
theorem Producer.Ready.began (hs : s.Ready config.session) :
    (s.log .began).Ready config.session := by
  have hstop : s.history.any ProducerEvent.isStop = false := by
    by_contra h
    have hstopped := hs.stopped (by simpa using h)
    exact nomatch hs.goes.symm.trans hstopped
  refine ⟨⟨hs.toKept.log ⟨hs.paid, hs.sent, hstop, hs.inside⟩ rfl, hs.goes, hs.inside, hs.sent⟩,
    hs.edge, ?_, ?_⟩
  · intro hunbraked
    exact hs.unbraked ((unbraked_cons_other rfl rfl).symm.trans hunbraked)
  · intro howed
    have hcons : Owed (.began :: s.history) ↔ Owed s.history := owed_cons_other rfl nofun
    exact hs.paid (hcons.mp howed)

/-- The loop is left. -/
theorem Producer.Settled.left (hs : s.Settled config.session) :
    (s.log .left).Settled config.session where
  toKept := hs.toKept.log trivial rfl
  halted h := ⟨(hs.halted h).1, (unbraked_cons_other rfl rfl).trans (hs.halted h).2⟩

theorem handleInterrupt_spec (hs : s.Settled config.session) (clockNs : ℕ) (i : Interrupt) :
    Ensures (handleInterrupt publish clockNs i) s (fun _ t => t.Settled config.session)
      fun _ t => t.Settled config.session := by
  unfold handleInterrupt
  cases i with
  | keyboardInterrupt =>
    refine ((stop_spec hs.toKept clockNs).mono (fun _ _ h => h.settled)
      fun _ _ h => h.settled).bind ?_
    intro sent t ht
    exact ht
  | exception => exact hs

/-- The cleanup hands over `STOP` unless the adapter has stopped already. -/
theorem cleanup_spec (hs : s.Settled config.session) (clockNs : ℕ) :
    Ensures (cleanup publish clockNs) s (fun _ t => t.Halted config.session)
      fun _ t => t.Halted config.session := by
  unfold cleanup
  rw [ensures_bind, ensures_get]
  split
  · rename_i hstopped
    exact ⟨hs.toKept, (hs.halted hstopped).1, (hs.halted hstopped).2⟩
  · refine (stop_spec hs.toKept clockNs).bind ?_
    intro sent t ht
    exact ht

variable [OrderBot α] [HtsFloat δ]

/-- The router reaches neither the adapter nor the log. -/
theorem routerCall_spec (hs : s.run.session.Sound config.session) (c : RouterCall δ π) :
    Ensures (routerCall config mapper assembler c) s (fun _ t => s.Same config.session t)
      fun _ t => s.Same config.session t := by
  have hsame : s.Same config.session { s with run := s.run.step config mapper assembler c } :=
    ⟨rfl, rfl, rfl, (step_prompt hs c).1⟩
  unfold Ensures routerCall
  dsimp only
  split <;> rename_i heq <;> split at heq
  · cases heq
  · cases heq
    exact hsame
  · cases heq
    exact hsame
  · cases heq

theorem routerCall_ready (hs : s.Ready config.session) (c : RouterCall δ π) :
    Ensures (routerCall config mapper assembler c) s (fun _ t => t.Ready config.session)
      fun _ t => t.Settled config.session :=
  (routerCall_spec hs.sound c).mono (fun _ _ h => hs.same h) fun _ _ h => hs.settled.same h

theorem ingestAll_ready (datagrams : List ReceivedHtsDatagram) (hs : s.Ready config.session) :
    Ensures (ingestAll config mapper assembler datagrams) s (fun _ t => t.Ready config.session)
      fun _ t => t.Settled config.session := by
  induction datagrams generalizing s with
  | nil => exact hs
  | cons datagram rest ih =>
    unfold ingestAll
    exact (routerCall_ready hs _).bind fun _ t ht => ih ht

/-- **One iteration.** -/
theorem iteration_spec (hs : s.Ready config.session) (i : Iteration δ π) :
    Ensures (iteration config mapper assembler publish i) s
      (fun more t => t.Settled config.session ∧ (more = true → t.Ready config.session))
      fun _ t => t.Settled config.session := by
  unfold iteration
  rw [ensures_bind, ensures_modify]
  have hbegan := hs.began
  generalize s.log .began = s at hbegan
  refine raiseIf_bind (fun _ => hbegan.settled) ?_
  split
  · refine ((stop_spec hbegan.toKept i.clockNs).mono (fun _ _ h => h.settled)
      fun _ _ h => h.settled).bind ?_
    rintro - t ht
    exact raiseIf_bind (fun _ => ht) ⟨ht, nofun⟩
  · refine raiseIf_bind (fun _ => hbegan.settled) ?_
    refine (ingestAll_ready i.datagrams hbegan).bind ?_
    rintro - t ht
    split
    · exact ⟨ht.settled, fun _ => ht⟩
    · refine raiseIf_bind (fun _ => ht.settled) ?_
      refine (routerCall_ready ht _).bind ?_
      rintro - u hu
      exact raiseIf_bind (fun _ => hu.settled) (tickIteration_spec hu i)

/-! ## Every run -/

/-- **The loop**, by induction over its iterations. -/
theorem loop_spec (inputs : List (Iteration δ π)) (hs : s.Ready config.session) :
    Ensures (loop config mapper assembler publish inputs) s
      (fun _ t => t.Settled config.session) fun _ t => t.Settled config.session := by
  induction inputs generalizing s with
  | nil => exact hs.settled
  | cons i rest ih =>
    unfold loop
    refine (iteration_spec hs i).bind ?_
    rintro more t ⟨ht, hready⟩
    split
    · rename_i hmore
      exact ih (hready hmore)
    · exact ht

theorem guardedLoop_spec (inputs : List (Iteration δ π)) (closing : Option Interrupt)
    (hs : s.Ready config.session) :
    Ensures (guardedLoop config mapper assembler publish inputs closing) s
      (fun _ t => t.Settled config.session) fun _ t => t.Settled config.session := by
  unfold guardedLoop
  refine ((loop_spec inputs hs).tryCatch (E := fun _ t => t.Settled config.session)
    fun interrupt t ht => ?_).bind fun _ t ht => ?_
  · rw [ensures_bind, ensures_modify]
    exact raiseIf_bind (fun _ => ht.left) ht.left
  · rw [ensures_bind, ensures_modify]
    exact raiseIf_spec ht.left

theorem producerMain_spec (inputs : List (Iteration δ π)) (closing : Option Interrupt)
    (clockNs : ℕ) (hs : s.Ready config.session) :
    Ensures (producerMain config mapper assembler publish inputs closing clockNs) s
      (fun _ t => t.Halted config.session) fun _ t => t.Halted config.session := by
  unfold producerMain
  have hcaught : Ensures (tryCatch (guardedLoop config mapper assembler publish inputs closing)
      (handleInterrupt publish clockNs)) s (fun _ t => t.Settled config.session)
      fun _ t => t.Settled config.session :=
    (guardedLoop_spec inputs closing hs).tryCatch fun i t ht => handleInterrupt_spec ht clockNs i
  refine (hcaught.tryCatch (E := fun _ t => t.Halted config.session)
    fun i t ht => ?_).bind fun _ t ht => cleanup_spec ht clockNs
  refine (cleanup_spec ht clockNs).bind fun _ u hu => ?_
  exact hu

variable (config mapper assembler publish)

/-- **Main theorem.** In every run of the producer, each packet has a greater number than
    those before it; a joint position is handed over in a tick that leaves the clutch
    engaged; no iteration begins before the tick that ends a motion has handed over a
    brake, nor after a brake that was not sent; outside the loop and after a `STOP` there
    are only `STOP` packets. The run ends with a `STOP` handed over and no joint position
    after the last brake. -/
theorem engaged_motion_ended (inputs : List (Iteration δ π)) (closing : Option Interrupt)
    (clockNs : ℕ) (cache : ς) (armMapper : μ) :
    let s := stateAfter (producerMain config mapper assembler publish inputs closing clockNs)
      (.init cache armMapper)
    Whenever Ended s.history ∧ s.history.any ProducerEvent.isStop = true ∧
      Unbraked s.history = false := by
  intro s
  have hready : (.init cache armMapper : Producer α δ π ς μ).Ready config.session := by
    refine ⟨⟨⟨whenever_nil, nofun, nofun, SmoothQuestJakaSession.sound_of_state nofun⟩, rfl, rfl,
      rfl⟩, rfl, nofun, nofun⟩
  have hhalted : s.Halted config.session := (producerMain_spec inputs closing clockNs hready).after
  exact ⟨hhalted.allowed, hhalted.stop, hhalted.unbraked⟩

end Loop

end HandLab.SmoothSession
