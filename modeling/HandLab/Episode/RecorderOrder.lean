import HandLab.Episode.RecorderProcess
import HandLab.Lib.Run

/-!
# The order of the recorder process

Commands and descriptors are executed in order, over every interleaving of the
callers with the loop.

* `recorder_in_order`: it holds of every interleaving in which no descriptor
  raises, and `next_command` finds no zero count while a command is deferred.
-/

namespace HandLab.Episode

open HandLab.Lib

/-! ## The property -/

/-- The control command that the loop has taken. -/
def Doing.command? : Doing → Option ControlCommand
  | .judge command | .control command => some command
  | _ => none

namespace Recorder

variable (s : Recorder)

/-- The descriptors that are queued or in process. -/
def outstanding : ℕ := (s.lanes .workspace).outstanding + (s.lanes .wrist).outstanding

/-- The commands that are not executed yet, in order. -/
def waitingControls : List ControlCommand :=
  s.doing.command?.toList ++ s.deferredControl.toList ++ s.controlCommands

/-- Every descriptor sent before the command has been executed or dropped. -/
def SettledBefore (command : ControlCommand) : Prop :=
  ∀ role, ∀ n < command.cameras role,
    n ∈ (s.lanes role).executed ∨ n ∈ (s.lanes role).dropped

/-- The loop takes `n` steps in which no queue is spuriously empty. -/
def turns (n : ℕ) : Recorder := run step s (List.replicate n (.loop {}))

/-- Everything is executed in order. -/
structure InOrder : Prop where
  /-- control commands are executed exactly once and in send order -/
  controls : s.executedControls ++ s.waitingControls = s.sentControls
  numbered : s.sentControls.map ControlCommand.number = List.range s.sentControls.length
  /-- descriptors are executed in send order and at most once -/
  cameras : ∀ role, (s.lanes role).executed.Pairwise (· < ·)
  /-- the others wait, or were dropped and counted -/
  accounted : ∀ role, ∀ n < (s.lanes role).sent, n ∈ (s.lanes role).executed ∨
    n ∈ (s.lanes role).dropped ∨ n ∈ (s.lanes role).waiting
  counted : ∀ role, (s.lanes role).dropped.length ≤ (s.lanes role).drops
  /-- a command is executed after every descriptor sent before it -/
  settled : ∀ command, s.doing = .control command → s.SettledBefore command
  pending : s.cameraPending = s.outstanding
  /-- with no descriptor outstanding, the loop reaches the next command -/
  unblocked : s.outstanding = 0 → s.doing = .top → ∀ command,
    s.waitingControls.head? = some command → ∃ n ≤ 8, (s.turns n).doing = .control command

end Recorder

/-! ## The invariant -/

/-- The hand of the loop at a role. -/
def Doing.Holds (doing : Doing) (role : CameraRole) (hand : Hand) : Prop :=
  match doing with
  | .camera r _ => if r = role then ∃ n, hand = .taken n else hand = .empty
  | .mark r _ => if r = role then ∃ n, hand = .done n else hand = .empty
  | _ => hand = .empty

/-- Where the loop may be while a command is deferred. -/
def Doing.mayDefer : Doing → Bool
  | .top | .next | .take .pending _ _ | .camera _ .loop | .mark _ .loop | .ended => true
  | _ => false

/-- The invariant of the interleavings. -/
structure Queued (s : Recorder) : Prop where
  orderly : ∀ role, (s.lanes role).Orderly
  pending : s.cameraPending = s.outstanding
  holds : ∀ role, s.doing.Holds role (s.lanes role).hand
  controls : s.executedControls ++ s.waitingControls = s.sentControls
  numbered : s.sentControls.map ControlCommand.number = List.range s.sentControls.length
  deferred : s.deferredControl.isSome = true → s.doing.mayDefer = true
  known : ∀ command ∈ s.sentControls, ∀ role, command.cameras role ≤ (s.lanes role).sent
  settled : ∀ command, s.doing = .control command → s.SettledBefore command

theorem turns_loop (s : Recorder) (n : ℕ) : s.turns (n + 1) = (s.loop {}).turns n := rfl

variable {command : ControlCommand}

theorem turns_deferred {s : Recorder} (hdoing : s.doing = .top) (hpending : s.cameraPending ≤ 0)
    (hcommand : s.deferredControl = some command) :
    (s.turns 2).doing = .control command := by
  have hjudge : s.loop {} = { s with deferredControl := none, doing := .judge command } := by
    simp [Recorder.loop, hdoing, hcommand, hpending]
  rw [turns_loop, hjudge, turns_loop]
  simp [Recorder.loop, not_lt.mpr hpending]
  rfl

theorem turns_getControl {s : Recorder} (hdoing : s.doing = .getControl)
    (hpending : s.cameraPending ≤ 0) {rest : List ControlCommand}
    (hcommands : s.controlCommands = command :: rest) : (s.turns 2).doing = .control command := by
  have hjudge : s.loop {} =
      { s with controlCommands := rest, cameraBurst := 0, doing := .judge command } := by
    simp [Recorder.loop, hdoing, Recorder.takeControl, hcommands]
  rw [turns_loop, hjudge, turns_loop]
  simp [Recorder.loop, not_lt.mpr hpending]
  rfl

/-- The early scan passes the empty camera queues. -/
theorem turns_early {s : Recorder} (hdoing : s.doing = .take .early false .nowait)
    (hpending : s.cameraPending ≤ 0) (hempty : ∀ role, (s.lanes role).queue = []) :
    s.turns 4 = { s with doing := .getControl } := by
  have hnowait : ∀ second, ({ s with doing := .take .early second .nowait } : Recorder).loop {} =
      { s with doing := .take .early second .check } := by
    intro second
    simp [Recorder.loop, Recorder.takeCamera, Recorder.getCamera, hempty]
  have hcheck : ∀ second, ({ s with doing := .take .early second .check } : Recorder).loop {} =
      { s with doing := if second then .getControl else .take .early true .nowait } := by
    intro second
    simp [Recorder.loop, Recorder.takeCamera, hpending, Scan.exhausted]
  have hstart : s = { s with doing := .take .early false .nowait } := by rw [← hdoing]
  rw [hstart, turns_loop, hnowait, turns_loop, hcheck, if_neg Bool.false_ne_true, turns_loop,
    hnowait, turns_loop, hcheck, if_pos rfl]
  rfl

/-- The loop passes the empty camera queues. -/
theorem turns_queued {s : Recorder} (hdoing : s.doing = .top) (hpending : s.cameraPending ≤ 0)
    (hnone : s.deferredControl = none) (hempty : ∀ role, (s.lanes role).queue = [])
    {rest : List ControlCommand}
    (hcommands : s.controlCommands = command :: rest) :
    ∃ n ≤ 8, (s.turns n).doing = .control command := by
  have hnext : s.loop {} = { s with doing := .next } := by
    simp [Recorder.loop, hdoing, hnone]
  by_cases hburst : s.cameraBurst < 2
  · have hscan : ({ s with doing := .next } : Recorder).loop {} =
        { s with doing := .take .early false .nowait } := by
      simp [Recorder.loop, not_lt.mpr hpending, hburst]
    have hearly : s.turns 2 = { s with doing := .take .early false .nowait } := by
      rw [turns_loop, hnext, turns_loop, hscan]
      rfl
    refine ⟨8, Nat.le_refl 8, ?_⟩
    show (((s.turns 2).turns 4).turns 2).doing = _
    rw [hearly, turns_early (s := { s with doing := .take .early false .nowait }) rfl hpending
      hempty]
    exact turns_getControl (s := { s with doing := .getControl }) rfl hpending hcommands
  · have hscan : ({ s with doing := .next } : Recorder).loop {} =
        { s with doing := .getControl } := by
      simp [Recorder.loop, not_lt.mpr hpending, hburst]
    refine ⟨4, by omega, ?_⟩
    rw [turns_loop, hnext, turns_loop, hscan]
    exact turns_getControl (s := { s with doing := .getControl }) rfl hpending hcommands

theorem Queued.inOrder {s : Recorder} (h : Queued s) : s.InOrder where
  controls := h.controls
  numbered := h.numbered
  cameras role := (h.orderly role).executed_sorted
  accounted role := (h.orderly role).accounted
  counted role := (h.orderly role).counted
  settled := h.settled
  pending := h.pending
  unblocked hnone hdoing command hhead := by
    have hpending : s.cameraPending ≤ 0 := by
      have := h.pending
      omega
    have hempty : ∀ role, (s.lanes role).queue = [] := by
      intro role
      rw [← List.length_eq_zero_iff]
      unfold Recorder.outstanding Lane.outstanding at hnone
      cases role <;> omega
    cases hdeferred : s.deferredControl with
    | some deferred =>
      obtain rfl : deferred = command := by
        simpa [Recorder.waitingControls, hdoing, hdeferred, Doing.command?] using hhead
      exact ⟨2, by omega, turns_deferred hdoing hpending hdeferred⟩
    | none =>
      cases hcommands : s.controlCommands with
      | nil => simp [Recorder.waitingControls, hdoing, hdeferred, hcommands, Doing.command?] at hhead
      | cons first rest =>
        obtain rfl : first = command := by
          simpa [Recorder.waitingControls, hdoing, hdeferred, hcommands, Doing.command?] using hhead
        exact turns_queued hdoing hpending hdeferred hempty hcommands

theorem queued_new (capacity : ℕ) : Queued { capacity } where
  orderly _ := Lane.orderly_empty capacity
  pending := rfl
  holds _ := rfl
  controls := rfl
  numbered := rfl
  deferred := nofun
  known := nofun
  settled := nofun

section Steps

variable {s t : Recorder}

/-- A step that leaves the lanes alone. -/
theorem Queued.turn (h : Queued s) (hlanes : t.lanes = s.lanes)
    (hpending : t.cameraPending = s.cameraPending)
    (hholds : ∀ role, t.doing.Holds role (s.lanes role).hand)
    (hcontrols : t.executedControls ++ t.waitingControls = s.executedControls ++ s.waitingControls)
    (hsent : t.sentControls = s.sentControls)
    (hdeferred : t.deferredControl.isSome = true → t.doing.mayDefer = true)
    (hsettled : ∀ command, t.doing = .control command → s.SettledBefore command) : Queued t where
  orderly := hlanes ▸ h.orderly
  pending := by
    unfold Recorder.outstanding
    rw [hpending, hlanes]
    exact h.pending
  holds := hlanes ▸ hholds
  controls := by rw [hcontrols, hsent, h.controls]
  numbered := hsent ▸ h.numbered
  deferred := hdeferred
  known := by
    rw [hsent, hlanes]
    exact h.known
  settled := by
    unfold Recorder.SettledBefore
    rw [hlanes]
    exact hsettled

theorem outstanding_update {role : CameraRole} {lane : Lane}
    (hlanes : t.lanes = Function.update s.lanes role lane) :
    t.outstanding + (s.lanes role).outstanding = s.outstanding + lane.outstanding := by
  unfold Recorder.outstanding
  rw [hlanes]
  cases role <;> simp <;> omega

/-- A step that changes the lane of a role. -/
theorem Queued.lane (h : Queued s) {role : CameraRole} {lane : Lane}
    (hlanes : t.lanes = Function.update s.lanes role lane) (horderly : lane.Orderly)
    (hgrows : (s.lanes role).Grows lane)
    (hpending : t.cameraPending + (s.lanes role).outstanding =
      s.cameraPending + lane.outstanding)
    (hholds : ∀ r, t.doing.Holds r (Function.update s.lanes role lane r).hand)
    (hcontrols : t.executedControls ++ t.waitingControls = s.executedControls ++ s.waitingControls)
    (hsent : t.sentControls = s.sentControls)
    (hdeferred : t.deferredControl.isSome = true → t.doing.mayDefer = true)
    (hsettled : ∀ command, t.doing = .control command → s.doing = .control command) :
    Queued t := by
  have hgrown : ∀ r, (s.lanes r).Grows (t.lanes r) := by
    intro r
    rw [hlanes]
    by_cases hr : r = role
    · subst hr
      rwa [Function.update_self]
    · rw [Function.update_of_ne hr]
      exact ⟨Nat.le_refl _, List.Subset.refl _, List.Subset.refl _⟩
  refine ⟨?_, ?_, hlanes ▸ hholds, ?_, hsent ▸ h.numbered, hdeferred, ?_, ?_⟩
  · intro r
    rw [hlanes]
    by_cases hr : r = role
    · subst hr
      rwa [Function.update_self]
    · rw [Function.update_of_ne hr]
      exact h.orderly r
  · have hout := outstanding_update hlanes
    have := h.pending
    omega
  · rw [hcontrols, hsent, h.controls]
  · intro command hcommand r
    exact Nat.le_trans (h.known command (hsent ▸ hcommand) r) (hgrown r).sent
  · intro command hcommand r n hn
    exact (h.settled command (hsettled command hcommand) r n hn).imp
      (fun h => (hgrown r).executed h) fun h => (hgrown r).dropped h

variable {doing : Doing}

theorem holds_update (lanes : CameraRole → Lane) {role : CameraRole} {lane : Lane}
    (hrole : doing.Holds role lane.hand) (hother : ∀ r ≠ role, doing.Holds r (lanes r).hand) :
    ∀ r, doing.Holds r (Function.update lanes role lane r).hand := by
  intro r
  by_cases hr : r = role
  · subst hr
    rwa [Function.update_self]
  · rw [Function.update_of_ne hr]
    exact hother r hr

/-! ## The callers -/

theorem Queued.fails (h : Queued s) : Queued (s.step .fails) :=
  h.turn rfl rfl h.holds rfl rfl h.deferred h.settled

theorem Queued.putControl (h : Queued s) (kind : CommandKind) : Queued (s.putControl kind) := by
  unfold Recorder.putControl
  split
  · refine ⟨h.orderly, h.pending, h.holds, ?_, ?_, h.deferred, ?_, h.settled⟩
    · have hcontrols := h.controls
      simp only [Recorder.waitingControls, ← List.append_assoc] at hcontrols ⊢
      rw [hcontrols]
    · simp [h.numbered, List.range_succ]
    · intro command hcommand role
      rcases List.mem_append.mp hcommand with hcommand | hcommand
      · exact h.known command hcommand role
      · obtain rfl := List.mem_singleton.mp hcommand
        exact Nat.le_refl _
  · exact h.turn rfl rfl h.holds rfl rfl h.deferred h.settled

theorem Queued.send (h : Queued s) (kind : CommandKind) : Queued (s.send kind) := by
  unfold Recorder.send
  split
  · exact h
  · exact h.putControl kind

theorem Queued.sendCamera (h : Queued s) (role : CameraRole) : Queued (s.sendCamera role) := by
  unfold Recorder.sendCamera
  split
  · exact h
  split
  · rename_i hidle
    refine h.lane rfl (Lane.start_orderly (h.orderly role) hidle) (Lane.start_grows _) ?_
      (holds_update s.lanes (h.holds role) fun r _ => h.holds r) rfl rfl h.deferred fun _ h => h
    rw [Lane.start_outstanding hidle]
    push_cast
    omega
  · exact h

theorem Queued.advanceCamera (h : Queued s) (role : CameraRole) (empty : Bool) :
    Queued (s.advanceCamera role empty) := by
  have hlanes : (s.advanceCamera role empty).lanes =
      Function.update s.lanes role ((s.lanes role).advance empty).1 := rfl
  have hholds : s.doing.Holds role ((s.lanes role).advance empty).1.hand := by
    rw [Lane.advance_hand]
    exact h.holds role
  have hout := Lane.advance_outstanding (s.lanes role) empty
  refine h.lane hlanes ((h.orderly role).advance empty) (Lane.advance_grows _ _) ?_
    (holds_update s.lanes hholds fun r _ => h.holds r) rfl rfl h.deferred fun _ h => h
  show s.cameraPending + ((s.lanes role).advance empty).2 + (s.lanes role).outstanding = _
  omega

/-! ## The loop -/

theorem Queued.hands_empty (h : Queued s) (hdoing : s.doing = doing)
    (hholds : ∀ role hand, doing.Holds role hand ↔ hand = .empty) :
    ∀ role, (s.lanes role).hand = .empty :=
  fun role => (hholds role _).mp (hdoing ▸ h.holds role)

/-- A stage with neither a descriptor nor a command in its hands. -/
theorem Queued.free (h : Queued s) (hdoing : s.doing = doing)
    (hholds : ∀ role hand, doing.Holds role hand ↔ hand = .empty) (hcommand : doing.command? = none) :
    (∀ role, (s.lanes role).hand = .empty) ∧ s.doing.command? = none :=
  ⟨h.hands_empty hdoing hholds, hdoing ▸ hcommand⟩

/-- No command is deferred where the loop is not waiting for its descriptors. -/
theorem Queued.none_deferred (h : Queued s) (hdoing : s.doing = doing)
    (hmay : doing.mayDefer = false) : s.deferredControl = none := by
  have hdeferred := h.deferred
  rw [hdoing, hmay] at hdeferred
  exact Option.not_isSome_iff_eq_none.mp fun hsome => Bool.false_ne_true (hdeferred hsome)

theorem Queued.getCamera (h : Queued s) (role : CameraRole) {ingestion : Ingestion}
    (hempty : ∀ r, (s.lanes r).hand = .empty) (hcommand : s.doing.command? = none)
    (hdeferred : s.deferredControl.isSome = true → ingestion = .loop) (o : Outcome)
    {missed : Recorder} (hmissed : Queued missed) :
    Queued (s.getCamera role ingestion o missed) := by
  unfold Recorder.getCamera
  split
  · exact hmissed
  rename_i n queue hqueue
  split
  · exact hmissed
  refine h.lane rfl ((h.orderly role).take (hempty role) hqueue) (Lane.take_grows _ _ _) ?_
    (holds_update s.lanes ?_ ?_) ?_ rfl ?_ nofun
  · rw [Lane.take_outstanding (hempty role) hqueue]
    rfl
  · rw [Doing.Holds, if_pos rfl]
    exact ⟨n, rfl⟩
  · intro r hr
    rw [Doing.Holds, if_neg (Ne.symm hr)]
    exact hempty r
  · simp only [Recorder.waitingControls, hcommand]
    rfl
  · intro hsome
    rw [hdeferred hsome]
    rfl

/-- The loop goes on without having taken a control command. -/
theorem Queued.skip (h : Queued s) (hempty : ∀ r, (s.lanes r).hand = .empty)
    (hholds : ∀ r, doing.Holds r .empty) (hbefore : s.doing.command? = none)
    (hafter : doing.command? = none)
    (hdeferred : s.deferredControl.isSome = true → doing.mayDefer = true) :
    Queued { s with doing } := by
  refine h.turn rfl rfl ?_ ?_ rfl hdeferred ?_
  · intro r
    rw [hempty r]
    exact hholds r
  · simp only [Recorder.waitingControls, hbefore, hafter]
  · intro command hcommand
    obtain rfl : doing = .control command := hcommand
    exact nomatch hafter

/-- **What the interleaving must not do**: a descriptor does not raise, and
    `next_command` does not find a zero count while a command is deferred. -/
def KeepsCount (s : Recorder) : RecorderStep → Prop
  | .loop o => match s.doing with
    | .camera _ _ => o.raises = false
    | .next => s.deferredControl.isSome = true → 0 < s.cameraPending
    | _ => True
  | _ => True

theorem Queued.takeCamera (h : Queued s) {scan : Scan} {second : Bool} {stage : TakeStage}
    (hdoing : s.doing = .take scan second stage) (o : Outcome) :
    Queued (s.takeCamera scan second stage o) := by
  obtain ⟨hempty, hcommand⟩ := h.free hdoing (fun _ _ => Iff.rfl) rfl
  -- only the scan for pending descriptors runs while a command is deferred
  have hscan : s.deferredControl.isSome = true → scan = .pending := by
    intro hsome
    have := h.deferred hsome
    rw [hdoing] at this
    cases scan <;> simp [Doing.mayDefer] at this ⊢
  have hretry : ∀ second stage, Queued { s with doing := .take scan second stage } :=
    fun second stage => h.skip hempty (fun _ => rfl) hcommand rfl fun hsome => by
      rw [hscan hsome]
      rfl
  have hmissed : Queued { s with
      doing := if second then scan.exhausted else .take scan true .nowait } := by
    cases second with
    | false => exact hretry true .nowait
    | true =>
      refine h.skip hempty ?_ hcommand ?_ fun hsome => by rw [hscan hsome]; rfl
      · cases scan <;> exact fun _ => rfl
      · cases scan <;> rfl
  have hfound : ∀ next burst, Queued { s with nextCameraRole := next, cameraBurst := burst } :=
    fun next burst => h.turn rfl rfl h.holds rfl rfl h.deferred h.settled
  let role := if second then s.nextCameraRole.other else s.nextCameraRole
  have hget : ∀ {missed}, Queued missed → Queued (({ s with
      nextCameraRole := role.other
      cameraBurst := scan.burst s.cameraBurst } : Recorder).getCamera role .loop o missed) := by
    intro missed hmissed
    have hscanned := hfound role.other (scan.burst s.cameraBurst)
    exact hscanned.getCamera role hempty hcommand (fun _ => rfl) o hmissed
  cases stage with
  | nowait => exact hget (hretry second .check)
  | check =>
    simp only [Recorder.takeCamera]
    split
    · exact hmissed
    · exact hretry second .wait
  | wait => exact hget hmissed

/-- The loop gets a control command, which it does not while one is deferred. -/
theorem Queued.takeControl (h : Queued s) (hempty : ∀ r, (s.lanes r).hand = .empty)
    (hcommand : s.doing.command? = none) (hdeferred : s.deferredControl = none) (o : Outcome)
    {missed : Doing} (hholds : ∀ r, missed.Holds r .empty) (hmissed : missed.command? = none) :
    Queued (s.takeControl o missed) := by
  have hskip : Queued { s with doing := missed } :=
    h.skip hempty hholds hcommand hmissed fun hsome => by simp [hdeferred] at hsome
  unfold Recorder.takeControl
  split
  · exact hskip
  rename_i command controlCommands hcommands
  split
  · exact hskip
  refine h.turn rfl rfl ?_ ?_ rfl ?_ nofun
  · exact fun r => hempty r
  · show s.executedControls ++ ([command] ++ s.deferredControl.toList ++ controlCommands) = _
    simp [Recorder.waitingControls, hcommand, hdeferred, hcommands]
  · intro hsome
    simp [hdeferred] at hsome

theorem Queued.settledBefore (h : Queued s) (hpending : s.cameraPending ≤ 0)
    {command : ControlCommand} (hcommand : command ∈ s.sentControls) : s.SettledBefore command := by
  have hnone : s.outstanding = 0 := by
    have := h.pending
    omega
  intro role n hn
  have hlane : (s.lanes role).outstanding = 0 := by
    unfold Recorder.outstanding at hnone
    cases role <;> omega
  exact (h.orderly role).settled hlane n (Nat.lt_of_lt_of_le hn (h.known command hcommand role))

theorem Queued.mem_sent (h : Queued s) {command : ControlCommand}
    (hcommand : command ∈ s.waitingControls) : command ∈ s.sentControls := by
  rw [← h.controls]
  exact List.mem_append_right _ hcommand

/-- The row of a descriptor is written. -/
theorem Queued.execute (h : Queued s) {role : CameraRole} {ingestion : Ingestion}
    (hdoing : s.doing = .camera role ingestion) :
    Queued { s.withLane role (s.lanes role).execute with doing := .mark role ingestion } := by
  obtain ⟨n, hn⟩ : ∃ n, (s.lanes role).hand = .taken n := by
    simpa [hdoing, Doing.Holds] using h.holds role
  have hother : ∀ r ≠ role, (s.lanes r).hand = .empty := fun r hr => by
    simpa [hdoing, Doing.Holds, Ne.symm hr] using h.holds r
  refine h.lane rfl (h.orderly role).execute (Lane.execute_grows _) ?_
    (holds_update s.lanes ?_ ?_) ?_ rfl ?_ (by simp)
  · rw [Lane.execute_outstanding]
    rfl
  · rw [Doing.Holds, if_pos rfl, Lane.execute, hn]
    exact ⟨n, rfl⟩
  · intro r hr
    rw [Doing.Holds, if_neg (Ne.symm hr)]
    exact hother r hr
  · simp only [Recorder.waitingControls, hdoing]
    rfl
  · intro hsome
    cases ingestion with
    | loop => rfl
    | flush => simpa [hdoing, Doing.mayDefer] using h.deferred hsome

/-- `mark_camera_processed`. -/
theorem Queued.mark (h : Queued s) {role : CameraRole} {ingestion : Ingestion}
    (hdoing : s.doing = .mark role ingestion) :
    Queued { s.withLane role (s.lanes role).release with
      cameraPending := max 0 (s.cameraPending - 1)
      doing := ingestion.resumed role } := by
  obtain ⟨n, hn⟩ : ∃ n, (s.lanes role).hand = .done n := by
    simpa [hdoing, Doing.Holds] using h.holds role
  have hother : ∀ r ≠ role, (s.lanes r).hand = .empty := fun r hr => by
    simpa [hdoing, Doing.Holds, Ne.symm hr] using h.holds r
  have hout := Lane.release_outstanding hn
  have hresumed : (ingestion.resumed role).command? = none ∧
      ∀ r, (ingestion.resumed role).Holds r .empty := by
    cases ingestion <;> cases role <;> exact ⟨rfl, fun _ => rfl⟩
  refine h.lane rfl ((h.orderly role).release hn) (Lane.release_grows _) ?_
    (holds_update s.lanes (hresumed.2 role) ?_) ?_ rfl ?_ ?_
  · have hpending := h.pending
    have htotal : (s.lanes role).outstanding ≤ s.outstanding := by
      unfold Recorder.outstanding
      cases role <;> omega
    show max 0 (s.cameraPending - 1) + _ = _
    omega
  · intro r hr
    rw [hother r hr]
    exact hresumed.2 r
  · simp only [Recorder.waitingControls, hdoing, hresumed.1]
    rfl
  · intro hsome
    cases ingestion with
    | loop => rfl
    | flush => simpa [hdoing, Doing.mayDefer] using h.deferred hsome
  · intro command hcommand
    cases hresumed.1.symm.trans (congrArg Doing.command? hcommand)

theorem Queued.control (h : Queued s) {command : ControlCommand}
    (hdoing : s.doing = .control command) (o : Outcome) :
    Queued { s with
      executedControls := s.executedControls ++ [command]
      doing := command.kind.resumed o } := by
  have hempty := h.hands_empty hdoing fun _ _ => Iff.rfl
  have hnone := h.none_deferred hdoing rfl
  have hresumed : (command.kind.resumed o).command? = none ∧
      ∀ r, (command.kind.resumed o).Holds r .empty := by
    cases command.kind <;> unfold CommandKind.resumed <;> dsimp only <;>
      first
      | exact ⟨rfl, fun _ => rfl⟩
      | split <;> exact ⟨rfl, fun _ => rfl⟩
  refine h.turn rfl rfl ?_ ?_ rfl ?_ ?_
  · intro r
    rw [hempty r]
    exact hresumed.2 r
  · have htaken : s.doing.command? = some command := by rw [hdoing]; rfl
    simp [Recorder.waitingControls, htaken, hnone, hresumed.1]
  · intro hsome
    simp [hnone] at hsome
  · intro command' hcommand
    cases hresumed.1.symm.trans (congrArg Doing.command? hcommand)

/-- **Every step of the loop that keeps the count keeps the order.** -/
theorem Queued.loop (h : Queued s) (o : Outcome) (hkeeps : KeepsCount s (.loop o)) :
    Queued (s.loop o) := by
  unfold Recorder.loop
  cases hdoing : s.doing with
  | take scan second stage => exact h.takeCamera hdoing o
  | ended => exact h
  | top =>
    obtain ⟨hempty, hcommand⟩ := h.free hdoing (fun _ _ => Iff.rfl) rfl
    have hnext : Queued { s with doing := .next } :=
      h.skip hempty (fun _ => rfl) hcommand rfl fun _ => rfl
    dsimp only
    split
    · rename_i command hsome
      split
      · refine h.turn rfl rfl (fun r => hempty r) ?_ rfl (by simp) (by simp)
        show s.executedControls ++ ([command] ++ [] ++ s.controlCommands) = _
        simp [Recorder.waitingControls, hcommand, hsome]
      · exact hnext
    · exact hnext
  | next =>
    obtain ⟨hempty, hcommand⟩ := h.free hdoing (fun _ _ => Iff.rfl) rfl
    have hwaits : s.deferredControl.isSome = true → 0 < s.cameraPending := by
      simpa [KeepsCount, hdoing] using hkeeps
    dsimp only
    split
    · exact h.skip hempty (fun _ => rfl) hcommand rfl fun _ => rfl
    rename_i hzero
    split
    · exact h.skip hempty (fun _ => rfl) hcommand rfl fun hsome => absurd (hwaits hsome) hzero
    · exact h.skip hempty (fun _ => rfl) hcommand rfl fun hsome => absurd (hwaits hsome) hzero
  | getControl =>
    obtain ⟨hempty, hcommand⟩ := h.free hdoing (fun _ _ => Iff.rfl) rfl
    exact h.takeControl hempty hcommand (h.none_deferred hdoing rfl) o (fun _ => rfl) rfl
  | waitControl =>
    obtain ⟨hempty, hcommand⟩ := h.free hdoing (fun _ _ => Iff.rfl) rfl
    exact h.takeControl hempty hcommand (h.none_deferred hdoing rfl) o (fun _ => rfl) rfl
  | judge command =>
    have hempty := h.hands_empty hdoing fun _ _ => Iff.rfl
    have hnone := h.none_deferred hdoing rfl
    have hwaiting : s.waitingControls = command :: s.controlCommands := by
      simp [Recorder.waitingControls, hdoing, hnone, Doing.command?]
    dsimp only
    split
    · refine h.turn rfl rfl (fun r => hempty r) ?_ rfl (fun _ => rfl) (by simp)
      rw [hwaiting]
      rfl
    · rename_i hzero
      refine h.turn rfl rfl (fun r => hempty r) ?_ rfl ?_ ?_
      · rw [hwaiting]
        show s.executedControls ++ ([command] ++ s.deferredControl.toList ++ s.controlCommands) = _
        rw [hnone]
        rfl
      · intro hsome
        simp [hnone] at hsome
      · intro command' hcommand'
        obtain rfl := Doing.control.inj hcommand'
        refine h.settledBefore (not_lt.mp hzero) (h.mem_sent ?_)
        rw [hwaiting]
        exact List.mem_cons_self
  | camera role ingestion =>
    have hraises : o.raises = false := by simpa [KeepsCount, hdoing] using hkeeps
    dsimp only
    rw [hraises, if_neg Bool.false_ne_true]
    exact h.execute hdoing
  | mark role ingestion => exact h.mark hdoing
  | control command => exact h.control hdoing o
  | flush role drained =>
    obtain ⟨hempty, hcommand⟩ := h.free hdoing (fun _ _ => Iff.rfl) rfl
    have hnone := h.none_deferred hdoing rfl
    refine h.getCamera role hempty hcommand (fun hsome => by simp [hnone] at hsome) o ?_
    refine h.skip hempty ?_ hcommand ?_ fun hsome => by simp [hnone] at hsome
    · cases role <;> cases drained <;> exact fun _ => rfl
    · cases role <;> cases drained <;> rfl

theorem Queued.step (h : Queued s) (step : RecorderStep) (hkeeps : KeepsCount s step) :
    Queued (s.step step) := by
  cases step with
  | fails => exact h.fails
  | send kind => exact h.send kind
  | request kind => exact h.putControl kind
  | sendCamera role => exact h.sendCamera role
  | advanceCamera role empty => exact h.advanceCamera role empty
  | loop o => exact h.loop o hkeeps

end Steps

/-! ## Results -/

/-- **Everything is executed in order**, over every interleaving that keeps the count. -/
theorem recorder_in_order (capacity : ℕ) (steps : List RecorderStep)
    (h : Meets Recorder.step KeepsCount { capacity } steps) :
    (run Recorder.step { capacity } steps).InOrder :=
  (run_invariant_of_meets (P := Queued) (fun _ step hkeeps h => h.step step hkeeps)
    (queued_new capacity) h).inOrder

/-! ## What happens otherwise -/

/-- A descriptor of the workspace camera whose ingestion raises. -/
def raisingDescriptor : List RecorderStep :=
  [.sendCamera .workspace, .advanceCamera .workspace false, .loop {}, .loop {}, .loop {},
    .loop { raises := true }]

/-- **A descriptor that raises stays counted**: nothing is outstanding, and the count
    that every control command waits for is one. -/
theorem raised_counted : ¬(run Recorder.step { capacity := 8 } raisingDescriptor).InOrder :=
  fun h => absurd h.pending (by decide)

/-- The condition is met by a descriptor and a command behind it. -/
theorem recorder_in_order_descriptor : (run Recorder.step { capacity := 8 }
    [.sendCamera .workspace, .advanceCamera .workspace false, .send .control, .loop {}, .loop {},
      .loop {}, .loop {}, .loop {}, .loop {}, .loop {}]).InOrder :=
  recorder_in_order 8 _ ⟨trivial, trivial, trivial, trivial, nofun, trivial, rfl, trivial, trivial,
    nofun, trivial⟩

end HandLab.Episode
