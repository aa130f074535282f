import HandLab.ThinJaka.Sends
import HandLab.FakeJaka.Lifecycle

/-!
# The order of output modes in an epoch

The reference lifecycle accepts a command only if its mode fits the state it is
in (`FakeJaka.acceptsMode`). The thin transport looks at the mode after the SDK
has been called: in the runs whose ticks hand over only commands that the
reference would accept, the modes of each epoch form a prefix of
`ActiveTracking+ ControlledBraking+ Stopped`, and in no others
(`modes_ordered_iff`).
-/

namespace HandLab.ThinJaka

open HandLab.Lib HandLab.CommandAbi

variable {κ δ : Type*}

/-! ## Mode words -/

/-- May a command of this mode follow one of the last mode of the epoch? -/
def follows : OutputMode → Option OutputMode → Bool
  | .activeTracking, none => true
  | .activeTracking, some last => last = .activeTracking
  | .controlledBraking, some last => last = .activeTracking || last = .controlledBraking
  | .stopped, some last => last = .controlledBraking
  | _, _ => false

/-- Every mode, newest first, may follow the one before it. -/
def ModeWord (l : List OutputMode) : Prop := Whenever (fun mode past => follows mode past.head?) l

/-- The modes, oldest first, are a prefix of `ActiveTracking+ ControlledBraking+ Stopped`. -/
def IsModePrefix (l : List OutputMode) : Prop :=
  ∃ i j, l <+: List.replicate (i + 1) .activeTracking ++
    (List.replicate (j + 1) .controlledBraking ++ [.stopped])

/-- The word `ActiveTracking^i ControlledBraking^j`, newest first. -/
def braked (i j : ℕ) : List OutputMode :=
  List.replicate j .controlledBraking ++ List.replicate i .activeTracking

theorem follows_stopped (mode : OutputMode) : follows mode (some .stopped) = false := by
  cases mode <;> rfl

/-- A mode word is a word `ActiveTracking^i ControlledBraking^j`, perhaps
    stopped; what brakes has tracked, and what stops has braked. -/
theorem ModeWord.shape {l : List OutputMode} (h : ModeWord l) :
    ∃ i j, (i = 0 → j = 0) ∧ (l = braked i j ∨ (l = .stopped :: braked i j ∧ j ≠ 0)) := by
  induction l with
  | nil => exact ⟨0, 0, fun h => h, .inl rfl⟩
  | cons mode l ih =>
    obtain ⟨hfollows, hl⟩ := whenever_cons.mp h
    obtain ⟨i, j, hij, rfl | ⟨rfl, hj⟩⟩ := ih hl
    swap
    · rw [List.head?_cons, follows_stopped] at hfollows
      cases hfollows
    cases j with
    | zero =>
      cases i with
      | zero =>
        cases mode with
        | activeTracking => exact ⟨1, 0, by omega, .inl rfl⟩
        | _ => cases hfollows
      | succ i =>
        cases mode with
        | activeTracking => exact ⟨i + 2, 0, by omega, .inl rfl⟩
        | controlledBraking => exact ⟨i + 1, 1, by omega, .inl rfl⟩
        | _ => cases hfollows
    | succ j =>
      cases mode with
      | controlledBraking => exact ⟨i, j + 2, by omega, .inl rfl⟩
      | stopped => exact ⟨i, j + 1, by omega, .inr ⟨rfl, by omega⟩⟩
      | _ => cases hfollows

theorem modeWord_braked (i j : ℕ) : ModeWord (braked (i + 1) j) := by
  induction j with
  | zero =>
    induction i with
    | zero => exact whenever_cons.mpr ⟨rfl, whenever_nil⟩
    | succ i ih => exact whenever_cons.mpr ⟨rfl, ih⟩
  | succ j ih =>
    refine whenever_cons.mpr ⟨?_, ih⟩
    cases j <;> rfl

theorem reverse_braked (i j : ℕ) : (braked i j).reverse =
    List.replicate i .activeTracking ++ List.replicate j .controlledBraking := by
  simp [braked, List.reverse_replicate]

/-- **Mode words.** Read from the oldest, they are the prefixes of
    `ActiveTracking+ ControlledBraking+ Stopped`. -/
theorem isModePrefix_reverse_iff {l : List OutputMode} : IsModePrefix l.reverse ↔ ModeWord l := by
  constructor
  · rintro ⟨i, j, hprefix⟩
    have hword : ModeWord (.stopped :: braked (i + 1) (j + 1)) :=
      whenever_cons.mpr ⟨rfl, modeWord_braked i (j + 1)⟩
    refine hword.of_suffix (List.reverse_prefix.mp ?_)
    rw [List.reverse_cons, reverse_braked, List.append_assoc]
    exact hprefix
  · intro h
    obtain ⟨i, j, hij, rfl | ⟨rfl, hj⟩⟩ := h.shape
    · rw [reverse_braked]
      cases i with
      | zero =>
        rw [hij rfl]
        exact ⟨0, 0, List.nil_prefix⟩
      | succ i =>
        refine ⟨i, j, (List.prefix_append_right_inj _).mpr ?_⟩
        rw [List.replicate_succ', List.append_assoc]
        exact List.prefix_append _ _
    · cases i with
      | zero => exact absurd (hij rfl) hj
      | succ i =>
        obtain ⟨j, rfl⟩ := Nat.exists_eq_succ_of_ne_zero hj
        refine ⟨i, j, ?_⟩
        rw [List.reverse_cons, reverse_braked, List.append_assoc]

/-! ## The modes of an epoch -/

/-- The mode of a command that `Send` hands to `send_joint_position`. -/
def Event.sentMode (e : Event δ) : Option OutputMode := e.sent.map fun x => x.1.outputMode

/-- The modes handed over since the last `kOk` of `RefreshMeasuredState`, newest first. -/
def epochModes (h : List (Event δ)) : List OutputMode :=
  (since Event.isRefreshed h).filterMap Event.sentMode

/-- At every moment the modes of the current epoch are a prefix of
    `ActiveTracking+ ControlledBraking+ Stopped`. -/
def ModesOrdered (h : List (Event δ)) : Prop :=
  Always (fun now => IsModePrefix (epochModes now).reverse) h

/-- A mode handed over follows the last one of the epoch. -/
def ModeFollows (e : Event δ) (past : List (Event δ)) : Prop :=
  ∀ mode, e.sentMode = some mode → follows mode (epochModes past).head? = true

variable {e : Event δ}

theorem ModeFollows.of_none {past : List (Event δ)} (he : e.sentMode = none) :
    ModeFollows e past := by
  intro mode h
  rw [he] at h
  cases h

theorem ModeFollows.of_sent {past : List (Event δ)} (he : e.sent = none) :
    ModeFollows e past :=
  .of_none (by rw [Event.sentMode, he]; rfl)

theorem epochModes_refreshed (he : e.isRefreshed = true) (h : List (Event δ)) :
    epochModes (e :: h) = [] := by
  rw [epochModes, since_cons_of_pos he]
  rfl

theorem epochModes_cons (he : e.isRefreshed = false) (h : List (Event δ)) :
    epochModes (e :: h) = e.sentMode.toList ++ epochModes h := by
  rw [epochModes, since_cons_of_neg he]
  cases hs : e.sentMode with
  | none => rw [List.filterMap_cons_none hs]; rfl
  | some mode => rw [List.filterMap_cons_some hs]; rfl

theorem Event.sentMode_of_isRefreshed (he : e.isRefreshed = true) :
    e.sentMode = none := by
  cases e <;> first | rfl | cases he

theorem modesOrdered_iff {h : List (Event δ)} : ModesOrdered h ↔ Whenever ModeFollows h := by
  refine always_iff_whenever ⟨0, 0, List.nil_prefix⟩ fun e past hpast => ?_
  rw [isModePrefix_reverse_iff] at hpast ⊢
  cases he : e.isRefreshed with
  | true =>
    rw [epochModes_refreshed he]
    exact iff_of_true whenever_nil (.of_none (Event.sentMode_of_isRefreshed he))
  | false =>
    rw [epochModes_cons he]
    cases hs : e.sentMode with
    | none => exact iff_of_true hpast (.of_none hs)
    | some mode =>
      have hlast : ModeFollows e past ↔ follows mode (epochModes past).head? = true := by
        simp [ModeFollows, hs]
      rw [hlast]
      exact whenever_cons.trans (and_iff_left hpast)

/-! ## The invariant -/

/-- The mode rule of the reference for the states in which commands are sent. -/
def ThinJakaState.accepts : ThinJakaState → OutputMode → Bool
  | .streaming, mode => FakeJaka.acceptsMode .streaming mode
  | .controlledStopping, mode => FakeJaka.acceptsMode .controlledStopping mode
  | _, _ => false

/-- What each state knows of the modes of the epoch. -/
def Protocol.ModesKnown (p : Protocol δ) : Prop :=
  match p.state with
  | .disconnected | .connecting | .connected => p.safetyEpoch = 0
  | .servoReady => p.safetyEpoch ≠ 0 → epochModes p.history = []
  | .streaming => (epochModes p.history).head? = some .activeTracking
  | .controlledStopping => (epochModes p.history).head? = some .controlledBraking
  | _ => True

variable {p : Protocol δ}

/-- While commands are sent, the rule of the reference is the order of the modes. -/
theorem Protocol.ModesKnown.accepts_iff (h : p.ModesKnown)
    (hactive : p.state.isActive = true) (mode : OutputMode) :
    p.state.accepts mode = follows mode (epochModes p.history).head? := by
  rcases (ThinJakaState.isActive_iff _).mp hactive with hs | hs <;>
    simp only [Protocol.ModesKnown, hs] at h <;> rw [h, hs] <;> cases mode <;> rfl

theorem Protocol.ModesKnown.fault (h : p.ModesKnown) (reason : StopReason)
    (stop : JakaFunctionResult) : (p.fault reason stop).ModesKnown := by
  by_cases hopen : p.state.isOpen = true
  · simp only [Protocol.ModesKnown, Protocol.fault_state _ _ hopen]
  · rwa [Protocol.fault_of_closed _ _ (by simpa using hopen)]

theorem Protocol.ModesKnown.of_fault (hactive : p.state.isActive = true)
    (reason : StopReason) (stop : JakaFunctionResult) : (p.fault reason stop).ModesKnown := by
  have hopen : p.state.isOpen = true := by
    rcases (ThinJakaState.isActive_iff _).mp hactive with hs | hs <;> rw [hs] <;> rfl
  simp only [Protocol.ModesKnown, Protocol.fault_state _ _ hopen]

theorem Protocol.ModesKnown.handOver (hactive : p.state.isActive = true)
    {command : ShapedJointCommandV1 δ} (haccepts : p.state.accepts command.outputMode = true)
    (nowNs : ℤ) (result stop : JakaFunctionResult) :
    (p.handOver command nowNs result stop).ModesKnown := by
  have hhead (r : JakaFunctionResult) :
      (epochModes (.send p.sender command nowNs r :: p.history)).head? =
        some command.outputMode := rfl
  refine Protocol.handOver_cases
    (fun _ => .of_fault (p := p.log (.send p.sender command nowNs result)) hactive _ _)
    (fun _ hmode => ?_) (fun _ _ _ => trivial)
    (fun _ _ _ => .of_fault (p := (p.log _).count command) hactive _ _)
    (fun _ hbraking hstopped => ?_)
  · exact (hhead .ok).trans (congrArg some hmode)
  · have htracking : p.state = .streaming ∧ command.outputMode = .activeTracking := by
      rcases (ThinJakaState.isActive_iff _).mp hactive with hs | hs <;> rw [hs] at haccepts ⊢ <;>
        cases hmode : command.outputMode <;> rw [hmode] at haccepts hbraking hstopped <;>
        simp_all [ThinJakaState.accepts, FakeJaka.acceptsMode]
    have hknown := (hhead .ok).trans (congrArg some htracking.2)
    unfold Protocol.ModesKnown
    rw [show ((p.log _).count command).state = .streaming from htracking.1]
    exact hknown

variable {config : ThinJakaConfig δ}

/-- Commands are handed over only as the reference accepts them. -/
def accepted (sender : Sender) (command : ShapedJointCommandV1 δ) (_ : ℤ) : Prop :=
  sender.state.accepts command.outputMode = true

theorem epochModes_of_isObservation (he : e.isObservation = true)
    (h : List (Event δ)) : epochModes (e :: h) = epochModes h := by
  cases e <;> first | rfl | simp [Event.isObservation] at he

theorem Move.modesKnown {p q : Protocol δ} (hmove : Move config accepted p q)
    (hwf : p.Wf config) (h : p.ModesKnown) : q.ModesKnown := by
  cases hmove with
  | observe e he =>
    have hmodes := epochModes_of_isObservation he p.history
    unfold Protocol.ModesKnown at h ⊢
    simpa only [Protocol.log, hmodes] using h
  | fault reason stop => exact h.fault reason stop
  | prepared hstate hedg hservo hpolicy =>
    simp only [Protocol.ModesKnown, hstate] at h
    exact fun hzero => absurd h hzero
  | refreshed hstate => exact fun _ => rfl
  | first command nowNs r stop hstate hzero hmode hseq hepoch hallow =>
    exact .handOver (p := { p with state := .streaming }) rfl hallow nowNs r stop
  | deliver command nowNs r stop hpending hallow =>
    exact .handOver (p := { p with pending := none }) (hwf.isActive hpending) hallow nowNs r stop
  | connecting hstate | connected hstate => simpa only [Protocol.ModesKnown, hstate] using h
  | explicitReset hstate hclean howned => rfl
  | _ => trivial

theorem Move.modeFollows {p q : Protocol δ} (hmove : Move config accepted p q)
    (hwf : p.Wf config) (hknown : p.ModesKnown) (h : Whenever ModeFollows p.history) :
    Whenever ModeFollows q.history := by
  refine hmove.whenever_sent (fun _ _ => .of_sent) h
    (fun command nowNs r hstate hzero hmode hepoch hallow => ?_)
    (fun command nowNs r hpending hallow => ?_)
  · simp only [Protocol.ModesKnown, hstate] at hknown
    rintro _ ⟨⟩
    change follows command.outputMode _ = true
    rw [hmode, hknown hzero]
    rfl
  · rintro _ ⟨⟩
    exact (hknown.accepts_iff (hwf.isActive hpending) _).symm.trans hallow

/-- The invariant of the order of modes. -/
structure Protocol.Ordered (config : ThinJakaConfig δ) (p : Protocol δ) : Prop where
  wf : p.Wf config
  known : p.ModesKnown
  sends : Whenever ModeFollows p.history

theorem Move.ordered {p q : Protocol δ} (hmove : Move config accepted p q)
    (h : p.Ordered config) : q.Ordered config where
  wf := hmove.wf h.wf
  known := hmove.modesKnown h.wf h.known
  sends := hmove.modeFollows h.wf h.known h.sends

/-! ## Every run -/

section Runs

variable [Double δ] (sdk : JakaSdkFunctionTable κ δ) (config : ThinJakaConfig δ)

/-- The condition on a call: a tick that gets past its timing check and its
    status poll finds in the slot, if anything, a command whose mode the
    reference accepts in this state. -/
def Fits (m : Machine κ δ) : Call δ → Prop
  | .tick nowNs => (tickGate sdk config m nowNs).1 = .ok → ∀ command,
      m.protocol.pending = some command → m.adapter.state.accepts command.outputMode = true
  | _ => True

theorem fits_iff_allows (m : Machine κ δ) (call : Call δ) :
    Fits sdk config m call ↔ Allows sdk config accepted m call := by
  cases call with
  | startStreaming command nowNs =>
    refine iff_of_true trivial fun ⟨_, _, _, hmode, _⟩ => ?_
    rw [accepted, hmode]
    rfl
  | tick nowNs => exact Iff.rfl
  | _ => exact Iff.rfl

/-- **Main theorem.** In a run the modes of every epoch are a prefix of
    `ActiveTracking+ ControlledBraking+ Stopped` exactly if every tick that goes
    on to its send finds a command that the reference would accept. -/
theorem modes_ordered_iff (context : κ) (calls : List (Call δ)) :
    ModesOrdered (runCalls sdk config context calls).history ↔
      Meets (step sdk config) (Fits sdk config) (.init context) calls := by
  rw [modesOrdered_iff, show Fits sdk config = Allows sdk config accepted from
    funext fun m => funext fun call => propext (fits_iff_allows sdk config m call)]
  refine whenever_iff_meets (P := Protocol.Ordered config) ⟨Protocol.wf_init, rfl, whenever_nil⟩
    (fun _ _ hmove h => hmove.ordered h) (fun _ h => h.wf) (fun _ h => h.sends)
    (fun m hm => ⟨fun command nowNs r hfirst _ => ?_, fun command nowNs r past hpast hslot h => ?_⟩)
    context calls
  · rw [accepted, hfirst.2.2.2.1]
    rfl
  · have hmodes : epochModes past = epochModes m.history := by
      rcases hpast with rfl | ⟨s, rfl⟩ <;> rfl
    have hfollows := h command.outputMode rfl
    rw [hmodes] at hfollows
    exact (hm.known.accepts_iff (hm.wf.isActive hslot) _).trans hfollows

end Runs

/-- An inactive command passes `OfferLatest`, and the next tick sends its zero
    position while the arm is tracking. -/
theorem inactive_sent : ¬ModesOrdered (runCalls restSdk (restConfig : ThinJakaConfig ℚ) 0
    (restCalls ++ [.offerLatest (restCommand .inactive 2 24000000 80000000) 24000000,
      .tick 32000000])).history := by
  intro h
  have hnow := isModePrefix_reverse_iff.mp h.now
  have hmodes : epochModes (runCalls restSdk (restConfig : ThinJakaConfig ℚ) 0
      (restCalls ++ [.offerLatest (restCommand .inactive 2 24000000 80000000) 24000000,
        .tick 32000000])).history = [.inactive, .activeTracking] := by decide +kernel
  rw [hmodes] at hnow
  exact absurd (whenever_cons.mp hnow).1 (by decide)

end HandLab.ThinJaka
