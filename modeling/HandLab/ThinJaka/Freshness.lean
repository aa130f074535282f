import HandLab.ThinJaka.Sends

/-!
# Freshness at the time of sending

`OfferLatest` checks that a command is inside its validity window; the command
then waits in the slot for a tick, which does not check again. The reference
consumers do. `sends_fresh_iff` says of which runs every fresh command is inside
its window when it is sent.
-/

namespace HandLab.ThinJaka

open HandLab.Lib HandLab.CommandAbi

variable {κ δ : Type*}

/-- The time is inside the validity window of the command. -/
def InWindow (command : ShapedJointCommandV1 δ) (nowNs : ℤ) : Prop :=
  command.generatedMonotonicNs ≤ nowNs ∧ nowNs ≤ command.validUntilMonotonicNs

instance (command : ShapedJointCommandV1 δ) (nowNs : ℤ) : Decidable (InWindow command nowNs) :=
  inferInstanceAs (Decidable (_ ∧ _))

/-- A command that `Send` hands over is inside its window at the `now_ns` of the call. -/
def SentFresh (e : Event δ) (_past : List (Event δ)) : Prop :=
  ∀ command nowNs, e.sent = some (command, nowNs) → InWindow command nowNs

theorem SentFresh.of_none {e : Event δ} {past : List (Event δ)} (he : e.sent = none) :
    SentFresh e past := by
  intro command nowNs h
  rw [he] at h
  cases h

theorem sentFresh_send {sender : Sender} {command : ShapedJointCommandV1 δ} {nowNs : ℤ}
    {r : JakaFunctionResult} {past : List (Event δ)} :
    SentFresh (.send sender command nowNs r) past ↔ InWindow command nowNs := by
  constructor
  · exact fun h => h command nowNs rfl
  · rintro h _ _ ⟨⟩
    exact h

/-- The same, as a test on the list of what was sent. -/
theorem whenever_sentFresh_iff {h : List (Event δ)} :
    Whenever SentFresh h ↔ ∀ x ∈ h.filterMap Event.sent, InWindow x.1 x.2 := by
  induction h with
  | nil => simp
  | cons e h ih =>
    rw [whenever_cons, ih]
    cases he : e.sent with
    | none =>
      rw [List.filterMap_cons_none he]
      exact and_iff_right (.of_none he)
    | some x =>
      rw [List.filterMap_cons_some he, List.forall_mem_cons]
      refine and_congr_left fun _ =>
        ⟨fun hfresh => hfresh x.1 x.2 he, fun hw command nowNs hs => ?_⟩
      cases he.symm.trans hs
      exact hw

/-- Only commands inside their window are handed over. -/
def freshOnly (_ : Sender) (command : ShapedJointCommandV1 δ) (nowNs : ℤ) : Prop :=
  InWindow command nowNs

variable {config : ThinJakaConfig δ}

theorem Move.sentFresh {p q : Protocol δ} (hmove : Move config freshOnly p q)
    (h : Whenever SentFresh p.history) : Whenever SentFresh q.history :=
  hmove.whenever_sent (fun _ _ => .of_none) h
    (fun _ _ _ _ _ _ _ hallow => sentFresh_send.mpr hallow)
    (fun _ _ _ _ hallow => sentFresh_send.mpr hallow)

section Runs

variable [Double δ] (sdk : JakaSdkFunctionTable κ δ) (config : ThinJakaConfig δ)

/-- The condition on a call: `StartStreaming` sends at a time that is not
    negative, which is when `Validate` looks at the window; a tick that gets
    past its timing check and its status poll comes before the slot's command
    has expired, and not before it was generated. -/
def InTime (m : Machine κ δ) : Call δ → Prop
  | .startStreaming command nowNs => sendsFirst config m command nowNs → 0 ≤ nowNs
  | .tick nowNs => (tickGate sdk config m nowNs).1 = .ok → ∀ command,
      m.protocol.pending = some command →
        ¬(nowNs < command.generatedMonotonicNs ∨ command.validUntilMonotonicNs < nowNs)
  | _ => True

/-- A first command that is accepted is in its window, unless the time is negative. -/
theorem inWindow_first_iff {m : Machine κ δ} {command : ShapedJointCommandV1 δ} {nowNs : ℤ}
    (h : sendsFirst config m command nowNs) : InWindow command nowNs ↔ 0 ≤ nowNs := by
  obtain ⟨-, -, hvalid, -⟩ := h
  have haccepted := validateCommand_ok hvalid
  have hgenerated := haccepted.generated_nonneg
  constructor
  · intro hw
    have hlow := hw.1
    omega
  · exact fun hnow => haccepted.fresh hnow

theorem inTime_iff_allows (m : Machine κ δ) (call : Call δ) :
    InTime sdk config m call ↔ Allows sdk config freshOnly m call := by
  cases call with
  | startStreaming command nowNs =>
    constructor
    · exact fun h hsends => (inWindow_first_iff config hsends).mpr (h hsends)
    · exact fun h hsends => (inWindow_first_iff config hsends).mp (h hsends)
  | tick nowNs => simp only [InTime, Allows, freshOnly, InWindow, not_or, not_lt]
  | _ => exact Iff.rfl

/-- **Main theorem.** In a run every fresh command is inside its validity window
    when it is sent exactly if every call that sends one is in time. -/
theorem sends_fresh_iff (context : κ) (calls : List (Call δ)) :
    Whenever SentFresh (runCalls sdk config context calls).history ↔
      Meets (step sdk config) (InTime sdk config) (.init context) calls := by
  rw [show InTime sdk config = Allows sdk config freshOnly from
    funext fun m => funext fun call => propext (inTime_iff_allows sdk config m call)]
  exact whenever_iff_meets (P := fun p => p.Wf config ∧ Whenever SentFresh p.history)
    ⟨Protocol.wf_init, whenever_nil⟩ (fun _ _ hmove h => ⟨hmove.wf h.1, hmove.sentFresh h.2⟩)
    (fun _ h => h.1) (fun _ h => h.2)
    (fun _ _ => ⟨fun _ _ _ _ h => sentFresh_send.mp h, fun _ _ _ _ _ _ h => sentFresh_send.mp h⟩)
    context calls

end Runs

/-- A command that expires 1 ms after it is offered is sent by the tick 8 ms later. -/
theorem expired_sent : ¬Whenever SentFresh (runCalls restSdk (restConfig : ThinJakaConfig ℚ) 0
    (restCalls ++ [.offerLatest (restCommand .activeTracking 2 24000000 25000000) 24000000,
      .tick 32000000])).history := by
  rw [whenever_sentFresh_iff]
  decide +kernel

end HandLab.ThinJaka
