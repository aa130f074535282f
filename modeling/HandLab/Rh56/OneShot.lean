import HandLab.Lib.History
import HandLab.Rh56.Worker

/-!
# The mailbox of the worker

`Slot` is what the single-slot mailbox of `RH56PcDirectWorker` amounts to: the
sequence in it and whether it is a measured activation, the one-shot force
flag, the last evaluated sequence, and the history. Its moves say what the
producer and the cycles may do to it, an activation being written by the first
cycle that finds it.

* `ActivationSettled`: what the history must show of each activation.
* `SlotMove.orderly`: every move keeps it.
-/

namespace HandLab.Rh56

variable {δ : Type*}

/-! ## What a history says -/

/-- A call of the producer, which replaces or clears the mailbox. -/
def WorkerEvent.isProducer : WorkerEvent δ → Bool
  | .activation _ => true
  | .submitted _ => true
  | .held => true
  | .terminalStop => true
  | .cycle _ => false

/-- The sequence of the target that a cycle evaluates. -/
def WorkerEvent.evaluated? : WorkerEvent δ → Option ℕ
  | .cycle (.commanded target _ _) => some target.sequence
  | .cycle (.staleDropped target) => some target.sequence
  | _ => none

/-- A cycle writes the activation `n`, with force. -/
def WorkerEvent.WritesActivation (n : ℕ) (event : WorkerEvent δ) : Prop :=
  ∃ target, event = .cycle (.commanded target true (.ok true)) ∧ target.sequence = n ∧
    target.measuredActivation = true

instance decidableWritesActivation (n : ℕ) :
    (event : WorkerEvent δ) → Decidable (event.WritesActivation n)
  | .cycle (.commanded target forceWrite result) =>
    decidable_of_iff (forceWrite = true ∧ result.toOption = some true ∧ target.sequence = n ∧
        target.measuredActivation = true) <| by
      constructor
      · rintro ⟨rfl, hresult, hn, hm⟩
        cases result with
        | error e => exact absurd hresult nofun
        | ok written => exact ⟨target, by rw [Option.some.inj hresult], hn, hm⟩
      · rintro ⟨_, ⟨⟩, hn, hm⟩
        exact ⟨rfl, rfl, hn, hm⟩
  | .activation _ | .submitted _ | .held | .terminalStop | .cycle .stopped
  | .cycle (.notActivated _) | .cycle (.staleDropped _) | .cycle (.relieved _)
  | .cycle (.polled _ _) | .cycle .idle => isFalse (by rintro ⟨_, ⟨⟩, -⟩)

/-- What happened since activation `n`: nothing, or the producer replaced or
    cleared it, or a cycle wrote it; and no cycle evaluated it after that. -/
def ActivationSettled (n : ℕ) (later : List (WorkerEvent δ)) : Prop :=
  later = [] ∨ ∃ newer first, later = newer ++ [first] ∧
    (first.isProducer = true ∨ first.WritesActivation n) ∧
    ∀ event ∈ newer, event.evaluated? ≠ some n

instance (n : ℕ) (later : List (WorkerEvent δ)) : Decidable (ActivationSettled n later) :=
  decidable_of_iff (later = [] ∨ ∃ first, later.getLast? = some first ∧
      (first.isProducer = true ∨ first.WritesActivation n) ∧
      ∀ event ∈ later.dropLast, event.evaluated? ≠ some n) <| by
    refine or_congr Iff.rfl ⟨?_, ?_⟩
    · rintro ⟨first, hlast, hfirst, hnewer⟩
      have hne : later ≠ [] := by rintro rfl; exact absurd hlast nofun
      refine ⟨later.dropLast, first, ?_, hfirst, hnewer⟩
      rw [← List.dropLast_append_getLast hne]
      simp [← Option.some.inj ((List.getLast?_eq_getLast_of_ne_nil hne).symm.trans hlast)]
    · rintro ⟨newer, first, rfl, hfirst, hnewer⟩
      exact ⟨first, by simp, hfirst, by simpa using hnewer⟩

variable {event : WorkerEvent δ}

theorem ActivationSettled.first {n : ℕ}
    (he : event.isProducer = true ∨ event.WritesActivation n) : ActivationSettled n [event] :=
  .inr ⟨[], event, rfl, he, by simp⟩

theorem ActivationSettled.cons {n : ℕ} {later : List (WorkerEvent δ)}
    (h : ActivationSettled n later) (hl : later ≠ []) (he : event.evaluated? ≠ some n) :
    ActivationSettled n (event :: later) := by
  obtain rfl | ⟨newer, first, rfl, hfirst, hnewer⟩ := h
  · exact absurd rfl hl
  · refine .inr ⟨event :: newer, first, rfl, hfirst, ?_⟩
    intro e hmem
    rcases List.mem_cons.mp hmem with rfl | hmem
    · exact he
    · exact hnewer e hmem

/-! ## Moves -/

/-- The mailbox: the sequence in it and whether that is a measured activation,
    the force flag, the sequences, and the history. -/
structure Slot (δ : Type*) where
  pending : Option (ℕ × Bool)
  armed : Bool
  submitted : ℕ
  evaluated : ℕ
  running : Bool
  history : List (WorkerEvent δ)

/-- An activation in the mailbox that no cycle has evaluated. -/
def Slot.Waits (s : Slot δ) (n : ℕ) : Prop := s.pending = some (n, true) ∧ s.evaluated < n

/-- One move of the mailbox. -/
inductive SlotMove : Slot δ → Slot δ → Prop
  | activation {s : Slot δ} (hr : s.running = true) :
      SlotMove s { s with
        pending := some (s.submitted + 1, true)
        armed := true
        submitted := s.submitted + 1
        history := .activation (s.submitted + 1) :: s.history }
  | submitted {s : Slot δ} :
      SlotMove s { s with
        pending := some (s.submitted + 1, false)
        submitted := s.submitted + 1
        history := .submitted (s.submitted + 1) :: s.history }
  | cleared {s : Slot δ} (event : WorkerEvent δ) (he : event = .held ∨ event = .terminalStop) :
      SlotMove s { s with pending := none, armed := false, history := event :: s.history }
  /-- the cycle writes the activation that waits -/
  | written {s : Slot δ} (target : PendingTarget δ) (hw : s.Waits target.sequence)
      (hm : target.measuredActivation = true) :
      SlotMove s { s with
        armed := false
        evaluated := target.sequence
        history := .cycle (.commanded target true (.ok true)) :: s.history }
  /-- any other cycle: no activation waits, and only an ordinary target may be
      evaluated -/
  | served {s : Slot δ} (outcome : CycleOutcome δ) (armed : Bool) (evaluated : ℕ) (running : Bool)
      (hw : ∀ n, ¬s.Waits n)
      (ho : ∀ n, (WorkerEvent.cycle outcome).evaluated? = some n → s.pending = some (n, false))
      (he : evaluated = s.evaluated ∨ s.pending = some (evaluated, false)) :
      SlotMove s { s with armed, evaluated, running, history := .cycle outcome :: s.history }

/-- What every move maintains: the mailbox holds the last sequence, an
    activation that waits is the last event, and every other one is settled for
    good. -/
structure Slot.Orderly (s : Slot δ) : Prop where
  last : ∀ n b, s.pending = some (n, b) → n = s.submitted
  evaluated_le : s.evaluated ≤ s.submitted
  activation_le : ∀ n, .activation n ∈ s.history → n ≤ s.submitted
  ordinary : ∀ n, s.pending = some (n, false) → .activation n ∉ s.history
  waits : ∀ n, s.Waits n → s.armed = true ∧ s.running = true ∧
    ∃ earlier, s.history = .activation n :: earlier ∧ .activation n ∉ earlier
  settled : ∀ n later earlier, s.history = later ++ .activation n :: earlier →
    ActivationSettled n later ∧ (later = [] → s.Waits n)

/-- The first mailbox. -/
def Slot.init (running : Bool) : Slot δ := ⟨none, false, 0, 0, running, []⟩

theorem Slot.orderly_init (running : Bool) : (Slot.init running : Slot δ).Orderly where
  last := nofun
  evaluated_le := le_rfl
  activation_le := nofun
  ordinary := nofun
  waits := by rintro n ⟨h, -⟩; exact absurd h nofun
  settled := by
    intro n later earlier h
    exact absurd h (by simp [Slot.init])

/-- How an activation of a longer history lies in it. -/
theorem append_activation {h later earlier : List (WorkerEvent δ)} {n : ℕ}
    (heq : event :: h = later ++ .activation n :: earlier) :
    later = [] ∧ event = .activation n ∧ h = earlier ∨
      ∃ later', later = event :: later' ∧ h = later' ++ .activation n :: earlier := by
  cases later with
  | nil =>
    obtain ⟨rfl, rfl⟩ := List.cons.inj heq
    exact .inl ⟨rfl, rfl, rfl⟩
  | cons e later' =>
    obtain ⟨rfl, rfl⟩ := List.cons.inj heq
    exact .inr ⟨later', rfl, rfl⟩

variable {s : Slot δ}

/-- The settled activations stay so under an event that is a call of the
    producer, or writes the one that waits, or comes while none waits. -/
theorem Slot.Orderly.settled_cons (hs : s.Orderly)
    (hfirst : ∀ n, s.Waits n → event.isProducer = true ∨ event.WritesActivation n)
    (hlater : ∀ n, event.evaluated? = some n → .activation n ∈ s.history → s.Waits n)
    {n : ℕ} {later earlier : List (WorkerEvent δ)}
    (heq : s.history = later ++ .activation n :: earlier) :
    ActivationSettled n (event :: later) := by
  obtain ⟨hsettled, hnil⟩ := hs.settled n later earlier heq
  cases later with
  | nil => exact .first (hfirst n (hnil rfl))
  | cons e later' =>
    refine hsettled.cons (List.cons_ne_nil e later') fun he => ?_
    -- the event would evaluate an activation that waits, so the last event
    obtain ⟨-, -, earlier', hlast, hnotin⟩ :=
      hs.waits n (hlater n he (by rw [heq]; simp))
    rw [heq] at hlast
    obtain ⟨-, rfl⟩ := List.cons.inj hlast
    exact hnotin (by simp)

/-- `settled` after an event that is not an activation. -/
theorem Slot.Orderly.settled_event (hs : s.Orderly)
    (ha : ∀ n, event ≠ .activation n)
    (hfirst : ∀ n, s.Waits n → event.isProducer = true ∨ event.WritesActivation n)
    (hlater : ∀ n, event.evaluated? = some n → .activation n ∈ s.history → s.Waits n)
    {n : ℕ} {later earlier : List (WorkerEvent δ)}
    (heq : event :: s.history = later ++ .activation n :: earlier) :
    ActivationSettled n later ∧ later ≠ [] := by
  obtain ⟨-, he, -⟩ | ⟨later', rfl, hold⟩ := append_activation heq
  · exact absurd he (ha n)
  · exact ⟨hs.settled_cons hfirst hlater hold, List.cons_ne_nil _ _⟩

theorem Slot.Orderly.activation (hs : s.Orderly) (hr : s.running = true) :
    Slot.Orderly { s with
      pending := some (s.submitted + 1, true)
      armed := true
      submitted := s.submitted + 1
      history := .activation (s.submitted + 1) :: s.history } where
  last := by
    rintro n b ⟨⟩
    rfl
  evaluated_le := hs.evaluated_le.trans (Nat.le_succ _)
  activation_le := by
    intro n hn
    rcases List.mem_cons.mp hn with he | hn
    · exact (WorkerEvent.activation.inj he).le
    · exact (hs.activation_le n hn).trans (Nat.le_succ _)
  ordinary := nofun
  waits := by
    rintro n ⟨⟨⟩, -⟩
    refine ⟨rfl, hr, s.history, rfl, fun hn => ?_⟩
    have hle := hs.activation_le _ hn
    omega
  settled := by
    intro n later earlier heq
    obtain ⟨rfl, he, -⟩ | ⟨later', rfl, hold⟩ := append_activation heq
    · obtain rfl := WorkerEvent.activation.inj he
      exact ⟨.inl rfl, fun _ => ⟨rfl, Nat.lt_succ_of_le hs.evaluated_le⟩⟩
    · exact ⟨hs.settled_cons (fun _ _ => .inl rfl) (by simp [WorkerEvent.evaluated?]) hold, nofun⟩

theorem Slot.Orderly.submitted (hs : s.Orderly) :
    Slot.Orderly { s with
      pending := some (s.submitted + 1, false)
      submitted := s.submitted + 1
      history := .submitted (s.submitted + 1) :: s.history } where
  last := by
    rintro n b ⟨⟩
    rfl
  evaluated_le := hs.evaluated_le.trans (Nat.le_succ _)
  activation_le := by
    intro n hn
    rcases List.mem_cons.mp hn with he | hn
    · exact absurd he nofun
    · exact (hs.activation_le n hn).trans (Nat.le_succ _)
  ordinary := by
    rintro n ⟨⟩ hn
    rcases List.mem_cons.mp hn with he | hn
    · exact absurd he nofun
    · have hle := hs.activation_le _ hn
      omega
  waits := by rintro n ⟨h, -⟩; exact absurd h nofun
  settled := by
    intro n later earlier heq
    obtain ⟨hsettled, hne⟩ := hs.settled_event (by simp) (fun _ _ => .inl rfl)
      (by simp [WorkerEvent.evaluated?]) heq
    exact ⟨hsettled, fun h => absurd h hne⟩

theorem Slot.Orderly.cleared (hs : s.Orderly)
    (he : event = .held ∨ event = .terminalStop) :
    Slot.Orderly { s with pending := none, armed := false, history := event :: s.history } where
  last := nofun
  evaluated_le := hs.evaluated_le
  activation_le := by
    intro n hn
    rcases List.mem_cons.mp hn with ha | hn
    · rcases he with rfl | rfl <;> exact absurd ha nofun
    · exact hs.activation_le n hn
  ordinary := nofun
  waits := by rintro n ⟨h, -⟩; exact absurd h nofun
  settled := by
    intro n later earlier heq
    have hproducer : event.isProducer = true := by rcases he with rfl | rfl <;> rfl
    have hnone : event.evaluated? = none := by rcases he with rfl | rfl <;> rfl
    obtain ⟨hsettled, hne⟩ := hs.settled_event (by rcases he with rfl | rfl <;> nofun)
      (fun _ _ => .inl hproducer) (fun n h => absurd (hnone.symm.trans h) nofun) heq
    exact ⟨hsettled, fun h => absurd h hne⟩

theorem Slot.Orderly.written (hs : s.Orderly) {target : PendingTarget δ}
    (hw : s.Waits target.sequence) (hm : target.measuredActivation = true) :
    Slot.Orderly { s with
      armed := false
      evaluated := target.sequence
      history := .cycle (.commanded target true (.ok true)) :: s.history } where
  last := hs.last
  evaluated_le := (hs.last _ _ hw.1).le
  activation_le := by
    intro n hn
    rcases List.mem_cons.mp hn with ha | hn
    · exact absurd ha nofun
    · exact hs.activation_le n hn
  ordinary := fun n hn => absurd (hw.1.symm.trans hn) (by simp)
  waits := by
    rintro n ⟨hn, hlt⟩
    have heq : target.sequence = n := by simpa using hw.1.symm.trans hn
    exact absurd heq hlt.ne
  settled := by
    intro n later earlier heq
    have hthis : ∀ n, s.Waits n → target.sequence = n := by
      intro n hn
      simpa using hw.1.symm.trans hn.1
    obtain ⟨hsettled, hne⟩ := hs.settled_event (by simp)
      (fun n hn => .inr ⟨target, rfl, hthis n hn, hm⟩)
      (fun n h _ => Option.some.inj h ▸ hw) heq
    exact ⟨hsettled, fun h => absurd h hne⟩

theorem Slot.Orderly.served (hs : s.Orderly) {outcome : CycleOutcome δ}
    {armed : Bool} {evaluated : ℕ} {running : Bool} (hw : ∀ n, ¬s.Waits n)
    (ho : ∀ n, (WorkerEvent.cycle outcome).evaluated? = some n → s.pending = some (n, false))
    (he : evaluated = s.evaluated ∨ s.pending = some (evaluated, false)) :
    Slot.Orderly { s with armed, evaluated, running, history := .cycle outcome :: s.history } where
  last := hs.last
  evaluated_le := by
    rcases he with rfl | he
    · exact hs.evaluated_le
    · exact (hs.last _ _ he).le
  activation_le := by
    intro n hn
    rcases List.mem_cons.mp hn with ha | hn
    · exact absurd ha nofun
    · exact hs.activation_le n hn
  ordinary := by
    intro n hp hn
    rcases List.mem_cons.mp hn with ha | hn
    · exact absurd ha nofun
    · exact hs.ordinary n hp hn
  waits := by
    rintro n ⟨hn, hlt⟩
    rcases he with rfl | he
    · exact absurd ⟨hn, hlt⟩ (hw n)
    · exact absurd (he.symm.trans hn) (by simp)
  settled := by
    intro n later earlier heq
    obtain ⟨hsettled, hne⟩ := hs.settled_event (by simp) (fun n hn => absurd hn (hw n))
      (fun n h hn => absurd hn (hs.ordinary n (ho n h))) heq
    exact ⟨hsettled, fun h => absurd h hne⟩

/-- **Step lemma.** -/
theorem SlotMove.orderly {s t : Slot δ} (hmove : SlotMove s t) (hs : s.Orderly) : t.Orderly := by
  cases hmove with
  | activation hr => exact hs.activation hr
  | submitted => exact hs.submitted
  | cleared event he => exact hs.cleared he
  | written target hw hm => exact hs.written hw hm
  | served outcome armed evaluated running hw ho he => exact hs.served hw ho he

end HandLab.Rh56
