import Mathlib.Data.List.Basic
import Mathlib.Data.Int.Order.Basic

/-!
# Bounded queues that drop the oldest entry

A producer that finds the queue full takes the oldest entry out and tries once
more. A consumer takes entries, executes them, and marks them. Both count what
they started and finished in a shared counter, in steps of their own, so the
producer and the consumer interleave at every one of them.

Entries are numbered in the order in which the producer started to send them.
`Lane` is one queue with what producer and consumer hold, `Lane.outstanding` what
the counter ought to be.

* `Lane.Orderly`: entries are executed in order and at most once, and one that is
  neither executed nor outstanding has been dropped and counted.
-/

namespace HandLab.Lib

/-- What the producer is at. -/
inductive Sending
  | idle
  | putting (n : ℕ)
  | full (n : ℕ)
  /-- took `old` out of the full queue, and has not counted it yet -/
  | dropping (old n : ℕ)
  | retrying (n : ℕ)
  | refused (n : ℕ)
  deriving DecidableEq, Repr

/-- The entry that is being sent. -/
def Sending.newest : Sending → List ℕ
  | .idle => []
  | .putting n | .full n | .dropping _ n | .retrying n | .refused n => [n]

/-- The entry that was taken out. -/
def Sending.oldest : Sending → List ℕ
  | .dropping old _ => [old]
  | .idle | .putting _ | .full _ | .retrying _ | .refused _ => []

/-- What the consumer holds. -/
inductive Hand
  | empty
  | taken (n : ℕ)
  | done (n : ℕ)
  deriving DecidableEq, Repr

/-- The entry that is to be executed. -/
def Hand.due : Hand → List ℕ
  | .taken n => [n]
  | .empty | .done _ => []

/-- The number of entries in the hand. -/
def Hand.count : Hand → ℕ
  | .empty => 0
  | .taken _ | .done _ => 1

/-- A queue with its producer and consumer. -/
structure Lane where
  capacity : ℕ
  sending : Sending := .idle
  queue : List ℕ := []
  hand : Hand := .empty
  drops : ℕ := 0
  /-- the number of entries that the producer started to send -/
  sent : ℕ := 0
  executed : List ℕ := []
  dropped : List ℕ := []
  deriving DecidableEq, Repr

namespace Lane

variable (l : Lane)

/-- The entries that are neither executed nor dropped. -/
def waiting : List ℕ := l.hand.due ++ l.queue ++ l.sending.newest ++ l.sending.oldest

/-- The entries that are counted: those sent and not yet marked or dropped. -/
def outstanding : ℕ :=
  l.hand.count + l.queue.length + l.sending.newest.length + l.sending.oldest.length

/-! ## The producer -/

/-- The producer counts the next entry. -/
def start : Lane := { l with sending := .putting l.sent, sent := l.sent + 1 }

/-- The next step of the producer, and what it adds to the counter. A queue that is not
    empty may look `empty`. -/
def advance (empty : Bool) : Lane × ℤ :=
  match l.sending, l.queue with
  | .idle, _ => (l, 0)
  | .putting n, queue =>
    if queue.length < l.capacity then ({ l with sending := .idle, queue := queue ++ [n] }, 0)
    else ({ l with sending := .full n }, 0)
  | .full n, old :: queue =>
    if empty then ({ l with sending := .retrying n, drops := l.drops + 1 }, 0)
    else ({ l with sending := .dropping old n, queue }, 0)
  | .full n, [] => ({ l with sending := .retrying n, drops := l.drops + 1 }, 0)
  | .dropping old n, _ =>
    ({ l with sending := .retrying n, drops := l.drops + 1, dropped := l.dropped ++ [old] }, -1)
  | .retrying n, queue =>
    if queue.length < l.capacity then ({ l with sending := .idle, queue := queue ++ [n] }, 0)
    else ({ l with sending := .refused n }, 0)
  | .refused n, _ =>
    ({ l with sending := .idle, drops := l.drops + 1, dropped := l.dropped ++ [n] }, -1)

/-! ## The consumer -/

/-- The consumer takes the oldest entry. -/
def take (n : ℕ) (queue : List ℕ) : Lane := { l with hand := .taken n, queue }

/-- The consumer executes the entry in its hand. -/
def execute : Lane :=
  match l.hand with
  | .taken n => { l with hand := .done n, executed := l.executed ++ [n] }
  | .empty | .done _ => l

/-- The consumer lets go of the executed entry. -/
def release : Lane := { l with hand := .empty }

/-! ## Order and accounting -/

/-- The entries in the order of the lane, those that were taken out apart. -/
def line : List ℕ := l.executed ++ l.hand.due ++ l.queue ++ l.sending.newest

/-- Entries are executed in order, and none is lost. -/
structure Orderly : Prop where
  sorted : l.line.Pairwise (· < ·)
  below : ∀ n ∈ l.line, n < l.sent
  accounted : ∀ n < l.sent, n ∈ l.executed ∨ n ∈ l.dropped ∨ n ∈ l.waiting
  counted : l.dropped.length ≤ l.drops

variable {l}

theorem orderly_empty (capacity : ℕ) : Orderly { capacity } where
  sorted := .nil
  below := nofun
  accounted := nofun
  counted := Nat.le_refl _

theorem Orderly.executed_sorted (h : l.Orderly) : l.executed.Pairwise (· < ·) := by
  have hsorted := h.sorted
  unfold line at hsorted
  simp only [List.append_assoc] at hsorted
  exact (List.pairwise_append.mp hsorted).1

theorem Orderly.settled (h : l.Orderly) (hnone : l.outstanding = 0) :
    ∀ n < l.sent, n ∈ l.executed ∨ n ∈ l.dropped := by
  intro n hn
  have hopen : l.waiting = [] := by
    have hhand : l.hand.due.length ≤ l.hand.count := by
      cases l.hand <;> simp [Hand.due, Hand.count]
    unfold outstanding at hnone
    rw [← List.length_eq_zero_iff]
    simp only [waiting, List.length_append]
    omega
  rcases h.accounted n hn with h | h | h
  · exact .inl h
  · exact .inr h
  · rw [hopen] at h
    exact absurd h List.not_mem_nil

/-- A step that keeps the line and what is accounted for. -/
theorem Orderly.of_line (h : l.Orderly) {m : Lane} (hline : m.line.Sublist l.line)
    (hsent : m.sent = l.sent)
    (haccounted : ∀ n, n ∈ l.executed ∨ n ∈ l.dropped ∨ n ∈ l.waiting →
      n ∈ m.executed ∨ n ∈ m.dropped ∨ n ∈ m.waiting)
    (hcounted : m.dropped.length ≤ m.drops) : m.Orderly where
  sorted := h.sorted.sublist hline
  below n hn := hsent ▸ h.below n (hline.subset hn)
  accounted n hn := haccounted n (h.accounted n (hsent ▸ hn))
  counted := hcounted

theorem start_orderly (h : l.Orderly) (hidle : l.sending = .idle) : l.start.Orderly := by
  have hline : l.start.line = l.line ++ [l.sent] := by
    simp [line, start, hidle, Sending.newest]
  refine ⟨?_, ?_, ?_, h.counted⟩
  · rw [hline, List.pairwise_append]
    refine ⟨h.sorted, List.pairwise_singleton _ _, ?_⟩
    intro n hn m hm
    obtain rfl := List.mem_singleton.mp hm
    exact h.below n hn
  · intro n hn
    show n < l.sent + 1
    rw [hline, List.mem_append, List.mem_singleton] at hn
    rcases hn with hn | rfl
    · exact Nat.lt_succ_of_lt (h.below n hn)
    · exact Nat.lt_succ_self _
  · intro n hn
    have hopen : l.start.waiting = l.waiting ++ [l.sent] := by
      simp [waiting, start, hidle, Sending.newest, Sending.oldest]
    rcases Nat.lt_succ_iff_lt_or_eq.mp hn with hn | rfl
    · rcases h.accounted n hn with h | h | h
      · exact .inl h
      · exact .inr (.inl h)
      · exact .inr (.inr (hopen ▸ List.mem_append_left _ h))
    · exact .inr (.inr (hopen ▸ List.mem_append_right _ (List.mem_singleton_self _)))

theorem start_outstanding (hidle : l.sending = .idle) :
    l.start.outstanding = l.outstanding + 1 := by
  simp [outstanding, start, hidle, Sending.newest, Sending.oldest]

theorem advance_outstanding (l : Lane) (empty : Bool) :
    ((l.advance empty).1.outstanding : ℤ) = l.outstanding + (l.advance empty).2 := by
  obtain ⟨capacity, sending, queue, hand, drops, sent, executed, dropped⟩ := l
  cases sending with
  | idle => simp [advance]
  | putting n =>
    simp only [advance]
    split <;> simp [outstanding, Sending.newest, Sending.oldest]
    omega
  | full n =>
    cases queue with
    | nil => simp [advance, outstanding, Sending.newest, Sending.oldest]
    | cons old queue =>
      simp only [advance]
      split <;> simp [outstanding, Sending.newest, Sending.oldest]
      omega
  | dropping old n =>
    simp only [advance, outstanding, Sending.newest, Sending.oldest, List.length_nil,
      List.length_singleton]
    omega
  | retrying n =>
    simp only [advance]
    split <;> simp [outstanding, Sending.newest, Sending.oldest]
    omega
  | refused n =>
    simp only [advance, outstanding, Sending.newest, Sending.oldest, List.length_nil,
      List.length_singleton]
    omega

/-- **Every step of the producer keeps the order.** -/
theorem Orderly.advance (h : l.Orderly) (empty : Bool) : (l.advance empty).1.Orderly := by
  obtain ⟨capacity, sending, queue, hand, drops, sent, executed, dropped⟩ := l
  have hcounted := h.counted
  cases sending with
  | idle => exact h
  | putting n =>
    simp only [Lane.advance]
    split
    · refine h.of_line ?_ rfl ?_ hcounted
      · simp [line, Sending.newest]
      · simp [waiting, Sending.newest, Sending.oldest]
    · exact h.of_line (List.Sublist.refl _) rfl (fun _ h => h) hcounted
  | full n =>
    have hskip : Orderly ⟨capacity, .retrying n, queue, hand, drops + 1, sent, executed, dropped⟩ :=
      h.of_line (List.Sublist.refl _) rfl (fun _ h => h) (Nat.le_succ_of_le hcounted)
    cases queue with
    | nil => exact hskip
    | cons old queue =>
      simp only [Lane.advance]
      split
      · exact hskip
      · refine h.of_line ?_ rfl ?_ hcounted
        · simp [line, Sending.newest]
        · simp [waiting, Sending.newest, Sending.oldest]
          tauto
  | dropping old n =>
    refine h.of_line (List.Sublist.refl _) rfl ?_ ?_
    · simp [Lane.advance, waiting, Sending.newest, Sending.oldest]
      tauto
    · simp only [Lane.advance, List.length_append, List.length_singleton]
      exact Nat.succ_le_succ hcounted
  | retrying n =>
    simp only [Lane.advance]
    split
    · refine h.of_line ?_ rfl ?_ hcounted
      · simp [line, Sending.newest]
      · simp [waiting, Sending.newest, Sending.oldest]
    · exact h.of_line (List.Sublist.refl _) rfl (fun _ h => h) hcounted
  | refused n =>
    refine h.of_line ?_ rfl ?_ ?_
    · simp [Lane.advance, line, Sending.newest]
    · simp [Lane.advance, waiting, Sending.newest, Sending.oldest]
      tauto
    · simp only [Lane.advance, List.length_append, List.length_singleton]
      exact Nat.succ_le_succ hcounted

theorem advance_hand (l : Lane) (empty : Bool) : (l.advance empty).1.hand = l.hand := by
  unfold advance
  split
  all_goals try split
  all_goals rfl

/-! ## Steps of the consumer -/

theorem Orderly.take (h : l.Orderly) (hempty : l.hand = .empty) {n : ℕ} {queue : List ℕ}
    (hqueue : l.queue = n :: queue) : (l.take n queue).Orderly := by
  refine h.of_line ?_ rfl ?_ h.counted
  · simp [line, Lane.take, hempty, hqueue, Hand.due]
  · simp [waiting, Lane.take, hempty, hqueue, Hand.due]

theorem take_outstanding (hempty : l.hand = .empty) {n : ℕ} {queue : List ℕ}
    (hqueue : l.queue = n :: queue) : (l.take n queue).outstanding = l.outstanding := by
  simp [outstanding, Lane.take, hempty, hqueue, Hand.count]
  omega

theorem Orderly.execute (h : l.Orderly) : l.execute.Orderly := by
  obtain ⟨capacity, sending, queue, hand, drops, sent, executed, dropped⟩ := l
  cases hand with
  | empty => exact h
  | done n => exact h
  | taken n =>
    refine h.of_line ?_ rfl ?_ h.counted
    · simp [line, Lane.execute, Hand.due]
    · simp [waiting, Lane.execute, Hand.due]
      tauto

theorem execute_outstanding (l : Lane) : l.execute.outstanding = l.outstanding := by
  obtain ⟨capacity, sending, queue, hand, drops, sent, executed, dropped⟩ := l
  cases hand <;> rfl

theorem Orderly.release (h : l.Orderly) {n : ℕ} (hdone : l.hand = .done n) :
    l.release.Orderly := by
  refine h.of_line ?_ rfl ?_ h.counted
  · simp [line, Lane.release, hdone, Hand.due]
  · simp [waiting, Lane.release, hdone, Hand.due]

theorem release_outstanding {n : ℕ} (hdone : l.hand = .done n) :
    l.release.outstanding + 1 = l.outstanding := by
  simp [outstanding, Lane.release, hdone, Hand.count]
  omega

/-! ## What only grows -/

/-- Another entry may have been sent, executed or dropped. -/
structure Grows (l m : Lane) : Prop where
  sent : l.sent ≤ m.sent
  executed : l.executed ⊆ m.executed
  dropped : l.dropped ⊆ m.dropped

theorem start_grows (l : Lane) : l.Grows l.start :=
  ⟨Nat.le_succ _, List.Subset.refl _, List.Subset.refl _⟩

theorem advance_grows (l : Lane) (empty : Bool) : l.Grows (l.advance empty).1 := by
  unfold advance
  split
  all_goals try split
  all_goals exact ⟨Nat.le_refl _, List.Subset.refl _, by simp⟩

theorem take_grows (l : Lane) (n : ℕ) (queue : List ℕ) : l.Grows (l.take n queue) :=
  ⟨Nat.le_refl _, List.Subset.refl _, List.Subset.refl _⟩

theorem execute_grows (l : Lane) : l.Grows l.execute := by
  unfold execute
  split <;> exact ⟨Nat.le_refl _, by simp, List.Subset.refl _⟩

theorem release_grows (l : Lane) : l.Grows l.release :=
  ⟨Nat.le_refl _, List.Subset.refl _, List.Subset.refl _⟩

end Lane

end HandLab.Lib
