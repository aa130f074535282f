import HandLab.Episode.AsyncWriter

/-!
# The accounts of the asynchronous writer

What was put into the queue is executed in order, and every call that was put is written,
dropped because a frame expired, queued, skipped behind an error, or the one that raised it,
over every interleaving of the producers with the worker.

* `Moves`, `moves_step`: what one step does to the accounts.
* `InOrder.moves`, `Honest.moves`, `Counted.moves`: what it keeps.
* `async_writer_accounted`: it holds of every interleaving.
* `raised_unaccounted`: the call that raises is none of the others.
-/

namespace HandLab.Episode

open HandLab.Lib

variable {δ ι : Type} [Double δ]

/-! ## Accounts -/

/-- Nothing was lost without a trace: a lost sample has left a record of its quality. -/
def Verdict.kept (item : AsyncItem δ ι) : Verdict δ → Bool
  | .written | .terminated _ | .stopped => true
  | .expired quality => quality.isSome || !item.calls .appendSample
  | .failed | .skipped => false

/-- The wrapped writer was called. -/
def Verdict.executed : Verdict δ → Bool
  | .written | .expired _ | .failed | .terminated _ => true
  | .skipped | .stopped => false

/-- A queued call is not terminated, and none else is written. -/
def Verdict.fits (item : AsyncItem δ ι) : Verdict δ → Bool
  | .written | .expired _ | .failed | .skipped => true
  | .terminated _ | .stopped => match item with
    | .call _ => false
    | .terminal _ | .stop => true

def Verdict.isWritten : Verdict δ → Bool
  | .written => true
  | .expired _ | .failed | .skipped | .terminated _ | .stopped => false

def Verdict.isExpired : Verdict δ → Bool
  | .expired _ => true
  | .written | .failed | .skipped | .terminated _ | .stopped => false

def Verdict.isFailed : Verdict δ → Bool
  | .failed => true
  | .written | .expired _ | .skipped | .terminated _ | .stopped => false

def Verdict.isSkipped : Verdict δ → Bool
  | .skipped => true
  | .written | .expired _ | .failed | .terminated _ | .stopped => false

/-- The record of quality that was written. -/
def Verdict.quality? : Verdict δ → Option (Record δ)
  | .expired quality => quality
  | .written | .failed | .skipped | .terminated _ | .stopped => none

def WrappedCall.storedIndex? (c : WrappedCall δ ι) : Option ℤ :=
  match c.call with
  | .appendSample sample => if c.answer = .returned then some sample.frameIndex else none
  | _ => none

/-- The record of quality that was written. -/
def WrappedCall.quality? (c : WrappedCall δ ι) : Option (Record δ) :=
  match c.call with
  | .appendRaw _ record => if c.answer = .returned ∧ c.item.isNone then some record else none
  | _ => none

/-- The status that `finalize` was given. -/
def Verdict.status? : Verdict δ → Option EpisodeStatus
  | .terminated status => status
  | .written | .expired _ | .failed | .skipped | .stopped => none

/-- The status that `finalize` was given. -/
def WrappedCall.status? (c : WrappedCall δ ι) : Option EpisodeStatus :=
  match c.call with
  | .finalize status _ _ => some status
  | _ => none

def Worker.betweenBatches : Worker δ ι → Bool
  | .waiting | .flushing | .ended => true
  | .collecting _ | .running | .wrote _ | .expired _ _ | .judging _ _ | .crashed _ => false

namespace AsyncWriter

/-- The number of calls of a method with such a verdict. -/
def countOf (s : AsyncWriter δ ι) (method : QueuedMethod) (p : Verdict δ → Bool) : ℕ :=
  s.done.countP fun e => e.1.calls method && p e.2

/-- The number of calls of a method that the worker is not done with. -/
def waitingOf (s : AsyncWriter δ ι) (method : QueuedMethod) : ℕ :=
  (s.worker.hand.toList ++ s.items ++ s.queue).countP (AsyncItem.calls method)

/-- Items are executed in the order in which they were put, and each at most once. -/
structure InOrder (s : AsyncWriter δ ι) : Prop where
  order : s.done.map Prod.fst ++ s.worker.hand.toList ++ s.items ++ s.queue = s.accepted
  executed : s.log.filterMap WrappedCall.item =
    (s.done.filter fun e => e.2.executed).map Prod.fst ++ s.worker.hand.toList
  batch : s.worker.betweenBatches = true → s.items = []
  fits : ∀ e ∈ s.done, e.2.fits e.1 = true

/-- The record of quality is that of the sample. -/
def Explains (item : AsyncItem δ ι) (quality : Record δ) : Prop :=
  ∃ sample role found, item = .call (.appendSample sample) ∧
    quality = expiredQuality sample role found

/-- What the wrapped writer is told of the end. -/
structure Honest (s : AsyncWriter δ ι) : Prop where
  clean : s.error = false → ∀ e ∈ s.done, e.2.kept e.1 = true
  completed : ∀ before item after,
    s.done = before ++ (item, .terminated (some .completed)) :: after →
      ∀ e ∈ before, e.2.kept e.1 = true
  once : s.done.countP (fun e => e.2.isFailed) ≤ 1
  qualities : s.log.filterMap WrappedCall.quality? = s.done.filterMap fun e => e.2.quality?
  statuses : s.log.filterMap WrappedCall.status? = s.done.filterMap fun e => e.2.status?
  ofSample : ∀ e ∈ s.done, ∀ quality, e.2.quality? = some quality → Explains e.1 quality

/-- What the counters say. -/
structure Counted (s : AsyncWriter δ ι) : Prop where
  enqueued : ∀ method, s.enqueuedByMethod method + s.counting.count method =
    s.accepted.countP (AsyncItem.calls method)
  written : ∀ method, s.writtenByMethod method = s.countOf method Verdict.isWritten
  stored : s.log.filterMap WrappedCall.storedIndex? = (List.range s.sampleCount).map Int.ofNat

/-! ## What a step does -/

section Steps

variable {s s' : AsyncWriter δ ι}

/-- What one step does to the accounts. -/
inductive Moves (s s' : AsyncWriter δ ι) : Prop
  /-- items are put into the queue and taken out of it -/
  | moved (new : List (AsyncItem δ ι))
      (hkept : s'.done = s.done ∧ s'.log = s.log ∧ s'.sampleCount = s.sampleCount ∧
        s'.writtenByMethod = s.writtenByMethod)
      (haccepted : s'.accepted = s.accepted ++ new)
      (hcounted : ∀ method, s'.enqueuedByMethod method + s'.counting.count method =
        s.enqueuedByMethod method + s.counting.count method + new.countP (AsyncItem.calls method))
      (hwaiting : s'.items ++ s'.queue = s.items ++ s.queue ++ new)
      (hhand : s'.worker.hand = s.worker.hand)
      (hbatch : s'.worker.betweenBatches = true → s'.items = [])
      (herror : s'.error = false → s.error = false)
  /-- the wrapped writer answers a call, which the worker is not done with -/
  | called (call : QueuedCall δ ι) (answer : WrappedAnswer)
      (hkept : s'.queue = s.queue ∧ s'.accepted = s.accepted ∧ s'.done = s.done ∧
        s'.error = s.error ∧ s'.enqueuedByMethod = s.enqueuedByMethod ∧
        s'.counting = s.counting ∧ s'.writtenByMethod = s.writtenByMethod)
      (htaken : s.worker.hand = none ∧ s.items = .call call :: s'.items)
      (hlog : s'.log = s.log ++ [⟨some (.call call), call.wrapped s.sampleCount, answer⟩])
      (hcount : s'.sampleCount = if call.method = .appendSample ∧ answer = .returned then
        s.sampleCount + 1 else s.sampleCount)
      (hhand : s'.worker.hand = some (.call call))
  /-- the worker is done with an item, behind some calls of the wrapped writer -/
  | settled (item : AsyncItem δ ι) (verdict : Verdict δ) (calls : List (WrappedCall δ ι))
      (hkept : s'.queue = s.queue ∧ s'.accepted = s.accepted ∧
        s'.enqueuedByMethod = s.enqueuedByMethod ∧ s'.counting = s.counting ∧
        s'.sampleCount = s.sampleCount)
      (htaken : s.worker.hand.toList ++ s.items = item :: s'.items)
      (hdone : s'.done = s.done ++ [(item, verdict)] ∧ s'.worker = .running)
      (hlog : s'.log = s.log ++ calls)
      (hcalls : s.worker.hand.toList ++ calls.filterMap WrappedCall.item =
        if verdict.executed then [item] else [])
      (hgiven : calls.filterMap WrappedCall.quality? = verdict.quality?.toList ∧
        calls.filterMap WrappedCall.status? = verdict.status?.toList ∧
        calls.filterMap WrappedCall.storedIndex? = [])
      (hwritten : ∀ method, s'.writtenByMethod method = s.writtenByMethod method +
        if verdict.isWritten && item.calls method then 1 else 0)
      (hfits : verdict.fits item = true)
      (hquality : ∀ quality, verdict.quality? = some quality → Explains item quality)
      (hclean : verdict = .terminated (some .completed) ∨ verdict.isFailed = true →
        s.error = false)
      (herror : s'.error = false → s.error = false ∧ verdict.kept item = true)

theorem Moves.waited (hkept : s'.done = s.done ∧ s'.log = s.log ∧
      s'.sampleCount = s.sampleCount ∧ s'.writtenByMethod = s.writtenByMethod)
    (haccepted : s'.accepted = s.accepted)
    (hcounted : ∀ method, s'.enqueuedByMethod method + s'.counting.count method =
      s.enqueuedByMethod method + s.counting.count method)
    (hwaiting : s'.items ++ s'.queue = s.items ++ s.queue)
    (hhand : s'.worker.hand = s.worker.hand)
    (hbatch : s'.worker.betweenBatches = true → s'.items = [])
    (herror : s'.error = false → s.error = false) : Moves s s' :=
  .moved [] hkept (haccepted.trans (List.append_nil _).symm) hcounted
    (hwaiting.trans (List.append_nil _).symm) hhand hbatch herror

theorem Worker.betweenBatches_of_hand {worker : Worker δ ι} {item : AsyncItem δ ι}
    (h : worker.hand = some item) : worker.betweenBatches = false := by
  cases worker with
  | wrote call => rfl
  | expired call role => rfl
  | judging sample role => rfl
  | crashed sample => rfl
  | _ => exact nomatch h

/-- `COMPLETED` is given on where there was no error. -/
theorem error_of_completed {call : TerminalCall}
    (h : (s.terminalCall call).2 = some .completed) : s.error = false := by
  unfold AsyncWriter.terminalCall at h
  cases call with
  | discardRejectedStart reason => exact nomatch h
  | finalize status reason releaseNs =>
    dsimp only at h
    split at h
    · exact nomatch h
    split at h
    · exact nomatch h
    · rename_i hnone
      exact Bool.eq_false_of_not_eq_true hnone

/-- A terminal call leaves no record of quality, stores no sample, and gives its status. -/
theorem terminal_entry (s : AsyncWriter δ ι) (call : TerminalCall) (answer : WrappedAnswer) :
    let entry : WrappedCall δ ι := ⟨some (.terminal call), (s.terminalCall call).1, answer⟩
    [entry].filterMap WrappedCall.quality? = [] ∧
      [entry].filterMap WrappedCall.status? = (s.terminalCall call).2.toList ∧
      [entry].filterMap WrappedCall.storedIndex? = [] := by
  unfold AsyncWriter.terminalCall
  cases call with
  | discardRejectedStart reason => exact ⟨rfl, rfl, rfl⟩
  | finalize status reason releaseNs =>
    dsimp only
    split
    · exact ⟨rfl, rfl, rfl⟩
    split
    · exact ⟨rfl, rfl, rfl⟩
    · exact ⟨rfl, rfl, rfl⟩

/-- A queued call leaves no record of quality and gives no status; one that returns stores its
    sample. -/
theorem call_entry (call : QueuedCall δ ι) (n : ℕ) (answer : WrappedAnswer) :
    let entry : WrappedCall δ ι := ⟨some (.call call), call.wrapped n, answer⟩
    entry.quality? = none ∧ entry.status? = none ∧ entry.storedIndex? =
      if call.method = .appendSample ∧ answer = .returned then some (n : ℤ) else none := by
  intro entry
  cases call with
  | appendSample sample =>
    refine ⟨rfl, rfl, ?_⟩
    simp [entry, WrappedCall.storedIndex?, QueuedCall.wrapped, QueuedCall.method]
  | appendRaw stream record =>
    refine ⟨?_, rfl, (if_neg fun h => nomatch h.1).symm⟩
    simp [entry, WrappedCall.quality?, QueuedCall.wrapped]
  | _ => exact ⟨rfl, rfl, (if_neg fun h => nomatch h.1).symm⟩

variable {item : AsyncItem δ ι} {rest : List (AsyncItem δ ι)}

theorem moves_execute (hitems : s.items = item :: rest) (hworker : s.worker = .running)
    (answer : WrappedAnswer) : Moves s (AsyncWriter.execute { s with items := rest } item answer) := by
  have hhand : s.worker.hand = none := by rw [hworker]; rfl
  have htaken : s.worker.hand.toList ++ s.items = item :: rest := by rw [hhand, hitems]; rfl
  cases item with
  | stop =>
    exact .settled .stop .stopped [] ⟨rfl, rfl, rfl, rfl, rfl⟩ htaken ⟨rfl, rfl⟩
      (List.append_nil _).symm (by rw [hhand]; rfl) ⟨rfl, rfl, rfl⟩ (fun _ => rfl) rfl nofun
      (by simp [Verdict.isFailed]) fun hnone => ⟨hnone, rfl⟩
  | terminal call =>
    refine .settled (.terminal call) (.terminated (s.terminalCall call).2) [_]
      ⟨rfl, rfl, rfl, rfl, rfl⟩ htaken ⟨rfl, rfl⟩ rfl (by rw [hhand]; rfl)
      (terminal_entry s call answer) (fun _ => rfl) rfl nofun ?_ fun hnone => ⟨hnone, rfl⟩
    rintro (hcompleted | hfailed)
    · exact error_of_completed (Verdict.terminated.inj hcompleted)
    · exact nomatch hfailed
  | call call =>
    unfold AsyncWriter.execute
    dsimp only
    split
    · rename_i herror
      exact .settled (.call call) .skipped [] ⟨rfl, rfl, rfl, rfl, rfl⟩ htaken ⟨rfl, rfl⟩
        (List.append_nil _).symm (by rw [hhand]; rfl) ⟨rfl, rfl, rfl⟩
        (fun _ => rfl) rfl nofun (by simp [Verdict.isFailed])
        fun hnone => nomatch herror.symm.trans hnone
    rename_i hnone
    cases answer with
    | returned =>
      exact .called call .returned ⟨rfl, rfl, rfl, rfl, rfl, rfl, rfl⟩ ⟨hhand, hitems⟩ rfl
        (by simp only [and_true]) rfl
    | unavailable role =>
      exact .called call (.unavailable role) ⟨rfl, rfl, rfl, rfl, rfl, rfl, rfl⟩ ⟨hhand, hitems⟩
        rfl (if_neg fun h => nomatch h.2).symm rfl
    | raised =>
      obtain ⟨hquality, hstatus, hstored⟩ := call_entry call s.sampleCount .raised
      refine .settled (.call call) .failed [_] ⟨rfl, rfl, rfl, rfl, rfl⟩ htaken ⟨rfl, rfl⟩ rfl
        (by rw [hhand]; rfl) ⟨?_, ?_, ?_⟩ (fun _ => rfl) rfl nofun
        (fun _ => Bool.eq_false_of_not_eq_true hnone) nofun
      · rw [List.filterMap_cons_none hquality]; rfl
      · rw [List.filterMap_cons_none hstatus]; rfl
      · rw [List.filterMap_cons_none (by rw [hstored]; simp)]; rfl

/-- The item at hand is settled. -/
theorem moves_hand {verdict : Verdict δ} {calls : List (WrappedCall δ ι)}
    (hhand : s.worker.hand = some item)
    (hkept : s'.queue = s.queue ∧ s'.accepted = s.accepted ∧
      s'.enqueuedByMethod = s.enqueuedByMethod ∧ s'.counting = s.counting ∧
      s'.sampleCount = s.sampleCount)
    (hdone : s'.done = s.done ++ [(item, verdict)] ∧ s'.worker = .running)
    (hitems : s'.items = s.items) (hlog : s'.log = s.log ++ calls)
    (hcalls : calls.filterMap WrappedCall.item = [] ∧
      calls.filterMap WrappedCall.quality? = verdict.quality?.toList ∧
      calls.filterMap WrappedCall.status? = [] ∧
      calls.filterMap WrappedCall.storedIndex? = [])
    (hverdict : verdict = .written ∨ ∃ quality, verdict = .expired quality)
    (hwritten : ∀ method, s'.writtenByMethod method = s.writtenByMethod method +
      if verdict.isWritten && item.calls method then 1 else 0)
    (hquality : ∀ quality, verdict.quality? = some quality → Explains item quality)
    (herror : s'.error = false → s.error = false ∧ verdict.kept item = true) : Moves s s' := by
  obtain ⟨hitem, hqualities, hstatuses, hstored⟩ := hcalls
  have hfits : verdict.executed = true ∧ verdict.status?.toList = [] ∧ verdict.fits item = true ∧
      ¬(verdict = .terminated (some .completed) ∨ verdict.isFailed = true) := by
    rcases hverdict with rfl | ⟨quality, rfl⟩ <;> exact ⟨rfl, rfl, rfl, by simp [Verdict.isFailed]⟩
  refine .settled item verdict calls hkept ?_ hdone hlog ?_
    ⟨hqualities, hstatuses.trans hfits.2.1.symm, hstored⟩ hwritten hfits.2.2.1 hquality
    (fun h => absurd h hfits.2.2.2) herror
  · rw [hhand, hitems]; rfl
  · rw [hhand, hitem, if_pos hfits.1]; rfl

theorem moves_judge {sample : CanonicalSample δ ι} {role : CameraRole}
    (hworker : s.worker = .judging sample role) (m : Meeting) : Moves s (s.judge sample role m) := by
  have hhand : s.worker.hand = some (.call (.appendSample sample)) := by rw [hworker]; rfl
  unfold AsyncWriter.judge
  split
  · exact .waited ⟨rfl, rfl, rfl, rfl⟩ rfl (fun _ => rfl) rfl hhand.symm nofun id
  dsimp only
  split
  · rename_i hreturned
    refine moves_hand hhand ⟨rfl, rfl, rfl, rfl, rfl⟩ ⟨rfl, rfl⟩ rfl rfl ⟨rfl, ?_, rfl, rfl⟩
      (.inr ⟨_, rfl⟩) (fun _ => rfl)
      (fun quality hquality => ⟨sample, role, m.found, rfl, (Option.some.inj hquality).symm⟩)
      fun hnone => ⟨hnone, rfl⟩
    simp [WrappedCall.quality?, hreturned, Verdict.quality?]
  · rename_i hreturned
    refine moves_hand hhand ⟨rfl, rfl, rfl, rfl, rfl⟩ ⟨rfl, rfl⟩ rfl rfl ⟨rfl, ?_, rfl, rfl⟩
      (.inr ⟨_, rfl⟩) (fun _ => rfl) nofun nofun
    simp [WrappedCall.quality?, hreturned, Verdict.quality?]

theorem moves_work (hbatch : s.worker.betweenBatches = true → s.items = []) (m : Meeting) :
    Moves s (s.work m) := by
  have hsame : Moves s s :=
    .waited ⟨rfl, rfl, rfl, rfl⟩ rfl (fun _ => rfl) rfl rfl hbatch id
  -- a step that only turns to another part of the loop
  have hturn (worker : Worker δ ι) (hhand : worker.hand = s.worker.hand)
      (hitems : worker.betweenBatches = true → s.items = []) : Moves s { s with worker } :=
    .waited ⟨rfl, rfl, rfl, rfl⟩ rfl (fun _ => rfl) rfl hhand hitems id
  unfold AsyncWriter.work
  split
  · rename_i hworker
    have hitems := hbatch (by rw [hworker]; rfl)
    split
    · exact hsame
    · rename_i item rest hqueue
      exact .waited ⟨rfl, rfl, rfl, rfl⟩ rfl (fun _ => rfl) (by simp [hitems, hqueue])
        (by rw [hworker]; rfl) nofun id
  · rename_i hworker
    exact hturn _ (by rw [hworker]; rfl) nofun
  · rename_i left hworker
    split
    · exact hturn _ (by rw [hworker]; rfl) nofun
    · rename_i item rest hqueue
      split
      · exact hturn _ (by rw [hworker]; rfl) nofun
      · exact .waited ⟨rfl, rfl, rfl, rfl⟩ rfl (fun _ => rfl) (by simp [hqueue])
          (by rw [hworker]; rfl) nofun id
  · rename_i hworker
    split
    · rename_i hitems
      refine hturn _ ?_ fun _ => hitems
      rw [hworker]
      split <;> rfl
    · rename_i item rest hitems
      exact moves_execute hitems hworker m.answer
  · rename_i call hworker
    refine moves_hand (by rw [hworker]; rfl) ⟨rfl, rfl, rfl, rfl, rfl⟩ ⟨rfl, rfl⟩ rfl
      (List.append_nil _).symm ⟨rfl, rfl, rfl, rfl⟩ (.inl rfl) (fun method => ?_) nofun
      fun hnone => ⟨hnone, rfl⟩
    show Function.update s.writtenByMethod call.method (s.writtenByMethod call.method + 1) method =
      _
    by_cases hmethod : method = call.method
    · subst hmethod
      simp [AsyncItem.calls, Verdict.isWritten]
    · simp [Function.update_of_ne hmethod, AsyncItem.calls, Ne.symm hmethod]
  · rename_i call role hworker
    have hhand : s.worker.hand = some (.call call) := by rw [hworker]; rfl
    dsimp only
    split
    · exact .waited ⟨rfl, rfl, rfl, rfl⟩ rfl (fun _ => rfl) rfl hhand.symm nofun id
    · rename_i hsample
      refine moves_hand hhand ⟨rfl, rfl, rfl, rfl, rfl⟩ ⟨rfl, rfl⟩ rfl (List.append_nil _).symm
        ⟨rfl, rfl, rfl, rfl⟩ (.inr ⟨_, rfl⟩) (fun _ => rfl) nofun
        fun hnone => ⟨hnone, ?_⟩
      cases call with
      | appendSample sample => exact absurd rfl (hsample sample)
      | _ => rfl
  · rename_i sample role hworker
    exact moves_judge hworker m
  · rename_i hworker
    have hitems := hbatch (by rw [hworker]; rfl)
    exact .waited ⟨rfl, rfl, rfl, rfl⟩ rfl (fun _ => rfl) rfl (by rw [hworker]; rfl)
      (fun _ => hitems) fun hnone => (Bool.or_eq_false_iff.mp hnone).1
  · exact hsame
  · exact hsame

/-- **What a step does** to the accounts, whoever takes it. -/
theorem moves_step (hbatch : s.worker.betweenBatches = true → s.items = [])
    (i : AsyncStep δ ι) : Moves s (s.step i) := by
  have hsame : Moves s s :=
    .waited ⟨rfl, rfl, rfl, rfl⟩ rfl (fun _ => rfl) rfl rfl hbatch id
  have hputBlocking {item : AsyncItem δ ι} (hitem : ∀ method, item.calls method = false) :
      Moves s (s.putBlocking item) := by
    unfold AsyncWriter.putBlocking
    split
    · exact .moved [item] ⟨rfl, rfl, rfl, rfl⟩ rfl (fun method => by simp [put, hitem])
        (List.append_assoc _ _ _).symm rfl hbatch id
    · exact hsame
  cases i with
  | enqueue call =>
    show Moves s (s.enqueue call)
    unfold AsyncWriter.enqueue
    split
    · exact hsame
    split
    · refine .moved [.call call] ⟨rfl, rfl, rfl, rfl⟩ rfl (fun method => ?_)
        (List.append_assoc _ _ _).symm rfl hbatch id
      simp [put, AsyncItem.calls, List.count_cons, Nat.add_assoc]
    · exact .waited ⟨rfl, rfl, rfl, rfl⟩ rfl (fun _ => rfl) rfl rfl hbatch id
  | counted method =>
    show Moves s (s.counted method)
    unfold AsyncWriter.counted
    split
    · rename_i hmem
      refine .waited ⟨rfl, rfl, rfl, rfl⟩ rfl (fun other => ?_) rfl rfl hbatch id
      show Function.update s.enqueuedByMethod method _ other +
        (s.counting.erase method).count other = _
      by_cases hother : other = method
      · subst hother
        have hpos := List.count_pos_iff.mpr hmem
        rw [Function.update_self, List.count_erase_self]
        omega
      · rw [Function.update_of_ne hother, List.count_erase_of_ne hother]
    · exact hsame
  | terminal call => exact hputBlocking fun _ => rfl
  | close => exact .waited ⟨rfl, rfl, rfl, rfl⟩ rfl (fun _ => rfl) rfl rfl hbatch id
  | putStop => exact hputBlocking fun _ => rfl
  | work m => exact moves_work hbatch m

/-! ## What a step keeps -/

theorem InOrder.moves (h : s.InOrder) (hmoves : Moves s s') : s'.InOrder := by
  have horder := h.order
  have hexecuted := h.executed
  cases hmoves with
  | moved new hkept haccepted hcounted hwaiting hhand hbatch herror =>
    obtain ⟨hdone, hlog, -⟩ := hkept
    refine ⟨?_, ?_, hbatch, hdone ▸ h.fits⟩
    · rw [haccepted, ← horder, hdone, hhand, List.append_assoc, hwaiting]
      simp only [List.append_assoc]
    · rw [hlog, hdone, hhand, hexecuted]
  | called call answer hkept htaken hlog hcount hhand =>
    obtain ⟨hqueue, haccepted, hdone, -⟩ := hkept
    refine ⟨?_, ?_, fun hb => ?_, hdone ▸ h.fits⟩
    · rw [haccepted, ← horder, hdone, hhand, hqueue, htaken.1, htaken.2]
      simp
    · rw [hlog, List.filterMap_append, hexecuted, hdone, hhand, htaken.1]
      simp
    · exact nomatch (Worker.betweenBatches_of_hand hhand).symm.trans hb
  | settled item verdict calls hkept htaken hdone hlog hcalls hgiven hwritten hfits hquality
      hclean herror =>
    obtain ⟨hqueue, haccepted, -⟩ := hkept
    obtain ⟨hdone, hworker⟩ := hdone
    refine ⟨?_, ?_, fun hb => ?_, ?_⟩
    · rw [haccepted, ← horder, hqueue, hdone, hworker, List.append_assoc _ _ s.items, htaken]
      simp [Worker.hand]
    · rw [hlog, List.filterMap_append, hexecuted, List.append_assoc, hcalls, hdone, hworker]
      cases hverdict : verdict.executed <;> simp [Worker.hand, hverdict]
    · rw [hworker] at hb
      exact nomatch hb
    · rw [hdone]
      exact List.forall_mem_append.mpr ⟨h.fits, List.forall_mem_singleton.mpr hfits⟩

/-- An item more is done with. -/
theorem Honest.settled (h : s.Honest) {verdict : Verdict δ}
    (hdone : s'.done = s.done ++ [(item, verdict)])
    (hqualities : s'.log.filterMap WrappedCall.quality? =
      s'.done.filterMap fun e => e.2.quality?)
    (hstatuses : s'.log.filterMap WrappedCall.status? = s'.done.filterMap fun e => e.2.status?)
    (hquality : ∀ quality, verdict.quality? = some quality → Explains item quality)
    (hclean : verdict = .terminated (some .completed) ∨ verdict.isFailed = true →
      s.error = false)
    (herror : s'.error = false → s.error = false ∧ verdict.kept item = true) : s'.Honest := by
  refine ⟨fun hnone => ?_, fun before last after hsplit e he => ?_, ?_, hqualities, hstatuses, ?_⟩
  · rw [hdone]
    exact List.forall_mem_append.mpr
      ⟨h.clean (herror hnone).1, List.forall_mem_singleton.mpr (herror hnone).2⟩
  · rw [hdone] at hsplit
    rcases List.eq_nil_or_concat after with rfl | ⟨rest, final, rfl⟩
    · obtain ⟨rfl, hlast⟩ := List.append_inj' hsplit rfl
      have hverdict := congrArg Prod.snd (List.cons.inj hlast).1
      exact h.clean (hclean (.inl hverdict)) e he
    · rw [List.concat_eq_append, ← List.cons_append, ← List.append_assoc] at hsplit
      exact h.completed before last rest (List.append_inj' hsplit rfl).1 e he
  · rw [hdone, List.countP_append]
    by_cases hlast : verdict.isFailed = true
    · have hnone : s.done.countP (fun e => e.2.isFailed) = 0 := by
        refine List.countP_eq_zero.mpr fun e he hfail => ?_
        have hkept := h.clean (hclean (.inr hlast)) e he
        cases hverdict : e.2 with
        | failed => rw [hverdict] at hkept; exact nomatch hkept
        | _ => rw [hverdict] at hfail; exact nomatch hfail
      rw [hnone]
      simp [hlast]
    · simpa [hlast] using h.once
  · rw [hdone]
    exact List.forall_mem_append.mpr ⟨h.ofSample, List.forall_mem_singleton.mpr hquality⟩

theorem Honest.moves (h : s.Honest) (hmoves : Moves s s') : s'.Honest := by
  have hsame (hdone : s'.done = s.done) (herror : s'.error = false → s.error = false)
      (hqualities : s'.log.filterMap WrappedCall.quality? = s.log.filterMap WrappedCall.quality?)
      (hstatuses : s'.log.filterMap WrappedCall.status? = s.log.filterMap WrappedCall.status?) :
      s'.Honest :=
    ⟨fun hnone => hdone ▸ h.clean (herror hnone), hdone ▸ h.completed, hdone ▸ h.once,
      by rw [hqualities, hdone, h.qualities], by rw [hstatuses, hdone, h.statuses],
      hdone ▸ h.ofSample⟩
  cases hmoves with
  | moved new hkept haccepted hcounted hwaiting hhand hbatch herror =>
    obtain ⟨hdone, hlog, -⟩ := hkept
    exact hsame hdone herror (by rw [hlog]) (by rw [hlog])
  | called call answer hkept htaken hlog hcount hhand =>
    obtain ⟨-, -, hdone, herror, -⟩ := hkept
    obtain ⟨hquality, hstatus, -⟩ := call_entry call s.sampleCount answer
    refine hsame hdone (fun hnone => herror.symm.trans hnone) ?_ ?_
    · rw [hlog, List.filterMap_append, List.filterMap_cons_none hquality]
      exact List.append_nil _
    · rw [hlog, List.filterMap_append, List.filterMap_cons_none hstatus]
      exact List.append_nil _
  | settled item verdict calls hkept htaken hdone hlog hcalls hgiven hwritten hfits hquality
      hclean herror =>
    refine h.settled hdone.1 ?_ ?_ hquality hclean herror
    · rw [hlog, List.filterMap_append, h.qualities, hgiven.1, hdone.1, List.filterMap_append]
      cases hlast : verdict.quality? <;> simp [hlast]
    · rw [hlog, List.filterMap_append, h.statuses, hgiven.2.1, hdone.1, List.filterMap_append]
      cases hlast : verdict.status? <;> simp [hlast]

theorem Counted.moves (h : s.Counted) (hmoves : Moves s s') : s'.Counted := by
  have hstored := h.stored
  cases hmoves with
  | moved new hkept haccepted hcounted hwaiting hhand hbatch herror =>
    obtain ⟨hdone, hlog, hcount, hwritten⟩ := hkept
    refine ⟨fun method => ?_, fun method => ?_, by rw [hlog, hcount, hstored]⟩
    · rw [hcounted, haccepted, List.countP_append, h.enqueued]
    · rw [hwritten, h.written]
      unfold AsyncWriter.countOf
      rw [hdone]
  | called call answer hkept htaken hlog hcount hhand =>
    obtain ⟨-, haccepted, hdone, -, henqueued, hcounting, hwritten⟩ := hkept
    refine ⟨?_, fun method => ?_, ?_⟩
    · rw [henqueued, hcounting, haccepted]
      exact h.enqueued
    · rw [hwritten, h.written]
      unfold AsyncWriter.countOf
      rw [hdone]
    · rw [hlog, hcount, List.filterMap_append, hstored]
      have hentry := (call_entry call s.sampleCount answer).2.2
      split at hentry
      · rename_i hreturned
        rw [List.filterMap_cons_some hentry, if_pos hreturned, List.range_succ, List.map_append]
        rfl
      · rename_i hlost
        rw [List.filterMap_cons_none hentry, if_neg hlost]
        exact List.append_nil _
  | settled item verdict calls hkept htaken hdone hlog hcalls hgiven hwritten hfits hquality
      hclean herror =>
    obtain ⟨-, haccepted, henqueued, hcounting, hcount⟩ := hkept
    refine ⟨?_, fun method => ?_, ?_⟩
    · rw [henqueued, hcounting, haccepted]
      exact h.enqueued
    · rw [hwritten, h.written]
      unfold AsyncWriter.countOf
      rw [hdone.1, List.countP_append, List.countP_singleton, Bool.and_comm]
    · rw [hlog, hcount, List.filterMap_append, hgiven.2.2, List.append_nil, hstored]

/-! ## Runs -/

/-- Every call that was put is accounted for; `lost` of them are neither written, nor dropped,
    nor queued, nor skipped. -/
structure Accounted (s : AsyncWriter δ ι) (lost : QueuedMethod → ℕ) : Prop where
  /-- the wrapped writer executes what was put, in order and at most once -/
  order : (s.log.filterMap WrappedCall.item).Sublist s.accepted
  indices : s.log.filterMap WrappedCall.storedIndex? = (List.range s.sampleCount).map Int.ofNat
  balance : ∀ method, s.enqueuedByMethod method + s.counting.count method =
    s.writtenByMethod method + s.countOf method Verdict.isExpired + s.waitingOf method +
      s.countOf method Verdict.isSkipped + lost method
  /-- `finalize` is told `COMPLETED` only behind calls none of which was lost without a trace -/
  completed : ∀ before item after,
    s.done = before ++ (item, .terminated (some .completed)) :: after →
      before.map Prod.fst <+: s.accepted ∧ ∀ e ∈ before, e.2.kept e.1 = true
  statuses : s.log.filterMap WrappedCall.status? = s.done.filterMap fun e => e.2.status?
  qualities : s.log.filterMap WrappedCall.quality? = s.done.filterMap fun e => e.2.quality?
  ofSample : ∀ e ∈ s.done, ∀ quality, e.2.quality? = some quality → Explains e.1 quality

/-- A call that the worker is done with has one of four verdicts, by induction over them. -/
theorem countOf_verdicts (done : List (AsyncItem δ ι × Verdict δ))
    (h : ∀ e ∈ done, e.2.fits e.1 = true) (method : QueuedMethod) :
    (done.map Prod.fst).countP (AsyncItem.calls method) =
      (done.countP fun e => e.1.calls method && e.2.isWritten) +
      (done.countP fun e => e.1.calls method && e.2.isExpired) +
      (done.countP fun e => e.1.calls method && e.2.isSkipped) +
      done.countP fun e => e.1.calls method && e.2.isFailed := by
  induction done with
  | nil => rfl
  | cons e rest ih =>
    have ih := ih fun other hother => h other (List.mem_cons_of_mem _ hother)
    have hfits := h e List.mem_cons_self
    obtain ⟨item, verdict⟩ := e
    simp only [List.map_cons, List.countP_cons, ih]
    cases item with
    | call call =>
      cases verdict with
      | terminated status => exact nomatch hfits
      | stopped => exact nomatch hfits
      | _ =>
        simp only [Verdict.isWritten, Verdict.isExpired, Verdict.isSkipped, Verdict.isFailed,
          Bool.and_true, Bool.and_false]
        split <;> simp
        omega
    | _ => simp [AsyncItem.calls]

theorem InOrder.accounted (h : s.InOrder) (hhonest : s.Honest) (hcounted : s.Counted) :
    s.Accounted fun method => s.countOf method Verdict.isFailed := by
  refine ⟨?_, hcounted.stored, fun method => ?_, fun before item after hsplit => ⟨?_, ?_⟩,
    hhonest.statuses, hhonest.qualities, hhonest.ofSample⟩
  · rw [h.executed, ← h.order]
    refine List.Sublist.trans ?_ (List.sublist_append_left _ _)
    refine List.Sublist.trans ?_ (List.sublist_append_left _ _)
    exact (List.Sublist.map _ List.filter_sublist).append (List.Sublist.refl _)
  · rw [hcounted.enqueued, hcounted.written, ← h.order]
    unfold AsyncWriter.waitingOf AsyncWriter.countOf
    simp only [List.countP_append, countOf_verdicts s.done h.fits method]
    omega
  · rw [← h.order, hsplit, List.map_append, List.append_assoc, List.append_assoc, List.append_assoc]
    exact List.prefix_append _ _
  · exact hhonest.completed before item after hsplit

/-- **Nothing is lost silently**: in every interleaving all calls are accounted for but those
    that raised, and of these there is at most one. -/
theorem async_writer_accounted (capacity batchSize : ℕ) (steps : List (AsyncStep δ ι)) :
    let s := run AsyncWriter.step { capacity, batchSize } steps
    (s.Accounted fun method => s.countOf method Verdict.isFailed) ∧
      s.done.countP (fun e => e.2.isFailed) ≤ 1 := by
  intro s
  have hstep (s : AsyncWriter δ ι) (i : AsyncStep δ ι) (h : s.InOrder ∧ s.Honest ∧ s.Counted) :
      (s.step i).InOrder ∧ (s.step i).Honest ∧ (s.step i).Counted := by
    have hmoves := moves_step h.1.batch i
    exact ⟨h.1.moves hmoves, h.2.1.moves hmoves, h.2.2.moves hmoves⟩
  obtain ⟨horder, hhonest, hcounted⟩ : s.InOrder ∧ s.Honest ∧ s.Counted :=
    run_invariant hstep
      ⟨⟨rfl, rfl, fun _ => rfl, fun _ he => absurd he List.not_mem_nil⟩,
        ⟨fun _ _ he => absurd he List.not_mem_nil, fun before _ _ h => absurd h.symm (by simp),
          Nat.zero_le _, rfl, rfl, fun _ he => absurd he List.not_mem_nil⟩,
        ⟨fun _ => rfl, fun _ => rfl, rfl⟩⟩ steps
  exact ⟨horder.accounted hhonest hcounted, hhonest.once⟩

/-- A record is put, and the wrapped writer raises. -/
def raisingSteps : List (AsyncStep ℚ Unit) :=
  [.enqueue (.appendRaw "robot" []), .counted .appendRaw, .work {}, .work {},
    .work { answer := .raised }]

theorem raised_unaccounted :
    ¬(run AsyncWriter.step { capacity := 64, batchSize := 8 } raisingSteps).Accounted
      fun _ => 0 :=
  fun h => absurd (h.balance .appendRaw) (by decide)

end Steps

end AsyncWriter

end HandLab.Episode
