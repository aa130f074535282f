import HandLab.Episode.CameraRing

/-!
# The shared-memory camera ring

`SharedMemoryCameraFrameRing` (`src/episode_dataset/process_runtime.py` lines
193–419): the camera process publishes into shared memory, and an attached ring
in another process reads from it. The attached ring learns the metadata of a
frame from the descriptors that reach it, in order and perhaps not all of them.

The header of a slot is two words, which `pack_into` writes and `unpack_from`
reads in their order. `Directory` is the dictionary of one attached ring; other
attached rings share the memory only, which no reader writes.

* `RingSpec.written`: what `publish` writes of a sample whose aligned depth has another shape
  than the ring.
* `Store.Ok`, `Directory.Ok`, `Reader.Ok`: the invariants of producer,
  registrations and readers; `System.ok_run`: they hold in every run.
* `camera_rings_sound`: what both rings promise in every interleaving.
-/

namespace HandLab.Episode.SharedCameraRing

open HandLab.Lib CameraRing

variable {ρ δ α : Type}

/-! ## State -/

/-- The fields of `SharedCameraRingSpec` that the calls compare. -/
structure RingSpec where
  role : CameraRole
  profile : Profile

namespace RingSpec

variable (spec : RingSpec) (sample : PixelSample δ α)

/-- The arrays of the memory: for an aligned depth without elements there is no block. -/
def memory : Profile :=
  { spec.profile with alignedShape := spec.profile.alignedShape.filter fun shape => shape.prod ≠ 0 }

/-- The checks of `publish` (lines 305–310). The shape of an aligned depth is not compared. -/
def Accepts : Prop :=
  sample.metadata.header.role = spec.role ∧ sample.rgb.shape = spec.profile.rgbShape ∧
    sample.depthRaw.shape = spec.profile.depthShape ∧
    sample.depthAlignedToRgb.isNone = spec.profile.alignedShape.isNone

instance : Decidable (spec.Accepts sample) := inferInstanceAs (Decidable (_ ∧ _ ∧ _ ∧ _))

end RingSpec

/-- `numpy.copyto` into an array of the shape: a single row or column is repeated; `none` where it
    raises. -/
def spread (shape : List ℕ) (a : NDArray α) : Option (List α) :=
  if a.shape = shape then some a.elements
  else match shape, a.shape with
    | [rows, columns], [r, c] =>
      if (r = rows ∨ r = 1) ∧ (c = columns ∨ c = 1) then
        some ((List.range rows).flatMap fun i => (List.range columns).filterMap fun j =>
          a.elements[(if r = 1 then 0 else i) * c + if c = 1 then 0 else j]?)
      else none
    | _, _ => none

/-- The elements that the copies of `publish` write, and whether none of them raises. -/
def RingSpec.written (spec : RingSpec) (sample : PixelSample δ α) : List α × Bool :=
  match spec.memory.alignedShape, sample.depthAlignedToRgb with
  | some shape, some aligned =>
    match spread shape aligned with
    | some elements => (sample.rgb.elements ++ sample.depthRaw.elements ++ elements, true)
    | none => (sample.rgb.elements ++ sample.depthRaw.elements, false)
  | _, _ => (sample.rgb.elements ++ sample.depthRaw.elements, true)

theorem RingSpec.written_of_profile {spec : RingSpec} {sample : PixelSample δ α}
    (h : sample.profile = spec.memory) : spec.written sample = (sample.elements, true) := by
  have haligned : sample.depthAlignedToRgb.map NDArray.shape = spec.memory.alignedShape :=
    congrArg Profile.alignedShape h
  unfold RingSpec.written PixelSample.elements PixelSample.alignedElements
  rw [← haligned]
  cases sample.depthAlignedToRgb with
  | none => simp
  | some aligned => simp [spread]

/-- Where `publish` is: what its next step does. -/
inductive Publisher (δ α : Type)
  | idle
  | markVersion (sample : PixelSample δ α) (sequence : ℤ)
  | markSequence (sample : PixelSample δ α) (sequence : ℤ)
  | copying (sample : PixelSample δ α) (sequence : ℤ) (i : ℕ)
  | settleVersion (sample : PixelSample δ α) (sequence : ℤ)
  | settleSequence (sample : PixelSample δ α) (sequence : ℤ)

/-- The shared memory with the `publish` in progress. -/
structure Store (δ α : Type) extends SlotRing (PixelSample δ α) α where
  publisher : Publisher δ α

/-- Where `register_descriptor` is. -/
inductive Registrar
  | idle
  | expire (sequence : ℤ)
  | trim
  deriving DecidableEq

/-- `_metadata` with the registration in progress; `registered` records the
    registered sequences, newest first. -/
structure Directory (δ : Type) where
  metadata : List (ℤ × CameraFrameRef δ)
  registrar : Registrar
  registered : List ℤ

/-- Where a call of `read` is. -/
inductive Reader (δ α : Type)
  | idle
  | firstVersion (sequence : ℤ)
  | firstSequence (sequence version : ℤ)
  | lookup (sequence : ℤ)
  | copying (sequence : ℤ) (metadata : CameraFrameRef δ) (copied : List α)
  | secondVersion (sequence : ℤ) (metadata : CameraFrameRef δ) (copied : List α)
  | secondSequence (sequence : ℤ) (metadata : CameraFrameRef δ) (copied : List α)
      (versionAfter : ℤ)
  | done (sequence : ℤ) (result : Option (PixelSample δ α))

/-- A shared ring with an attached one and the calls in progress. -/
structure System (ρ δ α : Type) where
  store : Store δ α
  directory : Directory δ
  readers : ρ → Reader δ α

/-- `create` and `attach`; nothing is known of the pixels in the memory. -/
def System.init (memory : ℤ → ℕ → α) : System ρ δ α where
  store := ⟨.init memory, .idle⟩
  directory := ⟨[], .idle, []⟩
  readers := fun _ => .idle

section Steps

variable (spec : RingSpec) (capacity : ℤ)

/-! ## `publish` -/

namespace Store

variable (store : Store δ α)

/-- `publish` is called with the next sequence, or raises. -/
def publish (sample : PixelSample δ α) : Store δ α :=
  match store.publisher with
  | .idle =>
    if spec.Accepts sample then
      { toSlotRing := store.take sample
        publisher := .markVersion sample store.nextSequence }
    else store
  | _ => store

/-- The next step of `publish` (lines 311–346). -/
def produce : Store δ α :=
  match store.publisher with
  | .idle => store
  | .markVersion sample sequence =>
    { toSlotRing := store.setVersion capacity sequence (sequence * 2 + 1)
      publisher := .markSequence sample sequence }
  | .markSequence sample sequence =>
    { toSlotRing := store.stamp capacity sequence
      publisher := .copying sample sequence 0 }
  | .copying sample sequence i =>
    match (spec.written sample).1[i]? with
    | some x =>
      { toSlotRing := store.setCell capacity sequence i x
        publisher := .copying sample sequence (i + 1) }
    | none =>
      { store with
        publisher := if (spec.written sample).2 then .settleVersion sample sequence else .idle }
  | .settleVersion sample sequence =>
    { toSlotRing := store.setVersion capacity sequence (sequence * 2 + 1 + 1)
      publisher := .settleSequence sample sequence }
  | .settleSequence _ sequence =>
    { toSlotRing := (store.stamp capacity sequence).finish sequence
      publisher := .idle }

end Store

/-! ## `register_descriptor` -/

namespace Directory

variable (directory : Directory δ)

/-- `register_descriptor` is called (lines 412–414). -/
def register (descriptor : CameraFrameRef δ) : Directory δ :=
  match directory.registrar with
  | .idle =>
    if descriptor.metadata.header.role ≠ spec.role then directory
    else
      { metadata := dictSet descriptor.sequence descriptor directory.metadata
        registrar := .expire descriptor.sequence
        registered := descriptor.sequence :: directory.registered }
  | _ => directory

/-- The next step of `register_descriptor` (lines 415–419). -/
def advance : Directory δ :=
  match directory.registrar with
  | .idle => directory
  | .expire sequence =>
    { directory with
      metadata := if 0 ≤ sequence - capacity then dictPop (sequence - capacity) directory.metadata
        else directory.metadata
      registrar := .trim }
  | .trim =>
    if capacity * 2 < directory.metadata.length then
      match (dictKeys directory.metadata).min? with
      | some oldest => { directory with metadata := dictPop oldest directory.metadata }
      | none => directory
    else { directory with registrar := .idle }

/-- A descriptor may be registered after its frame is published, and after
    those of earlier frames. -/
def Admits (store : Store δ α) (sequence : ℤ) : Prop :=
  sequence ∈ store.returned ∧ ∀ s ∈ directory.registered, s < sequence

instance (store : Store δ α) (sequence : ℤ) : Decidable (directory.Admits store sequence) :=
  inferInstanceAs (Decidable (_ ∧ _))

end Directory

/-! ## `read` -/

/-- The next step of `read` (lines 365–398). -/
def Reader.next (store : Store δ α) (directory : Directory δ) : Reader δ α → Reader δ α
  | .idle => .idle
  | .firstVersion sequence =>
    .firstSequence sequence (store.slot capacity sequence).block.version
  | .firstSequence sequence version =>
    if version ≠ sequence * 2 + 2 ∨ version % 2 = 1 ∨
        (store.slot capacity sequence).sequence ≠ sequence then
      .done sequence none
    else .lookup sequence
  | .lookup sequence =>
    match directory.metadata.lookup sequence with
    | some metadata => .copying sequence metadata []
    | none => .done sequence none
  | .copying sequence metadata copied =>
    if copied.length < spec.memory.size then
      .copying sequence metadata
        (copied ++ [(store.slot capacity sequence).block.cells copied.length])
    else .secondVersion sequence metadata copied
  | .secondVersion sequence metadata copied =>
    .secondSequence sequence metadata copied (store.slot capacity sequence).block.version
  | .secondSequence sequence metadata copied versionAfter =>
    -- `version` was the expected version
    if versionAfter ≠ sequence * 2 + 2 ∨ (store.slot capacity sequence).sequence ≠ sequence then
      .done sequence none
    else .done sequence (some (metadata.sample spec.memory copied sequence))
  | .done sequence result => .done sequence result

/-- A call of `read` may start. -/
def Reader.free : Reader δ α → Bool
  | .idle | .done _ _ => true
  | _ => false

/-- The sequence of a read that has ended. -/
def Reader.ended : Reader δ α → Option ℤ
  | .done sequence _ => some sequence
  | _ => none

theorem Reader.eq_done {reader : Reader δ α} {sequence : ℤ} (h : reader.ended = some sequence) :
    ∃ result, reader = .done sequence result := by
  cases reader with
  | done s result => exact ⟨result, by rw [Option.some.inj h]⟩
  | _ => cases h

/-- One step: a call, or the next access of the producer, of a registration or
    of a reader. -/
inductive Event (ρ δ α : Type)
  | publish (sample : { sample : PixelSample δ α // sample.Sized })
  | produce
  | register (sequence : ℤ)
  | expire
  | read (reader : ρ) (sequence : ℤ)
  | advance (reader : ρ)

variable [DecidableEq ρ]

def step (system : System ρ δ α) : Event ρ δ α → System ρ δ α
  | .publish sample => { system with store := system.store.publish spec sample.val }
  | .produce => { system with store := system.store.produce spec capacity }
  | .register sequence =>
    match system.store.passed sequence with
    | some sample =>
      if system.directory.Admits system.store sequence then
        { system with directory := system.directory.register spec (sample.reference sequence) }
      else system
    | none => system
  | .expire => { system with directory := system.directory.advance capacity }
  | .read r sequence =>
    if (system.readers r).free then
      { system with readers := Function.update system.readers r (.firstVersion sequence) }
    else system
  | .advance r =>
    { system with
      readers := Function.update system.readers r
        ((system.readers r).next spec capacity system.store system.directory) }

end Steps

/-! ## The shared memory -/

namespace Store

variable {spec : RingSpec} {capacity : ℤ} {store : Store δ α}

/-- What holds at each point of `publish`. -/
def PublisherOk (spec : RingSpec) (capacity : ℤ) (store : Store δ α) : Prop :=
  match store.publisher with
  | .idle => store.Below (store.nextSequence * 2)
  | .markVersion sample sequence => store.Publishing sample sequence ∧ store.Below (sequence * 2)
  | .markSequence sample sequence => store.Writing capacity sample sequence
  | .copying sample sequence i =>
    store.Writing capacity sample sequence ∧ (store.slot capacity sequence).sequence = sequence ∧
      (store.slot capacity sequence).block.Written (spec.written sample).1 i
  | .settleVersion sample sequence =>
    store.Writing capacity sample sequence ∧ (store.slot capacity sequence).sequence = sequence ∧
      (store.slot capacity sequence).block.Holds (spec.written sample).1
  | .settleSequence sample sequence => store.Settled capacity sample sequence

/-- The invariant of the producer: a stable slot holds what was written of its sample. -/
structure Ok (spec : RingSpec) (capacity : ℤ) (store : Store δ α) : Prop where
  ring : store.Sound capacity (fun sample => (spec.written sample).1) PixelSample.Sized
  publisher : PublisherOk spec capacity store

/-- A step of the producer. -/
structure Moves (spec : RingSpec) (capacity : ℤ) (store store' : Store δ α) : Prop where
  ok : store'.Ok spec capacity
  evolves : store.Evolves capacity store'.toSlotRing

/-- A call of `publish`. -/
theorem Ok.publish (h : Ok spec capacity store) {sample : PixelSample δ α}
    (hsized : sample.Sized) : Moves spec capacity store (store.publish spec sample) := by
  obtain ⟨hring, hpublisher⟩ := h
  unfold Store.publish
  cases hp : store.publisher with
  | idle =>
    unfold PublisherOk at hpublisher
    rw [hp] at hpublisher
    dsimp only
    split_ifs
    · exact ⟨⟨hring.take hsized, hring.publishing_take sample, hpublisher⟩,
        hring.evolves_take sample⟩
    · exact ⟨⟨hring, by unfold PublisherOk; rwa [hp]⟩, .refl _⟩
  | _ => exact ⟨⟨hring, hpublisher⟩, .refl _⟩

/-- A step of `publish`. -/
theorem Ok.produce (h : Ok spec capacity store) :
    Moves spec capacity store (store.produce spec capacity) := by
  obtain ⟨hring, hpublisher⟩ := h
  unfold PublisherOk at hpublisher
  unfold Store.produce
  cases hp : store.publisher with
  | idle => exact ⟨⟨hring, by unfold PublisherOk; rwa [hp] at hpublisher ⊢⟩, .refl _⟩
  | markVersion sample sequence =>
    rw [hp] at hpublisher
    obtain ⟨hpub, hbelow⟩ := hpublisher
    obtain ⟨hmarked, hw⟩ := hring.mark hpub hbelow
    exact ⟨⟨hmarked, hw⟩, .mark hbelow⟩
  | markSequence sample sequence =>
    rw [hp] at hpublisher
    obtain ⟨hstamped, hw⟩ := hring.stamp hpublisher
    exact ⟨⟨hstamped, hw, congrArg RingSlot.sequence SlotRing.slot_stamp, .zero⟩, .stamp⟩
  | copying sample sequence i =>
    rw [hp] at hpublisher
    obtain ⟨hw, hsequence, hwritten⟩ := hpublisher
    dsimp only
    cases hx : (spec.written sample).1[i]? with
    | none =>
      refine ⟨⟨hring, ?_⟩, .refl _⟩
      dsimp only
      split_ifs
      · exact ⟨hw, hsequence, hwritten.holds hx⟩
      · -- the copy of the aligned depth raises
        have hnext := hw.next_eq
        exact fun j => (hw.below j).trans (show sequence * 2 + 1 ≤ store.nextSequence * 2 by omega)
    | some x =>
      obtain ⟨hcopied, hw'⟩ := hring.setCell hw i x
      have hslot : (store.setCell capacity sequence i x).slot capacity sequence = _ :=
        SlotRing.slot_setCell i x
      refine ⟨⟨hcopied, hw', (congrArg RingSlot.sequence hslot).trans hsequence, ?_⟩,
        .setCell hw i x⟩
      show ((store.setCell capacity sequence i x).slot capacity sequence).block.Written _ _
      rw [hslot]
      exact hwritten.setCell hx
  | settleVersion sample sequence =>
    rw [hp] at hpublisher
    obtain ⟨hw, hsequence, hholds⟩ := hpublisher
    obtain ⟨hsettled, hs⟩ := hring.settle hw hsequence hholds
    dsimp only
    rw [show sequence * 2 + 1 + 1 = sequence * 2 + 2 from Int.add_assoc _ _ _]
    exact ⟨⟨hsettled, hs⟩, .settle hw⟩
  | settleSequence sample sequence =>
    rw [hp] at hpublisher
    have hs : store.Settled capacity sample sequence := hpublisher
    dsimp only
    rw [SlotRing.stamp_of_eq hs.sequence_eq]
    exact ⟨⟨hring.finish hs, hs.below⟩, .finish⟩

end Store

/-! ## The dictionary -/

namespace Directory

variable {spec : RingSpec} {capacity : ℤ} {store store' : Store δ α} {directory : Directory δ}

/-- What holds between any two steps of the registrations. -/
structure Core (capacity : ℤ) (store : Store δ α) (directory : Directory δ) : Prop where
  metadata : ∀ s reference, directory.metadata.lookup s = some reference →
    ∃ sample, store.passed s = some sample ∧ reference = sample.reference s
  nodup : (dictKeys directory.metadata).Nodup
  keys : ∀ k ∈ dictKeys directory.metadata, k ∈ directory.registered
  registered : ∀ s ∈ directory.registered, s ∈ store.returned
  /-- metadata is kept for as long as its frame -/
  kept : ∀ s ∈ directory.registered, store.nextSequence ≤ s + capacity →
    ∃ reference, directory.metadata.lookup s = some reference

/-- What holds at each point of `register_descriptor`. -/
def RegistrarOk (capacity : ℤ) (store : Store δ α) (directory : Directory δ) : Prop :=
  match directory.registrar with
  | .idle => directory.metadata.length ≤ capacity * 2
  | .expire sequence => directory.metadata.length ≤ capacity * 2 + 1 ∧ sequence ∈ store.returned
  | .trim => directory.metadata.length ≤ capacity * 2 + 1

/-- The invariant of the registrations. -/
structure Ok (capacity : ℤ) (store : Store δ α) (directory : Directory δ) : Prop where
  core : Core capacity store directory
  registrar : RegistrarOk capacity store directory

/-- Trimming ends with at most twice the capacity, and starts with one entry more at most. -/
theorem Ok.length_le (h : directory.Ok capacity store) :
    directory.metadata.length ≤ capacity * 2 + 1 := by
  have hregistrar := h.registrar
  unfold RegistrarOk at hregistrar
  split at hregistrar
  · omega
  · exact hregistrar.1
  · exact hregistrar

theorem Ok.evolves (h : directory.Ok capacity store)
    (hevolves : store.Evolves capacity store'.toSlotRing) : directory.Ok capacity store' := by
  obtain ⟨hcore, hregistrar⟩ := h
  refine ⟨⟨?_, hcore.nodup, hcore.keys, fun s hs => hevolves.returned (hcore.registered s hs),
    fun s hs hlap => hcore.kept s hs (hevolves.next.trans hlap)⟩, ?_⟩
  · intro s reference hlookup
    obtain ⟨sample, hpassed, href⟩ := hcore.metadata s reference hlookup
    exact ⟨sample, hevolves.passed s sample hpassed, href⟩
  · unfold RegistrarOk at hregistrar ⊢
    cases hp : directory.registrar with
    | idle => rwa [hp] at hregistrar
    | expire sequence =>
      rw [hp] at hregistrar
      exact ⟨hregistrar.1, hevolves.returned hregistrar.2⟩
    | trim => rwa [hp] at hregistrar

theorem length_dictSet_le (key : ℤ) (value : CameraFrameRef δ)
    (d : List (ℤ × CameraFrameRef δ)) : (dictSet key value d).length ≤ d.length + 1 := by
  induction d with
  | nil => exact le_rfl
  | cons item rest ih =>
    obtain ⟨k, v⟩ := item
    rw [dictSet]
    split_ifs
    · exact Nat.le_succ _
    · exact Nat.succ_le_succ ih

/-- A registration in order. -/
theorem Ok.register (h : directory.Ok capacity store) {sequence : ℤ} {sample : PixelSample δ α}
    (hadmits : directory.Admits store sequence) (hpassed : store.passed sequence = some sample) :
    (directory.register spec (sample.reference sequence)).Ok capacity store := by
  obtain ⟨hcore, hregistrar⟩ := h
  unfold RegistrarOk at hregistrar
  unfold Directory.register
  cases hp : directory.registrar with
  | idle =>
    rw [hp] at hregistrar
    dsimp only
    split_ifs
    · exact ⟨hcore, by unfold RegistrarOk; rwa [hp]⟩
    have hlength : ((dictSet sequence (sample.reference sequence)
        directory.metadata).length : ℤ) ≤ capacity * 2 + 1 := by
      have hle := length_dictSet_le sequence (sample.reference sequence) directory.metadata
      have hold : (directory.metadata.length : ℤ) ≤ capacity * 2 := hregistrar
      omega
    refine ⟨⟨?_, nodup_dictKeys_dictSet hcore.nodup, ?_, ?_, ?_⟩, hlength, hadmits.1⟩
    · intro s reference hlookup
      by_cases heq : s = sequence
      · subst heq
        rw [show (sample.reference s).sequence = s from rfl, lookup_dictSet_self] at hlookup
        exact ⟨sample, hpassed, (Option.some.inj hlookup).symm⟩
      · rw [show (sample.reference sequence).sequence = sequence from rfl,
          lookup_dictSet_of_ne heq] at hlookup
        exact hcore.metadata s reference hlookup
    · intro k hk
      rcases mem_dictKeys_dictSet.mp hk with rfl | hk
      · exact List.mem_cons_self
      · exact List.mem_cons_of_mem _ (hcore.keys k hk)
    · intro s hs
      rcases List.mem_cons.mp hs with rfl | hs
      · exact hadmits.1
      · exact hcore.registered s hs
    · intro s hs hlap
      by_cases heq : s = sequence
      · subst heq
        exact ⟨_, lookup_dictSet_self ..⟩
      · have hold := (List.mem_cons.mp hs).resolve_left heq
        obtain ⟨reference, hlookup⟩ := hcore.kept s hold hlap
        refine ⟨reference, ?_⟩
        rw [show (sample.reference sequence).sequence = sequence from rfl,
          lookup_dictSet_of_ne heq]
        exact hlookup
  | _ => exact ⟨hcore, hregistrar⟩

/-- An entry whose frame is not in reach is dropped. -/
theorem Core.pop (h : Core capacity store directory) {key : ℤ}
    (hkey : ∀ s ∈ directory.registered, store.nextSequence ≤ s + capacity → s ≠ key)
    (registrar : Registrar) :
    Core capacity store
      { directory with metadata := dictPop key directory.metadata, registrar } := by
  have hkeys {k : ℤ} (hk : k ∈ dictKeys (dictPop key directory.metadata)) :
      k ∈ dictKeys directory.metadata ∧ k ≠ key := mem_dictKeys_dictPop.mp hk
  refine ⟨?_, nodup_dictKeys_dictPop h.nodup, fun k hk => h.keys k (hkeys hk).1, h.registered, ?_⟩
  · intro s reference hlookup
    have hne := (hkeys (mem_dictKeys_of_lookup hlookup)).2
    rw [lookup_dictPop_of_ne hne] at hlookup
    exact h.metadata s reference hlookup
  · intro s hs hlap
    obtain ⟨reference, hlookup⟩ := h.kept s hs hlap
    exact ⟨reference, (lookup_dictPop_of_ne (hkey s hs hlap) _).trans hlookup⟩

/-- While there are more entries than trimming leaves, the oldest is out of reach. -/
theorem Core.oldest_ne (h : Core capacity store directory) (hstore : store.Ok spec capacity)
    (hcapacity : 0 < capacity) (hfull : capacity * 2 < directory.metadata.length) {oldest : ℤ}
    (hmin : (dictKeys directory.metadata).min? = some oldest) :
    ∀ s ∈ directory.registered, store.nextSequence ≤ s + capacity → s ≠ oldest := by
  rintro s hs hlap rfl
  have hsub : (dictKeys directory.metadata).toFinset ⊆ Finset.Ico s (s + capacity) := by
    intro k hk
    have hk := List.mem_toFinset.mp hk
    have hlt := (hstore.ring.returned k (h.registered k (h.keys k hk))).2
    rw [Finset.mem_Ico]
    exact ⟨(List.min?_eq_some_iff.mp hmin).2 k hk, by omega⟩
  have hcard := Finset.card_le_card hsub
  rw [List.toFinset_card_of_nodup h.nodup, length_dictKeys, Int.card_Ico] at hcard
  omega

theorem length_dictPop_le (key : ℤ) (d : List (ℤ × CameraFrameRef δ)) :
    (dictPop key d).length ≤ d.length := List.length_filter_le _ _

/-- A step of `register_descriptor`. -/
theorem Ok.advance (h : directory.Ok capacity store) (hstore : store.Ok spec capacity)
    (hcapacity : 0 < capacity) : (directory.advance capacity).Ok capacity store := by
  obtain ⟨hcore, hregistrar⟩ := h
  unfold RegistrarOk at hregistrar
  unfold Directory.advance
  cases hp : directory.registrar with
  | idle => exact ⟨hcore, by unfold RegistrarOk; rwa [hp] at hregistrar ⊢⟩
  | expire sequence =>
    rw [hp] at hregistrar
    obtain ⟨hlength, hreturned⟩ := hregistrar
    dsimp only
    split_ifs
    · have hlt := (hstore.ring.returned sequence hreturned).2
      refine ⟨hcore.pop (fun s _ hlap => by omega) .trim, ?_⟩
      have hle := length_dictPop_le (sequence - capacity) directory.metadata
      show ((dictPop (sequence - capacity) directory.metadata).length : ℤ) ≤ capacity * 2 + 1
      omega
    · exact ⟨⟨hcore.metadata, hcore.nodup, hcore.keys, hcore.registered, hcore.kept⟩, hlength⟩
  | trim =>
    rw [hp] at hregistrar
    dsimp only
    split_ifs with hfull
    · cases hmin : (dictKeys directory.metadata).min? with
      | none => exact ⟨hcore, by unfold RegistrarOk; rwa [hp]⟩
      | some oldest =>
        refine ⟨hcore.pop (hcore.oldest_ne hstore hcapacity hfull hmin) .trim, ?_⟩
        have hle := length_dictPop_le oldest directory.metadata
        have hold : (directory.metadata.length : ℤ) ≤ capacity * 2 + 1 := hregistrar
        show ((dictPop oldest directory.metadata).length : ℤ) ≤ capacity * 2 + 1
        omega
    · exact ⟨⟨hcore.metadata, hcore.nodup, hcore.keys, hcore.registered, hcore.kept⟩,
        not_lt.mp hfull⟩

/-- Registrations are never forgotten. -/
theorem registered_subset_advance (directory : Directory δ) :
    directory.registered ⊆ (directory.advance capacity).registered := by
  unfold Directory.advance
  split
  · exact List.Subset.refl _
  · exact List.Subset.refl _
  · split_ifs
    · split <;> exact List.Subset.refl _
    · exact List.Subset.refl _

theorem registered_subset_register (directory : Directory δ) (descriptor : CameraFrameRef δ) :
    directory.registered ⊆ (directory.register spec descriptor).registered := by
  unfold Directory.register
  split
  · split_ifs
    · exact List.Subset.refl _
    · exact List.subset_cons_self _ _
  · exact List.Subset.refl _

end Directory

/-! ## Readers -/

section Readers

variable {spec : RingSpec} {capacity : ℤ} {store store' : Store δ α} {directory : Directory δ}

/-- What a reader knows of the metadata it has looked up. -/
def ReferenceOk (store : Store δ α) (sequence : ℤ) (metadata : CameraFrameRef δ) : Prop :=
  ∃ sample, store.passed sequence = some sample ∧ metadata = sample.reference sequence

/-- What a reader knows at each point of `read`. -/
def Reader.Ok (spec : RingSpec) (capacity : ℤ) (store : Store δ α) : Reader δ α → Prop
  | .idle | .firstVersion _ => True
  | .firstSequence sequence version => version = sequence * 2 + 2 →
    Versioned.Copied (sequence * 2 + 2) ([] : List α) (store.slot capacity sequence).block
  | .lookup sequence =>
    Versioned.Copied (sequence * 2 + 2) ([] : List α) (store.slot capacity sequence).block
  | .copying sequence metadata copied =>
    ReferenceOk store sequence metadata ∧ copied.length ≤ spec.memory.size ∧
      Versioned.Copied (sequence * 2 + 2) copied (store.slot capacity sequence).block
  | .secondVersion sequence metadata copied =>
    ReferenceOk store sequence metadata ∧ copied.length = spec.memory.size ∧
      Versioned.Copied (sequence * 2 + 2) copied (store.slot capacity sequence).block
  | .secondSequence sequence metadata copied versionAfter =>
    versionAfter = sequence * 2 + 2 → ∃ sample, store.passed sequence = some sample ∧
      sample.Sized ∧ metadata = sample.reference sequence ∧
      (sample.profile = spec.memory → copied = sample.elements)
  | .done sequence result => ∀ read, result = some read →
    ∃ sample, store.passed sequence = some sample ∧
      (sample.profile = spec.memory → read = sample.inRing sequence)

theorem ReferenceOk.evolves {sequence : ℤ} {metadata : CameraFrameRef δ}
    (h : ReferenceOk store sequence metadata)
    (hevolves : store.Evolves capacity store'.toSlotRing) :
    ReferenceOk store' sequence metadata := by
  obtain ⟨sample, hpassed, hmetadata⟩ := h
  exact ⟨sample, hevolves.passed _ _ hpassed, hmetadata⟩

variable {reader : Reader δ α}

/-- The producer does not disturb the readers. -/
theorem Reader.Ok.evolves (h : reader.Ok spec capacity store)
    (hevolves : store.Evolves capacity store'.toSlotRing) : reader.Ok spec capacity store' := by
  cases reader with
  | idle => trivial
  | firstVersion sequence => trivial
  | firstSequence sequence version => exact fun hv => hevolves.copied _ _ (h hv)
  | lookup sequence => exact hevolves.copied _ _ h
  | copying sequence metadata copied =>
    exact ⟨h.1.evolves hevolves, h.2.1, hevolves.copied _ _ h.2.2⟩
  | secondVersion sequence metadata copied =>
    exact ⟨h.1.evolves hevolves, h.2.1, hevolves.copied _ _ h.2.2⟩
  | secondSequence sequence metadata copied versionAfter =>
    intro hv
    obtain ⟨sample, hpassed, hrest⟩ := h hv
    exact ⟨sample, hevolves.passed _ _ hpassed, hrest⟩
  | done sequence result =>
    intro read hread
    obtain ⟨sample, hpassed, hsample⟩ := h read hread
    exact ⟨sample, hevolves.passed _ _ hpassed, hsample⟩

/-- A step of `read`. -/
theorem Reader.Ok.next (h : reader.Ok spec capacity store)
    (hstore : store.Ok spec capacity) (hdirectory : directory.Ok capacity store) :
    (reader.next spec capacity store directory).Ok spec capacity store := by
  cases reader with
  | idle => trivial
  | firstVersion sequence => exact fun hv => .nil hv.ge
  | firstSequence sequence version =>
    unfold Reader.next
    dsimp only
    split_ifs with hcheck
    · rintro _ ⟨⟩
    · exact h (not_not.mp (not_or.mp hcheck).1)
  | lookup sequence =>
    unfold Reader.next
    dsimp only
    cases hlookup : directory.metadata.lookup sequence with
    | none => rintro _ ⟨⟩
    | some metadata =>
      exact ⟨hdirectory.core.metadata sequence metadata hlookup, Nat.zero_le _, h⟩
  | copying sequence metadata copied =>
    obtain ⟨hreference, hlength, hcopied⟩ := h
    unfold Reader.next
    dsimp only
    split_ifs with hlt
    · refine ⟨hreference, ?_, hcopied.read⟩
      rw [List.length_append, List.length_singleton]
      exact hlt
    · exact ⟨hreference, Nat.le_antisymm hlength (Nat.not_lt.mp hlt), hcopied⟩
  | secondVersion sequence metadata copied =>
    obtain ⟨⟨sample, hpassed, hmetadata⟩, hlength, hcopied⟩ := h
    intro hversion
    obtain ⟨h0, -, hsized⟩ := hstore.ring.passed _ _ hpassed
    obtain ⟨-, stable, hstable, hholds⟩ := hstore.ring.stable _ h0 hversion
    obtain rfl := Option.some.inj (hpassed.symm.trans hstable)
    refine ⟨sample, hpassed, hsized, hmetadata, fun hprofile => ?_⟩
    rw [RingSpec.written_of_profile hprofile] at hholds
    refine hcopied.eq_of_holds hversion hholds ?_
    rw [hlength, hsized.length_elements, hprofile]
  | secondSequence sequence metadata copied versionAfter =>
    unfold Reader.next
    dsimp only
    split_ifs with hcheck
    · rintro _ ⟨⟩
    · obtain ⟨sample, hpassed, hsized, rfl, hcopied⟩ := h (not_not.mp (not_or.mp hcheck).1)
      rintro _ ⟨⟩
      refine ⟨sample, hpassed, fun hprofile => ?_⟩
      rw [hcopied hprofile, ← hprofile]
      exact hsized.sample_elements _
  | done sequence result => exact h

/-- A read of a published and registered frame whose slot is not needed yet has
    not failed. -/
def Reader.InTime (sequence : ℤ) : Reader δ α → Prop
  | .idle => False
  | .firstVersion s | .lookup s | .copying s _ _ | .secondVersion s _ _ => s = sequence
  | .firstSequence s version => s = sequence ∧ version = sequence * 2 + 2
  | .secondSequence s _ _ versionAfter => s = sequence ∧ versionAfter = sequence * 2 + 2
  | .done s result => s = sequence ∧ result ≠ none

theorem Reader.InTime.next {sequence : ℤ} (h : reader.InTime sequence)
    (hversion : (store.slot capacity sequence).block.version = sequence * 2 + 2)
    (hsequence : (store.slot capacity sequence).sequence = sequence)
    (hlookup : ∃ reference, directory.metadata.lookup sequence = some reference) :
    (reader.next spec capacity store directory).InTime sequence := by
  cases reader with
  | idle => exact h
  | firstVersion s =>
    obtain rfl : s = sequence := h
    exact ⟨rfl, hversion⟩
  | firstSequence s version =>
    obtain ⟨rfl, rfl⟩ := h
    unfold Reader.next
    dsimp only
    rw [hsequence, if_neg (by omega)]
    exact rfl
  | lookup s =>
    obtain rfl : s = sequence := h
    obtain ⟨reference, hlookup⟩ := hlookup
    unfold Reader.next
    dsimp only
    rw [hlookup]
    exact rfl
  | copying s metadata copied =>
    obtain rfl : s = sequence := h
    unfold Reader.next
    dsimp only
    split_ifs <;> exact rfl
  | secondVersion s metadata copied =>
    obtain rfl : s = sequence := h
    exact ⟨rfl, hversion⟩
  | secondSequence s metadata copied versionAfter =>
    obtain ⟨rfl, rfl⟩ := h
    unfold Reader.next
    dsimp only
    rw [hsequence, if_neg (by simp)]
    exact ⟨rfl, nofun⟩
  | done s result => exact h

end Readers

/-! ## Runs -/

section Runs

variable [DecidableEq ρ] {spec : RingSpec} {capacity : ℤ} {system : System ρ δ α}

/-- The invariant of the shared ring. -/
structure System.Ok (spec : RingSpec) (capacity : ℤ) (system : System ρ δ α) : Prop where
  store : system.store.Ok spec capacity
  directory : system.directory.Ok capacity system.store
  readers : ∀ r, (system.readers r).Ok spec capacity system.store

omit [DecidableEq ρ] in
theorem System.ok_init (hcapacity : 0 < capacity) (memory : ℤ → ℕ → α) :
    (System.init memory : System ρ δ α).Ok spec capacity := by
  refine ⟨⟨SlotRing.init_sound memory, fun _ => le_rfl⟩,
    ⟨⟨by simp [System.init], List.nodup_nil, by simp [System.init, dictKeys],
      by simp [System.init], by simp [System.init]⟩, ?_⟩, fun _ => trivial⟩
  show (0 : ℤ) ≤ capacity * 2
  omega

omit [DecidableEq ρ] in
/-- The producer moves on. -/
theorem System.Ok.moves (h : system.Ok spec capacity) {store : Store δ α}
    (hmoves : system.store.Moves spec capacity store) :
    ({ system with store } : System ρ δ α).Ok spec capacity :=
  ⟨hmoves.ok, h.directory.evolves hmoves.evolves, fun r => (h.readers r).evolves hmoves.evolves⟩

/-- A reader moves on. -/
theorem System.Ok.reader (h : system.Ok spec capacity) (r : ρ) {reader : Reader δ α}
    (hreader : reader.Ok spec capacity system.store) :
    ({ system with readers := Function.update system.readers r reader } :
      System ρ δ α).Ok spec capacity :=
  ⟨h.store, h.directory, (Function.forall_update_iff system.readers
    fun _ reader => reader.Ok spec capacity system.store).mpr ⟨hreader, fun r' _ => h.readers r'⟩⟩

/-- A step of any call. -/
theorem System.Ok.step (hcapacity : 0 < capacity) (h : system.Ok spec capacity)
    (event : Event ρ δ α) : (step spec capacity system event).Ok spec capacity := by
  cases event with
  | publish sample => exact h.moves (h.store.publish sample.property)
  | produce => exact h.moves h.store.produce
  | register sequence =>
    unfold SharedCameraRing.step
    dsimp only
    cases hpassed : system.store.passed sequence with
    | none => exact h
    | some sample =>
      dsimp only
      split_ifs with hadmits
      · exact ⟨h.store, h.directory.register hadmits hpassed, h.readers⟩
      · exact h
  | expire => exact ⟨h.store, h.directory.advance h.store hcapacity, h.readers⟩
  | read r sequence =>
    unfold SharedCameraRing.step
    dsimp only
    split_ifs
    · exact h.reader r trivial
    · exact h
  | advance r => exact h.reader r ((h.readers r).next h.store h.directory)

/-- Every interleaving of calls keeps the invariant. -/
theorem System.ok_run (hcapacity : 0 < capacity) (memory : ℤ → ℕ → α)
    (events : List (Event ρ δ α)) :
    (run (step spec capacity) (System.init memory) events).Ok spec capacity :=
  run_invariant (fun _ event h => h.step hcapacity event) (System.ok_init hcapacity memory) events

/-- The producer's part of any step. -/
theorem System.Ok.store_evolves (h : system.Ok spec capacity) (event : Event ρ δ α) :
    system.store.Evolves capacity
      (SharedCameraRing.step spec capacity system event).store.toSlotRing := by
  cases event with
  | publish sample => exact (h.store.publish sample.property).evolves
  | produce => exact h.store.produce.evolves
  | register sequence =>
    unfold SharedCameraRing.step
    dsimp only
    split
    · split_ifs <;> exact .refl _
    · exact .refl _
  | expire => exact .refl _
  | read r sequence =>
    unfold SharedCameraRing.step
    dsimp only
    split_ifs <;> exact .refl _
  | advance r => exact .refl _

/-- Registrations are never forgotten. -/
theorem registered_subset_step (system : System ρ δ α) (event : Event ρ δ α) :
    system.directory.registered ⊆ (step spec capacity system event).directory.registered := by
  cases event with
  | register sequence =>
    unfold step
    dsimp only
    split
    · split_ifs
      · exact Directory.registered_subset_register _ _
      · exact List.Subset.refl _
    · exact List.Subset.refl _
  | expire => exact Directory.registered_subset_advance _
  | read r sequence =>
    unfold step
    dsimp only
    split_ifs <;> exact List.Subset.refl _
  | _ => exact List.Subset.refl _

/-- A reader in time, for as long as the next lap has not reached its slot. -/
structure System.InTime (spec : RingSpec) (capacity : ℤ) (r : ρ) (sequence : ℤ)
    (system : System ρ δ α) : Prop where
  ok : system.Ok spec capacity
  inTime : system.store.nextSequence ≤ sequence + capacity →
    sequence ∈ system.store.returned ∧ sequence ∈ system.directory.registered ∧
      (system.readers r).InTime sequence

theorem System.InTime.step (hcapacity : 0 < capacity) {r : ρ} {sequence : ℤ}
    (h : system.InTime spec capacity r sequence) {event : Event ρ δ α}
    (hevent : ∀ s, event ≠ .read r s) :
    (SharedCameraRing.step spec capacity system event).InTime spec capacity r sequence := by
  refine ⟨h.ok.step hcapacity event, fun hlap => ?_⟩
  have hevolves := h.ok.store_evolves event
  have hlap' := hevolves.next.trans hlap
  obtain ⟨hreturned, hregistered, hreader⟩ := h.inTime hlap'
  refine ⟨hevolves.returned hreturned, registered_subset_step system event hregistered, ?_⟩
  cases event with
  | publish sample => exact hreader
  | produce => exact hreader
  | register s =>
    unfold SharedCameraRing.step
    dsimp only
    split
    · split_ifs <;> exact hreader
    · exact hreader
  | expire => exact hreader
  | read r' s =>
    have hne : r ≠ r' := by
      rintro rfl
      exact hevent s rfl
    unfold SharedCameraRing.step
    dsimp only
    split_ifs
    · show (Function.update system.readers r' _ r).InTime sequence
      rwa [Function.update_of_ne hne]
    · exact hreader
  | advance r' =>
    show (Function.update system.readers r' _ r).InTime sequence
    by_cases heq : r = r'
    · subst heq
      have hring := h.ok.store.ring
      have hversion := hring.fresh sequence hreturned hlap'
      have h0 := (hring.returned sequence hreturned).1
      rw [Function.update_self]
      exact hreader.next hversion (hring.stable sequence h0 hversion).1
        (h.ok.directory.core.kept sequence hregistered hlap')
    · rwa [Function.update_of_ne heq]

theorem System.Ok.read_inTime (hcapacity : 0 < capacity) (h : system.Ok spec capacity) {r : ρ}
    {sequence : ℤ} (hfree : (system.readers r).free = true)
    (hreturned : sequence ∈ system.store.returned)
    (hregistered : sequence ∈ system.directory.registered) :
    (SharedCameraRing.step spec capacity system (.read r sequence)).InTime spec capacity r
      sequence := by
  have hread : SharedCameraRing.step spec capacity system (.read r sequence) =
      { system with readers := Function.update system.readers r (.firstVersion sequence) } :=
    if_pos hfree
  refine ⟨h.step hcapacity _, fun _ => ?_⟩
  rw [hread]
  refine ⟨hreturned, hregistered, ?_⟩
  show (Function.update system.readers r _ r).InTime sequence
  rw [Function.update_self]
  exact rfl

/-- A read that starts after `publish` and registration of its frame. -/
theorem System.inTime_run (hcapacity : 0 < capacity) (memory : ℤ → ℕ → α)
    {before after : List (Event ρ δ α)} {r : ρ} {sequence : ℤ}
    (hreturned : sequence ∈
      (run (step spec capacity) (System.init memory) before).store.returned)
    (hregistered : sequence ∈
      (run (step spec capacity) (System.init memory) before).directory.registered)
    (hfree : ((run (step spec capacity) (System.init memory) before).readers r).free = true)
    (hafter : ∀ event ∈ after, ∀ s, event ≠ .read r s) :
    System.InTime spec capacity r sequence
      (run (step spec capacity) (System.init memory) (before ++ .read r sequence :: after)) := by
  rw [run_append, run_cons]
  exact run_invariant_of_meets (C := fun _ event => ∀ s, event ≠ Event.read r s)
    (fun _ _ hevent h => h.step hcapacity hevent)
    ((System.ok_run hcapacity memory before).read_inTime hcapacity hfree hreturned hregistered)
    (meets_of_forall hafter _)

omit [DecidableEq ρ] in
/-- It returns the frame if it ends before the slot is published to again. -/
theorem System.InTime.result {r : ρ} {sequence : ℤ} (h : system.InTime spec capacity r sequence)
    (hlap : system.store.nextSequence ≤ sequence + capacity)
    {result : Option (PixelSample δ α)} (hdone : system.readers r = .done sequence result) :
    ∃ sample read, system.store.passed sequence = some sample ∧ result = some read ∧
      (sample.profile = spec.memory → read = sample.inRing sequence) := by
  have hreader := (h.inTime hlap).2.2
  have hok := h.ok.readers r
  rw [hdone] at hreader hok
  obtain ⟨read, rfl⟩ := Option.ne_none_iff_exists'.mp hreader.2
  obtain ⟨sample, hpassed, hsample⟩ := hok read rfl
  exact ⟨sample, read, hpassed, rfl, hsample⟩

end Runs

/-! ## Both rings -/

section Rings

variable [DecidableEq ρ]

/-- **Main theorem.** In every interleaving of calls, what `read` of either ring
    returns is what was passed to `publish` for its sequence, in a shared ring if its
    aligned depth has the shape of the ring; a read of a
    published (and registered) frame that ends before its slot is published to
    again returns it; and the metadata is bounded by the capacity, of an attached
    ring by twice the capacity except between the insertion and the end of the
    trimming of a registration, where there is one entry more. -/
theorem camera_rings_sound (spec : RingSpec) (capacity : ℤ) (hcapacity : 1 < capacity)
    (memory : ℤ → ℕ → α) :
    (∀ events : List (CameraRing.Event ρ δ α),
      let ring := run (CameraRing.step capacity) (Ring.init memory) events
      (∀ r s read, ring.readers r = .done s (some read) →
        ∃ sample, ring.store.passed s = some sample ∧ read = sample.inRing s) ∧
      ring.store.metadata.length ≤ capacity) ∧
    (∀ (before after : List (CameraRing.Event ρ δ α)) (r : ρ) (s : ℤ) (result),
      let start := run (CameraRing.step capacity) (Ring.init memory) before
      let ring := run (CameraRing.step capacity) (Ring.init memory) (before ++ .read r s :: after)
      s ∈ start.store.returned → (start.readers r).free = true →
      (∀ event ∈ after, ∀ s', event ≠ .read r s') → ring.store.nextSequence ≤ s + capacity →
      ring.readers r = .done s result →
      ∃ sample, ring.store.passed s = some sample ∧ result = some (sample.inRing s)) ∧
    (∀ events : List (Event ρ δ α),
      let system := run (step spec capacity) (System.init memory) events
      (∀ r s read, system.readers r = .done s (some read) →
        ∃ sample, system.store.passed s = some sample ∧
          (sample.profile = spec.memory → read = sample.inRing s)) ∧
      (system.directory.registrar = .idle →
        system.directory.metadata.length ≤ capacity * 2) ∧
      system.directory.metadata.length ≤ capacity * 2 + 1) ∧
    (∀ (before after : List (Event ρ δ α)) (r : ρ) (s : ℤ) (result),
      let start := run (step spec capacity) (System.init memory) before
      let system := run (step spec capacity) (System.init memory) (before ++ .read r s :: after)
      s ∈ start.store.returned → s ∈ start.directory.registered →
      (start.readers r).free = true → (∀ event ∈ after, ∀ s', event ≠ .read r s') →
      system.store.nextSequence ≤ s + capacity → system.readers r = .done s result →
      ∃ sample read, system.store.passed s = some sample ∧ result = some read ∧
        (sample.profile = spec.memory → read = sample.inRing s)) := by
  have hpos : 0 < capacity := by omega
  refine ⟨fun events => ?_, fun before after r s result hreturned hfree hafter hlap hdone => ?_,
    fun events => ?_,
    fun before after r s result hreturned hregistered hfree hafter hlap hdone => ?_⟩
  · have hok : Ring.Ok capacity (run (CameraRing.step capacity) (Ring.init memory) events) :=
      Ring.ok_run memory events
    refine ⟨fun r s read hdone => ?_, hok.store.core.length_metadata_le hpos⟩
    have hreader := hok.readers r
    rw [hdone] at hreader
    exact hreader read rfl
  · exact (Ring.inTime_run memory hreturned hfree hafter).result hlap hdone
  · have hok : System.Ok spec capacity (run (step spec capacity) (System.init memory) events) :=
      System.ok_run hpos memory events
    refine ⟨fun r s read hdone => ?_, fun hidle => ?_, ?_⟩
    · have hreader := hok.readers r
      rw [hdone] at hreader
      exact hreader read rfl
    · have hregistrar := hok.directory.registrar
      unfold Directory.RegistrarOk at hregistrar
      rwa [hidle] at hregistrar
    · exact hok.directory.length_le
  · exact (System.inTime_run hpos memory hreturned hregistered hfree hafter).result hlap hdone

end Rings

/-! ## A ring of two slots -/

def pixelFrame (pixel : ℕ) : PixelSample Unit ℕ where
  metadata := ⟨⟨.workspace, 0, (), (), 0, 0, "", ""⟩, none⟩
  rgb := ⟨[1, 1, 3], [pixel, pixel, pixel]⟩
  depthRaw := ⟨[1, 1], [pixel]⟩
  depthAlignedToRgb := some ⟨[1, 1], [pixel]⟩
  ringSequence := none

theorem pixelFrame_sized (pixel : ℕ) : (pixelFrame pixel).Sized where
  rgb := rfl
  depthRaw := rfl
  aligned _ h := by cases h; rfl

/-- A ring of such frames of the workspace camera, with so many columns of the aligned depth. -/
def pixelSpec (columns : ℕ) : RingSpec :=
  ⟨.workspace, ⟨[1, 1, 3], [1, 1], some [1, columns]⟩⟩

/-- The publication of a frame, with so many steps. -/
def publication (pixel steps : ℕ) : List (Event Unit Unit ℕ) :=
  .publish ⟨pixelFrame pixel, pixelFrame_sized pixel⟩ :: List.replicate steps .produce

/-- Frame 0 is published and registered, and read while frame 1 is written. -/
def beforeRead (steps : ℕ) : List (Event Unit Unit ℕ) :=
  publication 3 steps ++ [.register 0, .expire, .expire]

/-- The read, and what the producer does meanwhile. -/
def duringRead : List (Event Unit Unit ℕ) := publication 5 7 ++ List.replicate 12 (.advance ())

/-- The system behind the read. -/
def afterRead (columns steps : ℕ) : System Unit Unit ℕ :=
  run (step (pixelSpec columns) 2) (System.init fun _ _ => 0)
    (beforeRead steps ++ .read () 0 :: duringRead)

/-- The read of frame 0 returns it. -/
theorem camera_rings_sound_two :
    (afterRead 1 10).readers () = .done 0 (some ((pixelFrame 3).inRing 0)) := by
  obtain ⟨result, hdone⟩ : ∃ result, (afterRead 1 10).readers () = .done 0 result :=
    Reader.eq_done (by decide +kernel)
  have hread := (camera_rings_sound (pixelSpec 1) 2 (by decide) fun _ _ => 0).2.2.2
    (beforeRead 10) duringRead () 0 result (by decide +kernel) (by decide +kernel)
    (by decide +kernel) (by simp [duringRead, publication, List.replicate]) (by decide +kernel)
    hdone
  obtain ⟨sample, read, hpassed, rfl, hsample⟩ := hread
  have hframe : (afterRead 1 10).store.passed 0 = some (pixelFrame 3) := rfl
  obtain rfl := Option.some.inj (hframe.symm.trans hpassed)
  rw [hdone, hsample rfl]

/-- Frames 0, 1, 4, 5 and 8 are registered; the last one has just been inserted. -/
def overfullRun : List (Event Unit Unit ℕ) :=
  (List.replicate 9 (publication 3 10)).flatten ++
    [.register 0, .expire, .expire, .register 1, .expire, .expire, .register 4, .expire, .expire,
      .register 5, .expire, .expire, .register 8]

/-- The aligned depth of what a read has returned. -/
def Reader.aligned? : Reader Unit ℕ → Option (NDArray ℕ)
  | .done _ (some read) => read.depthAlignedToRgb
  | _ => none

/-- Inside a registration there may be one entry more than twice the capacity, and a ring with two
    columns repeats the only column of an aligned depth. -/
theorem registration_overfull :
    (¬∀ events : List (Event Unit Unit ℕ), ((run (step (pixelSpec 1) 2)
      (System.init fun _ _ => 0) events).directory.metadata.length : ℤ) ≤ 2 * 2) ∧
    (afterRead 2 11).store.passed 0 = some (pixelFrame 3) ∧
    ((afterRead 2 11).readers ()).aligned? = some ⟨[1, 2], [3, 3]⟩ ∧
    (pixelFrame 3).depthAlignedToRgb = some ⟨[1, 1], [3]⟩ := by
  refine ⟨fun h => absurd (h overfullRun) (by decide +kernel), rfl, by decide +kernel, rfl⟩

end HandLab.Episode.SharedCameraRing
