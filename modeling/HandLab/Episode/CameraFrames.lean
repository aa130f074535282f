import HandLab.Episode.Samples

/-!
# Camera frames with their pixels

`CameraSample` and `CameraFrameRef` (`src/episode_dataset/episode.py` lines
132–214) as the camera rings use them. The rings copy the three arrays of a
sample element by element; `elements` lists them in the order of the copies, and
`CameraFrameRef.sample` puts a copied list and the metadata of a frame together.
-/

namespace HandLab.Episode

variable {δ α : Type}

/-- A `numpy.ndarray`: its shape and its elements in row order. -/
structure NDArray (α : Type) where
  shape : List ℕ
  elements : List α
  deriving DecidableEq

/-- The metadata of a frame; the element types of the arrays are fixed. -/
structure FrameMetadata (δ : Type) where
  header : CameraHeader δ
  depthScaleM : Option δ

/-- A `CameraSample` with its pixels. -/
structure PixelSample (δ α : Type) where
  metadata : FrameMetadata δ
  rgb : NDArray α
  depthRaw : NDArray α
  depthAlignedToRgb : Option (NDArray α)
  ringSequence : Option ℤ

/-- The shapes of the arrays of a camera. -/
structure Profile where
  rgbShape : List ℕ
  depthShape : List ℕ
  alignedShape : Option (List ℕ)
  deriving DecidableEq

/-- `CameraFrameRef` (and `FrameReferenceDescriptor`): metadata without pixels. -/
structure CameraFrameRef (δ : Type) where
  metadata : FrameMetadata δ
  sequence : ℤ
  rgbShape : List ℕ
  depthShape : List ℕ

namespace PixelSample

variable (sample : PixelSample δ α)

def profile : Profile :=
  ⟨sample.rgb.shape, sample.depthRaw.shape, sample.depthAlignedToRgb.map NDArray.shape⟩

/-- The elements of the aligned depth, none without alignment. -/
def alignedElements : List α :=
  match sample.depthAlignedToRgb with
  | some aligned => aligned.elements
  | none => []

/-- All elements, in the order in which `publish` copies them. -/
def elements : List α :=
  sample.rgb.elements ++ sample.depthRaw.elements ++ sample.alignedElements

/-- Every array has the number of elements of its shape. -/
structure Sized : Prop where
  rgb : sample.rgb.elements.length = sample.rgb.shape.prod
  depthRaw : sample.depthRaw.elements.length = sample.depthRaw.shape.prod
  aligned : ∀ aligned, sample.depthAlignedToRgb = some aligned →
    aligned.elements.length = aligned.shape.prod

/-- The reference that `publish` returns. -/
def reference (sequence : ℤ) : CameraFrameRef δ :=
  ⟨sample.metadata, sequence, sample.rgb.shape, sample.depthRaw.shape⟩

/-- The sample as a ring hands it out. -/
def inRing (sequence : ℤ) : PixelSample δ α := { sample with ringSequence := some sequence }

end PixelSample

namespace Profile

variable (profile : Profile)

/-- The number of elements of the aligned depth. -/
def alignedSize : ℕ :=
  match profile.alignedShape with
  | some shape => shape.prod
  | none => 0

/-- The number of elements of a frame. -/
def size : ℕ := profile.rgbShape.prod + profile.depthShape.prod + profile.alignedSize

end Profile

/-- The sample that `read` builds from its copies (`camera.py` lines 146–160,
    `process_runtime.py` lines 384–398). -/
def CameraFrameRef.sample (reference : CameraFrameRef δ) (profile : Profile) (copied : List α)
    (sequence : ℤ) : PixelSample δ α where
  metadata := reference.metadata
  rgb := ⟨profile.rgbShape, copied.take profile.rgbShape.prod⟩
  depthRaw := ⟨profile.depthShape,
    (copied.drop profile.rgbShape.prod).take profile.depthShape.prod⟩
  depthAlignedToRgb := profile.alignedShape.map fun shape =>
    ⟨shape, (copied.drop (profile.rgbShape.prod + profile.depthShape.prod)).take shape.prod⟩
  ringSequence := some sequence

variable {sample : PixelSample δ α}

theorem PixelSample.Sized.length_elements (h : sample.Sized) :
    sample.elements.length = sample.profile.size := by
  have haligned : sample.alignedElements.length = sample.profile.alignedSize := by
    unfold PixelSample.alignedElements Profile.alignedSize PixelSample.profile
    cases hsome : sample.depthAlignedToRgb with
    | none => rfl
    | some aligned => exact h.aligned aligned hsome
  rw [PixelSample.elements, List.length_append, List.length_append, h.rgb, h.depthRaw, haligned]
  rfl

/-- A complete copy with the reference of its frame is the frame. -/
theorem PixelSample.Sized.sample_elements (h : sample.Sized) (sequence : ℤ) :
    (sample.reference sequence).sample sample.profile sample.elements sequence =
      sample.inRing sequence := by
  obtain ⟨metadata, rgb, depthRaw, aligned, ringSequence⟩ := sample
  have hrgb : (rgb.elements ++ (depthRaw.elements ++
      PixelSample.alignedElements ⟨metadata, rgb, depthRaw, aligned, ringSequence⟩)).take
        rgb.shape.prod = rgb.elements := List.take_left' h.rgb
  have hrest : (rgb.elements ++ (depthRaw.elements ++
      PixelSample.alignedElements ⟨metadata, rgb, depthRaw, aligned, ringSequence⟩)).drop
        rgb.shape.prod = depthRaw.elements ++
          PixelSample.alignedElements ⟨metadata, rgb, depthRaw, aligned, ringSequence⟩ :=
    List.drop_left' h.rgb
  simp only [CameraFrameRef.sample, PixelSample.reference, PixelSample.profile,
    PixelSample.elements, PixelSample.inRing, List.append_assoc, hrgb, PixelSample.mk.injEq,
    true_and, and_true]
  refine ⟨?_, ?_⟩
  · rw [hrest, List.take_left' h.depthRaw]
  · cases aligned with
    | none => rfl
    | some aligned =>
      rw [← List.drop_drop, hrest, List.drop_left' h.depthRaw]
      simp only [PixelSample.alignedElements, Option.map_some]
      rw [← h.aligned aligned rfl, List.take_length]

end HandLab.Episode
