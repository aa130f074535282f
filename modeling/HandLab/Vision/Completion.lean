import HandLab.Vision.Plane

/-!
# The guided depth completion

`guided_depth_completion` of `src/vision_interface/depth_processing.py` (lines 220–274) with
`_guided_filter` and `_box_mean` (lines 476–504), for images whose sides are longer than
`radius_px`. The depths and the guide are numeric arrays; a depth may be missing, infinite or NaN.
-/

namespace HandLab.Vision

open HandLab.Lib Double

/-- The entries of a two-dimensional array. -/
abbrev Pixels (δ : Type*) := ℕ → ℕ → δ

/-- A two-dimensional array; its pixels are those below `height` and `width`. -/
structure Image (δ : Type*) where
  height : ℕ
  width : ℕ
  pixel : Pixels δ

/-- The entries of `rgb`: integers, with the `np.iinfo(dtype).max` of their type, or numbers. -/
inductive Entries (δ : Type*)
  | integer (top : ℕ+) (value : ℕ → ℕ → ℕ → ℤ)
  | floating (value : ℕ → ℕ → ℕ → δ)

/-- The array `rgb`. -/
structure Rgb (δ : Type*) where
  shape : List ℕ
  entries : Entries δ

/-- The keyword arguments of `guided_depth_completion`, with their defaults. -/
structure CompletionOptions (δ : Type*) [Double δ] where
  radiusPx : ℤ := 6
  epsilon : δ := ofRat 1e-3
  minSupport : δ := ofRat 0.08
  minDepthM : δ := ofRat 0.15
  maxDepthM : δ := ofRat 1.5

variable {δ : Type*} [PyFloat δ]

/-! ## `_box_mean` and `_guided_filter` -/

/-- The row that `np.pad(mode="reflect")` shows at `i`; a side is longer than the padding. -/
def reflected (side radiusPx i : ℕ) : ℕ :=
  if i < radiusPx then radiusPx - i
  else if i - radiusPx < side then i - radiusPx else 2 * (side - 1) - (i - radiusPx)

/-- A first row and column of zeros. -/
def bordered (array : Pixels δ) : Pixels δ
  | i + 1, j + 1 => array i j
  | _, _ => zero

/-- `np.cumsum` of one axis. -/
def cumsum (values : ℕ → δ) : ℕ → δ
  | 0 => values 0
  | i + 1 => add (cumsum values i) (values (i + 1))

/-- `integral` of `_box_mean`. -/
def integral (padded : Pixels δ) : Pixels δ := fun i j =>
  cumsum (fun n => cumsum (fun m => bordered padded m n) i) j

/-- `_box_mean` of an array of `height` rows and `width` columns. -/
def boxMean (height width radiusPx : ℕ) (array : Pixels δ) : Pixels δ :=
  let padded : Pixels δ := fun i j =>
    PyFloat.toFloat32 (array (reflected height radiusPx i) (reflected width radiusPx j))
  let size := 2 * radiusPx + 1
  fun i j =>
    div (add (sub (sub (integral padded (i + size) (j + size)) (integral padded i (j + size)))
      (integral padded (i + size) j)) (integral padded i j)) (ofRat (size * size : ℕ))

/-- `_guided_filter`. -/
def guidedFilter (height width radiusPx : ℕ) (guide source : Pixels δ) (epsilon : δ) : Pixels δ :=
  let mean := boxMean height width radiusPx
  let meanGuide := mean guide
  let meanSource := mean source
  let correlation := mean fun i j => mul (guide i j) (source i j)
  let squares := mean fun i j => mul (guide i j) (guide i j)
  let variance := fun i j => sub (squares i j) (mul (meanGuide i j) (meanGuide i j))
  let covariance := fun i j => sub (correlation i j) (mul (meanGuide i j) (meanSource i j))
  let a := fun i j => div (covariance i j) (add (variance i j) epsilon)
  let b := fun i j => sub (meanSource i j) (mul (a i j) (meanGuide i j))
  fun i j => add (mul (mean a i j) (guide i j)) (mean b i j)

/-! ## `guided_depth_completion` -/

/-- `np.fmax`, which takes a number over a NaN. -/
def fmax (x y : δ) : δ := if le y x || !eq y y then x else y

/-- `finite_max`. -/
def finiteMax : List δ → δ
  | [] => ofRat 1
  | x :: entries => entries.foldl fmax x

/-- `guide`. -/
def guideOf (height width : ℕ) : Entries δ → ℕ → ℕ → ℕ → δ
  | .integer top value => fun i j k => div (PyFloat.toFloat32 (ofInt (value i j k))) (ofInt top)
  | .floating value =>
    let guide := fun i j k => PyFloat.toFloat32 (value i j k)
    let entries := (List.range height).flatMap fun i => (List.range width).flatMap fun j =>
      (List.range 3).map (guide i j)
    if lt (ofRat 1) (finiteMax entries) then fun i j k => div (guide i j k) (ofRat 255) else guide

/-- `luminance`. -/
def luminance (height width : ℕ) (entries : Entries δ) : Pixels δ :=
  let guide := guideOf height width entries
  fun i j => add (add (mul (ofRat 0.299) (guide i j 0)) (mul (ofRat 0.587) (guide i j 1)))
    (mul (ofRat 0.114) (guide i j 2))

namespace CompletionOptions

/-- Whether `valid` holds for a depth. -/
def isValid (o : CompletionOptions δ) (depth : δ) : Bool :=
  isFinite depth && le o.minDepthM depth && le depth o.maxDepthM

/-- What `_guided_filter` makes of `source`. -/
def filtered (o : CompletionOptions δ) (depth : Image δ) (rgb : Rgb δ) (source : δ → δ) :
    Pixels δ :=
  guidedFilter depth.height depth.width o.radiusPx.toNat
    (luminance depth.height depth.width rgb.entries) (fun i j => source (depth.pixel i j)) o.epsilon

/-- `numerator`. -/
def numerator (o : CompletionOptions δ) (depth : Image δ) (rgb : Rgb δ) : Pixels δ :=
  o.filtered depth rgb fun d => if o.isValid d then d else zero

/-- `support`. -/
def support (o : CompletionOptions δ) (depth : Image δ) (rgb : Rgb δ) : Pixels δ :=
  o.filtered depth rgb fun d => if o.isValid d then ofRat 1 else zero

/-- `fillable` before `candidate` is looked at. -/
def supported (o : CompletionOptions δ) (depth : Image δ) (rgb : Rgb δ) (i j : ℕ) : Bool :=
  !o.isValid (depth.pixel i j) && isFinite (o.support depth rgb i j) &&
    le o.minSupport (o.support depth rgb i j)

/-- `candidate`. -/
def candidate (o : CompletionOptions δ) (depth : Image δ) (rgb : Rgb δ) : Pixels δ := fun i j =>
  if o.supported depth rgb i j then
    div (o.numerator depth rgb i j) (o.support depth rgb i j) else zero

/-- `fillable`. -/
def fillable (o : CompletionOptions δ) (depth : Image δ) (rgb : Rgb δ) (i j : ℕ) : Bool :=
  o.supported depth rgb i j && isFinite (o.candidate depth rgb i j) &&
    le o.minDepthM (o.candidate depth rgb i j) && le (o.candidate depth rgb i j) o.maxDepthM

end CompletionOptions

/-- `output` before it is filled. -/
def kept (depth : δ) : δ := if isFinite depth then depth else zero

def tupleText : List ℕ → String
  | [n] => s!"({n},)"
  | shape => "(" ++ ", ".intercalate (shape.map toString) ++ ")"

/-- `guided_depth_completion` of a numeric array of two dimensions. -/
def guidedDepthCompletion (depthM : Image δ) (rgb : Rgb δ) (o : CompletionOptions δ) :
    Except FitError (Image δ) :=
  let depth := { depthM with pixel := fun i j => PyFloat.toFloat32 (depthM.pixel i j) }
  let shape := [depth.height, depth.width, 3]
  if rgb.shape ≠ shape then
    .error (.valueError
      s!"rgb shape {tupleText rgb.shape} does not match {tupleText shape}.")
  else if o.radiusPx ≤ 0 then .error (.valueError "radius_px must be positive.")
  else if !isFinite o.epsilon || le o.epsilon zero then
    .error (.valueError "epsilon must be finite and positive.")
  else if !(lt zero o.minSupport && le o.minSupport (ofRat 1)) then
    .error (.valueError "min_support must be in (0, 1].")
  else if lt o.minDepthM zero || le o.maxDepthM o.minDepthM then
    .error (.valueError "Expected 0 <= min_depth_m < max_depth_m.")
  else
    let output := fun i j =>
      if o.fillable depth rgb i j then o.candidate depth rgb i j else kept (depth.pixel i j)
    .ok { depth with pixel := output }

end HandLab.Vision
