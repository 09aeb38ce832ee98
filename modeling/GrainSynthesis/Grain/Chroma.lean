import GrainSynthesis.Grain.Noise

/-!
# Grain on chroma

The key of a chroma sample is taken from luma. Where chroma has half as many
columns, the luma value is the rounded mean of two neighbours, and at the right
edge of an odd width the last column is its own neighbour.

In luma mode that value is the key. In mixed mode the key is a weighted sum of
it and the chroma sample, in 64ths rounded down, plus the plane's offset, and
clipped to the samples of the depth.
-/

namespace GrainSynthesis

/-- Where the scaling key of a chroma sample comes from. -/
inductive KeyMode where
  /-- From the co-located luma alone. -/
  | luma
  /-- From luma and the sample itself, by the plane's coefficients. -/
  | mixed
  deriving DecidableEq, Repr

/-- The mode that the parameters ask for. -/
def GrainParameters.keyMode (parameters : GrainParameters) : KeyMode :=
  if parameters.chromaFromLuma then .luma else .mixed

/-- A chroma blend that is asked for. -/
structure ChromaJob where
  depth : Depth
  plane : Plane
  parameters : GrainParameters
  noise : NoiseImage
  table : ScalingTable
  /-- The luma samples from which keys are taken, without noise. -/
  luma : Raster Int
  source : Raster Int
  /-- The bounds of results. -/
  low : Int
  high : Int
  /-- The visible columns and rows of luma. -/
  extent : Extent
  subsampling : Subsampling
  /-- The noise row of the first chroma row. -/
  start : Nat

namespace ChromaJob

/-- The luma value at a chroma column of a luma row. -/
def averageLuma (luma : Array Int) (subsamplingX column : Nat) : Except Fault Int :=
  if subsamplingX = 0 then
    elementAt luma column
  else if luma.size = 0 then
    .error .overflow
  else do
    let left ← elementAt luma (2 * column)
    let right ← elementAt luma (min (2 * column + 1) (luma.size - 1))
    return (left + right + 1) / 2

/-- The key that a mix makes of a luma value and a chroma sample. -/
def mixedKey (depth : Depth) (mix : KeyMix) (average sample : Int) : Except Fault Int := do
  let fromLuma ← Word.signed (average * mix.lumaMultiplier)
  let fromChroma ← Word.signed (sample * mix.multiplier)
  let combined ← Word.signed (fromLuma + fromChroma)
  let shifted ← Word.signed (combined / 64 + mix.offset * Int.pow 2 depth.extraBits)
  return clip shifted 0 depth.maxSample

/-- The key of a chroma sample. -/
def key (job : ChromaJob) (mode : KeyMode) (average sample : Int) : Except Fault Int :=
  match mode with
  | .luma => .ok average
  | .mixed => mixedKey job.depth (job.parameters.mix job.plane) average sample

/-- What shapes the results of the blend. -/
def setting (job : ChromaJob) : Noise.Setting :=
  ⟨job.depth, job.table, job.parameters.scalingShift, job.low, job.high⟩

/-- Check that the plane is a chroma plane and that its coefficients have codes. -/
def checkCoefficients (job : ChromaJob) : Except Fault Unit := do
  let mix := job.parameters.mix job.plane
  require (job.plane.isChroma = true) .chromaPlane
  require
    (Coefficient.multiplier.admits mix.multiplier = true ∧
      Coefficient.lumaMultiplier.admits mix.lumaMultiplier = true)
    .chromaMultipliers
  require (Coefficient.offset.admits mix.offset = true) .chromaOffset

/-- Check the shift and that the plane's grid has noise for an extent. -/
def checkNoise (job : ChromaJob) (chroma : Extent) : Except Fault Unit :=
  Noise.check (job.noise.get job.plane) job.parameters.scalingShift chroma job.start

/-- Check what the blend requires of its arguments, and find the chroma extent. -/
def check (job : ChromaJob) : Except Fault Extent := do
  job.checkCoefficients
  let chroma ← job.subsampling.chromaExtent job.extent
  job.checkNoise chroma
  return chroma

/-- The rows that a chroma row is computed from and where it is written. -/
structure Rows where
  luma : Array Int
  source : Array Int
  noise : Array Int
  start : Nat

/-- Find the rows for a chroma row of `width` columns. -/
def rows (job : ChromaJob) (width : Nat) (layout : Layout) (size row : Nat) :
    Except Fault Rows := do
  let luma ← job.luma.row (job.subsampling.lumaRow row) job.extent.width
  let source ← job.source.row row width
  let noise ← (job.noise.get job.plane).rowStart (job.start + row) width
  let start ← layout.locate size row width
  return ⟨luma, source, noise, start⟩

/-- The result at a column. -/
def sampleAt (job : ChromaJob) (mode : KeyMode) (found : Rows) (column : Nat) :
    Except Fault Int := do
  let average ← averageLuma found.luma job.subsampling.x column
  let sample ← elementAt found.source column
  let scalingKey ← job.key mode average sample
  let entry ← elementAt found.noise column
  Noise.add job.setting scalingKey sample entry

/-- The samples that a row of the destination receives. -/
def stroke (job : ChromaJob) (mode : KeyMode) (width : Nat) (layout : Layout) (size row : Nat) :
    Except Fault (Stroke Int) := do
  let found ← job.rows width layout size row
  return ⟨found.start, job.sampleAt mode found⟩

/-- Blend noise into a chroma plane, one sample after the other. -/
def blend (job : ChromaJob) (mode : KeyMode) (target : Raster Int) : Run (Raster Int) :=
  match job.check with
  | .error fault => .stopped fault target
  | .ok chroma =>
    let layout := target.layout
    let size := target.samples.size
    target.paint chroma.width chroma.height (job.stroke mode chroma.width layout size)

end ChromaJob

end GrainSynthesis
