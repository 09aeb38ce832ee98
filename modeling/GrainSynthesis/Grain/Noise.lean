import GrainSynthesis.Grid
import GrainSynthesis.Parameters
import GrainSynthesis.Raster
import GrainSynthesis.Sample
import GrainSynthesis.ScalingTable
import GrainSynthesis.Subsampling

/-!
# Adding noise to a sample

A noise image has a grid of entries for each plane. An entry is scaled by the
factor that the table gives at the sample's key, shifted down with rounding,
added to the sample, and the sum is clipped. The key is the only thing in which
luma and the two ways of blending chroma differ.
-/

namespace GrainSynthesis

/-- The noise entries of a picture, a grid for each plane. -/
abbrev NoiseImage := PerPlane (Grid Int)

namespace Noise

/-- A grain entry scaled by a factor and shifted down with rounding. -/
def scaled (factor entry : Int) (shift : Nat) : Except Fault Int := do
  let product ← Word.signed (factor * entry)
  roundShift product shift

/-- What shapes the result of a blend besides the samples and the noise. -/
structure Setting where
  /-- The depth of samples and noise. -/
  depth : Depth
  /-- The table that scales the noise. -/
  table : ScalingTable
  /-- By how many bits scaled noise is shifted down. -/
  shift : Nat
  /-- The lower bound of results. -/
  low : Int
  /-- The upper bound of results. -/
  high : Int

/-- A sample with noise added, the noise being scaled for `key`. -/
def add (setting : Setting) (key sample entry : Int) : Except Fault Int := do
  let factor ← setting.table.factor setting.depth key
  let noise ← scaled factor entry setting.shift
  let sum ← Word.signed (sample + noise)
  setting.depth.sample (clip sum setting.low setting.high)

/-- Check that the shift has a code and that a grid has noise for every sample of
`extent` from row `start` on. -/
def check (grid : Grid Int) (shift : Nat) (extent : Extent) (start : Nat) : Except Fault Unit := do
  require (GrainParameters.ShiftCoded shift) (.scalingShift shift)
  let last ← Word.size (start + extent.height)
  require (last ≤ grid.rows) .noiseRows
  require (extent.width ≤ grid.columns) .noiseColumns

/-- The noise suffices exactly when the shift has a code and every row and column
that takes noise is in the grid. -/
theorem check_eq_ok_iff (grid : Grid Int) (shift : Nat) (extent : Extent) (start : Nat) :
    check grid shift extent start = .ok () ↔
      GrainParameters.ShiftCoded shift ∧ start + extent.height < Word.sizeLimit ∧
        start + extent.height ≤ grid.rows ∧ extent.width ≤ grid.columns := by
  by_cases coded : GrainParameters.ShiftCoded shift <;>
    by_cases fits : start + extent.height < Word.sizeLimit <;>
      by_cases tall : start + extent.height ≤ grid.rows <;>
        simp [check, require, Word.size, coded, fits, tall, bind, Except.bind]

end Noise

end GrainSynthesis
