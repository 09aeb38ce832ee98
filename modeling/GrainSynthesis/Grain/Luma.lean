import GrainSynthesis.Grain.Noise

/-!
# Grain on luma

Each luma sample is its own key. Row `y` takes its noise from row `start + y` of
the luma grid, column by column, and only the visible part of each destination
row is written.
-/

namespace GrainSynthesis

/-- A luma blend that is asked for. -/
structure LumaJob where
  depth : Depth
  noise : NoiseImage
  table : ScalingTable
  source : Raster Int
  /-- The bounds of results. -/
  low : Int
  high : Int
  /-- By how many bits scaled noise is shifted down. -/
  shift : Nat
  /-- The visible columns and rows. -/
  extent : Extent
  /-- The noise row of the first sample row. -/
  start : Nat

namespace LumaJob

/-- What shapes the results of the blend. -/
def setting (job : LumaJob) : Noise.Setting :=
  ⟨job.depth, job.table, job.shift, job.low, job.high⟩

/-- Check what the blend requires of its arguments. -/
def check (job : LumaJob) : Except Fault Unit :=
  Noise.check job.noise.y job.shift job.extent job.start

/-- The rows that a luma row is computed from and where it is written. -/
structure Rows where
  source : Array Int
  noise : Array Int
  start : Nat

/-- Find the rows for a luma row. -/
def rows (job : LumaJob) (layout : Layout) (size row : Nat) : Except Fault Rows := do
  let source ← job.source.row row job.extent.width
  let noise ← job.noise.y.rowStart (job.start + row) job.extent.width
  let start ← layout.locate size row job.extent.width
  return ⟨source, noise, start⟩

/-- The result at a column. -/
def sampleAt (job : LumaJob) (found : Rows) (column : Nat) : Except Fault Int := do
  let sample ← elementAt found.source column
  let entry ← elementAt found.noise column
  Noise.add job.setting sample sample entry

/-- The samples that a row of the destination receives. -/
def stroke (job : LumaJob) (layout : Layout) (size row : Nat) : Except Fault (Stroke Int) := do
  let found ← job.rows layout size row
  return ⟨found.start, job.sampleAt found⟩

/-- Blend noise into luma, one sample after the other. -/
def blend (job : LumaJob) (target : Raster Int) : Run (Raster Int) :=
  match job.check with
  | .error fault => .stopped fault target
  | .ok () =>
    let layout := target.layout
    let size := target.samples.size
    target.paint job.extent.width job.extent.height (job.stroke layout size)

end LumaJob

end GrainSynthesis
