import GrainSynthesis.Raster
import GrainSynthesis.Sample

/-!
# Blending two predictions

Two predictions of a block are averaged with weights that sum to sixteen. A
prediction carries four bits more than a sample, so the weighted sum is shifted
down by eight with rounding, and the result is confined to sixteen signed bits
before it is clipped to a sample.

Blocks have a power of two of columns and of rows, from four to 128.
-/

namespace GrainSynthesis

/-- A blend of two predictions that is asked for. -/
structure CompoundJob where
  depth : Depth
  first : Raster Int16
  second : Raster Int16
  firstWeight : Nat
  secondWeight : Nat
  width : Nat
  height : Nat

namespace CompoundJob

/-- The sum of the weights of a blend. -/
def weightTotal : Nat := 16

/-- By how many bits a weighted sum is shifted down: the weights' four and the
four that predictions carry beyond samples. -/
def shift : Nat := 8

/-- Whether a block can have this many columns or rows. -/
def IsBlockLength (length : Nat) : Prop :=
  4 ≤ length ∧ length ≤ 128 ∧ length = Nat.pow 2 length.log2

instance (length : Nat) : Decidable (IsBlockLength length) :=
  inferInstanceAs (Decidable (_ ∧ _ ∧ _))

/-- Check the weights and the lengths of the block, in this order. -/
def check (job : CompoundJob) : Except Fault Unit := do
  let total := job.firstWeight + job.secondWeight
  require (total = weightTotal) (.weightSum total)
  require (IsBlockLength job.width) (.blockWidth job.width)
  require (IsBlockLength job.height) (.blockHeight job.height)

/-- The blend is accepted exactly when the weights sum to sixteen and both lengths
are those of a block. -/
theorem check_eq_ok_iff (job : CompoundJob) :
    job.check = .ok () ↔ job.firstWeight + job.secondWeight = weightTotal ∧
      IsBlockLength job.width ∧ IsBlockLength job.height := by
  by_cases weights : job.firstWeight + job.secondWeight = weightTotal <;>
    by_cases width : IsBlockLength job.width <;>
      simp [check, require, weights, width, bind, Except.bind]

/-- The sample that two predictions blend to. -/
def blendSample (depth : Depth) (firstWeight secondWeight : Nat) (first second : Int16) :
    Except Fault Int := do
  let fromFirst ← Word.signed (first.toInt * firstWeight)
  let fromSecond ← Word.signed (second.toInt * secondWeight)
  let sum ← Word.signed (fromFirst + fromSecond)
  let rounded ← roundShift sum shift
  depth.clipSample (clip rounded (-32768) 32767)

/-- The rows that a row is computed from and where it is written. -/
structure Rows where
  first : Array Int16
  second : Array Int16
  start : Nat

/-- Find the rows for a row of the block. -/
def rows (job : CompoundJob) (layout : Layout) (size row : Nat) : Except Fault Rows := do
  let first ← job.first.row row job.width
  let second ← job.second.row row job.width
  let start ← layout.locate size row job.width
  return ⟨first, second, start⟩

/-- The result at a column. -/
def sampleAt (job : CompoundJob) (found : Rows) (column : Nat) : Except Fault Int := do
  let first ← elementAt found.first column
  let second ← elementAt found.second column
  blendSample job.depth job.firstWeight job.secondWeight first second

/-- The samples that a row of the destination receives. -/
def stroke (job : CompoundJob) (layout : Layout) (size row : Nat) : Except Fault (Stroke Int) := do
  let found ← job.rows layout size row
  return ⟨found.start, job.sampleAt found⟩

/-- Blend two predictions, one sample after the other. -/
def blend (job : CompoundJob) (target : Raster Int) : Run (Raster Int) :=
  match job.check with
  | .error fault => .stopped fault target
  | .ok () =>
    let layout := target.layout
    let size := target.samples.size
    target.paint job.width job.height (job.stroke layout size)

end CompoundJob

end GrainSynthesis
