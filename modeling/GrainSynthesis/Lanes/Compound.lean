import GrainSynthesis.Compound
import GrainSynthesis.Lanes.Window

/-!
# Blending two predictions in registers

A register of each prediction is interleaved with the other, so that one
multiplication of neighbouring lanes weighs and sums both. A pass through a narrow
block takes two or four rows, with one or more to a register, which are stored one
after the other. A pass through a row of a wider block takes sixteen samples, and
single samples are left for the end.
-/

namespace GrainSynthesis.CompoundJob

open Lanes Register

/-- Both weights in one wide number, the first in its low half. -/
def packedWeights (job : CompoundJob) : Int := job.secondWeight * 65536 + job.firstWeight

/-- The weights in alternating lanes. -/
def laneWeights (job : CompoundJob) (lanes : Nat) : Register lanes :=
  splatHalves lanes job.packedWeights

/-- The weighted averages of two registers, confined to sixteen bits. -/
def laneAverage {blocks : Nat} (first second weights : Register (8 * blocks)) :
    Register (8 * blocks) :=
  let rounding := splat (4 * blocks) 128
  let low := add32 (multiplyAdd (interleaveLow first second) weights) rounding
  let high := add32 (multiplyAdd (interleaveHigh first second) weights) rounding
  pack (shiftRightSign32 shift low) (shiftRightSign32 shift high)

/-- Clip every lane to the samples of a depth. -/
def laneClip {lanes : Nat} (depth : Depth) (register : Register lanes) : Register lanes :=
  minLanes (maxLanes register (splat lanes 0)) (splat lanes (wrap16 depth.maxSample))

/-- The samples that two registers of predictions blend to. -/
def laneBlend {blocks : Nat} (job : CompoundJob) (first second : Register (8 * blocks)) :
    Register (8 * blocks) :=
  laneClip job.depth (laneAverage first second (job.laneWeights (8 * blocks)))

/-- Load as many consecutive rows of a narrow prediction as a register holds. -/
def loadRows (lanes : Nat) (prediction : Raster Int16) (width row : Nat) :
    Except Fault (Register lanes) :=
  Vector.ofFnM fun lane => do
    let samples ← prediction.row (row + lane.val / width) width
    let sample ← elementAt samples (lane.val % width)
    return sample.toInt

/-- Load a register from a row of a wide prediction. -/
def loadWindow (lanes : Nat) (row : Array Int16) (first : Nat) : Except Fault (Register lanes) :=
  Vector.ofFnM fun lane => do
    let sample ← elementAt row (first + lane.val)
    return sample.toInt

/-- Store one of the rows of a narrow block that a register holds, `index` rows
after `row`. -/
def storeRow {lanes : Nat} (job : CompoundJob) (register : Register lanes) (layout : Layout)
    (size row index : Nat) (buffer : Array Int) : Run (Array Int) :=
  match layout.locate size (row + index) job.width with
  | .ok start =>
    store (fun column => laneSample job.depth register (index * job.width + column)) start
      job.width buffer
  | .error fault => .stopped fault buffer

/-- The predictions of the rows of a narrow block that a register holds. -/
def loadBoth (job : CompoundJob) (lanes row : Nat) :
    Except Fault (Register lanes × Register lanes) := do
  let first ← loadRows lanes job.first job.width row
  let second ← loadRows lanes job.second job.width row
  return (first, second)

/-- Blend as many rows of a narrow block as a register holds, and store them one
after the other. -/
def narrowStep (job : CompoundJob) (vector : VectorWidth) (layout : Layout) (size number : Nat)
    (buffer : Array Int) : Run (Array Int) :=
  let rows := vector.lanes / job.width
  let row := number * rows
  match job.loadBoth vector.lanes row with
  | .ok (first, second) =>
    Run.sweep (job.storeRow (job.laneBlend first second) layout size row) rows 0 buffer
  | .error fault => .stopped fault buffer

/-- The rows that one pass through a narrow block takes. -/
def passRows : (vector : VectorWidth) → (width : Nat) → Nat
  | .bits256, 4 => 4
  | _, _ => 2

/-- The registers that hold the rows of one pass through a narrow block. -/
def passRegisters (vector : VectorWidth) (width : Nat) : Nat :=
  passRows vector width / (vector.lanes / width)

/-- Blend a block of four or eight columns, a few rows in each pass. -/
def blendNarrow (job : CompoundJob) (vector : VectorWidth) (target : Raster Int) :
    Run (Raster Int) :=
  let layout := target.layout
  let size := target.samples.size
  target.sweep (windowCount job.height (passRows vector job.width))
    (Run.pass (job.narrowStep vector layout size) (passRegisters vector job.width))

/-- The results for the window of a wide row that begins at a column. -/
def laneWindow (job : CompoundJob) (vector : VectorWidth) (found : Rows) (column : Nat) :
    Except Fault (Register vector.lanes) := do
  let first ← loadWindow vector.lanes found.first column
  let second ← loadWindow vector.lanes found.second column
  return job.laneBlend first second

/-- Blend a row of a wide block: sixteen samples in each pass as far as so many are
left, in one register or in two, and then sample by sample. -/
def wideRow (job : CompoundJob) (vector : VectorWidth) (found : Rows) (buffer : Array Int) :
    Run (Array Int) :=
  let whole := job.width / 16 * 16
  let window := windowStep job.depth (job.laneWindow vector found) found.start whole
  (Run.sweep (Run.pass window (16 / vector.lanes)) (job.width / 16) 0 buffer).andThen
    (store (fun column => job.sampleAt found (whole + column)) (found.start + whole)
      (job.width - whole))

/-- Blend one row of a wide block. -/
def wideStep (job : CompoundJob) (vector : VectorWidth) (layout : Layout) (size row : Nat)
    (buffer : Array Int) : Run (Array Int) :=
  match job.rows layout size row with
  | .ok found => job.wideRow vector found buffer
  | .error fault => .stopped fault buffer

/-- Blend a block of at least sixteen columns. -/
def blendWide (job : CompoundJob) (vector : VectorWidth) (target : Raster Int) :
    Run (Raster Int) :=
  let layout := target.layout
  let size := target.samples.size
  target.sweep job.height (job.wideStep vector layout size)

/-- Blend two predictions in registers. -/
def blendLanes (job : CompoundJob) (vector : VectorWidth) (target : Raster Int) :
    Run (Raster Int) :=
  match job.check with
  | .error fault => .stopped fault target
  | .ok () =>
    if job.width = 4 ∨ job.width = 8 then job.blendNarrow vector target
    else job.blendWide vector target

end GrainSynthesis.CompoundJob
