import GrainSynthesis.Grain.Chroma
import GrainSynthesis.Grain.Luma
import GrainSynthesis.Lanes.Window

/-!
# Adding noise in registers

Rows are worked on in windows as wide as a register. Scaling down with rounding
is one multiplication: the factor is shifted left so that the rounded high half
of its product with the noise is the noise as it is added. Ten-bit factors are
interpolated by the same multiplication.

The luma mean of neighbouring columns is a sum of neighbouring lanes over a
window twice as wide; in registers of two blocks those sums come out of order
and the middle quarters are exchanged.
-/

namespace GrainSynthesis

open Lanes Register

namespace Noise

/-- The scaling factors at the keys of a register. -/
def laneFactors {lanes : Nat} (table : ScalingTable) (depth : Depth) (keys : Register lanes) :
    Except Fault (Register lanes) :=
  match depth with
  | .eight =>
    Vector.ofFnM fun lane => do
      let index ← ScalingTable.position keys[lane]
      table.entry index
  | .ten => do
    let starts ← Vector.ofFnM fun lane => do
      let index ← ScalingTable.position (keys[lane] / 4)
      table.entry index
    let stops ← Vector.ofFnM fun lane => do
      let index ← ScalingTable.position (keys[lane] / 4)
      table.entry (index + 1)
    let quarters := shiftLeft16 13 (lowBits 2 keys)
    return add16 starts (mulHighRounded (sub16 stops starts) quarters)

/-- The samples of a register with noise added, the noise being scaled for `keys`. -/
def laneAdd {lanes : Nat} (setting : Setting) (keys samples entries : Register lanes) :
    Except Fault (Register lanes) := do
  let factors ← laneFactors setting.table setting.depth keys
  let noise := mulHighRounded entries (shiftLeft16 (15 - setting.shift) factors)
  let sums := add16 samples noise
  let low := splat lanes (wrap16 setting.low)
  let high := splat lanes (wrap16 setting.high)
  return minLanes (maxLanes sums low) high

end Noise

namespace LumaJob

/-- The results for the window of a row that begins at a column. -/
def laneWindow (job : LumaJob) (lanes : Nat) (found : Rows) (column : Nat) :
    Except Fault (Register lanes) := do
  let samples ← edgeWindow lanes found.source column
  let entries ← zeroWindow lanes found.noise column
  Noise.laneAdd job.setting samples samples entries

/-- Blend noise into one row of luma. -/
def laneRow (job : LumaJob) (vector : VectorWidth) (layout : Layout) (size row : Nat)
    (buffer : Array Int) : Run (Array Int) :=
  match job.rows layout size row with
  | .ok found =>
    sweepWindows job.depth (job.laneWindow vector.lanes found) found.start job.extent.width buffer
  | .error fault => .stopped fault buffer

/-- Blend noise into luma, a register at a time. -/
def blendLanes (job : LumaJob) (vector : VectorWidth) (target : Raster Int) : Run (Raster Int) :=
  match job.check with
  | .error fault => .stopped fault target
  | .ok () =>
    let layout := target.layout
    let size := target.samples.size
    target.sweep job.extent.height (job.laneRow vector layout size)

end LumaJob

namespace ChromaJob

/-- Sums of neighbouring lanes of two registers, in their order. -/
def neighbourSums (vector : VectorWidth) (low high : Register vector.lanes) :
    Register vector.lanes :=
  match vector with
  | .bits128 => pairSums low high
  | .bits256 => swapMiddle (pairSums low high)

/-- The lower half of a register. -/
def lowerHalf {lanes : Nat} (register : Register (2 * lanes)) : Register lanes :=
  Vector.ofFn fun lane => register[lane.val]

/-- The upper half of a register. -/
def upperHalf {lanes : Nat} (register : Register (2 * lanes)) : Register lanes :=
  Vector.ofFn fun lane => register[lanes + lane.val]

/-- The luma values for the chroma columns from `column` on. -/
def laneAverages (vector : VectorWidth) (luma : Array Int) (subsamplingX column : Nat) :
    Except Fault (Register vector.lanes) :=
  if subsamplingX = 0 then
    edgeWindow vector.lanes luma column
  else do
    let neighbours ← edgeWindow (2 * vector.lanes) luma (2 * column)
    let sums := neighbourSums vector (lowerHalf neighbours) (upperHalf neighbours)
    return shiftRightZero16 1 (add16 sums (splat vector.lanes 1))

/-- Both weights of a mix in one wide number, that of luma in its low half. The low half is
masked, so that the sign of the weight does not reach into the high one. -/
def packedMultipliers (mix : KeyMix) : Int :=
  (Int32.ofInt mix.multiplier <<< 16 ||| (Int32.ofInt mix.lumaMultiplier &&& 65535)).toInt

/-- The weights of a mix in alternating lanes. -/
def laneMultipliers (mix : KeyMix) (lanes : Nat) : Register lanes :=
  splatHalves lanes (packedMultipliers mix)

/-- The mixed keys of a register. -/
def laneMixedKeys {blocks : Nat} (depth : Depth) (mix : KeyMix)
    (averages samples : Register (8 * blocks)) : Register (8 * blocks) :=
  let weights := laneMultipliers mix (8 * blocks)
  let low := multiplyAdd (interleaveLow averages samples) weights
  let high := multiplyAdd (interleaveHigh averages samples) weights
  let merged := pack (shiftRightSign32 6 low) (shiftRightSign32 6 high)
  let offset := splat (8 * blocks) (wrap16 (mix.offset * Int.pow 2 depth.extraBits))
  minLanes (maxLanes (add16 merged offset) (splat (8 * blocks) 0))
    (splat (8 * blocks) (wrap16 depth.maxSample))

/-- The keys of a register. -/
def laneKeys {blocks : Nat} (job : ChromaJob) (mode : KeyMode)
    (averages samples : Register (8 * blocks)) : Register (8 * blocks) :=
  match mode with
  | .luma => averages
  | .mixed => laneMixedKeys job.depth (job.parameters.mix job.plane) averages samples

/-- The results for the window of a row that begins at a column. -/
def laneWindow (job : ChromaJob) (mode : KeyMode) (vector : VectorWidth) (found : Rows)
    (column : Nat) : Except Fault (Register vector.lanes) := do
  let averages ← laneAverages vector found.luma job.subsampling.x column
  let samples ← edgeWindow vector.lanes found.source column
  let keys := job.laneKeys mode averages samples
  let entries ← zeroWindow vector.lanes found.noise column
  Noise.laneAdd job.setting keys samples entries

/-- Blend noise into one row of `width` chroma columns. -/
def laneRow (job : ChromaJob) (mode : KeyMode) (vector : VectorWidth) (width : Nat)
    (layout : Layout) (size row : Nat) (buffer : Array Int) : Run (Array Int) :=
  match job.rows width layout size row with
  | .ok found => sweepWindows job.depth (job.laneWindow mode vector found) found.start width buffer
  | .error fault => .stopped fault buffer

/-- Check what the blend requires of its arguments, the noise before the
coefficients, and find the chroma extent. -/
def checkLanes (job : ChromaJob) : Except Fault Extent := do
  let chroma ← job.subsampling.chromaExtent job.extent
  job.checkNoise chroma
  job.checkCoefficients
  return chroma

/-- Blend noise into a chroma plane, a register at a time. -/
def blendLanes (job : ChromaJob) (mode : KeyMode) (vector : VectorWidth) (target : Raster Int) :
    Run (Raster Int) :=
  match job.checkLanes with
  | .error fault => .stopped fault target
  | .ok chroma =>
    let layout := target.layout
    let size := target.samples.size
    target.sweep chroma.height (job.laneRow mode vector chroma.width layout size)

end ChromaJob

end GrainSynthesis
