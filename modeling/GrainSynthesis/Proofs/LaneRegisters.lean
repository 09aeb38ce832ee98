import GrainSynthesis.Lanes.Grain
import GrainSynthesis.Proofs.Nearest

/-!
# Single lanes of register operations

What the operations on registers do to one lane, for those whose lemma does not
stand beside their definition. A lane of a rearranged register is a lane of an
operand, and so the arithmetic of rearranged registers is that of their operands:
sums of neighbours over two registers are sums of neighbours of the row that was
loaded, and weighted sums of two interleaved registers are weighted sums of their
lanes.

A result that fits sixteen bits is neither wrapped nor saturated.
-/

namespace GrainSynthesis

/-- Confining from below and then from above is clipping, when the limits do not cross. -/
theorem min_max_eq_clip (value low high : Int) (ordered : low ≤ high) :
    min (max value low) high = clip value low high := by
  rw [clip]
  split
  · omega
  · split <;> omega

namespace Register

variable {lanes blocks : Nat}

/-- A number that sixteen bits hold. -/
def Fits16 (value : Int) : Prop := -32768 ≤ value ∧ value ≤ 32767

/-- A number that 32 bits hold. -/
def Fits32 (value : Int) : Prop := -2147483648 ≤ value ∧ value ≤ 2147483647

/-- What fits is not wrapped. -/
theorem Fits16.wrap16_eq {value : Int} (fits : Fits16 value) : wrap16 value = value :=
  wrap16_of_mem value fits.1 fits.2

/-- What fits is not saturated. -/
theorem Fits16.saturate16_eq {value : Int} (fits : Fits16 value) : saturate16 value = value :=
  clip_of_mem value _ _ fits.1 fits.2

/-- What fits 32 bits is not wrapped. -/
theorem Fits32.wrap32_eq {value : Int} (fits : Fits32 value) : wrap32 value = value :=
  wrap32_of_mem value fits.1 fits.2

/-- Samples fit sixteen bits. -/
theorem fits16_of_isSample {depth : Depth} {value : Int} (inside : depth.IsSample value) :
    Fits16 value := by
  obtain ⟨above, below⟩ := inside
  constructor <;> cases depth <;> simp only [Depth.maxSample] at below <;> omega

/-- Every lane has the number that is spread. -/
@[simp] theorem getElem_splat (value : Int) (lane : Nat) (inside : lane < lanes) :
    (splat lanes value)[lane] = value := by
  simp [splat]

/-- A lane of two alternating numbers. -/
@[simp] theorem getElem_splatPair (even odd : Int) (lane : Nat) (inside : lane < lanes) :
    (splatPair lanes even odd)[lane] = if lane % 2 = 0 then even else odd := by
  simp [splatPair]

/-- A lane of lanewise maxima. -/
@[simp] theorem getElem_maxLanes (left right : Register lanes) (lane : Nat)
    (inside : lane < lanes) : (maxLanes left right)[lane] = max left[lane] right[lane] := by
  simp [maxLanes]

/-- A lane of lanewise minima. -/
@[simp] theorem getElem_minLanes (left right : Register lanes) (lane : Nat)
    (inside : lane < lanes) : (minLanes left right)[lane] = min left[lane] right[lane] := by
  simp [minLanes]

/-- A lane that is shifted left. -/
@[simp] theorem getElem_shiftLeft16 (places : Nat) (register : Register lanes) (lane : Nat)
    (inside : lane < lanes) :
    (shiftLeft16 places register)[lane] = wrap16 (register[lane] * 2 ^ places) := by
  simp [shiftLeft16]

/-- A lane that is shifted right without its sign. -/
@[simp] theorem getElem_shiftRightZero16 (places : Nat) (register : Register lanes) (lane : Nat)
    (inside : lane < lanes) :
    (shiftRightZero16 places register)[lane] = wrap16 (register[lane] % 65536 / 2 ^ places) := by
  simp [shiftRightZero16]

/-- A wide lane that is shifted right with its sign. -/
@[simp] theorem getElem_shiftRightSign32 (places : Nat) (register : Register lanes) (lane : Nat)
    (inside : lane < lanes) :
    (shiftRightSign32 places register)[lane] = register[lane] / 2 ^ places := by
  simp [shiftRightSign32]

/-- The low bits of a lane. -/
@[simp] theorem getElem_lowBits (places : Nat) (register : Register lanes) (lane : Nat)
    (inside : lane < lanes) : (lowBits places register)[lane] = register[lane] % 2 ^ places := by
  simp [lowBits]

/-- A wide lane of summed products. -/
theorem getElem_multiplyAdd (left right : Register (8 * blocks)) (lane : Nat)
    (inside : lane < 4 * blocks) :
    (multiplyAdd left right)[lane] =
      wrap32 (left[2 * lane] * right[2 * lane] + left[2 * lane + 1] * right[2 * lane + 1]) := by
  simp [multiplyAdd]

/-- A lane of the lower half of a register. -/
theorem getElem_lowerHalf (register : Register (2 * lanes)) (lane : Nat) (inside : lane < lanes) :
    (ChromaJob.lowerHalf register)[lane] = register[lane] := by
  simp [ChromaJob.lowerHalf]

/-- A lane of the upper half of a register. -/
theorem getElem_upperHalf (register : Register (2 * lanes)) (lane : Nat) (inside : lane < lanes) :
    (ChromaJob.upperHalf register)[lane] = register[lanes + lane] := by
  simp [ChromaJob.upperHalf]

/-- Products of lower lanes of two interleaved registers with alternating weights. -/
theorem weighted_interleaveLow (left right : Register (8 * blocks)) (leftWeight rightWeight : Int)
    (lane : Nat) (inside : lane < 8 * blocks) (lower : lane % 8 < 4) :
    (multiplyAdd (interleaveLow left right) (splatPair (8 * blocks) leftWeight rightWeight))[
        lane / 8 * 4 + lane % 4] =
      wrap32 (left[lane] * leftWeight + right[lane] * rightWeight) := by
  have place : (2 * (lane / 8 * 4 + lane % 4)) / 8 * 8 + (2 * (lane / 8 * 4 + lane % 4)) % 8 / 2 =
      lane := by omega
  have placeAfter : (2 * (lane / 8 * 4 + lane % 4) + 1) / 8 * 8 +
      (2 * (lane / 8 * 4 + lane % 4) + 1) % 8 / 2 = lane := by omega
  rw [getElem_multiplyAdd]
  simp [interleaveLow, place, placeAfter]

/-- Products of upper lanes of two interleaved registers with alternating weights. -/
theorem weighted_interleaveHigh (left right : Register (8 * blocks)) (leftWeight rightWeight : Int)
    (lane : Nat) (inside : lane < 8 * blocks) (upper : ¬ lane % 8 < 4) :
    (multiplyAdd (interleaveHigh left right) (splatPair (8 * blocks) leftWeight rightWeight))[
        lane / 8 * 4 + lane % 4] =
      wrap32 (left[lane] * leftWeight + right[lane] * rightWeight) := by
  have place : (2 * (lane / 8 * 4 + lane % 4)) / 8 * 8 + 4 +
      (2 * (lane / 8 * 4 + lane % 4)) % 8 / 2 = lane := by omega
  have placeAfter : (2 * (lane / 8 * 4 + lane % 4) + 1) / 8 * 8 + 4 +
      (2 * (lane / 8 * 4 + lane % 4) + 1) % 8 / 2 = lane := by omega
  rw [getElem_multiplyAdd]
  simp [interleaveHigh, place, placeAfter]

/-- A lane of a weighted sum of two registers that is shifted right and packed. -/
theorem getElem_weightedSums (left right : Register (8 * blocks)) (leftWeight rightWeight : Int)
    (places lane : Nat) (inside : lane < 8 * blocks) :
    (pack
        (shiftRightSign32 places (multiplyAdd (interleaveLow left right)
          (splatPair (8 * blocks) leftWeight rightWeight)))
        (shiftRightSign32 places (multiplyAdd (interleaveHigh left right)
          (splatPair (8 * blocks) leftWeight rightWeight))))[lane] =
      saturate16 (wrap32 (left[lane] * leftWeight + right[lane] * rightWeight) / 2 ^ places) := by
  by_cases lower : lane % 8 < 4
  · have sum := weighted_interleaveLow left right leftWeight rightWeight lane inside lower
    simp [pack, lower, sum]
  · have sum := weighted_interleaveHigh left right leftWeight rightWeight lane inside lower
    simp [pack, lower, sum]

/-- A lane of a weighted sum of two registers to which a number is added before it is shifted
right and packed. -/
theorem getElem_raisedSums (left right : Register (8 * blocks))
    (leftWeight rightWeight raise : Int) (places lane : Nat) (inside : lane < 8 * blocks) :
    (pack
        (shiftRightSign32 places (add32 (multiplyAdd (interleaveLow left right)
          (splatPair (8 * blocks) leftWeight rightWeight)) (splat (4 * blocks) raise)))
        (shiftRightSign32 places (add32 (multiplyAdd (interleaveHigh left right)
          (splatPair (8 * blocks) leftWeight rightWeight)) (splat (4 * blocks) raise))))[lane] =
      saturate16 (wrap32 (wrap32 (left[lane] * leftWeight + right[lane] * rightWeight) + raise) /
        2 ^ places) := by
  by_cases lower : lane % 8 < 4
  · have sum := weighted_interleaveLow left right leftWeight rightWeight lane inside lower
    simp [pack, lower, sum]
  · have sum := weighted_interleaveHigh left right leftWeight rightWeight lane inside lower
    simp [pack, lower, sum]

/-- A lane of pair sums that is taken from the first register. -/
theorem getElem_pairSums_low (low high : Register (8 * blocks)) (lane : Nat)
    (inside : lane < 8 * blocks) (lower : lane % 8 < 4) :
    (pairSums low high)[lane] = wrap16 (low[lane / 8 * 8 + 2 * (lane % 4)] +
      low[lane / 8 * 8 + 2 * (lane % 4) + 1]) := by
  simp [pairSums, lower]

/-- A lane of pair sums that is taken from the second register. -/
theorem getElem_pairSums_high (low high : Register (8 * blocks)) (lane : Nat)
    (inside : lane < 8 * blocks) (upper : ¬ lane % 8 < 4) :
    (pairSums low high)[lane] = wrap16 (high[lane / 8 * 8 + 2 * (lane % 4)] +
      high[lane / 8 * 8 + 2 * (lane % 4) + 1]) := by
  simp [pairSums, upper]

/-- A lane of a register whose middle quarters were exchanged. -/
theorem getElem_swapMiddle (register : Register (8 * 2)) (lane : Nat) (inside : lane < 8 * 2) :
    (swapMiddle register)[lane] = register[lane / 4 % 2 * 8 + lane / 8 * 4 + lane % 4] := by
  simp [swapMiddle]

/-- In registers of one block the sums of neighbours come in order. -/
theorem getElem_pairSums_halves (row : Register (2 * (8 * 1))) (lane : Nat)
    (inside : lane < 8 * 1) :
    (pairSums (ChromaJob.lowerHalf row) (ChromaJob.upperHalf row))[lane] =
      wrap16 (row[2 * lane] + row[2 * lane + 1]) := by
  by_cases lower : lane % 8 < 4
  · have place : lane / 8 * 8 + 2 * (lane % 4) = 2 * lane := by omega
    rw [getElem_pairSums_low _ _ _ inside lower, getElem_lowerHalf, getElem_lowerHalf]
    simp only [place]
  · have place : 8 * 1 + (lane / 8 * 8 + 2 * (lane % 4)) = 2 * lane := by omega
    have placeAfter : 8 * 1 + (lane / 8 * 8 + 2 * (lane % 4) + 1) = 2 * lane + 1 := by omega
    rw [getElem_pairSums_high _ _ _ inside lower, getElem_upperHalf, getElem_upperHalf]
    simp only [place, placeAfter]

/-- In registers of two blocks exchanging the middle quarters brings the sums of neighbours
into order. -/
theorem getElem_swapMiddle_pairSums (row : Register (2 * (8 * 2))) (lane : Nat)
    (inside : lane < 8 * 2) :
    (swapMiddle (pairSums (ChromaJob.lowerHalf row) (ChromaJob.upperHalf row)))[lane] =
      wrap16 (row[2 * lane] + row[2 * lane + 1]) := by
  -- The block and the quarter before the exchange say which neighbours are summed.
  obtain ⟨source, position⟩ : ∃ source, lane / 4 % 2 * 8 + lane / 8 * 4 + lane % 4 = source :=
    ⟨_, rfl⟩
  have sourceInside : source < 8 * 2 := by omega
  rw [getElem_swapMiddle _ lane inside]
  simp only [position]
  by_cases lower : source % 8 < 4
  · have place : source / 8 * 8 + 2 * (source % 4) = 2 * lane := by omega
    rw [getElem_pairSums_low _ _ _ sourceInside lower, getElem_lowerHalf, getElem_lowerHalf]
    simp only [place]
  · have place : 8 * 2 + (source / 8 * 8 + 2 * (source % 4)) = 2 * lane := by omega
    have placeAfter : 8 * 2 + (source / 8 * 8 + 2 * (source % 4) + 1) = 2 * lane + 1 := by omega
    rw [getElem_pairSums_high _ _ _ sourceInside lower, getElem_upperHalf, getElem_upperHalf]
    simp only [place, placeAfter]

/-- A lane of the sums of neighbours in a row of two registers, for both register widths. -/
theorem getElem_neighbourSums (vector : Lanes.VectorWidth) (row : Register (2 * vector.lanes))
    (lane : Nat) (inside : lane < vector.lanes) :
    (ChromaJob.neighbourSums vector (ChromaJob.lowerHalf row) (ChromaJob.upperHalf row))[lane] =
      wrap16 (row[2 * lane] + row[2 * lane + 1]) := by
  cases vector with
  | bits128 => exact getElem_pairSums_halves row lane inside
  | bits256 => exact getElem_swapMiddle_pairSums row lane inside

end Register

end GrainSynthesis
