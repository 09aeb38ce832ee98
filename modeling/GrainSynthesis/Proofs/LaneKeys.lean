import GrainSynthesis.Proofs.Keys
import GrainSynthesis.Proofs.LaneRegisters
import GrainSynthesis.Proofs.LaneWindows

/-!
# Chroma keys in registers

In registers the luma mean is a sum of neighbouring lanes, and a mixed key is a
sum of products of interleaved lanes. Both have in each lane what is computed for
its column. Past the end of a row the last luma sample is its own neighbour, and
so the lanes that are not stored hold samples as well.

Two structures list the exact results of the operations on one lane. None of
them is wrapped, shifted out or saturated.
-/

namespace GrainSynthesis

open Lanes Register

namespace ChromaJob

/-- The exact results of averaging two neighbours fit, and the sum has no sign to lose. -/
structure AverageFits (left right : Int) : Prop where
  sum : Fits16 (left + right)
  rounded : Fits16 (left + right + 1)
  unsigned : 0 ≤ left + right + 1

/-- The exact results of mixing a luma value with a sample fit, and so do the numbers that
are spread over a register. -/
structure MixFits (depth : Depth) (mix : KeyMix) (average sample : Int) : Prop where
  lumaMultiplier : Fits16 mix.lumaMultiplier
  multiplier : Fits16 mix.multiplier
  products : Fits32 (average * mix.lumaMultiplier + sample * mix.multiplier)
  merged : Fits16 ((average * mix.lumaMultiplier + sample * mix.multiplier) / 2 ^ 6)
  offset : Fits16 (mix.offset * 2 ^ depth.extraBits)
  sum : Fits16 ((average * mix.lumaMultiplier + sample * mix.multiplier) / 2 ^ 6 +
    mix.offset * 2 ^ depth.extraBits)
  most : Fits16 depth.maxSample

/-- Averaging samples fits. -/
theorem averageFits (depth : Depth) (left right : Int) (leftInside : depth.IsSample left)
    (rightInside : depth.IsSample right) : AverageFits left right := by
  obtain ⟨leftLow, leftHigh⟩ := leftInside.bounds
  obtain ⟨rightLow, rightHigh⟩ := rightInside.bounds
  exact ⟨⟨by omega, by omega⟩, ⟨by omega, by omega⟩, by omega⟩

/-- Mixing samples by coded coefficients fits. -/
theorem mixFits (depth : Depth) (mix : KeyMix) (coded : mix.Coded) (average sample : Int)
    (averageInside : depth.IsSample average) (sampleInside : depth.IsSample sample) :
    MixFits depth mix average sample := by
  obtain ⟨⟨lumaLow, lumaHigh⟩, chromaLow, chromaHigh⟩ :=
    weighted_mem mix coded depth average sample averageInside sampleInside
  obtain ⟨offsetLow, offsetHigh⟩ := offset_mem mix coded depth
  obtain ⟨⟨multiplierLow, multiplierHigh⟩, ⟨lumaMultiplierLow, lumaMultiplierHigh⟩, _⟩ :=
    coded.bounds
  exact {
    lumaMultiplier := ⟨by omega, by omega⟩
    multiplier := ⟨by omega, by omega⟩
    products := ⟨by omega, by omega⟩
    merged := ⟨by omega, by omega⟩
    offset := ⟨by omega, by omega⟩
    sum := ⟨by omega, by omega⟩
    most := fits16_of_isSample ⟨depth.maxSample_nonneg, le_refl _⟩ }

/-- A lane of averaged neighbours holds their rounded mean. -/
theorem getElem_averaged (vector : VectorWidth) (row : Register (2 * vector.lanes)) (lane : Nat)
    (inside : lane < vector.lanes) (left right : Int) (leftHeld : row[2 * lane]? = some left)
    (rightHeld : row[2 * lane + 1]? = some right) (fits : AverageFits left right) :
    (shiftRightZero16 1 (add16 (neighbourSums vector (lowerHalf row) (upperHalf row))
      (splat vector.lanes 1)))[lane] = nearest ((left + right : Int) / 2) := by
  obtain ⟨_, leftLane⟩ := Vector.getElem?_eq_some_iff.mp leftHeld
  obtain ⟨_, rightLane⟩ := Vector.getElem?_eq_some_iff.mp rightHeld
  have unsigned := fits.unsigned
  obtain ⟨_, above⟩ := fits.rounded
  have half : Fits16 ((left + right + 1) % 65536 / 2 ^ 1) := by
    constructor <;> omega
  rw [getElem_shiftRightZero16, getElem_add16, getElem_splat, getElem_neighbourSums vector row,
    leftLane, rightLane, fits.sum.wrap16_eq, fits.rounded.wrap16_eq, half.wrap16_eq, nearest_half]
  omega

/-- Without subsampling the luma values of a register are luma samples. -/
theorem laneAverages_of_unshared (depth : Depth) (vector : VectorWidth) (cells : Array Int)
    (luma : Nat → Int) (width columns column : Nat) (held : Holds cells width luma)
    (samples : ∀ position < width, depth.IsSample (luma position)) (fewer : columns ≤ width)
    (inside : column < columns) :
    ∃ averages, laneAverages vector cells 0 column = .ok averages ∧
      ∀ (lane : Nat) (_ : lane < vector.lanes), depth.IsSample averages[lane] ∧
        (column + lane < columns → averages[lane] = mean luma width 0 (column + lane)) := by
  rw [laneAverages, if_pos rfl]
  obtain ⟨averages, loaded, lanes⟩ := edgeWindow_of_holds vector.lanes cells width column luma held
    (fun position below => fits16_of_isSample (samples position below)) (by omega)
  refine ⟨averages, loaded, ?_⟩
  intro lane below
  rw [lanes lane below]
  refine ⟨samples _ (by omega), ?_⟩
  intro stored
  have position : min (column + lane) (width - 1) = column + lane := by omega
  rw [position, mean, if_pos rfl]

/-- The neighbours that a register of chroma columns averages are luma samples, and averaging
them fits. -/
theorem exists_neighbours (depth : Depth) (vector : VectorWidth) (cells : Array Int)
    (luma : Nat → Int) (width column : Nat) (held : Holds cells width luma)
    (samples : ∀ position < width, depth.IsSample (luma position)) (first : 2 * column < width) :
    ∃ row : Register (2 * vector.lanes),
      edgeWindow (2 * vector.lanes) cells (2 * column) = .ok row ∧
        ∀ lane < vector.lanes, ∃ left right,
          row[2 * lane]? = some left ∧ row[2 * lane + 1]? = some right ∧ AverageFits left right ∧
            depth.IsSample (nearest ((left + right : Int) / 2)) ∧
              left = luma (min (2 * (column + lane)) (width - 1)) ∧
                right = luma (min (2 * (column + lane) + 1) (width - 1)) := by
  obtain ⟨row, loaded, lanes⟩ := edgeWindow_pairs vector.lanes cells width column luma held
    (fun position below => fits16_of_isSample (samples position below)) first
  refine ⟨row, loaded, ?_⟩
  intro lane below
  obtain ⟨leftLane, rightLane⟩ := lanes lane below
  have leftInside := samples (min (2 * (column + lane)) (width - 1)) (by omega)
  have rightInside := samples (min (2 * (column + lane) + 1) (width - 1)) (by omega)
  refine ⟨_, _, Vector.getElem?_eq_some_iff.mpr ⟨_, leftLane⟩,
    Vector.getElem?_eq_some_iff.mpr ⟨_, rightLane⟩, averageFits depth _ _ leftInside rightInside,
    ?_, rfl, rfl⟩
  rw [nearest_half]
  obtain ⟨leftAbove, leftBelow⟩ := leftInside
  obtain ⟨rightAbove, rightBelow⟩ := rightInside
  rw [Depth.IsSample]
  omega

/-- The luma values of a register: all of them are samples, and where a chroma column lies
in the row the value is its mean. -/
theorem laneAverages_eq (depth : Depth) (vector : VectorWidth) (cells : Array Int)
    (luma : Nat → Int) (width subsamplingX columns column : Nat) (held : Holds cells width luma)
    (samples : ∀ position < width, depth.IsSample (luma position))
    (unshared : subsamplingX = 0 → columns ≤ width)
    (shared : subsamplingX ≠ 0 → ∀ column < columns, 2 * column < width)
    (inside : column < columns) :
    ∃ averages, laneAverages vector cells subsamplingX column = .ok averages ∧
      ∀ (lane : Nat) (_ : lane < vector.lanes), depth.IsSample averages[lane] ∧
        (column + lane < columns →
          averages[lane] = mean luma width subsamplingX (column + lane)) := by
  by_cases single : subsamplingX = 0
  · subst single
    exact laneAverages_of_unshared depth vector cells luma width columns column held samples
      (unshared rfl) inside
  · obtain ⟨row, loaded, lanes⟩ := exists_neighbours depth vector cells luma width column held
      samples (shared single column inside)
    rw [laneAverages, if_neg single]
    refine ⟨_, (bind_eq_ok_iff _ _ _).mpr ⟨row, loaded, rfl⟩, ?_⟩
    intro lane below
    obtain ⟨left, right, leftHeld, rightHeld, fits, sample, leftSame, rightSame⟩ := lanes lane below
    rw [getElem_averaged vector row lane below left right leftHeld rightHeld fits]
    refine ⟨sample, ?_⟩
    intro stored
    have doubled := shared single _ stored
    have leftColumn : min (2 * (column + lane)) (width - 1) = 2 * (column + lane) := by omega
    rw [leftSame, rightSame, leftColumn, mean, if_neg single]

/-- A word that is shifted up by half its length and the masked half of another lie side by
side. -/
theorem toNat_packed (high low : BitVec 32) :
    (high <<< 16 ||| (low &&& 65535#32)).toNat =
      high.toNat % 65536 * 65536 + low.toNat % 65536 := by
  have masked : low.toNat &&& 65535 = low.toNat % 65536 :=
    Nat.and_two_pow_sub_one_eq_mod low.toNat 16
  have shifted : high.toNat <<< 16 % 4294967296 = (high.toNat % 65536) <<< 16 := by
    rw [Nat.shiftLeft_eq, Nat.shiftLeft_eq]
    omega
  have below : low.toNat % 65536 < 2 ^ 16 := Nat.mod_lt _ (by decide)
  rw [BitVec.toNat_or, BitVec.toNat_and, BitVec.toNat_shiftLeft, BitVec.toNat_ofNat]
  simp only [Nat.reducePow, Nat.reduceMod, masked, shifted]
  rw [← Nat.shiftLeft_add_eq_or_of_lt below, Nat.shiftLeft_eq]

/-- The weights of a mix are found again in the halves of the wide number, as far as sixteen
bits hold them. -/
theorem laneMultipliers_eq (mix : KeyMix) (lanes : Nat) :
    laneMultipliers mix lanes =
      splatPair lanes (wrap16 mix.lumaMultiplier) (wrap16 mix.multiplier) := by
  have word : packedMultipliers mix = (BitVec.ofInt 32 mix.multiplier <<< 16 |||
      (BitVec.ofInt 32 mix.lumaMultiplier &&& 65535#32)).toInt := by
    simp [packedMultipliers, Int32.toInt]
  have bits := toNat_packed (BitVec.ofInt 32 mix.multiplier) (BitVec.ofInt 32 mix.lumaMultiplier)
  rw [BitVec.toNat_ofInt, BitVec.toNat_ofInt] at bits
  rw [BitVec.toInt_eq_toNat_cond, bits] at word
  -- Either sign of the wide number leaves the same sixteen low bits, and the same high ones.
  have lowHalf : wrap16 (packedMultipliers mix) = wrap16 mix.lumaMultiplier := by
    rw [word, wrap16, wrap16]
    split <;> omega
  have highHalf : wrap16 (packedMultipliers mix / 65536) = wrap16 mix.multiplier := by
    rw [word, wrap16, wrap16]
    split <;> omega
  rw [laneMultipliers, splatHalves, lowHalf, highHalf]

/-- A lane of mixed keys holds the mixed key. -/
theorem getElem_laneMixedKeys {blocks : Nat} (depth : Depth) (mix : KeyMix)
    (averages samples : Register (8 * blocks)) (lane : Nat) (inside : lane < 8 * blocks)
    (fits : MixFits depth mix averages[lane] samples[lane]) :
    (laneMixedKeys depth mix averages samples)[lane] =
      mixed depth mix averages[lane] samples[lane] := by
  rw [laneMixedKeys, laneMultipliers_eq, getElem_minLanes, getElem_maxLanes, getElem_add16,
    getElem_splat, getElem_splat, getElem_splat, fits.lumaMultiplier.wrap16_eq,
    fits.multiplier.wrap16_eq, getElem_weightedSums, fits.products.wrap32_eq,
    fits.merged.saturate16_eq, Int.pow_eq, fits.offset.wrap16_eq, fits.sum.wrap16_eq,
    fits.most.wrap16_eq,
    min_max_eq_clip _ _ _ depth.maxSample_nonneg, mixed, floor_sixtyFourths, weighted]
  rfl

/-- A lane of keys holds the key of its luma value and its sample. -/
theorem getElem_laneKeys {blocks : Nat} (job : ChromaJob) (mode : KeyMode)
    (coded : (job.parameters.mix job.plane).Coded) (averages samples : Register (8 * blocks))
    (lane : Nat) (inside : lane < 8 * blocks) (averageInside : job.depth.IsSample averages[lane])
    (sampleInside : job.depth.IsSample samples[lane]) :
    (job.laneKeys mode averages samples)[lane] =
      job.idealKey mode averages[lane] samples[lane] := by
  cases mode with
  | luma => rfl
  | mixed =>
    exact getElem_laneMixedKeys job.depth _ averages samples lane inside
      (mixFits job.depth _ coded _ _ averageInside sampleInside)

/-- A lane of keys holds a sample. -/
theorem isSample_laneKeys {blocks : Nat} (job : ChromaJob) (mode : KeyMode)
    (coded : (job.parameters.mix job.plane).Coded) (averages samples : Register (8 * blocks))
    (lane : Nat) (inside : lane < 8 * blocks) (averageInside : job.depth.IsSample averages[lane])
    (sampleInside : job.depth.IsSample samples[lane]) :
    job.depth.IsSample (job.laneKeys mode averages samples)[lane] := by
  rw [job.getElem_laneKeys mode coded averages samples lane inside averageInside sampleInside]
  exact job.isSample_idealKey mode _ _ averageInside

end ChromaJob

end GrainSynthesis
