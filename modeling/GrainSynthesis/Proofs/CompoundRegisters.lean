import GrainSynthesis.Lanes.Compound
import GrainSynthesis.Proofs.LaneRegisters
import GrainSynthesis.Proofs.LaneWindows
import GrainSynthesis.Proofs.WeightedMean

/-!
# Weighted means in registers

Interleaving two registers of predictions brings the two that belong together side
by side, so that one multiplication of neighbours by alternating weights sums both
products. Packing takes the sums back to the lanes that they came from. Each lane
of a blended register is then the weighted mean of the same lane of both operands.

A register is loaded from one wide row, or from as many narrow rows as it has room
for. It is there exactly when every row that it takes lanes from is reached.
-/

namespace GrainSynthesis

open Lanes Register

namespace CompoundJob

/-- The exact results of blending two predictions fit: their weighted sum, the sum with the
half added, and the mean. -/
structure BlendFits (firstWeight secondWeight : Nat) (first second : Int) : Prop where
  sum : Fits32 (weightedSum firstWeight secondWeight first second)
  raised : Fits32 (weightedSum firstWeight secondWeight first second + 128)
  mean : Fits16 ((weightedSum firstWeight secondWeight first second + 128) / 2 ^ shift)

/-- Blending predictions with weights that sum to sixteen fits. -/
theorem blendFits (firstWeight secondWeight : Nat) (first second : Int)
    (total : firstWeight + secondWeight = weightTotal) (firstFits : Fits16 first)
    (secondFits : Fits16 second) : BlendFits firstWeight secondWeight first second := by
  obtain ⟨_, _, low, high⟩ := weightedSum_mem firstWeight secondWeight first second total
    firstFits.1 firstFits.2 secondFits.1 secondFits.2
  have divisor : (2 : Int) ^ shift = 256 := rfl
  exact {
    sum := ⟨by omega, by omega⟩
    raised := ⟨by omega, by omega⟩
    mean := by
      rw [divisor]
      exact ⟨by omega, by omega⟩ }

/-- Weights that sum to sixteen are found again in the halves of the wide number. -/
theorem laneWeights_eq (job : CompoundJob)
    (total : job.firstWeight + job.secondWeight = weightTotal) (lanes : Nat) :
    job.laneWeights lanes = splatPair lanes job.firstWeight job.secondWeight := by
  have small : job.firstWeight ≤ 16 ∧ job.secondWeight ≤ 16 := by
    rw [weightTotal] at total
    omega
  have quotient : job.packedWeights / 65536 = job.secondWeight := by
    rw [packedWeights]
    omega
  have lowHalf : wrap16 job.packedWeights = job.firstWeight := by
    rw [wrap16, packedWeights]
    omega
  have highHalf : wrap16 (job.packedWeights / 65536) = job.secondWeight := by
    rw [quotient]
    exact wrap16_of_mem _ (by omega) (by omega)
  rw [laneWeights, splatHalves, lowHalf, highHalf]

/-- A lane of a blended register is the weighted mean of the lanes of both predictions. -/
theorem getElem_laneBlend {blocks : Nat} (job : CompoundJob)
    (total : job.firstWeight + job.secondWeight = weightTotal)
    (first second : Register (8 * blocks)) (lane : Nat) (inside : lane < 8 * blocks)
    (firstFits : Fits16 first[lane]) (secondFits : Fits16 second[lane]) :
    (job.laneBlend first second)[lane] =
      weightedMean job.depth job.firstWeight job.secondWeight first[lane] second[lane] := by
  have fits := blendFits job.firstWeight job.secondWeight _ _ total firstFits secondFits
  have most : wrap16 job.depth.maxSample = job.depth.maxSample := by
    cases job.depth <;> decide
  have average : (laneAverage first second (job.laneWeights (8 * blocks)))[lane] =
      (weightedSum job.firstWeight job.secondWeight first[lane] second[lane] + 128) /
        2 ^ shift := by
    rw [laneAverage, job.laneWeights_eq total, getElem_raisedSums]
    simp only [← weightedSum.eq_1]
    rw [fits.sum.wrap32_eq, fits.raised.wrap32_eq, fits.mean.saturate16_eq]
  rw [laneBlend, laneClip, getElem_minLanes, getElem_maxLanes, getElem_splat, getElem_splat, most,
    average, min_max_eq_clip _ _ _ (by cases job.depth <;> decide), weightedMean,
    nearest_weightedSum]
  rfl

/-- A register is loaded from a wide row as far as the row goes on for so many columns, and
has in each lane the prediction of its column. -/
theorem loadWindow_of_holds (lanes : Nat) (row : Array Int16) (length first : Nat)
    (value : Nat → Int16) (held : Holds row length value) (inside : first + lanes ≤ length) :
    ∃ register : Register lanes, loadWindow lanes row first = .ok register ∧
      ∀ (lane : Nat) (_ : lane < lanes), register[lane] = (value (first + lane)).toInt := by
  refine ⟨Vector.ofFn fun lane => (value (first + lane.val)).toInt, ?_, ?_⟩
  · refine (ofFnM_eq_ok_iff _ _).mpr fun lane => ?_
    have found := held.elementAt (first + lane.val) (by omega)
    simp [found, bind, Except.bind, pure, Except.pure]
  · intro lane below
    rw [Vector.getElem_ofFn]

/-- A register is loaded from narrow rows exactly when all of them are reached, and then it
has in each lane the prediction of its row and its column. -/
theorem loadRows_eq_ok_iff (prediction : Raster Int16) (lanes width rows row : Nat)
    (positive : 0 < width) (filled : lanes = rows * width) (register : Register lanes) :
    loadRows lanes prediction width row = .ok register ↔
      (∀ index < rows, prediction.layout.Reaches prediction.samples.size (row + index) width) ∧
        ∀ (lane : Nat) (_ : lane < lanes), register[lane] =
          (prediction.value (row + lane / width) (lane % width)).toInt := by
  subst filled
  rw [loadRows, ofFnM_eq_ok_iff]
  simp only [bind_eq_ok_iff, Raster.row_eq_ok_iff, pure, Except.pure, Except.ok.injEq]
  -- A lane is loaded from the row that it lies in, at its column there.
  have loaded (lane : Nat) (reached : prediction.layout.Reaches prediction.samples.size
      (row + lane / width) width) :
      elementAt (prediction.window (row + lane / width) width) (lane % width) =
        .ok (prediction.value (row + lane / width) (lane % width)) :=
    (prediction.window_holds _ _ reached).elementAt _ (Nat.mod_lt lane positive)
  constructor
  · intro every
    constructor
    · intro index inside
      have below : index * width < rows * width := Nat.mul_lt_mul_of_pos_right inside positive
      obtain ⟨_, ⟨reached, _⟩, _⟩ := every ⟨index * width, below⟩
      rwa [Nat.mul_div_cancel index positive] at reached
    · intro lane below
      obtain ⟨_, ⟨reached, rfl⟩, _, found, same⟩ := every ⟨lane, below⟩
      have expected := loaded lane reached
      rw [expected, Except.ok.injEq] at found
      rw [found]
      exact same.symm
  · rintro ⟨reached, held⟩ lane
    have inside : lane.val / width < rows := (Nat.div_lt_iff_lt_mul positive).mpr lane.isLt
    exact ⟨_, ⟨reached _ inside, rfl⟩, _, loaded lane.val (reached _ inside),
      (held lane.val lane.isLt).symm⟩

end CompoundJob

end GrainSynthesis
