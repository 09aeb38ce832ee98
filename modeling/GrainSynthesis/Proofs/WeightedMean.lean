import GrainSynthesis.Compound
import GrainSynthesis.Proofs.Nearest
import GrainSynthesis.Proofs.Painting

/-!
# The weighted mean of two predictions

What a blend computes for a sample is said here in exact numbers: the sum of both
predictions, each times its weight, divided by 256, rounded to the nearest integer
and clipped to the samples of the depth. Weights that sum to sixteen keep the
rounded sum far inside sixteen bits, so confining it to them changes nothing, and
no step of the checked computation meets a fault, whatever the predictions are.

The rows of a blend are found exactly when the window of each buffer is reached.
From rows that are found every sample is computed.
-/

namespace GrainSynthesis

namespace CompoundJob

/-- Two predictions, each times its weight. -/
def weightedSum (firstWeight secondWeight : Nat) (first second : Int) : Int :=
  first * firstWeight + second * secondWeight

/-- The sample of two predictions: their weighted mean, which carries eight bits more,
rounded and clipped. -/
def weightedMean (depth : Depth) (firstWeight secondWeight : Nat) (first second : Int) : Int :=
  clip (nearest ((weightedSum firstWeight secondWeight first second : Int) / 2 ^ shift)) 0
    depth.maxSample

/-- Each product and the sum of both have at most twenty bits. -/
theorem weightedSum_mem (firstWeight secondWeight : Nat) (first second : Int)
    (total : firstWeight + secondWeight = weightTotal) (firstLow : -32768 ≤ first)
    (firstHigh : first ≤ 32767) (secondLow : -32768 ≤ second) (secondHigh : second ≤ 32767) :
    (-524288 ≤ first * firstWeight ∧ first * firstWeight ≤ 524288) ∧
      (-524288 ≤ second * secondWeight ∧ second * secondWeight ≤ 524288) ∧
        -524288 ≤ weightedSum firstWeight secondWeight first second ∧
          weightedSum firstWeight secondWeight first second ≤ 524272 := by
  rw [weightTotal] at total
  have share : (secondWeight : Int) = 16 - firstWeight := by omega
  have firstInside := mul_mem_of_abs_le first firstWeight 32768 16 (by omega) (by omega) (by omega)
    (by omega)
  have secondInside := mul_mem_of_abs_le second secondWeight 32768 16 (by omega) (by omega)
    (by omega) (by omega)
  refine ⟨by omega, by omega, ?_⟩
  -- Both weights are at least zero, so the sum lies between sixteen times the bounds.
  have lowFirst : -32768 * (firstWeight : Int) ≤ first * firstWeight :=
    mul_le_mul_of_nonneg_right firstLow (by omega)
  have lowSecond : -32768 * (secondWeight : Int) ≤ second * secondWeight :=
    mul_le_mul_of_nonneg_right secondLow (by omega)
  have highFirst : first * firstWeight ≤ 32767 * (firstWeight : Int) :=
    mul_le_mul_of_nonneg_right firstHigh (by omega)
  have highSecond : second * secondWeight ≤ 32767 * (secondWeight : Int) :=
    mul_le_mul_of_nonneg_right secondHigh (by omega)
  rw [weightedSum]
  omega

/-- The rounded quotient of a sum, in integers. -/
theorem nearest_weightedSum (sum : Int) :
    nearest ((sum : ℚ) / 2 ^ shift) = (sum + 128) / 256 := by
  rw [nearest_div_two_pow]
  rfl

/-- Predictions are numbers of sixteen bits. -/
theorem prediction_mem (prediction : Int16) :
    -32768 ≤ prediction.toInt ∧ prediction.toInt ≤ 32767 := by
  have above := prediction.le_toInt
  have below := prediction.toInt_lt
  omega

/-- Each step of blending two predictions is exact: no product and no sum leaves its signed
word, nor does the sum with the half added, and confining the rounded sum to sixteen bits does
not change it. -/
structure StepsExact (firstWeight secondWeight : Nat) (first second : Int16) : Prop where
  fromFirst : Word.signed (first.toInt * firstWeight) = .ok (first.toInt * firstWeight)
  fromSecond : Word.signed (second.toInt * secondWeight) = .ok (second.toInt * secondWeight)
  sum : Word.signed (weightedSum firstWeight secondWeight first.toInt second.toInt) =
    .ok (weightedSum firstWeight secondWeight first.toInt second.toInt)
  rounded : roundShift (weightedSum firstWeight secondWeight first.toInt second.toInt) shift =
    .ok (nearest
      ((weightedSum firstWeight secondWeight first.toInt second.toInt : Int) / 2 ^ shift))
  confined :
    clip
        (nearest
          ((weightedSum firstWeight secondWeight first.toInt second.toInt : Int) / 2 ^ shift))
        (-32768) 32767 =
      nearest ((weightedSum firstWeight secondWeight first.toInt second.toInt : Int) / 2 ^ shift)

/-- With weights that sum to sixteen each step is exact, whatever the predictions are. -/
theorem stepsExact_of_total (firstWeight secondWeight : Nat) (first second : Int16)
    (total : firstWeight + secondWeight = weightTotal) :
    StepsExact firstWeight secondWeight first second := by
  obtain ⟨firstLow, firstHigh⟩ := prediction_mem first
  obtain ⟨secondLow, secondHigh⟩ := prediction_mem second
  obtain ⟨firstInside, secondInside, sumLow, sumHigh⟩ := weightedSum_mem firstWeight secondWeight
    first.toInt second.toInt total firstLow firstHigh secondLow secondHigh
  have half : (2 : Int) ^ (shift - 1) = 128 := rfl
  exact {
    fromFirst := Word.signed_of_mem _ (by omega) (by omega)
    fromSecond := Word.signed_of_mem _ (by omega) (by omega)
    sum := Word.signed_of_mem _ (by omega) (by omega)
    rounded := roundShift_eq_nearest _ shift (by omega)
    confined := by apply clip_of_mem <;> rw [nearest_weightedSum] <;> omega }

/-- Blending two predictions with weights that sum to sixteen meets no fault. -/
theorem blendSample_eq_weightedMean (depth : Depth) (firstWeight secondWeight : Nat)
    (first second : Int16) (total : firstWeight + secondWeight = weightTotal) :
    blendSample depth firstWeight secondWeight first second =
      .ok (weightedMean depth firstWeight secondWeight first.toInt second.toInt) := by
  have steps := stepsExact_of_total firstWeight secondWeight first second total
  rw [blendSample, steps.fromFirst, steps.fromSecond]
  simp only [bind, Except.bind]
  rw [← weightedSum, steps.sum]
  simp only [steps.rounded, steps.confined, depth.clipSample_eq]
  rfl

/-- Where a row of a blend is read and written: its windows in both predictions and in a
buffer of so many elements are reached. -/
structure Reached (job : CompoundJob) (layout : Layout) (size row : Nat) : Prop where
  first : job.first.layout.Reaches job.first.samples.size row job.width
  second : job.second.layout.Reaches job.second.samples.size row job.width
  target : layout.Reaches size row job.width

/-- The windows of a row. -/
def windows (job : CompoundJob) (layout : Layout) (row : Nat) : Rows :=
  ⟨job.first.window row job.width, job.second.window row job.width, layout.first row⟩

/-- The rows for a row of the block are found exactly when all three windows are reached. -/
theorem rows_eq_ok_iff (job : CompoundJob) (layout : Layout) (size row : Nat) (found : Rows) :
    job.rows layout size row = .ok found ↔
      job.Reached layout size row ∧ found = job.windows layout row := by
  rw [rows]
  simp only [bind_eq_ok_iff, Raster.row_eq_ok_iff, Layout.locate_eq_ok_iff_reaches, pure,
    Except.pure, Except.ok.injEq]
  constructor
  · rintro ⟨_, ⟨first, rfl⟩, _, ⟨second, rfl⟩, _, ⟨target, rfl⟩, rfl⟩
    exact ⟨⟨first, second, target⟩, rfl⟩
  · rintro ⟨reached, rfl⟩
    exact ⟨_, ⟨reached.first, rfl⟩, _, ⟨reached.second, rfl⟩, _, ⟨reached.target, rfl⟩, rfl⟩

/-- The sample at a row and a column of the block. -/
def meanAt (job : CompoundJob) (row column : Nat) : Int :=
  weightedMean job.depth job.firstWeight job.secondWeight (job.first.value row column).toInt
    (job.second.value row column).toInt

/-- Every sample of a blend is a sample of the depth. -/
theorem isSample_meanAt (job : CompoundJob) (row column : Nat) :
    job.depth.IsSample (job.meanAt row column) :=
  clip_mem _ _ _ job.depth.maxSample_nonneg

/-- From rows that are found every sample is computed. -/
theorem sampleAt_windows (job : CompoundJob)
    (total : job.firstWeight + job.secondWeight = weightTotal) (layout : Layout) (size row : Nat)
    (reached : job.Reached layout size row) (column : Nat) (inside : column < job.width) :
    job.sampleAt (job.windows layout row) column = .ok (job.meanAt row column) := by
  have first := (job.first.window_holds row job.width reached.first).elementAt column inside
  have second := (job.second.window_holds row job.width reached.second).elementAt column inside
  have blended := blendSample_eq_weightedMean job.depth job.firstWeight job.secondWeight
    (job.first.value row column) (job.second.value row column) total
  simp only [sampleAt, windows, first, second, bind, Except.bind]
  exact blended

/-- A row that is reached is painted by storing its samples. -/
theorem paintRow_of_reached (job : CompoundJob)
    (total : job.firstWeight + job.secondWeight = weightTotal) (layout : Layout) (size row : Nat)
    (reached : job.Reached layout size row) (buffer : Array Int) :
    Raster.paintRow job.width (job.stroke layout size) row buffer =
      store (fun column => .ok (job.meanAt row column)) (layout.first row) job.width buffer := by
  have located := (job.rows_eq_ok_iff layout size row _).mpr ⟨reached, rfl⟩
  rw [Raster.paintRow, stroke, located]
  apply store_congr
  intro column inside
  exact job.sampleAt_windows total layout size row reached column inside

/-- A row whose stroke is found is reached. -/
theorem reached_of_stroke (job : CompoundJob) (layout : Layout) (size row : Nat)
    (found : Stroke Int) (given : job.stroke layout size row = .ok found) :
    job.Reached layout size row := by
  rw [stroke, bind_eq_ok_iff] at given
  obtain ⟨rows, located, _⟩ := given
  exact ((job.rows_eq_ok_iff layout size row rows).mp located).1

/-- A row that is not reached stops the blend, with nothing of it stored. -/
theorem paintRow_of_not_reached (job : CompoundJob) (layout : Layout) (size row : Nat)
    (missed : ¬ job.Reached layout size row) (buffer : Array Int) :
    ∃ fault, Raster.paintRow job.width (job.stroke layout size) row buffer =
      .stopped fault buffer := by
  rw [Raster.paintRow]
  cases found : job.stroke layout size row with
  | error fault => exact ⟨fault, rfl⟩
  | ok given => exact absurd (job.reached_of_stroke layout size row given found) missed

/-- A row that is painted is reached. -/
theorem reached_of_paintRow (job : CompoundJob) (layout : Layout) (size row : Nat)
    (buffer painted : Array Int)
    (done : Raster.paintRow job.width (job.stroke layout size) row buffer = .done painted) :
    job.Reached layout size row := by
  by_contra missed
  obtain ⟨fault, stopped⟩ := job.paintRow_of_not_reached layout size row missed buffer
  cases done.symm.trans stopped

end CompoundJob

end GrainSynthesis
