import GrainSynthesis.Proofs.CompoundSamples
import GrainSynthesis.Proofs.SideBySide

/-!
# Laws of blending

A blended sample is a mean. It lies between the samples that its two predictions show on their
own, it follows each prediction, and it moves toward the greater one when that is given more of
the weight. It does not matter which prediction is called the first.

The laws hold of whole blends as well. Two blends that find the same rows go side by side: both
store a row or neither does, so what relates their samples relates all that they leave, also
where they stop.
-/

namespace GrainSynthesis

namespace CompoundJob

/-- The sample that a prediction shows on its own: its four extra bits are rounded off, and it is
clipped. -/
def shown (depth : Depth) (prediction : Int) : Int :=
  clip ((prediction + 8) / 16) 0 depth.maxSample

section Mean

variable (depth : Depth) {firstWeight secondWeight : Nat} {first second : Int}

/-- A weighted mean in integers. -/
theorem weightedMean_eq (firstWeight secondWeight : Nat) (first second : Int) :
    weightedMean depth firstWeight secondWeight first second =
      clip ((weightedSum firstWeight secondWeight first second + 128) / 256) 0
        depth.maxSample := by
  rw [weightedMean, nearest_weightedSum]

/-- The mean follows the weighted sum, whatever the weights and the predictions are. -/
theorem weightedMean_mono {otherFirstWeight otherSecondWeight : Nat} {otherFirst otherSecond : Int}
    (sums : weightedSum firstWeight secondWeight first second ≤
      weightedSum otherFirstWeight otherSecondWeight otherFirst otherSecond) :
    weightedMean depth firstWeight secondWeight first second ≤
      weightedMean depth otherFirstWeight otherSecondWeight otherFirst otherSecond := by
  rw [weightedMean_eq, weightedMean_eq]
  apply clip_mono _ _ depth.maxSample_nonneg
  exact Int.ediv_le_ediv (by decide) (by omega)

/-- It does not matter which prediction is the first. -/
theorem weightedMean_swap (firstWeight secondWeight : Nat) (first second : Int) :
    weightedMean depth firstWeight secondWeight first second =
      weightedMean depth secondWeight firstWeight second first := by
  rw [weightedMean, weightedMean, weightedSum, weightedSum, Int.add_comm]

/-- Greater predictions have no smaller sum. -/
theorem weightedSum_mono {otherFirst otherSecond : Int} (firstBelow : first ≤ otherFirst)
    (secondBelow : second ≤ otherSecond) :
    weightedSum firstWeight secondWeight first second ≤
      weightedSum firstWeight secondWeight otherFirst otherSecond :=
  Int.add_le_add (mul_le_mul_of_nonneg_right firstBelow (Int.natCast_nonneg _))
    (mul_le_mul_of_nonneg_right secondBelow (Int.natCast_nonneg _))

/-- A sum does not fall when weight moves to the greater prediction. -/
theorem weightedSum_shift {lighter heavier : Nat} (below : first ≤ second)
    (gains : secondWeight ≤ heavier) (kept : lighter + heavier = firstWeight + secondWeight) :
    weightedSum firstWeight secondWeight first second ≤
      weightedSum lighter heavier first second := by
  -- The weight that moves counts the second prediction instead of the first.
  obtain ⟨moved, rfl⟩ := Nat.exists_eq_add_of_le gains
  obtain rfl : firstWeight = lighter + moved := by omega
  have rises : first * (moved : Int) ≤ second * moved :=
    mul_le_mul_of_nonneg_right below (Int.natCast_nonneg _)
  simp only [weightedSum, Nat.cast_add, Int.mul_add]
  omega

/-- Two equal predictions show what one of them shows, with any weights. -/
theorem weightedMean_same (total : firstWeight + secondWeight = weightTotal) (both : Int) :
    weightedMean depth firstWeight secondWeight both both = shown depth both := by
  have whole : weightedSum firstWeight secondWeight both both = both * 16 := by
    rw [weightedSum, ← Int.mul_add, ← Nat.cast_add, total]
    rfl
  rw [weightedMean_eq, whole, shown]
  congr 1
  omega

/-- A mean lies between what the smaller and what the greater prediction shows. -/
theorem weightedMean_between (total : firstWeight + secondWeight = weightTotal)
    (first second : Int) :
    shown depth (min first second) ≤ weightedMean depth firstWeight secondWeight first second ∧
      weightedMean depth firstWeight secondWeight first second ≤
        shown depth (max first second) := by
  rw [← weightedMean_same depth total, ← weightedMean_same depth total]
  constructor
  · exact weightedMean_mono depth
      (weightedSum_mono (Int.min_le_left first second) (Int.min_le_right first second))
  · exact weightedMean_mono depth
      (weightedSum_mono (Int.le_max_left first second) (Int.le_max_right first second))

/-- The whole weight shows one prediction. -/
theorem weightedMean_whole (first second : Int) :
    weightedMean depth 16 0 first second = shown depth first := by
  rw [weightedMean_eq, weightedSum, shown]
  congr 1
  omega

/-- Halves of the weight give the rounded average of both predictions. -/
theorem weightedMean_halves (first second : Int) :
    weightedMean depth 8 8 first second =
      clip ((first + second + 16) / 32) 0 depth.maxSample := by
  rw [weightedMean_eq, weightedSum]
  congr 1
  omega

end Mean

/-- Two computed samples, the second not smaller. -/
def InOrder (lower upper : Except Fault Int) : Prop :=
  ∃ less greater, lower = .ok less ∧ upper = .ok greater ∧ less ≤ greater

/-- What blending with two weights does to any two predictions. -/
structure MeanLaws (depth : Depth) (firstWeight secondWeight : Nat) : Prop where
  symmetric : ∀ first second, blendSample depth firstWeight secondWeight first second =
    blendSample depth secondWeight firstWeight second first
  between : ∀ first second, ∃ sample,
    blendSample depth firstWeight secondWeight first second = .ok sample ∧
      shown depth (min first.toInt second.toInt) ≤ sample ∧
        sample ≤ shown depth (max first.toInt second.toInt)
  equal : ∀ both : Int16,
    blendSample depth firstWeight secondWeight both both = .ok (shown depth both.toInt)
  follows : ∀ first second otherFirst otherSecond, first ≤ otherFirst → second ≤ otherSecond →
    InOrder (blendSample depth firstWeight secondWeight first second)
      (blendSample depth firstWeight secondWeight otherFirst otherSecond)
  shifts : ∀ lighter heavier, lighter + heavier = 16 → secondWeight ≤ heavier →
    ∀ first second, first ≤ second →
      InOrder (blendSample depth firstWeight secondWeight first second)
        (blendSample depth lighter heavier first second)

/-- Weights that sum to sixteen obey the laws. -/
theorem meanLaws_of_total (depth : Depth) (firstWeight secondWeight : Nat)
    (total : firstWeight + secondWeight = weightTotal) :
    MeanLaws depth firstWeight secondWeight := by
  have blended (first second : Int16) := blendSample_eq_weightedMean depth firstWeight secondWeight
    first second total
  constructor
  · intro first second
    rw [blended, blendSample_eq_weightedMean _ _ _ _ _ (Nat.add_comm _ _ ▸ total),
      weightedMean_swap]
  · intro first second
    exact ⟨_, blended first second, weightedMean_between depth total first.toInt second.toInt⟩
  · intro both
    rw [blended, weightedMean_same depth total]
  · intro first second otherFirst otherSecond firstBelow secondBelow
    exact ⟨_, _, blended first second, blended otherFirst otherSecond, weightedMean_mono depth
      (weightedSum_mono (Int16.le_iff_toInt_le.mp firstBelow)
        (Int16.le_iff_toInt_le.mp secondBelow))⟩
  · intro lighter heavier whole gains first second below
    exact ⟨_, _, blended first second, blendSample_eq_weightedMean depth lighter heavier _ _ whole,
      weightedMean_mono depth (weightedSum_shift (Int16.le_iff_toInt_le.mp below) gains
        (whole.trans total.symm))⟩

/-- Two blends of blocks of one size that reach the same rows of their destination, and whose
means are related. -/
structure Alongside (related : Int → Int → Prop) (job other : CompoundJob) (layout : Layout)
    (size : Nat) : Prop where
  accepted : job.check = .ok () ↔ other.check = .ok ()
  width : other.width = job.width
  height : other.height = job.height
  reached : ∀ row < job.height, job.Reached layout size row ↔ other.Reached layout size row
  means : ∀ row < job.height, ∀ column < job.width,
    related (job.meanAt row column) (other.meanAt row column)

section Alongside

variable {related : Int → Int → Prop} {job other : CompoundJob} {target : Raster Int}

/-- A row of two such blends is stored by both or by neither. -/
theorem Alongside.paintRow {layout : Layout} {size : Nat}
    (along : Alongside related job other layout size)
    (total : job.firstWeight + job.secondWeight = weightTotal)
    (otherTotal : other.firstWeight + other.secondWeight = weightTotal) (row : Nat)
    (inside : row < job.height) {buffer otherBuffer : Array Int}
    (relates : Elementwise related buffer otherBuffer) :
    Run.Beside (Elementwise related)
      (Raster.paintRow job.width (job.stroke layout size) row buffer)
      (Raster.paintRow other.width (other.stroke layout size) row otherBuffer) := by
  by_cases reached : job.Reached layout size row
  · have otherReached := (along.reached row inside).mp reached
    rw [job.paintRow_of_reached total layout size row reached,
      other.paintRow_of_reached otherTotal layout size row otherReached, along.width]
    exact store_beside _ _ _ _ relates (along.means row inside)
  · have otherMissed := mt (along.reached row inside).mpr reached
    obtain ⟨fault, stopped⟩ := job.paintRow_of_not_reached layout size row reached buffer
    obtain ⟨otherFault, otherStopped⟩ :=
      other.paintRow_of_not_reached layout size row otherMissed otherBuffer
    rw [stopped, otherStopped]
    exact ⟨by simp [Run.fault?], relates⟩

/-- Two such blends go side by side. -/
theorem Alongside.blend (along : Alongside related job other target.layout target.samples.size)
    (reflexive : ∀ value, related value value) :
    Run.Beside (RastersRelate related) (job.blend target) (other.blend target) := by
  have begins := Elementwise.refl reflexive target.samples
  rw [CompoundJob.blend, CompoundJob.blend]
  cases checked : job.check with
  | error fault =>
    cases otherChecked : other.check with
    | error otherFault => exact ⟨by simp [Run.fault?], rfl, begins⟩
    | ok _ => simp [along.accepted.mpr otherChecked] at checked
  | ok _ =>
    have otherChecked := along.accepted.mp checked
    obtain ⟨total, _⟩ := job.check_eq_ok_iff.mp checked
    obtain ⟨otherTotal, _⟩ := other.check_eq_ok_iff.mp otherChecked
    have swept := Run.sweep_beside (Elementwise related) _ _ job.height 0 _ _ begins
      fun row _ _ _ upper relates => along.paintRow total otherTotal row (by omega) relates
    rw [otherChecked]
    simp only [Raster.paint_eq, along.height]
    exact ⟨by simpa using swept.ended, by simp, by simpa using swept.left⟩

end Alongside

/-- The same blend with its predictions exchanged, each with its weight. -/
def swapped (job : CompoundJob) : CompoundJob :=
  { job with
    first := job.second
    second := job.first
    firstWeight := job.secondWeight
    secondWeight := job.firstWeight }

/-- Exchanged predictions give the same means at the same rows. -/
theorem alongside_swapped (job : CompoundJob) (layout : Layout) (size : Nat) :
    Alongside Eq job job.swapped layout size where
  accepted := by
    rw [check_eq_ok_iff, check_eq_ok_iff, Nat.add_comm]
    rfl
  width := rfl
  height := rfl
  reached := fun _ _ =>
    ⟨fun reached => ⟨reached.second, reached.first, reached.target⟩,
      fun reached => ⟨reached.second, reached.first, reached.target⟩⟩
  means := fun _ _ _ _ => weightedMean_swap job.depth _ _ _ _

/-- The same blend of predictions that are at least as great at every place of the block. -/
structure Below (job other : CompoundJob) : Prop where
  depth : other.depth = job.depth
  firstWeight : other.firstWeight = job.firstWeight
  secondWeight : other.secondWeight = job.secondWeight
  width : other.width = job.width
  height : other.height = job.height
  first : ∀ row < job.height, ∀ column < job.width,
    job.first.value row column ≤ other.first.value row column
  second : ∀ row < job.height, ∀ column < job.width,
    job.second.value row column ≤ other.second.value row column

/-- The predictions of two blends are stored alike. -/
structure SameShape (job other : CompoundJob) : Prop where
  firstLayout : other.first.layout = job.first.layout
  firstSize : other.first.samples.size = job.first.samples.size
  secondLayout : other.second.layout = job.second.layout
  secondSize : other.second.samples.size = job.second.samples.size

/-- Where both blends reach the same rows, greater predictions give greater means. -/
theorem Below.alongside {job other : CompoundJob} {layout : Layout} {size : Nat}
    (below : job.Below other)
    (reached : ∀ row < job.height, job.Reached layout size row ↔ other.Reached layout size row) :
    Alongside (· ≤ ·) job other layout size where
  accepted := by
    rw [check_eq_ok_iff, check_eq_ok_iff, below.firstWeight, below.secondWeight, below.width,
      below.height]
  width := below.width
  height := below.height
  reached := reached
  means := by
    intro row rowInside column columnInside
    rw [meanAt, meanAt, below.depth, below.firstWeight, below.secondWeight]
    apply weightedMean_mono
    exact weightedSum_mono
      (Int16.le_iff_toInt_le.mp (below.first row rowInside column columnInside))
      (Int16.le_iff_toInt_le.mp (below.second row rowInside column columnInside))

/-- Predictions that are stored alike are reached alike. -/
theorem SameShape.reached_iff {job other : CompoundJob} (same : job.SameShape other)
    (width : other.width = job.width) (layout : Layout) (size row : Nat) :
    job.Reached layout size row ↔ other.Reached layout size row := by
  constructor
  · rintro ⟨first, second, target⟩
    refine ⟨?_, ?_, ?_⟩
    · rwa [same.firstLayout, same.firstSize, width]
    · rwa [same.secondLayout, same.secondSize, width]
    · rwa [width]
  · rintro ⟨first, second, target⟩
    refine ⟨?_, ?_, ?_⟩
    · rwa [same.firstLayout, same.firstSize, width] at first
    · rwa [same.secondLayout, same.secondSize, width] at second
    · rwa [width] at target

/-- Blends whose weights sum to sixteen are weighted means. Two predictions may change places,
with their weights, and the same is left, finished or not. Predictions that are greater at every
place leave no smaller element; when they are stored alike, both blends complete or neither
does. -/
theorem blend_is_weighted_mean (job : CompoundJob)
    (total : job.firstWeight + job.secondWeight = 16) :
    MeanLaws job.depth job.firstWeight job.secondWeight ∧
      (∀ first second,
        blendSample job.depth 16 0 first second = .ok (shown job.depth first.toInt) ∧
          blendSample job.depth 0 16 first second = .ok (shown job.depth second.toInt) ∧
            blendSample job.depth 8 8 first second =
              .ok (clip ((first.toInt + second.toInt + 16) / 32) 0 job.depth.maxSample)) ∧
      (∀ target,
        (job.swapped.blend target).state = (job.blend target).state ∧
          ∀ left, job.swapped.blend target = .done left ↔ job.blend target = .done left) ∧
      (∀ other target left otherLeft, job.Below other → job.blend target = .done left →
        other.blend target = .done otherLeft → RastersRelate (· ≤ ·) left otherLeft) ∧
      ∀ other target, job.Below other → job.SameShape other →
        RastersRelate (· ≤ ·) (job.blend target).state (other.blend target).state ∧
          ((∃ left, job.blend target = .done left) ↔ ∃ left, other.blend target = .done left) := by
  refine ⟨meanLaws_of_total _ _ _ total, ?_, ?_, ?_, ?_⟩
  · intro first second
    refine ⟨?_, ?_, ?_⟩
    · rw [blendSample_eq_weightedMean _ _ _ _ _ rfl, weightedMean_whole]
    · rw [blendSample_eq_weightedMean _ _ _ _ _ rfl, weightedMean_swap, weightedMean_whole]
    · rw [blendSample_eq_weightedMean _ _ _ _ _ rfl, weightedMean_halves]
  · intro target
    have beside : Run.Beside (RastersRelate Eq) (job.blend target) (job.swapped.blend target) :=
      (job.alongside_swapped _ _).blend fun _ => rfl
    have same := beside.left.eq
    exact ⟨same.symm, fun left => (beside.eq_done_iff same left).symm⟩
  · intro other target left otherLeft below done otherDone
    have ready := job.ready_of_done target left done
    have otherReady := other.ready_of_done target otherLeft otherDone
    have along := below.alongside fun row inside =>
      ⟨fun _ => otherReady.reached row (below.height ▸ inside), fun _ => ready.reached row inside⟩
    have relates := (along.blend Int.le_refl).left
    rwa [done, otherDone] at relates
  · intro other target below same
    have along := below.alongside fun row _ =>
      same.reached_iff below.width target.layout target.samples.size row
    have beside := along.blend Int.le_refl
    exact ⟨beside.left, beside.exists_done_iff⟩

/-- The overlapping block with some of its predictions greater. -/
def greaterBlock : CompoundJob :=
  { overlappingBlock with
    first := .whole #[0, 16, 32, 48, 64, 80, 96, 112, 128, 144, 160, 176, 4080, -5, 32767, 4080] 4
    second := .whole #[0, 4088, 2410, 3000] 0 }

/-- Exchanged predictions blend the overlapping block to the same, greater predictions to nothing
smaller, and more weight on the greater of two predictions gives no smaller sample. -/
theorem overlappingBlock_laws :
    let target := Raster.whole #[7, 7, 7, 7, 7, 7, 7, 9] 1
    let left := Raster.whole #[0, 0, 0, 0, 96, 255, 227, 9] 1
    let greater := Raster.whole #[0, 3, 5, 159, 96, 255, 230, 9] 1
    (overlappingBlock.firstWeight + overlappingBlock.secondWeight = 16 ∧
        overlappingBlock.Below greaterBlock ∧ overlappingBlock.SameShape greaterBlock ∧
        overlappingBlock.blend target = .done left ∧
        greaterBlock.blend target = .done greater) ∧
      overlappingBlock.swapped.blend target = .done left ∧
      RastersRelate (· ≤ ·) left greater ∧
      RastersRelate (· ≤ ·) (overlappingBlock.blend target).state
        (greaterBlock.blend target).state ∧
      InOrder (blendSample .eight 10 6 (-5) 4088) (blendSample .eight 3 13 (-5) 4088) := by
  intro target left greater
  have total : overlappingBlock.firstWeight + overlappingBlock.secondWeight = 16 := by decide
  have below : overlappingBlock.Below greaterBlock := {
    depth := rfl
    firstWeight := rfl
    secondWeight := rfl
    width := rfl
    height := rfl
    first := by decide +kernel
    second := by decide +kernel }
  have same : overlappingBlock.SameShape greaterBlock := ⟨rfl, rfl, rfl, rfl⟩
  have done : overlappingBlock.blend target = .done left := by decide +kernel
  have greaterDone : greaterBlock.blend target = .done greater := by decide +kernel
  obtain ⟨laws, _, swaps, grows, growsAlike⟩ := blend_is_weighted_mean overlappingBlock total
  exact ⟨⟨total, below, same, done, greaterDone⟩, ((swaps target).2 left).mpr done,
    grows greaterBlock target left greater below done greaterDone,
    (growsAlike greaterBlock target below same).1,
    laws.shifts 3 13 rfl (by decide) (-5) 4088 (by decide)⟩

end CompoundJob

end GrainSynthesis
