import GrainSynthesis.Proofs.CompoundSamples

/-!
# When a blend of predictions completes

Weights and lengths are checked before anything is written, in this order: the sum of the
weights, the width, the height. A blend that passes has only its rows to find. Row by row they
begin further on, so all of them lie in a buffer as soon as the last one does, and a buffer that
is stored is short enough for no position in it to overflow.

So completion is decided by the arguments in unbounded numbers. From rows that are found every
sample is computed: no product, sum, shift or narrowing can fail.
-/

namespace GrainSynthesis

/-- The last row of a block ends inside the buffer of a raster, in unbounded numbers. -/
def Raster.EndsInside {α : Type} (raster : Raster α) (width height : Nat) : Prop :=
  raster.layout.origin + ((height - 1) * raster.layout.stride + width) ≤ raster.samples.size

instance {α : Type} (raster : Raster α) (width height : Nat) :
    Decidable (raster.EndsInside width height) := inferInstanceAs (Decidable (_ ≤ _))

/-- In a buffer that can be counted, every row of a block is reached when the last one ends
inside the buffer. -/
theorem Raster.EndsInside.reaches {α : Type} {raster : Raster α} {width height : Nat}
    (ends : raster.EndsInside width height) (counted : raster.samples.size < Word.sizeLimit)
    (row : Nat) (inside : row < height) :
    raster.layout.Reaches raster.samples.size row width := by
  have before : row * raster.layout.stride ≤ (height - 1) * raster.layout.stride :=
    Nat.mul_le_mul_right _ (by omega)
  apply raster.layout.reaches_of_addressable _ _ _ counted
  rw [EndsInside] at ends
  omega

namespace CompoundJob

/-- A length of coded blocks: a power of two from four to 128. -/
def CodedLength (length : Nat) : Prop :=
  4 ≤ length ∧ length ≤ 128 ∧ ∃ exponent, length = 2 ^ exponent

/-- The lengths that are accepted are those of coded blocks. -/
theorem isBlockLength_iff_coded (length : Nat) : IsBlockLength length ↔ CodedLength length := by
  rw [IsBlockLength, CodedLength]
  constructor
  · rintro ⟨least, greatest, power⟩
    exact ⟨least, greatest, length.log2, power⟩
  · rintro ⟨least, greatest, exponent, rfl⟩
    refine ⟨least, greatest, ?_⟩
    rw [Nat.log2_two_pow, Nat.pow_eq]

/-- The buffers of a blend are stored, so their lengths can be counted. -/
structure Counted (job : CompoundJob) (target : Raster Int) : Prop where
  first : job.first.samples.size < Word.sizeLimit
  second : job.second.samples.size < Word.sizeLimit
  target : target.samples.size < Word.sizeLimit

/-- The weights and the lengths of a blend are those of a coded block. -/
structure Coded (job : CompoundJob) : Prop where
  weights : job.firstWeight + job.secondWeight = 16
  width : CodedLength job.width
  height : CodedLength job.height

/-- The arguments of a blend fit together: weights and lengths are coded, and the block ends
inside both predictions and the destination. -/
structure Feasible (job : CompoundJob) (target : Raster Int) : Prop where
  coded : job.Coded
  first : job.first.EndsInside job.width job.height
  second : job.second.EndsInside job.width job.height
  target : target.EndsInside job.width job.height

/-- Weights and lengths are accepted exactly when they are coded. -/
theorem check_eq_ok_iff_coded (job : CompoundJob) : job.check = .ok () ↔ job.Coded := by
  rw [check_eq_ok_iff, isBlockLength_iff_coded, isBlockLength_iff_coded]
  constructor
  · rintro ⟨weights, width, height⟩
    exact ⟨weights, width, height⟩
  · rintro ⟨weights, width, height⟩
    exact ⟨weights, width, height⟩

/-- Feasible arguments whose buffers can be counted are ready. -/
theorem Feasible.ready {job : CompoundJob} {target : Raster Int} (feasible : job.Feasible target)
    (counted : job.Counted target) : job.Ready target.layout target.samples.size where
  accepted := job.check_eq_ok_iff_coded.mpr feasible.coded
  reached := fun row inside =>
    ⟨feasible.first.reaches counted.first row inside,
      feasible.second.reaches counted.second row inside,
      feasible.target.reaches counted.target row inside⟩

/-- What is ready is feasible: its last row is reached. -/
theorem Ready.feasible {job : CompoundJob} {target : Raster Int}
    (ready : job.Ready target.layout target.samples.size) : job.Feasible target := by
  have coded := job.check_eq_ok_iff_coded.mp ready.accepted
  have nonempty := coded.height.1
  have last := ready.reached (job.height - 1) (by omega)
  exact ⟨coded, last.first.2, last.second.2, last.target.2⟩

/-- A check that fails stops the blend before anything is written. -/
theorem blend_of_check_error (job : CompoundJob) (target : Raster Int) (fault : Fault)
    (refused : job.check = .error fault) : job.blend target = .stopped fault target := by
  rw [blend, refused]

/-- How a blend ends. With buffers whose lengths can be counted it completes exactly when its
arguments are feasible, and otherwise it stops at a fault. Weights that do not sum to sixteen,
and then lengths that no block has, stop it before any element is written. -/
theorem blend_outcome (job : CompoundJob) (target : Raster Int) (counted : job.Counted target) :
    ((∃ left, job.blend target = .done left) ↔ job.Feasible target) ∧
      (¬ job.Feasible target → ∃ fault left, job.blend target = .stopped fault left) ∧
      (job.firstWeight + job.secondWeight ≠ 16 → job.blend target =
        .stopped (.broken (.weightSum (job.firstWeight + job.secondWeight))) target) ∧
      (job.firstWeight + job.secondWeight = 16 →
        ¬ CodedLength job.width →
          job.blend target = .stopped (.broken (.blockWidth job.width)) target) ∧
      (job.firstWeight + job.secondWeight = 16 → CodedLength job.width →
        ¬ CodedLength job.height →
          job.blend target = .stopped (.broken (.blockHeight job.height)) target) := by
  have completes : (∃ left, job.blend target = .done left) ↔ job.Feasible target := by
    rw [job.exists_done_iff_ready]
    constructor
    · intro ready
      exact ready.feasible
    · intro feasible
      exact feasible.ready counted
  refine ⟨completes, ?_, ?_, ?_, ?_⟩
  · intro infeasible
    cases ended : job.blend target with
    | done left => exact absurd (completes.mp ⟨left, ended⟩) infeasible
    | stopped fault left => exact ⟨fault, left, rfl⟩
  · intro weights
    apply job.blend_of_check_error
    simp [check, require, weightTotal, weights, bind, Except.bind]
  · intro weights width
    rw [← isBlockLength_iff_coded] at width
    apply job.blend_of_check_error
    simp [check, require, weightTotal, weights, width, bind, Except.bind]
  · intro weights width height
    rw [← isBlockLength_iff_coded] at width height
    apply job.blend_of_check_error
    simp [check, require, weightTotal, weights, width, height, bind, Except.bind]

/-- The overlapping block needs seven elements. One that it does not have stops it on the way.
Other weights or another length stop it at once. -/
theorem overlappingBlock_outcome :
    let target := Raster.whole (Array.replicate 7 7) 1
    let short := Raster.whole (Array.replicate 6 7) 1
    let heavy := { overlappingBlock with firstWeight := 11 }
    let narrow := { overlappingBlock with width := 6 }
    let low := { overlappingBlock with height := 256 }
    (overlappingBlock.Counted target ∧ overlappingBlock.Feasible target ∧
        ¬ overlappingBlock.Feasible short) ∧
      (∃ left, overlappingBlock.blend target = .done left) ∧
      (∃ fault left, overlappingBlock.blend short = .stopped fault left) ∧
      heavy.blend target = .stopped (.broken (.weightSum 17)) target ∧
      narrow.blend target = .stopped (.broken (.blockWidth 6)) target ∧
      low.blend target = .stopped (.broken (.blockHeight 256)) target := by
  intro target short heavy narrow low
  have counted : overlappingBlock.Counted target := ⟨by decide, by decide, by decide⟩
  have countedShort : overlappingBlock.Counted short := ⟨by decide, by decide, by decide⟩
  have four : CodedLength 4 := ⟨by decide, by decide, 2, by decide⟩
  have feasible : overlappingBlock.Feasible target :=
    ⟨⟨by decide, four, four⟩, by decide, by decide, by decide⟩
  have infeasible : ¬ overlappingBlock.Feasible short := by
    intro fits
    exact absurd fits.target (by decide)
  have notSix : ¬ CodedLength 6 := by
    rw [← isBlockLength_iff_coded]
    decide
  have notHuge : ¬ CodedLength 256 := by
    rintro ⟨_, greatest, _⟩
    omega
  obtain ⟨completes, _⟩ := blend_outcome overlappingBlock target counted
  obtain ⟨_, stops, _⟩ := blend_outcome overlappingBlock short countedShort
  obtain ⟨_, _, weights, _⟩ := blend_outcome heavy target ⟨counted.1, counted.2, counted.3⟩
  obtain ⟨_, _, _, width, _⟩ := blend_outcome narrow target ⟨counted.1, counted.2, counted.3⟩
  obtain ⟨_, _, _, _, height⟩ := blend_outcome low target ⟨counted.1, counted.2, counted.3⟩
  exact ⟨⟨counted, feasible, infeasible⟩, completes.mpr feasible, stops infeasible,
    weights (by decide), width (by decide) notSix, height (by decide) four notHuge⟩

end CompoundJob

end GrainSynthesis
