import GrainSynthesis.Proofs.WeightedMean

/-!
# What a blend of predictions leaves

A blend that completes has found every row of both predictions and of its destination. It
leaves each element of a destination row with the weighted mean of the two predictions at the
element's row and column, and every other element as it was. Destination rows may overlap when
the stride is shorter than the block is wide; they are written from the first to the last, so
the greatest row that holds an element decides.

Nothing is assumed of strides or buffers beyond completion. Whether a blend completes depends on
its destination through the layout and the length only.
-/

namespace GrainSynthesis

namespace CompoundJob

/-- The stroke of a row that is reached gives the means of the row. -/
theorem stroke_gives (job : CompoundJob) (total : job.firstWeight + job.secondWeight = weightTotal)
    (layout : Layout) (size row : Nat) (reached : job.Reached layout size row) :
    Raster.Gives layout job.width row (job.meanAt row) (job.stroke layout size row) := by
  have located := (job.rows_eq_ok_iff layout size row _).mpr ⟨reached, rfl⟩
  rw [stroke, located]
  exact ⟨_, rfl, job.sampleAt_windows total layout size row reached⟩

/-- What decides whether a blend completes: its weights and its lengths are accepted, and the
windows of all its rows are reached. -/
structure Ready (job : CompoundJob) (layout : Layout) (size : Nat) : Prop where
  accepted : job.check = .ok ()
  reached : ∀ row < job.height, job.Reached layout size row

/-- A blend that is ready completes. Each element is left with the mean of its owner. -/
theorem Ready.contents {job : CompoundJob} {target : Raster Int}
    (ready : job.Ready target.layout target.samples.size) :
    ∃ left, job.blend target = .done left ∧ left.layout = target.layout ∧
      left.samples.size = target.samples.size ∧
      ∀ index < target.samples.size, left.samples[index]? =
        match target.layout.owner? job.width job.height index with
        | some (row, column) => some (job.meanAt row column)
        | none => target.samples[index]? := by
  obtain ⟨total, _⟩ := job.check_eq_ok_iff.mp ready.accepted
  rw [blend, ready.accepted]
  exact target.paint_of_gives job.width job.height _ job.meanAt fun row inside =>
    job.stroke_gives total target.layout target.samples.size row (ready.reached row inside)

/-- A blend that completed was ready. -/
theorem ready_of_done (job : CompoundJob) (target left : Raster Int)
    (done : job.blend target = .done left) : job.Ready target.layout target.samples.size := by
  rw [blend] at done
  cases checked : job.check with
  | error fault => simp [checked] at done
  | ok _ =>
    rw [checked] at done
    refine ⟨checked, ?_⟩
    intro row inside
    obtain ⟨found, given, _⟩ := Raster.strokes_of_paint_done _ _ _ _ _ done row inside
    exact job.reached_of_stroke _ _ row found given

/-- A blend completes exactly when it is ready. -/
theorem exists_done_iff_ready (job : CompoundJob) (target : Raster Int) :
    (∃ left, job.blend target = .done left) ↔ job.Ready target.layout target.samples.size := by
  constructor
  · rintro ⟨left, done⟩
    exact job.ready_of_done target left done
  · intro ready
    obtain ⟨left, done, _⟩ := ready.contents
    exact ⟨left, done⟩

/-- A completed blend keeps the layout and the length of its destination, and each element is
left with the mean of its owner. -/
theorem contents_of_done (job : CompoundJob) (target left : Raster Int)
    (done : job.blend target = .done left) :
    left.layout = target.layout ∧ left.samples.size = target.samples.size ∧
      ∀ index < target.samples.size, left.samples[index]? =
        match target.layout.owner? job.width job.height index with
        | some (row, column) => some (job.meanAt row column)
        | none => target.samples[index]? := by
  obtain ⟨reached, again, contents⟩ := (job.ready_of_done target left done).contents
  obtain rfl : reached = left := Run.done.inj (again.symm.trans done)
  exact contents

/-- The predictions at a place of a row that is reached are stored, and the mean there is theirs. -/
theorem meanAt_of_reached (job : CompoundJob) (layout : Layout) (size row column : Nat)
    (reached : job.Reached layout size row) (inside : column < job.width) :
    ∃ first second,
      job.first.samples[job.first.layout.first row + column]? = some first ∧
        job.second.samples[job.second.layout.first row + column]? = some second ∧
          job.meanAt row column = weightedMean job.depth job.firstWeight job.secondWeight
            first.toInt second.toInt :=
  ⟨job.first.value row column, job.second.value row column,
    job.first.getElem?_of_reaches row job.width column reached.first inside,
    job.second.getElem?_of_reaches row job.width column reached.second inside, rfl⟩

/-- What a completed blend leaves, for any strides. An element of the destination holds the
weighted mean of the two predictions at the greatest row whose window holds the element, and at
its column in that row. An element that no row holds is as it was. Where rows do not overlap,
an element that is held is held by exactly one row. Confining a mean to sixteen bits never
changes it, and no step of computing one leaves its word. -/
theorem blend_leaves_means (job : CompoundJob) (target left : Raster Int)
    (done : job.blend target = .done left) :
    (left.layout = target.layout ∧ left.samples.size = target.samples.size) ∧
      (∀ row index, target.layout.LastRow job.width job.height row index →
        ∃ first second,
          job.first.samples[job.first.layout.first row + (index - target.layout.first row)]? =
              some first ∧
            job.second.samples[job.second.layout.first row +
                (index - target.layout.first row)]? = some second ∧
              left.samples[index]? = some (weightedMean job.depth job.firstWeight
                job.secondWeight first.toInt second.toInt)) ∧
      (∀ index, (∀ row < job.height, ¬ target.layout.InRow job.width row index) →
        left.samples[index]? = target.samples[index]?) ∧
      (job.width ≤ target.layout.stride → ∀ index,
        (∃ row < job.height, target.layout.InRow job.width row index) →
          ∃! row, row < job.height ∧ target.layout.InRow job.width row index) ∧
      ∀ first second, StepsExact job.firstWeight job.secondWeight first second := by
  have ready := job.ready_of_done target left done
  obtain ⟨layout, size, contents⟩ := job.contents_of_done target left done
  obtain ⟨total, _⟩ := job.check_eq_ok_iff.mp ready.accepted
  refine ⟨⟨layout, size⟩, ?_, ?_, ?_, ?_⟩
  · intro row index last
    obtain ⟨above, below⟩ := last.held
    have reached := ready.reached row last.counted
    have stored : index < target.samples.size := by
      have ends := reached.target.first_add_le
      omega
    have owner :=
      (target.layout.owner?_eq_some_iff job.width job.height index row _).mpr ⟨last, rfl⟩
    obtain ⟨first, second, firstStored, secondStored, mean⟩ := job.meanAt_of_reached _ _ row
      (index - target.layout.first row) reached (by omega)
    refine ⟨first, second, firstStored, secondStored, ?_⟩
    rw [contents index stored, owner]
    exact congrArg some mean
  · intro index missed
    have unowned := (target.layout.owner?_eq_none_iff job.width job.height index).mpr missed
    by_cases stored : index < target.samples.size
    · rw [contents index stored, unowned]
    · rw [Array.getElem?_eq_none (by omega), Array.getElem?_eq_none (by omega)]
  · rintro apart index ⟨row, inside, held⟩
    refine ⟨row, ⟨inside, held⟩, ?_⟩
    rintro other ⟨_, otherHeld⟩
    exact otherHeld.unique apart held
  · intro first second
    exact stepsExact_of_total job.firstWeight job.secondWeight first second total

/-- Four rows of four columns, each row one element after the row before it. The second
prediction has stride zero: all its rows are one. -/
def overlappingBlock : CompoundJob where
  depth := .eight
  first := .whole #[0, 16, 32, 48, 64, 80, 96, 112, 128, 144, 160, 176, 4080, -5, 32767, 4000] 4
  second := .whole #[-32768, 4088, 2400, 3000] 0
  firstWeight := 10
  secondWeight := 6
  width := 4
  height := 4

/-- Three rows of the overlapping block hold element 4. The last one decides, with its column 1.
No row holds element 7. -/
theorem overlappingBlock_means :
    let target := Raster.whole #[7, 7, 7, 7, 7, 7, 7, 9] 1
    let left := Raster.whole #[0, 0, 0, 0, 96, 255, 227, 9] 1
    (overlappingBlock.blend target = .done left ∧
        target.layout.LastRow overlappingBlock.width overlappingBlock.height 3 4 ∧
        ∀ row < overlappingBlock.height, ¬ target.layout.InRow overlappingBlock.width row 7) ∧
      left.samples[4]? = some (weightedMean .eight 10 6 (-5) 4088) ∧
        left.samples[7]? = target.samples[7]? := by
  intro target left
  have done : overlappingBlock.blend target = .done left := by decide +kernel
  have last : target.layout.LastRow overlappingBlock.width overlappingBlock.height 3 4 := {
    counted := by decide
    held := by decide
    greatest := by decide }
  have missed : ∀ row < overlappingBlock.height,
      ¬ target.layout.InRow overlappingBlock.width row 7 := by decide
  obtain ⟨_, means, untouched, _, _⟩ := blend_leaves_means overlappingBlock target left done
  obtain ⟨first, second, firstStored, secondStored, mean⟩ := means 3 4 last
  obtain rfl : (-5 : Int16) = first := Option.some.inj firstStored
  obtain rfl : (4088 : Int16) = second := Option.some.inj secondStored
  exact ⟨⟨done, last, missed⟩, mean, untouched 7 missed⟩

end CompoundJob

end GrainSynthesis
