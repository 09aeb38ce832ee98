import GrainSynthesis.Raster

/-!
# What a painting leaves

Rows are painted in order, and windows of different rows may overlap. After a
finished painting an element holds the sample of the last row whose window
reaches it, which `Layout.owner?` names together with the column; an element
that no window reaches is as it was. A painting is finished exactly when every
stroke and every sample is there.
-/

namespace GrainSynthesis

/-- The last of the first `height` rows whose window of `width` elements holds an
element, and the column of the element in it. -/
def Layout.owner? (layout : Layout) (width : Nat) : (height index : Nat) → Option (Nat × Nat)
  | 0, _ => none
  | row + 1, index =>
    let first := layout.origin + row * layout.stride
    if first ≤ index ∧ index < first + width then some (row, index - first)
    else owner? layout width row index

/-- The owner of an element is a row, at a column, that lies there. -/
theorem Layout.owner?_eq_some (layout : Layout) (width height index row column : Nat)
    (owned : layout.owner? width height index = some (row, column)) :
    row < height ∧ column < width ∧ index = layout.origin + row * layout.stride + column := by
  induction height with
  | zero => cases owned
  | succ last inductionHypothesis =>
    simp only [owner?] at owned
    split at owned
    · rename_i held
      simp only [Option.some.injEq, Prod.mk.injEq] at owned
      obtain ⟨rfl, rfl⟩ := owned
      omega
    · have found := inductionHypothesis owned
      omega

/-- No row after the owner reaches the element. -/
theorem Layout.owner?_last (layout : Layout) (width height index row column later : Nat)
    (owned : layout.owner? width height index = some (row, column)) (after : row < later)
    (inside : later < height) :
    ¬ (layout.origin + later * layout.stride ≤ index ∧
      index < layout.origin + later * layout.stride + width) := by
  induction height with
  | zero => cases owned
  | succ last inductionHypothesis =>
    simp only [owner?] at owned
    split at owned
    · simp only [Option.some.injEq, Prod.mk.injEq] at owned
      omega
    · rename_i missed
      rcases Nat.lt_succ_iff_lt_or_eq.mp inside with earlier | same
      · exact inductionHypothesis owned earlier
      · subst same
        exact missed

/-- An element without an owner is reached by no row. -/
theorem Layout.owner?_eq_none_iff (layout : Layout) (width height index : Nat) :
    layout.owner? width height index = none ↔
      ∀ row < height, ¬ (layout.origin + row * layout.stride ≤ index ∧
        index < layout.origin + row * layout.stride + width) := by
  induction height with
  | zero => simp [owner?]
  | succ last inductionHypothesis =>
    simp only [owner?]
    split
    · rename_i held
      simp only [reduceCtorEq, false_iff]
      intro missed
      exact missed last (Nat.lt_succ_self last) held
    · rename_i missed
      rw [inductionHypothesis]
      constructor
      · intro earlier row inside
        rcases Nat.lt_succ_iff_lt_or_eq.mp inside with below | same
        · exact earlier row below
        · exact same ▸ missed
      · intro every row inside
        exact every row (Nat.lt_succ_of_lt inside)

variable {α : Type}

/-- One more sample is stored after those before it. -/
theorem store_succ (sample : Nat → Except Fault α) (start count : Nat) (buffer : Array α) :
    store sample start (count + 1) buffer =
      (store sample start count buffer).andThen (storeColumn sample start count) := by
  rw [store, Run.sweep_succ, Nat.zero_add, store]

/-- When every sample is there, storing is done, the window holds the samples and
every other element is as it was. -/
theorem store_eq_done (sample : Nat → Except Fault α) (value : Nat → α) (start count : Nat)
    (buffer : Array α) (computed : ∀ column < count, sample column = .ok (value column)) :
    ∃ written, store sample start count buffer = .done written ∧ written.size = buffer.size ∧
      ∀ index < buffer.size, written[index]? =
        if start ≤ index ∧ index < start + count then some (value (index - start))
        else buffer[index]? := by
  induction count with
  | zero =>
    refine ⟨buffer, rfl, rfl, ?_⟩
    intro index inside
    rw [if_neg (by omega)]
  | succ count inductionHypothesis =>
    obtain ⟨before, stored, length, held⟩ :=
      inductionHypothesis fun column below => computed column (Nat.lt_succ_of_lt below)
    refine ⟨before.setIfInBounds (start + count) (value count), ?_, ?_, ?_⟩
    · simp [store_succ, stored, Run.andThen, storeColumn, computed count (Nat.lt_succ_self count)]
    · simp [length]
    · intro index inside
      rw [Array.getElem?_setIfInBounds]
      by_cases last : start + count = index
      · have reached : start ≤ index ∧ index < start + (count + 1) := by omega
        have column : index - start = count := by omega
        simp [last, length, inside, reached, column]
      · rw [if_neg last, held index inside]
        by_cases earlier : start ≤ index ∧ index < start + count
        · have reached : start ≤ index ∧ index < start + (count + 1) := by omega
          rw [if_pos earlier, if_pos reached]
        · have missed : ¬ (start ≤ index ∧ index < start + (count + 1)) := by omega
          rw [if_neg earlier, if_neg missed]

/-- When storing is done, every sample was there. -/
theorem sample_of_store_done (sample : Nat → Except Fault α) (start count : Nat)
    (buffer written : Array α) (done : store sample start count buffer = .done written)
    (column : Nat) (inside : column < count) : ∃ value, sample column = .ok value := by
  induction count generalizing written with
  | zero => omega
  | succ count inductionHypothesis =>
    rw [store_succ, Run.andThen_eq_done_iff] at done
    obtain ⟨before, stored, last⟩ := done
    rcases Nat.lt_succ_iff_lt_or_eq.mp inside with earlier | same
    · exact inductionHypothesis before stored earlier
    · subst same
      cases computed : sample column with
      | ok value => exact ⟨value, rfl⟩
      | error fault => simp [storeColumn, computed] at last

namespace Raster

/-- A painting paints its rows. -/
theorem paint_eq (raster : Raster α) (width height : Nat)
    (stroke : Nat → Except Fault (Stroke α)) :
    raster.paint width height stroke =
      (Run.sweep (paintRow width stroke) height 0 raster.samples).map
        fun samples => ⟨samples, raster.layout⟩ := rfl

/-- When every stroke lies where the layout says and every sample is there, the
painting is done, and each element holds the sample of its owner. -/
theorem paint_eq_done (raster : Raster α) (width height : Nat)
    (stroke : Nat → Except Fault (Stroke α)) (sample : Nat → Nat → Except Fault α)
    (value : Nat → Nat → α)
    (placed : ∀ row < height,
      stroke row = .ok ⟨raster.layout.origin + row * raster.layout.stride, sample row⟩)
    (computed : ∀ row < height, ∀ column < width, sample row column = .ok (value row column)) :
    ∃ painted, raster.paint width height stroke = .done painted ∧
      painted.layout = raster.layout ∧ painted.samples.size = raster.samples.size ∧
      ∀ index < raster.samples.size, painted.samples[index]? =
        match raster.layout.owner? width height index with
        | some (row, column) => some (value row column)
        | none => raster.samples[index]? := by
  suffices swept : ∃ samples, Run.sweep (paintRow width stroke) height 0 raster.samples =
      .done samples ∧ samples.size = raster.samples.size ∧
      ∀ index < raster.samples.size, samples[index]? =
        match raster.layout.owner? width height index with
        | some (row, column) => some (value row column)
        | none => raster.samples[index]? by
    obtain ⟨samples, done, length, held⟩ := swept
    exact ⟨⟨samples, raster.layout⟩, by simp [paint_eq, done, Run.map], rfl, length, held⟩
  induction height with
  | zero => exact ⟨raster.samples, rfl, rfl, fun index inside => rfl⟩
  | succ last inductionHypothesis =>
    obtain ⟨before, done, length, held⟩ := inductionHypothesis
      (fun row below => placed row (Nat.lt_succ_of_lt below))
      (fun row below => computed row (Nat.lt_succ_of_lt below))
    obtain ⟨written, stored, sameLength, contents⟩ := store_eq_done (sample last) (value last)
      (raster.layout.origin + last * raster.layout.stride) width before
      (computed last (Nat.lt_succ_self last))
    refine ⟨written, ?_, sameLength.trans length, ?_⟩
    · rw [Run.sweep_succ, done]
      simp [Run.andThen, paintRow, placed last (Nat.lt_succ_self last), stored]
    · intro index inside
      rw [contents index (length ▸ inside)]
      simp only [Layout.owner?]
      split
      · rfl
      · exact held index inside

/-- When a painting is done, every stroke and every sample was there. -/
theorem strokes_of_paint_done (raster painted : Raster α) (width height : Nat)
    (stroke : Nat → Except Fault (Stroke α))
    (done : raster.paint width height stroke = .done painted) (row : Nat) (inside : row < height) :
    ∃ found, stroke row = .ok found ∧
      ∀ column < width, ∃ value, found.sample column = .ok value := by
  rw [paint_eq] at done
  cases swept : Run.sweep (paintRow width stroke) height 0 raster.samples with
  | stopped fault left => simp [swept, Run.map] at done
  | done samples =>
    clear done
    induction height generalizing samples with
    | zero => omega
    | succ last inductionHypothesis =>
      rw [Run.sweep_succ, Run.andThen_eq_done_iff] at swept
      obtain ⟨before, earlierDone, lastDone⟩ := swept
      rcases Nat.lt_succ_iff_lt_or_eq.mp inside with earlier | same
      · exact inductionHypothesis earlier before earlierDone
      · subst same
        rw [Nat.zero_add] at lastDone
        unfold paintRow at lastDone
        cases computed : stroke row with
        | error fault => simp [computed] at lastDone
        | ok found =>
          obtain ⟨start, sample⟩ := found
          simp only [computed] at lastDone
          exact ⟨⟨start, sample⟩, rfl, fun column below =>
            sample_of_store_done sample start width before samples lastDone column below⟩

end Raster

end GrainSynthesis
