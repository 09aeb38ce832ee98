import GrainSynthesis.Proofs.Reach
import GrainSynthesis.Raster.Painting

/-!
# Sweeps and paintings in parts

A sweep depends on its steps only at the numbers that it performs, and steps that
are numbered from further on are the same sweep. Both carry over to stores of
consecutive elements and to paintings: a painting is done exactly when every
stroke and every sample is there, and where rows do not overlap each element of a
window holds the sample of its own row and column.
-/

namespace GrainSynthesis

namespace Run

variable {σ : Type}

/-- A run on a part of a state is done exactly when the run on the part is. -/
theorem map_eq_done_iff {τ : Type} (run : Run σ) (f : σ → τ) (left : τ) :
    run.map f = done left ↔ ∃ state, run = done state ∧ f state = left := by
  cases run <;> simp [map]

/-- Runs that are done alike are stopped alike. -/
theorem exists_stopped_congr (run other : Run σ)
    (alike : ∀ left, run = done left ↔ other = done left) :
    (∃ fault left, run = stopped fault left) ↔ ∃ fault left, other = stopped fault left := by
  cases run with
  | done left =>
    rw [(alike left).mp rfl]
  | stopped fault left =>
    cases other with
    | done reached => simpa using (alike reached).mpr rfl
    | stopped other reached => simp

/-- Sweeps with equal steps are equal. -/
theorem sweep_congr (step other : Nat → σ → Run σ) (count first : Nat) (before : σ)
    (same : ∀ index left, first ≤ index → index < first + count →
      step index left = other index left) :
    sweep step count first before = sweep other count first before := by
  induction count generalizing first before with
  | zero => rfl
  | succ count inductionHypothesis =>
    have begins := same first before (Nat.le_refl first) (by omega)
    have goesOn (left : σ) :
        sweep step count (first + 1) left = sweep other count (first + 1) left :=
      inductionHypothesis (first + 1) left fun index later lower upper =>
        same index later (by omega) (by omega)
    simp only [sweep, begins, goesOn]

/-- A sweep that begins further on performs the steps that are numbered from there. -/
theorem sweep_shift (step : Nat → σ → Run σ) (offset count first : Nat) (before : σ) :
    sweep step count (offset + first) before =
      sweep (fun index => step (offset + index)) count first before := by
  induction count generalizing first before with
  | zero => rfl
  | succ count inductionHypothesis =>
    have goesOn (left : σ) := inductionHypothesis (first + 1) left
    simp only [sweep, ← goesOn, Nat.add_assoc]

/-- Steps that are done alike make sweeps that are done alike, however differently they
stop. -/
theorem sweep_eq_done_congr (step other : Nat → σ → Run σ) (count : Nat) (before after : σ)
    (alike : ∀ index left reached, step index left = done reached ↔ other index left = done reached) :
    sweep step count 0 before = done after ↔ sweep other count 0 before = done after := by
  induction count generalizing after with
  | zero => rfl
  | succ count inductionHypothesis =>
    simp only [sweep_succ, andThen_eq_done_iff, inductionHypothesis, alike]

/-- When a sweep is done, so was each of its steps. -/
theorem step_of_sweep_done (step : Nat → σ → Run σ) (count first : Nat) (before after : σ)
    (finished : sweep step count first before = done after) (index : Nat) (inside : index < count) :
    ∃ left reached, step (first + index) left = done reached := by
  induction count generalizing after with
  | zero => omega
  | succ count inductionHypothesis =>
    rw [sweep_succ, andThen_eq_done_iff] at finished
    obtain ⟨between, earlier, last⟩ := finished
    rcases Nat.lt_succ_iff_lt_or_eq.mp inside with below | same
    · exact inductionHypothesis between earlier below
    · subst same
      exact ⟨between, after, last⟩

/-- Steps that are taken in passes are taken one after the other. -/
theorem sweep_pass (step : Nat → σ → Run σ) (size count : Nat) (before : σ) :
    sweep (pass step size) count 0 before = sweep step (count * size) 0 before := by
  induction count with
  | zero => simp [sweep]
  | succ count inductionHypothesis =>
    rw [sweep_succ, inductionHypothesis, Nat.succ_mul, sweep_add]
    simp only [Nat.zero_add, pass]

end Run

variable {α : Type}

/-- Stores of equal samples are equal. -/
theorem store_congr (sample other : Nat → Except Fault α) (start count : Nat) (buffer : Array α)
    (same : ∀ column < count, sample column = other column) :
    store sample start count buffer = store other start count buffer := by
  apply Run.sweep_congr
  intro column left _ upper
  unfold storeColumn
  rw [same column (by omega)]

/-- A store in two parts continues where the first part ends. -/
theorem store_add (sample : Nat → Except Fault α) (start count more : Nat) (buffer : Array α) :
    store sample start (count + more) buffer =
      (store sample start count buffer).andThen
        (store (fun column => sample (count + column)) (start + count) more) := by
  rw [store]
  rw [Run.sweep_add]
  congr 1
  funext left
  rw [show 0 + count = count + 0 by omega, Run.sweep_shift]
  apply Run.sweep_congr
  intro column later _ _
  unfold storeColumn
  rw [Nat.add_assoc]

/-- With rows at least as far apart as they are long, the owner of an element of a
window is the row and the column of the element. -/
theorem Layout.owner?_of_apart (layout : Layout) (width height row column : Nat)
    (apart : width ≤ layout.stride) (rowInside : row < height) (columnInside : column < width) :
    layout.owner? width height (layout.first row + column) = some (row, column) := by
  cases owned : layout.owner? width height (layout.first row + column) with
  | none =>
    have missed := (layout.owner?_eq_none_iff width height _).mp owned row rowInside
    rw [first] at missed
    omega
  | some owner =>
    obtain ⟨ownerRow, ownerColumn⟩ := owner
    obtain ⟨_, ownerInside, located⟩ := layout.owner?_eq_some width height _ _ _ owned
    obtain ⟨rfl, rfl⟩ := layout.row_unique width row column ownerRow ownerColumn apart
      columnInside ownerInside located
    rfl

/-- The window of `width` elements of a row holds an element. -/
def Layout.InRow (layout : Layout) (width row index : Nat) : Prop :=
  layout.first row ≤ index ∧ index < layout.first row + width

instance (layout : Layout) (width row index : Nat) : Decidable (layout.InRow width row index) :=
  inferInstanceAs (Decidable (_ ∧ _))

/-- A row is the greatest of `height` rows whose window holds an element. -/
structure Layout.LastRow (layout : Layout) (width height row index : Nat) : Prop where
  counted : row < height
  held : layout.InRow width row index
  greatest : ∀ other < height, layout.InRow width other index → other ≤ row

/-- The owner of an element is the greatest row that holds it, at the element's column. -/
theorem Layout.owner?_eq_some_iff (layout : Layout) (width height index row column : Nat) :
    layout.owner? width height index = some (row, column) ↔
      layout.LastRow width height row index ∧ column = index - layout.first row := by
  constructor
  · intro owned
    obtain ⟨counted, inside, located⟩ := layout.owner?_eq_some width height index row column owned
    have begins : index = layout.first row + column := located
    refine ⟨⟨counted, ⟨by omega, by omega⟩, ?_⟩, by omega⟩
    intro other below held
    apply Nat.le_of_not_lt
    intro after
    exact layout.owner?_last width height index row column other owned after below held
  · rintro ⟨last, rfl⟩
    cases owned : layout.owner? width height index with
    | none =>
      have missed := (layout.owner?_eq_none_iff width height index).mp owned
      exact absurd last.held (missed row last.counted)
    | some owner =>
      obtain ⟨ownerRow, ownerColumn⟩ := owner
      obtain ⟨counted, inside, located⟩ := layout.owner?_eq_some width height index _ _ owned
      have begins : index = layout.first ownerRow + ownerColumn := located
      have before := last.greatest ownerRow counted ⟨by omega, by omega⟩
      have after : row ≤ ownerRow := by
        apply Nat.le_of_not_lt
        intro later
        exact layout.owner?_last width height index _ _ row owned later last.counted last.held
      obtain rfl : row = ownerRow := by omega
      rw [begins, Nat.add_sub_cancel_left]

/-- With rows at least as far apart as they are long, an element lies in one row at most. -/
theorem Layout.InRow.unique {layout : Layout} {width row other index : Nat}
    (apart : width ≤ layout.stride) (held : layout.InRow width row index)
    (otherHeld : layout.InRow width other index) : row = other := by
  obtain ⟨above, below⟩ := held
  obtain ⟨otherAbove, otherBelow⟩ := otherHeld
  exact (layout.row_unique width row (index - layout.first row) other (index - layout.first other)
    apart (by omega) (by omega) (by omega)).1

namespace Raster

/-- Sweeps over a raster with equal steps are equal. -/
theorem sweep_congr (raster : Raster α) (count : Nat) (step other : Nat → Array α → Run (Array α))
    (same : ∀ number < count, ∀ buffer, step number buffer = other number buffer) :
    raster.sweep count step = raster.sweep count other := by
  obtain ⟨samples, layout⟩ := raster
  rw [sweep, sweep, Run.sweep_congr step other count 0 samples]
  intro number buffer _ inside
  exact same number (by omega) buffer

/-- A stroke that begins at its row and whose samples have given values. -/
def Gives (layout : Layout) (width row : Nat) (value : Nat → α)
    (stroke : Except Fault (Stroke α)) : Prop :=
  ∃ sample, stroke = .ok ⟨layout.first row, sample⟩ ∧
    ∀ column < width, sample column = .ok (value column)

/-- When every stroke gives the samples of its row, the painting is done, and each
element holds the sample of its owner. -/
theorem paint_of_gives (raster : Raster α) (width height : Nat)
    (stroke : Nat → Except Fault (Stroke α)) (value : Nat → Nat → α)
    (gives : ∀ row < height, Gives raster.layout width row (value row) (stroke row)) :
    ∃ painted, raster.paint width height stroke = .done painted ∧
      painted.layout = raster.layout ∧ painted.samples.size = raster.samples.size ∧
      ∀ index < raster.samples.size, painted.samples[index]? =
        match raster.layout.owner? width height index with
        | some (row, column) => some (value row column)
        | none => raster.samples[index]? := by
  let sample (row : Nat) : Nat → Except Fault α :=
    match stroke row with
    | .ok found => found.sample
    | .error fault => fun _ => .error fault
  apply raster.paint_eq_done width height stroke sample value
  · intro row inside
    obtain ⟨given, found, _⟩ := gives row inside
    simp [sample, found, Layout.first]
  · intro row inside column below
    obtain ⟨given, found, computed⟩ := gives row inside
    simp [sample, found, computed column below]

/-- Where rows do not overlap, a painted window holds the samples of its row. -/
theorem getElem?_of_owned (raster painted : Raster α) (width height : Nat)
    (value : Nat → Nat → α) (apart : width ≤ raster.layout.stride)
    (contents : ∀ index < raster.samples.size, painted.samples[index]? =
      match raster.layout.owner? width height index with
      | some (row, column) => some (value row column)
      | none => raster.samples[index]?)
    (row column : Nat) (rowInside : row < height) (columnInside : column < width)
    (stored : raster.layout.first row + column < raster.samples.size) :
    painted.samples[raster.layout.first row + column]? = some (value row column) := by
  rw [contents _ stored,
    raster.layout.owner?_of_apart width height row column apart rowInside columnInside]

end Raster

end GrainSynthesis
