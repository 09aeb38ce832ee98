import GrainSynthesis.Grid.Steps
import GrainSynthesis.Proofs.GridRows

/-!
# What a workbench holds

Wherever steps lead from the empty workbench, the cells of both grids can be counted: every way to
make a grid counts them, and a write changes none of the numbers. So both grids are rectangular,
and the next step does what the shape of the current grid says. A step that fails changes nothing.
A write shows in one row of the current grid. What was put aside stays until the grids are
exchanged or another one is put aside.
-/

namespace GrainSynthesis

variable {α : Type}

/-- Steps after which the grid that was put aside is still there. -/
def GridStep.KeepsSaved : GridStep α → Prop
  | .save | .swap => False
  | _ => True

/-- What is made does not depend on how failures to make it are told. -/
theorem mapError_eq_ok_iff {ε φ : Type} (made : Except ε α) (tell : ε → φ) (found : α) :
    made.mapError tell = .ok found ↔ made = .ok found := by
  cases made with
  | ok made =>
    constructor
    · intro same
      cases same
      rfl
    · intro same
      cases same
      rfl
  | error cause =>
    constructor
    · intro impossible
      cases impossible
    · intro impossible
      cases impossible

/-- What is not made has a cause. -/
theorem exists_error_of_not_ok {ε : Type} (made : Except ε α) (refused : ¬ ∃ found, made = .ok found) :
    ∃ cause, made = .error cause := by
  cases made with
  | ok found => exact absurd ⟨found, rfl⟩ refused
  | error cause => exact ⟨cause, rfl⟩

namespace Workbench

variable {bench : Workbench α}

/-- The cells of both grids can be counted. -/
structure Counted (bench : Workbench α) : Prop where
  current : bench.current.Counted
  saved : bench.saved.Counted

/-- The empty grids can be counted. -/
theorem counted_empty : (empty : Workbench α).Counted :=
  have none : 0 < Word.sizeLimit := by decide
  ⟨none, none⟩

/-- A current grid that is taken over can be counted if whatever was made can be. -/
theorem Counted.replace (counted : bench.Counted) (made : Except Failure (Grid α))
    (sound : ∀ grid, made = .ok grid → grid.Counted) : (bench.replace made).1.Counted := by
  cases made with
  | ok grid => exact ⟨sound grid rfl, counted.saved⟩
  | error failure => exact counted

/-- A current grid that a write leaves can be counted if whatever it leaves can be. -/
theorem Counted.rewrite (counted : bench.Counted) (written : Run (Grid α))
    (sound : written.state.Counted) : (bench.rewrite written).1.Counted := by
  cases written <;> exact ⟨sound, counted.saved⟩

variable [DecidableEq α] (width : Nat) (cell : α)

/-- A step leaves grids that can be counted. -/
theorem Counted.step (counted : bench.Counted) (input : GridStep α) :
    (bench.step width cell input).1.Counted := by
  cases input with
  | blank rows columns =>
    refine counted.replace _ fun grid made => ?_
    exact Grid.counted_of_blank width rows columns cell ((mapError_eq_ok_iff _ _ _).mp made)
  | ofCells rows columns cells =>
    exact counted.replace _ fun grid made => Grid.counted_of_ofCells rows columns cells made
  | read row => exact counted
  | fill row value =>
    refine counted.rewrite _ ?_
    cases left : bench.current.fillRow row value with
    | done written =>
      exact (bench.current.written_of_fillRow written row value left).counted counted.current
    | stopped fault kept =>
      obtain rfl := bench.current.fillRow_stopped kept row value fault left
      exact counted.current
  | put row column value =>
    refine counted.rewrite _ ?_
    cases left : bench.current.put row column value with
    | done written =>
      exact (bench.current.written_of_put written row column value left).counted counted.current
    | stopped fault kept =>
      obtain rfl := bench.current.put_stopped kept row column value fault left
      exact counted.current
  | save => exact ⟨counted.current, counted.current⟩
  | swap => exact ⟨counted.saved, counted.current⟩
  | compare => exact counted
  | shape => exact counted

/-- Wherever steps lead from the empty workbench, both grids can be counted. -/
theorem counted_steps (inputs : List (GridStep α)) :
    (empty.steps width cell inputs).1.Counted :=
  Steps.perform_keeps (step width cell) Counted (fun _ input counted => counted.step width cell input)
    empty inputs counted_empty

/-- A step that neither puts aside nor exchanges leaves the grid that was put aside. -/
theorem saved_step (bench : Workbench α) (input : GridStep α) (keeps : input.KeepsSaved) :
    (bench.step width cell input).1.saved = bench.saved := by
  have replaced (made : Except Failure (Grid α)) : (bench.replace made).1.saved = bench.saved := by
    cases made <;> rfl
  have rewritten (written : Run (Grid α)) : (bench.rewrite written).1.saved = bench.saved := by
    cases written <;> rfl
  cases input with
  | blank rows columns => exact replaced _
  | ofCells rows columns cells => exact replaced _
  | read row => rfl
  | fill row value => exact rewritten _
  | put row column value => exact rewritten _
  | save => exact keeps.elim
  | swap => exact keeps.elim
  | compare => rfl
  | shape => rfl

/-- Any number of such steps leave it. -/
theorem saved_steps (bench : Workbench α) (inputs : List (GridStep α))
    (keep : ∀ input ∈ inputs, input.KeepsSaved) :
    (bench.steps width cell inputs).1.saved = bench.saved := by
  induction inputs generalizing bench with
  | nil => rfl
  | cons input rest inductionHypothesis =>
    have first := saved_step width cell bench input (keep input List.mem_cons_self)
    exact (inductionHypothesis _ fun later among => keep later (List.mem_cons_of_mem _ among)).trans
      first

/-- What each step does with the grids of a workbench. Blank cells are made exactly when they can be
stored, and given cells are taken exactly when they are as many as their shape says. Rows and cells
are read and written exactly where the current grid has them. -/
structure Orderly (bench : Workbench α) : Prop where
  /-- A step that fails changes nothing. -/
  failed : ∀ input failure, (bench.step width cell input).2 = .error failure →
    (bench.step width cell input).1 = bench
  /-- A blank grid has the shape that it is asked for, and blank rows. -/
  blanked : ∀ rows columns, Grid.Storable width rows columns → ∃ grid : Grid α,
    bench.step width cell (.blank rows columns) =
        ({ bench with current := grid }, .ok (.shape rows columns)) ∧
      grid.rows = rows ∧ grid.columns = columns ∧
        ∀ row, grid.HasRow row → grid.row row = .ok (Array.replicate columns cell)
  /-- A blank grid that cannot be stored is an overflow. -/
  unstored : ∀ rows columns, ¬ Grid.Storable width rows columns →
    bench.step width cell (.blank rows columns) = (bench, .error (.fault .overflow))
  /-- Cells of the right number are taken, and the rows of the grid are these cells again. -/
  taken : ∀ rows columns cells, cells.size < Word.sizeLimit → cells.size = rows * columns →
    ∃ grid : Grid α, bench.step width cell (.ofCells rows columns cells) =
        ({ bench with current := grid }, .ok (.shape rows columns)) ∧
      grid.rows = rows ∧ grid.columns = columns ∧ grid.firstRows rows = .ok cells
  /-- Cells of another number are refused. -/
  refused : ∀ rows columns cells, cells.size ≠ rows * columns →
    bench.step width cell (.ofCells rows columns cells) = (bench, .error
      (if rows * columns < Word.sizeLimit then .rejected (.noiseShape rows columns cells.size)
        else .fault .overflow))
  /-- A row is read where there is one. -/
  reads : ∀ row, bench.current.HasRow row → ∃ cells, cells.size = bench.current.columns ∧
    bench.current.row row = .ok cells ∧
      bench.step width cell (.read row) = (bench, .ok (.cells cells))
  /-- A row is filled where there is one, and nothing else is changed. -/
  fills : ∀ row value, bench.current.HasRow row → ∃ written,
    bench.current.Written written row (Array.replicate bench.current.columns value) ∧
      bench.step width cell (.fill row value) =
        ({ bench with current := written },
          .ok (.shape bench.current.rows bench.current.columns))
  /-- Elsewhere rows are neither read nor filled. -/
  rowless : ∀ row, ¬ bench.current.HasRow row → ∃ fault,
    bench.step width cell (.read row) = (bench, .error (.fault fault)) ∧
      ∀ value, bench.step width cell (.fill row value) = (bench, .error (.fault fault))
  /-- A cell is written where there is one, and nothing else is changed. -/
  puts : ∀ row column value, row < bench.current.rows → column < bench.current.columns →
    ∃ cells written, bench.current.row row = .ok cells ∧
      bench.current.Written written row (cells.setIfInBounds column value) ∧
        bench.step width cell (.put row column value) =
          ({ bench with current := written },
            .ok (.shape bench.current.rows bench.current.columns))
  /-- Elsewhere no cell is written. -/
  cellless : ∀ row column value,
    ¬ (row < bench.current.rows ∧ column < bench.current.columns) → ∃ fault,
      bench.step width cell (.put row column value) = (bench, .error (.fault fault))
  /-- A copy that was put aside does not change with the current grid. -/
  copied : ∀ later, (∀ input ∈ later, input.KeepsSaved) →
    (bench.steps width cell (.save :: later)).1.saved = bench.current
  /-- What was exchanged twice is as it was. -/
  exchanged : (bench.steps width cell [.swap, .swap]).1 = bench
  /-- The grids are equal exactly when they have one shape and the same rows. -/
  compared : ∃ same, bench.step width cell .compare = (bench, .ok (.same same)) ∧
    (same = true ↔ bench.current.rows = bench.saved.rows ∧
      bench.current.columns = bench.saved.columns ∧
        ∀ row < bench.current.rows, bench.current.row row = bench.saved.row row)

/-- Where both grids can be counted, steps do what the shape of the current grid says. -/
theorem Counted.orderly (counted : bench.Counted) : bench.Orderly width cell where
  failed := fun input failure => step_error width cell bench input failure
  blanked := by
    intro rows columns storable
    let grid : Grid α :=
      ⟨rows, columns, Array.replicate (rows * columns) cell, Array.size_replicate⟩
    have made : Grid.blank width rows columns cell = .ok grid :=
      (Grid.blank_eq_ok_iff width rows columns cell).mpr ⟨storable, rfl, rfl, rfl⟩
    exact ⟨grid, by rw [Workbench.step, made]; rfl, rfl, rfl,
      Grid.row_of_blank width rows columns cell made⟩
  unstored := by
    intro rows columns large
    rw [Workbench.step, Grid.blank_of_not_storable width rows columns cell large]
    rfl
  taken := by
    intro rows columns cells addressable exact
    let grid : Grid α := ⟨rows, columns, cells, exact⟩
    have made : Grid.ofCells rows columns cells = .ok grid :=
      (Grid.ofCells_eq_ok_iff rows columns cells grid addressable).mpr ⟨rfl, rfl, rfl⟩
    have joined := (Grid.counted_of_ofCells rows columns cells made).firstRows_rows
    exact ⟨grid, by rw [Workbench.step, made]; rfl, rfl, rfl, joined⟩
  refused := by
    intro rows columns cells differs
    rw [Workbench.step, Grid.ofCells_of_size_ne rows columns cells differs]
    rfl
  reads := by
    intro row present
    have found := (counted.current.row_eq_ok_iff row _).mpr ⟨present, rfl⟩
    exact ⟨_, bench.current.size_row row _ found, found, by rw [Workbench.step, found]; rfl⟩
  fills := by
    intro row value present
    have reached := (counted.current.reaches_iff_hasRow row).mpr present
    obtain ⟨written, made⟩ := (bench.current.exists_fillRow_iff row value).mpr reached
    have changed := bench.current.written_of_fillRow written row value made
    refine ⟨written, changed, ?_⟩
    rw [Workbench.step, made, ← changed.rows, ← changed.columns]
    rfl
  rowless := by
    intro row absent
    -- reading and filling both end where the row is not located
    have unlocated : ¬ ∃ first, bench.current.locate row = .ok first := by
      rintro ⟨first, located⟩
      have reached := ((bench.current.locate_eq_ok_iff row first).mp located).1
      exact absent ((counted.current.reaches_iff_hasRow row).mp reached)
    obtain ⟨fault, located⟩ := exists_error_of_not_ok _ unlocated
    refine ⟨fault, ?_, fun value => ?_⟩
    · rw [Workbench.step, Grid.row, located]
      rfl
    · rw [Workbench.step, Grid.fillRow, located]
      rfl
  puts := by
    intro row column value inside columnInside
    have reached := (counted.current.reaches_iff_hasRow row).mpr (.inr inside)
    obtain ⟨written, made⟩ :=
      (bench.current.exists_put_iff row column value).mpr ⟨reached, columnInside⟩
    have changed := bench.current.written_of_put written row column value made
    refine ⟨_, written, (bench.current.row_eq_ok_iff row _).mpr ⟨reached, rfl⟩, changed, ?_⟩
    rw [Workbench.step, made, ← changed.rows, ← changed.columns]
    rfl
  cellless := by
    intro row column value outside
    cases left : bench.current.put row column value with
    | done written =>
      have stored := (bench.current.exists_put_iff row column value).mp ⟨written, left⟩
      rw [counted.current.reaches_iff_hasRow] at stored
      rcases stored with ⟨none | inside, columnInside⟩
      · omega
      · exact absurd ⟨inside, columnInside⟩ outside
    | stopped fault kept =>
      obtain rfl := bench.current.put_stopped kept row column value fault left
      exact ⟨fault, by rw [Workbench.step, left]; rfl⟩
  copied := fun later keep => saved_steps width cell _ later keep
  exchanged := rfl
  compared := by
    refine ⟨_, rfl, ?_⟩
    rw [beq_iff_eq, counted.current.eq_iff_rows counted.saved]

/-- Rectangular arrays keep their shape over any run of steps. Wherever steps lead from the empty
workbench, each grid has the rows of its shape, which are its cells in order and make it again;
and the next step succeeds exactly where the shape of the current grid admits it, shows in one
row, in no copy that was put aside, and nowhere when it fails. -/
theorem grids_keep_shape (inputs : List (GridStep α)) :
    let bench := (empty.steps width cell inputs).1
    bench.current.Rectangular ∧ bench.saved.Rectangular ∧ bench.Orderly width cell := by
  have counted := counted_steps width cell inputs
  exact ⟨counted.current.rectangular, counted.saved.rectangular, counted.orderly width cell⟩

/-- A copy of two rows outlasts two writes, three failures and a grid of five empty rows, of which
any other row can be read as well. -/
theorem copiedRows_keep_shape :
    let bench := (empty.steps 1 0 [.ofCells 2 3 #[1, 2, 3, 4, 5, 6]]).1
    let later : List (GridStep Int) := [.fill 1 9, .put 0 2 7, .put 1 3 8, .ofCells 2 3 #[1],
      .ofCells 9223372036854775808 2 #[], .ofCells 5 0 #[], .read 18446744073709551615, .compare]
    (∀ input ∈ later, input.KeepsSaved) ∧
      (bench.steps 1 0 (.save :: later)).2 = [.ok (.shape 2 3), .ok (.shape 2 3), .ok (.shape 2 3),
        .error (.fault .outOfBounds), .error (.rejected (.noiseShape 2 3 1)),
        .error (.fault .overflow), .ok (.shape 5 0), .ok (.cells #[]), .ok (.same false)] ∧
      (bench.steps 1 0 (.save :: later)).1.saved = bench.current ∧
        bench.current.firstRows 2 = .ok #[1, 2, 3, 4, 5, 6] := by
  intro bench later
  have keep : ∀ input ∈ later, input.KeepsSaved := by simp [later, GridStep.KeepsSaved]
  obtain ⟨rectangular, _, orderly⟩ :=
    grids_keep_shape 1 0 [GridStep.ofCells 2 3 #[(1 : Int), 2, 3, 4, 5, 6]]
  exact ⟨keep, rfl, orderly.copied later keep, rectangular.joined⟩

end Workbench

end GrainSynthesis
