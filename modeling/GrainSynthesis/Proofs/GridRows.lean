import GrainSynthesis.Proofs.Reach

/-!
# The rows of a grid

Every way to a row goes through its position, and a grid whose cells can be counted finds the
position of exactly those rows that its shape has. Without columns these are all rows, and all are
empty. A write to a row replaces its cells and shows in no other row, since rows are as far apart
as they are long. Read one after the other, the rows are the cells of the grid again, so a grid is
known by its shape and its rows.
-/

namespace GrainSynthesis

namespace Grid

variable {α : Type} {grid other : Grid α}

/-- The shape has a row of this number. Rows without columns are all there. -/
def HasRow (grid : Grid α) (row : Nat) : Prop := grid.columns = 0 ∨ row < grid.rows

/-- The number of cells is a size. -/
def Counted (grid : Grid α) : Prop := grid.cells.size < Word.sizeLimit

/-- Of a grid that can be counted, the rows that its shape has are reached to their ends. -/
theorem Counted.reaches_iff_hasRow (counted : grid.Counted) (row : Nat) :
    grid.Reaches row grid.columns ↔ grid.HasRow row := by
  constructor
  · rintro ⟨_, ends, _⟩
    rw [grid.shape, ← Nat.succ_mul] at ends
    rcases Nat.eq_zero_or_pos grid.columns with none | some
    · exact .inl none
    · exact .inr (Nat.le_of_mul_le_mul_right ends some)
  · rintro (none | inside)
    · simp [Reaches, none, Word.sizeLimit]
    · exact grid.reaches_of_addressable row _ counted inside (Nat.le_refl _)

/-- Of a grid that can be counted, exactly the rows that its shape has are read. -/
theorem Counted.row_eq_ok_iff (counted : grid.Counted) (row : Nat) (cells : Array α) :
    grid.row row = .ok cells ↔ grid.HasRow row ∧ cells = grid.window row grid.columns := by
  rw [Grid.row_eq_ok_iff, counted.reaches_iff_hasRow]

/-- The cells of a row, one by one. -/
theorem getElem?_window (grid : Grid α) (row column : Nat) (reached : grid.Reaches row grid.columns)
    (inside : column < grid.columns) :
    (grid.window row grid.columns)[column]? = grid.cells[row * grid.columns + column]? := by
  obtain ⟨_, ends, _⟩ := reached
  rw [window, Array.getElem?_extract, if_pos (by omega)]

/-- A grid that differs from another at most in the cells of one row: in the row it has the given
cells, and its shape and its other rows are the same. -/
structure Written (grid written : Grid α) (row : Nat) (cells : Array α) : Prop where
  rows : written.rows = grid.rows
  columns : written.columns = grid.columns
  here : written.row row = .ok cells
  elsewhere : ∀ other, other ≠ row → written.row other = grid.row other

/-- A grid of the same shape has as many cells, so it can be counted as well. -/
theorem Written.counted {written : Grid α} {row : Nat} {cells : Array α}
    (changed : grid.Written written row cells) (counted : grid.Counted) : written.Counted := by
  rw [Counted, written.shape, changed.rows, changed.columns, ← grid.shape]
  exact counted

/-- Cells of different rows are at different positions, as in a layout whose rows touch. -/
theorem position_ne (columns row other column otherColumn : Nat) (different : other ≠ row)
    (inside : column < columns) (otherInside : otherColumn < columns) :
    other * columns + otherColumn ≠ row * columns + column := by
  intro same
  have touching := Layout.row_unique ⟨0, columns⟩ columns other otherColumn row column
    (Nat.le_refl _) otherInside inside
  simp only [Layout.first, Nat.zero_add] at touching
  exact different (touching same).1

/-- Grids of one shape that hold the same cells at the positions of a row have the same row, or
fail alike to find it. -/
theorem row_congr (grid written : Grid α) (row : Nat) (rows : written.rows = grid.rows)
    (columns : written.columns = grid.columns)
    (same : ∀ column < grid.columns, written.cells[row * grid.columns + column]? =
      grid.cells[row * grid.columns + column]?) :
    written.row row = grid.row row := by
  have size : written.cells.size = grid.cells.size := by
    rw [written.shape, grid.shape, rows, columns]
  have position : written.locate row = grid.locate row := by
    rw [locate, locate, columns, size]
  rw [Grid.row, Grid.row, position]
  -- where a row begins is a matter of the shape, so a fault is the same one
  cases located : grid.locate row with
  | error fault => rfl
  | ok first =>
    obtain ⟨⟨_, ends, _⟩, rfl⟩ := (grid.locate_eq_ok_iff row first).mp located
    have cells : written.cells.extract (row * grid.columns) (row * grid.columns + grid.columns) =
        grid.cells.extract (row * grid.columns) (row * grid.columns + grid.columns) := by
      refine Array.ext_getElem? fun column => ?_
      rw [Array.getElem?_extract, Array.getElem?_extract, size]
      split
      · exact same column (by omega)
      · rfl
    simp only [bind, Except.bind, columns, cells]

/-- Cells that are replaced at the positions of one row show in no other row. -/
theorem written_withCells (grid : Grid α) (changed : Array α)
    (shape : changed.size = grid.rows * grid.columns) (row : Nat) (cells : Array α)
    (reached : grid.Reaches row grid.columns) (long : cells.size = grid.columns)
    (here : ∀ column < grid.columns, changed[row * grid.columns + column]? = cells[column]?)
    (elsewhere : ∀ index, (∀ column < grid.columns, index ≠ row * grid.columns + column) →
      changed[index]? = grid.cells[index]?) :
    grid.Written ⟨grid.rows, grid.columns, changed, shape⟩ row cells where
  rows := rfl
  columns := rfl
  here := by
    obtain ⟨counted, ends, _⟩ := reached
    have found : Reaches ⟨grid.rows, grid.columns, changed, shape⟩ row grid.columns :=
      ⟨counted, (shape.trans grid.shape.symm) ▸ ends, Nat.le_refl _⟩
    refine (row_eq_ok_iff _ row cells).mpr ⟨found, Array.ext_getElem? fun column => ?_⟩
    by_cases inside : column < grid.columns
    · rw [getElem?_window _ row column found inside, here column inside]
    · simp only [window, Array.getElem?_extract]
      rw [if_neg (by omega), Array.getElem?_eq_none (by omega)]
  elsewhere := by
    intro other different
    refine row_congr grid _ other rfl rfl fun otherColumn otherInside => ?_
    exact elsewhere _ fun column inside =>
      position_ne _ row other column otherColumn different inside otherInside

/-- Filling gives consecutive cells one value, and leaves the others as they are. -/
theorem getElem?_fillCells (cell : α) (start count : Nat) (cells : Array α) (index : Nat) :
    (fillCells cell start count cells)[index]? =
      if start ≤ index ∧ index < start + count ∧ index < cells.size then some cell
      else cells[index]? := by
  induction count generalizing start cells with
  | zero => rw [fillCells, if_neg (by omega)]
  | succ count inductionHypothesis =>
    rw [fillCells, inductionHypothesis, Array.size_setIfInBounds, Array.getElem?_setIfInBounds]
    -- the cells after the first do not include it, so the two ways to be written exclude each other
    by_cases first : start = index
    · by_cases stored : index < cells.size
      · rw [if_neg (by omega), if_pos first, if_pos (first ▸ stored), if_pos (by omega)]
      · rw [if_neg (by omega), if_pos first, if_neg (first ▸ stored), if_neg (by omega),
          Array.getElem?_eq_none (by omega)]
    · rw [if_neg first]
      congr 1
      exact propext (by omega)

/-- A row that is not located is not reached. -/
theorem not_reaches_of_locate (grid : Grid α) (row : Nat) (fault : Fault)
    (missed : grid.locate row = .error fault) : ¬ grid.Reaches row grid.columns := by
  intro reached
  cases missed.symm.trans ((grid.locate_eq_ok_iff row _).mpr ⟨reached, rfl⟩)

/-- A row can be filled exactly when it can be read. -/
theorem exists_fillRow_iff (grid : Grid α) (row : Nat) (cell : α) :
    (∃ written, grid.fillRow row cell = .done written) ↔ grid.Reaches row grid.columns := by
  rw [fillRow]
  cases located : grid.locate row with
  | ok first => simp [((grid.locate_eq_ok_iff row first).mp located).1]
  | error fault => simp [grid.not_reaches_of_locate row fault located]

/-- A filled row holds as many cells of the value as there are columns. -/
theorem written_of_fillRow (grid written : Grid α) (row : Nat) (cell : α)
    (filled : grid.fillRow row cell = .done written) :
    grid.Written written row (Array.replicate grid.columns cell) := by
  have reached := (grid.exists_fillRow_iff row cell).mp ⟨written, filled⟩
  simp only [fillRow, (grid.locate_eq_ok_iff row _).mpr ⟨reached, rfl⟩, Run.done.injEq] at filled
  subst filled
  have ends := reached.2.1
  apply grid.written_withCells _ _ row _ reached Array.size_replicate
  · intro column inside
    rw [getElem?_fillCells, if_pos (by omega), Array.getElem?_replicate, if_pos inside]
  · intro index outside
    have apart : ¬ (row * grid.columns ≤ index ∧ index < row * grid.columns + grid.columns ∧
        index < grid.cells.size) := by
      rintro ⟨above, below, _⟩
      exact outside (index - row * grid.columns) (by omega) (by omega)
    rw [getElem?_fillCells, if_neg apart]

/-- A cell can be written exactly where a row that can be read has a column. -/
theorem exists_put_iff (grid : Grid α) (row column : Nat) (cell : α) :
    (∃ written, grid.put row column cell = .done written) ↔
      grid.Reaches row grid.columns ∧ column < grid.columns := by
  rw [put]
  cases located : grid.locate row with
  | ok first =>
    have reached := ((grid.locate_eq_ok_iff row first).mp located).1
    by_cases inside : column < grid.columns <;> simp [reached, inside]
  | error fault => simp [grid.not_reaches_of_locate row fault located]

/-- A row with a written cell is the row before with that cell replaced. -/
theorem written_of_put (grid written : Grid α) (row column : Nat) (cell : α)
    (stored : grid.put row column cell = .done written) :
    grid.Written written row ((grid.window row grid.columns).setIfInBounds column cell) := by
  obtain ⟨reached, inside⟩ := (grid.exists_put_iff row column cell).mp ⟨written, stored⟩
  simp only [put, (grid.locate_eq_ok_iff row _).mpr ⟨reached, rfl⟩, if_pos inside,
    Run.done.injEq] at stored
  subst stored
  have ends := reached.2.1
  have long : (grid.window row grid.columns).size = grid.columns := by
    rw [window, Array.size_extract]
    omega
  apply grid.written_withCells _ _ row _ reached (Array.size_setIfInBounds.trans long)
  · intro other otherInside
    rw [Array.getElem?_setIfInBounds, Array.getElem?_setIfInBounds, long,
      grid.getElem?_window row other reached otherInside, if_pos inside,
      if_pos (by omega : row * grid.columns + column < grid.cells.size)]
    simp only [Nat.add_left_cancel_iff]
  · intro index outside
    rw [Array.getElem?_setIfInBounds, if_neg (outside column inside).symm]

/-- The first rows of a grid, one after the other. -/
def firstRows (grid : Grid α) : (count : Nat) → Except Fault (Array α)
  | 0 => .ok #[]
  | count + 1 => do
    let before ← grid.firstRows count
    let cells ← grid.row count
    return before ++ cells

/-- The first rows of a grid are its first cells. -/
theorem Counted.firstRows_eq (counted : grid.Counted) (count : Nat) (inside : count ≤ grid.rows) :
    grid.firstRows count = .ok (grid.cells.extract 0 (count * grid.columns)) := by
  induction count with
  | zero => simp [firstRows]
  | succ count inductionHypothesis =>
    have found := (counted.row_eq_ok_iff count _).mpr ⟨.inr inside, rfl⟩
    simp only [firstRows, inductionHypothesis (by omega), found, window, bind, Except.bind, pure,
      Except.pure, Array.extract_append_extract]
    rw [Nat.succ_mul, Nat.min_eq_left (Nat.zero_le _), Nat.max_eq_right (Nat.le_add_right _ _)]

/-- All rows of a grid, one after the other, are its cells. -/
theorem Counted.firstRows_rows (counted : grid.Counted) :
    grid.firstRows grid.rows = .ok grid.cells := by
  rw [counted.firstRows_eq grid.rows (Nat.le_refl _), ← grid.shape, Array.extract_size]

/-- The first rows depend on these rows only. -/
theorem firstRows_congr (grid other : Grid α) (count : Nat)
    (same : ∀ row < count, grid.row row = other.row row) :
    grid.firstRows count = other.firstRows count := by
  induction count with
  | zero => rfl
  | succ count inductionHypothesis =>
    rw [firstRows, firstRows, inductionHypothesis fun row below => same row (by omega),
      same count (Nat.lt_succ_self count)]

/-- Grids that can be counted are equal exactly when they have one shape and the same rows. -/
theorem Counted.eq_iff_rows (counted : grid.Counted) (otherCounted : other.Counted) :
    grid = other ↔ grid.rows = other.rows ∧ grid.columns = other.columns ∧
      ∀ row < grid.rows, grid.row row = other.row row := by
  constructor
  · rintro rfl
    exact ⟨rfl, rfl, fun _ _ => rfl⟩
  · rintro ⟨rows, columns, same⟩
    have joined := firstRows_congr grid other grid.rows same
    rw [counted.firstRows_rows, rows, otherCounted.firstRows_rows, Except.ok.injEq] at joined
    obtain ⟨_, _, _, _⟩ := grid
    obtain ⟨_, _, _, _⟩ := other
    cases rows
    cases columns
    cases joined
    rfl

/-- A blank grid can be stored: its cells can be counted, and their bytes fit into one buffer. -/
def Storable (width rows columns : Nat) : Prop :=
  rows * columns < Word.sizeLimit ∧ rows * columns * width ≤ storageLimit

/-- A blank grid is made exactly when it can be stored. -/
theorem blank_eq_ok_iff (width rows columns : Nat) (cell : α) :
    blank width rows columns cell = .ok grid ↔ Storable width rows columns ∧
      grid.rows = rows ∧ grid.columns = columns ∧
        grid.cells = Array.replicate (rows * columns) cell := by
  obtain ⟨gridRows, gridColumns, cells, shape⟩ := grid
  simp only [blank, Storable, bind_eq_ok_iff, Word.size_eq_ok_iff]
  constructor
  · rintro ⟨_, ⟨counted, rfl⟩, made⟩
    by_cases stored : rows * columns * width ≤ storageLimit
    · rw [if_pos stored] at made
      cases made
      exact ⟨⟨counted, stored⟩, rfl, rfl, rfl⟩
    · rw [if_neg stored] at made
      cases made
  · rintro ⟨⟨counted, stored⟩, rfl, rfl, rfl⟩
    exact ⟨_, ⟨counted, rfl⟩, if_pos stored⟩

/-- A blank grid that cannot be stored is an overflow. -/
theorem blank_of_not_storable (width rows columns : Nat) (cell : α)
    (large : ¬ Storable width rows columns) :
    blank width rows columns cell = .error .overflow := by
  by_cases counted : rows * columns < Word.sizeLimit
  · have unstored : ¬ rows * columns * width ≤ storageLimit := fun stored => large ⟨counted, stored⟩
    simp [blank, Word.size, counted, unstored, bind, Except.bind]
  · simp [blank, Word.size, counted, bind, Except.bind]

/-- A blank grid that is made can be counted. -/
theorem counted_of_blank (width rows columns : Nat) (cell : α)
    (made : blank width rows columns cell = .ok grid) : grid.Counted := by
  obtain ⟨⟨counted, _⟩, rfl, rfl, _⟩ := (blank_eq_ok_iff width rows columns cell).mp made
  rw [Counted, grid.shape]
  exact counted

/-- Every row of a blank grid is blank. -/
theorem row_of_blank (width rows columns : Nat) (cell : α)
    (made : blank width rows columns cell = .ok grid) (row : Nat) (present : grid.HasRow row) :
    grid.row row = .ok (Array.replicate columns cell) := by
  have counted := counted_of_blank width rows columns cell made
  obtain ⟨_, rfl, rfl, cells⟩ := (blank_eq_ok_iff width rows columns cell).mp made
  have ends := ((counted.reaches_iff_hasRow row).mpr present).2.1
  rw [grid.shape] at ends
  refine (counted.row_eq_ok_iff row _).mpr ⟨present, ?_⟩
  rw [window, cells, Array.extract_replicate]
  congr 1
  omega

/-- A grid that is made of given cells can be counted. -/
theorem counted_of_ofCells (rows columns : Nat) (cells : Array α)
    (made : ofCells rows columns cells = .ok grid) : grid.Counted := by
  unfold ofCells at made
  split at made
  · cases made
  · rename_i counted
    split at made
    · rename_i shape
      rw [← Except.ok.inj made, Counted, shape]
      exact ((Word.size_eq_ok_iff _ _).mp counted).1
    · cases made

/-- Cells that are not as many as the shape says are refused with the three numbers, and cells of a
shape that cannot be counted are an overflow. -/
theorem ofCells_of_size_ne (rows columns : Nat) (cells : Array α)
    (differs : cells.size ≠ rows * columns) :
    ofCells rows columns cells = .error
      (if rows * columns < Word.sizeLimit then .rejected (.noiseShape rows columns cells.size)
        else .fault .overflow) := by
  by_cases fits : rows * columns < Word.sizeLimit <;> simp [ofCells, Word.size, fits, differs]

/-- What a rectangular array is to its readers: it has the rows that its shape says, all of them as
long as it says, and they are its cells in order, from which it can be made again. -/
structure Rectangular (grid : Grid α) : Prop where
  shape : grid.cells.size = grid.rows * grid.columns
  found : ∀ row, (∃ cells, grid.row row = .ok cells) ↔ grid.HasRow row
  long : ∀ row cells, grid.row row = .ok cells → cells.size = grid.columns
  joined : grid.firstRows grid.rows = .ok grid.cells
  remade : ofCells grid.rows grid.columns grid.cells = .ok grid

/-- A grid that can be counted is rectangular. -/
theorem Counted.rectangular (counted : grid.Counted) : grid.Rectangular where
  shape := grid.shape
  found := fun row => by
    simp only [counted.row_eq_ok_iff, exists_and_left, exists_eq, and_true]
  long := fun row cells => grid.size_row row cells
  joined := counted.firstRows_rows
  remade := (ofCells_eq_ok_iff _ _ _ _ counted).mpr ⟨rfl, rfl, rfl⟩

end Grid

end GrainSynthesis
