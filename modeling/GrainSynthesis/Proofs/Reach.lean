import GrainSynthesis.Grid
import GrainSynthesis.Raster

/-!
# Which rows are found, and what they hold

The checked arithmetic that finds a row of a raster or of a grid is summed up in
one condition, `Reaches`, and the row that is found in one array, `window`. Both
equivalences are exact: nothing is assumed of the sizes, so they speak of
refusals as well.

`Holds` relates an array to the values that it stands for. Everything that is
computed from a row is stated in terms of those values.
-/

namespace GrainSynthesis

/-- A computation in steps succeeds exactly when each step does. -/
theorem bind_eq_ok_iff {ε α β : Type} (first : Except ε α) (next : α → Except ε β) (result : β) :
    first >>= next = .ok result ↔ ∃ found, first = .ok found ∧ next found = .ok result := by
  cases first <;> simp [bind, Except.bind]

/-- Two checks in a row are passed exactly when each of them is. -/
theorem check_then_eq_ok_iff {ε : Type} (check next : Except ε Unit) :
    (check >>= fun _ => next) = .ok () ↔ check = .ok () ∧ next = .ok () := by
  cases check <;> simp [bind, Except.bind]

/-- An array of some length that holds a value for each position. -/
structure Holds {α : Type} (cells : Array α) (length : Nat) (value : Nat → α) : Prop where
  size : cells.size = length
  element : ∀ position < length, cells[position]? = some (value position)

/-- The elements of a row that holds values are found. -/
theorem Holds.elementAt {α : Type} {cells : Array α} {length : Nat} {value : Nat → α}
    (holds : Holds cells length value) (position : Nat) (inside : position < length) :
    elementAt cells position = .ok (value position) := by
  simp [GrainSynthesis.elementAt, holds.element position inside]

/-- Part of an array holds the elements of that part. -/
theorem holds_extract {α : Type} [Inhabited α] (cells : Array α) (first length : Nat)
    (inside : first + length ≤ cells.size) :
    Holds (cells.extract first (first + length)) length
      fun position => cells.getD (first + position) default := by
  refine ⟨by simp only [Array.size_extract]; omega, ?_⟩
  intro position below
  have stored : first + position < cells.size := by omega
  rw [Array.getElem?_extract_of_lt (by omega)]
  simp [Array.getD, stored]

namespace Layout

/-- The element at which a row begins. -/
def first (layout : Layout) (row : Nat) : Nat := layout.origin + row * layout.stride

/-- The window of `length` elements of a row can be counted and ends inside a buffer
of `size` elements. -/
def Reaches (layout : Layout) (size row length : Nat) : Prop :=
  row * layout.stride + length < Word.sizeLimit ∧
    layout.origin + (row * layout.stride + length) ≤ size

/-- A window is found exactly when the layout reaches it. -/
theorem locate_eq_ok_iff_reaches (layout : Layout) (size row length start : Nat) :
    layout.locate size row length = .ok start ↔
      layout.Reaches size row length ∧ start = layout.first row := by
  rw [locate, Reaches, first]
  simp only [bind_eq_ok_iff, Word.size_eq_ok_iff]
  constructor
  · rintro ⟨_, ⟨_, rfl⟩, _, ⟨counted, rfl⟩, found⟩
    by_cases inside : layout.origin + (row * layout.stride + length) ≤ size
    · simp only [inside, if_true, Except.ok.injEq] at found
      exact ⟨⟨counted, inside⟩, found.symm⟩
    · simp [inside] at found
  · rintro ⟨⟨counted, inside⟩, rfl⟩
    exact ⟨_, ⟨by omega, rfl⟩, _, ⟨counted, rfl⟩, by rw [if_pos inside]⟩

/-- A window that is reached ends inside the buffer. -/
theorem Reaches.first_add_le {layout : Layout} {size row length : Nat}
    (reached : layout.Reaches size row length) : layout.first row + length ≤ size := by
  rw [first, Nat.add_assoc]
  exact reached.2

/-- A buffer that can be counted is reached wherever a window ends inside it. -/
theorem reaches_of_addressable (layout : Layout) (size row length : Nat)
    (addressable : size < Word.sizeLimit)
    (inside : layout.origin + (row * layout.stride + length) ≤ size) :
    layout.Reaches size row length :=
  ⟨by omega, inside⟩

/-- With rows at least as far apart as they are long, an element lies in one row at
one column. -/
theorem row_unique (layout : Layout) (width row column otherRow otherColumn : Nat)
    (apart : width ≤ layout.stride) (inside : column < width) (otherInside : otherColumn < width)
    (same : layout.first row + column = layout.first otherRow + otherColumn) :
    row = otherRow ∧ column = otherColumn := by
  unfold first at same
  have equal : column + layout.stride * row = otherColumn + layout.stride * otherRow := by
    rw [Nat.mul_comm layout.stride row, Nat.mul_comm layout.stride otherRow]
    omega
  have positive : 0 < layout.stride := by omega
  have below : column < layout.stride := by omega
  have otherBelow : otherColumn < layout.stride := by omega
  have quotient := congrArg (· / layout.stride) equal
  simp only [Nat.add_mul_div_left _ _ positive, Nat.div_eq_of_lt below,
    Nat.div_eq_of_lt otherBelow, Nat.zero_add] at quotient
  subst quotient
  exact ⟨rfl, by omega⟩

end Layout

namespace Raster

variable {α : Type}

/-- The elements of a row's window. -/
def window (raster : Raster α) (row length : Nat) : Array α :=
  raster.samples.extract (raster.layout.first row) (raster.layout.first row + length)

/-- The element at a column of a row; a default past the buffer. -/
def value [Inhabited α] (raster : Raster α) (row column : Nat) : α :=
  raster.samples.getD (raster.layout.first row + column) default

/-- A row is read exactly when its window is reached. -/
theorem row_eq_ok_iff (raster : Raster α) (row length : Nat) (cells : Array α) :
    raster.row row length = .ok cells ↔
      raster.layout.Reaches raster.samples.size row length ∧ cells = raster.window row length := by
  rw [Raster.row, locate]
  simp only [bind_eq_ok_iff, Layout.locate_eq_ok_iff_reaches, pure, Except.pure, Except.ok.injEq]
  constructor
  · rintro ⟨_, ⟨reached, rfl⟩, rfl⟩
    exact ⟨reached, rfl⟩
  · rintro ⟨reached, rfl⟩
    exact ⟨_, ⟨reached, rfl⟩, rfl⟩

/-- A window that is reached holds the elements of its row. -/
theorem window_holds [Inhabited α] (raster : Raster α) (row length : Nat)
    (reached : raster.layout.Reaches raster.samples.size row length) :
    Holds (raster.window row length) length (raster.value row) := by
  apply holds_extract raster.samples (raster.layout.first row) length
  have inside := reached.2
  rw [Layout.first]
  omega

/-- The elements of a row that is reached are stored. -/
theorem getElem?_of_reaches [Inhabited α] (raster : Raster α) (row length column : Nat)
    (reached : raster.layout.Reaches raster.samples.size row length) (inside : column < length) :
    raster.samples[raster.layout.first row + column]? = some (raster.value row column) := by
  have stored : raster.layout.first row + column < raster.samples.size := by
    have ends := reached.2
    rw [Layout.first]
    omega
  rw [value, Array.getD_eq_getD_getElem?, Array.getElem?_eq_getElem stored]
  rfl

/-- Whatever is true of all elements of a buffer is true of a row that is reached. -/
theorem value_of_forall [Inhabited α] (raster : Raster α) (kept : α → Prop)
    (every : ∀ element ∈ raster.samples, kept element) (row length column : Nat)
    (reached : raster.layout.Reaches raster.samples.size row length) (inside : column < length) :
    kept (raster.value row column) :=
  every _ (Array.mem_of_getElem? (raster.getElem?_of_reaches row length column reached inside))

end Raster

namespace Grid

variable {α : Type}

/-- A row has at least `length` cells, its beginning can be counted, and it lies in
the grid. -/
def Reaches (grid : Grid α) (row length : Nat) : Prop :=
  row * grid.columns < Word.sizeLimit ∧ row * grid.columns + grid.columns ≤ grid.cells.size ∧
    length ≤ grid.columns

/-- The first cells of a row. -/
def window (grid : Grid α) (row length : Nat) : Array α :=
  grid.cells.extract (row * grid.columns) (row * grid.columns + length)

/-- The cell at a column of a row; a default outside the grid. -/
def value [Inhabited α] (grid : Grid α) (row column : Nat) : α :=
  grid.cells.getD (row * grid.columns + column) default

/-- A row begins at its number times the number of columns, exactly when all of it is reached. -/
theorem locate_eq_ok_iff (grid : Grid α) (row first : Nat) :
    grid.locate row = .ok first ↔
      grid.Reaches row grid.columns ∧ first = row * grid.columns := by
  rw [locate, Reaches]
  simp only [bind_eq_ok_iff, Word.size_eq_ok_iff]
  constructor
  · rintro ⟨_, ⟨counted, rfl⟩, located⟩
    by_cases inside : row * grid.columns + grid.columns ≤ grid.cells.size
    · rw [if_pos inside, Except.ok.injEq] at located
      exact ⟨⟨counted, inside, Nat.le_refl _⟩, located.symm⟩
    · rw [if_neg inside] at located
      cases located
  · rintro ⟨⟨counted, inside, _⟩, rfl⟩
    exact ⟨_, ⟨counted, rfl⟩, if_pos inside⟩

/-- A row is read exactly when all of it is reached. -/
theorem row_eq_ok_iff (grid : Grid α) (row : Nat) (cells : Array α) :
    grid.row row = .ok cells ↔
      grid.Reaches row grid.columns ∧ cells = grid.window row grid.columns := by
  simp only [Grid.row, window, bind_eq_ok_iff, locate_eq_ok_iff, pure, Except.pure,
    Except.ok.injEq]
  constructor
  · rintro ⟨_, ⟨reached, rfl⟩, rfl⟩
    exact ⟨reached, rfl⟩
  · rintro ⟨reached, rfl⟩
    exact ⟨_, ⟨reached, rfl⟩, rfl⟩

/-- The beginning of a row is read exactly when it is reached. -/
theorem rowStart_eq_ok_iff (grid : Grid α) (row length : Nat) (cells : Array α) :
    grid.rowStart row length = .ok cells ↔
      grid.Reaches row length ∧ cells = grid.window row length := by
  simp only [rowStart, bind_eq_ok_iff, row_eq_ok_iff]
  constructor
  · rintro ⟨_, ⟨⟨counted, inside, _⟩, rfl⟩, found⟩
    simp only [window, Array.size_extract] at found
    by_cases short : length ≤ grid.columns
    · rw [if_pos (by omega), Except.ok.injEq, Array.extract_extract] at found
      refine ⟨⟨counted, inside, short⟩, found.symm.trans ?_⟩
      congr 1
      omega
    · rw [if_neg (by omega)] at found
      cases found
  · rintro ⟨⟨counted, inside, short⟩, rfl⟩
    refine ⟨_, ⟨⟨counted, inside, Nat.le_refl _⟩, rfl⟩, ?_⟩
    simp only [window, Array.size_extract]
    rw [if_pos (by omega), Except.ok.injEq, Array.extract_extract]
    congr 1
    omega

/-- The beginning of a row that is reached holds the first cells of the row. -/
theorem window_holds [Inhabited α] (grid : Grid α) (row length : Nat)
    (reached : grid.Reaches row length) :
    Holds (grid.window row length) length (grid.value row) := by
  obtain ⟨_, inside, short⟩ := reached
  exact holds_extract grid.cells (row * grid.columns) length (by omega)

/-- Whatever is true of all cells is true of a row that is reached. -/
theorem value_of_forall [Inhabited α] (grid : Grid α) (kept : α → Prop)
    (every : ∀ cell ∈ grid.cells, kept cell) (row length column : Nat)
    (reached : grid.Reaches row length) (inside : column < length) :
    kept (grid.value row column) := by
  obtain ⟨_, ends, short⟩ := reached
  have stored : row * grid.columns + column < grid.cells.size := by omega
  have member := every _ (Array.getElem_mem stored)
  simpa [value, Array.getD, stored] using member

/-- A grid whose cells can be counted is reached in each of its rows. -/
theorem reaches_of_addressable (grid : Grid α) (row length : Nat)
    (addressable : grid.cells.size < Word.sizeLimit) (inside : row < grid.rows)
    (short : length ≤ grid.columns) : grid.Reaches row length := by
  have ends : row * grid.columns + grid.columns ≤ grid.cells.size := by
    rw [grid.shape, ← Nat.succ_mul]
    exact Nat.mul_le_mul_right grid.columns inside
  exact ⟨by omega, ends, short⟩

end Grid

end GrainSynthesis
