import GrainSynthesis.Arithmetic
import GrainSynthesis.Run

/-!
# Rectangular arrays

A grid stores its rows one after the other and knows how many there are and how
long they are. The number of cells is always rows times columns: every way to
make a grid checks it, and no write changes it.

A row is found in checked arithmetic. With no columns every row exists and is
empty, whatever its number, as long as its position can be counted.
-/

namespace GrainSynthesis

/-- Rows of equal length, stored in order. -/
structure Grid (α : Type) where
  /-- How many rows there are. -/
  rows : Nat
  /-- How long each row is. -/
  columns : Nat
  /-- The rows, one after the other. -/
  cells : Array α
  /-- There are as many cells as the shape says. -/
  shape : cells.size = rows * columns
  deriving DecidableEq

namespace Grid

variable {α : Type}

/-- The grid without rows and columns. -/
def empty : Grid α := ⟨0, 0, #[], rfl⟩

instance : Inhabited (Grid α) := ⟨empty⟩

/-- The most bytes that one buffer can take. -/
def storageLimit : Nat := 9223372036854775807

/-- A grid of equal cells, each of them `width` bytes long. -/
def blank (width rows columns : Nat) (cell : α) : Except Fault (Grid α) := do
  let count ← Word.size (rows * columns)
  if count * width ≤ storageLimit then
    .ok ⟨rows, columns, Array.replicate (rows * columns) cell, Array.size_replicate⟩
  else
    .error .overflow

/-- The grid of given cells, which have to be as many as the shape says. -/
def ofCells (rows columns : Nat) (cells : Array α) : Except Failure (Grid α) :=
  match Word.size (rows * columns) with
  | .error fault => .error (.fault fault)
  | .ok _ =>
    if shape : cells.size = rows * columns then
      .ok ⟨rows, columns, cells, shape⟩
    else
      .error (.rejected (.noiseShape rows columns cells.size))

/-- The cell at which a row begins. -/
def locate (grid : Grid α) (row : Nat) : Except Fault Nat := do
  let first ← Word.size (row * grid.columns)
  if first + grid.columns ≤ grid.cells.size then .ok first else .error .outOfBounds

/-- The cells of a row. -/
def row (grid : Grid α) (row : Nat) : Except Fault (Array α) := do
  let first ← grid.locate row
  return grid.cells.extract first (first + grid.columns)

/-- The first cells of a row, which has to be long enough. -/
def rowStart (grid : Grid α) (row length : Nat) : Except Fault (Array α) := do
  let cells ← grid.row row
  if length ≤ cells.size then .ok (cells.extract 0 length) else .error .outOfBounds

/-- Give `count` consecutive cells from `start` on one value. -/
def fillCells (cell : α) (start : Nat) : (count : Nat) → Array α → Array α
  | 0, cells => cells
  | count + 1, cells => fillCells cell (start + 1) count (cells.setIfInBounds start cell)

/-- Filling keeps the number of cells. -/
theorem size_fillCells (cell : α) (start count : Nat) (cells : Array α) :
    (fillCells cell start count cells).size = cells.size := by
  induction count generalizing start cells with
  | zero => rfl
  | succ count inductionHypothesis => simp [fillCells, inductionHypothesis]

/-- Give every cell of a row one value. -/
def fillRow (grid : Grid α) (row : Nat) (cell : α) : Run (Grid α) :=
  match grid.locate row with
  | .ok first => .done { grid with
      cells := fillCells cell first grid.columns grid.cells
      shape := (size_fillCells cell first grid.columns grid.cells).trans grid.shape }
  | .error fault => .stopped fault grid

/-- Give one cell of a row a value. -/
def put (grid : Grid α) (row column : Nat) (cell : α) : Run (Grid α) :=
  match grid.locate row with
  | .ok first =>
    if column < grid.columns then
      .done { grid with
        cells := grid.cells.setIfInBounds (first + column) cell
        shape := Array.size_setIfInBounds.trans grid.shape }
    else
      .stopped .outOfBounds grid
  | .error fault => .stopped fault grid

/-- A row that could not be filled is as it was, and so is the rest of the grid. -/
theorem fillRow_stopped (grid left : Grid α) (row : Nat) (cell : α) (fault : Fault)
    (stopped : grid.fillRow row cell = .stopped fault left) : left = grid := by
  unfold fillRow at stopped
  split at stopped
  · cases stopped
  · cases stopped
    rfl

/-- A cell that could not be written is as it was, and so is the rest of the grid. -/
theorem put_stopped (grid left : Grid α) (row column : Nat) (cell : α) (fault : Fault)
    (stopped : grid.put row column cell = .stopped fault left) : left = grid := by
  unfold put at stopped
  split at stopped
  · split at stopped
    · cases stopped
    · cases stopped
      rfl
  · cases stopped
    rfl

/-- Cells make a grid exactly when there are as many as the shape says and their
number can be counted. -/
theorem ofCells_eq_ok_iff (rows columns : Nat) (cells : Array α) (grid : Grid α)
    (addressable : cells.size < Word.sizeLimit) :
    ofCells rows columns cells = .ok grid ↔
      grid.rows = rows ∧ grid.columns = columns ∧ grid.cells = cells := by
  obtain ⟨gridRows, gridColumns, gridCells, shape⟩ := grid
  by_cases fits : rows * columns < Word.sizeLimit
  · by_cases same : cells.size = rows * columns
    · simp [ofCells, Word.size, fits, same, eq_comm]
    · simp only [ofCells, Word.size, fits, same, if_true, dif_neg, not_false_iff]
      constructor
      · intro impossible
        cases impossible
      · rintro ⟨rfl, rfl, rfl⟩
        exact absurd shape same
  · simp only [ofCells, Word.size, fits, if_false]
    constructor
    · intro impossible
      cases impossible
    · rintro ⟨rfl, rfl, rfl⟩
      exact absurd (shape ▸ addressable) fits

/-- A row that was found has exactly as many cells as the grid has columns. -/
theorem size_row (grid : Grid α) (number : Nat) (cells : Array α)
    (found : grid.row number = .ok cells) : cells.size = grid.columns := by
  unfold row locate at found
  by_cases fits : number * grid.columns < Word.sizeLimit
  · by_cases inside : number * grid.columns + grid.columns ≤ grid.cells.size
    · simp [Word.size, fits, inside, bind, Except.bind, pure, Except.pure] at found
      subst found
      simp only [Array.size_extract]
      omega
    · simp [Word.size, fits, inside, bind, Except.bind] at found
  · simp [Word.size, fits, bind, Except.bind] at found

end Grid

end GrainSynthesis
