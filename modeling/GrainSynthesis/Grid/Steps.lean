import GrainSynthesis.Grid
import GrainSynthesis.Steps

/-!
# Working on a grid in steps

A workbench holds two grids, the one that steps act on and one that was put
aside. Both begin empty. A step that fails is answered by its failure and leaves
both grids as they were.
-/

namespace GrainSynthesis

/-- The grid at work and the grid that was put aside. -/
structure Workbench (α : Type) where
  current : Grid α
  saved : Grid α
  deriving DecidableEq

/-- One step on a workbench. -/
inductive GridStep (α : Type) where
  /-- Begin again with a blank grid. -/
  | blank (rows columns : Nat)
  /-- Begin again with given cells. -/
  | ofCells (rows columns : Nat) (cells : Array α)
  /-- Read a row. -/
  | read (row : Nat)
  /-- Give a whole row one value. -/
  | fill (row : Nat) (cell : α)
  /-- Give one cell of a row a value. -/
  | put (row column : Nat) (cell : α)
  /-- Put a copy of the current grid aside. -/
  | save
  /-- Exchange the two grids. -/
  | swap
  /-- Compare the two grids. -/
  | compare
  /-- Ask for the shape of the current grid. -/
  | shape
  deriving DecidableEq, Repr

/-- What a step on a workbench answers. -/
inductive GridAnswer (α : Type) where
  | cells (cells : Array α)
  | same (same : Bool)
  | shape (rows columns : Nat)
  deriving DecidableEq, Repr

namespace Workbench

variable {α : Type}

/-- Both grids are empty. -/
def empty : Workbench α := ⟨.empty, .empty⟩

/-- Answer with the shape of the current grid. -/
def answerShape (bench : Workbench α) : Workbench α × Except Failure (GridAnswer α) :=
  (bench, .ok (.shape bench.current.rows bench.current.columns))

/-- Take over a new current grid, or keep both grids if there is none. -/
def replace (bench : Workbench α) (made : Except Failure (Grid α)) :
    Workbench α × Except Failure (GridAnswer α) :=
  match made with
  | .ok grid => answerShape { bench with current := grid }
  | .error failure => (bench, .error failure)

/-- Go on with the current grid as a write left it, finished or not. -/
def rewrite (bench : Workbench α) (written : Run (Grid α)) :
    Workbench α × Except Failure (GridAnswer α) :=
  match written with
  | .done grid => answerShape { bench with current := grid }
  | .stopped fault grid => ({ bench with current := grid }, .error (.fault fault))

/-- Take one step. Blank cells have the value `cell` and are `width` bytes long. -/
def step [DecidableEq α] (width : Nat) (cell : α) (bench : Workbench α) :
    GridStep α → Workbench α × Except Failure (GridAnswer α)
  | .blank rows columns =>
    bench.replace ((Grid.blank width rows columns cell).mapError .fault)
  | .ofCells rows columns cells => bench.replace (Grid.ofCells rows columns cells)
  | .read row => (bench, ((bench.current.row row).mapError .fault).map .cells)
  | .fill row cell => bench.rewrite (bench.current.fillRow row cell)
  | .put row column cell => bench.rewrite (bench.current.put row column cell)
  | .save => answerShape { bench with saved := bench.current }
  | .swap => answerShape ⟨bench.saved, bench.current⟩
  | .compare => (bench, .ok (.same (bench.current == bench.saved)))
  | .shape => answerShape bench

/-- Take steps in order. -/
def steps [DecidableEq α] (width : Nat) (cell : α) (bench : Workbench α)
    (inputs : List (GridStep α)) : Workbench α × List (Except Failure (GridAnswer α)) :=
  Steps.perform (step width cell) bench inputs

/-- A grid that could not be made leaves both grids as they were. -/
theorem replace_error (bench : Workbench α) (made : Except Failure (Grid α)) (failure : Failure)
    (failed : (bench.replace made).2 = .error failure) : (bench.replace made).1 = bench := by
  cases made with
  | ok grid => cases failed
  | error cause => rfl

/-- A write that leaves the current grid when it stops leaves both grids as they were. -/
theorem rewrite_error (bench : Workbench α) (written : Run (Grid α)) (failure : Failure)
    (keeps : ∀ fault left, written = .stopped fault left → left = bench.current)
    (failed : (bench.rewrite written).2 = .error failure) : (bench.rewrite written).1 = bench := by
  cases written with
  | done grid => cases failed
  | stopped fault left =>
    obtain rfl := keeps fault left rfl
    rfl

/-- A step that fails leaves both grids as they were. -/
theorem step_error [DecidableEq α] (width : Nat) (cell : α) (bench : Workbench α)
    (input : GridStep α) (failure : Failure)
    (failed : (bench.step width cell input).2 = .error failure) :
    (bench.step width cell input).1 = bench := by
  cases input with
  | blank rows columns => exact replace_error bench _ failure failed
  | ofCells rows columns cells => exact replace_error bench _ failure failed
  | read row => rfl
  | fill row cell =>
    exact rewrite_error bench _ failure
      (fun fault left => bench.current.fillRow_stopped left row cell fault) failed
  | put row column cell =>
    exact rewrite_error bench _ failure
      (fun fault left => bench.current.put_stopped left row column cell fault) failed
  | save => cases failed
  | swap => cases failed
  | compare => rfl
  | shape => rfl

end Workbench

end GrainSynthesis
