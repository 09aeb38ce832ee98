import GrainSynthesis.Arithmetic
import GrainSynthesis.Run

/-!
# Strided rows in a buffer

A raster is a buffer with a layout: where row zero begins and how far apart the
rows are. A row is a window of consecutive elements; windows of different rows
may overlap when the stride is shorter than the window, and nothing outside the
windows belongs to a row.

A window is found in checked arithmetic. It exists exactly when it ends inside
the buffer, also when it is empty and begins at the very end.
-/

namespace GrainSynthesis

/-- Where the rows of a raster lie in its buffer. -/
structure Layout where
  /-- The element at which row zero begins. -/
  origin : Nat
  /-- The distance from the beginning of a row to that of the next. -/
  stride : Nat
  deriving DecidableEq, Repr

/-- The element at which the window of `length` elements of a row begins, in a
buffer of `size` elements. -/
def Layout.locate (layout : Layout) (size row length : Nat) : Except Fault Nat := do
  let first ← Word.size (row * layout.stride)
  let last ← Word.size (first + length)
  if layout.origin + last ≤ size then .ok (layout.origin + first) else .error .outOfBounds

/-- A buffer whose rows are found by a layout. -/
structure Raster (α : Type) where
  /-- The buffer. -/
  samples : Array α
  /-- Where its rows lie. -/
  layout : Layout
  deriving DecidableEq, Repr

/-- The element of a row that was read, or a fault past its end. -/
def elementAt {α : Type} (row : Array α) (column : Nat) : Except Fault α :=
  match row[column]? with
  | some value => .ok value
  | none => .error .outOfBounds

/-- Store the sample of one column, `column` elements after `start`. -/
def storeColumn {α : Type} (sample : Nat → Except Fault α) (start column : Nat)
    (buffer : Array α) : Run (Array α) :=
  match sample column with
  | .ok value => .done (buffer.setIfInBounds (start + column) value)
  | .error fault => .stopped fault buffer

/-- Store `sample 0`, `sample 1`, … into `count` consecutive elements from `start`
on, ending at the first sample that is a fault. -/
def store {α : Type} (sample : Nat → Except Fault α) (start count : Nat) (buffer : Array α) :
    Run (Array α) :=
  Run.sweep (storeColumn sample start) count 0 buffer

/-- What one row of a raster is about to receive: where it begins, and the sample
of each column. -/
structure Stroke (α : Type) where
  start : Nat
  sample : Nat → Except Fault α

namespace Raster

variable {α : Type}

/-- The raster of a whole buffer. -/
def whole (samples : Array α) (stride : Nat) : Raster α := ⟨samples, ⟨0, stride⟩⟩

/-- The same buffer seen from `elements` further on. A view cannot begin past the
end of its buffer. -/
def dropElements (raster : Raster α) (elements : Nat) : Except Fault (Raster α) :=
  let origin := raster.layout.origin + elements
  if origin ≤ raster.samples.size then
    .ok { raster with layout := { raster.layout with origin := origin } }
  else
    .error .outOfBounds

/-- The element at which the window of a row begins. -/
def locate (raster : Raster α) (row length : Nat) : Except Fault Nat :=
  raster.layout.locate raster.samples.size row length

/-- The window of `length` elements of a row. -/
def row (raster : Raster α) (row length : Nat) : Except Fault (Array α) := do
  let first ← raster.locate row length
  return raster.samples.extract first (first + length)

/-- Work on the buffer in numbered steps, ending at the first fault. -/
def sweep (raster : Raster α) (count : Nat) (step : Nat → Array α → Run (Array α)) :
    Run (Raster α) :=
  match raster with
  | ⟨samples, layout⟩ => (Run.sweep step count 0 samples).map fun samples => ⟨samples, layout⟩

/-- Give one row its stroke. -/
def paintRow (width : Nat) (stroke : Nat → Except Fault (Stroke α)) (row : Nat)
    (buffer : Array α) : Run (Array α) :=
  match stroke row with
  | .ok ⟨start, sample⟩ => store sample start width buffer
  | .error fault => .stopped fault buffer

/-- Give rows `0 ... height - 1` their strokes in order, `width` samples each. A row
whose stroke is a fault ends the painting; rows and samples before it stay. -/
def paint (raster : Raster α) (width height : Nat) (stroke : Nat → Except Fault (Stroke α)) :
    Run (Raster α) :=
  raster.sweep height (paintRow width stroke)

/-- Give every element of a row's window one value. -/
def fill (raster : Raster α) (row length : Nat) (value : α) : Run (Raster α) :=
  match raster.locate row length with
  | .ok first =>
    (store (fun _ => .ok value) first length raster.samples).map fun samples =>
      { raster with samples := samples }
  | .error fault => .stopped fault raster

end Raster

/-- A window is found exactly when, in unbounded numbers, it ends inside the
buffer. -/
theorem Layout.locate_eq_ok_iff (layout : Layout) (size row length first : Nat)
    (addressable : size < Word.sizeLimit) :
    layout.locate size row length = .ok first ↔
      layout.origin + (row * layout.stride + length) ≤ size ∧
        first = layout.origin + row * layout.stride := by
  by_cases fits : row * layout.stride < Word.sizeLimit
  · by_cases fitsLast : row * layout.stride + length < Word.sizeLimit
    · by_cases inside : layout.origin + (row * layout.stride + length) ≤ size <;>
        simp [Layout.locate, Word.size, fits, fitsLast, inside, bind, Except.bind, eq_comm]
    · simp only [Layout.locate, Word.size, fits, fitsLast, if_true, if_false, bind, Except.bind]
      constructor
      · intro impossible
        cases impossible
      · rintro ⟨inside, _⟩
        omega
  · simp only [Layout.locate, Word.size, fits, if_false, bind, Except.bind]
    constructor
    · intro impossible
      cases impossible
    · rintro ⟨inside, _⟩
      omega

/-- Storing keeps the length of the buffer. -/
theorem store_size {α : Type} (sample : Nat → Except Fault α) (start count : Nat)
    (buffer : Array α) : (store sample start count buffer).state.size = buffer.size := by
  refine Run.sweep_keeps _ (fun left => left.size = buffer.size) count 0 buffer rfl ?_
  intro column left _ _ same
  unfold storeColumn
  cases sample column <;> simp [Run.state, same]

/-- Storing leaves every element outside its window as it was. -/
theorem store_frame {α : Type} (sample : Nat → Except Fault α) (start count : Nat)
    (buffer : Array α) (index : Nat) (outside : index < start ∨ start + count ≤ index) :
    (store sample start count buffer).state[index]? = buffer[index]? := by
  refine Run.sweep_keeps _ (fun left => left[index]? = buffer[index]?) count 0 buffer rfl ?_
  intro column left _ upper same
  unfold storeColumn
  cases taken : sample column with
  | error fault => simpa [taken, Run.state] using same
  | ok value =>
    have apart : start + column ≠ index := by omega
    simpa [taken, Run.state, Array.getElem?_setIfInBounds, apart] using same

end GrainSynthesis
