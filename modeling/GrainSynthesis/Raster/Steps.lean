import GrainSynthesis.Raster
import GrainSynthesis.Steps

/-!
# Reading and filling rows in steps

A raster is worked on by reads and fills of row windows. A step whose window
does not exist is answered by its fault and changes nothing. After any steps an
element holds what the last fill that reached it gave, which `lastFill` says
without looking at the buffer.
-/

namespace GrainSynthesis

/-- One access to a raster. -/
inductive RasterStep (α : Type) where
  | read (row length : Nat)
  | fill (row length : Nat) (value : α)
  deriving DecidableEq, Repr

namespace RasterStep

variable {α : Type}

/-- The value that a step gives to the element at `index` of a buffer of `size`
elements: that of a fill whose window ends inside the buffer and holds it. -/
def writes? (layout : Layout) (size index : Nat) : RasterStep α → Option α
  | read _ _ => none
  | fill row length value =>
    let first := layout.origin + row * layout.stride
    if first + length ≤ size ∧ first ≤ index ∧ index < first + length then some value else none

/-- The value of the last step that writes to an element, if one does. -/
def lastFill (layout : Layout) (size index : Nat) (steps : List (RasterStep α)) : Option α :=
  steps.reverse.findSome? (writes? layout size index)

end RasterStep

namespace Raster

variable {α : Type}

/-- Take one step: a read answers with the window, a fill with the whole buffer. -/
def step (raster : Raster α) : RasterStep α → Raster α × Except Fault (Array α)
  | .read row length => (raster, raster.row row length)
  | .fill row length value =>
    match raster.fill row length value with
    | .done filled => (filled, .ok filled.samples)
    | .stopped fault left => (left, .error fault)

/-- Take steps in order. -/
def steps (raster : Raster α) (inputs : List (RasterStep α)) :
    Raster α × List (Except Fault (Array α)) :=
  Steps.perform step raster inputs

/-- A read answers with the elements of its window and changes nothing. -/
theorem step_read (raster : Raster α) (row length : Nat) :
    raster.step (.read row length) = (raster, raster.row row length) := rfl

/-- Filling keeps the layout and the length of the buffer, whether it is done or not. -/
theorem fill_shape (raster : Raster α) (row length : Nat) (value : α) :
    (raster.fill row length value).state.layout = raster.layout ∧
      (raster.fill row length value).state.samples.size = raster.samples.size := by
  rw [fill]
  cases raster.locate row length with
  | error fault => exact ⟨rfl, rfl⟩
  | ok first => simp only [Run.state_map, store_size, and_self]

/-- A fill leaves what it wrote, finished or not. -/
theorem step_fill (raster : Raster α) (row length : Nat) (value : α) :
    (raster.step (.fill row length value)).1 = (raster.fill row length value).state := by
  simp only [step]
  cases raster.fill row length value <;> rfl

/-- Every step keeps the layout and the length of the buffer. -/
theorem step_shape (raster : Raster α) (input : RasterStep α) :
    (raster.step input).1.layout = raster.layout ∧
      (raster.step input).1.samples.size = raster.samples.size := by
  cases input with
  | read row length => exact ⟨rfl, rfl⟩
  | fill row length value =>
    rw [step_fill]
    exact raster.fill_shape row length value

end Raster

end GrainSynthesis
