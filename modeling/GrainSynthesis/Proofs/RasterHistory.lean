import GrainSynthesis.Proofs.Painting
import GrainSynthesis.Raster.Steps
import Mathlib.Data.List.Induction

/-!
# What rows hold after any accesses

Reads and fills go through windows that may overlap, be empty, or end past the buffer. An access
succeeds exactly when its window ends inside the buffer, in unbounded numbers: what overflows on
the way to a window would end past any buffer that can be counted. One that fails changes nothing.

After any accesses, in any order, an element holds what the last successful fill over it gave, or
what it held at first. A read in between shows the same of the accesses before it.
-/

namespace GrainSynthesis

namespace RasterStep

variable {α : Type}

/-- The row to which an access goes. -/
def row : RasterStep α → Nat
  | read row _ => row
  | fill row _ _ => row

/-- How long the window of an access is. -/
def length : RasterStep α → Nat
  | read _ length => length
  | fill _ length _ => length

/-- The window of an access ends inside a buffer of `size` elements, in unbounded numbers. -/
def EndsInside (step : RasterStep α) (layout : Layout) (size : Nat) : Prop :=
  layout.origin + (step.row * layout.stride + step.length) ≤ size

instance (step : RasterStep α) (layout : Layout) (size : Nat) :
    Decidable (step.EndsInside layout size) := inferInstanceAs (Decidable (_ ≤ _))

/-- One more step is the last one that writes, if it writes at all. -/
theorem lastFill_concat (layout : Layout) (size index : Nat) (before : List (RasterStep α))
    (last : RasterStep α) :
    lastFill layout size index (before ++ [last]) =
      (last.writes? layout size index).or (lastFill layout size index before) := by
  rw [lastFill, List.reverse_append, List.reverse_singleton, List.singleton_append,
    List.findSome?_cons]
  cases last.writes? layout size index <;> rfl

/-- Nothing is written past the buffer. -/
theorem writes?_of_outside (step : RasterStep α) (layout : Layout) (size index : Nat)
    (outside : size ≤ index) : step.writes? layout size index = none := by
  cases step with
  | read row length => rfl
  | fill row length value =>
    rw [writes?]
    exact if_neg (by omega)

end RasterStep

namespace Raster

variable {α : Type}

/-- In a buffer that can be counted, a window is reached exactly when it ends inside. -/
theorem reaches_iff_of_counted (raster : Raster α) (counted : raster.samples.size < Word.sizeLimit)
    (row length : Nat) :
    raster.layout.Reaches raster.samples.size row length ↔
      raster.layout.origin + (row * raster.layout.stride + length) ≤ raster.samples.size := by
  constructor
  · intro reached
    exact reached.2
  · intro inside
    exact raster.layout.reaches_of_addressable _ _ _ counted inside

/-- A row is filled exactly when its window is reached. -/
theorem fill_eq_done_iff (raster filled : Raster α) (row length : Nat) (value : α) :
    raster.fill row length value = .done filled ↔
      raster.layout.Reaches raster.samples.size row length ∧
        filled = { raster with
          samples := (store (fun _ => .ok value) (raster.layout.first row) length
            raster.samples).state } := by
  rw [fill]
  cases found : raster.locate row length with
  | ok first =>
    obtain ⟨reached, rfl⟩ := (raster.layout.locate_eq_ok_iff_reaches _ _ _ _).mp found
    obtain ⟨written, stored, _, _⟩ := store_eq_done (fun _ => .ok value) (fun _ => value)
      (raster.layout.first row) length raster.samples (fun _ _ => rfl)
    simp only [stored, Run.map, Run.state, Run.done.injEq, reached, true_and, eq_comm]
  | error fault =>
    constructor
    · intro impossible
      cases impossible
    · rintro ⟨reached, _⟩
      have located := (raster.layout.locate_eq_ok_iff_reaches _ _ _ _).mpr ⟨reached, rfl⟩
      cases found.symm.trans located

/-- A row that could not be filled is as it was, and so is the rest of the buffer. -/
theorem fill_stopped (raster left : Raster α) (row length : Nat) (value : α) (fault : Fault)
    (stopped : raster.fill row length value = .stopped fault left) : left = raster := by
  rw [fill] at stopped
  cases found : raster.locate row length with
  | ok first =>
    obtain ⟨written, stored, _, _⟩ := store_eq_done (fun _ => .ok value) (fun _ => value) first
      length raster.samples (fun _ _ => rfl)
    simp [found, stored, Run.map] at stopped
  | error cause =>
    rw [found] at stopped
    cases stopped
    rfl

/-- A filled window holds the value, and every other element is as it was. -/
theorem getElem?_of_fill (raster filled : Raster α) (row length : Nat) (value : α)
    (done : raster.fill row length value = .done filled) (index : Nat)
    (stored : index < raster.samples.size) :
    filled.samples[index]? =
      if raster.layout.InRow length row index then some value else raster.samples[index]? := by
  obtain ⟨_, rfl⟩ := (raster.fill_eq_done_iff filled row length value).mp done
  obtain ⟨written, finished, _, contents⟩ := store_eq_done (fun _ => .ok value) (fun _ => value)
    (raster.layout.first row) length raster.samples (fun _ _ => rfl)
  rw [finished]
  exact contents index stored

/-- An access succeeds exactly when its window is reached, be it a read or a fill. -/
theorem exists_step_ok_iff (raster : Raster α) (input : RasterStep α) :
    (∃ cells, (raster.step input).2 = .ok cells) ↔
      raster.layout.Reaches raster.samples.size input.row input.length := by
  cases input with
  | read row length =>
    rw [step_read]
    simp only [row_eq_ok_iff, RasterStep.row, RasterStep.length]
    constructor
    · rintro ⟨_, reached, _⟩
      exact reached
    · intro reached
      exact ⟨_, reached, rfl⟩
  | fill row length value =>
    simp only [step, RasterStep.row, RasterStep.length]
    cases done : raster.fill row length value with
    | done filled =>
      have reached := ((raster.fill_eq_done_iff filled row length value).mp done).1
      exact ⟨fun _ => reached, fun _ => ⟨_, rfl⟩⟩
    | stopped fault left =>
      constructor
      · rintro ⟨_, impossible⟩
        cases impossible
      · intro reached
        have filled := (raster.fill_eq_done_iff _ row length value).mpr ⟨reached, rfl⟩
        cases done.symm.trans filled

/-- An access that fails changes nothing. -/
theorem step_of_error (raster : Raster α) (input : RasterStep α) (fault : Fault)
    (failed : (raster.step input).2 = .error fault) : (raster.step input).1 = raster := by
  cases input with
  | read row length => rfl
  | fill row length value =>
    simp only [step] at failed ⊢
    cases done : raster.fill row length value with
    | done filled => simp [done] at failed
    | stopped cause left => exact raster.fill_stopped left row length value cause done

/-- After one step an element holds what the step wrote to it, or what it held before. -/
theorem getElem?_step (raster : Raster α) (counted : raster.samples.size < Word.sizeLimit)
    (input : RasterStep α) (index : Nat) :
    (raster.step input).1.samples[index]? =
      (input.writes? raster.layout raster.samples.size index).or raster.samples[index]? := by
  by_cases stored : index < raster.samples.size
  · cases input with
    | read row length => rfl
    | fill row length value =>
      simp only [step, RasterStep.writes?]
      cases done : raster.fill row length value with
      | done filled =>
        have reached := ((raster.fill_eq_done_iff filled row length value).mp done).1
        have inside := reached.first_add_le
        rw [Layout.first] at inside
        rw [raster.getElem?_of_fill filled row length value done index stored]
        by_cases held : raster.layout.InRow length row index
        · have written := held
          rw [Layout.InRow, Layout.first] at written
          rw [if_pos held, if_pos ⟨inside, written⟩, Option.some_or]
        · have missed := held
          rw [Layout.InRow, Layout.first] at missed
          rw [if_neg held, if_neg (fun writes => missed writes.2), Option.none_or]
      | stopped fault left =>
        have kept := raster.fill_stopped left row length value fault done
        -- A fill that fails has a window that ends past the buffer, so it writes nowhere.
        have missed : ¬ raster.layout.origin + row * raster.layout.stride + length ≤
            raster.samples.size := by
          intro inside
          have reached := (raster.reaches_iff_of_counted counted row length).mpr (by omega)
          have filled := (raster.fill_eq_done_iff _ row length value).mpr ⟨reached, rfl⟩
          cases done.symm.trans filled
        simp [missed, kept]
  · have outside : raster.samples.size ≤ index := Nat.le_of_not_lt stored
    have size := (raster.step_shape input).2
    rw [input.writes?_of_outside raster.layout _ index outside, Option.none_or,
      Array.getElem?_eq_none outside, Array.getElem?_eq_none (by omega)]

/-- Steps keep the layout and the length of the buffer. -/
theorem steps_shape (raster : Raster α) (inputs : List (RasterStep α)) :
    (raster.steps inputs).1.layout = raster.layout ∧
      (raster.steps inputs).1.samples.size = raster.samples.size := by
  refine Steps.perform_keeps step (fun left => left.layout = raster.layout ∧
    left.samples.size = raster.samples.size) ?_ raster inputs ⟨rfl, rfl⟩
  rintro left input ⟨layout, size⟩
  obtain ⟨sameLayout, sameSize⟩ := left.step_shape input
  exact ⟨sameLayout.trans layout, sameSize.trans size⟩

/-- What an element holds after accesses: what the last fill that wrote to it gave, or what it
held at first. -/
def heldAfter (raster : Raster α) (accesses : List (RasterStep α)) (index : Nat) : Option α :=
  (RasterStep.lastFill raster.layout raster.samples.size index accesses).or raster.samples[index]?

/-- What steps leave is what each element holds after them.

The induction is on the last step: what it writes hides whatever was written before, and where it
writes nothing the steps before it decide. -/
theorem getElem?_steps (raster : Raster α) (counted : raster.samples.size < Word.sizeLimit)
    (inputs : List (RasterStep α)) (index : Nat) :
    (raster.steps inputs).1.samples[index]? = raster.heldAfter inputs index := by
  induction inputs using List.reverseRecOn with
  | nil => rfl
  | append_singleton before last inductionHypothesis =>
    obtain ⟨layout, size⟩ := raster.steps_shape before
    have one := (raster.steps before).1.getElem?_step (size ▸ counted) last index
    rw [layout, size, inductionHypothesis] at one
    rw [steps, Steps.perform_concat, heldAfter, RasterStep.lastFill_concat, Option.or_assoc]
    exact one

/-- How an access is answered that comes after others. -/
structure Answers (raster : Raster α) (before : List (RasterStep α)) (access : RasterStep α)
    (answer : Except Fault (Array α)) : Prop where
  /-- It succeeds exactly when its window ends inside the buffer. -/
  succeeds : (∃ cells, answer = .ok cells) ↔
    access.EndsInside raster.layout raster.samples.size
  /-- When it fails it changes nothing. -/
  refused : ∀ fault, answer = .error fault →
    (raster.steps (before ++ [access])).1 = (raster.steps before).1
  /-- A read shows what the elements of its window hold, and no other. -/
  read : ∀ row length cells, access = .read row length → answer = .ok cells →
    cells.size = length ∧ ∀ column < length,
      cells[column]? = raster.heldAfter before (raster.layout.first row + column)
  /-- A fill shows what every element holds after it. -/
  filled : ∀ row length value cells, access = .fill row length value → answer = .ok cells →
    ∀ index, cells[index]? = raster.heldAfter (before ++ [access]) index

/-- A window that is reached has an element for each of its columns, that of the buffer. -/
theorem getElem?_window (raster : Raster α) (row length : Nat)
    (reached : raster.layout.Reaches raster.samples.size row length) :
    (raster.window row length).size = length ∧ ∀ column < length,
      (raster.window row length)[column]? = raster.samples[raster.layout.first row + column]? := by
  have inside := reached.first_add_le
  constructor
  · rw [window, Array.size_extract]
    omega
  · intro column below
    have stored : raster.layout.first row + column < raster.samples.size := by omega
    rw [window, Array.getElem?_extract_of_lt (by omega), Array.getElem?_eq_getElem stored]

/-- Where an access leads from what the accesses before it left. -/
theorem steps_concat (raster : Raster α) (before : List (RasterStep α)) (access : RasterStep α) :
    (raster.steps (before ++ [access])).1 = ((raster.steps before).1.step access).1 := by
  rw [steps, Steps.perform_concat]
  rfl

/-- The step from what the accesses before it left answers as it should. -/
theorem answers_step (raster : Raster α) (counted : raster.samples.size < Word.sizeLimit)
    (before : List (RasterStep α)) (access : RasterStep α) :
    raster.Answers before access ((raster.steps before).1.step access).2 := by
  obtain ⟨layout, size⟩ := raster.steps_shape before
  have contents := raster.getElem?_steps counted
  constructor
  · rw [exists_step_ok_iff, layout, size, raster.reaches_iff_of_counted counted]
    rfl
  · intro fault failed
    rw [steps_concat]
    exact step_of_error _ access fault failed
  · rintro row length cells rfl done
    obtain ⟨reached, rfl⟩ := (row_eq_ok_iff _ row length cells).mp done
    obtain ⟨same, elements⟩ := getElem?_window _ row length reached
    refine ⟨same, ?_⟩
    intro column below
    rw [elements column below, layout, contents before]
  · rintro row length value cells rfl done index
    rw [← contents, steps_concat]
    simp only [step] at done ⊢
    cases made : (raster.steps before).1.fill row length value with
    | done filled =>
      rw [made] at done
      rw [← Except.ok.inj done]
    | stopped fault left =>
      rw [made] at done
      cases done

/-- A raster is a store in which the last writer wins. Whatever is read and filled, the layout
and the length of the buffer stay; each element is left with what the last successful fill over
it gave, or as it was at first; and each access, where the accesses before it led, succeeds
exactly when its window ends inside the buffer, changes nothing when it fails, and shows the
elements as they are then. Where rows are at least as far apart as they are long, windows of
different rows are disjoint. -/
theorem last_fill_is_held (raster : Raster α) (counted : raster.samples.size < Word.sizeLimit)
    (accesses : List (RasterStep α)) :
    ((raster.steps accesses).1.layout = raster.layout ∧
        (raster.steps accesses).1.samples.size = raster.samples.size ∧
        ∀ index, (raster.steps accesses).1.samples[index]? = raster.heldAfter accesses index) ∧
      (∀ before access after, accesses = before ++ access :: after →
        ∃ answer, (raster.steps accesses).2[before.length]? = some answer ∧
          raster.Answers before access answer) ∧
      ∀ row other length, length ≤ raster.layout.stride → row ≠ other →
        ∀ index, ¬ (raster.layout.InRow length row index ∧
          raster.layout.InRow length other index) := by
  obtain ⟨layout, size⟩ := raster.steps_shape accesses
  refine ⟨⟨layout, size, raster.getElem?_steps counted accesses⟩, ?_, ?_⟩
  · rintro before access after rfl
    refine ⟨_, ?_, raster.answers_step counted before access⟩
    rw [steps, Steps.getElem?_perform, List.getElem?_append_right (Nat.le_refl _),
      Nat.sub_self, List.getElem?_cons_zero, List.take_left]
    rfl
  · rintro row other length apart different index ⟨held, otherHeld⟩
    exact different (held.unique apart otherHeld)

/-- Windows of three elements, one element apart, in a buffer of five. The second fill hides part
of the first. Two more fail: one would end past the buffer, the other cannot be counted. An empty
window at the very end is read. -/
theorem crowdedRows_hold_last_fill :
    let raster := Raster.whole #[1, 2, 3, 4, 5] 1
    let accesses := [RasterStep.fill 0 3 9, .fill 1 3 8, .fill 3 3 7, .fill Word.sizeLimit 1 6,
      .read 5 0, .read 0 5]
    raster.samples.size < Word.sizeLimit ∧
      raster.steps accesses = (Raster.whole #[9, 8, 8, 8, 5] 1,
        [.ok #[9, 9, 9, 4, 5], .ok #[9, 8, 8, 8, 5], .error .outOfBounds, .error .overflow,
          .ok #[], .ok #[9, 8, 8, 8, 5]]) ∧
      raster.heldAfter accesses 0 = some 9 ∧ raster.heldAfter accesses 1 = some 8 ∧
        raster.heldAfter accesses 4 = some 5 := by
  intro raster accesses
  have counted : raster.samples.size < Word.sizeLimit := by decide
  have evaluated : raster.steps accesses = (Raster.whole #[9, 8, 8, 8, 5] 1,
      [.ok #[9, 9, 9, 4, 5], .ok #[9, 8, 8, 8, 5], .error .outOfBounds, .error .overflow,
        .ok #[], .ok #[9, 8, 8, 8, 5]]) := by decide +kernel
  obtain ⟨⟨_, _, contents⟩, _⟩ := last_fill_is_held raster counted accesses
  rw [evaluated] at contents
  exact ⟨counted, evaluated, (contents 0).symm, (contents 1).symm, (contents 4).symm⟩

end Raster

end GrainSynthesis
