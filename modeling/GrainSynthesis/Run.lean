import GrainSynthesis.Fault

/-!
# Runs that write in place

An operation that writes into a buffer can meet a fault after it has already
written. Its result is a `Run`: either it is done, or it stopped at a fault, and
in both cases the state as far as it was written is there to be seen.

`Run.sweep` performs numbered steps in order and ends at the first fault.
Sweeps compose: a sweep of `m + n` steps is a sweep of `m` followed by one of
`n` from where the first left off. A loop that takes several steps at a time is a
sweep of passes, and its steps are numbered throughout.

An operation that checks its input before it writes can also be rejected. Its
result is an `Attempt`, which shows what a rejection left as well.
-/

namespace GrainSynthesis

/-- The outcome of writing: the state that is left, and the fault that ended the
run early, if one did. -/
inductive Run (σ : Type) where
  | done (state : σ)
  | stopped (fault : Fault) (state : σ)
  deriving DecidableEq, Repr

namespace Run

variable {σ τ α : Type}

/-- What the run left, finished or not. -/
def state : Run σ → σ
  | done state => state
  | stopped _ state => state

/-- The fault that ended the run early. -/
def fault? : Run σ → Option Fault
  | done _ => none
  | stopped fault _ => some fault

/-- Go on from what a finished run left; a stopped run stays stopped. -/
@[inline] def andThen (run : Run σ) (next : σ → Run σ) : Run σ :=
  match run with
  | done state => next state
  | stopped fault state => stopped fault state

/-- See the state of a run as part of another state. -/
@[inline] def map (f : σ → τ) : Run σ → Run τ
  | done state => done (f state)
  | stopped fault state => stopped fault (f state)

/-- Perform `step first`, `step (first + 1)`, … for `count` steps, ending at the
first fault. -/
@[specialize] def sweep (step : Nat → σ → Run σ) : (count first : Nat) → σ → Run σ
  | 0, _, state => done state
  | count + 1, first, state =>
    match step first state with
    | done after => sweep step count (first + 1) after
    | stopped fault after => stopped fault after

/-- Perform the pass with a number, when every pass has `size` steps. -/
@[specialize] def pass (step : Nat → σ → Run σ) (size number : Nat) : σ → Run σ :=
  sweep step size (number * size)

/-- Mapping the state of a run maps what it left. -/
@[simp] theorem state_map (f : σ → τ) (run : Run σ) : (run.map f).state = f run.state := by
  cases run <;> rfl

/-- Mapping the state of a run keeps its fault. -/
@[simp] theorem fault_map (f : σ → τ) (run : Run σ) : (run.map f).fault? = run.fault? := by
  cases run <;> rfl

/-- A run without a fault is done with the state that it left. -/
theorem eq_done_iff (run : Run σ) (left : σ) :
    run = done left ↔ run.fault? = none ∧ run.state = left := by
  cases run <;> simp [fault?, state]

/-- A sweep of one count after another is two sweeps in a row. -/
theorem sweep_add (step : Nat → σ → Run σ) (count more first : Nat) (before : σ) :
    sweep step (count + more) first before =
      (sweep step count first before).andThen (sweep step more (first + count)) := by
  induction count generalizing first before with
  | zero => simp [sweep, andThen]
  | succ count inductionHypothesis =>
    rw [show count + 1 + more = count + more + 1 by omega]
    simp only [sweep]
    cases step first before with
    | stopped fault left => rfl
    | done left =>
      simp only [inductionHypothesis]
      rw [show first + 1 + count = first + (count + 1) by omega]

/-- The last step of a sweep continues from what the steps before it left. -/
theorem sweep_succ (step : Nat → σ → Run σ) (count first : Nat) (before : σ) :
    sweep step (count + 1) first before =
      (sweep step count first before).andThen (step (first + count)) := by
  rw [sweep_add]
  congr 1
  funext left
  simp only [sweep]
  cases step (first + count) left <;> rfl

/-- A run that goes on and is done was done before, and so is what followed. -/
theorem andThen_eq_done_iff (run : Run σ) (next : σ → Run σ) (left : σ) :
    run.andThen next = done left ↔ ∃ between, run = done between ∧ next between = done left := by
  cases run <;> simp [andThen]

/-- What every step keeps, the whole sweep keeps, whether it finishes or not. -/
theorem sweep_keeps (step : Nat → σ → Run σ) (kept : σ → Prop) (count first : Nat) (before : σ)
    (begins : kept before)
    (stepKeeps : ∀ index left, first ≤ index → index < first + count → kept left →
      kept (step index left).state) :
    kept (sweep step count first before).state := by
  induction count generalizing first before with
  | zero => exact begins
  | succ count inductionHypothesis =>
    have after := stepKeeps first before (Nat.le_refl _) (by omega) begins
    simp only [sweep]
    cases taken : step first before with
    | stopped fault left => simpa [taken, state] using after
    | done left =>
      refine inductionHypothesis (first + 1) left (by simpa [taken, state] using after) ?_
      intro index later lower upper
      exact stepKeeps index later (by omega) (by omega)

end Run

/-- The outcome of an operation that checks its input: it was rejected, or it ran. -/
inductive Attempt (σ : Type) where
  | rejected (rejection : Rejection) (state : σ)
  | ran (run : Run σ)
  deriving DecidableEq, Repr

namespace Attempt

variable {σ : Type}

/-- What the attempt left, rejected or not. -/
def state : Attempt σ → σ
  | rejected _ state => state
  | ran run => run.state

end Attempt

end GrainSynthesis
