/-!
# Steps on a state

Something that is worked on in steps answers each step and moves on to its next
state. `perform` takes a list of steps through a step function and collects the
answers in order; a list cut in two gives the same answers as the whole.
-/

namespace GrainSynthesis.Steps

variable {σ ι ο : Type}

/-- Take steps in order from a state: the state after the last, and every answer. -/
def perform (step : σ → ι → σ × ο) (state : σ) : List ι → σ × List ο
  | [] => (state, [])
  | input :: rest =>
    let (after, answer) := step state input
    let (final, answers) := perform step after rest
    (final, answer :: answers)

/-- Steps taken in two parts leave what they leave in one. -/
theorem perform_append (step : σ → ι → σ × ο) (state : σ) (first second : List ι) :
    perform step state (first ++ second) =
      let (between, answers) := perform step state first
      let (final, more) := perform step between second
      (final, answers ++ more) := by
  induction first generalizing state with
  | nil => simp [perform]
  | cons input rest inductionHypothesis =>
    simp only [List.cons_append, perform, inductionHypothesis]

/-- One more step is taken from where the steps before it led. -/
theorem perform_concat (step : σ → ι → σ × ο) (state : σ) (inputs : List ι) (input : ι) :
    perform step state (inputs ++ [input]) =
      ((step (perform step state inputs).1 input).1,
        (perform step state inputs).2 ++ [(step (perform step state inputs).1 input).2]) := by
  rw [perform_append]
  rfl

/-- The answer to a step is the one that it gets where the steps before it led. -/
theorem getElem?_perform (step : σ → ι → σ × ο) (state : σ) (inputs : List ι) (index : Nat) :
    (perform step state inputs).2[index]? =
      inputs[index]?.map fun input =>
        (step (perform step state (inputs.take index)).1 input).2 := by
  induction inputs generalizing state index with
  | nil => rfl
  | cons input rest inductionHypothesis =>
    cases index with
    | zero => rfl
    | succ index => simp [perform, inductionHypothesis]

/-- What every step keeps, all of them keep. -/
theorem perform_keeps (step : σ → ι → σ × ο) (kept : σ → Prop)
    (stepKeeps : ∀ state input, kept state → kept (step state input).1)
    (state : σ) (inputs : List ι) (begins : kept state) : kept (perform step state inputs).1 := by
  induction inputs generalizing state with
  | nil => exact begins
  | cons input rest inductionHypothesis =>
    exact inductionHypothesis (step state input).1 (stepKeeps state input begins)

end GrainSynthesis.Steps
