import GrainSynthesis.Proofs.Painting

/-!
# Runs side by side

Two runs are compared under a relation between what they leave. Sweeps whose steps go side by
side do so as a whole, and stores of related samples leave related buffers: each pair of elements
is related, whichever rows wrote them and in which order.

The relation is a parameter. Equality says that two runs leave the same, an order that one of
them leaves nothing smaller.
-/

namespace GrainSynthesis

namespace Run

variable {σ : Type}

/-- Two runs side by side: both are done or both stopped, and what they left is related. -/
structure Beside (related : σ → σ → Prop) (run other : Run σ) : Prop where
  ended : run.fault? = none ↔ other.fault? = none
  left : related run.state other.state

/-- Sweeps whose steps go side by side go side by side. -/
theorem sweep_beside (related : σ → σ → Prop) (step other : Nat → σ → Run σ) (count first : Nat)
    (before otherBefore : σ) (begins : related before otherBefore)
    (steps : ∀ index left otherLeft, first ≤ index → index < first + count →
      related left otherLeft → Beside related (step index left) (other index otherLeft)) :
    Beside related (sweep step count first before) (sweep other count first otherBefore) := by
  -- The states of both sweeps vary, because each goes on from what its own step left.
  induction count generalizing first before otherBefore with
  | zero => exact ⟨Iff.rfl, begins⟩
  | succ count inductionHypothesis =>
    obtain ⟨ended, left⟩ := steps first before otherBefore (Nat.le_refl _) (by omega) begins
    rw [sweep, sweep]
    cases taken : step first before with
    | done reached =>
      cases otherTaken : other first otherBefore with
      | done otherReached =>
        rw [taken, otherTaken] at left
        refine inductionHypothesis (first + 1) reached otherReached left ?_
        intro index later otherLater lower upper
        exact steps index later otherLater (by omega) (by omega)
      | stopped fault otherReached => simp [taken, otherTaken, fault?] at ended
    | stopped fault reached =>
      cases otherTaken : other first otherBefore with
      | done otherReached => simp [taken, otherTaken, fault?] at ended
      | stopped otherFault otherReached =>
        rw [taken, otherTaken] at left
        exact ⟨by simp [fault?], left⟩

/-- Runs that go side by side are both done or neither is. -/
theorem Beside.exists_done_iff {related : σ → σ → Prop} {run other : Run σ}
    (beside : Beside related run other) :
    (∃ left, run = done left) ↔ ∃ left, other = done left := by
  simp only [eq_done_iff, exists_and_left, exists_eq', and_true]
  exact beside.ended

/-- Runs that go side by side and leave the same are done with the same. -/
theorem Beside.eq_done_iff {related : σ → σ → Prop} {run other : Run σ}
    (beside : Beside related run other) (same : run.state = other.state) (left : σ) :
    run = done left ↔ other = done left := by
  rw [Run.eq_done_iff, Run.eq_done_iff, beside.ended, same]

end Run

/-- Two buffers of one length whose elements are related. -/
structure Elementwise {α : Type} (related : α → α → Prop) (left right : Array α) : Prop where
  size : left.size = right.size
  element : ∀ (index : Nat) (value other : α), left[index]? = some value →
    right[index]? = some other → related value other

section Elementwise

variable {α : Type} {related : α → α → Prop} {left right : Array α}

/-- Related values are stored side by side. -/
theorem Elementwise.set (relates : Elementwise related left right) (index : Nat)
    {value other : α} (valuesRelate : related value other) :
    Elementwise related (left.setIfInBounds index value) (right.setIfInBounds index other) := by
  constructor
  · simpa using relates.size
  · intro place stored otherStored found otherFound
    rw [Array.getElem?_setIfInBounds] at found otherFound
    by_cases here : index = place
    · rw [if_pos here] at found otherFound
      split at found
      · rename_i inside
        rw [if_pos (relates.size ▸ inside)] at otherFound
        obtain rfl : value = stored := Option.some.inj found
        obtain rfl : other = otherStored := Option.some.inj otherFound
        exact valuesRelate
      · cases found
    · rw [if_neg here] at found otherFound
      exact relates.element place stored otherStored found otherFound

/-- Stores of related samples go side by side. -/
theorem store_beside (value otherValue : Nat → α) (start count : Nat)
    (relates : Elementwise related left right)
    (valuesRelate : ∀ column < count, related (value column) (otherValue column)) :
    Run.Beside (Elementwise related) (store (fun column => .ok (value column)) start count left)
      (store (fun column => .ok (otherValue column)) start count right) := by
  apply Run.sweep_beside _ _ _ _ _ _ _ relates
  intro column before otherBefore _ upper between
  exact ⟨Iff.rfl, between.set _ (valuesRelate column (by omega))⟩

/-- Every buffer is related to itself by a relation that is reflexive. -/
theorem Elementwise.refl (reflexive : ∀ value, related value value) (buffer : Array α) :
    Elementwise related buffer buffer := by
  refine ⟨rfl, ?_⟩
  intro index value other found otherFound
  obtain rfl : value = other := Option.some.inj (found.symm.trans otherFound)
  exact reflexive value

/-- Buffers with equal elements are equal. -/
theorem Elementwise.eq (relates : Elementwise Eq left right) : left = right := by
  apply Array.ext relates.size
  intro index inside otherInside
  exact relates.element index _ _ (Array.getElem?_eq_getElem inside)
    (Array.getElem?_eq_getElem otherInside)

end Elementwise

/-- Rasters of one layout whose elements are related. -/
structure RastersRelate {α : Type} (related : α → α → Prop) (left right : Raster α) : Prop where
  layout : left.layout = right.layout
  samples : Elementwise related left.samples right.samples

/-- Rasters of one layout with equal elements are equal. -/
theorem RastersRelate.eq {α : Type} {left right : Raster α}
    (relates : RastersRelate Eq left right) : left = right := by
  obtain ⟨leftSamples, leftLayout⟩ := left
  obtain ⟨layout, samples⟩ := relates
  obtain rfl : leftLayout = right.layout := layout
  obtain rfl : leftSamples = right.samples := samples.eq
  rfl

end GrainSynthesis
