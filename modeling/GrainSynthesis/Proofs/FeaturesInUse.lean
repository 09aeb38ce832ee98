import GrainSynthesis.Proofs.DetectionHistory

/-!
# The features in use

Asking for the features in use is always answered with those of the processor, within the level
that the environment names and within the known bits of the mask that was installed last. So
nothing beyond these three is ever answered, and nothing else shows in the answer: not the bits
of a mask that stand for no feature, not the masks that were replaced, and not the moment at
which the processor was first asked.
-/

namespace GrainSynthesis

namespace FeatureSet

/-- The bits that stand for a feature. -/
def knownBits : UInt32 := 3

/-- Bits that stand for no feature do not matter. -/
theorem ofBits_knownBits (mask : UInt32) : ofBits (mask &&& knownBits) = ofBits mask := by
  have known : Nat.testBit 3 0 = true ∧ Nat.testBit 3 1 = true := by decide
  simp [ofBits, knownBits, UInt32.toNat_and, Nat.testBit_and, known]

/-- A set that contains another does not restrict it. -/
theorem inter_eq_left_of_subset (features wide : FeatureSet) (within : features.Subset wide) :
    features.inter wide = features := by
  obtain ⟨sse41, avx2⟩ := features
  obtain ⟨sse41Within, avx2Within⟩ := within
  cases sse41 <;> cases avx2 <;> simp_all [inter]

/-- What is in a part of a set is in the set. -/
theorem Subset.trans {first second third : FeatureSet} (left : first.Subset second)
    (right : second.Subset third) : first.Subset third :=
  ⟨fun present => right.1 (left.1 present), fun present => right.2 (left.2 present)⟩

end FeatureSet

/-- A step without the bits of its mask that stand for no feature. -/
def DetectionStep.truncated : DetectionStep → DetectionStep
  | features => features
  | setMask mask => setMask (mask &&& FeatureSet.knownBits)
  | setLevel level => setLevel level
  | makeTables => makeTables
  | table depth => table depth

namespace Detection

variable (surroundings : Surroundings) (history : List DetectionStep)

/-- What asking for the features in use answers after a history. -/
def askedAfter : Option FeatureSet :=
  (run surroundings (history ++ [.features])).2.getLast?.bind DetectionAnswer.features

/-- After every history the answer is what that history allows. -/
theorem askedAfter_eq_allowed :
    askedAfter surroundings history = some (allowed surroundings history) := by
  rw [askedAfter, run, Steps.perform_concat, List.getLast?_append]
  have answer := ((follows_run surroundings history).step .features).2
  rw [run] at answer
  simp [answer, answerTo]

/-- What a history allows is in each of the three sets that limit it. -/
theorem allowed_subset :
    (allowed surroundings history).Subset surroundings.host ∧
      (allowed surroundings history).Subset (surroundings.level?.elim .all Level.mask) ∧
        (allowed surroundings history).Subset (restriction history) := by
  have within := FeatureSet.inter_subset_left surroundings.capped (restriction history)
  exact ⟨within.trans (FeatureSet.inter_subset_left _ _),
    within.trans (FeatureSet.inter_subset_right _ _), FeatureSet.inter_subset_right _ _⟩

/-- The restriction is that of the last step, if it installs a mask, or the one before it. -/
theorem restriction_concat (step : DetectionStep) :
    restriction (history ++ [step]) =
      (step.installs.map FeatureSet.ofBits).getD (restriction history) := by
  rw [restriction, lastMask_concat]
  cases step.installs <;> rfl

/-- Steps that install no mask leave the restriction as it is. -/
theorem restriction_append_quiet (between : List DetectionStep)
    (quiet : ∀ step ∈ between, step.installs = none) :
    restriction (history ++ between) = restriction history := by
  have silent : between.filterMap DetectionStep.installs = [] :=
    List.filterMap_eq_nil_iff.mpr quiet
  rw [restriction, restriction, lastMask, lastMask, List.filterMap_append, silent,
    List.append_nil]

/-- Bits that stand for no feature do not show in the restriction. -/
theorem restriction_truncated :
    restriction (history.map DetectionStep.truncated) = restriction history := by
  induction history using List.reverseRecOn with
  | nil => rfl
  | append_singleton history step inductionHypothesis =>
    have known : (step.truncated.installs).map FeatureSet.ofBits =
        step.installs.map FeatureSet.ofBits := by
      cases step with
      | setMask mask => exact congrArg some (FeatureSet.ofBits_knownBits mask)
      | _ => rfl
    rw [List.map_append, List.map_singleton, restriction_concat, restriction_concat,
      inductionHypothesis, known]

/-- A need that does not look at masks is the same without the bits that stand for no
feature. -/
theorem isFirst_truncated (needs : DetectionStep → Bool)
    (blind : ∀ step : DetectionStep, needs step.truncated = needs step) (step : DetectionStep) :
    isFirst (history.map DetectionStep.truncated) needs step.truncated =
      isFirst history needs step := by
  have unseen : needs ∘ DetectionStep.truncated = needs := funext blind
  rw [isFirst, isFirst, blind, List.any_map, unseen]

/-- Without the bits that stand for no feature each step is answered alike. -/
theorem answerTo_truncated (step : DetectionStep) :
    answerTo surroundings (history.map DetectionStep.truncated) step.truncated =
      answerTo surroundings history step := by
  have allowed : allowed surroundings (history.map DetectionStep.truncated) =
      allowed surroundings history := by
    rw [Detection.allowed, Detection.allowed, restriction_truncated]
  have features := isFirst_truncated history DetectionStep.needsFeatures
    (fun step => by cases step <;> rfl) step
  have table (depth : Depth) := isFirst_truncated history (DetectionStep.needsTable depth)
    (fun step => by cases step <;> rfl) step
  have asks : step.truncated = .features ↔ step = .features := by
    cases step <;> simp [DetectionStep.truncated]
  rw [answerTo, answerTo, newRecords, newRecords, allowed, features, table, table]
  simp only [asks]

/-- Without the bits that stand for no feature all steps of a run are answered alike. -/
theorem run_truncated (inputs : List DetectionStep) :
    (run surroundings (inputs.map DetectionStep.truncated)).2 = (run surroundings inputs).2 := by
  apply List.ext_getElem?
  intro index
  rw [getElem?_run, getElem?_run, List.getElem?_map, ← List.map_take, Option.map_map]
  congr 1
  funext step
  exact answerTo_truncated surroundings (inputs.take index) step

/-- In every run each step that asks for the features in use is answered with exactly those of
the processor, within the level that the environment names and within the known bits of the mask
that was installed last before it; other steps are not answered with features.

So no answer goes beyond the processor, the level or the mask. Clearing the bits that stand for
no feature in all masks changes no answer and no record. After histories with the same
restriction the answer is the same, whatever else they hold, and it does not matter whether a
mask is installed before or after steps that install none. A mask that lets through what the
processor and the level leave brings all of that back. -/
theorem features_in_use (surroundings : Surroundings) (inputs : List DetectionStep) :
    (∀ index : Nat, (run surroundings inputs).2[index]?.bind DetectionAnswer.features =
        if inputs[index]? = some .features then
          some ((surroundings.host.inter (surroundings.level?.elim .all Level.mask)).inter
            ((lastMask (inputs.take index)).elim .all FeatureSet.ofBits))
        else none) ∧
      (∀ index found, (run surroundings inputs).2[index]?.bind DetectionAnswer.features =
          some found →
        found.Subset surroundings.host ∧
          found.Subset (surroundings.level?.elim .all Level.mask) ∧
            found.Subset (restriction (inputs.take index))) ∧
      (run surroundings (inputs.map DetectionStep.truncated)).2 = (run surroundings inputs).2 ∧
      (∀ other, restriction other = restriction inputs →
        askedAfter surroundings other = askedAfter surroundings inputs) ∧
      (∀ mask between, (∀ step ∈ between, step.installs = none) →
        askedAfter surroundings (inputs ++ [.setMask mask] ++ between) =
          askedAfter surroundings (inputs ++ between ++ [.setMask mask])) ∧
      ∀ mask, surroundings.capped.Subset (FeatureSet.ofBits mask) →
        askedAfter surroundings (inputs ++ [.setMask mask]) = some surroundings.capped := by
  have answered (index : Nat) :
      (run surroundings inputs).2[index]?.bind DetectionAnswer.features =
        if inputs[index]? = some .features then some (allowed surroundings (inputs.take index))
        else none := by
    rw [getElem?_run]
    cases inputs[index]? with
    | none => rfl
    | some step => simp [answerTo]
  refine ⟨answered, ?_, run_truncated surroundings inputs, ?_, ?_, ?_⟩
  · intro index found given
    rw [answered index] at given
    split at given
    · obtain rfl := Option.some.inj given
      exact allowed_subset surroundings (inputs.take index)
    · cases given
  · intro other same
    rw [askedAfter_eq_allowed, askedAfter_eq_allowed, allowed, allowed, same]
  · intro mask between quiet
    rw [askedAfter_eq_allowed, askedAfter_eq_allowed, allowed, allowed,
      restriction_append_quiet _ between quiet, restriction_concat, restriction_concat]
    rfl
  · intro mask wide
    rw [askedAfter_eq_allowed, allowed, restriction_concat]
    exact congrArg some (FeatureSet.inter_eq_left_of_subset _ _ wide)

/-- A mask without a known bit that is replaced by a wide one, in an environment that names the
second level: the features come back as far as that level goes. -/
example :
    let surroundings : Surroundings := ⟨.all, .text " V2 "⟩
    let inputs : List DetectionStep :=
      [.setMask 4294967292, .features, .setLevel .x86v3, .table .ten, .features]
    (run surroundings inputs).2.filterMap DetectionAnswer.features = [.empty, ⟨true, false⟩] := by
  decide

end Detection

end GrainSynthesis
