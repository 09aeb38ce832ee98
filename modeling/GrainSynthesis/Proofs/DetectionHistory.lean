import GrainSynthesis.Detection
import Mathlib.Data.List.Induction

/-!
# Detection after a history of steps

What a step is answered depends on the steps before it, its history, in three ways only: whether
one of them needed the features of the processor, which mask was installed last, and for each
depth what was allowed when a step first needed its table. `Follows` says that a state holds just
that. It holds where nothing was done yet and one step keeps it, so it holds after every run, and
each answer is a function of the history of its step.
-/

namespace GrainSynthesis

/-- The level that the environment names, if its setting names one. -/
def Surroundings.level? (surroundings : Surroundings) : Option Level :=
  surroundings.setting.text?.bind fun text => (Level.parse text).toOption

/-- The features of the processor within that level; all of them when no level is named. -/
def Surroundings.capped (surroundings : Surroundings) : FeatureSet :=
  surroundings.host.inter (surroundings.level?.elim .all Level.mask)

/-- The features that are found are those within the level. -/
theorem Surroundings.available_eq_capped (surroundings : Surroundings) :
    surroundings.available = surroundings.capped := by
  rw [available, cap, capped, level?]
  cases surroundings.setting.text? with
  | none => rfl
  | some text => cases named : Level.parse text <;> simp [named, Except.toOption]

namespace DetectionStep

/-- The mask that a step installs, if it installs one. -/
def installs : DetectionStep → Option UInt32
  | features => none
  | setMask mask => some mask
  | setLevel level => some (UInt32.ofNat level.mask.bits)
  | makeTables => none
  | table _ => none

/-- Whether a step needs the features of the processor. -/
def needsFeatures : DetectionStep → Bool
  | features => true
  | setMask _ => false
  | setLevel _ => false
  | makeTables => true
  | table _ => true

/-- Whether a step needs the table of a depth. -/
def needsTable (depth : Depth) : DetectionStep → Bool
  | features => false
  | setMask _ => false
  | setLevel _ => false
  | makeTables => true
  | table needed => decide (needed = depth)

/-- A step that needs a table needs the features that it is made from. -/
theorem needsFeatures_of_needsTable (depth : Depth) (step : DetectionStep)
    (needed : step.needsTable depth = true) : step.needsFeatures = true := by
  cases step <;> first | rfl | cases needed

end DetectionStep

namespace Detection

variable (surroundings : Surroundings) (history : List DetectionStep)

/-- The mask that was installed last. -/
def lastMask : Option UInt32 := (history.filterMap DetectionStep.installs).getLast?

/-- The features that the last mask lets through; all of them when none was installed. -/
def restriction : FeatureSet := (lastMask history).elim .all FeatureSet.ofBits

/-- The features that a history leaves in use: those of the processor, within the level that the
environment names and within the known bits of the last mask. -/
def allowed : FeatureSet := surroundings.capped.inter (restriction history)

/-- The features from which the table of a depth was made: those in use when a step first needed
it. -/
def madeFrom (depth : Depth) : Option FeatureSet :=
  (history.findIdx? (DetectionStep.needsTable depth)).map fun first =>
    allowed surroundings (history.take first)

/-- Whether a step is the first with a need. -/
def isFirst (needs : DetectionStep → Bool) (step : DetectionStep) : Bool :=
  needs step && !history.any needs

/-- What a step writes to the log: it finds the features if it is the first that needs them, and
then it makes the tables that it is the first to need. -/
def newRecords (step : DetectionStep) : List LogRecord :=
  (if isFirst history DetectionStep.needsFeatures step then
    surroundings.settingRecords ++ [.detected surroundings.capped] else []) ++
  (if isFirst history (DetectionStep.needsTable .eight) step then
    [.tableMade .eight (allowed surroundings history)] else []) ++
  (if isFirst history (DetectionStep.needsTable .ten) step then
    [.tableMade .ten (allowed surroundings history)] else [])

/-- What a step is answered. -/
def answerTo (step : DetectionStep) : DetectionAnswer :=
  ⟨if step = .features then some (allowed surroundings history) else none,
    newRecords surroundings history step⟩

/-- A state holds what a history leaves. -/
structure Follows (state : Detection) : Prop where
  found : state.found =
    if history.any DetectionStep.needsFeatures then some surroundings.capped else none
  mask : state.mask = (lastMask history).getD initial.mask
  table : ∀ depth, state.table depth = madeFrom surroundings history depth

variable {surroundings history} {state : Detection}

/-- The last mask is that of the last step, or the one before it. -/
theorem lastMask_concat (history : List DetectionStep) (step : DetectionStep) :
    lastMask (history ++ [step]) = step.installs.or (lastMask history) := by
  rw [lastMask, lastMask, List.filterMap_append, List.getLast?_append]
  cases installed : step.installs <;> simp [installed]

/-- A table that was made keeps its features, and another is made when a step needs it. -/
theorem madeFrom_concat (surroundings : Surroundings) (history : List DetectionStep)
    (step : DetectionStep) (depth : Depth) :
    madeFrom surroundings (history ++ [step]) depth =
      (madeFrom surroundings history depth).or
        (if step.needsTable depth then some (allowed surroundings history) else none) := by
  rw [madeFrom, madeFrom, List.findIdx?_append]
  cases found : history.findIdx? (DetectionStep.needsTable depth) with
  | some first =>
    have inside : first ≤ history.length :=
      Nat.le_of_lt (List.findIdx?_eq_some_iff_findIdx_eq.mp found).1
    simp [List.take_append_of_le_length inside]
  | none => cases needed : step.needsTable depth <;> simp [needed]

/-- A table was made exactly when a step needed it. -/
theorem isSome_madeFrom (surroundings : Surroundings) (history : List DetectionStep)
    (depth : Depth) :
    (madeFrom surroundings history depth).isSome =
      history.any (DetectionStep.needsTable depth) := by
  rw [madeFrom, Option.isSome_map, List.findIdx?_isSome]

/-- Which features were found does not show in the tables. -/
theorem table_found (state : Detection) (found : Option FeatureSet) (depth : Depth) :
    ({ state with found := found } : Detection).table depth = state.table depth := by
  cases depth <;> rfl

/-- The mask does not show in the tables. -/
theorem table_mask (state : Detection) (mask : UInt32) (depth : Depth) :
    ({ state with mask := mask } : Detection).table depth = state.table depth := by
  cases depth <;> rfl

/-- The table that was made is the one found, and that of the other depth stays. -/
theorem table_setTable (state : Detection) (made read : Depth) (features : FeatureSet) :
    (state.setTable made features).table read =
      if read = made then some features else state.table read := by
  cases made <;> cases read <;> rfl

/-- Making a table keeps what was found. -/
theorem found_setTable (state : Detection) (made : Depth) (features : FeatureSet) :
    (state.setTable made features).found = state.found := by
  cases made <;> rfl

/-- Making a table keeps the mask. -/
theorem mask_setTable (state : Detection) (made : Depth) (features : FeatureSet) :
    (state.setTable made features).mask = state.mask := by
  cases made <;> rfl

/-- Before the first step nothing was found, installed or made. -/
theorem follows_initial (surroundings : Surroundings) : Follows surroundings [] initial where
  found := rfl
  mask := rfl
  table := fun depth => by cases depth <;> rfl

/-- What a step has to leave, so that the state holds what the history with that step leaves. -/
theorem follows_concat {after : Detection} (step : DetectionStep)
    (found : after.found = if history.any DetectionStep.needsFeatures || step.needsFeatures then
      some surroundings.capped else none)
    (mask : after.mask = (step.installs.or (lastMask history)).getD initial.mask)
    (table : ∀ depth, after.table depth = (madeFrom surroundings history depth).or
      (if step.needsTable depth then some (allowed surroundings history) else none)) :
    Follows surroundings (history ++ [step]) after where
  found := by simpa using found
  mask := by rw [mask, lastMask_concat]
  table := fun depth => by rw [table, madeFrom_concat]

/-- The features in use after a history are those that it allows, and they are found and told to
the log if no step needed them before. -/
theorem Follows.inUse_eq (follows : Follows surroundings history state) :
    state.inUse surroundings =
      ({ state with found := some surroundings.capped }, allowed surroundings history,
        if history.any DetectionStep.needsFeatures then []
        else surroundings.settingRecords ++ [.detected surroundings.capped]) := by
  have restricted : FeatureSet.ofBits state.mask = restriction history := by
    rw [follows.mask, restriction]
    cases lastMask history with
    | none => decide
    | some mask => rfl
  have found := follows.found
  rw [inUse, allowed, ← restricted, surroundings.available_eq_capped]
  cases asked : history.any DetectionStep.needsFeatures with
  | true =>
    rw [asked, if_pos rfl] at found
    obtain ⟨_, mask, tableEight, tableTen⟩ := state
    simp only at found
    subst found
    rfl
  | false =>
    rw [asked, if_neg Bool.false_ne_true] at found
    rw [found]
    rfl

/-- After the features in use were asked for, the state holds what that step leaves. -/
theorem Follows.inUse (follows : Follows surroundings history state) :
    Follows surroundings (history ++ [.features]) (state.inUse surroundings).1 := by
  rw [follows.inUse_eq]
  apply follows_concat
  · simp [DetectionStep.needsFeatures]
  · exact follows.mask
  · intro depth
    rw [table_found, follows.table depth]
    simp [DetectionStep.needsTable]

/-- A step that asks for a table tells of the features if no step needed them before, and then of
the table if no step needed it before. -/
theorem newRecords_table (surroundings : Surroundings) (history : List DetectionStep)
    (depth : Depth) :
    newRecords surroundings history (.table depth) =
      (if history.any DetectionStep.needsFeatures then []
        else surroundings.settingRecords ++ [.detected surroundings.capped]) ++
      (if history.any (DetectionStep.needsTable depth) then []
        else [.tableMade depth (allowed surroundings history)]) := by
  have asks : (DetectionStep.table depth).needsFeatures = true := rfl
  have needs (other : Depth) : (DetectionStep.table depth).needsTable other =
      decide (depth = other) := rfl
  rw [newRecords, isFirst, isFirst, isFirst, asks, needs, needs]
  generalize asked : history.any DetectionStep.needsFeatures = featuresAsked
  generalize made : history.any (DetectionStep.needsTable depth) = tableMade
  cases depth <;> rw [made] <;> cases featuresAsked <;> cases tableMade <;> simp

/-- Where a table was needed, features were. -/
theorem any_needsFeatures (history : List DetectionStep) (depth : Depth)
    (needed : history.any (DetectionStep.needsTable depth) = true) :
    history.any DetectionStep.needsFeatures = true := by
  obtain ⟨step, member, needs⟩ := List.any_eq_true.mp needed
  exact List.any_eq_true.mpr ⟨step, member, step.needsFeatures_of_needsTable depth needs⟩

/-- A table that is needed is made from the features in use, if no step needed it before. -/
theorem Follows.needTable_eq (follows : Follows surroundings history state) (depth : Depth) :
    state.needTable surroundings depth =
      (if history.any (DetectionStep.needsTable depth) then state
        else ({ state with found := some surroundings.capped } : Detection).setTable depth
          (allowed surroundings history),
        newRecords surroundings history (.table depth)) := by
  have made := isSome_madeFrom surroundings history depth
  rw [← follows.table depth] at made
  rw [newRecords_table]
  cases needed : history.any (DetectionStep.needsTable depth) with
  | true =>
    rw [needed] at made
    obtain ⟨features, stored⟩ := Option.isSome_iff_exists.mp made
    rw [needTable_of_table surroundings depth state features stored,
      any_needsFeatures history depth needed]
    rfl
  | false =>
    rw [needed, Option.isSome_eq_false_iff, Option.isNone_iff_eq_none] at made
    rw [needTable, made, follows.inUse_eq]
    rfl

/-- After a table was asked for, the state holds what that step leaves. -/
theorem Follows.needTable (follows : Follows surroundings history state) (depth : Depth) :
    Follows surroundings (history ++ [.table depth]) (state.needTable surroundings depth).1 := by
  rw [follows.needTable_eq]
  have made := isSome_madeFrom surroundings history depth
  cases needed : history.any (DetectionStep.needsTable depth) with
  | true =>
    obtain ⟨features, stored⟩ := Option.isSome_iff_exists.mp (made.trans needed)
    have found := follows.found
    rw [any_needsFeatures history depth needed] at found
    apply follows_concat
    · simpa [DetectionStep.needsFeatures] using found
    · exact follows.mask
    · intro read
      rw [if_pos rfl, follows.table read]
      by_cases same : depth = read
      · subst same
        rw [stored, Option.some_or]
      · simp [DetectionStep.needsTable, same]
  | false =>
    rw [needed, Option.isSome_eq_false_iff, Option.isNone_iff_eq_none] at made
    apply follows_concat
    · simp [DetectionStep.needsFeatures, found_setTable]
    · rw [if_neg Bool.false_ne_true, mask_setTable]
      exact follows.mask
    · intro read
      rw [if_neg Bool.false_ne_true, table_setTable, table_found, follows.table read]
      by_cases same : read = depth
      · subst same
        simp [DetectionStep.needsTable, made]
      · simp [DetectionStep.needsTable, same, Ne.symm same]

/-- Two histories that leave the same state leave it together. -/
theorem Follows.congr {other : List DetectionStep} (follows : Follows surroundings other state)
    (asked : other.any DetectionStep.needsFeatures = history.any DetectionStep.needsFeatures)
    (masks : lastMask other = lastMask history)
    (made : ∀ depth, madeFrom surroundings other depth = madeFrom surroundings history depth) :
    Follows surroundings history state where
  found := by rw [follows.found, asked]
  mask := by rw [follows.mask, masks]
  table := fun depth => by rw [follows.table, made]

/-- A step that installs no mask leaves the same features in use. -/
theorem allowed_concat (surroundings : Surroundings) (history : List DetectionStep)
    (step : DetectionStep) (quiet : step.installs = none) :
    allowed surroundings (history ++ [step]) = allowed surroundings history := by
  rw [allowed, restriction, lastMask_concat, quiet]
  rfl

/-- Making both tables is asking for the table of eight bits and then for that of ten. -/
theorem step_makeTables (surroundings : Surroundings) (state : Detection) :
    step surroundings state .makeTables =
      ((step surroundings (step surroundings state (.table .eight)).1 (.table .ten)).1,
        ⟨none, (step surroundings state (.table .eight)).2.log ++
          (step surroundings (step surroundings state (.table .eight)).1 (.table .ten)).2.log⟩) :=
  rfl

/-- A history in which both tables were asked for leaves what one leaves in which they were made
together. -/
theorem Follows.makeTables
    (follows : Follows surroundings (history ++ [.table .eight] ++ [.table .ten]) state) :
    Follows surroundings (history ++ [.makeTables]) state := by
  apply follows.congr
  · simp [DetectionStep.needsFeatures]
  · rw [lastMask_concat, lastMask_concat, lastMask_concat]
    rfl
  · intro depth
    have kept := allowed_concat surroundings history (.table .eight) rfl
    rw [madeFrom_concat, madeFrom_concat, madeFrom_concat, kept, Option.or_assoc]
    cases depth <;> rfl

/-- The records of both steps that ask for a table are those of the step that makes both. -/
theorem newRecords_makeTables (surroundings : Surroundings) (history : List DetectionStep) :
    newRecords surroundings history .makeTables =
      newRecords surroundings history (.table .eight) ++
        newRecords surroundings (history ++ [.table .eight]) (.table .ten) := by
  have kept := allowed_concat surroundings history (.table .eight) rfl
  have asked :
      (history ++ [DetectionStep.table .eight]).any DetectionStep.needsFeatures = true := by
    rw [List.any_append]
    exact Bool.or_true _
  have ten : (history ++ [DetectionStep.table .eight]).any (DetectionStep.needsTable .ten) =
      history.any (DetectionStep.needsTable .ten) := by
    rw [List.any_append]
    exact Bool.or_false _
  rw [newRecords_table, newRecords_table, kept, asked, ten]
  rw [newRecords, isFirst, isFirst, isFirst]
  cases history.any DetectionStep.needsFeatures <;>
    cases history.any (DetectionStep.needsTable .eight) <;>
      cases history.any (DetectionStep.needsTable .ten) <;> rfl

/-- Asking for the features in use tells of them if no step needed them before. -/
theorem newRecords_features (surroundings : Surroundings) (history : List DetectionStep) :
    newRecords surroundings history .features =
      if history.any DetectionStep.needsFeatures then []
      else surroundings.settingRecords ++ [.detected surroundings.capped] := by
  rw [newRecords, isFirst, isFirst, isFirst]
  cases history.any DetectionStep.needsFeatures <;>
    simp [DetectionStep.needsFeatures, DetectionStep.needsTable]

/-- After a step that installs a mask, the state holds what that step leaves. -/
theorem Follows.install (follows : Follows surroundings history state) (step : DetectionStep)
    (mask : UInt32) (installed : step.installs = some mask) :
    Follows surroundings (history ++ [step]) { state with mask := mask } := by
  have features : step.needsFeatures = false := by
    cases step <;> first | rfl | cases installed
  have tables (depth : Depth) : step.needsTable depth = false := by
    cases step <;> first | rfl | cases installed
  apply follows_concat
  · rw [features, Bool.or_false]
    exact follows.found
  · rw [installed]
    rfl
  · intro depth
    rw [table_mask, follows.table depth, tables, if_neg Bool.false_ne_true, Option.or_none]

/-- Asking for a table leaves what the history with that step leaves, and is answered as the
history says. -/
theorem Follows.step_table (follows : Follows surroundings history state) (depth : Depth) :
    Follows surroundings (history ++ [.table depth])
        (Detection.step surroundings state (.table depth)).1 ∧
      (Detection.step surroundings state (.table depth)).2 =
        answerTo surroundings history (.table depth) := by
  refine ⟨follows.needTable depth, ?_⟩
  rw [Detection.step, follows.needTable_eq]
  rfl

/-- One step turns what a history leaves into what the history with that step leaves, and it is
answered as the history says. -/
theorem Follows.step (follows : Follows surroundings history state) (step : DetectionStep) :
    Follows surroundings (history ++ [step]) (Detection.step surroundings state step).1 ∧
      (Detection.step surroundings state step).2 = answerTo surroundings history step := by
  cases step with
  | features =>
    refine ⟨follows.inUse, ?_⟩
    rw [Detection.step, follows.inUse_eq, answerTo, newRecords_features]
    rfl
  | setMask mask => exact ⟨follows.install _ _ rfl, rfl⟩
  | setLevel level => exact ⟨follows.install _ _ rfl, rfl⟩
  | makeTables =>
    obtain ⟨between, first⟩ := follows.step_table .eight
    obtain ⟨after, second⟩ := between.step_table .ten
    rw [step_makeTables, first, second]
    exact ⟨after.makeTables,
      congrArg (DetectionAnswer.mk none) (newRecords_makeTables surroundings history).symm⟩
  | table depth => exact follows.step_table depth

/-- After a run the state holds what its steps leave. -/
theorem follows_run (surroundings : Surroundings) (inputs : List DetectionStep) :
    Follows surroundings inputs (run surroundings inputs).1 := by
  induction inputs using List.reverseRecOn with
  | nil => exact follows_initial surroundings
  | append_singleton history step inductionHypothesis =>
    rw [run, Steps.perform_concat]
    exact (inductionHypothesis.step step).1

/-- Each step of a run is answered as the steps before it say. -/
theorem getElem?_run (surroundings : Surroundings) (inputs : List DetectionStep) (index : Nat) :
    (run surroundings inputs).2[index]? =
      inputs[index]?.map (answerTo surroundings (inputs.take index)) := by
  rw [run, Steps.getElem?_perform]
  congr 1
  funext step
  exact ((follows_run surroundings (inputs.take index)).step step).2

end Detection

end GrainSynthesis
