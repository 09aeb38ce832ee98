import GrainSynthesis.Proofs.FeaturesInUse

/-!
# What the log tells of detection

The log of a run begins with what is said about the setting of the environment and with the
features that were found, both in the first step that needs features, and goes on with the
tables, each in the first step that needs it and with the features that were in use then. Nothing
is told twice. A run without such a step has an empty log; installing masks adds nothing to it.

A table that was made stays as it is, whatever steps follow. Making both tables is the same as
asking for one after the other.
-/

namespace GrainSynthesis

/-- Whether a record tells of the table of a depth. -/
def LogRecord.tellsOfTable (depth : Depth) : LogRecord → Bool
  | ignored _ => false
  | capped _ => false
  | detected _ => false
  | tableMade made _ => decide (made = depth)

/-- What is said about a setting: nothing when it is absent, nothing when it is no text, the level
when its text names one, and otherwise that it is ignored, with the text as it was given. -/
inductive Surroundings.SettingTold (surroundings : Surroundings) : List LogRecord → Prop where
  | unset (absent : surroundings.setting = .unset) : SettingTold surroundings []
  | notUnicode (unreadable : surroundings.setting = .notUnicode) : SettingTold surroundings []
  | named (text : String) (level : Level) (given : surroundings.setting = .text text)
      (parsed : Level.parse text = .ok level) : SettingTold surroundings [.capped level]
  | nameless (text : String) (given : surroundings.setting = .text text)
      (unparsed : ∀ level, Level.parse text ≠ .ok level) :
      SettingTold surroundings [.ignored (.unknownLevel text)]

/-- The log says about the setting what is to be said about it. -/
theorem Surroundings.settingTold (surroundings : Surroundings) :
    surroundings.SettingTold surroundings.settingRecords := by
  rw [settingRecords]
  cases given : surroundings.setting with
  | unset => exact .unset given
  | notUnicode => exact .notUnicode given
  | text text =>
    rw [Setting.text?]
    cases parsed : Level.parse text with
    | ok level => simpa only [parsed] using .named text level given parsed
    | error rejection =>
      obtain rfl := Level.parse_eq_error text rejection parsed
      simp only [parsed]
      refine .nameless text given ?_
      intro level accepted
      cases parsed.symm.trans accepted

/-- What is said about a setting is a warning exactly when it names no level. -/
theorem Surroundings.severity_settingRecords (surroundings : Surroundings) (record : LogRecord)
    (told : record ∈ surroundings.settingRecords) :
    record.severity = .warning ↔ surroundings.level? = none := by
  rw [settingRecords] at told
  rw [level?]
  cases given : surroundings.setting.text? with
  | none => simp [given] at told
  | some text =>
    rw [Option.bind_some]
    cases parsed : Level.parse text <;>
      · simp only [given, parsed, List.mem_singleton] at told
        subst told
        simp [LogRecord.severity, Except.toOption]

/-- A setting is warned of exactly when it is a text that names no level. -/
theorem Surroundings.exists_warning_iff (surroundings : Surroundings) :
    (∃ record ∈ surroundings.settingRecords, record.severity = .warning) ↔
      ∃ text, surroundings.setting = .text text ∧ ∀ level, Level.parse text ≠ .ok level := by
  have told := surroundings.settingTold
  generalize surroundings.settingRecords = records at told
  cases told with
  | unset absent => simp [absent]
  | notUnicode unreadable => simp [unreadable]
  | named text level given parsed => simp [given, parsed, LogRecord.severity]
  | nameless text given unparsed =>
    simpa [given, LogRecord.severity] using unparsed

/-- Nothing is said about a setting that is absent, and one record about any other, a warning
exactly when it names no level. -/
def Surroundings.Reported (surroundings : Surroundings) : Prop :=
  if surroundings.setting = .unset then surroundings.settingRecords = []
  else ∃ record, surroundings.settingRecords = [record] ∧
    (record.severity = .warning ↔ surroundings.level? = none)

/-- A setting is reported unless it is no text. -/
theorem Surroundings.reported_iff (surroundings : Surroundings) :
    surroundings.Reported ↔ surroundings.setting ≠ .notUnicode := by
  have severity := surroundings.severity_settingRecords
  have told := surroundings.settingTold
  rw [Reported]
  generalize surroundings.settingRecords = records at severity told ⊢
  cases told with
  | unset absent => simp [absent]
  | notUnicode unreadable => simp [unreadable]
  | named text level given parsed => simpa [given] using severity
  | nameless text given unparsed => simpa [given] using severity

/-- What is said about a setting tells of no table. -/
theorem Surroundings.filter_settingRecords (surroundings : Surroundings) (depth : Depth) :
    surroundings.settingRecords.filter (LogRecord.tellsOfTable depth) = [] := by
  have told := surroundings.settingTold
  generalize surroundings.settingRecords = records at told ⊢
  cases told <;> rfl

namespace Detection

variable (surroundings : Surroundings)

/-- The log of a run. -/
def wholeLog (inputs : List DetectionStep) : List LogRecord :=
  (run surroundings inputs).2.flatMap DetectionAnswer.log

/-- What the log of a run begins with: what is said of the setting and the features that were
found, if a step needs them. -/
def opening (inputs : List DetectionStep) : List LogRecord :=
  if inputs.any DetectionStep.needsFeatures then
    surroundings.settingRecords ++ [.detected surroundings.capped]
  else []

/-- One more step adds its records to the log. -/
theorem wholeLog_concat (history : List DetectionStep) (step : DetectionStep) :
    wholeLog surroundings (history ++ [step]) =
      wholeLog surroundings history ++ newRecords surroundings history step := by
  have answer := ((follows_run surroundings history).step step).2
  rw [run] at answer
  rw [wholeLog, wholeLog, run, Steps.perform_concat, List.flatMap_append, run, answer]
  simp [answerTo]

/-- A step that installs a mask writes nothing. -/
theorem newRecords_of_installs (history : List DetectionStep) (step : DetectionStep)
    (mask : UInt32) (installed : step.installs = some mask) :
    newRecords surroundings history step = [] := by
  cases step with
  | setMask _ => rfl
  | setLevel _ => rfl
  | features => cases installed
  | makeTables => cases installed
  | table _ => cases installed

/-- What a step writes of the table of a depth is that it is made, if the step is the first that
needs it. -/
theorem filter_newRecords (history : List DetectionStep) (step : DetectionStep) (depth : Depth) :
    (newRecords surroundings history step).filter (LogRecord.tellsOfTable depth) =
      if isFirst history (DetectionStep.needsTable depth) step then
        [.tableMade depth (allowed surroundings history)]
      else [] := by
  have quiet := surroundings.filter_settingRecords depth
  rw [newRecords, List.filter_append, List.filter_append]
  cases depth <;> split_ifs <;> simp [quiet, LogRecord.tellsOfTable]

/-- A table is told of with the features that the history before allows. -/
theorem eq_allowed_of_mem_newRecords (history : List DetectionStep) (step : DetectionStep)
    (depth : Depth) (features : FeatureSet)
    (told : .tableMade depth features ∈ newRecords surroundings history step) :
    features = allowed surroundings history := by
  have kept : LogRecord.tableMade depth features ∈
      (newRecords surroundings history step).filter (LogRecord.tellsOfTable depth) :=
    List.mem_filter.mpr ⟨told, decide_eq_true rfl⟩
  rw [filter_newRecords] at kept
  split at kept
  · exact (LogRecord.tableMade.inj (List.mem_singleton.mp kept)).2
  · cases kept

/-- The log tells of each table that was made once, with the features that it was made from. -/
theorem filter_wholeLog (inputs : List DetectionStep) (depth : Depth) :
    (wholeLog surroundings inputs).filter (LogRecord.tellsOfTable depth) =
      (madeFrom surroundings inputs depth).toList.map (.tableMade depth) := by
  induction inputs using List.reverseRecOn with
  | nil => rfl
  | append_singleton history step inductionHypothesis =>
    have made := isSome_madeFrom surroundings history depth
    rw [wholeLog_concat, List.filter_append, inductionHypothesis, filter_newRecords,
      madeFrom_concat, isFirst, ← made]
    cases madeFrom surroundings history depth <;> cases step.needsTable depth <;> rfl

/-- A step opens the log if it is the first that needs features. -/
theorem opening_concat (history : List DetectionStep) (step : DetectionStep) :
    opening surroundings (history ++ [step]) = opening surroundings history ++
      if isFirst history DetectionStep.needsFeatures step then
        surroundings.settingRecords ++ [.detected surroundings.capped]
      else [] := by
  rw [opening, opening, isFirst, List.any_append, List.any_cons, List.any_nil, Bool.or_false]
  cases history.any DetectionStep.needsFeatures <;> cases step.needsFeatures <;> simp

/-- After what it says of the features a step writes of tables only, and nothing at all if it
needs no features. -/
theorem exists_newRecords_eq (history : List DetectionStep) (step : DetectionStep) :
    ∃ tables, newRecords surroundings history step =
        (if isFirst history DetectionStep.needsFeatures step then
          surroundings.settingRecords ++ [.detected surroundings.capped]
        else []) ++ tables ∧
      (∀ record ∈ tables, ∃ depth, record.tellsOfTable depth = true) ∧
        (step.needsFeatures = false → tables = []) := by
  refine ⟨_, List.append_assoc _ _ _, ?_, ?_⟩
  · intro record member
    split_ifs at member <;> simp at member
    · rcases member with rfl | rfl
      · exact ⟨.eight, rfl⟩
      · exact ⟨.ten, rfl⟩
    · exact ⟨.eight, member ▸ rfl⟩
    · exact ⟨.ten, member ▸ rfl⟩
  · intro quiet
    have needless (depth : Depth) :
        isFirst history (DetectionStep.needsTable depth) step = false := by
      cases needed : step.needsTable depth with
      | true =>
        rw [step.needsFeatures_of_needsTable depth needed] at quiet
        cases quiet
      | false => rw [isFirst, needed, Bool.false_and]
    simp [needless]

/-- The log opens with what was found, in front of all records of tables. -/
theorem exists_wholeLog_eq (inputs : List DetectionStep) :
    ∃ tables, wholeLog surroundings inputs = opening surroundings inputs ++ tables ∧
      (∀ record ∈ tables, ∃ depth, record.tellsOfTable depth = true) ∧
        (inputs.any DetectionStep.needsFeatures = false → tables = []) := by
  induction inputs using List.reverseRecOn with
  | nil => exact ⟨[], rfl, by simp, fun _ => rfl⟩
  | append_singleton history step inductionHypothesis =>
    obtain ⟨tables, log, areTables, silent⟩ := inductionHypothesis
    obtain ⟨more, written, areMore, silentStep⟩ := exists_newRecords_eq surroundings history step
    rw [wholeLog_concat, opening_concat, log, written]
    refine ⟨tables ++ more, ?_, ?_, ?_⟩
    · -- A step opens the log only where no table was told of before.
      cases asked : history.any DetectionStep.needsFeatures with
      | true => simp [isFirst, asked]
      | false => simp [silent asked]
    · intro record member
      exact (List.mem_append.mp member).elim (areTables record) (areMore record)
    · intro quiet
      rw [List.any_append, Bool.or_eq_false_iff, List.any_cons, List.any_nil,
        Bool.or_false] at quiet
      rw [silent quiet.1, silentStep quiet.2, List.append_nil]

/-- A table that was made stays. -/
theorem madeFrom_append (history later : List DetectionStep) (depth : Depth)
    (features : FeatureSet) (made : madeFrom surroundings history depth = some features) :
    madeFrom surroundings (history ++ later) depth = some features := by
  induction later using List.reverseRecOn with
  | nil => rwa [List.append_nil]
  | append_singleton later step inductionHypothesis =>
    rw [← List.append_assoc, madeFrom_concat, inductionHypothesis, Option.some_or]

/-- The state after a run holds the tables that its steps had made. -/
theorem table_run (inputs : List DetectionStep) (depth : Depth) :
    (run surroundings inputs).1.table depth = madeFrom surroundings inputs depth :=
  (follows_run surroundings inputs).table depth

/-- Making both tables leaves the same state and the same log as asking for the one and then for
the other, whatever comes before and after. -/
theorem makeTables_eq (before later : List DetectionStep) :
    (run surroundings (before ++ .makeTables :: later)).1 =
        (run surroundings (before ++ .table .eight :: .table .ten :: later)).1 ∧
      wholeLog surroundings (before ++ .makeTables :: later) =
        wholeLog surroundings (before ++ .table .eight :: .table .ten :: later) := by
  rw [wholeLog, wholeLog, run, run, Steps.perform_append, Steps.perform_append]
  simp [Steps.perform, step_makeTables]

/-- The log warns exactly when a step needs features and the setting is a text that names no
level. -/
theorem exists_warning_wholeLog_iff (inputs : List DetectionStep) :
    (∃ record ∈ wholeLog surroundings inputs, record.severity = .warning) ↔
      inputs.any DetectionStep.needsFeatures = true ∧
        ∃ text, surroundings.setting = .text text ∧ ∀ level, Level.parse text ≠ .ok level := by
  obtain ⟨tables, log, areTables, _⟩ := exists_wholeLog_eq surroundings inputs
  have quiet : ∀ record ∈ tables, record.severity ≠ .warning := by
    intro record member
    obtain ⟨depth, tells⟩ := areTables record member
    cases record with
    | tableMade made features => simp [LogRecord.severity]
    | _ => cases tells
  have detected (features : FeatureSet) : (LogRecord.detected features).severity ≠ .warning := by
    simp [LogRecord.severity]
  rw [log, opening, ← surroundings.exists_warning_iff]
  constructor
  · rintro ⟨record, member, warns⟩
    have opened := (List.mem_append.mp member).resolve_right fun among => quiet record among warns
    split at opened
    · rename_i asked
      rcases List.mem_append.mp opened with told | found
      · exact ⟨asked, record, told, warns⟩
      · exact absurd (List.mem_singleton.mp found ▸ warns) (detected _)
    · cases opened
  · rintro ⟨asked, record, told, warns⟩
    rw [if_pos asked]
    exact ⟨record, List.mem_append_left _ (List.mem_append_left _ told), warns⟩

/-- A setting that is no text is passed over: every run is the one without a setting. -/
theorem run_notUnicode (host : FeatureSet) (inputs : List DetectionStep) :
    run ⟨host, .notUnicode⟩ inputs = run ⟨host, .unset⟩ inputs := rfl

/-- Detection and the tables are made once in every run, and the log shows when.

Each step writes exactly what it is the first to need, and a step that installs a mask writes
nothing. The log opens with at most one record about the setting, and with the features of the
processor within its level, if some step needs features; only records of tables follow. Of each
depth there is one such record if some step needs its table and none otherwise. It tells of the
features that are answered at that moment and that the table is made from, and whatever steps
follow leave that table as it is. Making both tables is asking for the one and then for the other.

An absent setting is not spoken of, and every text is reported, with a warning exactly when it
names no level. A setting that is no text is the one that is passed over: though it is there and
names no level, no run warns of it, and every run is the one without a setting. -/
theorem built_once (surroundings : Surroundings) (inputs : List DetectionStep) :
    (∀ index : Nat, (run surroundings inputs).2[index]?.map DetectionAnswer.log =
        inputs[index]?.map (newRecords surroundings (inputs.take index))) ∧
      (∀ (index : Nat) mask, inputs[index]?.bind DetectionStep.installs = some mask →
        (run surroundings inputs).2[index]?.map DetectionAnswer.log = some []) ∧
      (surroundings.SettingTold surroundings.settingRecords ∧
        (∀ record ∈ surroundings.settingRecords,
          record.severity = .warning ↔ surroundings.level? = none) ∧
        (surroundings.Reported ↔ surroundings.setting ≠ .notUnicode)) ∧
      ((∃ record ∈ wholeLog surroundings inputs, record.severity = .warning) ↔
        inputs.any DetectionStep.needsFeatures = true ∧
          ∃ text, surroundings.setting = .text text ∧ ∀ level, Level.parse text ≠ .ok level) ∧
      (surroundings.setting = .notUnicode →
        run surroundings inputs = run ⟨surroundings.host, .unset⟩ inputs) ∧
      (∃ tables, wholeLog surroundings inputs = opening surroundings inputs ++ tables ∧
        ∀ record ∈ tables, ∃ depth, record.tellsOfTable depth = true) ∧
      (∀ depth, (wholeLog surroundings inputs).filter (LogRecord.tellsOfTable depth) =
          ((run surroundings inputs).1.table depth).toList.map (.tableMade depth) ∧
        ((run surroundings inputs).1.table depth).isSome =
          inputs.any (DetectionStep.needsTable depth)) ∧
      (∀ (index : Nat) log depth features,
        (run surroundings inputs).2[index]?.map DetectionAnswer.log = some log →
          .tableMade depth features ∈ log →
            askedAfter surroundings (inputs.take index) = some features) ∧
      (∀ later depth features, (run surroundings inputs).1.table depth = some features →
        (run surroundings (inputs ++ later)).1.table depth = some features) ∧
      ∀ later,
        (run surroundings (inputs ++ .makeTables :: later)).1 =
            (run surroundings (inputs ++ .table .eight :: .table .ten :: later)).1 ∧
          wholeLog surroundings (inputs ++ .makeTables :: later) =
            wholeLog surroundings (inputs ++ .table .eight :: .table .ten :: later) := by
  have written (index : Nat) : (run surroundings inputs).2[index]?.map DetectionAnswer.log =
      inputs[index]?.map (newRecords surroundings (inputs.take index)) := by
    rw [getElem?_run, Option.map_map]
    rfl
  refine ⟨written, ?_, ⟨surroundings.settingTold, surroundings.severity_settingRecords,
    surroundings.reported_iff⟩, exists_warning_wholeLog_iff surroundings inputs, ?_, ?_, ?_, ?_, ?_,
    makeTables_eq surroundings inputs⟩
  · intro index mask installs
    obtain ⟨step, taken, installed⟩ := Option.bind_eq_some_iff.mp installs
    rw [written, taken, Option.map_some, newRecords_of_installs _ _ step mask installed]
  · intro unreadable
    obtain ⟨host, _⟩ := surroundings
    obtain rfl := unreadable
    exact run_notUnicode host inputs
  · obtain ⟨tables, log, areTables, _⟩ := exists_wholeLog_eq surroundings inputs
    exact ⟨tables, log, areTables⟩
  · intro depth
    rw [table_run]
    exact ⟨filter_wholeLog surroundings inputs depth, isSome_madeFrom surroundings inputs depth⟩
  · intro index log depth features logged told
    rw [written] at logged
    obtain ⟨step, _, rfl⟩ := Option.map_eq_some_iff.mp logged
    rw [askedAfter_eq_allowed, eq_allowed_of_mem_newRecords _ _ _ _ _ told]
  · intro later depth features made
    rw [table_run] at made ⊢
    exact madeFrom_append surroundings inputs later depth features made

/-- A setting that is no text, where the processor has the first feature: the features are found
and told of, and nothing warns of a setting that is there and names no level. -/
theorem notUnicode_unreported :
    let surroundings : Surroundings := ⟨⟨true, false⟩, .notUnicode⟩
    (surroundings.setting ≠ .unset ∧ surroundings.level? = none) ∧
      wholeLog surroundings [.features] = [.detected ⟨true, false⟩] ∧
        (¬ ∃ record ∈ wholeLog surroundings [.features], record.severity = .warning) ∧
          ¬ surroundings.Reported := by
  refine ⟨by decide, by decide, by decide, ?_⟩
  rw [Surroundings.reported_iff]
  exact fun readable => readable rfl

/-- A mask between the first needs of the two tables shows in the second only, and a mask after
them in neither. -/
example :
    wholeLog ⟨.all, .text "v9"⟩
        [.setMask 1, .table .ten, .setMask 0, .makeTables, .setMask 3, .table .eight] =
      [.ignored (.unknownLevel "v9"), .detected .all, .tableMade .ten ⟨true, false⟩,
        .tableMade .eight .empty] := by
  decide

end Detection

end GrainSynthesis
