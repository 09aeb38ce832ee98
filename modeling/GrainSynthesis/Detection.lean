import GrainSynthesis.Level
import GrainSynthesis.Steps

/-!
# Settling which features are used

The features of the processor are found once, on first need, and capped by a
level that the environment can set; a text that names no level is reported and
ignored, and a setting that is no text is ignored without a word. Callers can
install a mask at any time. It restricts what is answered from then on and
nothing else.

The kernel table of a depth is made once, from the features in use at that
moment. What is found and what is made is written to a log, so the log shows
when it happened.
-/

namespace GrainSynthesis

/-- What the environment holds for the variable that sets a level. -/
inductive Setting where
  /-- The variable is not there. -/
  | unset
  /-- It holds a text. -/
  | text (value : String)
  /-- It holds bytes that are no Unicode text. -/
  | notUnicode
  deriving DecidableEq, Repr

/-- The text of a setting, if it is there and is one. -/
def Setting.text? : Setting → Option String
  | unset => none
  | text value => some value
  | notUnicode => none

/-- What does not change while a process lives: its processor, and the level that
its environment sets. -/
structure Surroundings where
  host : FeatureSet
  setting : Setting
  deriving DecidableEq, Repr

/-- The variable of the environment that sets a level. -/
def settingName : String := "RAV1D_CPU_LEVEL"

/-- How grave a log record is. -/
inductive Severity where
  | warning
  | debug
  deriving DecidableEq, Repr

/-- One record of the log. -/
inductive LogRecord where
  /-- The text of the setting names no level. -/
  | ignored (rejection : Rejection)
  /-- The setting caps the features. -/
  | capped (level : Level)
  /-- The features were found. -/
  | detected (features : FeatureSet)
  /-- The kernel table of a depth is made from features. -/
  | tableMade (depth : Depth) (features : FeatureSet)
  deriving DecidableEq, Repr

namespace LogRecord

/-- Only an ignored setting is worth a warning. -/
def severity : LogRecord → Severity
  | ignored _ => .warning
  | capped _ => .debug
  | detected _ => .debug
  | tableMade _ _ => .debug

/-- The text of a record. -/
def message : LogRecord → String
  | ignored rejection =>
    let reason := rejection.message
    s!"ignoring {settingName}: {reason}"
  | capped level =>
    let name := level.name
    s!"cpu level capped to {name} by {settingName}"
  | detected features =>
    let found := features.text
    s!"detected cpu flags {found}"
  | tableMade depth features =>
    let bits := depth.bits
    let used := features.text
    s!"initializing {bits}-bit reconstruction DSP with cpu flags {used}"

end LogRecord

namespace Surroundings

/-- The features that the setting leaves: those of its level, or all of them when
it has no text or the text names no level. -/
def cap (surroundings : Surroundings) : FeatureSet :=
  match surroundings.setting.text? with
  | none => .all
  | some text =>
    match Level.parse text with
    | .ok level => level.mask
    | .error _ => .all

/-- What the log says about the setting. A setting without a text is not spoken of,
whether it is absent or cannot be read. -/
def settingRecords (surroundings : Surroundings) : List LogRecord :=
  match surroundings.setting.text? with
  | none => []
  | some text =>
    match Level.parse text with
    | .ok level => [.capped level]
    | .error rejection => [.ignored rejection]

/-- The features of the processor as far as the setting leaves them. -/
def available (surroundings : Surroundings) : FeatureSet :=
  surroundings.host.inter surroundings.cap

end Surroundings

/-- What has been settled so far. -/
structure Detection where
  /-- The features that were found, once they have been. -/
  found : Option FeatureSet
  /-- The mask that was installed last. -/
  mask : UInt32
  /-- The features from which the eight-bit table was made, once it has been. -/
  tableEight : Option FeatureSet
  /-- The features from which the ten-bit table was made, once it has been. -/
  tableTen : Option FeatureSet
  deriving DecidableEq, Repr

/-- One step that asks for features or tables, or restricts them. -/
inductive DetectionStep where
  /-- Ask for the features in use. -/
  | features
  /-- Install a mask. -/
  | setMask (mask : UInt32)
  /-- Install the mask of a level. -/
  | setLevel (level : Level)
  /-- Have the tables of both depths made. -/
  | makeTables
  /-- Ask for the table of a depth. -/
  | table (depth : Depth)
  deriving DecidableEq, Repr

/-- What a step answers, and what it writes to the log. -/
structure DetectionAnswer where
  features : Option FeatureSet
  log : List LogRecord
  deriving DecidableEq, Repr

namespace Detection

/-- Nothing is settled, and the mask lets every bit through. -/
def initial : Detection := ⟨none, 4294967295, none, none⟩

/-- The features of the kernel table of a depth, once it has been made. -/
def table (state : Detection) : Depth → Option FeatureSet
  | .eight => state.tableEight
  | .ten => state.tableTen

/-- Remember the features from which the table of a depth was made. -/
def setTable (state : Detection) (depth : Depth) (features : FeatureSet) : Detection :=
  match depth with
  | .eight => { state with tableEight := some features }
  | .ten => { state with tableTen := some features }

/-- The features in use, which are found first if they have not been yet. -/
def inUse (surroundings : Surroundings) (state : Detection) :
    Detection × FeatureSet × List LogRecord :=
  let restriction := FeatureSet.ofBits state.mask
  match state.found with
  | some found => (state, found.inter restriction, [])
  | none =>
    let found := surroundings.available
    ({ state with found := some found }, found.inter restriction,
      surroundings.settingRecords ++ [.detected found])

/-- Have the table of a depth made, unless it has been. -/
def needTable (surroundings : Surroundings) (depth : Depth) (state : Detection) :
    Detection × List LogRecord :=
  match state.table depth with
  | some _ => (state, [])
  | none =>
    let (after, features, log) := state.inUse surroundings
    (after.setTable depth features, log ++ [.tableMade depth features])

/-- Take one step. -/
def step (surroundings : Surroundings) (state : Detection) :
    DetectionStep → Detection × DetectionAnswer
  | .features =>
    let (after, features, log) := state.inUse surroundings
    (after, ⟨some features, log⟩)
  | .setMask mask => ({ state with mask := mask }, ⟨none, []⟩)
  | .setLevel level => ({ state with mask := UInt32.ofNat level.mask.bits }, ⟨none, []⟩)
  | .makeTables =>
    let (between, first) := state.needTable surroundings .eight
    let (after, second) := between.needTable surroundings .ten
    (after, ⟨none, first ++ second⟩)
  | .table depth =>
    let (after, log) := state.needTable surroundings depth
    (after, ⟨none, log⟩)

/-- Take steps in order from a process that has settled nothing. -/
def run (surroundings : Surroundings) (inputs : List DetectionStep) :
    Detection × List DetectionAnswer :=
  Steps.perform (step surroundings) initial inputs

/-- Once features were found they are never looked for again, so nothing is
logged. -/
theorem inUse_of_found (surroundings : Surroundings) (state : Detection) (found : FeatureSet)
    (settled : state.found = some found) :
    state.inUse surroundings = (state, found.inter (FeatureSet.ofBits state.mask), []) := by
  simp [inUse, settled]

/-- Asking for the features in use settles what was found and keeps everything
else. -/
theorem inUse_state (surroundings : Surroundings) (state : Detection) :
    (state.inUse surroundings).1 =
      { state with found := some (state.found.getD surroundings.available) } := by
  obtain ⟨found, mask, tableEight, tableTen⟩ := state
  cases found <;> rfl

/-- A table that was made stays as it is, and nothing is logged. -/
theorem needTable_of_table (surroundings : Surroundings) (depth : Depth) (state : Detection)
    (features : FeatureSet) (made : state.table depth = some features) :
    state.needTable surroundings depth = (state, []) := by
  simp [needTable, made]

end Detection

end GrainSynthesis
