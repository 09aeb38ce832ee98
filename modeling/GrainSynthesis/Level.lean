import GrainSynthesis.Fault
import GrainSynthesis.Feature
import GrainSynthesis.Text.Blank

/-!
# Levels of vector support

A level is an upper bound on the features that kernels may use. It is chosen by
a word; several words stand for one level, blanks around the word do not count,
and neither does ASCII case. Any other text is rejected as it was given.
-/

namespace GrainSynthesis

/-- An upper bound on the vector support that is used. -/
inductive Level where
  /-- No vector instructions. -/
  | scalar
  /-- The second x86-64 level: SSE4.1. -/
  | x86v2
  /-- The third x86-64 level: AVX2 and all below. -/
  | x86v3
  /-- The vector instructions of another architecture, none of which exist here. -/
  | neon
  /-- Whatever the processor has. -/
  | native
  deriving DecidableEq, Repr

namespace Level

/-- The level that is meant when none is chosen. -/
def unspecified : Level := native

/-- The levels that differ in their features, lowest first. -/
def distinct : List Level := [scalar, x86v2, x86v3]

/-- The features that a level allows. -/
def mask : Level → FeatureSet
  | scalar => .empty
  | x86v2 => ⟨true, false⟩
  | x86v3 => ⟨true, true⟩
  | neon => .empty
  | native => .all

/-- The name under which a level is reported. -/
def name : Level → String
  | scalar => "scalar"
  | x86v2 => "x86-64-v2"
  | x86v3 => "x86-64-v3"
  | neon => "neon"
  | native => "native"

/-- The words that stand for a level, in small letters. -/
def words : List (String × Level) :=
  [("scalar", scalar), ("rust", scalar), ("none", scalar),
    ("x86-64-v2", x86v2), ("v2", x86v2), ("sse4.1", x86v2), ("sse41", x86v2),
    ("x86-64-v3", x86v3), ("v3", x86v3), ("avx2", x86v3),
    ("neon", neon),
    ("native", native), ("", native)]

/-- The level for which a word in small letters stands. -/
def ofWord? (word : List Char) : Option Level :=
  (words.find? fun entry => decide (entry.1.toList = word)).map Prod.snd

/-- The level that a text names, or the text itself as rejected. -/
def parse (text : String) : Except Rejection Level :=
  match ofWord? (Text.lowerAscii (Text.trim text.toList)) with
  | some level => .ok level
  | none => .error (.unknownLevel text)

/-- The name of a level is one of its words. -/
theorem ofWord?_name (level : Level) : ofWord? level.name.toList = some level := by
  cases level <;> decide

/-- A text that is rejected is rejected as it was given. -/
theorem parse_eq_error (text : String) (rejection : Rejection)
    (rejected : parse text = .error rejection) : rejection = .unknownLevel text := by
  unfold parse at rejected
  split at rejected
  · cases rejected
  · injection rejected with same
    exact same.symm

end Level

end GrainSynthesis
