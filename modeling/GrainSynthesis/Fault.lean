import GrainSynthesis.Coefficient
import GrainSynthesis.Depth

/-!
# Faults and rejections

A computation ends early in one of two ways. A fault is a broken promise of the
caller: a number that does not fit its word, an element outside its buffer, or
a stated precondition that does not hold. A rejection is the answer to input
that a boundary checks: a table of the wrong length, a parameter without a code,
a noise image of the wrong shape, a level that has no name.

Both are causes with the numbers that tell them apart; their wording is stated
once, in `Precondition.message` and `Rejection.message`.
-/

namespace GrainSynthesis

/-- A promise that an operation states about its arguments and checks first. -/
inductive Precondition where
  /-- A stored sample lies within the samples of its depth. -/
  | sampleRange (depth : Depth)
  /-- A stored noise entry lies within the grain range of its depth. -/
  | grainRange (depth : Depth)
  /-- The two weights of a blend sum to sixteen; the sum found is given. -/
  | weightSum (sum : Nat)
  /-- A block is as wide as a coded block can be. -/
  | blockWidth (width : Nat)
  /-- A block is as high as a coded block can be. -/
  | blockHeight (height : Nat)
  /-- The scaling shift has a code. -/
  | scalingShift (shift : Nat)
  /-- The noise image has a row for every row that takes noise. -/
  | noiseRows
  /-- The noise image has a column for every column that takes noise. -/
  | noiseColumns
  /-- A chroma blend is asked of a chroma plane. -/
  | chromaPlane
  /-- Both multipliers of the plane have a code. -/
  | chromaMultipliers
  /-- The offset of the plane has a code. -/
  | chromaOffset
  /-- A strip of vertically subsampled chroma begins at an even luma row. -/
  | evenStart
  deriving DecidableEq, Repr

/-- The text that reports a broken precondition. -/
def Precondition.message : Precondition → String
  | sampleRange .eight => "assertion failed: (0..=u8::MAX as i32).contains(&v)"
  | sampleRange .ten => "assertion failed: (0..=(1 << Self::BITDEPTH) - 1).contains(&v)"
  | grainRange .eight => "assertion failed: (i8::MIN as i32..=i8::MAX as i32).contains(&v)"
  | grainRange .ten => "assertion failed: (-512..=511).contains(&v)"
  | weightSum sum =>
    "assertion `left == right` failed: distance weights must sum to 16\n" ++
      s!"  left: {sum}\n right: 16"
  | blockWidth width => s!"unsupported block width {width}"
  | blockHeight height => s!"unsupported block height {height}"
  | scalingShift shift => s!"scaling shift {shift}"
  | noiseRows => "noise image too short"
  | noiseColumns => "noise image too narrow"
  | chromaPlane => "assertion failed: plane.is_chroma()"
  | chromaMultipliers => "chroma multipliers out of range"
  | chromaOffset => "chroma offset out of range"
  | evenStart => "assertion failed: subsampling_y == 0 || start_height % 2 == 0"

/-- What stops a computation whose caller broke a promise. -/
inductive Fault where
  /-- A number does not fit its word, or a shift is as long as the word. -/
  | overflow
  /-- An element or a row lies outside its buffer. -/
  | outOfBounds
  /-- A stated precondition does not hold. -/
  | broken (precondition : Precondition)
  deriving DecidableEq, Repr

/-- Check a precondition. -/
def require (condition : Prop) [Decidable condition] (precondition : Precondition) :
    Except Fault Unit :=
  if condition then .ok () else .error (.broken precondition)

/-- A precondition is passed exactly when it holds. -/
theorem require_eq_ok_iff (condition : Prop) [Decidable condition] (precondition : Precondition) :
    require condition precondition = .ok () ↔ condition := by
  by_cases holds : condition <;> simp [require, holds]

/-- What a boundary answers to input that it does not accept. -/
inductive Rejection where
  /-- A scaling table has another number of entries than 257. -/
  | tableLength (entries : Nat)
  /-- The scaling shift has no code. -/
  | scalingShift (shift : Nat)
  /-- A chroma coefficient has no code. -/
  | coefficient (plane : Plane) (coefficient : Coefficient) (value : Int)
  /-- A noise image does not hold as many entries as its shape says. -/
  | noiseShape (rows columns entries : Nat)
  /-- A text names no level. -/
  | unknownLevel (text : String)
  deriving DecidableEq, Repr

/-- The text that reports a rejection. -/
def Rejection.message : Rejection → String
  | tableLength entries => s!"scaling lookup table has {entries} entries, expected 257"
  | scalingShift shift => s!"film grain scaling shift {shift} is outside 8..=11"
  | coefficient plane coded value =>
    let label := coded.label plane
    let low := coded.low
    let high := coded.high
    s!"film grain {label} {value} is outside {low}..={high}"
  | noiseShape rows columns entries =>
    s!"noise image of {rows}x{columns} cannot hold {entries} entries"
  | unknownLevel text => s!"unknown cpu level `{text}`"

/-- Either way in which an operation that checks its input can end early. -/
inductive Failure where
  | fault (fault : Fault)
  | rejected (rejection : Rejection)
  deriving DecidableEq, Repr

end GrainSynthesis
