import GrainSynthesis.Plane

/-!
# Coded chroma coefficients

Each chroma plane carries three coefficients that mix its own samples with luma
into a scaling key. The limits of a coefficient are those of its code: eight
bits around zero for a multiplier, nine for the offset.
-/

namespace GrainSynthesis

/-- A coefficient of a chroma plane's scaling key. -/
inductive Coefficient where
  | multiplier
  | lumaMultiplier
  | offset
  deriving DecidableEq, Repr

namespace Coefficient

/-- The least value of the code. -/
def low : Coefficient → Int
  | multiplier => -128
  | lumaMultiplier => -128
  | offset => -256

/-- The greatest value of the code. -/
def high : Coefficient → Int
  | multiplier => 127
  | lumaMultiplier => 127
  | offset => 255

/-- Whether a value has a code. -/
def admits (coefficient : Coefficient) (value : Int) : Bool :=
  decide (coefficient.low ≤ value) && decide (value ≤ coefficient.high)

/-- A value has a code exactly when it lies between the limits, both included. -/
theorem admits_iff (coefficient : Coefficient) (value : Int) :
    coefficient.admits value = true ↔ coefficient.low ≤ value ∧ value ≤ coefficient.high := by
  simp [admits]

/-- The name under which a plane's coefficient is reported. -/
def label (plane : Plane) (coefficient : Coefficient) : String :=
  let owner := match plane with
    | .y => "y"
    | .u => "u"
    | .v => "v"
  let quantity := match coefficient with
    | multiplier => "multiplier"
    | lumaMultiplier => "luma_multiplier"
    | offset => "offset"
  s!"{owner}_{quantity}"

end Coefficient

end GrainSynthesis
