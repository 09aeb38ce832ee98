import GrainSynthesis.Fault

/-!
# Film grain parameters

The parameters of a picture say which planes take noise, how strongly it is
scaled down, how chroma keys are mixed, and to what range results are clipped.
They are accepted when the scaling shift and all six chroma coefficients have a
code; the answer for anything else names the first one that has none.
-/

namespace GrainSynthesis

/-- How the scaling key of a chroma plane is mixed from luma and chroma. -/
structure KeyMix where
  /-- The weight of the plane's own sample, in 64ths. -/
  multiplier : Int
  /-- The weight of the luma sample, in 64ths. -/
  lumaMultiplier : Int
  /-- What is added, in steps of the eight-bit range. -/
  offset : Int
  deriving DecidableEq, Repr

namespace KeyMix

/-- The mix that leaves nothing of either sample. -/
def zero : KeyMix := ⟨0, 0, 0⟩

/-- The value of a coefficient. -/
def get (mix : KeyMix) : Coefficient → Int
  | .multiplier => mix.multiplier
  | .lumaMultiplier => mix.lumaMultiplier
  | .offset => mix.offset

/-- Replace the value of a coefficient. -/
def set (mix : KeyMix) (coefficient : Coefficient) (value : Int) : KeyMix :=
  match coefficient with
  | .multiplier => { mix with multiplier := value }
  | .lumaMultiplier => { mix with lumaMultiplier := value }
  | .offset => { mix with offset := value }

end KeyMix

/-- The bounds of results: one lower bound, and an upper bound each for luma and
chroma. -/
structure ClipRange where
  low : Int
  highLuma : Int
  highChroma : Int
  deriving DecidableEq, Repr

/-- The upper bound for a plane. -/
def ClipRange.high (range : ClipRange) (plane : Plane) : Int :=
  if plane.isChroma then range.highChroma else range.highLuma

/-- The film grain parameters of a picture. -/
structure GrainParameters where
  /-- Chroma noise is scaled through the luma table at the luma mean. -/
  chromaFromLuma : Bool
  /-- Results are clipped to the range of studio video. -/
  restrictedRange : Bool
  /-- By how many bits scaled noise is shifted down, on every plane. -/
  scalingShift : Nat
  /-- How many points each plane's scaling function has. -/
  points : PerPlane Nat
  /-- The key mix of the first chroma plane. -/
  mixU : KeyMix
  /-- The key mix of the second chroma plane. -/
  mixV : KeyMix
  deriving DecidableEq, Repr

namespace GrainParameters

/-- No plane takes noise, and every number is zero. -/
def unset : GrainParameters := ⟨false, false, 0, ⟨0, 0, 0⟩, .zero, .zero⟩

/-- The key mix of a plane. Luma has none of its own, which counts as zero. -/
def mix (parameters : GrainParameters) : Plane → KeyMix
  | .y => .zero
  | .u => parameters.mixU
  | .v => parameters.mixV

/-- Replace the key mix of a plane; luma has none to replace. -/
def setMix (parameters : GrainParameters) (plane : Plane) (mix : KeyMix) : GrainParameters :=
  match plane with
  | .y => parameters
  | .u => { parameters with mixU := mix }
  | .v => { parameters with mixV := mix }

/-- Whether a plane takes noise: it has scaling points, or it is a chroma plane
that is scaled from luma. -/
def appliesTo (parameters : GrainParameters) (plane : Plane) : Bool :=
  decide (0 < parameters.points.get plane) || plane.isChroma && parameters.chromaFromLuma

/-- The least scaling shift that has a code. -/
def minShift : Nat := 8

/-- The greatest scaling shift that has a code. -/
def maxShift : Nat := 11

/-- Whether a scaling shift has a code. -/
def ShiftCoded (shift : Nat) : Prop := minShift ≤ shift ∧ shift ≤ maxShift

instance (shift : Nat) : Decidable (ShiftCoded shift) := inferInstanceAs (Decidable (_ ∧ _))

/-- Accept a scaling shift that has a code, or report it. -/
def checkShift (shift : Nat) : Except Rejection Unit :=
  if ShiftCoded shift then .ok () else .error (.scalingShift shift)

/-- Accept a value that has a code as a coefficient of a plane, or report it. -/
def checkCoefficient (plane : Plane) (coefficient : Coefficient) (value : Int) :
    Except Rejection Unit :=
  if coefficient.admits value = true then .ok () else .error (.coefficient plane coefficient value)

/-- Accept the parameters, or name the first one that has no code. -/
def validate (parameters : GrainParameters) : Except Rejection Unit := do
  checkShift parameters.scalingShift
  checkCoefficient .u .multiplier parameters.mixU.multiplier
  checkCoefficient .u .lumaMultiplier parameters.mixU.lumaMultiplier
  checkCoefficient .u .offset parameters.mixU.offset
  checkCoefficient .v .multiplier parameters.mixV.multiplier
  checkCoefficient .v .lumaMultiplier parameters.mixV.lumaMultiplier
  checkCoefficient .v .offset parameters.mixV.offset

/-- The range of results at a depth. The restricted range is that of eight-bit
studio video, scaled to the depth; when the colour matrix is the identity,
chroma planes hold colours and are bounded like luma. -/
def clipRange (parameters : GrainParameters) (depth : Depth) (identityMatrix : Bool) : ClipRange :=
  if parameters.restrictedRange then
    let highLuma := 235 * Int.pow 2 depth.extraBits
    ⟨16 * Int.pow 2 depth.extraBits, highLuma,
      if identityMatrix then highLuma else 240 * Int.pow 2 depth.extraBits⟩
  else
    ⟨0, depth.maxSample, depth.maxSample⟩

/-- The bounds of results are samples, and the lower one is below both upper ones. -/
theorem clipRange_ordered (parameters : GrainParameters) (depth : Depth) (identityMatrix : Bool)
    (plane : Plane) :
    0 ≤ (parameters.clipRange depth identityMatrix).low ∧
      (parameters.clipRange depth identityMatrix).low ≤
        (parameters.clipRange depth identityMatrix).high plane ∧
      (parameters.clipRange depth identityMatrix).high plane ≤ depth.maxSample := by
  cases restricted : parameters.restrictedRange <;> cases depth <;> cases identityMatrix <;>
    cases plane <;> simp only [clipRange, restricted] <;> decide

end GrainParameters

end GrainSynthesis
