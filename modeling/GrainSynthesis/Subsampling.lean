import GrainSynthesis.Arithmetic

/-!
# Chroma subsampling

A chroma plane can have fewer columns and rows than luma, by a power of two in
each direction. Its extent is the luma extent divided by that power, and a
remainder of one luma sample still has a chroma sample of its own when the
power is two.
-/

namespace GrainSynthesis

/-- The binary logarithms of how many luma columns and rows share one chroma
sample. -/
structure Subsampling where
  x : Nat
  y : Nat
  deriving DecidableEq, Repr

/-- A width and a height. -/
structure Extent where
  width : Nat
  height : Nat
  deriving DecidableEq, Repr

namespace Subsampling

/-- The chroma extent along one direction. -/
def reduce (extent places : Nat) : Except Fault Nat := do
  let padded ← Word.size (extent + places)
  Word.shiftRight padded places

/-- The extent of a chroma plane. -/
def chromaExtent (subsampling : Subsampling) (luma : Extent) : Except Fault Extent := do
  let width ← reduce luma.width subsampling.x
  let height ← reduce luma.height subsampling.y
  return ⟨width, height⟩

/-- The luma row with which a chroma row is co-located. -/
def lumaRow (subsampling : Subsampling) (row : Nat) : Nat := row * Nat.pow 2 subsampling.y

/-- A reduced extent exists exactly when the padded extent can be counted and the
shift is shorter than the word. -/
theorem reduce_eq_ok_iff (extent places reduced : Nat) :
    reduce extent places = .ok reduced ↔
      extent + places < Word.sizeLimit ∧ places < 64 ∧
        reduced = (extent + places) / Nat.pow 2 places := by
  by_cases fits : extent + places < Word.sizeLimit
  · by_cases short : places < 64 <;>
      simp [reduce, Word.size, Word.shiftRight, fits, short, bind, Except.bind, eq_comm]
  · simp [reduce, Word.size, fits, bind, Except.bind]

end Subsampling

end GrainSynthesis
