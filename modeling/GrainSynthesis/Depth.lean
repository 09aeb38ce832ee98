/-!
# Sample depths

Samples have eight or ten bits. The depth fixes the greatest sample, the range
of the noise entries that may be added to one, and how far a value coded for
eight bits is shifted to mean the same at this depth.
-/

namespace GrainSynthesis

/-- The number of bits of a sample: eight or ten. -/
inductive Depth where
  | eight
  | ten
  deriving DecidableEq, Repr

namespace Depth

/-- The bits of one sample. -/
def bits : Depth → Nat
  | eight => 8
  | ten => 10

/-- The bits of a sample beyond the eight for which parameters are coded. -/
def extraBits : Depth → Nat
  | eight => 0
  | ten => 2

/-- The greatest sample; the least is zero. -/
def maxSample : Depth → Int
  | eight => 255
  | ten => 1023

/-- The least noise entry. -/
def minGrain : Depth → Int
  | eight => -128
  | ten => -512

/-- The greatest noise entry. -/
def maxGrain : Depth → Int
  | eight => 127
  | ten => 511

/-- A value that is a sample at this depth. -/
def IsSample (depth : Depth) (value : Int) : Prop := 0 ≤ value ∧ value ≤ depth.maxSample

/-- A value that is a noise entry at this depth. -/
def IsGrain (depth : Depth) (value : Int) : Prop :=
  depth.minGrain ≤ value ∧ value ≤ depth.maxGrain

instance (depth : Depth) (value : Int) : Decidable (depth.IsSample value) :=
  inferInstanceAs (Decidable (_ ∧ _))

instance (depth : Depth) (value : Int) : Decidable (depth.IsGrain value) :=
  inferInstanceAs (Decidable (_ ∧ _))

/-- The samples of a depth are the numbers that its bits can write. -/
theorem maxSample_eq (depth : Depth) : depth.maxSample = Int.pow 2 depth.bits - 1 := by
  cases depth <;> rfl

/-- Zero and the greatest sample do not cross. -/
theorem maxSample_nonneg (depth : Depth) : 0 ≤ depth.maxSample := by
  cases depth <;> decide

/-- The extra bits are those beyond eight. -/
theorem bits_eq (depth : Depth) : depth.bits = 8 + depth.extraBits := by
  cases depth <;> rfl

/-- Grain takes half of the codes on each side of zero, zero counting as positive. -/
theorem grain_range (depth : Depth) :
    depth.minGrain = -(128 * Int.pow 2 depth.extraBits) ∧
      depth.maxGrain = 128 * Int.pow 2 depth.extraBits - 1 := by
  cases depth <;> exact ⟨rfl, rfl⟩

end Depth

end GrainSynthesis
