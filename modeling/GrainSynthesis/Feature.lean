/-!
# Processor features

Two features of a processor matter here, one for each width of vector kernel.
A set of features is written as the bits of a mask; bits that stand for no known
feature are ignored.
-/

namespace GrainSynthesis

/-- A set of processor features. -/
structure FeatureSet where
  /-- The SSE4.1 instructions, for 128-bit vectors. -/
  sse41 : Bool
  /-- The AVX2 instructions, for 256-bit vectors. -/
  avx2 : Bool
  deriving DecidableEq, Repr

namespace FeatureSet

/-- No feature. -/
def empty : FeatureSet := ⟨false, false⟩

/-- Every known feature. -/
def all : FeatureSet := ⟨true, true⟩

/-- The features that two sets share. -/
def inter (left right : FeatureSet) : FeatureSet :=
  ⟨left.sse41 && right.sse41, left.avx2 && right.avx2⟩

/-- Whether every feature of one set is in the other. -/
def Subset (left right : FeatureSet) : Prop :=
  (left.sse41 = true → right.sse41 = true) ∧ (left.avx2 = true → right.avx2 = true)

/-- The mask of a set: bit 0 for SSE4.1, bit 1 for AVX2. -/
def bits (features : FeatureSet) : Nat :=
  (if features.sse41 then 1 else 0) + (if features.avx2 then 2 else 0)

/-- The known features of a mask. -/
def ofBits (mask : UInt32) : FeatureSet := ⟨mask.toNat.testBit 0, mask.toNat.testBit 1⟩

/-- A set as it is written in messages. -/
def text (features : FeatureSet) : String :=
  match features with
  | ⟨false, false⟩ => "CpuFlags(0x0)"
  | ⟨true, false⟩ => "CpuFlags(SSE41)"
  | ⟨false, true⟩ => "CpuFlags(AVX2)"
  | ⟨true, true⟩ => "CpuFlags(SSE41 | AVX2)"

/-- A set is read back from its own mask. -/
theorem ofBits_bits (features : FeatureSet) : ofBits (UInt32.ofNat features.bits) = features := by
  obtain ⟨sse41, avx2⟩ := features
  cases sse41 <;> cases avx2 <;> decide

/-- What two sets share is in the first. -/
theorem inter_subset_left (left right : FeatureSet) : (left.inter right).Subset left := by
  simp +contextual [inter, Subset]

/-- What two sets share is in the second. -/
theorem inter_subset_right (left right : FeatureSet) : (left.inter right).Subset right := by
  simp +contextual [inter, Subset]

/-- The set of all features restricts nothing. -/
theorem inter_all (features : FeatureSet) : features.inter all = features := by
  simp [inter, all]

end FeatureSet

end GrainSynthesis
