import GrainSynthesis.Proofs.Ideal
import GrainSynthesis.Proofs.Reach

/-!
# Chroma keys, in exact numbers

A chroma sample is keyed on a mean of luma, or on a mix of that mean with the
sample itself. Both are stated over a luma row given as a function of the column,
so they apply to a row that was read and to the plane that it was read from.

A chroma column never asks for luma past the visible width. Its left neighbour
always exists, and the right one is the last column at the edge of an odd width.
-/

namespace GrainSynthesis

/-- A chroma column of the reduced width has its left luma neighbour, whatever the
power of two by which columns are shared. -/
theorem Subsampling.double_lt (width places column : Nat) (shared : places ≠ 0)
    (inside : column < (width + places) / 2 ^ places) : 2 * column < width := by
  have reached : (column + 1) * 2 ^ places ≤ width + places :=
    (Nat.le_div_iff_mul_le (Nat.two_pow_pos places)).mp inside
  have wide : places < 2 ^ places := Nat.lt_two_pow_self
  have doubled : 2 * column ≤ column * 2 ^ places := by
    have even : 2 ≤ 2 ^ places := Nat.le_self_pow shared 2
    calc 2 * column = column * 2 := Nat.mul_comm 2 column
      _ ≤ column * 2 ^ places := Nat.mul_le_mul_left column even
  rw [Nat.succ_mul] at reached
  omega

/-- Where columns are not shared, a chroma column of the reduced width is a luma column. -/
theorem Subsampling.single_lt (width places column : Nat) (single : places = 0)
    (inside : column < (width + places) / 2 ^ places) : column < width := by
  subst single
  simpa using inside

namespace KeyMix

/-- Every coefficient has a code. -/
def Coded (mix : KeyMix) : Prop :=
  ∀ coefficient : Coefficient, coefficient.admits (mix.get coefficient)

/-- Coded coefficients have at most nine bits. -/
theorem Coded.bounds {mix : KeyMix} (coded : mix.Coded) :
    (-128 ≤ mix.multiplier ∧ mix.multiplier ≤ 127) ∧
      (-128 ≤ mix.lumaMultiplier ∧ mix.lumaMultiplier ≤ 127) ∧
        -256 ≤ mix.offset ∧ mix.offset ≤ 255 :=
  ⟨(Coefficient.admits_iff .multiplier _).mp (coded .multiplier),
    (Coefficient.admits_iff .lumaMultiplier _).mp (coded .lumaMultiplier),
    (Coefficient.admits_iff .offset _).mp (coded .offset)⟩

/-- A mix is coded when each of its three coefficients has a code. -/
theorem coded_iff (mix : KeyMix) :
    mix.Coded ↔
      (Coefficient.multiplier.admits mix.multiplier = true ∧
        Coefficient.lumaMultiplier.admits mix.lumaMultiplier = true) ∧
          Coefficient.offset.admits mix.offset = true := by
  constructor
  · intro coded
    exact ⟨⟨coded .multiplier, coded .lumaMultiplier⟩, coded .offset⟩
  · rintro ⟨⟨multiplier, lumaMultiplier⟩, offset⟩ coefficient
    cases coefficient <;> assumption

end KeyMix

namespace GrainParameters

/-- A shift is accepted exactly when it has a code. -/
theorem checkShift_eq_ok_iff (shift : Nat) : checkShift shift = .ok () ↔ ShiftCoded shift := by
  by_cases coded : ShiftCoded shift <;> simp [checkShift, coded]

/-- A coefficient is accepted exactly when its value has a code. -/
theorem checkCoefficient_eq_ok_iff (plane : Plane) (coefficient : Coefficient) (value : Int) :
    checkCoefficient plane coefficient value = .ok () ↔ coefficient.admits value = true := by
  by_cases admitted : coefficient.admits value = true <;> simp [checkCoefficient, admitted]

/-- Parameters are accepted exactly when the shift has a code and both chroma planes have a coded
mix. -/
theorem validate_eq_ok_iff (parameters : GrainParameters) :
    parameters.validate = .ok () ↔
      ShiftCoded parameters.scalingShift ∧
        ∀ plane ∈ Plane.chroma, (parameters.mix plane).Coded := by
  have planes : (∀ plane ∈ Plane.chroma, (parameters.mix plane).Coded) ↔
      parameters.mixU.Coded ∧ parameters.mixV.Coded := by
    simp [Plane.chroma, mix]
  rw [planes, KeyMix.coded_iff, KeyMix.coded_iff]
  simp only [validate, check_then_eq_ok_iff, checkShift_eq_ok_iff, checkCoefficient_eq_ok_iff,
    and_assoc]

/-- Accepted parameters have a coded mix for each chroma plane. -/
theorem coded_of_validate (parameters : GrainParameters) (plane : Plane)
    (accepted : parameters.validate = .ok ()) (chroma : plane.isChroma = true) :
    (parameters.mix plane).Coded :=
  ((validate_eq_ok_iff parameters).mp accepted).2 plane ((Plane.mem_chroma_iff plane).mpr chroma)

end GrainParameters

namespace ChromaJob

/-- The luma value at a chroma column: the sample itself, or the rounded mean of two
neighbours, of which the right one does not lie past the last column. -/
def mean (luma : Nat → Int) (width subsamplingX column : Nat) : Int :=
  if subsamplingX = 0 then luma column
  else nearest ((luma (2 * column) + luma (min (2 * column + 1) (width - 1)) : Int) / 2)

/-- The weighted sum from which a mixed key is made. -/
def weighted (mix : KeyMix) (average sample : Int) : Int :=
  average * mix.lumaMultiplier + sample * mix.multiplier

/-- The mixed key: 64ths of the weighted sum, rounded down, and the offset, within the
samples of the depth. -/
def mixed (depth : Depth) (mix : KeyMix) (average sample : Int) : Int :=
  clip (⌊(weighted mix average sample : ℚ) / 64⌋ + mix.offset * 2 ^ depth.extraBits) 0
    depth.maxSample

/-- The key of a chroma sample. -/
def idealKey (job : ChromaJob) (mode : KeyMode) (average sample : Int) : Int :=
  match mode with
  | .luma => average
  | .mixed => mixed job.depth (job.parameters.mix job.plane) average sample

/-- The rounded mean of two numbers, in integers. -/
theorem nearest_half (sum : Int) : nearest ((sum : ℚ) / 2) = (sum + 1) / 2 := by
  have exponent : (2 : ℚ) = 2 ^ 1 := by norm_num
  rw [exponent, nearest_div_two_pow]
  rfl

/-- Rounding down 64ths is the division of integers. -/
theorem floor_sixtyFourths (sum : Int) : ⌊(sum : ℚ) / 64⌋ = sum / 64 := by
  exact_mod_cast Rat.floor_intCast_div_natCast sum 64

/-- The mean of luma samples is a sample. -/
theorem isSample_mean (depth : Depth) (luma : Nat → Int) (width subsamplingX column : Nat)
    (samples : ∀ position < width, depth.IsSample (luma position))
    (unshared : subsamplingX = 0 → column < width)
    (shared : subsamplingX ≠ 0 → 2 * column < width) :
    depth.IsSample (mean luma width subsamplingX column) := by
  rw [mean]
  split
  · rename_i single
    exact samples column (unshared single)
  · rename_i double
    have inside := shared double
    obtain ⟨leftAbove, leftBelow⟩ := samples (2 * column) inside
    obtain ⟨rightAbove, rightBelow⟩ := samples (min (2 * column + 1) (width - 1)) (by omega)
    rw [nearest_half]
    rw [Depth.IsSample]
    omega

/-- The mean of luma samples is a sample at every visible chroma column. -/
theorem isSample_mean_of_visible (depth : Depth) (luma : Nat → Int)
    (width subsamplingX column : Nat)
    (samples : ∀ position < width, depth.IsSample (luma position))
    (inside : column < (width + subsamplingX) / 2 ^ subsamplingX) :
    depth.IsSample (mean luma width subsamplingX column) :=
  isSample_mean depth luma width subsamplingX column samples
    (fun single => Subsampling.single_lt width subsamplingX column single inside)
    (fun double => Subsampling.double_lt width subsamplingX column double inside)

/-- A mixed key is a sample, whatever is mixed. -/
theorem isSample_mixed (depth : Depth) (mix : KeyMix) (average sample : Int) :
    depth.IsSample (mixed depth mix average sample) :=
  depth.isSample_clip _ _ _ ⟨le_refl 0, depth.maxSample_nonneg⟩
    ⟨depth.maxSample_nonneg, le_refl depth.maxSample⟩

/-- The key of a chroma sample is a sample whenever the luma value is one. -/
theorem isSample_idealKey (job : ChromaJob) (mode : KeyMode) (average sample : Int)
    (inside : job.depth.IsSample average) :
    job.depth.IsSample (job.idealKey mode average sample) := by
  cases mode with
  | luma => exact inside
  | mixed => exact isSample_mixed job.depth _ average sample

/-- On a luma row that was read, the mean is found at every column with a left
neighbour. -/
theorem averageLuma_eq_mean (cells : Array Int) (luma : Nat → Int)
    (width subsamplingX column : Nat) (holds : Holds cells width luma)
    (unshared : subsamplingX = 0 → column < width)
    (shared : subsamplingX ≠ 0 → 2 * column < width) :
    averageLuma cells subsamplingX column = .ok (mean luma width subsamplingX column) := by
  rw [averageLuma, mean]
  split
  · rename_i single
    exact holds.elementAt column (unshared single)
  · rename_i double
    have inside := shared double
    have occupied : ¬ cells.size = 0 := by
      rw [holds.size]
      omega
    have left := holds.elementAt (2 * column) inside
    have right := holds.elementAt (min (2 * column + 1) (width - 1)) (by omega)
    rw [if_neg occupied, holds.size, left, right, nearest_half]
    rfl

/-- The products of a mix and their sum have at most nineteen bits. -/
theorem weighted_mem (mix : KeyMix) (coded : mix.Coded) (depth : Depth) (average sample : Int)
    (averageInside : depth.IsSample average) (sampleInside : depth.IsSample sample) :
    (-130944 ≤ average * mix.lumaMultiplier ∧ average * mix.lumaMultiplier ≤ 130944) ∧
      (-130944 ≤ sample * mix.multiplier ∧ sample * mix.multiplier ≤ 130944) := by
  obtain ⟨⟨multiplierLow, multiplierHigh⟩, ⟨lumaLow, lumaHigh⟩, _⟩ := coded.bounds
  obtain ⟨averageLow, averageHigh⟩ := averageInside.bounds
  obtain ⟨sampleLow, sampleHigh⟩ := sampleInside.bounds
  exact ⟨mul_mem_of_abs_le average mix.lumaMultiplier 1023 128 (by omega) averageHigh lumaLow
      (by omega),
    mul_mem_of_abs_le sample mix.multiplier 1023 128 (by omega) sampleHigh multiplierLow
      (by omega)⟩

/-- The offset at a depth has at most eleven bits. -/
theorem offset_mem (mix : KeyMix) (coded : mix.Coded) (depth : Depth) :
    -1024 ≤ mix.offset * 2 ^ depth.extraBits ∧ mix.offset * 2 ^ depth.extraBits ≤ 1020 := by
  obtain ⟨_, _, offsetLow, offsetHigh⟩ := coded.bounds
  cases depth <;> simp only [Depth.extraBits] <;> omega

/-- Mixing a key meets no fault. -/
theorem mixedKey_eq_mixed (depth : Depth) (mix : KeyMix) (coded : mix.Coded)
    (average sample : Int) (averageInside : depth.IsSample average)
    (sampleInside : depth.IsSample sample) :
    mixedKey depth mix average sample = .ok (mixed depth mix average sample) := by
  obtain ⟨⟨lumaLow, lumaHigh⟩, chromaLow, chromaHigh⟩ :=
    weighted_mem mix coded depth average sample averageInside sampleInside
  obtain ⟨offsetLow, offsetHigh⟩ := offset_mem mix coded depth
  have fromLuma := Word.signed_of_mem (average * mix.lumaMultiplier) (by omega) (by omega)
  have fromChroma := Word.signed_of_mem (sample * mix.multiplier) (by omega) (by omega)
  have combined := Word.signed_of_mem (average * mix.lumaMultiplier + sample * mix.multiplier)
    (by omega) (by omega)
  have shifted := Word.signed_of_mem
    ((average * mix.lumaMultiplier + sample * mix.multiplier) / 64 +
      mix.offset * 2 ^ depth.extraBits) (by omega) (by omega)
  simp only [mixedKey, fromLuma, fromChroma, combined, Int.pow_eq, shifted, mixed, weighted,
    floor_sixtyFourths, bind, Except.bind, pure, Except.pure]

/-- The key of a chroma sample is found. -/
theorem key_eq_idealKey (job : ChromaJob) (mode : KeyMode)
    (coded : (job.parameters.mix job.plane).Coded) (average sample : Int)
    (averageInside : job.depth.IsSample average) (sampleInside : job.depth.IsSample sample) :
    job.key mode average sample = .ok (job.idealKey mode average sample) := by
  cases mode with
  | luma => rfl
  | mixed => exact mixedKey_eq_mixed job.depth _ coded average sample averageInside sampleInside

/-- Coefficients pass their check exactly when the plane is a chroma plane and its mix is coded. -/
theorem checkCoefficients_eq_ok_iff (job : ChromaJob) :
    job.checkCoefficients = .ok () ↔
      job.plane.isChroma = true ∧ (job.parameters.mix job.plane).Coded := by
  rw [KeyMix.coded_iff]
  simp only [checkCoefficients, check_then_eq_ok_iff, require_eq_ok_iff]

/-- Coded coefficients of a chroma plane pass their check. -/
theorem checkCoefficients_of_coded (job : ChromaJob) (chromaPlane : job.plane.isChroma = true)
    (coded : (job.parameters.mix job.plane).Coded) : job.checkCoefficients = .ok () :=
  job.checkCoefficients_eq_ok_iff.mpr ⟨chromaPlane, coded⟩

/-- Accepted parameters pass the check of the coefficients of a chroma plane. -/
theorem checkCoefficients_of_validate (job : ChromaJob) (chromaPlane : job.plane.isChroma = true)
    (accepted : job.parameters.validate = .ok ()) : job.checkCoefficients = .ok () :=
  job.checkCoefficients_of_coded chromaPlane
    (job.parameters.coded_of_validate job.plane accepted chromaPlane)

end ChromaJob

end GrainSynthesis
