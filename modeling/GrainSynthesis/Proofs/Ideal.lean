import GrainSynthesis.Grain.Chroma
import GrainSynthesis.Grain.Luma
import GrainSynthesis.Proofs.Nearest

/-!
# Samples with noise, in exact numbers

What the blends compute sample by sample is said here once more without words,
faults or an order of operations: the strength that a table gives at a key, the
luma mean and the mix from which chroma keys are taken, and a sample with scaled
noise. Divisions are exact and rounding is to the nearest integer or downward,
as the film grain specification has it.

On samples and noise entries of the depth, with coded parameters, the checked
computation meets no fault and gives exactly these numbers. Every intermediate
bound that this takes is a lemma of its own.
-/

namespace GrainSynthesis

/-- Samples of either depth have at most ten bits. -/
theorem Depth.IsSample.bounds {depth : Depth} {value : Int} (inside : depth.IsSample value) :
    0 ≤ value ∧ value ≤ 1023 := by
  obtain ⟨above, below⟩ := inside
  cases depth <;> simp only [Depth.maxSample] at below <;> omega

/-- Noise entries of either depth have at most ten bits. -/
theorem Depth.IsGrain.bounds {depth : Depth} {value : Int} (inside : depth.IsGrain value) :
    -512 ≤ value ∧ value ≤ 511 := by
  obtain ⟨above, below⟩ := inside
  cases depth <;> simp only [Depth.minGrain, Depth.maxGrain] at above below <;> omega

/-- Clipping to limits that are samples gives a sample, also where they cross. -/
theorem Depth.isSample_clip (depth : Depth) (value low high : Int)
    (lowInside : depth.IsSample low) (highInside : depth.IsSample high) :
    depth.IsSample (clip value low high) := by
  obtain ⟨lowAbove, lowBelow⟩ := lowInside
  obtain ⟨highAbove, highBelow⟩ := highInside
  rw [clip, Depth.IsSample]
  split
  · exact ⟨lowAbove, lowBelow⟩
  · split
    · exact ⟨highAbove, highBelow⟩
    · omega

namespace ScalingTable

/-- The entry at a position; zero where there is none. -/
def level (table : ScalingTable) (position : Nat) : Int := (table.entries[position]?.getD 0).toNat

/-- The strength of noise at a key. With ten bits it lies as many quarters of the way
from one entry to the next as the two low bits of the key say. -/
def strength (table : ScalingTable) (depth : Depth) (key : Int) : Int :=
  match depth with
  | .eight => table.level key.toNat
  | .ten =>
    let start := table.level (key / 4).toNat
    let stop := table.level ((key / 4).toNat + 1)
    start + nearest (((stop - start) * (key % 4) : Int) / 4)

/-- Entries are bytes. -/
theorem level_mem (table : ScalingTable) (position : Nat) :
    0 ≤ table.level position ∧ table.level position ≤ 255 := by
  rw [level]
  have bounded := (table.entries[position]?.getD 0).toNat_lt
  omega

/-- The entry at a position of the table is found. -/
theorem entry_eq_level (table : ScalingTable) (position : Nat) (inside : position < size) :
    table.entry position = .ok (table.level position) := by
  simp [entry, level, inside]

/-- The rise along a segment, in integers. -/
theorem nearest_quarter (slope quarters : Int) :
    nearest (((slope * quarters : Int) : ℚ) / 4) = (slope * quarters + 2) / 4 := by
  have exponent : (4 : ℚ) = 2 ^ 2 := by norm_num
  rw [exponent, nearest_div_two_pow]
  rfl

/-- The rounded part of a segment lies between its ends, whether it rises or falls. -/
theorem segment_mem (start stop quarters : Int) (startLow : 0 ≤ start) (startHigh : start ≤ 255)
    (stopLow : 0 ≤ stop) (stopHigh : stop ≤ 255) (low : 0 ≤ quarters) (high : quarters < 4) :
    0 ≤ start + nearest (((stop - start) * quarters : Int) / 4) ∧
      start + nearest (((stop - start) * quarters : Int) / 4) ≤ 255 := by
  rw [nearest_quarter]
  obtain rfl | rfl | rfl | rfl : quarters = 0 ∨ quarters = 1 ∨ quarters = 2 ∨ quarters = 3 := by
    omega
  all_goals omega

/-- Strengths are bytes. -/
theorem strength_mem (table : ScalingTable) (depth : Depth) (key : Int) :
    0 ≤ table.strength depth key ∧ table.strength depth key ≤ 255 := by
  cases depth with
  | eight => exact table.level_mem key.toNat
  | ten =>
    obtain ⟨startLow, startHigh⟩ := table.level_mem (key / 4).toNat
    obtain ⟨stopLow, stopHigh⟩ := table.level_mem ((key / 4).toNat + 1)
    exact segment_mem _ _ _ startLow startHigh stopLow stopHigh (by omega) (by omega)

/-- A table has a factor at every sample, and it is the strength there. -/
theorem factor_eq_strength (table : ScalingTable) (depth : Depth) (key : Int)
    (inside : depth.IsSample key) : table.factor depth key = .ok (table.strength depth key) := by
  obtain ⟨above, below⟩ := inside
  cases depth with
  | eight =>
    simp only [Depth.maxSample] at below
    have stored : key.toNat < size := by unfold size; omega
    simp [factor, position, above, entry_eq_level table key.toNat stored, strength, bind,
      Except.bind]
  | ten =>
    simp only [Depth.maxSample] at below
    have quotient : 0 ≤ key / 4 := by omega
    have stored : (key / 4).toNat + 1 < size := by unfold size; omega
    have startStored : (key / 4).toNat < size := by omega
    have rise (slope : Int) : roundedShift (slope * (key % 4)) 2 =
        nearest (((slope * (key % 4) : Int) : ℚ) / 4) := by
      rw [nearest_quarter]
      rfl
    simp [factor, position, quotient, entry_eq_level table _ startStored,
      entry_eq_level table _ stored, strength, interpolate, rise, bind, Except.bind, pure,
      Except.pure]

end ScalingTable

namespace Noise

/-- The shift has a code and both bounds of results are samples. -/
structure Setting.Valid (setting : Setting) : Prop where
  coded : GrainParameters.ShiftCoded setting.shift
  low : setting.depth.IsSample setting.low
  high : setting.depth.IsSample setting.high

/-- A noise entry as it is added at a key: scaled by the strength there, shifted down
and rounded. -/
def added (setting : Setting) (key entry : Int) : Int :=
  nearest ((setting.table.strength setting.depth key * entry : Int) / 2 ^ setting.shift)

/-- A sample with noise. -/
def ideal (setting : Setting) (key sample entry : Int) : Int :=
  clip (sample + added setting key entry) setting.low setting.high

/-- The product of a strength and a noise entry has at most eighteen bits. -/
theorem product_mem (table : ScalingTable) (depth : Depth) (key entry : Int)
    (inside : depth.IsGrain entry) :
    -130560 ≤ table.strength depth key * entry ∧ table.strength depth key * entry ≤ 130560 := by
  obtain ⟨strengthLow, strengthHigh⟩ := table.strength_mem depth key
  obtain ⟨entryLow, entryHigh⟩ := inside.bounds
  exact mul_mem_of_abs_le _ _ 255 512 (by omega) strengthHigh entryLow (by omega)

/-- Noise as it is added has at most ten bits. -/
theorem added_mem (setting : Setting) (key entry : Int)
    (coded : GrainParameters.ShiftCoded setting.shift) (inside : setting.depth.IsGrain entry) :
    -510 ≤ added setting key entry ∧ added setting key entry ≤ 510 := by
  obtain ⟨productLow, productHigh⟩ := product_mem setting.table setting.depth key entry inside
  have power : (256 : ℚ) ≤ 2 ^ setting.shift := by
    calc (256 : ℚ) = 2 ^ 8 := by norm_num
      _ ≤ 2 ^ setting.shift := pow_le_pow_right₀ (by norm_num) coded.1
  have positive : (0 : ℚ) < 2 ^ setting.shift := by linarith
  apply nearest_mem
  · rw [le_div_iff₀ positive]
    have lower : ((-130560 : Int) : ℚ) ≤ (setting.table.strength setting.depth key * entry : Int) :=
      Int.cast_le.mpr productLow
    push_cast at lower ⊢
    linarith
  · rw [div_le_iff₀ positive]
    have upper : ((setting.table.strength setting.depth key * entry : Int) : ℚ) ≤ (130560 : Int) :=
      Int.cast_le.mpr productHigh
    push_cast at upper ⊢
    linarith

/-- A result is a sample. -/
theorem isSample_ideal (setting : Setting) (valid : setting.Valid) (key sample entry : Int) :
    setting.depth.IsSample (ideal setting key sample entry) :=
  setting.depth.isSample_clip _ _ _ valid.low valid.high

/-- Scaling an entry by a strength meets no fault. -/
theorem scaled_eq_added (setting : Setting) (key entry : Int)
    (coded : GrainParameters.ShiftCoded setting.shift) (inside : setting.depth.IsGrain entry) :
    scaled (setting.table.strength setting.depth key) entry setting.shift =
      .ok (added setting key entry) := by
  obtain ⟨productLow, productHigh⟩ := product_mem setting.table setting.depth key entry inside
  have half : (0 : Int) ≤ 2 ^ (setting.shift - 1) ∧ (2 : Int) ^ (setting.shift - 1) ≤ 2 ^ 10 := by
    refine ⟨by positivity, pow_le_pow_right₀ (by norm_num) ?_⟩
    have most : setting.shift ≤ 11 := coded.2
    omega
  have fits : Word.signed (setting.table.strength setting.depth key * entry) =
      .ok (setting.table.strength setting.depth key * entry) :=
    Word.signed_of_mem _ (by omega) (by omega)
  rw [scaled]
  rw [fits]
  exact roundShift_eq_nearest _ _ (by omega)

/-- Adding noise to a sample meets no fault and gives the ideal result. -/
theorem add_eq_ideal (setting : Setting) (valid : setting.Valid) (key sample entry : Int)
    (keyInside : setting.depth.IsSample key) (sampleInside : setting.depth.IsSample sample)
    (entryInside : setting.depth.IsGrain entry) :
    add setting key sample entry = .ok (ideal setting key sample entry) := by
  obtain ⟨addedLow, addedHigh⟩ := added_mem setting key entry valid.coded entryInside
  obtain ⟨sampleLow, sampleHigh⟩ := sampleInside.bounds
  have fits : Word.signed (sample + added setting key entry) =
      .ok (sample + added setting key entry) :=
    Word.signed_of_mem _ (by omega) (by omega)
  have stored : setting.depth.sample (ideal setting key sample entry) =
      .ok (ideal setting key sample entry) :=
    (setting.depth.sample_eq_ok_iff _ _).mpr ⟨isSample_ideal setting valid key sample entry, rfl⟩
  simp only [add, setting.table.factor_eq_strength setting.depth key keyInside,
    scaled_eq_added setting key entry valid.coded entryInside, fits, bind, Except.bind]
  exact stored

end Noise

end GrainSynthesis
