import GrainSynthesis.Arithmetic
import Mathlib.Data.Rat.Floor
import Mathlib.Tactic.FieldSimp
import Mathlib.Tactic.Linarith
import Mathlib.Tactic.Ring

/-!
# The nearest integer

Noise, interpolated factors and means are rounded to the nearest integer, a half
going upward. `nearest` says so for exact rational numbers, without a word width
or an order of operations. The rounding shifts of the blends, checked or not,
compute it, and so does the rounded high half of a product by which registers
scale noise.
-/

namespace GrainSynthesis

/-- The integer nearest to a number, a half going upward. -/
def nearest (value : ℚ) : Int := ⌊value + 1 / 2⌋

/-- The nearest integer is the one within a half of a number, a half below it not counting. -/
theorem nearest_eq_iff (value : ℚ) (integer : Int) :
    nearest value = integer ↔ value - 1 / 2 < integer ∧ integer ≤ value + 1 / 2 := by
  rw [nearest, Int.floor_eq_iff]
  constructor
  · rintro ⟨above, below⟩
    exact ⟨by linarith, above⟩
  · rintro ⟨below, above⟩
    exact ⟨above, by linarith⟩

/-- An integer that is added can be added after rounding. -/
theorem nearest_add (integer : Int) (value : ℚ) :
    nearest (integer + value) = integer + nearest value := by
  rw [nearest, nearest, add_assoc, Int.floor_intCast_add]

/-- A rounded shift is the nearest integer to the exact quotient. -/
theorem nearest_div_two_pow (value : Int) (shift : Nat) :
    nearest (value / 2 ^ shift) = roundedShift value shift := by
  rw [nearest, roundedShift]
  split
  · rename_i unshifted
    subst unshifted
    rw [pow_zero, div_one, Int.floor_eq_iff]
    constructor <;> linarith
  · rename_i shifted
    obtain ⟨half, rfl⟩ : ∃ half, shift = half + 1 := ⟨shift - 1, by omega⟩
    have power : (2 : ℚ) ^ half ≠ 0 := pow_ne_zero half (by norm_num)
    have joined : (value : ℚ) / 2 ^ (half + 1) + 1 / 2 =
        ((value + 2 ^ half : Int) : ℚ) / ((2 ^ (half + 1) : Nat) : ℚ) := by
      push_cast
      rw [pow_succ]
      field_simp
    rw [joined, Rat.floor_intCast_div_natCast, Nat.add_sub_cancel]
    push_cast
    rfl

/-- Rounding in a signed word gives the nearest integer whenever the sum with the
half fits. -/
theorem roundShift_eq_nearest (value : Int) (shift : Nat)
    (fits : -2147483648 ≤ value + 2 ^ (shift - 1) ∧ value + 2 ^ (shift - 1) ≤ 2147483647) :
    roundShift value shift = .ok (nearest (value / 2 ^ shift)) := by
  rw [roundShift_eq_ok value shift fits, nearest_div_two_pow]

/-- The integer nearest to a number lies between integers that the number lies
between. -/
theorem nearest_mem (value : ℚ) (low high : Int) (above : (low : ℚ) ≤ value)
    (below : value ≤ high) : low ≤ nearest value ∧ nearest value ≤ high := by
  rw [nearest]
  constructor
  · rw [Int.le_floor]
    linarith
  · have beyond : ⌊value + 1 / 2⌋ < high + 1 := by
      rw [Int.floor_lt]
      push_cast
      linarith
    omega

/-- Rounding to the nearest integer keeps the order. -/
theorem nearest_mono {value other : ℚ} (below : value ≤ other) :
    nearest value ≤ nearest other :=
  Int.floor_le_floor (add_le_add_left below _)

/-- The product of numbers whose distances from zero are bounded. -/
theorem mul_mem_of_abs_le (left right leftBound rightBound : Int)
    (leftLow : -leftBound ≤ left) (leftHigh : left ≤ leftBound)
    (rightLow : -rightBound ≤ right) (rightHigh : right ≤ rightBound) :
    -(leftBound * rightBound) ≤ left * right ∧ left * right ≤ leftBound * rightBound := by
  have product : |left * right| ≤ leftBound * rightBound := by
    rw [abs_mul]
    exact mul_le_mul (abs_le.mpr ⟨leftLow, leftHigh⟩) (abs_le.mpr ⟨rightLow, rightHigh⟩)
      (abs_nonneg right) (by omega)
  exact abs_le.mp product

/-- The rounded high half of the product of an entry with a factor that was shifted
left is the entry scaled and shifted down with rounding. -/
theorem highHalf_eq_nearest (factor entry : Int) (shift : Nat) (low : 8 ≤ shift)
    (high : shift ≤ 11) :
    (entry * (factor * 2 ^ (15 - shift)) + 16384) / 32768 =
      nearest (((factor * entry : Int) : ℚ) / 2 ^ shift) := by
  rw [nearest_div_two_pow, ← mul_assoc, mul_comm entry factor]
  generalize factor * entry = product
  rw [roundedShift]
  obtain rfl | rfl | rfl | rfl : shift = 8 ∨ shift = 9 ∨ shift = 10 ∨ shift = 11 := by omega
  all_goals
    norm_num
    omega

/-- The rounded high half of the product of a slope with a quarter in fifteen bits is
the rise along that quarter. -/
theorem highHalf_quarter (slope quarters : Int) :
    (slope * (quarters * 2 ^ 13) + 16384) / 32768 =
      nearest (((slope * quarters : Int) : ℚ) / 2 ^ 2) := by
  rw [nearest_div_two_pow, ← mul_assoc]
  generalize slope * quarters = product
  rw [roundedShift]
  norm_num
  omega

end GrainSynthesis
