import GrainSynthesis.Fault

/-!
# Checked arithmetic

Samples are computed in signed 32-bit words, and positions in buffers are
counted in unsigned 64-bit words. Numbers here are unbounded; `Word.signed` and
`Word.size` are the points at which a result has to fit its word, and a result
that does not fit is a fault rather than a wrapped value.

Division by a power of two rounds down, for negative numbers too, so
`roundedShift` rounds to the nearest integer and takes a half upward.
-/

namespace GrainSynthesis

namespace Word

/-- Sizes and positions are below this number. -/
def sizeLimit : Nat := 18446744073709551616

/-- A signed 32-bit result, or the overflow that it would be. -/
def signed (value : Int) : Except Fault Int :=
  if -2147483648 ≤ value ∧ value ≤ 2147483647 then .ok value else .error .overflow

/-- A size or position, or the overflow that it would be. -/
def size (value : Nat) : Except Fault Nat :=
  if value < sizeLimit then .ok value else .error .overflow

/-- A shift of a size by fewer places than its word has. -/
def shiftRight (value places : Nat) : Except Fault Nat :=
  if places < 64 then .ok (value / Nat.pow 2 places) else .error .overflow

/-- A result that fits is the result. -/
theorem signed_eq_ok_iff (value result : Int) :
    signed value = .ok result ↔
      (-2147483648 ≤ value ∧ value ≤ 2147483647) ∧ result = value := by
  by_cases fits : -2147483648 ≤ value ∧ value ≤ 2147483647 <;> simp [signed, fits, eq_comm]

/-- A number between the limits of a signed word fits. -/
theorem signed_of_mem (value : Int) (low : -2147483648 ≤ value) (high : value ≤ 2147483647) :
    signed value = .ok value :=
  (signed_eq_ok_iff value value).mpr ⟨⟨low, high⟩, rfl⟩

/-- A size that fits is the size. -/
theorem size_eq_ok_iff (value result : Nat) :
    size value = .ok result ↔ value < sizeLimit ∧ result = value := by
  by_cases fits : value < sizeLimit <;> simp [size, fits, eq_comm]

/-- A shift that is short enough divides by its power of two. -/
theorem shiftRight_eq_ok_iff (value places result : Nat) :
    shiftRight value places = .ok result ↔ places < 64 ∧ result = value / Nat.pow 2 places := by
  by_cases short : places < 64 <;> simp [shiftRight, short, eq_comm]

end Word

/-- Confine a value to `low ... high`. The lower limit is tried first, so it wins
where the limits cross. -/
def clip (value low high : Int) : Int :=
  if value < low then low else if high < value then high else value

/-- The nearest integer to `value / 2 ^ shift`, a half going upward. -/
def roundedShift (value : Int) (shift : Nat) : Int :=
  if shift = 0 then value else (value + Int.pow 2 (shift - 1)) / Int.pow 2 shift

/-- Rounding in a signed word: the half is added before the shift, and the sum
has to fit. -/
def roundShift (value : Int) (shift : Nat) : Except Fault Int :=
  if shift = 0 then
    .ok value
  else do
    let sum ← Word.signed (value + Int.pow 2 (shift - 1))
    return sum / Int.pow 2 shift

/-- A clipped value lies between limits that do not cross. -/
theorem clip_mem (value low high : Int) (ordered : low ≤ high) :
    low ≤ clip value low high ∧ clip value low high ≤ high := by
  unfold clip
  split
  · omega
  · split <;> omega

/-- A value within the limits is left as it is. -/
theorem clip_of_mem (value low high : Int) (above : low ≤ value) (below : value ≤ high) :
    clip value low high = value := by
  unfold clip
  split
  · omega
  · split <;> omega

/-- Clipping to limits that do not cross keeps the order. -/
theorem clip_mono {value other : Int} (low high : Int) (ordered : low ≤ high)
    (below : value ≤ other) : clip value low high ≤ clip other low high := by
  unfold clip
  split <;> split <;> omega

/-- Rounding in a word gives the nearest integer whenever the sum fits. -/
theorem roundShift_eq_ok (value : Int) (shift : Nat)
    (fits : -2147483648 ≤ value + Int.pow 2 (shift - 1) ∧
      value + Int.pow 2 (shift - 1) ≤ 2147483647) :
    roundShift value shift = .ok (roundedShift value shift) := by
  by_cases unshifted : shift = 0
  · rw [roundShift, roundedShift, if_pos unshifted, if_pos unshifted]
  · rw [roundShift, roundedShift, if_neg unshifted, if_neg unshifted, Word.signed, if_pos fits]
    rfl

end GrainSynthesis
