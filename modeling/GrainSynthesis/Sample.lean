import GrainSynthesis.Arithmetic

/-!
# Storing samples and noise entries

A value becomes a sample or a noise entry only when it lies in the range of its
depth; anything else breaks the promise of whoever computed it. `clipSample`
brings a value into the range first and therefore never fails.
-/

namespace GrainSynthesis.Depth

/-- Store a value as a sample. -/
def sample (depth : Depth) (value : Int) : Except Fault Int :=
  if depth.IsSample value then .ok value else .error (.broken (.sampleRange depth))

/-- Store a value as a noise entry. -/
def grain (depth : Depth) (value : Int) : Except Fault Int :=
  if depth.IsGrain value then .ok value else .error (.broken (.grainRange depth))

/-- Clip a value to the samples of the depth and store it. -/
def clipSample (depth : Depth) (value : Int) : Except Fault Int :=
  depth.sample (clip value 0 depth.maxSample)

/-- Exactly the values in range are stored, and they are stored unchanged. -/
theorem sample_eq_ok_iff (depth : Depth) (value stored : Int) :
    depth.sample value = .ok stored ↔ depth.IsSample value ∧ stored = value := by
  by_cases inside : depth.IsSample value <;> simp [sample, inside, eq_comm]

/-- Exactly the entries in range are stored, and they are stored unchanged. -/
theorem grain_eq_ok_iff (depth : Depth) (value stored : Int) :
    depth.grain value = .ok stored ↔ depth.IsGrain value ∧ stored = value := by
  by_cases inside : depth.IsGrain value <;> simp [grain, inside, eq_comm]

/-- A clipped value is always a sample. -/
theorem clipSample_eq (depth : Depth) (value : Int) :
    depth.clipSample value = .ok (clip value 0 depth.maxSample) := by
  rw [clipSample, sample_eq_ok_iff]
  refine ⟨clip_mem value 0 depth.maxSample ?_, rfl⟩
  cases depth <;> decide

end GrainSynthesis.Depth
