import GrainSynthesis.Proofs.StripIsolation
import GrainSynthesis.Proofs.StripReach

/-!
# How samples respond to noise

A sample follows the noise entry of its place: strengths are not negative, and rounding and
clipping to ordered bounds keep the order, so a greater entry never leaves a smaller sample. The
key at which the strength is taken depends on the sources only.

A strength is less than 256, so scaling by it and shifting down by eight bits never makes an
entry greater. What a sample moves by is therefore at most the greatest entry, shifted down by
the bits of the scaling shift beyond eight, and a bound on results that the sample did not cross
before only makes it less.
-/

namespace GrainSynthesis

/-- Clipping a number that lies within the limits and was moved does not move it further. -/
theorem abs_clip_add_sub_le (value move low high bound : Int) (above : low ≤ value)
    (below : value ≤ high) (bounded : |move| ≤ bound) :
    |clip (value + move) low high - value| ≤ bound := by
  obtain ⟨least, greatest⟩ := abs_le.mp bounded
  rw [abs_le, clip]
  split_ifs <;> constructor <;> omega

namespace Noise

/-- The most by which noise moves a sample: the magnitude of the least entry, shifted down by the
bits of the scaling shift beyond eight. -/
def greatestMove (depth : Depth) (shift : Nat) : Int :=
  128 * 2 ^ depth.extraBits / 2 ^ (shift - 8)

/-- For a shift that has a code, nothing is lost when the greatest move is shifted down. -/
theorem greatestMove_mul (depth : Depth) (shift : Nat)
    (coded : GrainParameters.ShiftCoded shift) :
    greatestMove depth shift * 2 ^ shift = 256 * (128 * 2 ^ depth.extraBits) := by
  obtain ⟨low, high⟩ := coded
  have fewest : 8 ≤ shift := low
  have most : shift ≤ 11 := high
  obtain rfl | rfl | rfl | rfl : shift = 8 ∨ shift = 9 ∨ shift = 10 ∨ shift = 11 := by omega
  all_goals cases depth <;> decide

/-- A greater entry is not less when it is added. -/
theorem added_mono (setting : Setting) (key : Int) {entry other : Int} (below : entry ≤ other) :
    added setting key entry ≤ added setting key other := by
  have strength := (setting.table.strength_mem setting.depth key).1
  have product := mul_le_mul_of_nonneg_left below strength
  apply nearest_mono
  gcongr

/-- A greater entry does not leave a smaller sample. -/
theorem ideal_mono (setting : Setting) (ordered : setting.low ≤ setting.high) (key sample : Int)
    {entry other : Int} (below : entry ≤ other) :
    ideal setting key sample entry ≤ ideal setting key sample other :=
  clip_mono _ _ ordered (Int.add_le_add_left (added_mono setting key below) sample)

/-- What is added is at most the greatest move, upward and downward. -/
theorem abs_added_le (setting : Setting) (key entry : Int)
    (coded : GrainParameters.ShiftCoded setting.shift) (inside : setting.depth.IsGrain entry) :
    |added setting key entry| ≤ greatestMove setting.depth setting.shift := by
  obtain ⟨strengthLow, strengthHigh⟩ := setting.table.strength_mem setting.depth key
  obtain ⟨least, greatest⟩ := setting.depth.grain_range
  have entryAbove : -(128 * 2 ^ setting.depth.extraBits) ≤ entry := least ▸ inside.1
  have entryBelow : entry ≤ 128 * 2 ^ setting.depth.extraBits := by
    have strictly : entry ≤ 128 * 2 ^ setting.depth.extraBits - 1 := greatest ▸ inside.2
    omega
  have product := mul_mem_of_abs_le (setting.table.strength setting.depth key) entry 255
    (128 * 2 ^ setting.depth.extraBits) (by omega) strengthHigh entryAbove entryBelow
  have unit : (0 : Int) ≤ 128 * 2 ^ setting.depth.extraBits := by positivity
  have restored := greatestMove_mul setting.depth setting.shift coded
  have lower : -greatestMove setting.depth setting.shift * 2 ^ setting.shift ≤
      setting.table.strength setting.depth key * entry := by
    rw [Int.neg_mul, restored]
    omega
  have upper : setting.table.strength setting.depth key * entry ≤
      greatestMove setting.depth setting.shift * 2 ^ setting.shift := by
    rw [restored]
    omega
  have positive : (0 : ℚ) < 2 ^ setting.shift := by positivity
  apply abs_le.mpr
  apply nearest_mem
  · rw [le_div_iff₀ positive]
    exact_mod_cast lower
  · rw [div_le_iff₀ positive]
    exact_mod_cast upper

end Noise

namespace StripJob

/-- The entries that a plane with noise uses are noise entries of the depth. -/
def GrainInRange (job : StripJob) (plane : Plane) : Prop :=
  job.parameters.appliesTo plane = true →
    ∀ row < (job.visible plane).height, ∀ column < (job.visible plane).width,
      job.depth.IsGrain ((job.noise.get plane).value (job.noiseStart plane + row) column)

/-- The entries that a plane with noise uses are at most those of another noise image. -/
def NoiseBelow (job : StripJob) (noise : NoiseImage) (plane : Plane) : Prop :=
  job.parameters.appliesTo plane = true →
    ∀ row < (job.visible plane).height, ∀ column < (job.visible plane).width,
      (job.noise.get plane).value (job.noiseStart plane + row) column ≤
        (noise.get plane).value (job.noiseStart plane + row) column

/-- Another noise image has as many rows and columns on each plane. -/
def SameNoiseShape (job : StripJob) (noise : NoiseImage) : Prop :=
  ∀ plane, (noise.get plane).rows = (job.noise.get plane).rows ∧
    (noise.get plane).columns = (job.noise.get plane).columns

/-- In the visible window of a plane of a strip, each sample of one plane is at most that of
another. -/
def VisibleBelow (job : StripJob) (plane : Plane) (first second : Raster Int) : Prop :=
  ∀ row < (job.visible plane).height, ∀ column < (job.visible plane).width,
    ∃ sample other, first.samples[first.layout.first row + column]? = some sample ∧
      second.samples[second.layout.first row + column]? = some other ∧ sample ≤ other

/-- Each visible sample of a plane whose source lies within the bounds is at most the greatest
move away from it. -/
def MovesLittle (job : StripJob) (plane : Plane) (left : Raster Int) : Prop :=
  ∀ row < (job.visible plane).height, ∀ column < (job.visible plane).width,
    job.clip.low ≤ (job.source.get plane).value row column →
      (job.source.get plane).value row column ≤ job.clip.high plane →
        ∃ sample, left.samples[left.layout.first row + column]? = some sample ∧
          |sample - (job.source.get plane).value row column| ≤
            Noise.greatestMove job.depth job.parameters.scalingShift

variable {job : StripJob} {noise : NoiseImage} {plane : Plane}

/-- Noise that is at least as great everywhere has ideal samples that are as great. -/
theorem NoiseBelow.idealSample_le (below : job.NoiseBelow noise plane)
    (ordered : job.clip.low ≤ job.clip.high plane) (row column : Nat)
    (rowInside : row < (job.visible plane).height)
    (columnInside : column < (job.visible plane).width) :
    job.idealSample plane row column ≤
      (job.withInputs noise job.source).idealSample plane row column := by
  have applies : (job.withInputs noise job.source).parameters.appliesTo plane =
      job.parameters.appliesTo plane := rfl
  have start := job.noiseStart_withInputs noise job.source plane
  rw [idealSample, idealSample, applies, start]
  split
  · rename_i noisy
    exact Noise.ideal_mono (job.planeSetting plane) ordered _ _
      (below noisy row rowInside column columnInside)
  · exact le_refl _

/-- An ideal sample is at most the greatest move away from a source sample within the bounds. -/
theorem GrainInRange.abs_idealSample_sub_le (inRange : job.GrainInRange plane)
    (coded : GrainParameters.ShiftCoded job.parameters.scalingShift) (row column : Nat)
    (rowInside : row < (job.visible plane).height)
    (columnInside : column < (job.visible plane).width)
    (above : job.clip.low ≤ (job.source.get plane).value row column)
    (below : (job.source.get plane).value row column ≤ job.clip.high plane) :
    |job.idealSample plane row column - (job.source.get plane).value row column| ≤
      Noise.greatestMove job.depth job.parameters.scalingShift := by
  rw [idealSample]
  split
  · rename_i noisy
    exact abs_clip_add_sub_le _ _ _ _ _ above below (Noise.abs_added_le (job.planeSetting plane) _ _
      coded (inRange noisy row rowInside column columnInside))
  · rw [sub_self, abs_zero, Noise.greatestMove]
    positivity

/-- A completed call with noise in range moves the samples of a plane little. -/
theorem GrainInRange.movesLittle (inRange : job.GrainInRange plane)
    (target left : PerPlane (Raster Int)) (done : job.apply .plain target = .ran (.done left))
    (apart : (job.visible plane).width ≤ (target.get plane).layout.stride) :
    job.MovesLittle plane (left.get plane) := by
  have accepted := (job.ready_of_done target left done).accepted
  have coded := ((GrainParameters.validate_eq_ok_iff job.parameters).mp accepted).1
  intro row rowInside column columnInside above below
  exact ⟨job.idealSample plane row column,
    job.stored_of_done target left done plane apart row column rowInside columnInside,
    inRange.abs_idealSample_sub_le coded row column rowInside columnInside above below⟩

/-- A call that is ready stays so with noise of the same shape. -/
theorem Ready.withNoise {target : PerPlane (Raster Int)} (ready : job.Ready target)
    (shape : job.SameNoiseShape noise) : (job.withInputs noise job.source).Ready target where
  accepted := ready.accepted
  even := ready.even
  reduced := ready.reduced
  supplied := fun plane noisy => by
    obtain ⟨counted, rows, columns⟩ := ready.supplied plane noisy
    obtain ⟨sameRows, sameColumns⟩ := shape plane
    rw [visible_withInputs, noiseStart_withInputs]
    exact ⟨counted, sameRows ▸ rows, sameColumns ▸ columns⟩
  reached := {
    source := ready.reached.source
    noise := fun plane noisy row inside => by
      rw [visible_withInputs] at inside ⊢
      rw [noiseStart_withInputs]
      obtain ⟨sameRows, sameColumns⟩ := shape plane
      have cells : (noise.get plane).cells.size = (job.noise.get plane).cells.size := by
        rw [(noise.get plane).shape, (job.noise.get plane).shape, sameRows, sameColumns]
      have reached := ready.reached.noise plane noisy row inside
      rw [Grid.Reaches] at reached ⊢
      rw [← sameColumns, ← cells] at reached
      exact reached
    target := ready.reached.target }

/-- A completed call with bounds in order and destination rows that do not overlap. It is plain, or
its visible samples, its used noise and its bounds are in range, and then it may use any kernels
on any processor.

Another completed call that differs only in noise and destinations, and of whose forms the same
holds, leaves no smaller sample on a plane where its noise is nowhere less in the entries that are
used. On a strip in range there is such a call for all noise of the same shape. And where the
entries that a plane uses are noise entries of the depth, no visible sample whose source lies
within the bounds moves by more than the greatest move, upward or downward. -/
theorem noise_response (job : StripJob) (noise : NoiseImage) (kernels : Kernels)
    (target left : PerPlane (Raster Int))
    (done : job.apply kernels target = .ran (.done left))
    (forms : kernels = .plain ∨ job.VisibleInRange)
    (ordered : ∀ plane, job.clip.low ≤ job.clip.high plane)
    (apart : ∀ plane, (job.visible plane).width ≤ (target.get plane).layout.stride) :
    (∀ otherKernels otherTarget otherLeft,
        (job.withInputs noise job.source).apply otherKernels otherTarget =
          .ran (.done otherLeft) →
        (otherKernels = .plain ∨ (job.withInputs noise job.source).VisibleInRange) →
        (∀ plane, (job.visible plane).width ≤ (otherTarget.get plane).layout.stride) →
        ∀ plane, job.NoiseBelow noise plane →
          job.VisibleBelow plane (left.get plane) (otherLeft.get plane)) ∧
      (job.SameNoiseShape noise → (job.withInputs noise job.source).VisibleInRange →
        ∀ otherKernels, ∃ otherLeft,
          (job.withInputs noise job.source).apply otherKernels target = .ran (.done otherLeft)) ∧
      ∀ plane, job.GrainInRange plane → job.MovesLittle plane (left.get plane) := by
  rw [job.apply_eq_of_forms kernels target forms] at done
  refine ⟨?_, ?_, ?_⟩
  · intro otherKernels otherTarget otherLeft otherDone otherForms otherApart plane below
    rw [StripJob.apply_eq_of_forms _ otherKernels otherTarget otherForms] at otherDone
    intro row rowInside column columnInside
    have visible := job.visible_withInputs noise job.source plane
    have stored := job.stored_of_done target left done plane (apart plane) row column rowInside
      columnInside
    have otherStored := StripJob.stored_of_done _ otherTarget otherLeft otherDone plane
      (visible ▸ otherApart plane) row column (visible ▸ rowInside) (visible ▸ columnInside)
    exact ⟨_, _, stored, otherStored,
      below.idealSample_le (ordered plane) row column rowInside columnInside⟩
  · intro shape inRange otherKernels
    rw [StripJob.apply_eq_apply_plain _ inRange]
    exact StripJob.exists_done_of_ready _ target
      ((job.ready_of_done target left done).withNoise shape) inRange.used
  · intro plane inRange
    exact inRange.movesLittle target left done (apart plane)

/-- Noise for the odd strip that is greater or equal wherever it is used, and less elsewhere. -/
def louderNoise : NoiseImage :=
  ⟨⟨5, 3, #[-512, -512, -512, -512, -512, -512, -500, 511, 4, -7, 511, 0, 1, 2, 511], rfl⟩,
    ⟨3, 2, #[-512, -512, -511, 100, 511, 0], rfl⟩, .empty⟩

/-- Louder noise in registers completes on the odd strip and leaves no smaller sample than its own
noise, which moves no sample within the bounds by more than 512. -/
theorem oddStrip_response :
    let kernels : Kernels := ⟨.all, .ofFeatures .all⟩
    let louder := oddStrip.withInputs louderNoise oddStrip.source
    let left : PerPlane (Raster Int) :=
      ⟨.whole #[64, 767, 940, 0, 64, 940, 495, 0, 940, 64, 499] 4,
        ⟨#[9, 960, 64, 9, 512, 76, 9], ⟨1, 3⟩⟩, .whole #[1, 2, 3, 4] 2⟩
    (oddStrip.apply .plain oddTarget = .ran (.done left) ∧
        (∀ plane, oddStrip.clip.low ≤ oddStrip.clip.high plane) ∧
        (∀ plane, (oddStrip.visible plane).width ≤ (oddTarget.get plane).layout.stride) ∧
        louder.VisibleInRange ∧ oddStrip.SameNoiseShape louderNoise) ∧
      Noise.greatestMove oddStrip.depth oddStrip.parameters.scalingShift = 512 ∧
        (∀ plane, oddStrip.MovesLittle plane (left.get plane)) ∧
          ∃ louderLeft, louder.apply kernels oddTarget = .ran (.done louderLeft) ∧
            ∀ plane, oddStrip.VisibleBelow plane (left.get plane) (louderLeft.get plane) := by
  intro kernels louder left
  have inRange : louder.VisibleInRange := {
    samples := by intro plane; cases plane <;> decide
    entries := by intro plane; cases plane <;> decide
    lowInside := by decide
    ordered := by intro plane; cases plane <;> decide
    highInside := by intro plane; cases plane <;> decide }
  have done : oddStrip.apply .plain oddTarget = .ran (.done left) := by decide +kernel
  have ordered (plane : Plane) : oddStrip.clip.low ≤ oddStrip.clip.high plane := by
    cases plane <;> decide
  have apart (plane : Plane) :
      (oddStrip.visible plane).width ≤ (oddTarget.get plane).layout.stride := by
    cases plane <;> decide
  have shape : oddStrip.SameNoiseShape louderNoise := by
    intro plane
    cases plane <;> exact ⟨rfl, rfl⟩
  have below (plane : Plane) : oddStrip.NoiseBelow louderNoise plane := by
    cases plane <;> unfold NoiseBelow <;> decide
  have grain (plane : Plane) : oddStrip.GrainInRange plane := by
    cases plane <;> unfold GrainInRange <;> decide
  obtain ⟨response, completes, moves⟩ := noise_response oddStrip louderNoise .plain oddTarget left
    done (.inl rfl) ordered apart
  obtain ⟨louderLeft, louderDone⟩ := completes shape inRange kernels
  refine ⟨⟨done, ordered, apart, inRange, shape⟩, by decide, fun plane => moves plane (grain plane),
    louderLeft, louderDone, ?_⟩
  intro plane
  exact response kernels oddTarget louderLeft louderDone (.inr inRange) apart plane (below plane)

end StripJob

end GrainSynthesis
