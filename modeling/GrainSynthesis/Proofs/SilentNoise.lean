import GrainSynthesis.Proofs.StripIsolation
import GrainSynthesis.Proofs.StripReach

/-!
# Noise that is zero

Where the noise that a strip uses is zero, nothing is added to any sample, whatever the key and
the table. What is left of a plane that takes noise is its source, clipped to the bounds of the
plane, and a plane that takes none is copied and not clipped. So without a restricted range the
source is left, and clipping what was clipped before changes nothing: a strip that is applied to
what it left leaves it as it is.
-/

namespace GrainSynthesis

/-- Clipping once more to limits that do not cross changes nothing. -/
theorem clip_clip (value low high : Int) (ordered : low ≤ high) :
    clip (clip value low high) low high = clip value low high := by
  obtain ⟨above, below⟩ := clip_mem value low high ordered
  exact clip_of_mem _ low high above below

/-- Nothing is added to a sample where the entry is zero. -/
theorem Noise.ideal_zero (setting : Setting) (key sample : Int) :
    ideal setting key sample 0 = clip sample setting.low setting.high := by
  have nothing : added setting key 0 = 0 := by
    rw [added, mul_zero, nearest]
    norm_num
  rw [ideal, nothing, Int.add_zero]

namespace StripJob

/-- The noise that a strip uses is zero. -/
def Silent (job : StripJob) : Prop :=
  ∀ plane, job.parameters.appliesTo plane = true →
    ∀ row < (job.visible plane).height, ∀ column < (job.visible plane).width,
      (job.noise.get plane).value (job.noiseStart plane + row) column = 0

/-- The visible source of a plane holds samples of the depth. -/
def SourceInRange (job : StripJob) (plane : Plane) : Prop :=
  ∀ row < (job.visible plane).height, ∀ column < (job.visible plane).width,
    job.depth.IsSample ((job.source.get plane).value row column)

/-- What silent noise leaves at a place: the source, clipped where the plane takes noise. -/
def clippedSource (job : StripJob) (plane : Plane) (row column : Nat) : Int :=
  let sample := (job.source.get plane).value row column
  if job.parameters.appliesTo plane then
    GrainSynthesis.clip sample job.clip.low (job.clip.high plane)
  else sample

variable {job : StripJob} {identityMatrix : Bool}

/-- With silent noise the ideal samples are those of the clipped source. -/
theorem Silent.idealSample_eq (silent : job.Silent) (plane : Plane) (row column : Nat)
    (rowInside : row < (job.visible plane).height)
    (columnInside : column < (job.visible plane).width) :
    job.idealSample plane row column = job.clippedSource plane row column := by
  rw [idealSample, clippedSource]
  by_cases noisy : job.parameters.appliesTo plane = true
  · rw [if_pos noisy, if_pos noisy, silent plane noisy row rowInside column columnInside,
      Noise.ideal_zero]
    rfl
  · rw [if_neg noisy, if_neg noisy]

/-- The bounds that the parameters give are samples in order. -/
theorem clip_ordered (clipped : job.clip = job.parameters.clipRange job.depth identityMatrix)
    (plane : Plane) :
    0 ≤ job.clip.low ∧ job.clip.low ≤ job.clip.high plane ∧
      job.clip.high plane ≤ job.depth.maxSample := by
  rw [clipped]
  exact job.parameters.clipRange_ordered job.depth identityMatrix plane

/-- Three planes hold the clipped source of a strip in its visible windows. -/
def HoldsClipped (job : StripJob) (left : PerPlane (Raster Int)) : Prop :=
  ∀ plane, ∀ row < (job.visible plane).height, ∀ column < (job.visible plane).width,
    (left.get plane).value row column = job.clippedSource plane row column

section Again

variable {noise : NoiseImage} {left : PerPlane (Raster Int)}

/-- A strip whose source holds the clipped source of another has the same clipped source. -/
theorem HoldsClipped.clippedSource_eq (holds : job.HoldsClipped left)
    (clipped : job.clip = job.parameters.clipRange job.depth identityMatrix) (plane : Plane)
    (row column : Nat) (rowInside : row < (job.visible plane).height)
    (columnInside : column < (job.visible plane).width) :
    (job.withInputs noise left).clippedSource plane row column =
      job.clippedSource plane row column := by
  obtain ⟨_, ordered, _⟩ := clip_ordered clipped plane
  have same : (job.withInputs noise left).clippedSource plane row column =
      if job.parameters.appliesTo plane then
        GrainSynthesis.clip (job.clippedSource plane row column) job.clip.low (job.clip.high plane)
      else job.clippedSource plane row column := by
    rw [← holds plane row rowInside column columnInside]
    rfl
  rw [same, clippedSource]
  split
  · exact clip_clip _ _ _ ordered
  · rfl

/-- With silent noise it has that clipped source for its ideal samples. -/
theorem HoldsClipped.idealSample_eq (holds : job.HoldsClipped left)
    (clipped : job.clip = job.parameters.clipRange job.depth identityMatrix)
    (silent : (job.withInputs noise left).Silent) (plane : Plane) (row column : Nat)
    (rowInside : row < (job.visible plane).height)
    (columnInside : column < (job.visible plane).width) :
    (job.withInputs noise left).idealSample plane row column =
      job.clippedSource plane row column := by
  have inside : row < ((job.withInputs noise left).visible plane).height ∧
      column < ((job.withInputs noise left).visible plane).width := by
    rw [visible_withInputs]
    exact ⟨rowInside, columnInside⟩
  rw [silent.idealSample_eq plane row column inside.1 inside.2,
    holds.clippedSource_eq clipped plane row column rowInside columnInside]

end Again

end StripJob

end GrainSynthesis
