import GrainSynthesis.Proofs.StripIdeal

/-!
# What an ideal sample depends on

The ideal sample of a place is a function of few of a strip's arguments: on a plane
without noise of the source sample alone, and otherwise of the sample, the strength at
its key, the noise entry of the place, the shift and the plane's bounds. The key of a
luma sample is the sample. That of a chroma sample depends on the luma row that it is
co-located with, and in mixed mode on the sample and the plane's coefficients.

Two strips that agree in these have the same ideal sample there, however much they
differ otherwise.
-/

namespace GrainSynthesis

/-- The luma value at a chroma column depends on the visible columns of its luma row. -/
theorem ChromaJob.mean_congr (luma other : Nat → Int) (width subsamplingX column : Nat)
    (inside : column < (width + subsamplingX) / 2 ^ subsamplingX)
    (same : ∀ position < width, luma position = other position) :
    mean luma width subsamplingX column = mean other width subsamplingX column := by
  rw [mean, mean]
  split
  · rename_i single
    exact same column (Subsampling.single_lt width subsamplingX column single inside)
  · rename_i double
    have left := Subsampling.double_lt width subsamplingX column double inside
    rw [same (2 * column) left, same (min (2 * column + 1) (width - 1)) (by omega)]

namespace StripJob

variable {job other : StripJob} {plane : Plane} {row column : Nat}

/-- Two strips take chroma keys from the same luma in a row of chroma. -/
structure SameLumaRow (job other : StripJob) (row : Nat) : Prop where
  width : job.extent.width = other.extent.width
  subsampling : job.subsampling = other.subsampling
  luma : ∀ position < job.extent.width,
    job.source.y.value (job.subsampling.lumaRow row) position =
      other.source.y.value (job.subsampling.lumaRow row) position

/-- Strips that take keys from the same luma have the same luma values at the columns of the
chroma row. -/
theorem SameLumaRow.lumaMean_eq (same : SameLumaRow job other row)
    (inside : column < job.chroma.width) :
    job.lumaMean row column = other.lumaMean row column := by
  rw [lumaMean, lumaMean, ← same.subsampling, ← same.width]
  exact ChromaJob.mean_congr _ _ _ _ column inside same.luma

/-- Two strips mix keys alike: from luma alone, or by the same coefficients. -/
structure SameMixing (job other : StripJob) (plane : Plane) : Prop where
  depth : job.depth = other.depth
  mode : job.parameters.chromaFromLuma = other.parameters.chromaFromLuma
  mix : job.parameters.chromaFromLuma = false →
    job.parameters.mix plane = other.parameters.mix plane

/-- The key of a luma sample is the sample. -/
theorem idealKey_luma (job : StripJob) (row column : Nat) :
    job.idealKey .y row column = job.source.y.value row column := rfl

/-- The key of a chroma sample depends on the luma row, the mixing and the sample. -/
theorem idealKey_chroma_congr (chromaPlane : plane.isChroma = true)
    (inside : column < job.chroma.width) (luma : SameLumaRow job other row)
    (mixing : SameMixing job other plane)
    (sample : (job.source.get plane).value row column = (other.source.get plane).value row column) :
    job.idealKey plane row column = other.idealKey plane row column := by
  rw [idealKey, idealKey, if_pos chromaPlane, if_pos chromaPlane, ← mixing.mode,
    ← luma.lumaMean_eq inside]
  cases mode : job.parameters.chromaFromLuma with
  | true => rfl
  | false => simp only [sample, mixing.depth, mixing.mix mode]

/-- Two strips add the same noise at a place and confine the result to the same bounds. -/
structure SameGrain (job other : StripJob) (plane : Plane) (row column : Nat) : Prop where
  strength : (job.planeSetting plane).table.strength job.depth (job.idealKey plane row column) =
    (other.planeSetting plane).table.strength other.depth (other.idealKey plane row column)
  entry : (job.noise.get plane).value (job.noiseStart plane + row) column =
    (other.noise.get plane).value (other.noiseStart plane + row) column
  shift : job.parameters.scalingShift = other.parameters.scalingShift
  low : job.clip.low = other.clip.low
  high : job.clip.high plane = other.clip.high plane

/-- The ideal sample of a place depends on the sample and, where the plane takes noise, on what
is added. -/
theorem idealSample_congr
    (applies : job.parameters.appliesTo plane = other.parameters.appliesTo plane)
    (sample : (job.source.get plane).value row column = (other.source.get plane).value row column)
    (grain : job.parameters.appliesTo plane = true → SameGrain job other plane row column) :
    job.idealSample plane row column = other.idealSample plane row column := by
  rw [idealSample, idealSample, ← applies]
  split
  · rename_i noisy
    have same := grain noisy
    have added : Noise.added (job.planeSetting plane) (job.idealKey plane row column)
        ((job.noise.get plane).value (job.noiseStart plane + row) column) =
        Noise.added (other.planeSetting plane) (other.idealKey plane row column)
          ((other.noise.get plane).value (other.noiseStart plane + row) column) := by
      have strength := same.strength
      rw [Noise.added, Noise.added, ← same.entry]
      simp only [planeSetting, same.shift] at strength ⊢
      rw [strength]
    rw [Noise.ideal, Noise.ideal, added, sample]
    simp only [planeSetting, same.low, same.high]
  · exact sample

end StripJob

end GrainSynthesis
