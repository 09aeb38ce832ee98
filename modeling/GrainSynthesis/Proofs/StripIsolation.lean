import GrainSynthesis.Proofs.StripInputs
import GrainSynthesis.Proofs.StripSamples
import GrainSynthesis.Proofs.StripTiers

/-!
# Windows are isolated

A call reads the visible windows of its sources and the noise of the rows and columns
that it paints, and it writes the visible windows of its destinations. Padding beside a
row, rows below the last one, other noise and what the destinations held before do not
show in any visible sample, and nothing outside the windows is written.

Chroma sees of luma only the rows that chroma rows are co-located with, and of these only
the visible columns, also where the last chroma column has no right luma neighbour.
-/

namespace GrainSynthesis

namespace StripJob

/-- Two strips agree in the visible window of a plane: in the source samples there, and, if
the plane takes noise, in the entries that are added there. -/
structure SameWindow (job other : StripJob) (plane : Plane) : Prop where
  source : ∀ row < (job.visible plane).height, ∀ column < (job.visible plane).width,
    (job.source.get plane).value row column = (other.source.get plane).value row column
  noise : job.parameters.appliesTo plane = true →
    ∀ row < (job.visible plane).height, ∀ column < (job.visible plane).width,
      (job.noise.get plane).value (job.noiseStart plane + row) column =
        (other.noise.get plane).value (job.noiseStart plane + row) column

/-- Two strips agree in the luma that chroma is keyed on: in the visible columns of each luma
row with which a chroma row is co-located. -/
def SameKeyLuma (job other : StripJob) : Prop :=
  ∀ row < job.chroma.height, ∀ position < job.extent.width,
    job.source.y.value (job.subsampling.lumaRow row) position =
      other.source.y.value (job.subsampling.lumaRow row) position

/-- Two planes hold the same samples in the visible window of a plane of a strip. -/
def SameVisible (job : StripJob) (plane : Plane) (first second : Raster Int) : Prop :=
  ∀ row < (job.visible plane).height, ∀ column < (job.visible plane).width,
    ∃ sample, first.samples[first.layout.first row + column]? = some sample ∧
      second.samples[second.layout.first row + column]? = some sample

/-- An element lies outside the visible windows of a plane. -/
def OutsideWindows (job : StripJob) (plane : Plane) (layout : Layout) (index : Nat) : Prop :=
  ∀ row < (job.visible plane).height,
    ¬ (layout.first row ≤ index ∧ index < layout.first row + (job.visible plane).width)

/-- A strip with other noise and other sources. -/
def withInputs (job : StripJob) (noise : NoiseImage) (source : PerPlane (Raster Int)) : StripJob :=
  { job with noise := noise, source := source }

variable {job : StripJob} {noise : NoiseImage} {source : PerPlane (Raster Int)}

/-- A strip with other inputs has the same visible extents. -/
theorem visible_withInputs (job : StripJob) (noise : NoiseImage)
    (source : PerPlane (Raster Int)) (plane : Plane) :
    (job.withInputs noise source).visible plane = job.visible plane := by
  cases plane <;> rfl

/-- A strip with other inputs takes noise from the same rows. -/
theorem noiseStart_withInputs (job : StripJob) (noise : NoiseImage)
    (source : PerPlane (Raster Int)) (plane : Plane) :
    (job.withInputs noise source).noiseStart plane = job.noiseStart plane := by
  cases plane <;> rfl

/-- Strips that agree in all visible windows agree in the luma that chroma is keyed on. -/
theorem sameKeyLuma_of_sameWindow (same : SameWindow job (job.withInputs noise source) .y) :
    SameKeyLuma job (job.withInputs noise source) := by
  intro row inside position below
  exact same.source _ (job.subsampling.lumaRow_lt job.extent.height row inside) position below

/-- Strips that agree in the window of a plane, and in the luma that it is keyed on if it is a
chroma plane, have the same ideal samples there. -/
theorem idealSample_eq_of_sameWindow (plane : Plane)
    (same : SameWindow job (job.withInputs noise source) plane)
    (luma : plane.isChroma = true → SameKeyLuma job (job.withInputs noise source)) (row : Nat)
    (rowInside : row < (job.visible plane).height) (column : Nat)
    (columnInside : column < (job.visible plane).width) :
    job.idealSample plane row column =
      (job.withInputs noise source).idealSample plane row column := by
  have sample := same.source row rowInside column columnInside
  have key : job.idealKey plane row column =
      (job.withInputs noise source).idealKey plane row column := by
    by_cases chromaPlane : plane.isChroma = true
    · have visible := job.visible_of_isChroma plane chromaPlane
      have lumaRow : SameLumaRow job (job.withInputs noise source) row :=
        ⟨rfl, rfl, luma chromaPlane row (visible ▸ rowInside)⟩
      exact idealKey_chroma_congr chromaPlane (visible ▸ columnInside) lumaRow ⟨rfl, rfl, fun _ => rfl⟩
        sample
    · rw [idealKey, idealKey, if_neg chromaPlane, if_neg chromaPlane]
      exact sample
  have applies : job.parameters.appliesTo plane =
      (job.withInputs noise source).parameters.appliesTo plane := rfl
  apply idealSample_congr applies sample
  intro noisy
  have entry := same.noise noisy row rowInside column columnInside
  exact {
    strength := by
      rw [← key]
      rfl
    entry := by
      rw [noiseStart_withInputs]
      exact entry
    shift := rfl
    low := rfl
    high := rfl }

/-- Completed calls whose ideal samples on a plane are equal leave the same visible samples
there, in destinations whose rows do not overlap. -/
theorem sameVisible_of_ideal (job other : StripJob)
    (target otherTarget left otherLeft : PerPlane (Raster Int))
    (done : job.apply .plain target = .ran (.done left))
    (otherDone : other.apply .plain otherTarget = .ran (.done otherLeft)) (plane : Plane)
    (visible : other.visible plane = job.visible plane)
    (apart : (job.visible plane).width ≤ (target.get plane).layout.stride)
    (otherApart : (job.visible plane).width ≤ (otherTarget.get plane).layout.stride)
    (same : ∀ row < (job.visible plane).height, ∀ column < (job.visible plane).width,
      job.idealSample plane row column = other.idealSample plane row column) :
    SameVisible job plane (left.get plane) (otherLeft.get plane) := by
  intro row rowInside column columnInside
  refine ⟨job.idealSample plane row column,
    job.stored_of_done target left done plane apart row column rowInside columnInside, ?_⟩
  rw [same row rowInside column columnInside]
  exact other.stored_of_done otherTarget otherLeft otherDone plane (visible ▸ otherApart) row column
    (visible ▸ rowInside) (visible ▸ columnInside)

/-- Two completed calls that differ only in noise, sources and what their destinations held,
in destinations whose rows do not overlap. Both are plain, or the visible samples, the used
noise and the ordered bounds are in range, and then each may use any kernels on any
processor.

If they agree in all visible windows, they leave the same visible samples on all planes. A
chroma plane needs no more of luma for that than the visible columns of the rows with which
chroma rows are co-located. And each leaves all elements outside the windows as they were. -/
theorem windows_isolated (job : StripJob) (noise : NoiseImage) (source : PerPlane (Raster Int))
    (kernels otherKernels : Kernels) (target otherTarget left otherLeft : PerPlane (Raster Int))
    (done : job.apply kernels target = .ran (.done left))
    (otherDone : (job.withInputs noise source).apply otherKernels otherTarget =
      .ran (.done otherLeft))
    (forms : kernels = .plain ∧ otherKernels = .plain ∨
      job.VisibleInRange ∧ (job.withInputs noise source).VisibleInRange)
    (apart : ∀ plane, (job.visible plane).width ≤ (target.get plane).layout.stride)
    (otherApart : ∀ plane, (job.visible plane).width ≤ (otherTarget.get plane).layout.stride) :
    ((∀ plane, SameWindow job (job.withInputs noise source) plane) →
        ∀ plane, SameVisible job plane (left.get plane) (otherLeft.get plane)) ∧
      (SameKeyLuma job (job.withInputs noise source) →
        ∀ plane, plane.isChroma = true → SameWindow job (job.withInputs noise source) plane →
          SameVisible job plane (left.get plane) (otherLeft.get plane)) ∧
      ∀ plane index,
        (OutsideWindows job plane (target.get plane).layout index →
          (left.get plane).samples[index]? = (target.get plane).samples[index]?) ∧
        (OutsideWindows job plane (otherTarget.get plane).layout index →
          (otherLeft.get plane).samples[index]? = (otherTarget.get plane).samples[index]?) := by
  obtain ⟨plain, otherPlain⟩ : job.apply .plain target = .ran (.done left) ∧
      (job.withInputs noise source).apply .plain otherTarget = .ran (.done otherLeft) := by
    -- In range every form is the plain one, so only plain calls need be compared.
    rcases forms with ⟨rfl, rfl⟩ | ⟨inRange, otherInRange⟩
    · exact ⟨done, otherDone⟩
    · rw [job.apply_eq_apply_plain inRange] at done
      rw [(job.withInputs noise source).apply_eq_apply_plain otherInRange] at otherDone
      exact ⟨done, otherDone⟩
  have sameVisible (plane : Plane) (same : SameWindow job (job.withInputs noise source) plane)
      (luma : plane.isChroma = true → SameKeyLuma job (job.withInputs noise source)) :
      SameVisible job plane (left.get plane) (otherLeft.get plane) :=
    sameVisible_of_ideal job _ target otherTarget left otherLeft plain otherPlain plane
      (job.visible_withInputs noise source plane) (apart plane) (otherApart plane)
      (idealSample_eq_of_sameWindow plane same luma)
  refine ⟨?_, ?_, ?_⟩
  · intro same plane
    exact sameVisible plane (same plane) fun _ => sameKeyLuma_of_sameWindow (same .y)
  · intro luma plane _ same
    exact sameVisible plane same fun _ => luma
  · intro plane index
    constructor
    · intro outside
      exact job.untouched_of_done target left plain plane index outside
    · intro outside
      refine (job.withInputs noise source).untouched_of_done otherTarget otherLeft otherPlain plane
        index ?_
      rw [visible_withInputs]
      exact outside

/-- Noise for the odd strip with other entries in the rows that it does not use. -/
def paddedNoise : NoiseImage :=
  ⟨⟨5, 3, #[9, 9, 9, -9, -9, -9, -512, 511, 3, -7, 300, -300, 1, 2, -3], rfl⟩,
    ⟨3, 2, #[5000, 5, -511, 77, 256, -1], rfl⟩, .empty⟩

/-- The sources of the odd strip with padding that no depth has, and with other strides. -/
def paddedSource : PerPlane (Raster Int) :=
  ⟨.whole #[0, 511, 1023, 5000, 64, 940, 700, 5001, 1022, 1, 500] 4,
    .whole #[1000, 3, -1, 512, 77] 3, .whole #[1, 2, 700, 3, 4, 5] 3⟩

/-- Other padding, other unused noise and another destination do not show in the odd strip,
though it is blended in registers that reach past the end of its rows. -/
theorem oddStrip_isolated :
    let kernels : Kernels := ⟨.all, .ofFeatures .all⟩
    let otherTarget : PerPlane (Raster Int) :=
      ⟨.whole #[1, 2, 3, 4, 5, 6, 7, 8, 9, 10, 11] 4, .whole #[1, 2, 3, 4, 5] 3,
        .whole #[0, 0, 0, 0] 2⟩
    let left : PerPlane (Raster Int) :=
      ⟨.whole #[64, 767, 940, 0, 64, 940, 495, 0, 940, 64, 499] 4,
        ⟨#[9, 960, 64, 9, 512, 76, 9], ⟨1, 3⟩⟩, .whole #[1, 2, 3, 4] 2⟩
    let otherLeft : PerPlane (Raster Int) :=
      ⟨.whole #[64, 767, 940, 4, 64, 940, 495, 8, 940, 64, 499] 4,
        .whole #[960, 64, 3, 512, 76] 3, .whole #[1, 2, 3, 4] 2⟩
    (oddStrip.apply kernels oddTarget = .ran (.done left) ∧
        (oddStrip.withInputs paddedNoise paddedSource).apply kernels otherTarget =
          .ran (.done otherLeft) ∧
        (oddStrip.VisibleInRange ∧
          (oddStrip.withInputs paddedNoise paddedSource).VisibleInRange) ∧
        (∀ plane, (oddStrip.visible plane).width ≤ (oddTarget.get plane).layout.stride) ∧
        ∀ plane, (oddStrip.visible plane).width ≤ (otherTarget.get plane).layout.stride) ∧
      (∀ plane, SameWindow oddStrip (oddStrip.withInputs paddedNoise paddedSource) plane) ∧
        ∀ plane, SameVisible oddStrip plane (left.get plane) (otherLeft.get plane) := by
  intro kernels otherTarget left otherLeft
  have inRange : oddStrip.VisibleInRange := {
    samples := by intro plane; cases plane <;> decide
    entries := by intro plane; cases plane <;> decide
    lowInside := by decide
    ordered := by intro plane; cases plane <;> decide
    highInside := by intro plane; cases plane <;> decide }
  have otherInRange : (oddStrip.withInputs paddedNoise paddedSource).VisibleInRange := {
    samples := by intro plane; cases plane <;> decide
    entries := by intro plane; cases plane <;> decide
    lowInside := by decide
    ordered := by intro plane; cases plane <;> decide
    highInside := by intro plane; cases plane <;> decide }
  have done : oddStrip.apply kernels oddTarget = .ran (.done left) := by
    rw [oddStrip.apply_eq_apply_plain inRange]
    decide +kernel
  have otherDone : (oddStrip.withInputs paddedNoise paddedSource).apply kernels otherTarget =
      .ran (.done otherLeft) := by
    rw [(oddStrip.withInputs paddedNoise paddedSource).apply_eq_apply_plain otherInRange]
    decide +kernel
  have apart (plane : Plane) :
      (oddStrip.visible plane).width ≤ (oddTarget.get plane).layout.stride := by
    cases plane <;> decide
  have otherApart (plane : Plane) :
      (oddStrip.visible plane).width ≤ (otherTarget.get plane).layout.stride := by
    cases plane <;> decide
  have same (plane : Plane) :
      SameWindow oddStrip (oddStrip.withInputs paddedNoise paddedSource) plane := by
    cases plane <;> exact ⟨by decide, by decide⟩
  obtain ⟨isolated, _, _⟩ := windows_isolated oddStrip paddedNoise paddedSource kernels kernels
    oddTarget otherTarget left otherLeft done otherDone (.inr ⟨inRange, otherInRange⟩) apart
    otherApart
  exact ⟨⟨done, otherDone, ⟨inRange, otherInRange⟩, apart, otherApart⟩, same, isolated same⟩

end StripJob

end GrainSynthesis
