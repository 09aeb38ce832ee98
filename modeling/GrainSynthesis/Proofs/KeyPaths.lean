import GrainSynthesis.Proofs.SilentNoise

/-!
# Where the ways of blending coincide

Luma is keyed on the sample, chroma on the luma value or on a mix of both. A mix of 64 64ths of
one of them and nothing of the other, without an offset, is that one: the shift by six bits undoes
the multiplication, and clipping does not touch a sample. So with such a mix the mixed mode does
what the luma mode does, or what the luma blend does to the samples of the chroma plane.

Rows, noise and shifts are found in the same way in all three, so whole blends are equal, and so
are whole strips.
-/

namespace GrainSynthesis

namespace KeyMix

/-- All of the luma value, and nothing of the sample. -/
def lumaAlone : KeyMix := ⟨0, 64, 0⟩

/-- All of the sample, and nothing of the luma value. -/
def sampleAlone : KeyMix := ⟨64, 0, 0⟩

end KeyMix

namespace ChromaJob

/-- A mixed key without an offset whose weighted sum is 64 times a sample is that sample. -/
theorem mixedKey_of_weighted (depth : Depth) (mix : KeyMix) (average sample value : Int)
    (inside : depth.IsSample value) (unshifted : mix.offset = 0)
    (fromLuma : Word.signed (average * mix.lumaMultiplier) = .ok (average * mix.lumaMultiplier))
    (fromChroma : Word.signed (sample * mix.multiplier) = .ok (sample * mix.multiplier))
    (whole : average * mix.lumaMultiplier + sample * mix.multiplier = value * 64) :
    mixedKey depth mix average sample = .ok value := by
  obtain ⟨above, below⟩ := inside.bounds
  have combined := Word.signed_of_mem (value * 64) (by omega) (by omega)
  have restored := Word.signed_of_mem value (by omega) (by omega)
  have quotient : value * 64 / 64 + 0 * Int.pow 2 depth.extraBits = value := by
    rw [Int.zero_mul, Int.add_zero, Int.mul_ediv_cancel value (by decide)]
  simp only [mixedKey, fromLuma, fromChroma, whole, combined, unshifted, quotient, restored, bind,
    Except.bind, pure, Except.pure, clip_of_mem value 0 depth.maxSample inside.1 inside.2]

/-- A mix of luma alone is the luma value, whatever the sample is. -/
theorem mixedKey_lumaAlone (depth : Depth) (average sample : Int)
    (inside : depth.IsSample average) :
    mixedKey depth .lumaAlone average sample = .ok average := by
  obtain ⟨above, below⟩ := inside.bounds
  have nothing : sample * KeyMix.lumaAlone.multiplier = 0 := Int.mul_zero sample
  apply mixedKey_of_weighted depth _ average sample average inside rfl
  · exact Word.signed_of_mem (average * 64) (by omega) (by omega)
  · rw [nothing]
    rfl
  · rw [nothing]
    exact Int.add_zero _

/-- A mix of the sample alone is the sample, whatever the luma value is. -/
theorem mixedKey_sampleAlone (depth : Depth) (average sample : Int)
    (inside : depth.IsSample sample) :
    mixedKey depth .sampleAlone average sample = .ok sample := by
  obtain ⟨above, below⟩ := inside.bounds
  have nothing : average * KeyMix.sampleAlone.lumaMultiplier = 0 := Int.mul_zero average
  apply mixedKey_of_weighted depth _ average sample sample inside rfl
  · rw [nothing]
    rfl
  · exact Word.signed_of_mem (sample * 64) (by omega) (by omega)
  · rw [nothing]
    exact Int.zero_add _

/-- The visible luma rows that are co-located with rows of chroma hold samples. -/
def LumaInRange (job : ChromaJob) : Prop :=
  ∀ row < job.rowCount, ∀ column < job.extent.width,
    job.depth.IsSample (job.luma.value (job.subsampling.lumaRow row) column)

/-- The visible rows of the chroma source hold samples. -/
def SourceInRange (job : ChromaJob) : Prop :=
  ∀ row < job.rowCount, ∀ column < job.columns, job.depth.IsSample (job.source.value row column)

/-- A blend that passes its check has the visible chroma extent, and noise for it. -/
theorem extent_of_check (job : ChromaJob) (chroma : Extent) (passed : job.check = .ok chroma) :
    chroma = ⟨job.columns, job.rowCount⟩ ∧ job.checkNoise chroma = .ok () := by
  rw [check] at passed
  simp only [bind_eq_ok_iff, pure, Except.pure, Except.ok.injEq] at passed
  obtain ⟨_, _, extent, reduced, _, sufficient, rfl⟩ := passed
  exact ⟨((Subsampling.chromaExtent_eq_ok_iff _ _ _).mp reduced).2.2, sufficient⟩

/-- In rows that are found, the luma value at a visible column is found. -/
theorem averageLuma_of_rows (job : ChromaJob) (layout : Layout) (size row : Nat) (found : Rows)
    (located : job.rows job.columns layout size row = .ok found) (column : Nat)
    (inside : column < job.columns) :
    averageLuma found.luma job.subsampling.x column =
      .ok (mean (job.luma.value (job.subsampling.lumaRow row)) job.extent.width job.subsampling.x
        column) := by
  obtain ⟨luma, _, _, _, rfl⟩ := (job.rows_eq_ok_iff _ layout size row found).mp located
  exact averageLuma_eq_mean _ _ _ _ column (job.luma.window_holds _ _ luma)
    (fun single => Subsampling.single_lt _ _ column single inside)
    (fun double => Subsampling.double_lt _ _ column double inside)

section LumaAlone

variable (job : ChromaJob) (mix : job.parameters.mix job.plane = .lumaAlone)
  (inRange : job.LumaInRange)

include mix inRange

/-- With a mix of luma alone both modes give the same result at a visible place. -/
theorem sampleAt_lumaAlone (layout : Layout) (size row : Nat) (found : Rows)
    (located : job.rows job.columns layout size row = .ok found) (rowInside : row < job.rowCount)
    (column : Nat) (inside : column < job.columns) :
    job.sampleAt .mixed found column = job.sampleAt .luma found column := by
  have average := job.averageLuma_of_rows layout size row found located column inside
  have sampled := isSample_mean_of_visible job.depth _ job.extent.width job.subsampling.x column
    (inRange row rowInside) inside
  simp only [sampleAt, average, key, mix, mixedKey_lumaAlone job.depth _ _ sampled, bind,
    Except.bind]

/-- With a mix of luma alone a blend in mixed mode is the blend in luma mode. -/
theorem blend_lumaAlone (target : Raster Int) :
    job.blend .mixed target = job.blend .luma target := by
  rw [blend, blend]
  cases passed : job.check with
  | error fault => rfl
  | ok chroma =>
    obtain ⟨rfl, _⟩ := job.extent_of_check chroma passed
    apply target.sweep_congr
    intro row rowInside buffer
    rw [Raster.paintRow, Raster.paintRow, stroke, stroke]
    cases located : job.rows job.columns target.layout target.samples.size row with
    | error fault => rfl
    | ok found =>
      apply store_congr
      intro column inside
      exact job.sampleAt_lumaAlone mix inRange _ _ row found located rowInside column inside

end LumaAlone

/-- The luma blend of the samples of a chroma plane, with the noise that an image has for luma. -/
def asLuma (job : ChromaJob) (image : NoiseImage) : LumaJob where
  depth := job.depth
  noise := image
  table := job.table
  source := job.source
  low := job.low
  high := job.high
  shift := job.parameters.scalingShift
  extent := ⟨job.columns, job.rowCount⟩
  start := job.start

section SampleAlone

variable (job : ChromaJob) (image : NoiseImage)

/-- Where the rows for a chroma row are found, those for the same row of the luma blend are. -/
theorem rows_asLuma (noise : image.y = job.noise.get job.plane) (layout : Layout)
    (size row : Nat) (found : Rows)
    (located : job.rows job.columns layout size row = .ok found) :
    (job.asLuma image).rows layout size row = .ok ⟨found.source, found.noise, found.start⟩ := by
  obtain ⟨_, source, entries, target, rfl⟩ :=
    (job.rows_eq_ok_iff _ layout size row found).mp located
  apply ((job.asLuma image).rows_eq_ok_iff layout size row _).mpr
  rw [asLuma, noise]
  exact ⟨source, entries, target, rfl⟩

/-- With a mix of the sample alone the luma blend gives the same result at a visible place. -/
theorem sampleAt_asLuma (mix : job.parameters.mix job.plane = .sampleAlone)
    (inRange : job.SourceInRange) (layout : Layout) (size row : Nat) (found : Rows)
    (located : job.rows job.columns layout size row = .ok found) (rowInside : row < job.rowCount)
    (column : Nat) (inside : column < job.columns) :
    (job.asLuma image).sampleAt ⟨found.source, found.noise, found.start⟩ column =
      job.sampleAt .mixed found column := by
  have average := job.averageLuma_of_rows layout size row found located column inside
  obtain ⟨_, source, _, _, rfl⟩ := (job.rows_eq_ok_iff _ layout size row found).mp located
  have sample := (job.source.window_holds row _ source).elementAt column inside
  have scalingKey := mixedKey_sampleAlone job.depth
    (mean (job.luma.value (job.subsampling.lumaRow row)) job.extent.width job.subsampling.x column)
    _ (inRange row rowInside column inside)
  simp only [sampleAt, LumaJob.sampleAt, average, sample, key, mix, scalingKey, bind, Except.bind]
  rfl

/-- With a mix of the sample alone, a blend in mixed mode that completes leaves what the luma
blend of the plane leaves. The luma blend may complete where the other does not: it needs no luma
rows and no coefficients. -/
theorem blend_sampleAlone (mix : job.parameters.mix job.plane = .sampleAlone)
    (inRange : job.SourceInRange) (noise : image.y = job.noise.get job.plane)
    (target left : Raster Int) (done : job.blend .mixed target = .done left) :
    (job.asLuma image).blend target = .done left := by
  rw [blend] at done
  cases passed : job.check with
  | error fault => simp [passed] at done
  | ok chroma =>
    rw [passed] at done
    obtain ⟨rfl, sufficient⟩ := job.extent_of_check chroma passed
    have accepted : (job.asLuma image).check = .ok () := by
      rw [LumaJob.check, asLuma, noise]
      exact sufficient
    rw [LumaJob.blend, accepted, ← done]
    apply target.sweep_congr
    intro row rowInside buffer
    obtain ⟨given, stroked, _⟩ := Raster.strokes_of_paint_done _ _ _ _ _ done row rowInside
    obtain ⟨found, located, _⟩ := (job.stroke_eq_ok_iff _ _ _ _ row given).mp stroked
    rw [Raster.paintRow, Raster.paintRow, stroke, LumaJob.stroke, located,
      job.rows_asLuma image noise _ _ row found located]
    apply store_congr
    intro column inside
    exact job.sampleAt_asLuma image mix inRange _ _ row found located rowInside column inside

end SampleAlone

/-- The blend with other parameters. -/
def withParameters (job : ChromaJob) (parameters : GrainParameters) : ChromaJob :=
  { job with parameters := parameters }

/-- In luma mode a blend depends on its parameters through the shift only, as long as the
coefficients have codes. -/
theorem blend_luma_withParameters (job : ChromaJob) (parameters : GrainParameters)
    (shift : parameters.scalingShift = job.parameters.scalingShift)
    (coefficients : job.checkCoefficients = .ok ())
    (otherCoefficients : (job.withParameters parameters).checkCoefficients = .ok ())
    (target : Raster Int) :
    (job.withParameters parameters).blend .luma target = job.blend .luma target := by
  have checked : (job.withParameters parameters).check = job.check := by
    rw [check, check, coefficients, otherCoefficients]
    simp only [withParameters, checkNoise, shift]
  have sampled (found : Rows) :
      (job.withParameters parameters).sampleAt .luma found = job.sampleAt .luma found := by
    funext column
    simp only [withParameters, sampleAt, key, setting, shift]
  have stroked (width : Nat) (layout : Layout) (size : Nat) :
      (job.withParameters parameters).stroke .luma width layout size =
        job.stroke .luma width layout size := by
    funext row
    rw [stroke, stroke]
    simp only [sampled]
    rfl
  rw [blend, blend, checked]
  simp only [stroked]

end ChromaJob

namespace StripJob

variable (job : StripJob) (u v : Nat)

/-- The strip with keys that are mixed from luma alone, with `u` and `v` scaling points for the
chroma planes and the luma table for all planes. -/
def mixedFromLuma : StripJob :=
  { job with
    parameters :=
      { job.parameters with
        chromaFromLuma := false
        points := ⟨job.parameters.points.y, u, v⟩
        mixU := .lumaAlone
        mixV := .lumaAlone }
    tables := ⟨job.tables.y, job.tables.y, job.tables.y⟩ }

/-- Parameters that mix keys from luma alone are accepted where the shift has a code. -/
theorem validate_mixedFromLuma (accepted : job.parameters.validate = .ok ()) :
    (job.mixedFromLuma u v).parameters.validate = .ok () := by
  obtain ⟨coded, _⟩ := (GrainParameters.validate_eq_ok_iff job.parameters).mp accepted
  refine (GrainParameters.validate_eq_ok_iff _).mpr ⟨coded, ?_⟩
  intro plane chromaPlane coefficient
  cases plane with
  | y => simp [Plane.chroma] at chromaPlane
  | u => cases coefficient <;> rfl
  | v => cases coefficient <;> rfl

/-- A strip whose keys are luma takes noise on the same planes as the one whose keys are mixed
from luma alone. -/
theorem appliesTo_mixedFromLuma (fromLuma : job.parameters.chromaFromLuma = true)
    (uPositive : 0 < u) (vPositive : 0 < v) (plane : Plane) :
    (job.mixedFromLuma u v).parameters.appliesTo plane = job.parameters.appliesTo plane := by
  cases plane with
  | y => rfl
  | u => simp [GrainParameters.appliesTo, mixedFromLuma, PerPlane.get, fromLuma, uPositive,
      Plane.isChroma]
  | v => simp [GrainParameters.appliesTo, mixedFromLuma, PerPlane.get, fromLuma, vPositive,
      Plane.isChroma]

/-- The chroma blends of the two strips differ in their parameters only. -/
theorem chromaJob_mixedFromLuma (fromLuma : job.parameters.chromaFromLuma = true) (plane : Plane)
    (start : Nat) :
    (job.mixedFromLuma u v).chromaJob plane start =
      (job.chromaJob plane start).withParameters (job.mixedFromLuma u v).parameters := by
  cases plane <;>
    simp [ChromaJob.withParameters, chromaJob, chromaTable, mixedFromLuma, fromLuma, PerPlane.get]

/-- A chroma plane of the two strips is blended alike. -/
theorem blend_mixedFromLuma (fromLuma : job.parameters.chromaFromLuma = true)
    (accepted : job.parameters.validate = .ok ()) (lumaInRange : job.SourceInRange .y)
    (plane : Plane) (chromaPlane : plane.isChroma = true) (start : Nat) (target : Raster Int) :
    ((job.mixedFromLuma u v).chromaJob plane start).blend .mixed target =
      (job.chromaJob plane start).blend .luma target := by
  have mix : (job.mixedFromLuma u v).parameters.mix plane = .lumaAlone := by
    cases plane with
    | y => cases chromaPlane
    | u => rfl
    | v => rfl
  have samples : ((job.mixedFromLuma u v).chromaJob plane start).LumaInRange := by
    intro row inside
    exact lumaInRange _ (job.subsampling.lumaRow_lt job.extent.height row inside)
  rw [ChromaJob.blend_lumaAlone _ mix samples, job.chromaJob_mixedFromLuma u v fromLuma]
  apply (job.chromaJob plane start).blend_luma_withParameters
    (job.mixedFromLuma u v).parameters rfl
  · exact ChromaJob.checkCoefficients_of_validate _ chromaPlane accepted
  · exact ChromaJob.checkCoefficients_of_validate _ chromaPlane
      (job.validate_mixedFromLuma u v accepted)

/-- The two strips are the same plain call. -/
theorem apply_plain_mixedFromLuma (fromLuma : job.parameters.chromaFromLuma = true)
    (accepted : job.parameters.validate = .ok ()) (lumaInRange : job.SourceInRange .y)
    (uPositive : 0 < u) (vPositive : 0 < v) (target : PerPlane (Raster Int)) :
    (job.mixedFromLuma u v).apply .plain target = job.apply .plain target := by
  have applies := job.appliesTo_mixedFromLuma u v fromLuma uPositive vPositive
  have luma : (job.mixedFromLuma u v).applyLuma .plain = job.applyLuma .plain := rfl
  have chroma (extent : Extent) (plane : Plane) (chromaPlane : plane.isChroma = true) :
      (job.mixedFromLuma u v).applyChroma .plain extent plane =
        job.applyChroma .plain extent plane := by
    funext target
    rw [applyChroma, applyChroma, applies plane]
    split
    · rw [show (job.mixedFromLuma u v).start = job.start from rfl,
        show (job.mixedFromLuma u v).subsampling = job.subsampling from rfl]
      cases Word.shiftRight job.start job.subsampling.y with
      | error fault => rfl
      | ok start =>
        have blended := job.blend_mixedFromLuma u v fromLuma accepted lumaInRange plane
          chromaPlane start target
        simpa [GrainParameters.keyMode, mixedFromLuma, fromLuma] using blended
    · rfl
  rw [apply, apply, accepted, job.validate_mixedFromLuma u v accepted]
  simp only [applyPlanes, luma, chroma _ .u rfl, chroma _ .v rfl]
  rfl

/-- What is visible of the two strips is the same. -/
theorem visibleInRange_mixedFromLuma (fromLuma : job.parameters.chromaFromLuma = true)
    (uPositive : 0 < u) (vPositive : 0 < v) (inRange : job.VisibleInRange) :
    (job.mixedFromLuma u v).VisibleInRange where
  samples := inRange.samples
  entries := fun plane noisy => inRange.entries plane
    ((job.appliesTo_mixedFromLuma u v fromLuma uPositive vPositive plane).symm.trans noisy)
  lowInside := inRange.lowInside
  ordered := inRange.ordered
  highInside := inRange.highInside

/-- The ways of blending agree where their keys coincide. With all of the weight on the luma
value, mixed mode and luma mode are the same blend, whether it completes or not. With all of it
on the sample, a blend in mixed mode that completes leaves what the luma blend of the plane's
samples leaves. And a strip that takes its chroma keys from luma is the same call as the strip
that mixes them from luma alone, with points for both chroma planes and the luma table for all. -/
theorem key_paths_agree :
    (∀ (job : ChromaJob) (target : Raster Int), job.parameters.mix job.plane = .lumaAlone →
        job.LumaInRange → job.blend .mixed target = job.blend .luma target) ∧
      (∀ (job : ChromaJob) (image : NoiseImage) (target left : Raster Int),
        job.parameters.mix job.plane = .sampleAlone → job.SourceInRange →
          image.y = job.noise.get job.plane → job.blend .mixed target = .done left →
            (job.asLuma image).blend target = .done left) ∧
      ∀ (job : StripJob) (kernels : Kernels) (u v : Nat) (target : PerPlane (Raster Int)),
        job.parameters.chromaFromLuma = true → job.parameters.validate = .ok () → 0 < u → 0 < v →
          (kernels = .plain ∧ job.SourceInRange .y ∨ job.VisibleInRange) →
            (job.mixedFromLuma u v).apply kernels target = job.apply kernels target := by
  refine ⟨?_, ?_, ?_⟩
  · intro job target mix inRange
    exact job.blend_lumaAlone mix inRange target
  · intro job image target left mix inRange noise done
    exact job.blend_sampleAlone image mix inRange noise target left done
  · intro job kernels u v target fromLuma accepted uPositive vPositive forms
    have plain (inRange : job.SourceInRange .y) := job.apply_plain_mixedFromLuma u v fromLuma
      accepted inRange uPositive vPositive target
    rcases forms with ⟨rfl, inRange⟩ | inRange
    · exact plain inRange
    · have otherInRange := job.visibleInRange_mixedFromLuma u v fromLuma uPositive vPositive inRange
      rw [apply_eq_apply_plain _ otherInRange, job.apply_eq_apply_plain inRange]
      exact plain (inRange.samples .y)

/-- The odd strip with chroma keys from luma, and noise on all planes. -/
def lumaKeyedStrip : StripJob :=
  { oddStrip with
    parameters := { oddStrip.parameters with chromaFromLuma := true }
    noise := { oddStrip.noise with v := ⟨3, 2, #[0, 0, 5, -5, 200, -200], rfl⟩ } }

/-- The second plane of the odd strip, keyed on luma alone or on its own samples alone, and the
strip keyed on luma, in registers. -/
theorem lumaKeyedStrip_paths :
    let plane := oddStrip.chromaJob .u 1
    let onLuma := plane.withParameters { oddStrip.parameters with mixU := .lumaAlone }
    let onSample := plane.withParameters { oddStrip.parameters with mixU := .sampleAlone }
    let image : NoiseImage := ⟨oddStrip.noise.u, .empty, .empty⟩
    let left : Raster Int := ⟨#[9, 960, 64, 9, 640, 76, 9], ⟨1, 3⟩⟩
    let kernels : Kernels := ⟨.all, .ofFeatures .all⟩
    (onLuma.LumaInRange ∧ onSample.SourceInRange ∧ onSample.blend .mixed oddTarget.u = .done left ∧
        lumaKeyedStrip.parameters.validate = .ok () ∧ lumaKeyedStrip.VisibleInRange) ∧
      onLuma.blend .mixed oddTarget.u = onLuma.blend .luma oddTarget.u ∧
      (onSample.asLuma image).blend oddTarget.u = .done left ∧
      (lumaKeyedStrip.mixedFromLuma 1 2).apply kernels oddTarget =
        lumaKeyedStrip.apply kernels oddTarget := by
  intro plane onLuma onSample image left kernels
  have luma : onLuma.LumaInRange := by
    unfold ChromaJob.LumaInRange
    decide
  have source : onSample.SourceInRange := by
    unfold ChromaJob.SourceInRange
    decide
  have done : onSample.blend .mixed oddTarget.u = .done left := by decide +kernel
  have accepted : lumaKeyedStrip.parameters.validate = .ok () := by decide
  have inRange : lumaKeyedStrip.VisibleInRange := {
    samples := by intro plane; cases plane <;> decide
    entries := by intro plane _; cases plane <;> decide
    lowInside := by decide
    ordered := by intro plane; cases plane <;> decide
    highInside := by intro plane; cases plane <;> decide }
  obtain ⟨fromLuma, fromSample, strips⟩ := key_paths_agree
  exact ⟨⟨luma, source, done, accepted, inRange⟩, fromLuma onLuma oddTarget.u rfl luma,
    fromSample onSample image oddTarget.u left rfl source rfl done,
    strips lumaKeyedStrip kernels 1 2 oddTarget rfl accepted (by decide) (by decide) (.inr inRange)⟩

end StripJob

end GrainSynthesis
