import GrainSynthesis.Proofs.ChromaLanes
import GrainSynthesis.Proofs.LumaLanes

/-!
# A strip in registers

A strip is the same call whichever forms of the blends its table of kernels names and
whichever processor runs them, as long as its visible samples and the noise entries that
it uses lie in the ranges of the depth and its bounds are in order. Nothing is asked of
what lies beside the visible columns or below the visible rows, though registers reach
past the end of a row.
-/

namespace GrainSynthesis

open Lanes

namespace StripJob

/-- The visible samples of a strip, the noise entries that it uses and its ordered bounds lie
in the ranges of its depth. -/
structure VisibleInRange (job : StripJob) : Prop where
  samples : ∀ plane, ∀ row < (job.visible plane).height, ∀ column < (job.visible plane).width,
    job.depth.IsSample ((job.source.get plane).value row column)
  entries : ∀ plane, job.parameters.appliesTo plane = true →
    ∀ row < (job.visible plane).height, ∀ column < (job.visible plane).width,
      job.depth.IsGrain ((job.noise.get plane).value (job.noiseStart plane + row) column)
  lowInside : 0 ≤ job.clip.low
  ordered : ∀ plane, job.clip.low ≤ job.clip.high plane
  highInside : ∀ plane, job.clip.high plane ≤ job.depth.maxSample

/-- The lower bound is a sample. -/
theorem VisibleInRange.low {job : StripJob} (inRange : job.VisibleInRange) :
    job.depth.IsSample job.clip.low :=
  ⟨inRange.lowInside, le_trans (inRange.ordered .y) (inRange.highInside .y)⟩

/-- The upper bounds are samples. -/
theorem VisibleInRange.high {job : StripJob} (inRange : job.VisibleInRange) (plane : Plane) :
    job.depth.IsSample (job.clip.high plane) :=
  ⟨le_trans inRange.lowInside (inRange.ordered plane), inRange.highInside plane⟩

/-- What is used of a strip in range is in range. -/
theorem VisibleInRange.used {job : StripJob} (inRange : job.VisibleInRange) : job.UsedInRange :=
  ⟨inRange.samples, inRange.entries, inRange.low, inRange.high⟩

/-- The luma blend of a strip in range is the same in every form. -/
theorem luma_eq_blend (job : StripJob) (inRange : job.VisibleInRange)
    (noisy : job.parameters.appliesTo .y = true) (kernels : Kernels) (target : Raster Int) :
    kernels.luma job.lumaJob target = job.lumaJob.blend target := by
  rw [Kernels.luma, LumaJob.blendIn]
  cases (kernels.table.luma.settle kernels.host).vector? with
  | none => rfl
  | some vector =>
    apply job.lumaJob.blendLanes_eq_blend_of_sound inRange.low (inRange.high .y)
      (inRange.ordered .y) vector target
    intro row inside found located
    exact job.lumaJob.sound_of_inRange _ _ row found (inRange.used.lumaRow noisy row inside) located

/-- The blend of a chroma plane of an accepted strip in range is the same in every form. -/
theorem chroma_eq_blend (job : StripJob) (accepted : job.parameters.validate = .ok ())
    (inRange : job.VisibleInRange) (plane : Plane) (chromaPlane : plane.isChroma = true)
    (noisy : job.parameters.appliesTo plane = true) (kernels : Kernels) (mode : KeyMode)
    (target : Raster Int) :
    kernels.chroma mode (job.chromaJob plane (job.noiseStart plane)) target =
      (job.chromaJob plane (job.noiseStart plane)).blend mode target := by
  have high : job.clip.high plane = job.clip.highChroma := by simp [ClipRange.high, chromaPlane]
  have highInside : job.depth.IsSample job.clip.highChroma := high ▸ inRange.high plane
  have ordered : job.clip.low ≤ job.clip.highChroma := high ▸ inRange.ordered plane
  rw [Kernels.chroma, ChromaJob.blendIn]
  cases ((kernels.table.chroma mode).settle kernels.host).vector? with
  | none => rfl
  | some vector =>
    apply (job.chromaJob plane (job.noiseStart plane)).blendLanes_eq_blend_of_sound mode chromaPlane
      accepted inRange.low highInside ordered vector target
    intro row inside found located
    exact ChromaJob.sound_of_inRange _ _ _ row found
      (inRange.used.chromaRow plane chromaPlane noisy row inside) located

/-- A strip in range is the same call with every table of kernels, on every processor. -/
theorem apply_eq_apply_plain (job : StripJob) (inRange : job.VisibleInRange) (kernels : Kernels)
    (target : PerPlane (Raster Int)) : job.apply kernels target = job.apply .plain target := by
  rw [apply, apply]
  cases accepted : job.parameters.validate with
  | error rejection => rfl
  | ok _ =>
    have luma : job.applyLuma kernels = job.applyLuma .plain := by
      funext target
      rw [applyLuma, applyLuma]
      by_cases noisy : job.parameters.appliesTo .y = true
      · rw [if_pos noisy, if_pos noisy, job.luma_eq_blend inRange noisy, Kernels.plain_luma]
      · rw [if_neg noisy, if_neg noisy]
    have chroma (extent : Extent) (plane : Plane) (chromaPlane : plane.isChroma = true) :
        job.applyChroma kernels extent plane = job.applyChroma .plain extent plane := by
      funext target
      rw [applyChroma, applyChroma]
      by_cases noisy : job.parameters.appliesTo plane = true
      · rw [if_pos noisy, if_pos noisy]
        cases begins : Word.shiftRight job.start job.subsampling.y with
        | error fault => rfl
        | ok start =>
          have same := ((Word.shiftRight_eq_ok_iff _ _ _).mp begins).2
          obtain rfl : start = job.noiseStart plane :=
            same.trans (job.noiseStart_of_isChroma plane chromaPlane).symm
          exact job.chroma_eq_blend accepted inRange plane chromaPlane noisy kernels _ target
      · rw [if_neg noisy, if_neg noisy]
    simp only [applyPlanes, luma, chroma _ .u rfl, chroma _ .v rfl]

/-- A call that is plain, or on a strip in range, is the plain call. -/
theorem apply_eq_of_forms (job : StripJob) (kernels : Kernels) (target : PerPlane (Raster Int))
    (forms : kernels = .plain ∨ job.VisibleInRange) :
    job.apply kernels target = job.apply .plain target := by
  rcases forms with rfl | inRange
  · rfl
  · exact job.apply_eq_apply_plain inRange kernels target

end StripJob

end GrainSynthesis
