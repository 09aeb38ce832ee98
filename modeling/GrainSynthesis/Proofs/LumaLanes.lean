import GrainSynthesis.Kernels
import GrainSynthesis.Proofs.LaneScaling
import GrainSynthesis.Proofs.LaneWindows
import GrainSynthesis.Proofs.StripIdeal

/-!
# Luma in registers

A luma row that is worked on in registers receives what it receives sample by
sample. Where its rows are found every window computes the ideal results, and
where they are not both forms stop at the same fault with the same buffer. So the
two forms are equal as runs, in whatever they leave and however they end, and it
does not matter which form a processor falls back to.
-/

namespace GrainSynthesis

open Lanes Register

namespace LumaJob

/-- The windows of sound rows compute the ideal results. -/
theorem laneWindow_computes (job : LumaJob) (valid : job.setting.Valid)
    (ordered : job.low ≤ job.high) (lanes : Nat) (found : Rows) (source noise : Nat → Int)
    (sound : job.Sound found source noise) (first : Nat) (inside : first < job.extent.width) :
    Computes (job.laneWindow lanes found) job.extent.width (job.idealAt source noise) first := by
  obtain ⟨samples, samplesLoaded, sampleAt⟩ := edgeWindow_of_holds lanes found.source
    job.extent.width first source sound.sourceHeld
    (fun column below => fits16_of_isSample (sound.samples column below)) inside
  obtain ⟨entries, entriesLoaded, entryAt⟩ := zeroWindow_of_holds lanes found.noise
    job.extent.width first noise sound.noiseHeld
    (fun column below => fits16_of_isGrain (sound.entries column below)) inside
  have samplesInside (lane : Nat) (below : lane < lanes) : job.depth.IsSample samples[lane] := by
    rw [sampleAt lane below]
    exact sound.samples _ (by omega)
  have entriesInside (lane : Nat) (below : lane < lanes) : job.depth.IsGrain entries[lane] := by
    rw [entryAt lane below]
    split
    · rename_i stored
      exact sound.entries _ stored
    · exact job.depth.isGrain_zero
  obtain ⟨results, added, ideal⟩ := Noise.laneAdd_eq job.setting valid ordered samples samples
    entries samplesInside samplesInside entriesInside
  refine ⟨results, ?_, ?_⟩
  · simp only [laneWindow, samplesLoaded, entriesLoaded, bind, Except.bind]
    exact added
  · intro lane below stored
    have column : min (first + lane) (job.extent.width - 1) = first + lane := by omega
    rw [ideal lane below, sampleAt lane below, entryAt lane below, column, if_pos stored, idealAt]

/-- A row that is worked on in registers is painted, when the rows that it is computed from are
sound wherever they are found. -/
theorem laneRow_eq_paintRow (job : LumaJob) (valid : job.setting.Valid)
    (ordered : job.low ≤ job.high) (vector : VectorWidth) (layout : Layout) (size row : Nat)
    (sound : ∀ found, job.rows layout size row = .ok found →
      job.Sound found (job.source.value row) (job.noise.y.value (job.start + row)))
    (buffer : Array Int) :
    job.laneRow vector layout size row buffer =
      Raster.paintRow job.extent.width (job.stroke layout size) row buffer := by
  rw [laneRow, Raster.paintRow, stroke]
  cases located : job.rows layout size row with
  | error fault => rfl
  | ok found =>
    have sound := sound found located
    have stored := sweepWindows_eq_store job.depth (job.laneWindow vector.lanes found) found.start
      job.extent.width _ (fun column _ => Noise.isSample_ideal job.setting valid _ _ _)
      vector.lanes_pos
      (fun _ inside => job.laneWindow_computes valid ordered vector.lanes found _ _ sound _ inside)
      buffer
    refine stored.trans (store_congr _ _ _ _ buffer ?_)
    intro column inside
    exact (job.sampleAt_eq_idealAt valid found _ _ sound column inside).symm

/-- Blending luma in registers of either width is blending it sample by sample, when the rows
that are found for the visible rows are sound. -/
theorem blendLanes_eq_blend_of_sound (job : LumaJob) (low : job.depth.IsSample job.low)
    (high : job.depth.IsSample job.high) (ordered : job.low ≤ job.high) (vector : VectorWidth)
    (target : Raster Int)
    (sound : ∀ row < job.extent.height, ∀ found,
      job.rows target.layout target.samples.size row = .ok found →
        job.Sound found (job.source.value row) (job.noise.y.value (job.start + row))) :
    job.blendLanes vector target = job.blend target := by
  rw [blendLanes, blend]
  cases checked : job.check with
  | error fault => rfl
  | ok _ =>
    have coded := ((Noise.check_eq_ok_iff _ _ _ _).mp checked).1
    have valid : job.setting.Valid := ⟨coded, low, high⟩
    apply target.sweep_congr
    intro row inside buffer
    exact job.laneRow_eq_paintRow valid ordered vector _ _ row (sound row inside) buffer

/-- Blending luma in registers of either width is blending it sample by sample. -/
theorem blendLanes_eq_blend (job : LumaJob) (low : job.depth.IsSample job.low)
    (high : job.depth.IsSample job.high) (ordered : job.low ≤ job.high)
    (samples : ∀ value ∈ job.source.samples, job.depth.IsSample value)
    (entries : ∀ value ∈ job.noise.y.cells, job.depth.IsGrain value) (vector : VectorWidth)
    (target : Raster Int) : job.blendLanes vector target = job.blend target :=
  job.blendLanes_eq_blend_of_sound low high ordered vector target
    fun row _ found located => job.sound_of_rows _ _ row found samples entries located

/-- The luma blend in registers of either width is the blend sample by sample. So is every form
of it on every processor, and the form that a table of kernels has for any features. -/
theorem luma_forms_agree (job : LumaJob) (lowInside : 0 ≤ job.low) (ordered : job.low ≤ job.high)
    (highInside : job.high ≤ job.depth.maxSample)
    (samples : ∀ value ∈ job.source.samples, job.depth.IsSample value)
    (entries : ∀ value ∈ job.noise.y.cells, job.depth.IsGrain value) (target : Raster Int)
    (host : FeatureSet) :
    (∀ vector : VectorWidth, job.blendLanes vector target = job.blend target) ∧
      (∀ tier : Tier, job.blendIn (tier.settle host) target = job.blend target) ∧
      ∀ features : FeatureSet,
        (Kernels.mk host (KernelTable.ofFeatures features)).luma job target = job.blend target := by
  have low : job.depth.IsSample job.low := ⟨lowInside, le_trans ordered highInside⟩
  have high : job.depth.IsSample job.high := ⟨le_trans lowInside ordered, highInside⟩
  have inRegisters (vector : VectorWidth) : job.blendLanes vector target = job.blend target :=
    job.blendLanes_eq_blend low high ordered samples entries vector target
  have forms (tier : Tier) : job.blendIn tier target = job.blend target := by
    rw [blendIn]
    cases tier.vector? with
    | none => rfl
    | some vector => exact inRegisters vector
  refine ⟨inRegisters, ?_, ?_⟩
  · intro tier
    exact forms (tier.settle host)
  · intro features
    exact forms _

/-- The luma of the odd strip receives in registers of both widths what it receives sample by
sample. -/
theorem oddStrip_luma_forms :
    let job := StripJob.oddStrip.lumaJob
    (0 ≤ job.low ∧ job.low ≤ job.high ∧ job.high ≤ job.depth.maxSample ∧
        (∀ value ∈ job.source.samples, job.depth.IsSample value) ∧
        ∀ value ∈ job.noise.y.cells, job.depth.IsGrain value) ∧
      job.blendLanes .bits128 StripJob.oddTarget.y = job.blend StripJob.oddTarget.y ∧
      job.blendLanes .bits128 StripJob.oddTarget.y =
        .done (.whole #[64, 767, 940, 0, 64, 940, 495, 0, 940, 64, 499] 4) ∧
      job.blendIn (Tier.avx2.settle ⟨true, true⟩) StripJob.oddTarget.y =
        .done (.whole #[64, 767, 940, 0, 64, 940, 495, 0, 940, 64, 499] 4) := by
  intro job
  have low : 0 ≤ job.low := by decide
  have ordered : job.low ≤ job.high := by decide
  have high : job.high ≤ job.depth.maxSample := by decide
  have samples : ∀ value ∈ job.source.samples, job.depth.IsSample value := by decide
  have entries : ∀ value ∈ job.noise.y.cells, job.depth.IsGrain value := by decide
  have plain : job.blend StripJob.oddTarget.y =
      .done (.whole #[64, 767, 940, 0, 64, 940, 495, 0, 940, 64, 499] 4) := by decide +kernel
  have inRegisters : job.blendLanes .bits128 StripJob.oddTarget.y =
      .done (.whole #[64, 767, 940, 0, 64, 940, 495, 0, 940, 64, 499] 4) := by decide +kernel
  obtain ⟨widths, forms, _⟩ := luma_forms_agree job low ordered high samples entries
    StripJob.oddTarget.y ⟨true, true⟩
  exact ⟨⟨low, ordered, high, samples, entries⟩, widths .bits128, inRegisters,
    (forms .avx2).trans plain⟩

end LumaJob

end GrainSynthesis
