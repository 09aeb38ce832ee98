import GrainSynthesis.Kernels
import GrainSynthesis.Proofs.LaneKeys
import GrainSynthesis.Proofs.LaneScaling
import GrainSynthesis.Proofs.StripIdeal

/-!
# Chroma in registers

A chroma row that is worked on in registers receives what it receives sample by
sample, for both ways of keying and both register widths, and the two forms are
equal as runs.

The reason is that every lane of a window is within bounds. Lanes past the end of
the row hold luma values and samples that the row has, and noise that is zero, so
that no lane asks a table for an entry that is not there, and the exact result of
each operation on a lane fits the lane.
-/

namespace GrainSynthesis

open Lanes Register

namespace ChromaJob

/-- The registers that are loaded for a window of a row. -/
structure Loaded (job : ChromaJob) (vector : VectorWidth) (found : Rows) (column : Nat)
    (averages samples entries : Register vector.lanes) : Prop where
  averages : laneAverages vector found.luma job.subsampling.x column = .ok averages
  samples : edgeWindow vector.lanes found.source column = .ok samples
  entries : zeroWindow vector.lanes found.noise column = .ok entries

/-- Every lane of a window is computed without a fault, whether it is stored or not, and no
operation on a lane wraps or saturates. -/
structure LanesFit (job : ChromaJob) (mode : KeyMode) (vector : VectorWidth) (found : Rows)
    (column : Nat) : Prop where
  neighbours : job.subsampling.x ≠ 0 →
    ∃ row, edgeWindow (2 * vector.lanes) found.luma (2 * column) = .ok row ∧
      ∀ lane < vector.lanes, ∃ left right,
        row[2 * lane]? = some left ∧ row[2 * lane + 1]? = some right ∧ AverageFits left right
  window : ∃ averages samples entries factors,
    job.Loaded vector found column averages samples entries ∧
      Noise.laneFactors job.table job.depth (job.laneKeys mode averages samples) = .ok factors ∧
        ∀ (lane : Nat) (_ : lane < vector.lanes),
          (mode = .mixed →
            MixFits job.depth (job.parameters.mix job.plane) averages[lane] samples[lane]) ∧
          (job.depth = .ten → ScalingTable.InterpolationFits
            (job.table.level ((job.laneKeys mode averages samples)[lane] / 4).toNat)
            (job.table.level (((job.laneKeys mode averages samples)[lane] / 4).toNat + 1))
            (job.laneKeys mode averages samples)[lane]) ∧
          Noise.AdditionFits job.setting factors[lane] samples[lane] entries[lane]

/-- The registers of a window of sound rows: every lane is in range, and the lanes that lie
in the row have the values of their columns. -/
theorem exists_loaded (job : ChromaJob) (vector : VectorWidth) (width : Nat) (found : Rows)
    (luma source noise : Nat → Int) (sound : job.Sound width found luma source noise)
    (column : Nat) (inside : column < width) :
    ∃ averages samples entries, job.Loaded vector found column averages samples entries ∧
      ∀ (lane : Nat) (_ : lane < vector.lanes),
        (job.depth.IsSample averages[lane] ∧ job.depth.IsSample samples[lane] ∧
          job.depth.IsGrain entries[lane]) ∧
        (column + lane < width →
          averages[lane] = mean luma job.extent.width job.subsampling.x (column + lane) ∧
            samples[lane] = source (column + lane) ∧ entries[lane] = noise (column + lane)) := by
  obtain ⟨averages, averagesLoaded, averageAt⟩ := laneAverages_eq job.depth vector found.luma luma
    job.extent.width job.subsampling.x width column sound.lumaHeld sound.lumaSamples
    sound.unshared sound.shared inside
  obtain ⟨samples, samplesLoaded, sampleAt⟩ := edgeWindow_of_holds vector.lanes found.source width
    column source sound.sourceHeld
    (fun position below => fits16_of_isSample (sound.samples position below)) inside
  obtain ⟨entries, entriesLoaded, entryAt⟩ := zeroWindow_of_holds vector.lanes found.noise width
    column noise sound.noiseHeld
    (fun position below => fits16_of_isGrain (sound.entries position below)) inside
  refine ⟨averages, samples, entries, ⟨averagesLoaded, samplesLoaded, entriesLoaded⟩, ?_⟩
  intro lane below
  obtain ⟨averageInside, averageStored⟩ := averageAt lane below
  rw [sampleAt lane below, entryAt lane below]
  refine ⟨⟨averageInside, sound.samples _ (by omega), ?_⟩, ?_⟩
  · split
    · rename_i stored
      exact sound.entries _ stored
    · exact job.depth.isGrain_zero
  · intro stored
    have position : min (column + lane) (width - 1) = column + lane := by omega
    rw [position, if_pos stored]
    exact ⟨averageStored stored, rfl, rfl⟩

/-- The windows of sound rows compute the ideal results. -/
theorem laneWindow_computes (job : ChromaJob) (mode : KeyMode) (valid : job.setting.Valid)
    (ordered : job.low ≤ job.high) (coded : (job.parameters.mix job.plane).Coded)
    (vector : VectorWidth) (width : Nat) (found : Rows) (luma source noise : Nat → Int)
    (sound : job.Sound width found luma source noise) (first : Nat) (inside : first < width) :
    Computes (job.laneWindow mode vector found) width (job.idealAt mode luma source noise)
      first := by
  obtain ⟨averages, samples, entries, loaded, lanes⟩ :=
    job.exists_loaded vector width found luma source noise sound first inside
  have keysInside (lane : Nat) (below : lane < vector.lanes) :
      job.depth.IsSample (job.laneKeys mode averages samples)[lane] :=
    job.isSample_laneKeys mode coded averages samples lane below (lanes lane below).1.1
      (lanes lane below).1.2.1
  obtain ⟨results, added, ideal⟩ := Noise.laneAdd_eq job.setting valid ordered
    (job.laneKeys mode averages samples) samples entries keysInside
    (fun lane below => (lanes lane below).1.2.1) (fun lane below => (lanes lane below).1.2.2)
  refine ⟨results, ?_, ?_⟩
  · simp only [laneWindow, loaded.averages, loaded.samples, loaded.entries, bind, Except.bind]
    exact added
  · intro lane below stored
    obtain ⟨⟨averageInside, sampleInside, _⟩, inRow⟩ := lanes lane below
    obtain ⟨average, sample, entry⟩ := inRow stored
    rw [ideal lane below, job.getElem_laneKeys mode coded averages samples lane below averageInside
      sampleInside, average, sample, entry, idealAt]

/-- No operation on a lane of a window of sound rows leaves its bounds. -/
theorem lanesFit_of_sound (job : ChromaJob) (mode : KeyMode) (valid : job.setting.Valid)
    (coded : (job.parameters.mix job.plane).Coded) (vector : VectorWidth) (width : Nat)
    (found : Rows) (luma source noise : Nat → Int)
    (sound : job.Sound width found luma source noise) (column : Nat) (inside : column < width) :
    job.LanesFit mode vector found column := by
  obtain ⟨averages, samples, entries, loaded, lanes⟩ :=
    job.exists_loaded vector width found luma source noise sound column inside
  have keysInside (lane : Nat) (below : lane < vector.lanes) :
      job.depth.IsSample (job.laneKeys mode averages samples)[lane] :=
    job.isSample_laneKeys mode coded averages samples lane below (lanes lane below).1.1
      (lanes lane below).1.2.1
  obtain ⟨factors, looked, strength⟩ := Noise.laneFactors_eq job.table job.depth
    (job.laneKeys mode averages samples) keysInside
  constructor
  · intro double
    obtain ⟨row, rowLoaded, neighbours⟩ := exists_neighbours job.depth vector found.luma luma
      job.extent.width column sound.lumaHeld sound.lumaSamples (sound.shared double column inside)
    refine ⟨row, rowLoaded, ?_⟩
    intro lane below
    obtain ⟨left, right, leftHeld, rightHeld, fits, _⟩ := neighbours lane below
    exact ⟨left, right, leftHeld, rightHeld, fits⟩
  · refine ⟨averages, samples, entries, factors, loaded, looked, ?_⟩
    intro lane below
    obtain ⟨⟨averageInside, sampleInside, entryInside⟩, _⟩ := lanes lane below
    refine ⟨?_, ?_, ?_⟩
    · intro _
      exact mixFits job.depth _ coded _ _ averageInside sampleInside
    · intro _
      obtain ⟨startLow, startHigh⟩ := job.table.level_mem
        ((job.laneKeys mode averages samples)[lane] / 4).toNat
      obtain ⟨stopLow, stopHigh⟩ := job.table.level_mem
        (((job.laneKeys mode averages samples)[lane] / 4).toNat + 1)
      exact ScalingTable.interpolationFits _ _ _ startLow startHigh stopLow stopHigh
    · rw [strength lane below]
      exact Noise.additionFits job.setting valid _ _ _ sampleInside entryInside

/-- A row that is worked on in registers is painted, when the rows that it is computed from are
sound wherever they are found. -/
theorem laneRow_eq_paintRow (job : ChromaJob) (mode : KeyMode) (valid : job.setting.Valid)
    (ordered : job.low ≤ job.high) (coded : (job.parameters.mix job.plane).Coded)
    (vector : VectorWidth) (layout : Layout) (size row : Nat)
    (sound : ∀ found, job.rows job.columns layout size row = .ok found →
      job.Sound job.columns found (job.luma.value (job.subsampling.lumaRow row))
        (job.source.value row) ((job.noise.get job.plane).value (job.start + row)))
    (buffer : Array Int) :
    job.laneRow mode vector job.columns layout size row buffer =
      Raster.paintRow job.columns (job.stroke mode job.columns layout size) row buffer := by
  rw [laneRow, Raster.paintRow, stroke]
  cases located : job.rows job.columns layout size row with
  | error fault => rfl
  | ok found =>
    have sound := sound found located
    have stored := sweepWindows_eq_store job.depth (job.laneWindow mode vector found) found.start
      job.columns _ (fun column _ => Noise.isSample_ideal job.setting valid _ _ _)
      vector.lanes_pos
      (fun _ inside => job.laneWindow_computes mode valid ordered coded vector job.columns found
        _ _ _ sound _ inside)
      buffer
    refine stored.trans (store_congr _ _ _ _ buffer ?_)
    intro column inside
    exact (job.sampleAt_eq_idealAt mode valid coded _ found _ _ _ sound column inside).symm

/-- With accepted parameters it does not matter that registers check the noise before the
coefficients. -/
theorem checkLanes_eq_check (job : ChromaJob) (chromaPlane : job.plane.isChroma = true)
    (accepted : job.parameters.validate = .ok ()) : job.checkLanes = job.check := by
  have coefficients := job.checkCoefficients_of_validate chromaPlane accepted
  rw [checkLanes, check, coefficients]
  rfl

/-- Blending chroma in registers of either width is blending it sample by sample, when the rows
that are found for the visible rows are sound. -/
theorem blendLanes_eq_blend_of_sound (job : ChromaJob) (mode : KeyMode)
    (chromaPlane : job.plane.isChroma = true) (accepted : job.parameters.validate = .ok ())
    (low : job.depth.IsSample job.low) (high : job.depth.IsSample job.high)
    (ordered : job.low ≤ job.high) (vector : VectorWidth) (target : Raster Int)
    (sound : ∀ row < job.rowCount, ∀ found,
      job.rows job.columns target.layout target.samples.size row = .ok found →
        job.Sound job.columns found (job.luma.value (job.subsampling.lumaRow row))
          (job.source.value row) ((job.noise.get job.plane).value (job.start + row))) :
    job.blendLanes mode vector target = job.blend mode target := by
  rw [blendLanes, blend, job.checkLanes_eq_check chromaPlane accepted]
  cases checked : job.check with
  | error fault => rfl
  | ok chroma =>
    have shiftCoded := ((GrainParameters.validate_eq_ok_iff job.parameters).mp accepted).1
    have valid : job.setting.Valid := ⟨shiftCoded, low, high⟩
    have reduced := ((job.check_eq_ok_iff chromaPlane accepted chroma).mp checked).1
    obtain ⟨_, _, rfl⟩ := (Subsampling.chromaExtent_eq_ok_iff _ _ _).mp reduced
    have coded := job.parameters.coded_of_validate job.plane accepted chromaPlane
    apply target.sweep_congr
    intro row inside buffer
    exact job.laneRow_eq_paintRow mode valid ordered coded vector _ _ row (sound row inside) buffer

/-- Blending chroma in registers of either width is blending it sample by sample. -/
theorem blendLanes_eq_blend (job : ChromaJob) (mode : KeyMode)
    (chromaPlane : job.plane.isChroma = true) (accepted : job.parameters.validate = .ok ())
    (low : job.depth.IsSample job.low) (high : job.depth.IsSample job.high)
    (ordered : job.low ≤ job.high)
    (lumaSamples : ∀ value ∈ job.luma.samples, job.depth.IsSample value)
    (samples : ∀ value ∈ job.source.samples, job.depth.IsSample value)
    (entries : ∀ value ∈ (job.noise.get job.plane).cells, job.depth.IsGrain value)
    (vector : VectorWidth) (target : Raster Int) :
    job.blendLanes mode vector target = job.blend mode target :=
  job.blendLanes_eq_blend_of_sound mode chromaPlane accepted low high ordered vector target
    fun row _ found located =>
      job.sound_of_rows _ _ row found lumaSamples samples entries located

/-- With accepted parameters the chroma blend in registers of either width is the blend sample
by sample, and so is every form of it on every processor. In registers no lane of any window of
a row leaves its bounds. -/
theorem chroma_forms_agree (job : ChromaJob) (mode : KeyMode)
    (chromaPlane : job.plane.isChroma = true) (accepted : job.parameters.validate = .ok ())
    (lowInside : 0 ≤ job.low) (ordered : job.low ≤ job.high)
    (highInside : job.high ≤ job.depth.maxSample)
    (lumaSamples : ∀ value ∈ job.luma.samples, job.depth.IsSample value)
    (samples : ∀ value ∈ job.source.samples, job.depth.IsSample value)
    (entries : ∀ value ∈ (job.noise.get job.plane).cells, job.depth.IsGrain value)
    (target : Raster Int) :
    (∀ vector : VectorWidth, job.blendLanes mode vector target = job.blend mode target) ∧
      (∀ (host : FeatureSet) (tier : Tier),
        job.blendIn mode (tier.settle host) target = job.blend mode target) ∧
      ∀ (vector : VectorWidth) (row : Nat) (found : Rows),
        job.rows job.columns target.layout target.samples.size row = .ok found →
          ∀ column < job.columns, job.LanesFit mode vector found column := by
  have low : job.depth.IsSample job.low := ⟨lowInside, le_trans ordered highInside⟩
  have high : job.depth.IsSample job.high := ⟨le_trans lowInside ordered, highInside⟩
  have inRegisters (vector : VectorWidth) :
      job.blendLanes mode vector target = job.blend mode target :=
    job.blendLanes_eq_blend mode chromaPlane accepted low high ordered lumaSamples samples entries
      vector target
  refine ⟨inRegisters, ?_, ?_⟩
  · intro host tier
    rw [blendIn]
    cases (tier.settle host).vector? with
    | none => rfl
    | some vector => exact inRegisters vector
  · intro vector row found located column inside
    have shiftCoded := ((GrainParameters.validate_eq_ok_iff job.parameters).mp accepted).1
    have coded := job.parameters.coded_of_validate job.plane accepted chromaPlane
    have sound := job.sound_of_rows _ _ row found lumaSamples samples entries located
    exact job.lanesFit_of_sound mode ⟨shiftCoded, low, high⟩ coded vector job.columns found _ _ _
      sound column inside

/-- The second plane of the odd strip receives in registers of both widths what it receives
sample by sample. -/
theorem oddStrip_chroma_forms :
    let job := StripJob.oddStrip.chromaJob .u 1
    (job.plane.isChroma = true ∧ job.parameters.validate = .ok () ∧ 0 ≤ job.low ∧
        job.low ≤ job.high ∧ job.high ≤ job.depth.maxSample ∧
        (∀ value ∈ job.luma.samples, job.depth.IsSample value) ∧
        (∀ value ∈ job.source.samples, job.depth.IsSample value) ∧
        ∀ value ∈ (job.noise.get job.plane).cells, job.depth.IsGrain value) ∧
      job.blendLanes .mixed .bits256 StripJob.oddTarget.u = job.blend .mixed StripJob.oddTarget.u ∧
      job.blendLanes .mixed .bits256 StripJob.oddTarget.u =
        .done ⟨#[9, 960, 64, 9, 512, 76, 9], ⟨1, 3⟩⟩ ∧
      job.blendIn .mixed (Tier.avx2.settle ⟨true, false⟩) StripJob.oddTarget.u =
        .done ⟨#[9, 960, 64, 9, 512, 76, 9], ⟨1, 3⟩⟩ := by
  intro job
  have accepted : job.parameters.validate = .ok () := by decide
  have low : 0 ≤ job.low := by decide
  have ordered : job.low ≤ job.high := by decide
  have high : job.high ≤ job.depth.maxSample := by decide
  have lumaSamples : ∀ value ∈ job.luma.samples, job.depth.IsSample value := by decide
  have samples : ∀ value ∈ job.source.samples, job.depth.IsSample value := by decide
  have entries : ∀ value ∈ (job.noise.get job.plane).cells, job.depth.IsGrain value := by decide
  have plain : job.blend .mixed StripJob.oddTarget.u =
      .done ⟨#[9, 960, 64, 9, 512, 76, 9], ⟨1, 3⟩⟩ := by decide +kernel
  have inRegisters : job.blendLanes .mixed .bits256 StripJob.oddTarget.u =
      .done ⟨#[9, 960, 64, 9, 512, 76, 9], ⟨1, 3⟩⟩ := by decide +kernel
  obtain ⟨widths, forms, _⟩ := chroma_forms_agree job .mixed rfl accepted low ordered high
    lumaSamples samples entries StripJob.oddTarget.u
  exact ⟨⟨rfl, accepted, low, ordered, high, lumaSamples, samples, entries⟩, widths .bits256,
    inRegisters, (forms ⟨true, false⟩ .avx2).trans plain⟩

end ChromaJob

end GrainSynthesis
