import GrainSynthesis.Proofs.Painting
import GrainSynthesis.Proofs.Planes
import GrainSynthesis.Proofs.Rows

/-!
# What a strip leaves

An admissible strip completes, and each visible sample of each plane is then the
one that the film grain specification asks for: the source sample on a plane
without noise, and otherwise the source sample with the noise of its place,
scaled by the strength at its key and clipped.

The specification, `idealSample`, speaks of the source planes, the noise image
and the tables by row and column. Strides, offsets, checked arithmetic and the
order in which samples are computed do not occur in it.
-/

namespace GrainSynthesis

/-- A chroma row of the reduced height is co-located with a luma row, whatever the power
of two by which rows are shared. -/
theorem Subsampling.lumaRow_lt (subsampling : Subsampling) (height row : Nat)
    (inside : row < (height + subsampling.y) / 2 ^ subsampling.y) :
    subsampling.lumaRow row < height := by
  have reached : (row + 1) * 2 ^ subsampling.y ≤ height + subsampling.y :=
    (Nat.le_div_iff_mul_le (Nat.two_pow_pos subsampling.y)).mp inside
  have wide : subsampling.y < 2 ^ subsampling.y := Nat.lt_two_pow_self
  rw [Nat.succ_mul] at reached
  rw [lumaRow, Nat.pow_eq]
  omega

/-- The rows of an extent lie in the buffer of a raster, and the buffer can be counted. -/
structure Raster.Covers (raster : Raster Int) (extent : Extent) : Prop where
  addressable : raster.samples.size < Word.sizeLimit
  inside : ∀ row < extent.height, raster.layout.first row + extent.width ≤ raster.samples.size

/-- Rows of a covered extent are reached. -/
theorem Raster.Covers.reaches {raster : Raster Int} {extent : Extent}
    (covers : raster.Covers extent) (row : Nat) (inside : row < extent.height) :
    raster.layout.Reaches raster.samples.size row extent.width := by
  apply raster.layout.reaches_of_addressable _ _ _ covers.addressable
  have ends := covers.inside row inside
  rw [Layout.first] at ends
  omega

/-- A grid that can be counted has an entry for each place of an extent from a row on. -/
structure Grid.Supplies (grid : Grid Int) (start : Nat) (extent : Extent) : Prop where
  addressable : grid.cells.size < Word.sizeLimit
  rowsCounted : grid.rows < Word.sizeLimit
  rows : start + extent.height ≤ grid.rows
  columns : extent.width ≤ grid.columns

namespace StripJob

/-- The luma value at a place of a chroma plane. -/
def lumaMean (job : StripJob) (row column : Nat) : Int :=
  ChromaJob.mean (job.source.y.value (job.subsampling.lumaRow row)) job.extent.width
    job.subsampling.x column

/-- The key at a place: on luma the sample itself, on chroma the luma value or its mix
with the sample. -/
def idealKey (job : StripJob) (plane : Plane) (row column : Nat) : Int :=
  let sample := (job.source.get plane).value row column
  if plane.isChroma then
    if job.parameters.chromaFromLuma then job.lumaMean row column
    else ChromaJob.mixed job.depth (job.parameters.mix plane) (job.lumaMean row column) sample
  else sample

/-- What shapes the noise of a plane: when chroma is scaled from luma, the luma table
serves all planes. -/
def planeSetting (job : StripJob) (plane : Plane) : Noise.Setting where
  depth := job.depth
  table := if job.parameters.chromaFromLuma then job.tables.y else job.tables.get plane
  shift := job.parameters.scalingShift
  low := job.clip.low
  high := job.clip.high plane

/-- The sample that the specification asks for at a place. -/
def idealSample (job : StripJob) (plane : Plane) (row column : Nat) : Int :=
  let sample := (job.source.get plane).value row column
  if job.parameters.appliesTo plane then
    Noise.ideal (job.planeSetting plane) (job.idealKey plane row column) sample
      ((job.noise.get plane).value (job.noiseStart plane + row) column)
  else sample

/-- On luma that takes noise the ideal samples are those of the luma blend. -/
theorem idealSample_luma (job : StripJob) (noisy : job.parameters.appliesTo .y = true)
    (row column : Nat) :
    job.lumaJob.idealAt (job.source.y.value row) (job.noise.y.value (job.start + row)) column =
      job.idealSample .y row column := by
  have table : (job.planeSetting .y).table = job.tables.y := ite_self job.tables.y
  simp only [idealSample, noisy, if_true, LumaJob.idealAt, Noise.ideal, Noise.added, table]
  rfl

/-- On a chroma plane that takes noise the ideal samples are those of its blend. -/
theorem idealSample_chroma (job : StripJob) (plane : Plane) (chromaPlane : plane.isChroma = true)
    (noisy : job.parameters.appliesTo plane = true) (row column : Nat) :
    (job.chromaJob plane (job.noiseStart plane)).idealAt job.parameters.keyMode
        (job.source.y.value (job.subsampling.lumaRow row)) ((job.source.get plane).value row)
        ((job.noise.get plane).value (job.noiseStart plane + row)) column =
      job.idealSample plane row column := by
  have high : job.clip.high plane = job.clip.highChroma := by simp [ClipRange.high, chromaPlane]
  cases fromLuma : job.parameters.chromaFromLuma <;>
    simp [idealSample, noisy, ChromaJob.idealAt, ChromaJob.idealKey, idealKey, chromaPlane,
      fromLuma, GrainParameters.keyMode, Noise.ideal, Noise.added, planeSetting, high,
      ChromaJob.setting, chromaJob, chromaTable, lumaMean]

/-- What the caller of a strip promises: subsampling by at most two, a start that luma and
chroma share, planes of samples and noise entries of the depth that are large enough,
ordered bounds, and destination rows that do not overlap. -/
structure Admissible (job : StripJob) (target : PerPlane (Raster Int)) : Prop where
  columnsShared : job.subsampling.x ≤ 1
  rowsShared : job.subsampling.y ≤ 1
  evenStart : job.subsampling.y = 1 → job.start % 2 = 0
  widthCounted : job.extent.width + job.subsampling.x < Word.sizeLimit
  heightCounted : job.extent.height + job.subsampling.y < Word.sizeLimit
  samples : ∀ plane, ∀ value ∈ (job.source.get plane).samples, job.depth.IsSample value
  entries : ∀ plane, ∀ entry ∈ (job.noise.get plane).cells, job.depth.IsGrain entry
  lowInside : 0 ≤ job.clip.low
  ordered : ∀ plane, job.clip.low ≤ job.clip.high plane
  highInside : ∀ plane, job.clip.high plane ≤ job.depth.maxSample
  sourceCovers : ∀ plane, (job.source.get plane).Covers (job.visible plane)
  targetCovers : ∀ plane, (target.get plane).Covers (job.visible plane)
  apart : ∀ plane, (job.visible plane).width ≤ (target.get plane).layout.stride
  supplied : ∀ plane, job.parameters.appliesTo plane = true →
    (job.noise.get plane).Supplies (job.noiseStart plane) (job.visible plane)

/-- What a strip is computed from lies in the ranges of its depth. The bounds of results may
cross. -/
structure InRange (job : StripJob) : Prop where
  samples : ∀ plane, ∀ value ∈ (job.source.get plane).samples, job.depth.IsSample value
  entries : ∀ plane, ∀ entry ∈ (job.noise.get plane).cells, job.depth.IsGrain entry
  low : job.depth.IsSample job.clip.low
  high : ∀ plane, job.depth.IsSample (job.clip.high plane)

/-- The visible rows of all planes lie in their buffers, and planes that take noise are
supplied with it. -/
structure Covered (job : StripJob) (target : PerPlane (Raster Int)) : Prop where
  source : ∀ plane, (job.source.get plane).Covers (job.visible plane)
  target : ∀ plane, (target.get plane).Covers (job.visible plane)
  noise : ∀ plane, job.parameters.appliesTo plane = true →
    (job.noise.get plane).Supplies (job.noiseStart plane) (job.visible plane)

/-- What the visible samples of a strip are computed from lies in the ranges of its depth. The
bounds of results may cross, and what lies outside the windows does not matter. -/
structure UsedInRange (job : StripJob) : Prop where
  samples : ∀ plane, ∀ row < (job.visible plane).height, ∀ column < (job.visible plane).width,
    job.depth.IsSample ((job.source.get plane).value row column)
  entries : ∀ plane, job.parameters.appliesTo plane = true →
    ∀ row < (job.visible plane).height, ∀ column < (job.visible plane).width,
      job.depth.IsGrain ((job.noise.get plane).value (job.noiseStart plane + row) column)
  low : job.depth.IsSample job.clip.low
  high : ∀ plane, job.depth.IsSample (job.clip.high plane)

/-- The windows of all visible rows are reached, in the noise only where a plane takes it. -/
structure Reached (job : StripJob) (target : PerPlane (Raster Int)) : Prop where
  source : ∀ plane, ∀ row < (job.visible plane).height,
    (job.source.get plane).layout.Reaches (job.source.get plane).samples.size row
      (job.visible plane).width
  noise : ∀ plane, job.parameters.appliesTo plane = true → ∀ row < (job.visible plane).height,
    (job.noise.get plane).Reaches (job.noiseStart plane + row) (job.visible plane).width
  target : ∀ plane, ∀ row < (job.visible plane).height,
    (target.get plane).layout.Reaches (target.get plane).samples.size row (job.visible plane).width

/-- An admissible strip is computed from samples and noise entries of its depth. -/
theorem Admissible.inRange {job : StripJob} {target : PerPlane (Raster Int)}
    (admissible : job.Admissible target) : job.InRange where
  samples := admissible.samples
  entries := admissible.entries
  low := ⟨admissible.lowInside, le_trans (admissible.ordered .y) (admissible.highInside .y)⟩
  high := fun plane =>
    ⟨le_trans admissible.lowInside (admissible.ordered plane), admissible.highInside plane⟩

/-- The planes of an admissible strip are covered. -/
theorem Admissible.covered {job : StripJob} {target : PerPlane (Raster Int)}
    (admissible : job.Admissible target) : job.Covered target :=
  ⟨admissible.sourceCovers, admissible.targetCovers, admissible.supplied⟩

/-- The windows of a covered strip are reached. -/
theorem Covered.reached {job : StripJob} {target : PerPlane (Raster Int)}
    (covered : job.Covered target) : job.Reached target where
  source := fun plane row inside => (covered.source plane).reaches row inside
  noise := fun plane noisy row inside => by
    have supplied := covered.noise plane noisy
    have tall := supplied.rows
    exact (job.noise.get plane).reaches_of_addressable _ _ supplied.addressable (by omega)
      supplied.columns
  target := fun plane row inside => (covered.target plane).reaches row inside

/-- When whole buffers are in range, so is what is used of them. -/
theorem InRange.used {job : StripJob} {target : PerPlane (Raster Int)} (inRange : job.InRange)
    (reached : job.Reached target) : job.UsedInRange where
  samples := fun plane row rowInside column columnInside =>
    (job.source.get plane).value_of_forall _ (inRange.samples plane) row _ column
      (reached.source plane row rowInside) columnInside
  entries := fun plane noisy row rowInside column columnInside =>
    (job.noise.get plane).value_of_forall _ (inRange.entries plane) _ _ column
      (reached.noise plane noisy row rowInside) columnInside
  low := inRange.low
  high := inRange.high

/-- The setting of each plane of a strip in range with accepted parameters is valid. -/
theorem planeSetting_valid (job : StripJob) (accepted : job.parameters.validate = .ok ())
    (inRange : job.UsedInRange) (plane : Plane) : (job.planeSetting plane).Valid where
  coded := ((GrainParameters.validate_eq_ok_iff job.parameters).mp accepted).1
  low := inRange.low
  high := inRange.high plane

/-- The luma rows of a strip in range are in range. -/
theorem UsedInRange.lumaRow {job : StripJob} (inRange : job.UsedInRange)
    (noisy : job.parameters.appliesTo .y = true) (row : Nat) (inside : row < job.extent.height) :
    job.lumaJob.RowInRange row :=
  ⟨inRange.samples .y row inside, inRange.entries .y noisy row inside⟩

/-- The rows of a chroma plane of a strip in range are in range, with the luma rows that they are
co-located with. -/
theorem UsedInRange.chromaRow {job : StripJob} (inRange : job.UsedInRange) (plane : Plane)
    (chromaPlane : plane.isChroma = true) (noisy : job.parameters.appliesTo plane = true)
    (row : Nat) (inside : row < job.chroma.height) :
    (job.chromaJob plane (job.noiseStart plane)).RowInRange row := by
  have visible := job.visible_of_isChroma plane chromaPlane
  have rowInside : row < (job.visible plane).height := visible ▸ inside
  have lumaInside := job.subsampling.lumaRow_lt job.extent.height row inside
  exact {
    luma := inRange.samples .y _ lumaInside
    samples := fun column below => inRange.samples plane row rowInside column (visible ▸ below)
    entries := fun column below =>
      inRange.entries plane noisy row rowInside column (visible ▸ below) }

/-- The luma strokes of a strip in range give the ideal samples of their rows. -/
theorem luma_gives (job : StripJob) (target : PerPlane (Raster Int))
    (accepted : job.parameters.validate = .ok ()) (inRange : job.UsedInRange)
    (reached : job.Reached target)
    (noisy : job.parameters.appliesTo .y = true) (row : Nat) (inside : row < job.extent.height) :
    Raster.Gives target.y.layout job.extent.width row (job.idealSample .y row)
      (job.lumaJob.stroke target.y.layout target.y.samples.size row) := by
  have valid : job.lumaJob.setting.Valid := by
    have whole := job.planeSetting_valid accepted inRange .y
    exact ⟨whole.coded, whole.low, whole.high⟩
  have gives := job.lumaJob.stroke_gives valid target.y.layout target.y.samples.size row
    (inRange.lumaRow noisy row inside) (reached.source .y row inside)
    (reached.noise .y noisy row inside) (reached.target .y row inside)
  have same := funext (job.idealSample_luma noisy row)
  exact same ▸ gives

/-- The strokes of a chroma plane of a strip in range give the ideal samples of their rows. -/
theorem chroma_gives (job : StripJob) (target : PerPlane (Raster Int))
    (accepted : job.parameters.validate = .ok ()) (inRange : job.UsedInRange)
    (reached : job.Reached target)
    (plane : Plane) (chromaPlane : plane.isChroma = true)
    (noisy : job.parameters.appliesTo plane = true) (row : Nat) (inside : row < job.chroma.height) :
    Raster.Gives (target.get plane).layout job.chroma.width row (job.idealSample plane row)
      ((job.chromaJob plane (job.noiseStart plane)).stroke job.parameters.keyMode job.chroma.width
        (target.get plane).layout (target.get plane).samples.size row) := by
  have high : job.clip.high plane = job.clip.highChroma := by simp [ClipRange.high, chromaPlane]
  have whole := job.planeSetting_valid accepted inRange plane
  have highInside : job.depth.IsSample job.clip.highChroma := high ▸ whole.high
  have valid : (job.chromaJob plane (job.noiseStart plane)).setting.Valid :=
    ⟨whole.coded, whole.low, highInside⟩
  have visible := job.visible_of_isChroma plane chromaPlane
  have inVisible : row < (job.visible plane).height := visible ▸ inside
  have lumaInside := job.subsampling.lumaRow_lt job.extent.height row inside
  have source := reached.source plane row inVisible
  have noise := reached.noise plane noisy row inVisible
  have destination := reached.target plane row inVisible
  rw [visible] at source noise destination
  have gives := (job.chromaJob plane (job.noiseStart plane)).stroke_gives job.parameters.keyMode
    valid (job.parameters.coded_of_validate plane accepted chromaPlane) (target.get plane).layout
    (target.get plane).samples.size row (inRange.chromaRow plane chromaPlane noisy row inside)
    (reached.source .y _ lumaInside) source noise destination
  have same := funext (job.idealSample_chroma plane chromaPlane noisy row)
  exact same ▸ gives

/-- Copying a plane gives its source samples. -/
theorem copy_gives (job : StripJob) (target : PerPlane (Raster Int))
    (reached : job.Reached target) (plane : Plane)
    (noiseless : ¬ job.parameters.appliesTo plane = true) (row : Nat)
    (inside : row < (job.visible plane).height) :
    Raster.Gives (target.get plane).layout (job.visible plane).width row (job.idealSample plane row)
      (copyStroke (job.source.get plane) (job.visible plane).width (target.get plane).layout
        (target.get plane).samples.size row) := by
  have read := reached.source plane row inside
  have located := (copyStroke_eq_ok_iff (job.source.get plane) (job.visible plane).width
    (target.get plane).layout (target.get plane).samples.size row _).mpr
    ⟨reached.target plane row inside, read, rfl⟩
  refine ⟨_, located, ?_⟩
  intro column below
  have held := (job.source.get plane).window_holds row (job.visible plane).width read
  rw [held.elementAt column below]
  simp [idealSample, noiseless]

/-- When the windows of a strip in range are reached, every stroke gives the ideal samples of
its row. -/
theorem stroke_gives (job : StripJob) (target : PerPlane (Raster Int))
    (accepted : job.parameters.validate = .ok ()) (inRange : job.UsedInRange)
    (reached : job.Reached target)
    (plane : Plane) (row : Nat) (inside : row < (job.visible plane).height) :
    Raster.Gives (target.get plane).layout (job.visible plane).width row (job.idealSample plane row)
      (job.stroke plane (target.get plane).layout (target.get plane).samples.size row) := by
  by_cases noisy : job.parameters.appliesTo plane = true
  · rw [stroke, if_pos noisy]
    cases plane with
    | y => exact job.luma_gives target accepted inRange reached noisy row inside
    | u => exact job.chroma_gives target accepted inRange reached .u rfl noisy row inside
    | v => exact job.chroma_gives target accepted inRange reached .v rfl noisy row inside
  · rw [stroke, if_neg noisy]
    exact job.copy_gives target reached plane noisy row inside

/-- Every plane of an admissible strip is painted, and its windows hold the ideal
samples. -/
theorem paintPlane_ideal (job : StripJob) (target : PerPlane (Raster Int))
    (accepted : job.parameters.validate = .ok ()) (admissible : job.Admissible target)
    (plane : Plane) :
    ∃ painted, job.paintPlane plane (target.get plane) = .done painted ∧
      ∀ row < (job.visible plane).height, ∀ column < (job.visible plane).width,
        painted.samples[(target.get plane).layout.first row + column]? =
          some (job.idealSample plane row column) := by
  obtain ⟨painted, done, _, _, contents⟩ := (target.get plane).paint_of_gives
    (job.visible plane).width (job.visible plane).height _ (job.idealSample plane)
    (job.stroke_gives target accepted (admissible.inRange.used admissible.covered.reached)
      admissible.covered.reached plane)
  refine ⟨painted, done, ?_⟩
  intro row rowInside column columnInside
  have ends := (admissible.targetCovers plane).inside row rowInside
  exact (target.get plane).getElem?_of_owned painted _ _ _ (admissible.apart plane) contents row
    column rowInside columnInside (by omega)

/-- An admissible strip with accepted parameters completes, and each visible sample of
each plane is the one that the specification asks for. -/
theorem apply_ideal (job : StripJob) (target : PerPlane (Raster Int))
    (accepted : job.parameters.validate = .ok ()) (admissible : job.Admissible target) :
    ∃ left, job.apply .plain target = .ran (.done left) ∧
      ∀ plane, ∀ row < (job.visible plane).height, ∀ column < (job.visible plane).width,
        (left.get plane).samples[(target.get plane).layout.first row + column]? =
          some (job.idealSample plane row column) := by
  obtain ⟨y, yDone, yIdeal⟩ := job.paintPlane_ideal target accepted admissible .y
  obtain ⟨u, uDone, uIdeal⟩ := job.paintPlane_ideal target accepted admissible .u
  obtain ⟨v, vDone, vIdeal⟩ := job.paintPlane_ideal target accepted admissible .v
  have shared : job.subsampling.y = 0 ∨ job.start % 2 = 0 := by
    rcases Nat.le_one_iff_eq_zero_or_eq_one.mp admissible.rowsShared with single | double
    · exact Or.inl single
    · exact Or.inr (admissible.evenStart double)
  have columnsShared := admissible.columnsShared
  have rowsShared := admissible.rowsShared
  have reduced : job.subsampling.chromaExtent job.extent = .ok job.chroma :=
    (Subsampling.chromaExtent_eq_ok_iff _ _ _).mpr
      ⟨⟨admissible.widthCounted, by omega⟩, ⟨admissible.heightCounted, by omega⟩, rfl⟩
  have supplied (plane : Plane) : job.Supplied plane := by
    intro noisy
    have grid := admissible.supplied plane noisy
    exact ⟨Nat.lt_of_le_of_lt grid.rows grid.rowsCounted, grid.rows, grid.columns⟩
  refine ⟨⟨y, u, v⟩, ?_, ?_⟩
  · refine (job.apply_eq_done_iff target _).mpr ⟨accepted, shared, reduced, ?_⟩
    intro plane
    cases plane with
    | y => exact ⟨supplied .y, yDone⟩
    | u => exact ⟨supplied .u, uDone⟩
    | v => exact ⟨supplied .v, vDone⟩
  · intro plane
    cases plane with
    | y => exact yIdeal
    | u => exact uIdeal
    | v => exact vIdeal

/-- A strip of three columns and three rows of ten bits whose third plane has no noise. -/
def oddStrip : StripJob where
  depth := .ten
  parameters :=
    { chromaFromLuma := false, restrictedRange := false, scalingShift := 8,
      points := ⟨1, 1, 0⟩, mixU := ⟨-96, 80, -7⟩, mixV := .zero }
  noise :=
    ⟨⟨5, 3, #[0, 0, 0, 0, 0, 0, -512, 511, 3, -7, 300, -300, 1, 2, -3], rfl⟩,
      ⟨3, 2, #[0, 0, -511, 77, 256, -1], rfl⟩, .empty⟩
  tables :=
    let rising := ⟨Vector.ofFn fun position => UInt8.ofNat position.val⟩
    ⟨rising, ⟨Vector.ofFn fun position => UInt8.ofNat (256 - position.val)⟩, rising⟩
  clip := ⟨64, 940, 960⟩
  extent := ⟨3, 3⟩
  start := 2
  subsampling := ⟨1, 1⟩
  source :=
    ⟨.whole #[0, 511, 1023, 9, 64, 940, 700, 0, 1022, 1, 500, 6] 4,
      .whole #[1000, 3, 512, 77] 2, .whole #[1, 2, 0, 3, 4] 3⟩

/-- Destinations of `oddStrip`; the second one has a row before the origin. -/
def oddTarget : PerPlane (Raster Int) :=
  ⟨.whole #[0, 0, 0, 0, 0, 0, 0, 0, 0, 0, 0] 4, ⟨#[9, 0, 0, 9, 0, 0, 9], ⟨1, 3⟩⟩,
    .whole #[0, 0, 0, 0] 2⟩

/-- The odd strip is admissible. -/
theorem oddStrip_admissible : oddStrip.Admissible oddTarget where
  columnsShared := by decide
  rowsShared := by decide
  evenStart := by decide
  widthCounted := by decide
  heightCounted := by decide
  samples := by intro plane; cases plane <;> decide
  entries := by intro plane; cases plane <;> decide
  lowInside := by decide
  ordered := by intro plane; cases plane <;> decide
  highInside := by intro plane; cases plane <;> decide
  sourceCovers := by intro plane; cases plane <;> exact ⟨by decide, by decide⟩
  targetCovers := by intro plane; cases plane <;> exact ⟨by decide, by decide⟩
  apart := by intro plane; cases plane <;> decide
  supplied := by
    intro plane noisy
    cases plane with
    | y => exact ⟨by decide, by decide, by decide, by decide⟩
    | u => exact ⟨by decide, by decide, by decide, by decide⟩
    | v => exact absurd noisy (by decide)

/-- The odd strip completes. The sample of its second plane at the corner, beside a luma
column without a neighbour, is 76. -/
theorem oddStrip_ideal :
    oddStrip.parameters.validate = .ok () ∧ oddStrip.Admissible oddTarget ∧
      oddStrip.apply .plain oddTarget = .ran (.done
        ⟨.whole #[64, 767, 940, 0, 64, 940, 495, 0, 940, 64, 499] 4,
          ⟨#[9, 960, 64, 9, 512, 76, 9], ⟨1, 3⟩⟩, .whole #[1, 2, 3, 4] 2⟩) ∧
      oddStrip.idealSample .u 1 1 = 76 := by
  have accepted : oddStrip.parameters.validate = .ok () := by decide
  have evaluated : oddStrip.apply .plain oddTarget = .ran (.done
      ⟨.whole #[64, 767, 940, 0, 64, 940, 495, 0, 940, 64, 499] 4,
        ⟨#[9, 960, 64, 9, 512, 76, 9], ⟨1, 3⟩⟩, .whole #[1, 2, 3, 4] 2⟩) := by decide +kernel
  obtain ⟨left, applied, ideal⟩ := oddStrip.apply_ideal oddTarget accepted oddStrip_admissible
  have corner := ideal .u 1 (by decide) 1 (by decide)
  obtain rfl : _ = left := Run.done.inj (Attempt.ran.inj (evaluated.symm.trans applied))
  have found : some (76 : Int) = some (oddStrip.idealSample .u 1 1) := corner
  exact ⟨accepted, oddStrip_admissible, evaluated, (Option.some.inj found).symm⟩

end StripJob

end GrainSynthesis
