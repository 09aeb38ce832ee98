import GrainSynthesis.Proofs.Keys
import GrainSynthesis.Proofs.Painting

/-!
# The rows of a blend

The rows that a luma or chroma row is computed from are found exactly when each
of their windows is reached, and then they are those windows. From rows that hold
samples and noise entries every result is found, and it is the ideal one.

The results depend on the rows only through the values that these hold, so the
same statements serve a blend that goes sample by sample and one that loads
windows of a row into registers.
-/

namespace GrainSynthesis

namespace LumaJob

/-- The rows for a luma row are found exactly when all three windows are reached. -/
theorem rows_eq_ok_iff (job : LumaJob) (layout : Layout) (size row : Nat) (found : Rows) :
    job.rows layout size row = .ok found ↔
      job.source.layout.Reaches job.source.samples.size row job.extent.width ∧
        job.noise.y.Reaches (job.start + row) job.extent.width ∧
          layout.Reaches size row job.extent.width ∧
            found = ⟨job.source.window row job.extent.width,
              job.noise.y.window (job.start + row) job.extent.width, layout.first row⟩ := by
  rw [rows]
  simp only [bind_eq_ok_iff, Raster.row_eq_ok_iff, Grid.rowStart_eq_ok_iff,
    Layout.locate_eq_ok_iff_reaches, pure, Except.pure, Except.ok.injEq]
  constructor
  · rintro ⟨_, ⟨source, rfl⟩, _, ⟨noise, rfl⟩, _, ⟨target, rfl⟩, rfl⟩
    exact ⟨source, noise, target, rfl⟩
  · rintro ⟨source, noise, target, rfl⟩
    exact ⟨_, ⟨source, rfl⟩, _, ⟨noise, rfl⟩, _, ⟨target, rfl⟩, rfl⟩

/-- A luma stroke is found exactly when its rows are. -/
theorem stroke_eq_ok_iff (job : LumaJob) (layout : Layout) (size row : Nat)
    (stroke : Stroke Int) :
    job.stroke layout size row = .ok stroke ↔
      ∃ found, job.rows layout size row = .ok found ∧
        stroke = ⟨found.start, job.sampleAt found⟩ := by
  rw [LumaJob.stroke, bind_eq_ok_iff]
  constructor
  · rintro ⟨found, located, given⟩
    exact ⟨found, located, (Except.ok.inj given).symm⟩
  · rintro ⟨found, located, rfl⟩
    exact ⟨found, located, rfl⟩

/-- What the rows of a luma row stand for: values of the source and of the noise, as
many as the row is wide, that lie in the ranges of the depth. -/
structure Sound (job : LumaJob) (found : Rows) (source noise : Nat → Int) : Prop where
  sourceHeld : Holds found.source job.extent.width source
  noiseHeld : Holds found.noise job.extent.width noise
  samples : ∀ column < job.extent.width, job.depth.IsSample (source column)
  entries : ∀ column < job.extent.width, job.depth.IsGrain (noise column)

/-- The ideal result at a column. -/
def idealAt (job : LumaJob) (source noise : Nat → Int) (column : Nat) : Int :=
  Noise.ideal job.setting (source column) (source column) (noise column)

/-- What a luma row is computed from lies in the ranges of the depth. -/
structure RowInRange (job : LumaJob) (row : Nat) : Prop where
  samples : ∀ column < job.extent.width, job.depth.IsSample (job.source.value row column)
  entries : ∀ column < job.extent.width,
    job.depth.IsGrain (job.noise.y.value (job.start + row) column)

/-- Rows that are found are sound when what the luma row is computed from is in range. -/
theorem sound_of_inRange (job : LumaJob) (layout : Layout) (size row : Nat) (found : Rows)
    (inRange : job.RowInRange row) (located : job.rows layout size row = .ok found) :
    job.Sound found (job.source.value row) (job.noise.y.value (job.start + row)) := by
  obtain ⟨source, noise, _, rfl⟩ := (job.rows_eq_ok_iff layout size row found).mp located
  exact {
    sourceHeld := job.source.window_holds row job.extent.width source
    noiseHeld := job.noise.y.window_holds (job.start + row) job.extent.width noise
    samples := inRange.samples
    entries := inRange.entries }

/-- Rows that are found in a source of samples and a grid of noise entries are sound. -/
theorem sound_of_rows (job : LumaJob) (layout : Layout) (size row : Nat) (found : Rows)
    (samples : ∀ value ∈ job.source.samples, job.depth.IsSample value)
    (entries : ∀ value ∈ job.noise.y.cells, job.depth.IsGrain value)
    (located : job.rows layout size row = .ok found) :
    job.Sound found (job.source.value row) (job.noise.y.value (job.start + row)) := by
  obtain ⟨source, noise, _, _⟩ := (job.rows_eq_ok_iff layout size row found).mp located
  apply job.sound_of_inRange layout size row found _ located
  exact {
    samples := fun column inside =>
      job.source.value_of_forall _ samples row job.extent.width column source inside
    entries := fun column inside =>
      job.noise.y.value_of_forall _ entries _ job.extent.width column noise inside }

/-- From sound rows every result is found, and it is the ideal one. -/
theorem sampleAt_eq_idealAt (job : LumaJob) (valid : job.setting.Valid) (found : Rows)
    (source noise : Nat → Int) (sound : job.Sound found source noise) (column : Nat)
    (inside : column < job.extent.width) :
    job.sampleAt found column = .ok (job.idealAt source noise column) := by
  have sample := sound.samples column inside
  have blended := Noise.add_eq_ideal job.setting valid (source column) (source column)
    (noise column) sample sample (sound.entries column inside)
  simp only [sampleAt, sound.sourceHeld.elementAt column inside,
    sound.noiseHeld.elementAt column inside, bind, Except.bind]
  exact blended

/-- The stroke of a row in range whose windows are all reached gives the ideal results. -/
theorem stroke_gives (job : LumaJob) (valid : job.setting.Valid) (layout : Layout)
    (size row : Nat) (inRange : job.RowInRange row)
    (source : job.source.layout.Reaches job.source.samples.size row job.extent.width)
    (noise : job.noise.y.Reaches (job.start + row) job.extent.width)
    (target : layout.Reaches size row job.extent.width) :
    Raster.Gives layout job.extent.width row
      (job.idealAt (job.source.value row) (job.noise.y.value (job.start + row)))
      (job.stroke layout size row) := by
  have located := (job.rows_eq_ok_iff layout size row _).mpr ⟨source, noise, target, rfl⟩
  have sound := job.sound_of_inRange layout size row _ inRange located
  rw [stroke, located]
  refine ⟨_, rfl, ?_⟩
  intro column inside
  exact job.sampleAt_eq_idealAt valid _ _ _ sound column inside

end LumaJob

namespace ChromaJob

/-- The rows for a chroma row are found exactly when all four windows are reached. -/
theorem rows_eq_ok_iff (job : ChromaJob) (width : Nat) (layout : Layout) (size row : Nat)
    (found : Rows) :
    job.rows width layout size row = .ok found ↔
      job.luma.layout.Reaches job.luma.samples.size (job.subsampling.lumaRow row)
          job.extent.width ∧
        job.source.layout.Reaches job.source.samples.size row width ∧
          (job.noise.get job.plane).Reaches (job.start + row) width ∧
            layout.Reaches size row width ∧
              found = ⟨job.luma.window (job.subsampling.lumaRow row) job.extent.width,
                job.source.window row width,
                (job.noise.get job.plane).window (job.start + row) width, layout.first row⟩ := by
  rw [rows]
  simp only [bind_eq_ok_iff, Raster.row_eq_ok_iff, Grid.rowStart_eq_ok_iff,
    Layout.locate_eq_ok_iff_reaches, pure, Except.pure, Except.ok.injEq]
  constructor
  · rintro ⟨_, ⟨luma, rfl⟩, _, ⟨source, rfl⟩, _, ⟨noise, rfl⟩, _, ⟨target, rfl⟩, rfl⟩
    exact ⟨luma, source, noise, target, rfl⟩
  · rintro ⟨luma, source, noise, target, rfl⟩
    exact ⟨_, ⟨luma, rfl⟩, _, ⟨source, rfl⟩, _, ⟨noise, rfl⟩, _, ⟨target, rfl⟩, rfl⟩

/-- A chroma stroke is found exactly when its rows are. -/
theorem stroke_eq_ok_iff (job : ChromaJob) (mode : KeyMode) (width : Nat) (layout : Layout)
    (size row : Nat) (stroke : Stroke Int) :
    job.stroke mode width layout size row = .ok stroke ↔
      ∃ found, job.rows width layout size row = .ok found ∧
        stroke = ⟨found.start, job.sampleAt mode found⟩ := by
  rw [ChromaJob.stroke, bind_eq_ok_iff]
  constructor
  · rintro ⟨found, located, given⟩
    exact ⟨found, located, (Except.ok.inj given).symm⟩
  · rintro ⟨found, located, rfl⟩
    exact ⟨found, located, rfl⟩

/-- The visible columns of the plane. -/
def columns (job : ChromaJob) : Nat :=
  (job.extent.width + job.subsampling.x) / 2 ^ job.subsampling.x

/-- The visible rows of the plane. -/
def rowCount (job : ChromaJob) : Nat :=
  (job.extent.height + job.subsampling.y) / 2 ^ job.subsampling.y

/-- What the rows of a chroma row of `width` columns stand for. The luma row is as wide
as luma, and every chroma column has luma to be keyed on. -/
structure Sound (job : ChromaJob) (width : Nat) (found : Rows) (luma source noise : Nat → Int) :
    Prop where
  lumaHeld : Holds found.luma job.extent.width luma
  sourceHeld : Holds found.source width source
  noiseHeld : Holds found.noise width noise
  lumaSamples : ∀ column < job.extent.width, job.depth.IsSample (luma column)
  samples : ∀ column < width, job.depth.IsSample (source column)
  entries : ∀ column < width, job.depth.IsGrain (noise column)
  unshared : job.subsampling.x = 0 → width ≤ job.extent.width
  shared : job.subsampling.x ≠ 0 → ∀ column < width, 2 * column < job.extent.width

/-- The ideal result at a column. -/
def idealAt (job : ChromaJob) (mode : KeyMode) (luma source noise : Nat → Int) (column : Nat) :
    Int :=
  let average := mean luma job.extent.width job.subsampling.x column
  Noise.ideal job.setting (job.idealKey mode average (source column)) (source column)
    (noise column)

/-- What a chroma row is computed from lies in the ranges of the depth. -/
structure RowInRange (job : ChromaJob) (row : Nat) : Prop where
  luma : ∀ column < job.extent.width,
    job.depth.IsSample (job.luma.value (job.subsampling.lumaRow row) column)
  samples : ∀ column < job.columns, job.depth.IsSample (job.source.value row column)
  entries : ∀ column < job.columns,
    job.depth.IsGrain ((job.noise.get job.plane).value (job.start + row) column)

/-- Rows that are found for the visible columns are sound when what the chroma row is computed
from is in range. -/
theorem sound_of_inRange (job : ChromaJob) (layout : Layout) (size row : Nat) (found : Rows)
    (inRange : job.RowInRange row) (located : job.rows job.columns layout size row = .ok found) :
    job.Sound job.columns found
      (job.luma.value (job.subsampling.lumaRow row)) (job.source.value row)
      ((job.noise.get job.plane).value (job.start + row)) := by
  obtain ⟨luma, source, noise, _, rfl⟩ :=
    (job.rows_eq_ok_iff _ layout size row found).mp located
  exact {
    lumaHeld := job.luma.window_holds _ job.extent.width luma
    sourceHeld := job.source.window_holds row _ source
    noiseHeld := (job.noise.get job.plane).window_holds (job.start + row) _ noise
    lumaSamples := inRange.luma
    samples := inRange.samples
    entries := inRange.entries
    unshared := fun single => by simp [columns, single]
    shared := fun double column inside =>
      Subsampling.double_lt job.extent.width job.subsampling.x column double inside }

/-- Rows that are found for the visible columns, in planes of samples and a grid of noise
entries, are sound. -/
theorem sound_of_rows (job : ChromaJob) (layout : Layout) (size row : Nat) (found : Rows)
    (lumaSamples : ∀ value ∈ job.luma.samples, job.depth.IsSample value)
    (samples : ∀ value ∈ job.source.samples, job.depth.IsSample value)
    (entries : ∀ value ∈ (job.noise.get job.plane).cells, job.depth.IsGrain value)
    (located : job.rows job.columns layout size row = .ok found) :
    job.Sound job.columns found
      (job.luma.value (job.subsampling.lumaRow row)) (job.source.value row)
      ((job.noise.get job.plane).value (job.start + row)) := by
  obtain ⟨luma, source, noise, _, _⟩ :=
    (job.rows_eq_ok_iff _ layout size row found).mp located
  apply job.sound_of_inRange layout size row found _ located
  exact {
    luma := fun column inside =>
      job.luma.value_of_forall _ lumaSamples _ job.extent.width column luma inside
    samples := fun column inside =>
      job.source.value_of_forall _ samples row _ column source inside
    entries := fun column inside =>
      (job.noise.get job.plane).value_of_forall _ entries _ _ column noise inside }

/-- The luma value at a column of sound rows is a sample. -/
theorem Sound.isSample_mean {job : ChromaJob} {width : Nat} {found : Rows}
    {luma source noise : Nat → Int} (sound : job.Sound width found luma source noise)
    (column : Nat) (inside : column < width) :
    job.depth.IsSample (mean luma job.extent.width job.subsampling.x column) :=
  ChromaJob.isSample_mean job.depth luma job.extent.width job.subsampling.x column
    sound.lumaSamples (fun single => Nat.lt_of_lt_of_le inside (sound.unshared single))
    (fun double => sound.shared double column inside)

/-- From sound rows every result is found, and it is the ideal one. -/
theorem sampleAt_eq_idealAt (job : ChromaJob) (mode : KeyMode) (valid : job.setting.Valid)
    (coded : (job.parameters.mix job.plane).Coded) (width : Nat) (found : Rows)
    (luma source noise : Nat → Int) (sound : job.Sound width found luma source noise)
    (column : Nat) (inside : column < width) :
    job.sampleAt mode found column = .ok (job.idealAt mode luma source noise column) := by
  have average := averageLuma_eq_mean found.luma luma job.extent.width job.subsampling.x column
    sound.lumaHeld (fun single => Nat.lt_of_lt_of_le inside (sound.unshared single))
    (fun double => sound.shared double column inside)
  have averageInside := sound.isSample_mean column inside
  have sampleInside := sound.samples column inside
  have scalingKey := job.key_eq_idealKey mode coded _ _ averageInside sampleInside
  have blended := Noise.add_eq_ideal job.setting valid _ (source column) (noise column)
    (job.isSample_idealKey mode _ (source column) averageInside) sampleInside
    (sound.entries column inside)
  simp only [sampleAt, average, sound.sourceHeld.elementAt column inside, scalingKey,
    sound.noiseHeld.elementAt column inside, bind, Except.bind]
  exact blended

/-- The stroke of a row in range whose windows are all reached gives the ideal results. -/
theorem stroke_gives (job : ChromaJob) (mode : KeyMode) (valid : job.setting.Valid)
    (coded : (job.parameters.mix job.plane).Coded) (layout : Layout) (size row : Nat)
    (inRange : job.RowInRange row)
    (luma : job.luma.layout.Reaches job.luma.samples.size (job.subsampling.lumaRow row)
      job.extent.width)
    (source : job.source.layout.Reaches job.source.samples.size row job.columns)
    (noise : (job.noise.get job.plane).Reaches (job.start + row) job.columns)
    (target : layout.Reaches size row job.columns) :
    Raster.Gives layout job.columns row
      (job.idealAt mode (job.luma.value (job.subsampling.lumaRow row)) (job.source.value row)
        ((job.noise.get job.plane).value (job.start + row)))
      (job.stroke mode job.columns layout size row) := by
  have located := (job.rows_eq_ok_iff job.columns layout size row _).mpr
    ⟨luma, source, noise, target, rfl⟩
  have sound := job.sound_of_inRange layout size row _ inRange located
  rw [stroke, located]
  refine ⟨_, rfl, ?_⟩
  intro column inside
  exact job.sampleAt_eq_idealAt mode valid coded _ _ _ _ _ sound column inside

end ChromaJob

end GrainSynthesis
