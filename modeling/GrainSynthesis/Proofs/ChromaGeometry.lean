import GrainSynthesis.Proofs.StripIdeal

/-!
# The geometry of a chroma blend

A chroma plane may share each of its samples among any power of two of luma columns and rows, not
only one or two. Its extent is the luma extent with as many columns and rows added as there are
places to shift, and divided by the powers. Since a number is below its power of two, what was
added is never worth a whole row or column that luma does not have: the luma row of a chroma row
exists, and so do both luma columns that a chroma column is keyed on.

Keys are samples in either mode, and at a sample every entry that a table needs exists. So nothing
that is computed for a sample can fail. A blend completes exactly when its noise suffices and its
windows lie in their buffers.
-/

namespace GrainSynthesis

namespace ScalingTable

/-- The positions of a table that are read for a key. -/
def lookups (depth : Depth) (key : Int) : List Int :=
  match depth with
  | .eight => [key]
  | .ten => [key / 4, key / 4 + 1]

/-- A position of the table. -/
def InTable (index : Int) : Prop := 0 ≤ index ∧ index < size

/-- A number names its position exactly when it is not negative. -/
theorem position_eq_ok_iff (index : Int) (found : Nat) :
    position index = .ok found ↔ 0 ≤ index ∧ found = index.toNat := by
  by_cases nonneg : 0 ≤ index <;> simp [position, nonneg, eq_comm]

/-- A factor is found exactly when every position that is read for it is in the table. -/
theorem exists_factor_iff (table : ScalingTable) (depth : Depth) (key : Int) :
    (∃ found, table.factor depth key = .ok found) ↔
      ∀ index ∈ lookups depth key, InTable index := by
  have stored (index : Int) (inside : InTable index) :
      ∃ found, table.entry index.toNat = .ok found := by
    obtain ⟨nonneg, below⟩ := inside
    exact (table.entry_isOk_iff _).mpr (by omega)
  cases depth with
  | eight =>
    simp only [factor, lookups, bind_eq_ok_iff, position_eq_ok_iff, List.mem_singleton,
      forall_eq]
    constructor
    · rintro ⟨found, _, ⟨nonneg, rfl⟩, entry⟩
      have below := (table.entry_isOk_iff _).mp ⟨found, entry⟩
      exact ⟨nonneg, by omega⟩
    · intro inside
      obtain ⟨found, entry⟩ := stored key inside
      exact ⟨found, _, ⟨inside.1, rfl⟩, entry⟩
  | ten =>
    simp only [factor, lookups, bind_eq_ok_iff, position_eq_ok_iff, List.forall_mem_cons,
      List.mem_singleton, forall_eq, pure, Except.pure, Except.ok.injEq]
    constructor
    · rintro ⟨_, _, ⟨nonneg, rfl⟩, start, startEntry, stop, stopEntry, _⟩
      have startBelow := (table.entry_isOk_iff _).mp ⟨start, startEntry⟩
      have stopBelow := (table.entry_isOk_iff _).mp ⟨stop, stopEntry⟩
      exact ⟨⟨nonneg, by omega⟩, by omega, by omega⟩
    · rintro ⟨first, next⟩
      obtain ⟨start, startEntry⟩ := stored _ first
      obtain ⟨stop, stopEntry⟩ := stored _ next
      have successor : (key / 4 + 1).toNat = (key / 4).toNat + 1 := by
        have nonneg := first.1
        omega
      exact ⟨_, _, ⟨first.1, rfl⟩, start, startEntry, stop, successor ▸ stopEntry, rfl⟩

/-- At a sample of the depth every position that is read is in the table. -/
theorem inTable_of_isSample (table : ScalingTable) (depth : Depth) (key : Int)
    (inside : depth.IsSample key) : ∀ index ∈ lookups depth key, InTable index :=
  (table.exists_factor_iff depth key).mp ⟨_, table.factor_eq_strength depth key inside⟩

end ScalingTable

/-- A reduced extent that does not exist is an overflow: of the sum, or of the shift. -/
theorem Subsampling.reduce_eq_ok_or_overflow (extent places : Nat) :
    (∃ reduced, reduce extent places = .ok reduced) ∨ reduce extent places = .error .overflow := by
  by_cases fits : extent + places < Word.sizeLimit
  · by_cases short : places < 64 <;>
      simp [reduce, Word.size, Word.shiftRight, fits, short, bind, Except.bind]
  · simp [reduce, Word.size, fits, bind, Except.bind]

/-- A chroma extent that does not exist is an overflow. -/
theorem Subsampling.chromaExtent_eq_ok_or_overflow (subsampling : Subsampling) (luma : Extent) :
    (∃ chroma, subsampling.chromaExtent luma = .ok chroma) ∨
      subsampling.chromaExtent luma = .error .overflow := by
  rcases reduce_eq_ok_or_overflow luma.width subsampling.x with ⟨width, wide⟩ | wide
  · rcases reduce_eq_ok_or_overflow luma.height subsampling.y with ⟨height, high⟩ | high <;>
      simp [chromaExtent, wide, high, bind, Except.bind, pure, Except.pure]
  · simp [chromaExtent, wide, bind, Except.bind]

/-- An element of a row is found exactly when the row is long enough. -/
theorem exists_elementAt_iff {α : Type} (row : Array α) (column : Nat) :
    (∃ value, elementAt row column = .ok value) ↔ column < row.size := by
  by_cases inside : column < row.size <;> simp [elementAt, inside]

namespace ChromaJob

/-- The luma columns that are read for a chroma column. -/
def lumaColumns (width subsamplingX column : Nat) : List Nat :=
  if subsamplingX = 0 then [column] else [2 * column, min (2 * column + 1) (width - 1)]

/-- On a luma row the value at a chroma column is found exactly when every column that is read for
it is in the row. An empty row has none. -/
theorem exists_averageLuma_iff (luma : Array Int) (subsamplingX column : Nat) :
    (∃ average, averageLuma luma subsamplingX column = .ok average) ↔
      ∀ read ∈ lumaColumns luma.size subsamplingX column, read < luma.size := by
  rw [averageLuma, lumaColumns]
  split
  · simp only [List.mem_singleton, forall_eq]
    exact exists_elementAt_iff luma column
  · simp only [List.forall_mem_cons, List.mem_singleton, forall_eq]
    split
    · rename_i empty
      simp [empty]
    · simp only [bind_eq_ok_iff, pure, Except.pure, Except.ok.injEq]
      constructor
      · rintro ⟨_, left, leftFound, right, rightFound, _⟩
        exact ⟨(exists_elementAt_iff luma _).mp ⟨left, leftFound⟩,
          (exists_elementAt_iff luma _).mp ⟨right, rightFound⟩⟩
      · rintro ⟨leftInside, rightInside⟩
        obtain ⟨left, leftFound⟩ := (exists_elementAt_iff luma _).mpr leftInside
        obtain ⟨right, rightFound⟩ := (exists_elementAt_iff luma _).mpr rightInside
        exact ⟨_, left, leftFound, right, rightFound, rfl⟩

/-- Both luma columns of a visible chroma column are visible, whatever the power of two. -/
theorem lumaColumns_lt (width subsamplingX column : Nat)
    (inside : column < (width + subsamplingX) / 2 ^ subsamplingX) :
    ∀ read ∈ lumaColumns width subsamplingX column, read < width := by
  intro read among
  rw [lumaColumns] at among
  split at among
  · rename_i single
    rw [List.mem_singleton.mp among]
    exact Subsampling.single_lt width subsamplingX column single inside
  · rename_i shared
    have left := Subsampling.double_lt width subsamplingX column shared inside
    simp only [List.mem_cons, List.not_mem_nil, or_false] at among
    omega

/-- A column at the right edge of an odd width is read twice, also when it is the only one. -/
example : lumaColumns 5 1 2 = [4, 4] ∧ lumaColumns 1 1 0 = [0, 0] := by decide

/-- What a chroma blend is promised. The plane is a chroma plane whose own coefficients have
codes, and so has the shift; both bounds of results are samples, in whatever order; luma, source
and noise are in the ranges of the depth. -/
structure Promised (job : ChromaJob) : Prop where
  chromaPlane : job.plane.isChroma = true
  coded : (job.parameters.mix job.plane).Coded
  shift : GrainParameters.ShiftCoded job.parameters.scalingShift
  low : job.depth.IsSample job.low
  high : job.depth.IsSample job.high
  lumaSamples : ∀ value ∈ job.luma.samples, job.depth.IsSample value
  samples : ∀ value ∈ job.source.samples, job.depth.IsSample value
  entries : ∀ value ∈ (job.noise.get job.plane).cells, job.depth.IsGrain value

/-- The buffers and the noise of a chroma blend are stored, so their lengths can be counted. -/
structure Counted (job : ChromaJob) (target : Raster Int) : Prop where
  luma : job.luma.samples.size < Word.sizeLimit
  source : job.source.samples.size < Word.sizeLimit
  cells : (job.noise.get job.plane).cells.size < Word.sizeLimit
  target : target.samples.size < Word.sizeLimit

/-- Luma columns and rows are shared by fewer places than a word has, and the padded luma extent
can be counted. -/
structure Shareable (job : ChromaJob) : Prop where
  columnsShort : job.subsampling.x < 64
  rowsShort : job.subsampling.y < 64
  widthCounted : job.extent.width + job.subsampling.x < Word.sizeLimit
  heightCounted : job.extent.height + job.subsampling.y < Word.sizeLimit

/-- The noise has a row and a column for every row and column of the plane, and for each of these
rows the whole luma row and the windows of source and destination end inside their buffers. -/
structure Fits (job : ChromaJob) (target : Raster Int) : Prop where
  rowsCounted : job.start + job.rowCount < Word.sizeLimit
  noiseRows : job.start + job.rowCount ≤ (job.noise.get job.plane).rows
  noiseColumns : job.columns ≤ (job.noise.get job.plane).columns
  lumaRows : ∀ row < job.rowCount,
    job.luma.layout.first (job.subsampling.lumaRow row) + job.extent.width ≤
      job.luma.samples.size
  sourceRows : ∀ row < job.rowCount,
    job.source.layout.first row + job.columns ≤ job.source.samples.size
  targetRows : ∀ row < job.rowCount,
    target.layout.first row + job.columns ≤ target.samples.size

/-- The chroma extent exists exactly when luma can be shared, and it is the visible one. -/
theorem chromaExtent_eq_ok_iff_shareable (job : ChromaJob) (chroma : Extent) :
    job.subsampling.chromaExtent job.extent = .ok chroma ↔
      job.Shareable ∧ chroma = ⟨job.columns, job.rowCount⟩ := by
  rw [Subsampling.chromaExtent_eq_ok_iff]
  constructor
  · rintro ⟨⟨widthCounted, columnsShort⟩, ⟨heightCounted, rowsShort⟩, rfl⟩
    exact ⟨⟨columnsShort, rowsShort, widthCounted, heightCounted⟩, rfl⟩
  · rintro ⟨⟨columnsShort, rowsShort, widthCounted, heightCounted⟩, rfl⟩
    exact ⟨⟨widthCounted, columnsShort⟩, ⟨heightCounted, rowsShort⟩, rfl⟩

/-- The check of a promised blend passes exactly when luma can be shared and the noise suffices. -/
theorem Promised.check_eq_ok_iff {job : ChromaJob} (promised : job.Promised) (chroma : Extent) :
    job.check = .ok chroma ↔
      (job.Shareable ∧ chroma = ⟨job.columns, job.rowCount⟩) ∧
        job.start + job.rowCount < Word.sizeLimit ∧
          job.start + job.rowCount ≤ (job.noise.get job.plane).rows ∧
            job.columns ≤ (job.noise.get job.plane).columns := by
  rw [job.check_eq_ok_iff_of_coded promised.chromaPlane promised.coded,
    chromaExtent_eq_ok_iff_shareable, checkNoise, Noise.check_eq_ok_iff]
  constructor
  · rintro ⟨⟨shareable, rfl⟩, _, sufficient⟩
    exact ⟨⟨shareable, rfl⟩, sufficient⟩
  · rintro ⟨⟨shareable, rfl⟩, sufficient⟩
    exact ⟨⟨shareable, rfl⟩, promised.shift, sufficient⟩

/-- Where luma cannot be shared a promised blend is an overflow, and nothing is written. -/
theorem Promised.blend_of_not_shareable {job : ChromaJob} (promised : job.Promised)
    (mode : KeyMode) (target : Raster Int) (unshareable : ¬ job.Shareable) :
    job.blend mode target = .stopped .overflow target := by
  have coefficients := job.checkCoefficients_of_coded promised.chromaPlane promised.coded
  rcases job.subsampling.chromaExtent_eq_ok_or_overflow job.extent with ⟨chroma, reduced⟩ | overflow
  · exact absurd ((job.chromaExtent_eq_ok_iff_shareable chroma).mp reduced).1 unshareable
  · have refused : job.check = .error .overflow := by
      simp [check, coefficients, overflow, bind, Except.bind]
    rw [blend, refused]

/-- A promised blend that fits completes. -/
theorem Promised.exists_done_of_fits {job : ChromaJob} (promised : job.Promised)
    (mode : KeyMode) (target : Raster Int) (counted : job.Counted target)
    (shareable : job.Shareable) (fits : job.Fits target) :
    ∃ left, job.blend mode target = .done left := by
  have accepted := (promised.check_eq_ok_iff _).mpr
    ⟨⟨shareable, rfl⟩, fits.rowsCounted, fits.noiseRows, fits.noiseColumns⟩
  rw [blend, accepted]
  have valid : job.setting.Valid := ⟨promised.shift, promised.low, promised.high⟩
  have gives (row : Nat) (inside : row < job.rowCount) := by
    have luma := job.luma.layout.reaches_of_addressable _ _ _ counted.luma
      (Nat.add_assoc _ _ _ ▸ fits.lumaRows row inside)
    have source := job.source.layout.reaches_of_addressable _ _ _ counted.source
      (Nat.add_assoc _ _ _ ▸ fits.sourceRows row inside)
    have destination := target.layout.reaches_of_addressable _ _ _ counted.target
      (Nat.add_assoc _ _ _ ▸ fits.targetRows row inside)
    have noise := (job.noise.get job.plane).reaches_of_addressable (job.start + row) job.columns
      counted.cells (Nat.lt_of_lt_of_le (Nat.add_lt_add_left inside _) fits.noiseRows)
      fits.noiseColumns
    have inRange : job.RowInRange row := {
      luma := fun column below =>
        job.luma.value_of_forall _ promised.lumaSamples _ _ column luma below
      samples := fun column below =>
        job.source.value_of_forall _ promised.samples _ _ column source below
      entries := fun column below =>
        (job.noise.get job.plane).value_of_forall _ promised.entries _ _ column noise below }
    exact job.stroke_gives mode valid promised.coded target.layout target.samples.size row inRange
      luma source noise destination
  obtain ⟨left, done, _⟩ := target.paint_of_gives job.columns job.rowCount _ _ gives
  exact ⟨left, done⟩

/-- A promised blend that completes fits. -/
theorem Promised.fits_of_done {job : ChromaJob} (promised : job.Promised) (mode : KeyMode)
    (target left : Raster Int) (done : job.blend mode target = .done left) : job.Fits target := by
  rw [blend] at done
  cases passed : job.check with
  | error fault => simp [passed] at done
  | ok chroma =>
    rw [passed] at done
    obtain ⟨⟨_, rfl⟩, rowsCounted, noiseRows, noiseColumns⟩ :=
      (promised.check_eq_ok_iff chroma).mp passed
    have windows (row : Nat) (inside : row < job.rowCount) :
        job.luma.layout.first (job.subsampling.lumaRow row) + job.extent.width ≤
            job.luma.samples.size ∧
          job.source.layout.first row + job.columns ≤ job.source.samples.size ∧
            target.layout.first row + job.columns ≤ target.samples.size := by
      obtain ⟨given, stroked, _⟩ := Raster.strokes_of_paint_done _ _ _ _ _ done row inside
      obtain ⟨found, located, _⟩ := (job.stroke_eq_ok_iff _ _ _ _ row given).mp stroked
      obtain ⟨luma, source, _, destination, _⟩ := (job.rows_eq_ok_iff _ _ _ row found).mp located
      exact ⟨luma.first_add_le, source.first_add_le, destination.first_add_le⟩
    exact {
      rowsCounted := rowsCounted
      noiseRows := noiseRows
      noiseColumns := noiseColumns
      lumaRows := fun row inside => (windows row inside).1
      sourceRows := fun row inside => (windows row inside).2.1
      targetRows := fun row inside => (windows row inside).2.2 }

/-- In rows that are found for a promised blend, the luma value, the sample and the key at a
visible column are found, and every position of the table that is read for the key exists. -/
theorem Promised.lookups_inTable {job : ChromaJob} (promised : job.Promised) (mode : KeyMode)
    (layout : Layout) (size row : Nat) (found : Rows)
    (located : job.rows job.columns layout size row = .ok found) (column : Nat)
    (inside : column < job.columns) :
    ∃ average sample key, averageLuma found.luma job.subsampling.x column = .ok average ∧
      elementAt found.source column = .ok sample ∧ job.key mode average sample = .ok key ∧
        ∀ index ∈ ScalingTable.lookups job.depth key, ScalingTable.InTable index := by
  have sound := job.sound_of_rows layout size row found promised.lumaSamples promised.samples
    promised.entries located
  have average := averageLuma_eq_mean found.luma _ job.extent.width job.subsampling.x column
    sound.lumaHeld (fun single => Nat.lt_of_lt_of_le inside (sound.unshared single))
    (fun double => sound.shared double column inside)
  have averageInside := sound.isSample_mean column inside
  have sampleInside := sound.samples column inside
  refine ⟨_, _, _, average, sound.sourceHeld.elementAt column inside,
    job.key_eq_idealKey mode promised.coded _ _ averageInside sampleInside, ?_⟩
  exact job.table.inTable_of_isSample job.depth _
    (job.isSample_idealKey mode _ _ averageInside)

/-- The geometry of a blend is safe: what is read of luma exists for every visible chroma row and
column, what is read of the table exists wherever the rows of the blend do, and the blend
completes exactly when it fits. -/
structure Safe (job : ChromaJob) (mode : KeyMode) (target : Raster Int) : Prop where
  rows : ∀ row < job.rowCount, job.subsampling.lumaRow row < job.extent.height
  columns : ∀ column < job.columns,
    ∀ read ∈ lumaColumns job.extent.width job.subsampling.x column, read < job.extent.width
  averages : ∀ luma : Array Int, luma.size = job.extent.width → ∀ column < job.columns,
    ∃ average, averageLuma luma job.subsampling.x column = .ok average
  lookups : ∀ row found,
    job.rows job.columns target.layout target.samples.size row = .ok found →
      ∀ column < job.columns, ∃ average sample key,
        averageLuma found.luma job.subsampling.x column = .ok average ∧
          elementAt found.source column = .ok sample ∧ job.key mode average sample = .ok key ∧
            ∀ index ∈ ScalingTable.lookups job.depth key, ScalingTable.InTable index
  completes : (∃ left, job.blend mode target = .done left) ↔ job.Fits target

/-- A chroma blend may share luma by any number of places. As long as there are fewer than a word
has and the padded luma extent can be counted, its geometry is safe in both modes, so whether it
completes is a matter of its noise and of its buffers only. By any other number of places it is an
overflow, and nothing is written. -/
theorem safe_of_shareable (job : ChromaJob) (mode : KeyMode) (target : Raster Int)
    (promised : job.Promised) (counted : job.Counted target) :
    (job.Shareable → job.Safe mode target) ∧
      (¬ job.Shareable → job.blend mode target = .stopped .overflow target) := by
  refine ⟨fun shareable => ?_, promised.blend_of_not_shareable mode target⟩
  have columns (column : Nat) (inside : column < job.columns) :=
    lumaColumns_lt job.extent.width job.subsampling.x column inside
  exact {
    rows := fun row inside => job.subsampling.lumaRow_lt job.extent.height row inside
    columns := columns
    averages := fun luma visible column inside =>
      (exists_averageLuma_iff luma _ column).mpr (visible ▸ columns column inside)
    lookups := fun row found located column inside =>
      promised.lookups_inTable mode _ _ row found located column inside
    completes := ⟨fun ⟨left, done⟩ => promised.fits_of_done mode target left done,
      promised.exists_done_of_fits mode target counted shareable⟩ }

/-- A blend with four luma columns and eight luma rows to each chroma sample. Of thirteen luma rows
it reads the first and the ninth, one sample apart from row to row. -/
def sparseBlend : ChromaJob where
  depth := .ten
  plane := .u
  parameters := StripJob.oddStrip.parameters
  noise := StripJob.oddStrip.noise
  table := StripJob.oddStrip.tables.u
  luma := .whole #[0, 1023, 500, 7, 0, 3, 64, 512, 940, 1, 1022, 6, 9, 300] 1
  source := .whole #[1000, 3, 512, 77] 2
  low := 64
  high := 960
  extent := ⟨6, 13⟩
  subsampling := ⟨2, 3⟩
  start := 1

/-- The sparse blend fits its buffers, and completes; with rows shared by as many places as a word
has it stops before anything is written. -/
theorem sparseBlend_safe :
    let target := Raster.whole #[1, 2, 3, 4] 2
    let overshared := { sparseBlend with subsampling := ⟨2, 64⟩ }
    (sparseBlend.Promised ∧ sparseBlend.Counted target ∧ sparseBlend.Shareable) ∧
      (sparseBlend.blend .mixed target = .done (.whole #[960, 64, 512, 76] 2) ∧
        sparseBlend.Fits target) ∧
      overshared.blend .mixed target = .stopped .overflow target := by
  intro target overshared
  have coded : (sparseBlend.parameters.mix sparseBlend.plane).Coded := by
    intro coefficient
    cases coefficient <;> decide
  have promised : sparseBlend.Promised :=
    ⟨rfl, coded, by decide, by decide, by decide, by decide, by decide, by decide⟩
  have counted : sparseBlend.Counted target := by constructor <;> decide
  have shareable : sparseBlend.Shareable := by constructor <;> decide
  have evaluated : sparseBlend.blend .mixed target = .done (.whole #[960, 64, 512, 76] 2) := by
    decide +kernel
  have safe := (safe_of_shareable sparseBlend .mixed target promised counted).1 shareable
  -- what is promised and counted does not depend on how luma is shared
  have stopped := (safe_of_shareable overshared .mixed target
    ⟨promised.chromaPlane, promised.coded, promised.shift, promised.low, promised.high,
      promised.lumaSamples, promised.samples, promised.entries⟩
    ⟨counted.luma, counted.source, counted.cells, counted.target⟩).2
    fun shared => absurd shared.rowsShort (by decide)
  exact ⟨⟨promised, counted, shareable⟩, ⟨evaluated, safe.completes.mp ⟨_, evaluated⟩⟩, stopped⟩

end ChromaJob

end GrainSynthesis
