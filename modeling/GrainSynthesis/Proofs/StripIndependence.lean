import GrainSynthesis.Proofs.StripInputs
import GrainSynthesis.Proofs.StripSamples

/-!
# Planes and tables are independent

What a call leaves of a plane depends on few of its arguments. For luma they are its own
source, noise, table and number of points, and the bounds of luma. For a chroma plane they
are the luma source, its own source and noise, the bounds of chroma, and by the mode either
the luma table or its own table, number of points and coefficients. Everything else may
differ between two calls: what belongs to other planes, the destinations of other planes,
whether results are said to be restricted, and what the mode does not use.

The guard entry of a table is reached only from the last three keys of ten bits. The key
before them is at an entry, and the entry after it has no weight.
-/

namespace GrainSynthesis

namespace ScalingTable

/-- The position of the guard entry. -/
def guard : Nat := 256

/-- Two tables have the same entry for each intensity; their guard entries may differ. -/
def SameBelowGuard (table other : ScalingTable) : Prop :=
  ∀ position < guard, table.entry position = other.entry position

/-- Tables with the same entries have the same levels below the guard entry. -/
theorem SameBelowGuard.level_eq {table other : ScalingTable} (same : table.SameBelowGuard other)
    (position : Nat) (below : position < guard) : table.level position = other.level position := by
  have inside : position < size := Nat.lt_succ_of_lt below
  have entries := same position below
  rw [table.entry_eq_level position inside, other.entry_eq_level position inside] at entries
  exact Except.ok.inj entries

/-- The greatest key at which a depth does without the guard entry. -/
def lastFreeKey : Depth → Int
  | .eight => 255
  | .ten => 1020

/-- Up to the last free key the strength does not depend on the guard entry. -/
theorem SameBelowGuard.strength_eq {table other : ScalingTable} (same : table.SameBelowGuard other)
    (depth : Depth) (key : Int) (free : key ≤ lastFreeKey depth) :
    table.strength depth key = other.strength depth key := by
  cases depth with
  | eight =>
    have below : key.toNat < guard := by
      simp only [lastFreeKey] at free
      rw [guard]
      omega
    exact same.level_eq _ below
  | ten =>
    simp only [lastFreeKey] at free
    have startBelow : (key / 4).toNat < guard := by
      rw [guard]
      omega
    have start := same.level_eq _ startBelow
    rcases Int.lt_or_eq_of_le free with before | last
    · have stopBelow : (key / 4).toNat + 1 < guard := by
        rw [guard]
        omega
      simp only [strength, start, same.level_eq _ stopBelow]
    · -- The entry after the key has no weight.
      subst last
      simp only [strength, start]
      norm_num

end ScalingTable

namespace StripJob

/-- Two calls have equal geometry: depth, luma extent, subsampling, scaling shift and start. -/
structure SameGeometry (job other : StripJob) : Prop where
  depth : job.depth = other.depth
  extent : job.extent = other.extent
  subsampling : job.subsampling = other.subsampling
  shift : job.parameters.scalingShift = other.parameters.scalingShift
  start : job.start = other.start

/-- Two calls agree in what luma depends on, their luma tables being alike. -/
structure SameLumaInputs (alike : ScalingTable → ScalingTable → Prop) (job other : StripJob) :
    Prop where
  source : job.source.y = other.source.y
  noise : job.noise.y = other.noise.y
  table : alike job.tables.y other.tables.y
  points : job.parameters.points.y = other.parameters.points.y
  low : job.clip.low = other.clip.low
  high : job.clip.highLuma = other.clip.highLuma

/-- Two calls agree in what a chroma plane depends on, the tables that its noise is scaled
through being alike. When chroma is scaled from luma that is the luma table, and otherwise the
table of the plane; its points and coefficients only matter then. -/
structure SameChromaInputs (alike : ScalingTable → ScalingTable → Prop) (job other : StripJob)
    (plane : Plane) : Prop where
  luma : job.source.y = other.source.y
  source : job.source.get plane = other.source.get plane
  noise : job.noise.get plane = other.noise.get plane
  low : job.clip.low = other.clip.low
  high : job.clip.highChroma = other.clip.highChroma
  mode : job.parameters.chromaFromLuma = other.parameters.chromaFromLuma
  lumaTable : job.parameters.chromaFromLuma = true → alike job.tables.y other.tables.y
  ownTable : job.parameters.chromaFromLuma = false →
    alike (job.tables.get plane) (other.tables.get plane)
  points : job.parameters.chromaFromLuma = false →
    job.parameters.points.get plane = other.parameters.points.get plane
  mix : job.parameters.chromaFromLuma = false →
    job.parameters.mix plane = other.parameters.mix plane

/-- Two calls agree in what a plane depends on, its tables being alike. -/
def SameInputs (alike : ScalingTable → ScalingTable → Prop) (job other : StripJob) :
    Plane → Prop
  | .y => SameLumaInputs alike job other
  | plane => SameChromaInputs alike job other plane

variable {alike : ScalingTable → ScalingTable → Prop} {job other : StripJob} {plane : Plane}

/-- Calls of equal geometry have equal visible extents. -/
theorem SameGeometry.visible_eq (geometry : SameGeometry job other) (plane : Plane) :
    job.visible plane = other.visible plane := by
  cases plane <;> simp only [visible, chroma, geometry.extent, geometry.subsampling]

/-- Calls of equal geometry take noise from the same rows. -/
theorem SameGeometry.noiseStart_eq (geometry : SameGeometry job other) (plane : Plane) :
    job.noiseStart plane = other.noiseStart plane := by
  cases plane <;> simp only [noiseStart, geometry.start, geometry.subsampling]

/-- Luma has the same ideal samples wherever alike tables have the same strength at its keys. -/
theorem SameLumaInputs.idealSample_eq (inputs : SameLumaInputs alike job other)
    (geometry : SameGeometry job other) (row column : Nat)
    (strengths : job.parameters.appliesTo .y = true → ∀ table otherTable, alike table otherTable →
      table.strength job.depth (job.idealKey .y row column) =
        otherTable.strength job.depth (job.idealKey .y row column)) :
    job.idealSample .y row column = other.idealSample .y row column := by
  have sample : (job.source.get .y).value row column = (other.source.get .y).value row column :=
    congrArg (fun source : Raster Int => source.value row column) inputs.source
  have applies : job.parameters.appliesTo .y = other.parameters.appliesTo .y := by
    have points : job.parameters.points.get .y = other.parameters.points.get .y := inputs.points
    rw [GrainParameters.appliesTo, GrainParameters.appliesTo, points]
    rfl
  have key : other.idealKey .y row column = job.idealKey .y row column := by
    rw [idealKey_luma, idealKey_luma]
    exact sample.symm
  have table (job : StripJob) : (job.planeSetting .y).table = job.tables.y := ite_self job.tables.y
  apply idealSample_congr applies sample
  intro noisy
  exact {
    strength := by
      rw [table, table, key, ← geometry.depth]
      exact strengths noisy _ _ inputs.table
    entry := by
      have noise : job.noise.get .y = other.noise.get .y := inputs.noise
      rw [noise, geometry.noiseStart_eq]
    shift := geometry.shift
    low := inputs.low
    high := inputs.high }

/-- A chroma plane has the same ideal samples wherever alike tables have the same strength at
its keys. -/
theorem SameChromaInputs.idealSample_eq (inputs : SameChromaInputs alike job other plane)
    (chromaPlane : plane.isChroma = true) (geometry : SameGeometry job other) (row column : Nat)
    (inside : column < (job.visible plane).width)
    (strengths : job.parameters.appliesTo plane = true → ∀ table otherTable, alike table otherTable →
      table.strength job.depth (job.idealKey plane row column) =
        otherTable.strength job.depth (job.idealKey plane row column)) :
    job.idealSample plane row column = other.idealSample plane row column := by
  have sample : (job.source.get plane).value row column =
      (other.source.get plane).value row column := by rw [inputs.source]
  have applies : job.parameters.appliesTo plane = other.parameters.appliesTo plane := by
    rw [GrainParameters.appliesTo, GrainParameters.appliesTo, ← inputs.mode]
    cases mode : job.parameters.chromaFromLuma with
    | true => simp [chromaPlane]
    | false => simp [inputs.points mode]
  have luma : SameLumaRow job other row := {
    width := by rw [geometry.extent]
    subsampling := geometry.subsampling
    luma := fun _ _ => by rw [inputs.luma] }
  have key : job.idealKey plane row column = other.idealKey plane row column :=
    idealKey_chroma_congr chromaPlane (job.visible_of_isChroma plane chromaPlane ▸ inside) luma
      ⟨geometry.depth, inputs.mode, inputs.mix⟩ sample
  have tables : alike (job.planeSetting plane).table (other.planeSetting plane).table := by
    simp only [planeSetting, ← inputs.mode]
    cases mode : job.parameters.chromaFromLuma with
    | true => exact inputs.lumaTable mode
    | false => exact inputs.ownTable mode
  apply idealSample_congr applies sample
  intro noisy
  exact {
    strength := by
      rw [← key, ← geometry.depth]
      exact strengths noisy _ _ tables
    entry := by rw [inputs.noise, geometry.noiseStart_eq]
    shift := geometry.shift
    low := inputs.low
    high := by simp only [ClipRange.high, chromaPlane, if_true, inputs.high] }

/-- A plane has the same ideal samples wherever alike tables have the same strength at its
keys. -/
theorem idealSample_eq_of_inputs (geometry : SameGeometry job other)
    (inputs : SameInputs alike job other plane) (row column : Nat)
    (inside : column < (job.visible plane).width)
    (strengths : job.parameters.appliesTo plane = true → ∀ table otherTable, alike table otherTable →
      table.strength job.depth (job.idealKey plane row column) =
        otherTable.strength job.depth (job.idealKey plane row column)) :
    job.idealSample plane row column = other.idealSample plane row column := by
  cases plane with
  | y => exact SameLumaInputs.idealSample_eq inputs geometry row column strengths
  | u => exact SameChromaInputs.idealSample_eq inputs rfl geometry row column inside strengths
  | v => exact SameChromaInputs.idealSample_eq inputs rfl geometry row column inside strengths

/-- On a raster of samples the value at every place is one, also past the buffer. -/
theorem isSample_value (depth : Depth) (raster : Raster Int)
    (samples : ∀ value ∈ raster.samples, depth.IsSample value) (row column : Nat) :
    depth.IsSample (raster.value row column) := by
  rw [Raster.value, Array.getD]
  split
  · exact samples _ (Array.getElem_mem _)
  · exact ⟨le_refl 0, depth.maxSample_nonneg⟩

/-- The visible keys of a strip whose luma is made of samples are samples. -/
theorem isSample_idealKey (job : StripJob)
    (lumaSamples : ∀ value ∈ job.source.y.samples, job.depth.IsSample value) (plane : Plane)
    (row column : Nat) (inside : column < (job.visible plane).width) :
    job.depth.IsSample (job.idealKey plane row column) := by
  have luma := isSample_value job.depth job.source.y lumaSamples
  by_cases chromaPlane : plane.isChroma = true
  · rw [job.visible_of_isChroma plane chromaPlane] at inside
    have average : job.depth.IsSample (job.lumaMean row column) :=
      ChromaJob.isSample_mean_of_visible job.depth _ job.extent.width job.subsampling.x column
        (fun position _ => luma _ position) inside
    rw [idealKey, if_pos chromaPlane]
    split
    · exact average
    · exact ChromaJob.isSample_mixed job.depth _ _ _
  · obtain rfl := plane.eq_y_of_not_isChroma chromaPlane
    rw [idealKey_luma]
    exact luma row column

/-- What two completed calls of equal geometry have in common.

They leave the same of a plane when they agree in its inputs and begin with the same plane,
whatever else they are given. So luma owes nothing to chroma or to its mode, and a chroma plane
owes nothing to the other one or to what luma receives. When chroma is scaled from luma, the
tables, points and coefficients of chroma do not matter, and otherwise the luma table does not
matter for chroma.

Guard entries never matter on byte samples. With ten bits one can only matter for an element
that is keyed on 1021 or more. -/
theorem planes_independent (job other : StripJob)
    (target otherTarget left otherLeft : PerPlane (Raster Int))
    (done : job.apply .plain target = .ran (.done left))
    (otherDone : other.apply .plain otherTarget = .ran (.done otherLeft))
    (geometry : SameGeometry job other) :
    (∀ plane, SameInputs Eq job other plane → target.get plane = otherTarget.get plane →
        left.get plane = otherLeft.get plane) ∧
      (job.depth = .eight → (∀ value ∈ job.source.y.samples, job.depth.IsSample value) →
        ∀ plane, SameInputs ScalingTable.SameBelowGuard job other plane →
          target.get plane = otherTarget.get plane → left.get plane = otherLeft.get plane) ∧
      (job.depth = .ten → ∀ plane index, SameInputs ScalingTable.SameBelowGuard job other plane →
        target.get plane = otherTarget.get plane →
        (∀ row column, (target.get plane).layout.owner? (job.visible plane).width
            (job.visible plane).height index = some (row, column) →
          job.parameters.appliesTo plane = true → job.idealKey plane row column < 1021) →
        (left.get plane).samples[index]? = (otherLeft.get plane).samples[index]?) := by
  refine ⟨?_, ?_, ?_⟩
  · intro plane inputs begins
    apply job.get_eq_of_done other target otherTarget left otherLeft done otherDone plane begins
      (geometry.visible_eq plane)
    intro row _ column inside
    apply idealSample_eq_of_inputs geometry inputs row column inside
    rintro _ table _ rfl
    rfl
  · intro eight lumaSamples plane inputs begins
    apply job.get_eq_of_done other target otherTarget left otherLeft done otherDone plane begins
      (geometry.visible_eq plane)
    intro row _ column inside
    apply idealSample_eq_of_inputs geometry inputs row column inside
    intro _ table otherTable same
    -- A byte selects an entry below the guard entry, and every visible key is a byte.
    obtain ⟨_, free⟩ := job.isSample_idealKey lumaSamples plane row column inside
    apply same.strength_eq
    rw [eight] at free ⊢
    exact free
  · intro ten plane index inputs begins free
    apply job.getElem?_eq_of_done other target otherTarget left otherLeft done otherDone plane
      begins (geometry.visible_eq plane)
    -- Rows may overlap, so the key that counts is the one of the place written last.
    intro row column owner
    obtain ⟨_, inside, _⟩ := Layout.owner?_eq_some _ _ _ _ _ _ owner
    apply idealSample_eq_of_inputs geometry inputs row column inside
    intro noisy table otherTable same
    have below := free row column owner noisy
    apply same.strength_eq
    rw [ten]
    exact Int.lt_add_one_iff.mp below

/-- The odd strip with the least lower bound. -/
def openStrip : StripJob := { oddStrip with clip := ⟨0, 940, 960⟩ }

/-- A strip that shares with the open one what the first chroma plane depends on, except the
guard entry of its table. Luma takes no noise here, and the second chroma plane does. -/
def foreignStrip : StripJob :=
  { openStrip with
    parameters :=
      { openStrip.parameters with
        restrictedRange := true, points := ⟨0, 1, 1⟩, mixV := ⟨1, 2, 3⟩ }
    noise := ⟨.empty, openStrip.noise.u, ⟨3, 2, #[0, 0, 7, -7, 100, 5], rfl⟩⟩
    tables :=
      ⟨⟨Vector.replicate _ 0⟩, ⟨openStrip.tables.u.entries.set 256 255⟩, ⟨Vector.replicate _ 9⟩⟩
    clip := ⟨0, 1, 960⟩
    source := ⟨openStrip.source.y, openStrip.source.u, .whole #[9, 8, 7, 6] 2⟩ }

/-- The open strip and the foreign one leave the same of the first chroma plane, except for the
element that is keyed on 1023, where their guard entries show. -/
theorem openStrip_independent :
    let otherTarget := { oddTarget with y := Raster.whole #[1, 1, 1, 1, 1, 1, 1, 1, 1, 1, 1] 4 }
    let left : PerPlane (Raster Int) :=
      ⟨.whole #[0, 767, 940, 0, 64, 940, 495, 0, 940, 1, 499] 4,
        ⟨#[9, 960, 3, 9, 512, 76, 9], ⟨1, 3⟩⟩, .whole #[1, 2, 3, 4] 2⟩
    let otherLeft : PerPlane (Raster Int) :=
      ⟨.whole #[0, 511, 1023, 1, 64, 940, 700, 1, 1022, 1, 500] 4,
        ⟨#[9, 960, 61, 9, 512, 76, 9], ⟨1, 3⟩⟩, .whole #[9, 8, 11, 6] 2⟩
    (openStrip.apply .plain oddTarget = .ran (.done left) ∧
        foreignStrip.apply .plain otherTarget = .ran (.done otherLeft) ∧
        SameGeometry openStrip foreignStrip) ∧
      SameInputs ScalingTable.SameBelowGuard openStrip foreignStrip .u ∧
        openStrip.idealKey .u 0 1 = 1023 ∧
          ∀ index ≠ 2, (left.get .u).samples[index]? = (otherLeft.get .u).samples[index]? := by
  intro otherTarget left otherLeft
  have done : openStrip.apply .plain oddTarget = .ran (.done left) := by decide +kernel
  have otherDone : foreignStrip.apply .plain otherTarget = .ran (.done otherLeft) := by
    decide +kernel
  have geometry : SameGeometry openStrip foreignStrip := ⟨rfl, rfl, rfl, rfl, rfl⟩
  have tables : ScalingTable.SameBelowGuard openStrip.tables.u foreignStrip.tables.u := by
    intro position below
    have kept : position ≠ 256 := Nat.ne_of_lt below
    simp [ScalingTable.entry, foreignStrip, Ne.symm kept]
  have inputs : SameInputs ScalingTable.SameBelowGuard openStrip foreignStrip .u := {
    luma := rfl
    source := rfl
    noise := rfl
    low := rfl
    high := rfl
    mode := rfl
    lumaTable := fun fromLuma => by cases fromLuma
    ownTable := fun _ => tables
    points := fun _ => rfl
    mix := fun _ => rfl }
  obtain ⟨_, _, free⟩ := planes_independent openStrip foreignStrip oddTarget otherTarget left
    otherLeft done otherDone geometry
  refine ⟨⟨done, otherDone, geometry⟩, inputs, by decide +kernel, ?_⟩
  intro index other
  apply free rfl .u index inputs rfl
  intro row column owner _
  obtain ⟨rowInside, columnInside, located⟩ := Layout.owner?_eq_some _ _ _ _ _ _ owner
  have keys : ∀ row < 2, ∀ column < 2, 1 + row * 3 + column ≠ 2 →
      openStrip.idealKey .u row column < 1021 := by decide +kernel
  exact keys row rowInside column columnInside (located ▸ other)

end StripJob

end GrainSynthesis
