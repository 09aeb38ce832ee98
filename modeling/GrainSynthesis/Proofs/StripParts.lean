import GrainSynthesis.Proofs.Painting
import GrainSynthesis.Proofs.Planes
import GrainSynthesis.Proofs.Rows

/-!
# Strips that are cut into parts

A strip can be applied in parts: strips of fewer rows, whose planes are seen from
the first rows of the part on and whose noise begins as much later. Where luma
rows share a chroma row, a part begins at an even row, so that its chroma rows
begin at a row of their own.

Every stroke of a part is then a stroke of the whole strip, with the same samples
at the same place. This is shown kernel by kernel, from the windows that a stroke
reads and the one that it writes.
-/

namespace GrainSynthesis

/-- The same rows, numbered from a later one on. -/
def Layout.lower (layout : Layout) (above : Nat) : Layout :=
  { layout with origin := layout.first above }

/-- Rows of a lowered layout are the rows below. -/
theorem Layout.first_lower (layout : Layout) (above row : Nat) :
    (layout.lower above).first row = layout.first (above + row) := by
  simp only [lower, first, Nat.add_mul]
  omega

/-- A window below is reached from a lowered layout. -/
theorem Layout.Reaches.lower {layout : Layout} {size above row length : Nat}
    (reached : layout.Reaches size (above + row) length) :
    (layout.lower above).Reaches size row length := by
  obtain ⟨counted, inside⟩ := reached
  rw [Nat.add_mul] at counted inside
  constructor
  · simp only [Layout.lower]
    omega
  · simp only [Layout.lower, Layout.first]
    omega

namespace Raster

variable {α : Type}

/-- The same buffer seen from a row on. -/
def lower (raster : Raster α) (above : Nat) : Raster α :=
  { raster with layout := raster.layout.lower above }

/-- Windows of a lowered raster are the windows below. -/
theorem window_lower (raster : Raster α) (above row length : Nat) :
    (raster.lower above).window row length = raster.window (above + row) length := by
  simp only [window, lower, Layout.first_lower]

/-- The view from a row that is reached exists. -/
theorem dropElements_of_reaches (raster : Raster α) (above length : Nat)
    (reached : raster.layout.Reaches raster.samples.size above length) :
    raster.dropElements (above * raster.layout.stride) = .ok (raster.lower above) := by
  have inside : raster.layout.origin + above * raster.layout.stride ≤ raster.samples.size := by
    have ends := reached.2
    omega
  rw [dropElements, if_pos inside]
  rfl

end Raster

/-- Buffers with the layouts of their rows. -/
def PerPlane.rasters (layouts : PerPlane Layout) (buffers : PerPlane (Array Int)) :
    PerPlane (Raster Int) :=
  ⟨⟨buffers.y, layouts.y⟩, ⟨buffers.u, layouts.u⟩, ⟨buffers.v, layouts.v⟩⟩

/-- Each plane has its own buffer and its own layout. -/
theorem PerPlane.get_rasters (layouts : PerPlane Layout) (buffers : PerPlane (Array Int))
    (plane : Plane) :
    (layouts.rasters buffers).get plane = ⟨buffers.get plane, layouts.get plane⟩ := by
  cases plane <;> rfl

/-- What exists for each plane exists for all planes at once. -/
theorem PerPlane.exists_of_forall {α : Type} (found : Plane → α → Prop)
    (every : ∀ plane, ∃ value, found plane value) :
    ∃ values : PerPlane α, ∀ plane, found plane (values.get plane) := by
  obtain ⟨y, foundY⟩ := every .y
  obtain ⟨u, foundU⟩ := every .u
  obtain ⟨v, foundV⟩ := every .v
  refine ⟨⟨y, u, v⟩, ?_⟩
  intro plane
  cases plane with
  | y => exact foundY
  | u => exact foundU
  | v => exact foundV

/-- Consecutive luma rows of a strip. -/
structure Part where
  offset : Nat
  height : Nat

/-- Parts of given heights, one below the other. -/
def stack (offset : Nat) : List Nat → List Part
  | [] => []
  | height :: heights => ⟨offset, height⟩ :: stack (offset + height) heights

namespace StripJob

/-- The rows of a plane above those that belong to a luma row. -/
def rowsAbove (job : StripJob) (offset : Nat) : Plane → Nat
  | .y => offset
  | .u => offset / 2 ^ job.subsampling.y
  | .v => offset / 2 ^ job.subsampling.y

/-- The source planes seen from a luma row on. -/
def sourceFrom (job : StripJob) (offset : Nat) : PerPlane (Raster Int) :=
  ⟨job.source.y.lower (job.rowsAbove offset .y), job.source.u.lower (job.rowsAbove offset .u),
    job.source.v.lower (job.rowsAbove offset .v)⟩

/-- The layouts of the destinations seen from a luma row on. -/
def layoutsFrom (job : StripJob) (layouts : PerPlane Layout) (offset : Nat) : PerPlane Layout :=
  ⟨layouts.y.lower (job.rowsAbove offset .y), layouts.u.lower (job.rowsAbove offset .u),
    layouts.v.lower (job.rowsAbove offset .v)⟩

/-- A part of a strip as a strip of its own. -/
def part (job : StripJob) (part : Part) : StripJob :=
  { job with
    extent := ⟨job.extent.width, part.height⟩
    start := job.start + part.offset
    source := job.sourceFrom part.offset }

/-- The buffers that a call leaves, in the given layouts, when it returns, be it with a
rejection. -/
def leaves (job : StripJob) (layouts : PerPlane Layout) (buffers : PerPlane (Array Int)) :
    Option (PerPlane (Array Int)) :=
  match job.apply .plain (layouts.rasters buffers) with
  | .rejected _ left => some (left.map Raster.samples)
  | .ran (.done left) => some (left.map Raster.samples)
  | .ran (.stopped _ _) => none

/-- The buffers that a part leaves when it returns. -/
def leavesPart (job : StripJob) (layouts : PerPlane Layout) (buffers : PerPlane (Array Int))
    (part : Part) : Option (PerPlane (Array Int)) :=
  (job.part part).leaves (job.layoutsFrom layouts part.offset) buffers

/-- A part lies inside the strip, and begins with a chroma row of its own. -/
structure Fits (job : StripJob) (part : Part) : Prop where
  begins : part.offset < job.extent.height
  inside : part.offset + part.height ≤ job.extent.height
  shared : job.subsampling.y = 1 → part.offset % 2 = 0

/-- The visible rows of a plane that belong to so many luma rows. -/
def visibleRows (job : StripJob) (height : Nat) : Plane → Nat
  | .y => height
  | .u => (height + job.subsampling.y) / 2 ^ job.subsampling.y
  | .v => (height + job.subsampling.y) / 2 ^ job.subsampling.y

/-- The visible rows of a plane are those that belong to all luma rows. -/
theorem visibleRows_height (job : StripJob) (plane : Plane) :
    job.visibleRows job.extent.height plane = (job.visible plane).height := by
  cases plane <;> rfl

/-- A part has the visible rows of its own luma rows. -/
theorem visible_part_height (job : StripJob) (part : Part) (plane : Plane) :
    ((job.part part).visible plane).height = job.visibleRows part.height plane := by
  cases plane <;> rfl

/-- A part is as wide as the strip. -/
theorem visible_part_width (job : StripJob) (part : Part) (plane : Plane) :
    ((job.part part).visible plane).width = (job.visible plane).width := by
  cases plane <;> rfl

/-- The sources of a part are those of the strip from its rows on. -/
theorem source_part (job : StripJob) (part : Part) (plane : Plane) :
    (job.part part).source.get plane =
      (job.source.get plane).lower (job.rowsAbove part.offset plane) := by
  cases plane <;> rfl

/-- The destinations of a part are those of the strip from its rows on. -/
theorem get_layoutsFrom (job : StripJob) (layouts : PerPlane Layout) (offset : Nat)
    (plane : Plane) : (job.layoutsFrom layouts offset).get plane =
      (layouts.get plane).lower (job.rowsAbove offset plane) := by
  cases plane <;> rfl

/-- The rows of an upper part and those of the part below it add up. -/
theorem visibleRows_add (job : StripJob) (rowsShared : job.subsampling.y ≤ 1) (offset height : Nat)
    (shared : job.subsampling.y = 1 → offset % 2 = 0) (plane : Plane) :
    job.visibleRows (offset + height) plane =
      job.rowsAbove offset plane + job.visibleRows height plane := by
  have reduced : (offset + height + job.subsampling.y) / 2 ^ job.subsampling.y =
      offset / 2 ^ job.subsampling.y + (height + job.subsampling.y) / 2 ^ job.subsampling.y := by
    rcases Nat.le_one_iff_eq_zero_or_eq_one.mp rowsShared with single | double
    · simp [single]
    · have even := shared double
      simp only [double]
      omega
  cases plane with
  | y => rfl
  | u => exact reduced
  | v => exact reduced

/-- The rows above a part are the rows of the parts above it. -/
theorem visibleRows_eq_rowsAbove (job : StripJob) (rowsShared : job.subsampling.y ≤ 1)
    (offset : Nat) (shared : job.subsampling.y = 1 → offset % 2 = 0) (plane : Plane) :
    job.visibleRows offset plane = job.rowsAbove offset plane := by
  have added := job.visibleRows_add rowsShared offset 0 shared plane
  have none : job.visibleRows 0 plane = 0 := by
    rcases Nat.le_one_iff_eq_zero_or_eq_one.mp rowsShared with single | double <;>
      cases plane <;> simp [visibleRows, *]
  rw [none] at added
  exact added

/-- The noise of a part begins below that of the strip by the rows above the part. -/
theorem noiseStart_part (job : StripJob) (rowsShared : job.subsampling.y ≤ 1) (part : Part)
    (shared : job.subsampling.y = 1 → part.offset % 2 = 0) (plane : Plane) :
    (job.part part).noiseStart plane =
      job.noiseStart plane + job.rowsAbove part.offset plane := by
  have reduced : (job.start + part.offset) / 2 ^ job.subsampling.y =
      job.start / 2 ^ job.subsampling.y + part.offset / 2 ^ job.subsampling.y := by
    rcases Nat.le_one_iff_eq_zero_or_eq_one.mp rowsShared with single | double
    · simp [single]
    · have evenOffset := shared double
      simp only [double]
      omega
  cases plane with
  | y => rfl
  | u => exact reduced
  | v => exact reduced

/-- The luma rows of a part are those of the strip. -/
theorem lumaRows_part (job : StripJob) (part : Part) (layout : Layout) (size row : Nat)
    (rows : LumaJob.Rows)
    (whole : job.lumaJob.rows layout size (part.offset + row) = .ok rows) :
    (job.part part).lumaJob.rows (layout.lower part.offset) size row = .ok rows := by
  obtain ⟨source, noise, target, rfl⟩ := (LumaJob.rows_eq_ok_iff _ _ _ _ _).mp whole
  have begins : (job.part part).lumaJob.start + row = job.lumaJob.start + (part.offset + row) :=
    Nat.add_assoc _ _ _
  have window : (job.part part).lumaJob.source.window row job.extent.width =
      job.lumaJob.source.window (part.offset + row) job.extent.width :=
    job.source.y.window_lower part.offset row job.extent.width
  refine (LumaJob.rows_eq_ok_iff _ _ _ _ _).mpr ⟨source.lower, begins ▸ noise, target.lower, ?_⟩
  rw [LumaJob.Rows.mk.injEq]
  exact ⟨window.symm, by rw [begins]; rfl, (layout.first_lower part.offset row).symm⟩

/-- The luma stroke of a part is a luma stroke of the strip. -/
theorem lumaStroke_part (job : StripJob) (part : Part) (layout : Layout) (size row : Nat)
    (found : Stroke Int)
    (whole : job.lumaJob.stroke layout size (part.offset + row) = .ok found) :
    (job.part part).lumaJob.stroke (layout.lower part.offset) size row = .ok found := by
  obtain ⟨rows, located, rfl⟩ := (LumaJob.stroke_eq_ok_iff _ _ _ _ _).mp whole
  exact (LumaJob.stroke_eq_ok_iff _ _ _ _ _).mpr
    ⟨rows, job.lumaRows_part part layout size row rows located, rfl⟩

/-- The luma row of a chroma row of a part is as far below the part's beginning as in the
strip. -/
theorem lumaRow_add (job : StripJob) (rowsShared : job.subsampling.y ≤ 1) (offset row : Nat)
    (shared : job.subsampling.y = 1 → offset % 2 = 0) :
    job.subsampling.lumaRow (offset / 2 ^ job.subsampling.y + row) =
      offset + job.subsampling.lumaRow row := by
  simp only [Subsampling.lumaRow, Nat.pow_eq]
  rcases Nat.le_one_iff_eq_zero_or_eq_one.mp rowsShared with single | double
  · simp [single]
  · have even := shared double
    simp only [double]
    omega

/-- The chroma rows of a part are those of the strip. -/
theorem chromaRows_part (job : StripJob) (rowsShared : job.subsampling.y ≤ 1) (part : Part)
    (shared : job.subsampling.y = 1 → part.offset % 2 = 0) (plane : Plane)
    (chromaPlane : plane.isChroma = true) (width : Nat) (layout : Layout) (size row : Nat)
    (rows : ChromaJob.Rows)
    (whole : (job.chromaJob plane (job.noiseStart plane)).rows width layout size
      (job.rowsAbove part.offset plane + row) = .ok rows) :
    ((job.part part).chromaJob plane ((job.part part).noiseStart plane)).rows width
      (layout.lower (job.rowsAbove part.offset plane)) size row = .ok rows := by
  have reduced : job.rowsAbove part.offset plane = part.offset / 2 ^ job.subsampling.y := by
    cases plane with
    | y => cases chromaPlane
    | u => rfl
    | v => rfl
  have lumaRow : job.subsampling.lumaRow (job.rowsAbove part.offset plane + row) =
      part.offset + job.subsampling.lumaRow row := by
    rw [reduced]
    exact job.lumaRow_add rowsShared part.offset row shared
  have begins : (job.part part).noiseStart plane + row =
      job.noiseStart plane + (job.rowsAbove part.offset plane + row) := by
    rw [job.noiseStart_part rowsShared part shared plane, Nat.add_assoc]
  have lumaWindow : (job.part part).source.y.window (job.subsampling.lumaRow row)
      job.extent.width = job.source.y.window (job.subsampling.lumaRow
        (job.rowsAbove part.offset plane + row)) job.extent.width := by
    rw [lumaRow]
    exact job.source.y.window_lower part.offset _ job.extent.width
  have sourceWindow : ((job.part part).source.get plane).window row width =
      (job.source.get plane).window (job.rowsAbove part.offset plane + row) width := by
    rw [source_part, Raster.window_lower]
  obtain ⟨luma, source, noise, target, rfl⟩ := (ChromaJob.rows_eq_ok_iff _ _ _ _ _ _).mp whole
  refine (ChromaJob.rows_eq_ok_iff _ _ _ _ _ _).mpr
    ⟨Layout.Reaches.lower (lumaRow ▸ luma), ?_, begins ▸ noise, target.lower, ?_⟩
  · simp only [chromaJob, source_part]
    exact source.lower
  · rw [ChromaJob.Rows.mk.injEq]
    exact ⟨lumaWindow.symm, sourceWindow.symm, by simp only [chromaJob, begins]; rfl,
      (layout.first_lower _ row).symm⟩

/-- The chroma stroke of a part is a chroma stroke of the strip. -/
theorem chromaStroke_part (job : StripJob) (rowsShared : job.subsampling.y ≤ 1) (part : Part)
    (shared : job.subsampling.y = 1 → part.offset % 2 = 0) (plane : Plane)
    (chromaPlane : plane.isChroma = true) (mode : KeyMode) (width : Nat) (layout : Layout)
    (size row : Nat) (found : Stroke Int)
    (whole : (job.chromaJob plane (job.noiseStart plane)).stroke mode width layout size
      (job.rowsAbove part.offset plane + row) = .ok found) :
    ((job.part part).chromaJob plane ((job.part part).noiseStart plane)).stroke mode width
      (layout.lower (job.rowsAbove part.offset plane)) size row = .ok found := by
  obtain ⟨rows, located, rfl⟩ := (ChromaJob.stroke_eq_ok_iff _ _ _ _ _ _ _).mp whole
  exact (ChromaJob.stroke_eq_ok_iff _ _ _ _ _ _ _).mpr
    ⟨rows, job.chromaRows_part rowsShared part shared plane chromaPlane width layout size row rows
      located, rfl⟩

/-- The stroke of a copied row of a part is that of the strip. -/
theorem copyStroke_part (source : Raster Int) (width above : Nat) (layout : Layout)
    (size row : Nat) (found : Stroke Int)
    (whole : copyStroke source width layout size (above + row) = .ok found) :
    copyStroke (source.lower above) width (layout.lower above) size row = .ok found := by
  obtain ⟨target, read, rfl⟩ := (copyStroke_eq_ok_iff _ _ _ _ _ _).mp whole
  refine (copyStroke_eq_ok_iff _ _ _ _ _ _).mpr ⟨target.lower, read.lower, ?_⟩
  rw [Layout.first_lower, Raster.window_lower]

/-- The stroke of a part is a stroke of the strip. -/
theorem stroke_part (job : StripJob) (rowsShared : job.subsampling.y ≤ 1) (part : Part)
    (shared : job.subsampling.y = 1 → part.offset % 2 = 0) (plane : Plane) (layout : Layout)
    (size row : Nat) (found : Stroke Int)
    (whole : job.stroke plane layout size (job.rowsAbove part.offset plane + row) = .ok found) :
    (job.part part).stroke plane (layout.lower (job.rowsAbove part.offset plane)) size row =
      .ok found := by
  rw [stroke] at whole ⊢
  have applies : (job.part part).parameters.appliesTo plane = job.parameters.appliesTo plane := rfl
  rw [applies]
  by_cases noisy : job.parameters.appliesTo plane = true
  · rw [if_pos noisy] at whole ⊢
    cases plane with
    | y => exact job.lumaStroke_part part layout size row found whole
    | u => exact job.chromaStroke_part rowsShared part shared .u rfl _ _ layout size row found whole
    | v => exact job.chromaStroke_part rowsShared part shared .v rfl _ _ layout size row found whole
  · rw [if_neg noisy] at whole ⊢
    rw [source_part, visible_part_width]
    exact copyStroke_part _ _ _ layout size row found whole

/-- A stroke that is found has both of its windows reached, and begins at its row. -/
theorem reaches_of_stroke (job : StripJob) (plane : Plane) (layout : Layout) (size row : Nat)
    (found : Stroke Int) (given : job.stroke plane layout size row = .ok found) :
    layout.Reaches size row (job.visible plane).width ∧
      (job.source.get plane).layout.Reaches (job.source.get plane).samples.size row
        (job.visible plane).width ∧
      found.start = layout.first row := by
  rw [stroke] at given
  by_cases noisy : job.parameters.appliesTo plane = true
  · rw [if_pos noisy] at given
    cases plane with
    | y =>
      obtain ⟨rows, located, rfl⟩ := (LumaJob.stroke_eq_ok_iff _ _ _ _ _).mp given
      obtain ⟨source, _, target, rfl⟩ := (LumaJob.rows_eq_ok_iff _ _ _ _ _).mp located
      exact ⟨target, source, rfl⟩
    | u =>
      obtain ⟨rows, located, rfl⟩ := (ChromaJob.stroke_eq_ok_iff _ _ _ _ _ _ _).mp given
      obtain ⟨_, source, _, target, rfl⟩ := (ChromaJob.rows_eq_ok_iff _ _ _ _ _ _).mp located
      exact ⟨target, source, rfl⟩
    | v =>
      obtain ⟨rows, located, rfl⟩ := (ChromaJob.stroke_eq_ok_iff _ _ _ _ _ _ _).mp given
      obtain ⟨_, source, _, target, rfl⟩ := (ChromaJob.rows_eq_ok_iff _ _ _ _ _ _).mp located
      exact ⟨target, source, rfl⟩
  · rw [if_neg noisy] at given
    obtain ⟨target, source, rfl⟩ := (copyStroke_eq_ok_iff _ _ _ _ _ _).mp given
    exact ⟨target, source, rfl⟩

/-- How a row of a plane is painted into a buffer of so many elements. -/
def paintRow (job : StripJob) (plane : Plane) (layout : Layout) (size row : Nat) :
    Array Int → Run (Array Int) :=
  Raster.paintRow (job.visible plane).width (job.stroke plane layout size) row

/-- Painting rows keeps the length of the buffer. -/
theorem size_of_paintRow (job : StripJob) (plane : Plane) (layout : Layout)
    (size count first : Nat) (buffer painted : Array Int)
    (done : Run.sweep (job.paintRow plane layout size) count first buffer = .done painted) :
    painted.size = buffer.size := by
  have kept := Run.sweep_keeps (job.paintRow plane layout size)
    (fun left => left.size = buffer.size) count first buffer rfl ?_
  · rw [done] at kept
    exact kept
  · intro row left _ _ same
    rw [paintRow, Raster.paintRow]
    split
    · exact (store_size _ _ _ left).trans same
    · exact same

/-- A plane is painted exactly when all its rows are. -/
theorem paintPlane_eq_done_iff (job : StripJob) (plane : Plane) (layout : Layout)
    (buffer : Array Int) (painted : Raster Int) :
    job.paintPlane plane ⟨buffer, layout⟩ = .done painted ↔
      Run.sweep (job.paintRow plane layout buffer.size) (job.visible plane).height 0 buffer =
          .done painted.samples ∧
        painted.layout = layout := by
  rw [paintPlane, Raster.paint_eq, Run.map_eq_done_iff]
  constructor
  · rintro ⟨samples, swept, rfl⟩
    exact ⟨swept, rfl⟩
  · rintro ⟨swept, rfl⟩
    exact ⟨painted.samples, swept, rfl⟩

/-- An accepted call returns exactly when the strip begins at a row that luma and chroma
share, the chroma extent exists, and each plane has its noise and all its rows are
painted. -/
theorem leaves_eq_some_iff (job : StripJob) (accepted : job.parameters.validate = .ok ())
    (layouts : PerPlane Layout) (buffers left : PerPlane (Array Int)) :
    job.leaves layouts buffers = some left ↔
      (job.subsampling.y = 0 ∨ job.start % 2 = 0) ∧
        job.subsampling.chromaExtent job.extent = .ok job.chroma ∧
          ∀ plane, job.Supplied plane ∧
            Run.sweep (job.paintRow plane (layouts.get plane) (buffers.get plane).size)
              (job.visible plane).height 0 (buffers.get plane) = .done (left.get plane) := by
  constructor
  · intro returned
    rw [leaves] at returned
    cases applied : job.apply .plain (layouts.rasters buffers) with
    | rejected rejection kept =>
      have refused := ((job.apply_eq_rejected_iff _ _ _ _).mp applied).1
      cases accepted.symm.trans refused
    | ran run =>
      cases run with
      | stopped fault left => simp [applied] at returned
      | done painted =>
        simp only [applied, Option.some.injEq] at returned
        subst returned
        obtain ⟨_, shared, reduced, planes⟩ := (job.apply_eq_done_iff _ _).mp applied
        refine ⟨shared, reduced, ?_⟩
        intro plane
        obtain ⟨supplied, done⟩ := planes plane
        rw [PerPlane.get_rasters, paintPlane_eq_done_iff] at done
        rw [PerPlane.get_map]
        exact ⟨supplied, done.1⟩
  · rintro ⟨shared, reduced, planes⟩
    have applied : job.apply .plain (layouts.rasters buffers) =
        .ran (.done (layouts.rasters left)) := by
      refine (job.apply_eq_done_iff _ _).mpr ⟨accepted, shared, reduced, ?_⟩
      intro plane
      rw [PerPlane.get_rasters, PerPlane.get_rasters, paintPlane_eq_done_iff]
      exact ⟨(planes plane).1, (planes plane).2, rfl⟩
    simp only [leaves, applied]
    rfl

/-- A rejected call leaves the buffers as they were. -/
theorem leaves_of_rejected (job : StripJob) (rejected : job.parameters.validate ≠ .ok ())
    (layouts : PerPlane Layout) (buffers : PerPlane (Array Int)) :
    job.leaves layouts buffers = some buffers := by
  cases validated : job.parameters.validate with
  | ok _ => exact absurd validated rejected
  | error rejection =>
    have refused (target : PerPlane (Raster Int)) :
        job.apply .plain target = .rejected rejection target :=
      (job.apply_eq_rejected_iff .plain target target rejection).mpr ⟨validated, rfl⟩
    simp only [leaves, refused]
    rfl

end StripJob

end GrainSynthesis
