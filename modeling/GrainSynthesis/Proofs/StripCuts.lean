import GrainSynthesis.Proofs.StripIdeal
import GrainSynthesis.Proofs.StripParts

/-!
# What the parts of a strip leave together

Parts from top to bottom paint the rows that the whole strip paints, in the same
order, and so they leave what the whole strip leaves.

In any other order the last part to reach an element may be another one, and so
the rows of the destinations must not overlap. Then, while parts are still to be
painted, their windows hold all elements that differ from what the whole strip
leaves.
-/

namespace GrainSynthesis

/-- A layout is seen as it is from its first row on. -/
theorem Layout.lower_zero (layout : Layout) : layout.lower 0 = layout := by
  simp [lower, first]

/-- A raster is seen as it is from its first row on. -/
theorem Raster.lower_zero {α : Type} (raster : Raster α) : raster.lower 0 = raster := by
  rw [lower, Layout.lower_zero]

namespace StripJob

variable {job : StripJob} {layouts : PerPlane Layout} {sizes : Plane → Nat}
  {value : Plane → Nat → Nat → Int}

/-- A strip that completes on buffers of given sizes, and the samples of its planes by row
and column. -/
structure Paintable (job : StripJob) (layouts : PerPlane Layout) (sizes : Plane → Nat)
    (value : Plane → Nat → Nat → Int) : Prop where
  accepted : job.parameters.validate = .ok ()
  even : job.subsampling.y = 0 ∨ job.start % 2 = 0
  reduced : job.subsampling.chromaExtent job.extent = .ok job.chroma
  supplied : ∀ plane, job.Supplied plane
  gives : ∀ plane, ∀ row < (job.visible plane).height,
    Raster.Gives (layouts.get plane) (job.visible plane).width row (value plane row)
      (job.stroke plane (layouts.get plane) (sizes plane) row)

/-- Painting all rows of all planes into buffers of given sizes leaves given buffers. -/
structure Paints (job : StripJob) (layouts : PerPlane Layout) (sizes : Plane → Nat)
    (buffers left : PerPlane (Array Int)) : Prop where
  size : ∀ plane, (buffers.get plane).size = sizes plane
  done : ∀ plane, Run.sweep (job.paintRow plane (layouts.get plane) (sizes plane))
    (job.visible plane).height 0 (buffers.get plane) = .done (left.get plane)

/-- Strokes that are found with all their samples give some samples. -/
theorem exists_gives (job : StripJob) (layouts : PerPlane Layout) (plane : Plane)
    (buffer painted : Array Int)
    (done : Run.sweep (job.paintRow plane (layouts.get plane) buffer.size)
      (job.visible plane).height 0 buffer = .done painted) (row : Nat) :
    ∃ samples : Nat → Int, row < (job.visible plane).height →
      Raster.Gives (layouts.get plane) (job.visible plane).width row samples
        (job.stroke plane (layouts.get plane) buffer.size row) := by
  by_cases inside : row < (job.visible plane).height
  · have whole := (job.paintPlane_eq_done_iff plane (layouts.get plane) buffer
      ⟨painted, layouts.get plane⟩).mpr ⟨done, rfl⟩
    obtain ⟨⟨start, sample⟩, given, computed⟩ :=
      Raster.strokes_of_paint_done _ _ _ _ _ whole row inside
    obtain ⟨_, _, begins⟩ := job.reaches_of_stroke plane _ _ row _ given
    have each (column : Nat) : ∃ result, column < (job.visible plane).width →
        sample column = .ok result := by
      by_cases below : column < (job.visible plane).width
      · obtain ⟨result, found⟩ := computed column below
        exact ⟨result, fun _ => found⟩
      · exact ⟨0, fun above => absurd above below⟩
    choose samples found using each
    exact ⟨samples, fun _ => ⟨sample, begins ▸ given, found⟩⟩
  · exact ⟨fun _ => 0, fun above => absurd above inside⟩

/-- An accepted call that returns is paintable. -/
theorem paintable_of_leaves (job : StripJob) (layouts : PerPlane Layout)
    (buffers left : PerPlane (Array Int)) (accepted : job.parameters.validate = .ok ())
    (completed : job.leaves layouts buffers = some left) :
    ∃ value, job.Paintable layouts (fun plane => (buffers.get plane).size) value := by
  obtain ⟨even, reduced, planes⟩ := (job.leaves_eq_some_iff accepted _ _ _).mp completed
  have each (plane : Plane) := job.exists_gives layouts plane _ _ (planes plane).2
  choose value gives using each
  exact ⟨value, accepted, even, reduced, fun plane => (planes plane).1, gives⟩

/-- The rows of a part that fits lie among those of the strip. -/
theorem Fits.rows_le {part : Part} (fits : job.Fits part) (rowsShared : job.subsampling.y ≤ 1)
    (plane : Plane) :
    job.rowsAbove part.offset plane + job.visibleRows part.height plane ≤
      (job.visible plane).height := by
  rw [← job.visibleRows_add rowsShared part.offset part.height fits.shared plane,
    ← job.visibleRows_height plane]
  have inside := fits.inside
  have padded : part.offset + part.height + job.subsampling.y ≤
      job.extent.height + job.subsampling.y := by omega
  cases plane with
  | y => exact inside
  | u => exact Nat.div_le_div_right padded
  | v => exact Nat.div_le_div_right padded

namespace Paintable

/-- Consecutive rows of a plane are painted into any buffer, and each element then holds
the sample of its owner among them. -/
theorem sweep_contents (paintable : job.Paintable layouts sizes value) (plane : Plane)
    (above count : Nat) (inside : above + count ≤ (job.visible plane).height)
    (buffer : Array Int) :
    ∃ painted, Run.sweep (job.paintRow plane (layouts.get plane) (sizes plane)) count above buffer =
        .done painted ∧
      painted.size = buffer.size ∧
      ∀ index < buffer.size, painted[index]? =
        match ((layouts.get plane).lower above).owner? (job.visible plane).width count index with
        | some (row, column) => some (value plane (above + row) column)
        | none => buffer[index]? := by
  have gives : ∀ row < count, Raster.Gives ((layouts.get plane).lower above)
      (job.visible plane).width row (value plane (above + row))
      (job.stroke plane (layouts.get plane) (sizes plane) (above + row)) := by
    intro row below
    obtain ⟨sample, given, computed⟩ := paintable.gives plane (above + row) (by omega)
    refine ⟨sample, ?_, computed⟩
    rw [Layout.first_lower]
    exact given
  obtain ⟨painted, done, _, size, contents⟩ := Raster.paint_of_gives
    ⟨buffer, (layouts.get plane).lower above⟩ (job.visible plane).width count _ _ gives
  rw [Raster.paint_eq, Run.map_eq_done_iff] at done
  obtain ⟨samples, swept, rfl⟩ := done
  refine ⟨samples, ?_, size, contents⟩
  rw [← swept]
  exact Run.sweep_shift _ above count 0 buffer

/-- The rows of a part are painted as rows of the strip. -/
theorem sweep_part (paintable : job.Paintable layouts sizes value)
    (rowsShared : job.subsampling.y ≤ 1) (part : Part) (fits : job.Fits part) (plane : Plane)
    (buffer : Array Int) :
    Run.sweep ((job.part part).paintRow plane ((job.layoutsFrom layouts part.offset).get plane)
        (sizes plane)) (job.visibleRows part.height plane) 0 buffer =
      Run.sweep (job.paintRow plane (layouts.get plane) (sizes plane))
        (job.visibleRows part.height plane) (job.rowsAbove part.offset plane) buffer := by
  have inside := fits.rows_le rowsShared plane
  refine Eq.trans ?_ (Run.sweep_shift _ (job.rowsAbove part.offset plane) _ 0 buffer).symm
  apply Run.sweep_congr
  intro row left _ upper
  obtain ⟨sample, given, _⟩ :=
    paintable.gives plane (job.rowsAbove part.offset plane + row) (by omega)
  have same := job.stroke_part rowsShared part fits.shared plane _ _ row _ given
  rw [paintRow, paintRow, Raster.paintRow, Raster.paintRow, get_layoutsFrom, same, given,
    visible_part_width]

/-- A part that fits leaves its rows painted. -/
theorem leavesPart_eq_some (paintable : job.Paintable layouts sizes value)
    (rowsShared : job.subsampling.y ≤ 1) (part : Part) (fits : job.Fits part)
    (current next : PerPlane (Array Int))
    (size : ∀ plane, (current.get plane).size = sizes plane)
    (painted : ∀ plane, Run.sweep (job.paintRow plane (layouts.get plane) (sizes plane))
      (job.visibleRows part.height plane) (job.rowsAbove part.offset plane) (current.get plane) =
        .done (next.get plane)) :
    job.leavesPart layouts current part = some next := by
  have inside := fits.inside
  refine ((job.part part).leaves_eq_some_iff paintable.accepted _ _ _).mpr ⟨?_, ?_, ?_⟩
  · rcases Nat.le_one_iff_eq_zero_or_eq_one.mp rowsShared with single | double
    · exact Or.inl single
    · have shared := fits.shared double
      have even : job.start % 2 = 0 := paintable.even.resolve_left (by omega)
      have both : (job.start + part.offset) % 2 = 0 := by omega
      exact Or.inr both
  · obtain ⟨width, ⟨counted, short⟩, _⟩ :=
      (Subsampling.chromaExtent_eq_ok_iff _ _ _).mp paintable.reduced
    have fewer : part.height + job.subsampling.y < Word.sizeLimit := by omega
    exact (Subsampling.chromaExtent_eq_ok_iff _ _ _).mpr ⟨width, ⟨fewer, short⟩, rfl⟩
  · intro plane
    constructor
    · intro noisy
      obtain ⟨counted, rows, columns⟩ := paintable.supplied plane noisy
      have fewer := fits.rows_le rowsShared plane
      rw [job.noiseStart_part rowsShared part fits.shared plane, visible_part_height,
        visible_part_width]
      have tall : job.noiseStart plane + job.rowsAbove part.offset plane +
          job.visibleRows part.height plane ≤ (job.noise.get plane).rows := by omega
      exact ⟨by omega, tall, columns⟩
    · rw [visible_part_height, size plane, paintable.sweep_part rowsShared part fits plane]
      exact painted plane

end Paintable

/-- The rows that remain from a part on are those of the part and then those below it. -/
theorem remaining_of_fits (rowsShared : job.subsampling.y ≤ 1) (offset height : Nat)
    (fits : job.Fits ⟨offset, height⟩) (plane : Plane) (step : Nat → Array Int → Run (Array Int))
    (buffer left : Array Int)
    (remaining : Run.sweep step ((job.visible plane).height - job.visibleRows offset plane)
      (job.visibleRows offset plane) buffer = .done left) :
    ∃ next, Run.sweep step (job.visibleRows height plane) (job.rowsAbove offset plane) buffer =
        .done next ∧
      Run.sweep step ((job.visible plane).height - job.visibleRows (offset + height) plane)
        (job.visibleRows (offset + height) plane) next = .done left := by
  have begins := job.visibleRows_eq_rowsAbove rowsShared offset fits.shared plane
  have ends := job.visibleRows_add rowsShared offset height fits.shared plane
  have fewer : job.rowsAbove offset plane + job.visibleRows height plane ≤
      (job.visible plane).height := fits.rows_le rowsShared plane
  have both : (job.visible plane).height - job.visibleRows offset plane =
      job.visibleRows height plane +
        ((job.visible plane).height - job.visibleRows (offset + height) plane) := by
    rw [ends, begins]
    omega
  rw [both, Run.sweep_add, Run.andThen_eq_done_iff, begins, ← ends] at remaining
  exact remaining

/-- Parts from top to bottom leave what painting all the rows from the first part on
leaves. -/
theorem Paintable.leaves_stack (paintable : job.Paintable layouts sizes value)
    (rowsShared : job.subsampling.y ≤ 1) (left : PerPlane (Array Int)) (heights : List Nat)
    (offset : Nat) (current : PerPlane (Array Int))
    (total : offset + heights.sum = job.extent.height)
    (fit : ∀ part ∈ stack offset heights, job.Fits part)
    (size : ∀ plane, (current.get plane).size = sizes plane)
    (remaining : ∀ plane, Run.sweep (job.paintRow plane (layouts.get plane) (sizes plane))
      ((job.visible plane).height - job.visibleRows offset plane) (job.visibleRows offset plane)
      (current.get plane) = .done (left.get plane)) :
    (stack offset heights).foldlM (job.leavesPart layouts) current = some left := by
  induction heights generalizing offset current with
  | nil =>
    have ends : offset = job.extent.height := total
    have same : current = left := by
      apply PerPlane.ext_get
      intro plane
      have nothing := remaining plane
      rw [ends, job.visibleRows_height, Nat.sub_self] at nothing
      exact Run.done.inj nothing
    exact congrArg some same
  | cons height heights inductionHypothesis =>
    have fits : job.Fits ⟨offset, height⟩ := fit _ List.mem_cons_self
    obtain ⟨next, painted⟩ := PerPlane.exists_of_forall _ fun plane =>
      remaining_of_fits rowsShared offset height fits plane _ _ _ (remaining plane)
    have stepped := paintable.leavesPart_eq_some rowsShared ⟨offset, height⟩ fits current next size
      fun plane => (painted plane).1
    have nextSize (plane : Plane) : (next.get plane).size = sizes plane :=
      (job.size_of_paintRow plane _ _ _ _ _ _ (painted plane).1).trans (size plane)
    have below := inductionHypothesis (offset + height) next
      ((Nat.add_assoc _ _ _).trans total)
      (fun part member => fit part (List.mem_cons_of_mem _ member)) nextSize
      fun plane => (painted plane).2
    rw [stack, List.foldlM_cons, stepped]
    exact below

/-- The row and the column of an element in the last row of a part that reaches it. -/
def ownerIn (job : StripJob) (layouts : PerPlane Layout) (part : Part) (plane : Plane)
    (index : Nat) : Option (Nat × Nat) :=
  ((layouts.get plane).lower (job.rowsAbove part.offset plane)).owner? (job.visible plane).width
    (job.visibleRows part.height plane) index

/-- Buffers in which only elements of some parts can differ from what the strip leaves. -/
structure Awaits (job : StripJob) (layouts : PerPlane Layout) (left : PerPlane (Array Int))
    (parts : List Part) (current : PerPlane (Array Int)) : Prop where
  size : ∀ plane, (current.get plane).size = (left.get plane).size
  settled : ∀ plane, ∀ index < (left.get plane).size,
    (∀ part ∈ parts, job.ownerIn layouts part plane index = none) →
      (current.get plane)[index]? = (left.get plane)[index]?

/-- When no part is awaited, the buffers are what the strip leaves. -/
theorem Awaits.eq_left {left current : PerPlane (Array Int)}
    (awaits : job.Awaits layouts left [] current) : current = left := by
  apply PerPlane.ext_get
  intro plane
  apply Array.ext (awaits.size plane)
  intro index _ inside
  have found := awaits.settled plane index inside fun part member => absurd member List.not_mem_nil
  rw [← Option.some_inj, ← Array.getElem?_eq_getElem, ← Array.getElem?_eq_getElem]
  exact found

namespace Paintable

/-- What a painted strip leaves in a plane, element by element. -/
theorem left_contents (paintable : job.Paintable layouts sizes value)
    (buffers left : PerPlane (Array Int)) (paints : job.Paints layouts sizes buffers left)
    (plane : Plane) :
    (left.get plane).size = (buffers.get plane).size ∧
      ∀ index < (buffers.get plane).size, (left.get plane)[index]? =
        match (layouts.get plane).owner? (job.visible plane).width (job.visible plane).height
          index with
        | some (row, column) => some (value plane row column)
        | none => (buffers.get plane)[index]? := by
  obtain ⟨painted, swept, size, contents⟩ := paintable.sweep_contents plane 0
    (job.visible plane).height (by omega) (buffers.get plane)
  obtain rfl : painted = left.get plane := Run.done.inj (swept.symm.trans (paints.done plane))
  simp only [Layout.lower_zero, Nat.zero_add] at contents
  exact ⟨size, contents⟩

/-- When rows do not overlap, an element that a part reaches holds the sample of the row and
the column at which the part reaches it. -/
theorem left_of_ownerIn (paintable : job.Paintable layouts sizes value)
    (rowsShared : job.subsampling.y ≤ 1)
    (apart : ∀ plane, (job.visible plane).width ≤ (layouts.get plane).stride)
    (buffers left : PerPlane (Array Int)) (paints : job.Paints layouts sizes buffers left)
    (part : Part) (fits : job.Fits part) (plane : Plane) (index row column : Nat)
    (inside : index < (left.get plane).size)
    (owner : job.ownerIn layouts part plane index = some (row, column)) :
    (left.get plane)[index]? =
      some (value plane (job.rowsAbove part.offset plane + row) column) := by
  obtain ⟨rowInside, columnInside, located⟩ := Layout.owner?_eq_some _ _ _ _ _ _ owner
  have fewer := fits.rows_le rowsShared plane
  have place : (layouts.get plane).first (job.rowsAbove part.offset plane + row) + column =
      index := by
    rw [← Layout.first_lower]
    exact located.symm
  obtain ⟨leftSize, contents⟩ := paintable.left_contents buffers left paints plane
  have whole := (layouts.get plane).owner?_of_apart (job.visible plane).width
    (job.visible plane).height (job.rowsAbove part.offset plane + row) column (apart plane)
    (by omega) columnInside
  rw [contents index (leftSize ▸ inside), ← place, whole]

/-- When rows do not overlap, a part that is awaited can be painted, and then only the
other parts are awaited. -/
theorem awaits_step (paintable : job.Paintable layouts sizes value)
    (rowsShared : job.subsampling.y ≤ 1)
    (apart : ∀ plane, (job.visible plane).width ≤ (layouts.get plane).stride)
    (buffers left : PerPlane (Array Int)) (paints : job.Paints layouts sizes buffers left)
    (part : Part) (fits : job.Fits part) (parts : List Part) (current : PerPlane (Array Int))
    (awaits : job.Awaits layouts left (part :: parts) current) :
    ∃ next, job.leavesPart layouts current part = some next ∧
      job.Awaits layouts left parts next := by
  have painted (plane : Plane) := paintable.sweep_contents plane _ _
    (fits.rows_le rowsShared plane) (current.get plane)
  obtain ⟨next, painted⟩ := PerPlane.exists_of_forall _ painted
  have leftSize (plane : Plane) : (left.get plane).size = (buffers.get plane).size :=
    (paintable.left_contents buffers left paints plane).1
  have currentSize (plane : Plane) : (current.get plane).size = sizes plane :=
    (awaits.size plane).trans ((leftSize plane).trans (paints.size plane))
  refine ⟨next, paintable.leavesPart_eq_some rowsShared part fits current next currentSize
    (fun plane => (painted plane).1), ?_, ?_⟩
  · intro plane
    exact (painted plane).2.1.trans (awaits.size plane)
  · intro plane index inside unowned
    have stored : index < (current.get plane).size := awaits.size plane ▸ inside
    rw [(painted plane).2.2 index stored]
    cases owner : job.ownerIn layouts part plane index with
    | none =>
      -- The part does not reach the element, so that it was settled before.
      rw [ownerIn] at owner
      rw [owner]
      apply awaits.settled plane index inside
      intro other member
      rcases List.mem_cons.mp member with rfl | later
      · exact owner
      · exact unowned other later
    | some place =>
      obtain ⟨row, column⟩ := place
      rw [paintable.left_of_ownerIn rowsShared apart buffers left paints part fits plane index row
        column inside owner]
      rw [ownerIn] at owner
      rw [owner]

/-- When rows do not overlap, awaited parts can be painted in any order. -/
theorem leaves_awaited (paintable : job.Paintable layouts sizes value)
    (rowsShared : job.subsampling.y ≤ 1)
    (apart : ∀ plane, (job.visible plane).width ≤ (layouts.get plane).stride)
    (buffers left : PerPlane (Array Int)) (paints : job.Paints layouts sizes buffers left)
    (parts : List Part) (fit : ∀ part ∈ parts, job.Fits part) (current : PerPlane (Array Int))
    (awaits : job.Awaits layouts left parts current) :
    parts.foldlM (job.leavesPart layouts) current = some left := by
  induction parts generalizing current with
  | nil => exact congrArg some awaits.eq_left
  | cons part parts inductionHypothesis =>
    obtain ⟨next, stepped, later⟩ := paintable.awaits_step rowsShared apart buffers left
      paints part (fit part List.mem_cons_self) parts current awaits
    rw [List.foldlM_cons, stepped]
    exact inductionHypothesis (fun other member => fit other (List.mem_cons_of_mem _ member)) next
      later

/-- Where parts reach all rows, nothing but their elements is to be painted. -/
theorem awaits_first (paintable : job.Paintable layouts sizes value)
    (buffers left : PerPlane (Array Int)) (paints : job.Paints layouts sizes buffers left)
    (parts : List Part)
    (reached : ∀ plane, ∀ row < (job.visible plane).height, ∃ part ∈ parts,
      job.rowsAbove part.offset plane ≤ row ∧
        row < job.rowsAbove part.offset plane + job.visibleRows part.height plane) :
    job.Awaits layouts left parts buffers := by
  constructor
  · intro plane
    exact (paintable.left_contents buffers left paints plane).1.symm
  · intro plane index inside unowned
    obtain ⟨leftSize, contents⟩ := paintable.left_contents buffers left paints plane
    rw [contents index (leftSize ▸ inside)]
    cases owner : (layouts.get plane).owner? (job.visible plane).width (job.visible plane).height
      index with
    | none => rfl
    | some place =>
      obtain ⟨row, column⟩ := place
      obtain ⟨rowInside, columnInside, located⟩ := Layout.owner?_eq_some _ _ _ _ _ _ owner
      obtain ⟨part, member, above, below⟩ := reached plane row rowInside
      obtain ⟨lower, rfl⟩ := Nat.exists_eq_add_of_le above
      have missed := (Layout.owner?_eq_none_iff _ _ _ _).mp (unowned part member) lower (by omega)
      have begins := (layouts.get plane).first_lower (job.rowsAbove part.offset plane) lower
      simp only [Layout.first] at begins
      rw [begins] at missed
      omega

end Paintable

/-- Heights of the parts of a strip from top to bottom. Where two luma rows share a chroma
row, only the last height can be odd. -/
structure Cuts (job : StripJob) (heights : List Nat) : Prop where
  total : heights.sum = job.extent.height
  positive : ∀ height ∈ heights, 0 < height
  even : job.subsampling.y = 1 → ∀ height ∈ heights.dropLast, height % 2 = 0

/-- The planes of a strip can be seen from a luma row on. -/
def Viewable (job : StripJob) (layouts : PerPlane Layout) (buffers : PerPlane (Array Int))
    (offset : Nat) : Prop :=
  ∀ plane,
    (job.source.get plane).dropElements
        (job.rowsAbove offset plane * (job.source.get plane).layout.stride) =
          .ok ((job.sourceFrom offset).get plane) ∧
      ((layouts.rasters buffers).get plane).dropElements
        (job.rowsAbove offset plane * (layouts.get plane).stride) =
          .ok (((job.layoutsFrom layouts offset).rasters buffers).get plane)

/-- Stacked parts of positive heights fit, when only the last height can be odd. -/
theorem fits_of_stack (job : StripJob) (heights : List Nat) (offset : Nat)
    (total : offset + heights.sum = job.extent.height) (positive : ∀ height ∈ heights, 0 < height)
    (shared : job.subsampling.y = 1 → offset % 2 = 0)
    (even : job.subsampling.y = 1 → ∀ height ∈ heights.dropLast, height % 2 = 0) :
    ∀ part ∈ stack offset heights, job.Fits part := by
  induction heights generalizing offset with
  | nil =>
    intro part member
    exact absurd member List.not_mem_nil
  | cons height heights inductionHypothesis =>
    rw [List.sum_cons] at total
    have tall : 0 < height := positive height List.mem_cons_self
    intro part member
    rcases List.mem_cons.mp member with rfl | below
    · exact ⟨show offset < job.extent.height by omega,
        show offset + height ≤ job.extent.height by omega, shared⟩
    · cases heights with
      | nil => exact absurd below List.not_mem_nil
      | cons next heights =>
        have goesOn : job.subsampling.y = 1 → (offset + height) % 2 = 0 := by
          intro double
          have evenOffset := shared double
          have evenHeight := even double height List.mem_cons_self
          omega
        exact inductionHypothesis (offset + height) ((Nat.add_assoc _ _ _).trans total)
          (fun other member => positive other (List.mem_cons_of_mem _ member)) goesOn
          (fun double other member => even double other (List.mem_cons_of_mem _ member)) part below

/-- Stacked parts that fit reach each row of a plane below their beginning. -/
theorem reached_by_stack (job : StripJob) (rowsShared : job.subsampling.y ≤ 1) (plane : Plane)
    (row : Nat) (heights : List Nat) (offset : Nat)
    (fit : ∀ part ∈ stack offset heights, job.Fits part)
    (above : job.visibleRows offset plane ≤ row)
    (below : row < job.visibleRows (offset + heights.sum) plane) :
    ∃ part ∈ stack offset heights, job.rowsAbove part.offset plane ≤ row ∧
      row < job.rowsAbove part.offset plane + job.visibleRows part.height plane := by
  induction heights generalizing offset with
  | nil => exact absurd below (Nat.not_lt.mpr above)
  | cons height heights inductionHypothesis =>
    have fits : job.Fits ⟨offset, height⟩ := fit _ List.mem_cons_self
    have begins := job.visibleRows_eq_rowsAbove rowsShared offset fits.shared plane
    have ends := job.visibleRows_add rowsShared offset height fits.shared plane
    by_cases here : row < job.visibleRows (offset + height) plane
    · exact ⟨⟨offset, height⟩, List.mem_cons_self, begins ▸ above, ends ▸ here⟩
    · rw [List.sum_cons, ← Nat.add_assoc] at below
      obtain ⟨part, member, reached⟩ := inductionHypothesis (offset + height)
        (fun other member => fit other (List.mem_cons_of_mem _ member)) (Nat.le_of_not_lt here)
        below
      exact ⟨part, List.mem_cons_of_mem _ member, reached⟩

/-- Where a part can begin, the planes of a paintable strip can be seen. -/
theorem Paintable.viewable (paintable : job.Paintable layouts sizes value)
    (rowsShared : job.subsampling.y ≤ 1) (buffers : PerPlane (Array Int))
    (size : ∀ plane, (buffers.get plane).size = sizes plane) (offset : Nat)
    (inside : offset < job.extent.height)
    (shared : job.subsampling.y = 1 → offset % 2 = 0) : job.Viewable layouts buffers offset := by
  intro plane
  have fits : job.Fits ⟨offset, 1⟩ := ⟨inside, inside, shared⟩
  have one : 0 < job.visibleRows 1 plane := by
    rcases Nat.le_one_iff_eq_zero_or_eq_one.mp rowsShared with single | double <;>
      cases plane <;> simp [visibleRows, *]
  have fewer : job.rowsAbove offset plane + job.visibleRows 1 plane ≤ (job.visible plane).height :=
    fits.rows_le rowsShared plane
  obtain ⟨sample, given, _⟩ := paintable.gives plane (job.rowsAbove offset plane) (by omega)
  obtain ⟨target, source, _⟩ := job.reaches_of_stroke plane _ _ _ _ given
  rw [← size plane] at target
  constructor
  · rw [Raster.dropElements_of_reaches _ _ _ source]
    exact congrArg _ (job.source_part ⟨offset, 1⟩ plane).symm
  · rw [PerPlane.get_rasters, PerPlane.get_rasters, get_layoutsFrom]
    exact Raster.dropElements_of_reaches ⟨buffers.get plane, layouts.get plane⟩ _ _ target

/-- The uppermost part of a strip is the strip with fewer rows. -/
theorem part_zero (job : StripJob) (height : Nat) :
    job.part ⟨0, height⟩ = { job with extent := ⟨job.extent.width, height⟩ } := by
  have source : job.sourceFrom 0 = job.source := by
    simp only [sourceFrom, rowsAbove, Nat.zero_div, Raster.lower_zero]
  rw [part, source]
  rfl

/-- The layouts of the uppermost part are those of the strip. -/
theorem layoutsFrom_zero (job : StripJob) (layouts : PerPlane Layout) :
    job.layoutsFrom layouts 0 = layouts := by
  simp only [layoutsFrom, rowsAbove, Nat.zero_div, Layout.lower_zero]

/-- Parts of a rejected strip are rejected. -/
theorem leaves_of_rejected_parts (job : StripJob) (rejected : job.parameters.validate ≠ .ok ())
    (layouts : PerPlane Layout) (buffers : PerPlane (Array Int)) (parts : List Part) :
    parts.foldlM (job.leavesPart layouts) buffers = some buffers := by
  induction parts with
  | nil => rfl
  | cons part parts inductionHypothesis =>
    have stays : job.leavesPart layouts buffers part = some buffers :=
      (job.part part).leaves_of_rejected rejected _ buffers
    rw [List.foldlM_cons, stays]
    exact inductionHypothesis

/-- The parts of a paintable strip leave together what the strip leaves. -/
theorem Paintable.leaves_cuts (paintable : job.Paintable layouts sizes value)
    (rowsShared : job.subsampling.y ≤ 1) (buffers left : PerPlane (Array Int))
    (paints : job.Paints layouts sizes buffers left)
    (heights : List Nat) (total : heights.sum = job.extent.height)
    (fit : ∀ part ∈ stack 0 heights, job.Fits part) :
    (stack 0 heights).foldlM (job.leavesPart layouts) buffers = some left ∧
      ((∀ plane, (job.visible plane).width ≤ (layouts.get plane).stride) →
        ∀ order : List Part, order.Perm (stack 0 heights) →
          order.foldlM (job.leavesPart layouts) buffers = some left) := by
  have none (plane : Plane) : job.visibleRows 0 plane = 0 := by
    rw [job.visibleRows_eq_rowsAbove rowsShared 0 (fun _ => rfl)]
    cases plane <;> simp [rowsAbove]
  constructor
  · refine paintable.leaves_stack rowsShared left heights 0 buffers ?_ fit paints.size ?_
    · rw [Nat.zero_add]
      exact total
    · intro plane
      rw [none plane]
      exact paints.done plane
  · intro apart order permuted
    refine paintable.leaves_awaited rowsShared apart buffers left paints order ?_ buffers ?_
    · intro part member
      exact fit part (permuted.mem_iff.mp member)
    · apply paintable.awaits_first buffers left paints order
      intro plane row inside
      obtain ⟨part, member, reached⟩ := job.reached_by_stack rowsShared plane row heights 0 fit
        (by rw [none plane]; exact Nat.zero_le row)
        (by rw [Nat.zero_add, total, job.visibleRows_height]; exact inside)
      exact ⟨part, permuted.mem_iff.mpr member, reached⟩

/-- An upper and a lower part are two stacked parts, and the upper one begins at row zero. -/
theorem foldlM_pair (job : StripJob) (layouts : PerPlane Layout) (buffers : PerPlane (Array Int))
    (upper lower : Nat) :
    (stack 0 [upper, lower]).foldlM (job.leavesPart layouts) buffers =
      (({ job with extent := ⟨job.extent.width, upper⟩ } : StripJob).leaves layouts buffers).bind
        (fun between => job.leavesPart layouts between ⟨upper, lower⟩) := by
  have first : job.leavesPart layouts buffers ⟨0, upper⟩ =
      ({ job with extent := ⟨job.extent.width, upper⟩ } : StripJob).leaves layouts buffers := by
    rw [leavesPart, job.part_zero, job.layoutsFrom_zero]
  simp only [stack, List.foldlM_cons, List.foldlM_nil, Nat.zero_add, bind_pure]
  rw [first]
  rfl

/-- An upper and a lower part fit, when only the lower one can have an odd height. -/
theorem fits_of_pair (job : StripJob) (upper lower : Nat)
    (total : upper + lower = job.extent.height) (below : 0 < lower)
    (shared : job.subsampling.y = 1 → upper % 2 = 0) :
    ∀ part ∈ stack 0 [upper, lower], job.Fits part := by
  intro part member
  simp only [stack, Nat.zero_add, List.mem_cons, List.not_mem_nil, or_false] at member
  rcases member with rfl | rfl
  · exact ⟨show 0 < job.extent.height by omega, show 0 + upper ≤ job.extent.height by omega,
      fun _ => rfl⟩
  · exact ⟨show upper < job.extent.height by omega, total.le, shared⟩

/-- What a call that returns leaves is also left by parts of its strip: by an upper and a
lower part, by parts from top to bottom, and, when destination rows do not overlap, by
parts in any order. When the call is accepted, the planes can be seen from each row with
which a part can begin. -/
theorem leaves_cut (job : StripJob) (layouts : PerPlane Layout)
    (buffers left : PerPlane (Array Int)) (rowsShared : job.subsampling.y ≤ 1)
    (completed : job.leaves layouts buffers = some left) :
    (∀ upper lower, upper + lower = job.extent.height → 0 < lower →
      (job.subsampling.y = 1 → upper % 2 = 0) →
        (({ job with extent := ⟨job.extent.width, upper⟩ } : StripJob).leaves layouts buffers).bind
          (fun between => job.leavesPart layouts between ⟨upper, lower⟩) = some left) ∧
      (∀ heights, job.Cuts heights →
        (stack 0 heights).foldlM (job.leavesPart layouts) buffers = some left ∧
          ((∀ plane, (job.visible plane).width ≤ (layouts.get plane).stride) →
            ∀ order : List Part, order.Perm (stack 0 heights) →
              order.foldlM (job.leavesPart layouts) buffers = some left)) ∧
      (job.parameters.validate = .ok () → ∀ offset < job.extent.height,
        (job.subsampling.y = 1 → offset % 2 = 0) → job.Viewable layouts buffers offset) := by
  by_cases accepted : job.parameters.validate = .ok ()
  · obtain ⟨value, paintable⟩ := job.paintable_of_leaves layouts buffers left accepted completed
    have planes := ((job.leaves_eq_some_iff accepted _ _ _).mp completed).2.2
    have cuts := paintable.leaves_cuts rowsShared buffers left
      ⟨fun _ => rfl, fun plane => (planes plane).2⟩
    refine ⟨?_, ?_, ?_⟩
    · intro upper lower total below shared
      rw [← foldlM_pair]
      exact (cuts [upper, lower] (by simpa using total)
        (job.fits_of_pair upper lower total below shared)).1
    · intro heights cut
      apply cuts heights cut.total
      exact job.fits_of_stack heights 0 ((Nat.zero_add _).trans cut.total) cut.positive
        (fun _ => rfl) cut.even
    · intro _ offset inside shared
      exact paintable.viewable rowsShared buffers (fun _ => rfl) offset inside shared
  · have stays : left = buffers :=
      Option.some.inj (completed.symm.trans (job.leaves_of_rejected accepted layouts buffers))
    have every (parts : List Part) := job.leaves_of_rejected_parts accepted layouts buffers parts
    subst stays
    refine ⟨?_, ?_, ?_⟩
    · intro upper lower _ _ _
      rw [← foldlM_pair]
      exact every _
    · intro heights _
      exact ⟨every _, fun _ order _ => every order⟩
    · intro validated
      exact absurd validated accepted

/-- The odd strip is left by its last row, applied first, and the two rows above it. -/
theorem oddStrip_cut :
    oddStrip.subsampling.y ≤ 1 ∧
      oddStrip.leaves (oddTarget.map Raster.layout) (oddTarget.map Raster.samples) =
        some ⟨#[64, 767, 940, 0, 64, 940, 495, 0, 940, 64, 499], #[9, 960, 64, 9, 512, 76, 9],
          #[1, 2, 3, 4]⟩ ∧
      [Part.mk 2 1, Part.mk 0 2].foldlM (oddStrip.leavesPart (oddTarget.map Raster.layout))
          (oddTarget.map Raster.samples) =
        some ⟨#[64, 767, 940, 0, 64, 940, 495, 0, 940, 64, 499], #[9, 960, 64, 9, 512, 76, 9],
          #[1, 2, 3, 4]⟩ := by
  have shared : oddStrip.subsampling.y ≤ 1 := by decide
  have completed : oddStrip.leaves (oddTarget.map Raster.layout) (oddTarget.map Raster.samples) =
      some ⟨#[64, 767, 940, 0, 64, 940, 495, 0, 940, 64, 499], #[9, 960, 64, 9, 512, 76, 9],
        #[1, 2, 3, 4]⟩ := by decide +kernel
  obtain ⟨_, cut, _⟩ := oddStrip.leaves_cut _ _ _ shared completed
  have apart (plane : Plane) : (oddStrip.visible plane).width ≤
      ((oddTarget.map Raster.layout).get plane).stride := by
    cases plane <;> decide
  have cuts : oddStrip.Cuts [2, 1] := ⟨by decide, by decide, by decide⟩
  exact ⟨shared, completed, (cut [2, 1] cuts).2 apart _ (List.Perm.swap _ _ _)⟩

end StripJob

end GrainSynthesis
