import GrainSynthesis.Proofs.Keys
import GrainSynthesis.Proofs.Painting
import GrainSynthesis.Strip

/-!
# A strip, plane by plane

The three planes of a strip are painted one after the other, and no plane reads
what was painted on another. So a strip completes exactly when its parameters are
accepted, it begins at a row that luma and chroma share, and each plane completes
by itself: the noise for the plane suffices, and the plane is painted with its
own strokes.

A plane's strokes are those of its blend, or those of a copy. They depend on the
destination only through its layout and its length.
-/

namespace GrainSynthesis

/-- The chroma extent exists exactly when both padded extents can be counted and both
shifts are shorter than a word. -/
theorem Subsampling.chromaExtent_eq_ok_iff (subsampling : Subsampling) (luma chroma : Extent) :
    subsampling.chromaExtent luma = .ok chroma ↔
      (luma.width + subsampling.x < Word.sizeLimit ∧ subsampling.x < 64) ∧
        (luma.height + subsampling.y < Word.sizeLimit ∧ subsampling.y < 64) ∧
          chroma = ⟨(luma.width + subsampling.x) / 2 ^ subsampling.x,
            (luma.height + subsampling.y) / 2 ^ subsampling.y⟩ := by
  rw [chromaExtent]
  simp only [bind_eq_ok_iff, reduce_eq_ok_iff, pure, Except.pure, Except.ok.injEq]
  constructor
  · rintro ⟨_, ⟨widthFits, widthShort, rfl⟩, _, ⟨heightFits, heightShort, rfl⟩, rfl⟩
    exact ⟨⟨widthFits, widthShort⟩, ⟨heightFits, heightShort⟩, rfl⟩
  · rintro ⟨⟨widthFits, widthShort⟩, ⟨heightFits, heightShort⟩, rfl⟩
    exact ⟨_, ⟨widthFits, widthShort, rfl⟩, _, ⟨heightFits, heightShort, rfl⟩, rfl⟩

/-- The plane that is no chroma plane is luma. -/
theorem Plane.eq_y_of_not_isChroma (plane : Plane) (other : ¬ plane.isChroma = true) :
    plane = .y := by
  cases plane with
  | y => rfl
  | u => exact absurd rfl other
  | v => exact absurd rfl other

/-- The check of a blend whose coefficients have codes passes exactly when the chroma extent can
be counted and there is noise for it. -/
theorem ChromaJob.check_eq_ok_iff_of_coded (job : ChromaJob)
    (chromaPlane : job.plane.isChroma = true) (coded : (job.parameters.mix job.plane).Coded)
    (chroma : Extent) :
    job.check = .ok chroma ↔
      job.subsampling.chromaExtent job.extent = .ok chroma ∧ job.checkNoise chroma = .ok () := by
  have coefficients := job.checkCoefficients_of_coded chromaPlane coded
  rw [check, bind_eq_ok_iff]
  simp only [bind_eq_ok_iff]
  constructor
  · rintro ⟨_, _, extent, reduced, _, sufficient, same⟩
    obtain rfl : extent = chroma := Except.ok.inj same
    exact ⟨reduced, sufficient⟩
  · rintro ⟨reduced, sufficient⟩
    exact ⟨(), coefficients, chroma, reduced, (), sufficient, rfl⟩

/-- With accepted parameters a chroma blend passes its check exactly when the chroma extent
exists and its noise suffices. -/
theorem ChromaJob.check_eq_ok_iff (job : ChromaJob) (chromaPlane : job.plane.isChroma = true)
    (accepted : job.parameters.validate = .ok ()) (chroma : Extent) :
    job.check = .ok chroma ↔
      job.subsampling.chromaExtent job.extent = .ok chroma ∧ job.checkNoise chroma = .ok () :=
  job.check_eq_ok_iff_of_coded chromaPlane
    (job.parameters.coded_of_validate job.plane accepted chromaPlane) chroma

namespace StripJob

/-- The visible extent of a chroma plane: that of luma, divided and rounded up. -/
def chroma (job : StripJob) : Extent :=
  ⟨(job.extent.width + job.subsampling.x) / 2 ^ job.subsampling.x,
    (job.extent.height + job.subsampling.y) / 2 ^ job.subsampling.y⟩

/-- The visible extent of a plane. -/
def visible (job : StripJob) : Plane → Extent
  | .y => job.extent
  | .u => job.chroma
  | .v => job.chroma

/-- The row of a plane's noise with which the strip begins. -/
def noiseStart (job : StripJob) : Plane → Nat
  | .y => job.start
  | .u => job.start / 2 ^ job.subsampling.y
  | .v => job.start / 2 ^ job.subsampling.y

/-- The stroke with which a row is copied. -/
def copyStroke (source : Raster Int) (width : Nat) (layout : Layout) (size row : Nat) :
    Except Fault (Stroke Int) := do
  let start ← layout.locate size row width
  let samples ← source.row row width
  return ⟨start, elementAt samples⟩

/-- The strokes of a plane that takes noise. -/
def grainStroke (job : StripJob) (plane : Plane) (layout : Layout) (size row : Nat) :
    Except Fault (Stroke Int) :=
  match plane with
  | .y => job.lumaJob.stroke layout size row
  | plane =>
    (job.chromaJob plane (job.noiseStart plane)).stroke job.parameters.keyMode job.chroma.width
      layout size row

/-- The strokes of a plane. -/
def stroke (job : StripJob) (plane : Plane) (layout : Layout) (size row : Nat) :
    Except Fault (Stroke Int) :=
  if job.parameters.appliesTo plane then job.grainStroke plane layout size row
  else copyStroke (job.source.get plane) (job.visible plane).width layout size row

/-- Paint a plane with its strokes. -/
def paintPlane (job : StripJob) (plane : Plane) (target : Raster Int) : Run (Raster Int) :=
  target.paint (job.visible plane).width (job.visible plane).height
    (job.stroke plane target.layout target.samples.size)

/-- A plane that takes noise has it in each of its visible rows and columns. -/
def Supplied (job : StripJob) (plane : Plane) : Prop :=
  job.parameters.appliesTo plane = true →
    job.noiseStart plane + (job.visible plane).height < Word.sizeLimit ∧
      job.noiseStart plane + (job.visible plane).height ≤ (job.noise.get plane).rows ∧
        (job.visible plane).width ≤ (job.noise.get plane).columns

/-- A row is copied exactly when both windows are reached. -/
theorem copyStroke_eq_ok_iff (source : Raster Int) (width : Nat) (layout : Layout)
    (size row : Nat) (stroke : Stroke Int) :
    copyStroke source width layout size row = .ok stroke ↔
      layout.Reaches size row width ∧ source.layout.Reaches source.samples.size row width ∧
        stroke = ⟨layout.first row, elementAt (source.window row width)⟩ := by
  rw [copyStroke]
  simp only [bind_eq_ok_iff, Layout.locate_eq_ok_iff_reaches, Raster.row_eq_ok_iff, pure,
    Except.pure, Except.ok.injEq]
  constructor
  · rintro ⟨_, ⟨target, rfl⟩, _, ⟨read, rfl⟩, rfl⟩
    exact ⟨target, read, rfl⟩
  · rintro ⟨target, read, rfl⟩
    exact ⟨_, ⟨target, rfl⟩, _, ⟨read, rfl⟩, rfl⟩

/-- Luma completes exactly when its noise suffices and it is painted. -/
theorem applyLuma_eq_done_iff (job : StripJob)
    (coded : GrainParameters.ShiftCoded job.parameters.scalingShift)
    (target left : Raster Int) :
    job.applyLuma .plain target = .done left ↔
      job.Supplied .y ∧ job.paintPlane .y target = .done left := by
  unfold applyLuma paintPlane Supplied stroke
  by_cases noisy : job.parameters.appliesTo .y = true
  · have checked := Noise.check_eq_ok_iff job.noise.y job.parameters.scalingShift job.extent
      job.start
    simp only [noisy, if_true, Kernels.plain_luma, LumaJob.blend, forall_const]
    cases outcome : job.lumaJob.check with
    | error fault =>
      have refused : ¬ (Noise.check job.noise.y job.parameters.scalingShift job.extent job.start =
          .ok ()) := by
        intro passed
        cases outcome.symm.trans passed
      simp only [reduceCtorEq, false_iff, not_and]
      intro supplied
      exact absurd (checked.mpr ⟨coded, supplied⟩) refused
    | ok _ =>
      have supplied := (checked.mp outcome).2
      constructor
      · intro painted
        exact ⟨supplied, painted⟩
      · intro both
        exact both.2
  · simp only [noisy, if_false, Bool.false_eq_true, false_implies, true_and]
    rfl

/-- A chroma plane has the visible extent of chroma. -/
theorem visible_of_isChroma (job : StripJob) (plane : Plane) (chromaPlane : plane.isChroma = true) :
    job.visible plane = job.chroma := by
  cases plane with
  | y => cases chromaPlane
  | u => rfl
  | v => rfl

/-- The noise of a chroma plane begins at the shifted start. -/
theorem noiseStart_of_isChroma (job : StripJob) (plane : Plane)
    (chromaPlane : plane.isChroma = true) :
    job.noiseStart plane = job.start / 2 ^ job.subsampling.y := by
  cases plane with
  | y => cases chromaPlane
  | u => rfl
  | v => rfl

/-- The strokes of a chroma plane that takes noise are those of its blend. -/
theorem grainStroke_of_isChroma (job : StripJob) (plane : Plane)
    (chromaPlane : plane.isChroma = true) :
    job.grainStroke plane = (job.chromaJob plane (job.noiseStart plane)).stroke
      job.parameters.keyMode job.chroma.width := by
  cases plane with
  | y => cases chromaPlane
  | u => rfl
  | v => rfl

/-- A chroma blend of an accepted strip completes exactly when its noise suffices and all its
rows are painted. -/
theorem chromaBlend_eq_done_iff (job : StripJob) (plane : Plane)
    (accepted : job.parameters.validate = .ok ())
    (reduced : job.subsampling.chromaExtent job.extent = .ok job.chroma)
    (chromaPlane : plane.isChroma = true) (target left : Raster Int) :
    (job.chromaJob plane (job.noiseStart plane)).blend job.parameters.keyMode target =
        .done left ↔
      (job.noiseStart plane + job.chroma.height < Word.sizeLimit ∧
        job.noiseStart plane + job.chroma.height ≤ (job.noise.get plane).rows ∧
          job.chroma.width ≤ (job.noise.get plane).columns) ∧
        target.paint job.chroma.width job.chroma.height
          (job.grainStroke plane target.layout target.samples.size) = .done left := by
  have coded := ((GrainParameters.validate_eq_ok_iff job.parameters).mp accepted).1
  have checked (extent : Extent) := (job.chromaJob plane (job.noiseStart plane)).check_eq_ok_iff
    chromaPlane accepted extent
  have noise := Noise.check_eq_ok_iff (job.noise.get plane) job.parameters.scalingShift job.chroma
    (job.noiseStart plane)
  rw [ChromaJob.blend, job.grainStroke_of_isChroma plane chromaPlane]
  cases outcome : (job.chromaJob plane (job.noiseStart plane)).check with
  | error fault =>
    simp only [reduceCtorEq, false_iff, not_and]
    intro supplied
    have passed := (checked job.chroma).mpr ⟨reduced, noise.mpr ⟨coded, supplied⟩⟩
    cases outcome.symm.trans passed
  | ok extent =>
    obtain ⟨found, sufficient⟩ := (checked extent).mp outcome
    obtain rfl : job.chroma = extent := Except.ok.inj (reduced.symm.trans found)
    have supplied := (noise.mp sufficient).2
    constructor
    · intro painted
      exact ⟨supplied, painted⟩
    · intro both
      exact both.2

/-- A chroma plane of an accepted strip completes exactly when its noise suffices and it
is painted. -/
theorem applyChroma_eq_done_iff (job : StripJob) (plane : Plane)
    (accepted : job.parameters.validate = .ok ())
    (reduced : job.subsampling.chromaExtent job.extent = .ok job.chroma)
    (chromaPlane : plane.isChroma = true) (target left : Raster Int) :
    job.applyChroma .plain job.chroma plane target = .done left ↔
      job.Supplied plane ∧ job.paintPlane plane target = .done left := by
  have short : job.subsampling.y < 64 :=
    ((Subsampling.chromaExtent_eq_ok_iff _ _ _).mp reduced).2.1.2
  have begins : Word.shiftRight job.start job.subsampling.y = .ok (job.noiseStart plane) :=
    (Word.shiftRight_eq_ok_iff _ _ _).mpr ⟨short, job.noiseStart_of_isChroma plane chromaPlane⟩
  have blended := job.chromaBlend_eq_done_iff plane accepted reduced chromaPlane target left
  unfold applyChroma paintPlane Supplied stroke
  rw [job.visible_of_isChroma plane chromaPlane]
  by_cases noisy : job.parameters.appliesTo plane = true
  · simp only [noisy, if_true, begins, Kernels.plain_chroma, forall_const]
    exact blended
  · simp only [noisy, if_false, Bool.false_eq_true, false_implies, true_and]
    rfl

/-- Work on one plane completes exactly when the work on its raster does, and the other
planes stay as they are. -/
theorem onPlane_eq_done_iff (plane : Plane) (work : Raster Int → Run (Raster Int))
    (target left : PerPlane (Raster Int)) :
    onPlane plane work target = .done left ↔
      ∃ painted, work (target.get plane) = .done painted ∧ target.set plane painted = left := by
  rw [onPlane, Run.map_eq_done_iff]

/-- Three planes that are worked on in order complete exactly when each of them does. -/
theorem onPlanes_eq_done_iff (luma first second : Raster Int → Run (Raster Int))
    (target left : PerPlane (Raster Int)) :
    (onPlane .y luma target).andThen (fun target =>
        (onPlane .u first target).andThen (onPlane .v second)) = .done left ↔
      luma target.y = .done left.y ∧ first target.u = .done left.u ∧
        second target.v = .done left.v := by
  simp only [Run.andThen_eq_done_iff, onPlane_eq_done_iff]
  constructor
  · rintro ⟨_, ⟨y, lumaDone, rfl⟩, _, ⟨u, firstDone, rfl⟩, v, secondDone, rfl⟩
    exact ⟨lumaDone, firstDone, secondDone⟩
  · rintro ⟨lumaDone, firstDone, secondDone⟩
    exact ⟨_, ⟨left.y, lumaDone, rfl⟩, _, ⟨left.u, firstDone, rfl⟩, left.v, secondDone, rfl⟩

/-- The planes of an accepted strip complete exactly when the strip begins at a row that
luma and chroma share, the chroma extent exists, and each plane completes by itself. -/
theorem applyPlanes_eq_done_iff (job : StripJob) (accepted : job.parameters.validate = .ok ())
    (target left : PerPlane (Raster Int)) :
    job.applyPlanes .plain target = .done left ↔
      (job.subsampling.y = 0 ∨ job.start % 2 = 0) ∧
        job.subsampling.chromaExtent job.extent = .ok job.chroma ∧
          ∀ plane, job.Supplied plane ∧
            job.paintPlane plane (target.get plane) = .done (left.get plane) := by
  have coded := ((GrainParameters.validate_eq_ok_iff job.parameters).mp accepted).1
  rw [applyPlanes]
  by_cases shared : job.subsampling.y = 0 ∨ job.start % 2 = 0
  · rw [if_pos shared]
    cases reduced : job.subsampling.chromaExtent job.extent with
    | error fault =>
      simp [Run.andThen_eq_done_iff]
    | ok chroma =>
      have same : chroma = job.chroma :=
        ((Subsampling.chromaExtent_eq_ok_iff _ _ _).mp reduced).2.2
      subst same
      simp only [onPlanes_eq_done_iff, job.applyLuma_eq_done_iff coded,
        job.applyChroma_eq_done_iff .u accepted reduced rfl,
        job.applyChroma_eq_done_iff .v accepted reduced rfl, shared, true_and]
      constructor
      · rintro ⟨luma, first, second⟩ plane
        cases plane with
        | y => exact luma
        | u => exact first
        | v => exact second
      · intro every
        exact ⟨every .y, every .u, every .v⟩
  · rw [if_neg shared]
    simp [shared]

/-- An accepted strip completes exactly when it begins at a row that luma and chroma
share, the chroma extent exists, and each plane completes by itself. -/
theorem apply_eq_done_iff (job : StripJob) (target left : PerPlane (Raster Int)) :
    job.apply .plain target = .ran (.done left) ↔
      job.parameters.validate = .ok () ∧ (job.subsampling.y = 0 ∨ job.start % 2 = 0) ∧
        job.subsampling.chromaExtent job.extent = .ok job.chroma ∧
          ∀ plane, job.Supplied plane ∧
            job.paintPlane plane (target.get plane) = .done (left.get plane) := by
  rw [apply]
  cases accepted : job.parameters.validate with
  | error rejection => simp
  | ok _ =>
    simp only [Attempt.ran.injEq, true_and]
    rw [applyPlanes_eq_done_iff job accepted]

end StripJob

end GrainSynthesis
