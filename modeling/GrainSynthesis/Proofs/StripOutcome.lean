import GrainSynthesis.Frame
import GrainSynthesis.Proofs.StripReach

/-!
# How a call on a strip ends

A call is rejected exactly when its parameters are, before anything is written.
Otherwise it returns or meets a fault. On samples and noise entries of the depth no
number that is computed for a sample is out of range, so only the shape of the
arguments decides: whether luma and chroma share the first row, whether the chroma
extent can be counted, whether the visible rows of every plane lie in their buffers,
and whether each plane that takes noise has enough of it.

The bounds of results need not be in order, and destination rows may overlap.
-/

namespace GrainSynthesis

namespace StripJob

/-- Buffers and noise that are stored have sizes that can be counted. -/
structure Counted (job : StripJob) (target : PerPlane (Raster Int)) : Prop where
  source : ∀ plane, (job.source.get plane).samples.size < Word.sizeLimit
  target : ∀ plane, (target.get plane).samples.size < Word.sizeLimit
  cells : ∀ plane, (job.noise.get plane).cells.size < Word.sizeLimit
  rows : ∀ plane, (job.noise.get plane).rows < Word.sizeLimit

/-- The arguments of a call fit together: chroma rows begin with the strip, the padded luma
extent can be counted, each visible row of source and destination ends inside its buffer, and
planes that take noise are supplied with it. -/
structure Feasible (job : StripJob) (target : PerPlane (Raster Int)) : Prop where
  even : job.subsampling.y = 0 ∨ job.start % 2 = 0
  widthCounted : job.extent.width + job.subsampling.x < Word.sizeLimit
  heightCounted : job.extent.height + job.subsampling.y < Word.sizeLimit
  sourceRows : ∀ plane, ∀ row < (job.visible plane).height,
    (job.source.get plane).layout.first row + (job.visible plane).width ≤
      (job.source.get plane).samples.size
  targetRows : ∀ plane, ∀ row < (job.visible plane).height,
    (target.get plane).layout.first row + (job.visible plane).width ≤
      (target.get plane).samples.size
  supplied : ∀ plane, job.Supplied plane

/-- Feasible arguments that can be counted are covered. -/
theorem Feasible.covered {job : StripJob} {target : PerPlane (Raster Int)}
    (feasible : job.Feasible target) (counted : job.Counted target) : job.Covered target where
  source := fun plane => ⟨counted.source plane, feasible.sourceRows plane⟩
  target := fun plane => ⟨counted.target plane, feasible.targetRows plane⟩
  noise := fun plane noisy => by
    obtain ⟨_, rows, columns⟩ := feasible.supplied plane noisy
    exact ⟨counted.cells plane, counted.rows plane, rows, columns⟩

/-- An accepted strip that is in range and feasible completes. -/
theorem exists_done_of_feasible (job : StripJob) (target : PerPlane (Raster Int))
    (accepted : job.parameters.validate = .ok ()) (inRange : job.InRange)
    (counted : job.Counted target) (columnsShared : job.subsampling.x ≤ 1)
    (rowsShared : job.subsampling.y ≤ 1) (feasible : job.Feasible target) :
    ∃ left, job.apply .plain target = .ran (.done left) := by
  have reached := (feasible.covered counted).reached
  have reduced : job.subsampling.chromaExtent job.extent = .ok job.chroma :=
    (Subsampling.chromaExtent_eq_ok_iff _ _ _).mpr
      ⟨⟨feasible.widthCounted, by omega⟩, ⟨feasible.heightCounted, by omega⟩, rfl⟩
  exact job.exists_done_of_ready target
    ⟨accepted, feasible.even, reduced, feasible.supplied, reached⟩ (inRange.used reached)

/-- A strip that completes is feasible. -/
theorem feasible_of_done (job : StripJob) (target left : PerPlane (Raster Int))
    (done : job.apply .plain target = .ran (.done left)) : job.Feasible target := by
  have ready := job.ready_of_done target left done
  obtain ⟨⟨widthCounted, _⟩, ⟨heightCounted, _⟩, _⟩ :=
    (Subsampling.chromaExtent_eq_ok_iff _ _ _).mp ready.reduced
  exact {
    even := ready.even
    widthCounted := widthCounted
    heightCounted := heightCounted
    sourceRows := fun plane row inside => (ready.reached.source plane row inside).first_add_le
    targetRows := fun plane row inside => (ready.reached.target plane row inside).first_add_le
    supplied := ready.supplied }

end StripJob

/-- A raster that is seen from another element on is the same buffer. -/
theorem Raster.samples_of_dropElements {α : Type} (raster view : Raster α) (elements : Nat)
    (viewed : raster.dropElements elements = .ok view) : view.samples = raster.samples := by
  rw [dropElements] at viewed
  split at viewed
  · cases viewed
    rfl
  · cases viewed

/-- The destinations of a strip are the planes of the result. -/
theorem Frame.samples_stripRasters (frame : Frame) (starts : PerPlane Nat)
    (source target : PerPlane (Raster Int))
    (viewed : frame.stripRasters starts = .ok (source, target)) :
    target.map Raster.samples = frame.result := by
  simp only [stripRasters, bind_eq_ok_iff, pure, Except.pure, Except.ok.injEq,
    Prod.mk.injEq] at viewed
  obtain ⟨_, _, _, _, _, _, y, yViewed, u, uViewed, v, vViewed, _, rfl⟩ := viewed
  have ySame := Raster.samples_of_dropElements _ y _ yViewed
  have uSame := Raster.samples_of_dropElements _ u _ uViewed
  have vSame := Raster.samples_of_dropElements _ v _ vViewed
  simp only [PerPlane.map, ySame, uSame, vSame]
  rfl

/-- A strip that is rejected leaves the frame as it was, and the parameters are the reason. -/
theorem Frame.applyStrip_of_rejected (frame : Frame) (row height start : Nat)
    (rejection : Rejection)
    (rejected : (frame.applyStrip row height start).2 = .error (.rejected rejection)) :
    (frame.applyStrip row height start).1 = frame ∧
      frame.parameters.validate = .error rejection := by
  rw [applyStrip] at rejected ⊢
  -- Whatever comes before the strip can only end in a fault.
  cases started : frame.stripStarts row with
  | error fault => simp [started, bind, Except.bind] at rejected
  | ok starts =>
    cases viewed : frame.stripRasters starts with
    | error fault => simp [started, viewed, bind, Except.bind] at rejected
    | ok views =>
      obtain ⟨source, target⟩ := views
      simp only [started, viewed, bind, Except.bind] at rejected ⊢
      cases applied : (frame.stripJob source height start).apply frame.kernels target with
      | rejected reason left =>
        simp only [applied, Except.error.injEq, Failure.rejected.injEq] at rejected
        subst rejected
        obtain ⟨refused, rfl⟩ := (StripJob.apply_eq_rejected_iff _ _ _ _ _).mp applied
        have kept := frame.samples_stripRasters starts source left viewed
        simp only [Attempt.state, kept]
        exact ⟨trivial, refused⟩
      | ran run =>
        simp only [applied, answer] at rejected
        cases faulted : run.fault? <;> simp [faulted] at rejected

namespace StripJob

/-- How a call ends. It is rejected exactly when its parameters are, with the same rejection,
by every table of kernels and whatever the other arguments; the buffers of the destination
stay as they were, and so does a frame whose strip is rejected. An accepted call on samples
and noise entries of the depth, with bounds that are samples, completes exactly when its
arguments are feasible. -/
theorem apply_outcome (job : StripJob) (target : PerPlane (Raster Int)) (inRange : job.InRange)
    (counted : job.Counted target) (columnsShared : job.subsampling.x ≤ 1)
    (rowsShared : job.subsampling.y ≤ 1) :
    (∀ kernels rejection left, job.apply kernels target = .rejected rejection left ↔
        job.parameters.validate = .error rejection ∧ left = target) ∧
      (∀ rejection layouts buffers, job.parameters.validate = .error rejection →
        job.leaves layouts buffers = some buffers) ∧
      (∀ (frame : Frame) row height start rejection,
        (frame.applyStrip row height start).2 = .error (.rejected rejection) →
          (frame.applyStrip row height start).1 = frame) ∧
      (job.parameters.validate = .ok () →
        ((∃ left, job.apply .plain target = .ran (.done left)) ↔ job.Feasible target)) := by
  refine ⟨?_, ?_, ?_, ?_⟩
  · intro kernels rejection left
    exact job.apply_eq_rejected_iff kernels target left rejection
  · intro rejection layouts buffers rejected
    refine job.leaves_of_rejected ?_ layouts buffers
    rw [rejected]
    exact fun impossible => by cases impossible
  · intro frame row height start rejection rejected
    exact (frame.applyStrip_of_rejected row height start rejection rejected).1
  · intro accepted
    constructor
    · rintro ⟨left, done⟩
      exact job.feasible_of_done target left done
    · intro feasible
      exact job.exists_done_of_feasible target accepted inRange counted columnsShared rowsShared
        feasible

/-- The odd strip with bounds that cross, written to luma rows that overlap, completes, and so
it is feasible. -/
theorem crossedStrip_outcome :
    let job := { oddStrip with clip := ⟨940, 64, 100⟩ }
    let target := { oddTarget with y := Raster.whole #[0, 0, 0, 0, 0, 0, 0] 2 }
    (job.InRange ∧ job.Counted target ∧ job.subsampling.x ≤ 1 ∧ job.subsampling.y ≤ 1 ∧
        job.parameters.validate = .ok ()) ∧
      job.apply .plain target = .ran (.done
        ⟨.whole #[940, 940, 940, 64, 64, 940, 940] 2,
          ⟨#[9, 100, 940, 9, 940, 940, 9], ⟨1, 3⟩⟩, .whole #[1, 2, 3, 4] 2⟩) ∧
        job.Feasible target := by
  intro job target
  have inRange : job.InRange := {
    samples := by intro plane; cases plane <;> decide
    entries := by intro plane; cases plane <;> decide
    low := by decide
    high := by intro plane; cases plane <;> decide }
  have counted : job.Counted target := {
    source := by intro plane; cases plane <;> decide
    target := by intro plane; cases plane <;> decide
    cells := by intro plane; cases plane <;> decide
    rows := by intro plane; cases plane <;> decide }
  have columnsShared : job.subsampling.x ≤ 1 := by decide
  have rowsShared : job.subsampling.y ≤ 1 := by decide
  have accepted : job.parameters.validate = .ok () := by decide
  have evaluated : job.apply .plain target = .ran (.done
      ⟨.whole #[940, 940, 940, 64, 64, 940, 940] 2,
        ⟨#[9, 100, 940, 9, 940, 940, 9], ⟨1, 3⟩⟩, .whole #[1, 2, 3, 4] 2⟩) := by decide +kernel
  obtain ⟨_, _, _, completes⟩ := apply_outcome job target inRange counted columnsShared rowsShared
  exact ⟨⟨inRange, counted, columnsShared, rowsShared, accepted⟩, evaluated,
    (completes accepted).mp ⟨_, evaluated⟩⟩

end StripJob

end GrainSynthesis
