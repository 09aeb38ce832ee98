import GrainSynthesis.Proofs.StripSamples

/-!
# Strips whose windows are reached

Whether a call completes depends on its buffers only through the windows of its visible rows:
each has to be reached in the source, in the destination and, where the plane takes noise, in
the noise. A completed call has reached them all. In the other direction, when a call has
reached its windows and the visible samples and the used noise are in range, it completes,
whatever lies outside the windows.

So a call can be followed by one that reads what it left, since destination windows that were
reached are source windows that are reached.
-/

namespace GrainSynthesis

namespace StripJob

/-- A stroke with noise that is found has the window of its noise reached. -/
theorem noise_reaches_of_stroke (job : StripJob) (plane : Plane) (layout : Layout)
    (size row : Nat) (found : Stroke Int) (noisy : job.parameters.appliesTo plane = true)
    (given : job.stroke plane layout size row = .ok found) :
    (job.noise.get plane).Reaches (job.noiseStart plane + row) (job.visible plane).width := by
  rw [stroke, if_pos noisy] at given
  by_cases chromaPlane : plane.isChroma = true
  · rw [job.grainStroke_of_isChroma plane chromaPlane] at given
    obtain ⟨rows, located, rfl⟩ := (ChromaJob.stroke_eq_ok_iff _ _ _ _ _ _ _).mp given
    obtain ⟨_, _, noise, _⟩ := (ChromaJob.rows_eq_ok_iff _ _ _ _ _ _).mp located
    rw [job.visible_of_isChroma plane chromaPlane]
    exact noise
  · obtain rfl := plane.eq_y_of_not_isChroma chromaPlane
    obtain ⟨rows, located, rfl⟩ := (LumaJob.stroke_eq_ok_iff _ _ _ _ _).mp given
    obtain ⟨_, noise, _⟩ := (LumaJob.rows_eq_ok_iff _ _ _ _ _).mp located
    exact noise

/-- A completed call has reached the windows of its visible rows. -/
theorem reached_of_done (job : StripJob) (target left : PerPlane (Raster Int))
    (done : job.apply .plain target = .ran (.done left)) : job.Reached target := by
  obtain ⟨_, _, _, planes⟩ := (job.apply_eq_done_iff target left).mp done
  have strokes (plane : Plane) := Raster.strokes_of_paint_done _ _ _ _ _ (planes plane).2
  have windows (plane : Plane) := job.reaches_of_paintPlane plane _ _ (planes plane).2
  exact {
    source := fun plane row inside => (windows plane row inside).2
    noise := fun plane noisy row inside => by
      obtain ⟨found, given, _⟩ := strokes plane row inside
      exact job.noise_reaches_of_stroke plane _ _ row found noisy given
    target := fun plane row inside => (windows plane row inside).1 }

/-- What decides whether a call on a strip in range completes: its parameters, the row with which
it begins, whether the chroma extent can be counted, and whether noise and windows are there. -/
structure Ready (job : StripJob) (target : PerPlane (Raster Int)) : Prop where
  accepted : job.parameters.validate = .ok ()
  even : job.subsampling.y = 0 ∨ job.start % 2 = 0
  reduced : job.subsampling.chromaExtent job.extent = .ok job.chroma
  supplied : ∀ plane, job.Supplied plane
  reached : job.Reached target

/-- A completed call was ready. -/
theorem ready_of_done (job : StripJob) (target left : PerPlane (Raster Int))
    (done : job.apply .plain target = .ran (.done left)) : job.Ready target := by
  obtain ⟨accepted, even, reduced, planes⟩ := (job.apply_eq_done_iff target left).mp done
  exact ⟨accepted, even, reduced, fun plane => (planes plane).1,
    job.reached_of_done target left done⟩

/-- A call that is ready completes on a strip in range. -/
theorem exists_done_of_ready (job : StripJob) (target : PerPlane (Raster Int))
    (ready : job.Ready target) (inRange : job.UsedInRange) :
    ∃ left, job.apply .plain target = .ran (.done left) := by
  have painted (plane : Plane) :
      ∃ painted, job.paintPlane plane (target.get plane) = .done painted := by
    obtain ⟨painted, done, _⟩ := (target.get plane).paint_of_gives _ _ _ _
      (job.stroke_gives target ready.accepted inRange ready.reached plane)
    exact ⟨painted, done⟩
  obtain ⟨left, done⟩ := PerPlane.exists_of_forall _ painted
  exact ⟨left, (job.apply_eq_done_iff target left).mpr
    ⟨ready.accepted, ready.even, ready.reduced, fun plane => ⟨ready.supplied plane, done plane⟩⟩⟩

end StripJob

end GrainSynthesis
