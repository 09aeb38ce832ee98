import GrainSynthesis.Kernels

/-!
# Noise on a strip of a picture

A strip is some consecutive rows of all three planes. Planes that take noise are
blended and the others are copied. Chroma keys are taken from the luma source,
which has no noise, and when chroma is scaled from luma both chroma planes use
the luma table.

`start` is the luma row of the noise image with which the strip begins. Where
chroma has half as many rows it has to be even, so that luma and chroma begin
at the same place. Parameters that have no code are rejected before anything is
written.
-/

namespace GrainSynthesis

/-- A strip that is to be given noise. -/
structure StripJob where
  depth : Depth
  parameters : GrainParameters
  noise : NoiseImage
  tables : PerPlane ScalingTable
  clip : ClipRange
  /-- The visible columns and rows of luma. -/
  extent : Extent
  /-- The noise row of the first luma row. -/
  start : Nat
  subsampling : Subsampling
  source : PerPlane (Raster Int)

/-- Copy the visible part of a plane, row by row. -/
def copyPlane (source : Raster Int) (extent : Extent) (target : Raster Int) : Run (Raster Int) :=
  let layout := target.layout
  let size := target.samples.size
  target.paint extent.width extent.height fun row => do
    let start ← layout.locate size row extent.width
    let samples ← source.row row extent.width
    return ⟨start, elementAt samples⟩

namespace StripJob

/-- The luma blend of the strip. -/
def lumaJob (job : StripJob) : LumaJob where
  depth := job.depth
  noise := job.noise
  table := job.tables.y
  source := job.source.y
  low := job.clip.low
  high := job.clip.highLuma
  shift := job.parameters.scalingShift
  extent := job.extent
  start := job.start

/-- The table through which the noise of a chroma plane is scaled. -/
def chromaTable (job : StripJob) (plane : Plane) : ScalingTable :=
  if job.parameters.chromaFromLuma then job.tables.y else job.tables.get plane

/-- The blend of a chroma plane of the strip, from a chroma row of the noise image. -/
def chromaJob (job : StripJob) (plane : Plane) (start : Nat) : ChromaJob where
  depth := job.depth
  plane := plane
  parameters := job.parameters
  noise := job.noise
  table := job.chromaTable plane
  luma := job.source.y
  source := job.source.get plane
  low := job.clip.low
  high := job.clip.highChroma
  extent := job.extent
  subsampling := job.subsampling
  start := start

/-- Give luma its noise, or copy it. -/
def applyLuma (job : StripJob) (kernels : Kernels) (target : Raster Int) : Run (Raster Int) :=
  if job.parameters.appliesTo .y then kernels.luma job.lumaJob target
  else copyPlane job.source.y job.extent target

/-- Give a chroma plane its noise, or copy it. -/
def applyChroma (job : StripJob) (kernels : Kernels) (chroma : Extent) (plane : Plane)
    (target : Raster Int) : Run (Raster Int) :=
  if job.parameters.appliesTo plane then
    match Word.shiftRight job.start job.subsampling.y with
    | .error fault => .stopped fault target
    | .ok start => kernels.chroma job.parameters.keyMode (job.chromaJob plane start) target
  else
    copyPlane (job.source.get plane) chroma target

/-- Work on one of three planes. -/
def onPlane (plane : Plane) (work : Raster Int → Run (Raster Int))
    (target : PerPlane (Raster Int)) : Run (PerPlane (Raster Int)) :=
  (work (target.get plane)).map (target.set plane)

/-- Give all planes of the strip their noise: luma first, then the two chroma
planes. -/
def applyPlanes (job : StripJob) (kernels : Kernels) (target : PerPlane (Raster Int)) :
    Run (PerPlane (Raster Int)) :=
  if job.subsampling.y = 0 ∨ job.start % 2 = 0 then
    (onPlane .y (job.applyLuma kernels) target).andThen fun target =>
      match job.subsampling.chromaExtent job.extent with
      | .error fault => .stopped fault target
      | .ok chroma =>
        (onPlane .u (job.applyChroma kernels chroma .u) target).andThen
          (onPlane .v (job.applyChroma kernels chroma .v))
  else
    .stopped (.broken .evenStart) target

/-- Check the parameters, and then give all planes of the strip their noise. -/
def apply (job : StripJob) (kernels : Kernels) (target : PerPlane (Raster Int)) :
    Attempt (PerPlane (Raster Int)) :=
  match job.parameters.validate with
  | .error rejection => .rejected rejection target
  | .ok () => .ran (job.applyPlanes kernels target)

/-- A strip is rejected exactly when its parameters are, and for the same reason, and then
all planes are left as they were. -/
theorem apply_eq_rejected_iff (job : StripJob) (kernels : Kernels)
    (target left : PerPlane (Raster Int)) (rejection : Rejection) :
    job.apply kernels target = .rejected rejection left ↔
      job.parameters.validate = .error rejection ∧ left = target := by
  rw [apply]
  cases job.parameters.validate <;> simp [eq_comm]

/-- Work on one plane leaves the other planes as they were. -/
theorem state_onPlane (plane : Plane) (work : Raster Int → Run (Raster Int))
    (target : PerPlane (Raster Int)) (other : Plane) :
    (onPlane plane work target).state.get other =
      if other = plane then (work (target.get plane)).state else target.get other := by
  rw [onPlane, Run.state_map, PerPlane.get_set]

end StripJob

end GrainSynthesis
