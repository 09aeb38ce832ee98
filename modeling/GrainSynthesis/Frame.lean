import GrainSynthesis.Strip
import GrainSynthesis.Steps

/-!
# A picture that is worked on in steps

A frame holds two pictures of one shape. Predictions are blended into the source
picture, strips are given noise on their way from the source to the result, and
the two can be exchanged. Parameters, tables and kernels can be changed between
steps.

A step that ends at a fault keeps what it had written until then; a step that is
rejected changes nothing.
-/

namespace GrainSynthesis

/-- A change to one of the film grain parameters. -/
inductive Assignment where
  | chromaFromLuma (value : Bool)
  | restrictedRange (value : Bool)
  | scalingShift (value : Nat)
  | points (plane : Plane) (value : Nat)
  | coefficient (plane : Plane) (coefficient : Coefficient) (value : Int)
  deriving DecidableEq, Repr

/-- Change one parameter. -/
def GrainParameters.assign (parameters : GrainParameters) : Assignment → GrainParameters
  | .chromaFromLuma value => { parameters with chromaFromLuma := value }
  | .restrictedRange value => { parameters with restrictedRange := value }
  | .scalingShift value => { parameters with scalingShift := value }
  | .points plane value => { parameters with points := parameters.points.set plane value }
  | .coefficient plane coefficient value =>
    parameters.setMix plane ((parameters.mix plane).set coefficient value)

/-- Two pictures of one shape, and everything that the steps on them use. -/
structure Frame where
  depth : Depth
  noise : NoiseImage
  strides : PerPlane Nat
  width : Nat
  subsampling : Subsampling
  parameters : GrainParameters
  tables : PerPlane ScalingTable
  kernels : Kernels
  identityMatrix : Bool
  source : PerPlane (Array Int)
  result : PerPlane (Array Int)

/-- Where in a plane a block lies, and what is blended there. -/
structure BlockBlend where
  column : Nat
  row : Nat
  width : Nat
  height : Nat
  firstWeight : Nat
  secondWeight : Nat
  first : Array Int16
  second : Array Int16

/-- One step on a frame. -/
inductive FrameStep where
  /-- Change a parameter. -/
  | assign (assignment : Assignment)
  /-- Use other kernels. -/
  | useKernels (kernels : Kernels)
  /-- Replace the scaling table of the plane with a number. -/
  | setTable (number : Nat) (table : ScalingTable)
  /-- Say whether the colour matrix is the identity. -/
  | setIdentity (identityMatrix : Bool)
  /-- Exchange source and result. -/
  | swap
  /-- Ask whether the parameters are accepted. -/
  | validate
  /-- Ask for the bounds of results. -/
  | clip
  /-- Blend two predictions into the source plane with a number. -/
  | blend (number : Nat) (block : BlockBlend)
  /-- Give rows of the source noise and write them to the result. -/
  | strip (row height start : Nat)

/-- What a step on a frame answers. -/
inductive FrameAnswer where
  | done
  | accepted
  | bounds (range : ClipRange)
  | plane (samples : Array Int)
  | planes (samples : PerPlane (Array Int))
  deriving DecidableEq, Repr

namespace Frame

/-- The bounds of results as the frame stands. -/
def clipRange (frame : Frame) : ClipRange :=
  frame.parameters.clipRange frame.depth frame.identityMatrix

/-- The plane with a number; there is nothing beyond the third. -/
def planeAt (number : Nat) : Except Fault Plane :=
  match Plane.ofIndex? number with
  | some plane => .ok plane
  | none => .error .outOfBounds

/-- A source plane seen from an element on. -/
def sourceFrom (frame : Frame) (plane : Plane) (element : Nat) : Except Fault (Raster Int) :=
  (Raster.whole (frame.source.get plane) (frame.strides.get plane)).dropElements element

/-- A result plane seen from an element on. -/
def resultFrom (frame : Frame) (plane : Plane) (element : Nat) : Except Fault (Raster Int) :=
  (Raster.whole (frame.result.get plane) (frame.strides.get plane)).dropElements element

/-- The source plane from the corner of a block on. -/
def blockTarget (frame : Frame) (plane : Plane) (block : BlockBlend) :
    Except Fault (Raster Int) := do
  let above ← Word.size (block.row * frame.strides.get plane)
  let corner ← Word.size (above + block.column)
  frame.sourceFrom plane corner

/-- The blend of a block. -/
def blockJob (frame : Frame) (block : BlockBlend) : CompoundJob where
  depth := frame.depth
  first := Raster.whole block.first block.width
  second := Raster.whole block.second block.width
  firstWeight := block.firstWeight
  secondWeight := block.secondWeight
  width := block.width
  height := block.height

/-- The elements at which a strip begins in the three planes. -/
def stripStarts (frame : Frame) (row : Nat) : Except Fault (PerPlane Nat) := do
  let y ← Word.size (row * frame.strides.y)
  let chromaRow ← Word.shiftRight row frame.subsampling.y
  let u ← Word.size (chromaRow * frame.strides.u)
  let v ← Word.size (chromaRow * frame.strides.v)
  return ⟨y, u, v⟩

/-- Source and result from the elements at which a strip begins. -/
def stripRasters (frame : Frame) (starts : PerPlane Nat) :
    Except Fault (PerPlane (Raster Int) × PerPlane (Raster Int)) := do
  let sourceY ← frame.sourceFrom .y starts.y
  let sourceU ← frame.sourceFrom .u starts.u
  let sourceV ← frame.sourceFrom .v starts.v
  let resultY ← frame.resultFrom .y starts.y
  let resultU ← frame.resultFrom .u starts.u
  let resultV ← frame.resultFrom .v starts.v
  return (⟨sourceY, sourceU, sourceV⟩, ⟨resultY, resultU, resultV⟩)

/-- The strip of some rows of the source. -/
def stripJob (frame : Frame) (source : PerPlane (Raster Int)) (height start : Nat) : StripJob where
  depth := frame.depth
  parameters := frame.parameters
  noise := frame.noise
  tables := frame.tables
  clip := frame.clipRange
  extent := ⟨frame.width, height⟩
  start := start
  subsampling := frame.subsampling
  source := source

/-- What a step answers after a run that left `written`. -/
def answer {σ : Type} (run : Run σ) (written : FrameAnswer) : Except Failure FrameAnswer :=
  match run.fault? with
  | some fault => .error (.fault fault)
  | none => .ok written

/-- Blend two predictions into a source plane. -/
def blendBlock (frame : Frame) (number : Nat) (block : BlockBlend) :
    Frame × Except Failure FrameAnswer :=
  let found := do
    let plane ← planeAt number
    let target ← frame.blockTarget plane block
    return (plane, target)
  match found with
  | .error fault => (frame, .error (.fault fault))
  | .ok (plane, target) =>
    let run := frame.kernels.compound (frame.blockJob block) target
    let samples := run.state.samples
    ({ frame with source := frame.source.set plane samples }, answer run (.plane samples))

/-- Give rows of the source noise and write them to the result. -/
def applyStrip (frame : Frame) (row height start : Nat) : Frame × Except Failure FrameAnswer :=
  let found := do
    let starts ← frame.stripStarts row
    frame.stripRasters starts
  match found with
  | .error fault => (frame, .error (.fault fault))
  | .ok (source, target) =>
    let attempt := (frame.stripJob source height start).apply frame.kernels target
    let result := attempt.state.map Raster.samples
    let answered := match attempt with
      | .rejected rejection _ => .error (.rejected rejection)
      | .ran run => answer run (.planes result)
    ({ frame with result := result }, answered)

/-- Take one step. -/
def step (frame : Frame) : FrameStep → Frame × Except Failure FrameAnswer
  | .assign assignment =>
    ({ frame with parameters := frame.parameters.assign assignment }, .ok .done)
  | .useKernels kernels => ({ frame with kernels := kernels }, .ok .done)
  | .setTable number table =>
    match planeAt number with
    | .ok plane => ({ frame with tables := frame.tables.set plane table }, .ok .done)
    | .error fault => (frame, .error (.fault fault))
  | .setIdentity identityMatrix => ({ frame with identityMatrix := identityMatrix }, .ok .done)
  | .swap => ({ frame with source := frame.result, result := frame.source }, .ok .done)
  | .validate =>
    (frame, (frame.parameters.validate.map fun _ => .accepted).mapError .rejected)
  | .clip => (frame, .ok (.bounds frame.clipRange))
  | .blend number block => frame.blendBlock number block
  | .strip row height start => frame.applyStrip row height start

/-- Take steps in order. -/
def steps (frame : Frame) (inputs : List FrameStep) :
    Frame × List (Except Failure FrameAnswer) :=
  Steps.perform step frame inputs

end Frame

end GrainSynthesis
