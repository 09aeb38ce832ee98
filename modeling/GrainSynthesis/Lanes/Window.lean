import GrainSynthesis.Lanes.Register
import GrainSynthesis.Raster
import GrainSynthesis.Sample

/-!
# Windows of a row in a register

A row is worked on in windows as wide as a register. Where the row ends inside
the last window, its last sample is repeated to the end of the register, so a
table is never asked for a key that no sample of the row has, while noise is
continued with zeros. Only the lanes that lie in the row are stored.
-/

namespace GrainSynthesis.Lanes

open Register

/-- How wide the registers of a vector kernel are. -/
inductive VectorWidth where
  | bits128
  | bits256
  deriving DecidableEq, Repr

/-- The blocks of 128 bits in a register. -/
def VectorWidth.blocks : VectorWidth → Nat
  | bits128 => 1
  | bits256 => 2

/-- The narrow lanes in a register. -/
abbrev VectorWidth.lanes (width : VectorWidth) : Nat := 8 * width.blocks

/-- How many windows of `lanes` samples cover a row. -/
def windowCount (length lanes : Nat) : Nat := (length + lanes - 1) / lanes

/-- The samples of a row from `first` on. -/
def rowFrom (row : Array Int) (first : Nat) : Except Fault (List Int) :=
  if first ≤ row.size then .ok (row.toList.drop first) else .error .outOfBounds

/-- Write samples to the lanes from `lane` on, one by one, until the samples or the
lanes run out. -/
def writeLanes {lanes : Nat} : (samples : List Int) → (lane : Nat) → Register lanes → Register lanes
  | [], _, register => register
  | sample :: rest, lane, register =>
    if inside : lane < lanes then writeLanes rest (lane + 1) (register.set lane (wrap16 sample))
    else register

/-- As many samples as there are lanes, in a register of zeros, and then the last
of them to the end of the register. Without a sample there is none to repeat, and
the register stays zero. -/
def padLast (lanes : Nat) (samples : List Int) : Register lanes :=
  let valid := min samples.length lanes
  let written := writeLanes (samples.take valid) 0 (splat lanes 0)
  match (samples.take valid).getLast? with
  | some last => writeLanes (List.replicate (lanes - valid) last) valid written
  | none => written

/-- As many samples as there are lanes, in a register of zeros. -/
def padZero (lanes : Nat) (samples : List Int) : Register lanes :=
  writeLanes samples 0 (splat lanes 0)

/-- The samples of a row from `first` on, the last of the row repeated to the end
of the register. -/
def edgeWindow (lanes : Nat) (row : Array Int) (first : Nat) : Except Fault (Register lanes) := do
  return padLast lanes (← rowFrom row first)

/-- The samples of a row from `first` on, continued with zeros. -/
def zeroWindow (lanes : Nat) (row : Array Int) (first : Nat) : Except Fault (Register lanes) := do
  return padZero lanes (← rowFrom row first)

/-- The sample in a lane of a register. -/
def laneSample {lanes : Nat} (depth : Depth) (register : Register lanes) (lane : Nat) :
    Except Fault Int :=
  match register[lane]? with
  | some value => depth.sample value
  | none => .error .outOfBounds

/-- Store the first `count` lanes of a register as samples. -/
def storeWindow {lanes : Nat} (depth : Depth) (register : Register lanes) (start count : Nat)
    (buffer : Array Int) : Run (Array Int) :=
  store (laneSample depth register) start count buffer

/-- Compute the window with a number, and store the lanes of it that lie in a row of
`length` samples that begins at `start`. -/
def windowStep {lanes : Nat} (depth : Depth)
    (window : (first : Nat) → Except Fault (Register lanes)) (start length number : Nat)
    (buffer : Array Int) : Run (Array Int) :=
  let first := number * lanes
  match window first with
  | .ok register => storeWindow depth register (start + first) (min lanes (length - first)) buffer
  | .error fault => .stopped fault buffer

/-- Work through a row of `length` samples that begins at `start`, one window after
the other, each being stored before the next is computed. -/
def sweepWindows {lanes : Nat} (depth : Depth)
    (window : (first : Nat) → Except Fault (Register lanes)) (start length : Nat)
    (buffer : Array Int) : Run (Array Int) :=
  Run.sweep (windowStep depth window start length) (windowCount length lanes) 0 buffer

end GrainSynthesis.Lanes
