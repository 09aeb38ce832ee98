/-!
# The three planes of a picture

A picture has one luma plane and two chroma planes. Whatever exists once for
each of them is kept in a `PerPlane` record, so that a plane selects its own
part and a write to one plane leaves the other two as they were.
-/

namespace GrainSynthesis

/-- A plane of a picture: luma, or one of the two colour differences. -/
inductive Plane where
  | y
  | u
  | v
  deriving DecidableEq, Repr

namespace Plane

/-- The planes that carry colour differences, in storage order. -/
def chroma : List Plane := [u, v]

/-- Only luma is not a chroma plane. -/
def isChroma : Plane → Bool
  | y => false
  | u => true
  | v => true

/-- Planes are numbered from zero in storage order; no other number names one. -/
def ofIndex? : Nat → Option Plane
  | 0 => some y
  | 1 => some u
  | 2 => some v
  | _ => none

/-- A plane is a chroma plane exactly when the chroma list holds it. -/
theorem mem_chroma_iff (plane : Plane) : plane ∈ chroma ↔ plane.isChroma = true := by
  cases plane <;> simp [chroma, isChroma]

end Plane

/-- One value for each plane. -/
structure PerPlane (α : Type) where
  /-- The value of the luma plane. -/
  y : α
  /-- The value of the first chroma plane. -/
  u : α
  /-- The value of the second chroma plane. -/
  v : α
  deriving DecidableEq, Repr

namespace PerPlane

variable {α β : Type}

/-- The value that belongs to a plane. -/
def get (values : PerPlane α) : Plane → α
  | .y => values.y
  | .u => values.u
  | .v => values.v

/-- Replace the value of one plane. -/
def set (values : PerPlane α) (plane : Plane) (value : α) : PerPlane α :=
  match plane with
  | .y => { values with y := value }
  | .u => { values with u := value }
  | .v => { values with v := value }

/-- Apply one function to the value of every plane. -/
def map (f : α → β) (values : PerPlane α) : PerPlane β :=
  ⟨f values.y, f values.u, f values.v⟩

/-- The three values in storage order. -/
def toList (values : PerPlane α) : List α := [values.y, values.u, values.v]

/-- A value that was set is the one found, and the other planes keep theirs. -/
theorem get_set (values : PerPlane α) (written read : Plane) (value : α) :
    (values.set written value).get read = if read = written then value else values.get read := by
  cases written <;> cases read <;> rfl

/-- Mapping acts on each plane by itself. -/
theorem get_map (f : α → β) (values : PerPlane α) (plane : Plane) :
    (values.map f).get plane = f (values.get plane) := by
  cases plane <;> rfl

/-- Two records with equal values on every plane are equal. -/
theorem ext_get {left right : PerPlane α} (same : ∀ plane, left.get plane = right.get plane) :
    left = right := by
  cases left
  cases right
  simpa [get] using And.intro (same .y) (And.intro (same .u) (same .v))

end PerPlane

end GrainSynthesis
