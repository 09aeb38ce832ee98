import GrainSynthesis.Feature
import GrainSynthesis.Lanes.Compound
import GrainSynthesis.Lanes.Grain

/-!
# Choosing kernels

Each of the three blends exists in three forms: sample by sample, in registers
of 128 bits, and in registers of 256 bits. A table names a form for each blend.
A form that the processor cannot run when it is called hands over to the next
lower one, so a table may be made from any features on any processor.
-/

namespace GrainSynthesis

/-- A form of a blend. -/
inductive Tier where
  /-- Sample by sample. -/
  | plain
  /-- In registers of 128 bits, which need SSE4.1. -/
  | sse41
  /-- In registers of 256 bits, which need AVX2. -/
  | avx2
  deriving DecidableEq, Repr

namespace Tier

/-- The form that a processor runs when this one is called. -/
def settle (host : FeatureSet) : Tier → Tier
  | plain => plain
  | sse41 => if host.sse41 then sse41 else plain
  | avx2 => if host.avx2 then avx2 else if host.sse41 then sse41 else plain

/-- Take a form if its feature is among those that may be used, or stay with what
was chosen before. -/
def upgrade (allowed : Bool) (better chosen : Tier) : Tier := if allowed then better else chosen

/-- The highest form that the features allow. -/
def ofFeatures (features : FeatureSet) : Tier :=
  upgrade features.avx2 avx2 (upgrade features.sse41 sse41 plain)

/-- A processor without features runs every form sample by sample. -/
theorem settle_empty (tier : Tier) : tier.settle .empty = plain := by
  cases tier <;> rfl

/-- What a processor runs needs no feature that it lacks: called again, it runs the
same form. -/
theorem settle_settle (host : FeatureSet) (tier : Tier) :
    (tier.settle host).settle host = tier.settle host := by
  obtain ⟨sse41Present, avx2Present⟩ := host
  cases tier <;> cases sse41Present <;> cases avx2Present <;> rfl

/-- The register width of a form, if it works in registers. -/
def vector? : Tier → Option Lanes.VectorWidth
  | plain => none
  | sse41 => some .bits128
  | avx2 => some .bits256

end Tier

namespace CompoundJob

/-- Blend two predictions in a form. -/
def blendIn (job : CompoundJob) (tier : Tier) (target : Raster Int) : Run (Raster Int) :=
  match tier.vector? with
  | none => job.blend target
  | some vector => job.blendLanes vector target

end CompoundJob

namespace LumaJob

/-- Blend noise into luma in a form. -/
def blendIn (job : LumaJob) (tier : Tier) (target : Raster Int) : Run (Raster Int) :=
  match tier.vector? with
  | none => job.blend target
  | some vector => job.blendLanes vector target

end LumaJob

namespace ChromaJob

/-- Blend noise into a chroma plane in a form. -/
def blendIn (job : ChromaJob) (mode : KeyMode) (tier : Tier) (target : Raster Int) :
    Run (Raster Int) :=
  match tier.vector? with
  | none => job.blend mode target
  | some vector => job.blendLanes mode vector target

end ChromaJob

/-- The form of each blend. -/
structure KernelTable where
  compound : Tier
  luma : Tier
  chroma : KeyMode → Tier

namespace KernelTable

/-- Every blend goes sample by sample. -/
def plain : KernelTable := ⟨.plain, .plain, fun _ => .plain⟩

/-- Every blend has the highest form that the features allow. -/
def ofFeatures (features : FeatureSet) : KernelTable :=
  ⟨.ofFeatures features, .ofFeatures features, fun _ => .ofFeatures features⟩

end KernelTable

/-- The blends as they can be called: a table and the processor that runs it. -/
structure Kernels where
  host : FeatureSet
  table : KernelTable

namespace Kernels

/-- Every blend goes sample by sample, on any processor. -/
def plain : Kernels := ⟨.empty, .plain⟩

/-- Blend two predictions. -/
def compound (kernels : Kernels) (job : CompoundJob) (target : Raster Int) : Run (Raster Int) :=
  job.blendIn (kernels.table.compound.settle kernels.host) target

/-- Blend noise into luma. -/
def luma (kernels : Kernels) (job : LumaJob) (target : Raster Int) : Run (Raster Int) :=
  job.blendIn (kernels.table.luma.settle kernels.host) target

/-- Blend noise into a chroma plane. -/
def chroma (kernels : Kernels) (mode : KeyMode) (job : ChromaJob) (target : Raster Int) :
    Run (Raster Int) :=
  job.blendIn mode ((kernels.table.chroma mode).settle kernels.host) target

/-- Plain kernels blend predictions sample by sample. -/
@[simp] theorem plain_compound (job : CompoundJob) (target : Raster Int) :
    plain.compound job target = job.blend target := rfl

/-- Plain kernels blend noise into luma sample by sample. -/
@[simp] theorem plain_luma (job : LumaJob) (target : Raster Int) :
    plain.luma job target = job.blend target := rfl

/-- Plain kernels blend noise into chroma sample by sample. -/
@[simp] theorem plain_chroma (mode : KeyMode) (job : ChromaJob) (target : Raster Int) :
    plain.chroma mode job target = job.blend mode target := rfl

end Kernels

end GrainSynthesis
