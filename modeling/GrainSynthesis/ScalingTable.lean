import GrainSynthesis.Arithmetic

/-!
# Scaling tables

A scaling table says how strongly noise shows at each intensity. It has one
entry for each of the 256 eight-bit intensities and a guard entry after them.

Eight-bit keys select an entry. A ten-bit key lies a quarter, a half or three
quarters of the way from one entry to the next, and the factor is interpolated
there; the guard entry is the successor of the last one. Entries are bytes, so
no step of the interpolation can leave a 32-bit word.
-/

namespace GrainSynthesis

/-- The number of entries of a scaling table, the guard entry included. -/
def ScalingTable.size : Nat := 257

/-- A scaling factor for each intensity. -/
structure ScalingTable where
  entries : Vector UInt8 ScalingTable.size
  deriving DecidableEq

namespace ScalingTable

/-- Take a table from entries that have the right number. -/
def ofEntries (entries : Array UInt8) : Except Rejection ScalingTable :=
  if complete : entries.size = size then .ok ⟨entries, complete⟩
  else .error (.tableLength entries.size)

/-- The entry at a position. -/
def entry (table : ScalingTable) (position : Nat) : Except Fault Int :=
  match table.entries[position]? with
  | some factor => .ok factor.toNat
  | none => .error .outOfBounds

/-- The position that a number names; a negative number names none. -/
def position (index : Int) : Except Fault Nat :=
  if 0 ≤ index then .ok index.toNat else .error .outOfBounds

/-- The value `quarters` quarters of the way from `start` to `stop`, rounded to the
nearest integer with a half going upward. -/
def interpolate (start stop quarters : Int) : Int :=
  start + roundedShift ((stop - start) * quarters) 2

/-- The scaling factor at a key. -/
def factor (table : ScalingTable) (depth : Depth) (key : Int) : Except Fault Int :=
  match depth with
  | .eight => do
    let index ← position key
    table.entry index
  | .ten => do
    let index ← position (key / 4)
    let start ← table.entry index
    let stop ← table.entry (index + 1)
    return interpolate start stop (key % 4)

/-- Exactly 257 entries make a table, and it holds them. -/
theorem ofEntries_eq_ok_iff (entries : Array UInt8) (table : ScalingTable) :
    ofEntries entries = .ok table ↔ table.entries.toArray = entries := by
  constructor
  · intro accepted
    unfold ofEntries at accepted
    split at accepted
    · injection accepted with same
      exact same ▸ rfl
    · cases accepted
  · intro same
    subst same
    simp [ofEntries]

/-- Every stored entry is a byte. -/
theorem entry_mem (table : ScalingTable) (index : Nat) (factor : Int)
    (found : table.entry index = .ok factor) : 0 ≤ factor ∧ factor ≤ 255 := by
  unfold entry at found
  split at found
  · rename_i stored _
    injection found with same
    have bounded := stored.toNat_lt
    omega
  · cases found

/-- There is an entry exactly at the positions below 257. -/
theorem entry_isOk_iff (table : ScalingTable) (index : Nat) :
    (∃ factor, table.entry index = .ok factor) ↔ index < size := by
  by_cases inside : index < size <;> simp [entry, inside]

end ScalingTable

end GrainSynthesis
