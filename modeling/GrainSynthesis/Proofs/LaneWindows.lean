import GrainSynthesis.Proofs.LaneRegisters
import GrainSynthesis.Proofs.Painting

/-!
# Rows in windows

A row that holds values is loaded as it is: each lane has the value of its column,
and past the row the value of the last column, or zero. Only lanes in the row are
stored. So working through a row in windows, each as wide as a register, stores
the same samples in the same order as going through its columns one by one.
-/

namespace GrainSynthesis.Lanes

open Register

variable {lanes : Nat}

/-- Registers of both widths have lanes. -/
theorem VectorWidth.lanes_pos (vector : VectorWidth) : 0 < vector.lanes := by
  cases vector <;> decide

/-- Writing samples changes the lanes from the first one on, as far as there are samples. -/
theorem getElem_writeLanes (samples : List Int) (first : Nat) (register : Register lanes)
    (lane : Nat) (below : lane < lanes) :
    (writeLanes samples first register)[lane] =
      if first ≤ lane then (samples[lane - first]?.map wrap16).getD register[lane]
      else register[lane] := by
  induction samples generalizing first register with
  | nil => simp [writeLanes]
  | cons sample rest inductionHypothesis =>
    rw [writeLanes]
    split
    · rename_i inside
      rw [inductionHypothesis]
      obtain before | rfl | after := Nat.lt_trichotomy lane first
      · have notHere : ¬first ≤ lane := by omega
        have notLater : ¬first + 1 ≤ lane := by omega
        rw [if_neg notHere, if_neg notLater, Vector.getElem_set_ne _ _ (by omega)]
      · have notLater : ¬lane + 1 ≤ lane := by omega
        simp [notLater]
      · have position : lane - first = (lane - (first + 1)) + 1 := by omega
        rw [if_pos (by omega), if_pos (by omega), position, List.getElem?_cons_succ,
          Vector.getElem_set_ne _ _ (by omega)]
    · have before : ¬first ≤ lane := by omega
      rw [if_neg before]

/-- Padding with the last sample puts in each lane its own sample, or the last one. -/
theorem getElem_padLast (samples : List Int) (lane : Nat) (below : lane < lanes) :
    (padLast lanes samples)[lane] =
      wrap16 ((samples[min lane (samples.length - 1)]?).getD 0) := by
  obtain copied | filled := Nat.lt_or_ge lane samples.length
  · -- The lane is written by the copy, and the last sample goes to later ones only.
    have valid : lane < min samples.length lanes := by omega
    have own : min lane (samples.length - 1) = lane := by omega
    have written :
        (writeLanes (samples.take (min samples.length lanes)) 0 (splat lanes 0))[lane] =
          wrap16 samples[lane] := by
      simp [getElem_writeLanes, valid]
    have later : ¬min samples.length lanes ≤ lane := by omega
    rw [own, List.getElem?_eq_getElem copied, Option.getD_some, ← written, padLast]
    split
    · rw [getElem_writeLanes, if_neg later]
    · rfl
  · have all : min samples.length lanes = samples.length := by omega
    have last : min lane (samples.length - 1) = samples.length - 1 := by omega
    rw [padLast, all, List.take_length, last, ← List.getLast?_eq_getElem?]
    cases samples.getLast? with
    | none =>
      have untouched : samples[lane]? = none := List.getElem?_eq_none filled
      simp [getElem_writeLanes, untouched, splat, wrap16]
    | some sample =>
      have remaining : lane - samples.length < lanes - samples.length := by omega
      simp [getElem_writeLanes, filled, remaining]

/-- Padding with zeros puts in each lane its own sample, or zero. -/
theorem getElem_padZero (samples : List Int) (lane : Nat) (below : lane < lanes) :
    (padZero lanes samples)[lane] = wrap16 ((samples[lane]?).getD 0) := by
  rw [padZero, getElem_writeLanes, if_pos (Nat.zero_le lane), Nat.sub_zero]
  cases samples[lane]? with
  | none => simp [splat, wrap16]
  | some sample => rfl

/-- A row is read from any position up to its end. -/
theorem rowFrom_of_le (row : Array Int) (first : Nat) (inside : first ≤ row.size) :
    rowFrom row first = .ok (row.toList.drop first) :=
  if_pos inside

/-- A window of a row has in each lane the value of its column, or that of the last
column. -/
theorem edgeWindow_of_holds (lanes : Nat) (row : Array Int) (length first : Nat)
    (value : Nat → Int) (held : Holds row length value)
    (fit : ∀ column < length, Fits16 (value column)) (inside : first < length) :
    ∃ register : Register lanes, edgeWindow lanes row first = .ok register ∧
      ∀ (lane : Nat) (below : lane < lanes),
        register[lane] = value (min (first + lane) (length - 1)) := by
  obtain ⟨rfl, element⟩ := held
  refine ⟨padLast lanes (row.toList.drop first), ?_, ?_⟩
  · rw [edgeWindow, rowFrom_of_le row first (Nat.le_of_lt inside)]
    rfl
  · intro lane below
    have clamped : min (first + lane) (row.size - 1) < row.size := by omega
    have position :
        first + min lane (row.size - first - 1) = min (first + lane) (row.size - 1) := by omega
    have loaded : row.toList[min (first + lane) (row.size - 1)]? =
        some (value (min (first + lane) (row.size - 1))) := by
      rw [Array.getElem?_toList, element _ clamped]
    rw [getElem_padLast, List.length_drop, Array.length_toList, List.getElem?_drop, position,
      loaded]
    exact (fit _ clamped).wrap16_eq

/-- A window of twice as many lanes, of which the first has an even column, has the columns of a
row side by side in pairs. -/
theorem edgeWindow_pairs (lanes : Nat) (row : Array Int) (length column : Nat)
    (value : Nat → Int) (held : Holds row length value)
    (fit : ∀ column < length, Fits16 (value column)) (inside : 2 * column < length) :
    ∃ register : Register (2 * lanes), edgeWindow (2 * lanes) row (2 * column) = .ok register ∧
      ∀ (lane : Nat) (below : lane < lanes),
        register[2 * lane] = value (min (2 * (column + lane)) (length - 1)) ∧
          register[2 * lane + 1] = value (min (2 * (column + lane) + 1) (length - 1)) := by
  obtain ⟨register, loaded, lanes⟩ := edgeWindow_of_holds (2 * lanes) row length (2 * column) value
    held fit inside
  refine ⟨register, loaded, ?_⟩
  intro lane below
  have leftColumn : 2 * column + 2 * lane = 2 * (column + lane) := by omega
  have rightColumn : 2 * column + (2 * lane + 1) = 2 * (column + lane) + 1 := by omega
  rw [lanes (2 * lane) (by omega), lanes (2 * lane + 1) (by omega), leftColumn, rightColumn]
  exact ⟨rfl, rfl⟩

/-- A window of noise has in each lane the entry of its column, or zero. -/
theorem zeroWindow_of_holds (lanes : Nat) (row : Array Int) (length first : Nat)
    (value : Nat → Int) (held : Holds row length value)
    (fit : ∀ column < length, Fits16 (value column)) (inside : first < length) :
    ∃ register : Register lanes, zeroWindow lanes row first = .ok register ∧
      ∀ (lane : Nat) (below : lane < lanes),
        register[lane] = if first + lane < length then value (first + lane) else 0 := by
  obtain ⟨rfl, element⟩ := held
  refine ⟨padZero lanes (row.toList.drop first), ?_, ?_⟩
  · rw [zeroWindow, rowFrom_of_le row first (Nat.le_of_lt inside)]
    rfl
  · intro lane below
    rw [getElem_padZero, List.getElem?_drop, Array.getElem?_toList]
    split
    · rename_i stored
      rw [element _ stored]
      exact (fit _ stored).wrap16_eq
    · rename_i past
      rw [Array.getElem?_eq_none (Nat.le_of_not_lt past)]
      rfl

/-- A lane that holds a sample is stored as it is. -/
theorem laneSample_of_isSample (depth : Depth) (register : Register lanes) (lane : Nat)
    (below : lane < lanes) (sample : depth.IsSample register[lane]) :
    laneSample depth register lane = .ok register[lane] := by
  have stored : depth.sample register[lane] = .ok register[lane] :=
    (depth.sample_eq_ok_iff _ _).mpr ⟨sample, rfl⟩
  simp [laneSample, below, stored]

/-- A window computes the values of the columns from `first` on, as far as these lie in a
row. -/
def Computes (window : (first : Nat) → Except Fault (Register lanes)) (length : Nat)
    (value : Nat → Int) (first : Nat) : Prop :=
  ∃ register, window first = .ok register ∧
    ∀ (lane : Nat) (_ : lane < lanes), first + lane < length → register[lane] = value (first + lane)

/-- A window that is computed stores its columns. -/
theorem windowStep_eq_store (depth : Depth)
    (window : (first : Nat) → Except Fault (Register lanes)) (start length number : Nat)
    (value : Nat → Int) (samples : ∀ column < length, depth.IsSample (value column))
    (computes : Computes window length value (number * lanes)) (buffer : Array Int) :
    windowStep depth window start length number buffer =
      store (fun column => .ok (value (number * lanes + column))) (start + number * lanes)
        (min lanes (length - number * lanes)) buffer := by
  obtain ⟨register, found, held⟩ := computes
  rw [windowStep, found]
  apply store_congr
  intro lane stored
  have below : lane < lanes := by omega
  have inside : number * lanes + lane < length := by omega
  have same := held lane below inside
  rw [laneSample_of_isSample depth register lane below (same ▸ samples _ inside), same]

/-- The windows that cover a row are those that begin inside it. -/
theorem lt_windowCount_iff (length number : Nat) (positive : 0 < lanes) :
    number < windowCount length lanes ↔ number * lanes < length := by
  rw [windowCount, Nat.lt_iff_add_one_le, Nat.le_div_iff_mul_le positive, Nat.succ_mul]
  omega

/-- Windows cover a row of whole windows exactly. -/
theorem windowCount_mul (count : Nat) (positive : 0 < lanes) :
    windowCount (count * lanes) lanes = count := by
  rw [windowCount, Nat.add_sub_assoc positive, Nat.add_comm, Nat.add_mul_div_right _ _ positive,
    Nat.div_eq_of_lt (by omega), Nat.zero_add]

/-- The windows of a row store its columns. -/
theorem sweepWindows_eq_store (depth : Depth)
    (window : (first : Nat) → Except Fault (Register lanes)) (start length : Nat)
    (value : Nat → Int) (samples : ∀ column < length, depth.IsSample (value column))
    (positive : 0 < lanes)
    (computes : ∀ number, number * lanes < length →
      Computes window length value (number * lanes))
    (buffer : Array Int) :
    sweepWindows depth window start length buffer =
      store (fun column => .ok (value column)) start length buffer := by
  have prefixes (count : Nat) (few : count ≤ windowCount length lanes) :
      Run.sweep (windowStep depth window start length) count 0 buffer =
        store (fun column => .ok (value column)) start (min (count * lanes) length) buffer := by
    induction count with
    | zero =>
      rw [Nat.zero_mul, Nat.zero_min]
      rfl
    | succ count inductionHypothesis =>
      have first : count * lanes < length := (lt_windowCount_iff length count positive).mp few
      have reach : min ((count + 1) * lanes) length =
          count * lanes + min lanes (length - count * lanes) := by
        rw [Nat.succ_mul]
        omega
      have before : min (count * lanes) length = count * lanes := by omega
      rw [Run.sweep_succ, inductionHypothesis (by omega), before, reach, store_add, Nat.zero_add]
      congr 1
      funext left
      exact windowStep_eq_store depth window start length count value samples
        (computes count first) left
  have all : min (windowCount length lanes * lanes) length = length := by
    have past : ¬ windowCount length lanes * lanes < length := by
      intro inside
      exact Nat.lt_irrefl _ ((lt_windowCount_iff length _ positive).mpr inside)
    omega
  rw [sweepWindows, prefixes _ (Nat.le_refl _), all]

end GrainSynthesis.Lanes
