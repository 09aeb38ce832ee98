import GrainSynthesis.Proofs.LaneKeys
import GrainSynthesis.Proofs.LumaLanes

/-!
# Maps over rows, in windows

The loop of every blend in registers loads a window of samples and one of noise, computes
each lane from the two values in it and stores the lanes that lie in the row. What it
computes does not matter to the loop: for any function of two values it is a map over the
two rows, and the width of a register, and what it leaves of a row for the last window, is
not seen in the result.

What the loop computes from in the lanes past the end of a row matters only to a table that
is asked for them. Each of them repeats the last sample, so a lookup that succeeds for the
samples of a row succeeds in every lane.

A chroma row whose columns are shared takes its keys from a luma window twice as wide. The
two run out at different columns when the luma width is odd, and the last chroma column then
has the last luma sample twice, as it has column by column.
-/

namespace GrainSynthesis

/-- An array holds its elements. -/
theorem holds_getD (cells : Array Int) : Holds cells cells.size (cells.getD · 0) where
  size := rfl
  element := fun position inside => by simp [Array.getD, inside]

/-- What is true of the values that an array holds is true of its elements. -/
theorem Holds.forall_mem {cells : Array Int} {length : Nat} {value : Nat → Int}
    {property : Int → Prop} (holds : Holds cells length value)
    (every : ∀ position < length, property (value position)) :
    ∀ element ∈ cells, property element := by
  obtain ⟨rfl, held⟩ := holds
  intro element member
  obtain ⟨position, inside, rfl⟩ := Array.mem_iff_getElem.mp member
  have same := (Array.getElem?_eq_getElem inside).symm.trans (held position inside)
  exact Option.some.inj same ▸ every position inside

/-- What is true of all elements of an array is true at each of its positions. -/
theorem getD_of_forall_mem {cells : Array Int} {property : Int → Prop}
    (every : ∀ value ∈ cells, property value) (position : Nat) (inside : position < cells.size) :
    property (cells.getD position 0) := by
  have same := Array.getElem_eq_getD (h := inside) 0
  exact same ▸ every _ (Array.getElem_mem inside)

namespace Lanes

open Register

variable {lanes : Nat}

/-- The window of a map over two rows: each lane is computed from the sample and the noise
entry in it. -/
def mapWindow (lanes : Nat) (f : Int → Int → Int) (source noise : Array Int) (first : Nat) :
    Except Fault (Register lanes) := do
  let samples ← edgeWindow lanes source first
  let entries ← zeroWindow lanes noise first
  return Vector.zipWith f samples entries

/-- What a map over two rows gives at a column, read column by column. -/
def mapAt (f : Int → Int → Int) (source noise : Array Int) (column : Nat) : Except Fault Int := do
  let sample ← elementAt source column
  let entry ← elementAt noise column
  return f sample entry

/-- What two rows are mapped to at a column, in terms of what they hold. -/
def mapped (f : Int → Int → Int) (source noise : Array Int) (column : Nat) : Int :=
  f (source.getD column 0) (noise.getD column 0)

/-- Two rows of one length whose values fit a lane, and a function whose results on them are
samples of a depth. Nothing is asked of its results elsewhere. -/
structure Mappable (depth : Depth) (f : Int → Int → Int) (source noise : Array Int) : Prop where
  sameLength : noise.size = source.size
  sourceFits : ∀ value ∈ source, Fits16 value
  noiseFits : ∀ value ∈ noise, Fits16 value
  samples : ∀ (column : Nat) (inside : column < source.size),
    depth.IsSample (f source[column] noise[column])

/-- The columns of a row that the window with a number stores. -/
def Stores (lanes length number column : Nat) : Prop :=
  number * lanes ≤ column ∧ column < min length (number * lanes + lanes)

/-- A run has put the samples of some columns into a buffer, in which the columns are counted
from `start` on, and has left every other element as it was. -/
def Puts (start : Nat) (columns : Nat → Prop) (sample : Nat → Except Fault Int)
    (buffer : Array Int) (run : Run (Array Int)) : Prop :=
  ∃ left, run = .done left ∧ left.size = buffer.size ∧
    (∀ column, columns column →
      ∃ value, sample column = .ok value ∧ left[start + column]? = some value) ∧
    ∀ index, (∀ column, columns column → index ≠ start + column) → left[index]? = buffer[index]?

/-- Storing consecutive columns puts them into a buffer that is long enough. -/
theorem puts_store (sample : Nat → Except Fault Int) (value : Nat → Int)
    (start shift count : Nat) (columns : Nat → Prop) (buffer : Array Int)
    (consecutive : ∀ column, columns column ↔ shift ≤ column ∧ column < shift + count)
    (computed : ∀ column, columns column → sample column = .ok (value column))
    (long : start + shift + count ≤ buffer.size) :
    Puts start columns sample buffer
      (store (fun column => sample (shift + column)) (start + shift) count buffer) := by
  obtain ⟨left, done, size, contents⟩ := store_eq_done (fun column => sample (shift + column))
    (fun column => value (shift + column)) (start + shift) count buffer
    (fun column inside => computed _ ((consecutive _).mpr (by omega)))
  refine ⟨left, done, size, ?_, ?_⟩
  · intro column stored
    have ⟨above, below⟩ := (consecutive column).mp stored
    have held := contents (start + column) (by omega)
    have position : shift + (start + column - (start + shift)) = column := by omega
    rw [if_pos (by omega), position] at held
    exact ⟨value column, computed column stored, held⟩
  · intro index outside
    by_cases inside : index < buffer.size
    · rw [contents index inside, if_neg]
      rintro ⟨above, below⟩
      exact outside (index - start) ((consecutive _).mpr (by omega)) (by omega)
    · rw [Array.getElem?_eq_none (by omega), Array.getElem?_eq_none (by omega)]

/-- A column of a row is stored by exactly one of the windows that cover the row. -/
theorem exists_unique_stores (length column : Nat) (positive : 0 < lanes)
    (inside : column < length) :
    ∃! number, number < windowCount length lanes ∧ Stores lanes length number column := by
  have split : lanes * (column / lanes) + column % lanes = column := Nat.div_add_mod column lanes
  have lane : column % lanes < lanes := Nat.mod_lt column positive
  rw [Nat.mul_comm] at split
  -- The window is the quotient, and the two bounds of a window leave no other quotient.
  refine ⟨column / lanes, ⟨(lt_windowCount_iff length _ positive).mpr (by omega), ?_⟩, ?_⟩
  · constructor <;> omega
  · rintro number ⟨_, above, below⟩
    refine (Nat.div_eq_of_lt_le above ?_).symm
    rw [Nat.succ_mul]
    omega

namespace Mappable

variable {depth : Depth} {f : Int → Int → Int} {source noise : Array Int}

/-- Every column has a value in both rows, and their result is found column by column. -/
theorem mapAt_eq (rows : Mappable depth f source noise) (column : Nat)
    (inside : column < source.size) :
    ∃ sample entry, source[column]? = some sample ∧ noise[column]? = some entry ∧
      mapAt f source noise column = .ok (f sample entry) := by
  have stored : column < noise.size := rows.sameLength ▸ inside
  refine ⟨source[column], noise[column], Array.getElem?_eq_getElem inside,
    Array.getElem?_eq_getElem stored, ?_⟩
  simp [mapAt, elementAt, inside, stored, bind, Except.bind, pure, Except.pure]

/-- It is what the rows are mapped to. -/
theorem mapAt_eq_mapped (rows : Mappable depth f source noise) (column : Nat)
    (inside : column < source.size) :
    mapAt f source noise column = .ok (mapped f source noise column) := by
  simp [mapAt, mapped, elementAt, Array.getD, inside, rows.sameLength, bind, Except.bind, pure,
    Except.pure]

/-- What the rows are mapped to is a sample. -/
theorem isSample_mapped (rows : Mappable depth f source noise) (column : Nat)
    (inside : column < source.size) : depth.IsSample (mapped f source noise column) := by
  have sample := rows.samples column inside
  simpa [mapped, Array.getD, inside, rows.sameLength] using sample

/-- A window that begins inside the row computes what its columns are mapped to. -/
theorem mapWindow_computes (rows : Mappable depth f source noise) (first : Nat)
    (inside : first < source.size) :
    Computes (mapWindow lanes f source noise) source.size (mapped f source noise) first := by
  have length := rows.sameLength
  obtain ⟨samples, samplesLoaded, sampleAt⟩ := edgeWindow_of_holds lanes source source.size first _
    (holds_getD source) (getD_of_forall_mem rows.sourceFits) inside
  obtain ⟨entries, entriesLoaded, entryAt⟩ := zeroWindow_of_holds lanes noise noise.size first _
    (holds_getD noise) (getD_of_forall_mem rows.noiseFits) (by omega)
  refine ⟨Vector.zipWith f samples entries, ?_, ?_⟩
  · simp only [mapWindow, samplesLoaded, entriesLoaded, bind, Except.bind, pure, Except.pure]
  · intro lane below stored
    -- In a lane that is stored nothing is repeated and no noise is missing.
    have column : min (first + lane) (source.size - 1) = first + lane := by omega
    rw [Vector.getElem_zipWith, sampleAt lane below, entryAt lane below, column,
      if_pos (by omega), mapped]

/-- The loop of a map stores what is read and mapped column by column. -/
theorem sweepWindows_eq_store (rows : Mappable depth f source noise) (positive : 0 < lanes)
    (start : Nat) (buffer : Array Int) :
    sweepWindows depth (mapWindow lanes f source noise) start source.size buffer =
      store (mapAt f source noise) start source.size buffer := by
  rw [Lanes.sweepWindows_eq_store depth _ start source.size _ rows.isSample_mapped positive
    (fun _ inside => rows.mapWindow_computes _ inside)]
  apply store_congr
  intro column inside
  exact (rows.mapAt_eq_mapped column inside).symm

/-- The loop of a map puts the row into a buffer that is long enough. -/
theorem puts_sweepWindows (rows : Mappable depth f source noise) (positive : 0 < lanes)
    (start : Nat) (buffer : Array Int) (long : start + source.size ≤ buffer.size) :
    Puts start (· < source.size) (mapAt f source noise) buffer
      (sweepWindows depth (mapWindow lanes f source noise) start source.size buffer) := by
  rw [rows.sweepWindows_eq_store positive]
  simpa using puts_store (mapAt f source noise) (mapped f source noise) start 0 source.size
    (· < source.size) buffer (by simp) rows.mapAt_eq_mapped long

/-- A window of a map that begins inside the row puts its columns into a buffer that is long
enough. -/
theorem puts_windowStep (rows : Mappable depth f source noise) (start number : Nat)
    (first : number * lanes < source.size) (buffer : Array Int)
    (long : start + source.size ≤ buffer.size) :
    Puts start (Stores lanes source.size number) (mapAt f source noise) buffer
      (windowStep depth (mapWindow lanes f source noise) start source.size number buffer) := by
  have stored : windowStep depth (mapWindow lanes f source noise) start source.size number buffer =
      store (fun column => mapAt f source noise (number * lanes + column))
        (start + number * lanes) (min lanes (source.size - number * lanes)) buffer := by
    rw [windowStep_eq_store depth _ start source.size number _ rows.isSample_mapped
      (rows.mapWindow_computes _ first)]
    apply store_congr
    intro column inside
    exact (rows.mapAt_eq_mapped _ (by omega)).symm
  rw [stored]
  refine puts_store _ (mapped f source noise) start _ _ _ buffer ?_ ?_ (by omega)
  · intro column
    rw [Stores]
    omega
  · rintro column ⟨_, below⟩
    exact rows.mapAt_eq_mapped column (by omega)

end Mappable

/-- Every lane of a window that begins inside a row has a sample of the row, and past the end
of the row it has the last one. -/
theorem edgeWindow_of_lt (lanes : Nat) (row : Array Int) (fits : ∀ value ∈ row, Fits16 value)
    (first : Nat) (inside : first < row.size) :
    ∃ window : Register lanes, edgeWindow lanes row first = .ok window ∧
      ∀ (lane : Nat) (below : lane < lanes),
        window[lane] = row[min (first + lane) (row.size - 1)] := by
  obtain ⟨window, loaded, lanes⟩ := edgeWindow_of_holds lanes row row.size first _
    (holds_getD row) (getD_of_forall_mem fits) inside
  refine ⟨window, loaded, ?_⟩
  intro lane below
  have clamped : min (first + lane) (row.size - 1) < row.size := by omega
  exact (lanes lane below).trans (Array.getElem_eq_getD (h := clamped) 0).symm

/-- A lookup that succeeds for every sample of a row succeeds in every lane that has one. -/
theorem exists_lookups (row : Array Int) (values : Fin lanes → Int)
    (member : ∀ lane, values lane ∈ row) (lookup : Int → Except Fault Int)
    (safe : ∀ value ∈ row, ∃ found, lookup value = .ok found) :
    ∃ found : Register lanes, Vector.ofFnM (fun lane => lookup (values lane)) = .ok found := by
  refine ⟨Vector.ofFn fun lane => (lookup (values lane)).toOption.getD 0,
    (ofFnM_eq_ok_iff _ _).mpr ?_⟩
  intro lane
  obtain ⟨found, stored⟩ := safe _ (member lane)
  simp [stored, Except.toOption]

end Lanes

namespace ChromaJob

open Lanes Register

/-- A luma window twice as wide has the two neighbours of each chroma column side by side, the
right one of the last column of an odd width being its left one again. -/
theorem edgeWindow_neighbours (lanes : Nat) (luma : Array Int)
    (fits : ∀ value ∈ luma, Fits16 value) (column : Nat) (inside : column < (luma.size + 1) / 2) :
    ∃ window : Register (2 * lanes), edgeWindow (2 * lanes) luma (2 * column) = .ok window ∧
      ∀ (lane : Nat) (below : lane < lanes) (stored : column + lane < (luma.size + 1) / 2),
        window[2 * lane] = luma[2 * (column + lane)] ∧
          window[2 * lane + 1] = luma[min (2 * (column + lane) + 1) (luma.size - 1)] := by
  obtain ⟨window, loaded, lanes⟩ := edgeWindow_pairs lanes luma luma.size column _
    (holds_getD luma) (getD_of_forall_mem fits) (by omega)
  refine ⟨window, loaded, ?_⟩
  intro lane below stored
  obtain ⟨leftLane, rightLane⟩ := lanes lane below
  have left : min (2 * (column + lane)) (luma.size - 1) = 2 * (column + lane) := by omega
  have leftInside : 2 * (column + lane) < luma.size := by omega
  have rightInside : min (2 * (column + lane) + 1) (luma.size - 1) < luma.size := by omega
  rw [left] at leftLane
  exact ⟨leftLane.trans (Array.getElem_eq_getD (h := leftInside) 0).symm,
    rightLane.trans (Array.getElem_eq_getD (h := rightInside) 0).symm⟩

/-- The luma value at a chroma column of a row is the rounded mean of the two neighbours. -/
theorem averageLuma_one (luma : Array Int) (column : Nat)
    (inside : column < (luma.size + 1) / 2) :
    averageLuma luma 1 column =
      .ok ((luma[2 * column] + luma[min (2 * column + 1) (luma.size - 1)] + 1) / 2) := by
  have left : 2 * column < luma.size := by omega
  have right : min (2 * column + 1) (luma.size - 1) < luma.size := by omega
  have occupied : luma.size ≠ 0 := by omega
  simp [averageLuma, elementAt, left, right, occupied, bind, Except.bind, pure, Except.pure]

/-- In registers of both widths the sums of neighbours are exact at the chroma columns of a row,
and their rounded halves are the luma values that are found column by column. -/
theorem neighbourSums_eq (depth : Depth) (vector : VectorWidth) (luma : Array Int)
    (samples : ∀ value ∈ luma, depth.IsSample value) (column : Nat)
    (inside : column < (luma.size + 1) / 2) :
    ∃ window averages, edgeWindow (2 * vector.lanes) luma (2 * column) = .ok window ∧
      laneAverages vector luma 1 column = .ok averages ∧
        ∀ (lane : Nat) (below : lane < vector.lanes) (stored : column + lane < (luma.size + 1) / 2),
          (neighbourSums vector (lowerHalf window) (upperHalf window))[lane] =
              luma[2 * (column + lane)] +
                luma[min (2 * (column + lane) + 1) (luma.size - 1)] ∧
            averageLuma luma 1 (column + lane) = .ok averages[lane] := by
  obtain ⟨window, loaded, neighbours⟩ := edgeWindow_neighbours vector.lanes luma
    (fun value member => fits16_of_isSample (samples value member)) column inside
  have averaged : laneAverages vector luma 1 column =
      .ok (shiftRightZero16 1 (add16 (neighbourSums vector (lowerHalf window) (upperHalf window))
        (splat vector.lanes 1))) := by
    rw [laneAverages, if_neg (by decide), loaded]
    rfl
  refine ⟨window, _, loaded, averaged, ?_⟩
  intro lane below stored
  obtain ⟨leftLane, rightLane⟩ := neighbours lane below stored
  have fits := averageFits depth luma[2 * (column + lane)]
    luma[min (2 * (column + lane) + 1) (luma.size - 1)]
    (samples _ (Array.getElem_mem _)) (samples _ (Array.getElem_mem _))
  constructor
  · rw [getElem_neighbourSums vector window lane below, leftLane, rightLane, fits.sum.wrap16_eq]
  · rw [getElem_averaged vector window lane below _ _
      (Vector.getElem?_eq_some_iff.mpr ⟨_, leftLane⟩)
      (Vector.getElem?_eq_some_iff.mpr ⟨_, rightLane⟩) fits, nearest_half]
    exact averageLuma_one luma (column + lane) stored

end ChromaJob

namespace Lanes

open Register

/-- The loop over the windows of a row is a map, whatever the length of the row and the number of
lanes. It stores what the map stores column by column; each column is stored by one window and one
lane of it, with the value of the two rows there, and nothing else is written, by a window or by
the loop. Every lane of a window that begins inside the row has a sample of the row, so a lookup
is as safe in every lane as on the row. A luma window twice as wide has the two neighbours of each
chroma column that is stored side by side, also where an odd width ends; so their sums are exact,
and the rounded halves are the luma values that are found column by column. -/
theorem windows_map_rows (depth : Depth) (lanes : Nat) (positive : 0 < lanes)
    (f : Int → Int → Int) (source noise : Array Int) (rows : Mappable depth f source noise) :
    (∀ start buffer,
        sweepWindows depth (mapWindow lanes f source noise) start source.size buffer =
            store (mapAt f source noise) start source.size buffer ∧
          (start + source.size ≤ buffer.size →
            Puts start (· < source.size) (mapAt f source noise) buffer
                (sweepWindows depth (mapWindow lanes f source noise) start source.size buffer) ∧
              ∀ number < windowCount source.size lanes,
                Puts start (Stores lanes source.size number) (mapAt f source noise) buffer
                  (windowStep depth (mapWindow lanes f source noise) start source.size number
                    buffer))) ∧
      (∀ column < source.size,
        (∃ sample entry, source[column]? = some sample ∧ noise[column]? = some entry ∧
            mapAt f source noise column = .ok (f sample entry)) ∧
          ∃! number, number < windowCount source.size lanes ∧
            Stores lanes source.size number column) ∧
      (∀ (first : Nat) (inside : first < source.size), ∃ window : Register lanes,
        edgeWindow lanes source first = .ok window ∧
          (∀ (lane : Nat) (below : lane < lanes),
            window[lane] = source[min (first + lane) (source.size - 1)]) ∧
          ∀ lookup : Int → Except Fault Int,
            (∀ value ∈ source, ∃ found, lookup value = .ok found) →
              ∃ found, Vector.ofFnM (fun lane : Fin lanes => lookup window[lane]) = .ok found) ∧
      ∀ luma : Array Int, (∀ value ∈ luma, depth.IsSample value) →
        ∀ column < (luma.size + 1) / 2,
          (∃ window : Register (2 * lanes), edgeWindow (2 * lanes) luma (2 * column) = .ok window ∧
            ∀ (lane : Nat) (below : lane < lanes) (stored : column + lane < (luma.size + 1) / 2),
              window[2 * lane] + window[2 * lane + 1] =
                  luma[2 * (column + lane)] +
                    luma[min (2 * (column + lane) + 1) (luma.size - 1)] ∧
                ChromaJob.averageLuma luma 1 (column + lane) =
                  .ok ((window[2 * lane] + window[2 * lane + 1] + 1) / 2)) ∧
          ∀ vector : VectorWidth, ∃ window averages,
            edgeWindow (2 * vector.lanes) luma (2 * column) = .ok window ∧
              ChromaJob.laneAverages vector luma 1 column = .ok averages ∧
                ∀ (lane : Nat) (below : lane < vector.lanes)
                  (stored : column + lane < (luma.size + 1) / 2),
                  (ChromaJob.neighbourSums vector (ChromaJob.lowerHalf window)
                      (ChromaJob.upperHalf window))[lane] =
                      luma[2 * (column + lane)] +
                        luma[min (2 * (column + lane) + 1) (luma.size - 1)] ∧
                    ChromaJob.averageLuma luma 1 (column + lane) = .ok averages[lane] := by
  refine ⟨?_, ?_, ?_, ?_⟩
  · intro start buffer
    refine ⟨rows.sweepWindows_eq_store positive start buffer, ?_⟩
    intro long
    refine ⟨rows.puts_sweepWindows positive start buffer long, ?_⟩
    intro number counted
    have first := (lt_windowCount_iff source.size number positive).mp counted
    exact rows.puts_windowStep start number first buffer long
  · intro column inside
    exact ⟨rows.mapAt_eq column inside, exists_unique_stores source.size column positive inside⟩
  · intro first inside
    obtain ⟨window, loaded, repeated⟩ := edgeWindow_of_lt lanes source rows.sourceFits first inside
    refine ⟨window, loaded, repeated, ?_⟩
    apply exists_lookups source (fun lane => window[lane])
    intro lane
    have sample := repeated lane lane.isLt
    exact sample ▸ Array.getElem_mem _
  · intro luma lumaSamples column inside
    refine ⟨?_, fun vector =>
      ChromaJob.neighbourSums_eq depth vector luma lumaSamples column inside⟩
    obtain ⟨window, loaded, neighbours⟩ := ChromaJob.edgeWindow_neighbours lanes luma
      (fun value member => fits16_of_isSample (lumaSamples value member)) column inside
    refine ⟨window, loaded, ?_⟩
    intro lane below stored
    obtain ⟨leftLane, rightLane⟩ := neighbours lane below stored
    rw [leftLane, rightLane]
    exact ⟨rfl, ChromaJob.averageLuma_one luma (column + lane) stored⟩

/-- Five columns in windows of four lanes: the last window stores one of its lanes. The last of
three chroma columns over the same number of luma columns has the last of them twice. -/
theorem windows_map_five_columns :
    let f := fun sample entry => clip (sample + entry) 0 255
    let source := #[10, 200, 30, 250, 7]
    let noise := #[-20, 60, 5, 9, -8]
    (0 < 4 ∧ Mappable .eight f source noise) ∧
      sweepWindows .eight (mapWindow 4 f source noise) 2 5 #[1, 1, 1, 1, 1, 1, 1, 1] =
          .done #[1, 1, 0, 255, 35, 255, 0, 1] ∧
        edgeWindow 4 source 4 = .ok #v[7, 7, 7, 7] ∧
          ∃ window : Register 8, edgeWindow 8 source 4 = .ok window ∧
            window[0] + window[1] = 7 + 7 ∧ ChromaJob.averageLuma source 1 2 = .ok 7 := by
  intro f source noise
  have rows : Mappable .eight f source noise := {
    sameLength := by decide
    sourceFits := by unfold Fits16; decide
    noiseFits := by unfold Fits16; decide
    samples := by decide }
  obtain ⟨loop, _, _, luma⟩ := windows_map_rows .eight 4 (by decide) f source noise rows
  have plain : store (mapAt f source noise) 2 5 #[1, 1, 1, 1, 1, 1, 1, 1] =
      .done #[1, 1, 0, 255, 35, 255, 0, 1] := by decide
  have last : edgeWindow 4 source 4 = .ok #v[7, 7, 7, 7] := by decide
  obtain ⟨⟨window, loaded, neighbours⟩, _⟩ := luma source (by decide) 2 (by decide)
  obtain ⟨sum, average⟩ := neighbours 0 (by decide) (by decide)
  have mean : ChromaJob.averageLuma source 1 2 = .ok 7 := by
    rw [sum] at average
    exact average
  exact ⟨⟨by decide, rows⟩, (loop 2 _).1.trans plain, last, window, loaded, sum, mean⟩

end Lanes

namespace LumaJob

open Lanes

/-- Sound rows can be mapped by the ideal result of a sample and its noise. -/
theorem Sound.mappable {job : LumaJob} {found : Rows} {source noise : Nat → Int}
    (sound : job.Sound found source noise) (valid : job.setting.Valid) :
    Mappable job.depth (fun sample entry => Noise.ideal job.setting sample sample entry)
      found.source found.noise where
  sameLength := sound.noiseHeld.size.trans sound.sourceHeld.size.symm
  sourceFits := sound.sourceHeld.forall_mem fun column inside =>
    Register.fits16_of_isSample (sound.samples column inside)
  noiseFits := sound.noiseHeld.forall_mem fun column inside =>
    Register.fits16_of_isGrain (sound.entries column inside)
  samples := fun _ _ => Noise.isSample_ideal job.setting valid _ _ _

/-- The loop of a luma blend over sound rows is the loop of a map. -/
theorem sweepWindows_laneWindow (job : LumaJob) (valid : job.setting.Valid)
    (ordered : job.low ≤ job.high) (vector : VectorWidth) (found : Rows)
    (source noise : Nat → Int) (sound : job.Sound found source noise) (buffer : Array Int) :
    sweepWindows job.depth (job.laneWindow vector.lanes found) found.start job.extent.width buffer =
      sweepWindows job.depth
        (mapWindow vector.lanes (fun sample entry => Noise.ideal job.setting sample sample entry)
          found.source found.noise) found.start found.source.size buffer := by
  rw [(sound.mappable valid).sweepWindows_eq_store vector.lanes_pos, sound.sourceHeld.size,
    sweepWindows_eq_store job.depth _ found.start job.extent.width _
      (fun column _ => Noise.isSample_ideal job.setting valid _ _ _) vector.lanes_pos
      (fun _ inside => job.laneWindow_computes valid ordered vector.lanes found source noise sound _
        inside)]
  apply store_congr
  intro column inside
  simp only [mapAt, sound.sourceHeld.elementAt column inside,
    sound.noiseHeld.elementAt column inside, bind, Except.bind, pure, Except.pure]

end LumaJob

end GrainSynthesis
