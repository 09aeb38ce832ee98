import GrainSynthesis.Proofs.StripIdeal
import GrainSynthesis.Proofs.StripParts

/-!
# What a completed call has stored

The ideal samples of a strip are defined for any arguments, also for samples and noise
entries that no depth has. A call on such arguments can meet a fault. But where it does
not, it has computed the ideal sample: every step of the computation either gives the
exact number or ends the call. So whenever a call completes, whatever it was given, the
element that a row and a column own holds their ideal sample, and elements that no
window holds are as they were.

What is true of two completed calls can therefore be shown of their ideal samples.
-/

namespace GrainSynthesis

namespace ScalingTable

/-- An entry that is found is that of its position. -/
theorem level_of_entry (table : ScalingTable) (position : Nat) (found : Int)
    (entry : table.entry position = .ok found) : found = table.level position := by
  rw [ScalingTable.entry] at entry
  split at entry
  · rename_i stored held
    rw [level, held]
    exact (Except.ok.inj entry).symm
  · cases entry

/-- A position that a number names is that number. -/
theorem toNat_of_position (index : Int) (found : Nat) (named : position index = .ok found) :
    found = index.toNat := by
  rw [position] at named
  split at named
  · exact (Except.ok.inj named).symm
  · cases named

/-- A factor that is found at a key is the strength there, whatever the key. -/
theorem strength_of_factor (table : ScalingTable) (depth : Depth) (key found : Int)
    (factor : table.factor depth key = .ok found) : found = table.strength depth key := by
  cases depth with
  | eight =>
    obtain ⟨index, named, entry⟩ := (bind_eq_ok_iff _ _ _).mp factor
    obtain rfl := toNat_of_position key index named
    exact table.level_of_entry _ _ entry
  | ten =>
    obtain ⟨index, named, entries⟩ := (bind_eq_ok_iff _ _ _).mp factor
    obtain ⟨start, startEntry, rest⟩ := (bind_eq_ok_iff _ _ _).mp entries
    obtain ⟨stop, stopEntry, given⟩ := (bind_eq_ok_iff _ _ _).mp rest
    obtain rfl := toNat_of_position _ index named
    obtain rfl := table.level_of_entry _ _ startEntry
    obtain rfl := table.level_of_entry _ _ stopEntry
    rw [← Except.ok.inj given, strength, nearest_quarter]
    rfl

end ScalingTable

namespace Noise

/-- A rounded shift that meets no fault gives the nearest integer. -/
theorem nearest_of_roundShift (value found : Int) (shift : Nat)
    (shifted : roundShift value shift = .ok found) : found = nearest (value / 2 ^ shift) := by
  rw [nearest_div_two_pow, roundedShift]
  rw [roundShift] at shifted
  split at shifted
  · rename_i unshifted
    rw [if_pos unshifted]
    exact (Except.ok.inj shifted).symm
  · rename_i moved
    obtain ⟨sum, fits, given⟩ := (bind_eq_ok_iff _ _ _).mp shifted
    obtain ⟨_, rfl⟩ := (Word.signed_eq_ok_iff _ _).mp fits
    rw [if_neg moved]
    exact (Except.ok.inj given).symm

/-- A sample to which noise was added is the ideal one, whatever was added to what. -/
theorem ideal_of_add (setting : Setting) (key sample entry found : Int)
    (added : add setting key sample entry = .ok found) :
    found = ideal setting key sample entry := by
  obtain ⟨factor, looked, rest⟩ := (bind_eq_ok_iff _ _ _).mp added
  obtain ⟨noise, scaling, sums⟩ := (bind_eq_ok_iff _ _ _).mp rest
  obtain ⟨sum, fits, stored⟩ := (bind_eq_ok_iff _ _ _).mp sums
  obtain ⟨product, multiplied, shifted⟩ := (bind_eq_ok_iff _ _ _).mp scaling
  obtain rfl := setting.table.strength_of_factor _ _ _ looked
  obtain ⟨_, rfl⟩ := (Word.signed_eq_ok_iff _ _).mp multiplied
  obtain rfl := nearest_of_roundShift _ _ _ shifted
  obtain ⟨_, rfl⟩ := (Word.signed_eq_ok_iff _ _).mp fits
  exact ((setting.depth.sample_eq_ok_iff _ _).mp stored).2

end Noise

namespace LumaJob

/-- A result that is found in rows that hold values is the ideal one. -/
theorem idealAt_of_sampleAt (job : LumaJob) (found : Rows) (source noise : Nat → Int)
    (sourceHeld : Holds found.source job.extent.width source)
    (noiseHeld : Holds found.noise job.extent.width noise) (column : Nat)
    (inside : column < job.extent.width) (sample : Int)
    (computed : job.sampleAt found column = .ok sample) :
    sample = job.idealAt source noise column := by
  simp only [sampleAt, sourceHeld.elementAt column inside, noiseHeld.elementAt column inside,
    bind, Except.bind] at computed
  exact Noise.ideal_of_add _ _ _ _ _ computed

end LumaJob

namespace ChromaJob

/-- A key that was mixed is the exact one, whatever was mixed. -/
theorem mixed_of_mixedKey (depth : Depth) (mix : KeyMix) (average sample found : Int)
    (key : mixedKey depth mix average sample = .ok found) :
    found = mixed depth mix average sample := by
  obtain ⟨fromLuma, fitsLuma, rest⟩ := (bind_eq_ok_iff _ _ _).mp key
  obtain ⟨fromChroma, fitsChroma, sums⟩ := (bind_eq_ok_iff _ _ _).mp rest
  obtain ⟨combined, fits, shifts⟩ := (bind_eq_ok_iff _ _ _).mp sums
  obtain ⟨shifted, fitsShifted, given⟩ := (bind_eq_ok_iff _ _ _).mp shifts
  obtain ⟨_, rfl⟩ := (Word.signed_eq_ok_iff _ _).mp fitsLuma
  obtain ⟨_, rfl⟩ := (Word.signed_eq_ok_iff _ _).mp fitsChroma
  obtain ⟨_, rfl⟩ := (Word.signed_eq_ok_iff _ _).mp fits
  obtain ⟨_, rfl⟩ := (Word.signed_eq_ok_iff _ _).mp fitsShifted
  rw [← Except.ok.inj given, mixed, weighted, floor_sixtyFourths]
  rfl

/-- A key that was found is the ideal one. -/
theorem idealKey_of_key (job : ChromaJob) (mode : KeyMode) (average sample found : Int)
    (key : job.key mode average sample = .ok found) :
    found = job.idealKey mode average sample := by
  cases mode with
  | luma => exact (Except.ok.inj key).symm
  | mixed => exact mixed_of_mixedKey job.depth _ average sample found key

/-- A result that is found in rows that hold values is the ideal one. -/
theorem idealAt_of_sampleAt (job : ChromaJob) (mode : KeyMode) (found : Rows)
    (luma source noise : Nat → Int) (lumaHeld : Holds found.luma job.extent.width luma)
    (sourceHeld : Holds found.source job.columns source)
    (noiseHeld : Holds found.noise job.columns noise) (column : Nat)
    (inside : column < job.columns) (sample : Int)
    (computed : job.sampleAt mode found column = .ok sample) :
    sample = job.idealAt mode luma source noise column := by
  have average := averageLuma_eq_mean found.luma luma job.extent.width job.subsampling.x column
    lumaHeld (fun single => by simpa [columns, single] using inside)
    (fun double => Subsampling.double_lt job.extent.width job.subsampling.x column double inside)
  simp only [sampleAt, average, sourceHeld.elementAt column inside,
    noiseHeld.elementAt column inside, bind, Except.bind] at computed
  obtain ⟨scalingKey, keyed, added⟩ := (bind_eq_ok_iff _ _ _).mp computed
  obtain rfl := job.idealKey_of_key mode _ _ _ keyed
  exact Noise.ideal_of_add _ _ _ _ _ added

end ChromaJob

namespace StripJob

/-- A stroke that is found computes ideal samples only. -/
theorem idealSample_of_stroke (job : StripJob) (plane : Plane) (layout : Layout) (size row : Nat)
    (found : Stroke Int) (given : job.stroke plane layout size row = .ok found) (column : Nat)
    (inside : column < (job.visible plane).width) (sample : Int)
    (computed : found.sample column = .ok sample) :
    sample = job.idealSample plane row column := by
  rw [stroke] at given
  by_cases noisy : job.parameters.appliesTo plane = true
  · rw [if_pos noisy] at given
    by_cases chromaPlane : plane.isChroma = true
    · rw [job.grainStroke_of_isChroma plane chromaPlane] at given
      rw [job.visible_of_isChroma plane chromaPlane] at inside
      obtain ⟨rows, located, rfl⟩ := (ChromaJob.stroke_eq_ok_iff _ _ _ _ _ _ _).mp given
      obtain ⟨luma, source, noise, _, rfl⟩ := (ChromaJob.rows_eq_ok_iff _ _ _ _ _ _).mp located
      rw [← job.idealSample_chroma plane chromaPlane noisy row column]
      exact (job.chromaJob plane (job.noiseStart plane)).idealAt_of_sampleAt _ _ _ _ _
        (job.source.y.window_holds _ _ luma) ((job.source.get plane).window_holds _ _ source)
        ((job.noise.get plane).window_holds _ _ noise) column inside sample computed
    · obtain rfl := plane.eq_y_of_not_isChroma chromaPlane
      obtain ⟨rows, located, rfl⟩ := (LumaJob.stroke_eq_ok_iff _ _ _ _ _).mp given
      obtain ⟨source, noise, _, rfl⟩ := (LumaJob.rows_eq_ok_iff _ _ _ _ _).mp located
      rw [← job.idealSample_luma noisy row column]
      exact job.lumaJob.idealAt_of_sampleAt _ _ _ (job.source.y.window_holds _ _ source)
        (job.noise.y.window_holds _ _ noise) column inside sample computed
  · rw [if_neg noisy] at given
    obtain ⟨_, source, rfl⟩ := (copyStroke_eq_ok_iff _ _ _ _ _ _).mp given
    have held := ((job.source.get plane).window_holds _ _ source).elementAt column inside
    rw [idealSample, if_neg noisy]
    exact (Except.ok.inj (held.symm.trans computed)).symm

/-- Each visible row of a plane that was painted is reached in the destination and in the
source. -/
theorem reaches_of_paintPlane (job : StripJob) (plane : Plane) (target painted : Raster Int)
    (done : job.paintPlane plane target = .done painted) (row : Nat)
    (inside : row < (job.visible plane).height) :
    target.layout.Reaches target.samples.size row (job.visible plane).width ∧
      (job.source.get plane).layout.Reaches (job.source.get plane).samples.size row
        (job.visible plane).width := by
  obtain ⟨found, given, _⟩ := Raster.strokes_of_paint_done _ _ _ _ _ done row inside
  obtain ⟨written, read, _⟩ := job.reaches_of_stroke plane _ _ row found given
  exact ⟨written, read⟩

/-- The strokes of a plane that was painted have given the ideal samples of their rows. -/
theorem gives_of_paintPlane (job : StripJob) (plane : Plane) (target painted : Raster Int)
    (done : job.paintPlane plane target = .done painted) (row : Nat)
    (inside : row < (job.visible plane).height) :
    Raster.Gives target.layout (job.visible plane).width row (job.idealSample plane row)
      (job.stroke plane target.layout target.samples.size row) := by
  obtain ⟨⟨start, sample⟩, given, computed⟩ := Raster.strokes_of_paint_done _ _ _ _ _ done row inside
  obtain ⟨_, _, begins⟩ := job.reaches_of_stroke plane _ _ row _ given
  obtain rfl : start = target.layout.first row := begins
  refine ⟨sample, given, ?_⟩
  intro column below
  obtain ⟨found, stored⟩ := computed column below
  have ideal := job.idealSample_of_stroke plane _ _ row _ given column below found stored
  exact ideal ▸ stored

/-- A plane that was painted keeps its layout and its length, and an element of it holds the
ideal sample of its owner. -/
theorem contents_of_paintPlane (job : StripJob) (plane : Plane) (target painted : Raster Int)
    (done : job.paintPlane plane target = .done painted) :
    painted.layout = target.layout ∧ painted.samples.size = target.samples.size ∧
      ∀ index < target.samples.size, painted.samples[index]? =
        match target.layout.owner? (job.visible plane).width (job.visible plane).height index with
        | some (row, column) => some (job.idealSample plane row column)
        | none => target.samples[index]? := by
  -- Strokes that give the ideal samples paint a known plane, and painting has one result.
  obtain ⟨left, again, contents⟩ := target.paint_of_gives _ _ _ _
    (job.gives_of_paintPlane plane target painted done)
  obtain rfl : left = painted := Run.done.inj (again.symm.trans done)
  exact contents

/-- A completed call keeps the layout of each plane. -/
theorem layout_of_done (job : StripJob) (target left : PerPlane (Raster Int))
    (done : job.apply .plain target = .ran (.done left)) (plane : Plane) :
    (left.get plane).layout = (target.get plane).layout := by
  obtain ⟨_, _, _, planes⟩ := (job.apply_eq_done_iff target left).mp done
  exact (job.contents_of_paintPlane plane _ _ (planes plane).2).1

/-- Where destination rows do not overlap, a completed call has stored the ideal sample of
each visible place there. -/
theorem ideal_of_done (job : StripJob) (target left : PerPlane (Raster Int))
    (done : job.apply .plain target = .ran (.done left)) (plane : Plane)
    (apart : (job.visible plane).width ≤ (target.get plane).layout.stride) (row column : Nat)
    (rowInside : row < (job.visible plane).height)
    (columnInside : column < (job.visible plane).width) :
    (left.get plane).samples[(target.get plane).layout.first row + column]? =
      some (job.idealSample plane row column) := by
  obtain ⟨_, _, _, planes⟩ := (job.apply_eq_done_iff target left).mp done
  have painted := (planes plane).2
  obtain ⟨_, _, contents⟩ := job.contents_of_paintPlane plane _ _ painted
  have ends := (job.reaches_of_paintPlane plane _ _ painted row rowInside).1.first_add_le
  exact (target.get plane).getElem?_of_owned _ _ _ _ apart contents row column rowInside
    columnInside (by omega)

/-- It is what the plane that is left holds at that place. -/
theorem stored_of_done (job : StripJob) (target left : PerPlane (Raster Int))
    (done : job.apply .plain target = .ran (.done left)) (plane : Plane)
    (apart : (job.visible plane).width ≤ (target.get plane).layout.stride) (row column : Nat)
    (rowInside : row < (job.visible plane).height)
    (columnInside : column < (job.visible plane).width) :
    (left.get plane).samples[(left.get plane).layout.first row + column]? =
      some (job.idealSample plane row column) := by
  rw [job.layout_of_done target left done plane]
  exact job.ideal_of_done target left done plane apart row column rowInside columnInside

/-- A completed call leaves every element outside the visible windows as it was. -/
theorem untouched_of_done (job : StripJob) (target left : PerPlane (Raster Int))
    (done : job.apply .plain target = .ran (.done left)) (plane : Plane) (index : Nat)
    (outside : ∀ row < (job.visible plane).height,
      ¬ ((target.get plane).layout.first row ≤ index ∧
        index < (target.get plane).layout.first row + (job.visible plane).width)) :
    (left.get plane).samples[index]? = (target.get plane).samples[index]? := by
  obtain ⟨_, _, _, planes⟩ := (job.apply_eq_done_iff target left).mp done
  obtain ⟨_, size, contents⟩ := job.contents_of_paintPlane plane _ _ (planes plane).2
  have unowned := ((target.get plane).layout.owner?_eq_none_iff _ _ index).mpr outside
  by_cases inside : index < (target.get plane).samples.size
  · rw [contents index inside, unowned]
  · rw [Array.getElem?_eq_none (by omega), Array.getElem?_eq_none (by omega)]

/-- Two completed calls leave the same element of a plane, when they began with the same plane
and the ideal samples of the element's owner are equal. -/
theorem getElem?_eq_of_done (job other : StripJob)
    (target otherTarget left otherLeft : PerPlane (Raster Int))
    (done : job.apply .plain target = .ran (.done left))
    (otherDone : other.apply .plain otherTarget = .ran (.done otherLeft)) (plane : Plane)
    (begins : target.get plane = otherTarget.get plane)
    (visible : job.visible plane = other.visible plane) (index : Nat)
    (same : ∀ row column, (target.get plane).layout.owner? (job.visible plane).width
        (job.visible plane).height index = some (row, column) →
      job.idealSample plane row column = other.idealSample plane row column) :
    (left.get plane).samples[index]? = (otherLeft.get plane).samples[index]? := by
  obtain ⟨_, _, _, planes⟩ := (job.apply_eq_done_iff target left).mp done
  obtain ⟨_, _, _, otherPlanes⟩ := (other.apply_eq_done_iff otherTarget otherLeft).mp otherDone
  obtain ⟨_, size, contents⟩ := job.contents_of_paintPlane plane _ _ (planes plane).2
  obtain ⟨_, otherSize, otherContents⟩ :=
    other.contents_of_paintPlane plane _ _ (otherPlanes plane).2
  rw [← begins] at otherSize otherContents
  rw [← visible] at otherContents
  by_cases inside : index < (target.get plane).samples.size
  · rw [contents index inside, otherContents index inside]
    cases owner : (target.get plane).layout.owner? (job.visible plane).width
        (job.visible plane).height index with
    | none => rfl
    | some place => exact congrArg some (same place.1 place.2 owner)
  · rw [Array.getElem?_eq_none (by omega), Array.getElem?_eq_none (by omega)]

/-- Two completed calls leave the same of a plane, when they began with the same plane and its
ideal samples are equal. -/
theorem get_eq_of_done (job other : StripJob)
    (target otherTarget left otherLeft : PerPlane (Raster Int))
    (done : job.apply .plain target = .ran (.done left))
    (otherDone : other.apply .plain otherTarget = .ran (.done otherLeft)) (plane : Plane)
    (begins : target.get plane = otherTarget.get plane)
    (visible : job.visible plane = other.visible plane)
    (same : ∀ row < (job.visible plane).height, ∀ column < (job.visible plane).width,
      job.idealSample plane row column = other.idealSample plane row column) :
    left.get plane = otherLeft.get plane := by
  have layout := job.layout_of_done target left done plane
  have otherLayout := other.layout_of_done otherTarget otherLeft otherDone plane
  have samples : (left.get plane).samples = (otherLeft.get plane).samples := by
    apply Array.ext_getElem?
    intro index
    apply job.getElem?_eq_of_done other target otherTarget left otherLeft done otherDone plane
      begins visible index
    intro row column owner
    obtain ⟨rowInside, columnInside, _⟩ := Layout.owner?_eq_some _ _ _ _ _ _ owner
    exact same row rowInside column columnInside
  calc left.get plane = ⟨(left.get plane).samples, (left.get plane).layout⟩ := rfl
    _ = ⟨(otherLeft.get plane).samples, (otherLeft.get plane).layout⟩ := by
      rw [samples, layout, otherLayout, begins]
    _ = otherLeft.get plane := rfl

end StripJob

end GrainSynthesis
