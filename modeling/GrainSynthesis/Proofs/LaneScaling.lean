import GrainSynthesis.Proofs.Ideal
import GrainSynthesis.Proofs.LaneRegisters
import GrainSynthesis.Proofs.Reach

/-!
# Scaled noise in registers

When all lanes of a register of keys are samples, a factor is found in every lane,
and it is the strength at the lane's key. When the samples and the noise entries
have the depth's ranges, every lane of the sum is the ideal result.

That no step wraps is said in two structures, one for the interpolation of a
factor and one for adding the noise. Their fields are the exact results of the
sixteen-bit operations on one lane, in order.
-/

namespace GrainSynthesis

open Register

variable {lanes : Nat}

/-- Without noise an entry is zero, and zero is an entry. -/
theorem Depth.isGrain_zero (depth : Depth) : depth.IsGrain 0 := by
  cases depth <;> decide

/-- Noise entries fit sixteen bits. -/
theorem Register.fits16_of_isGrain {depth : Depth} {value : Int} (inside : depth.IsGrain value) :
    Fits16 value := by
  obtain ⟨above, below⟩ := inside.bounds
  exact ⟨by omega, by omega⟩

/-- The exact results of interpolating between two entries fit. -/
structure ScalingTable.InterpolationFits (start stop key : Int) : Prop where
  slope : Fits16 (stop - start)
  fraction : Fits16 (key % 4 * 2 ^ 13)
  rise : Fits16 (((stop - start) * (key % 4 * 2 ^ 13) + 16384) / 32768)
  factor : Fits16 (start + ((stop - start) * (key % 4 * 2 ^ 13) + 16384) / 32768)

/-- Between bytes interpolation fits, whatever the key. -/
theorem ScalingTable.interpolationFits (start stop key : Int) (startLow : 0 ≤ start)
    (startHigh : start ≤ 255) (stopLow : 0 ≤ stop) (stopHigh : stop ≤ 255) :
    InterpolationFits start stop key := by
  obtain quarter | quarter | quarter | quarter :
      key % 4 = 0 ∨ key % 4 = 1 ∨ key % 4 = 2 ∨ key % 4 = 3 := by omega
  all_goals
    constructor <;> simp only [Fits16, quarter] <;> omega

namespace Noise

/-- The exact results of scaling an entry and adding it to a sample fit, and so do the
bounds of results. -/
structure AdditionFits (setting : Setting) (strength sample entry : Int) : Prop where
  factor : Fits16 (strength * 2 ^ (15 - setting.shift))
  noise : Fits16 ((entry * (strength * 2 ^ (15 - setting.shift)) + 16384) / 32768)
  sum : Fits16 (sample + (entry * (strength * 2 ^ (15 - setting.shift)) + 16384) / 32768)
  low : Fits16 setting.low
  high : Fits16 setting.high

/-- A byte with a coded shift in fifteen bits fits. -/
theorem fits16_shifted_byte (factor : Int) (shift : Nat) (above : 0 ≤ factor)
    (below : factor ≤ 255) (coded : GrainParameters.ShiftCoded shift) :
    Fits16 (factor * 2 ^ (15 - shift)) := by
  obtain ⟨fewest, most⟩ : 8 ≤ shift ∧ shift ≤ 11 := coded
  rw [Fits16]
  obtain rfl | rfl | rfl | rfl : shift = 8 ∨ shift = 9 ∨ shift = 10 ∨ shift = 11 := by omega
  all_goals
    norm_num
    omega

/-- Strengths with a coded shift in fifteen bits fit. -/
theorem shiftedStrength_fits (setting : Setting)
    (coded : GrainParameters.ShiftCoded setting.shift) (key : Int) :
    Fits16 (setting.table.strength setting.depth key * 2 ^ (15 - setting.shift)) := by
  obtain ⟨above, below⟩ := setting.table.strength_mem setting.depth key
  exact fits16_shifted_byte _ _ above below coded

/-- The rounded high half by which registers scale noise is the noise as it is added. -/
theorem highHalf_eq_added (setting : Setting) (coded : GrainParameters.ShiftCoded setting.shift)
    (key entry : Int) :
    (entry * (setting.table.strength setting.depth key * 2 ^ (15 - setting.shift)) + 16384) /
      32768 = added setting key entry :=
  highHalf_eq_nearest _ _ _ coded.1 coded.2

/-- Adding noise of the depth to a sample of the depth fits. -/
theorem additionFits (setting : Setting) (valid : setting.Valid) (key sample entry : Int)
    (sampleInside : setting.depth.IsSample sample) (entryInside : setting.depth.IsGrain entry) :
    AdditionFits setting (setting.table.strength setting.depth key) sample entry := by
  obtain ⟨addedLow, addedHigh⟩ := added_mem setting key entry valid.coded entryInside
  obtain ⟨sampleLow, sampleHigh⟩ := sampleInside.bounds
  have half := highHalf_eq_added setting valid.coded key entry
  exact {
    factor := shiftedStrength_fits setting valid.coded key
    noise := half ▸ ⟨by omega, by omega⟩
    sum := half ▸ ⟨by omega, by omega⟩
    low := fits16_of_isSample valid.low
    high := fits16_of_isSample valid.high }

/-- At positions of the table the entries of all lanes are found. -/
theorem laneEntries_eq (table : ScalingTable) (index : Fin lanes → Int) (offset : Nat)
    (inside : ∀ lane, 0 ≤ index lane ∧ (index lane).toNat + offset < ScalingTable.size) :
    (Vector.ofFnM fun lane => do
        let position ← ScalingTable.position (index lane)
        table.entry (position + offset)) =
      (.ok (Vector.ofFn fun lane => table.level ((index lane).toNat + offset)) :
        Except Fault (Register lanes)) := by
  rw [ofFnM_eq_ok_iff]
  intro lane
  obtain ⟨natural, stored⟩ := inside lane
  have positioned : ScalingTable.position (index lane) = .ok (index lane).toNat := by
    rw [ScalingTable.position, if_pos natural]
  have found := table.entry_eq_level _ stored
  simpa [positioned, bind, Except.bind] using found

/-- A lane that is interpolated between two entries holds the interpolated number. -/
theorem getElem_interpolated (starts stops keys : Register lanes) (lane : Nat)
    (inside : lane < lanes)
    (fits : ScalingTable.InterpolationFits starts[lane] stops[lane] keys[lane]) :
    (add16 starts (mulHighRounded (sub16 stops starts) (shiftLeft16 13 (lowBits 2 keys))))[lane] =
      starts[lane] + nearest (((stops[lane] - starts[lane]) * (keys[lane] % 4) : Int) / 4) := by
  have quarter : keys[lane] % 2 ^ 2 = keys[lane] % 4 := rfl
  have exponent : (4 : ℚ) = 2 ^ 2 := by norm_num
  simp only [getElem_add16, getElem_mulHighRounded, getElem_sub16, getElem_shiftLeft16,
    getElem_lowBits, quarter, fits.slope.wrap16_eq, fits.fraction.wrap16_eq, fits.rise.wrap16_eq,
    fits.factor.wrap16_eq]
  rw [highHalf_quarter, exponent]

/-- Where all keys are samples, a factor is found in every lane, and it is the strength at
the key. -/
theorem laneFactors_eq (table : ScalingTable) (depth : Depth) (keys : Register lanes)
    (samples : ∀ (lane : Nat) (_ : lane < lanes), depth.IsSample keys[lane]) :
    ∃ factors : Register lanes, laneFactors table depth keys = .ok factors ∧
      ∀ (lane : Nat) (_ : lane < lanes), factors[lane] = table.strength depth keys[lane] := by
  cases depth with
  | eight =>
    refine ⟨_, laneEntries_eq table (fun lane => keys[lane]) 0 ?_, ?_⟩
    · intro lane
      obtain ⟨above, below⟩ : 0 ≤ keys[lane] ∧ keys[lane] ≤ 255 := samples lane lane.isLt
      refine ⟨above, ?_⟩
      rw [ScalingTable.size]
      omega
    · intro lane inside
      rw [Vector.getElem_ofFn]
      rfl
  | ten =>
    have quotients (lane : Fin lanes) : 0 ≤ keys[lane] / 4 ∧ (keys[lane] / 4).toNat + 1 <
        ScalingTable.size := by
      obtain ⟨above, below⟩ : 0 ≤ keys[lane] ∧ keys[lane] ≤ 1023 := samples lane lane.isLt
      rw [ScalingTable.size]
      omega
    have starts := laneEntries_eq table (fun lane => keys[lane] / 4) 0 fun lane =>
      ⟨(quotients lane).1, Nat.lt_of_succ_lt (quotients lane).2⟩
    have stops := laneEntries_eq table (fun lane => keys[lane] / 4) 1 quotients
    simp only [Nat.add_zero] at starts
    refine ⟨_, (bind_eq_ok_iff _ _ _).mpr
      ⟨_, starts, (bind_eq_ok_iff _ _ _).mpr ⟨_, stops, rfl⟩⟩, ?_⟩
    intro lane inside
    obtain ⟨startLow, startHigh⟩ := table.level_mem (keys[lane] / 4).toNat
    obtain ⟨stopLow, stopHigh⟩ := table.level_mem ((keys[lane] / 4).toNat + 1)
    have fits := ScalingTable.interpolationFits _ _ keys[lane] startLow startHigh stopLow stopHigh
    rw [getElem_interpolated _ _ _ lane inside]
    · simp [ScalingTable.strength]
    · simpa using fits

/-- Adding noise finds every lane, and each is the ideal result. -/
theorem laneAdd_eq (setting : Setting) (valid : setting.Valid)
    (ordered : setting.low ≤ setting.high) (keys samples entries : Register lanes)
    (keysInside : ∀ (lane : Nat) (_ : lane < lanes), setting.depth.IsSample keys[lane])
    (samplesInside : ∀ (lane : Nat) (_ : lane < lanes), setting.depth.IsSample samples[lane])
    (entriesInside : ∀ (lane : Nat) (_ : lane < lanes), setting.depth.IsGrain entries[lane]) :
    ∃ results, laneAdd setting keys samples entries = .ok results ∧
      ∀ (lane : Nat) (_ : lane < lanes),
        results[lane] = ideal setting keys[lane] samples[lane] entries[lane] := by
  obtain ⟨factors, found, strengths⟩ := laneFactors_eq setting.table setting.depth keys keysInside
  refine ⟨_, (bind_eq_ok_iff _ _ _).mpr ⟨factors, found, rfl⟩, ?_⟩
  intro lane inside
  have fits := additionFits setting valid keys[lane] samples[lane] entries[lane]
    (samplesInside lane inside) (entriesInside lane inside)
  simp only [getElem_minLanes, getElem_maxLanes, getElem_add16, getElem_mulHighRounded,
    getElem_shiftLeft16, getElem_splat, strengths lane inside, fits.factor.wrap16_eq,
    fits.noise.wrap16_eq, fits.sum.wrap16_eq, fits.low.wrap16_eq, fits.high.wrap16_eq]
  rw [min_max_eq_clip _ _ _ ordered, highHalf_eq_added setting valid.coded, ideal]

end Noise

end GrainSynthesis
