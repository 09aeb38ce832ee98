import GrainSynthesis.Proofs.Ideal

/-!
# Interpolated scaling factors

Four ten-bit keys lie on each segment from one entry of a scaling table to the next. In exact
numbers the factor at a key is a point of the straight line along its segment; the table gives
the nearest integer, which never leaves the two entries.

From one key to the next the line moves by a quarter of its segment, also where the next key
begins another segment, and also on the last segment, which ends at the guard entry. So along a
table that only rises the line only rises, along one that only falls it only falls, and rounding
keeps that order over all keys.
-/

namespace GrainSynthesis

namespace ScalingTable

/-- The point that lies `quarters` quarters of the way from one number to another. -/
def between (start stop quarters : Int) : ℚ := start + (stop - start) * quarters / 4

/-- A point on the way lies between the ends, whether the way rises or falls. -/
theorem between_mem (start stop quarters : Int) (low : 0 ≤ quarters) (high : quarters ≤ 4) :
    ((min start stop : Int) : ℚ) ≤ between start stop quarters ∧
      between start stop quarters ≤ (max start stop : Int) := by
  have lowCast : (0 : ℚ) ≤ quarters := by exact_mod_cast low
  have highCast : (quarters : ℚ) ≤ 4 := by exact_mod_cast high
  rw [between]
  push_cast
  rcases le_total start stop with rises | falls
  · have risesCast : (start : ℚ) ≤ stop := by exact_mod_cast rises
    rw [min_eq_left risesCast, max_eq_right risesCast]
    constructor <;> nlinarith
  · have fallsCast : (stop : ℚ) ≤ start := by exact_mod_cast falls
    rw [min_eq_right fallsCast, max_eq_left fallsCast]
    constructor <;> nlinarith

/-- The entry at which the segment of a key begins. -/
def startLevel (table : ScalingTable) (key : Int) : Int := table.level (key / 4).toNat

/-- The entry at which the segment of a key ends. -/
def stopLevel (table : ScalingTable) (key : Int) : Int := table.level ((key / 4).toNat + 1)

/-- The straight line along the segments of a table, at a ten-bit key. -/
def line (table : ScalingTable) (key : Int) : ℚ :=
  between (table.startLevel key) (table.stopLevel key) (key % 4)

/-- The strength at a ten-bit key is the integer nearest to the line. -/
theorem strength_eq_nearest_line (table : ScalingTable) (key : Int) :
    table.strength .ten key = nearest (table.line key) := by
  rw [line, between, nearest_add]
  push_cast [strength, startLevel, stopLevel]
  rfl

/-- The strength at a ten-bit key lies between the ends of its segment. -/
theorem strength_between (table : ScalingTable) (key : Int) :
    min (table.startLevel key) (table.stopLevel key) ≤ table.strength .ten key ∧
      table.strength .ten key ≤ max (table.startLevel key) (table.stopLevel key) := by
  obtain ⟨above, below⟩ := between_mem (table.startLevel key) (table.stopLevel key) (key % 4)
    (by omega) (by omega)
  rw [strength_eq_nearest_line]
  exact nearest_mem _ _ _ above below

/-- From one key to the next the line moves by a quarter of the segment. Where the next key
begins another segment, that is the last quarter of the way to it. -/
theorem line_succ (table : ScalingTable) (key : Int) (nonneg : 0 ≤ key) :
    table.line (key + 1) =
      table.line key + ((table.stopLevel key - table.startLevel key : Int) : ℚ) / 4 := by
  by_cases last : key % 4 = 3
  · have remainder : (key + 1) % 4 = 0 := by omega
    have next : ((key + 1) / 4).toNat = (key / 4).toNat + 1 := by omega
    have joined : table.startLevel (key + 1) = table.stopLevel key := by
      rw [startLevel, next, stopLevel]
    rw [line, line, joined, remainder, last, between, between]
    push_cast
    ring
  · have remainder : (key + 1) % 4 = key % 4 + 1 := by omega
    have same : (key + 1) / 4 = key / 4 := by omega
    have sameStart : table.startLevel (key + 1) = table.startLevel key := by
      rw [startLevel, same, startLevel]
    have sameStop : table.stopLevel (key + 1) = table.stopLevel key := by
      rw [stopLevel, same, stopLevel]
    rw [line, line, sameStart, sameStop, remainder, between, between]
    push_cast
    ring

/-- The entries rise from the first to the guard entry, or stay. -/
def Rising (table : ScalingTable) : Prop :=
  ∀ (position : Nat) (inside : position + 1 < size),
    table.entries[position] ≤ table.entries[position + 1]

/-- The entries fall from the first to the guard entry, or stay. -/
def Falling (table : ScalingTable) : Prop :=
  ∀ (position : Nat) (inside : position + 1 < size),
    table.entries[position + 1] ≤ table.entries[position]

/-- The level at a position of the table is its entry. -/
theorem level_eq_toNat (table : ScalingTable) (position : Nat) (inside : position < size) :
    table.level position = (table.entries[position].toNat : Int) := by
  simp [level, inside]

/-- Along a table whose segments all point one way, or are level, the line goes that way between
any two keys. The way is 1 for up and -1 for down. -/
theorem line_goes (table : ScalingTable) (way : ℚ)
    (points : ∀ position, position + 1 < size →
      0 ≤ way * (table.level (position + 1) - table.level position : Int))
    (key : Int) (nonneg : 0 ≤ key) (count : Nat) (inside : key + count ≤ 1023) :
    0 ≤ way * (table.line (key + count) - table.line key) := by
  induction count with
  | zero => simp
  | succ count inductionHypothesis =>
    have before := inductionHypothesis (by omega)
    -- the last of the steps goes a quarter of the segment that its first key lies in
    have segment := points ((key + count) / 4).toNat (by unfold size; omega)
    have moved := table.line_succ (key + count) (by omega)
    rw [stopLevel, startLevel] at moved
    have onward : table.line (key + (count + 1 : Nat)) - table.line key =
        (table.line (key + count) - table.line key) +
          ((table.level (((key + count) / 4).toNat + 1) -
            table.level ((key + count) / 4).toNat : Int) : ℚ) / 4 := by
      rw [Nat.cast_succ, ← add_assoc, moved]
      ring
    rw [onward]
    linarith

/-- Along a rising table the line rises. -/
theorem Rising.line_mono {table : ScalingTable} (rising : table.Rising) (key other : Int)
    (nonneg : 0 ≤ key) (ordered : key ≤ other) (inside : other ≤ 1023) :
    table.line key ≤ table.line other := by
  obtain ⟨count, rfl⟩ := Int.le.dest ordered
  have goes := table.line_goes 1 (fun position below => ?_) key nonneg count inside
  · linarith
  · have rises := UInt8.le_iff_toNat_le.mp (rising position below)
    rw [one_mul, table.level_eq_toNat position (by omega), table.level_eq_toNat _ below]
    exact_mod_cast Int.sub_nonneg.mpr (Int.ofNat_le.mpr rises)

/-- Along a falling table the line falls. -/
theorem Falling.line_anti {table : ScalingTable} (falling : table.Falling) (key other : Int)
    (nonneg : 0 ≤ key) (ordered : key ≤ other) (inside : other ≤ 1023) :
    table.line other ≤ table.line key := by
  obtain ⟨count, rfl⟩ := Int.le.dest ordered
  have goes := table.line_goes (-1) (fun position below => ?_) key nonneg count inside
  · linarith
  · have falls := UInt8.le_iff_toNat_le.mp (falling position below)
    rw [table.level_eq_toNat position (by omega), table.level_eq_toNat _ below, neg_one_mul,
      ← Int.cast_neg, Int.neg_sub]
    exact_mod_cast Int.sub_nonneg.mpr (Int.ofNat_le.mpr falls)

/-- At a key that is four times a position the strength is the entry there. -/
theorem strength_four_mul (table : ScalingTable) (position : Nat) :
    table.strength .ten (4 * position) = table.level position := by
  have quotient : (4 * (position : Int) / 4).toNat = position := by omega
  have remainder : 4 * (position : Int) % 4 = 0 := by omega
  have exact : table.line (4 * position) = table.level position := by
    rw [line, between, remainder, startLevel, quotient]
    simp
  rw [strength_eq_nearest_line, exact, nearest_eq_iff]
  constructor <;> linarith

/-- How a table is interpolated at ten-bit keys. Both entries that a key needs exist, and the
factor lies between them, at the integer nearest to the straight line from one to the other, a
half going upward. A key that is four times a position has the entry there, like the position
itself with eight bits. Where the entries never fall the factors never fall, from the first key
to the last, and where the entries never rise neither do the factors. -/
theorem factors_follow_line (table : ScalingTable) :
    (∀ key, Depth.ten.IsSample key → ∃ start stop factor,
        table.entry (key / 4).toNat = .ok start ∧
          table.entry ((key / 4).toNat + 1) = .ok stop ∧
          table.factor .ten key = .ok factor ∧
          (min start stop ≤ factor ∧ factor ≤ max start stop) ∧
          (0 ≤ factor ∧ factor ≤ 255) ∧
          between start stop (key % 4) - 1 / 2 < factor ∧
            factor ≤ between start stop (key % 4) + 1 / 2) ∧
      (∀ position < 256, ∃ entry, table.entry position = .ok entry ∧
        table.factor .ten (4 * position) = .ok entry ∧
          table.factor .eight position = .ok entry) ∧
      (table.Rising → ∀ key other, Depth.ten.IsSample key → Depth.ten.IsSample other →
        key ≤ other → ∃ factor otherFactor, table.factor .ten key = .ok factor ∧
          table.factor .ten other = .ok otherFactor ∧ factor ≤ otherFactor) ∧
      (table.Falling → ∀ key other, Depth.ten.IsSample key → Depth.ten.IsSample other →
        key ≤ other → ∃ factor otherFactor, table.factor .ten key = .ok factor ∧
          table.factor .ten other = .ok otherFactor ∧ otherFactor ≤ factor) := by
  refine ⟨?_, ?_, ?_, ?_⟩
  · intro key inside
    have ⟨above, below⟩ := inside.bounds
    have stopStored : (key / 4).toNat + 1 < size := by unfold size; omega
    refine ⟨table.startLevel key, table.stopLevel key, table.strength .ten key,
      table.entry_eq_level _ (by omega), table.entry_eq_level _ stopStored,
      table.factor_eq_strength .ten key inside, table.strength_between key,
      table.strength_mem .ten key, ?_⟩
    exact (nearest_eq_iff _ _).mp (table.strength_eq_nearest_line key).symm
  · intro position inside
    have stored : position < size := by unfold size; omega
    have tenKey : Depth.ten.IsSample (4 * position) := by
      rw [Depth.IsSample, Depth.maxSample]
      omega
    have eightKey : Depth.eight.IsSample position := by
      rw [Depth.IsSample, Depth.maxSample]
      omega
    refine ⟨table.level position, table.entry_eq_level position stored, ?_,
      table.factor_eq_strength .eight position eightKey⟩
    rw [table.factor_eq_strength .ten _ tenKey, table.strength_four_mul]
  · intro rising key other inside otherInside ordered
    refine ⟨_, _, table.factor_eq_strength .ten key inside,
      table.factor_eq_strength .ten other otherInside, ?_⟩
    rw [strength_eq_nearest_line, strength_eq_nearest_line]
    exact nearest_mono (rising.line_mono key other inside.1 ordered otherInside.2)
  · intro falling key other inside otherInside ordered
    refine ⟨_, _, table.factor_eq_strength .ten key inside,
      table.factor_eq_strength .ten other otherInside, ?_⟩
    rw [strength_eq_nearest_line, strength_eq_nearest_line]
    exact nearest_mono (falling.line_anti key other inside.1 ordered otherInside.2)

/-- The factor at a ten-bit key is interpolated from the two entries around it. -/
theorem factor_of_entries (table : ScalingTable) (key start stop : Int) (nonneg : 0 ≤ key)
    (first : table.entry (key / 4).toNat = .ok start)
    (next : table.entry ((key / 4).toNat + 1) = .ok stop) :
    table.factor .ten key = .ok (interpolate start stop (key % 4)) := by
  have quotient : 0 ≤ key / 4 := by omega
  have named : position (key / 4) = .ok (key / 4).toNat := if_pos quotient
  simp only [factor, named, first, next, bind, Except.bind, pure, Except.pure]

/-- A table that rises by one at every other position. -/
def slowRise : ScalingTable := ⟨Vector.ofFn fun position => UInt8.ofNat (position.val / 2)⟩

/-- A table that falls by one at every position, down to a level end. -/
def steadyFall : ScalingTable := ⟨Vector.ofFn fun position => UInt8.ofNat (255 - position.val)⟩

/-- The slow rise never falls and the steady fall never rises. Their factors keep that order over
the last segment, and the tie at key 2 of the steady fall is taken upward. -/
theorem ramps_follow_line :
    (slowRise.Rising ∧ steadyFall.Falling) ∧
      (slowRise.factor .ten 1020 = .ok 127 ∧ slowRise.factor .ten 1023 = .ok 128 ∧
        (127 : Int) ≤ 128) ∧
      (steadyFall.factor .ten 2 = .ok 255 ∧ steadyFall.factor .ten 1023 = .ok 0 ∧
        (0 : Int) ≤ 255) := by
  have riseEntry (position : Nat) (inside : position < size) :
      slowRise.entries[position].toNat = position / 2 := by
    rw [size] at inside
    simp only [slowRise, Vector.getElem_ofFn, UInt8.toNat_ofNat']
    omega
  have fallEntry (position : Nat) (inside : position < size) :
      steadyFall.entries[position].toNat = 255 - position := by
    simp only [steadyFall, Vector.getElem_ofFn, UInt8.toNat_ofNat']
    omega
  have rising : slowRise.Rising := by
    intro position inside
    rw [UInt8.le_iff_toNat_le, riseEntry position (by omega), riseEntry _ inside]
    omega
  have falling : steadyFall.Falling := by
    intro position inside
    rw [UInt8.le_iff_toNat_le, fallEntry position (by omega), fallEntry _ inside]
    omega
  have rise (position : Nat) (inside : position < size) :
      slowRise.entry position = .ok (position / 2 : Nat) := by
    rw [entry_eq_level _ position inside, level_eq_toNat _ position inside, riseEntry _ inside]
  have fall (position : Nat) (inside : position < size) :
      steadyFall.entry position = .ok (255 - position : Nat) := by
    rw [entry_eq_level _ position inside, level_eq_toNat _ position inside, fallEntry _ inside]
  have low : slowRise.factor .ten 1020 = .ok 127 :=
    factor_of_entries _ 1020 _ _ (by decide) (rise 255 (by decide)) (rise 256 (by decide))
  have high : slowRise.factor .ten 1023 = .ok 128 :=
    factor_of_entries _ 1023 _ _ (by decide) (rise 255 (by decide)) (rise 256 (by decide))
  have tie : steadyFall.factor .ten 2 = .ok 255 :=
    factor_of_entries _ 2 _ _ (by decide) (fall 0 (by decide)) (fall 1 (by decide))
  have guarded : steadyFall.factor .ten 1023 = .ok 0 :=
    factor_of_entries _ 1023 _ _ (by decide) (fall 255 (by decide)) (fall 256 (by decide))
  obtain ⟨_, _, rises, _⟩ := factors_follow_line slowRise
  obtain ⟨lowFactor, highFactor, lowFound, highFound, ordered⟩ :=
    rises rising 1020 1023 (by decide) (by decide) (by decide)
  obtain rfl : (127 : Int) = lowFactor := Except.ok.inj (low.symm.trans lowFound)
  obtain rfl : (128 : Int) = highFactor := Except.ok.inj (high.symm.trans highFound)
  obtain ⟨_, _, _, falls⟩ := factors_follow_line steadyFall
  obtain ⟨tieFactor, lastFactor, tieFound, lastFound, reversed⟩ :=
    falls falling 2 1023 (by decide) (by decide) (by decide)
  obtain rfl : (255 : Int) = tieFactor := Except.ok.inj (tie.symm.trans tieFound)
  obtain rfl : (0 : Int) = lastFactor := Except.ok.inj (guarded.symm.trans lastFound)
  exact ⟨⟨rising, falling⟩, ⟨low, high, ordered⟩, tie, guarded, reversed⟩

end ScalingTable

end GrainSynthesis
