import GrainSynthesis.Kernels
import GrainSynthesis.Proofs.CompoundRegisters

/-!
# Blocks in registers

A row of a wide block that is worked on in registers is painted, whether its windows
are found or not. In a narrow block a register loads several rows before it stores the
first of them, so what is left at a fault can differ: the blend sample by sample may
have stored rows that the register never reaches. But a step in registers is done
exactly when the painting of its rows is, and leaves the same buffer, also where the
rows of the destination overlap. So the blocks are done alike.
-/

namespace GrainSynthesis

open Lanes Register

namespace CompoundJob

/-- The windows of a wide row that is reached compute its samples. -/
theorem laneWindow_computes (job : CompoundJob)
    (total : job.firstWeight + job.secondWeight = weightTotal) (vector : VectorWidth)
    (layout : Layout) (size row length first : Nat) (reached : job.Reached layout size row)
    (inside : first + vector.lanes ≤ job.width) :
    Computes (job.laneWindow vector (job.windows layout row)) length (job.meanAt row) first := by
  obtain ⟨firstLoaded, firstFound, firstLane⟩ := loadWindow_of_holds vector.lanes _ _ first _
    (job.first.window_holds row job.width reached.first) inside
  obtain ⟨secondLoaded, secondFound, secondLane⟩ := loadWindow_of_holds vector.lanes _ _ first _
    (job.second.window_holds row job.width reached.second) inside
  refine ⟨job.laneBlend firstLoaded secondLoaded, ?_, ?_⟩
  · simp only [laneWindow, windows, firstFound, secondFound, bind, Except.bind, pure, Except.pure]
  · intro lane below _
    have firstFits : Fits16 firstLoaded[lane] := firstLane lane below ▸ prediction_mem _
    have secondFits : Fits16 secondLoaded[lane] := secondLane lane below ▸ prediction_mem _
    rw [job.getElem_laneBlend total _ _ lane below firstFits secondFits, firstLane lane below,
      secondLane lane below, meanAt]

/-- The passes through a wide row take its windows one after the other. -/
theorem wideRow_eq_sweepWindows (job : CompoundJob) (vector : VectorWidth) (found : Rows)
    (buffer : Array Int) :
    job.wideRow vector found buffer =
      (sweepWindows job.depth (job.laneWindow vector found) found.start (job.width / 16 * 16)
        buffer).andThen
        (store (fun column => job.sampleAt found (job.width / 16 * 16 + column))
          (found.start + job.width / 16 * 16) (job.width - job.width / 16 * 16)) := by
  have windows : windowCount (job.width / 16 * 16) vector.lanes =
      job.width / 16 * (16 / vector.lanes) := by
    cases vector <;> simp only [windowCount, VectorWidth.lanes, VectorWidth.blocks] <;> omega
  rw [wideRow, Run.sweep_pass, sweepWindows, windows]

/-- A row of a wide block is painted. -/
theorem wideStep_eq_paintRow (job : CompoundJob)
    (total : job.firstWeight + job.secondWeight = weightTotal) (vector : VectorWidth)
    (layout : Layout) (size row : Nat) (buffer : Array Int) :
    job.wideStep vector layout size row buffer =
      Raster.paintRow job.width (job.stroke layout size) row buffer := by
  rw [wideStep]
  cases located : job.rows layout size row with
  | error fault =>
    rw [Raster.paintRow, stroke, located]
    rfl
  | ok found =>
    obtain ⟨reached, rfl⟩ := (job.rows_eq_ok_iff layout size row found).mp located
    rw [job.paintRow_of_reached total layout size row reached]
    show job.wideRow vector (job.windows layout row) buffer = _
    -- The windows end where the single samples begin, at a multiple of sixteen.
    obtain ⟨whole, begins⟩ : ∃ whole, job.width / 16 * 16 = whole := ⟨_, rfl⟩
    have computes (number : Nat) (inside : number * vector.lanes < whole) :
        Computes (job.laneWindow vector (job.windows layout row)) whole (job.meanAt row)
          (number * vector.lanes) := by
      refine job.laneWindow_computes total vector layout size row whole _ reached ?_
      cases vector <;> simp only [VectorWidth.lanes, VectorWidth.blocks] at inside ⊢ <;> omega
    have windowed := sweepWindows_eq_store job.depth
      (job.laneWindow vector (job.windows layout row)) (layout.first row) whole (job.meanAt row)
      (fun column _ => job.isSample_meanAt row column) vector.lanes_pos computes buffer
    have lengths : job.width = whole + (job.width - whole) := by omega
    rw [wideRow_eq_sweepWindows, begins]
    show (sweepWindows job.depth (job.laneWindow vector (job.windows layout row))
      (layout.first row) whole buffer).andThen _ = _
    rw [windowed]
    conv_rhs => rw [lengths, store_add]
    congr 1
    funext left
    apply store_congr
    intro column inside
    exact job.sampleAt_windows total layout size row reached (whole + column) (by omega)

/-- The rows of a narrow block that a register holds are loaded exactly when they are reached
in both predictions. -/
theorem loadBoth_eq_ok_iff (job : CompoundJob) (lanes rows row : Nat) (positive : 0 < job.width)
    (filled : lanes = rows * job.width) (first second : Register lanes) :
    job.loadBoth lanes row = .ok (first, second) ↔
      (∀ index < rows,
        job.first.layout.Reaches job.first.samples.size (row + index) job.width ∧
          job.second.layout.Reaches job.second.samples.size (row + index) job.width) ∧
        ∀ (lane : Nat) (_ : lane < lanes),
          first[lane] = (job.first.value (row + lane / job.width) (lane % job.width)).toInt ∧
            second[lane] =
              (job.second.value (row + lane / job.width) (lane % job.width)).toInt := by
  rw [loadBoth]
  simp only [bind_eq_ok_iff, loadRows_eq_ok_iff _ lanes job.width rows row positive filled, pure,
    Except.pure, Except.ok.injEq, Prod.mk.injEq]
  constructor
  · rintro ⟨_, ⟨firstReached, firstHeld⟩, _, ⟨secondReached, secondHeld⟩, rfl, rfl⟩
    exact ⟨fun index inside => ⟨firstReached index inside, secondReached index inside⟩,
      fun lane below => ⟨firstHeld lane below, secondHeld lane below⟩⟩
  · rintro ⟨reached, held⟩
    exact ⟨first, ⟨fun index inside => (reached index inside).1, fun lane below =>
      (held lane below).1⟩, second, ⟨fun index inside => (reached index inside).2,
        fun lane below => (held lane below).2⟩, rfl, rfl⟩

/-- A register can be loaded with the rows of a narrow block that are reached. -/
theorem exists_loadBoth (job : CompoundJob) (lanes rows row : Nat) (positive : 0 < job.width)
    (filled : lanes = rows * job.width)
    (reached : ∀ index < rows,
      job.first.layout.Reaches job.first.samples.size (row + index) job.width ∧
        job.second.layout.Reaches job.second.samples.size (row + index) job.width) :
    ∃ first second : Register lanes, job.loadBoth lanes row = .ok (first, second) := by
  refine ⟨Vector.ofFn fun lane =>
      (job.first.value (row + lane.val / job.width) (lane.val % job.width)).toInt,
    Vector.ofFn fun lane =>
      (job.second.value (row + lane.val / job.width) (lane.val % job.width)).toInt,
    (job.loadBoth_eq_ok_iff lanes rows row positive filled _ _).mpr ⟨reached, ?_⟩⟩
  intro lane below
  rw [Vector.getElem_ofFn, Vector.getElem_ofFn]
  exact ⟨rfl, rfl⟩

/-- A row that is stored from a register that holds its samples is painted, when both
predictions reach it. -/
theorem storeRow_eq_paintRow {lanes : Nat} (job : CompoundJob)
    (total : job.firstWeight + job.secondWeight = weightTotal) (register : Register lanes)
    (layout : Layout) (size row index : Nat)
    (firstReached : job.first.layout.Reaches job.first.samples.size (row + index) job.width)
    (secondReached : job.second.layout.Reaches job.second.samples.size (row + index) job.width)
    (blended : ∀ column < job.width,
      register[index * job.width + column]? = some (job.meanAt (row + index) column))
    (buffer : Array Int) :
    job.storeRow register layout size row index buffer =
      Raster.paintRow job.width (job.stroke layout size) (row + index) buffer := by
  rw [storeRow]
  cases located : layout.locate size (row + index) job.width with
  | error fault =>
    have firstFound := (job.first.row_eq_ok_iff (row + index) job.width _).mpr ⟨firstReached, rfl⟩
    have secondFound :=
      (job.second.row_eq_ok_iff (row + index) job.width _).mpr ⟨secondReached, rfl⟩
    have missed : job.rows layout size (row + index) = .error fault := by
      simp only [rows, firstFound, secondFound, located, bind, Except.bind]
    rw [Raster.paintRow, stroke, missed]
    rfl
  | ok start =>
    obtain ⟨target, rfl⟩ := (layout.locate_eq_ok_iff_reaches _ _ _ _).mp located
    rw [job.paintRow_of_reached total layout size (row + index)
      ⟨firstReached, secondReached, target⟩]
    apply store_congr
    intro column inside
    have stored := (job.depth.sample_eq_ok_iff _ _).mpr
      ⟨job.isSample_meanAt (row + index) column, rfl⟩
    rw [laneSample, blended column inside]
    exact stored

/-- A narrow register is blended to the samples of the rows that it holds. -/
theorem getElem?_laneBlend_rows {blocks : Nat} (job : CompoundJob)
    (total : job.firstWeight + job.secondWeight = weightTotal) (rows row index column : Nat)
    (filled : 8 * blocks = rows * job.width) (first second : Register (8 * blocks))
    (held : ∀ (lane : Nat) (_ : lane < 8 * blocks),
      first[lane] = (job.first.value (row + lane / job.width) (lane % job.width)).toInt ∧
        second[lane] = (job.second.value (row + lane / job.width) (lane % job.width)).toInt)
    (inside : index < rows) (columnInside : column < job.width) :
    (job.laneBlend first second)[index * job.width + column]? =
      some (job.meanAt (row + index) column) := by
  have below : index * job.width + column < 8 * blocks := by
    calc index * job.width + column < index * job.width + job.width := by omega
      _ = (index + 1) * job.width := (Nat.succ_mul index job.width).symm
      _ ≤ rows * job.width := Nat.mul_le_mul_right job.width inside
      _ = 8 * blocks := filled.symm
  have positive : 0 < job.width := by omega
  have rowOf : (index * job.width + column) / job.width = index := by
    rw [Nat.add_comm, Nat.add_mul_div_right _ _ positive, Nat.div_eq_of_lt columnInside,
      Nat.zero_add]
  have columnOf : (index * job.width + column) % job.width = column := by
    rw [Nat.add_comm, Nat.add_mul_mod_self_right, Nat.mod_eq_of_lt columnInside]
  obtain ⟨firstHeld, secondHeld⟩ := held _ below
  rw [rowOf, columnOf] at firstHeld secondHeld
  have firstFits : Fits16 first[index * job.width + column] := firstHeld ▸ prediction_mem _
  have secondFits : Fits16 second[index * job.width + column] := secondHeld ▸ prediction_mem _
  rw [Vector.getElem?_eq_getElem below,
    job.getElem_laneBlend total first second _ below firstFits secondFits, firstHeld, secondHeld,
    meanAt]

/-- A step in registers through a narrow block is done exactly when the painting of the rows
that it takes is, and both leave the same. -/
theorem narrowStep_eq_done_iff (job : CompoundJob)
    (total : job.firstWeight + job.secondWeight = weightTotal) (vector : VectorWidth) (rows : Nat)
    (positive : 0 < job.width) (filled : vector.lanes = rows * job.width) (layout : Layout)
    (size number : Nat) (buffer left : Array Int) :
    job.narrowStep vector layout size number buffer = .done left ↔
      Run.pass (Raster.paintRow job.width (job.stroke layout size)) rows number buffer =
        .done left := by
  have count : vector.lanes / job.width = rows := by
    rw [filled, Nat.mul_div_cancel rows positive]
  rw [narrowStep, count, Run.pass]
  by_cases reached : ∀ index < rows,
      job.first.layout.Reaches job.first.samples.size (number * rows + index) job.width ∧
        job.second.layout.Reaches job.second.samples.size (number * rows + index) job.width
  · -- Both predictions are loaded, and the rows are stored one after the other.
    obtain ⟨first, second, loaded⟩ :=
      job.exists_loadBoth vector.lanes rows (number * rows) positive filled reached
    obtain ⟨_, held⟩ :=
      (job.loadBoth_eq_ok_iff vector.lanes rows (number * rows) positive filled first second).mp
        loaded
    have shifted := Run.sweep_shift (Raster.paintRow job.width (job.stroke layout size))
      (number * rows) rows 0 buffer
    have swept : Run.sweep
        (job.storeRow (job.laneBlend first second) layout size (number * rows)) rows 0 buffer =
        Run.sweep (Raster.paintRow job.width (job.stroke layout size)) rows (number * rows)
          buffer := by
      rw [Nat.add_zero] at shifted
      rw [shifted]
      apply Run.sweep_congr
      intro index later _ inside
      rw [Nat.zero_add] at inside
      obtain ⟨firstReached, secondReached⟩ := reached index inside
      exact job.storeRow_eq_paintRow total _ layout size (number * rows) index firstReached
        secondReached (fun column columnInside => job.getElem?_laneBlend_rows total rows
          (number * rows) index column filled first second held inside columnInside) later
    simp only [loaded, swept]
  · constructor
    · intro done
      cases loaded : job.loadBoth vector.lanes (number * rows) with
      | error fault => simp [loaded] at done
      | ok both =>
        obtain ⟨first, second⟩ := both
        exact absurd ((job.loadBoth_eq_ok_iff vector.lanes rows (number * rows) positive filled
          first second).mp loaded).1 reached
    · intro done
      refine absurd (fun index inside => ?_) reached
      obtain ⟨before, after, painted⟩ := Run.step_of_sweep_done _ _ _ _ _ done index inside
      have all := job.reached_of_paintRow layout size (number * rows + index) before after painted
      exact ⟨all.first, all.second⟩

/-- The passes through a narrow block take its registers one after the other. -/
theorem blendNarrow_eq_sweep (job : CompoundJob) (vector : VectorWidth) (target : Raster Int) :
    job.blendNarrow vector target =
      target.sweep
        (windowCount job.height (passRows vector job.width) * passRegisters vector job.width)
        (job.narrowStep vector target.layout target.samples.size) := by
  rw [blendNarrow, Raster.sweep, Raster.sweep, Run.sweep_pass]

/-- A narrow block is blended in registers exactly when it is painted. -/
theorem blendNarrow_eq_done_iff (job : CompoundJob)
    (total : job.firstWeight + job.secondWeight = weightTotal) (vector : VectorWidth) (rows : Nat)
    (positive : 0 < job.width) (filled : vector.lanes = rows * job.width)
    (whole : windowCount job.height (passRows vector job.width) *
      passRegisters vector job.width * rows = job.height) (target left : Raster Int) :
    job.blendNarrow vector target = .done left ↔
      target.paint job.width job.height (job.stroke target.layout target.samples.size) =
        .done left := by
  obtain ⟨samples, layout⟩ := target
  rw [blendNarrow_eq_sweep, Raster.paint_eq]
  simp only [Raster.sweep, Run.map_eq_done_iff]
  have alike (after : Array Int) :
      Run.sweep (job.narrowStep vector layout samples.size)
          (windowCount job.height (passRows vector job.width) * passRegisters vector job.width) 0
          samples = .done after ↔
        Run.sweep (Raster.paintRow job.width (job.stroke layout samples.size)) job.height 0
          samples = .done after := by
    rw [Run.sweep_eq_done_congr _ _ _ _ _ fun number before reached =>
      job.narrowStep_eq_done_iff total vector rows positive filled layout samples.size number
        before reached, Run.sweep_pass, whole]
  simp only [alike]

/-- A wide block is painted. -/
theorem blendWide_eq_paint (job : CompoundJob)
    (total : job.firstWeight + job.secondWeight = weightTotal) (vector : VectorWidth)
    (target : Raster Int) :
    job.blendWide vector target =
      target.paint job.width job.height (job.stroke target.layout target.samples.size) := by
  apply target.sweep_congr
  intro row _ buffer
  exact job.wideStep_eq_paintRow total vector _ _ row buffer

/-- A block of four or eight columns fills whole registers, and whole passes. -/
theorem exists_rows (vector : VectorWidth) (width height : Nat) (narrow : width = 4 ∨ width = 8)
    (block : IsBlockLength height) :
    ∃ rows, vector.lanes = rows * width ∧
      windowCount height (passRows vector width) * passRegisters vector width * rows = height := by
  obtain ⟨least, _, power⟩ := block
  -- A power of two that is at least four is a multiple of the rows of every pass.
  have quarters : 4 ∣ height := by
    have exponent : 2 ≤ height.log2 := (Nat.le_log2 (by omega)).mpr least
    rw [power]
    exact Nat.pow_dvd_pow 2 exponent
  obtain ⟨rows, filled, registers, divides, positive⟩ :
      ∃ rows, vector.lanes = rows * width ∧
        passRegisters vector width * rows = passRows vector width ∧
        passRows vector width ∣ 4 ∧ 0 < passRows vector width := by
    obtain rfl | rfl := narrow <;> cases vector
    · exact ⟨2, rfl, rfl, by decide, by decide⟩
    · exact ⟨4, rfl, rfl, by decide, by decide⟩
    · exact ⟨1, rfl, rfl, by decide, by decide⟩
    · exact ⟨2, rfl, rfl, by decide, by decide⟩
  obtain ⟨count, rfl⟩ := divides.trans quarters
  refine ⟨rows, filled, ?_⟩
  rw [Nat.mul_assoc, registers, Nat.mul_comm (passRows vector width) count,
    windowCount_mul count positive]

/-- A blend in registers is done exactly when the blend sample by sample is, and both leave
the same. -/
theorem blendLanes_eq_done_iff (job : CompoundJob) (vector : VectorWidth)
    (target left : Raster Int) :
    job.blendLanes vector target = .done left ↔ job.blend target = .done left := by
  rw [blendLanes, blend]
  cases checked : job.check with
  | error fault => rfl
  | ok _ =>
    obtain ⟨total, _, height⟩ := job.check_eq_ok_iff.mp checked
    by_cases narrow : job.width = 4 ∨ job.width = 8
    · obtain ⟨rows, filled, whole⟩ := exists_rows vector job.width job.height narrow height
      have positive : 0 < job.width := by omega
      simp only [if_pos narrow]
      exact job.blendNarrow_eq_done_iff total vector rows positive filled whole target left
    · simp only [if_neg narrow, job.blendWide_eq_paint total vector target]

/-- A blend in registers of either width is done exactly when the blend sample by sample is,
leaves the same buffer then, and stops at a fault exactly when that does. The same holds of
every form of a blend on every processor, and of the form that a table of kernels has for any
features. -/
theorem compound_forms_agree (job : CompoundJob) (target : Raster Int) (host : FeatureSet) :
    (∀ vector : VectorWidth,
        (∀ left, job.blendLanes vector target = .done left ↔ job.blend target = .done left) ∧
        ((∃ fault left, job.blendLanes vector target = .stopped fault left) ↔
          ∃ fault left, job.blend target = .stopped fault left)) ∧
      (∀ tier : Tier,
        (∀ left, job.blendIn (tier.settle host) target = .done left ↔
          job.blend target = .done left) ∧
        ((∃ fault left, job.blendIn (tier.settle host) target = .stopped fault left) ↔
          ∃ fault left, job.blend target = .stopped fault left)) ∧
      ∀ features : FeatureSet,
        (∀ left, (Kernels.mk host (KernelTable.ofFeatures features)).compound job target =
            .done left ↔ job.blend target = .done left) ∧
        ((∃ fault left, (Kernels.mk host (KernelTable.ofFeatures features)).compound job target =
            .stopped fault left) ↔
          ∃ fault left, job.blend target = .stopped fault left) := by
  have forms (tier : Tier) (left : Raster Int) :
      job.blendIn tier target = .done left ↔ job.blend target = .done left := by
    rw [blendIn]
    cases tier.vector? with
    | none => rfl
    | some vector => exact job.blendLanes_eq_done_iff vector target left
  have stops (tier : Tier) :
      (∃ fault left, job.blendIn tier target = .stopped fault left) ↔
        ∃ fault left, job.blend target = .stopped fault left :=
    Run.exists_stopped_congr _ _ (forms tier)
  refine ⟨?_, ?_, ?_⟩
  · intro vector
    have alike := job.blendLanes_eq_done_iff vector target
    exact ⟨alike, Run.exists_stopped_congr _ _ alike⟩
  · intro tier
    exact ⟨forms (tier.settle host), stops (tier.settle host)⟩
  · intro features
    exact ⟨forms _, stops _⟩

/-- Four rows of four columns in one register, at the extremes of predictions. The rows of the
destination overlap, and the later ones win. -/
example :
    let job : CompoundJob :=
      { depth := .ten
        first := .whole #[-32768, 32767, 16000, -5, 32767, 4080, 8, -32768, 1000, 2000, 3000] 2
        second := .whole
          #[32767, 32767, 0, 7, -32768, 4088, 24, 32767, 9000, 12000, 3000, 8, 16000, 1, 2, 3] 4
        firstWeight := 3
        secondWeight := 13
        width := 4
        height := 4 }
    job.blendIn .avx2 (.whole (Array.replicate 11 7) 2) =
      .done (.whole #[1023, 1023, 0, 208, 841, 657, 813, 0, 12, 24, 7] 2) := by
  decide +kernel

end CompoundJob

end GrainSynthesis
