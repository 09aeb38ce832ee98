import GrainSynthesis.Proofs.StripReach
import GrainSynthesis.Proofs.StripTiers

/-!
# Two forms of fixed point

A product is brought down to whole numbers in one of two ways. Either half of the divisor is
added to it before it is shifted down, or one of its factors is shifted up first, so that the
divisor is always the same and what is wanted is the rounded high half of the product. The
second form is one operation on registers whose operands have sixteen bits; the first one is
that of checked words.

Scaled noise and interpolated factors are rounded in one of these forms, and nothing else in a
strip is. Both forms give the integer nearest to the exact quotient, negative products
included, so a strip is the same in either.
-/

namespace GrainSynthesis

open Register

/-- The rounded high half of a product, as the film grain specification multiplies. -/
def highHalf (left right : Int) : Int := ⌊((left * right + 2 ^ 14 : Int) : ℚ) / 2 ^ 15⌋

/-- The rounded high half, in integers. -/
theorem highHalf_eq (left right : Int) :
    highHalf left right = (left * right + 16384) / 32768 := by
  have divisor : (2 : ℚ) ^ 15 = ((32768 : Nat) : ℚ) := by norm_num
  rw [highHalf, divisor, Rat.floor_intCast_div_natCast]
  rfl

/-- The two forms of fixed point. -/
inductive FixedPoint where
  /-- Half of the divisor is added and the sum is shifted down. -/
  | shiftedDown
  /-- A factor is shifted up and the rounded high half of the product is taken. -/
  | highHalf
  deriving DecidableEq, Repr

namespace FixedPoint

/-- The rise along some quarters of a slope. -/
def rise (form : FixedPoint) (slope quarters : Int) : Int :=
  match form with
  | .shiftedDown => roundedShift (slope * quarters) 2
  | .highHalf => GrainSynthesis.highHalf slope (quarters * 2 ^ 13)

/-- A noise entry scaled by a factor. -/
def scaled (form : FixedPoint) (factor entry : Int) (shift : Nat) : Int :=
  match form with
  | .shiftedDown => roundedShift (factor * entry) shift
  | .highHalf => GrainSynthesis.highHalf entry (factor * 2 ^ (15 - shift))

/-- In either form the rise is the nearest integer to the exact one. -/
theorem rise_eq_nearest (form : FixedPoint) (slope quarters : Int) :
    form.rise slope quarters = nearest ((slope * quarters : Int) / 4) := by
  have exponent : (4 : ℚ) = 2 ^ 2 := by norm_num
  rw [exponent]
  cases form with
  | shiftedDown => exact (nearest_div_two_pow _ 2).symm
  | highHalf => exact (highHalf_eq _ _).trans (highHalf_quarter slope quarters)

/-- In either form a scaled entry is the nearest integer to the exact one. -/
theorem scaled_eq_nearest (form : FixedPoint) (factor entry : Int) (shift : Nat)
    (coded : GrainParameters.ShiftCoded shift) :
    form.scaled factor entry shift = nearest ((factor * entry : Int) / 2 ^ shift) := by
  cases form with
  | shiftedDown => exact (nearest_div_two_pow _ shift).symm
  | highHalf =>
    exact (highHalf_eq _ _).trans (highHalf_eq_nearest factor entry shift coded.1 coded.2)

end FixedPoint

namespace ScalingTable

/-- The strength at a key, interpolated in a form of fixed point. -/
def strengthBy (form : FixedPoint) (table : ScalingTable) (depth : Depth) (key : Int) : Int :=
  match depth with
  | .eight => table.level key.toNat
  | .ten =>
    let start := table.level (key / 4).toNat
    let stop := table.level ((key / 4).toNat + 1)
    start + form.rise (stop - start) (key % 4)

/-- Both forms interpolate the strength. -/
theorem strengthBy_eq_strength (form : FixedPoint) (table : ScalingTable) (depth : Depth)
    (key : Int) : strengthBy form table depth key = table.strength depth key := by
  cases depth with
  | eight => rfl
  | ten => rw [strengthBy, strength, form.rise_eq_nearest]

/-- The factor at a ten-bit key lies the rounded high half of its rise above the entry before it,
and the operands of that product and its sum fit sixteen bits. -/
theorem factor_ten_eq_highHalf (table : ScalingTable) (key : Int)
    (inside : Depth.ten.IsSample key) :
    ∃ start stop, table.entry (key / 4).toNat = .ok start ∧
      table.entry ((key / 4).toNat + 1) = .ok stop ∧
        table.factor .ten key = .ok (start + highHalf (stop - start) (key % 4 * 2 ^ 13)) ∧
          Fits16 start ∧ Fits16 stop ∧ Fits16 (stop - start) ∧ Fits16 (key % 4 * 2 ^ 13) := by
  have ⟨above, below⟩ := inside.bounds
  obtain ⟨startLow, startHigh⟩ := table.level_mem (key / 4).toNat
  obtain ⟨stopLow, stopHigh⟩ := table.level_mem ((key / 4).toNat + 1)
  have stored : (key / 4).toNat + 1 < size := by unfold size; omega
  have fits := interpolationFits _ _ key startLow startHigh stopLow stopHigh
  refine ⟨_, _, table.entry_eq_level _ (Nat.lt_of_succ_lt stored), table.entry_eq_level _ stored,
    ?_, ⟨by omega, by omega⟩, ⟨by omega, by omega⟩, fits.slope, fits.fraction⟩
  rw [table.factor_eq_strength .ten key inside, ← table.strengthBy_eq_strength .highHalf]
  rfl

end ScalingTable

namespace Noise

/-- Scaling in checked words succeeds exactly when the product and its sum with the half fit,
and then it gives the rounded high half. -/
theorem scaled_eq_ok_iff (factor entry result : Int) (shift : Nat)
    (coded : GrainParameters.ShiftCoded shift) :
    scaled factor entry shift = .ok result ↔
      (Fits32 (factor * entry) ∧ Fits32 (factor * entry + 2 ^ (shift - 1))) ∧
        result = highHalf entry (factor * 2 ^ (15 - shift)) := by
  -- Checked words shift down, so the other form is brought to that one first.
  have forms : highHalf entry (factor * 2 ^ (15 - shift)) = roundedShift (factor * entry) shift :=
    (FixedPoint.scaled_eq_nearest .highHalf factor entry shift coded).trans
      (FixedPoint.scaled_eq_nearest .shiftedDown factor entry shift coded).symm
  have shifted : shift ≠ 0 := by
    have fewest : 8 ≤ shift := coded.1
    omega
  rw [forms, scaled, bind_eq_ok_iff]
  simp only [roundShift, roundedShift, if_neg shifted, bind_eq_ok_iff, Word.signed_eq_ok_iff, pure,
    Except.pure, Except.ok.injEq]
  constructor
  · rintro ⟨_, ⟨product, rfl⟩, _, ⟨sum, rfl⟩, rfl⟩
    exact ⟨⟨product, sum⟩, rfl⟩
  · rintro ⟨⟨product, sum⟩, rfl⟩
    exact ⟨_, ⟨product, rfl⟩, _, ⟨sum, rfl⟩, rfl⟩

/-- A sample with noise, in a form of fixed point. -/
def sampleBy (form : FixedPoint) (setting : Setting) (key sample entry : Int) : Int :=
  let factor := setting.table.strengthBy form setting.depth key
  clip (sample + form.scaled factor entry setting.shift) setting.low setting.high

/-- A sample with noise is the ideal one in either form. -/
theorem sampleBy_eq_ideal (form : FixedPoint) (setting : Setting)
    (coded : GrainParameters.ShiftCoded setting.shift) (key sample entry : Int) :
    sampleBy form setting key sample entry = ideal setting key sample entry := by
  rw [sampleBy, ideal, added, setting.table.strengthBy_eq_strength,
    form.scaled_eq_nearest _ _ _ coded]

end Noise

namespace StripJob

/-- The sample that a form of fixed point gives at a place. -/
def sampleBy (form : FixedPoint) (job : StripJob) (plane : Plane) (row column : Nat) : Int :=
  let sample := (job.source.get plane).value row column
  if job.parameters.appliesTo plane then
    Noise.sampleBy form (job.planeSetting plane) (job.idealKey plane row column) sample
      ((job.noise.get plane).value (job.noiseStart plane + row) column)
  else sample

/-- With accepted parameters the samples of both forms are the ideal ones. -/
theorem sampleBy_eq_idealSample (form : FixedPoint) (job : StripJob)
    (accepted : job.parameters.validate = .ok ()) (plane : Plane) (row column : Nat) :
    job.sampleBy form plane row column = job.idealSample plane row column := by
  have coded : GrainParameters.ShiftCoded (job.planeSetting plane).shift :=
    ((GrainParameters.validate_eq_ok_iff job.parameters).mp accepted).1
  rw [sampleBy, idealSample]
  simp only [Noise.sampleBy_eq_ideal form _ coded]

/-- A completed call leaves the samples of either form at the elements that a place owns. -/
theorem sampleBy_of_done (form : FixedPoint) (job : StripJob)
    (target left : PerPlane (Raster Int)) (done : job.apply .plain target = .ran (.done left))
    (plane : Plane) :
    (left.get plane).layout = (target.get plane).layout ∧
      (left.get plane).samples.size = (target.get plane).samples.size ∧
        ∀ index < (target.get plane).samples.size, (left.get plane).samples[index]? =
          match (target.get plane).layout.owner? (job.visible plane).width
              (job.visible plane).height index with
          | some (row, column) => some (job.sampleBy form plane row column)
          | none => (target.get plane).samples[index]? := by
  obtain ⟨accepted, _, _, planes⟩ := (job.apply_eq_done_iff target left).mp done
  simp only [sampleBy_eq_idealSample form job accepted]
  exact job.contents_of_paintPlane plane _ _ (planes plane).2

/-- The two forms of fixed point agree. Scaling an entry by a byte in checked words succeeds
exactly when the product and its sum with the half fit a word, and then gives the rounded high half
of the entry with the byte shifted up, which fits sixteen bits. A ten-bit factor is the entry before
its key and the rounded high half of the rise from there, with operands that fit sixteen bits. So
with accepted parameters both forms give the same sample at every place of a strip, and a completed
call, plain or in any kernels on a strip in range, has left them: at each element the sample of the
place that owns it, in either form, and what was there where no place does. A call that is ready, on
a strip in range, completes. -/
theorem fixed_point_forms_agree :
    (∀ (factor entry : Int) (shift : Nat), 0 ≤ factor → factor ≤ 255 → 8 ≤ shift → shift ≤ 11 →
        Fits16 (factor * 2 ^ (15 - shift)) ∧
          ∀ result, Noise.scaled factor entry shift = .ok result ↔
            (Fits32 (factor * entry) ∧ Fits32 (factor * entry + 2 ^ (shift - 1))) ∧
              result = highHalf entry (factor * 2 ^ (15 - shift))) ∧
      (∀ (table : ScalingTable) (key : Int), Depth.ten.IsSample key →
        ∃ start stop, table.entry (key / 4).toNat = .ok start ∧
          table.entry ((key / 4).toNat + 1) = .ok stop ∧
            table.factor .ten key = .ok (start + highHalf (stop - start) (key % 4 * 2 ^ 13)) ∧
              Fits16 start ∧ Fits16 stop ∧ Fits16 (stop - start) ∧ Fits16 (key % 4 * 2 ^ 13)) ∧
      (∀ job : StripJob, job.parameters.validate = .ok () → ∀ plane row column,
        job.sampleBy .shiftedDown plane row column = job.sampleBy .highHalf plane row column) ∧
      ∀ (job : StripJob) (kernels : Kernels) (target : PerPlane (Raster Int)),
        kernels = .plain ∨ job.VisibleInRange →
          (∀ left, job.apply kernels target = .ran (.done left) → ∀ (form : FixedPoint) plane,
            (left.get plane).layout = (target.get plane).layout ∧
              (left.get plane).samples.size = (target.get plane).samples.size ∧
                ∀ index < (target.get plane).samples.size, (left.get plane).samples[index]? =
                  match (target.get plane).layout.owner? (job.visible plane).width
                      (job.visible plane).height index with
                  | some (row, column) => some (job.sampleBy form plane row column)
                  | none => (target.get plane).samples[index]?) ∧
            (job.Ready target → job.UsedInRange →
              ∃ left, job.apply kernels target = .ran (.done left)) := by
  refine ⟨?_, ?_, ?_, ?_⟩
  · intro factor entry shift low high fewest most
    exact ⟨Noise.fits16_shifted_byte factor shift low high ⟨fewest, most⟩,
      fun result => Noise.scaled_eq_ok_iff factor entry result shift ⟨fewest, most⟩⟩
  · intro table key inside
    exact table.factor_ten_eq_highHalf key inside
  · intro job accepted plane row column
    rw [job.sampleBy_eq_idealSample .shiftedDown accepted,
      job.sampleBy_eq_idealSample .highHalf accepted]
  · intro job kernels target forms
    rw [job.apply_eq_of_forms kernels target forms]
    constructor
    · intro left done form plane
      exact job.sampleBy_of_done form target left done plane
    · intro ready inRange
      exact job.exists_done_of_ready target ready inRange

/-- A tie below zero is taken upward in both forms. What the odd strip leaves at the corner of its
second plane is the sample of both forms. -/
theorem oddStrip_fixed_point :
    (Noise.scaled 128 (-1) 8 = .ok 0 ∧ highHalf (-1) (128 * 2 ^ 7) = 0) ∧
      (oddStrip.parameters.validate = .ok () ∧
        oddStrip.apply .plain oddTarget = .ran (.done
          ⟨.whole #[64, 767, 940, 0, 64, 940, 495, 0, 940, 64, 499] 4,
            ⟨#[9, 960, 64, 9, 512, 76, 9], ⟨1, 3⟩⟩, .whole #[1, 2, 3, 4] 2⟩)) ∧
        oddStrip.sampleBy .highHalf .u 1 1 = 76 ∧ oddStrip.sampleBy .shiftedDown .u 1 1 = 76 := by
  obtain ⟨scaling, _, places, calls⟩ := fixed_point_forms_agree
  have accepted : oddStrip.parameters.validate = .ok () := by decide
  have evaluated : oddStrip.apply .plain oddTarget = .ran (.done
      ⟨.whole #[64, 767, 940, 0, 64, 940, 495, 0, 940, 64, 499] 4,
        ⟨#[9, 960, 64, 9, 512, 76, 9], ⟨1, 3⟩⟩, .whole #[1, 2, 3, 4] 2⟩) := by decide +kernel
  have tie : Noise.scaled 128 (-1) 8 = .ok 0 := by decide
  have half := (((scaling 128 (-1) 8 (by decide) (by decide) (by decide) (by decide)).2 0).mp tie).2
  obtain ⟨_, _, contents⟩ := (calls oddStrip .plain oddTarget (Or.inl rfl)).1 _ evaluated .highHalf .u
  have corner : some (76 : Int) = some (oddStrip.sampleBy .highHalf .u 1 1) :=
    contents 5 (by decide)
  have same := places oddStrip accepted .u 1 1
  exact ⟨⟨tie, half.symm⟩, ⟨accepted, evaluated⟩, (Option.some.inj corner).symm,
    same.trans (Option.some.inj corner).symm⟩

end StripJob

end GrainSynthesis
