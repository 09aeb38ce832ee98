import GrainSynthesis.Proofs.Keys

/-!
# Which parameters are accepted

Seven numbers of the parameters have a code: the scaling shift, and three coefficients for each
chroma plane. `codedFields` lists them in the order in which they are looked at, each with the name
under which it is reported and the limits of its code. Parameters are accepted when none of the
seven is out of range, and otherwise the first one that is gets reported.

The blends check the same numbers on their own, plane by plane. They stop at one of them exactly
when the parameters are not accepted, whatever else they are asked for.
-/

namespace GrainSynthesis

/-- A number that has a code: the name under which it is reported, its value, and the limits of
its code. -/
structure CodedField where
  name : String
  value : Int
  low : Int
  high : Int
  deriving DecidableEq, Repr

namespace CodedField

/-- The value lies between the limits, both included. -/
def InRange (field : CodedField) : Prop := field.low ≤ field.value ∧ field.value ≤ field.high

instance (field : CodedField) : Decidable field.InRange := inferInstanceAs (Decidable (_ ∧ _))

/-- The text that reports a number out of range. -/
def complaint (field : CodedField) : String :=
  let name := field.name
  let value := field.value
  let low := field.low
  let high := field.high
  s!"film grain {name} {value} is outside {low}..={high}"

end CodedField

/-- The coded number that a rejection reports, if it reports one. -/
def Rejection.field? : Rejection → Option CodedField
  | tableLength _ => none
  | scalingShift shift => some ⟨"scaling shift", shift, 8, 11⟩
  | coefficient plane coded value => some ⟨coded.label plane, value, coded.low, coded.high⟩
  | noiseShape _ _ _ => none
  | unknownLevel _ => none

/-- Different coefficients, or those of different planes, are reported under different names. -/
theorem Coefficient.label_injective {plane other : Plane} {coefficient coded : Coefficient}
    (same : coefficient.label plane = coded.label other) : plane = other ∧ coefficient = coded := by
  revert same
  cases plane <;> cases other <;> cases coefficient <;> cases coded <;> decide

/-- No coefficient is reported as the scaling shift. -/
theorem Coefficient.label_ne_shift (plane : Plane) (coefficient : Coefficient) :
    coefficient.label plane ≠ "scaling shift" := by
  cases plane <;> cases coefficient <;> decide

namespace Rejection

/-- The text of a rejection that reports a number is the complaint about it. -/
theorem message_of_field (rejection : Rejection) (field : CodedField)
    (reports : rejection.field? = some field) : rejection.message = field.complaint := by
  cases rejection with
  | scalingShift shift =>
    obtain rfl := Option.some.inj reports
    have opening : "film grain scaling shift " = "film grain " ++ "scaling shift" ++ " " := by decide
    have closing : " is outside 8..=11" =
        " is outside " ++ toString (8 : Int) ++ "..=" ++ toString (11 : Int) := by decide
    calc "film grain scaling shift " ++ toString shift ++ " is outside 8..=11"
        = "film grain " ++ "scaling shift" ++ " " ++ toString (shift : Int) ++
            (" is outside " ++ toString (8 : Int) ++ "..=" ++ toString (11 : Int)) := by
          rw [opening, closing]
          rfl
      _ = CodedField.complaint ⟨"scaling shift", shift, 8, 11⟩ := by
          simp only [← String.append_assoc]
          rfl
  | coefficient plane coded value =>
    obtain rfl := Option.some.inj reports
    rfl
  | tableLength entries => cases reports
  | noiseShape rows columns entries => cases reports
  | unknownLevel text => cases reports

/-- A number is reported by one rejection only. -/
theorem eq_of_field {left right : Rejection} {field : CodedField}
    (reports : left.field? = some field) (alike : right.field? = some field) : left = right := by
  have same : left.field? = right.field? := reports.trans alike.symm
  cases left <;> cases right <;>
    simp only [field?, Option.some.injEq, CodedField.mk.injEq, reduceCtorEq] at reports alike same
  · rw [Int.ofNat.inj same.2.1]
  · exact absurd same.1.symm (Coefficient.label_ne_shift _ _)
  · exact absurd same.1 (Coefficient.label_ne_shift _ _)
  · obtain ⟨samePlane, sameCoefficient⟩ := Coefficient.label_injective same.1
    rw [samePlane, sameCoefficient, same.2.1]

end Rejection

/-- An answer to coded numbers: it accepts them when all are in range, and otherwise it is a
rejection that reports the first one that is not. -/
def Answers (answer : Except Rejection Unit) (fields : List CodedField) : Prop :=
  match fields.find? fun field => !decide field.InRange with
  | none => answer = .ok ()
  | some field => ∃ rejection, answer = .error rejection ∧ rejection.field? = some field

/-- An answer to one number accepts it, or reports it. -/
theorem answers_singleton_iff (answer : Except Rejection Unit) (field : CodedField) :
    Answers answer [field] ↔
      (field.InRange ∧ answer = .ok ()) ∨
        (¬field.InRange ∧ ∃ rejection, answer = .error rejection ∧
          rejection.field? = some field) := by
  by_cases inRange : field.InRange <;> simp [Answers, inRange]

/-- A check of one number before an answer to others answers to all of them. -/
theorem Answers.cons {check next : Except Rejection Unit} {field : CodedField}
    {fields : List CodedField} (first : Answers check [field]) (rest : Answers next fields) :
    Answers (check >>= fun _ => next) (field :: fields) := by
  obtain ⟨inRange, rfl⟩ | ⟨outside, rejection, rfl, reports⟩ :=
    (answers_singleton_iff check field).mp first
  · simpa [Answers, inRange, bind, Except.bind] using rest
  · simpa [Answers, outside, bind, Except.bind] using reports

namespace GrainParameters

/-- The coded numbers of the parameters, in the order in which they are looked at. -/
def codedFields (parameters : GrainParameters) : List CodedField :=
  [⟨"scaling shift", parameters.scalingShift, 8, 11⟩,
    ⟨"u_multiplier", parameters.mixU.multiplier, -128, 127⟩,
    ⟨"u_luma_multiplier", parameters.mixU.lumaMultiplier, -128, 127⟩,
    ⟨"u_offset", parameters.mixU.offset, -256, 255⟩,
    ⟨"v_multiplier", parameters.mixV.multiplier, -128, 127⟩,
    ⟨"v_luma_multiplier", parameters.mixV.lumaMultiplier, -128, 127⟩,
    ⟨"v_offset", parameters.mixV.offset, -256, 255⟩]

/-- The first coded number that is out of range. -/
def firstUncoded (parameters : GrainParameters) : Option CodedField :=
  parameters.codedFields.find? fun field => !decide field.InRange

/-- A scaling shift has a code when it is in range. -/
theorem shiftCoded_iff (shift : Nat) :
    ShiftCoded shift ↔ CodedField.InRange ⟨"scaling shift", shift, 8, 11⟩ := by
  rw [ShiftCoded, minShift, maxShift, CodedField.InRange]
  simp only
  omega

/-- The check of the scaling shift answers for it. -/
theorem checkShift_answers (shift : Nat) :
    Answers (checkShift shift) [⟨"scaling shift", shift, 8, 11⟩] := by
  rw [answers_singleton_iff, checkShift]
  by_cases coded : ShiftCoded shift
  · exact .inl ⟨(shiftCoded_iff shift).mp coded, if_pos coded⟩
  · exact .inr ⟨fun inRange => coded ((shiftCoded_iff shift).mpr inRange), _, if_neg coded, rfl⟩

/-- The check of a coefficient answers for it. -/
theorem checkCoefficient_answers (plane : Plane) (coefficient : Coefficient) (value : Int) :
    Answers (checkCoefficient plane coefficient value)
      [⟨coefficient.label plane, value, coefficient.low, coefficient.high⟩] := by
  rw [answers_singleton_iff, checkCoefficient]
  by_cases admitted : coefficient.admits value = true
  · exact .inl ⟨(coefficient.admits_iff value).mp admitted, if_pos admitted⟩
  · exact .inr ⟨fun inRange => admitted ((coefficient.admits_iff value).mpr inRange), _,
      if_neg admitted, rfl⟩

/-- The answer to parameters is one to their coded numbers. -/
theorem validate_answers (parameters : GrainParameters) :
    Answers parameters.validate parameters.codedFields := by
  refine (checkShift_answers _).cons ?_
  refine (checkCoefficient_answers .u .multiplier _).cons ?_
  refine (checkCoefficient_answers .u .lumaMultiplier _).cons ?_
  refine (checkCoefficient_answers .u .offset _).cons ?_
  refine (checkCoefficient_answers .v .multiplier _).cons ?_
  refine (checkCoefficient_answers .v .lumaMultiplier _).cons ?_
  exact checkCoefficient_answers .v .offset _

/-- Parameters are rejected with the rejection that reports the first number out of range. -/
theorem validate_eq_error_iff (parameters : GrainParameters) (rejection : Rejection) :
    parameters.validate = .error rejection ↔
      ∃ field, parameters.firstUncoded = some field ∧ rejection.field? = some field := by
  have answers := parameters.validate_answers
  rw [Answers] at answers
  rw [firstUncoded]
  cases first : parameters.codedFields.find? fun field => !decide field.InRange with
  | none =>
    simp only [first] at answers
    simp [answers]
  | some field =>
    simp only [first] at answers
    obtain ⟨found, answer, reports⟩ := answers
    rw [answer, Except.error.injEq]
    constructor
    · rintro rfl
      exact ⟨field, rfl, reports⟩
    · rintro ⟨other, same, alike⟩
      obtain rfl := Option.some.inj same
      exact Rejection.eq_of_field reports alike

end GrainParameters

namespace Noise

/-- A check of noise stops at the scaling shift exactly when the shift has no code. -/
theorem check_eq_shift_iff (grid : Grid Int) (shift : Nat) (extent : Extent) (start found : Nat) :
    check grid shift extent start = .error (.broken (.scalingShift found)) ↔
      ¬ GrainParameters.ShiftCoded shift ∧ found = shift := by
  by_cases coded : GrainParameters.ShiftCoded shift
  · by_cases fits : start + extent.height < Word.sizeLimit <;>
      by_cases tall : start + extent.height ≤ grid.rows <;>
        by_cases wide : extent.width ≤ grid.columns <;>
          simp [check, require, Word.size, coded, fits, tall, wide, bind, Except.bind]
  · simp [check, require, coded, bind, Except.bind, eq_comm]

end Noise

namespace ChromaJob

/-- The blend of another plane, by other parameters. -/
def asked (job : ChromaJob) (parameters : GrainParameters) (plane : Plane) : ChromaJob :=
  { job with parameters := parameters, plane := plane }

/-- The coefficients pass their check, and no check of noise stops at the scaling shift. -/
def PassesParameters (job : ChromaJob) : Prop :=
  job.checkCoefficients = .ok () ∧
    ∀ chroma shift, job.checkNoise chroma ≠ .error (.broken (.scalingShift shift))

/-- A blend passes when its plane is a chroma plane and the shift and all coefficients of the
plane have codes. -/
theorem passesParameters_iff (job : ChromaJob) :
    job.PassesParameters ↔
      GrainParameters.ShiftCoded job.parameters.scalingShift ∧ job.plane.isChroma = true ∧
        (job.parameters.mix job.plane).Coded := by
  rw [PassesParameters, checkCoefficients_eq_ok_iff, and_comm]
  refine and_congr_left fun _ => ?_
  constructor
  · intro never
    apply Decidable.byContradiction
    intro uncoded
    exact never ⟨0, 0⟩ _ ((Noise.check_eq_shift_iff _ _ _ _ _).mpr ⟨uncoded, rfl⟩)
  · intro coded chroma shift stopped
    exact ((Noise.check_eq_shift_iff _ _ _ _ _).mp stopped).1 coded

end ChromaJob

/-- Whether parameters are accepted. They are exactly when on neither chroma plane a blend stops at
one of its parameters, whatever else it is asked for. How many points a plane has and the two flags
do not matter. When they are not accepted, the answer is the one that reports the first number out
of range: with its value, its name and the limits of its code, all numbers before it being in range;
and its text says just that. -/
theorem accepts_coded_parameters (parameters : GrainParameters) :
    (∀ job : ChromaJob, parameters.validate = .ok () ↔
        ∀ plane ∈ Plane.chroma, (job.asked parameters plane).PassesParameters) ∧
      (∀ fromLuma restricted points,
        GrainParameters.validate { parameters with
          chromaFromLuma := fromLuma, restrictedRange := restricted, points := points } =
            parameters.validate) ∧
      ∀ rejection, parameters.validate = .error rejection ↔
        ∃ earlier field later, parameters.codedFields = earlier ++ field :: later ∧
          (∀ before ∈ earlier, before.InRange) ∧ ¬ field.InRange ∧
            rejection.field? = some field ∧ rejection.message = field.complaint := by
  refine ⟨?_, ?_, ?_⟩
  · intro job
    rw [parameters.validate_eq_ok_iff]
    constructor
    · rintro ⟨coded, admitted⟩ plane chromaPlane
      exact (ChromaJob.passesParameters_iff _).mpr
        ⟨coded, (Plane.mem_chroma_iff plane).mp chromaPlane, admitted plane chromaPlane⟩
    · intro passes
      have codes (plane : Plane) (chromaPlane : plane ∈ Plane.chroma) :=
        (ChromaJob.passesParameters_iff _).mp (passes plane chromaPlane)
      exact ⟨(codes .u (by decide)).1, fun plane chromaPlane => (codes plane chromaPlane).2.2⟩
  · intro fromLuma restricted points
    rfl
  · intro rejection
    rw [parameters.validate_eq_error_iff]
    constructor
    · rintro ⟨field, first, reported⟩
      obtain ⟨outside, earlier, later, listed, before⟩ := List.find?_eq_some_iff_append.mp first
      refine ⟨earlier, field, later, listed, ?_, by simpa using outside, reported,
        rejection.message_of_field field reported⟩
      intro other member
      simpa using before other member
    · rintro ⟨earlier, field, later, listed, before, outside, reported, _⟩
      refine ⟨field, List.find?_eq_some_iff_append.mpr ⟨by simpa using outside, earlier, later,
        listed, ?_⟩, reported⟩
      intro other member
      simpa using before other member

/-- Parameters whose first plane has an offset that is too great, and whose second plane has a
multiplier that is. -/
def twiceUncoded : GrainParameters where
  chromaFromLuma := true
  restrictedRange := false
  scalingShift := 11
  points := ⟨0, 3, 0⟩
  mixU := ⟨-128, 127, 256⟩
  mixV := ⟨40000, 0, 0⟩

/-- They are rejected for the offset, which is looked at before the other plane, and some blend
stops at them. -/
theorem twiceUncoded_rejected :
    twiceUncoded.validate = .error (.coefficient .u .offset 256) ∧
      Rejection.message (.coefficient .u .offset 256) =
        "film grain u_offset 256 is outside -256..=255" ∧
      ∀ job : ChromaJob, ¬ ∀ plane ∈ Plane.chroma,
        (job.asked twiceUncoded plane).PassesParameters := by
  obtain ⟨accepted, _, rejected⟩ := accepts_coded_parameters twiceUncoded
  have message : Rejection.message (.coefficient .u .offset 256) =
      CodedField.complaint ⟨"u_offset", 256, -256, 255⟩ := by decide
  have found : twiceUncoded.validate = .error (.coefficient .u .offset 256) :=
    (rejected _).mpr ⟨twiceUncoded.codedFields.take 3, ⟨"u_offset", 256, -256, 255⟩,
      twiceUncoded.codedFields.drop 4, by decide, by decide, by decide, by decide, message⟩
  refine ⟨found, by decide, ?_⟩
  intro job passes
  have answer := (accepted job).mpr passes
  rw [found] at answer
  cases answer

end GrainSynthesis
