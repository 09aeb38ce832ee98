import GrainSynthesis.Proofs.DetectionHistory
import GrainSynthesis.Proofs.Words

/-!
# The texts that name a level

A text names a level when one of the level's words lies in it between blanks, in letters of either
case. No other text names one: words hold no blanks and nothing but ASCII characters, so a text with
a blank between two other characters is rejected, and so is one with any other character that is not
ASCII, however it looks. A rejected text is given back as it was.

For the same reason a text that names a level names it with more blanks around it and in other
cases. As the setting of the environment a text caps the features that are found by those of its
level, and a text that is rejected leaves them as they are.
-/

namespace GrainSynthesis

open Text

namespace Level

/-- The words for a level. -/
def spellings : Level → List String
  | scalar => ["scalar", "rust", "none"]
  | x86v2 => ["x86-64-v2", "v2", "sse4.1", "sse41"]
  | x86v3 => ["x86-64-v3", "v3", "avx2"]
  | neon => ["neon"]
  | native => ["native", ""]

/-- A text that names a level: a word for the level, with ASCII letters of either case, between
blanks. -/
inductive Spells : List Char → Level → Prop where
  | padded {leading word trailing : List Char} {level : Level} (spelling : String)
      (leadingWhite : AllWhite leading) (among : spelling ∈ level.spellings)
      (small : SmallText word spelling.toList) (trailingWhite : AllWhite trailing) :
      Spells (leading ++ word ++ trailing) level

/-- A word in small letters stands for a level exactly when it is one of the words for it. -/
theorem ofWord?_eq_some_iff (word : List Char) (level : Level) :
    ofWord? word = some level ↔ ∃ spelling ∈ level.spellings, spelling.toList = word := by
  constructor
  · intro named
    obtain ⟨entry, found, rfl⟩ := Option.map_eq_some_iff.mp named
    have among : ∀ entry ∈ words, entry.1 ∈ entry.2.spellings := by decide
    have same := List.find?_some found
    exact ⟨entry.1, among entry (List.mem_of_find?_eq_some found), of_decide_eq_true same⟩
  · rintro ⟨spelling, among, rfl⟩
    have every : ∀ spelling ∈ level.spellings, ofWord? spelling.toList = some level := by
      cases level <;> decide
    exact every spelling among

/-- Words for levels are written in ASCII characters that are not blank. -/
theorem ascii_of_spelling (level : Level) :
    ∀ spelling ∈ level.spellings, ∀ character ∈ spelling.toList,
      character.toNat < 128 ∧ ¬ IsWhite character := by
  have checked : ∀ spelling ∈ level.spellings, spelling.toList.all (fun character =>
      decide (character.toNat < 128 ∧ ¬ IsWhite character)) = true := by
    cases level <;> decide
  intro spelling among character member
  exact of_decide_eq_true (List.all_eq_true.mp (checked spelling among) character member)

/-- A word for a level holds ASCII characters only, and no blank, in letters of either case. -/
theorem ascii_of_smallText {level : Level} {spelling : String} {word : List Char}
    (among : spelling ∈ level.spellings) (small : SmallText word spelling.toList) :
    ∀ character ∈ word, character.toNat < 128 ∧ ¬ IsWhite character := by
  intro character member
  have letters : ∀ pair ∈ capitals.zip smalls, pair.1.toNat < 128 ∧ ¬ IsWhite pair.1 := by decide
  have stored : character.toLower ∈ spelling.toList :=
    (smallText_iff _ _).mp small ▸ List.mem_map_of_mem member
  have written := ascii_of_spelling level spelling among _ stored
  have form := (smallForm_iff character _).mpr rfl
  generalize character.toLower = letter at form written
  cases form with
  | capital paired => exact letters _ paired
  | other kept => exact written

/-- A text that spells a level is a word of ASCII characters without blanks, between blanks. -/
theorem Spells.parts {text : List Char} {level : Level} (spells : Spells text level) :
    ∃ leading word trailing, text = leading ++ word ++ trailing ∧ AllWhite leading ∧
      AllWhite trailing ∧
        ∀ character ∈ word, character.toNat < 128 ∧ ¬ IsWhite character := by
  cases spells with
  | padded spelling leadingWhite among small trailingWhite =>
    exact ⟨_, _, _, rfl, leadingWhite, trailingWhite, ascii_of_smallText among small⟩

/-- A text spells the level for which its trimmed form stands in small letters. -/
theorem spells_iff (text : List Char) (level : Level) :
    Spells text level ↔ ofWord? (lowerAscii (trim text)) = some level := by
  rw [ofWord?_eq_some_iff]
  constructor
  · intro spells
    cases spells with
    | @padded leading word trailing _ spelling leadingWhite among small trailingWhite =>
      have unblank : ∀ character ∈ word, isBlank character = false := by
        intro character member
        rw [← Bool.not_eq_true, isBlank_iff]
        exact (ascii_of_smallText among small character member).2
      refine ⟨spelling, among, ?_⟩
      rw [trim_append leading word trailing leadingWhite trailingWhite, trim_of_unblank word unblank]
      exact (smallText_iff _ _).mp small
  · rintro ⟨spelling, among, same⟩
    obtain ⟨leading, trailing, around, leadingWhite, trailingWhite⟩ := exists_around_trim text
    rw [around]
    exact .padded spelling leadingWhite among ((smallText_iff _ _).mpr same) trailingWhite

/-- The level that a text names is the one that it spells. -/
theorem parse_eq_ok_iff (text : String) (level : Level) :
    parse text = .ok level ↔ Spells text.toList level := by
  rw [spells_iff, parse]
  cases ofWord? (lowerAscii (trim text.toList)) <;> simp

/-- A text is rejected, as it was given, exactly when it spells no level. -/
theorem parse_eq_error_iff (text : String) :
    parse text = .error (.unknownLevel text) ↔ ∀ level, ¬ Spells text.toList level := by
  simp only [← parse_eq_ok_iff]
  cases named : parse text with
  | ok level => simp
  | error rejection => simp [parse_eq_error text rejection named]

/-- A text that spells a level spells it in other cases and with more blanks around it. -/
theorem Spells.around {text : List Char} {level : Level} (spells : Spells text level)
    (leading other trailing : List Char) (same : SameLetters text other)
    (leadingWhite : AllWhite leading) (trailingWhite : AllWhite trailing) :
    Spells (leading ++ other ++ trailing) level := by
  rw [spells_iff, lowerAscii_trim] at spells
  rw [spells_iff, trim_append leading other trailing leadingWhite trailingWhite, lowerAscii_trim,
    ← (sameLetters_iff text other).mp same]
  exact spells

/-- The name of a level spells it. -/
theorem spells_name (level : Level) : Spells level.name.toList level := by
  have among : level.name ∈ level.spellings := by
    cases level <;> decide
  have small : SmallText level.name.toList level.name.toList := by
    cases level <;> exact (smallText_iff _ _).mpr (by decide)
  have padded : Spells ([] ++ level.name.toList ++ []) level :=
    .padded level.name (by decide) among small (by decide)
  simpa using padded

/-- A text with a character that is neither blank nor ASCII spells no level. -/
theorem not_spells_of_foreign {text : List Char} {character : Char} (member : character ∈ text)
    (visible : ¬ IsWhite character) (foreign : 128 ≤ character.toNat) (level : Level) :
    ¬ Spells text level := by
  intro spells
  obtain ⟨leading, word, trailing, rfl, leadingWhite, trailingWhite, ascii⟩ := spells.parts
  rcases List.mem_append.mp member with inFront | behind
  · rcases List.mem_append.mp inFront with outside | inside
    · exact visible (leadingWhite character outside)
    · have bounded := (ascii character inside).1
      omega
  · exact visible (trailingWhite character behind)

/-- A text with a blank between two characters that are none spells no level. -/
theorem not_spells_of_divided {before after : List Char} {blank : Char} (white : IsWhite blank)
    (left : ¬ AllWhite before) (right : ¬ AllWhite after) (level : Level) :
    ¬ Spells (before ++ blank :: after) level := by
  intro spells
  obtain ⟨leading, word, trailing, around, leadingWhite, trailingWhite, ascii⟩ := spells.parts
  rw [List.append_assoc] at around
  -- The blank lies in front of the word, in it, or behind it.
  rcases List.append_eq_append_iff.mp around with ⟨skipped, rfl, _⟩ | ⟨start, rfl, rest⟩
  · exact left fun character member => leadingWhite character (List.mem_append_left _ member)
  · rcases List.append_eq_append_iff.mp rest with ⟨skipped, _, rfl⟩ | ⟨tail, rfl, ends⟩
    · exact right fun character member =>
        trailingWhite character (List.mem_append_right _ (List.mem_cons_of_mem _ member))
    · cases tail with
      | nil =>
        obtain rfl : blank :: after = trailing := ends
        exact right fun character member =>
          trailingWhite character (List.mem_cons_of_mem _ member)
      | cons first more =>
        obtain ⟨rfl, _⟩ := List.cons.inj ends
        exact (ascii blank (by simp)).2 white

/-- A setting that spells a level caps the features that are found by those of the level. -/
theorem found_of_spells {text : String} {level : Level} (spells : Spells text.toList level)
    (host : FeatureSet) (steps : List DetectionStep) :
    (Detection.run ⟨host, .text text⟩ steps).1.found =
      if steps.any DetectionStep.needsFeatures then some (host.inter level.mask) else none := by
  have named := (parse_eq_ok_iff text level).mpr spells
  rw [(Detection.follows_run _ steps).found]
  simp [Surroundings.capped, Surroundings.level?, Setting.text?, named, Except.toOption]

/-- A setting that spells no level caps nothing. -/
theorem found_of_not_spells {text : String} (foreign : ∀ level, ¬ Spells text.toList level)
    (host : FeatureSet) (steps : List DetectionStep) :
    (Detection.run ⟨host, .text text⟩ steps).1.found =
      if steps.any DetectionStep.needsFeatures then some host else none := by
  have rejected := (parse_eq_error_iff text).mpr foreign
  rw [(Detection.follows_run _ steps).found]
  simp [Surroundings.capped, Surroundings.level?, Setting.text?, rejected, Except.toOption,
    FeatureSet.inter_all]

/-- Which texts name a level. A text does exactly when it is a word for the level between blanks,
with ASCII letters of either case; any other text is rejected and given back as it was. Among the
rejected ones are all with a blank between two other characters, and all with a character that is
neither blank nor ASCII.

More blanks around a text that names a level, or letters of the other case, leave it naming the
level, and so it is with the name of each level. In every run the features that are found are those
of the processor, capped by the level when the setting of the environment names one, and all of them
when it is rejected. -/
theorem names_padded_words (text : String) :
    (∀ level, parse text = .ok level ↔ Spells text.toList level) ∧
      (parse text = .error (.unknownLevel text) ↔ ∀ level, ¬ Spells text.toList level) ∧
      (∀ before blank after, text.toList = before ++ blank :: after → IsWhite blank →
        ¬ AllWhite before → ¬ AllWhite after → parse text = .error (.unknownLevel text)) ∧
      (∀ character ∈ text.toList, ¬ IsWhite character → 128 ≤ character.toNat →
        parse text = .error (.unknownLevel text)) ∧
      (∀ level leading other trailing, parse text = .ok level → SameLetters text.toList other →
        AllWhite leading → AllWhite trailing →
          parse (String.ofList (leading ++ other ++ trailing)) = .ok level) ∧
      (∀ level leading other trailing, SameLetters (name level).toList other →
        AllWhite leading → AllWhite trailing →
          parse (String.ofList (leading ++ other ++ trailing)) = .ok level) ∧
      ∀ host steps,
        (∀ level, parse text = .ok level → (Detection.run ⟨host, .text text⟩ steps).1.found =
          if steps.any DetectionStep.needsFeatures then some (host.inter level.mask) else none) ∧
        ∀ rejection, parse text = .error rejection →
          (Detection.run ⟨host, .text text⟩ steps).1.found =
            if steps.any DetectionStep.needsFeatures then some host else none := by
  refine ⟨parse_eq_ok_iff text, parse_eq_error_iff text, ?_, ?_, ?_, ?_, ?_⟩
  · intro before blank after divided white left right
    rw [parse_eq_error_iff, divided]
    exact not_spells_of_divided white left right
  · intro character member visible foreign
    rw [parse_eq_error_iff]
    exact not_spells_of_foreign member visible foreign
  · intro level leading other trailing named same leadingWhite trailingWhite
    have spells := (parse_eq_ok_iff text level).mp named
    rw [parse_eq_ok_iff, String.toList_ofList]
    exact spells.around leading other trailing same leadingWhite trailingWhite
  · intro level leading other trailing same leadingWhite trailingWhite
    rw [parse_eq_ok_iff, String.toList_ofList]
    exact (spells_name level).around leading other trailing same leadingWhite trailingWhite
  · intro host steps
    constructor
    · intro level named
      exact found_of_spells ((parse_eq_ok_iff text level).mp named) host steps
    · intro rejection rejected
      obtain rfl := parse_eq_error text rejection rejected
      exact found_of_not_spells ((parse_eq_error_iff text).mp rejected) host steps

/-- A word in capitals between blanks, one of them a tabulator and one not ASCII, names its level;
divided by a blank it names none, and with a zero-width space in front of it neither. -/
theorem paddedWord_named :
    parse "\u2003SSE4.1\t" = .ok .x86v2 ∧
      parse "sse 4.1" = .error (.unknownLevel "sse 4.1") ∧
      parse "\u200bsse4.1" = .error (.unknownLevel "\u200bsse4.1") ∧
      (Detection.run ⟨.all, .text "\u2003SSE4.1\t"⟩ [.features]).1.found = some ⟨true, false⟩ := by
  obtain ⟨_, _, _, _, around, _, _⟩ := names_padded_words "sse4.1"
  obtain ⟨_, _, divided, _, _, _, _⟩ := names_padded_words "sse 4.1"
  obtain ⟨_, _, _, foreign, _, _, _⟩ := names_padded_words "\u200bsse4.1"
  obtain ⟨_, _, _, _, _, _, found⟩ := names_padded_words "\u2003SSE4.1\t"
  have padded : parse "\u2003SSE4.1\t" = .ok .x86v2 :=
    around .x86v2 ['\u2003'] "SSE4.1".toList ['\t'] (by decide)
      ((sameLetters_iff _ _).mpr (by decide)) (by decide) (by decide)
  refine ⟨padded, ?_, ?_, (found .all [.features]).1 .x86v2 padded⟩
  · exact divided "sse".toList ' ' "4.1".toList (by decide) (by decide) (by decide) (by decide)
  · exact foreign '\u200b' (by decide) (by decide) (by decide)

end Level

end GrainSynthesis
