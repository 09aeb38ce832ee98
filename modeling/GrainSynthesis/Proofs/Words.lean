import GrainSynthesis.Text.Blank
import Mathlib.Data.List.DropRight
import Mathlib.Data.List.Forall2
import Mathlib.Tactic.IntervalCases

/-!
# Words between blanks

Blanks are the characters with the Unicode property White_Space, here listed one by one, and only
the letters `A ... Z` have a small form of their own. Trimming keeps what lies between the blanks at
both ends of a text, so a text always is its trimmed form between blanks, and more blanks around it
do not change the trimmed form.

Making capitals small makes no blank and removes none. So it does not matter whether a text is
trimmed first or made small first.
-/

namespace GrainSynthesis.Text

/-- The code points of the characters with the property White_Space. -/
def whiteSpace : List Nat :=
  [0x9, 0xA, 0xB, 0xC, 0xD, 0x20, 0x85, 0xA0, 0x1680, 0x2000, 0x2001, 0x2002, 0x2003, 0x2004,
    0x2005, 0x2006, 0x2007, 0x2008, 0x2009, 0x200A, 0x2028, 0x2029, 0x202F, 0x205F, 0x3000]

/-- A character has the property White_Space. -/
def IsWhite (character : Char) : Prop := character.toNat ∈ whiteSpace

instance (character : Char) : Decidable (IsWhite character) :=
  inferInstanceAs (Decidable (_ ∈ whiteSpace))

/-- Every character of a text has the property White_Space. -/
def AllWhite (text : List Char) : Prop := ∀ character ∈ text, IsWhite character

instance (text : List Char) : Decidable (AllWhite text) := List.decidableBAll IsWhite text

/-- The blanks are the characters with the property White_Space. -/
theorem isBlank_iff (character : Char) : isBlank character = true ↔ IsWhite character := by
  simp only [isBlank, blankRanges, List.any_cons, List.any_nil, Bool.or_false, Bool.or_eq_true,
    Bool.and_eq_true, decide_eq_true_iff, IsWhite, whiteSpace, List.mem_cons, List.not_mem_nil,
    or_false]
  omega

/-- The ASCII capitals. -/
def capitals : List Char := "ABCDEFGHIJKLMNOPQRSTUVWXYZ".toList

/-- The ASCII small letters. -/
def smalls : List Char := "abcdefghijklmnopqrstuvwxyz".toList

/-- What a character becomes when ASCII capitals are made small: a capital becomes the small letter
at its place of the alphabet, and every other character stays. -/
inductive SmallForm : Char → Char → Prop where
  | capital {large small : Char} (paired : (large, small) ∈ capitals.zip smalls) :
      SmallForm large small
  | other {character : Char} (kept : character ∉ capitals) : SmallForm character character

/-- A text in small form, character by character. -/
def SmallText (text small : List Char) : Prop := List.Forall₂ SmallForm text small

/-- Two texts that differ at most in the case of ASCII letters. -/
def SameLetters (text other : List Char) : Prop :=
  ∃ small, SmallText text small ∧ SmallText other small

/-- The characters from `A` to `Z` are the capitals. -/
theorem mem_capitals_of_mem (character : Char) (above : 65 ≤ character.toNat)
    (below : character.toNat ≤ 90) : character ∈ capitals := by
  rw [← Char.ofNat_toNat character]
  generalize character.toNat = code at above below
  interval_cases code <;> decide

/-- The small form of a character is the one that ASCII gives it. -/
theorem smallForm_iff (character small : Char) :
    SmallForm character small ↔ small = character.toLower := by
  have paired : ∀ pair ∈ capitals.zip smalls, pair.2 = pair.1.toLower := by decide
  have lowered : capitals.map (fun large => (large, large.toLower)) = capitals.zip smalls := by
    decide
  have other (kept : character ∉ capitals) : character.toLower = character :=
    dif_neg fun between => kept (mem_capitals_of_mem character between.1 between.2)
  constructor
  · intro form
    cases form with
    | capital member => exact paired _ member
    | other kept => exact (other kept).symm
  · rintro rfl
    by_cases large : character ∈ capitals
    · exact .capital (lowered ▸ List.mem_map_of_mem large)
    · rw [other large]
      exact .other large

/-- The small form of a text is the text made small. -/
theorem smallText_iff (text small : List Char) : SmallText text small ↔ small = lowerAscii text := by
  induction text generalizing small with
  | nil => simp [SmallText, lowerAscii]
  | cons first rest inductionHypothesis =>
    cases small with
    | nil => simp [SmallText, lowerAscii]
    | cons letter letters =>
      have remaining := inductionHypothesis letters
      rw [SmallText] at remaining
      simp [SmallText, lowerAscii, smallForm_iff, remaining]

/-- Two texts differ at most in case exactly when they are the same in small letters. -/
theorem sameLetters_iff (text other : List Char) :
    SameLetters text other ↔ lowerAscii text = lowerAscii other := by
  simp [SameLetters, smallText_iff]

/-- Making a character small makes no blank and removes none. -/
theorem isBlank_toLower (character : Char) : isBlank character.toLower = isBlank character := by
  have form := (smallForm_iff character _).mpr rfl
  generalize character.toLower = small at form
  cases form with
  | capital member =>
    have letters : ∀ pair ∈ capitals.zip smalls, isBlank pair.2 = isBlank pair.1 := by decide
    exact letters _ member
  | other kept => rfl

/-- A text of blanks is blank throughout. -/
theorem AllWhite.isBlank {text : List Char} (white : AllWhite text) :
    ∀ character ∈ text, isBlank character = true :=
  fun character member => (isBlank_iff character).mpr (white character member)

/-- Blanks at the end of a text are trimmed. -/
theorem trimEnd_append (text trailing : List Char) (white : AllWhite trailing) :
    trimEnd (text ++ trailing) = trimEnd text := by
  rw [trimEnd, trimEnd, List.reverse_append, List.dropWhile_append_of_pos]
  intro character member
  exact white.isBlank character (List.mem_reverse.mp member)

/-- Blanks around a text are trimmed. -/
theorem trim_append (leading text trailing : List Char) (leadingWhite : AllWhite leading)
    (trailingWhite : AllWhite trailing) : trim (leading ++ text ++ trailing) = trim text := by
  rw [trim, trim, List.append_assoc, List.dropWhile_append_of_pos leadingWhite.isBlank,
    List.dropWhile_append]
  split
  · rename_i blank
    rw [List.isEmpty_iff.mp blank, List.dropWhile_eq_nil_iff.mpr trailingWhite.isBlank]
  · exact trimEnd_append _ trailing trailingWhite

/-- A text without blanks is kept. -/
theorem trim_of_unblank (text : List Char)
    (unblank : ∀ character ∈ text, isBlank character = false) : trim text = text := by
  have kept (characters : List Char)
      (every : ∀ character ∈ characters, isBlank character = false) :
      characters.dropWhile isBlank = characters := by
    rw [List.dropWhile_eq_self_iff]
    intro nonempty
    simp [every _ (List.getElem_mem nonempty)]
  have backward : ∀ character ∈ text.reverse, isBlank character = false :=
    fun character member => unblank character (List.mem_reverse.mp member)
  rw [trim, kept text unblank, trimEnd, kept text.reverse backward, List.reverse_reverse]

/-- A text is its trimmed form between blanks. -/
theorem exists_around_trim (text : List Char) :
    ∃ leading trailing, text = leading ++ trim text ++ trailing ∧ AllWhite leading ∧
      AllWhite trailing := by
  have begins (characters : List Char) : AllWhite (characters.takeWhile isBlank) :=
    fun character member => (isBlank_iff character).mp (List.mem_takeWhile_imp member)
  generalize rest : text.dropWhile isBlank = remaining
  have ends : remaining = trimEnd remaining ++ (remaining.reverse.takeWhile isBlank).reverse := by
    have parts : remaining.reverse.takeWhile isBlank ++ remaining.reverse.dropWhile isBlank =
        remaining.reverse := List.takeWhile_append_dropWhile
    rw [trimEnd, ← List.reverse_append, parts, List.reverse_reverse]
  refine ⟨text.takeWhile isBlank, (remaining.reverse.takeWhile isBlank).reverse, ?_, begins text, ?_⟩
  · rw [trim, rest, List.append_assoc, ← ends, ← rest, List.takeWhile_append_dropWhile]
  · intro character member
    exact begins remaining.reverse character (List.mem_reverse.mp member)

/-- It does not matter whether a text is trimmed first or made small first. -/
theorem lowerAscii_trim (text : List Char) : lowerAscii (trim text) = trim (lowerAscii text) := by
  have unchanged : isBlank ∘ Char.toLower = isBlank := funext isBlank_toLower
  simp only [lowerAscii, trim, trimEnd, List.dropWhile_map, ← List.map_reverse, unchanged]

end GrainSynthesis.Text
