import LoadAtlas.Json.Quotation
import Mathlib.Algebra.Order.BigOperators.Group.List

/-!
# Quoted texts read back

A character may be written between quotes in several ways: as itself, as a short escape, by its
number, or as a pair of halves.  However the characters of a text are written, reading gives the
text back and passing over it ends at the final quote.  What is written by `writeText` is one of
these ways.

Halves of pairs may also stand alone.  Then there is no text to be read, but passing over them
ends at the final quote all the same, and reading looks at nothing behind it.
-/

namespace LoadAtlas
namespace Json

/-! ## Ways to write a text -/

/-- Four hexadecimal digits and the unit that they give. -/
structure UnitDigits (unit : Nat) (digits : List Char) : Prop where
  four : digits.length = 4
  number : Text.number? 16 digits = some unit

/-- The ways to write a character between quotes. -/
inductive Spelling : Char → List Char → Prop
  | plain {character : Char} (printable : 0x20 ≤ character.toNat) (noQuote : character ≠ '"')
      (noBackslash : character ≠ '\\') : Spelling character [character]
  | short {letter character : Char} (escape : Text.shortEscape? letter = some character) :
      Spelling character ['\\', letter]
  | slash : Spelling '/' ['\\', '/']
  | unit {character : Char} {digits : List Char} (given : UnitDigits character.toNat digits) :
      Spelling character ('\\' :: 'u' :: digits)
  | pair {first second : Nat} {high low : List Char} (isFirst : isFirstHalf first = true)
      (isSecond : isSecondHalf second = true) (givenFirst : UnitDigits first high)
      (givenSecond : UnitDigits second low) :
      Spelling (joined first second) ('\\' :: 'u' :: (high ++ '\\' :: 'u' :: low))

/-- The ways to write characters between quotes, one after the other. -/
inductive Quotation : List Char → List Char → Prop
  | nil : Quotation [] []
  | cons {character : Char} {characters spelt rest : List Char}
      (first : Spelling character spelt) (others : Quotation characters rest) :
      Quotation (character :: characters) (spelt ++ rest)

/-- The ways in which a character, or half of one, may stand between quotes. -/
inductive Stroke : List Char → Prop
  | plain {character : Char} (printable : 0x20 ≤ character.toNat) (noQuote : character ≠ '"')
      (noBackslash : character ≠ '\\') : Stroke [character]
  | short {letter character : Char} (escape : Text.shortEscape? letter = some character) :
      Stroke ['\\', letter]
  | slash : Stroke ['\\', '/']
  | unit {unit : Nat} {digits : List Char} (given : UnitDigits unit digits) :
      Stroke ('\\' :: 'u' :: digits)

/-- What may stand between quotes, whether or not halves of pairs stand together. -/
inductive Formed : List Char → Prop
  | nil : Formed []
  | cons {spelt rest : List Char} (first : Stroke spelt) (others : Formed rest) :
      Formed (spelt ++ rest)

variable {character : Char} {characters digits spelt text rest : List Char} {unit : Nat}
variable {manner : Manner}

theorem Spelling.formed_append (spelling : Spelling character spelt) (others : Formed rest) :
    Formed (spelt ++ rest) := by
  cases spelling with
  | plain printable noQuote noBackslash => exact .cons (.plain printable noQuote noBackslash) others
  | short escape => exact .cons (.short escape) others
  | slash => exact .cons .slash others
  | unit given => exact .cons (.unit given) others
  | pair _ _ givenFirst givenSecond =>
      simpa using Formed.cons (.unit givenFirst) (.cons (.unit givenSecond) others)

theorem Quotation.formed (quotation : Quotation characters spelt) : Formed spelt := by
  induction quotation with
  | nil => exact .nil
  | cons first _ induction => exact first.formed_append induction

/-! ## Escapes -/

theorem UnitDigits.takeUnit_append (given : UnitDigits unit digits) (text : List Char) :
    takeUnit (digits ++ text) = .ok (unit, text) := by
  have bytes : 4 ≤ (digits.map Char.utf8Size).sum := by
    have each := List.length_le_sum_of_one_le (digits.map Char.utf8Size) fun size member => by
      obtain ⟨digit, -, rfl⟩ := List.mem_map.mp member
      exact digit.utf8Size_pos
    simpa [given.four] using each
  have front : (digits ++ text).take 4 = digits := by simp [← given.four]
  have back : (digits ++ text).drop 4 = text := by simp [← given.four]
  simp only [takeUnit, front, back, given.four, given.number, if_neg bytes.not_gt, Nat.lt_irrefl,
    ↓reduceIte]

theorem completeUnit_toNat (character : Char) (text : List Char) :
    completeUnit character.toNat text = .ok (character, text) := by
  have whole : isSecondHalf character.toNat = false ∧ isFirstHalf character.toNat = false := by
    have valid : character.toNat < 0xd800 ∨ 0xdfff < character.toNat ∧ character.toNat < 0x110000 :=
      character.valid
    simp only [isSecondHalf, isFirstHalf, Bool.and_eq_false_iff, decide_eq_false_iff_not]
    omega
  simp only [completeUnit, whole.1, whole.2, Bool.false_eq_true, ↓reduceIte, Char.ofNat_toNat]

theorem isSecondHalf_of_isFirstHalf (isFirst : isFirstHalf unit = true) :
    isSecondHalf unit = false := by
  simp only [isSecondHalf, isFirstHalf, Bool.and_eq_true, decide_eq_true_eq,
    Bool.and_eq_false_iff, decide_eq_false_iff_not] at isFirst ⊢
  omega

theorem completeUnit_pair {first second : Nat} (isFirst : isFirstHalf first = true)
    (isSecond : isSecondHalf second = true) (given : UnitDigits second digits)
    (text : List Char) :
    completeUnit first ('\\' :: 'u' :: (digits ++ text)) = .ok (joined first second, text) := by
  simp [completeUnit, isSecondHalf_of_isFirstHalf isFirst, isFirst, takeUnitMark,
    given.takeUnit_append, isSecond, bind, Except.bind]

theorem takeEscape_short {letter : Char} (escape : Text.shortEscape? letter = some character)
    (manner : Manner) (text : List Char) :
    takeEscape manner (letter :: text) = .ok (character, text) := by
  have noUnit : letter ≠ 'u' := by
    rintro rfl
    cases escape
  have noSlash : letter ≠ '/' := by
    rintro rfl
    cases escape
  rw [takeEscape.eq_4 manner letter text (by simpa using noUnit) (by simpa using noSlash), escape]

theorem takeEscape_unit (given : UnitDigits unit digits) (text : List Char) :
    takeEscape .reading ('u' :: (digits ++ text)) = completeUnit unit text ∧
      takeEscape .passing ('u' :: (digits ++ text)) = .ok (Char.ofNat unit, text) := by
  simp [takeEscape, given.takeUnit_append, bind, Except.bind, pure, Except.pure]

/-! ## Characters -/

theorem takeCharacter_escape (manner : Manner)
    (taken : takeEscape manner text = .ok (character, rest)) :
    takeCharacter manner ('\\' :: text) = .ok (some character, rest) := by
  simp [takeCharacter, taken, bind, Except.bind, pure, Except.pure]

theorem takeCharacter_plain (printable : 0x20 ≤ character.toNat) (noQuote : character ≠ '"')
    (noBackslash : character ≠ '\\') (manner : Manner) (text : List Char) :
    takeCharacter manner (character :: text) = .ok (some character, text) := by
  rw [takeCharacter.eq_4 manner character text (by simpa using noQuote)
    (by simpa using noBackslash), if_neg printable.not_gt]

/-- However a character is written, it is read back. -/
theorem Spelling.takeCharacter_reading (spelling : Spelling character spelt) (text : List Char) :
    takeCharacter .reading (spelt ++ text) = .ok (some character, text) := by
  cases spelling with
  | plain printable noQuote noBackslash =>
      exact takeCharacter_plain printable noQuote noBackslash _ text
  | short escape => exact takeCharacter_escape _ (takeEscape_short escape _ text)
  | slash => rfl
  | unit given =>
      exact takeCharacter_escape _
        ((takeEscape_unit given text).1.trans (completeUnit_toNat character text))
  | pair isFirst isSecond givenFirst givenSecond =>
      rw [List.cons_append, List.cons_append, List.append_assoc]
      exact takeCharacter_escape _ ((takeEscape_unit givenFirst _).1.trans
        (completeUnit_pair isFirst isSecond givenSecond text))

theorem Spelling.length_pos (spelling : Spelling character spelt) : 0 < spelt.length := by
  cases spelling <;> simp

/-! ## Quoted texts -/

/-- Taking characters off a text up to its quote gives these, and the text left behind the quote,
if the fuel is greater than `count`. -/
def Takes (manner : Manner) (count : Nat) (text characters left : List Char) : Prop :=
  ∀ fuel, count < fuel → takeCharacters manner fuel text = .ok (characters, left)

variable {count : Nat} {left : List Char}

theorem takes_quote (manner : Manner) (left : List Char) :
    Takes manner 0 ('"' :: left) [] left := by
  intro fuel enough
  obtain ⟨fuel, rfl⟩ := Nat.exists_eq_add_one_of_ne_zero (Nat.ne_zero_of_lt enough)
  rfl

theorem Takes.cons (taken : takeCharacter manner text = .ok (some character, rest))
    (takes : Takes manner count rest characters left) :
    Takes manner (count + 1) text (character :: characters) left := by
  intro fuel enough
  obtain ⟨fuel, rfl⟩ := Nat.exists_eq_add_one_of_ne_zero (Nat.ne_zero_of_lt enough)
  have others := takes fuel (Nat.lt_of_add_lt_add_right enough)
  simp [takeCharacters, taken, others, bind, Except.bind, pure, Except.pure]

theorem Takes.mono {more : Nat} (takes : Takes manner count text characters left)
    (least : count ≤ more) : Takes manner more text characters left :=
  fun fuel enough => takes fuel (least.trans_lt enough)

theorem Spelling.takes_reading (spelling : Spelling character spelt)
    (takes : Takes .reading count text characters left) :
    Takes .reading (spelt.length + count) (spelt ++ text) (character :: characters) left :=
  (takes.cons (spelling.takeCharacter_reading text)).mono (by have := spelling.length_pos; omega)

theorem Stroke.length_pos (stroke : Stroke spelt) : 0 < spelt.length := by
  cases stroke <;> simp

/-- Passing over a character, or half of one, takes it at once. -/
theorem Stroke.takeCharacter_passing (stroke : Stroke spelt) (text : List Char) :
    ∃ character, takeCharacter .passing (spelt ++ text) = .ok (some character, text) := by
  cases stroke with
  | plain printable noQuote noBackslash =>
      exact ⟨_, takeCharacter_plain printable noQuote noBackslash _ text⟩
  | short escape => exact ⟨_, takeCharacter_escape _ (takeEscape_short escape .passing text)⟩
  | slash => exact ⟨_, rfl⟩
  | unit given => exact ⟨_, takeCharacter_escape _ (takeEscape_unit given text).2⟩

theorem Formed.takes_passing (formed : Formed spelt) (left : List Char) :
    ∃ passed, Takes .passing spelt.length (spelt ++ '"' :: left) passed left := by
  induction formed with
  | nil => exact ⟨[], takes_quote .passing left⟩
  | @cons spelt rest first others induction =>
      obtain ⟨passed, takes⟩ := induction
      obtain ⟨character, taken⟩ := first.takeCharacter_passing (rest ++ '"' :: left)
      have positive := first.length_pos
      rw [List.append_assoc, List.length_append]
      exact ⟨_, (takes.cons taken).mono (by omega)⟩

theorem Quotation.takes_reading (quotation : Quotation characters spelt) (left : List Char) :
    Takes .reading spelt.length (spelt ++ '"' :: left) characters left := by
  induction quotation with
  | nil => exact takes_quote .reading left
  | cons first others induction =>
      rw [List.append_assoc, List.length_append]
      exact first.takes_reading induction

theorem Quotation.takeQuotation_reading (quotation : Quotation characters spelt)
    (left : List Char) :
    takeQuotation .reading (spelt ++ '"' :: left) = .ok (characters, left) :=
  quotation.takes_reading left _ (by simp)

theorem Formed.takeQuotation_passing (formed : Formed spelt) (left : List Char) :
    ∃ passed, takeQuotation .passing (spelt ++ '"' :: left) = .ok (passed, left) := by
  obtain ⟨passed, takes⟩ := formed.takes_passing left
  exact ⟨passed, takes _ (by simp)⟩

/-! ## Nothing behind the final quote matters -/

/-- The characters that are read up to the final quote. -/
def charactersRead (fuel : Nat) (text : List Char) : Except Fault (List Char) :=
  (takeCharacters .reading fuel text).map Prod.fst

/-- The characters that are read up to the final quote, behind the digits of a unit. -/
def charactersFrom (unit fuel : Nat) (text : List Char) : Except Fault (List Char) :=
  (completeUnit unit text).bind fun taken =>
    (charactersRead fuel taken.2).map (taken.1 :: ·)

variable {fuel more : Nat} {other : List Char}

theorem charactersRead_cons (taken : takeCharacter .reading text = .ok (some character, rest)) :
    charactersRead (fuel + 1) text = (charactersRead fuel rest).map (character :: ·) := by
  simp only [charactersRead, takeCharacters, taken, bind, Except.bind]
  cases takeCharacters .reading fuel rest <;> rfl

theorem charactersRead_unit (given : UnitDigits unit digits) (text : List Char) :
    charactersRead (fuel + 1) ('\\' :: 'u' :: (digits ++ text)) =
      charactersFrom unit fuel text := by
  have escape := (takeEscape_unit given text).1
  cases completed : completeUnit unit text with
  | error fault =>
      simp [charactersRead, charactersFrom, takeCharacters, takeCharacter, escape, completed, bind,
        Except.bind, Except.map]
  | ok taken =>
      rw [charactersRead_cons (takeCharacter_escape _ (escape.trans completed)), charactersFrom,
        completed]
      rfl

theorem charactersFrom_of_noMark {fault : Fault} (isFirst : isFirstHalf unit = true)
    (noMark : takeUnitMark text = .error fault) :
    charactersFrom unit fuel text = .error fault := by
  simp [charactersFrom, completeUnit, isFirst, isSecondHalf_of_isFirstHalf isFirst, noMark, bind,
    Except.bind]

theorem charactersFrom_pair {second : Nat} (isFirst : isFirstHalf unit = true)
    (given : UnitDigits second digits) (text : List Char) :
    charactersFrom unit fuel ('\\' :: 'u' :: (digits ++ text)) =
      if isSecondHalf second then (charactersRead fuel text).map (joined unit second :: ·)
      else .error .loneSurrogate := by
  simp only [charactersFrom, completeUnit, isFirst, isSecondHalf_of_isFirstHalf isFirst,
    takeUnitMark, given.takeUnit_append, bind, Except.bind, Bool.false_eq_true, ↓reduceIte]
  by_cases isSecond : isSecondHalf second = true
  · simp only [if_pos isSecond]
  · simp only [if_neg isSecond]

/-- Only a first half is completed by what stands behind it. -/
theorem charactersFrom_congr (same : charactersRead fuel text = charactersRead more other)
    (pair : isFirstHalf unit = true →
      charactersFrom unit fuel text = charactersFrom unit more other) :
    charactersFrom unit fuel text = charactersFrom unit more other := by
  by_cases isFirst : isFirstHalf unit = true
  · exact pair isFirst
  · by_cases isSecond : isSecondHalf unit = true <;>
      simp [charactersFrom, completeUnit, isFirst, isSecond, Except.bind, same]

/-- A character that is not written by its unit is read as itself, and completes no pair. -/
theorem Stroke.reading (stroke : Stroke spelt) :
    (∃ unit digits, UnitDigits unit digits ∧ spelt = '\\' :: 'u' :: digits) ∨
    ∃ character, ∀ text, takeCharacter .reading (spelt ++ text) = .ok (some character, text) ∧
      takeUnitMark (spelt ++ text) = .error .endInEscape := by
  cases stroke with
  | unit given => exact .inl ⟨_, _, given, rfl⟩
  | slash => exact .inr ⟨'/', fun text => ⟨rfl, rfl⟩⟩
  | plain printable noQuote noBackslash =>
      refine .inr ⟨_, fun text => ⟨takeCharacter_plain printable noQuote noBackslash _ _, ?_⟩⟩
      exact takeUnitMark.eq_4 _ (by simp) (by simp [noBackslash]) (by simp [noBackslash])
  | @short letter _ escape =>
      refine .inr ⟨_, fun text => ⟨takeCharacter_escape _ (takeEscape_short escape _ _), ?_⟩⟩
      refine takeUnitMark.eq_4 _ (by simp) (by simp) fun rest same => ?_
      obtain ⟨rfl, -⟩ : letter = 'u' ∧ _ := by simpa using same
      cases escape

/-- Reading does not look behind the final quote, neither from the beginning of a character nor
from the digits of a unit, which may be the first half of a pair. -/
theorem Formed.charactersRead_eq (formed : Formed spelt) (left left' : List Char) :
    ∀ fuel more, spelt.length < fuel → spelt.length < more →
      charactersRead fuel (spelt ++ '"' :: left) = charactersRead more (spelt ++ '"' :: left') ∧
      ∀ unit, charactersFrom unit fuel (spelt ++ '"' :: left) =
        charactersFrom unit more (spelt ++ '"' :: left') := by
  induction formed with
  | nil =>
      intro fuel more enough enough'
      obtain ⟨fuel, rfl⟩ := Nat.exists_eq_add_one_of_ne_zero (Nat.ne_zero_of_lt enough)
      obtain ⟨more, rfl⟩ := Nat.exists_eq_add_one_of_ne_zero (Nat.ne_zero_of_lt enough')
      refine ⟨rfl, fun unit => charactersFrom_congr rfl fun isFirst => ?_⟩
      -- a first half in front of the final quote stays alone
      have noMark (left : List Char) : takeUnitMark ('"' :: left) = .error .endInEscape := rfl
      exact (charactersFrom_of_noMark isFirst (noMark _)).trans
        (charactersFrom_of_noMark isFirst (noMark _)).symm
  | @cons spelt rest first others induction =>
      intro fuel more enough enough'
      have positive := first.length_pos
      rw [List.length_append] at enough enough'
      obtain ⟨fuel, rfl⟩ := Nat.exists_eq_add_one_of_ne_zero (Nat.ne_zero_of_lt enough)
      obtain ⟨more, rfl⟩ := Nat.exists_eq_add_one_of_ne_zero (Nat.ne_zero_of_lt enough')
      have behind := induction fuel more (by omega) (by omega)
      have again := (induction (fuel + 1) (more + 1) (by omega) (by omega)).1
      rcases first.reading with ⟨second, digits, given, rfl⟩ | ⟨character, taken⟩
      · -- a unit is read on its own, or as the second half of the pair that is under way
        have units (left : List Char) : '\\' :: 'u' :: digits ++ rest ++ '"' :: left =
            '\\' :: 'u' :: (digits ++ (rest ++ '"' :: left)) := by simp
        rw [units, units]
        have same := behind.2 second
        rw [← charactersRead_unit given, ← charactersRead_unit given] at same
        refine ⟨same, fun unit => charactersFrom_congr same fun isFirst => ?_⟩
        rw [charactersFrom_pair isFirst given, charactersFrom_pair isFirst given, again]
      · rw [List.append_assoc, List.append_assoc]
        have same : charactersRead (fuel + 1) (spelt ++ (rest ++ '"' :: left)) =
            charactersRead (more + 1) (spelt ++ (rest ++ '"' :: left')) := by
          rw [charactersRead_cons (taken _).1, charactersRead_cons (taken _).1, behind.1]
        refine ⟨same, fun unit => charactersFrom_congr same fun isFirst => ?_⟩
        exact (charactersFrom_of_noMark isFirst (taken _).2).trans
          (charactersFrom_of_noMark isFirst (taken _).2).symm

/-! ## Written texts -/

theorem shortEscape?_of_shortLetter? {letter : Char}
    (written : Text.shortLetter? character = some letter) :
    Text.shortEscape? letter = some character := by
  obtain ⟨entry, found, rfl⟩ := Option.map_eq_some_iff.mp written
  have same : entry.2 = character := by simpa using List.find?_some found
  have table : ∀ entry ∈ Text.shortEscapes, Text.shortEscape? entry.1 = some entry.2 := by decide
  exact same ▸ table entry (List.mem_of_find?_eq_some found)

theorem unitDigits_control (control : character.toNat < 0x20) :
    UnitDigits character.toNat ['0', '0', Nat.digitChar (character.toNat / 16),
      Nat.digitChar (character.toNat % 16)] := by
  have table : ∀ code < 0x20, Text.number? 16
      ['0', '0', Nat.digitChar (code / 16), Nat.digitChar (code % 16)] = some code := by decide
  exact ⟨rfl, table _ control⟩

theorem spelling_writeCharacter (character : Char) :
    Spelling character (writeCharacter character) := by
  rw [writeCharacter]
  cases written : Text.shortLetter? character with
  | some letter => exact .short (shortEscape?_of_shortLetter? written)
  | none =>
      by_cases control : character.toNat < 0x20
      · simp only [control, ↓reduceIte]
        exact .unit (unitDigits_control control)
      · simp only [control, ↓reduceIte]
        refine .plain (Nat.le_of_not_lt control) ?_ ?_
        · rintro rfl
          cases written
        · rintro rfl
          cases written

/-- What is written reads back as the same text. -/
theorem quotation_flatMap_writeCharacter (characters : List Char) :
    Quotation characters (characters.flatMap writeCharacter) := by
  induction characters with
  | nil => exact .nil
  | cons character characters induction => exact .cons (spelling_writeCharacter character) induction

end Json
end LoadAtlas
