import LoadAtlas.Json.Number
import Mathlib.Data.List.Basic

/-!
# Numerals read back

A numeral that has the digits it needs is read back from its text, however its exponent is
written, as long as the text behind it does not go on with a numeral.  Decimal digits of a natural
number are such a numeral.
-/

namespace LoadAtlas
namespace Json

/-! ## Runs of characters -/

section Runs

variable {front text : List Char} {inside : Char → Bool}

theorem takeWhile_append_of_stops (all : ∀ character ∈ front, inside character = true)
    (stops : ∀ character ∈ text.head?, inside character = false) :
    (front ++ text).takeWhile inside = front := by
  rw [List.takeWhile_append_of_pos all]
  cases text with
  | nil => exact List.append_nil front
  | cons character text =>
      rw [List.takeWhile_cons_of_neg (by simp [stops character rfl]), List.append_nil]

theorem dropWhile_append_of_stops (all : ∀ character ∈ front, inside character = true)
    (stops : ∀ character ∈ text.head?, inside character = false) :
    (front ++ text).dropWhile inside = text := by
  rw [List.dropWhile_append_of_pos all]
  cases text with
  | nil => rfl
  | cons character text => rw [List.dropWhile_cons_of_neg (by simp [stops character rfl])]

end Runs

/-! ## Ways to write a numeral -/

/-- One decimal digit or more. -/
structure Digits (digits : List Char) : Prop where
  some : digits ≠ []
  all : ∀ digit ∈ digits, digit.isDigit = true

/-- A number that can be written: no digit is missing, and no zero stands in front. -/
structure Numeral.Sound (numeral : Numeral) : Prop where
  whole : Digits numeral.whole
  unpadded : ¬ (numeral.whole.head? = some '0' ∧ numeral.whole.length ≠ 1)
  fraction : ∀ digits ∈ numeral.fraction, Digits digits
  exponent : ∀ written ∈ numeral.exponent, Digits written.digits

def Numeral.sign (negative : Bool) : List Char :=
  if negative then ['-'] else []

def Numeral.pointed : Option (List Char) → List Char
  | none => []
  | some digits => '.' :: digits

/-- The letters in front of an exponent. -/
def IsExponentMark (mark : Char) : Prop :=
  mark = 'e' ∨ mark = 'E'

/-- The ways to write an exponent; a plus sign may be left out. -/
inductive ExponentSpelling : Option Exponent → List Char → Prop
  | none : ExponentSpelling none []
  | unsigned {mark : Char} (digits : List Char) (isMark : IsExponentMark mark) :
      ExponentSpelling (some ⟨false, digits⟩) (mark :: digits)
  | plus {mark : Char} (digits : List Char) (isMark : IsExponentMark mark) :
      ExponentSpelling (some ⟨false, digits⟩) (mark :: '+' :: digits)
  | minus {mark : Char} (digits : List Char) (isMark : IsExponentMark mark) :
      ExponentSpelling (some ⟨true, digits⟩) (mark :: '-' :: digits)

/-- The ways to write a numeral. -/
inductive Numeral.Spelling (numeral : Numeral) : List Char → Prop
  | intro {text : List Char} (exponent : ExponentSpelling numeral.exponent text) :
      Spelling numeral
        (sign numeral.negative ++ (numeral.whole ++ (pointed numeral.fraction ++ text)))

/-! ## Reading a numeral -/

/-- Whether a character that stands behind a numeral would be read as a part of it. -/
def continuesNumeral (character : Char) : Bool :=
  character.isDigit || character = '.' || character = 'e' || character = 'E'

/-- A text does not go on with a numeral. -/
def EndsNumeral (text : List Char) : Prop :=
  ∀ character ∈ text.head?, continuesNumeral character = false

/-- A text does not go on with a digit. -/
def EndsDigits (text : List Char) : Prop :=
  ∀ character ∈ text.head?, character.isDigit = false

variable {digits text spelt : List Char}

theorem EndsNumeral.endsDigits (ends : EndsNumeral text) : EndsDigits text := by
  intro character head
  have ended := ends character head
  simp only [continuesNumeral, Bool.or_eq_false_iff] at ended
  exact ended.1.1.1

theorem Digits.exists_eq_cons (given : Digits digits) : ∃ first others,
    digits = first :: others ∧ first.isDigit = true := by
  obtain ⟨first, others, rfl⟩ := List.exists_cons_of_ne_nil given.some
  exact ⟨first, others, rfl, given.all _ List.mem_cons_self⟩

theorem Digits.takeDigits_append (given : Digits digits) (ends : EndsDigits text) :
    Numeral.takeDigits (digits ++ text) = .ok (digits, text) := by
  obtain ⟨first, others, same, isDigit⟩ := given.exists_eq_cons
  have taken := takeWhile_append_of_stops given.all ends
  have dropped := dropWhile_append_of_stops given.all ends
  rw [same, List.cons_append] at taken dropped ⊢
  rw [Numeral.takeDigits, if_pos isDigit, taken, dropped]

theorem Digits.takeSign_append (given : Digits digits) (negative : Bool) (text : List Char) :
    Numeral.takeSign (Numeral.sign negative ++ (digits ++ text)) = (negative, digits ++ text) := by
  obtain ⟨first, others, rfl, isDigit⟩ := given.exists_eq_cons
  cases negative with
  | true => rfl
  | false =>
      refine Numeral.takeSign.eq_2 _ fun rest same => ?_
      obtain ⟨rfl, -⟩ := List.cons.inj same
      cases isDigit

theorem Digits.takeExponentSign_append (given : Digits digits) (text : List Char) :
    Numeral.takeExponentSign (digits ++ text) = (false, digits ++ text) := by
  obtain ⟨first, others, rfl, isDigit⟩ := given.exists_eq_cons
  have noSign {sign : Char} (other : sign.isDigit = false) (rest : List Char)
      (same : first :: others ++ text = sign :: rest) : False := by
    obtain ⟨rfl, -⟩ := List.cons.inj same
    exact absurd (other.symm.trans isDigit) Bool.false_ne_true
  exact Numeral.takeExponentSign.eq_3 _ (noSign rfl) (noSign rfl)

theorem takeFraction_pointed {fraction : Option (List Char)}
    (given : ∀ digits ∈ fraction, Digits digits) (ends : EndsDigits text)
    (noPoint : ∀ rest, text ≠ '.' :: rest) :
    Numeral.takeFraction (Numeral.pointed fraction ++ text) = .ok (fraction, text) := by
  cases fraction with
  | none => exact Numeral.takeFraction.eq_2 _ noPoint
  | some digits =>
      simp [Numeral.pointed, Numeral.takeFraction, (given digits rfl).takeDigits_append ends,
        bind, Except.bind, pure, Except.pure]

theorem takeExponent_mark {mark : Char} (isMark : IsExponentMark mark) {negative : Bool}
    {signed : List Char} (sign : Numeral.takeExponentSign (signed ++ text) =
      (negative, digits ++ text)) (given : Digits digits) (ends : EndsDigits text) :
    Numeral.takeExponent (mark :: (signed ++ text)) =
      .ok (some { negative, digits }, text) := by
  have isMark : mark = 'e' ∨ mark = 'E' := isMark
  simp only [Numeral.takeExponent, if_pos isMark, sign, given.takeDigits_append ends, bind,
    Except.bind, pure, Except.pure]

theorem ExponentSpelling.takeExponent_append {exponent : Option Exponent}
    (spelling : ExponentSpelling exponent spelt)
    (given : ∀ written ∈ exponent, Digits written.digits) (ends : EndsNumeral text) :
    Numeral.takeExponent (spelt ++ text) = .ok (exponent, text) := by
  cases spelling with
  | none =>
      cases text with
      | nil => rfl
      | cons character text =>
          have ended := ends character rfl
          simp only [continuesNumeral, Bool.or_eq_false_iff, decide_eq_false_iff_not] at ended
          exact if_neg (not_or.mpr ⟨ended.1.2, ended.2⟩)
  | unsigned digits isMark =>
      have some : Digits digits := given _ rfl
      exact takeExponent_mark isMark (some.takeExponentSign_append text) some ends.endsDigits
  | plus digits isMark => exact takeExponent_mark isMark rfl (given _ rfl) ends.endsDigits
  | minus digits isMark => exact takeExponent_mark isMark rfl (given _ rfl) ends.endsDigits

/-- An exponent does not go on with digits or a point. -/
theorem ExponentSpelling.ends {exponent : Option Exponent}
    (spelling : ExponentSpelling exponent spelt) (ends : EndsNumeral text) :
    EndsDigits (spelt ++ text) ∧ ∀ rest, spelt ++ text ≠ '.' :: rest := by
  have marked {mark : Char} {rest : List Char} (isMark : IsExponentMark mark) :
      EndsDigits (mark :: rest) ∧ ∀ others, mark :: rest ≠ '.' :: others := by
    rcases isMark with rfl | rfl <;> simp [EndsDigits]
  cases spelling with
  | none =>
      refine ⟨ends.endsDigits, ?_⟩
      rintro rest rfl
      exact absurd (ends '.' rfl) (by decide)
  | unsigned _ isMark => exact marked isMark
  | plus _ isMark => exact marked isMark
  | minus _ isMark => exact marked isMark

namespace Numeral

variable {numeral : Numeral}

theorem endsDigits_pointed (fraction : Option (List Char)) (ends : EndsDigits text) :
    EndsDigits (pointed fraction ++ text) := by
  cases fraction with
  | none => exact ends
  | some digits => simp [pointed, EndsDigits]

/-- However a numeral is written, it is read back. -/
theorem Sound.take_append (sound : numeral.Sound) (spelling : numeral.Spelling spelt)
    (ends : EndsNumeral text) : take (spelt ++ text) = .ok (numeral, text) := by
  obtain ⟨exponent⟩ := spelling
  obtain ⟨noDigit, noPoint⟩ := exponent.ends ends
  have whole := sound.whole.takeDigits_append (endsDigits_pointed numeral.fraction noDigit)
  simp only [List.append_assoc, take, takeWhole, sound.whole.takeSign_append, whole, bind,
    Except.bind,
    if_neg sound.unpadded, takeFraction_pointed sound.fraction noDigit noPoint,
    exponent.takeExponent_append sound.exponent ends, pure, Except.pure]

/-- A numeral begins with a minus sign or a digit. -/
theorem Sound.exists_eq_cons (sound : numeral.Sound) (spelling : numeral.Spelling spelt) :
    ∃ first others, spelt = first :: others ∧ (first = '-' ∨ first.isDigit = true) := by
  obtain ⟨exponent⟩ := spelling
  obtain ⟨first, others, whole, isDigit⟩ := sound.whole.exists_eq_cons
  rw [whole]
  cases numeral.negative with
  | true => exact ⟨_, _, rfl, .inl rfl⟩
  | false => exact ⟨_, _, rfl, .inr isDigit⟩

/-! ## Natural numbers -/

/-- The numeral of a natural number. -/
def natural (number : Nat) : Numeral where
  negative := false
  whole := Nat.toDigits 10 number

end Numeral

theorem head?_toDigits_ne_zero {number : Nat} (positive : 0 < number) :
    (Nat.toDigits 10 number).head? ≠ some '0' := by
  induction number using Nat.strongRecOn with
  | ind number induction =>
      rw [Nat.toDigits_eq_if (by decide)]
      split
      next small =>
        have table : ∀ digit < 10, 0 < digit → [Nat.digitChar digit].head? ≠ some '0' := by decide
        exact table number small positive
      next large =>
        have some := Nat.length_toDigits_pos (b := 10) (n := number / 10)
        rw [List.head?_append_of_ne_nil _ (List.ne_nil_of_length_pos some)]
        exact induction (number / 10) (by omega) (by omega)

/-- Only the number zero begins with a zero, and then nothing follows. -/
theorem not_padded_toDigits (number : Nat) : ¬ ((Nat.toDigits 10 number).head? = some '0' ∧
    (Nat.toDigits 10 number).length ≠ 1) := by
  rintro ⟨padded, long⟩
  rcases Nat.eq_zero_or_pos number with rfl | positive
  · exact long rfl
  · exact head?_toDigits_ne_zero positive padded

theorem isDigit_of_mem_toDigits {number : Nat} {digit : Char}
    (member : digit ∈ Nat.toDigits 10 number) : digit.isDigit = true :=
  Nat.isDigit_of_mem_toDigits (by decide) (by decide) member

theorem digits_toDigits (number : Nat) : Digits (Nat.toDigits 10 number) where
  some := List.ne_nil_of_length_pos Nat.length_toDigits_pos
  all _ := isDigit_of_mem_toDigits

theorem Numeral.sound_natural (number : Nat) : (natural number).Sound where
  whole := digits_toDigits number
  unpadded := not_padded_toDigits number
  fraction _ nothing := by cases nothing
  exponent _ nothing := by cases nothing

theorem Numeral.spelling_natural (number : Nat) :
    (natural number).Spelling (Nat.toDigits 10 number) := by
  have spelling : (natural number).Spelling _ := .intro .none
  simpa [natural, sign, pointed] using spelling

theorem value_natural (value : UInt64) :
    (Numeral.natural value.toNat).value = .ok (.natural value) := by
  have small : value.toNat < 18446744073709551616 := value.toNat_lt
  simp [Numeral.natural, Numeral.value, Numeral.integer?, small]

end Json
end LoadAtlas
