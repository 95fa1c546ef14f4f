import LoadAtlas.Proofs.Toml.Natural
import LoadAtlas.Toml.Line
import Mathlib.Data.List.TakeWhile

/-!
# Written lines in TOML

A line with a bare key, an equals sign between spaces and the digits of a number is read as the
entry of that key.  A text of lines without line ends of their own, each ended by a line feed, is
split into these lines and an empty one.
-/

namespace LoadAtlas
namespace Toml

/-- A key that needs no quotes. -/
structure IsBareKey (key : List Char) : Prop where
  nonempty : key ≠ []
  bare : ∀ character ∈ key, isBare character = true

/-- The line of an entry. -/
def writeEntry (key : List Char) (value : Nat) : List Char :=
  key ++ [' ', '=', ' '] ++ Nat.toDigits 10 value

variable {key text : List Char} {value : Nat}

/-! ## One line -/

theorem isBare_of_isDigit {digit : Char} (isDigit : digit.isDigit = true) :
    isBare digit = true := by
  simp [isBare, Char.isAlphanum, isDigit]

/-- Characters that may stand in a bare key end no part of a line and begin no quoted key. -/
theorem ne_of_isBare {character other : Char} (bare : isBare character = true)
    (special : isBare other = false) : character ≠ other := by
  rintro rfl
  rw [bare] at special
  exact Bool.true_eq_false_eq_False special

theorem isBlank_eq_false_of_isBare {character : Char} (bare : isBare character = true) :
    isBlank character = false := by
  rw [isBlank, Bool.or_eq_false_iff, decide_eq_false_iff_not, decide_eq_false_iff_not]
  exact ⟨ne_of_isBare bare (by decide), ne_of_isBare bare (by decide)⟩

theorem isValuePart_of_isBare {character : Char} (bare : isBare character = true) :
    isValuePart character = true := by
  simp [isValuePart, isBlank_eq_false_of_isBare bare, ne_of_isBare bare (show isBare '#' = false by
    decide)]

theorem value?_toDigits (bounded : value ≤ greatestInteger) :
    value? (' ' :: Nat.toDigits 10 value) = some value := by
  have bare (digit : Char) (member : digit ∈ Nat.toDigits 10 value) : isBare digit = true :=
    isBare_of_isDigit (Json.isDigit_of_mem_toDigits member)
  have isPart (digit : Char) (member : digit ∈ Nat.toDigits 10 value) :
      isValuePart digit = true :=
    isValuePart_of_isBare (bare digit member)
  have opened : (' ' :: Nat.toDigits 10 value).dropWhile isBlank = Nat.toDigits 10 value := by
    change ([' '] ++ Nat.toDigits 10 value).dropWhile isBlank = _
    apply Json.dropWhile_append_of_stops
    · simp [isBlank]
    · intro digit head
      exact isBlank_eq_false_of_isBare (bare digit (List.mem_of_mem_head? head))
  have taken := List.takeWhile_eq_self_iff.mpr isPart
  have dropped := List.dropWhile_eq_nil_iff.mpr isPart
  rw [value?, opened, dropped, taken, natural?_toDigits bounded]
  rfl

theorem takeKey?_of_isBareKey (isKey : IsBareKey key)
    (stops : ∀ character ∈ text.head?, isBare character = false) :
    takeKey? (key ++ text) = some (key, text) := by
  have taken := Json.takeWhile_append_of_stops isKey.bare stops
  have dropped := Json.dropWhile_append_of_stops isKey.bare stops
  obtain ⟨first, others, rfl⟩ := List.exists_cons_of_ne_nil isKey.nonempty
  have firstBare := isKey.bare first List.mem_cons_self
  have unquoted : takeKey? (first :: others ++ text) = takeBare? (first :: others ++ text) := by
    rw [List.cons_append, takeKey?.eq_3]
    all_goals
      rintro rest same
      obtain ⟨rfl, _⟩ := List.cons.inj same
      exact absurd firstBare (by decide)
  rw [unquoted, takeBare?, taken, dropped]

theorem ofCharacters?_writeEntry (isKey : IsBareKey key) (bounded : value ≤ greatestInteger) :
    Line.ofCharacters? (writeEntry key value) = some (.entry (String.ofList key) value) := by
  let rest := ' ' :: '=' :: ' ' :: Nat.toDigits 10 value
  have written : writeEntry key value = key ++ rest := by simp [writeEntry, rest]
  have taken : takeKey? (key ++ rest) = some (key, rest) :=
    takeKey?_of_isBareKey isKey (by simp [rest, isBare])
  obtain ⟨first, others, rfl⟩ := List.exists_cons_of_ne_nil isKey.nonempty
  have firstBare := isKey.bare first List.mem_cons_self
  have opened : (first :: others ++ rest).dropWhile isBlank = first :: others ++ rest :=
    List.dropWhile_cons_of_neg (by simp [isBlank_eq_false_of_isBare firstBare])
  have going : isLineEnd (first :: others ++ rest) = false := by
    apply isLineEnd.eq_3
    · simp
    · rintro comment same
      obtain ⟨rfl, _⟩ := List.cons.inj same
      exact absurd firstBare (by decide)
  have equals : rest.dropWhile isBlank = '=' :: ' ' :: Nat.toDigits 10 value := by
    simp [rest, isBlank]
  rw [written, Line.ofCharacters?, opened, going, taken]
  simp only [Bool.false_eq_true, ↓reduceIte, Option.bind_eq_bind, Option.bind_some, equals,
    value?_toDigits bounded, Option.map_some]

/-! ## Lines of a text -/

/-- A line holds no line end. -/
def IsLine (line : List Char) : Prop :=
  '\n' ∉ line ∧ '\r' ∉ line

theorem isLine_writeEntry (isKey : IsBareKey key) (value : Nat) :
    IsLine (writeEntry key value) := by
  have parts (character : Char) (member : character ∈ writeEntry key value) :
      isBare character = true ∨ character = ' ' ∨ character = '=' := by
    simp only [writeEntry, List.mem_append, List.mem_cons, List.not_mem_nil, or_false] at member
    rcases member with (inKey | between) | inValue
    · exact .inl (isKey.bare character inKey)
    · grind
    · exact .inl (isBare_of_isDigit (Json.isDigit_of_mem_toDigits inValue))
  constructor
  · exact fun member => absurd (parts '\n' member) (by decide)
  · exact fun member => absurd (parts '\r' member) (by decide)

theorem splitLines_append {line : List Char} (isLine : IsLine line) (text : List Char) :
    splitLines (line ++ '\n' :: text) = line :: splitLines text := by
  induction line with
  | nil => rfl
  | cons character line induction =>
      have notFeed : character ≠ '\n' := fun same => isLine.1 (same ▸ List.mem_cons_self)
      have notReturn : character ≠ '\r' := fun same => isLine.2 (same ▸ List.mem_cons_self)
      have rest := induction ⟨fun member => isLine.1 (List.mem_cons_of_mem _ member),
        fun member => isLine.2 (List.mem_cons_of_mem _ member)⟩
      rw [List.cons_append, splitLines.eq_4]
      · rw [rest]
      · exact notFeed
      · exact fun _ isReturn => absurd isReturn notReturn

theorem splitLines_flatMap {lines : List (List Char)} (areLines : ∀ line ∈ lines, IsLine line) :
    splitLines (lines.flatMap (· ++ ['\n'])) = lines ++ [[]] := by
  induction lines with
  | nil => rfl
  | cons line lines induction =>
      obtain ⟨here, later⟩ := List.forall_mem_cons.mp areLines
      rw [List.flatMap_cons, List.append_assoc, List.singleton_append, splitLines_append here,
        induction later]
      rfl

theorem withoutMark_append (isKey : IsBareKey key) (text : List Char) :
    withoutMark (key ++ text) = key ++ text := by
  obtain ⟨first, others, rfl⟩ := List.exists_cons_of_ne_nil isKey.nonempty
  have firstBare := isKey.bare first List.mem_cons_self
  rw [List.cons_append, withoutMark.eq_2]
  rintro rest same
  obtain ⟨rfl, _⟩ := List.cons.inj same
  exact absurd firstBare (by decide)

end Toml
end LoadAtlas
