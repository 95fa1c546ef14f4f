/-!
# Kinds of characters

White space is the Unicode property of that name, not only its ASCII part.  A text is blank
when nothing but white space stands in it.

A digit in a base of at most sixteen is one of `0` to `9` or a letter from `a` on, in either
case.

In quoted texts some characters are written as a backslash and a letter.
-/

namespace LoadAtlas
namespace Text

/-! ## White space -/

/-- Inclusive ranges of the code points with the Unicode property `White_Space`. -/
def whiteSpaceRanges : List (Nat × Nat) :=
  [(0x9, 0xd), (0x20, 0x20), (0x85, 0x85), (0xa0, 0xa0), (0x1680, 0x1680), (0x2000, 0x200a),
    (0x2028, 0x2029), (0x202f, 0x202f), (0x205f, 0x205f), (0x3000, 0x3000)]

def isWhiteSpace (character : Char) : Bool :=
  whiteSpaceRanges.any fun range => range.1 ≤ character.toNat && character.toNat ≤ range.2

/-- Whether a text is empty or consists of white space alone. -/
def isBlank (text : String) : Bool :=
  text.toList.all isWhiteSpace

/-! ## Digits -/

def hexadecimalDigit? (character : Char) : Option Nat :=
  if '0' ≤ character ∧ character ≤ '9' then some (character.toNat - '0'.toNat)
  else if 'a' ≤ character ∧ character ≤ 'f' then some (character.toNat - 'a'.toNat + 10)
  else if 'A' ≤ character ∧ character ≤ 'F' then some (character.toNat - 'A'.toNat + 10)
  else none

/-- The value of a digit in a base of at most sixteen. -/
def digit? (base : Nat) (character : Char) : Option Nat :=
  (hexadecimalDigit? character).filter (· < base)

/-- The number that digits spell in a base of at most sixteen, none if a character among them
is no digit. -/
def number? (base : Nat) (characters : List Char) : Option Nat :=
  characters.foldlM (fun number character => (digit? base character).map (base * number + ·)) 0

/-! ## Short escapes -/

/-- The letter behind the backslash of each short escape, and the character it stands for. -/
def shortEscapes : List (Char × Char) :=
  [('"', '"'), ('\\', '\\'), ('b', '\x08'), ('f', '\x0c'), ('n', '\n'), ('r', '\r'),
    ('t', '\t')]

/-- The character that a letter behind a backslash stands for. -/
def shortEscape? (letter : Char) : Option Char :=
  shortEscapes.lookup letter

/-- The letter that stands behind a backslash for a character. -/
def shortLetter? (character : Char) : Option Char :=
  (shortEscapes.find? fun entry => entry.2 = character).map Prod.fst

end Text
end LoadAtlas
