import LoadAtlas.Text.Character

/-!
# Keys of TOML lines

A key is bare, or it stands between single quotes, where every character stands for itself, or
between double quotes, where a backslash introduces an escape.
-/

namespace LoadAtlas
namespace Toml

/-- Whether a character may stand in a comment or between quotes: all but control characters
may, and the tab. -/
def isPlain (character : Char) : Bool :=
  character = '\t' || (0x20 ≤ character.toNat && character.toNat ≠ 0x7f)

def isBare (character : Char) : Bool :=
  character.isAlphanum || character = '_' || character = '-'

/-- The character with the number that hexadecimal digits spell. -/
def numbered? (digits : List Char) : Option Char := do
  let number ← Text.number? 16 digits
  if number.isValidChar then some (Char.ofNat number) else none

/-- Takes the given number of hexadecimal digits off a text, as a character. -/
def takeNumbered? (count : Nat) (text : List Char) : Option (Char × List Char) :=
  if text.length < count then none
  else (numbered? (text.take count)).map fun character => (character, text.drop count)

/-- Takes the rest of an escape off a text, behind its backslash. -/
def takeEscape? : List Char → Option (Char × List Char)
  | [] => none
  | 'u' :: text => takeNumbered? 4 text
  | 'U' :: text => takeNumbered? 8 text
  | letter :: text => (Text.shortEscape? letter).map fun character => (character, text)

/-- Takes one character off a text between double quotes, none if the final quote stands
there. -/
def takeCharacter? : List Char → Option (Option Char × List Char)
  | [] => none
  | '"' :: text => some (none, text)
  | '\\' :: text => (takeEscape? text).map fun taken => (some taken.1, taken.2)
  | character :: text => if isPlain character then some (some character, text) else none

/-- Takes characters off a text up to the final double quote, at most as many as `fuel`
says. -/
def takeCharacters? : (fuel : Nat) → List Char → Option (List Char × List Char)
  | 0, _ => none
  | fuel + 1, text => do
      let (character?, text) ← takeCharacter? text
      match character? with
      | none => return ([], text)
      | some character =>
          let (characters, text) ← takeCharacters? fuel text
          return (character :: characters, text)

def takeLiteral? (text : List Char) : Option (List Char × List Char) :=
  let characters := text.takeWhile (· ≠ '\'')
  match text.dropWhile (· ≠ '\'') with
  | [] => none
  | _ :: text => if characters.all isPlain then some (characters, text) else none

def takeBare? (text : List Char) : Option (List Char × List Char) :=
  match text.takeWhile isBare with
  | [] => none
  | key => some (key, text.dropWhile isBare)

def takeKey? : List Char → Option (List Char × List Char)
  | '"' :: text => takeCharacters? text.length text
  | '\'' :: text => takeLiteral? text
  | text => takeBare? text

end Toml
end LoadAtlas
