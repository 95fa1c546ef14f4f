import LoadAtlas.Toml.Key
import LoadAtlas.Toml.Natural

/-!
# Lines of TOML texts

A table of natural numbers has one line for each entry: a key, an equals sign and a value.
Blanks may stand around them, lines may be blank, and a line may end in a comment.
-/

namespace LoadAtlas
namespace Toml

/-- What a line holds. -/
inductive Line
  | blank
  | entry (key : String) (value : Nat)
  deriving DecidableEq, Inhabited

/-- Whether a character may stand between the parts of a line. -/
def isBlank (character : Char) : Bool :=
  character = ' ' || character = '\t'

/-- Whether nothing but a comment is left of a line. -/
def isLineEnd : List Char → Bool
  | [] => true
  | '#' :: comment => comment.all isPlain
  | _ => false

def isValuePart (character : Char) : Bool :=
  !isBlank character && character ≠ '#'

/-- The rest of a line behind its equals sign, as the value of the line. -/
def value? (text : List Char) : Option Nat :=
  let text := text.dropWhile isBlank
  if isLineEnd ((text.dropWhile isValuePart).dropWhile isBlank) then
    natural? (text.takeWhile isValuePart)
  else none

/-- What a line holds, none if it cannot be read. -/
def Line.ofCharacters? (characters : List Char) : Option Line :=
  let text := characters.dropWhile isBlank
  if isLineEnd text then some .blank
  else do
    let (key, text) ← takeKey? text
    match text.dropWhile isBlank with
    | '=' :: text => (value? text).map fun value => .entry (String.ofList key) value
    | _ => none

/-- The lines of a text.  They end in a line feed, which a carriage return may precede. -/
def splitLines : List Char → List (List Char)
  | [] => [[]]
  | '\n' :: text => [] :: splitLines text
  | '\r' :: '\n' :: text => [] :: splitLines text
  | character :: text =>
      match splitLines text with
      | [] => [[character]]
      | line :: lines => (character :: line) :: lines

/-- A text without the mark of byte order that may stand in front. -/
def withoutMark : List Char → List Char
  | '\ufeff' :: text => text
  | text => text

/-- What the lines of a text hold, none if one of them cannot be read. -/
def lines? (text : String) : Option (List Line) :=
  (splitLines (withoutMark text.toList)).mapM Line.ofCharacters?

end Toml
end LoadAtlas
