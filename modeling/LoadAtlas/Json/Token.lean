import LoadAtlas.Json.Number
import LoadAtlas.Json.Quotation

/-!
# Tokens of JSON texts

Leaving out white space, a JSON text is a list of tokens: brackets, commas, colons, and values
without parts.  Whether the tokens stand in a sensible order is not looked at here.

A number or a text can be read or passed over, and it may well have a sound form and yet no
value: a number may be out of range, and halves of pairs may stand alone.  What can neither be
read nor passed over is the last token of its list.
-/

namespace LoadAtlas
namespace Json

/-- What a number or a text is: its value when it is read, and whether its form is sound, which
is all that counts when it is passed over. -/
structure Scalar (α : Type) where
  value : Except Fault α
  form : Except Fault Unit

/-- A piece of a JSON text. -/
inductive Token
  | openObject
  | closeObject
  | openList
  | closeList
  | comma
  | colon
  | null
  | boolean (value : Bool)
  | number (scalar : Scalar Number)
  | text (scalar : Scalar String)
  /-- Characters that begin nothing that may stand in a text. -/
  | broken (fault : Fault)
  deriving Inhabited

/-- Whether a character is white space between tokens. -/
def isSpace (character : Char) : Bool :=
  character = ' ' || character = '\n' || character = '\t' || character = '\r'

def takeWord : (word text : List Char) → Except Fault (List Char)
  | [], text => .ok text
  | _ :: _, [] => .error .endInValue
  | letter :: word, character :: text =>
      if character = letter then takeWord word text else .error .expectedIdent

def wordToken (token : Token) (rest : List Char) (text : List Char) : Token × List Char :=
  match takeWord rest text with
  | .ok text => (token, text)
  | .error fault => (.broken fault, [])

/-- The token of a numeral.  When it is passed over, a missing digit always makes it an invalid
number. -/
def numberToken (text : List Char) : Token × List Char :=
  match Numeral.take text with
  | .ok (numeral, text) => (.number ⟨numeral.value, .ok ()⟩, text)
  | .error fault => (.number ⟨.error fault, .error .invalidNumber⟩, [])

def textToken (text : List Char) : Token × List Char :=
  let value := (takeQuotation .reading text).map fun taken => String.ofList taken.1
  match takeQuotation .passing text with
  | .ok (_, text) => (.text ⟨value, .ok ()⟩, text)
  | .error fault => (.text ⟨value, .error fault⟩, [])

/-- The first token of a text that does not begin with white space. -/
def firstToken : List Char → Option (Token × List Char)
  | [] => none
  | '\x7b' :: text => some (.openObject, text)
  | '\x7d' :: text => some (.closeObject, text)
  | '[' :: text => some (.openList, text)
  | ']' :: text => some (.closeList, text)
  | ',' :: text => some (.comma, text)
  | ':' :: text => some (.colon, text)
  | '"' :: text => some (textToken text)
  | 'n' :: text => some (wordToken .null ['u', 'l', 'l'] text)
  | 't' :: text => some (wordToken (.boolean true) ['r', 'u', 'e'] text)
  | 'f' :: text => some (wordToken (.boolean false) ['a', 'l', 's', 'e'] text)
  | character :: text =>
      if character = '-' ∨ character.isDigit then some (numberToken (character :: text))
      else some (.broken .expectedValue, [])

/-- The first tokens of a text, at most as many as `fuel` says. -/
def tokensWithin : (fuel : Nat) → List Char → List Token
  | 0, _ => []
  | fuel + 1, text =>
      match firstToken (text.dropWhile isSpace) with
      | none => []
      | some (token, text) => token :: tokensWithin fuel text

/-- The tokens of a text.  Every token takes a character, so there are at most as many tokens
as characters. -/
def tokens (text : String) : List Token :=
  tokensWithin text.toList.length text.toList

namespace Token

/-- The token seen as the beginning of a value, where it is read and found to be unwanted. -/
def found : Token → Except Fault Found
  | .null => .ok .null
  | .boolean value => .ok (.boolean value)
  | .number scalar => scalar.value.map Number.found
  | .text scalar => scalar.value.map .text
  | .openList => .ok .sequence
  | .openObject => .ok .map
  | .broken fault => .error fault
  | .closeObject | .closeList | .comma | .colon => .error .expectedValue

/-- The fault of a token that begins another kind of value than the expected one. -/
def mistaken (expected : String) (token : Token) : Fault :=
  match token.found with
  | .ok found => .misfit (.wrongType found expected)
  | .error fault => fault

end Token
end Json
end LoadAtlas
