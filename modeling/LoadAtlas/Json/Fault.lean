import LoadAtlas.Config.Basic
import LoadAtlas.Text.Quoted
import LoadAtlas.Decimal.Style

/-!
# Faults of JSON texts

Reading a JSON text stops at the first fault in text order.  The text may end too early, a
character may stand where the grammar does not allow it, or the text may be well formed so far
and hold the wrong data.
-/

namespace LoadAtlas
namespace Json

/-- Doubles in JSON keep a decimal, are written out from 0.00001 up to 10 ^ 16, and are
`null` if they are not finite; of two equally near decimals the even one is taken. -/
def numberStyle : Decimal.Style where
  tie := .toEven
  positional := some (-5, 15)
  keepsPoint := true
  plus := "+"
  notANumber := "null"
  infinity := "null"
  negativeInfinity := "null"

/-- What was found where something else was wanted. -/
inductive Found
  | null
  | boolean (value : Bool)
  | integer (value : Int)
  | float (value : Float)
  | text (value : String)
  | sequence
  | map
  deriving Inhabited

def Found.description : Found → String
  | .null => "null"
  | .boolean value => s!"boolean `{value}`"
  | .integer value => s!"integer `{value}`"
  | .float value => s!"floating point `{numberStyle.render value}`"
  | .text value => s!"string {Text.quoted value}"
  | .sequence => "sequence"
  | .map => "map"

/-- Data that does not fit although the text is well formed. -/
inductive Misfit
  | unknownField (name : String) (known : List String)
  | duplicateField (name : String)
  | missingField (name : String)
  | wrongType (found : Found) (expected : String)
  | wrongValue (found : Found) (expected : String)
  | wrongLength (length : Nat) (expected : String)
  | refused (fault : Config.Fault)
  deriving Inhabited

/-- A name between backticks. -/
def ticked (name : String) : String :=
  s!"`{name}`"

def Misfit.message : Misfit → String
  | .unknownField name known =>
      s!"unknown field `{name}`, expected one of " ++ String.intercalate ", " (known.map ticked)
  | .duplicateField name => s!"duplicate field `{name}`"
  | .missingField name => s!"missing field `{name}`"
  | .wrongType found expected => s!"invalid type: {found.description}, expected {expected}"
  | .wrongValue found expected => s!"invalid value: {found.description}, expected {expected}"
  | .wrongLength length expected => s!"invalid length {length}, expected {expected}"
  | .refused fault => fault.message

/-- Why a JSON text cannot be read. -/
inductive Fault
  | endInList
  | endInObject
  | endInString
  | endInValue
  | expectedColon
  | expectedListCommaOrEnd
  | expectedObjectCommaOrEnd
  | expectedIdent
  | expectedValue
  | invalidEscape
  | invalidNumber
  | numberOutOfRange
  | controlCharacter
  | keyNotString
  | loneSurrogate
  | trailingComma
  | trailingCharacters
  | endInEscape
  | tooDeep
  | misfit (cause : Misfit)
  deriving Inhabited

/-- Whether the fault is that the text ends too early. -/
def Fault.isEnd : Fault → Bool
  | .endInList | .endInObject | .endInString | .endInValue => true
  | _ => false

def Fault.message : Fault → String
  | .endInList => "EOF while parsing a list"
  | .endInObject => "EOF while parsing an object"
  | .endInString => "EOF while parsing a string"
  | .endInValue => "EOF while parsing a value"
  | .expectedColon => "expected `:`"
  | .expectedListCommaOrEnd => "expected `,` or `]`"
  | .expectedObjectCommaOrEnd => "expected `,` or `\x7d`"
  | .expectedIdent => "expected ident"
  | .expectedValue => "expected value"
  | .invalidEscape => "invalid escape"
  | .invalidNumber => "invalid number"
  | .numberOutOfRange => "number out of range"
  | .controlCharacter => "control character (\\u0000-\\u001F) found while parsing a string"
  | .keyNotString => "key must be a string"
  | .loneSurrogate => "lone leading surrogate in hex escape"
  | .trailingComma => "trailing comma"
  | .trailingCharacters => "trailing characters"
  | .endInEscape => "unexpected end of hex escape"
  | .tooDeep => "recursion limit exceeded"
  | .misfit cause => cause.message

end Json
end LoadAtlas
