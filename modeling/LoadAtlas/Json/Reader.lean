import LoadAtlas.Json.Token

/-!
# Reading values without parts

A reader takes a value off the tokens in front and leaves the tokens behind it.  Where another
kind of value stands, that value is read first, so that what is wrong with it comes before its
being of the wrong kind.
-/

namespace LoadAtlas
namespace Json

/-- A way to take a value off the tokens in front. -/
abbrev Reader (α : Type) := List Token → Except Fault (α × List Token)

/-- Reads a word of 64 bits.  Numbers that are not integers are of another type, and negative
integers are of the right type but not acceptable. -/
def readWord (expected : String) : Reader UInt64
  | [] => .error .endInValue
  | .number ⟨.ok (.natural value), _⟩ :: tokens => .ok (value, tokens)
  | .number ⟨.ok (.negative magnitude), _⟩ :: _ =>
      .error (.misfit (.wrongValue (.integer (-magnitude.toNat)) expected))
  | token :: _ => .error (token.mistaken expected)

def readNatural (expected : String) : Reader Nat := fun tokens => do
  let (word, tokens) ← readWord expected tokens
  return (word.toNat, tokens)

def readSize : Reader Nat :=
  readNatural "usize"

def readCount : Reader Nat :=
  readNatural "u64"

/-- Reads a double; integers are accepted as well. -/
def readFloat : Reader Float
  | [] => .error .endInValue
  | .number ⟨.ok number, _⟩ :: tokens => .ok (number.toFloat, tokens)
  | token :: _ => .error (token.mistaken "f64")

def readText : Reader String
  | [] => .error .endInValue
  | .text ⟨.ok text, _⟩ :: tokens => .ok (text, tokens)
  | token :: _ => .error (token.mistaken "a string")

end Json
end LoadAtlas
