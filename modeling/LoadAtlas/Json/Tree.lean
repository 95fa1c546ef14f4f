import LoadAtlas.Json.Quotation

/-!
# Written JSON

What is to be written is a tree of lists and objects with numbers and texts at its leaves.  It
is written without white space and with its members in their order.
-/

namespace LoadAtlas
namespace Json

/-- A JSON value to be written. -/
inductive Tree
  | natural (value : Nat)
  | float (value : Float)
  | text (value : String)
  | list (items : List Tree)
  | object (members : List (String × Tree))
  deriving Inhabited

namespace Tree

mutual

def write : Tree → List Char
  | .natural value => Nat.toDigits 10 value
  | .float value => (numberStyle.render value).toList
  | .text value => writeText value
  | .list items => '[' :: ([','].intercalate (writeItems items) ++ [']'])
  | .object members => '\x7b' :: ([','].intercalate (writeMembers members) ++ ['\x7d'])

def writeItems : List Tree → List (List Char)
  | [] => []
  | item :: items => write item :: writeItems items

def writeMembers : List (String × Tree) → List (List Char)
  | [] => []
  | (name, value) :: members => (writeText name ++ ':' :: write value) :: writeMembers members

end

def render (tree : Tree) : String :=
  String.ofList tree.write

end Tree
end Json
end LoadAtlas
