import LoadAtlas.Json.Token

/-!
# Walking over JSON values

A walk takes the tokens of one value and stops behind it.  Its state is the place where it
stands and the brackets that are open around that place, so values may be nested to any depth.

A walk that reads refuses texts and numbers that cannot be read and values nested too deeply.
A walk that only passes over a value looks at its form alone.  It also calls a few faults by
other names: it looks for the next item or key behind a comma before it looks for a bracket.
-/

namespace LoadAtlas
namespace Json

/-- The kinds of brackets. -/
inductive Bracket
  | list
  | object
  deriving DecidableEq, Inhabited

/-- A place in a value. -/
inductive Place
  /-- Before a value. -/
  | value
  /-- Behind the opening bracket of a list. -/
  | firstItem
  /-- Behind a comma in a list. -/
  | nextItem
  /-- Behind the opening bracket of an object. -/
  | firstKey
  /-- Behind a comma in an object. -/
  | nextKey
  /-- Behind the key of a member. -/
  | colon
  /-- Behind a value within an innermost bracket of the given kind. -/
  | behind (bracket : Bracket)
  deriving DecidableEq, Inhabited

/-- The state of a walk: where it stands and the brackets around that place, the innermost one
first. -/
structure Walk where
  place : Place
  brackets : List Bracket
  deriving DecidableEq, Inhabited

namespace Walk

/-- How many brackets may not be open at once in a value that is read. -/
def tooManyBrackets : Nat :=
  128

/-- The walk behind a value within the given brackets; it is over if there are none. -/
def afterValue : List Bracket → Option Walk
  | [] => none
  | bracket :: brackets => some ⟨.behind bracket, bracket :: brackets⟩

def enter (manner : Manner) (bracket : Bracket) (brackets : List Bracket) :
    Except Fault (Option Walk) :=
  if manner = .reading ∧ tooManyBrackets ≤ brackets.length + 1 then .error .tooDeep
  else
    .ok (some ⟨match bracket with | .list => .firstItem | .object => .firstKey,
      bracket :: brackets⟩)

def takeScalar {α : Type} (manner : Manner) (scalar : Scalar α) (next : Option Walk) :
    Except Fault (Option Walk) :=
  match manner with
  | .reading => scalar.value.map fun _ => next
  | .passing => scalar.form.map fun _ => next

def beginValue (manner : Manner) (brackets : List Bracket) : Token → Except Fault (Option Walk)
  | .openList => enter manner .list brackets
  | .openObject => enter manner .object brackets
  | .null | .boolean _ => .ok (afterValue brackets)
  | .number scalar => takeScalar manner scalar (afterValue brackets)
  | .text scalar => takeScalar manner scalar (afterValue brackets)
  | .broken fault => .error fault
  | .closeObject | .closeList | .comma | .colon => .error .expectedValue

def beginMember (manner : Manner) (brackets : List Bracket) : Token → Except Fault (Option Walk)
  | .text scalar => takeScalar manner scalar (some ⟨.colon, brackets⟩)
  | _ => .error .keyNotString

/-- The fault of a closing bracket behind a comma, where something else was `wanted`. -/
def commaFault (manner : Manner) (wanted : Fault) : Fault :=
  match manner with
  | .reading => .trailingComma
  | .passing => wanted

/-- The walk behind one more token, none if the value is complete. -/
def step (manner : Manner) (walk : Walk) (token : Token) : Except Fault (Option Walk) :=
  match walk.place, token with
  | .value, token => beginValue manner walk.brackets token
  | .firstItem, .closeList => .ok (afterValue walk.brackets.tail)
  | .firstItem, token => beginValue manner walk.brackets token
  | .nextItem, .closeList => .error (commaFault manner .expectedValue)
  | .nextItem, token => beginValue manner walk.brackets token
  | .firstKey, .closeObject => .ok (afterValue walk.brackets.tail)
  | .firstKey, token => beginMember manner walk.brackets token
  | .nextKey, .closeObject => .error (commaFault manner .keyNotString)
  | .nextKey, token => beginMember manner walk.brackets token
  | .colon, .colon => .ok (some ⟨.value, walk.brackets⟩)
  | .colon, _ => .error .expectedColon
  | .behind .list, .comma => .ok (some ⟨.nextItem, walk.brackets⟩)
  | .behind .list, .closeList => .ok (afterValue walk.brackets.tail)
  | .behind .list, _ => .error .expectedListCommaOrEnd
  | .behind .object, .comma => .ok (some ⟨.nextKey, walk.brackets⟩)
  | .behind .object, .closeObject => .ok (afterValue walk.brackets.tail)
  | .behind .object, _ => .error .expectedObjectCommaOrEnd

def endFault (manner : Manner) : Place → Fault
  | .value | .nextItem => .endInValue
  | .firstItem | .behind .list => .endInList
  | .firstKey | .colon | .behind .object => .endInObject
  | .nextKey => match manner with | .reading => .endInValue | .passing => .endInObject

/-- The tokens behind the value that a walk is in. -/
def run (manner : Manner) (walk : Walk) : List Token → Except Fault (List Token)
  | [] => .error (endFault manner walk.place)
  | token :: tokens => do
      match ← walk.step manner token with
      | none => return tokens
      | some next => next.run manner tokens

end Walk

def pastValue (manner : Manner) (tokens : List Token) : Except Fault (List Token) :=
  Walk.run manner ⟨.value, []⟩ tokens

def checkEnd (tokens : List Token) : Except Fault Unit :=
  if tokens.isEmpty then .ok () else .error .trailingCharacters

def checkText (text : String) : Except Fault Unit := do
  checkEnd (← pastValue .reading (tokens text))

end Json
end LoadAtlas
