import LoadAtlas.Json.Reader
import LoadAtlas.Json.Walk

/-!
# Reading records from JSON

A record is read by filling the slots of a blank.  It may be written as an object, with its
slots by name in any order, or as a list, with its slots in their own order.

Faults are found in the order of the text: a name that is unknown to a closed record or that
was there before is refused at the name, and slots that were not filled are looked at in the
end.
-/

namespace LoadAtlas
namespace Json

/-- A slot of a record: its name and how it is filled from the tokens in front. -/
structure Slot (σ : Type) where
  name : String
  fill : σ → Reader σ

/-- The slot that keeps what a reader gives. -/
def Slot.of {σ α : Type} (name : String) (read : Reader α) (put : σ → α → σ) : Slot σ where
  name
  fill draft tokens := do
    let (value, tokens) ← read tokens
    return (put draft value, tokens)

/-- A kind of record. -/
structure Record (σ : Type) where
  /-- The name of the kind, as faults show it. -/
  title : String
  /-- The record before anything was read. -/
  blank : σ
  slots : List (Slot σ)
  /-- Whether unknown names are refused; otherwise their values are passed over. -/
  closed : Bool := false
  /-- Whether slots may stay as they are in the blank. -/
  lenient : Bool := false

/-- What has been read of an object: the names of the slots filled so far, and the record. -/
structure Draft (σ : Type) where
  filled : List String
  record : σ

namespace Record

variable {σ : Type}

def names (record : Record σ) : List String :=
  record.slots.map Slot.name

/-- What a value of this kind is called where another value was found. -/
def description (record : Record σ) : String :=
  "struct " ++ record.title

def takeColon : List Token → Except Fault (List Token)
  | [] => .error .endInObject
  | .colon :: tokens => .ok tokens
  | _ => .error .expectedColon

def readMember (record : Record σ) (draft : Draft σ) (name : String) : Reader (Draft σ) :=
  fun tokens =>
    match record.slots.find? fun slot => slot.name = name with
    | some slot =>
        if name ∈ draft.filled then .error (.misfit (.duplicateField name))
        else do
          let tokens ← takeColon tokens
          let (filled, tokens) ← slot.fill draft.record tokens
          return (⟨name :: draft.filled, filled⟩, tokens)
    | none =>
        if record.closed then .error (.misfit (.unknownField name record.names))
        else do
          let tokens ← takeColon tokens
          let tokens ← pastValue .passing tokens
          return (draft, tokens)

def takeNextName : Reader String
  | [] => .error .endInValue
  | .text scalar :: tokens => scalar.value.map fun name => (name, tokens)
  | .closeObject :: _ => .error .trailingComma
  | _ => .error .keyNotString

/-- Reads the rest of an object behind a member, at most as many members as `fuel` says. -/
def readMembers (record : Record σ) : (fuel : Nat) → Draft σ → Reader (Draft σ)
  | 0, _, _ => .error .endInObject
  | _ + 1, _, [] => .error .endInObject
  | _ + 1, draft, .closeObject :: tokens => .ok (draft, tokens)
  | fuel + 1, draft, .comma :: tokens => do
      let (name, tokens) ← takeNextName tokens
      let (draft, tokens) ← record.readMember draft name tokens
      record.readMembers fuel draft tokens
  | _ + 1, _, _ :: _ => .error .expectedObjectCommaOrEnd

/-- Reads the rest of an object, behind its opening bracket.  Every member takes a token, so
there are at most as many members as tokens. -/
def readObject (record : Record σ) : Reader (Draft σ)
  | [] => .error .endInObject
  | .closeObject :: tokens => .ok (⟨[], record.blank⟩, tokens)
  | .text scalar :: tokens => do
      let name ← scalar.value
      let (draft, rest) ← record.readMember ⟨[], record.blank⟩ name tokens
      record.readMembers (rest.length + 1) draft rest
  | _ => .error .keyNotString

/-- The record of a draft, all of whose slots must be filled unless the kind is lenient. -/
def complete (record : Record σ) (draft : Draft σ) : Except Fault σ :=
  match record.names.find? fun name => name ∉ draft.filled with
  | some name =>
      if record.lenient then .ok draft.record else .error (.misfit (.missingField name))
  | none => .ok draft.record

def takeListEnd : List Token → Except Fault (List Token)
  | [] => .error .endInList
  | .closeList :: tokens => .ok tokens
  | .comma :: .closeList :: _ => .error .trailingComma
  | _ => .error .trailingCharacters

/-- The record of a list that ended after some items. -/
def cutShort (record : Record σ) (length : Nat) (draft : σ) : Except Fault σ :=
  if record.lenient then .ok draft
  else
    .error (.misfit (.wrongLength length
      s!"{record.description} with {record.slots.length} elements"))

def takeComma : List Token → Except Fault (List Token)
  | [] => .error .endInList
  | .comma :: .closeList :: _ => .error .trailingComma
  | .comma :: tokens => .ok tokens
  | _ => .error .expectedListCommaOrEnd

/-- Reads the rest of a list behind `length` items, for the slots that are left. -/
def readItems (record : Record σ) : (length : Nat) → List (Slot σ) → σ → Reader σ
  | _, [], draft, tokens => do return (draft, ← takeListEnd tokens)
  | length, _ :: _, draft, .closeList :: tokens => do
      return (← record.cutShort length draft, tokens)
  | 0, _ :: _, _, [] => .error .endInList
  | 0, slot :: slots, draft, tokens => do
      let (draft, tokens) ← slot.fill draft tokens
      record.readItems 1 slots draft tokens
  | length + 1, slot :: slots, draft, tokens => do
      let tokens ← takeComma tokens
      let (draft, tokens) ← slot.fill draft tokens
      record.readItems (length + 2) slots draft tokens

def read (record : Record σ) : Reader σ
  | [] => .error .endInValue
  | .openObject :: tokens => do
      let (draft, tokens) ← record.readObject tokens
      return (← record.complete draft, tokens)
  | .openList :: tokens => record.readItems 0 record.slots record.blank tokens
  | token :: _ => .error (token.mistaken record.description)

def ofText (record : Record σ) (text : String) : Except Fault σ := do
  let (value, rest) ← record.read (tokens text)
  checkEnd rest
  return value

end Record

end Json
end LoadAtlas
