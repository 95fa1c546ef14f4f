import LoadAtlas.Json.Fault
import LoadAtlas.Text.Character

/-!
# Quoted texts in JSON

Between the quotes every character stands for itself, except that control characters are not
allowed and a backslash introduces an escape.  Four hexadecimal digits behind `\u` give a
UTF-16 unit: a character on its own, or one half of a pair that gives a character beyond them.

A text can be read or passed over.  Passing over it checks the escapes but not whether halves
of pairs stand together.  A text is written with as few escapes as possible.
-/

namespace LoadAtlas
namespace Json

/-- Takes the four hexadecimal digits of a unit off a text.  They are one byte each, and a text
of fewer than four bytes ends too early whatever it holds. -/
def takeUnit (text : List Char) : Except Fault (Nat × List Char) :=
  let digits := text.take 4
  if (digits.map Char.utf8Size).sum < 4 then .error .endInString
  else if digits.length < 4 then .error .invalidEscape
  else
    match Text.number? 16 digits with
    | some unit => .ok (unit, text.drop 4)
    | none => .error .invalidEscape

def isFirstHalf (unit : Nat) : Bool :=
  0xd800 ≤ unit && unit ≤ 0xdbff

def isSecondHalf (unit : Nat) : Bool :=
  0xdc00 ≤ unit && unit ≤ 0xdfff

/-- The character that a pair of halves stands for. -/
def joined (first second : Nat) : Char :=
  Char.ofNat (0x10000 + (first - 0xd800) * 0x400 + (second - 0xdc00))

/-- Takes the mark of a unit off a text, for the second half of a pair. -/
def takeUnitMark : List Char → Except Fault (List Char)
  | [] | ['\\'] => .error .endInString
  | '\\' :: 'u' :: text => .ok text
  | _ => .error .endInEscape

/-- Takes the rest of a character off a text, its first unit being given. -/
def completeUnit (unit : Nat) (text : List Char) : Except Fault (Char × List Char) :=
  if isSecondHalf unit then .error .loneSurrogate
  else if isFirstHalf unit then do
    let text ← takeUnitMark text
    let (second, text) ← takeUnit text
    if isSecondHalf second then .ok (joined unit second, text) else .error .loneSurrogate
  else .ok (Char.ofNat unit, text)

/-- Whether a text between quotes is read or only passed over. -/
inductive Manner
  | reading
  | passing
  deriving DecidableEq, Inhabited

/-- Takes the rest of an escape off a text, behind its backslash. -/
def takeEscape (manner : Manner) : List Char → Except Fault (Char × List Char)
  | [] => .error .endInString
  | 'u' :: text => do
      let (unit, text) ← takeUnit text
      match manner with
      | .reading => completeUnit unit text
      | .passing => return (Char.ofNat unit, text)
  | '/' :: text => .ok ('/', text)
  | letter :: text =>
      match Text.shortEscape? letter with
      | some character => .ok (character, text)
      | none => .error .invalidEscape

/-- Takes one character off a text between quotes, none if the final quote stands there. -/
def takeCharacter (manner : Manner) : List Char → Except Fault (Option Char × List Char)
  | [] => .error .endInString
  | '"' :: text => .ok (none, text)
  | '\\' :: text => do
      let (character, text) ← takeEscape manner text
      return (some character, text)
  | character :: text =>
      if character.toNat < 0x20 then .error .controlCharacter else .ok (some character, text)

/-- Takes characters off a text up to the final quote, at most as many as `fuel` says. -/
def takeCharacters (manner : Manner) :
    (fuel : Nat) → List Char → Except Fault (List Char × List Char)
  | 0, _ => .error .endInString
  | fuel + 1, text => do
      let (character?, text) ← takeCharacter manner text
      match character? with
      | none => return ([], text)
      | some character =>
          let (characters, text) ← takeCharacters manner fuel text
          return (character :: characters, text)

/-- Takes the rest of a quoted text off a text, behind its first quote.  Every step takes a
character, so there are at most as many steps as characters. -/
def takeQuotation (manner : Manner) (text : List Char) :
    Except Fault (List Char × List Char) :=
  takeCharacters manner text.length text

def controlEscape (character : Char) : List Char :=
  ['\\', 'u', '0', '0', Nat.digitChar (character.toNat / 16), Nat.digitChar (character.toNat % 16)]

def writeCharacter (character : Char) : List Char :=
  match Text.shortLetter? character with
  | some letter => ['\\', letter]
  | none => if character.toNat < 0x20 then controlEscape character else [character]

def writeText (text : String) : List Char :=
  '"' :: (text.toList.flatMap writeCharacter ++ ['"'])

end Json
end LoadAtlas
