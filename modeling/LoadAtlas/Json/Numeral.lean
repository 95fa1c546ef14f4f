import LoadAtlas.Basic
import LoadAtlas.Json.Fault

/-!
# Numerals of JSON texts

A numeral is an optional minus sign, digits without leading zeros, and optionally a fraction
and an exponent with at least one digit each.  A numeral that lacks a digit is faulty in one
of two ways: the text ends, or another character stands where the digit should be.
-/

namespace LoadAtlas
namespace Json

/-- The written exponent of a numeral. -/
structure Exponent where
  negative : Bool
  digits : List Char
  deriving DecidableEq, Inhabited

/-- A number as it is written. -/
structure Numeral where
  negative : Bool
  whole : List Char
  fraction : Option (List Char) := none
  exponent : Option Exponent := none
  deriving DecidableEq, Inhabited

namespace Numeral

/-- Takes one digit or more off a text. -/
def takeDigits (text : List Char) : Except Fault (List Char × List Char) :=
  match text with
  | [] => .error .endInValue
  | first :: _ =>
      if first.isDigit then .ok (text.takeWhile Char.isDigit, text.dropWhile Char.isDigit)
      else .error .invalidNumber

def takeSign : List Char → Bool × List Char
  | '-' :: text => (true, text)
  | text => (false, text)

/-- Takes the digits before the point off a text.  A zero stands there alone. -/
def takeWhole (text : List Char) : Except Fault (List Char × List Char) := do
  let (digits, text) ← takeDigits text
  if digits.head? = some '0' ∧ digits.length ≠ 1 then .error .invalidNumber
  else .ok (digits, text)

/-- Takes a point and the digits behind it off a text if a point stands there. -/
def takeFraction : List Char → Except Fault (Option (List Char) × List Char)
  | '.' :: text => do
      let (digits, text) ← takeDigits text
      return (some digits, text)
  | text => .ok (none, text)

def takeExponentSign : List Char → Bool × List Char
  | '+' :: text => (false, text)
  | '-' :: text => (true, text)
  | text => (false, text)

def takeExponent : List Char → Except Fault (Option Exponent × List Char)
  | [] => .ok (none, [])
  | mark :: text =>
      if mark = 'e' ∨ mark = 'E' then do
        let (negative, text) := takeExponentSign text
        let (digits, text) ← takeDigits text
        return (some { negative, digits }, text)
      else .ok (none, mark :: text)

def take (text : List Char) : Except Fault (Numeral × List Char) := do
  let (negative, text) := takeSign text
  let (whole, text) ← takeWhole text
  let (fraction, text) ← takeFraction text
  let (exponent, text) ← takeExponent text
  return ({ negative, whole, fraction, exponent }, text)

end Numeral
end Json
end LoadAtlas
