import LoadAtlas.Json.Numeral

/-!
# The values of numerals

A numeral without fraction and exponent is an integer if it fits: from zero up it must be
below 2 ^ 64, and below zero its magnitude is at most 2 ^ 63.  Every other numeral is a
double, and so is a zero with a minus sign.

The double is computed from a significand of 64 bits and a power of ten.  Digits enter the
significand as long as it stays below 2 ^ 64.  The first digit before the point that does not
fit and all behind it only raise the power, and the first one behind the point that does not
fit and all behind it are ignored.  The significand becomes a double and is then multiplied
with or divided by the power of ten.
-/

namespace LoadAtlas
namespace Json

/-- The value of a numeral. -/
inductive Number
  | natural (value : UInt64)
  | negative (magnitude : UInt64)
  | float (value : Float)
  deriving Inhabited

/-- What a number is found to be where something else was wanted. -/
def Number.found : Number → Found
  | .natural value => .integer value.toNat
  | .negative magnitude => .integer (-magnitude.toNat)
  | .float value => .float value

def Number.toFloat : Number → Float
  | .natural value => value.toFloat
  | .negative magnitude => -magnitude.toFloat
  | .float value => value

/-- Continues a significand with digits as long as it stays below 2 ^ 64.  Gives the
significand and the digits that are left. -/
def gather (significand : Nat) : List Char → Nat × List Char
  | [] => (significand, [])
  | digit :: digits =>
      let next := Nat.ofDigitChars 10 [digit] significand
      if next < 2 ^ 64 then gather next digits else (significand, digit :: digits)

def greatestPower : Nat :=
  308

def powerOfTen (power : Nat) : Float :=
  Float.ofScientific 1 false power

/-- A double divided by a power of ten, in as many steps as there are powers that are doubles. -/
def lowered (value : Float) (power : Nat) : Float :=
  if power ≤ greatestPower then value / powerOfTen power
  else if value == 0 then value
  else lowered (value / powerOfTen greatestPower) (power - greatestPower)
termination_by power
decreasing_by unfold greatestPower at *; omega

/-- A double multiplied with a power of ten.  Doubles beyond the range are refused. -/
def raised (value : Float) (power : Nat) : Except Fault Float :=
  if power ≤ greatestPower then
    let product := value * powerOfTen power
    if product.isInf then .error .numberOutOfRange else .ok product
  else if value == 0 then .ok value
  else .error .numberOutOfRange

def scaled (significand : Nat) (power : Int) : Except Fault Float :=
  let value := (UInt64.ofNat significand).toFloat
  if 0 ≤ power then raised value power.toNat else .ok (lowered value (-power).toNat)

/-- The greatest exponent that is looked at in detail. -/
def greatestExponent : Nat :=
  2 ^ 31 - 1

def Numeral.magnitude (numeral : Numeral) : Except Fault Float :=
  let (whole, left) := gather 0 numeral.whole
  let digits := numeral.fraction.getD []
  let (significand, ignored) := gather whole digits
  let power := Int.ofNat left.length - Int.ofNat (digits.length - ignored.length)
  match numeral.exponent with
  | none => scaled significand power
  | some exponent =>
      let size := Nat.ofDigitChars 10 exponent.digits 0
      if greatestExponent < size then
        if exponent.negative ∨ significand = 0 then .ok 0 else .error .numberOutOfRange
      else
        scaled significand (power + if exponent.negative then -Int.ofNat size else Int.ofNat size)

/-- The numeral's value as an integer, if it is one. -/
def Numeral.integer? (numeral : Numeral) : Option Number :=
  let value := Nat.ofDigitChars 10 numeral.whole 0
  if numeral.fraction.isSome ∨ numeral.exponent.isSome then none
  else if ¬ numeral.negative then
    if value < 2 ^ 64 then some (.natural (UInt64.ofNat value)) else none
  else if 0 < value ∧ value ≤ 2 ^ 63 then some (.negative (UInt64.ofNat value))
  else none

def Numeral.value (numeral : Numeral) : Except Fault Number :=
  match numeral.integer? with
  | some number => .ok number
  | none => do
      let magnitude ← numeral.magnitude
      return .float (if numeral.negative then -magnitude else magnitude)

end Json
end LoadAtlas
