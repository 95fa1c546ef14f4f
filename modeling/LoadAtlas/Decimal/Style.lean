import LoadAtlas.Decimal.Shortest

/-!
# Written forms of a double

Every written form uses the digits of the shortest decimal.  A style says which of two equally
near decimals is taken, which exponents of ten are written out positionally, whether a whole
number keeps a final `.0`, how an exponent is introduced, and what stands for the doubles that
are not numbers.
-/

namespace LoadAtlas
namespace Decimal

/-- The choices of a written form. -/
structure Style where
  /-- The choice between two shortest decimals that are equally near. -/
  tie : Tie
  /-- Least and greatest exponent of ten written positionally; `none` means all. -/
  positional : Option (Int × Int)
  /-- Whether a whole number written positionally ends in `.0`. -/
  keepsPoint : Bool
  /-- The sign of an exponent that is not negative. -/
  plus : String
  /-- The text for a double that is not a number. -/
  notANumber : String
  /-- The text for infinity. -/
  infinity : String
  /-- The text for negative infinity. -/
  negativeInfinity : String

/-- The exponent of ten of a numeral's first digit. -/
def Numeral.leadingPower (numeral : Numeral) : Int :=
  numeral.power + digitCount numeral.digits - 1

/-- The digits of a numeral from the first one on. -/
def Numeral.figures (numeral : Numeral) : List Char :=
  Nat.toDigits 10 numeral.digits

/-- Whether a style writes a numeral positionally. -/
def Style.writesOut (style : Style) (numeral : Numeral) : Bool :=
  match style.positional with
  | none => true
  | some (least, greatest) =>
      least ≤ numeral.leadingPower && numeral.leadingPower ≤ greatest

def Style.writtenOut (style : Style) (numeral : Numeral) : List Char :=
  let figures := numeral.figures
  if 0 ≤ numeral.power then
    figures ++ List.replicate numeral.power.toNat '0' ++
      (if style.keepsPoint then ['.', '0'] else [])
  else
    let places := (-numeral.power).toNat
    if places < figures.length then
      figures.take (figures.length - places) ++ '.' :: figures.drop (figures.length - places)
    else
      '0' :: '.' :: (List.replicate (places - figures.length) '0' ++ figures)

/-- A numeral as a first digit, the others behind a point, and an exponent. -/
def Style.withExponent (style : Style) (numeral : Numeral) : List Char :=
  let mantissa := match numeral.figures with
    | first :: second :: rest => first :: '.' :: second :: rest
    | figures => figures
  let sign := if numeral.leadingPower < 0 then "-" else style.plus
  mantissa ++ 'e' :: (sign.toList ++ Nat.toDigits 10 numeral.leadingPower.natAbs)

def Style.numeral (style : Style) (numeral : Numeral) : List Char :=
  if style.writesOut numeral then style.writtenOut numeral else style.withExponent numeral

def Style.render (style : Style) (value : Float) : String :=
  let negative := value.toBits.toNat / 2 ^ 63 = 1
  if value.isNaN then style.notANumber
  else if ¬ value.isFinite then
    if negative then style.negativeInfinity else style.infinity
  else
    let magnitude := if value == 0 then ⟨0, 0⟩ else shortest style.tie value
    String.ofList ((if negative then ['-'] else []) ++ style.numeral magnitude)

end Decimal
end LoadAtlas
