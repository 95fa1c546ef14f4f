import LoadAtlas.Cell.Id

/-!
# Cell tokens

A token is the short written name of a cell: its word in sixteen hexadecimal digits without
the final zeros.  The word 0 names no cell and has the token `X`.
-/

namespace LoadAtlas
namespace CellId

/-- A word in sixteen lower-case hexadecimal digits. -/
def paddedDigits (cell : CellId) : List Char :=
  let digits := Nat.toDigits 16 cell.code.toNat
  List.replicate (16 - digits.length) '0' ++ digits

/-- The written name of a cell. -/
def token (cell : CellId) : String :=
  if cell.code = 0 then "X"
  else String.ofList (cell.paddedDigits.reverse.dropWhile (· == '0')).reverse

def digitValue? (digit : Char) : Option Nat :=
  if '0' ≤ digit ∧ digit ≤ '9' then some (digit.toNat - '0'.toNat)
  else if 'a' ≤ digit ∧ digit ≤ 'f' then some (digit.toNat - 'a'.toNat + 10)
  else none

/-- The number that hexadecimal digits spell behind the digits already read. -/
def digitsValue? (digits : List Char) : Option Nat :=
  digits.foldlM (fun number digit => (digitValue? digit).map (16 * number + ·)) 0

/-- The cell with a given token, whose digits are filled up with zeros on the right. -/
def ofToken? (token : String) : Option CellId :=
  if token = "X" then some ⟨0⟩
  else
    let digits := token.toList
    if digits.length ≤ 16 then
      (digitsValue? (digits ++ List.replicate (16 - digits.length) '0')).map
        fun code => ⟨UInt64.ofNat code⟩
    else none

end CellId
end LoadAtlas
