import LoadAtlas.Basic
import LoadAtlas.Text.Character

/-!
# Natural numbers in TOML

Integers are decimal with an optional sign and without leading zeros, or they begin with `0x`,
`0o` or `0b` and are hexadecimal, octal or binary.  A single underscore may stand between two
digits.  Integers have 64 bits with a sign, so the greatest is 2 ^ 63 - 1; those below zero
are no natural numbers.
-/

namespace LoadAtlas
namespace Toml

/-- The digits of a number without the underscores between them. -/
def ungrouped? : List Char → Option (List Char)
  | [] => none
  | [digit] => if digit = '_' then none else some [digit]
  | digit :: '_' :: digits =>
      if digit = '_' then none else (ungrouped? digits).map (digit :: ·)
  | digit :: digits => if digit = '_' then none else (ungrouped? digits).map (digit :: ·)

def grouped? (base : Nat) (digits : List Char) : Option Nat :=
  ungrouped? digits >>= Text.number? base

/-- The number that grouped decimal digits without leading zeros spell. -/
def decimal? (digits : List Char) : Option Nat :=
  if digits.head? = some '0' ∧ digits.length ≠ 1 then none else grouped? 10 digits

def greatestInteger : Nat :=
  2 ^ 63 - 1

/-- The size of a written number, before it is held against the greatest integer. -/
def unbounded? : List Char → Option Nat
  | '0' :: 'x' :: digits => grouped? 16 digits
  | '0' :: 'o' :: digits => grouped? 8 digits
  | '0' :: 'b' :: digits => grouped? 2 digits
  | '+' :: digits => decimal? digits
  | '-' :: digits => (decimal? digits).filter (· = 0)
  | digits => decimal? digits

def natural? (value : List Char) : Option Nat :=
  (unbounded? value).filter (· ≤ greatestInteger)

end Toml
end LoadAtlas
