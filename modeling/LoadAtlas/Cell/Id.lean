import LoadAtlas.Basic

/-!
# Cell identifiers

The globe is cut into six faces, and every cell is cut into four.  A cell is named by a word
of 64 bits: three bits for the face, two bits for each cut below it, then a single 1 and only
zeros.  The place of that last 1 tells the level: the faces have level 0 and the finest cells
have level 30.

The cells inside a cell are therefore an interval of words around its own word, and the cell
of a coarser level around it is found by arithmetic alone.
-/

namespace LoadAtlas

/-- The word that names a cell. -/
structure CellId where
  code : UInt64
  deriving DecidableEq, Inhabited

namespace CellId

/-- Cells are ordered by their words. -/
instance : Ord CellId :=
  ⟨compareOn CellId.code⟩

instance : Std.TransOrd CellId :=
  inferInstanceAs (Std.TransCmp (compareOn CellId.code))

instance : Std.LawfulEqOrd CellId where
  eq_of_compare := by
    intro first second equal
    cases first
    cases second
    congr
    exact Std.LawfulEqOrd.eq_of_compare equal

def finestLevel : Nat :=
  30

/-- The number of zeros below the lowest 1 of a word with the given number of bits. -/
def lowZeros : (bits : Nat) → (word : Nat) → Nat
  | 0, _ => 0
  | bits + 1, word => if word % 2 = 1 then 0 else lowZeros bits (word / 2) + 1

/-- How often the globe's face was cut to reach the cell. -/
def level (cell : CellId) : Nat :=
  finestLevel - lowZeros 64 cell.code.toNat / 2

/-- The level of a cell, if its word is not 0 and so has a lowest 1. -/
def level? (cell : CellId) : Option Nat :=
  if cell.code = 0 then none else some cell.level

/-- The lowest 1 of a cell's word, as a number. -/
def mark (cell : CellId) : Nat :=
  2 ^ lowZeros 64 cell.code.toNat

/-- The lowest 1 of the words of a level. -/
def levelMark (level : Nat) : Nat :=
  4 ^ (finestLevel - level)

/-- The cell of a coarser level around a cell: the bits above the level's mark stay, the mark
is set and nothing stands below it. -/
def ancestor (cell : CellId) (level : Nat) : CellId :=
  let mark := levelMark level
  ⟨UInt64.ofNat (cell.code.toNat / (2 * mark) * (2 * mark) + mark)⟩

/-- The least word of a finest cell inside a cell. -/
def firstInside (cell : CellId) : Nat :=
  cell.code.toNat - (cell.mark - 1)

/-- The greatest word of a finest cell inside a cell. -/
def lastInside (cell : CellId) : Nat :=
  cell.code.toNat + (cell.mark - 1)

/-- Whether a cell lies inside another one or is the same. -/
def contains (outer inner : CellId) : Bool :=
  outer.firstInside ≤ inner.code.toNat && inner.code.toNat ≤ outer.lastInside

/-- The four cells that a cell is cut into, in increasing order. -/
def children (cell : CellId) : List CellId :=
  [1, 3, 5, 7].map fun eighth =>
    ⟨UInt64.ofNat (cell.code.toNat - cell.mark + eighth * (cell.mark / 4))⟩

/-- The number that the top three bits of a cell's word spell. -/
def faceNumber (cell : CellId) : Nat :=
  cell.code.toNat / 2 ^ 61

end CellId
end LoadAtlas
