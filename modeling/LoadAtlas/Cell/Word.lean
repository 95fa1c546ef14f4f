import LoadAtlas.Cell.Id

/-!
# Cells as machine words

What a cell identifier tells is computed on a machine by a few operations on its word of 64 bits.
A word less its lowest 1, negated, or shifted, may leave the range of words on either side; the
arithmetic then goes round.

These are the operations that the arithmetic of cell identifiers stands for.
-/

namespace LoadAtlas
namespace CellWord

/-- The lowest 1 of a word, alone. -/
def lowestOne (word : UInt64) : UInt64 :=
  word &&& (0 - word)

/-- The even places up to the sixtieth, where the lowest 1 of a cell's word may stand. -/
def evenPlaces : UInt64 :=
  0x1555555555555555

/-- Whether a word names a cell, on one of the six faces or on one of the two that are not
there. -/
def namesCell (word : UInt64) : Bool :=
  lowestOne word &&& evenPlaces ≠ 0

def level (word : UInt64) : Nat :=
  CellId.finestLevel - (lowestOne word).log2.toNat / 2

/-- The lowest 1 of the words of a level, alone. -/
def levelOne (level : Nat) : UInt64 :=
  1 <<< UInt64.ofNat (2 * (CellId.finestLevel - level))

def ancestor (word : UInt64) (level : Nat) : UInt64 :=
  (word &&& (0 - levelOne level)) ||| levelOne level

def contains (outer inner : UInt64) : Bool :=
  outer - (lowestOne outer - 1) ≤ inner && inner ≤ outer + (lowestOne outer - 1)

/-- The words of the four children, each a half of the lowest 1 after the one before. -/
def children (word : UInt64) : List UInt64 :=
  let half := lowestOne word >>> 1
  let first := word - lowestOne word + (lowestOne word >>> 2)
  [first, first + half, first + half + half, first + half + half + half]

end CellWord
end LoadAtlas
