import LoadAtlas.Cell.Sphere

/-!
# The shape of a cell

A cell has a centre and four corners.  Both are computed on its face, bent back and carried to
the globe.  A word whose top three bits name no face has no shape, nor has the word 0, which
has no level.
-/

namespace LoadAtlas

/-- The word of this cell names none of the six faces, or it is 0 and has no level. -/
structure NoShape where
  cell : CellId

namespace CellId

def face (cell : CellId) : Except NoShape Face :=
  if known : cell.code ≠ 0 ∧ cell.faceNumber < 6 then .ok ⟨cell.faceNumber, known.2⟩
  else .error ⟨cell⟩

/-- The coordinates of the finest cell that the word spells when its last 1 and the zeros
below count as further positions on the curve. -/
def gridCorner (cell : CellId) : Nat × Nat :=
  Curve.coordinates (cell.code.toNat / 2 % 4 ^ finestLevel) finestLevel
    (Curve.faceOrientation cell.faceNumber) (0, 0)

/-- How far the centre lies from the grid corner, in half steps of the grid: one for a finest
cell, and otherwise two or none, as the corner falls below or above the centre. -/
def centerOffset (cell : CellId) : Nat :=
  if cell.code.toNat % 2 = 1 then 1
  else if cell.gridCorner.1 % 2 ≠ cell.code.toNat / 4 % 2 then 2 else 0

/-- A bent coordinate that is a fraction of the face's side. -/
def fraction (steps total : Nat) : Float :=
  Float.ofNat steps / Float.ofNat total

def center (cell : CellId) : Except NoShape Location := do
  let face ← cell.face
  let (column, row) := cell.gridCorner
  let u := unbend (fraction (2 * column + cell.centerOffset) (2 ^ 31))
  let v := unbend (fraction (2 * row + cell.centerOffset) (2 ^ 31))
  return (Direction.ofFace face u v).normalized.location

/-- The first and last bent-back coordinate of the side of a cell of the given level. -/
def side (level start : Nat) : Float × Float :=
  let size := 2 ^ (finestLevel - level)
  let low := start / size * size
  (unbend (fraction low (2 ^ 30)), unbend (fraction (low + size) (2 ^ 30)))

/-- The corners of a cell, counter-clockwise. -/
def vertices (cell : CellId) : Except NoShape (List Location) := do
  let face ← cell.face
  let (column, row) := cell.gridCorner
  let (left, right) := side cell.level column
  let (bottom, top) := side cell.level row
  return [(left, bottom), (right, bottom), (right, top), (left, top)].map fun corner =>
    (Direction.ofFace face corner.1 corner.2).normalized.location

end CellId
end LoadAtlas
