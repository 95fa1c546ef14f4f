import LoadAtlas.Cell.Id

/-!
# The curve through a face

On every face the cells of one level are visited by a Hilbert curve.  A finest cell is given
by two coordinates of 30 bits, or by its position on the curve, which has 30 digits from 0 to
3.  Walking down from the face, each pair of coordinate bits names a quadrant, the curve's
present orientation turns quadrants into positions, and the position turns the orientation.
-/

namespace LoadAtlas
namespace Curve

/-- The four ways in which the curve can pass through a square. -/
abbrev Orientation := Fin 4

/-- A quadrant of a square: twice the first coordinate bit plus the second one. -/
abbrev Quadrant := Fin 4

/-- The quadrants in the order in which a curve of the given orientation visits them. -/
def visits (orientation : Orientation) : Vector Quadrant 4 :=
  match orientation with
  | 0 => #v[0, 1, 3, 2]
  | 1 => #v[0, 2, 3, 1]
  | 2 => #v[3, 2, 0, 1]
  | 3 => #v[3, 1, 0, 2]

def quadrant (orientation : Orientation) (position : Fin 4) : Quadrant :=
  (visits orientation)[position]

def position (orientation : Orientation) (wanted : Quadrant) : Fin 4 :=
  if quadrant orientation 0 = wanted then 0
  else if quadrant orientation 1 = wanted then 1
  else if quadrant orientation 2 = wanted then 2
  else 3

/-- The orientation inside the quadrant at a position: the first one is seen with its
coordinates exchanged, the last one exchanged and turned round. -/
def turn (orientation : Orientation) (position : Fin 4) : Orientation :=
  match position with
  | 0 => orientation ^^^ 1
  | 3 => orientation ^^^ 3
  | _ => orientation

/-- The orientation in which the curve passes through a face. -/
def faceOrientation (face : Nat) : Orientation :=
  if face % 2 = 1 then 1 else 0

/-- The quadrant that one bit of both coordinates names. -/
def quadrantOfBits (first second : Bool) : Quadrant :=
  match first, second with
  | false, false => 0
  | false, true => 1
  | true, false => 2
  | true, true => 3

/-- The curve positions of the lowest `bits` bits of two coordinates, read from the highest
of them down and appended to the positions above, four to each. -/
def index (first second : Nat) : (bits : Nat) → Orientation → (above : Nat) → Nat
  | 0, _, above => above
  | bits + 1, orientation, above =>
      let place := position orientation (quadrantOfBits (first.testBit bits) (second.testBit bits))
      index first second bits (turn orientation place) (4 * above + place.val)

/-- The coordinates that the lowest `digits` curve positions of an index lead to, appended to
the coordinates above. -/
def coordinates (index : Nat) : (digits : Nat) → Orientation → (above : Nat × Nat) → Nat × Nat
  | 0, _, above => above
  | digits + 1, orientation, (first, second) =>
      let place := Fin.ofNat 4 (index / 4 ^ digits)
      let square := quadrant orientation place
      coordinates index digits (turn orientation place)
        (2 * first + square.val / 2, 2 * second + square.val % 2)

/-- The position of every quadrant leads back to it. -/
theorem quadrant_position (orientation : Orientation) (wanted : Quadrant) :
    quadrant orientation (position orientation wanted) = wanted := by
  revert orientation wanted
  decide

/-- Every position is found again from its quadrant. -/
theorem position_quadrant (orientation : Orientation) (place : Fin 4) :
    position orientation (quadrant orientation place) = place := by
  revert orientation place
  decide

end Curve
end LoadAtlas
