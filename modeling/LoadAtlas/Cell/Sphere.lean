import LoadAtlas.Cell.Curve
import LoadAtlas.Basic

/-!
# Cells of locations

A location becomes a direction from the centre of the globe, the direction meets one of six
faces of a cube, and the point on the face is bent so that cells have nearly equal size.  The
finest cell there is found on the curve through the face; every coarser cell of the location
is an ancestor of the finest one, so the cells of one location nest.

All arithmetic is in doubles, in the order written.
-/

namespace LoadAtlas

def radiansPerDegree : Float :=
  0.017453292519943295

/-- A vector from the centre of the globe. -/
structure Direction where
  x : Float
  y : Float
  z : Float

def Direction.ofLocation (location : Location) : Direction :=
  let phi := location.latitude * radiansPerDegree
  let theta := location.longitude * radiansPerDegree
  { x := Float.cos theta * Float.cos phi
    y := Float.sin theta * Float.cos phi
    z := Float.sin phi }

def Direction.normalized (direction : Direction) : Direction :=
  let scale := 1.0 / Float.sqrt
    (direction.x * direction.x + direction.y * direction.y + direction.z * direction.z)
  ⟨direction.x * scale, direction.y * scale, direction.z * scale⟩

def Direction.location (direction : Direction) : Location :=
  let across := Float.sqrt (direction.x * direction.x + direction.y * direction.y)
  { longitude := Float.atan2 direction.y direction.x / radiansPerDegree
    latitude := Float.atan2 direction.z across / radiansPerDegree }

/-- One of the six faces.  The first three look along the axes, the others against them. -/
abbrev Face := Fin 6

/-- The face that a vector meets: that of its longest component, a later axis only if its
component is longer than those before it. -/
def Direction.face (direction : Direction) : Face :=
  let axis : Fin 3 × Float := (0, direction.x)
  let axis := if direction.x.abs < direction.y.abs then (1, direction.y) else axis
  let axis := if axis.2.abs < direction.z.abs then (2, direction.z) else axis
  match axis.1, decide (axis.2 < 0) with
  | 0, false => 0
  | 1, false => 1
  | 2, false => 2
  | 0, true => 3
  | 1, true => 4
  | 2, true => 5

/-- The point of a face that a vector meets, with coordinates from -1 to 1. -/
def Direction.onFace (direction : Direction) (face : Face) : Float × Float :=
  let ⟨x, y, z⟩ := direction
  match face with
  | 0 => (y / x, z / x)
  | 1 => (-x / y, z / y)
  | 2 => (-x / z, -y / z)
  | 3 => (z / x, y / x)
  | 4 => (z / y, -x / y)
  | 5 => (-y / z, -x / z)

def Direction.ofFace (face : Face) (u v : Float) : Direction :=
  match face with
  | 0 => ⟨1.0, u, v⟩
  | 1 => ⟨-u, 1.0, v⟩
  | 2 => ⟨-u, -v, 1.0⟩
  | 3 => ⟨-1.0, -v, -u⟩
  | 4 => ⟨v, -1.0, -u⟩
  | 5 => ⟨v, u, -1.0⟩

/-- The bent coordinate, from 0 to 1, of a coordinate on a face. -/
def bend (u : Float) : Float :=
  if 0.0 ≤ u then 0.5 * Float.sqrt (1.0 + 3.0 * u)
  else 1.0 - 0.5 * Float.sqrt (1.0 - 3.0 * u)

/-- The coordinate on a face of a bent coordinate. -/
def unbend (s : Float) : Float :=
  if 0.5 ≤ s then 1.0 / 3.0 * (4.0 * s * s - 1.0)
  else 1.0 / 3.0 * (1.0 - 4.0 * (1.0 - s) * (1.0 - s))

/-- The column or row of the finest cells that a bent coordinate falls into.  Values outside
the face count as its border, and what is not a number counts as 0. -/
def gridIndex (s : Float) : Nat :=
  min (1073741824.0 * s).toUInt32.toNat (2 ^ 30 - 1)

/-- The finest cell at two coordinates on a face. -/
def CellId.ofGrid (face : Face) (column row : Nat) : CellId :=
  let place := Curve.index column row CellId.finestLevel (Curve.faceOrientation face.val) 0
  ⟨UInt64.ofNat (face.val * 2 ^ 61 + 2 * place + 1)⟩

namespace Location

/-- The finest cell of a location. -/
def finestCell (location : Location) : CellId :=
  let direction := Direction.ofLocation location
  let face := direction.face
  let (u, v) := direction.onFace face
  CellId.ofGrid face (gridIndex (bend u)) (gridIndex (bend v))

/-- The cell of a given level that a location falls into. -/
def cellAt (location : Location) (level : Nat) : CellId :=
  location.finestCell.ancestor level

/-- The cell one level below `parent` that a location falls into. -/
def childAt (location : Location) (parent : CellId) : CellId :=
  location.cellAt (parent.level + 1)

/-- The cell of a given level that a location falls into, if there are cells of that level. -/
def cellAt? (location : Location) (level : Nat) : Option CellId :=
  if level ≤ CellId.finestLevel then some (location.cellAt level) else none

/-- The cell one level below `parent` that a location falls into, if `parent` has a level and
there are cells below it. -/
def childAt? (location : Location) (parent : CellId) : Option CellId :=
  parent.level?.bind fun level => location.cellAt? (level + 1)

end Location
end LoadAtlas
