import LoadAtlas.Fault
import LoadAtlas.Text.Character

/-!
# Requests

A request names an entity and a location.  The entity must not be blank, and both coordinates
must be finite and within their bounds, the longitude being looked at first.  A request is
counted in the bucket of its location, under the bucket's representative location.
-/

namespace LoadAtlas

/-- Accepts a coordinate that is finite and within its bounds, which belong to it. -/
def Axis.check (axis : Axis) (value : Float) : Except InputFault Unit :=
  if ¬ value.isFinite then .error (.notFinite axis value)
  else if Float.ofNat axis.bound < value.abs then .error (.outOfBounds axis value)
  else .ok ()

namespace Location

def check (location : Location) : Except InputFault Unit := do
  Axis.longitude.check location.longitude
  Axis.latitude.check location.latitude

end Location

/-- Accepts the name of an entity unless it is blank. -/
def checkEntity (entity : String) : Except InputFault Unit :=
  if Text.isBlank entity then .error (.blankEntity entity) else .ok ()

namespace Bucket

def representative (key : String) : Except InputFault Location :=
  (decode key).mapError (.badKey key)

/-- A bucket named by its key, with its representative location. -/
structure Address where
  key : String
  location : Location
  deriving Inhabited

/-- The bucket of a location, for keys of the given length. -/
def address (location : Location) (precision : Nat) : Except InputFault Address := do
  let key ← (encode location precision).mapError (.noKey location)
  return ⟨key, ← representative key⟩

end Bucket
end LoadAtlas
