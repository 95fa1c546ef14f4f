import LoadAtlas.Bucket.Key
import LoadAtlas.Json.Fault

/-!
# Faults

Everything that an atlas refuses is a fault of one of five kinds.  A fault is kept as its
cause; its message is the heading of its kind and the wording of the cause.
-/

namespace LoadAtlas

/-- The two coordinates of a location. -/
inductive Axis
  | longitude
  | latitude
  deriving DecidableEq, Inhabited

/-- The greatest magnitude of a coordinate, in degrees. -/
def Axis.bound : Axis → Nat
  | .longitude => 180
  | .latitude => 90

def Axis.name : Axis → String
  | .longitude => "longitude"
  | .latitude => "latitude"

/-- Why an input is refused. -/
inductive InputFault
  | notFinite (axis : Axis) (value : Float)
  | outOfBounds (axis : Axis) (value : Float)
  | blankEntity (entity : String)
  | noKey (location : Location) (cause : Bucket.EncodeFault)
  | badKey (key : String) (cause : Bucket.DecodeFault)
  deriving Inhabited

namespace InputFault

/-- A coordinate alone is shown with its shortest digits, always written out; of two equally
near decimals the greater magnitude is taken. -/
def coordinateStyle : Decimal.Style where
  tie := .upward
  positional := none
  keepsPoint := false
  plus := ""
  notANumber := "NaN"
  infinity := "inf"
  negativeInfinity := "-inf"

/-- A coordinate of a shown location keeps a decimal and is written out from 0.0001 up to
10 ^ 16; of two equally near decimals the greater magnitude is taken. -/
def locationStyle : Decimal.Style where
  tie := .upward
  positional := some (-4, 15)
  keepsPoint := true
  plus := ""
  notANumber := "NaN"
  infinity := "inf"
  negativeInfinity := "-inf"

/-- Both coordinates of a location in parentheses. -/
def pair (location : Location) : String :=
  let longitude := locationStyle.render location.longitude
  let latitude := locationStyle.render location.latitude
  s!"({longitude} {latitude})"

def encodeReason (location : Location) : Bucket.EncodeFault → String
  | .outOfRange => s!"invalid coordinate range: COORD{pair location}"
  | .badLength length =>
      s!"Invalid length specified: {length}. Accepted values are between 1 and " ++
        s!"{Bucket.longestKey}, inclusive"

/-- The wording of the reason why a text is no key.  A byte is shown as the character with its
number. -/
def decodeReason : Bucket.DecodeFault → String
  | .empty => "Invalid input hash: no characters"
  | .tooLong => "Invalid input hash: Length of hash string greater than maximum allowed length"
  | .badByte byte => "invalid hash character: " ++ String.singleton (Char.ofNat byte.toNat)

def reason : InputFault → String
  | .notFinite axis value =>
      s!"{axis.name} must be finite, got {coordinateStyle.render value}"
  | .outOfBounds axis value =>
      s!"{axis.name} must lie within [-{axis.bound}, {axis.bound}], " ++
        s!"got {coordinateStyle.render value}"
  | .blankEntity entity => s!"entity id must not be blank, got {Text.quoted entity}"
  | .noKey location cause =>
      s!"Cannot bucket location POINT{pair location}: {encodeReason location cause}"
  | .badKey key cause => s!"Invalid bucket key {key}: {decodeReason cause}"

end InputFault

/-- The kinds of faults. -/
inductive FaultKind
  | input
  | config
  | serialization
  | io
  | engineClosed
  deriving DecidableEq, Inhabited

/-- The message of a fault of a kind with a given reason.  A closed engine needs none. -/
def FaultKind.message (kind : FaultKind) (reason : String) : String :=
  match kind with
  | .input => "Invalid input: " ++ reason
  | .config => "Invalid configuration: " ++ reason
  | .serialization => "Serialization error: " ++ reason
  | .io => "I/O error: " ++ reason
  | .engineClosed => "Engine is closed"

/-- What an atlas refuses. -/
inductive Fault
  | input (cause : InputFault)
  | config (cause : Config.Fault)
  | json (cause : Json.Fault)
  | engineClosed
  /-- A fault that the surrounding program reports in its own words. -/
  | reported (kind : FaultKind) (reason : String)
  deriving Inhabited

def Fault.kind : Fault → FaultKind
  | .input _ => .input
  | .config _ => .config
  | .json _ => .serialization
  | .engineClosed => .engineClosed
  | .reported kind _ => kind

def Fault.reason : Fault → String
  | .input cause => cause.reason
  | .config cause => cause.message
  | .json cause => cause.message
  | .engineClosed => ""
  | .reported _ reason => reason

def Fault.message (fault : Fault) : String :=
  fault.kind.message fault.reason

end LoadAtlas
