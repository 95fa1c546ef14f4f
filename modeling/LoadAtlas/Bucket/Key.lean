import LoadAtlas.Bucket.Interleave
import LoadAtlas.Basic

/-!
# Bucket keys

A bucket is a small rectangle of locations.  Its key is a text of one to twelve characters;
each character gives five more bits of the rectangle's interleaved coordinates, a longitude
bit first.  The representative location of a bucket is the centre of its rectangle.

A coordinate becomes 32 bits by stretching its range to the doubles from 1 to 2 and taking the
leading bits of the fraction.  The range is half open: longitude 180 and latitude 90 fall on
the double 2 and share the bits of longitude -180 and latitude -90.
-/

namespace LoadAtlas
namespace Bucket

/-- The characters of keys, in the order of the five bits that they stand for. -/
def alphabet : List Char :=
  ['0', '1', '2', '3', '4', '5', '6', '7', '8', '9', 'b', 'c', 'd', 'e', 'f', 'g',
    'h', 'j', 'k', 'm', 'n', 'p', 'q', 'r', 's', 't', 'u', 'v', 'w', 'x', 'y', 'z']

def longestKey : Nat :=
  12

/-- Why a location has no key of a given length. -/
inductive EncodeFault
  /-- The location is not on the globe. -/
  | outOfRange
  /-- Keys have one to twelve characters. -/
  | badLength (length : Nat)
  deriving DecidableEq, Inhabited

/-- Why a text is no key. -/
inductive DecodeFault
  /-- The empty text selects no rectangle. -/
  | empty
  /-- Keys have at most twelve bytes. -/
  | tooLong
  /-- The first byte that stands for no five bits. -/
  | badByte (byte : UInt8)
  deriving DecidableEq, Inhabited

/-- The leading 32 bits of the fraction of a double from 1 to 2. -/
def fractionBits (value : Float) : Nat :=
  value.toBits.toNat / 2 ^ 20 % 2 ^ 32

/-- The double from 1 to 2 whose fraction has the given leading 32 bits. -/
def ofFractionBits (bits : Nat) : Float :=
  Float.ofBits (UInt64.ofNat (1023 * 2 ^ 52 + bits % 2 ^ 32 * 2 ^ 20))

/-- The latitude as a fraction of its range, in 32 bits. -/
def latitudeBits (latitude : Float) : Nat :=
  fractionBits (latitude * 0.005555555555555556 + 1.5)

/-- The longitude as a fraction of its range, in 32 bits. -/
def longitudeBits (longitude : Float) : Nat :=
  fractionBits (longitude * 0.002777777777777778 + 1.5)

/-- The least coordinate with the given bits, on a range from `-reach` to `reach`. -/
def leastWithBits (reach : Float) (bits : Nat) : Float :=
  2.0 * reach * (ofFractionBits bits - 1.0) - reach

/-- The middle of the part of the range from `-reach` to `reach` that the given bits select,
of which only the first `known` are known. -/
def middleWithBits (reach : Float) (known bits : Nat) : Float :=
  let least := leastWithBits reach bits
  (least + (least + 2.0 * reach / Float.ofNat (2 ^ known))) / 2.0

/-- The interleaved coordinates of a location, in 64 bits. -/
def woven (location : Location) : Nat :=
  interleave 32 (latitudeBits location.latitude) (longitudeBits location.longitude)

/-- The first `length` groups of five bits of a number of 64 bits. -/
def groups (length woven : Nat) : List Nat :=
  (List.range length).map fun index => woven / 2 ^ (64 - 5 * (index + 1)) % 32

def inRange (location : Location) : Bool :=
  -180.0 ≤ location.longitude && location.longitude ≤ 180.0 &&
    -90.0 ≤ location.latitude && location.latitude ≤ 90.0

/-- The key of a given length of a location's bucket.  It computes with doubles and is not unfolded
by accident. -/
@[irreducible]
def encode (location : Location) (length : Nat) : Except EncodeFault String :=
  if ¬ inRange location then .error .outOfRange
  else if length < 1 ∨ longestKey < length then .error (.badLength length)
  else .ok (String.ofList ((groups length (woven location)).map (alphabet.getD · '0')))

/-- The five bits that a byte of a key stands for. -/
def groupOfByte (byte : UInt8) : Except DecodeFault Nat :=
  match alphabet.findIdx? fun character => character.toNat = byte.toNat with
  | some group => .ok group
  | none => .error (.badByte byte)

/-- The centre of the rectangle that groups of five bits select. -/
def centerOfGroups (groups : List Nat) : Location :=
  let bits := 5 * groups.length
  let woven := groups.foldl (32 * · + ·) 0 * 2 ^ (64 - bits)
  { longitude := middleWithBits 180.0 (bits - bits / 2) (evenBits 32 (woven / 2))
    latitude := middleWithBits 90.0 (bits / 2) (evenBits 32 woven) }

/-- The representative location of a key. -/
def decode (key : String) : Except DecodeFault Location :=
  let bytes := key.toUTF8.toList
  if bytes.isEmpty then .error .empty
  else if longestKey < bytes.length then .error .tooLong
  else (bytes.mapM groupOfByte).map centerOfGroups

end Bucket
end LoadAtlas
