/-!
# Basics

Powers and sums of natural numbers are the core library's own, also where a library that knows
them in general is imported.

A location is a pair of a longitude and a latitude in degrees.  The pair is not restricted:
whether it names a place on the globe is checked where a location enters.
-/

namespace LoadAtlas

@[default_instance 20000]
instance (priority := 2000) powersOfNat : Pow Nat Nat :=
  instPowNat

instance (priority := 2000) zeroOfNat : Zero Nat :=
  Zero.ofOfNat0

/-- A longitude and a latitude, in degrees. -/
structure Location where
  longitude : Float
  latitude : Float
  deriving BEq, Inhabited

end LoadAtlas
