import LoadAtlas.Basic

/-!
# The shortest decimal of a double

A finite double stands for the interval of reals that round to it.  Its shortest decimal is
the one with the fewest significant digits in that interval and, among those, the nearest to
the double.  Where two of them are equally near, the writer of the decimal chooses.

The search is exact: a positive double is `mantissa * 2 ^ exponent`, everything is scaled to
natural numbers, and for one, two, … seventeen digits the two neighbours of the double on that
decimal grid are tested against the interval.
-/

namespace LoadAtlas
namespace Decimal

/-- A positive decimal `digits * 10 ^ power`. -/
structure Numeral where
  digits : Nat
  power : Int
  deriving DecidableEq, Inhabited

/-- Which of two neighbours on a decimal grid stands for a number half way between them. -/
inductive Tie
  /-- The one with an even last digit. -/
  | toEven
  /-- The greater one. -/
  | upward
  deriving DecidableEq, Inhabited

/-- The choice between a grid point and the one above it for a number half way between. -/
def Tie.choose (tie : Tie) (below : Nat) : Nat :=
  match tie with
  | .toEven => if below % 2 = 0 then below else below + 1
  | .upward => below + 1

/-- How many decimal digits a natural number has; zero has one. -/
def digitCount (number : Nat) : Nat :=
  (Nat.toDigits 10 number).length

/-- Significand and binary exponent of the magnitude of a finite double. -/
def significand (value : Float) : Nat × Int :=
  let bits := value.toBits.toNat
  let field := bits / 2 ^ 52 % 2 ^ 11
  let fraction := bits % 2 ^ 52
  if field = 0 then (fraction, -1074)
  else (fraction + 2 ^ 52, Int.ofNat field - 1075)

/-- The reals that round to a positive double, as fractions over one denominator: the lower
end, the double itself and the upper end.  The ends belong to the interval exactly if
`closed`. -/
structure Rounding where
  lower : Nat
  value : Nat
  upper : Nat
  denominator : Nat
  closed : Bool

/-- The interval of a positive double.  It reaches half way to both neighbours; below a power
of two the neighbour is only half as far away. -/
def Rounding.of (value : Float) : Rounding :=
  let (mantissa, exponent) := significand value
  let below := if mantissa = 2 ^ 52 ∧ -1074 < exponent then 1 else 2
  let scale := 2 ^ (exponent - 2).toNat
  { lower := (4 * mantissa - below) * scale
    value := 4 * mantissa * scale
    upper := (4 * mantissa + 2) * scale
    denominator := 2 ^ (2 - exponent).toNat
    closed := mantissa % 2 = 0 }

/-- The power of ten just above a positive fraction: it is less than `10 ^ magnitude` and at
least a tenth of that. -/
def magnitude (numerator denominator : Nat) : Int :=
  if denominator ≤ numerator then digitCount (numerator / denominator)
  else 1 - Int.ofNat (digitCount ((denominator - 1) / numerator))

/-- Whether `digits` units of a grid lie in the interval.  The interval is given in units of
the grid over a common denominator. -/
def Rounding.holds (interval : Rounding) (digits : Nat) : Bool :=
  let point := digits * interval.denominator
  if interval.closed then interval.lower ≤ point && point ≤ interval.upper
  else interval.lower < point && point < interval.upper

/-- The interval measured in units of `10 ^ power`. -/
def Rounding.scaled (interval : Rounding) (power : Int) : Rounding :=
  let up := 10 ^ (-power).toNat
  { interval with
    lower := interval.lower * up
    value := interval.value * up
    upper := interval.upper * up
    denominator := interval.denominator * 10 ^ power.toNat }

/-- The best grid point in an interval measured in grid units: of the two neighbours of the
double those inside count, and the nearer wins. -/
def Rounding.nearest? (interval : Rounding) (tie : Tie) : Option Nat :=
  let below := interval.value / interval.denominator
  let rest := interval.value % interval.denominator
  let above := below + 1
  match interval.holds below, interval.holds above with
  | true, true =>
      if 2 * rest < interval.denominator then some below
      else if interval.denominator < 2 * rest then some above
      else some (tie.choose below)
  | true, false => some below
  | false, true => some above
  | false, false => none

/-- A numeral without a final zero; only a carry to the next power of ten leaves one. -/
def Numeral.trimmed (numeral : Numeral) : Numeral :=
  if numeral.digits % 10 = 0 then ⟨numeral.digits / 10, numeral.power + 1⟩ else numeral

/-- The shortest decimal of the magnitude of a finite double other than zero. -/
def shortest (tie : Tie) (value : Float) : Numeral :=
  let interval := Rounding.of value
  let top := magnitude interval.value interval.denominator
  let found := (List.range 17).findSome? fun count =>
    let power := top - Int.ofNat (count + 1)
    ((interval.scaled power).nearest? tie).map fun digits => Numeral.trimmed ⟨digits, power⟩
  found.getD ⟨0, 0⟩

end Decimal
end LoadAtlas
