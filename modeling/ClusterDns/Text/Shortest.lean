import ClusterDns.Text.Numeral

/-! The shortest decimal that reads back as the same 64-bit float, written out in full without an
exponent. All arithmetic is exact: a decimal stands as a whole number of units of `10 ^ -340`, which
is fine enough for seventeen digits of the smallest float. -/

namespace ClusterDns.Text.Shortest

def unitDigits : Nat := 340

/-- The units in one. -/
def unitsPerOne : Nat := Nat.pow 10 unitDigits

/-- The whole mantissas of floats that are not too small lie between this, `2 ^ 52`, and its double.
-/
def leastMantissa : Nat := 4503599627370496

/-- The reals that round to one float, all as numerators over one denominator, in units. The bounds
themselves round to it if and only if the interval is closed. -/
structure Interval where
  low : Nat
  value : Nat
  high : Nat
  denominator : Nat
  closed : Bool

/-- The interval of `mantissa * 2 ^ (exponent - 1075)`. A quarter of the last place is the step in
which both bounds are whole; below a power of two the floats lie twice as dense. -/
def Interval.ofParts (mantissa exponent : Nat) : Interval :=
  let belowDense := mantissa == leastMantissa && 1 < exponent
  let scale := unitsPerOne * Nat.pow 2 exponent
  { low := (4 * mantissa - if belowDense then 1 else 2) * scale
    value := 4 * mantissa * scale
    high := (4 * mantissa + 2) * scale
    denominator := Nat.pow 2 1077
    closed := mantissa % 2 == 0 }

def Interval.ofBits (bits : Nat) : Interval :=
  let exponent := bits / leastMantissa % 2048
  let fraction := bits % leastMantissa
  if exponent == 0 then .ofParts fraction 1 else .ofParts (leastMantissa + fraction) exponent

def Interval.contains (i : Interval) (units : Nat) : Bool :=
  let n := units * i.denominator
  if i.closed then i.low ≤ n && n ≤ i.high else i.low < n && n < i.high

/-- The point of the grid with the given step that lies in the interval and nearest its value. Of
all points only the two neighbours of the value can be that one. -/
def Interval.nearest? (i : Interval) (step : Nat) : Option Nat :=
  let below := i.value / (i.denominator * step) * step
  let above := below + step
  match i.contains below, i.contains above with
  | true, true =>
    if i.value - below * i.denominator ≤ above * i.denominator - i.value then some below
    else some above
  | true, false => some below
  | false, true => some above
  | false, false => none

/-- The first hit on ever finer grids. -/
def Interval.search (i : Interval) : Nat → Nat
  | 0 => (i.nearest? 1).getD (i.value / i.denominator)
  | places + 1 => match i.nearest? (Nat.pow 10 (places + 1)) with
    | some units => units
    | none => i.search places

def dropTrailingZeros (digits : List Char) : List Char :=
  (digits.reverse.dropWhile (· == '0')).reverse

/-- A number of units as a decimal: the whole part, and a point only before digits. -/
def positional (units : Nat) : String :=
  let whole := units / unitsPerOne
  let fraction := (toString (units % unitsPerOne)).toList
  let padded := List.replicate (unitDigits - fraction.length) '0' ++ fraction
  match dropTrailingZeros padded with
  | [] => toString whole
  | digits => toString whole ++ "." ++ String.ofList digits

end Shortest

/-- The shortest text of a finite float that is not negative. -/
def shortest (x : Float) : String :=
  let i := Shortest.Interval.ofBits x.toBits.toNat
  if i.value == 0 then "0"
  else Shortest.positional (i.search (toString (i.value / i.denominator)).length)

end ClusterDns.Text
