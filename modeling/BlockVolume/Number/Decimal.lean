import BlockVolume.Number.Rounding

namespace BlockVolume

/-!
# Decimal text of numbers

A finite number is written with the fewest decimal digits that read back as
the same double, and among those with the digits nearest to its value. Where
the point stands, and when an exponent is written instead, is the business of
one record, `DecimalLayout`.
-/

namespace Number

/-- A positive rational between the bounds of what rounds to one double. -/
structure RoundingInterval where
  /-- The lower bound, over the common denominator. -/
  low : Nat
  /-- The value itself, over the common denominator. -/
  value : Nat
  /-- The upper bound, over the common denominator. -/
  high : Nat
  /-- The common denominator. -/
  denominator : Nat
  /-- Whether the bounds themselves round to the value. -/
  closed : Bool
  deriving Repr, DecidableEq

namespace RoundingInterval

/-- `2 ^ 52`: below this mantissa neighbours lie half as far apart, as long as they are normal. -/
def leastNormalMantissa : Nat := 4503599627370496

/-- The interval of the double `mantissa * 2 ^ exponent`, measured in quarters of its last place. -/
def ofDouble (mantissa : Nat) (exponent : Int) : RoundingInterval :=
  let below := if mantissa = leastNormalMantissa ∧ exponent > -1074 then 1 else 2
  let factor := 1 <<< (exponent - 2).toNat
  { low := (4 * mantissa - below) * factor
    value := 4 * mantissa * factor
    high := (4 * mantissa + 2) * factor
    denominator := 1 <<< (2 - exponent).toNat
    closed := mantissa % 2 = 0 }

/-- Whether `numerator / denominator` reads back as the value. -/
def contains
    (interval : RoundingInterval)
    (numerator denominator : Nat) :
    Bool :=
  let candidate := numerator * interval.denominator
  let low := interval.low * denominator
  let high := interval.high * denominator
  if interval.closed then
    decide (low ≤ candidate) && decide (candidate ≤ high)
  else
    decide (low < candidate) && decide (candidate < high)

/-- The number of digits before the point; zero or less for values below one tenth. -/
def pointPosition (interval : RoundingInterval) : Int :=
  let whole := interval.value / interval.denominator
  if whole = 0 then
    let zeros := (List.range 400).takeWhile fun places =>
      decide (interval.value * Nat.pow 10 (places + 1) < interval.denominator)
    0 - (zeros.length : Int)
  else
    (Nat.toDigits 10 whole).length

/-- The multiple of `10 ^ exponent` next to the value, among its two neighbours, that reads back. -/
def gridPoint?
    (interval : RoundingInterval)
    (exponent : Int) :
    Option Nat :=
  let unitNumerator := Nat.pow 10 exponent.toNat
  let unitDenominator := Nat.pow 10 (-exponent).toNat
  let numerator := interval.value * unitDenominator
  let denominator := interval.denominator * unitNumerator
  let lower := numerator / denominator
  let nearestPoint := roundHalfEven numerator denominator
  let otherPoint := if nearestPoint = lower then lower + 1 else lower
  let readsBack := fun point => interval.contains (point * unitNumerator) unitDenominator
  if readsBack nearestPoint then
    some nearestPoint
  else if readsBack otherPoint then
    some otherPoint
  else
    none

/-- The fewest digits that read back, as a natural and the power of ten that it multiplies. -/
def shortest (interval : RoundingInterval) : Nat × Int :=
  let position := interval.pointPosition
  let found := (List.range 17).findSome? fun dropped =>
    let exponent := position - (dropped + 1 : Nat)
    (interval.gridPoint? exponent).map fun digits => (digits, exponent)
  found.getD (0, 0)

end RoundingInterval

/-- Where the decimal point stands, and when an exponent is written instead. -/
structure DecimalLayout where
  /-- Values of at least this many integer digits get an exponent. -/
  longest : Int
  /-- Values with this many zeros behind the point, or fewer, are written out. -/
  leadingZeros : Int
  /-- The text in front of the exponent's sign. -/
  exponentMark : String
  deriving Repr, DecidableEq

/-- Up to 21 integer digits and six leading zeros are written out. -/
def decimalLayout : DecimalLayout :=
  { longest := 21
    leadingZeros := 6
    exponentMark := "e" }

namespace DecimalLayout

/-- A run of zeros. -/
def zeros (count : Nat) : List Char :=
  List.replicate count '0'

/-- The exponent with its sign, which is always written. -/
def exponentText (layout : DecimalLayout) (exponent : Int) : String :=
  layout.exponentMark
    ++ (if exponent < 0 then "-" else "+")
    ++ toString exponent.natAbs

/-- The text of `0.digits * 10 ^ position`. -/
def render
    (layout : DecimalLayout)
    (digits : List Char)
    (position : Int) :
    String :=
  let count : Int := digits.length
  if count ≤ position ∧ position ≤ layout.longest then
    String.ofList (digits ++ zeros (position - count).toNat)
  else if 0 < position ∧ position ≤ layout.longest then
    let whole := position.toNat
    String.ofList (digits.take whole ++ '.' :: digits.drop whole)
  else if -layout.leadingZeros < position ∧ position ≤ 0 then
    String.ofList ('0' :: '.' :: zeros (-position).toNat ++ digits)
  else
    let mantissa :=
      match digits with
      | first :: second :: rest => first :: '.' :: second :: rest
      | short => short
    String.ofList mantissa ++ layout.exponentText (position - 1)

end DecimalLayout

/-- The text of a positive number `mantissa * 2 ^ exponent`. -/
def magnitudeText (mantissa : Nat) (exponent : Int) : String :=
  let ratio := rescale mantissa 1 (-exponent)
  match nearest false ratio.1 ratio.2 with
  | .finite _ rounded roundedExponent =>
      let (point, power) := (RoundingInterval.ofDouble rounded roundedExponent).shortest
      let allDigits := Nat.toDigits 10 point
      let digits := (allDigits.reverse.dropWhile (· == '0')).reverse
      decimalLayout.render digits (power + allDigits.length)
  | _ => "Infinity"

/-- The decimal text of a number; a zero has no sign. -/
def text : Number → String
  | .nan => "NaN"
  | .infinity negative => if negative then "-Infinity" else "Infinity"
  | .finite negative mantissa exponent =>
      if mantissa = 0 then
        "0"
      else
        (if negative then "-" else "") ++ magnitudeText mantissa exponent

end Number

end BlockVolume
