import BlockVolume.Number.Basic

namespace BlockVolume

/-!
# Rounding to the nearest double

Digits in a text denote a rational; the number that they stand for is the
nearest binary value with 53 significant bits and an exponent of at least
`-1074`, a tie going to the even neighbour. From `2 ^ 1024 - 2 ^ 970` on the
result is an infinity.
-/

namespace Number

/-- The nearest integer to `numerator / denominator`, a tie going to the even one. -/
def roundHalfEven (numerator denominator : Nat) : Nat :=
  let quotient := numerator / denominator
  let twice := 2 * (numerator % denominator)
  if twice < denominator then
    quotient
  else if denominator < twice then
    quotient + 1
  else
    quotient + quotient % 2

/-- The double nearest to a natural, which is a natural again. -/
def roundNat (value : Nat) : Nat :=
  let exponent := value.log2 - 52
  roundHalfEven value (1 <<< exponent) <<< exponent

/-- Multiplies the smaller side, so that the ratio becomes `value / 2 ^ exponent`. -/
def rescale
    (numerator denominator : Nat) :
    Int → Nat × Nat
  | .ofNat exponent => (numerator, denominator <<< exponent)
  | .negSucc exponent => (numerator <<< (exponent + 1), denominator)

/-- The exponent of the highest bit of a positive ratio. -/
def topExponent (numerator denominator : Nat) : Int :=
  let guess : Int := (numerator.log2 : Int) - denominator.log2
  let (scaledNumerator, scaledDenominator) := rescale numerator denominator guess
  if scaledNumerator < scaledDenominator then guess - 1 else guess

/-- The double nearest to `numerator / denominator`. -/
def nearest
    (negative : Bool)
    (numerator denominator : Nat) :
    Number :=
  if numerator = 0 then
    .finite negative 0 0
  else
    let exponent := max (topExponent numerator denominator - 52) (-1074)
    let (scaledNumerator, scaledDenominator) := rescale numerator denominator exponent
    let mantissa := roundHalfEven scaledNumerator scaledDenominator
    if 1024 ≤ exponent + mantissa.log2 then
      .infinity negative
    else
      .finite negative mantissa exponent

/-- The double nearest to `digits * 10 ^ exponent`. -/
def ofDecimal
    (negative : Bool)
    (digits : Nat)
    (exponent : Int) :
    Number :=
  match exponent with
  | .ofNat power => nearest negative (digits * Nat.pow 10 power) 1
  | .negSucc power => nearest negative digits (Nat.pow 10 (power + 1))

/-- The double nearest to the sum of a number and an integer. -/
def addInt (number : Number) (offset : Int) : Number :=
  match number with
  | .finite negative mantissa exponent =>
      let base := min exponent 0
      let sum := scaled base negative mantissa exponent + scaled base (offset < 0) offset.natAbs 0
      match base with
      | .ofNat _ => nearest (sum < 0) sum.natAbs 1
      | .negSucc power => nearest (sum < 0) sum.natAbs (1 <<< (power + 1))
  | unchanged => unchanged

/-- An integer is its own rounding. -/
theorem roundHalfEven_one (value : Nat) : roundHalfEven value 1 = value := by
  simp [roundHalfEven, Nat.mod_one]

/-- A ratio with remainder below one half rounds down. -/
theorem roundHalfEven_of_lt
    {numerator denominator : Nat}
    (belowHalf : 2 * (numerator % denominator) < denominator) :
    roundHalfEven numerator denominator = numerator / denominator := by
  simp [roundHalfEven, belowHalf]

/-- An integral ratio is kept. -/
theorem roundHalfEven_mul
    (quotient : Nat)
    {denominator : Nat}
    (positive : 0 < denominator) :
    roundHalfEven (quotient * denominator) denominator = quotient := by
  rw [roundHalfEven_of_lt (by simpa using positive), Nat.mul_div_cancel _ positive]

end Number

end BlockVolume
