namespace BlockVolume

/-!
# Numbers as callers hand them in

Indices, values, coordinates and versions arrive as binary floating-point
numbers, so an operation may be asked for cell `1.5` or for the value `NaN`.
A `Number` is the exact dyadic value, which makes every test below exact: no
rounding happens unless an operation says so.

Two shapes may denote one value (`1 * 2 ^ 1` and `2 * 2 ^ 0`); all functions
here read the value, never the shape.
-/

/-- A dyadic rational with a sign, an infinity, or no number at all. -/
inductive Number where
  | nan
  | infinity (negative : Bool)
  | finite (negative : Bool) (mantissa : Nat) (exponent : Int)
  deriving Repr, DecidableEq

namespace Number

/-- The number of a natural. -/
def ofNat (value : Nat) : Number :=
  .finite false value 0

/-- The number of an integer. -/
def ofInt (value : Int) : Number :=
  .finite (value < 0) value.natAbs 0

instance (value : Nat) : OfNat Number value where
  ofNat := ofNat value

instance : Inhabited Number where
  default := 0

/-- A magnitude with a sign. -/
def signed (negative : Bool) (magnitude : Nat) : Int :=
  if negative then -(magnitude : Int) else magnitude

/-- The integral part of `mantissa * 2 ^ exponent`. -/
def integralPart (mantissa : Nat) : Int → Nat
  | .ofNat exponent => mantissa <<< exponent
  | .negSucc exponent => mantissa >>> (exponent + 1)

/-- Whether `mantissa * 2 ^ exponent` has no fractional part. -/
def isIntegral (mantissa : Nat) : Int → Bool
  | .ofNat _ => true
  | .negSucc exponent => mantissa >>> (exponent + 1) <<< (exponent + 1) == mantissa

/-- The integer that a number denotes, if it denotes one; a signed zero is `0`. -/
def toInt? : Number → Option Int
  | .finite negative mantissa exponent =>
      if isIntegral mantissa exponent then
        some (signed negative (integralPart mantissa exponent))
      else
        none
  | _ => none

/-- The natural that a number denotes, if it denotes one. -/
def toNat? (number : Number) : Option Nat :=
  match number.toInt? with
  | some (.ofNat value) => some value
  | _ => none

/-- `2 ^ 53`, the least natural that doubles do not tell apart from its neighbours. -/
def safeLimit : Nat := 9007199254740992

/-- `2 ^ 32`, the modulus of bit operations. -/
def wrapModulus : Nat := 4294967296

/-- The natural that a number denotes, if it lies below the safe limit. -/
def toSafeNat? (number : Number) : Option Nat :=
  number.toNat?.filter (· < safeLimit)

/-- The place below an extent that a number denotes. -/
def below? (number : Number) (extent : Nat) : Option (Fin extent) :=
  match number.toNat? with
  | some place => if inside : place < extent then some ⟨place, inside⟩ else none
  | none => none

/-- A value on the grid of multiples of `2 ^ base`, where `base` is at most its exponent. -/
def scaled
    (base : Int)
    (negative : Bool)
    (mantissa : Nat)
    (exponent : Int) :
    Int :=
  signed negative (mantissa <<< (exponent - base).toNat)

/-- Exact comparison; a number that is no number compares with nothing. -/
def compare? : Number → Number → Option Ordering
  | .nan, _ => none
  | _, .nan => none
  | .infinity left, .infinity right => some (compare right left)
  | .infinity left, .finite .. => some (if left then .lt else .gt)
  | .finite .., .infinity right => some (if right then .gt else .lt)
  | .finite leftSign left leftExponent, .finite rightSign right rightExponent =>
      let base := min leftExponent rightExponent
      some (compare
        (scaled base leftSign left leftExponent)
        (scaled base rightSign right rightExponent))

/-- Strictly below, false as soon as one side is no number. -/
def lt (left right : Number) : Bool :=
  left.compare? right == some .lt

/-- At most, false as soon as one side is no number. -/
def le (left right : Number) : Bool :=
  match left.compare? right with
  | some order => order.isLE
  | none => false

/-- The integral part modulo `2 ^ 32`, with `0` for what has no integral part. -/
def wrap32 : Number → Nat
  | .finite negative mantissa exponent =>
      (signed negative (integralPart mantissa exponent) % wrapModulus).toNat
  | _ => 0

@[simp]
theorem toInt?_ofNat (value : Nat) : (ofNat value).toInt? = some (value : Int) := by
  simp [ofNat, toInt?, isIntegral, integralPart, signed]

@[simp]
theorem toNat?_ofNat (value : Nat) : (ofNat value).toNat? = some value := by
  simp only [toNat?, toInt?_ofNat]

/-- Naturals compare as numbers as they do by themselves. -/
@[simp]
theorem compare?_ofNat (left right : Nat) :
    (ofNat left).compare? (ofNat right) = some (compare left right) := by
  have sameOrder : compare (left : Int) right = compare left right := by
    simp only [compare, compareOfLessAndEq, Int.ofNat_lt, Int.ofNat_inj]
  simp [compare?, ofNat, scaled, signed, sameOrder]

@[simp]
theorem lt_ofNat (left right : Nat) : (ofNat left).lt (ofNat right) = decide (left < right) := by
  rw [lt, compare?_ofNat, Bool.eq_iff_iff, beq_iff_eq, Option.some.injEq, Nat.compare_eq_lt,
    decide_eq_true_iff]

@[simp]
theorem le_ofNat (left right : Nat) : (ofNat left).le (ofNat right) = decide (left ≤ right) := by
  rw [le, compare?_ofNat, Bool.eq_iff_iff, Nat.isLE_compare, decide_eq_true_iff]

/-- A number denotes a natural exactly when it denotes that natural as an integer. -/
theorem toNat?_eq_some_iff
    {number : Number}
    {value : Nat} :
    number.toNat? = some value ↔ number.toInt? = some (value : Int) := by
  unfold toNat?
  split
  · rename_i natural denoted
    rw [denoted]
    simp only [Option.some.injEq]
    exact ⟨fun same => same ▸ rfl, fun same => Int.ofNat.inj same⟩
  · rename_i notNatural
    refine ⟨fun impossible => by simp at impossible, fun denoted => ?_⟩
    exact absurd denoted (notNatural value)

/-- A number denotes a place exactly when it denotes the natural of that place. -/
theorem below?_eq_some_iff
    {number : Number}
    {extent : Nat}
    {place : Fin extent} :
    number.below? extent = some place ↔ number.toNat? = some place.val := by
  unfold below?
  split
  · rename_i natural denoted
    rw [denoted, Option.some.injEq]
    split
    · rename_i inside
      rw [Option.some.injEq]
      exact ⟨fun same => same ▸ rfl, fun same => Fin.ext same⟩
    · rename_i outside
      refine ⟨fun impossible => by simp at impossible, fun same => ?_⟩
      exact absurd (same ▸ place.isLt) outside
  · rename_i notNatural
    rw [notNatural]
    simp

end Number

end BlockVolume
