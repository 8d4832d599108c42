import Mathlib.Algebra.Ring.Nat
import BlockVolume.Number.Rounding

namespace BlockVolume

/-!
# Rounding of naturals

The naturals among doubles are those with at most 53 significant bits. Rounding
takes a natural to a nearest one of them, or to an infinity if that one needs a
higher exponent than doubles have. The naturals that end there can be told
before rounding: they lie at most half a unit below `2 ^ 1024`.
-/

namespace Number

/-- A natural with at most 53 significant bits. -/
def FitsMantissa (value : Nat) : Prop :=
  2 ^ (value.log2 - 52) ∣ value

/-- How far two naturals are apart. -/
def distance (left right : Nat) : Nat :=
  ((left : Int) - right).natAbs

/-! ## Rounding a ratio -/

section Ratio

variable {numerator denominator : Nat}

/-- Rounding moves a ratio by at most one half. -/
theorem roundHalfEven_bounds
    (numerator : Nat)
    {denominator : Nat}
    (positive : 0 < denominator) :
    2 * (roundHalfEven numerator denominator * denominator) ≤ 2 * numerator + denominator ∧
      2 * numerator ≤ 2 * (roundHalfEven numerator denominator * denominator) + denominator := by
  have split := Nat.div_add_mod numerator denominator
  have remainder := Nat.mod_lt numerator positive
  have above :
      (numerator / denominator + 1) * denominator =
        numerator / denominator * denominator + denominator :=
    Nat.succ_mul _ _
  rw [Nat.mul_comm] at split
  unfold roundHalfEven
  dsimp only
  split
  · omega
  · split
    · omega
    · rcases Nat.mod_two_eq_zero_or_one (numerator / denominator) with even | odd
      · rw [even, Nat.add_zero]
        omega
      · rw [odd]
        omega

/-- No multiple of the denominator is nearer than the rounded one. -/
theorem distance_roundHalfEven_le
    (numerator : Nat)
    {denominator : Nat}
    (positive : 0 < denominator)
    (other : Nat) :
    distance (roundHalfEven numerator denominator * denominator) numerator ≤
      distance (other * denominator) numerator := by
  obtain ⟨notAbove, notBelow⟩ := roundHalfEven_bounds numerator positive
  rcases Nat.lt_trichotomy other (roundHalfEven numerator denominator) with less | same | more
  · have apart := Nat.mul_le_mul_right denominator (Nat.succ_le_of_lt less)
    rw [Nat.succ_mul] at apart
    unfold distance
    omega
  · rw [same]
  · have apart := Nat.mul_le_mul_right denominator (Nat.succ_le_of_lt more)
    rw [Nat.succ_mul] at apart
    unfold distance
    omega

/-- A ratio between two integers stays between them. -/
theorem le_roundHalfEven
    (positive : 0 < denominator)
    {low : Nat}
    (atLeast : low * denominator ≤ numerator) :
    low ≤ roundHalfEven numerator denominator := by
  by_contra below
  have apart := Nat.mul_le_mul_right denominator (Nat.succ_le_of_lt (Nat.lt_of_not_le below))
  have near := (roundHalfEven_bounds numerator positive).2
  rw [Nat.succ_mul] at apart
  omega

theorem roundHalfEven_le
    (positive : 0 < denominator)
    {high : Nat}
    (atMost : numerator ≤ high * denominator) :
    roundHalfEven numerator denominator ≤ high := by
  by_contra above
  have apart := Nat.mul_le_mul_right denominator (Nat.succ_le_of_lt (Nat.lt_of_not_le above))
  have near := (roundHalfEven_bounds numerator positive).1
  rw [Nat.succ_mul] at apart
  omega

/-- A multiple of the denominator is kept. -/
theorem roundHalfEven_mul_of_dvd
    (positive : 0 < denominator)
    (divides : denominator ∣ numerator) :
    roundHalfEven numerator denominator * denominator = numerator := by
  obtain ⟨quotient, rfl⟩ := divides
  rw [Nat.mul_comm denominator, roundHalfEven_mul quotient positive]

/-- A ratio below the successor of an odd integer is rounded to it from the middle on. -/
theorem lt_roundHalfEven_iff_of_odd
    {quotient half : Nat}
    (positive : 0 < half)
    (odd : quotient % 2 = 1)
    (below : numerator < (quotient + 1) * (2 * half)) :
    quotient < roundHalfEven numerator (2 * half) ↔ quotient * (2 * half) + half ≤ numerator := by
  constructor
  · intro leaves
    have near := (roundHalfEven_bounds numerator (Nat.mul_pos Nat.two_pos positive)).1
    have apart := Nat.mul_le_mul_right (2 * half) (Nat.succ_le_of_lt leaves)
    rw [Nat.succ_mul] at apart
    omega
  · intro pastMiddle
    have quotient_eq : numerator / (2 * half) = quotient :=
      Nat.div_eq_of_lt_le (by omega) below
    have split := Nat.div_add_mod numerator (2 * half)
    rw [quotient_eq, Nat.mul_comm] at split
    unfold roundHalfEven
    dsimp only
    rw [quotient_eq, odd, if_neg (by omega)]
    split
    · exact Nat.lt_succ_self quotient
    · exact Nat.lt_succ_self quotient

end Ratio

/-! ## Rounding a natural -/

/-- Every unit has one bit more than the next smaller one. -/
theorem log2_mul_two_pow
    {mantissa : Nat}
    (nonzero : mantissa ≠ 0)
    (exponent : Nat) :
    (mantissa * 2 ^ exponent).log2 = mantissa.log2 + exponent := by
  induction exponent with
  | zero => rw [Nat.pow_zero, Nat.mul_one, Nat.add_zero]
  | succ exponent inductionHypothesis =>
      have positive : mantissa * 2 ^ exponent ≠ 0 :=
        Nat.mul_ne_zero nonzero (Nat.ne_of_gt (Nat.two_pow_pos exponent))
      rw [Nat.pow_succ', Nat.mul_left_comm, Nat.log2_two_mul positive, inductionHypothesis,
        Nat.add_assoc]

/-- The unit that a natural is rounded to. -/
theorem roundNat_eq (value : Nat) :
    roundNat value =
      roundHalfEven value (2 ^ (value.log2 - 52)) * 2 ^ (value.log2 - 52) := by
  simp only [roundNat, Nat.shiftLeft_eq, Nat.one_mul]

/-- The mantissa of a rounded natural has at most 53 bits, or it is the power of two after those. -/
theorem roundHalfEven_unit_le (value : Nat) :
    roundHalfEven value (2 ^ (value.log2 - 52)) ≤ 2 ^ 53 := by
  refine roundHalfEven_le (Nat.two_pow_pos _) ?_
  have below : value < 2 ^ (value.log2 + 1) := Nat.lt_log2_self
  have reaches : 2 ^ (value.log2 + 1) ≤ 2 ^ 53 * 2 ^ (value.log2 - 52) := by
    rw [← Nat.pow_add]
    exact Nat.pow_le_pow_right (by decide) (by omega)
  omega

/-- A number of units that is at most `2 ^ 53` has at most 53 significant bits. -/
theorem fitsMantissa_mul_two_pow
    {mantissa : Nat}
    (atMost : mantissa ≤ 2 ^ 53)
    (exponent : Nat) :
    FitsMantissa (mantissa * 2 ^ exponent) := by
  unfold FitsMantissa
  rcases Nat.eq_or_lt_of_le atMost with same | below
  · rw [same, ← Nat.pow_add, Nat.log2_two_pow]
    exact Nat.pow_dvd_pow 2 (by omega)
  · by_cases zero : mantissa = 0
    · rw [zero, Nat.zero_mul]
      exact Nat.dvd_zero _
    · have bits := (Nat.log2_lt zero).2 below
      rw [log2_mul_two_pow zero]
      exact Nat.dvd_mul_left_of_dvd (Nat.pow_dvd_pow 2 (by omega)) mantissa

/-- A rounded natural is one among doubles. -/
theorem fitsMantissa_roundNat (value : Nat) : FitsMantissa (roundNat value) := by
  rw [roundNat_eq]
  exact fitsMantissa_mul_two_pow (roundHalfEven_unit_le value) _

/-- Exactly the naturals among doubles are kept. -/
theorem roundNat_eq_self_iff (value : Nat) : roundNat value = value ↔ FitsMantissa value := by
  constructor
  · intro kept
    rw [← kept]
    exact fitsMantissa_roundNat value
  · intro fits
    rw [roundNat_eq, roundHalfEven_mul_of_dvd (Nat.two_pow_pos _) fits]

theorem ne_zero_of_lt_log2
    {value bits : Nat}
    (long : bits < value.log2) :
    value ≠ 0 := by
  rintro rfl
  rw [Nat.log2_zero] at long
  exact Nat.not_lt_zero bits long

theorem le_log2_of_two_pow_le
    {value bits : Nat}
    (atLeast : 2 ^ bits ≤ value) :
    bits ≤ value.log2 :=
  (Nat.le_log2 (Nat.ne_of_gt (Nat.lt_of_lt_of_le (Nat.two_pow_pos bits) atLeast))).2 atLeast

/-- A natural with few bits is one among doubles. -/
theorem fitsMantissa_of_log2_le
    {value : Nat}
    (short : value.log2 ≤ 52) :
    FitsMantissa value := by
  rw [FitsMantissa, Nat.sub_eq_zero_of_le short, Nat.pow_zero]
  exact Nat.one_dvd value

theorem roundNat_of_log2_le
    {value : Nat}
    (short : value.log2 ≤ 52) :
    roundNat value = value :=
  (roundNat_eq_self_iff value).2 (fitsMantissa_of_log2_le short)

/-- No natural among doubles is nearer than the rounded one. -/
theorem distance_roundNat_le
    (value : Nat)
    {other : Nat}
    (fits : FitsMantissa other) :
    distance (roundNat value) value ≤ distance other value := by
  by_cases kept : FitsMantissa value
  · rw [(roundNat_eq_self_iff value).2 kept, distance, Int.sub_self]
    exact Nat.zero_le _
  · have bits := Nat.lt_of_not_le (mt fitsMantissa_of_log2_le kept)
    have nearest := distance_roundHalfEven_le value (Nat.two_pow_pos (value.log2 - 52))
    rw [roundNat_eq]
    by_cases below : other < 2 ^ value.log2
    · -- The least natural with as many bits is a multiple of the unit, and it lies between.
      have atLeast : 2 ^ value.log2 ≤ value := Nat.log2_self_le (ne_zero_of_lt_log2 bits)
      have least := nearest (2 ^ 52)
      rw [← Nat.pow_add, Nat.add_sub_cancel' (by omega)] at least
      unfold distance at least ⊢
      omega
    · have moreBits := le_log2_of_two_pow_le (Nat.le_of_not_lt below)
      obtain ⟨units, rfl⟩ : 2 ^ (value.log2 - 52) ∣ other :=
        Nat.dvd_trans (Nat.pow_dvd_pow 2 (by omega)) fits
      rw [Nat.mul_comm _ units]
      exact nearest units

/-! ## Overflow -/

/-- A natural is rounded up to a power of two exactly from half a unit below it on. -/
theorem roundNat_lt_two_pow_iff
    (bits limit value : Nat)
    (gap : bits + 54 = limit) :
    roundNat value < 2 ^ limit ↔ value < 2 ^ limit - 2 ^ bits := by
  subst gap
  have halfPositive : 0 < 2 ^ bits := Nat.two_pow_pos bits
  have limit_eq : 2 ^ (bits + 54) = 2 ^ 53 * (2 * 2 ^ bits) := by
    rw [← Nat.pow_succ', ← Nat.pow_add]
    congr 1
    omega
  have below : value < 2 ^ (value.log2 + 1) := Nat.lt_log2_self
  rw [roundNat_eq]
  rcases Nat.lt_trichotomy value.log2 (bits + 53) with short | atTop | long
  · -- Too few bits: even the largest mantissa stays below.
    have fewer : 2 ^ (value.log2 + 1) ≤ 2 ^ (bits + 53) :=
      Nat.pow_le_pow_right (by decide) (by omega)
    have fewer_eq : 2 ^ (bits + 53) = 2 ^ 53 * 2 ^ bits := by
      rw [← Nat.pow_add, Nat.add_comm]
    have unit_le : 2 ^ (value.log2 - 52) ≤ 2 ^ bits :=
      Nat.pow_le_pow_right (by decide) (by omega)
    have rounded := Nat.mul_le_mul (roundHalfEven_unit_le value) unit_le
    omega
  · -- The mantissa right below the power is odd.
    have unit_eq : 2 ^ (value.log2 - 52) = 2 * 2 ^ bits := by
      rw [atTop, ← Nat.pow_succ']
      congr 1
    have inside : value < (2 ^ 53 - 1 + 1) * (2 * 2 ^ bits) := by
      rw [atTop] at below
      exact Nat.lt_of_lt_of_eq below limit_eq
    have leaves := lt_roundHalfEven_iff_of_odd halfPositive (by decide) inside
    rw [unit_eq, limit_eq, Nat.mul_lt_mul_right (Nat.mul_pos Nat.two_pos halfPositive)]
    omega
  · -- Too many bits: even the smallest mantissa is beyond.
    have atLeast : 2 ^ value.log2 ≤ value := Nat.log2_self_le (ne_zero_of_lt_log2 long)
    have more : 2 ^ (bits + 54) ≤ 2 ^ value.log2 := Nat.pow_le_pow_right (by decide) (by omega)
    have least_eq : 2 ^ 52 * 2 ^ (value.log2 - 52) = 2 ^ value.log2 := by
      rw [← Nat.pow_add, Nat.add_sub_cancel' (by omega)]
    have rounded := Nat.mul_le_mul_right (2 ^ (value.log2 - 52))
      (le_roundHalfEven (Nat.two_pow_pos _) (Nat.le_trans (Nat.le_of_eq least_eq) atLeast))
    omega

/-! ## Doubles -/

/-- The highest bit of a natural as a ratio. -/
theorem topExponent_one
    {value : Nat}
    (nonzero : value ≠ 0) :
    topExponent value 1 = value.log2 := by
  have guess : (value.log2 : Int) - (Nat.log2 1 : Nat) = (value.log2 : Nat) := Int.sub_zero _
  have atLeast : ¬ value < 1 <<< value.log2 := by
    rw [Nat.one_shiftLeft]
    exact Nat.not_lt.2 (Nat.log2_self_le nonzero)
  unfold topExponent
  rw [guess]
  exact if_neg atLeast

/-- The double of a natural, once its exponent and what that leaves to round are known. -/
theorem nearest_of_rescaled
    {value numerator denominator : Nat}
    {exponent : Int}
    (nonzero : value ≠ 0)
    (exponent_eq : max ((value.log2 : Int) - 52) (-1074) = exponent)
    (rescaled : rescale value 1 exponent = (numerator, denominator)) :
    nearest false value 1 =
      if 1024 ≤ exponent + (roundHalfEven numerator denominator).log2 then
        .infinity false
      else
        .finite false (roundHalfEven numerator denominator) exponent := by
  rw [nearest, if_neg nonzero, topExponent_one nonzero]
  simp only [exponent_eq, rescaled]

/-- A whole number of units is the natural that it multiplies to. -/
theorem toNat?_units (mantissa exponent : Nat) :
    (finite false mantissa exponent).toNat? = some (mantissa * 2 ^ exponent) := by
  rw [← Nat.shiftLeft_eq]
  rfl

/-- A natural with many bits keeps the first of them. -/
theorem nearest_of_long
    {value : Nat}
    (nonzero : value ≠ 0)
    (long : 52 ≤ value.log2) :
    nearest false value 1 =
      if 2 ^ 1024 ≤ roundNat value then
        .infinity false
      else
        .finite false (roundHalfEven value (2 ^ (value.log2 - 52))) (value.log2 - 52 : Nat) := by
  have exponent_eq : max ((value.log2 : Int) - 52) (-1074) = (value.log2 - 52 : Nat) := by omega
  have rescaled :
      rescale value 1 ((value.log2 - 52 : Nat) : Int) = (value, 2 ^ (value.log2 - 52)) := by
    rw [← Nat.one_shiftLeft]
    rfl
  have mantissaNonzero : roundHalfEven value (2 ^ (value.log2 - 52)) ≠ 0 := by
    have least : 1 * 2 ^ (value.log2 - 52) ≤ value := by
      rw [Nat.one_mul]
      exact Nat.le_trans (Nat.pow_le_pow_right (by decide) (Nat.sub_le _ _))
        (Nat.log2_self_le nonzero)
    exact Nat.ne_of_gt (le_roundHalfEven (Nat.two_pow_pos _) least)
  rw [nearest_of_rescaled nonzero exponent_eq rescaled, roundNat_eq]
  refine if_congr ?_ rfl rfl
  have roundedNonzero :=
    Nat.mul_ne_zero mantissaNonzero (Nat.ne_of_gt (Nat.two_pow_pos (value.log2 - 52)))
  rw [← Nat.le_log2 roundedNonzero, log2_mul_two_pow mantissaNonzero]
  omega

/-- A natural with few bits keeps all of them. -/
theorem toNat?_nearest_of_short
    {value : Nat}
    (nonzero : value ≠ 0)
    (short : value.log2 < 52) :
    (nearest false value 1).toNat? = some value := by
  obtain ⟨missing, sum⟩ : ∃ missing, value.log2 + (missing + 1) = 52 := ⟨51 - value.log2, by omega⟩
  have exponent_eq : max ((value.log2 : Int) - 52) (-1074) = Int.negSucc missing := by omega
  have rescaled :
      rescale value 1 (Int.negSucc missing) = (value <<< (missing + 1), 1) := rfl
  have bits : (value <<< (missing + 1)).log2 = 52 := by
    rw [Nat.shiftLeft_eq, log2_mul_two_pow nonzero, sum]
  rw [nearest_of_rescaled nonzero exponent_eq rescaled, roundHalfEven_one, bits, if_neg (by omega)]
  simp [toNat?, toInt?, isIntegral, integralPart, signed, Nat.shiftLeft_shiftRight]

/-- The double of a natural that does not overflow is the rounded natural. -/
theorem toNat?_nearest
    {value : Nat}
    (inside : value < 2 ^ 1024 - 2 ^ 970) :
    (nearest false value 1).toNat? = some (roundNat value) := by
  by_cases zero : value = 0
  · rw [zero]
    rfl
  · by_cases long : 52 ≤ value.log2
    · have rounded := (roundNat_lt_two_pow_iff 970 1024 value rfl).2 inside
      rw [nearest_of_long zero long, if_neg (Nat.not_le_of_lt rounded), toNat?_units, ← roundNat_eq]
    · rw [toNat?_nearest_of_short zero (Nat.lt_of_not_le long),
        roundNat_of_log2_le (by omega)]

/-- The double of any other natural is an infinity. -/
theorem nearest_of_overflow
    {value : Nat}
    (tooLarge : 2 ^ 1024 - 2 ^ 970 ≤ value) :
    nearest false value 1 = .infinity false := by
  have beyond : 2 ^ 1024 ≤ roundNat value :=
    Nat.le_of_not_lt (mt (roundNat_lt_two_pow_iff 970 1024 value rfl).1 (Nat.not_lt_of_le tooLarge))
  have long : 52 < value.log2 := by
    by_contra short
    have few := Nat.le_of_not_lt short
    rw [roundNat_of_log2_le few] at beyond
    exact absurd (Nat.le_trans (le_log2_of_two_pow_le beyond) few) (by decide)
  rw [nearest_of_long (ne_zero_of_lt_log2 long) (Nat.le_of_lt long), if_pos beyond]

end Number

end BlockVolume
