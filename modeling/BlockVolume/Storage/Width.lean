import BlockVolume.Number.Basic

namespace BlockVolume

/-!
# Widths of cells

A cell holds a natural below a bound, in the fewest bits that the bound needs
and never in none. Both functions also exist for numbers as callers hand them
in, which count modulo `2 ^ 32`.
-/

/-- The bits that a value needs, at least one. -/
def bitsNeeded (value : Nat) : Nat :=
  value.log2 + 1

/-- The number whose `width` lowest bits are set. -/
def lowMask (width : Nat) : Nat :=
  1 <<< width - 1

/-- The largest bound a packed array may have. -/
def maxCellValue : Nat := 2147483647

namespace Number

/-- The bits that a number's residue modulo `2 ^ 32` needs. -/
def bitsNeeded (value : Number) : Nat :=
  BlockVolume.bitsNeeded value.wrap32

/-- The mask of a width; from 32 on all 32 bits are set, and other widths count modulo 32. -/
def lowMask (width : Number) : Nat :=
  if Number.le 32 width then
    BlockVolume.lowMask 32
  else
    BlockVolume.lowMask (width.wrap32 % 32)

end Number

/-- Masking keeps the residue modulo a power of two. -/
theorem and_lowMask (value width : Nat) : value &&& lowMask width = value % 1 <<< width := by
  rw [lowMask, Nat.one_shiftLeft, Nat.and_two_pow_sub_one_eq_mod]

/-- At least one bit is needed. -/
theorem bitsNeeded_pos (value : Nat) : 0 < bitsNeeded value :=
  Nat.succ_pos _

/-- A value fits into the bits that it needs. -/
theorem lt_shift_bitsNeeded (value : Nat) : value < 1 <<< bitsNeeded value := by
  rw [Nat.one_shiftLeft]
  exact Nat.lt_log2_self

/-- The bits needed grow with the value. -/
theorem bitsNeeded_mono
    {smaller larger : Nat}
    (atMost : smaller ≤ larger) :
    bitsNeeded smaller ≤ bitsNeeded larger := by
  unfold bitsNeeded
  by_cases zero : smaller = 0
  · simp [zero]
  · have power := Nat.log2_self_le zero
    have nonzero : larger ≠ 0 := by omega
    have := (Nat.le_log2 nonzero).2 (Nat.le_trans power atMost)
    omega

end BlockVolume
