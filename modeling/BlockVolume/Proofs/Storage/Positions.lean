import Mathlib.Algebra.Ring.Nat
import BlockVolume.Storage.PackedArray

namespace BlockVolume

/-!
# Where cells lie

The bit ranges of two cells never meet and all of them lie inside the store, in
both layouts and for every width up to a word. A cell is wide enough for every
value within the bound, and a wider cell for every value of a narrower one.
-/

namespace Layout

variable {layout : Layout} {size width : Nat}

theorem limbBits_pos (layout : Layout) : 0 < layout.limbBits := by
  cases layout <;> decide

/-- A rounded-up quotient times its divisor covers the dividend. -/
theorem le_ceilDiv_mul
    (dividend : Nat)
    (divisor : Nat)
    (positive : 0 < divisor) :
    dividend ≤ ceilDiv dividend divisor * divisor := by
  have split := Nat.div_add_mod' (dividend + divisor - 1) divisor
  have remainder := Nat.mod_lt (dividend + divisor - 1) positive
  unfold ceilDiv
  omega

theorem cellsPerWord_pos
    (positive : 0 < width)
    (fits : width ≤ wordBits) :
    0 < cellsPerWord width :=
  Nat.div_pos fits positive

/-- The cells of a word do not reach beyond it. -/
theorem mul_cellsPerWord_le (width : Nat) : width * cellsPerWord width ≤ wordBits :=
  Nat.mul_div_le wordBits width

/-- The last bit of a cell of the padded layout lies in the word where the cell starts. -/
theorem padded_cell_in_word
    (positive : 0 < width)
    (fits : width ≤ wordBits)
    (index : Nat) :
    width * (index % cellsPerWord width) + width ≤ wordBits := by
  have below := Nat.mod_lt index (cellsPerWord_pos positive fits)
  calc width * (index % cellsPerWord width) + width
      = width * (index % cellsPerWord width + 1) := (Nat.mul_succ _ _).symm
    _ ≤ width * cellsPerWord width := Nat.mul_le_mul_left _ below
    _ ≤ wordBits := mul_cellsPerWord_le width

/-- A cell ends where the next one starts, or before. -/
theorem position_add_le_of_lt
    (layout : Layout)
    (positive : 0 < width)
    (fits : width ≤ wordBits)
    {first second : Nat}
    (before : first < second) :
    layout.position width first + width ≤ layout.position width second := by
  cases layout with
  | padded =>
      have inWord := padded_cell_in_word positive fits first
      have firstSplit := Nat.div_add_mod first (cellsPerWord width)
      have secondSplit := Nat.div_add_mod second (cellsPerWord width)
      simp only [position]
      rcases Nat.lt_or_ge (first / cellsPerWord width) (second / cellsPerWord width)
        with earlier | notEarlier
      · have nextWord := Nat.mul_le_mul_left wordBits earlier
        rw [Nat.mul_succ] at nextWord
        omega
      · have sameWord : first / cellsPerWord width = second / cellsPerWord width :=
          Nat.le_antisymm (Nat.div_le_div_right (Nat.le_of_lt before)) notEarlier
        rw [sameWord] at firstSplit ⊢
        have earlierInWord : first % cellsPerWord width < second % cellsPerWord width := by omega
        have nextCell := Nat.mul_le_mul_left width earlierInWord
        rw [Nat.mul_succ] at nextCell
        omega
  | contiguous =>
      simp only [position]
      have nextCell := Nat.mul_le_mul_left width before
      rw [Nat.mul_succ] at nextCell
      exact nextCell

/-- Every cell of the padded layout starts in one of the words that an array of so many cells needs. -/
theorem word_lt_wordsNeeded
    (positive : 0 < width)
    (fits : width ≤ wordBits)
    {index : Nat}
    (inside : index < size) :
    index / cellsPerWord width < wordsNeeded size width := by
  have covered := le_ceilDiv_mul size _ (cellsPerWord_pos positive fits)
  apply Nat.div_lt_of_lt_mul
  rw [Nat.mul_comm]
  exact Nat.lt_of_lt_of_le inside covered

/-- Every cell lies in the limbs that an array of so many cells needs. -/
theorem position_add_le_limbsNeeded
    (layout : Layout)
    (positive : 0 < width)
    (fits : width ≤ wordBits)
    {index : Nat}
    (inside : index < size) :
    layout.position width index + width ≤ layout.limbsNeeded size width * layout.limbBits := by
  cases layout with
  | padded =>
      have inWord := padded_cell_in_word positive fits index
      have wordBelow := word_lt_wordsNeeded positive fits inside
      have nextWord := Nat.mul_le_mul_left wordBits wordBelow
      rw [Nat.mul_succ] at nextWord
      simp only [position, limbsNeeded, limbBits]
      simp only [wordBits] at *
      omega
  | contiguous =>
      have nextCell := Nat.mul_le_mul_left width inside
      rw [Nat.mul_succ, Nat.mul_comm width size] at nextCell
      have covered := le_ceilDiv_mul (size * width) 8 (by decide)
      simp only [position, limbsNeeded, bytesNeeded, limbBits]
      omega

end Layout

/-- A value is below the power of two of the bits that it needs. -/
theorem lt_two_pow_bitsNeeded (value : Nat) : value < 2 ^ bitsNeeded value := by
  have := lt_shift_bitsNeeded value
  rwa [Nat.one_shiftLeft] at this

/-- A value of a smaller width is below every bound of a larger width. -/
theorem le_of_lt_two_pow_of_lt_bitsNeeded
    {value width bound : Nat}
    (below : value < 2 ^ width)
    (narrower : width < bitsNeeded bound) :
    value ≤ bound := by
  by_cases zero : bound = 0
  · subst zero
    have noBits : width = 0 := by
      simp only [bitsNeeded, Nat.log2_zero] at narrower
      omega
    subst noBits
    exact Nat.le_of_lt_succ below
  · have reached : 2 ^ bound.log2 ≤ bound := Nat.log2_self_le zero
    have shorter : 2 ^ width ≤ 2 ^ bound.log2 := by
      unfold bitsNeeded at narrower
      exact Nat.pow_le_pow_right (by decide) (by omega)
    omega

end BlockVolume
