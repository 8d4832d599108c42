import BlockVolume.Proofs.Storage.Bits
import BlockVolume.Proofs.Storage.Positions

namespace BlockVolume

/-!
# Cells of a packed array

A packed array stands for a list of naturals with a bound; `Represents` says
which one. Each operation has one lemma here that says what it does to that
list, so no later proof opens a store.
-/

namespace PackedArray

variable {layout : Layout}

/-- An array whose bound is an admissible one and whose store holds all its cells. -/
structure Stored (array : PackedArray layout) : Prop where
  bound_le : array.maxValue ≤ maxCellValue
  enough : layout.limbsNeeded array.size array.width ≤ array.limbs.size

/-- An array that shows a bound and the values of a list. -/
structure Represents
    (array : PackedArray layout)
    (bound : Nat)
    (values : List Nat) :
    Prop where
  stored : array.Stored
  maxValue_eq : array.maxValue = bound
  values_eq : array.values = values

/-- An array that stores all its cells shows them. -/
theorem Stored.represents
    {array : PackedArray layout}
    (stored : array.Stored) :
    array.Represents array.maxValue array.values where
  stored := stored
  maxValue_eq := rfl
  values_eq := rfl

/-! ## Single cells -/

theorem width_pos (array : PackedArray layout) : 0 < array.width :=
  bitsNeeded_pos array.maxValue

/-- A cell is narrower than half a word. -/
theorem width_le
    {array : PackedArray layout}
    (bounded : array.maxValue ≤ maxCellValue) :
    array.width ≤ 31 := by
  have widest : bitsNeeded maxCellValue = 31 := by decide
  rw [← widest]
  exact bitsNeeded_mono bounded

namespace Stored

variable {array : PackedArray layout}

/-- A cell fits into a word. -/
theorem width_fits (stored : array.Stored) : array.width ≤ Layout.wordBits :=
  Nat.le_trans (width_le stored.bound_le) (by decide)

/-- Every cell lies in the store. -/
theorem position_add_le
    (stored : array.Stored)
    {index : Nat}
    (inside : index < array.size) :
    layout.position array.width index + array.width ≤ array.limbs.size * layout.limbBits :=
  Nat.le_trans
    (layout.position_add_le_limbsNeeded array.width_pos stored.width_fits inside)
    (Nat.mul_le_mul_right _ stored.enough)

end Stored

theorem cell_lt
    (array : PackedArray layout)
    (index : Nat) :
    array.cell index < 2 ^ array.width :=
  Limbs.read_lt layout.limbBits_pos _ _ _

/-- A value within the bound fits into a cell. -/
theorem lt_two_pow_width
    {array : PackedArray layout}
    {value : Nat}
    (within : value ≤ array.maxValue) :
    value < 2 ^ array.width :=
  Nat.lt_of_lt_of_le (lt_two_pow_bitsNeeded value)
    (Nat.pow_le_pow_right (by decide) (bitsNeeded_mono within))

/-- A cell after a write: the written value in its place, and every other cell as it was. -/
theorem cell_setCell
    {array : PackedArray layout}
    (stored : array.Stored)
    {index other value : Nat}
    (inside : index < array.size)
    (otherInside : other < array.size)
    (fits : value < 2 ^ array.width) :
    (array.setCell index value).cell other = if index = other then value else array.cell other := by
  have positive := layout.limbBits_pos
  have widthPositive := array.width_pos
  have widthFits := stored.width_fits
  apply Nat.eq_of_testBit_eq
  intro bit
  have written :
      ((array.setCell index value).cell other).testBit bit =
        (decide (bit < array.width) &&
          if layout.position array.width index ≤ layout.position array.width other + bit ∧
              layout.position array.width other + bit <
                layout.position array.width index + array.width then
            value.testBit
              (layout.position array.width other + bit - layout.position array.width index)
          else
            Limbs.bit array.limbs (layout.position array.width other + bit)) := by
    have sameWidth : (array.setCell index value).width = array.width := rfl
    rw [cell, sameWidth, Limbs.testBit_read positive]
    rw [setCell, Limbs.bit_write positive array.limbs widthPositive (stored.position_add_le inside)]
  rw [written]
  -- A bit of another cell is outside the written range, since cells lie apart.
  by_cases same : index = other
  · subst same
    rw [if_pos rfl]
    by_cases inWidth : bit < array.width
    · simp [inWidth]
    · have clear := testBit_of_fits fits (Nat.le_of_not_lt inWidth)
      simp [inWidth, clear]
  · rw [if_neg same, cell, Limbs.testBit_read positive]
    by_cases inWidth : bit < array.width
    · have apart :
          ¬ (layout.position array.width index ≤ layout.position array.width other + bit ∧
              layout.position array.width other + bit <
                layout.position array.width index + array.width) := by
        rcases Nat.lt_or_gt_of_ne same with before | after
        · have := layout.position_add_le_of_lt widthPositive widthFits before
          omega
        · have := layout.position_add_le_of_lt widthPositive widthFits after
          omega
      rw [if_neg apart]
    · simp [inWidth]

/-! ## The list of values -/

/-- The value at a place of the list is the cell of that place. -/
theorem getElem?_values
    (array : PackedArray layout)
    (index : Nat) :
    array.values[index]? = if index < array.size then some (array.cell index) else none := by
  by_cases inside : index < array.size
  · simp [values, inside]
  · simp [values, inside]

/-- A write keeps the store as long as it was. -/
theorem Stored.setCell
    {array : PackedArray layout}
    (stored : array.Stored)
    (index value : Nat) :
    (array.setCell index value).Stored where
  bound_le := stored.bound_le
  enough := by
    have sameSize : (array.setCell index value).limbs.size = array.limbs.size :=
      Limbs.size_write _ _ _ _
    rw [sameSize]
    exact stored.enough

theorem cell_zeros (layout : Layout) (size bound index : Nat) :
    (zeros layout size bound).cell index = 0 := by
  apply Nat.eq_of_testBit_eq
  intro bit
  have clear : ∀ place, Limbs.bit (zeros layout size bound).limbs place = false := by
    intro place
    simp only [Limbs.bit, zeros, Array.getD_eq_getD_getElem?, Array.getElem?_replicate]
    split <;> simp
  rw [cell, Limbs.testBit_read layout.limbBits_pos, clear]
  simp

/-- A new array shows zeros. -/
theorem represents_zeros
    (layout : Layout)
    (size : Nat)
    {bound : Nat}
    (admissible : bound ≤ maxCellValue) :
    (zeros layout size bound).Represents bound (List.replicate size 0) where
  stored :=
    { bound_le := admissible
      enough := by simp [zeros, width] }
  maxValue_eq := rfl
  values_eq := by
    rw [List.eq_replicate_iff]
    refine ⟨length_values _, ?_⟩
    intro value member
    obtain ⟨index, -, rfl⟩ := List.mem_map.1 member
    exact cell_zeros layout size bound index

namespace Represents

variable {array : PackedArray layout} {bound : Nat} {values : List Nat}

theorem length_eq (shows : array.Represents bound values) : values.length = array.size := by
  rw [← shows.values_eq, length_values]

theorem cell_eq
    (shows : array.Represents bound values)
    {index : Nat}
    (inside : index < values.length) :
    array.cell index = values[index] := by
  have read := array.getElem?_values index
  rw [shows.values_eq, if_pos (shows.length_eq ▸ inside), List.getElem?_eq_getElem inside] at read
  exact (Option.some.inj read).symm

/-- Writing a cell sets the value at its place. -/
theorem setCell
    (shows : array.Represents bound values)
    {index value : Nat}
    (inside : index < values.length)
    (within : value ≤ bound) :
    (array.setCell index value).Represents bound (values.set index value) where
  stored := shows.stored.setCell index value
  maxValue_eq := shows.maxValue_eq
  values_eq := by
    have insideArray : index < array.size := shows.length_eq ▸ inside
    have fits : value < 2 ^ array.width :=
      lt_two_pow_width (by rw [shows.maxValue_eq]; exact within)
    apply List.ext_getElem?
    intro place
    rw [getElem?_values, size_setCell, List.getElem?_set, ← shows.values_eq]
    by_cases placeInside : place < array.size
    · rw [if_pos placeInside, cell_setCell shows.stored insideArray placeInside fits,
        array.getElem?_values, if_pos placeInside, length_values]
      by_cases same : index = place
      · rw [if_pos same, if_pos same, if_pos insideArray]
      · rw [if_neg same, if_neg same]
    · have different : index ≠ place := by omega
      rw [if_neg placeInside, if_neg different, array.getElem?_values, if_neg placeInside]

end Represents

end PackedArray

end BlockVolume
