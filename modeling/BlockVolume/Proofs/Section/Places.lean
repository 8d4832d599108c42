import BlockVolume.Section

namespace BlockVolume

/-!
# Places in a section

Three numbers address a block when each is an integer from 0 to 15. Different
places have different blocks, and every block has a place.
-/

namespace Section

/-- A place in a section. -/
structure Place where
  column : Fin side
  level : Fin side
  row : Fin side
  deriving Repr, DecidableEq

/-- The place that three numbers address, if all of them are integers from 0 to 15. -/
def place? (x y z : Number) : Option Place :=
  match x.below? side, y.below? side, z.below? side with
  | some column, some level, some row => some { column, level, row }
  | _, _, _ => none

namespace Place

/-- The number of the block at a place. -/
def cell (place : Place) : Nat :=
  cellAt place.column place.level place.row

/-- The place of a block. -/
def ofCell (cell : Nat) (inside : cell < cellCount) : Place where
  column := ⟨cell % 16, Nat.mod_lt _ (by decide)⟩
  level := ⟨cell / 256, Nat.div_lt_of_lt_mul inside⟩
  row := ⟨cell / 16 % 16, Nat.mod_lt _ (by decide)⟩

theorem cell_lt (place : Place) : place.cell < cellCount := by
  have column := place.column.isLt
  have level := place.level.isLt
  have row := place.row.isLt
  unfold cell cellAt cellCount
  unfold side at column level row
  omega

/-- Different places have different blocks. -/
theorem cell_injective
    {left right : Place}
    (sameCell : left.cell = right.cell) :
    left = right := by
  obtain ⟨leftColumn, leftLevel, leftRow⟩ := left
  obtain ⟨rightColumn, rightLevel, rightRow⟩ := right
  simp only [cell, cellAt] at sameCell
  have leftColumnBelow := leftColumn.isLt
  have leftRowBelow := leftRow.isLt
  have rightColumnBelow := rightColumn.isLt
  have rightRowBelow := rightRow.isLt
  unfold side at leftColumnBelow leftRowBelow rightColumnBelow rightRowBelow
  simp only [Place.mk.injEq, Fin.ext_iff]
  omega

@[simp]
theorem cell_ofCell
    {cell : Nat}
    (inside : cell < cellCount) :
    (ofCell cell inside).cell = cell := by
  simp only [Place.cell, ofCell, cellAt]
  omega

end Place

/-- The place of a block is addressed by its coordinates. -/
theorem place?_ofCell
    {cell : Nat}
    (inside : cell < cellCount) :
    place? (.ofNat (cell % 16)) (.ofNat (cell / 256)) (.ofNat (cell / 16 % 16)) =
      some (.ofCell cell inside) := by
  have below : ∀ coordinate : Fin side,
      (Number.ofNat coordinate.val).below? side = some coordinate :=
    fun coordinate => Number.below?_eq_some_iff.2 (Number.toNat?_ofNat _)
  have column := below (Place.ofCell cell inside).column
  have level := below (Place.ofCell cell inside).level
  have row := below (Place.ofCell cell inside).row
  simp only [Place.ofCell] at column level row
  simp only [place?, column, level, row, Place.ofCell]

/-- Numbers that address a place are accepted. -/
theorem cellIndex_of_place
    {x y z : Number}
    {place : Place}
    (addressed : place? x y z = some place) :
    cellIndex x y z = .ok place.cell := by
  unfold place? at addressed
  split at addressed
  · rename_i column level row columnFound levelFound rowFound
    cases addressed
    simp only [cellIndex, checkAxis, columnFound, levelFound, rowFound]
    rfl
  · cases addressed

/-- Other numbers are refused as an index out of bounds. -/
theorem cellIndex_of_outside
    {x y z : Number}
    (outside : place? x y z = none) :
    ∃ cause, cellIndex x y z = .error cause ∧ cause.failure.kind = .index := by
  unfold place? at outside
  cases columnFound : x.below? side with
  | none =>
      refine ⟨.offAxis .x x, ?_, rfl⟩
      simp only [cellIndex, checkAxis, columnFound]
      rfl
  | some column =>
      cases levelFound : y.below? side with
      | none =>
          refine ⟨.offAxis .y y, ?_, rfl⟩
          simp only [cellIndex, checkAxis, columnFound, levelFound]
          rfl
      | some level =>
          cases rowFound : z.below? side with
          | none =>
              refine ⟨.offAxis .z z, ?_, rfl⟩
              simp only [cellIndex, checkAxis, columnFound, levelFound, rowFound]
              rfl
          | some row =>
              rw [columnFound, levelFound, rowFound] at outside
              cases outside

end Section

end BlockVolume
