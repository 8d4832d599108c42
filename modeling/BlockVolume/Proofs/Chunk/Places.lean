import BlockVolume.Chunk
import BlockVolume.Proofs.Section.Places

namespace BlockVolume

/-!
# Places in a chunk

Three numbers address a block of a chunk when they are integers within its
extents. Sixteen levels after each other share a slot, and a place is known by
its slot and its place in the section there.
-/

namespace Chunk

/-- A place in a chunk. -/
structure Place where
  column : Fin width
  level : Fin height
  row : Fin depth
  deriving Repr, DecidableEq

/-- The place that three numbers address, if all of them are integers within the extents. -/
def place? (x y z : Number) : Option Place :=
  match x.below? width, y.below? height, z.below? depth with
  | some column, some level, some row => some { column, level, row }
  | _, _, _ => none

namespace Place

/-- The slot of a place. -/
def slot (place : Place) : Fin 16 :=
  slotOf place.level

/-- The place in the section of that slot. -/
def inner (place : Place) : Section.Place where
  column := place.column
  level := ⟨place.level.val % Section.side, Nat.mod_lt _ (by decide)⟩
  row := place.row

/-- The number of the block in that section. -/
def cell (place : Place) : Nat :=
  place.inner.cell

theorem cell_lt (place : Place) : place.cell < Section.cellCount :=
  place.inner.cell_lt

/-- Different places of one slot have different blocks. -/
theorem eq_of_cell_eq
    {left right : Place}
    (sameSlot : left.slot = right.slot)
    (sameCell : left.cell = right.cell) :
    left = right := by
  have sameInner : left.inner = right.inner := Section.Place.cell_injective sameCell
  have sameColumn : left.column = right.column := congrArg Section.Place.column sameInner
  have sameRow : left.row = right.row := congrArg Section.Place.row sameInner
  have sameQuotient : left.level.val / Section.side = right.level.val / Section.side :=
    congrArg Fin.val sameSlot
  have sameRest : left.level.val % Section.side = right.level.val % Section.side :=
    congrArg (·.level.val) sameInner
  have sameLevel : left.level = right.level := by
    rw [Fin.ext_iff, ← Nat.div_add_mod left.level.val Section.side, sameQuotient, sameRest,
      Nat.div_add_mod]
  cases left
  cases right
  cases sameColumn
  cases sameLevel
  cases sameRow
  rfl

/-- The slot of a place is known by the sixteen levels it takes up. -/
theorem slot_eq_iff {place : Place} {index : Nat} :
    place.slot.val = index ↔
      Section.side * index ≤ place.level ∧ place.level < Section.side * index + Section.side := by
  change place.level.val / Section.side = index ↔ _
  unfold Section.side
  omega

/-- The place of a slot that has a given place in the section there. -/
def ofInner (slot : Fin 16) (inner : Section.Place) : Place where
  column := inner.column
  level := ⟨Section.side * slot + inner.level, by
    have below := inner.level.isLt
    unfold Section.side at below ⊢
    unfold height
    omega⟩
  row := inner.row

@[simp]
theorem slot_ofInner (slot : Fin 16) (inner : Section.Place) :
    (ofInner slot inner).slot = slot := by
  refine Fin.ext ?_
  change (Section.side * slot.val + inner.level.val) / Section.side = slot.val
  rw [Nat.mul_add_div (by decide), Nat.div_eq_of_lt inner.level.isLt, Nat.add_zero]

@[simp]
theorem inner_ofInner (slot : Fin 16) (inner : Section.Place) :
    (ofInner slot inner).inner = inner := by
  have sameLevel :
      (Section.side * slot.val + inner.level.val) % Section.side = inner.level.val := by
    rw [Nat.mul_add_mod, Nat.mod_eq_of_lt inner.level.isLt]
  simp only [Place.inner, ofInner, sameLevel]

end Place

/-- A place is addressed by its coordinates. -/
theorem place?_ofPlace (place : Place) :
    place? (.ofNat place.column) (.ofNat place.level) (.ofNat place.row) = some place := by
  have column := Number.below?_eq_some_iff.2 (Number.toNat?_ofNat place.column.val)
  have level := Number.below?_eq_some_iff.2 (Number.toNat?_ofNat place.level.val)
  have row := Number.below?_eq_some_iff.2 (Number.toNat?_ofNat place.row.val)
  simp only [place?, column, level, row]

/-- Numbers that address a place lead to its slot and its block. -/
theorem locate_of_place
    {x y z : Number}
    {place : Place}
    (addressed : place? x y z = some place) :
    locate x y z = .ok (place.slot, place.cell) := by
  unfold place? at addressed
  split at addressed
  · rename_i column level row columnFound levelFound rowFound
    cases addressed
    simp only [locate, columnFound, levelFound, rowFound]
    rfl
  · cases addressed

/-- Other numbers are refused. -/
theorem locate_of_outside
    {x y z : Number}
    (outside : place? x y z = none) :
    locate x y z = .error (.outsideChunk x y z) := by
  unfold place? at outside
  unfold locate
  cases columnFound : x.below? width with
  | none => rfl
  | some column =>
      cases levelFound : y.below? height with
      | none => rfl
      | some level =>
          cases rowFound : z.below? depth with
          | none => rfl
          | some row =>
              rw [columnFound, levelFound, rowFound] at outside
              cases outside

end Chunk

end BlockVolume
