import BlockVolume.Proofs.Chunk.Blocks
import BlockVolume.Proofs.Section.Emptiness

namespace BlockVolume

/-!
# Empty chunks

The slots of a chunk are absent, empty or filled, and a slot is filled exactly
when some block of it differs from the default state: the sections have the
default state of the chunk, and what is absent shows it as well.
-/

namespace Section

variable {slab : Section} {slot : Fin 16} {keys : Chunk.Place → String}

/-- A section is empty exactly when it shows its default state at every place of its slot. -/
theorem ShowsSlot.isEmpty_iff (shows : slab.ShowsSlot slot keys) :
    slab.isEmpty = true ↔
      ∀ place : Chunk.Place, place.slot = slot → keys place = slab.defaultState.key := by
  obtain ⟨row, showsRow, found⟩ := shows
  rw [showsRow.isEmpty_iff]
  constructor
  · intro allDefault place inSlot
    exact allDefault _ (List.mem_of_getElem? (found place inSlot))
  · intro allDefault key member
    obtain ⟨cell, inside, rfl⟩ := List.getElem_of_mem member
    let inner := Place.ofCell cell (showsRow.length_eq ▸ inside)
    have here := found (.ofInner slot inner) (Chunk.Place.slot_ofInner slot inner)
    rw [Chunk.Place.cell, Chunk.Place.inner_ofInner, Place.cell_ofCell,
      List.getElem?_eq_getElem inside, Option.some.injEq] at here
    rw [here]
    exact allDefault _ (Chunk.Place.slot_ofInner slot inner)

end Section

namespace Chunk

/-! ## Rows of occupancies -/

section Rows

variable {occupancies : List Occupancy}

/-- The filled indices are the places of filled occupancies. -/
theorem mem_filledIndices_iff {index : Nat} :
    index ∈ filledIndices occupancies ↔ occupancies[index]? = some .filled := by
  rw [filledIndices, List.mem_filterMap]
  constructor
  · rintro ⟨⟨occupancy, place⟩, member, taken⟩
    cases occupancy <;> cases taken
    exact List.mem_zipIdx_iff_getElem?.1 member
  · intro listed
    exact ⟨(.filled, index), List.mem_zipIdx_iff_getElem?.2 listed, rfl⟩

/-- The filled indices are in strictly ascending order, so each is listed once. -/
theorem filledIndices_ascending (occupancies : List Occupancy) :
    (filledIndices occupancies).Pairwise (· < ·) := by
  have ascending : occupancies.zipIdx.Pairwise fun left right => left.2 < right.2 := by
    rw [← List.pairwise_map (f := Prod.snd), List.zipIdx_map_snd]
    exact List.pairwise_lt_range'
  refine List.Pairwise.filterMap _ ?_ ascending
  rintro ⟨left, leftIndex⟩ ⟨right, rightIndex⟩ before first takenFirst second takenSecond
  cases left <;> cases takenFirst
  cases right <;> cases takenSecond
  exact before

end Rows

variable {chunk : Chunk Section} {keys : Place → String} {index : Number} {slot : Fin 16}

/-- The occupancy at the place of a slot is that of its content. -/
theorem getElem?_occupancies
    {Slot : Type}
    (chunk : Chunk Slot)
    (isEmpty : Slot → Bool)
    (slot : Fin 16) :
    (chunk.occupancies isEmpty)[slot.val]? = some (occupancyOf isEmpty (chunk.content slot)) := by
  simp [occupancies, content]

/-- A chunk is empty when no section of it is filled. -/
theorem isEmpty_iff_nonEmptySections (chunk : Chunk Section) :
    chunk.isEmpty = true ↔ ∀ index, index ∉ chunk.nonEmptySections := by
  rw [isEmpty, List.all_eq_true]
  simp only [nonEmptySections, mem_filledIndices_iff]
  constructor
  · intro noneFilled index listed
    cases noneFilled _ (List.mem_of_getElem? listed)
  · intro notListed occupancy member
    obtain ⟨index, listed⟩ := List.getElem?_of_mem member
    cases occupancy with
    | filled => exact absurd listed (notListed index)
    | absent => rfl
    | empty => rfl

/-- The filled sections are the ones that are listed. -/
theorem mem_nonEmptySections_iff_filled (chunk : Chunk Section) (slot : Fin 16) :
    slot.val ∈ chunk.nonEmptySections ↔
      occupancyOf Section.isEmpty (chunk.content slot) = .filled := by
  rw [nonEmptySections, mem_filledIndices_iff, getElem?_occupancies, Option.some.injEq]

/-- A slot is absent, empty or filled as it has no section, an unlisted one or a listed one. -/
theorem inspect_of_denoted
    (chunk : Chunk Section)
    (denoted : index.below? 16 = some slot) :
    (chunk.inspect index = .ok .absent ↔ chunk.content slot = none) ∧
      (chunk.inspect index = .ok .empty ↔
        chunk.content slot ≠ none ∧ slot.val ∉ chunk.nonEmptySections) ∧
      (chunk.inspect index = .ok .filled ↔ slot.val ∈ chunk.nonEmptySections) := by
  have inspected :
      chunk.inspect index = .ok (occupancyOf Section.isEmpty (chunk.content slot)) := by
    rw [inspect, chunk.slot_of_denoted denoted]
    rfl
  rw [inspected, mem_nonEmptySections_iff_filled]
  cases chunk.content slot with
  | none => simp [occupancyOf]
  | some slab => cases isEmpty : slab.isEmpty <;> simp [occupancyOf, isEmpty]

namespace Shows

/-- A slot is filled exactly when some block of it differs from the default state. -/
theorem occupancyOf_eq_filled_iff
    (shows : chunk.Shows keys)
    (slot : Fin 16) :
    occupancyOf Section.isEmpty (chunk.content slot) = .filled ↔
      ∃ place : Place, place.slot = slot ∧ keys place ≠ chunk.defaultState.key := by
  cases content : chunk.content slot with
  | none =>
      refine iff_of_false (by simp [occupancyOf]) ?_
      rintro ⟨place, rfl, differs⟩
      exact differs (shows.absent place content)
  | some slab =>
      have sameDefault := shows.sameDefault slot slab content
      rw [BlockState.same, beq_iff_eq] at sameDefault
      have isEmpty_iff := (shows.present slot slab content).isEmpty_iff
      rw [sameDefault] at isEmpty_iff
      cases isEmpty : slab.isEmpty with
      | true =>
          refine iff_of_false (by simp [occupancyOf, isEmpty]) ?_
          rintro ⟨place, inSlot, differs⟩
          exact differs (isEmpty_iff.1 isEmpty place inSlot)
      | false =>
          refine iff_of_true (by simp [occupancyOf, isEmpty]) ?_
          simpa [isEmpty] using isEmpty_iff

/-- The sections that are listed are those with a block that differs from the default state. -/
theorem mem_nonEmptySections_iff
    (shows : chunk.Shows keys)
    {index : Nat} :
    index ∈ chunk.nonEmptySections ↔
      ∃ place : Place, place.slot.val = index ∧ keys place ≠ chunk.defaultState.key := by
  by_cases inside : index < 16
  · refine (chunk.mem_nonEmptySections_iff_filled ⟨index, inside⟩).trans ?_
    rw [shows.occupancyOf_eq_filled_iff]
    exact exists_congr fun place => and_congr_left fun _ => Fin.ext_iff
  · have beyond : (chunk.occupancies Section.isEmpty)[index]? = none := by
      rw [List.getElem?_eq_none_iff]
      simpa [occupancies] using inside
    rw [nonEmptySections, mem_filledIndices_iff, beyond]
    refine iff_of_false nofun ?_
    rintro ⟨place, rfl, -⟩
    exact inside place.slot.isLt

/-- A chunk is empty exactly when it shows its default state everywhere. -/
theorem isEmpty_iff (shows : chunk.Shows keys) :
    chunk.isEmpty = true ↔ ∀ place, keys place = chunk.defaultState.key := by
  simp only [isEmpty_iff_nonEmptySections, shows.mem_nonEmptySections_iff, not_exists, not_and,
    not_not]
  constructor
  · exact fun allDefault place => allDefault _ place rfl
  · exact fun allDefault _ place _ => allDefault place

/-- So a chunk is empty exactly when every read finds the default state. -/
theorem isEmpty_iff_get (shows : chunk.Shows keys) :
    chunk.isEmpty = true ↔
      ∀ x y z place, place? x y z = some place →
        ∃ found, chunk.get x y z = .ok found ∧ found.same chunk.defaultState = true := by
  simp only [shows.isEmpty_iff, BlockState.same, beq_iff_eq]
  constructor
  · intro allDefault x y z place addressed
    obtain ⟨found, read, foundKey⟩ := shows.get addressed
    exact ⟨found, read, foundKey.trans (allDefault place)⟩
  · intro readsDefault place
    obtain ⟨found, read, foundKey⟩ := shows.get (place?_ofPlace place)
    obtain ⟨again, readAgain, sameKey⟩ := readsDefault _ _ _ place (place?_ofPlace place)
    rw [read] at readAgain
    cases readAgain
    exact foundKey.symm.trans sameKey

/-- And a section is listed exactly when a read at its levels finds another state. -/
theorem mem_nonEmptySections_iff_get
    (shows : chunk.Shows keys)
    {index : Nat} :
    index ∈ chunk.nonEmptySections ↔
      ∃ x y z place found, place? x y z = some place ∧
        16 * index ≤ place.level.val ∧ place.level.val < 16 * index + 16 ∧
        chunk.get x y z = .ok found ∧ found.same chunk.defaultState = false := by
  simp only [shows.mem_nonEmptySections_iff, BlockState.same, beq_eq_false_iff_ne]
  constructor
  · rintro ⟨place, inSlot, differs⟩
    obtain ⟨found, read, foundKey⟩ := shows.get (place?_ofPlace place)
    obtain ⟨above, below⟩ := Place.slot_eq_iff.1 inSlot
    exact ⟨_, _, _, place, found, place?_ofPlace place, above, below, read, foundKey ▸ differs⟩
  · rintro ⟨x, y, z, place, found, addressed, above, below, read, differs⟩
    obtain ⟨again, readAgain, foundKey⟩ := shows.get addressed
    rw [read] at readAgain
    cases readAgain
    exact ⟨place, Place.slot_eq_iff.2 ⟨above, below⟩, foundKey ▸ differs⟩

end Shows

end Chunk

end BlockVolume
