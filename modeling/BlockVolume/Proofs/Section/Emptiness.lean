import BlockVolume.Proofs.Section.Blocks

namespace BlockVolume

/-!
# Empty sections

Whether a section is empty is a matter of its ids alone: all of them are zero.
That says something about the blocks because the default state has id zero and
no other id, so an id other than zero always leads to another state.
-/

namespace Section

variable {slab : Section} {keys : List String}

/-- The first key of a palette is that of its default state. -/
theorem getElem?_keys_zero (slab : Section) :
    slab.palette.keys[0]? = some slab.defaultState.key :=
  rfl

/-- A section is empty when all its ids are zero. -/
theorem isEmpty_iff_values (slab : Section) :
    slab.isEmpty = true ↔ ∀ id ∈ slab.storage.values, id = 0 := by
  simp [isEmpty, PackedArray.values]

/-- A section is empty exactly when it shows its default state everywhere. -/
theorem Shows.isEmpty_iff (shows : slab.Shows keys) :
    slab.isEmpty = true ↔ ∀ key ∈ keys, key = slab.defaultState.key := by
  rw [isEmpty_iff_values]
  constructor
  · intro allZero key member
    have listed : some key ∈ slab.storage.values.map (slab.palette.keys[·]?) := by
      rw [shows.resolves]
      exact List.mem_map_of_mem member
    obtain ⟨id, stored, found⟩ := List.mem_map.1 listed
    rw [allZero id stored, getElem?_keys_zero] at found
    exact (Option.some.inj found).symm
  · intro allDefault id stored
    have listed : slab.palette.keys[id]? ∈ keys.map some := by
      rw [← shows.resolves]
      exact List.mem_map_of_mem stored
    obtain ⟨key, member, found⟩ := List.mem_map.1 listed
    rw [allDefault key member] at found
    exact shows.wellFormed.place_unique found.symm slab.getElem?_keys_zero

/-- A consistent section is empty exactly when a read finds the default state at every place. -/
theorem Consistent.isEmpty_iff_get (consistent : slab.Consistent) :
    slab.isEmpty = true ↔
      ∀ x y z place, place? x y z = some place →
        ∃ found, slab.get x y z = .ok found ∧ found.same slab.defaultState = true := by
  obtain ⟨keys, shows⟩ := consistent.shows
  simp only [shows.isEmpty_iff, BlockState.same, beq_iff_eq]
  constructor
  · intro allDefault x y z place addressed
    obtain ⟨found, read, foundKey⟩ := shows.get_of_place addressed
    exact ⟨found, read, allDefault found.key (List.mem_of_getElem? foundKey)⟩
  · intro readsDefault key member
    obtain ⟨cell, inside, rfl⟩ := List.getElem_of_mem member
    have addressed := place?_ofCell (shows.length_eq ▸ inside)
    obtain ⟨found, read, foundKey⟩ := shows.get_of_place addressed
    obtain ⟨again, readAgain, sameKey⟩ := readsDefault _ _ _ _ addressed
    rw [read] at readAgain
    cases readAgain
    rw [Place.cell_ofCell, List.getElem?_eq_getElem inside] at foundKey
    rw [Option.some.inj foundKey, sameKey]

end Section

end BlockVolume
