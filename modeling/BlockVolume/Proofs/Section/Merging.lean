import BlockVolume.Proofs.Section.Blocks

namespace BlockVolume

/-!
# Merging a section into a palette

The blocks of a section are copied into the contiguous layout and renumbered to
ids of the target palette, which first gets the states that it lacks. No block
is lost, and the ids that the target had before keep their states.
-/

namespace Palette

variable {palette : Palette} {ids : List Nat}

/-- The ids that a row of states leads to are the ones that the table has for them. -/
theorem WellFormed.map_id?_eq
    (wellFormed : palette.WellFormed)
    {states : List BlockState}
    (resolves : palette.Resolves ids (states.map BlockState.key)) :
    states.map palette.id? = ids.map some := by
  apply List.ext_getElem?
  intro place
  rw [List.getElem?_map, List.getElem?_map]
  cases present : states[place]? with
  | none =>
      have beyond : ids[place]? = none := by
        rw [List.getElem?_eq_none_iff, resolves.length_eq, List.length_map]
        exact List.getElem?_eq_none_iff.1 present
      rw [beyond]
      rfl
  | some state =>
      have inside : place < ids.length := by
        rw [resolves.length_eq, List.length_map]
        exact (List.getElem?_eq_some_iff.1 present).1
      have listed := resolves.at_place (List.getElem?_eq_getElem inside)
      rw [List.getElem?_map, present] at listed
      rw [List.getElem?_eq_getElem inside, Option.map_some, Option.map_some,
        wellFormed.id?_eq_some_iff.2 listed]

end Palette

namespace Section

/-- What a merge makes of a section's storage: ids of a palette in the contiguous layout. -/
structure MergedInto
    (cells : PackedArray .contiguous)
    (slab : Section)
    (keys : List String)
    (target : Palette) :
    Prop where
  sound : cells.Sound
  size_eq : cells.size = cellCount
  resolves : target.Resolves cells.values keys
  /-- The bound covers the old one and the ids of all states of the section, used or not. -/
  bound : ∃ ids, slab.palette.states.map target.id? = ids.map some ∧
    cells.maxValue = max slab.storage.maxValue (Remap.largest ids)

variable {slab : Section} {keys : List String} {target : Palette}

/-- A merge adds the states that the target lacks and keeps every block. -/
theorem Shows.mergeInto
    (shows : slab.Shows keys)
    (wellFormed : target.WellFormed)
    (addressable : (target.addAll slab.palette).1.Addressable) :
    ∃ grown cells, slab.mergeInto target = (grown, .ok cells) ∧
      grown = (target.addAll slab.palette).1 ∧ grown.WellFormed ∧
      grown.states =
        target.states ++ BlockState.unseen target.states slab.palette.states ∧
      MergedInto cells slab keys grown := by
  obtain ⟨grown, ids, added, grownWellFormed, grownStates, resolves⟩ :=
    wellFormed.addAll_spec slab.palette
  rw [added] at addressable
  obtain ⟨copy, copied, showsCopy⟩ :=
    shows.sound.represents.relayout_of_le shows.sound.within .contiguous
  have idCount : ids.length = slab.palette.size := by
    rw [resolves.length_eq, Palette.length_keys]
  have someIds : ids ≠ [] := by
    rintro rfl
    exact absurd idCount (by simp [Palette.size])
  obtain ⟨cells, applied, showsCells, within⟩ :=
    Remap.apply_ofIds showsCopy someIds
      (fun value member => idCount ▸ shows.resolves.id_lt member)
      (fun id member => addressable.le_maxCellValue (resolves.id_lt member))
  refine ⟨grown, cells, ?_, by rw [added], grownWellFormed, grownStates, ?_⟩
  · rw [Section.mergeInto, copied, added]
    simp only [PackedArray.finished, applied]
    rfl
  · exact
      { sound := showsCells.sound within
        size_eq := by
          rw [← showsCells.length_eq, List.length_map]
          exact shows.length_values
        resolves := by
          rw [showsCells.values_eq]
          exact resolves.select shows.resolves
        bound := ⟨ids, grownWellFormed.map_id?_eq resolves, showsCells.maxValue_eq⟩ }

/-- A merge leaves the larger palette behind, also when an id there is not admissible. -/
theorem Shows.mergeInto_fst
    (shows : slab.Shows keys)
    (target : Palette) :
    (slab.mergeInto target).1 = (target.addAll slab.palette).1 := by
  obtain ⟨copy, copied, -⟩ :=
    shows.sound.represents.relayout_of_le shows.sound.within .contiguous
  rw [Section.mergeInto, copied]

/-- Merged ids stay valid while the palette grows. -/
theorem MergedInto.grow
    {cells : PackedArray .contiguous}
    (merged : MergedInto cells slab keys target)
    {grown : Palette}
    {added : List BlockState}
    (wellFormed : target.WellFormed)
    (grownWellFormed : grown.WellFormed)
    (states_eq : grown.states = target.states ++ added) :
    MergedInto cells slab keys grown where
  sound := merged.sound
  size_eq := merged.size_eq
  resolves := merged.resolves.grow states_eq
  bound := by
    obtain ⟨ids, found, bound⟩ := merged.bound
    refine ⟨ids, ?_, bound⟩
    rw [← found]
    refine List.map_congr_left fun state member => ?_
    have issued : target.id? state ∈ ids.map some := by
      rw [← found]
      exact List.mem_map_of_mem member
    obtain ⟨id, -, known⟩ := List.mem_map.1 issued
    rw [← known, grownWellFormed.id?_eq_some_iff]
    exact Palette.getElem?_keys_of_states_eq_append states_eq
      (wellFormed.id?_eq_some_iff.1 known.symm)

/-- Every merged block leads to a state that is the same as that of the section. -/
theorem MergedInto.block_same
    {cells : PackedArray .contiguous}
    (merged : MergedInto cells slab keys target)
    (shows : slab.Shows keys)
    {cell : Nat}
    (inside : cell < cellCount) :
    ∃ id found expected, cells.get (.ofNat cell) = .ok id ∧
      target.state (.ofNat id) = .ok found ∧ slab.block cell = .ok expected ∧
      found.same expected = true := by
  have inKeys : cell < keys.length := shows.length_eq ▸ inside
  have inCells : cell < cells.values.length := by
    rw [PackedArray.length_values, merged.size_eq]
    exact inside
  have listed := merged.resolves.at_place (List.getElem?_eq_getElem inCells)
  rw [List.getElem?_eq_getElem inKeys] at listed
  obtain ⟨found, resolved, foundKey⟩ := Palette.state_of_getElem?_keys listed
  obtain ⟨expected, read, expectedKey⟩ := shows.block_of_lt inKeys
  refine ⟨_, found, expected, ?_, resolved, read, ?_⟩
  · exact merged.sound.represents.get_of_lt (Number.toNat?_ofNat cell) inCells
  · rw [BlockState.same, beq_iff_eq, foundKey, expectedKey]

end Section

end BlockVolume
