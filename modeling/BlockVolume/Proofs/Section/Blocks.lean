import BlockVolume.Proofs.Palette.Reachable
import BlockVolume.Proofs.Section.Places
import BlockVolume.Proofs.Storage.Reachable

namespace BlockVolume

/-!
# The blocks that a section shows

A section stands for a list of 4096 states, of which only the keys matter.
`Shows` says which list: palette and storage are in order by themselves, and
every stored id leads to the key in its place. Reading answers with the state
of the list, and writing changes one entry, also when the palette grows or the
storage gets wider.
-/

namespace Section

/-- A section that shows the states of these keys. -/
structure Shows (slab : Section) (keys : List String) : Prop where
  wellFormed : slab.palette.WellFormed
  sound : slab.storage.Sound
  length_eq : keys.length = cellCount
  resolves : slab.palette.Resolves slab.storage.values keys

/-- A section in which everything is in order and every stored id has a state. -/
structure Consistent (slab : Section) : Prop where
  wellFormed : slab.palette.WellFormed
  sound : slab.storage.Sound
  size_eq : slab.storage.size = cellCount
  resolves : ∀ id ∈ slab.storage.values, id < slab.palette.size

variable {slab : Section} {keys : List String}

/-- A consistent section shows some keys. -/
theorem Consistent.shows (consistent : slab.Consistent) : ∃ keys, slab.Shows keys := by
  refine ⟨slab.storage.values.map fun id => slab.palette.keys.getD id "", ?_⟩
  exact
    { wellFormed := consistent.wellFormed
      sound := consistent.sound
      length_eq := by
        rw [List.length_map, PackedArray.length_values]
        exact consistent.size_eq
      resolves := by
        rw [Palette.Resolves, List.map_map]
        refine List.map_congr_left fun id member => ?_
        have inside : id < slab.palette.keys.length := by
          rw [Palette.length_keys]
          exact consistent.resolves id member
        rw [Function.comp_apply, List.getD_eq_getElem?_getD, List.getElem?_eq_getElem inside]
        rfl }

namespace Shows

theorem length_values (shows : slab.Shows keys) : slab.storage.values.length = cellCount := by
  rw [shows.resolves.length_eq]
  exact shows.length_eq

/-- A section that shows keys is consistent. -/
theorem consistent (shows : slab.Shows keys) : slab.Consistent where
  wellFormed := shows.wellFormed
  sound := shows.sound
  size_eq := by
    rw [← PackedArray.length_values]
    exact shows.length_values
  resolves := fun _ member => shows.resolves.id_lt member

/-! ## Reading -/

/-- The state of a block is the one in its place. -/
theorem block_of_lt
    (shows : slab.Shows keys)
    {cell : Nat}
    (inside : cell < keys.length) :
    ∃ state, slab.block cell = .ok state ∧ state.key = keys[cell] := by
  have insideStorage : cell < slab.storage.values.length := by
    rw [shows.length_values, ← shows.length_eq]
    exact inside
  have listed := shows.resolves.at_place (List.getElem?_eq_getElem insideStorage)
  rw [List.getElem?_eq_getElem inside] at listed
  obtain ⟨state, found, sameKey⟩ := Palette.state_of_getElem?_keys listed
  refine ⟨state, ?_, sameKey⟩
  rw [block, shows.sound.represents.get_of_lt (Number.toNat?_ofNat cell) insideStorage]
  exact found

theorem cell_lt_length
    (shows : slab.Shows keys)
    (place : Place) :
    place.cell < keys.length := by
  rw [shows.length_eq]
  exact place.cell_lt

/-- The state at the coordinates of a place is the one of its block. -/
theorem get_of_place
    (shows : slab.Shows keys)
    {x y z : Number}
    {place : Place}
    (addressed : place? x y z = some place) :
    ∃ state, slab.get x y z = .ok state ∧ keys[place.cell]? = some state.key := by
  have inside := shows.cell_lt_length place
  obtain ⟨state, found, sameKey⟩ := shows.block_of_lt inside
  refine ⟨state, ?_, ?_⟩
  · rw [get, cellIndex_of_place addressed]
    exact found
  · rw [List.getElem?_eq_getElem inside, sameKey]

/-! ## Writing -/

/-- After a write of a block that can be read, the palette is the one with the written state. -/
theorem palette_setBlock
    {cell : Nat}
    {previous : BlockState}
    (read : slab.block cell = .ok previous)
    (state : BlockState) :
    (slab.setBlock cell state).1.palette = (slab.palette.insert state).1 := by
  unfold setBlock
  rw [read]
  simp only
  split
  · rfl
  · split <;> rfl

/-- Writing a state whose id can be stored answers with the state that was there. -/
theorem setBlock_of_storable
    (shows : slab.Shows keys)
    {cell : Nat}
    (inside : cell < keys.length)
    {state : BlockState}
    {grown : Palette}
    {id : Nat}
    (inserted : slab.palette.insert state = (grown, id))
    (storable : id ≤ maxCellValue) :
    ∃ written previous, slab.setBlock cell state = (written, .ok previous) ∧
      slab.block cell = .ok previous ∧ written.Shows (keys.set cell state.key) := by
  obtain ⟨previous, read, -⟩ := shows.block_of_lt inside
  obtain ⟨_, _, same, grownWellFormed, grownStates, listed⟩ := shows.wellFormed.insert_spec state
  rw [inserted] at same
  cases same
  have insideStorage : cell < slab.storage.values.length := by
    rw [shows.length_values, ← shows.length_eq]
    exact inside
  obtain ⟨widened, raised, showsWidened⟩ :=
    shows.sound.represents.widen_of_le (Number.toNat?_ofNat id) storable
  obtain ⟨storage, wrote, showsStorage⟩ :=
    showsWidened.set_of_le (Number.toNat?_ofNat cell) insideStorage
      (Number.toNat?_ofNat id) (Nat.le_max_right _ _)
  refine ⟨{ palette := grown, storage }, previous, ?_, read, ?_⟩
  · rw [setBlock, read, inserted]
    simp only [raised, wrote]
  · exact
      { wellFormed := grownWellFormed
        sound := showsStorage.sound fun value member => by
          rcases List.mem_or_eq_of_mem_set member with old | rfl
          · exact Nat.le_trans (shows.sound.within value old) (Nat.le_max_left _ _)
          · exact Nat.le_max_right _ _
        length_eq := by
          rw [List.length_set]
          exact shows.length_eq
        -- Ids that are stored already keep their keys, since the palette only grows at its end.
        resolves := by
          rw [showsStorage.values_eq]
          exact (shows.resolves.grow grownStates).set listed cell }

/-- Writing a block answers with the state that was there and changes the key in its place. -/
theorem setBlock_of_lt
    (shows : slab.Shows keys)
    {cell : Nat}
    (inside : cell < keys.length)
    (state : BlockState)
    (addressable : (slab.palette.insert state).1.Addressable) :
    ∃ written previous, slab.setBlock cell state = (written, .ok previous) ∧
      slab.block cell = .ok previous ∧ written.Shows (keys.set cell state.key) := by
  obtain ⟨grown, id, inserted, -, -, listed⟩ := shows.wellFormed.insert_spec state
  rw [inserted] at addressable
  exact shows.setBlock_of_storable inside inserted
    (addressable.le_maxCellValue (Palette.id_lt_of_getElem?_keys listed))

/-- Writing at the coordinates of a place changes the key of its block. -/
theorem set_of_place
    (shows : slab.Shows keys)
    {x y z : Number}
    {place : Place}
    (addressed : place? x y z = some place)
    (state : BlockState)
    (addressable : (slab.palette.insert state).1.Addressable) :
    ∃ written previous, slab.set x y z state = (written, .ok previous) ∧
      slab.get x y z = .ok previous ∧
      written.Shows (keys.set place.cell state.key) := by
  obtain ⟨written, previous, wrote, found, showsWritten⟩ :=
    shows.setBlock_of_lt (shows.cell_lt_length place) state addressable
  refine ⟨written, previous, ?_, ?_, showsWritten⟩
  · rw [set, cellIndex_of_place addressed]
    exact wrote
  · rw [get, cellIndex_of_place addressed]
    exact found

/-- After such a write the palette is the one with the written state. -/
theorem palette_set
    (shows : slab.Shows keys)
    {x y z : Number}
    {place : Place}
    (addressed : place? x y z = some place)
    (state : BlockState) :
    (slab.set x y z state).1.palette = (slab.palette.insert state).1 := by
  obtain ⟨previous, found, -⟩ := shows.block_of_lt (shows.cell_lt_length place)
  rw [set, cellIndex_of_place addressed]
  exact palette_setBlock found state

end Shows

/-- Coordinates outside a section are refused before anything is read or written. -/
theorem get_set_of_outside
    (slab : Section)
    {x y z : Number}
    (outside : place? x y z = none)
    (state : BlockState) :
    ∃ cause, cause.failure.kind = .index ∧ slab.get x y z = .error cause ∧
      slab.set x y z state = (slab, .error cause) := by
  obtain ⟨cause, refused, kind⟩ := cellIndex_of_outside outside
  refine ⟨cause, kind, ?_, ?_⟩
  · rw [get, refused]
    rfl
  · rw [set, refused]

/-- A single write among writes. -/
theorem setEach_singleton (slab : Section) (x y z : Number) (state : BlockState) :
    slab.setEach [((x, y, z), state)] =
      ((slab.set x y z state).1, (slab.set x y z state).2.map ([·])) := by
  rw [setEach]
  rcases slab.set x y z state with ⟨written, cause | previous⟩ <;> rfl

/-! ## New sections -/

/-- The empty section shows its default state everywhere. -/
theorem shows_empty (defaultState : BlockState) :
    (empty defaultState).Shows (List.replicate cellCount defaultState.key) where
  wellFormed := .make defaultState
  sound :=
    (PackedArray.represents_zeros .padded cellCount (Nat.zero_le _)).sound fun value member => by
      rw [List.eq_of_mem_replicate member]
  length_eq := List.length_replicate
  resolves := by
    have values := (PackedArray.represents_zeros .padded cellCount (Nat.zero_le maxCellValue)).values_eq
    rw [empty, Palette.Resolves, values, List.map_replicate, List.map_replicate]
    rfl

/-- A section is made exactly of a storage of the right size whose ids all have states. -/
theorem make_eq_ok_iff
    {palette : Palette}
    {storage : PackedArray .padded} :
    make palette storage = .ok slab ↔
      storage.size = cellCount ∧ (∀ id ∈ storage.values, id < palette.size) ∧
        slab = { palette, storage } := by
  unfold make
  by_cases rightSize : storage.size = cellCount
  · have none :
        (storage.values.zipIdx.find? fun entry => decide (palette.size ≤ entry.1)) = none ↔
          ∀ id ∈ storage.values, id < palette.size := by
      rw [List.find?_eq_none]
      constructor
      · intro each id member
        obtain ⟨cell, found⟩ := List.getElem?_of_mem member
        have inZip : (id, cell) ∈ storage.values.zipIdx :=
          List.mem_zipIdx_iff_getElem?.2 found
        simpa using each (id, cell) inZip
      · intro each entry member
        have listed := List.mem_of_getElem? (List.mem_zipIdx_iff_getElem?.1 member)
        simpa using each entry.1 listed
    rw [if_pos rightSize, ← none]
    cases found : storage.values.zipIdx.find? fun entry => decide (palette.size ≤ entry.1) with
    | none => simp [rightSize, eq_comm]
    | some entry => simp [rightSize]
  · simp [rightSize]

end Section

end BlockVolume
