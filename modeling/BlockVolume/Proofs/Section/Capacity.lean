import BlockVolume.Proofs.Palette.Agreement
import BlockVolume.Proofs.Section.Compaction

namespace BlockVolume

/-!
# Palettes that outgrow the storage

A palette may have more states than a storage has ids for. A state whose id
cannot be stored is refused, and no block changes. Nor does that stand in the
way of compaction: such ids are in no cell, so they are the first to go.
-/

namespace Section

variable {slab : Section} {keys : List String}

/-! ## The default state -/

/-- A write keeps the default state. -/
@[simp]
theorem defaultState_setBlock (slab : Section) (cell : Nat) (state : BlockState) :
    (slab.setBlock cell state).1.defaultState = slab.defaultState := by
  cases read : slab.block cell with
  | error cause => simp only [setBlock, read]
  | ok previous =>
      unfold defaultState
      rw [Shows.palette_setBlock read, Palette.defaultState_insert]

theorem defaultState_removeIds
    (palette : Palette)
    (storage : PackedArray .padded)
    (ids : List Nat) :
    (removeIds palette storage ids).palette.defaultState = palette.defaultState := by
  induction ids generalizing palette storage with
  | nil => rfl
  | cons id rest inductionHypothesis =>
      rw [removeIds]
      split
      · rfl
      · rename_i smaller remap removed
        have kept := Palette.defaultState_of_removeId removed
        split
        · exact kept
        · exact (inductionHypothesis smaller _).trans kept

/-- So does a compaction. -/
@[simp]
theorem defaultState_compact (slab : Section) :
    slab.compact.1.defaultState = slab.defaultState := by
  have kept := defaultState_removeIds slab.palette slab.storage
    (unusedIds slab.palette.size slab.storage.values)
  unfold compact
  dsimp only
  split
  · exact kept
  · exact kept

namespace Shows

/-! ## Writing -/

/-- A state whose id cannot be stored is refused, and no block changes. -/
theorem setBlock_of_unstorable
    (shows : slab.Shows keys)
    {cell : Nat}
    (inside : cell < keys.length)
    {state : BlockState}
    {grown : Palette}
    {id : Nat}
    (inserted : slab.palette.insert state = (grown, id))
    (unstorable : maxCellValue < id) :
    ∃ written cause, slab.setBlock cell state = (written, .error cause) ∧ written.Shows keys := by
  obtain ⟨previous, read, -⟩ := shows.block_of_lt inside
  obtain ⟨_, _, same, grownWellFormed, grownStates, -⟩ := shows.wellFormed.insert_spec state
  rw [inserted] at same
  cases same
  have refused :
      slab.storage.widen (.ofNat id) = (slab.storage, .error (.invalidMaxValue (.ofNat id))) :=
    PackedArray.widen_of_outside fun wanted denoted => by
      rw [Number.toNat?_ofNat] at denoted
      exact Option.some.inj denoted ▸ unstorable
  refine ⟨{ palette := grown, storage := slab.storage }, .invalidMaxValue (.ofNat id), ?_, ?_⟩
  · rw [setBlock, read, inserted]
    simp only [refused]
  · exact
      { wellFormed := grownWellFormed
        sound := shows.sound
        length_eq := shows.length_eq
        resolves := shows.resolves.grow grownStates }

/-- A write changes the block, or it is refused for want of an id and changes none. -/
theorem setBlock_or_refuses
    (shows : slab.Shows keys)
    {cell : Nat}
    (inside : cell < keys.length)
    (state : BlockState) :
    (∃ written previous, slab.setBlock cell state = (written, .ok previous) ∧
      slab.block cell = .ok previous ∧ written.Shows (keys.set cell state.key)) ∨
    ∃ written cause, slab.setBlock cell state = (written, .error cause) ∧ written.Shows keys ∧
      ¬ (slab.palette.insert state).1.Addressable := by
  obtain ⟨grown, id, inserted, -, -, listed⟩ := shows.wellFormed.insert_spec state
  by_cases storable : id ≤ maxCellValue
  · exact .inl (shows.setBlock_of_storable inside inserted storable)
  · obtain ⟨written, cause, refused, showsWritten⟩ :=
      shows.setBlock_of_unstorable inside inserted (Nat.lt_of_not_le storable)
    refine .inr ⟨written, cause, refused, showsWritten, ?_⟩
    rw [inserted]
    intro addressable
    exact storable (addressable.le_maxCellValue (Palette.id_lt_of_getElem?_keys listed))

/-- The same at the coordinates of a place. -/
theorem set_or_refuses
    (shows : slab.Shows keys)
    {x y z : Number}
    {place : Place}
    (addressed : place? x y z = some place)
    (state : BlockState) :
    (∃ written previous, slab.set x y z state = (written, .ok previous) ∧
      written.Shows (keys.set place.cell state.key)) ∨
    ∃ written cause, slab.set x y z state = (written, .error cause) ∧ written.Shows keys ∧
      ¬ (slab.palette.insert state).1.Addressable := by
  rw [set, cellIndex_of_place addressed]
  rcases shows.setBlock_or_refuses (shows.cell_lt_length place) state
    with ⟨written, previous, wrote, -, showsWritten⟩ | refused
  · exact .inl ⟨written, previous, wrote, showsWritten⟩
  · exact .inr refused

/-- A write keeps a section consistent, also when it is refused. -/
theorem consistent_set
    (shows : slab.Shows keys)
    (x y z : Number)
    (state : BlockState) :
    (slab.set x y z state).1.Consistent := by
  cases addressed : place? x y z with
  | none =>
      obtain ⟨cause, -, -, refused⟩ := slab.get_set_of_outside addressed state
      rw [refused]
      exact shows.consistent
  | some place =>
      rcases shows.set_or_refuses addressed state
        with ⟨written, previous, wrote, showsWritten⟩ | ⟨written, cause, refused, showsWritten, -⟩
      · rw [wrote]
        exact showsWritten.consistent
      · rw [refused]
        exact showsWritten.consistent

/-! ## Compaction -/

/-- A cell holds no id beyond the largest value of an array. -/
theorem unstorable_unused
    (shows : slab.Shows keys)
    {id : Nat}
    (unstorable : maxCellValue < id) :
    id ∉ slab.storage.values := by
  intro member
  have within := shows.sound.within id member
  have bounded := shows.sound.stored.bound_le
  omega

/-- Compaction always goes to the end, and changes no block. -/
theorem compact_succeeds (shows : slab.Shows keys) :
    ∃ compacted, slab.compact = (compacted, .ok ()) ∧
      compacted.palette.states =
        (unusedIds slab.palette.size slab.storage.values).foldl List.eraseIdx
          slab.palette.states ∧
      compacted.storage.maxValue = compacted.palette.size - 1 ∧
      Section.repack compacted.palette compacted.storage = .ok compacted.storage ∧
      compacted.Shows keys := by
  obtain ⟨smaller, left, repacked, removed, states, bound, packed, showsCompacted⟩ :=
    shows.removeIds (unusedIds_descending slab.palette.size slab.storage.values)
      (fun _ member => mem_unusedIds_iff.1 member)
      (fun id unstorable inside => mem_unusedIds_iff.2
        ⟨Nat.zero_lt_of_lt unstorable, inside, shows.unstorable_unused unstorable⟩)
  refine ⟨{ palette := smaller, storage := repacked }, ?_, states, bound, packed, showsCompacted⟩
  rw [Section.compact, compaction, removed]

end Shows

end Section

end BlockVolume
