import BlockVolume.Proofs.Chunk.Places
import BlockVolume.Proofs.Chunk.Slots
import BlockVolume.Proofs.Section.Capacity

namespace BlockVolume

/-!
# The blocks that a chunk shows

A chunk stands for a total map from places to states, of which only the keys
matter: a section shows the keys of its slot, and where no section is, every
place has the default state. Each operation has one lemma here that says what it
does to that map.
-/

namespace Section

variable {slab : Section} {slot : Fin 16} {keys : Chunk.Place → String}

/-- A section that shows the keys of the places of a slot. -/
def ShowsSlot (slab : Section) (slot : Fin 16) (keys : Chunk.Place → String) : Prop :=
  ∃ row, slab.Shows row ∧
    ∀ place : Chunk.Place, place.slot = slot → row[place.cell]? = some (keys place)

/-- The blocks of an empty section have the default state. -/
theorem block_empty
    (defaultState : BlockState)
    {cell : Nat}
    (inside : cell < cellCount) :
    (empty defaultState).block cell = .ok defaultState := by
  have shows := PackedArray.represents_zeros .padded cellCount (Nat.zero_le maxCellValue)
  have read : (empty defaultState).storage.get (.ofNat cell) = .ok 0 := by
    have found := shows.get_of_lt (Number.toNat?_ofNat cell) (by simpa using inside)
    rw [List.getElem_replicate] at found
    exact found
  rw [block, read]
  rfl

theorem showsSlot_empty
    (defaultState : BlockState)
    (slot : Fin 16)
    (allDefault : ∀ place : Chunk.Place, place.slot = slot → keys place = defaultState.key) :
    (empty defaultState).ShowsSlot slot keys := by
  refine ⟨_, shows_empty defaultState, fun place inSlot => ?_⟩
  rw [List.getElem?_replicate, if_pos place.cell_lt, allDefault place inSlot]

/-- Every block of a consistent section has a state. -/
theorem Consistent.block_of_place
    (consistent : slab.Consistent)
    (place : Place) :
    ∃ state, slab.block place.cell = .ok state := by
  obtain ⟨row, shows⟩ := consistent.shows
  obtain ⟨state, read, -⟩ := shows.block_of_lt (shows.cell_lt_length place)
  exact ⟨state, read⟩

/-- A consistent section shows the keys of its blocks. -/
theorem Consistent.showsSlot
    (consistent : slab.Consistent)
    (blocks : ∀ place : Chunk.Place, place.slot = slot →
      ∃ state, slab.block place.cell = .ok state ∧ keys place = state.key) :
    slab.ShowsSlot slot keys := by
  obtain ⟨row, shows⟩ := consistent.shows
  refine ⟨row, shows, fun place inSlot => ?_⟩
  have inside : place.cell < row.length := shows.cell_lt_length place.inner
  obtain ⟨state, read, sameKey⟩ := shows.block_of_lt inside
  obtain ⟨found, readAgain, foundKey⟩ := blocks place inSlot
  rw [read] at readAgain
  cases readAgain
  rw [List.getElem?_eq_getElem inside, ← sameKey, foundKey]

namespace ShowsSlot

/-- Keys of other slots do not matter. -/
theorem congr
    {newKeys : Chunk.Place → String}
    (shows : slab.ShowsSlot slot keys)
    (sameKeys : ∀ place : Chunk.Place, place.slot = slot → newKeys place = keys place) :
    slab.ShowsSlot slot newKeys := by
  obtain ⟨row, showsRow, found⟩ := shows
  refine ⟨row, showsRow, fun place inSlot => ?_⟩
  rw [found place inSlot, sameKeys place inSlot]

theorem block
    {place : Chunk.Place}
    (shows : slab.ShowsSlot place.slot keys) :
    ∃ state, slab.block place.cell = .ok state ∧ state.key = keys place := by
  obtain ⟨row, showsRow, found⟩ := shows
  have inside : place.cell < row.length := showsRow.cell_lt_length place.inner
  obtain ⟨state, read, sameKey⟩ := showsRow.block_of_lt inside
  have here := found place rfl
  rw [List.getElem?_eq_getElem inside, Option.some.injEq] at here
  exact ⟨state, read, sameKey.trans here⟩

/-- A write changes the key of its place, or it is refused and changes none. -/
theorem setBlock_or_refuses
    {place : Chunk.Place}
    (shows : slab.ShowsSlot place.slot keys)
    (state : BlockState) :
    (∃ written previous, slab.setBlock place.cell state = (written, .ok previous) ∧
      slab.block place.cell = .ok previous ∧
      written.ShowsSlot place.slot (Function.update keys place state.key)) ∨
    ∃ written cause, slab.setBlock place.cell state = (written, .error cause) ∧
      written.ShowsSlot place.slot keys ∧ ¬ (slab.palette.insert state).1.Addressable := by
  obtain ⟨row, showsRow, found⟩ := shows
  have inside : place.cell < row.length := showsRow.cell_lt_length place.inner
  obtain ⟨written, previous, wrote, read, showsWritten⟩ |
      ⟨written, cause, refused, showsWritten, noRoom⟩ :=
    showsRow.setBlock_or_refuses inside state
  · refine .inl ⟨written, previous, wrote, read, _, showsWritten, fun other inSlot => ?_⟩
    by_cases same : other = place
    · subst same
      rw [List.getElem?_set_self inside, Function.update_self]
    · have different : place.cell ≠ other.cell := fun sameCell =>
        same (Chunk.Place.eq_of_cell_eq inSlot sameCell.symm)
      rw [List.getElem?_set_ne different, Function.update_of_ne same, found other inSlot]
  · exact .inr ⟨written, cause, refused, ⟨row, showsWritten, found⟩, noRoom⟩

theorem compact (shows : slab.ShowsSlot slot keys) :
    ∃ compacted, slab.compact = (compacted, .ok ()) ∧ compacted.ShowsSlot slot keys := by
  obtain ⟨row, showsRow, found⟩ := shows
  obtain ⟨compacted, succeeds, -, -, -, showsCompacted⟩ := showsRow.compact_succeeds
  exact ⟨compacted, succeeds, row, showsCompacted, found⟩

end ShowsSlot

end Section

namespace Chunk

/-- A chunk that shows the states of these keys. -/
structure Shows (chunk : Chunk Section) (keys : Place → String) : Prop where
  absent : ∀ place : Place, chunk.content place.slot = none → keys place = chunk.defaultState.key
  present : ∀ slot slab, chunk.content slot = some slab → slab.ShowsSlot slot keys
  sameDefault : ∀ slot slab, chunk.content slot = some slab →
    slab.defaultState.same chunk.defaultState = true

variable {chunk : Chunk Section} {keys : Place → String} {slab : Section}
  {x y z index : Number} {place : Place} {slot : Fin 16} {state : BlockState}

/-! ## Slots -/

/-- What is put in a slot decides the keys of that slot. -/
theorem Shows.put
    {newKeys : Place → String}
    (shows : chunk.Shows keys)
    (showsSlab : slab.ShowsSlot slot newKeys)
    (sameDefault : slab.defaultState.same chunk.defaultState = true)
    (sameKeys : ∀ place : Place, place.slot ≠ slot → newKeys place = keys place) :
    (chunk.put slot slab).Shows newKeys where
  absent place vacant := by
    rw [content_put] at vacant
    split at vacant
    · cases vacant
    · rename_i elsewhere
      rw [sameKeys place elsewhere]
      exact shows.absent place vacant
  present other found content := by
    rw [content_put] at content
    split at content
    · rename_i same
      subst same
      cases content
      exact showsSlab
    · rename_i elsewhere
      refine (shows.present other found content).congr fun place inSlot => ?_
      exact sameKeys place (inSlot ▸ elsewhere)
  sameDefault other found content := by
    rw [content_put] at content
    split at content
    · cases content
      exact sameDefault
    · exact shows.sameDefault other found content

/-- A chunk without sections shows its default state everywhere. -/
theorem shows_of_vacant (vacant : ∀ slot, chunk.content slot = none) :
    chunk.Shows fun _ => chunk.defaultState.key where
  absent _ _ := rfl
  present slot slab content := by
    rw [vacant slot] at content
    cases content
  sameDefault slot slab content := by
    rw [vacant slot] at content
    cases content

/-! ## Reading and writing -/

theorem get_of_outside
    (chunk : Chunk Section)
    (outside : place? x y z = none) :
    chunk.get x y z = .error (.outsideChunk x y z) := by
  rw [get, locate_of_outside outside]
  rfl

theorem set_of_outside
    (chunk : Chunk Section)
    (outside : place? x y z = none)
    (state : BlockState) :
    chunk.set x y z state = (chunk, .error (.outsideChunk x y z)) := by
  rw [set, locate_of_outside outside]

theorem get_of_place
    (chunk : Chunk Section)
    (addressed : place? x y z = some place) :
    chunk.get x y z =
      match chunk.content place.slot with
      | none => .ok chunk.defaultState
      | some slab => slab.block place.cell := by
  rw [get, locate_of_place addressed]
  rfl

theorem set_of_place
    (chunk : Chunk Section)
    (addressed : place? x y z = some place)
    (state : BlockState) :
    chunk.set x y z state =
      let slab := (chunk.content place.slot).getD (.empty chunk.defaultState)
      (chunk.put place.slot (slab.setBlock place.cell state).1,
        (slab.setBlock place.cell state).2) := by
  rw [set, locate_of_place addressed]

/-- A write keeps the default state. -/
theorem defaultState_set (chunk : Chunk Section) (x y z : Number) (state : BlockState) :
    (chunk.set x y z state).1.defaultState = chunk.defaultState := by
  unfold set
  split <;> rfl

namespace Shows

/-- The section of a slot, or the one that a write would make, shows the keys of the slot. -/
theorem getD_content
    (shows : chunk.Shows keys)
    (slot : Fin 16) :
    ((chunk.content slot).getD (.empty chunk.defaultState)).ShowsSlot slot keys := by
  cases content : chunk.content slot with
  | none =>
      refine Section.showsSlot_empty _ _ fun other inSlot => ?_
      exact shows.absent other (inSlot ▸ content)
  | some slab => exact shows.present slot slab content

theorem sameDefault_getD_content
    (shows : chunk.Shows keys)
    (slot : Fin 16) :
    ((chunk.content slot).getD (.empty chunk.defaultState)).defaultState.same
      chunk.defaultState = true := by
  cases content : chunk.content slot with
  | none => simp [Section.defaultState, Section.empty, Palette.make, BlockState.same]
  | some slab => exact shows.sameDefault slot slab content

/-- A read finds the state of the place. -/
theorem get
    (shows : chunk.Shows keys)
    (addressed : place? x y z = some place) :
    ∃ found, chunk.get x y z = .ok found ∧ found.key = keys place := by
  rw [chunk.get_of_place addressed]
  cases content : chunk.content place.slot with
  | none => exact ⟨chunk.defaultState, rfl, (shows.absent place content).symm⟩
  | some slab => exact (shows.present _ slab content).block

/-- A write answers with what a read finds and changes the key of its place, or it is refused. -/
theorem set_or_refuses
    (shows : chunk.Shows keys)
    (addressed : place? x y z = some place)
    (state : BlockState) :
    (∃ written previous, chunk.set x y z state = (written, .ok previous) ∧
      chunk.get x y z = .ok previous ∧
      written.Shows (Function.update keys place state.key)) ∨
    ∃ written cause, chunk.set x y z state = (written, .error cause) ∧ written.Shows keys ∧
      ∃ slab, chunk.content place.slot = some slab ∧
        ¬ (slab.palette.insert state).1.Addressable := by
  rw [chunk.set_of_place addressed, chunk.get_of_place addressed]
  have sameDefault := shows.sameDefault_getD_content place.slot
  obtain ⟨written, previous, wrote, read, showsWritten⟩ |
      ⟨written, cause, refused, showsWritten, noRoom⟩ :=
    (shows.getD_content place.slot).setBlock_or_refuses state
  · refine .inl ⟨chunk.put place.slot written, previous, ?_, ?_, ?_⟩
    · simp only [wrote]
    · cases content : chunk.content place.slot with
      | some slab =>
          rw [content] at read
          exact read
      | none =>
          rw [content, Option.getD_none, Section.block_empty _ place.cell_lt] at read
          exact read
    · refine shows.put showsWritten ?_ fun other elsewhere => ?_
      · have kept := congrArg (·.1.defaultState) wrote
        simp only [Section.defaultState_setBlock] at kept
        rw [← kept]
        exact sameDefault
      · have different : other ≠ place := fun same => elsewhere (congrArg Place.slot same)
        rw [Function.update_of_ne different]
  · refine .inr ⟨chunk.put place.slot written, cause, ?_, ?_, ?_⟩
    · simp only [refused]
    · refine shows.put showsWritten ?_ fun _ _ => rfl
      have kept := congrArg (·.1.defaultState) refused
      simp only [Section.defaultState_setBlock] at kept
      rw [← kept]
      exact sameDefault
    · cases content : chunk.content place.slot with
      | some slab =>
          rw [content] at noRoom
          exact ⟨slab, rfl, noRoom⟩
      | none =>
          -- A section that was just made has room for another state.
          rw [content] at noRoom
          have grows := (Palette.make chunk.defaultState).size_insert_le state
          exact absurd (Nat.le_trans grows (show 2 ≤ maxCellValue + 1 by decide)) noRoom

/-! ## Sections -/

/-- A compaction succeeds and changes no key. -/
theorem compactSlot
    (shows : chunk.Shows keys)
    (slot : Fin 16) :
    ∃ compacted, chunk.compactSlot slot = (compacted, .ok ()) ∧ compacted.Shows keys := by
  unfold Chunk.compactSlot
  cases content : chunk.content slot with
  | none => exact ⟨chunk, rfl, shows⟩
  | some slab =>
      obtain ⟨compacted, succeeds, showsCompacted⟩ := (shows.present slot slab content).compact
      refine ⟨chunk.put slot compacted, by simp only [succeeds], ?_⟩
      refine shows.put showsCompacted ?_ fun _ _ => rfl
      have kept := slab.defaultState_compact
      rw [succeeds] at kept
      rw [kept]
      exact shows.sameDefault slot slab content

end Shows

/-- A compaction neither fills a slot nor leaves one empty. -/
theorem content_compactSlot_eq_none_iff
    (chunk : Chunk Section)
    (slot other : Fin 16) :
    (chunk.compactSlot slot).1.content other = none ↔ chunk.content other = none := by
  unfold compactSlot
  cases content : chunk.content slot with
  | none => exact Iff.rfl
  | some slab =>
      simp only [content_put]
      by_cases same : other = slot
      · simp [same, content]
      · simp [same]

theorem defaultState_compactSlot (chunk : Chunk Section) (slot : Fin 16) :
    (chunk.compactSlot slot).1.defaultState = chunk.defaultState := by
  unfold compactSlot
  split <;> rfl

end Chunk

end BlockVolume
