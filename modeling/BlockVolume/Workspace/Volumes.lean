import BlockVolume.Workspace.Palettes

namespace BlockVolume

/-!
# Sections and chunks in a workspace

A section refers to its palette and storage, and a chunk to its sections, so a
change of one of them shows wherever it is used.
-/

namespace Workspace

/-! ## Sections -/

/-- Keeps a new section over a palette and a storage that are kept already. -/
def addSectionOver (palette : PaletteId) (storage : PaddedId) : Session SectionId := do
  let index := (← get).sections.size
  modify fun workspace =>
    { workspace with sections := workspace.sections.push { palette, storage } }
  return ⟨index⟩

/-- Keeps a new section with a palette and a storage of its own. -/
def addSection (slab : Section) : Session SectionId := do
  addSectionOver (← addPalette slab.palette) (← addPadded slab.storage)

/-- The record of a section. -/
def sectionRecord (id : SectionId) : Session SectionRecord :=
  return (← get).sections.getD id.index { palette := ⟨0⟩, storage := ⟨0⟩ }

/-- The value of a section. -/
def slab (id : SectionId) : Session Section := do
  let record ← sectionRecord id
  return { palette := ← palette record.palette, storage := ← padded record.storage }

/-- Replaces what a section's palette and storage hold. -/
def setSlab (id : SectionId) (slab : Section) : Session Unit := do
  let record ← sectionRecord id
  setPalette record.palette slab.palette
  setPadded record.storage slab.storage

/-- A section over a palette and a storage, where every stored id must have a state. -/
def sectionOver (paletteId : PaletteId) (storageId : PaddedId) : Session SectionId := do
  let _ ← lift (Section.make (← palette paletteId) (← padded storageId))
  addSectionOver paletteId storageId

/-- Sets the state of a block of a section and returns the state that was there. -/
def setBlock (id : SectionId) (cell : Nat) (state : BlockState) : Session BlockState := do
  let (written, outcome) := (← slab id).setBlock cell state
  setSlab id written
  lift outcome

/-- Sets states one after another up to the first failure, and returns the states that were there. -/
def setBlocks
    (id : SectionId)
    (writes : List ((Number × Number × Number) × BlockState)) :
    Session (List BlockState) := do
  let (written, outcome) := (← slab id).setEach writes
  setSlab id written
  lift outcome

/--
Compacts a section. The removals renumber the storage in place; the repacked
storage is a new one, and whoever else uses the old one keeps it.
-/
def compact (id : SectionId) : Session Unit := do
  let record ← sectionRecord id
  let result := (← slab id).compaction
  setPalette record.palette result.palette
  setPadded record.storage result.storage
  let storage ← addPadded (← lift result.outcome)
  let updated : SectionRecord := { record with storage }
  modify fun workspace =>
    { workspace with sections := workspace.sections.setIfInBounds id.index updated }

/-- Merges a section into a palette. -/
def mergeInto (id : SectionId) (paletteId : PaletteId) : Session ViewId := do
  let (grown, outcome) := (← slab id).mergeInto (← palette paletteId)
  setPalette paletteId grown
  addView (← lift outcome)

/-! ## Chunks -/

/-- Keeps a new chunk. -/
def addChunk (chunk : Chunk SectionId) : Session ChunkId := do
  let index := (← get).chunks.size
  modify fun workspace => { workspace with chunks := workspace.chunks.push chunk }
  return ⟨index⟩

/-- The value of a chunk, whose slots name sections. -/
def chunk (id : ChunkId) : Session (Chunk SectionId) :=
  return (← get).chunks.getD id.index default

/-- Replaces the value of a chunk. -/
def setChunk (id : ChunkId) (chunk : Chunk SectionId) : Session Unit :=
  modify fun workspace =>
    { workspace with chunks := workspace.chunks.setIfInBounds id.index chunk }

/-- The state at a coordinate of a chunk. -/
def chunkGet (id : ChunkId) (x y z : Number) : Session BlockState := do
  let value ← chunk id
  let (place, cell) ← lift (Chunk.locate x y z)
  match value.content place with
  | none => return value.defaultState
  | some sectionId => lift ((← slab sectionId).block cell)

/-- The section in a slot, which is made if there is none. -/
def ensureSection (id : ChunkId) (place : Fin 16) : Session SectionId := do
  let value ← chunk id
  match value.content place with
  | some sectionId => return sectionId
  | none =>
      let sectionId ← addSection (.empty value.defaultState)
      setChunk id (value.put place sectionId)
      return sectionId

/-- Sets the state at a coordinate of a chunk and returns the state that was there. -/
def chunkSet (id : ChunkId) (x y z : Number) (state : BlockState) : Session BlockState := do
  let (place, cell) ← lift (Chunk.locate x y z)
  setBlock (← ensureSection id place) cell state

/-- Puts a section in a slot, which keeps its name. -/
def chunkSetSection (id : ChunkId) (index : Number) (sectionId : SectionId) : Session Unit := do
  let defaultState := (← slab sectionId).defaultState
  setChunk id (← lift ((← chunk id).install index sectionId defaultState))

/-- A chunk as a value that owns copies of its sections. -/
def chunkValue (id : ChunkId) : Session (Chunk Section) := do
  let value ← chunk id
  let slots ← value.slots.mapM fun content =>
    match content with
    | none => pure none
    | some sectionId => some <$> slab sectionId
  let owned : Chunk Section :=
    { x := value.x
      z := value.z
      dataVersion := value.dataVersion
      defaultState := value.defaultState
      slots }
  return owned

end Workspace

end BlockVolume
