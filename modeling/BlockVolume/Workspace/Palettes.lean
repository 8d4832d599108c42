import BlockVolume.Workspace.Basic

namespace BlockVolume

/-!
# Palettes and remaps in a workspace

A palette change that moves no id answers with the one shared remap without
changes; every other change makes a remap of its own.
-/

namespace Workspace

/-- Keeps a new remap. -/
def addRemap (remap : Remap) : Session RemapId := do
  let index := (← get).remaps.size
  modify fun workspace => { workspace with remaps := workspace.remaps.push remap }
  return ⟨index⟩

/-- The value of a remap. -/
def remap (id : RemapId) : Session Remap :=
  return (← get).remaps.getD id.index .identity

/-- Replaces the value of a remap. -/
def setRemap (id : RemapId) (remap : Remap) : Session Unit :=
  modify fun workspace =>
    { workspace with remaps := workspace.remaps.setIfInBounds id.index remap }

/-- Registers a change. -/
def register (id : RemapId) (old new : Number) : Session Unit := do
  setRemap id (← lift ((← remap id).register old new))

/-- Ends registration. -/
def lockRemap (id : RemapId) : Session Unit := do
  setRemap id (← remap id).lock

/-- The new id of an id. -/
def newId (id : RemapId) (old : Number) : Session Number := do
  lift ((← remap id).newId old)

/-- Renumbers an array by a remap. -/
def upgrade (id : RemapId) (array : ArrayId) : Session Unit := do
  let current ← remap id
  let recorded ← updateArray array fun value => current.upgrade array.name value
  setRemap id recorded

/-- Keeps a new palette. -/
def addPalette (palette : Palette) : Session PaletteId := do
  let index := (← get).palettes.size
  modify fun workspace => { workspace with palettes := workspace.palettes.push palette }
  return ⟨index⟩

/-- The value of a palette. -/
def palette (id : PaletteId) : Session Palette :=
  return (← get).palettes.getD id.index default

/-- Replaces the value of a palette. -/
def setPalette (id : PaletteId) (palette : Palette) : Session Unit :=
  modify fun workspace =>
    { workspace with palettes := workspace.palettes.setIfInBounds id.index palette }

/-- The state of an id. -/
def paletteState (id : PaletteId) (stateId : Number) : Session BlockState := do
  lift ((← palette id).state stateId)

/-- The id of a state, which is added if it is not there. -/
def paletteInsert (id : PaletteId) (state : BlockState) : Session Nat := do
  let (grown, stateId) := (← palette id).insert state
  setPalette id grown
  return stateId

/-- Keeps the remap of a palette change, or answers with the shared one if no id moved. -/
def keepRemap (remap : Remap) : Session RemapId :=
  if remap.changes.isEmpty then pure identityRemap else addRemap remap

/-- Removes the state of an id. -/
def paletteRemoveId (id : PaletteId) (stateId : Number) : Session RemapId := do
  let (smaller, remap) ← lift ((← palette id).removeId stateId)
  setPalette id smaller
  keepRemap remap

/-- Removes a state. -/
def paletteRemoveState (id : PaletteId) (state : BlockState) : Session RemapId := do
  let (smaller, remap) ← lift ((← palette id).removeState state)
  setPalette id smaller
  keepRemap remap

/-- Adds the states of another palette, which may be the same one. -/
def paletteAddAll (id other : PaletteId) : Session RemapId := do
  let (grown, remap) := (← palette id).addAll (← palette other)
  setPalette id grown
  addRemap remap

end Workspace

end BlockVolume
