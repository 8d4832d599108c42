import BlockVolume.Chunk

namespace BlockVolume

/-!
# Workspaces

Arrays, palettes and sections are shared: an array may be written while it
serves as the storage of a section, two sections may use one palette, and two
arrays may lie over one buffer. A workspace keeps every such thing once, under
an id, and the ids stand for what is shared. The rules themselves are those of
the values; an operation here loads values, applies their rule and stores what
it leaves behind, also when it fails.
-/

/-- The id of a byte buffer. -/
structure BufferId where
  index : Nat
  deriving Repr, DecidableEq

/-- The id of a padded array. -/
structure PaddedId where
  index : Nat
  deriving Repr, DecidableEq

/-- The id of a contiguous array. -/
structure ViewId where
  index : Nat
  deriving Repr, DecidableEq

/-- The id of an array of either layout. -/
inductive ArrayId where
  | padded (id : PaddedId)
  | view (id : ViewId)
  deriving Repr, DecidableEq

/-- The id of a palette. -/
structure PaletteId where
  index : Nat
  deriving Repr, DecidableEq

/-- The id of a remap. -/
structure RemapId where
  index : Nat
  deriving Repr, DecidableEq

/-- The id of a section. -/
structure SectionId where
  index : Nat
  deriving Repr, DecidableEq

/-- The id of a chunk. -/
structure ChunkId where
  index : Nat
  deriving Repr, DecidableEq

/-- The id of a traversal. -/
structure CursorId where
  index : Nat
  deriving Repr, DecidableEq

namespace ArrayId

/-- The name under which remaps record an array; different arrays have different names. -/
def name : ArrayId → Nat
  | .padded id => 2 * id.index
  | .view id => 2 * id.index + 1

/-- A name belongs to one array. -/
theorem name_injective
    {left right : ArrayId}
    (sameName : left.name = right.name) :
    left = right := by
  cases left with
  | padded left =>
      cases right with
      | padded right =>
          have sameIndex : left.index = right.index := by
            simp only [name] at sameName
            omega
          cases left
          cases right
          cases sameIndex
          rfl
      | view right =>
          simp only [name] at sameName
          omega
  | view left =>
      cases right with
      | padded right =>
          simp only [name] at sameName
          omega
      | view right =>
          have sameIndex : left.index = right.index := by
            simp only [name] at sameName
            omega
          cases left
          cases right
          cases sameIndex
          rfl

end ArrayId

/-- A contiguous array over a buffer that others may use too. -/
structure View where
  size : Nat
  maxValue : Nat
  buffer : BufferId
  deriving Repr, DecidableEq

/-- A section over a palette and a storage that others may use too. -/
structure SectionRecord where
  palette : PaletteId
  storage : PaddedId
  deriving Repr, DecidableEq

/-- A traversal of an array, which reads each cell when it is asked for. -/
structure Cursor where
  array : ArrayId
  next : Nat
  deriving Repr, DecidableEq

/-- Everything that is shared, each thing once. -/
structure Workspace where
  buffers : Array (Array Byte)
  paddedArrays : Array (PackedArray .padded)
  views : Array View
  palettes : Array Palette
  remaps : Array Remap
  sections : Array SectionRecord
  chunks : Array (Chunk SectionId)
  cursors : Array Cursor

/-- A computation over a workspace, which keeps its changes when it fails. -/
abbrev Session := ExceptT StorageError (StateM Workspace)

namespace Workspace

/-- The workspace that holds the shared remap without changes and nothing else. -/
def initial : Workspace :=
  { buffers := #[]
    paddedArrays := #[]
    views := #[]
    palettes := #[]
    remaps := #[.identity]
    sections := #[]
    chunks := #[]
    cursors := #[] }

/-- The remap without changes that palettes share. -/
def identityRemap : RemapId :=
  ⟨0⟩

/-- A result of a rule about values. -/
def lift (result : Except StorageError α) : Session α :=
  ExceptT.mk (pure result)

/-! ## Buffers and arrays -/

/-- Keeps a new buffer. -/
def addBuffer (bytes : Array Byte) : Session BufferId := do
  let index := (← get).buffers.size
  modify fun workspace => { workspace with buffers := workspace.buffers.push bytes }
  return ⟨index⟩

/-- The bytes of a buffer. -/
def buffer (id : BufferId) : Session (Array Byte) :=
  return (← get).buffers.getD id.index #[]

/-- Keeps a new padded array. -/
def addPadded (array : PackedArray .padded) : Session PaddedId := do
  let index := (← get).paddedArrays.size
  modify fun workspace =>
    { workspace with paddedArrays := workspace.paddedArrays.push array }
  return ⟨index⟩

/-- The value of a padded array. -/
def padded (id : PaddedId) : Session (PackedArray .padded) :=
  return (← get).paddedArrays.getD id.index (.zeros .padded 0 0)

/-- Replaces the value of a padded array. -/
def setPadded (id : PaddedId) (array : PackedArray .padded) : Session Unit :=
  modify fun workspace =>
    { workspace with
      paddedArrays := workspace.paddedArrays.setIfInBounds id.index array }

/-- Keeps a new contiguous array over a buffer. -/
def addViewOver
    (array : PackedArray .contiguous)
    (buffer : BufferId) :
    Session ViewId := do
  let index := (← get).views.size
  let view : View := { size := array.size, maxValue := array.maxValue, buffer }
  modify fun workspace => { workspace with views := workspace.views.push view }
  return ⟨index⟩

/-- Keeps a new contiguous array over a buffer of its own. -/
def addView (array : PackedArray .contiguous) : Session ViewId := do
  addViewOver array (← addBuffer array.limbs)

/-- Lays a new contiguous array over a buffer, which is not copied. -/
def layOver (size maxValue : Number) (id : BufferId) : Session ViewId := do
  let bytes ← buffer id
  addViewOver (← lift (PackedArray.overBytes size maxValue bytes)) id

/-- The record of a contiguous array. -/
def viewRecord (id : ViewId) : Session View :=
  return (← get).views.getD id.index { size := 0, maxValue := 0, buffer := ⟨0⟩ }

/-- The value of a contiguous array. -/
def view (id : ViewId) : Session (PackedArray .contiguous) := do
  let record ← viewRecord id
  let bytes ← buffer record.buffer
  return { size := record.size, maxValue := record.maxValue, limbs := bytes }

/--
Replaces the value of a contiguous array. While cells keep their width they
stay in their buffer; wider cells move to a new buffer, and the old one keeps
its bytes.
-/
def setView (id : ViewId) (array : PackedArray .contiguous) : Session Unit := do
  let record ← viewRecord id
  let target ←
    if bitsNeeded record.maxValue = array.width then
      modify fun workspace =>
        { workspace with
          buffers := workspace.buffers.setIfInBounds record.buffer.index array.limbs }
      pure record.buffer
    else
      addBuffer array.limbs
  let updated : View := { size := array.size, maxValue := array.maxValue, buffer := target }
  modify fun workspace =>
    { workspace with views := workspace.views.setIfInBounds id.index updated }

/-- A fact about an array of either layout. -/
def readArray
    (id : ArrayId)
    (observe : {layout : Layout} → PackedArray layout → α) :
    Session α := do
  match id with
  | .padded id => return observe (← padded id)
  | .view id => return observe (← view id)

/-- Applies a rule to an array of either layout, which keeps what the rule leaves behind. -/
def updateArray
    (id : ArrayId)
    (rule : {layout : Layout} → PackedArray layout → PackedArray layout × Except StorageError α) :
    Session α := do
  match id with
  | .padded id =>
      let (array, outcome) := rule (← padded id)
      setPadded id array
      lift outcome
  | .view id =>
      let (array, outcome) := rule (← view id)
      setView id array
      lift outcome

/-- The array after a rule that changes nothing when it fails. -/
def allOrNothing
    (array : PackedArray layout)
    (result : Except StorageError (PackedArray layout)) :
    PackedArray layout × Except StorageError Unit :=
  match result with
  | .ok changed => (changed, .ok ())
  | .error cause => (array, .error cause)

/-- The value at an index. -/
def getValue (id : ArrayId) (index : Number) : Session Nat := do
  lift (← readArray id fun array => array.get index)

/-- Sets the value at an index. -/
def setValue (id : ArrayId) (index value : Number) : Session Unit :=
  updateArray id fun array => allOrNothing array (array.set index value)

/-- Sets values one after another, up to the first failure. -/
def setValues (id : ArrayId) (writes : List (Number × Number)) : Session Unit :=
  updateArray id fun array => array.setEach writes

/-- Raises the bound of an array. -/
def widen (id : ArrayId) (maxValue : Number) : Session Unit :=
  updateArray id fun array => array.widen maxValue

/-- Keeps a contiguous array with the cells of another one. -/
def contiguousCopy (id : ArrayId) : Session ViewId := do
  addView (← lift (← readArray id fun array => array.relayout .contiguous))

/-- Starts a traversal of an array. -/
def traverse (id : ArrayId) : Session CursorId := do
  let index := (← get).cursors.size
  modify fun workspace =>
    { workspace with cursors := workspace.cursors.push { array := id, next := 0 } }
  return ⟨index⟩

/-- The next index of a traversal with the value that its cell holds now. -/
def advance (id : CursorId) : Session (Option (Nat × Nat)) := do
  match (← get).cursors[id.index]? with
  | none => return none
  | some cursor =>
      let (size, value) ←
        readArray cursor.array fun array => (array.size, array.cell cursor.next)
      if cursor.next < size then
        modify fun workspace =>
          { workspace with
            cursors := workspace.cursors.setIfInBounds id.index
              { cursor with next := cursor.next + 1 } }
        return some (cursor.next, value)
      else
        return none

end Workspace

end BlockVolume
