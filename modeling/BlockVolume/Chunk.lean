import BlockVolume.Section

namespace BlockVolume

/-!
# Chunks

A chunk is a column of 16 by 256 by 16 blocks, split into 16 sections from the
bottom up. A section comes into being on the first write to it and stays from
then on, also when all its blocks have the default state again. Where no
section is, every block has the default state.

The slots of a chunk hold sections, or names of sections that are kept
elsewhere.
-/

/-- Where a new chunk is, and what it is made with. -/
structure ChunkOptions where
  x : Number
  z : Number
  dataVersion : Number
  defaultState : BlockState
  deriving Repr, DecidableEq

/-- A column of blocks whose slots hold what stands for a section. -/
structure Chunk (Slot : Type) where
  x : Number
  z : Number
  dataVersion : Number
  defaultState : BlockState
  slots : Vector (Option Slot) 16

namespace Chunk

variable {Slot : Type}

/-- The extent along `x`. -/
def width : Nat := 16

/-- The extent along `y`. -/
def height : Nat := 256

/-- The extent along `z`. -/
def depth : Nat := 16

instance : Inhabited (Chunk Slot) where
  default :=
    { x := 0
      z := 0
      dataVersion := 0
      defaultState := .air
      slots := .replicate 16 none }

/-- A chunk without sections, for a data version that is a natural. -/
def make (options : ChunkOptions) : Except StorageError (Chunk Slot) :=
  match options.dataVersion.toNat? with
  | some _ =>
      .ok
        { x := options.x
          z := options.z
          dataVersion := options.dataVersion
          defaultState := options.defaultState
          slots := .replicate 16 none }
  | none => .error (.invalidDataVersion options.dataVersion)

/-- The slot that a number denotes. -/
def checkSlot (index : Number) : Except StorageError (Fin 16) :=
  match index.below? 16 with
  | some place => .ok place
  | none => .error (.noSuchSection index)

/-- What is in a slot. -/
def content (chunk : Chunk Slot) (place : Fin 16) : Option Slot :=
  chunk.slots[place]

/-- The chunk with something put in a slot. -/
def put (chunk : Chunk Slot) (place : Fin 16) (content : Slot) : Chunk Slot :=
  { chunk with slots := chunk.slots.set place (some content) }

/-- What is in the slot that a number denotes. -/
def slot (chunk : Chunk Slot) (index : Number) : Except StorageError (Option Slot) :=
  (checkSlot index).map chunk.content

/-- The slot of a level. -/
def slotOf (level : Fin height) : Fin 16 :=
  ⟨level / Section.side, Nat.div_lt_of_lt_mul level.isLt⟩

/-- The slot of a coordinate, and the number of the block in the section there. -/
def locate (x y z : Number) : Except StorageError (Fin 16 × Nat) :=
  match x.below? width, y.below? height, z.below? depth with
  | some column, some level, some row =>
      .ok (slotOf level, Section.cellAt column (level % Section.side) row)
  | _, _, _ => .error (.outsideChunk x y z)

/-- What a slot holds, seen from outside. -/
inductive Occupancy where
  | absent
  | empty
  | filled
  deriving Repr, DecidableEq

namespace Occupancy

/-- The word for an occupancy. -/
def name : Occupancy → String
  | .absent => "absent"
  | .empty => "empty"
  | .filled => "filled"

/-- Whether some block differs from the default. -/
def isFilled (occupancy : Occupancy) : Bool :=
  occupancy == .filled

end Occupancy

/-- The occupancy of a slot, given which of its contents are empty. -/
def occupancyOf (isEmpty : Slot → Bool) : Option Slot → Occupancy
  | none => .absent
  | some content => if isEmpty content then .empty else .filled

/-- The occupancies of all slots, bottom up. -/
def occupancies (chunk : Chunk Slot) (isEmpty : Slot → Bool) : List Occupancy :=
  chunk.slots.toList.map (occupancyOf isEmpty)

/-- The indices of the filled ones among occupancies. -/
def filledIndices (occupancies : List Occupancy) : List Nat :=
  occupancies.zipIdx.filterMap fun entry => if entry.1.isFilled then some entry.2 else none

/-! ## Chunks that own their sections -/

/-- The state at a coordinate. -/
def get (chunk : Chunk Section) (x y z : Number) : Except StorageError BlockState := do
  let (place, cell) ← locate x y z
  match chunk.content place with
  | none => return chunk.defaultState
  | some slab => slab.block cell

/-- Sets the state at a coordinate and returns the state that was there. -/
def set
    (chunk : Chunk Section)
    (x y z : Number)
    (state : BlockState) :
    Chunk Section × Except StorageError BlockState :=
  match locate x y z with
  | .error cause => (chunk, .error cause)
  | .ok (place, cell) =>
      let slab := (chunk.content place).getD (.empty chunk.defaultState)
      let (written, outcome) := slab.setBlock cell state
      (chunk.put place written, outcome)

/-- The states of all blocks, from the lowest section up. -/
def blocks (chunk : Chunk Section) : Except StorageError (List BlockState) := do
  let parts ← chunk.slots.toList.mapM fun content =>
    match content with
    | none => .ok (List.replicate Section.cellCount chunk.defaultState)
    | some slab => slab.blocks
  return parts.flatten

/-- Requires a section to have the default state of the chunk. -/
def checkDefault (chunk : Chunk Slot) (defaultState : BlockState) : Except StorageError Unit :=
  if defaultState.same chunk.defaultState then
    .ok ()
  else
    .error (.defaultStateMismatch defaultState chunk.defaultState)

/-- Puts a section, or its name, in place; the index is checked before the default state. -/
def install
    (chunk : Chunk Slot)
    (index : Number)
    (content : Slot)
    (defaultState : BlockState) :
    Except StorageError (Chunk Slot) := do
  let place ← checkSlot index
  chunk.checkDefault defaultState
  return chunk.put place content

/-- Puts a whole section in place. -/
def setSection
    (chunk : Chunk Section)
    (index : Number)
    (slab : Section) :
    Except StorageError (Chunk Section) :=
  chunk.install index slab slab.defaultState

/-- Compacts the section in a slot, if there is one. -/
def compactSlot
    (chunk : Chunk Section)
    (place : Fin 16) :
    Chunk Section × Except StorageError Unit :=
  match chunk.content place with
  | none => (chunk, .ok ())
  | some slab =>
      let (compacted, outcome) := slab.compact
      (chunk.put place compacted, outcome)

/-- What the slot that a number denotes holds. -/
def inspect (chunk : Chunk Section) (index : Number) : Except StorageError Occupancy :=
  (chunk.slot index).map (occupancyOf Section.isEmpty)

/-- Whether every block has the default state. -/
def isEmpty (chunk : Chunk Section) : Bool :=
  (chunk.occupancies Section.isEmpty).all (!·.isFilled)

/-- The indices of the sections with a block that differs from the default, bottom up. -/
def nonEmptySections (chunk : Chunk Section) : List Nat :=
  filledIndices (chunk.occupancies Section.isEmpty)

end Chunk

end BlockVolume
