import BlockVolume.Palette.Basic
import BlockVolume.Storage.Longs

namespace BlockVolume

/-!
# Sections

A section is a slab of 16 by 16 by 16 blocks: a palette, and for every block
the id of its state in the padded layout. Blocks are numbered along `x`, then
`z`, then `y`.

A new state is added to the palette on its first write and the storage grows
when the id needs more bits. Compaction drops the states that no block uses
and gives the storage the width that the remaining ids need.
-/

/-- A slab of blocks. -/
structure Section where
  palette : Palette
  storage : PackedArray .padded

namespace Section

/-- The extent of a section along each axis. -/
def side : Nat := 16

/-- The number of blocks of a section. -/
def cellCount : Nat := 4096

/-- The section of a palette and its storage, where every stored id must have a state. -/
def make
    (palette : Palette)
    (storage : PackedArray .padded) :
    Except StorageError Section :=
  if storage.size = cellCount then
    match storage.values.zipIdx.find? fun entry => decide (palette.size ≤ entry.1) with
    | some (id, cell) => .error (.strayId id palette.size cell)
    | none => .ok { palette, storage }
  else
    .error (.sectionSize storage.size)

/-- The section that holds one state everywhere. -/
def empty (defaultState : BlockState) : Section :=
  { palette := .make defaultState
    storage := .zeros .padded cellCount 0 }

instance : Inhabited Section where
  default := empty .air

/-- The state of blocks that were never written. -/
def defaultState (slab : Section) : BlockState :=
  slab.palette.defaultState

/-! ## Blocks -/

/-- The place along an axis that a number denotes. -/
def checkAxis (axis : Axis) (coordinate : Number) : Except StorageError (Fin side) :=
  match coordinate.below? side with
  | some place => .ok place
  | none => .error (.offAxis axis coordinate)

/-- The number of the block at three places. -/
def cellAt (x y z : Nat) : Nat :=
  y * 256 + z * 16 + x

/-- The number of the block at a coordinate; the axes are checked in order. -/
def cellIndex (x y z : Number) : Except StorageError Nat := do
  let column ← checkAxis .x x
  let level ← checkAxis .y y
  let row ← checkAxis .z z
  return cellAt column level row

/-- The state of a block. -/
def block (slab : Section) (cell : Nat) : Except StorageError BlockState := do
  let id ← slab.storage.get (.ofNat cell)
  slab.palette.state (.ofNat id)

/--
Sets the state of a block and returns the state that was there. The palette
keeps a new state even when the storage cannot take its id.
-/
def setBlock
    (slab : Section)
    (cell : Nat)
    (state : BlockState) :
    Section × Except StorageError BlockState :=
  match slab.block cell with
  | .error cause => (slab, .error cause)
  | .ok previous =>
      let (palette, id) := slab.palette.insert state
      match slab.storage.widen (.ofNat id) with
      | (storage, .error cause) => ({ palette, storage }, .error cause)
      | (widened, .ok ()) =>
          match widened.set (.ofNat cell) (.ofNat id) with
          | .error cause => ({ palette, storage := widened }, .error cause)
          | .ok storage => ({ palette, storage }, .ok previous)

/-- The state at a coordinate. -/
def get (slab : Section) (x y z : Number) : Except StorageError BlockState := do
  let cell ← cellIndex x y z
  slab.block cell

/-- Sets the state at a coordinate and returns the state that was there. -/
def set
    (slab : Section)
    (x y z : Number)
    (state : BlockState) :
    Section × Except StorageError BlockState :=
  match cellIndex x y z with
  | .error cause => (slab, .error cause)
  | .ok cell => slab.setBlock cell state

/-- Sets states one after another up to the first failure, and returns the states that were there. -/
def setEach
    (slab : Section)
    (writes : List ((Number × Number × Number) × BlockState)) :
    Section × Except StorageError (List BlockState) :=
  match writes with
  | [] => (slab, .ok [])
  | ((x, y, z), state) :: rest =>
      match slab.set x y z state with
      | (left, .error cause) => (left, .error cause)
      | (written, .ok previous) =>
          let (final, outcome) := setEach written rest
          (final, outcome.map (previous :: ·))

/-- The states of all blocks, in order. -/
def blocks (slab : Section) : Except StorageError (List BlockState) :=
  (List.range slab.storage.size).mapM slab.block

/-- Whether every block has the default state. -/
def isEmpty (slab : Section) : Bool :=
  (List.range slab.storage.size).all fun cell => slab.storage.cell cell == 0

/-! ## World files -/

/-- The first data version whose world files use the padded layout. -/
def paddedDataVersion : Nat := 2529

/-- World files never use fewer bits per block. -/
def minWorldBits : Nat := 4

/-- The bits per block that a world file uses for a palette of this size. -/
def worldBits (paletteSize : Nat) : Nat :=
  max minWorldBits (bitsNeeded (paletteSize - 1))

/-- Whether a world file of a data version uses the padded layout. -/
def isPaddedVersion (dataVersion : Number) : Bool :=
  (Number.ofNat paddedDataVersion).le dataVersion

/-- The section of a world file's palette and longs, with the default state moved to id `0`. -/
def ofWorld
    (defaultState : BlockState)
    (world : List BlockState)
    (longs : List Int)
    (dataVersion : Number) :
    Except StorageError Section := do
  if world.isEmpty then
    throw .emptyWorldPalette
  else
    let (palette, ids) := (Palette.make defaultState).insertMany world
    let maxValue := lowMask (worldBits world.length)
    let stored ← PackedArray.ofLongs longs
      (.ofNat cellCount) (.ofNat maxValue) (isPaddedVersion dataVersion)
    let storage ← PackedArray.finished ((Remap.ofIds ids).apply stored)
    make palette storage

/-! ## Merging -/

/-- Adds the states to a palette, and gives the blocks as ids of that palette. -/
def mergeInto
    (slab : Section)
    (palette : Palette) :
    Palette × Except StorageError (PackedArray .contiguous) :=
  match slab.storage.relayout .contiguous with
  | .error cause => (palette, .error cause)
  | .ok cells =>
      let (grown, remap) := palette.addAll slab.palette
      (grown, PackedArray.finished (remap.apply cells))

/-! ## Compaction -/

/-- The ids from `1` on that no value equals, the highest first. -/
def unusedIds (size : Nat) (values : List Nat) : List Nat :=
  ((List.range size).filter fun id => id != 0 && !values.contains id).reverse

/-- What compaction leaves behind, also when it fails on the way. -/
structure Compaction where
  palette : Palette
  /-- The storage in use so far, renumbered by the removals. -/
  storage : PackedArray .padded
  /-- The storage that replaces it. -/
  outcome : Except StorageError (PackedArray .padded)

/-- The storage with the bound that the palette needs. -/
def repack
    (palette : Palette)
    (storage : PackedArray .padded) :
    Except StorageError (PackedArray .padded) := do
  let bound ← PackedArray.checkMaxValue (.ofNat (palette.size - 1))
  PackedArray.ofValues .padded cellCount bound storage.values

/-- Removes ids in the order given, renumbering the storage after each, and repacks it at the end. -/
def removeIds
    (palette : Palette)
    (storage : PackedArray .padded) :
    List Nat → Compaction
  | [] => { palette, storage, outcome := repack palette storage }
  | id :: rest =>
      match palette.removeId (.ofNat id) with
      | .error cause => { palette, storage, outcome := .error cause }
      | .ok (smaller, remap) =>
          match remap.apply storage with
          | (left, .error cause) => { palette := smaller, storage := left, outcome := .error cause }
          | (renumbered, .ok ()) => removeIds smaller renumbered rest

/-- The compaction of a section. -/
def compaction (slab : Section) : Compaction :=
  removeIds slab.palette slab.storage (unusedIds slab.palette.size slab.storage.values)

/-- The section after its compaction, and whether that went to the end. -/
def compact (slab : Section) : Section × Except StorageError Unit :=
  let result := slab.compaction
  match result.outcome with
  | .ok storage => ({ palette := result.palette, storage }, .ok ())
  | .error cause => ({ palette := result.palette, storage := result.storage }, .error cause)

end Section

end BlockVolume
