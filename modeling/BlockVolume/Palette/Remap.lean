import Std.Data.TreeMap
import BlockVolume.Storage.PackedArray

namespace BlockVolume

/-!
# Remaps

A change of a palette moves ids. A remap is the batch of these changes, old id
to new id, to be applied to the arrays that store ids of that palette. Changes
are registered, the remap is locked, and then each dependent array is
renumbered once: a second application would read the new ids as old ones, so it
is refused. Arrays are told apart by a name, since two arrays may hold the
same cells.

A renumbering is simultaneous and all or nothing: either every cell has a new id
and the array can hold them, or the array stays as it is.
-/

/-- A batch of changes of ids. -/
structure Remap where
  /-- Ids below this number keep their value unless they are registered. -/
  unchangedBelow : Number
  /-- Old ids with their new ids, in the order of registration. -/
  changes : List (Nat × Nat)
  /-- Whether registration has ended. -/
  locked : Bool
  /-- The names of the arrays that were renumbered. -/
  applied : List Nat
  deriving Repr, DecidableEq

namespace Remap

/-- A remap without changes, open for registration. -/
def make (unchangedBelow : Number) : Remap :=
  { unchangedBelow, changes := [], locked := false, applied := [] }

/-- The locked remap without changes, for palette changes that move no id. -/
def identity : Remap :=
  { make 0 with locked := true }

/-- The locked remap that sends `0, 1, 2, …` to the ids of a list. -/
def ofIds (ids : List Nat) : Remap :=
  { unchangedBelow := 0
    changes := ids.zipIdx.map fun entry => (entry.2, entry.1)
    locked := true
    applied := [] }

/-- The locked remap that closes the gap that a removed id leaves below `size` ids. -/
def closingGap (removed size : Nat) : Remap :=
  { unchangedBelow := .ofNat removed
    changes := (List.range' removed (size - removed)).map fun new => (new + 1, new)
    locked := true
    applied := [] }

/-- Ends registration. -/
def lock (remap : Remap) : Remap :=
  { remap with locked := true }

/-- The registered new id of an id. -/
def registered? (remap : Remap) (id : Nat) : Option Nat :=
  remap.changes.lookup id

/-- The id that a number denotes. -/
def checkId (id : Number) : Except StorageError Nat :=
  match id.toNat? with
  | some natural => .ok natural
  | none => .error (.invalidId id)

/-- Registers a change; an old id may be registered again only with the same new id. -/
def register
    (remap : Remap)
    (old new : Number) :
    Except StorageError Remap := do
  if remap.locked then
    throw .remapLocked
  else
    let oldId ← checkId old
    let newId ← checkId new
    match remap.registered? oldId with
    | none => return { remap with changes := remap.changes ++ [(oldId, newId)] }
    | some known =>
        if known = newId then
          return remap
        else
          throw (.conflictingId oldId known newId)

/-- The new id of any number: registered, or the number itself below the bound. -/
def newId (remap : Remap) (id : Number) : Except StorageError Number :=
  match id.toNat?.bind remap.registered? with
  | some new => .ok (.ofNat new)
  | none =>
      if id.lt remap.unchangedBelow then
        .ok id
      else
        .error (.unmappedId id)

/-- The registered changes as a table for many lookups. -/
def table (remap : Remap) : Std.TreeMap Nat Nat :=
  Std.TreeMap.ofList remap.changes

/-- The new id of a cell, looked up in the table. -/
def newCell
    (remap : Remap)
    (table : Std.TreeMap Nat Nat)
    (id : Nat) :
    Except StorageError Nat :=
  match table[id]? with
  | some new => .ok new
  | none =>
      if (Number.ofNat id).lt remap.unchangedBelow then
        .ok id
      else
        .error (.unmappedId (.ofNat id))

/-- The largest natural of a list, or zero. -/
def largest (values : List Nat) : Nat :=
  values.foldl max 0

/-- Gives every cell its new id, after raising the bound to the largest of all new ids. -/
def renumber
    (remap : Remap)
    {layout : Layout}
    (array : PackedArray layout) :
    PackedArray layout × Except StorageError Unit :=
  match array.values.mapM (remap.newCell remap.table) with
  | .error cause => (array, .error cause)
  | .ok newValues =>
      let highest := largest (remap.changes.map (·.2) ++ newValues)
      match array.widen (.ofNat highest) with
      | (widened, .error cause) => (widened, .error cause)
      | (widened, .ok ()) => widened.setEach (PackedArray.placed newValues)

/-- Applies a locked remap to an array; without changes nothing happens. -/
def apply
    (remap : Remap)
    {layout : Layout}
    (array : PackedArray layout) :
    PackedArray layout × Except StorageError Unit :=
  if remap.locked then
    if remap.changes.isEmpty then (array, .ok ()) else remap.renumber array
  else
    (array, .error .remapUnlocked)

/-- The remap that knows the array of a name as renumbered, if it has changes at all. -/
def recorded (remap : Remap) (name : Nat) : Remap :=
  if remap.changes.isEmpty then remap else { remap with applied := name :: remap.applied }

/-- Applies a locked remap to the array of a name, which it renumbers at most once. -/
def upgrade
    (remap : Remap)
    {layout : Layout}
    (name : Nat)
    (array : PackedArray layout) :
    PackedArray layout × Except StorageError Remap :=
  if remap.locked ∧ remap.changes ≠ [] ∧ name ∈ remap.applied then
    (array, .error .remapApplied)
  else
    let (renumbered, outcome) := remap.apply array
    (renumbered, outcome.map fun _ => remap.recorded name)

/-- The changes as text. -/
def text (remap : Remap) : String :=
  let changes := remap.changes.map fun change =>
    s!"{StorageError.natText change.1} -> {StorageError.natText change.2}"
  "PaletteUpgrader \x7b" ++ ", ".intercalate changes ++ "\x7d"

/-- A locked remap takes no change. -/
theorem register_locked
    {remap : Remap}
    (isLocked : remap.locked = true)
    (old new : Number) :
    remap.register old new = .error .remapLocked := by
  simp [register, isLocked]
  rfl

end Remap

end BlockVolume
