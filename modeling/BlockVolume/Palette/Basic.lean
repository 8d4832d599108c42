import BlockVolume.Palette.Remap

namespace BlockVolume

/-!
# Palettes

A palette lists the distinct block states of a volume; the id of a state is
its place in the list. Place `0` belongs to the default state, which cannot be
removed. Ids have no gaps: removing a state moves every later one down by one,
and the remap that comes with the removal says so.

A table from state keys to ids stands beside the list, so that a state is
found without a search.
-/

/-- The distinct block states of a volume. -/
structure Palette where
  /-- The state of id `0`. -/
  defaultState : BlockState
  /-- The states of the ids from `1` on. -/
  others : Array BlockState
  /-- The id of each key. -/
  ids : Std.TreeMap String Nat

namespace Palette

/-- The palette of a default state alone. -/
def make (defaultState : BlockState) : Palette :=
  { defaultState
    others := #[]
    ids := (∅ : Std.TreeMap String Nat).insert defaultState.key 0 }

instance : Inhabited Palette where
  default := make .air

/-- The number of states. -/
def size (palette : Palette) : Nat :=
  palette.others.size + 1

/-- The states in the order of their ids. -/
def states (palette : Palette) : List BlockState :=
  palette.defaultState :: palette.others.toList

/-- The state of an id. -/
def state? (palette : Palette) : Nat → Option BlockState
  | 0 => some palette.defaultState
  | id + 1 => palette.others[id]?

/-- The state of the id that a number denotes. -/
def state (palette : Palette) (id : Number) : Except StorageError BlockState :=
  match id.toNat?.bind palette.state? with
  | some state => .ok state
  | none => .error (.unknownId id palette.size)

/-- The id of a state. -/
def id? (palette : Palette) (state : BlockState) : Option Nat :=
  palette.ids[state.key]?

/-- The palette with a state, which is added at the end if it is not there, and the state's id. -/
def insert (palette : Palette) (state : BlockState) : Palette × Nat :=
  match palette.id? state with
  | some id => (palette, id)
  | none =>
      let id := palette.size
      ({ palette with
          others := palette.others.push state
          ids := palette.ids.insert state.key id }, id)

/-- Inserts states one after another and collects their ids. -/
def insertMany (palette : Palette) : List BlockState → Palette × List Nat
  | [] => (palette, [])
  | state :: rest =>
      let (inserted, id) := palette.insert state
      let (final, ids) := insertMany inserted rest
      (final, id :: ids)

/-- Adds the states of another palette; the remap sends that palette's ids to the ids here. -/
def addAll (palette other : Palette) : Palette × Remap :=
  let (grown, ids) := palette.insertMany other.states
  (grown, .ofIds ids)

/-- Gives the states from a place of `others` on the ids of their places. -/
def reindexFrom (palette : Palette) (place : Nat) : Palette :=
  let ids := (palette.others.toList.zipIdx.drop place).foldl
    (fun ids entry => ids.insert entry.1.key (entry.2 + 1))
    palette.ids
  { palette with ids }

/-- Removes the state at a place of `others` and closes the gap. -/
def removePlace
    (palette : Palette)
    (place : Nat)
    (inside : place < palette.others.size) :
    Palette × Remap :=
  let removed := palette.others[place]
  let shortened : Palette :=
    { palette with
      others := palette.others.eraseIdx place inside
      ids := palette.ids.erase removed.key }
  if place + 1 = palette.others.size then
    (shortened, .identity)
  else
    (shortened.reindexFrom place, .closingGap (place + 1) shortened.size)

/-- Removes the state of an id; the default state stays, and an id without a state changes nothing. -/
def removeId
    (palette : Palette)
    (id : Number) :
    Except StorageError (Palette × Remap) :=
  match id.toNat? with
  | some 0 => .error (.defaultStateRemoved palette.defaultState)
  | some (place + 1) =>
      if inside : place < palette.others.size then
        .ok (palette.removePlace place inside)
      else
        .ok (palette, .identity)
  | none => .ok (palette, .identity)

/-- Removes a state; one that is not there changes nothing. -/
def removeState
    (palette : Palette)
    (state : BlockState) :
    Except StorageError (Palette × Remap) :=
  match palette.id? state with
  | some id => palette.removeId (.ofNat id)
  | none => .ok (palette, .identity)

/-- The ids with their states, as text. -/
def text (palette : Palette) : String :=
  let entries := palette.states.zipIdx.map fun entry => s!"{entry.2}: {entry.1.text}"
  "\x7b" ++ ", ".intercalate entries ++ "\x7d"

/-- The state of an id is the one at its place in the list. -/
theorem state?_eq_getElem?
    (palette : Palette)
    (id : Nat) :
    palette.state? id = palette.states[id]? := by
  cases id <;> simp [state?, states]

/-- The list is as long as the palette. -/
@[simp]
theorem length_states (palette : Palette) : palette.states.length = palette.size := by
  simp [states, size]

end Palette

end BlockVolume
