import BlockVolume.Block.State
import BlockVolume.Storage.Width

namespace BlockVolume

/-!
# Why an operation on stored blocks fails

One cause per rule, for packed arrays, remaps, palettes, sections and chunks.
A cause determines the kind, the message and the refused index or value.
-/

/-- The axes of a section. -/
inductive Axis where
  | x
  | y
  | z
  deriving Repr, DecidableEq

namespace Axis

/-- The letter of an axis. -/
def name : Axis → String
  | .x => "x"
  | .y => "y"
  | .z => "z"

end Axis

/-- The causes of failure. -/
inductive StorageError where
  | invalidSize (size : Number)
  | invalidMaxValue (maxValue : Number)
  | storeTooLong (limbs : Nat)
  | storeNotAllocated
  | cellOutOfBounds (index : Number) (size : Nat)
  | notNatural (value : Number)
  | exceedsMaxValue (value : Number) (maxValue : Nat)
  | tooFewWords (size words : Nat)
  | tooFewBytes (size width bytes : Nat)
  | remapLocked
  | remapUnlocked
  | remapApplied
  | invalidId (id : Number)
  | conflictingId (old known new : Nat)
  | unmappedId (id : Number)
  | unknownId (id : Number) (size : Nat)
  | defaultStateRemoved (state : BlockState)
  | sectionSize (size : Nat)
  | strayId (id size cell : Nat)
  | offAxis (axis : Axis) (coordinate : Number)
  | emptyWorldPalette
  | outsideChunk (x y z : Number)
  | noSuchSection (index : Number)
  | defaultStateMismatch (found expected : BlockState)
  | invalidDataVersion (version : Number)
  deriving Repr, DecidableEq

namespace StorageError

/-- Naturals appear in messages as numbers do. -/
def natText (value : Nat) : String :=
  (Number.ofNat value).text

/-- A cause as its caller sees it. -/
def failure : StorageError → Failure
  | .invalidSize size =>
      .invalidValue size "size must be a non-negative integer"
  | .invalidMaxValue maxValue =>
      .invalidValue maxValue s!"max value must be an integer in [0, {maxCellValue}]"
  | .storeTooLong limbs =>
      .plain .range s!"Invalid typed array length: {natText limbs}"
  | .storeNotAllocated =>
      .plain .range "Array buffer allocation failed"
  | .cellOutOfBounds index size =>
      .outOfBounds (.number index) s!"size {size}"
  | .notNatural value =>
      .invalidValue value "not a non-negative integer"
  | .exceedsMaxValue value maxValue =>
      .invalidValue value s!"exceeds max value {maxValue}"
  | .tooFewWords size words =>
      .plain .range s!"Cannot store {size} values in {words} words"
  | .tooFewBytes size width bytes =>
      .plain .range s!"Cannot store {size} values of {width} bits in {bytes} bytes"
  | .remapLocked =>
      .plain .palette "Cannot register changes on a locked upgrader"
  | .remapUnlocked =>
      .plain .palette "Upgrader must be locked before it is applied"
  | .remapApplied =>
      .plain .palette "Upgrader was already applied to this array"
  | .invalidId id =>
      .invalidValue id "palette ids are non-negative integers"
  | .conflictingId old known new =>
      .plain .palette
        s!"Id {natText old} is already upgraded to {natText known}, not {natText new}"
  | .unmappedId id =>
      .plain .palette s!"No new id registered for id {id.text}"
  | .unknownId id size =>
      .outOfBounds (.number id) s!"palette of {size}"
  | .defaultStateRemoved state =>
      .plain .palette s!"Cannot remove the default state from a palette: {state.text}"
  | .sectionSize size =>
      .plain .range s!"Section storage must hold 4096 blocks, got {size}"
  | .strayId id size cell =>
      .outOfBounds (.number (.ofNat id)) s!"palette of {size} at block {cell}"
  | .offAxis axis coordinate =>
      .outOfBounds
        (.label s!"{axis.name}={coordinate.text}")
        s!"section {axis.name} 0..15"
  | .emptyWorldPalette =>
      .plain .general "Section palette is empty"
  | .outsideChunk x y z =>
      .outOfBounds (.label s!"({x.text}, {y.text}, {z.text})") "chunk 16x256x16"
  | .noSuchSection index =>
      .outOfBounds (.number index) "16 sections"
  | .defaultStateMismatch found expected =>
      .plain .general
        s!"Section default state {found.text} doesn't match chunk default {expected.text}"
  | .invalidDataVersion version =>
      .plain .range s!"Invalid data version: {version.text}"

end StorageError

end BlockVolume
