import BlockVolume.Number.Rounding
import BlockVolume.Storage.Limbs

namespace BlockVolume

/-!
# Layouts of packed cells

There are two ways to lay out cells of one width in a row of limbs. In the
padded layout, that of world files, a cell never spans two 64-bit words, whose
unused high bits pad; each word is kept as two 32-bit halves, the low half
first. In the contiguous layout, that of serialized chunks, cells follow each
other in bytes without a gap.
-/

/-- The two layouts. -/
inductive Layout where
  | padded
  | contiguous
  deriving Repr, DecidableEq

namespace Layout

/-- The bits of a word of the padded layout. -/
def wordBits : Nat := 64

/-- The bits of a limb. -/
def limbBits : Layout → Nat
  | .padded => 32
  | .contiguous => 8

/-- The bytes of a limb. -/
def limbBytes : Layout → Nat
  | .padded => 4
  | .contiguous => 1

/-- How many cells of a width fit into one word. -/
def cellsPerWord (width : Nat) : Nat :=
  wordBits / width

/-- A quotient, rounded up. -/
def ceilDiv (dividend divisor : Nat) : Nat :=
  (dividend + divisor - 1) / divisor

/-- The words that hold so many cells of a width in the padded layout. -/
def wordsNeeded (size width : Nat) : Nat :=
  ceilDiv size (cellsPerWord width)

/-- The bytes that hold so many cells of a width in the contiguous layout. -/
def bytesNeeded (size width : Nat) : Nat :=
  ceilDiv (size * width) 8

/-- The limbs that hold so many cells of a width. -/
def limbsNeeded (layout : Layout) (size width : Nat) : Nat :=
  match layout with
  | .padded => 2 * wordsNeeded size width
  | .contiguous => bytesNeeded size width

/--
The limbs that a new store asks for. The number of bits of the contiguous
layout is a double, so beyond the safe limit it is rounded before it is split
into bytes.
-/
def limbsRequested (layout : Layout) (size width : Nat) : Nat :=
  match layout with
  | .padded => 2 * wordsNeeded size width
  | .contiguous => ceilDiv (Number.roundNat (size * width)) 8

/-- The lowest bit of a cell in the row of limbs. -/
def position (layout : Layout) (width index : Nat) : Nat :=
  match layout with
  | .padded =>
      let cells := cellsPerWord width
      wordBits * (index / cells) + width * (index % cells)
  | .contiguous => width * index

/-- A limb is as many bytes as its bits fill. -/
theorem limbBits_eq (layout : Layout) : layout.limbBits = 8 * layout.limbBytes := by
  cases layout <;> rfl

end Layout

/-- A byte of the contiguous layout. -/
abbrev Byte := BitVec 8

/-- The limb of a layout. -/
abbrev Limb (layout : Layout) := BitVec layout.limbBits

end BlockVolume
