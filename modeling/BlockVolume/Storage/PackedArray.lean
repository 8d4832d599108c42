import BlockVolume.Storage.Error
import BlockVolume.Storage.Layout

namespace BlockVolume

/-!
# Packed arrays

A packed array is a fixed number of cells, each a natural at most the array's
bound, in the fewest bits that the bound needs. Raising the bound keeps every
cell and moves them all when they need more bits; the bound never falls. Both
layouts share these definitions and differ only in where a cell lies.

An array laid over given bytes or words may hold cells above its bound. Reading
shows them as they are, and writing them elsewhere is refused.

Memory is asked for when an array is made, since its size is the caller's and may
be any: a store that is too long is refused. Of an array that exists it is assumed
that memory never runs out. Widening it and copying its cells into a new array take
a store of any length, and are not refused for want of one.
-/

/-- Cells of one width in a row of limbs. -/
structure PackedArray (layout : Layout) where
  size : Nat
  maxValue : Nat
  limbs : Array (Limb layout)
  deriving Repr, DecidableEq

namespace PackedArray

variable {layout : Layout}

/-- The bits of each cell. -/
def width (array : PackedArray layout) : Nat :=
  bitsNeeded array.maxValue

/-- The bytes of backing store in use. -/
def byteLength (array : PackedArray layout) : Nat :=
  layout.limbBytes * layout.limbsNeeded array.size array.width

/-- The value of a cell. -/
def cell (array : PackedArray layout) (index : Nat) : Nat :=
  Limbs.read array.limbs (layout.position array.width index) array.width

/-- The array with one cell replaced. -/
def setCell
    (array : PackedArray layout)
    (index value : Nat) :
    PackedArray layout :=
  let position := layout.position array.width index
  { array with limbs := Limbs.write array.limbs position array.width value }

/-- The values of all cells, in order. -/
def values (array : PackedArray layout) : List Nat :=
  (List.range array.size).map array.cell

/-- The array whose cells are all zero. -/
def zeros (layout : Layout) (size maxValue : Nat) : PackedArray layout :=
  { size
    maxValue
    limbs := Array.replicate (layout.limbsNeeded size (bitsNeeded maxValue)) (BitVec.ofNat _ 0) }

/-! ## Checks -/

/-- The bound that a number denotes. -/
def checkMaxValue (maxValue : Number) : Except StorageError Nat :=
  match maxValue.toNat? with
  | some bound =>
      if bound ≤ maxCellValue then .ok bound else .error (.invalidMaxValue maxValue)
  | none => .error (.invalidMaxValue maxValue)

/-- The size and the bound that two numbers denote, the size being checked first. -/
def checkDimensions (size maxValue : Number) : Except StorageError (Nat × Nat) :=
  match size.toSafeNat? with
  | some count => (checkMaxValue maxValue).map fun bound => (count, bound)
  | none => .error (.invalidSize size)

/-- `2 ^ 53 - 1`, the most bytes that a store can be asked for. -/
def maxStoreBytes : Nat := 9007199254740991

/--
`2 ^ 36`, the most bytes that the store of a new array takes. It stands for the
memory of a machine, of which no more is assumed.
-/
def allocatableBytes : Nat := 68719476736

/-- Requires a new store of so many limbs to be one that can be allocated. -/
def checkStore (layout : Layout) (limbs : Nat) : Except StorageError Unit :=
  let bytes := layout.limbBytes * limbs
  if maxStoreBytes < bytes then
    .error (.storeTooLong limbs)
  else if allocatableBytes < bytes then
    .error .storeNotAllocated
  else
    .ok ()

/-- The size and the bound of a new array with a store of its own. -/
def checkNew
    (layout : Layout)
    (size maxValue : Number) :
    Except StorageError (Nat × Nat) := do
  let (count, bound) ← checkDimensions size maxValue
  checkStore layout (layout.limbsRequested count (bitsNeeded bound))
  return (count, bound)

/-- The cell that a number denotes. -/
def checkIndex
    (array : PackedArray layout)
    (index : Number) :
    Except StorageError (Fin array.size) :=
  match index.below? array.size with
  | some place => .ok place
  | none => .error (.cellOutOfBounds index array.size)

/-- The value within a bound that a number denotes. -/
def checkValue (value : Number) (maxValue : Nat) : Except StorageError Nat :=
  match value.toNat? with
  | some natural =>
      if natural ≤ maxValue then .ok natural else .error (.exceedsMaxValue value maxValue)
  | none => .error (.notNatural value)

/-- The cell and the value that a write denotes; the index is checked first. -/
def checkWrite
    (array : PackedArray layout)
    (index value : Number) :
    Except StorageError (Fin array.size × Nat) := do
  let place ← array.checkIndex index
  let natural ← checkValue value array.maxValue
  return (place, natural)

/-- Requires every value of a list to be within a bound; the first that is not is named. -/
def checkValues (values : List Nat) (maxValue : Nat) : Except StorageError Unit :=
  match values.find? (maxValue < ·) with
  | some value => .error (.exceedsMaxValue (.ofNat value) maxValue)
  | none => .ok ()

/-! ## Operations -/

/-- A new array whose cells are all zero. -/
def make
    (layout : Layout)
    (size maxValue : Number) :
    Except StorageError (PackedArray layout) := do
  let (count, bound) ← checkNew layout size maxValue
  return zeros layout count bound

/-- The value at an index. -/
def get
    (array : PackedArray layout)
    (index : Number) :
    Except StorageError Nat :=
  (array.checkIndex index).map fun place => array.cell place.val

/-- Sets the value at an index. -/
def set
    (array : PackedArray layout)
    (index value : Number) :
    Except StorageError (PackedArray layout) :=
  (array.checkWrite index value).map fun write => array.setCell write.1 write.2

/-- Sets values one after another, up to the first failure. -/
def setEach
    (array : PackedArray layout)
    (writes : List (Number × Number)) :
    PackedArray layout × Except StorageError Unit :=
  match writes with
  | [] => (array, .ok ())
  | (index, value) :: rest =>
      match array.checkWrite index value with
      | .error cause => (array, .error cause)
      | .ok (place, natural) => setEach (array.setCell place natural) rest

/-- The writes that put the values of a list into the first cells, in order. -/
def placed (values : List Nat) : List (Number × Number) :=
  values.zipIdx.map fun entry => (.ofNat entry.2, .ofNat entry.1)

/--
Raises the bound, which never falls. Cells that need more bits are written one
by one into a new store, which is assumed to be there however long it has to be.
-/
def widen
    (array : PackedArray layout)
    (maxValue : Number) :
    PackedArray layout × Except StorageError Unit :=
  match checkMaxValue maxValue with
  | .error cause => (array, .error cause)
  | .ok bound =>
      if bound ≤ array.maxValue then
        (array, .ok ())
      else if bitsNeeded bound = array.width then
        ({ array with maxValue := bound }, .ok ())
      else
        (zeros layout array.size bound).setEach (placed array.values)

/-- What a finished operation leaves behind, or the cause that stopped it. -/
def finished
    (result : PackedArray layout × Except StorageError Unit) :
    Except StorageError (PackedArray layout) :=
  result.2.map fun _ => result.1

/--
A new array of the values of a list, or the refusal of the first value above
its bound. The values were stored before, so memory for them is assumed.
-/
def ofValues
    (layout : Layout)
    (size maxValue : Nat)
    (values : List Nat) :
    Except StorageError (PackedArray layout) :=
  finished ((zeros layout size maxValue).setEach (placed values))

/-- The same cells in the other layout, or in this one without slack. -/
def relayout
    (array : PackedArray layout)
    (target : Layout) :
    Except StorageError (PackedArray target) :=
  ofValues target array.size array.maxValue array.values

/-- The values in brackets. -/
def text (array : PackedArray layout) : String :=
  "[" ++ ", ".intercalate (array.values.map toString) ++ "]"

/-! ## Shape -/

@[simp]
theorem size_setCell
    (array : PackedArray layout)
    (index value : Nat) :
    (array.setCell index value).size = array.size :=
  rfl

@[simp]
theorem maxValue_setCell
    (array : PackedArray layout)
    (index value : Nat) :
    (array.setCell index value).maxValue = array.maxValue :=
  rfl

@[simp]
theorem length_values (array : PackedArray layout) : array.values.length = array.size := by
  simp [values]

end PackedArray

end BlockVolume
