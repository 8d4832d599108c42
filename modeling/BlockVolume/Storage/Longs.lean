import BlockVolume.Storage.PackedArray

namespace BlockVolume

/-!
# Longs and bytes

World files store cells as longs, signed 64-bit integers; any integer is
accepted and counts modulo `2 ^ 64`. Long lists exist in both layouts: padded
ones hold the words themselves, older ones a contiguous row of cells that may
span two longs. Serialized chunks hold the contiguous layout as bytes.
-/

namespace Long

/-- `2 ^ 64`, the number of words. -/
def modulus : Nat := 18446744073709551616

/-- The residue of an integer modulo `2 ^ 64`. -/
def toWord (long : Int) : Nat :=
  (long % modulus).toNat

/-- The signed integer of a 64-bit word. -/
def ofWord (word : Nat) : Int :=
  (word : Int).bmod modulus

/-- The two halves of a long, the low half first. -/
def halves (long : Int) : List (Limb .padded) :=
  let word := toWord long
  [BitVec.ofNat 32 word, BitVec.ofNat 32 (word >>> 32)]

/-- The eight bytes of a long, the lowest first. -/
def bytes (long : Int) : List Byte :=
  let word := toWord long
  (List.range 8).map fun index => BitVec.ofNat 8 (word >>> (8 * index))

/-- The signed integer that two halves spell, the low half first. -/
def ofHalves (low high : Limb .padded) : Int :=
  ofWord (high.toNat <<< 32 + low.toNat)

end Long

namespace PackedArray

/-- A contiguous array laid over bytes, which must suffice; further bytes stay as they are. -/
def overBytes
    (size maxValue : Number)
    (bytes : Array Byte) :
    Except StorageError (PackedArray .contiguous) := do
  let (count, bound) ← checkDimensions size maxValue
  if bytes.size < Layout.bytesNeeded count (bitsNeeded bound) then
    throw (.tooFewBytes count (bitsNeeded bound) bytes.size)
  else
    return { size := count, maxValue := bound, limbs := bytes }

/-- The bytes in use. -/
def toBytes (array : PackedArray .contiguous) : Array Byte :=
  array.limbs.extract 0 (Layout.bytesNeeded array.size array.width)

/-- The padded array whose words are longs, of which the first ones that it needs are kept. -/
def ofPaddedLongs
    (longs : List Int)
    (size maxValue : Nat) :
    Except StorageError (PackedArray .padded) := do
  let needed := Layout.wordsNeeded size (bitsNeeded maxValue)
  if longs.length < needed then
    throw (.tooFewWords size longs.length)
  else
    let array : PackedArray .padded :=
      { size, maxValue, limbs := ((longs.take needed).flatMap Long.halves).toArray }
    checkValues array.values maxValue
    return array

/-- The padded array of the cells that longs hold contiguously. -/
def ofContiguousLongs
    (longs : List Int)
    (size maxValue : Nat) :
    Except StorageError (PackedArray .padded) := do
  let bytes := (longs.flatMap Long.bytes).toArray
  let array ← overBytes (.ofNat size) (.ofNat maxValue) bytes
  array.relayout .padded

/-- The padded array that longs spell in either layout. -/
def ofLongs
    (longs : List Int)
    (size maxValue : Number)
    (isPadded : Bool) :
    Except StorageError (PackedArray .padded) := do
  let (count, bound) ← checkNew .padded size maxValue
  if isPadded then
    ofPaddedLongs longs count bound
  else
    ofContiguousLongs longs count bound

/-- A word of a padded array as a long. -/
def long (array : PackedArray .padded) (word : Nat) : Int :=
  Long.ofHalves (array.limbs.getD (2 * word) 0) (array.limbs.getD (2 * word + 1) 0)

/-- The words of a padded array as longs. -/
def toLongs (array : PackedArray .padded) : List Int :=
  (List.range (array.limbs.size / 2)).map array.long

end PackedArray

end BlockVolume
