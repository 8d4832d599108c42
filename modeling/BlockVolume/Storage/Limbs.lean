import BlockVolume.Storage.Width

namespace BlockVolume

/-!
# Bit ranges in rows of limbs

A store is a row of limbs of one width, the least significant limb first, and
is read as one long string of bits. A bit range is cut at the limb borders
into pieces, lowest bits first; reading joins the pieces, and writing replaces
each piece in its limb and touches no other bit.
-/

/-- The part of a bit range that lies in one limb. -/
structure Piece where
  /-- The limb that holds the piece. -/
  limb : Nat
  /-- The lowest bit of the piece inside its limb. -/
  offset : Nat
  /-- The number of bits of the piece. -/
  width : Nat
  /-- The lowest bit of the piece inside the range. -/
  shift : Nat
  deriving Repr, DecidableEq

/-- The pieces of the range of `width` bits from `position` on, lowest first. -/
def pieces (limbBits position width : Nat) : List Piece :=
  let first := position / limbBits
  let offset := position % limbBits
  let count := (offset + width + limbBits - 1) / limbBits
  (List.range count).map fun index =>
    let start := index * limbBits - offset
    { limb := first + index
      offset := offset - index * limbBits
      width := min width ((index + 1) * limbBits - offset) - start
      shift := start }

namespace Limbs

variable {limbBits : Nat}

/-- The bits of one piece; a limb outside the row reads as zero. -/
def extract (limbs : Array (BitVec limbBits)) (piece : Piece) : Nat :=
  match limbs[piece.limb]? with
  | some limb => limb.toNat >>> piece.offset &&& lowMask piece.width
  | none => 0

/-- The value of the range of `width` bits from `position` on. -/
def read
    (limbs : Array (BitVec limbBits))
    (position width : Nat) :
    Nat :=
  (pieces limbBits position width).foldl
    (fun value piece => value ||| extract limbs piece <<< piece.shift)
    0

/-- A limb with `width` bits from `offset` on replaced by the lowest bits of a value. -/
def splice
    (limb : BitVec limbBits)
    (offset width value : Nat) :
    BitVec limbBits :=
  let changed := (limb.toNat >>> offset ^^^ value) &&& lowMask width
  BitVec.ofNat limbBits (limb.toNat ^^^ changed <<< offset)

/-- Replaces one piece by the bits of the range's value that belong to it. -/
def insert
    (limbs : Array (BitVec limbBits))
    (value : Nat)
    (piece : Piece) :
    Array (BitVec limbBits) :=
  limbs.modify piece.limb fun limb =>
    splice limb piece.offset piece.width (value >>> piece.shift)

/-- Replaces the range of `width` bits from `position` on by the lowest bits of a value. -/
def write
    (limbs : Array (BitVec limbBits))
    (position width value : Nat) :
    Array (BitVec limbBits) :=
  (pieces limbBits position width).foldl
    (fun written piece => insert written value piece)
    limbs

/-- The natural that the whole row spells. -/
def toNat (limbs : Array (BitVec limbBits)) : Nat :=
  limbs.foldr (fun limb high => limb.toNat + high <<< limbBits) 0

/-- Inserting a piece replaces a limb and never adds or drops one. -/
@[simp]
theorem size_insert
    (limbs : Array (BitVec limbBits))
    (value : Nat)
    (piece : Piece) :
    (insert limbs value piece).size = limbs.size := by
  simp [insert]

/-- Writing replaces limbs and never adds or drops one. -/
@[simp]
theorem size_write
    (limbs : Array (BitVec limbBits))
    (position width value : Nat) :
    (write limbs position width value).size = limbs.size := by
  unfold write
  induction pieces limbBits position width generalizing limbs with
  | nil => rfl
  | cons piece rest inductionHypothesis => rw [List.foldl_cons, inductionHypothesis, size_insert]

end Limbs

end BlockVolume
