import BlockVolume.Proofs.Storage.Accesses
import BlockVolume.Proofs.Storage.Operations
import BlockVolume.Proofs.Storage.Rounds

namespace BlockVolume

/-!
# Accesses to bytes

An access to a contiguous array takes its cell chunk by chunk, one byte a round, until all
bits of the cell are moved. The rounds go through the pieces of the cell's bit range, one
after another. So they stay in the bytes that the array needs, move every bit once, and are
five at most, since a cell has 31 bits at most and starts at one of eight places of a byte.
-/

/-! ## Bytes among 32 bits -/

namespace Wrapped

/-- The byte of an integer is the lowest one of its 32 bits. -/
theorem ofInt_eight (value : Int) : BitVec.ofInt 8 value = (bits value).setWidth 8 := by
  apply BitVec.eq_of_toNat_eq
  rw [bits, BitVec.toNat_setWidth, BitVec.toNat_ofInt, BitVec.toNat_ofInt]
  omega

/-- Masking and setting bits of a byte among 32 replaces them in the byte. -/
theorem ofInt_replaced
    (byte : BitVec 8)
    {offset width : Nat}
    (inByte : offset + width ≤ 8)
    (value : Nat) :
    BitVec.ofInt 8
        (bitOr (bitAnd byte.toNat (bitNot (shiftLeft (mask width) offset)))
          (shiftLeft (value &&& lowMask width : Nat) offset)) =
      Limbs.splice byte offset width value := by
  have widened : ((byte.setWidth 32).toNat : Int) = byte.toNat := by
    rw [BitVec.toNat_setWidth_of_le (by decide)]
  have part : value &&& lowMask width < 2 ^ width := by
    rw [and_lowMask, Nat.one_shiftLeft]
    exact Nat.mod_lt _ (Nat.two_pow_pos width)
  refine BitVec.eq_of_getLsbD_eq fun place inPlace => ?_
  have inHalf : place < 32 := by omega
  have startsInHalf : offset < 32 := by omega
  have replaced :=
    Halves.getLsbD_replaced_shifted (byte.setWidth 32) startsInHalf part inHalf
  rw [Halves.replaced, bits_shiftRight, widened, Nat.zero_mod, BitVec.ushiftRight_zero] at replaced
  rw [ofInt_eight, BitVec.getLsbD_setWidth, decide_eq_true inPlace, Bool.true_and, replaced,
    Limbs.getLsbD_splice byte inByte, BitVec.getLsbD_setWidth, decide_eq_true inHalf,
    Bool.true_and]
  by_cases inRange : offset ≤ place ∧ place < offset + width
  · have inPart : place - offset < width := by omega
    rw [if_pos inRange, if_pos inRange, and_lowMask, Nat.one_shiftLeft, Nat.testBit_mod_two_pow,
      decide_eq_true inPart, Bool.true_and]
  · rw [if_neg inRange, if_neg inRange]

end Wrapped

/-! ## Rounds -/

open Wrapped

namespace Access

variable {Carried : Type}

/-- A round for each piece, as long as bits are left. -/
def eachPiece
    (round : Piece → Carried → Access 8 Carried)
    (width byte offset moved : Nat)
    (carried : Carried) :
    Access 8 Carried := do
  let piece := nextPiece width byte offset moved
  if moved < width then
    note (.chunk piece.width)
    let next ← round piece carried
    eachPiece round width (byte + 1) 0 (moved + piece.width) next
  else
    return carried
termination_by width - moved + offset
decreasing_by
  simp only [nextPiece]
  omega

/-- The rounds of an access go through the pieces in order. -/
theorem eachPiece_eq_foldlM
    (round : Piece → Carried → Access 8 Carried)
    (width byte offset moved : Nat)
    (carried : Carried) :
    eachPiece round width byte offset moved carried =
      (cut width byte offset moved).foldlM
        (fun carried piece => do
          note (.chunk piece.width)
          round piece carried)
        carried := by
  fun_induction cut width byte offset moved generalizing carried with
  | case1 byte offset moved piece unfinished inductionHypothesis =>
      rw [eachPiece, if_pos unfinished, List.foldlM_cons]
      simp only [← inductionHypothesis, bind_assoc]
      rfl
  | case2 byte offset moved finished =>
      rw [eachPiece, if_neg finished]
      rfl

/-! ## Reading -/

/-- Joins the piece of a round to the bits that were read before. -/
def readRound (piece : Piece) (value : Int) : Access 8 Int := do
  let shifted ← shiftRight (← load piece.limb) piece.offset
  let part := bitAnd shifted (← mask piece.width)
  return bitOr value (← shiftLeft part piece.shift)

/-- The steps of a round that reads. -/
def readSteps (piece : Piece) : List AccessStep :=
  [.chunk piece.width, .load piece.limb, .shift piece.offset, .shift piece.width, .shift 0,
    .shift piece.shift]

/-- What a piece has of a row, read off its limb. -/
theorem extract_eq (limbs : Array (BitVec 8)) (piece : Piece) :
    Limbs.extract limbs piece =
      (limbs.getD piece.limb 0).toNat >>> piece.offset &&& lowMask piece.width := by
  rw [Limbs.extract, Array.getD_eq_getD_getElem?]
  cases limbs[piece.limb]? with
  | some limb => rfl
  | none => simp

/-- In its place of a cell a piece stays below the sign bit. -/
theorem extract_shifted_lt
    (limbs : Array (BitVec 8))
    {piece : Piece}
    (inCell : piece.shift + piece.width ≤ 31) :
    Limbs.extract limbs piece <<< piece.shift < 2 ^ 31 := by
  have below : Limbs.extract limbs piece < 2 ^ piece.width := by
    rw [extract_eq, and_lowMask, Nat.one_shiftLeft]
    exact Nat.mod_lt _ (Nat.two_pow_pos _)
  rw [Nat.shiftLeft_eq]
  calc Limbs.extract limbs piece * 2 ^ piece.shift
      < 2 ^ piece.width * 2 ^ piece.shift :=
        Nat.mul_lt_mul_of_pos_right below (Nat.two_pow_pos _)
    _ = 2 ^ (piece.shift + piece.width) := by rw [← Nat.pow_add, Nat.add_comm]
    _ ≤ 2 ^ 31 := Nat.pow_le_pow_right Nat.two_pos inCell

theorem takes_readRound
    (limbs : Array (BitVec 8))
    {piece : Piece}
    (inByte : piece.offset + piece.width ≤ 8)
    (inCell : piece.shift + piece.width ≤ 31)
    {value : Nat}
    (small : value < 2 ^ 31) :
    Takes (readRound piece value) limbs
      (value ||| Limbs.extract limbs piece <<< piece.shift : Nat) limbs
      [.load piece.limb, .shift piece.offset, .shift piece.width, .shift 0,
        .shift piece.shift] := by
  have byteSmall : (limbs.getD piece.limb 0).toNat < 2 ^ 32 := by
    have := (limbs.getD piece.limb 0).isLt
    omega
  have partSmall := extract_shifted_lt limbs inCell
  rw [← bitOr_natCast small partSmall, ← shiftLeft_natCast (by omega) partSmall, extract_eq,
    ← masked_natCast byteSmall (by omega) (by omega)]
  exact (takes_load limbs _).bind ((takes_shiftRight limbs _ _).bind
    ((takes_mask limbs (by omega)).bind ((takes_shiftLeft limbs _ _).map _)))

/-- Rounds that read join their pieces. -/
theorem takes_readRounds
    (limbs : Array (BitVec 8))
    {position width : Nat}
    (narrow : width ≤ 31)
    {rounds : List Piece}
    (fit : ∀ piece ∈ rounds, piece.Fits 8 position width)
    {value : Nat}
    (small : value < 2 ^ 31) :
    Takes
      (rounds.foldlM
        (fun carried piece => do
          note (.chunk piece.width)
          readRound piece carried)
        (value : Int))
      limbs
      (rounds.foldl
        (fun value piece => value ||| Limbs.extract limbs piece <<< piece.shift) value : Nat)
      limbs (rounds.flatMap readSteps) := by
  induction rounds generalizing value with
  | nil => exact takes_pure limbs _
  | cons piece rest inductionHypothesis =>
      have fits := fit piece List.mem_cons_self
      have inCell : piece.shift + piece.width ≤ 31 := Nat.le_trans fits.in_range narrow
      have joined : value ||| Limbs.extract limbs piece <<< piece.shift < 2 ^ 31 :=
        Nat.or_lt_two_pow small (extract_shifted_lt limbs inCell)
      rw [List.foldlM_cons]
      exact ((takes_note limbs _).bind (takes_readRound limbs fits.in_limb inCell small)).bind
        (inductionHypothesis (fun other member => fit other (List.mem_cons_of_mem _ member)) joined)

/-- Round by round a bit range is read. -/
theorem takes_read
    (limbs : Array (BitVec 8))
    {width : Nat}
    (positive : 0 < width)
    (narrow : width ≤ 31)
    (position : Nat) :
    Takes (eachPiece readRound width (position / 8) (position % 8) 0 0) limbs
      (Limbs.read limbs position width) limbs
      ((pieces 8 position width).flatMap readSteps) := by
  rw [eachPiece_eq_foldlM, cut_eq_pieces positive]
  exact takes_readRounds limbs narrow (fun _ member => fits_of_mem_pieces (by decide) member)
    (Nat.two_pow_pos 31)

/-! ## Writing -/

/-- Replaces the piece of a round by the bits of a value that belong to it. -/
def writeRound (value : Nat) (piece : Piece) : Access 8 Unit := do
  let ones ← mask piece.width
  let part := bitAnd (← shiftRight value piece.shift) ones
  let kept := bitAnd (← load piece.limb) (bitNot (← shiftLeft ones piece.offset))
  store piece.limb (bitOr kept (← shiftLeft part piece.offset))

/-- The steps of a round that writes. -/
def writeSteps (piece : Piece) : List AccessStep :=
  [.chunk piece.width, .shift piece.width, .shift 0, .shift piece.shift, .load piece.limb,
    .shift piece.offset, .shift piece.offset, .store piece.limb]

/-- Replacing what a limb holds modifies it. -/
theorem setIfInBounds_eq_modify
    (limbs : Array (BitVec 8))
    (limb : Nat)
    (change : BitVec 8 → BitVec 8) :
    limbs.setIfInBounds limb (change (limbs.getD limb 0)) = limbs.modify limb change := by
  refine Array.ext (by simp) fun place inside _ => ?_
  have insideOld : place < limbs.size := Nat.lt_of_lt_of_eq inside Array.size_setIfInBounds
  rw [Array.getElem_setIfInBounds insideOld, Array.getElem_modify]
  by_cases same : limb = place
  · subst same
    simp [insideOld]
  · rw [if_neg same, if_neg same]

theorem takes_writeRound
    (limbs : Array (BitVec 8))
    {piece : Piece}
    (inByte : piece.offset + piece.width ≤ 8)
    (inCell : piece.shift + piece.width ≤ 31)
    {value : Nat}
    (small : value < 2 ^ 31) :
    Takes (writeRound value piece) limbs () (Limbs.insert limbs value piece)
      [.shift piece.width, .shift 0, .shift piece.shift, .load piece.limb,
        .shift piece.offset, .shift piece.offset, .store piece.limb] := by
  have part : bitAnd (Wrapped.shiftRight value piece.shift) (Wrapped.mask piece.width) =
      (value >>> piece.shift &&& lowMask piece.width : Nat) :=
    masked_natCast (by omega) (by omega) (by omega)
  rw [Limbs.insert, ← setIfInBounds_eq_modify, ← ofInt_replaced _ inByte, ← part]
  exact (takes_mask limbs (by omega)).bind ((takes_shiftRight limbs _ _).bind
    ((takes_load limbs _).bind ((takes_shiftLeft limbs _ _).bind
      ((takes_shiftLeft limbs _ _).bind (takes_store limbs _ _)))))

/-- Rounds that write insert their pieces. -/
theorem takes_writeRounds
    (limbs : Array (BitVec 8))
    {position width : Nat}
    (narrow : width ≤ 31)
    {rounds : List Piece}
    (fit : ∀ piece ∈ rounds, piece.Fits 8 position width)
    {value : Nat}
    (small : value < 2 ^ 31) :
    Takes
      (rounds.foldlM
        (fun _ piece => do
          note (.chunk piece.width)
          writeRound value piece)
        ())
      limbs ()
      (rounds.foldl (fun written piece => Limbs.insert written value piece) limbs)
      (rounds.flatMap writeSteps) := by
  induction rounds generalizing limbs with
  | nil => exact takes_pure limbs _
  | cons piece rest inductionHypothesis =>
      have fits := fit piece List.mem_cons_self
      have inCell : piece.shift + piece.width ≤ 31 := Nat.le_trans fits.in_range narrow
      rw [List.foldlM_cons]
      exact ((takes_note limbs _).bind (takes_writeRound limbs fits.in_limb inCell small)).bind
        (inductionHypothesis _ fun other member => fit other (List.mem_cons_of_mem _ member))

/-- Round by round a bit range is written. -/
theorem takes_write
    (limbs : Array (BitVec 8))
    {width value : Nat}
    (positive : 0 < width)
    (narrow : width ≤ 31)
    (position : Nat)
    (small : value < 2 ^ 31) :
    Takes
      (eachPiece (fun piece _ => writeRound value piece) width (position / 8) (position % 8) 0 ())
      limbs () (Limbs.write limbs position width value)
      ((pieces 8 position width).flatMap writeSteps) := by
  rw [eachPiece_eq_foldlM, cut_eq_pieces positive]
  exact takes_writeRounds limbs narrow (fun _ member => fits_of_mem_pieces (by decide) member) small

end Access

/-! ## Cells -/

namespace Piece.Fits

variable {piece : Piece} {position width limit : Nat}

/-- Each step of a round that reads goes right. -/
theorem within_readSteps
    (fits : piece.Fits 8 position width)
    (narrow : width ≤ 31)
    (positive : 0 < width)
    (inStore : piece.limb < limit) :
    ∀ step ∈ Access.readSteps piece, step.Within limit := by
  have inByte := fits.in_limb
  have inCell := fits.in_range
  have nonempty := fits.nonempty positive
  simp [Access.readSteps, AccessStep.Within, inStore]
  omega

/-- Each step of a round that writes goes right. -/
theorem within_writeSteps
    (fits : piece.Fits 8 position width)
    (narrow : width ≤ 31)
    (positive : 0 < width)
    (inStore : piece.limb < limit) :
    ∀ step ∈ Access.writeSteps piece, step.Within limit := by
  have inByte := fits.in_limb
  have inCell := fits.in_range
  have nonempty := fits.nonempty positive
  simp [Access.writeSteps, AccessStep.Within, inStore]
  omega

end Piece.Fits

namespace AccessStep

/-- Rounds that take one chunk each take those of their pieces. -/
theorem chunkWidths_flatMap
    {roundSteps : Piece → List AccessStep}
    (oneChunk : ∀ piece, chunkWidths (roundSteps piece) = [piece.width])
    (rounds : List Piece) :
    chunkWidths (rounds.flatMap roundSteps) = rounds.map (·.width) := by
  induction rounds with
  | nil => rfl
  | cons piece rest inductionHypothesis =>
      rw [List.flatMap_cons, chunkWidths_append, oneChunk, inductionHypothesis]
      rfl

end AccessStep

namespace PackedArray

variable {array : PackedArray .contiguous} {index : Nat}

/-- The cell at an index, read in rounds from the byte where it starts. -/
def readInBytes (array : PackedArray .contiguous) (index : Nat) : Access 8 Int := do
  let start := index * array.width
  let value ← Access.eachPiece Access.readRound array.width (start / 8) (start % 8) 0 0
  Access.shiftRight value 0

/-- Replaces the cell at an index in rounds from the byte where it starts. -/
def writeInBytes (array : PackedArray .contiguous) (index value : Nat) : Access 8 Unit :=
  let start := index * array.width
  Access.eachPiece (fun piece _ => Access.writeRound value piece) array.width (start / 8)
    (start % 8) 0 ()

/--
Steps that move a cell: each goes right and stays in the bytes that the array needs, and
five rounds at most move just the bits of the cell.
-/
structure MovesCell (array : PackedArray .contiguous) (steps : List AccessStep) : Prop where
  within : ∀ step ∈ steps, step.Within (Layout.bytesNeeded array.size array.width)
  rounds_le : (AccessStep.chunkWidths steps).length ≤ 5
  moved_eq : (AccessStep.chunkWidths steps).sum = array.width

/--
A cell whose accesses keep to its bytes: what is read and written round by round is what
the array answers and leaves behind.
-/
structure KeepsToBytes (array : PackedArray .contiguous) (index : Nat) : Prop where
  reads : ∃ value steps, array.get (.ofNat index) = .ok value ∧
    (array.readInBytes index).Takes array.limbs value array.limbs steps ∧
    array.MovesCell steps
  writes : ∀ value ≤ array.maxValue, ∃ written steps,
    array.set (.ofNat index) (.ofNat value) = .ok written ∧
    (array.writeInBytes index value).Takes array.limbs () written.limbs steps ∧
    array.MovesCell steps

/-- A shift by nothing moves no bit. -/
theorem MovesCell.concat_shift_zero
    {steps : List AccessStep}
    (moves : array.MovesCell steps) :
    array.MovesCell (steps ++ [.shift 0]) where
  within step member := by
    rcases List.mem_append.1 member with before | last
    · exact moves.within step before
    · rw [List.mem_singleton.1 last]
      exact ⟨Int.le_refl 0, by decide⟩
  rounds_le := by
    rw [AccessStep.chunkWidths_append]
    exact Nat.le_trans (Nat.le_of_eq (congrArg List.length (List.append_nil _))) moves.rounds_le
  moved_eq := by
    rw [AccessStep.chunkWidths_append]
    exact (congrArg List.sum (List.append_nil _)).trans moves.moved_eq

namespace Stored

/-- The rounds of a cell lie in the bytes that the array needs. -/
theorem limb_lt_bytesNeeded
    (stored : array.Stored)
    (inside : index < array.size)
    {piece : Piece}
    (member : piece ∈ pieces 8 (array.width * index) array.width) :
    piece.limb < Layout.bytesNeeded array.size array.width :=
  Limbs.limb_lt_of_mem_pieces (by decide) array.width_pos
    (Layout.contiguous.position_add_le_limbsNeeded array.width_pos stored.width_fits inside) member

/-- Rounds that go right and take the chunks of their pieces move the cell. -/
theorem movesCell
    (stored : array.Stored)
    (inside : index < array.size)
    {roundSteps : Piece → List AccessStep}
    (oneChunk : ∀ piece, AccessStep.chunkWidths (roundSteps piece) = [piece.width])
    (within : ∀ piece limit, piece.Fits 8 (array.width * index) array.width → piece.limb < limit →
      ∀ step ∈ roundSteps piece, step.Within limit) :
    array.MovesCell ((pieces 8 (array.width * index) array.width).flatMap roundSteps) where
  within step member := by
    obtain ⟨piece, listed, taken⟩ := List.mem_flatMap.1 member
    exact within piece _ (fits_of_mem_pieces (by decide) listed)
      (stored.limb_lt_bytesNeeded inside listed) step taken
  rounds_le := by
    rw [AccessStep.chunkWidths_flatMap oneChunk, List.length_map]
    exact length_pieces_le (width_le stored.bound_le) _
  moved_eq := by
    rw [AccessStep.chunkWidths_flatMap oneChunk, sum_width_pieces array.width_pos]

/-- An array that is stored whole keeps to the bytes of each of its cells. -/
theorem keepsToBytes
    (stored : array.Stored)
    (inside : index < array.size) :
    array.KeepsToBytes index where
  reads := by
    have narrow := width_le stored.bound_le
    have small : array.cell index < 2 ^ 32 :=
      Nat.lt_of_lt_of_le (array.cell_lt index)
        (Nat.pow_le_pow_right Nat.two_pos (Nat.le_succ_of_le narrow))
    have same : Wrapped.shiftRight (array.cell index) 0 = array.cell index :=
      Wrapped.shiftRight_natCast (by decide) small
    have moves := stored.movesCell inside (fun _ => rfl) fun _ _ fits inStore =>
      fits.within_readSteps narrow array.width_pos inStore
    have last := Access.takes_shiftRight_zero array.limbs (array.cell index)
    rw [same] at last
    refine ⟨array.cell index, _, get_eq_cell (Number.toNat?_ofNat index) inside, ?_,
      moves.concat_shift_zero⟩
    rw [readInBytes, Nat.mul_comm index]
    exact (Access.takes_read array.limbs array.width_pos narrow _).bind last
  writes value atMost := by
    have narrow := width_le stored.bound_le
    have small : value < 2 ^ 31 :=
      Nat.lt_of_le_of_lt (Nat.le_trans atMost stored.bound_le) (by decide)
    have moves := stored.movesCell inside (fun _ => rfl) fun _ _ fits inStore =>
      fits.within_writeSteps narrow array.width_pos inStore
    refine ⟨array.setCell index value, _, set_eq_setCell (Number.toNat?_ofNat index) inside
      (Number.toNat?_ofNat value) atMost, ?_, moves⟩
    rw [writeInBytes, Nat.mul_comm index]
    exact Access.takes_write array.limbs array.width_pos narrow _ small

end Stored

end PackedArray

end BlockVolume
