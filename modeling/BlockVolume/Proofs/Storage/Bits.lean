import Mathlib.Algebra.Ring.Nat
import BlockVolume.Storage.Limbs

namespace BlockVolume

/-!
# Reading and writing as facts about single bits

A row of limbs spells one string of bits. Cutting a range into pieces loses
no bit and doubles none, so a read is the range of the string, and a write
changes the bits of the range and no others. Everything later that concerns
stores goes through these two facts and never opens a piece.
-/

/-- A value that fits into a width has no bit from there on. -/
theorem testBit_of_fits
    {value width place : Nat}
    (fits : value < 2 ^ width)
    (beyond : width ≤ place) :
    value.testBit place = false :=
  Nat.testBit_lt_two_pow (Nat.lt_of_lt_of_le fits (Nat.pow_le_pow_right Nat.two_pos beyond))

namespace Limbs

variable {limbBits : Nat}

/-- One bit of the string that a row of limbs spells; beyond the row every bit is clear. -/
def bit (limbs : Array (BitVec limbBits)) (place : Nat) : Bool :=
  (limbs.getD (place / limbBits) 0).getLsbD (place % limbBits)

/-- A place inside a limb addresses that limb and the bit in it. -/
theorem bit_in_limb
    (limbs : Array (BitVec limbBits))
    (limb : Nat)
    {offset : Nat}
    (inside : offset < limbBits) :
    bit limbs (limb * limbBits + offset) = (limbs.getD limb 0).getLsbD offset := by
  have quotient : (limb * limbBits + offset) / limbBits = limb := by
    rw [Nat.mul_comm, Nat.mul_add_div (by omega), Nat.div_eq_of_lt inside, Nat.add_zero]
  have remainder : (limb * limbBits + offset) % limbBits = offset := by
    rw [Nat.mul_add_mod_self_right, Nat.mod_eq_of_lt inside]
  rw [bit, quotient, remainder]

/-- The natural of a row has exactly the bits of the row. -/
theorem testBit_toNat
    (positive : 0 < limbBits)
    (limbs : Array (BitVec limbBits))
    (place : Nat) :
    (toNat limbs).testBit place = bit limbs place := by
  obtain ⟨row⟩ := limbs
  simp only [toNat, bit, ← Array.foldr_toList, Array.getD_eq_getD_getElem?, List.getElem?_toArray]
  induction row generalizing place with
  | nil => simp
  | cons limb rest inductionHypothesis =>
      have spelled :
          limb.toNat + rest.foldr (fun limb high => limb.toNat + high <<< limbBits) 0 <<< limbBits =
            2 ^ limbBits * rest.foldr (fun limb high => limb.toNat + high <<< limbBits) 0
              + limb.toNat := by
        rw [Nat.shiftLeft_eq, Nat.mul_comm, Nat.add_comm]
      rw [List.foldr_cons, spelled, Nat.testBit_two_pow_mul_add _ limb.isLt]
      by_cases lowest : place < limbBits
      · simp [lowest, Nat.div_eq_of_lt lowest, Nat.mod_eq_of_lt lowest, BitVec.getLsbD]
      · obtain ⟨above, rfl⟩ : ∃ above, place = above + limbBits := ⟨place - limbBits, by omega⟩
        rw [if_neg lowest, Nat.add_sub_cancel, inductionHypothesis]
        simp [Nat.add_div_right _ positive]

end Limbs

/-! ## Pieces -/

namespace Piece

/-- A piece lies in its limb, at its place of the range. -/
structure Fits (piece : Piece) (limbBits position width : Nat) : Prop where
  in_limb : piece.offset + piece.width ≤ limbBits
  in_range : piece.shift + piece.width ≤ width
  at_place : piece.limb * limbBits + piece.offset = position + piece.shift
  nonempty : 0 < width → 0 < piece.width

end Piece

variable {limbBits position width : Nat}

/-- Every piece of a range fits. -/
theorem fits_of_mem_pieces
    (positive : 0 < limbBits)
    {piece : Piece}
    (member : piece ∈ pieces limbBits position width) :
    piece.Fits limbBits position width := by
  simp only [pieces, List.mem_map, List.mem_range] at member
  obtain ⟨index, below, rfl⟩ := member
  have offsetBelow : position % limbBits < limbBits := Nat.mod_lt _ positive
  have placeSplit : position / limbBits * limbBits + position % limbBits = position :=
    Nat.div_add_mod' position limbBits
  have starts : index * limbBits < position % limbBits + width := by
    have := (Nat.le_div_iff_mul_le positive).1 below
    rw [Nat.succ_mul] at this
    omega
  have nextLimb : (index + 1) * limbBits = index * limbBits + limbBits := Nat.succ_mul _ _
  have limbPlace :
      (position / limbBits + index) * limbBits =
        position / limbBits * limbBits + index * limbBits := Nat.add_mul _ _ _
  -- The first piece starts at the offset of the range, every later one at its limb's lowest bit.
  have firstOrLater : index * limbBits = 0 ∨ limbBits ≤ index * limbBits := by
    rcases Nat.eq_zero_or_pos index with rfl | later
    · simp
    · exact .inr (Nat.le_mul_of_pos_left _ later)
  constructor <;> simp only <;> omega

/-- Every bit of a range lies in one of its pieces. -/
theorem exists_piece
    (positive : 0 < limbBits)
    (position : Nat)
    {index : Nat}
    (inside : index < width) :
    ∃ piece ∈ pieces limbBits position width,
      piece.shift ≤ index ∧ index < piece.shift + piece.width := by
  obtain ⟨limb, lower, upper⟩ :
      ∃ limb, limb * limbBits ≤ position % limbBits + index ∧
        position % limbBits + index < limb * limbBits + limbBits :=
    ⟨(position % limbBits + index) / limbBits, Nat.div_mul_le_self _ _,
      Nat.lt_div_mul_add positive⟩
  have counted : limb < (position % limbBits + width + limbBits - 1) / limbBits := by
    rw [Nat.lt_iff_add_one_le, Nat.le_div_iff_mul_le positive, Nat.succ_mul]
    omega
  have nextLimb : (limb + 1) * limbBits = limb * limbBits + limbBits := Nat.succ_mul _ _
  refine ⟨_, List.mem_map.2 ⟨limb, List.mem_range.2 counted, rfl⟩, ?_, ?_⟩
  · simp only
    omega
  · simp only
    omega

namespace Limbs

/-! ## Reading -/

/-- A piece that is read has the bits of its place, from its lowest bit on. -/
theorem testBit_extract
    (limbs : Array (BitVec limbBits))
    {piece : Piece}
    (fits : piece.Fits limbBits position width)
    (index : Nat) :
    (extract limbs piece).testBit index =
      (decide (index < piece.width) && bit limbs (position + piece.shift + index)) := by
  by_cases inside : index < piece.width
  · have inLimb : piece.offset + index < limbBits := by
      have := fits.in_limb
      omega
    rw [← fits.at_place, Nat.add_assoc, bit_in_limb limbs piece.limb inLimb]
    unfold extract
    cases stored : limbs[piece.limb]? with
    | none => simp [Array.getD_eq_getD_getElem?, stored]
    | some limb =>
        simp [Array.getD_eq_getD_getElem?, stored, and_lowMask, Nat.one_shiftLeft,
          Nat.testBit_mod_two_pow, inside, BitVec.getLsbD]
  · unfold extract
    cases stored : limbs[piece.limb]? with
    | none => simp [inside]
    | some limb => simp [and_lowMask, Nat.one_shiftLeft, Nat.testBit_mod_two_pow, inside]

/-- A bit of joined pieces is a bit of one of them. -/
theorem testBit_foldl_or
    (part : Piece → Nat)
    (joined : List Piece)
    (value index : Nat) :
    (joined.foldl (fun value piece => value ||| part piece) value).testBit index =
      (value.testBit index || joined.any fun piece => (part piece).testBit index) := by
  induction joined generalizing value with
  | nil => simp
  | cons piece rest inductionHypothesis =>
      rw [List.foldl_cons, inductionHypothesis, Nat.testBit_or, List.any_cons, Bool.or_assoc]

/-- A read has the bits of its range and no more. -/
theorem testBit_read
    (positive : 0 < limbBits)
    (limbs : Array (BitVec limbBits))
    (position width index : Nat) :
    (read limbs position width).testBit index =
      (decide (index < width) && bit limbs (position + index)) := by
  rw [read, testBit_foldl_or, Nat.zero_testBit, Bool.false_or, Bool.eq_iff_iff]
  simp only [List.any_eq_true, Nat.testBit_shiftLeft, Bool.and_eq_true, decide_eq_true_eq]
  constructor
  · rintro ⟨piece, member, above, read⟩
    have fits := fits_of_mem_pieces positive member
    rw [testBit_extract limbs fits, Bool.and_eq_true, decide_eq_true_eq] at read
    have samePlace : position + piece.shift + (index - piece.shift) = position + index := by
      omega
    have inRange := fits.in_range
    rw [samePlace] at read
    exact ⟨by omega, read.2⟩
  · rintro ⟨inside, set⟩
    obtain ⟨piece, member, above, below⟩ := exists_piece positive position inside
    have samePlace : position + piece.shift + (index - piece.shift) = position + index := by
      omega
    refine ⟨piece, member, above, ?_⟩
    rw [testBit_extract limbs (fits_of_mem_pieces positive member), samePlace, set]
    simp
    omega

/-- A read is the range of the natural that the row spells. -/
theorem read_eq
    (positive : 0 < limbBits)
    (limbs : Array (BitVec limbBits))
    (position width : Nat) :
    read limbs position width = toNat limbs / 2 ^ position % 2 ^ width := by
  apply Nat.eq_of_testBit_eq
  intro index
  rw [testBit_read positive, Nat.testBit_mod_two_pow, Nat.testBit_div_two_pow,
    testBit_toNat positive, Nat.add_comm index position]

/-- A read fits into the width of its range. -/
theorem read_lt
    (positive : 0 < limbBits)
    (limbs : Array (BitVec limbBits))
    (position width : Nat) :
    read limbs position width < 2 ^ width := by
  rw [read_eq positive]
  exact Nat.mod_lt _ (Nat.two_pow_pos width)

/-! ## Writing -/

/-- A spliced limb has the bits of the value in the range and its own bits elsewhere. -/
theorem getLsbD_splice
    (limb : BitVec limbBits)
    {offset width : Nat}
    (inLimb : offset + width ≤ limbBits)
    (value place : Nat) :
    (splice limb offset width value).getLsbD place =
      if offset ≤ place ∧ place < offset + width then
        value.testBit (place - offset)
      else
        limb.getLsbD place := by
  by_cases inside : offset ≤ place ∧ place < offset + width
  · have belowWidth : place - offset < width := by omega
    have inOwnLimb : place < limbBits := by omega
    have restored : offset + (place - offset) = place := by omega
    simp [splice, inside, inOwnLimb, belowWidth, restored, and_lowMask, Nat.one_shiftLeft,
      Nat.testBit_mod_two_pow, BitVec.getLsbD]
  · by_cases inOwnLimb : place < limbBits
    · have untouched : ¬ (offset ≤ place ∧ place - offset < width) := by omega
      rw [if_neg inside]
      simp only [splice, and_lowMask, Nat.one_shiftLeft, BitVec.getLsbD_ofNat, inOwnLimb,
        decide_true, Bool.true_and, Nat.testBit_xor, Nat.testBit_shiftLeft,
        Nat.testBit_mod_two_pow]
      by_cases below : offset ≤ place
      · simp [show ¬ place - offset < width by omega, BitVec.getLsbD]
      · simp [below, BitVec.getLsbD]
    · rw [if_neg inside, BitVec.getLsbD_of_ge _ _ (by omega), BitVec.getLsbD_of_ge _ _ (by omega)]

/-- Inserting a piece changes the bits of its place to those of the value, and no others. -/
theorem bit_insert
    (positive : 0 < limbBits)
    (limbs : Array (BitVec limbBits))
    {piece : Piece}
    (fits : piece.Fits limbBits position width)
    (stored : piece.limb < limbs.size)
    (value place : Nat) :
    bit (insert limbs value piece) place =
      if position + piece.shift ≤ place ∧ place < position + piece.shift + piece.width then
        value.testBit (place - position)
      else
        bit limbs place := by
  have placeSplit : place / limbBits * limbBits + place % limbBits = place :=
    Nat.div_add_mod' place limbBits
  have remainderBelow : place % limbBits < limbBits := Nat.mod_lt _ positive
  have atPlace := fits.at_place
  have inLimb := fits.in_limb
  unfold bit insert
  by_cases sameLimb : piece.limb = place / limbBits
  · rw [sameLimb] at atPlace stored ⊢
    have modified :
        (limbs.modify (place / limbBits) fun limb =>
            splice limb piece.offset piece.width (value >>> piece.shift)).getD
          (place / limbBits) 0 =
          splice (limbs.getD (place / limbBits) 0) piece.offset piece.width
            (value >>> piece.shift) := by
      simp [Array.getD_eq_getD_getElem?, stored, Array.getElem_modify]
    rw [modified, getLsbD_splice _ inLimb]
    have sameRange :
        (piece.offset ≤ place % limbBits ∧ place % limbBits < piece.offset + piece.width) ↔
          (position + piece.shift ≤ place ∧ place < position + piece.shift + piece.width) := by
      omega
    by_cases inside : position + piece.shift ≤ place ∧ place < position + piece.shift + piece.width
    · have sameBit : piece.shift + (place % limbBits - piece.offset) = place - position := by
        have := sameRange.2 inside
        omega
      rw [if_pos (sameRange.2 inside), if_pos inside, Nat.testBit_shiftRight, sameBit]
    · rw [if_neg (mt sameRange.1 inside), if_neg inside]
  · have outside :
        ¬ (position + piece.shift ≤ place ∧ place < position + piece.shift + piece.width) := by
      intro inside
      apply sameLimb
      have quotient : place / limbBits = piece.limb := by
        apply Nat.div_eq_of_lt_le
        · omega
        · rw [Nat.succ_mul]
          omega
      exact quotient.symm
    rw [if_neg outside]
    simp [Array.getD_eq_getD_getElem?, Array.getElem?_modify, sameLimb]

/-- Inserting some pieces of a range changes the bits that one of them holds, and no others. -/
theorem bit_foldl_insert
    (positive : 0 < limbBits)
    (limbs : Array (BitVec limbBits))
    (inserted : List Piece)
    (fit : ∀ piece ∈ inserted, piece.Fits limbBits position width)
    (stored : ∀ piece ∈ inserted, piece.limb < limbs.size)
    (value place : Nat) :
    bit (inserted.foldl (fun written piece => insert written value piece) limbs) place =
      if ∃ piece ∈ inserted,
          position + piece.shift ≤ place ∧ place < position + piece.shift + piece.width then
        value.testBit (place - position)
      else
        bit limbs place := by
  induction inserted generalizing limbs with
  | nil => simp
  | cons piece rest inductionHypothesis =>
      have first :=
        bit_insert positive limbs (fit piece List.mem_cons_self)
          (stored piece List.mem_cons_self) value place
      have later :=
        inductionHypothesis (insert limbs value piece)
          (fun other member => fit other (List.mem_cons_of_mem _ member))
          (fun other member => by
            rw [size_insert]
            exact stored other (List.mem_cons_of_mem _ member))
      rw [List.foldl_cons, later, first]
      by_cases inRest :
          ∃ other ∈ rest,
            position + other.shift ≤ place ∧ place < position + other.shift + other.width
      · simp [inRest]
      · simp [inRest]

/-- Every limb that a range reaches is part of a row that holds the range. -/
theorem limb_lt_of_mem_pieces
    (positive : 0 < limbBits)
    (nonempty : 0 < width)
    {limbCount : Nat}
    (inside : position + width ≤ limbCount * limbBits)
    {piece : Piece}
    (member : piece ∈ pieces limbBits position width) :
    piece.limb < limbCount := by
  have fits := fits_of_mem_pieces positive member
  have atPlace := fits.at_place
  have inRange := fits.in_range
  have pieceNonempty := fits.nonempty nonempty
  have below : piece.limb * limbBits < limbCount * limbBits := by omega
  exact Nat.lt_of_mul_lt_mul_right below

/-- A write changes the bits of its range to those of the value, and no others. -/
theorem bit_write
    (positive : 0 < limbBits)
    (limbs : Array (BitVec limbBits))
    (nonempty : 0 < width)
    (inside : position + width ≤ limbs.size * limbBits)
    (value place : Nat) :
    bit (write limbs position width value) place =
      if position ≤ place ∧ place < position + width then
        value.testBit (place - position)
      else
        bit limbs place := by
  have fit :
      ∀ piece ∈ pieces limbBits position width, piece.Fits limbBits position width :=
    fun _ member => fits_of_mem_pieces positive member
  have stored : ∀ piece ∈ pieces limbBits position width, piece.limb < limbs.size :=
    fun _ member => limb_lt_of_mem_pieces positive nonempty inside member
  have covered :
      (∃ piece ∈ pieces limbBits position width,
          position + piece.shift ≤ place ∧ place < position + piece.shift + piece.width) ↔
        position ≤ place ∧ place < position + width := by
    constructor
    · rintro ⟨piece, member, lower, upper⟩
      have inRange := (fit piece member).in_range
      omega
    · rintro ⟨lower, upper⟩
      have inWidth : place - position < width := by omega
      obtain ⟨piece, member, above, below⟩ := exists_piece positive position inWidth
      exact ⟨piece, member, by omega, by omega⟩
  rw [write, bit_foldl_insert positive limbs _ fit stored]
  simp only [covered]

end Limbs

end BlockVolume
