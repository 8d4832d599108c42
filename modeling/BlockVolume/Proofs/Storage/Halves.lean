import BlockVolume.Proofs.Storage.Bits

namespace BlockVolume

/-!
# Words in two halves

A word of the padded layout is kept in two halves of 32 bits and can be read and
written without a number of 64 bits. Operations on 32 bits see the residues of
their operands modulo `2 ^ 32` and of a shift count modulo `32`; their results are
signed, except for those of the shift to the right. A cell lies in the high half,
in the low one, or across both.

Single bits decide here: no bit of a cell is lost at the border of the halves, none
is copied from a sign, and a write leaves every other bit of the word alone.
-/

namespace Number

/-- The mask of a natural width, which is never wider than 32 bits. -/
theorem lowMask_ofNat (width : Nat) :
    (ofNat width).lowMask = BlockVolume.lowMask (min width 32) := by
  rw [lowMask, show (32 : Number) = ofNat 32 from rfl, le_ofNat]
  by_cases wide : 32 ≤ width
  · rw [decide_eq_true wide, if_pos rfl, Nat.min_eq_right wide]
  · have residue : (ofNat width).wrap32 % 32 = width := by
      simp only [wrap32, ofNat, integralPart, signed, wrapModulus, Bool.false_eq_true, if_false,
        Nat.shiftLeft_zero]
      omega
    rw [decide_eq_false wide, if_neg Bool.false_ne_true, residue, Nat.min_eq_left (by omega)]

end Number

/-! ## Plain arithmetic -/

/-- A natural with a range of its bits replaced by a value. -/
def replaceBits (natural offset width value : Nat) : Nat :=
  natural / 2 ^ (offset + width) * 2 ^ (offset + width) + value * 2 ^ offset + natural % 2 ^ offset

/-- It has the bits of the value in the range and its own bits elsewhere. -/
theorem testBit_replaceBits
    (natural offset : Nat)
    {width value : Nat}
    (fits : value < 2 ^ width)
    (place : Nat) :
    (replaceBits natural offset width value).testBit place =
      if offset ≤ place ∧ place < offset + width then
        value.testBit (place - offset)
      else
        natural.testBit place := by
  have lowest : natural % 2 ^ offset < 2 ^ offset := Nat.mod_lt _ (Nat.two_pow_pos offset)
  have lower : 2 ^ offset * value + natural % 2 ^ offset < 2 ^ (offset + width) := by
    have next := Nat.mul_le_mul_left (2 ^ offset) fits
    rw [Nat.mul_succ, ← Nat.pow_add] at next
    omega
  have joined : replaceBits natural offset width value =
      2 ^ (offset + width) * (natural / 2 ^ (offset + width)) +
        (2 ^ offset * value + natural % 2 ^ offset) := by
    rw [replaceBits, Nat.mul_comm, Nat.mul_comm value, Nat.add_assoc]
  rw [joined, Nat.testBit_two_pow_mul_add _ lower, Nat.testBit_two_pow_mul_add _ lowest,
    Nat.testBit_div_two_pow, Nat.testBit_mod_two_pow]
  by_cases inRange : place < offset + width
  · by_cases below : place < offset
    · have outside : ¬ (offset ≤ place ∧ place < offset + width) := by omega
      rw [if_pos inRange, if_pos below, if_neg outside, decide_eq_true below, Bool.true_and]
    · have inside : offset ≤ place ∧ place < offset + width := by omega
      rw [if_pos inRange, if_neg below, if_pos inside]
  · have outside : ¬ (offset ≤ place ∧ place < offset + width) := by omega
    have samePlace : place - (offset + width) + (offset + width) = place := by omega
    rw [if_neg inRange, if_neg outside, samePlace]

/-! ## Operations on 32 bits -/

namespace Wrapped

/-- The 32 bits that an operation sees of an integer. -/
def bits (value : Int) : BitVec 32 :=
  BitVec.ofInt 32 value

/-- A shift to the left. -/
def shiftLeft (value : Int) (count : Nat) : Int :=
  (bits value <<< (count % 32)).toInt

/-- A shift to the right, the only operation whose result is not signed. -/
def shiftRight (value : Int) (count : Nat) : Int :=
  (bits value >>> (count % 32)).toNat

/-- The bits that are set in both operands. -/
def bitAnd (left right : Int) : Int :=
  (bits left &&& bits right).toInt

/-- The bits that are set in one of the operands. -/
def bitOr (left right : Int) : Int :=
  (bits left ||| bits right).toInt

/-- The bits that are not set. -/
def bitNot (value : Int) : Int :=
  (~~~ bits value).toInt

/-- The mask of a width, as the rules for numbers make it. -/
def mask (width : Nat) : Int :=
  (Number.ofNat width).lowMask

@[simp]
theorem bits_toNat (half : BitVec 32) : bits half.toNat = half := by
  rw [bits, BitVec.ofInt_natCast, BitVec.ofNat_toNat, BitVec.setWidth_eq]

@[simp]
theorem bits_natCast (value : Nat) : bits value = BitVec.ofNat 32 value :=
  BitVec.ofInt_natCast 32 value

@[simp]
theorem bits_shiftLeft (value : Int) (count : Nat) :
    bits (shiftLeft value count) = bits value <<< (count % 32) :=
  BitVec.ofInt_toInt

@[simp]
theorem bits_shiftRight (value : Int) (count : Nat) :
    bits (shiftRight value count) = bits value >>> (count % 32) :=
  bits_toNat _

@[simp]
theorem bits_bitAnd (left right : Int) : bits (bitAnd left right) = bits left &&& bits right :=
  BitVec.ofInt_toInt

@[simp]
theorem bits_bitOr (left right : Int) : bits (bitOr left right) = bits left ||| bits right :=
  BitVec.ofInt_toInt

@[simp]
theorem bits_bitNot (value : Int) : bits (bitNot value) = ~~~ bits value :=
  BitVec.ofInt_toInt

/-- A mask has the lowest bits, as many as its width says, and at most all 32. -/
theorem getLsbD_mask (width place : Nat) :
    (bits (mask width)).getLsbD place = (decide (place < 32) && decide (place < width)) := by
  rw [mask, bits_natCast, BitVec.getLsbD_ofNat, Number.lowMask_ofNat, lowMask, Nat.one_shiftLeft,
    Nat.testBit_two_pow_sub_one]
  rw [Bool.eq_iff_iff]
  simp only [Bool.and_eq_true, decide_eq_true_iff]
  omega

/-- A shift by nothing reads the 32 bits as a natural. -/
theorem shiftRight_zero (value : Int) : shiftRight value 0 = (bits value).toNat := by
  rw [shiftRight, Nat.zero_mod, BitVec.ushiftRight_zero]

end Wrapped

open Wrapped

/-- The two halves of a word. -/
structure Halves where
  low : BitVec 32
  high : BitVec 32
  deriving Repr, DecidableEq

namespace Halves

/-- The word that two halves make. -/
def word (halves : Halves) : Nat :=
  halves.high.toNat <<< 32 + halves.low.toNat

/-- The cell of a width at an offset. -/
def read (halves : Halves) (offset width : Nat) : Int :=
  if 32 ≤ offset then
    shiftRight (bitAnd (shiftRight halves.high.toNat (offset - 32)) (mask width)) 0
  else
    let lowest := shiftRight halves.low.toNat offset
    let result :=
      if 32 < offset + width then
        bitOr lowest (shiftLeft halves.high.toNat (32 - offset))
      else
        lowest
    shiftRight (bitAnd result (mask width)) 0

/-- A half with the bits of a mask cleared and other bits set. -/
def replaced (half : BitVec 32) (cleared set : Int) : BitVec 32 :=
  bits (shiftRight (bitOr (bitAnd half.toNat (bitNot cleared)) set) 0)

/-- The halves with the cell of a width at an offset replaced. -/
def write (halves : Halves) (offset width value : Nat) : Halves :=
  if 32 ≤ offset then
    let shift := offset - 32
    { halves with
      high := replaced halves.high (shiftLeft (mask width) shift) (shiftLeft value shift) }
  else
    let low := replaced halves.low (shiftLeft (mask width) offset) (shiftLeft value offset)
    let ending := offset + width
    if 32 < ending then
      { low
        high := replaced halves.high (mask (ending - 32)) (shiftRight value (32 - offset)) }
    else
      { halves with low }

/-! ## Reading -/

/-- The bits of a word, those of the low half first. -/
theorem testBit_word (halves : Halves) (place : Nat) :
    halves.word.testBit place =
      if place < 32 then halves.low.getLsbD place else halves.high.getLsbD (place - 32) := by
  rw [word, Nat.shiftLeft_eq, Nat.mul_comm, Nat.testBit_two_pow_mul_add _ halves.low.isLt]
  rfl

/-- What is masked is a residue of the natural that has the same bits. -/
theorem masked_eq
    {value : Int}
    {natural width : Nat}
    (narrow : width ≤ 32)
    (sameBits : ∀ place < width, (bits value).getLsbD place = natural.testBit place) :
    shiftRight (bitAnd value (mask width)) 0 = (natural % 2 ^ width : Nat) := by
  rw [shiftRight_zero, bits_bitAnd]
  congr 1
  apply Nat.eq_of_testBit_eq
  intro place
  rw [BitVec.testBit_toNat, BitVec.getLsbD_and, getLsbD_mask, Nat.testBit_mod_two_pow]
  by_cases inWidth : place < width
  · have inHalf : place < 32 := Nat.lt_of_lt_of_le inWidth narrow
    rw [sameBits place inWidth]
    simp [inWidth, inHalf]
  · simp [inWidth]

/-- Reading a cell from the halves is plain arithmetic on the word. -/
theorem read_eq
    (halves : Halves)
    {offset width : Nat}
    (positive : 0 < width)
    (narrow : width < 32)
    (inWord : offset + width ≤ 64) :
    halves.read offset width = (halves.word / 2 ^ offset % 2 ^ width : Nat) := by
  unfold read
  by_cases inHigh : 32 ≤ offset
  · have count : (offset - 32) % 32 = offset - 32 := Nat.mod_eq_of_lt (by omega)
    rw [if_pos inHigh]
    refine masked_eq (Nat.le_of_lt narrow) fun place inWidth => ?_
    have above : ¬ place + offset < 32 := by omega
    have samePlace : offset - 32 + place = place + offset - 32 := by omega
    rw [bits_shiftRight, bits_toNat, BitVec.getLsbD_ushiftRight, count, samePlace,
      Nat.testBit_div_two_pow, testBit_word, if_neg above]
  · have count : offset % 32 = offset := Nat.mod_eq_of_lt (by omega)
    rw [if_neg inHigh]
    refine masked_eq (Nat.le_of_lt narrow) fun place inWidth => ?_
    rw [Nat.testBit_div_two_pow, testBit_word, Nat.add_comm place offset]
    by_cases crosses : 32 < offset + width
    · -- The bits of the high half come in right above those that are left of the low one.
      have raised : (32 - offset) % 32 = 32 - offset := Nat.mod_eq_of_lt (by omega)
      have inHalf : place < 32 := by omega
      rw [if_pos crosses, bits_bitOr, bits_shiftRight, bits_shiftLeft, bits_toNat, bits_toNat,
        BitVec.getLsbD_or, BitVec.getLsbD_ushiftRight, BitVec.getLsbD_shiftLeft, count, raised]
      by_cases inLow : offset + place < 32
      · have notRaised : place < 32 - offset := by omega
        simp [inLow, notRaised]
      · have isRaised : ¬ place < 32 - offset := by omega
        have samePlace : place - (32 - offset) = offset + place - 32 := by omega
        rw [if_neg inLow, samePlace, BitVec.getLsbD_of_ge _ _ (Nat.le_of_not_lt inLow)]
        simp [isRaised, inHalf]
    · have inLow : offset + place < 32 := by omega
      rw [if_neg crosses, bits_shiftRight, bits_toNat, BitVec.getLsbD_ushiftRight, count,
        if_pos inLow]

/-! ## Writing -/

/-- A replaced half has the set bits, and of its own those that were not cleared. -/
theorem getLsbD_replaced
    (half : BitVec 32)
    (cleared set : Int)
    {place : Nat}
    (inHalf : place < 32) :
    (replaced half cleared set).getLsbD place =
      (half.getLsbD place && !(bits cleared).getLsbD place || (bits set).getLsbD place) := by
  simp [replaced, inHalf]

/-- Masking and setting a range inside one half replaces the bits of that range. -/
theorem getLsbD_replaced_shifted
    (half : BitVec 32)
    {offset width value : Nat}
    (inHalf : offset < 32)
    (fits : value < 2 ^ width)
    {place : Nat}
    (placeInHalf : place < 32) :
    (replaced half (shiftLeft (mask width) offset) (shiftLeft value offset)).getLsbD place =
      if offset ≤ place ∧ place < offset + width then
        value.testBit (place - offset)
      else
        half.getLsbD place := by
  have count : offset % 32 = offset := Nat.mod_eq_of_lt inHalf
  rw [getLsbD_replaced _ _ _ placeInHalf, bits_shiftLeft, bits_shiftLeft, bits_natCast, count,
    BitVec.getLsbD_shiftLeft, BitVec.getLsbD_shiftLeft, getLsbD_mask, BitVec.getLsbD_ofNat]
  have shiftedInHalf : place - offset < 32 := by omega
  by_cases below : place < offset
  · have outside : ¬ (offset ≤ place ∧ place < offset + width) := by omega
    simp [below, outside]
  · by_cases inWidth : place - offset < width
    · have inside : offset ≤ place ∧ place < offset + width := by omega
      simp [below, inWidth, inside, placeInHalf, shiftedInHalf]
    · have outside : ¬ (offset ≤ place ∧ place < offset + width) := by omega
      have clear := testBit_of_fits fits (Nat.le_of_not_lt inWidth)
      simp [below, inWidth, outside, clear]

/-- The part of a value that is left for the high half replaces its lowest bits. -/
theorem getLsbD_replaced_rest
    (half : BitVec 32)
    {offset width value : Nat}
    (inLow : offset < 32)
    (narrow : width < 32)
    (crosses : 32 < offset + width)
    (fits : value < 2 ^ width)
    {place : Nat}
    (inHalf : place < 32) :
    (replaced half (mask (offset + width - 32)) (shiftRight value (32 - offset))).getLsbD place =
      if place + 32 < offset + width then
        value.testBit (place + 32 - offset)
      else
        half.getLsbD place := by
  have count : (32 - offset) % 32 = 32 - offset := Nat.mod_eq_of_lt (by omega)
  have samePlace : 32 - offset + place = place + 32 - offset := by omega
  rw [getLsbD_replaced _ _ _ inHalf, bits_shiftRight, bits_natCast, count, getLsbD_mask,
    BitVec.getLsbD_ushiftRight, samePlace, BitVec.getLsbD_ofNat]
  by_cases inRest : place + 32 < offset + width
  · have cleared : place < offset + width - 32 := by omega
    have restInHalf : place + 32 - offset < 32 := by omega
    simp [inRest, cleared, restInHalf, inHalf]
  · have kept : ¬ place < offset + width - 32 := by omega
    have beyond : width ≤ place + 32 - offset := by omega
    have clear := testBit_of_fits fits beyond
    simp [inRest, kept, clear]

/-- A write replaces the bits of its range in the word, and no others. -/
theorem testBit_word_write
    (halves : Halves)
    {offset width value : Nat}
    (positive : 0 < width)
    (narrow : width < 32)
    (inWord : offset + width ≤ 64)
    (fits : value < 2 ^ width)
    (place : Nat) :
    (halves.write offset width value).word.testBit place =
      if offset ≤ place ∧ place < offset + width then
        value.testBit (place - offset)
      else
        halves.word.testBit place := by
  rw [testBit_word, testBit_word]
  by_cases beyond : 64 ≤ place
  · have outside : ¬ (offset ≤ place ∧ place < offset + width) := by omega
    have notInLow : ¬ place < 32 := by omega
    rw [if_neg outside, if_neg notInLow, if_neg notInLow, BitVec.getLsbD_of_ge _ _ (by omega),
      BitVec.getLsbD_of_ge _ _ (by omega)]
  unfold write
  by_cases inHigh : 32 ≤ offset
  · rw [if_pos inHigh]
    by_cases placeInLow : place < 32
    · have outside : ¬ (offset ≤ place ∧ place < offset + width) := by omega
      rw [if_neg outside, if_pos placeInLow, if_pos placeInLow]
    · have sameRange : (offset - 32 ≤ place - 32 ∧ place - 32 < offset - 32 + width) ↔
          (offset ≤ place ∧ place < offset + width) := by omega
      have sameBit : place - 32 - (offset - 32) = place - offset := by omega
      rw [if_neg placeInLow, if_neg placeInLow,
        getLsbD_replaced_shifted _ (by omega) fits (by omega), sameBit]
      simp only [sameRange]
  · rw [if_neg inHigh]
    by_cases placeInLow : place < 32
    · have lowBit := getLsbD_replaced_shifted halves.low (Nat.lt_of_not_le inHigh) fits placeInLow
      rw [if_pos placeInLow, if_pos placeInLow, ← lowBit]
      by_cases crosses : 32 < offset + width
      · rw [if_pos crosses]
      · rw [if_neg crosses]
    · rw [if_neg placeInLow, if_neg placeInLow]
      by_cases crosses : 32 < offset + width
      · have sameRange : place - 32 + 32 < offset + width ↔
            (offset ≤ place ∧ place < offset + width) := by omega
        have sameBit : place - 32 + 32 - offset = place - offset := by omega
        rw [if_pos crosses,
          getLsbD_replaced_rest _ (Nat.lt_of_not_le inHigh) narrow crosses fits (by omega), sameBit]
        simp only [sameRange]
      · have outside : ¬ (offset ≤ place ∧ place < offset + width) := by omega
        rw [if_neg crosses, if_neg outside]

/-- Writing a cell into the halves is plain arithmetic on the word. -/
theorem word_write
    (halves : Halves)
    {offset width value : Nat}
    (positive : 0 < width)
    (narrow : width < 32)
    (inWord : offset + width ≤ 64)
    (fits : value < 2 ^ width) :
    (halves.write offset width value).word = replaceBits halves.word offset width value := by
  apply Nat.eq_of_testBit_eq
  intro place
  rw [halves.testBit_word_write positive narrow inWord fits, testBit_replaceBits _ _ fits]

/-- Halves are determined by their word. -/
theorem word_injective
    {first second : Halves}
    (sameWord : first.word = second.word) :
    first = second := by
  have sameBit := fun place => congrArg (·.testBit place) sameWord
  simp only [testBit_word] at sameBit
  cases first
  cases second
  congr 1
  · refine BitVec.eq_of_getLsbD_eq fun place inLow => ?_
    simpa [inLow] using sameBit place
  · refine BitVec.eq_of_getLsbD_eq fun place _ => ?_
    have notInLow : ¬ place + 32 < 32 := by omega
    simpa only [notInLow, if_false, Nat.add_sub_cancel] using sameBit (place + 32)

theorem word_lt (halves : Halves) : halves.word < 2 ^ 64 := by
  have low := halves.low.isLt
  have high := halves.high.isLt
  rw [word, Nat.shiftLeft_eq]
  omega

end Halves

end BlockVolume
