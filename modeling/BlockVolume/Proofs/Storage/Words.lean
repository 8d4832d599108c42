import BlockVolume.Proofs.Storage.Halves
import BlockVolume.Proofs.Storage.Reachable

namespace BlockVolume

/-!
# Padded arrays, word by word

A padded array is a row of words, each in two halves, and shows its words as
signed longs. A cell lies in one word. Reading it, from the halves or from the
whole store, is the same as cutting it out of the word by plain arithmetic, and
a write changes the bits of that cell in that word and nothing else.
-/

namespace Layout

/-- The word in which a cell of the padded layout lies. -/
def wordOf (width index : Nat) : Nat :=
  index / cellsPerWord width

/-- The lowest bit of a cell of the padded layout in its word. -/
def offsetOf (width index : Nat) : Nat :=
  width * (index % cellsPerWord width)

theorem position_padded (width index : Nat) :
    padded.position width index = 64 * wordOf width index + offsetOf width index :=
  rfl

end Layout

namespace Long

/-- A word survives as a signed long. -/
theorem toWord_ofWord
    {word : Nat}
    (below : word < 2 ^ 64) :
    toWord (ofWord word) = word := by
  have residue : ((word : Int).bmod modulus) % (modulus : Int) = word % modulus :=
    Int.bmod_emod
  rw [toWord, ofWord, residue]
  unfold modulus
  omega

/-- A long modulo `2 ^ 64` is the long itself, wrapped. -/
theorem ofWord_toWord (long : Int) : ofWord (toWord long) = long.bmod modulus := by
  have natural : ((toWord long : Nat) : Int) = long % modulus := by
    have nonnegative := Int.emod_nonneg long (show (modulus : Int) ≠ 0 by decide)
    rw [toWord, Int.toNat_of_nonneg nonnegative]
  rw [ofWord, natural, Int.emod_bmod]

end Long

namespace PackedArray

variable {array : PackedArray .padded}

/-- The halves of a word. -/
def halves (array : PackedArray .padded) (word : Nat) : Halves :=
  { low := array.limbs.getD (2 * word) 0
    high := array.limbs.getD (2 * word + 1) 0 }

/-- A long is the word of its halves, as a signed integer. -/
theorem long_eq (array : PackedArray .padded) (word : Nat) :
    array.long word = Long.ofWord (array.halves word).word :=
  rfl

theorem toWord_long (array : PackedArray .padded) (word : Nat) :
    Long.toWord (array.long word) = (array.halves word).word := by
  rw [long_eq, Long.toWord_ofWord (array.halves word).word_lt]

/-- The bits of a word are those of the store from its place on. -/
theorem testBit_word_halves (array : PackedArray .padded) (word place : Nat) :
    (array.halves word).word.testBit place =
      (decide (place < 64) && Limbs.bit array.limbs (64 * word + place)) := by
  rw [Halves.testBit_word]
  by_cases inLow : place < 32
  · have inWord : place < 64 := by omega
    have inLimb : place < Layout.padded.limbBits := inLow
    have samePlace : 64 * word + place = 2 * word * Layout.padded.limbBits + place := by
      simp only [Layout.limbBits]
      omega
    rw [if_pos inLow, decide_eq_true inWord, Bool.true_and, samePlace,
      Limbs.bit_in_limb _ _ inLimb]
    rfl
  · rw [if_neg inLow]
    by_cases inWord : place < 64
    · have inHigh : place - 32 < Layout.padded.limbBits := by
        simp only [Layout.limbBits]
        omega
      have samePlace :
          64 * word + place = (2 * word + 1) * Layout.padded.limbBits + (place - 32) := by
        simp only [Layout.limbBits]
        omega
      rw [decide_eq_true inWord, Bool.true_and, samePlace, Limbs.bit_in_limb _ _ inHigh]
      rfl
    · rw [decide_eq_false inWord, Bool.false_and, BitVec.getLsbD_of_ge _ _ (by omega)]

/-- A word is a digit of the natural that the store spells. -/
theorem word_halves (array : PackedArray .padded) (word : Nat) :
    (array.halves word).word = Limbs.toNat array.limbs / 2 ^ (64 * word) % 2 ^ 64 := by
  apply Nat.eq_of_testBit_eq
  intro place
  rw [testBit_word_halves, Nat.testBit_mod_two_pow, Nat.testBit_div_two_pow,
    Limbs.testBit_toNat Layout.padded.limbBits_pos, Nat.add_comm place]

namespace Stored

/-- A cell lies in its word. -/
theorem cell_in_word
    (stored : array.Stored)
    (index : Nat) :
    Layout.offsetOf array.width index + array.width ≤ 64 :=
  Layout.padded_cell_in_word array.width_pos stored.width_fits index

theorem width_lt (stored : array.Stored) : array.width < 32 :=
  Nat.lt_succ_of_le (width_le stored.bound_le)

/-- A cell is cut out of its word. -/
theorem cell_eq
    (stored : array.Stored)
    (index : Nat) :
    array.cell index =
      (array.halves (Layout.wordOf array.width index)).word /
        2 ^ Layout.offsetOf array.width index % 2 ^ array.width := by
  rw [cell, Limbs.read_eq Layout.padded.limbBits_pos, Layout.position_padded,
    range_of_digit _ _ (stored.cell_in_word index), word_halves]

/-- The halves show the cell. -/
theorem read_halves
    (stored : array.Stored)
    (index : Nat) :
    (array.halves (Layout.wordOf array.width index)).read
        (Layout.offsetOf array.width index) array.width =
      array.cell index := by
  rw [Halves.read_eq _ array.width_pos stored.width_lt (stored.cell_in_word index),
    stored.cell_eq]

/-- A write changes the cell in its word, and no other word. -/
theorem halves_setCell
    (stored : array.Stored)
    {index value : Nat}
    (inside : index < array.size)
    (fits : value < 2 ^ array.width)
    (word : Nat) :
    (array.setCell index value).halves word =
      if word = Layout.wordOf array.width index then
        (array.halves word).write (Layout.offsetOf array.width index) array.width value
      else
        array.halves word := by
  have inWord := stored.cell_in_word index
  -- The store and the halves are written in different ways; what they share are single bits.
  apply Halves.word_injective
  apply Nat.eq_of_testBit_eq
  intro place
  rw [testBit_word_halves, PackedArray.setCell,
    Limbs.bit_write Layout.padded.limbBits_pos _ array.width_pos (stored.position_add_le inside),
    Layout.position_padded]
  by_cases sameWord : word = Layout.wordOf array.width index
  · rw [if_pos sameWord, Halves.testBit_word_write _ array.width_pos stored.width_lt inWord fits,
      testBit_word_halves, ← sameWord]
    by_cases inCell :
        Layout.offsetOf array.width index ≤ place ∧
          place < Layout.offsetOf array.width index + array.width
    · have placeInWord : place < 64 := by omega
      have sameBit : 64 * word + place - (64 * word + Layout.offsetOf array.width index) =
          place - Layout.offsetOf array.width index := by
        omega
      rw [if_pos (by omega), if_pos inCell, decide_eq_true placeInWord, Bool.true_and, sameBit]
    · rw [if_neg (by omega), if_neg inCell]
  · rw [if_neg sameWord, testBit_word_halves]
    by_cases placeInWord : place < 64
    · rw [if_neg (by omega)]
    · rw [decide_eq_false placeInWord, Bool.false_and, Bool.false_and]

end Stored

/-! ## Longs -/

theorem length_toLongs (array : PackedArray .padded) :
    array.toLongs.length = array.limbs.size / 2 := by
  rw [toLongs, List.length_map, List.length_range]

/-- The word of every cell is shown as a long. -/
theorem Stored.wordOf_lt
    (stored : array.Stored)
    {index : Nat}
    (inside : index < array.size) :
    Layout.wordOf array.width index < array.toLongs.length := by
  have needed := Layout.word_lt_wordsNeeded array.width_pos stored.width_fits inside
  have enough : 2 * Layout.wordsNeeded array.size array.width ≤ array.limbs.size := stored.enough
  rw [length_toLongs, Layout.wordOf]
  omega

theorem getElem?_toLongs
    {word : Nat}
    (inside : word < array.toLongs.length) :
    array.toLongs[word]? = some (array.long word) := by
  rw [length_toLongs] at inside
  simp [toLongs, inside]

/-- A write changes the long of its word, by plain arithmetic. -/
theorem Stored.toLongs_setCell
    (stored : array.Stored)
    {index value : Nat}
    (inside : index < array.size)
    (fits : value < 2 ^ array.width) :
    (array.setCell index value).toLongs =
      array.toLongs.set (Layout.wordOf array.width index)
        (Long.ofWord
          (replaceBits (Long.toWord (array.long (Layout.wordOf array.width index)))
            (Layout.offsetOf array.width index) array.width value)) := by
  have sameSize : (array.setCell index value).limbs.size = array.limbs.size :=
    Limbs.size_write _ _ _ _
  refine List.ext_getElem (by simp [length_toLongs, sameSize]) fun word wordInside _ => ?_
  rw [List.getElem_set]
  have replaced := stored.halves_setCell inside fits word
  by_cases sameWord : Layout.wordOf array.width index = word
  · subst sameWord
    rw [if_pos rfl] at replaced
    rw [if_pos rfl, toWord_long, ← Halves.word_write _ array.width_pos stored.width_lt
      (stored.cell_in_word index) fits, ← replaced]
    simp [toLongs, long_eq]
  · rw [if_neg fun same => sameWord same.symm] at replaced
    rw [if_neg sameWord]
    simp [toLongs, long_eq, replaced]

/--
In a padded array that callers can build, the cell at an index is cut out of its
word by plain arithmetic, and so it is when the word is read from its halves with
operations on 32 bits. A write within the bound replaces the bits of the cell in
the word, again in the halves as in the long, and changes no other word.
-/
theorem Reachable.halves_agree_with_longs
    (reachable : array.Reachable)
    {index : Number}
    {place : Nat}
    (denoted : index.toNat? = some place)
    (inside : place < array.size) :
    ∃ long,
      array.toLongs[Layout.wordOf array.width place]? = some long ∧
      array.get index =
        .ok (Long.toWord long / 2 ^ Layout.offsetOf array.width place % 2 ^ array.width) ∧
      (array.halves (Layout.wordOf array.width place)).read
          (Layout.offsetOf array.width place) array.width =
        (Long.toWord long / 2 ^ Layout.offsetOf array.width place % 2 ^ array.width : Nat) ∧
      ∀ value natural, value.toNat? = some natural → natural ≤ array.maxValue →
        ∃ written, array.set index value = .ok written ∧
          written.toLongs =
            array.toLongs.set (Layout.wordOf array.width place)
              (Long.ofWord
                (replaceBits (Long.toWord long) (Layout.offsetOf array.width place) array.width
                  natural)) ∧
          ∀ word, written.halves word =
            if word = Layout.wordOf array.width place then
              (array.halves word).write (Layout.offsetOf array.width place) array.width natural
            else
              array.halves word := by
  have stored := reachable.sound.stored
  have cellRead := stored.cell_eq place
  rw [← toWord_long] at cellRead
  refine ⟨_, getElem?_toLongs (stored.wordOf_lt inside), ?_, ?_, ?_⟩
  · rw [get_eq_ok_iff]
    exact ⟨place, denoted, by rw [getElem?_values, if_pos inside, cellRead]⟩
  · rw [stored.read_halves, cellRead]
  · intro value natural denotedValue within
    have fits := lt_two_pow_width within
    have accepted : array.checkWrite index value = .ok (⟨place, inside⟩, natural) := by
      rw [checkWrite, checkIndex, Number.below?_of_lt denoted inside,
        checkValue_of_le denotedValue within]
      rfl
    refine ⟨array.setCell place natural, ?_, stored.toLongs_setCell inside fits,
      stored.halves_setCell inside fits⟩
    rw [PackedArray.set, accepted]
    rfl

/-- A cell of five bits across both halves is cleared below four unused bits, which stay set. -/
theorem halves_agree_with_longs_of_five_bits :
    ∃ array written : PackedArray .padded,
      ofLongs [-1] 12 31 true = .ok array ∧ array.toLongs = [-1] ∧
      Layout.wordOf array.width 6 = 0 ∧ Layout.offsetOf array.width 6 = 30 ∧
      (array.halves 0).read 30 5 = 31 ∧ array.set 6 0 = .ok written ∧
      written.toLongs = [-33285996545] := by
  let array : PackedArray .padded := { size := 12, maxValue := 31, limbs := #[-1, -1] }
  have read : ofLongs [-1] 12 31 true = .ok array := by decide
  have inWord : Layout.wordOf array.width 6 = 0 := by decide
  have atOffset : Layout.offsetOf array.width 6 = 30 := by decide
  have width_eq : array.width = 5 := by decide
  have longs_eq : array.toLongs = [-1] := by decide
  obtain ⟨long, isLong, -, halvesRead, writes⟩ :=
    @Reachable.halves_agree_with_longs array (.ofLongs read) 6 6 rfl (by decide)
  rw [inWord, longs_eq] at isLong
  obtain rfl : -1 = long := Option.some.inj isLong
  rw [inWord, atOffset, width_eq] at halvesRead
  obtain ⟨written, wrote, writtenLongs, -⟩ := writes 0 0 rfl (Nat.zero_le _)
  rw [inWord, atOffset, longs_eq] at writtenLongs
  exact ⟨array, written, read, longs_eq, inWord, atOffset, halvesRead.trans (by decide), wrote,
    writtenLongs.trans (by decide)⟩

end PackedArray

end BlockVolume
