import BlockVolume.Proofs.Rows
import BlockVolume.Proofs.Storage.Accesses
import BlockVolume.Proofs.Storage.Words

namespace BlockVolume

/-!
# Accesses to words

An access to a padded array locates its cell in one word and touches the halves of this
word that the cell reaches. Step by step it does what the halves do as a pair. As a cell
ends in its word and is narrower than a half, no count of a shift is negative or reaches
32: a high half is raised behind a low one only by what the cell leaves below. The mask of
whole cells is kept with an array, so an access only makes that of a rest in the high half.
-/

open Wrapped

namespace Access

variable {limbs : Array (BitVec 32)} {low offset width value : Nat}

/-- The word whose low half is given. -/
def wordAt (limbs : Array (BitVec 32)) (low : Nat) : Halves :=
  { low := limbs.getD low 0
    high := limbs.getD (low + 1) 0 }

/-- The limbs with another word. -/
def withWord (limbs : Array (BitVec 32)) (low : Nat) (word : Halves) : Array (BitVec 32) :=
  (limbs.setIfInBounds low word.low).setIfInBounds (low + 1) word.high

/-- Limbs are told by their words, one of which may be a new one. -/
theorem eq_withWord
    {left : Array (BitVec 32)}
    {place : Nat}
    {word : Halves}
    (sameSize : left.size = limbs.size)
    (here : wordAt left (2 * place) = word)
    (others : ∀ other, other ≠ place → wordAt left (2 * other) = wordAt limbs (2 * other)) :
    left = withWord limbs (2 * place) word := by
  subst here
  refine Array.ext (by simp [sameSize, withWord]) fun limb inside _ => ?_
  have insideOld : limb < limbs.size := sameSize ▸ inside
  obtain ⟨other, isLow | isHigh⟩ : ∃ other, limb = 2 * other ∨ limb = 2 * other + 1 :=
    ⟨limb / 2, by omega⟩
  · subst isLow
    by_cases same : other = place
    · subst same
      simp [withWord, wordAt, insideOld, inside]
    · have kept := congrArg Halves.low (others other same)
      have notHigh : 2 * place + 1 ≠ 2 * other := by omega
      simpa [withWord, wordAt, Ne.symm same, notHigh, insideOld, inside] using kept
  · subst isHigh
    by_cases same : other = place
    · subst same
      simp [withWord, wordAt, inside]
    · have kept := congrArg Halves.high (others other same)
      have notLow : 2 * place ≠ 2 * other + 1 := by omega
      simpa [withWord, wordAt, Ne.symm same, notLow, insideOld, inside] using kept

/-! ## Reading -/

/-- The bits of a cell that starts in the low half, with those of the high half behind them. -/
def readFromLow (low offset width : Nat) : Access 32 Int := do
  let lowest ← shiftRight (← load low) offset
  if 32 < offset + width then
    return bitOr lowest (← shiftLeft (← load (low + 1)) (32 - offset))
  else
    return lowest

/-- The cell of a width at an offset of a word. -/
def readWord (low offset width : Nat) : Access 32 Int := do
  if 32 ≤ offset then
    let shifted ← shiftRight (← load (low + 1)) (offset - 32)
    shiftRight (bitAnd shifted (Wrapped.mask width)) 0
  else
    let result ← readFromLow low offset width
    shiftRight (bitAnd result (Wrapped.mask width)) 0

/-- A word is read from its halves, and each step of it goes right. -/
theorem takes_readWord
    (inStore : low + 1 < limbs.size)
    (positive : 0 < width)
    (narrow : width < 32)
    (inWord : offset + width ≤ 64) :
    ∃ steps,
      Takes (readWord low offset width) limbs ((wordAt limbs low).read offset width) limbs steps ∧
      ∀ step ∈ steps, step.Within limbs.size := by
  have lowInStore : low < limbs.size := Nat.lt_of_succ_lt inStore
  unfold readWord Halves.read
  by_cases inHigh : 32 ≤ offset
  · have count : (offset : Int) - 32 = (offset - 32 : Nat) := by omega
    rw [if_pos inHigh, if_pos inHigh, count]
    refine ⟨_, (takes_load limbs (low + 1)).bind ((takes_shiftRight limbs _ (offset - 32)).bind
      (takes_shiftRight_zero limbs _)), ?_⟩
    simp [AccessStep.Within, inStore]
    omega
  · rw [if_neg inHigh, if_neg inHigh]
    unfold readFromLow
    by_cases crosses : 32 < offset + width
    · have count : (32 : Int) - offset = (32 - offset : Nat) := by omega
      simp only [if_pos crosses, count]
      refine ⟨_, ((takes_load limbs low).bind ((takes_shiftRight limbs _ offset).bind
        ((takes_load limbs (low + 1)).bind
          ((takes_shiftLeft limbs _ (32 - offset)).map _)))).bind
        (takes_shiftRight_zero limbs _), ?_⟩
      -- The cell is narrower than a half, so it starts above the lowest bit of its word.
      simp [AccessStep.Within, inStore, lowInStore]
      omega
    · simp only [if_neg crosses]
      refine ⟨_, ((takes_load limbs low).bind ((takes_shiftRight limbs _ offset).bind
        (takes_pure limbs _))).bind (takes_shiftRight_zero limbs _), ?_⟩
      simp [AccessStep.Within, lowInStore]
      omega

/-! ## Writing -/

/-- Puts back a half in which the bits of a mask are cleared and other bits set. -/
def putHalf (limb : Nat) (half cleared set : Int) : Access 32 Unit := do
  store limb (← shiftRight (bitOr (bitAnd half (bitNot cleared)) set) 0)

/-- Replaces the cell of a width at a place of one half, as far as it lies in there. -/
def writeInHalf (limb : Nat) (place : Int) (width value : Nat) : Access 32 Unit := do
  let half ← load limb
  let cleared ← shiftLeft (Wrapped.mask width) place
  putHalf limb half cleared (← shiftLeft value place)

/-- Replaces what a cell that starts in the low half has in the high one. -/
def writeRest (low offset width value : Nat) : Access 32 Unit := do
  let cleared ← mask (offset + width - 32)
  let half ← load (low + 1)
  putHalf (low + 1) half cleared (← shiftRight value (32 - offset))

/-- Replaces the cell of a width at an offset of a word. -/
def writeWord (low offset width value : Nat) : Access 32 Unit := do
  if 32 ≤ offset then
    writeInHalf (low + 1) (offset - 32) width value
  else
    writeInHalf low offset width value
    if 32 < offset + width then
      writeRest low offset width value

theorem takes_putHalf
    (limbs : Array (BitVec 32))
    (limb : Nat)
    (half : BitVec 32)
    (cleared set : Int) :
    Takes (putHalf limb half.toNat cleared set) limbs ()
      (limbs.setIfInBounds limb (Halves.replaced half cleared set)) [.shift 0, .store limb] :=
  (takes_shiftRight_zero limbs _).bind (takes_store limbs limb _)

theorem takes_writeInHalf (limbs : Array (BitVec 32)) (limb place width value : Nat) :
    Takes (writeInHalf limb place width value) limbs ()
      (limbs.setIfInBounds limb
        (Halves.replaced (limbs.getD limb 0) (Wrapped.shiftLeft (Wrapped.mask width) place)
          (Wrapped.shiftLeft value place)))
      [.load limb, .shift place, .shift place, .shift 0, .store limb] :=
  (takes_load limbs limb).bind ((takes_shiftLeft limbs _ place).bind
    ((takes_shiftLeft limbs _ place).bind (takes_putHalf limbs limb _ _ _)))

theorem takes_writeRest
    (limbs : Array (BitVec 32))
    (low : Nat)
    (inLow : offset < 32)
    (narrow : width < 32)
    (value : Nat) :
    Takes (writeRest low offset width value) limbs ()
      (limbs.setIfInBounds (low + 1)
        (Halves.replaced (limbs.getD (low + 1) 0) (Wrapped.mask (offset + width - 32))
          (Wrapped.shiftRight value (32 - offset))))
      [.shift (offset + width - 32 : Nat), .shift 0, .load (low + 1), .shift (32 - offset : Nat),
        .shift 0, .store (low + 1)] := by
  have count : (32 : Int) - offset = (32 - offset : Nat) := by omega
  rw [writeRest, count]
  exact (takes_mask limbs (by omega)).bind ((takes_load limbs (low + 1)).bind
    ((takes_shiftRight limbs _ (32 - offset)).bind (takes_putHalf limbs (low + 1) _ _ _)))

/-- A word is written in its halves, and each step of it goes right. -/
theorem takes_writeWord
    (inStore : low + 1 < limbs.size)
    (positive : 0 < width)
    (narrow : width < 32)
    (inWord : offset + width ≤ 64)
    (value : Nat) :
    ∃ steps,
      Takes (writeWord low offset width value) limbs ()
        (withWord limbs low ((wordAt limbs low).write offset width value)) steps ∧
      ∀ step ∈ steps, step.Within limbs.size := by
  have lowInStore : low < limbs.size := Nat.lt_of_succ_lt inStore
  unfold writeWord Halves.write
  by_cases inHigh : 32 ≤ offset
  · have count : (offset : Int) - 32 = (offset - 32 : Nat) := by omega
    have lowSame : limbs.setIfInBounds low (limbs.getD low 0) = limbs :=
      setIfInBounds_getD_self limbs low 0
    simp only [if_pos inHigh, count, withWord, wordAt, lowSame]
    refine ⟨_, takes_writeInHalf limbs (low + 1) (offset - 32) width value, ?_⟩
    simp [AccessStep.Within, inStore]
    omega
  · have highSame (new : BitVec 32) :
        (limbs.setIfInBounds low new).getD (low + 1) 0 = limbs.getD (low + 1) 0 :=
      getD_setIfInBounds_of_ne (Nat.ne_of_lt (Nat.lt_succ_self low)) new 0
    have inLow := takes_writeInHalf limbs low offset width value
    simp only [if_neg inHigh]
    by_cases crosses : 32 < offset + width
    · simp only [if_pos crosses, withWord, wordAt]
      generalize Halves.replaced (limbs.getD low 0) _ _ = newLow at inLow ⊢
      have inRest := takes_writeRest (limbs.setIfInBounds low newLow) low
        (Nat.lt_of_not_le inHigh) narrow value
      rw [highSame] at inRest
      refine ⟨_, inLow.bind inRest, ?_⟩
      simp [AccessStep.Within, inStore, lowInStore]
      omega
    · simp only [if_neg crosses, withWord, wordAt]
      generalize Halves.replaced (limbs.getD low 0) _ _ = newLow at inLow ⊢
      have highStays := setIfInBounds_getD_self (limbs.setIfInBounds low newLow) (low + 1) 0
      rw [highSame] at highStays
      rw [highStays]
      refine ⟨_, inLow.bind (takes_pure _ ()), ?_⟩
      simp [AccessStep.Within, lowInStore]
      omega

end Access

namespace PackedArray

variable {array : PackedArray .padded} {index value : Nat}

/-- The cell at an index, located in its word and read there. -/
def readInWord (array : PackedArray .padded) (index : Nat) : Access 32 Int :=
  let cells := Layout.cellsPerWord array.width
  let word := index / cells
  Access.readWord (2 * word) ((index - word * cells) * array.width) array.width

/-- Replaces the cell at an index, located in its word. -/
def writeInWord (array : PackedArray .padded) (index value : Nat) : Access 32 Unit :=
  let cells := Layout.cellsPerWord array.width
  let word := index / cells
  Access.writeWord (2 * word) ((index - word * cells) * array.width) array.width value

/-- What the words before a cell leave of its index counts the cells below it. -/
theorem offset_eq_offsetOf (width index : Nat) :
    (index - index / Layout.cellsPerWord width * Layout.cellsPerWord width) * width =
      Layout.offsetOf width index := by
  rw [← Nat.mod_eq_sub_div_mul, Nat.mul_comm, Layout.offsetOf]

namespace Stored

/-- Both halves of the word of a cell lie in the store. -/
theorem high_lt
    (stored : array.Stored)
    (inside : index < array.size) :
    2 * Layout.wordOf array.width index + 1 < array.limbs.size := by
  have needed := Layout.word_lt_wordsNeeded array.width_pos stored.width_fits inside
  have enough : 2 * Layout.wordsNeeded array.size array.width ≤ array.limbs.size := stored.enough
  rw [Layout.wordOf]
  omega

/-- A write puts back the word of its cell. -/
theorem limbs_setCell
    (stored : array.Stored)
    (inside : index < array.size)
    (fits : value < 2 ^ array.width) :
    (array.setCell index value).limbs =
      Access.withWord array.limbs (2 * Layout.wordOf array.width index)
        ((array.halves (Layout.wordOf array.width index)).write
          (Layout.offsetOf array.width index) array.width value) := by
  refine Access.eq_withWord (Limbs.size_write _ _ _ _) ?_ fun other different => ?_
  · exact (stored.halves_setCell inside fits _).trans (if_pos rfl)
  · exact (stored.halves_setCell inside fits other).trans (if_neg different)

end Stored

/--
A cell whose accesses keep to its word: both halves of the word exist and the cell ends in
it, and what is read and written step by step is what the array answers and leaves behind,
each step going right.
-/
structure KeepsToWord (array : PackedArray .padded) (index : Nat) : Prop where
  high_lt : 2 * Layout.wordOf array.width index + 1 < array.limbs.size
  in_word : Layout.offsetOf array.width index + array.width ≤ 64
  reads : ∃ value steps, array.get (.ofNat index) = .ok value ∧
    (array.readInWord index).Takes array.limbs value array.limbs steps ∧
    ∀ step ∈ steps, step.Within array.limbs.size
  writes : ∀ value ≤ array.maxValue, ∃ written steps,
    array.set (.ofNat index) (.ofNat value) = .ok written ∧
    (array.writeInWord index value).Takes array.limbs () written.limbs steps ∧
    ∀ step ∈ steps, step.Within array.limbs.size

/-- An array that is stored whole keeps to the word of each of its cells. -/
theorem Stored.keepsToWord
    (stored : array.Stored)
    (inside : index < array.size) :
    array.KeepsToWord index where
  high_lt := stored.high_lt inside
  in_word := stored.cell_in_word index
  reads := by
    obtain ⟨steps, took, within⟩ := Access.takes_readWord (stored.high_lt inside) array.width_pos
      stored.width_lt (stored.cell_in_word index)
    refine ⟨array.cell index, steps, get_eq_cell (Number.toNat?_ofNat index) inside, ?_, within⟩
    rw [readInWord, offset_eq_offsetOf, ← stored.read_halves index]
    exact took
  writes value atMost := by
    obtain ⟨steps, took, within⟩ := Access.takes_writeWord (stored.high_lt inside) array.width_pos
      stored.width_lt (stored.cell_in_word index) value
    refine ⟨array.setCell index value, steps, set_eq_setCell (Number.toNat?_ofNat index) inside
      (Number.toNat?_ofNat value) atMost, ?_, within⟩
    rw [writeInWord, offset_eq_offsetOf, stored.limbs_setCell inside (lt_two_pow_width atMost)]
    exact took

end PackedArray

end BlockVolume
