import Mathlib.Algebra.BigOperators.Ring.List
import Mathlib.Algebra.Ring.Nat
import BlockVolume.Proofs.Storage.Operations
import BlockVolume.Storage.Longs

namespace BlockVolume

/-!
# Cells that longs spell

A list of longs spells one natural, the first long lowest. Halves and bytes
are two ways to cut it, so both kinds of file hold the same string of bits and
differ only in where a cell lies in it: inside one long, or right after the
cell before it.
-/

namespace Limbs

variable {limbBits : Nat}

/-- The natural of a row: the lowest limb, and the others one limb higher. -/
theorem toNat_cons
    (limb : BitVec limbBits)
    (rest : List (BitVec limbBits)) :
    toNat (limb :: rest).toArray = limb.toNat + 2 ^ limbBits * toNat rest.toArray := by
  simp only [toNat, ← Array.foldr_toList, List.foldr_cons, Nat.shiftLeft_eq]
  rw [Nat.mul_comm]

/-- The natural of two rows, the second above the first. -/
theorem toNat_append (first second : List (BitVec limbBits)) :
    toNat (first ++ second).toArray =
      toNat first.toArray + 2 ^ (limbBits * first.length) * toNat second.toArray := by
  induction first with
  | nil => simp [toNat]
  | cons limb rest inductionHypothesis =>
      rw [List.cons_append, toNat_cons, inductionHypothesis, toNat_cons, List.length_cons,
        Nat.mul_succ, Nat.pow_add, Nat.mul_add, Nat.add_assoc, ← Nat.mul_assoc (2 ^ limbBits),
        Nat.mul_comm (2 ^ limbBits) (2 ^ (limbBits * rest.length))]

/-- Limbs cut from a word spell its lowest bits. -/
theorem toNat_cut (limbBits count word : Nat) :
    toNat
        ((List.range count).map fun index =>
          BitVec.ofNat limbBits (word >>> (limbBits * index))).toArray =
      word % 2 ^ (limbBits * count) := by
  induction count with
  | zero => simp [toNat, Nat.mod_one]
  | succ count inductionHypothesis =>
      rw [List.range_succ, List.map_append, toNat_append, inductionHypothesis, List.length_map,
        List.length_range, List.map_singleton, toNat_cons, BitVec.toNat_ofNat,
        Nat.shiftRight_eq_div_pow, Nat.mul_succ, Nat.pow_add, Nat.mod_mul]
      simp [toNat]

end Limbs

namespace Long

/-- The natural that longs spell, the first one lowest. -/
def total (longs : List Int) : Nat :=
  (longs.zipIdx.map fun entry => toWord entry.1 * 2 ^ (64 * entry.2)).sum

/-- The cell of a width that lies at an index of the padded layout. -/
def paddedCell (longs : List Int) (width index : Nat) : Nat :=
  toWord (longs.getD (index / Layout.cellsPerWord width) 0) /
    2 ^ (width * (index % Layout.cellsPerWord width)) % 2 ^ width

/-- The cell of a width that lies at an index of the contiguous layout. -/
def contiguousCell (longs : List Int) (width index : Nat) : Nat :=
  total longs / 2 ^ (width * index) % 2 ^ width

/-- The cell of a width at an index, in the layout of new files or of old ones. -/
def cell (isPadded : Bool) (longs : List Int) (width index : Nat) : Nat :=
  if isPadded then paddedCell longs width index else contiguousCell longs width index

/-- So many cells of a width, in order. -/
def cells (isPadded : Bool) (longs : List Int) (width size : Nat) : List Nat :=
  (List.range size).map (cell isPadded longs width)

/-- There are longs for so many cells of a width. -/
def Suffice (isPadded : Bool) (longs : List Int) (width size : Nat) : Prop :=
  if isPadded then
    Layout.wordsNeeded size width ≤ longs.length
  else
    Layout.bytesNeeded size width ≤ 8 * longs.length

/-- The word of a long is below the modulus. -/
theorem toWord_lt (long : Int) : toWord long < 2 ^ 64 := by
  have lower := Int.emod_nonneg long (show (modulus : Int) ≠ 0 by decide)
  have upper := Int.emod_lt_of_pos long (show (0 : Int) < modulus by decide)
  have sameModulus : modulus = 2 ^ 64 := by decide
  unfold toWord
  omega

@[simp]
theorem total_nil : total [] = 0 :=
  rfl

/-- The first long lies below the others. -/
theorem total_cons (long : Int) (rest : List Int) :
    total (long :: rest) = toWord long + 2 ^ 64 * total rest := by
  have raised : ∀ entry : Int × Nat,
      toWord entry.1 * 2 ^ (64 * (entry.2 + 1)) =
        2 ^ 64 * (toWord entry.1 * 2 ^ (64 * entry.2)) := by
    intro entry
    rw [Nat.mul_succ, Nat.pow_add, ← Nat.mul_assoc, Nat.mul_comm]
  calc total (long :: rest)
      = toWord long * 2 ^ (64 * 0) +
          (rest.zipIdx.map fun entry => toWord entry.1 * 2 ^ (64 * (entry.2 + 1))).sum := by
        rw [total, List.zipIdx_cons', List.map_cons, List.sum_cons, List.map_map]
        rfl
    _ = toWord long + 2 ^ 64 * total rest := by
        rw [Nat.mul_zero, Nat.pow_zero, Nat.mul_one, List.map_congr_left fun entry _ => raised entry,
          List.sum_map_mul_left, ← total]

/-- A digit of the natural that longs spell is the word there; beyond them every word is zero. -/
theorem total_digit (longs : List Int) (place : Nat) :
    total longs / 2 ^ (64 * place) % 2 ^ 64 = toWord (longs.getD place 0) := by
  induction longs generalizing place with
  | nil => simp [toWord]
  | cons long rest inductionHypothesis =>
      have below := toWord_lt long
      rw [total_cons]
      cases place with
      | zero =>
          simp only [Nat.mul_zero, Nat.pow_zero, Nat.div_one, List.getD_cons_zero]
          rw [Nat.add_mul_mod_self_left, Nat.mod_eq_of_lt below]
      | succ place =>
          rw [List.getD_cons_succ, ← inductionHypothesis place, Nat.mul_succ, Nat.add_comm (64 * place),
            Nat.pow_add, ← Nat.div_div_eq_div_mul, Nat.add_mul_div_left _ _ (Nat.two_pow_pos 64),
            Nat.div_eq_of_lt below, Nat.zero_add]

/-- Longs cut into limbs spell what the longs spell. -/
theorem toNat_flatMap_cut
    {limbBits count : Nat}
    (whole : limbBits * count = 64)
    (longs : List Int) :
    Limbs.toNat
        (longs.flatMap fun long =>
          (List.range count).map fun index =>
            BitVec.ofNat limbBits (toWord long >>> (limbBits * index))).toArray =
      total longs := by
  induction longs with
  | nil => simp [Limbs.toNat]
  | cons long rest inductionHypothesis =>
      rw [List.flatMap_cons, Limbs.toNat_append, inductionHypothesis, Limbs.toNat_cut,
        List.length_map, List.length_range, whole, Nat.mod_eq_of_lt (toWord_lt long), total_cons]

/-- Longs cut into limbs make as many limbs as each long does, times the longs. -/
theorem length_flatMap_cut
    {Part : Type}
    {cut : Int → List Part}
    {count : Nat}
    (each : ∀ long, (cut long).length = count)
    (longs : List Int) :
    (longs.flatMap cut).length = count * longs.length := by
  induction longs with
  | nil => rfl
  | cons long rest inductionHypothesis =>
      rw [List.flatMap_cons, List.length_append, inductionHypothesis, each, List.length_cons,
        Nat.mul_succ, Nat.add_comm]

theorem length_flatMap_halves (longs : List Int) :
    (longs.flatMap halves).length = 2 * longs.length :=
  length_flatMap_cut (show ∀ long, (halves long).length = 2 from fun _ => rfl) longs

theorem size_flatMap_bytes (longs : List Int) :
    (longs.flatMap bytes).toArray.size = 8 * longs.length := by
  rw [List.size_toArray]
  exact length_flatMap_cut (show ∀ long, (bytes long).length = 8 from fun _ => rfl) longs

theorem toNat_flatMap_halves (longs : List Int) :
    Limbs.toNat (longs.flatMap halves).toArray = total longs :=
  toNat_flatMap_cut (show 32 * 2 = 64 from rfl) longs

theorem toNat_flatMap_bytes (longs : List Int) :
    Limbs.toNat (longs.flatMap bytes).toArray = total longs :=
  toNat_flatMap_cut (show 8 * 8 = 64 from rfl) longs

end Long

namespace PackedArray

variable {longs : List Int} {size bound : Nat}

/-! ## Where the longs put cells -/

/-- A range of bits inside one digit, seen in the whole number or in the digit. -/
theorem range_of_digit
    (value start : Nat)
    {offset width digitBits : Nat}
    (inside : offset + width ≤ digitBits) :
    value / 2 ^ (start + offset) % 2 ^ width =
      value / 2 ^ start % 2 ^ digitBits / 2 ^ offset % 2 ^ width := by
  apply Nat.eq_of_testBit_eq
  intro bit
  simp only [Nat.testBit_mod_two_pow, Nat.testBit_div_two_pow]
  by_cases inWidth : bit < width
  · have inDigit : bit + offset < digitBits := by omega
    simp [inWidth, inDigit, Nat.add_comm start, Nat.add_assoc]
  · simp [inWidth]

/-- A padded array over words that spell some longs has the cells of these longs. -/
theorem cell_of_padded
    {array : PackedArray .padded}
    (admissible : array.maxValue ≤ maxCellValue)
    (spelled : Limbs.toNat array.limbs = Long.total longs)
    (index : Nat) :
    array.cell index = Long.paddedCell longs array.width index := by
  have inWord := Layout.padded_cell_in_word array.width_pos
    (Nat.le_trans (width_le admissible) (by decide)) index
  rw [cell, Limbs.read_eq Layout.padded.limbBits_pos, spelled, Layout.position,
    range_of_digit _ _ inWord, Layout.wordBits, Long.total_digit, Long.paddedCell]

/-- A contiguous array over bytes that spell some longs has the cells of these longs. -/
theorem cell_of_contiguous
    {array : PackedArray .contiguous}
    (spelled : Limbs.toNat array.limbs = Long.total longs)
    (index : Nat) :
    array.cell index = Long.contiguousCell longs array.width index := by
  rw [cell, Limbs.read_eq Layout.contiguous.limbBits_pos, spelled, Layout.position,
    Long.contiguousCell]

/-- Longs beyond those that the cells need do not matter. -/
theorem paddedCell_take
    {width : Nat}
    (positive : 0 < width)
    (fits : width ≤ Layout.wordBits)
    (longs : List Int)
    {index : Nat}
    (inside : index < size) :
    Long.paddedCell (longs.take (Layout.wordsNeeded size width)) width index =
      Long.paddedCell longs width index := by
  have wordBelow := Layout.word_lt_wordsNeeded positive fits inside
  simp only [Long.paddedCell, List.getD_eq_getElem?_getD, List.getElem?_take, if_pos wordBelow]

/-- The array laid over enough longs in the padded layout shows their cells. -/
theorem represents_halves
    (admissible : bound ≤ maxCellValue)
    (enough : Layout.wordsNeeded size (bitsNeeded bound) ≤ longs.length) :
    ({ size
       maxValue := bound
       limbs :=
         ((longs.take (Layout.wordsNeeded size (bitsNeeded bound))).flatMap Long.halves).toArray } :
      PackedArray .padded).Represents bound (Long.cells true longs (bitsNeeded bound) size) where
  stored :=
    { bound_le := admissible
      enough := by
        rw [List.size_toArray, Long.length_flatMap_halves, List.length_take,
          Nat.min_eq_left enough]
        exact Nat.le_refl _ }
  maxValue_eq := rfl
  values_eq := by
    refine List.map_congr_left fun index member => ?_
    have fits : bitsNeeded bound ≤ Layout.wordBits :=
      Nat.le_trans (bitsNeeded_mono admissible) (by decide)
    rw [cell_of_padded admissible (Long.toNat_flatMap_halves _) index, width,
      paddedCell_take (bitsNeeded_pos bound) fits longs (List.mem_range.1 member)]
    rfl

/-- The array laid over enough longs in the contiguous layout shows their cells. -/
theorem represents_bytes
    (admissible : bound ≤ maxCellValue)
    (enough : Layout.bytesNeeded size (bitsNeeded bound) ≤ 8 * longs.length) :
    ({ size, maxValue := bound, limbs := (longs.flatMap Long.bytes).toArray } :
      PackedArray .contiguous).Represents bound (Long.cells false longs (bitsNeeded bound) size) where
  stored :=
    { bound_le := admissible
      enough := Nat.le_trans enough (Nat.le_of_eq (Long.size_flatMap_bytes longs).symm) }
  maxValue_eq := rfl
  values_eq :=
    List.map_congr_left fun index _ => cell_of_contiguous (Long.toNat_flatMap_bytes _) index

/-! ## Reading arrays from longs -/

theorem checkValues_of_le
    {values : List Nat}
    (within : ∀ value ∈ values, value ≤ bound) :
    checkValues values bound = .ok () := by
  have none : values.find? (bound < ·) = none := by
    simpa using within
  rw [checkValues, none]

/-- The first value beyond a bound fails the check. -/
theorem checkValues_of_exceeds
    {values before after : List Nat}
    {value : Nat}
    (split : values = before ++ value :: after)
    (early : ∀ other ∈ before, other ≤ bound)
    (exceeds : bound < value) :
    checkValues values bound = .error (.exceedsMaxValue (.ofNat value) bound) := by
  have found : values.find? (bound < ·) = some value := by
    rw [split, List.find?_append, List.find?_eq_none.2 (by simpa using early)]
    simp [exceeds]
  rw [checkValues, found]

/-- Under dimensions that are accepted, only the number of bytes counts. -/
theorem overBytes_of_accepted
    {sizeNumber maxValue : Number}
    (accepted : checkDimensions sizeNumber maxValue = .ok (size, bound))
    (bytes : Array Byte) :
    overBytes sizeNumber maxValue bytes =
      if bytes.size < Layout.bytesNeeded size (bitsNeeded bound) then
        .error (.tooFewBytes size (bitsNeeded bound) bytes.size)
      else
        .ok { size, maxValue := bound, limbs := bytes } := by
  rw [overBytes, accepted]
  rfl

/-- The dimensions of a new array are accepted once more over bytes. -/
theorem overBytes_of_checked
    {sizeNumber maxValue : Number}
    (accepted : checkNew .padded sizeNumber maxValue = .ok (size, bound))
    (bytes : Array Byte) :
    overBytes (.ofNat size) (.ofNat bound) bytes =
      if bytes.size < Layout.bytesNeeded size (bitsNeeded bound) then
        .error (.tooFewBytes size (bitsNeeded bound) bytes.size)
      else
        .ok { size, maxValue := bound, limbs := bytes } := by
  obtain ⟨safe, -, admissible, -⟩ := checkNew_eq_ok_iff.1 accepted
  exact overBytes_of_accepted (checkDimensions_eq_ok_iff.2
    ⟨Number.toSafeNat?_ofNat_of_toSafeNat? safe, Number.toNat?_ofNat bound, admissible⟩) bytes

/-- Too few longs are refused as a range failure. -/
theorem ofLongs_of_short
    {sizeNumber maxValue : Number}
    (accepted : checkNew .padded sizeNumber maxValue = .ok (size, bound))
    {isPadded : Bool}
    (short : ¬ Long.Suffice isPadded longs (bitsNeeded bound) size) :
    ∃ cause, ofLongs longs sizeNumber maxValue isPadded = .error cause ∧
      cause.failure.kind = .range := by
  rw [ofLongs, accepted]
  cases isPadded with
  | true =>
      have missing : longs.length < Layout.wordsNeeded size (bitsNeeded bound) :=
        Nat.lt_of_not_le short
      refine ⟨.tooFewWords size longs.length, ?_, rfl⟩
      change ofPaddedLongs longs size bound = _
      rw [ofPaddedLongs, if_pos missing]
      rfl
  | false =>
      have missing :
          (longs.flatMap Long.bytes).toArray.size < Layout.bytesNeeded size (bitsNeeded bound) := by
        rw [Long.size_flatMap_bytes]
        exact Nat.lt_of_not_le short
      refine ⟨.tooFewBytes size (bitsNeeded bound) (longs.flatMap Long.bytes).toArray.size, ?_, rfl⟩
      change ofContiguousLongs longs size bound = _
      rw [ofContiguousLongs, overBytes_of_checked accepted, if_pos missing]
      rfl

/-- Enough longs whose cells are within the bound make an array that shows these cells. -/
theorem ofLongs_of_le
    {sizeNumber maxValue : Number}
    (accepted : checkNew .padded sizeNumber maxValue = .ok (size, bound))
    {isPadded : Bool}
    (enough : Long.Suffice isPadded longs (bitsNeeded bound) size)
    (within : ∀ value ∈ Long.cells isPadded longs (bitsNeeded bound) size, value ≤ bound) :
    ∃ array, ofLongs longs sizeNumber maxValue isPadded = .ok array ∧
      array.Represents bound (Long.cells isPadded longs (bitsNeeded bound) size) := by
  obtain ⟨-, -, admissible, -⟩ := checkNew_eq_ok_iff.1 accepted
  rw [ofLongs, accepted]
  cases isPadded with
  | true =>
      have shows := represents_halves admissible enough
      refine ⟨_, ?_, shows⟩
      change ofPaddedLongs longs size bound = _
      have checked := checkValues_of_le within
      rw [← shows.values_eq] at checked
      rw [ofPaddedLongs, if_neg (Nat.not_lt.2 enough)]
      change (checkValues _ bound >>= _) = _
      rw [checked]
      rfl
  | false =>
      have shows := represents_bytes admissible enough
      obtain ⟨array, copied, showsArray⟩ := shows.relayout_of_le within .padded
      refine ⟨array, ?_, showsArray⟩
      have present :
          ¬ (longs.flatMap Long.bytes).toArray.size < Layout.bytesNeeded size (bitsNeeded bound) := by
        rw [Long.size_flatMap_bytes]
        exact Nat.not_lt.2 enough
      change ofContiguousLongs longs size bound = _
      rw [ofContiguousLongs, overBytes_of_checked accepted, if_neg present]
      exact copied

/-- Of enough longs the first cell beyond the bound is refused. -/
theorem ofLongs_of_exceeds
    {sizeNumber maxValue : Number}
    (accepted : checkNew .padded sizeNumber maxValue = .ok (size, bound))
    {isPadded : Bool}
    (enough : Long.Suffice isPadded longs (bitsNeeded bound) size)
    {before after : List Nat}
    {value : Nat}
    (split : Long.cells isPadded longs (bitsNeeded bound) size = before ++ value :: after)
    (early : ∀ other ∈ before, other ≤ bound)
    (exceeds : bound < value) :
    ofLongs longs sizeNumber maxValue isPadded =
      .error (.exceedsMaxValue (.ofNat value) bound) := by
  obtain ⟨-, -, admissible, -⟩ := checkNew_eq_ok_iff.1 accepted
  rw [ofLongs, accepted]
  cases isPadded with
  | true =>
      have shows := represents_halves admissible enough
      change ofPaddedLongs longs size bound = _
      have checked := checkValues_of_exceeds split early exceeds
      rw [← shows.values_eq] at checked
      rw [ofPaddedLongs, if_neg (Nat.not_lt.2 enough)]
      change (checkValues _ bound >>= _) = _
      rw [checked]
      rfl
  | false =>
      have shows := represents_bytes admissible enough
      have present :
          ¬ (longs.flatMap Long.bytes).toArray.size < Layout.bytesNeeded size (bitsNeeded bound) := by
        rw [Long.size_flatMap_bytes]
        exact Nat.not_lt.2 enough
      change ofContiguousLongs longs size bound = _
      rw [ofContiguousLongs, overBytes_of_checked accepted, if_neg present]
      exact shows.relayout_of_exceeds split early exceeds .padded

/-- Longs that make an array suffice, and the array shows their cells, all within its bound. -/
theorem of_ofLongs_eq_ok
    {sizeNumber maxValue : Number}
    {isPadded : Bool}
    {array : PackedArray .padded}
    (read : ofLongs longs sizeNumber maxValue isPadded = .ok array) :
    ∃ size bound, checkNew .padded sizeNumber maxValue = .ok (size, bound) ∧
      Long.Suffice isPadded longs (bitsNeeded bound) size ∧
      (∀ value ∈ Long.cells isPadded longs (bitsNeeded bound) size, value ≤ bound) ∧
      array.Represents bound (Long.cells isPadded longs (bitsNeeded bound) size) := by
  obtain ⟨⟨size, bound⟩, accepted, -⟩ := bind_eq_ok_iff.1 read
  by_cases enough : Long.Suffice isPadded longs (bitsNeeded bound) size
  · rcases all_or_first_fails (· ≤ bound) (Long.cells isPadded longs (bitsNeeded bound) size)
      with within | ⟨before, value, after, split, early, exceeds⟩
    · obtain ⟨made, readMade, shows⟩ := ofLongs_of_le accepted enough within
      rw [readMade] at read
      cases read
      exact ⟨size, bound, accepted, enough, within, shows⟩
    · rw [ofLongs_of_exceeds accepted enough split early (Nat.lt_of_not_le exceeds)] at read
      cases read
  · obtain ⟨cause, refused, -⟩ := ofLongs_of_short accepted enough
    rw [refused] at read
    cases read

/-! ## Cell by cell -/

section Checked

variable {sizeNumber maxValue : Number} {isPadded : Bool}
  (accepted : checkNew .padded sizeNumber maxValue = .ok (size, bound))

include accepted

theorem represents_of_ofLongs_eq_ok
    {array : PackedArray .padded}
    (read : ofLongs longs sizeNumber maxValue isPadded = .ok array) :
    array.Represents bound (Long.cells isPadded longs (bitsNeeded bound) size) := by
  obtain ⟨_, _, again, -, -, shows⟩ := of_ofLongs_eq_ok read
  rw [accepted] at again
  cases again
  exact shows

/-- Longs make an array exactly when they suffice and no cell exceeds the bound. -/
theorem ofLongs_succeeds_iff :
    (∃ array, ofLongs longs sizeNumber maxValue isPadded = .ok array) ↔
      Long.Suffice isPadded longs (bitsNeeded bound) size ∧
        ∀ index < size, Long.cell isPadded longs (bitsNeeded bound) index ≤ bound := by
  constructor
  · rintro ⟨array, read⟩
    obtain ⟨_, _, again, enough, within, -⟩ := of_ofLongs_eq_ok read
    rw [accepted] at again
    cases again
    exact ⟨enough, fun index inside =>
      within _ (List.mem_map_of_mem (List.mem_range.2 inside))⟩
  · rintro ⟨enough, within⟩
    have each : ∀ value ∈ Long.cells isPadded longs (bitsNeeded bound) size, value ≤ bound := by
      intro value member
      obtain ⟨index, listed, rfl⟩ := List.mem_map.1 member
      exact within index (List.mem_range.1 listed)
    obtain ⟨array, read, -⟩ := ofLongs_of_le accepted enough each
    exact ⟨array, read⟩

/--
Longs make an array exactly when they suffice and no cell exceeds the bound, and the
array has their cells. Too few longs are a range failure, and otherwise the first
cell that exceeds the bound is refused with its value.
-/
theorem ofLongs_outcomes :
    ((∃ array, ofLongs longs sizeNumber maxValue isPadded = .ok array) ↔
      Long.Suffice isPadded longs (bitsNeeded bound) size ∧
        ∀ index < size, Long.cell isPadded longs (bitsNeeded bound) index ≤ bound) ∧
    (∀ array, ofLongs longs sizeNumber maxValue isPadded = .ok array →
      array.size = size ∧ array.maxValue = bound ∧
      array.values = (List.range size).map (Long.cell isPadded longs (bitsNeeded bound))) ∧
    (¬ Long.Suffice isPadded longs (bitsNeeded bound) size →
      ∃ cause, ofLongs longs sizeNumber maxValue isPadded = .error cause ∧
        cause.failure.kind = .range) ∧
    (Long.Suffice isPadded longs (bitsNeeded bound) size → ∀ index < size,
      bound < Long.cell isPadded longs (bitsNeeded bound) index →
      (∀ earlier < index, Long.cell isPadded longs (bitsNeeded bound) earlier ≤ bound) →
      ∃ cause, ofLongs longs sizeNumber maxValue isPadded = .error cause ∧
        cause.failure.kind = .value ∧
        cause.failure.value =
          some (.ofNat (Long.cell isPadded longs (bitsNeeded bound) index))) := by
  refine ⟨ofLongs_succeeds_iff accepted, fun array read => ?_, ofLongs_of_short accepted,
    fun enough index inside exceeds early => ?_⟩
  · have shows := represents_of_ofLongs_eq_ok accepted read
    refine ⟨?_, shows.maxValue_eq, shows.values_eq⟩
    rw [← shows.length_eq, Long.cells, List.length_map, List.length_range]
  · have split :=
      congrArg (List.map (Long.cell isPadded longs (bitsNeeded bound))) (range_split inside)
    rw [List.map_append, List.map_cons] at split
    refine ⟨_, ofLongs_of_exceeds accepted enough split (fun other member => ?_) exceeds, rfl, rfl⟩
    obtain ⟨earlier, listed, rfl⟩ := List.mem_map.1 member
    exact early earlier (List.mem_range.1 listed)

end Checked

end PackedArray

end BlockVolume
