import BlockVolume.Proofs.Storage.Longs

namespace BlockVolume

/-!
# Widths that fill a long

When the width of a cell divides that of a long, cells without a gap between
them never span two longs. Old and new files then hold a cell in the same place
and need the same number of longs, so it does not matter as which of the two a
list of longs is read, also when it is refused.
-/

namespace Number

/-- A natural below the modulus is its own residue. -/
theorem wrap32_of_toNat?
    {number : Number}
    {natural : Nat}
    (denoted : number.toNat? = some natural)
    (below : natural < wrapModulus) :
    number.wrap32 = natural := by
  rw [toNat?_eq_some_iff] at denoted
  cases number with
  | nan => cases denoted
  | infinity negative => cases denoted
  | finite negative mantissa exponent =>
      rw [toInt?] at denoted
      split at denoted
      · rw [wrap32, Option.some.inj denoted]
        exact Nat.mod_eq_of_lt below
      · cases denoted

/-- A bound that is accepted needs as many bits as the natural that it denotes. -/
theorem bitsNeeded_of_toNat?
    {number : Number}
    {bound : Nat}
    (denoted : number.toNat? = some bound)
    (admissible : bound ≤ maxCellValue) :
    number.bitsNeeded = BlockVolume.bitsNeeded bound := by
  have below : bound < wrapModulus := Nat.lt_of_le_of_lt admissible (by decide)
  rw [bitsNeeded, wrap32_of_toNat? denoted below]

end Number

namespace Layout

variable {width : Nat}

/-- Cells of a width that divides a word fill it. -/
theorem mul_cellsPerWord_of_dvd (divides : width ∣ wordBits) :
    width * cellsPerWord width = wordBits :=
  Nat.mul_div_cancel' divides

/-- A quotient rounded up is at most a natural exactly when its multiple covers the dividend. -/
theorem ceilDiv_le_iff
    {divisor : Nat}
    (positive : 0 < divisor)
    (dividend bound : Nat) :
    ceilDiv dividend divisor ≤ bound ↔ dividend ≤ divisor * bound := by
  rw [ceilDiv, Nat.div_le_iff_le_mul_add_pred positive]
  omega

/-- Then as many longs are needed in either layout. -/
theorem wordsNeeded_le_iff_of_dvd
    (positive : 0 < width)
    (divides : width ∣ wordBits)
    (size longs : Nat) :
    wordsNeeded size width ≤ longs ↔ bytesNeeded size width ≤ 8 * longs := by
  have cells := mul_cellsPerWord_of_dvd divides
  have cellsPositive := cellsPerWord_pos positive (Nat.le_of_dvd (by decide) divides)
  have bits : 8 * (8 * longs) = width * (cellsPerWord width * longs) := by
    rw [← Nat.mul_assoc, ← Nat.mul_assoc, cells]
    rfl
  rw [wordsNeeded, bytesNeeded, ceilDiv_le_iff cellsPositive, ceilDiv_le_iff (by decide), bits,
    Nat.mul_comm size, Nat.mul_le_mul_left_iff positive]

end Layout

namespace Long

variable {width : Nat}

/-- A cell lies in the long where the layout without gaps starts it. -/
theorem paddedCell_eq_contiguousCell
    (positive : 0 < width)
    (divides : width ∣ Layout.wordBits)
    (longs : List Int)
    (index : Nat) :
    paddedCell longs width index = contiguousCell longs width index := by
  have inWord := Layout.padded_cell_in_word positive (Nat.le_of_dvd (by decide) divides) index
  have start :
      width * index =
        Layout.wordBits * (index / Layout.cellsPerWord width) +
          width * (index % Layout.cellsPerWord width) := by
    rw [← Layout.mul_cellsPerWord_of_dvd divides, Nat.mul_assoc, ← Nat.mul_add, Nat.div_add_mod]
  rw [contiguousCell, start, PackedArray.range_of_digit _ _ inWord, Layout.wordBits, total_digit,
    paddedCell]

/-- So both layouts have the same cells. -/
theorem cells_false_eq
    (positive : 0 < width)
    (divides : width ∣ Layout.wordBits)
    (longs : List Int)
    (size : Nat) :
    cells false longs width size = cells true longs width size :=
  List.map_congr_left fun index _ =>
    (paddedCell_eq_contiguousCell positive divides longs index).symm

/-- They also ask for the same longs. -/
theorem suffice_false_iff
    (positive : 0 < width)
    (divides : width ∣ Layout.wordBits)
    (longs : List Int)
    (size : Nat) :
    Suffice false longs width size ↔ Suffice true longs width size :=
  (Layout.wordsNeeded_le_iff_of_dvd positive divides size longs.length).symm

end Long

namespace PackedArray

variable {size maxValue : Number}

/-! ## Refused dimensions -/

/-- Dimensions are refused for the size or the bound. -/
theorem value_of_checkDimensions_eq_error
    {cause : StorageError}
    (refused : checkDimensions size maxValue = .error cause) :
    cause.failure.kind = .value ∧ ∃ value, cause.failure.value = some value := by
  unfold checkDimensions at refused
  split at refused
  · unfold checkMaxValue at refused
    split at refused
    · split at refused
      · cases refused
      · cases refused
        exact ⟨rfl, maxValue, rfl⟩
    · cases refused
      exact ⟨rfl, maxValue, rfl⟩
  · cases refused
    exact ⟨rfl, size, rfl⟩

/-- A store is refused for its length. -/
theorem kind_of_checkStore_eq_error
    {layout : Layout}
    {limbs : Nat}
    {cause : StorageError}
    (refused : checkStore layout limbs = .error cause) :
    cause.failure.kind = .range := by
  unfold checkStore at refused
  dsimp only at refused
  split at refused
  · cases refused
    rfl
  · split at refused
    · cases refused
      rfl
    · cases refused

/-- A new array is refused for its dimensions or for its store. -/
theorem kind_of_checkNew_eq_error
    {layout : Layout}
    {cause : StorageError}
    (refused : checkNew layout size maxValue = .error cause) :
    cause.failure.kind = .range ∨
      cause.failure.kind = .value ∧ ∃ value, cause.failure.value = some value := by
  obtain dimensions | ⟨⟨count, bound⟩, -, later⟩ := bind_eq_error_iff.1 refused
  · exact .inr (value_of_checkDimensions_eq_error dimensions)
  · obtain stored | ⟨-, -, impossible⟩ := bind_eq_error_iff.1 later
    · exact .inl (kind_of_checkStore_eq_error stored)
    · cases impossible

theorem ofLongs_of_refused
    {cause : StorageError}
    (refused : checkNew .padded size maxValue = .error cause)
    (longs : List Int)
    (isPadded : Bool) :
    ofLongs longs size maxValue isPadded = .error cause := by
  rw [ofLongs, refused]
  rfl

/-! ## Both layouts -/

/--
Cells whose width divides that of a long are read alike in both layouts. Either
both are a range failure, which for dimensions that are accepted means too few
longs; or both are refused for the same value, which then is that of the first
cell beyond the bound; or both are read, with the same cells.
-/
theorem ofLongs_layouts_agree
    (longs : List Int)
    (size maxValue : Number)
    (divides : maxValue.bitsNeeded ∣ Layout.wordBits) :
    (∃ padded contiguous,
        ofLongs longs size maxValue true = .error padded ∧
        ofLongs longs size maxValue false = .error contiguous ∧
        padded.failure.kind = .range ∧ contiguous.failure.kind = .range ∧
        ∀ count bound, checkNew .padded size maxValue = .ok (count, bound) →
          longs.length < Layout.wordsNeeded count (bitsNeeded bound)) ∨
      (∃ cause value,
        ofLongs longs size maxValue true = .error cause ∧
        ofLongs longs size maxValue false = .error cause ∧
        cause.failure.kind = .value ∧ cause.failure.value = some value ∧
        ∀ count bound, checkNew .padded size maxValue = .ok (count, bound) →
          ∃ first,
            (Long.cells true longs (bitsNeeded bound) count).find? (bound < ·) = some first ∧
            value = .ofNat first) ∨
      ∃ padded contiguous,
        ofLongs longs size maxValue true = .ok padded ∧
        ofLongs longs size maxValue false = .ok contiguous ∧
        padded.size = contiguous.size ∧ padded.maxValue = contiguous.maxValue ∧
        padded.values = contiguous.values ∧
        ∀ count bound, checkNew .padded size maxValue = .ok (count, bound) →
          padded.size = count ∧ padded.maxValue = bound ∧
          padded.values = Long.cells true longs (bitsNeeded bound) count ∧
          ∀ value ∈ padded.values, value ≤ bound := by
  cases accepted : checkNew .padded size maxValue with
  | error cause =>
      have padded := ofLongs_of_refused accepted longs true
      have contiguous := ofLongs_of_refused accepted longs false
      obtain range | ⟨invalid, value, named⟩ := kind_of_checkNew_eq_error accepted
      · exact .inl ⟨cause, cause, padded, contiguous, range, range, nofun⟩
      · exact .inr (.inl ⟨cause, value, padded, contiguous, invalid, named, nofun⟩)
  | ok checked =>
      obtain ⟨count, bound⟩ := checked
      obtain ⟨-, denoted, admissible, -⟩ := checkNew_eq_ok_iff.1 accepted
      rw [Number.bitsNeeded_of_toNat? denoted admissible] at divides
      have positive := bitsNeeded_pos bound
      have sameCells := Long.cells_false_eq positive divides longs count
      have sameNeed := Long.suffice_false_iff positive divides longs count
      by_cases enough : Long.Suffice true longs (bitsNeeded bound) count
      · have enoughBytes := sameNeed.2 enough
        rcases all_or_first_fails (· ≤ bound) (Long.cells true longs (bitsNeeded bound) count)
          with within | ⟨before, value, after, split, early, exceeds⟩
        · obtain ⟨padded, readPadded, showsPadded⟩ := ofLongs_of_le accepted enough within
          obtain ⟨contiguous, readContiguous, showsContiguous⟩ :=
            ofLongs_of_le accepted enoughBytes (sameCells ▸ within)
          rw [sameCells] at showsContiguous
          have sameValues := showsPadded.values_eq.trans showsContiguous.values_eq.symm
          refine .inr (.inr ⟨padded, contiguous, readPadded, readContiguous, ?_,
            showsPadded.maxValue_eq.trans showsContiguous.maxValue_eq.symm, sameValues, ?_⟩)
          · rw [← showsPadded.length_eq, ← showsContiguous.length_eq]
          · rintro _ _ ⟨⟩
            refine ⟨?_, showsPadded.maxValue_eq, showsPadded.values_eq, ?_⟩
            · rw [← showsPadded.length_eq, Long.cells, List.length_map, List.length_range]
            · rw [showsPadded.values_eq]
              exact within
        · have beyond := Nat.lt_of_not_le exceeds
          refine .inr (.inl ⟨.exceedsMaxValue (.ofNat value) bound, .ofNat value,
            ofLongs_of_exceeds accepted enough split early beyond,
            ofLongs_of_exceeds accepted enoughBytes (sameCells.trans split) early beyond,
            rfl, rfl, ?_⟩)
          rintro _ _ ⟨⟩
          refine ⟨value, ?_, rfl⟩
          rw [List.find?_eq_some_iff_append]
          exact ⟨decide_eq_true beyond, before, after, split, by simpa using early⟩
      · obtain ⟨padded, refusedPadded, paddedKind⟩ := ofLongs_of_short accepted enough
        obtain ⟨contiguous, refusedContiguous, contiguousKind⟩ :=
          ofLongs_of_short accepted (mt sameNeed.1 enough)
        refine .inl ⟨padded, contiguous, refusedPadded, refusedContiguous, paddedKind,
          contiguousKind, ?_⟩
        rintro _ _ ⟨⟩
        exact Nat.lt_of_not_le enough

/-- Three nibbles below garbage are read alike, and a bound below the third refuses it twice. -/
theorem ofLongs_layouts_agree_of_nibbles :
    (15 : Number).bitsNeeded ∣ Layout.wordBits ∧ (9 : Number).bitsNeeded ∣ Layout.wordBits ∧
      (∃ padded contiguous,
        ofLongs [-1383] 3 15 true = .ok padded ∧ ofLongs [-1383] 3 15 false = .ok contiguous ∧
        padded.values = contiguous.values ∧ padded.values = [9, 9, 10]) ∧
      ∃ cause,
        ofLongs [-1383] 3 9 true = .error cause ∧ ofLongs [-1383] 3 9 false = .error cause ∧
        cause.failure.value = some 10 := by
  have wide : (15 : Number).bitsNeeded ∣ Layout.wordBits := by decide
  have narrow : (9 : Number).bitsNeeded ∣ Layout.wordBits := by decide
  have acceptedWide : checkNew .padded 3 15 = .ok (3, 15) := by decide
  have acceptedNarrow : checkNew .padded 3 9 = .ok (3, 9) := by decide
  have wideCells : Long.cells true [-1383] (bitsNeeded 15) 3 = [9, 9, 10] := by decide
  have narrowCells : Long.cells true [-1383] (bitsNeeded 9) 3 = [9, 9, 10] := by decide
  refine ⟨wide, narrow, ?_, ?_⟩
  · obtain ⟨-, -, -, -, -, -, short⟩ | ⟨_, _, -, -, -, -, named⟩ |
      ⟨padded, contiguous, readPadded, readContiguous, -, -, sameValues, shown⟩ :=
      ofLongs_layouts_agree [-1383] 3 15 wide
    · exact absurd (short 3 15 acceptedWide) (by decide)
    · obtain ⟨first, found, -⟩ := named 3 15 acceptedWide
      rw [wideCells] at found
      cases found
    · exact ⟨padded, contiguous, readPadded, readContiguous, sameValues,
        (shown 3 15 acceptedWide).2.2.1.trans wideCells⟩
  · obtain ⟨-, -, -, -, -, -, short⟩ | ⟨cause, value, padded, contiguous, -, carried, named⟩ |
      ⟨_, _, -, -, -, -, -, shown⟩ :=
      ofLongs_layouts_agree [-1383] 3 9 narrow
    · exact absurd (short 3 9 acceptedNarrow) (by decide)
    · obtain ⟨first, found, rfl⟩ := named 3 9 acceptedNarrow
      rw [narrowCells] at found
      cases found
      exact ⟨cause, padded, contiguous, carried⟩
    · obtain ⟨-, -, shownCells, within⟩ := shown 3 9 acceptedNarrow
      rw [shownCells, narrowCells] at within
      exact absurd (within 10 (by decide)) (by decide)

end PackedArray

end BlockVolume
