import BlockVolume.Proofs.Storage.Words

namespace BlockVolume

/-!
# Padded longs there and back

A padded array that shows its words as longs is read back from them, with the
same cells, whatever longs follow. The other way round an array keeps the longs
that it is read from, as signed integers, also the bits that no cell uses; they
may be anything and are never a reason to refuse longs.

Reading longs makes a new array, which asks for memory, and a widening does not. So
an array is read back if its store is no longer than that of a new one may be.
-/

namespace PackedArray

variable {array : PackedArray .padded} {longs : List Int} {size bound : Nat}

/-- A long that an array shows is found before all that follow. -/
theorem getD_toLongs_append
    {word : Nat}
    (inside : word < array.toLongs.length)
    (extra : List Int) :
    (array.toLongs ++ extra).getD word 0 = array.long word := by
  rw [List.getD_eq_getElem?_getD, List.getElem?_append_left inside, getElem?_toLongs inside,
    Option.getD_some]

/-- The longs that an array shows put every cell where it is. -/
theorem Stored.paddedCell_toLongs_append
    (stored : array.Stored)
    (extra : List Int)
    {index : Nat}
    (inside : index < array.size) :
    Long.paddedCell (array.toLongs ++ extra) array.width index = array.cell index := by
  have wordInside := stored.wordOf_lt inside
  rw [stored.cell_eq, ← toWord_long, ← getD_toLongs_append wordInside extra]
  rfl

theorem Stored.cells_toLongs_append
    (stored : array.Stored)
    (extra : List Int) :
    Long.cells true (array.toLongs ++ extra) array.width array.size = array.values :=
  List.map_congr_left fun _ member =>
    stored.paddedCell_toLongs_append extra (List.mem_range.1 member)

/-- The longs that an array shows are as many as its cells need, at least. -/
theorem Stored.suffice_toLongs_append
    (stored : array.Stored)
    (extra : List Int) :
    Long.Suffice true (array.toLongs ++ extra) array.width array.size := by
  have enough : 2 * Layout.wordsNeeded array.size array.width ≤ array.limbs.size := stored.enough
  change Layout.wordsNeeded array.size array.width ≤ (array.toLongs ++ extra).length
  rw [List.length_append, length_toLongs]
  omega

/-- A new array with the dimensions of one whose store is short enough is granted. -/
theorem Stored.checkNew_of_allocated
    (stored : array.Stored)
    (allocated : array.byteLength ≤ allocatableBytes) :
    checkNew .padded (.ofNat array.size) (.ofNat array.maxValue) =
      .ok (array.size, array.maxValue) := by
  have words : array.size ≤
      Layout.wordsNeeded array.size array.width * Layout.cellsPerWord array.width :=
    Layout.le_ceilDiv_mul _ _ (Layout.cellsPerWord_pos array.width_pos stored.width_fits)
  have cells : Layout.cellsPerWord array.width ≤ 64 := Nat.div_le_self _ _
  have bytes : 4 * (2 * Layout.wordsNeeded array.size array.width) ≤ 2 ^ 36 := allocated
  have safe : array.size < Number.safeLimit := by
    have most := Nat.le_trans words (Nat.mul_le_mul_left _ cells)
    unfold Number.safeLimit
    omega
  exact checkNew_eq_ok_iff.2
    ⟨Option.filter_eq_some_iff.2 ⟨Number.toNat?_ofNat _, decide_eq_true safe⟩,
      Number.toNat?_ofNat _, stored.bound_le, allocated⟩

/-- The array that padded longs make is a copy of the ones that it needs. -/
theorem limbs_of_ofLongs
    {sizeNumber maxValue : Number}
    (accepted : checkNew .padded sizeNumber maxValue = .ok (size, bound))
    (read : ofLongs longs sizeNumber maxValue true = .ok array) :
    array.limbs =
      ((longs.take (Layout.wordsNeeded size (bitsNeeded bound))).flatMap Long.halves).toArray := by
  rw [ofLongs, accepted] at read
  change ofPaddedLongs longs size bound = .ok array at read
  rw [ofPaddedLongs] at read
  split at read
  · cases read
  · obtain ⟨-, -, same⟩ := bind_eq_ok_iff.1 read
    cases same
    rfl

/-- An array over the halves of longs shows these longs, as signed integers. -/
theorem toLongs_of_halves
    (limbs_eq : array.limbs = (longs.flatMap Long.halves).toArray) :
    array.toLongs = longs.map (·.bmod Long.modulus) := by
  have count : array.limbs.size / 2 = longs.length := by
    rw [limbs_eq, List.size_toArray, Long.length_flatMap_halves]
    omega
  refine List.ext_getElem (by rw [length_toLongs, count, List.length_map])
    fun word inside insideLongs => ?_
  rw [List.length_map] at insideLongs
  have shown : array.toLongs[word] = array.long word := by simp [toLongs]
  rw [shown, long_eq, word_halves, limbs_eq, Long.toNat_flatMap_halves, Long.total_digit,
    Long.ofWord_toWord, List.getD_eq_getElem?_getD, List.getElem?_eq_getElem insideLongs,
    Option.getD_some, List.getElem_map]

/--
First, a padded array that callers can build, with a store no longer than a new one
may be, is read back from its longs and any further ones. Second, for dimensions that are accepted,
longs make an array exactly when there are enough for the words that are needed and
no cell in them exceeds the bound. The array then has these cells and shows the
needed longs again, wrapped to signed integers. Too few longs are a range failure,
and otherwise the first cell beyond the bound is refused with its value.
-/
theorem padded_longs_round_trip :
    (∀ array : PackedArray .padded, array.Reachable → array.byteLength ≤ allocatableBytes →
      ∀ extra : List Int, ∃ copy,
        ofLongs (array.toLongs ++ extra) (.ofNat array.size) (.ofNat array.maxValue) true =
          .ok copy ∧
        copy.size = array.size ∧ copy.maxValue = array.maxValue ∧ copy.values = array.values) ∧
    ∀ (longs : List Int) (sizeNumber maxValue : Number) (size bound : Nat),
      checkNew .padded sizeNumber maxValue = .ok (size, bound) →
      ((∃ array, ofLongs longs sizeNumber maxValue true = .ok array) ↔
        Layout.wordsNeeded size (bitsNeeded bound) ≤ longs.length ∧
          ∀ index < size, Long.paddedCell longs (bitsNeeded bound) index ≤ bound) ∧
      (∀ array, ofLongs longs sizeNumber maxValue true = .ok array →
        array.size = size ∧ array.maxValue = bound ∧
        array.values = (List.range size).map (Long.paddedCell longs (bitsNeeded bound)) ∧
        array.toLongs =
          (longs.take (Layout.wordsNeeded size (bitsNeeded bound))).map (·.bmod Long.modulus)) ∧
      (longs.length < Layout.wordsNeeded size (bitsNeeded bound) →
        ∃ cause, ofLongs longs sizeNumber maxValue true = .error cause ∧
          cause.failure.kind = .range) ∧
      (Layout.wordsNeeded size (bitsNeeded bound) ≤ longs.length → ∀ index < size,
        bound < Long.paddedCell longs (bitsNeeded bound) index →
        (∀ earlier < index, Long.paddedCell longs (bitsNeeded bound) earlier ≤ bound) →
        ∃ cause, ofLongs longs sizeNumber maxValue true = .error cause ∧
          cause.failure.kind = .value ∧
          cause.failure.value =
            some (.ofNat (Long.paddedCell longs (bitsNeeded bound) index))) := by
  refine ⟨fun array reachable allocated extra => ?_, ?_⟩
  · have sound := reachable.sound
    exact sound.ofLongs_of_cells_eq (sound.stored.checkNew_of_allocated allocated)
      (sound.stored.suffice_toLongs_append extra) (sound.stored.cells_toLongs_append extra)
  · intro longs sizeNumber maxValue size bound accepted
    obtain ⟨succeeds, shown, short, exceeding⟩ := @ofLongs_outcomes longs size bound _ _ true accepted
    refine ⟨succeeds, fun array read => ?_, fun few => short (Nat.not_le.2 few), exceeding⟩
    obtain ⟨size_eq, maxValue_eq, values_eq⟩ := shown array read
    exact ⟨size_eq, maxValue_eq, values_eq, toLongs_of_halves (limbs_of_ofLongs accepted read)⟩

/-- Twelve cells of five bits are read below four unused bits, and a smaller bound refuses them. -/
theorem padded_longs_round_trip_of_five_bits :
    ∃ array copy : PackedArray .padded,
      ofLongs [-1, 7] 12 31 true = .ok array ∧
      array.values = List.replicate 12 31 ∧ array.toLongs = [-1] ∧
      ofLongs (array.toLongs ++ [7]) (.ofNat array.size) (.ofNat array.maxValue) true = .ok copy ∧
      copy.values = array.values ∧
      (∃ cause, ofLongs [-1, 7] 12 30 true = .error cause ∧ cause.failure.value = some 31) ∧
      ∃ cause, ofLongs [-1, 7] 25 31 true = .error cause ∧ cause.failure.kind = .range := by
  have accepted : checkNew .padded 12 31 = .ok (12, 31) := by decide
  have acceptedLower : checkNew .padded 12 30 = .ok (12, 30) := by decide
  have acceptedMore : checkNew .padded 25 31 = .ok (25, 31) := by decide
  obtain ⟨succeeds, shown, -, -⟩ := padded_longs_round_trip.2 [-1, 7] 12 31 12 31 accepted
  obtain ⟨-, -, -, exceeding⟩ := padded_longs_round_trip.2 [-1, 7] 12 30 12 30 acceptedLower
  obtain ⟨-, -, short, -⟩ := padded_longs_round_trip.2 [-1, 7] 25 31 25 31 acceptedMore
  obtain ⟨array, read⟩ := succeeds.2 ⟨by decide, by decide⟩
  obtain ⟨size_eq, maxValue_eq, values_eq, longs_eq⟩ := shown array read
  have allocated : array.byteLength ≤ allocatableBytes := by
    rw [byteLength, width, size_eq, maxValue_eq]
    decide
  obtain ⟨copy, readAgain, -, -, sameValues⟩ :=
    padded_longs_round_trip.1 array (.ofLongs read) allocated [7]
  obtain ⟨cause, refused, -, named⟩ :=
    exceeding (by decide) 0 (by decide) (by decide) (by decide)
  exact ⟨array, copy, read, values_eq.trans (by decide), longs_eq.trans (by decide), readAgain,
    sameValues, ⟨cause, refused, named.trans (by decide)⟩, short (by decide)⟩

end PackedArray

end BlockVolume
