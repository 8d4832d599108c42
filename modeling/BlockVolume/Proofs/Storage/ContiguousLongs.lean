import BlockVolume.Proofs.Storage.Words

namespace BlockVolume

/-!
# Contiguous longs and bytes

Old files hold cells in longs without a gap, serialized chunks hold them in bytes
without a gap. Both are one string of bits, so that the bytes of a contiguous
array, filled up with zeros to whole longs, are longs of the old kind. A cell may
start in one long and end in the next; it is still cut out of the one natural that
all longs spell.
-/

namespace Limbs

variable {limbBits : Nat}

/-- The natural of a row fits into the bits of the row. -/
theorem toNat_lt (limbs : List (BitVec limbBits)) :
    toNat limbs.toArray < 2 ^ (limbBits * limbs.length) := by
  induction limbs with
  | nil => simp [toNat]
  | cons limb rest inductionHypothesis =>
      have next := Nat.mul_le_mul_left (2 ^ limbBits) inductionHypothesis
      have below := limb.isLt
      rw [Nat.mul_succ] at next
      rw [toNat_cons, List.length_cons, Nat.mul_succ, Nat.add_comm (limbBits * rest.length),
        Nat.pow_add]
      omega

/-- Zeros at the end of a row do not count. -/
theorem toNat_append_zeros (limbs : List (BitVec limbBits)) (count : Nat) :
    toNat (limbs ++ List.replicate count 0).toArray = toNat limbs.toArray := by
  have zeros : toNat (List.replicate count (0 : BitVec limbBits)).toArray = 0 := by
    induction count with
    | zero => rfl
    | succ count inductionHypothesis =>
        rw [List.replicate_succ, toNat_cons, inductionHypothesis]
        simp
  rw [toNat_append, zeros, Nat.mul_zero, Nat.add_zero]

/-- The first limbs of a row spell its lowest bits. -/
theorem toNat_take (limbs : List (BitVec limbBits)) (count : Nat) :
    toNat (limbs.take count).toArray = toNat limbs.toArray % 2 ^ (limbBits * count) := by
  have below := toNat_lt (limbs.take count)
  by_cases enough : count ≤ limbs.length
  · rw [List.length_take, Nat.min_eq_left enough] at below
    have joined := toNat_append (limbs.take count) (limbs.drop count)
    rw [List.take_append_drop, List.length_take, Nat.min_eq_left enough] at joined
    rw [joined, Nat.add_mul_mod_self_left, Nat.mod_eq_of_lt below]
  · have atMost := Nat.le_of_not_le enough
    rw [List.take_of_length_le atMost] at below ⊢
    have wider := Nat.pow_le_pow_right Nat.two_pos (Nat.mul_le_mul_left limbBits atMost)
    rw [Nat.mod_eq_of_lt (Nat.lt_of_lt_of_le below wider)]

theorem toNat_extract (limbs : Array (BitVec limbBits)) (count : Nat) :
    toNat (limbs.extract 0 count) = toNat limbs % 2 ^ (limbBits * count) := by
  have first : limbs.extract 0 count = (limbs.toList.take count).toArray := by
    rw [← Array.toList_inj, Array.toList_extract, List.extract_eq_take_drop, List.drop_zero,
      Nat.sub_zero]
  rw [first, toNat_take, Array.toArray_toList]

end Limbs

namespace Long

/-- Bytes with zeros behind them, so that they fill longs. -/
def fillUp (bytes : List Byte) : List Byte :=
  bytes ++ List.replicate ((8 - bytes.length % 8) % 8) 0

/-- The longs that bytes spell, eight bytes each, the lowest first. -/
def ofBytes (bytes : List Byte) : List Int :=
  (List.range (bytes.length / 8)).map fun index =>
    ofWord (Limbs.toNat ((bytes.drop (8 * index)).take 8).toArray)

theorem eight_dvd_length_fillUp (bytes : List Byte) : 8 ∣ (fillUp bytes).length := by
  rw [fillUp, List.length_append, List.length_replicate]
  omega

theorem length_ofBytes (bytes : List Byte) : (ofBytes bytes).length = bytes.length / 8 := by
  rw [ofBytes, List.length_map, List.length_range]

/-- The first eight bytes make the first long. -/
theorem ofBytes_append
    {first : List Byte}
    (isLong : first.length = 8)
    (rest : List Byte) :
    ofBytes (first ++ rest) = ofWord (Limbs.toNat first.toArray) :: ofBytes rest := by
  have count : (first ++ rest).length / 8 = rest.length / 8 + 1 := by
    rw [List.length_append, isLong]
    omega
  rw [ofBytes, count, List.range_succ_eq_map, List.map_cons, List.map_map, ofBytes]
  refine congrArg₂ List.cons ?_ (List.map_congr_left fun index _ => ?_)
  · rw [Nat.mul_zero, List.drop_zero, List.take_left' isLong]
  · rw [Function.comp_apply, Nat.succ_eq_add_one, Nat.mul_succ, Nat.add_comm, ← List.drop_drop,
      List.drop_left' isLong]

/-- Longs spell what their bytes spell. -/
theorem total_ofBytes
    {bytes : List Byte}
    (whole : 8 ∣ bytes.length) :
    total (ofBytes bytes) = Limbs.toNat bytes.toArray := by
  obtain ⟨count, length_eq⟩ := whole
  induction count generalizing bytes with
  | zero =>
      obtain rfl : bytes = [] := List.length_eq_zero_iff.1 length_eq
      rfl
  | succ count inductionHypothesis =>
      have isLong : (bytes.take 8).length = 8 := by
        rw [List.length_take]
        omega
      have restLength : (bytes.drop 8).length = 8 * count := by
        rw [List.length_drop]
        omega
      have below := Limbs.toNat_lt (bytes.take 8)
      rw [isLong] at below
      rw [← List.take_append_drop 8 bytes, ofBytes_append isLong, total_cons, toWord_ofWord below,
        inductionHypothesis restLength, Limbs.toNat_append, isLong]

end Long

namespace PackedArray

variable {array : PackedArray .contiguous}

/-- The bytes in use as longs. -/
def bytesAsLongs (array : PackedArray .contiguous) : List Int :=
  Long.ofBytes (Long.fillUp array.toBytes.toList)

/-- They spell the lowest bits of the store. -/
theorem total_bytesAsLongs (array : PackedArray .contiguous) :
    Long.total array.bytesAsLongs =
      Limbs.toNat array.limbs % 2 ^ (8 * Layout.bytesNeeded array.size array.width) := by
  rw [bytesAsLongs, Long.total_ofBytes (Long.eight_dvd_length_fillUp _), Long.fillUp,
    Limbs.toNat_append_zeros, Array.toArray_toList]
  exact @Limbs.toNat_extract 8 array.limbs _

namespace Stored

/-- As many bytes are in use as the cells need. -/
theorem size_toBytes (stored : array.Stored) :
    array.toBytes.size = Layout.bytesNeeded array.size array.width := by
  have enough : Layout.bytesNeeded array.size array.width ≤ array.limbs.size := stored.enough
  have used : array.toBytes.size =
      min (Layout.bytesNeeded array.size array.width) array.limbs.size - 0 :=
    Array.size_extract
  rw [used, Nat.min_eq_left enough, Nat.sub_zero]

/-- There are as many of them as the cells need. -/
theorem suffice_bytesAsLongs (stored : array.Stored) :
    Long.Suffice false array.bytesAsLongs array.width array.size := by
  have whole := Long.eight_dvd_length_fillUp array.toBytes.toList
  change Layout.bytesNeeded array.size array.width ≤ 8 * array.bytesAsLongs.length
  rw [bytesAsLongs, Long.length_ofBytes, Nat.mul_div_cancel' whole, Long.fillUp,
    List.length_append, Array.length_toList, stored.size_toBytes]
  exact Nat.le_add_right _ _

/-- A cell is cut out of the lowest bits of the store, those of the bytes in use. -/
theorem digit_of_used
    (stored : array.Stored)
    {index : Nat}
    (inside : index < array.size) :
    Limbs.toNat array.limbs % 2 ^ (8 * Layout.bytesNeeded array.size array.width) /
        2 ^ (array.width * index) % 2 ^ array.width =
      array.cell index := by
  have inBytes := Layout.contiguous.position_add_le_limbsNeeded array.width_pos stored.width_fits
    inside
  rw [Nat.mul_comm _ Layout.contiguous.limbBits] at inBytes
  have cut := range_of_digit (Limbs.toNat array.limbs) 0 inBytes
  rw [Nat.zero_add, Nat.pow_zero, Nat.div_one] at cut
  rw [cell, Limbs.read_eq Layout.contiguous.limbBits_pos, cut]
  rfl

/-- They hold every cell of the array. -/
theorem cells_bytesAsLongs (stored : array.Stored) :
    Long.cells false array.bytesAsLongs array.width array.size = array.values := by
  refine List.map_congr_left fun index member => ?_
  rw [← stored.digit_of_used (List.mem_range.1 member)]
  change Long.contiguousCell array.bytesAsLongs array.width index = _
  rw [Long.contiguousCell, total_bytesAsLongs]

end Stored

/--
For dimensions that are accepted, old longs make an array exactly when their bytes
suffice for the bits of all cells and no cell exceeds the bound, where every cell is
cut out of the one natural that all longs spell. The array then has these cells. Too
few longs are a range failure, and otherwise the first cell beyond the bound is
refused with its value. So a contiguous array of these dimensions whose cells are
within its bound is read back from its bytes, filled up with zeros to whole longs.
-/
theorem contiguous_longs_decode
    {sizeNumber maxValue : Number}
    {size bound : Nat}
    (accepted : checkNew .padded sizeNumber maxValue = .ok (size, bound)) :
    (∀ longs : List Int,
      ((∃ array, ofLongs longs sizeNumber maxValue false = .ok array) ↔
        Layout.bytesNeeded size (bitsNeeded bound) ≤ 8 * longs.length ∧
          ∀ index < size, Long.contiguousCell longs (bitsNeeded bound) index ≤ bound) ∧
      (∀ array, ofLongs longs sizeNumber maxValue false = .ok array →
        array.size = size ∧ array.maxValue = bound ∧
        array.values = (List.range size).map (Long.contiguousCell longs (bitsNeeded bound))) ∧
      (8 * longs.length < Layout.bytesNeeded size (bitsNeeded bound) →
        ∃ cause, ofLongs longs sizeNumber maxValue false = .error cause ∧
          cause.failure.kind = .range) ∧
      (Layout.bytesNeeded size (bitsNeeded bound) ≤ 8 * longs.length → ∀ index < size,
        bound < Long.contiguousCell longs (bitsNeeded bound) index →
        (∀ earlier < index, Long.contiguousCell longs (bitsNeeded bound) earlier ≤ bound) →
        ∃ cause, ofLongs longs sizeNumber maxValue false = .error cause ∧
          cause.failure.kind = .value ∧
          cause.failure.value =
            some (.ofNat (Long.contiguousCell longs (bitsNeeded bound) index)))) ∧
    ∀ array : PackedArray .contiguous, array.Sound → array.size = size → array.maxValue = bound →
      ∃ copy, ofLongs array.bytesAsLongs sizeNumber maxValue false = .ok copy ∧
        copy.size = array.size ∧ copy.maxValue = array.maxValue ∧ copy.values = array.values := by
  refine ⟨fun longs => ?_, fun array sound size_eq maxValue_eq => ?_⟩
  · obtain ⟨succeeds, shown, short, exceeding⟩ :=
      @ofLongs_outcomes longs size bound _ _ false accepted
    exact ⟨succeeds, shown, fun few => short (Nat.not_le.2 few), exceeding⟩
  · subst size_eq maxValue_eq
    exact sound.ofLongs_of_cells_eq accepted sound.stored.suffice_bytesAsLongs
      sound.stored.cells_bytesAsLongs

/-- The last of thirteen cells of five bits starts in the first long and ends in the second. -/
theorem contiguous_longs_decode_across_two :
    ∃ (array copy : PackedArray .padded) (source : PackedArray .contiguous),
      ofLongs [6917529027641081863, 1] 13 31 false = .ok array ∧
      array.values = [7, 0, 0, 0, 0, 0, 0, 0, 0, 0, 0, 0, 22] ∧
      (∃ cause, ofLongs [6917529027641081863, 1] 13 21 false = .error cause ∧
        cause.failure.value = some 22) ∧
      (∃ cause, ofLongs [6917529027641081863] 13 31 false = .error cause ∧
        cause.failure.kind = .range) ∧
      source.limbs = #[7, 0, 0, 0, 0, 0, 0, 0x60, 1] ∧
      ofLongs source.bytesAsLongs 13 31 false = .ok copy ∧ copy.values = source.values := by
  let source : PackedArray .contiguous :=
    { size := 13, maxValue := 31, limbs := #[7, 0, 0, 0, 0, 0, 0, 0x60, 1] }
  have sound : source.Sound :=
    { stored := ⟨by decide, by decide⟩
      within := by decide }
  have accepted : checkNew .padded 13 31 = .ok (13, 31) := by decide
  have acceptedLower : checkNew .padded 13 21 = .ok (13, 21) := by decide
  obtain ⟨decodes, copies⟩ := contiguous_longs_decode accepted
  obtain ⟨succeeds, shown, -, -⟩ := decodes [6917529027641081863, 1]
  obtain ⟨-, -, short, -⟩ := decodes [6917529027641081863]
  obtain ⟨-, -, -, exceeding⟩ :=
    (contiguous_longs_decode acceptedLower).1 [6917529027641081863, 1]
  obtain ⟨array, read⟩ := succeeds.2 ⟨by decide, by decide⟩
  obtain ⟨copy, readBytes, -, -, sameValues⟩ := copies source sound rfl rfl
  obtain ⟨cause, refused, -, named⟩ := exceeding (by decide) 12 (by decide) (by decide) (by decide)
  exact ⟨array, copy, source, read, (shown array read).2.2.trans (by decide),
    ⟨cause, refused, named.trans (by decide)⟩, short (by decide), rfl, readBytes, sameValues⟩

end PackedArray

end BlockVolume
