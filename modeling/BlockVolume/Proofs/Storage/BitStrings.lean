import Mathlib.Data.Nat.Digits.Defs
import BlockVolume.Proofs.Storage.BoundedList
import BlockVolume.Proofs.Storage.ContiguousLongs
import BlockVolume.Proofs.Storage.Halves
import BlockVolume.Proofs.Storage.Sizes

namespace BlockVolume

/-!
# Contiguous arrays as strings of bits

The bytes below a contiguous array spell one natural, the first byte lowest. Its cells
are the digits of that natural in the base of their width, whatever the bytes hold, and
a write replaces one digit and no other bit. What lies behind the last cell belongs to
whoever handed in the bytes. An array that made its own store never sets a bit there, so
that its bytes spell the digits that its values are, and nothing else.
-/

/-- Bits that are replaced below a limit leave a natural below it. -/
theorem replaceBits_lt
    {natural offset width value limit : Nat}
    (below : natural < 2 ^ limit)
    (inside : offset + width ≤ limit)
    (fits : value < 2 ^ width) :
    replaceBits natural offset width value < 2 ^ limit := by
  refine Nat.lt_pow_two_of_testBit _ fun place beyond => ?_
  have outside : ¬ (offset ≤ place ∧ place < offset + width) := by omega
  rw [testBit_replaceBits _ _ fits, if_neg outside, testBit_of_fits below beyond]

/-- The lowest digits of a natural spell its lowest bits. -/
theorem ofDigits_lowest (natural width count : Nat) :
    Nat.ofDigits (2 ^ width)
        ((List.range count).map fun index => natural / 2 ^ (width * index) % 2 ^ width) =
      natural % 2 ^ (width * count) := by
  induction count with
  | zero => simp [Nat.mod_one]
  | succ count inductionHypothesis =>
      rw [List.range_succ, List.map_append, List.map_singleton, Nat.ofDigits_append,
        Nat.ofDigits_singleton, inductionHypothesis, List.length_map, List.length_range,
        ← Nat.pow_mul, Nat.mul_succ, Nat.pow_add, Nat.mod_mul]

namespace Limbs

variable {limbBits position width value : Nat}

/-- A write replaces the bits of its range in the natural that the row spells. -/
theorem toNat_write
    (positive : 0 < limbBits)
    (limbs : Array (BitVec limbBits))
    (nonempty : 0 < width)
    (inside : position + width ≤ limbs.size * limbBits)
    (fits : value < 2 ^ width) :
    toNat (write limbs position width value) =
      replaceBits (toNat limbs) position width value := by
  apply Nat.eq_of_testBit_eq
  intro place
  rw [testBit_toNat positive, bit_write positive limbs nonempty inside,
    testBit_replaceBits _ _ fits, testBit_toNat positive]

/-- A row of zeros spells zero. -/
theorem toNat_replicate_zero (limbBits count : Nat) :
    toNat (Array.replicate count (0 : BitVec limbBits)) = 0 := by
  have zeros := toNat_append_zeros ([] : List (BitVec limbBits)) count
  rw [List.nil_append, List.toArray_replicate] at zeros
  exact zeros

end Limbs

namespace PackedArray

variable {layout : Layout} {array : PackedArray .contiguous}

/-! ## Cells as digits -/

/-- A cell is a digit of the natural that the store spells. -/
theorem cell_eq_digit (array : PackedArray .contiguous) (index : Nat) :
    array.cell index =
      Limbs.toNat array.limbs / 2 ^ (array.width * index) % 2 ^ array.width :=
  Limbs.read_eq Layout.contiguous.limbBits_pos _ _ _

/-- The values are the lowest digits of the natural that the store spells. -/
theorem ofDigits_values (array : PackedArray .contiguous) :
    Nat.ofDigits (2 ^ array.width) array.values =
      Limbs.toNat array.limbs % 2 ^ (array.width * array.size) := by
  rw [← ofDigits_lowest, values, List.map_congr_left fun index _ => array.cell_eq_digit index]

/-- The bytes in use spell the lowest bits of the store. -/
theorem toNat_toBytes (array : PackedArray .contiguous) :
    Limbs.toNat array.toBytes =
      Limbs.toNat array.limbs % 2 ^ (8 * Layout.bytesNeeded array.size array.width) :=
  Limbs.toNat_extract array.limbs _

/-- An array that reads its cells off some bytes and hands out those that it needs. -/
structure ShowsBits (array : PackedArray .contiguous) (bytes : Array Byte) : Prop where
  get_eq : ∀ {index : Number} {place : Nat}, index.toNat? = some place → place < array.size →
    array.get index = .ok (Limbs.toNat bytes / 2 ^ (array.width * place) % 2 ^ array.width)
  toBytes_eq : array.toBytes = bytes.extract 0 ((array.size * array.width + 7) / 8)
  size_toBytes : array.toBytes.size = (array.size * array.width + 7) / 8
  again : ∀ {sizeNumber maxValue : Number},
    checkDimensions sizeNumber maxValue = .ok (array.size, array.maxValue) →
    ∃ copy, overBytes sizeNumber maxValue array.toBytes = .ok copy ∧ copy.values = array.values

namespace Stored

/-- The bytes in use hold every cell. -/
theorem overBytes_toBytes
    (stored : array.Stored)
    {sizeNumber maxValue : Number}
    (accepted : checkDimensions sizeNumber maxValue = .ok (array.size, array.maxValue)) :
    ∃ copy, overBytes sizeNumber maxValue array.toBytes = .ok copy ∧
      copy.values = array.values := by
  have enough : ¬ array.toBytes.size < Layout.bytesNeeded array.size (bitsNeeded array.maxValue) :=
    Nat.not_lt.2 (Nat.le_of_eq stored.size_toBytes.symm)
  refine ⟨{ array with limbs := array.toBytes }, ?_, List.map_congr_left fun index member => ?_⟩
  · rw [overBytes_of_accepted accepted, if_neg enough]
  · have inside : index < array.size := List.mem_range.1 member
    calc ({ array with limbs := array.toBytes } : PackedArray .contiguous).cell index
        = Limbs.toNat array.toBytes / 2 ^ (array.width * index) % 2 ^ array.width :=
          cell_eq_digit _ index
      _ = array.cell index := by rw [toNat_toBytes, stored.digit_of_used inside]

/-- Whatever its store holds, an array shows it bit by bit. -/
theorem showsBits (stored : array.Stored) : array.ShowsBits array.limbs where
  get_eq denoted inside := by
    refine get_eq_ok_iff.2 ⟨_, denoted, ?_⟩
    rw [getElem?_values, if_pos inside]
    exact congrArg some (array.cell_eq_digit _)
  toBytes_eq := rfl
  size_toBytes := stored.size_toBytes
  again := stored.overBytes_toBytes

/-- A write replaces one digit of the natural that the store spells. -/
theorem toNat_setCell
    (stored : array.Stored)
    {index value : Nat}
    (inside : index < array.size)
    (within : value ≤ array.maxValue) :
    Limbs.toNat (array.setCell index value).limbs =
      replaceBits (Limbs.toNat array.limbs) (array.width * index) array.width value :=
  Limbs.toNat_write Layout.contiguous.limbBits_pos array.limbs array.width_pos
    (stored.position_add_le inside) (lt_two_pow_width within)

end Stored

/-- Over bytes an array of accepted dimensions is laid exactly when they suffice. -/
theorem overBytes_succeeds_iff
    {sizeNumber maxValue : Number}
    {size bound : Nat}
    (accepted : checkDimensions sizeNumber maxValue = .ok (size, bound))
    (bytes : Array Byte) :
    (∃ array, overBytes sizeNumber maxValue bytes = .ok array) ↔
      Layout.bytesNeeded size (bitsNeeded bound) ≤ bytes.size := by
  rw [overBytes_of_accepted accepted]
  split
  · rename_i few
    exact ⟨nofun, fun enough => absurd few (Nat.not_lt.2 enough)⟩
  · rename_i enough
    exact ⟨fun _ => Nat.le_of_not_lt enough, fun _ => ⟨_, rfl⟩⟩

/-! ## Rows of calls -/

/-- What a row of calls leaves behind. -/
def afterCalls (array : PackedArray layout) (calls : List ArrayCall) : PackedArray layout :=
  calls.foldl (fun left next => (left.call next).1) array

/-- A call leaves the array alone, writes one cell, or widens. -/
theorem call_cases (array : PackedArray layout) (next : ArrayCall) :
    (array.call next).1 = array ∨
      (∃ index value, array.set index value = .ok (array.call next).1) ∨
        ∃ maxValue, (array.call next).1 = (array.widen maxValue).1 := by
  cases next with
  | get index => exact .inl rfl
  | set index value =>
      cases wrote : array.set index value with
      | ok written =>
          rw [call, wrote]
          exact .inr (.inl ⟨index, value, wrote⟩)
      | error cause =>
          rw [call, wrote]
          exact .inl rfl
  | widen maxValue => exact .inr (.inr ⟨maxValue, rfl⟩)

theorem follows_call (array : PackedArray layout) (next : ArrayCall) :
    (array.call next).1.Follows array := by
  rcases array.call_cases next with unchanged | ⟨index, value, wrote⟩ | ⟨maxValue, widened⟩
  · rw [unchanged]
    exact .refl array
  · exact .set wrote
  · rw [widened]
    exact .widen array maxValue

theorem follows_afterCalls (array : PackedArray layout) (calls : List ArrayCall) :
    (array.afterCalls calls).Follows array := by
  induction calls generalizing array with
  | nil => exact .refl array
  | cons first rest inductionHypothesis =>
      exact (inductionHypothesis _).trans (array.follows_call first)

/-! ## Stores of their own -/

/-- An array whose bytes in use spell its values, the first one lowest, and nothing else. -/
structure SpellsValues (array : PackedArray .contiguous) : Prop where
  size_toBytes : array.toBytes.size = (array.size * array.width + 7) / 8
  toNat_toBytes :
    Limbs.toNat array.toBytes = Nat.ofDigits (2 ^ array.width) array.values

/-- An array without slack in its store and without a bit behind its cells. -/
structure Clean (array : PackedArray .contiguous) : Prop where
  stored : array.Stored
  tight : array.Tight
  below : Limbs.toNat array.limbs < 2 ^ (array.width * array.size)

theorem clean_zeros
    (size : Nat)
    {bound : Nat}
    (admissible : bound ≤ maxCellValue) :
    (zeros .contiguous size bound).Clean where
  stored := (represents_zeros .contiguous size admissible).stored
  tight := tight_zeros .contiguous size bound
  below := by
    have zero : Limbs.toNat (zeros .contiguous size bound).limbs = 0 :=
      Limbs.toNat_replicate_zero 8 _
    rw [zero]
    exact Nat.two_pow_pos _

namespace Clean

/-- A write stays in its cell. -/
theorem setCell
    (clean : array.Clean)
    {index value : Nat}
    (inside : index < array.size)
    (within : value ≤ array.maxValue) :
    (array.setCell index value).Clean where
  stored := clean.stored.setCell index value
  tight := clean.tight.of_follows (.setCell array index value) rfl
  below := by
    have inCells := Nat.mul_le_mul_left array.width inside
    rw [Nat.mul_succ] at inCells
    rw [clean.stored.toNat_setCell inside within]
    exact replaceBits_lt clean.below inCells (lt_two_pow_width within)

theorem setEach (clean : array.Clean) (writes : List (Number × Number)) :
    (array.setEach writes).1.Clean := by
  induction writes generalizing array with
  | nil => exact clean
  | cons write rest inductionHypothesis =>
      rw [PackedArray.setEach]
      split
      · exact clean
      · rename_i place natural accepted
        exact inductionHypothesis (clean.setCell place.isLt (le_of_checkWrite_eq_ok accepted))

theorem set
    (clean : array.Clean)
    {index value : Number}
    {written : PackedArray .contiguous}
    (wrote : array.set index value = .ok written) :
    written.Clean := by
  obtain ⟨write, accepted, rfl⟩ := map_eq_ok_iff.1 wrote
  exact clean.setCell write.1.isLt (le_of_checkWrite_eq_ok accepted)

/-- Wider cells move into a store of zeros. -/
theorem widen (clean : array.Clean) (maxValue : Number) : (array.widen maxValue).1.Clean := by
  unfold PackedArray.widen
  split
  · exact clean
  · rename_i bound accepted
    have admissible := (of_checkMaxValue_eq_ok accepted).2
    split
    · exact clean
    · split
      · rename_i sameWidth
        have width_eq : { array with maxValue := bound }.width = array.width := sameWidth
        exact
          { stored :=
              { bound_le := admissible
                enough := width_eq ▸ clean.stored.enough }
            tight := by
              rw [Tight, width_eq]
              exact clean.tight
            below := by
              rw [width_eq]
              exact clean.below }
      · exact (clean_zeros array.size admissible).setEach _

theorem call (clean : array.Clean) (next : ArrayCall) : (array.call next).1.Clean := by
  rcases array.call_cases next with unchanged | ⟨index, value, wrote⟩ | ⟨maxValue, widened⟩
  · rw [unchanged]
    exact clean
  · exact clean.set wrote
  · rw [widened]
    exact clean.widen maxValue

theorem afterCalls (clean : array.Clean) (calls : List ArrayCall) :
    (array.afterCalls calls).Clean := by
  induction calls generalizing array with
  | nil => exact clean
  | cons first rest inductionHypothesis => exact inductionHypothesis (clean.call first)

theorem toNat_toBytes (clean : array.Clean) :
    Limbs.toNat array.toBytes = Nat.ofDigits (2 ^ array.width) array.values := by
  have covered := Layout.le_ceilDiv_mul (array.size * array.width) 8 (by decide)
  rw [Nat.mul_comm array.size, Nat.mul_comm _ 8] at covered
  have wider := Nat.pow_le_pow_right Nat.two_pos covered
  rw [PackedArray.toNat_toBytes, ofDigits_values, Nat.mod_eq_of_lt clean.below,
    Nat.mod_eq_of_lt]
  exact Nat.lt_of_lt_of_le clean.below (by
    rw [Layout.bytesNeeded, Nat.mul_comm array.size]
    exact wider)

/-- The bytes of a clean array spell its values and nothing else. -/
theorem spellsValues (clean : array.Clean) : array.SpellsValues where
  size_toBytes := clean.stored.size_toBytes
  toNat_toBytes := clean.toNat_toBytes

end Clean

end PackedArray

end BlockVolume
