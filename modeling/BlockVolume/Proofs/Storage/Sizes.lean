import BlockVolume.Proofs.Number.Rounding
import BlockVolume.Proofs.Storage.AllOrNothing
import BlockVolume.Proofs.Storage.PaddedLongs
import BlockVolume.Proofs.Storage.WholeWords

namespace BlockVolume

/-!
# Sizes of stores

An array that has a store of its own has just the limbs that its cells need, through
all operations; only a foreign buffer may be longer. Cells without a gap between them
never need more bytes than padded ones, as padding only adds bits to a word.
-/

namespace Layout

/-- The bytes of cells without a gap fit into the words of padded ones. -/
theorem bytesNeeded_le
    {width : Nat}
    (positive : 0 < width)
    (fits : width ≤ wordBits)
    (size : Nat) :
    bytesNeeded size width ≤ 8 * wordsNeeded size width := by
  rw [bytesNeeded, ceilDiv_le_iff (by decide)]
  calc size * width
      ≤ wordsNeeded size width * cellsPerWord width * width :=
        Nat.mul_le_mul_right width (le_ceilDiv_mul size _ (cellsPerWord_pos positive fits))
    _ = wordsNeeded size width * (width * cellsPerWord width) := by
        rw [Nat.mul_assoc, Nat.mul_comm (cellsPerWord width)]
    _ ≤ wordsNeeded size width * wordBits := Nat.mul_le_mul_left _ (mul_cellsPerWord_le width)
    _ = 8 * (8 * wordsNeeded size width) := by
        unfold wordBits
        omega

/-- A number of bits that doubles can tell apart is split into bytes as it is. -/
theorem limbsRequested_contiguous
    {size width : Nat}
    (few : size * width < Number.safeLimit) :
    contiguous.limbsRequested size width = bytesNeeded size width := by
  have short : (size * width).log2 ≤ 52 := by
    by_cases none : size * width = 0
    · simp [none]
    · have below : (size * width).log2 < 53 := (Nat.log2_lt none).2 few
      omega
  rw [limbsRequested, Number.roundNat_of_log2_le short, bytesNeeded]

end Layout

namespace PackedArray

variable {layout : Layout} {array left : PackedArray layout}

/-- Bytes that can be allocated are allocated for cells without a gap. -/
theorem checkNew_contiguous
    {size bound : Nat}
    (admissible : bound ≤ maxCellValue)
    (allocatable : Layout.bytesNeeded size (bitsNeeded bound) ≤ allocatableBytes) :
    checkNew .contiguous (.ofNat size) (.ofNat bound) = .ok (size, bound) := by
  have covered : size * bitsNeeded bound ≤ 8 * allocatableBytes :=
    (Layout.ceilDiv_le_iff (by decide) _ _).1 allocatable
  have few : size * bitsNeeded bound < Number.safeLimit := Nat.lt_of_le_of_lt covered (by decide)
  have safe : size < Number.safeLimit :=
    Nat.lt_of_le_of_lt (Nat.le_mul_of_pos_right size (bitsNeeded_pos bound)) few
  refine checkNew_eq_ok_iff.2 ⟨Option.filter_eq_some_iff.2 ⟨Number.toNat?_ofNat _, ?_⟩,
    Number.toNat?_ofNat _, admissible, ?_⟩
  · exact decide_eq_true safe
  · rw [Layout.limbsRequested_contiguous few]
    exact Nat.le_trans (Nat.le_of_eq (Nat.one_mul _)) allocatable

/-- No array takes fewer bytes than its cells do without a gap. -/
theorem Stored.bytesNeeded_le_byteLength (stored : array.Stored) :
    Layout.bytesNeeded array.size array.width ≤ array.byteLength := by
  cases layout with
  | padded =>
      have atMost := Layout.bytesNeeded_le array.width_pos stored.width_fits array.size
      have bytes : array.byteLength = 4 * (2 * Layout.wordsNeeded array.size array.width) := rfl
      omega
  | contiguous => exact Nat.le_of_eq (Nat.one_mul _).symm

/-! ## Stores without slack -/

/-- An array whose store has just the limbs that its cells need. -/
def Tight (array : PackedArray layout) : Prop :=
  array.limbs.size = layout.limbsNeeded array.size array.width

theorem tight_zeros (layout : Layout) (size bound : Nat) : (zeros layout size bound).Tight := by
  simp [Tight, zeros, width]

/-- A row of writes keeps the bound. -/
theorem maxValue_setEach (array : PackedArray layout) (writes : List (Number × Number)) :
    (array.setEach writes).1.maxValue = array.maxValue := by
  induction writes generalizing array with
  | nil => rfl
  | cons write rest inductionHypothesis =>
      rw [setEach]
      split
      · rfl
      · rw [inductionHypothesis, maxValue_setCell]

namespace Tight

/-- What leaves the bound as it was leaves no slack behind. -/
theorem of_follows
    (tight : array.Tight)
    (follows : left.Follows array)
    (sameBound : left.maxValue = array.maxValue) :
    left.Tight := by
  have sameWidth : left.width = array.width := congrArg bitsNeeded sameBound
  rw [Tight, follows.limbs_eq sameWidth, follows.size_eq, sameWidth]
  exact tight

theorem setEach (tight : array.Tight) (writes : List (Number × Number)) :
    (array.setEach writes).1.Tight :=
  tight.of_follows (.setEach array writes) (array.maxValue_setEach writes)

theorem set
    (tight : array.Tight)
    {index value : Number}
    (wrote : array.set index value = .ok left) :
    left.Tight := by
  obtain ⟨write, -, rfl⟩ := map_eq_ok_iff.1 wrote
  exact tight.of_follows (.setCell array write.1 write.2) rfl

/-- A raise of the bound keeps the store or takes a new one. -/
theorem widen (tight : array.Tight) (number : Number) : (array.widen number).1.Tight := by
  unfold PackedArray.widen
  split
  · exact tight
  · rename_i bound accepted
    split
    · exact tight
    · split
      · rename_i sameWidth
        rw [Tight, width, sameWidth]
        exact tight
      · exact (tight_zeros layout array.size bound).setEach _

/-- A renumbering raises the bound and writes. -/
theorem apply (tight : array.Tight) (remap : Remap) : (remap.apply array).1.Tight := by
  unfold Remap.apply
  split
  · split
    · exact tight
    · unfold Remap.renumber
      split
      · exact tight
      · rename_i newValues mapped
        have raised := tight.widen
          (.ofNat (Remap.largest (remap.changes.map (·.2) ++ newValues)))
        dsimp only
        split
        · rename_i widened cause refused
          rw [refused] at raised
          exact raised
        · rename_i widened succeeds
          rw [succeeds] at raised
          exact raised.setEach _
  · exact tight

end Tight

theorem tight_of_ofValues
    {size bound : Nat}
    {values : List Nat}
    (made : ofValues layout size bound values = .ok array) :
    array.Tight := by
  obtain ⟨-, -, rfl⟩ := map_eq_ok_iff.1 made
  exact (tight_zeros layout size bound).setEach _

/-- An array that is read from longs of either layout has no slack. -/
theorem tight_of_ofLongs
    {longs : List Int}
    {sizeNumber maxValue : Number}
    {isPadded : Bool}
    {array : PackedArray .padded}
    (read : ofLongs longs sizeNumber maxValue isPadded = .ok array) :
    array.Tight := by
  obtain ⟨size, bound, accepted, enough, -, shows⟩ := of_ofLongs_eq_ok read
  cases isPadded with
  | true =>
      have size_eq : array.size = size := by
        rw [← shows.length_eq, Long.cells, List.length_map, List.length_range]
      have words : Layout.wordsNeeded size (bitsNeeded bound) ≤ longs.length := enough
      rw [Tight, limbs_of_ofLongs accepted read, List.size_toArray, Long.length_flatMap_halves,
        List.length_take, Nat.min_eq_left words, width, shows.maxValue_eq, size_eq]
      rfl
  | false =>
      rw [ofLongs, accepted] at read
      change ofContiguousLongs longs size bound = .ok array at read
      obtain ⟨source, -, copied⟩ := bind_eq_ok_iff.1 read
      exact tight_of_ofValues copied

/-- A padded array that callers can build has no slack. -/
theorem Reachable.tight
    {array : PackedArray .padded}
    (reachable : array.Reachable) :
    array.Tight := by
  induction reachable with
  | make made =>
      obtain ⟨count, bound, -, -, -, -, rfl⟩ := make_eq_ok_iff.1 made
      exact tight_zeros .padded count bound
  | ofLongs read => exact tight_of_ofLongs read
  | set _ wrote inductionHypothesis => exact inductionHypothesis.set wrote
  | widen _ maxValue inductionHypothesis => exact inductionHypothesis.widen maxValue
  | apply _ remap inductionHypothesis => exact inductionHypothesis.apply remap

end PackedArray

end BlockVolume
