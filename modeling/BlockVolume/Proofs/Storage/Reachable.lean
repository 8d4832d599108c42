import BlockVolume.Proofs.Palette.Renumbering
import BlockVolume.Proofs.Storage.Longs

namespace BlockVolume

/-!
# Padded arrays that callers can build

A padded array starts with zeros or is read from longs, and is changed by
writes, widenings and renumberings. None of these leaves a value above the
bound behind, also when it fails on the way; only arrays over foreign bytes can
hold such values, and those have the other layout.
-/

namespace PackedArray

variable {layout : Layout}

/-- An array that is stored whole and whose values are within its bound. -/
structure Sound (array : PackedArray layout) : Prop where
  stored : array.Stored
  within : ∀ value ∈ array.values, value ≤ array.maxValue

namespace Represents

variable {array : PackedArray layout} {bound : Nat} {values : List Nat}

/-- An array that shows values within its bound is sound. -/
theorem sound
    (shows : array.Represents bound values)
    (within : ∀ value ∈ values, value ≤ bound) :
    array.Sound where
  stored := shows.stored
  within := by
    rw [shows.values_eq, shows.maxValue_eq]
    exact within

end Represents

namespace Sound

variable {array : PackedArray layout}

theorem represents (sound : array.Sound) : array.Represents array.maxValue array.values :=
  sound.stored.represents

/-- A write that succeeds leaves a sound array. -/
theorem set
    (sound : array.Sound)
    {index value : Number}
    {written : PackedArray layout}
    (wrote : array.set index value = .ok written) :
    written.Sound := by
  obtain ⟨⟨place, natural⟩, accepted, rfl⟩ := map_eq_ok_iff.1 wrote
  have within := le_of_checkWrite_eq_ok accepted
  have inside : place.val < array.values.length := by
    rw [length_values]
    exact place.isLt
  refine (sound.represents.setCell inside within).sound fun other member => ?_
  rcases List.mem_or_eq_of_mem_set member with old | rfl
  · exact sound.within other old
  · exact within

/-- A widening leaves a sound array, whether it succeeds or not. -/
theorem widen
    (sound : array.Sound)
    (maxValue : Number) :
    (array.widen maxValue).1.Sound := by
  cases accepted : checkMaxValue maxValue with
  | error cause =>
      rw [PackedArray.widen, accepted]
      exact sound
  | ok wanted =>
      obtain ⟨denoted, admissible⟩ := of_checkMaxValue_eq_ok accepted
      obtain ⟨widened, raised, shows⟩ := sound.represents.widen_of_le denoted admissible
      rw [raised]
      exact shows.sound fun value member =>
        Nat.le_trans (sound.within value member) (Nat.le_max_left _ _)

/-- A renumbering leaves a sound array, whether it succeeds or not. -/
theorem apply
    (sound : array.Sound)
    (remap : Remap) :
    (remap.apply array).1.Sound := by
  rcases Remap.apply_cases sound.represents remap with
    unchanged | ⟨newBound, newValues, shows, -, within⟩
  · rw [unchanged]
    exact sound
  · exact shows.sound within

/-- Longs that hold the cells of a sound array make a copy of it. -/
theorem ofLongs_of_cells_eq
    (sound : array.Sound)
    {size maxValue : Number}
    (accepted : checkNew .padded size maxValue = .ok (array.size, array.maxValue))
    {longs : List Int}
    {isPadded : Bool}
    (enough : Long.Suffice isPadded longs array.width array.size)
    (sameCells : Long.cells isPadded longs array.width array.size = array.values) :
    ∃ copy, ofLongs longs size maxValue isPadded = .ok copy ∧
      copy.size = array.size ∧ copy.maxValue = array.maxValue ∧ copy.values = array.values := by
  rw [width] at enough sameCells
  obtain ⟨copy, read, shows⟩ := ofLongs_of_le accepted enough (sameCells ▸ sound.within)
  rw [sameCells] at shows
  refine ⟨copy, read, ?_, shows.maxValue_eq, shows.values_eq⟩
  rw [← shows.length_eq, length_values]

end Sound

/-- The padded arrays that some row of calls leads to. -/
inductive Reachable : PackedArray .padded → Prop where
  | make
      {size maxValue : Number}
      {array : PackedArray .padded}
      (made : PackedArray.make .padded size maxValue = .ok array) :
      Reachable array
  | ofLongs
      {longs : List Int}
      {size maxValue : Number}
      {isPadded : Bool}
      {array : PackedArray .padded}
      (read : PackedArray.ofLongs longs size maxValue isPadded = .ok array) :
      Reachable array
  | set
      {array written : PackedArray .padded}
      (reachable : Reachable array)
      {index value : Number}
      (wrote : array.set index value = .ok written) :
      Reachable written
  | widen
      {array : PackedArray .padded}
      (reachable : Reachable array)
      (maxValue : Number) :
      Reachable (array.widen maxValue).1
  | apply
      {array : PackedArray .padded}
      (reachable : Reachable array)
      (remap : Remap) :
      Reachable (remap.apply array).1

/-- A padded array that callers can build is sound. -/
theorem Reachable.sound
    {array : PackedArray .padded}
    (reachable : array.Reachable) :
    array.Sound := by
  induction reachable with
  | make made =>
      obtain ⟨count, bound, -, -, admissible, -, rfl⟩ := make_eq_ok_iff.1 made
      refine (represents_zeros .padded count admissible).sound fun value member => ?_
      rw [List.eq_of_mem_replicate member]
      exact Nat.zero_le bound
  | ofLongs read =>
      obtain ⟨size, bound, -, -, within, shows⟩ := of_ofLongs_eq_ok read
      exact shows.sound within
  | set _ wrote inductionHypothesis => exact inductionHypothesis.set wrote
  | widen _ maxValue inductionHypothesis => exact inductionHypothesis.widen maxValue
  | apply _ remap inductionHypothesis => exact inductionHypothesis.apply remap

end PackedArray

end BlockVolume
