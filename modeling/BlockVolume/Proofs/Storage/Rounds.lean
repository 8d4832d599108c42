import BlockVolume.Proofs.Storage.Bits

namespace BlockVolume

/-!
# Rounds over bytes

A bit range in bytes can be walked through without a list of its pieces: each round takes
what the current byte has of the range, and the next one goes on at the start of the next
byte. The pieces that are cut off on the way are those of the range, in order. They hold all
its bits, and lie in five bytes at most when the range is as wide as a cell may be.
-/

/--
The piece of the next round, when some bits of a cell of a width are moved and the others
start at an offset of a byte.
-/
def nextPiece (width byte offset moved : Nat) : Piece :=
  { limb := byte
    offset
    width := min (width - moved) (8 - offset)
    shift := moved }

/-- The pieces of the rounds that are left. -/
def cut (width byte offset moved : Nat) : List Piece :=
  let piece := nextPiece width byte offset moved
  if moved < width then
    piece :: cut width (byte + 1) 0 (moved + piece.width)
  else
    []
termination_by width - moved + offset
decreasing_by
  simp only [nextPiece]
  omega

/-- The rounds move the bits that are left. -/
theorem sum_width_cut (width byte offset moved : Nat) :
    ((cut width byte offset moved).map (·.width)).sum = width - moved := by
  fun_induction cut width byte offset moved with
  | case1 byte offset moved piece unfinished inductionHypothesis =>
      have chunk : piece.width = min (width - moved) (8 - offset) := rfl
      rw [List.map_cons, List.sum_cons, inductionHypothesis]
      omega
  | case2 byte offset moved finished =>
      simp only [List.map_nil, List.sum_nil]
      omega

/-- From each round on, the pieces that are cut off are those of the bit range. -/
theorem cut_eq_range'
    {width : Nat}
    (positive : 0 < width)
    (position left index : Nat)
    (counted : index + left = (position % 8 + width + 8 - 1) / 8) :
    cut width (position / 8 + index) (position % 8 - index * 8) (index * 8 - position % 8) =
      (List.range' index left).map fun index =>
        { limb := position / 8 + index
          offset := position % 8 - index * 8
          width := min width ((index + 1) * 8 - position % 8) - (index * 8 - position % 8)
          shift := index * 8 - position % 8 } := by
  have offsetBelow : position % 8 < 8 := Nat.mod_lt _ (by decide)
  induction left generalizing index with
  | zero =>
      have finished : ¬ index * 8 - position % 8 < width := by omega
      rw [cut, if_neg finished]
      rfl
  | succ left inductionHypothesis =>
      have unfinished : index * 8 - position % 8 < width := by omega
      have chunk : min (width - (index * 8 - position % 8)) (8 - (position % 8 - index * 8)) =
          min width ((index + 1) * 8 - position % 8) - (index * 8 - position % 8) := by omega
      rw [cut, if_pos unfinished, List.range'_succ, List.map_cons, nextPiece, chunk]
      congr 1
      by_cases last : left = 0
      · have finished : ¬ index * 8 - position % 8 +
            (min width ((index + 1) * 8 - position % 8) - (index * 8 - position % 8)) < width := by
          omega
        subst last
        rw [cut, if_neg finished]
        rfl
      · have atStart : position % 8 - (index + 1) * 8 = 0 := by omega
        have moved : index * 8 - position % 8 +
            (min width ((index + 1) * 8 - position % 8) - (index * 8 - position % 8)) =
              (index + 1) * 8 - position % 8 := by
          omega
        have rest := inductionHypothesis (index + 1) (by omega)
        rw [atStart] at rest
        rw [moved]
        exact rest

/-- The rounds of a cell go through the pieces of its bit range. -/
theorem cut_eq_pieces
    {width : Nat}
    (positive : 0 < width)
    (position : Nat) :
    cut width (position / 8) (position % 8) 0 = pieces 8 position width := by
  have fromFirst := cut_eq_range' positive position _ 0 (Nat.zero_add _)
  rw [Nat.zero_mul, Nat.zero_sub, Nat.sub_zero, Nat.add_zero] at fromFirst
  rw [fromFirst, pieces, List.range_eq_range']

/-- The pieces of a range in bytes hold all its bits. -/
theorem sum_width_pieces
    {width : Nat}
    (positive : 0 < width)
    (position : Nat) :
    ((pieces 8 position width).map (·.width)).sum = width := by
  rw [← cut_eq_pieces positive, sum_width_cut, Nat.sub_zero]

/-- A cell lies in five bytes at most. -/
theorem length_pieces_le
    {width : Nat}
    (narrow : width ≤ 31)
    (position : Nat) :
    (pieces 8 position width).length ≤ 5 := by
  have offsetBelow : position % 8 < 8 := Nat.mod_lt _ (by decide)
  rw [pieces, List.length_map, List.length_range]
  omega

example : (pieces 8 31 31).map (·.width) = [1, 8, 8, 8, 6] := by decide

end BlockVolume
