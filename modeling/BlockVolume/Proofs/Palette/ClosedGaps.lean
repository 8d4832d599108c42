import BlockVolume.Proofs.Palette.Agreement
import BlockVolume.Proofs.Palette.Protocol

namespace BlockVolume

/-!
# Arrays after a removal

A removed id leaves a gap that closes: later ids move down by one, in the
palette and by its remap in the arrays. An array that does not hold the removed
id keeps the key of every cell. Removing the last id moves nothing, and its
remap does nothing.
-/

namespace Remap

/-- The element that an id leads to moves with the id. -/
theorem getElem?_eraseIdx_closed
    {Element : Type}
    (list : List Element)
    {removed id : Nat}
    (different : id ≠ removed) :
    (list.eraseIdx removed)[closed removed id]? = list[id]? := by
  unfold closed
  rcases Nat.lt_or_gt_of_ne different with below | above
  · rw [if_pos below, List.getElem?_eraseIdx_of_lt below]
  · rw [if_neg (Nat.lt_asymm above), List.getElem?_eraseIdx_of_ge (by omega),
      Nat.sub_add_cancel (by omega)]

/-- An id below a removed one stays as unused as it was. -/
theorem not_mem_map_closed
    {values : List Nat}
    {removed id : Nat}
    (below : id < removed)
    (removedUnused : removed ∉ values)
    (unused : id ∉ values) :
    id ∉ values.map (closed removed) := by
  rw [List.mem_map]
  rintro ⟨value, member, moved⟩
  have different : value ≠ id := by
    rintro rfl
    exact unused member
  have notRemoved : value ≠ removed := by
    rintro rfl
    exact removedUnused member
  unfold closed at moved
  split at moved <;> omega

end Remap

namespace Palette

variable {palette : Palette} {id : Nat}

/-- The remap that comes with the removal of an id. -/
def gapRemap (palette : Palette) (id : Nat) : Remap :=
  if id + 1 = palette.size then .identity else .closingGap id (palette.size - 1)

/-- Removing an id other than that of the default state takes its state out of the list. -/
theorem WellFormed.removeId_of_pos
    (wellFormed : palette.WellFormed)
    (positive : 0 < id)
    (inside : id < palette.size) :
    ∃ smaller, palette.removeId (.ofNat id) = .ok (smaller, palette.gapRemap id) ∧
      smaller.WellFormed ∧ smaller.states = palette.states.eraseIdx id := by
  obtain ⟨place, rfl⟩ : ∃ place, id = place + 1 := ⟨id - 1, by omega⟩
  have insideOthers : place < palette.others.size := by
    unfold size at inside
    omega
  refine ⟨(palette.removePlace place insideOthers).1, ?_, wellFormed.removePlace insideOthers,
    palette.states_removePlace insideOthers⟩
  have sameRemap :
      (palette.removePlace place insideOthers).2 = palette.gapRemap (place + 1) := by
    unfold Palette.removePlace gapRemap
    by_cases last : place + 1 = palette.others.size
    · simp [last, size]
    · have notLast : place + 1 + 1 ≠ palette.size := by
        unfold size
        omega
      have shortenedSize : palette.others.size - 1 + 1 = palette.size - 1 := by
        unfold size
        omega
      rw [if_neg last, if_neg notLast, ← shortenedSize, size, Array.size_eraseIdx]
  rw [Palette.removeId, Number.toNat?_ofNat]
  simp only [dif_pos insideOthers, ← sameRemap]

/-- The list after a removal is one shorter. -/
theorem size_of_states_eq_eraseIdx
    {smaller : Palette}
    (states_eq : smaller.states = palette.states.eraseIdx id)
    (inside : id < palette.size) :
    smaller.size = palette.size - 1 := by
  rw [← length_states, states_eq, List.length_eraseIdx_of_lt (by simpa using inside),
    length_states]

/-- The key that an id leads to moves with the id. -/
theorem getElem?_keys_closed
    {smaller : Palette}
    (states_eq : smaller.states = palette.states.eraseIdx id)
    {other : Nat}
    (different : other ≠ id) :
    smaller.keys[Remap.closed id other]? = palette.keys[other]? := by
  rw [getElem?_keys, getElem?_keys, states_eq, Remap.getElem?_eraseIdx_closed _ different]

/-- Which number denotes the id makes no difference. -/
theorem removeId_of_denoted
    (palette : Palette)
    {number : Number}
    (denoted : number.toNat? = some id) :
    palette.removeId number = palette.removeId (.ofNat id) := by
  rw [removeId, removeId, denoted, Number.toNat?_ofNat]

/-- The state that an id leads to moves with the id. -/
theorem state_closed
    {smaller : Palette}
    (states_eq : smaller.states = palette.states.eraseIdx id)
    {other : Nat}
    (different : other ≠ id)
    (inside : other < palette.size) :
    smaller.state (.ofNat (Remap.closed id other)) = palette.state (.ofNat other) := by
  rw [← length_states] at inside
  have found := List.getElem?_eq_getElem inside
  have moved := Remap.getElem?_eraseIdx_closed palette.states different
  rw [← states_eq, found] at moved
  rw [state_eq_ok_iff.2 ⟨other, Number.toNat?_ofNat other, found⟩]
  exact state_eq_ok_iff.2 ⟨_, Number.toNat?_ofNat _, moved⟩

/-- The remap of a removal registers every later id in ascending order, each with the one before. -/
theorem changes_gapRemap
    (palette : Palette)
    (id : Nat) :
    (palette.gapRemap id).changes =
      (List.range' (id + 1) (palette.size - 1 - id)).map fun old => (old, old - 1) := by
  unfold gapRemap
  split
  · rename_i last
    rw [← last, Nat.add_sub_cancel, Nat.sub_self]
    rfl
  · exact Remap.changes_closingGap id (palette.size - 1)

/-- Unless the last id is removed, the remap is what registering these changes in order makes. -/
theorem registerEach_gapRemap (notLast : id + 1 ≠ palette.size) :
    ((Remap.make (.ofNat id)).registerEach (palette.gapRemap id).changes).map Remap.lock =
      .ok (palette.gapRemap id) := by
  rw [gapRemap, if_neg notLast]
  exact Remap.registerEach_closingGap id (palette.size - 1)

/-- The remap of a removal is new, also when it is the shared one. -/
theorem applied_gapRemap (palette : Palette) (id : Nat) : (palette.gapRemap id).applied = [] := by
  unfold gapRemap
  split <;> rfl

/-- The shared remap comes with the last id only. -/
theorem gapRemap_eq_identity_of_changes
    (inside : id < palette.size)
    (noChanges : (palette.gapRemap id).changes = []) :
    palette.gapRemap id = .identity := by
  rw [changes_gapRemap, List.map_eq_nil_iff, List.range'_eq_nil_iff] at noChanges
  exact if_pos (by omega)

/-- The remap of a removal closes the gap in an array that does not hold the removed id. -/
theorem apply_gapRemap
    {layout : Layout}
    {array : PackedArray layout}
    {bound : Nat}
    {values : List Nat}
    (shows : array.Represents bound values)
    (fits : id + 1 ≠ palette.size → palette.Addressable)
    (inside : id < palette.size)
    (resolves : ∀ value ∈ values, value < palette.size)
    (unused : id ∉ values) :
    ∃ renumbered newBound, (palette.gapRemap id).apply array = (renumbered, .ok ()) ∧
      renumbered.Represents newBound (values.map (Remap.closed id)) := by
  unfold gapRemap
  split
  · rename_i last
    have unmoved : values.map (Remap.closed id) = values := by
      conv_rhs => rw [← List.map_id values]
      refine List.map_congr_left fun value member => ?_
      have different : value ≠ id := by
        rintro rfl
        exact unused member
      have := resolves value member
      exact if_pos (by omega)
    rw [unmoved]
    exact ⟨array, bound, rfl, shows⟩
  · rename_i notLast
    have addressable := fits notLast
    unfold Addressable at addressable
    refine Remap.apply_closingGap shows (by omega) (by omega) unused fun value member => ?_
    exact Nat.le_sub_one_of_lt (resolves value member)

/-- It refuses an array that holds the removed id, unless that was the last one. -/
theorem apply_gapRemap_of_mem
    {layout : Layout}
    {array : PackedArray layout}
    (notLast : id + 1 < palette.size)
    (resolves : ∀ value ∈ array.values, value < palette.size)
    (used : id ∈ array.values) :
    (palette.gapRemap id).apply array = (array, .error (.unmappedId (.ofNat id))) := by
  obtain ⟨before, after, split, early⟩ := List.eq_append_cons_of_mem used
  have hasChanges : (Remap.closingGap id (palette.size - 1)).changes ≠ [] := by
    rw [Remap.changes_closingGap, Ne, List.map_eq_nil_iff, List.range'_eq_nil_iff]
    omega
  have mapped : ∀ other ∈ before,
      (Remap.closingGap id (palette.size - 1)).newCell
        (Remap.closingGap id (palette.size - 1)).table other = .ok (Remap.closed id other) := by
    intro other member
    have different : other ≠ id := by
      rintro rfl
      exact early member
    have listed : other ∈ array.values := by
      rw [split]
      exact List.mem_append_left _ member
    exact Remap.newCell_closingGap different (Nat.le_sub_one_of_lt (resolves other listed))
  rw [gapRemap, if_neg (Nat.ne_of_lt notLast)]
  exact Remap.apply_of_unmapped split rfl hasChanges rfl mapped
    (Remap.newCell_closingGap_self id (palette.size - 1))

end Palette

end BlockVolume
