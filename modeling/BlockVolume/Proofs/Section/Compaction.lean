import BlockVolume.Proofs.Palette.ClosedGaps
import BlockVolume.Proofs.Section.Blocks

namespace BlockVolume

/-!
# Compaction

Removing an unused id from the palette and renumbering the storage changes no
block. Ids are removed from the highest down, so the ones still to remove stay
where they are, and at the end the storage is packed anew. None of these steps
can fail.
-/

namespace Section

variable {slab : Section} {keys : List String}

/-- An id is unused when it is not the default one and no value equals it. -/
theorem mem_unusedIds_iff
    {size id : Nat}
    {values : List Nat} :
    id ∈ unusedIds size values ↔ 0 < id ∧ id < size ∧ id ∉ values := by
  simp only [unusedIds, List.mem_reverse, List.mem_filter, List.mem_range, Bool.and_eq_true,
    bne_iff_ne, Bool.not_eq_true', List.contains_eq_mem, decide_eq_false_iff_not]
  constructor
  · rintro ⟨inside, notDefault, unused⟩
    exact ⟨Nat.pos_of_ne_zero notDefault, inside, unused⟩
  · rintro ⟨positive, inside, unused⟩
    exact ⟨inside, Nat.ne_of_gt positive, unused⟩

/-- The highest unused id comes first. -/
theorem unusedIds_descending (size : Nat) (values : List Nat) :
    (unusedIds size values).Pairwise (· > ·) := by
  rw [unusedIds, List.pairwise_reverse]
  exact List.pairwise_lt_range.filter _

namespace Shows

/-- Removing an unused id and renumbering the storage changes no block. -/
theorem removeId
    (shows : slab.Shows keys)
    {id : Nat}
    (fits : id + 1 ≠ slab.palette.size → slab.palette.Addressable)
    (positive : 0 < id)
    (inside : id < slab.palette.size)
    (unused : id ∉ slab.storage.values) :
    ∃ smaller remap renumbered,
      slab.palette.removeId (.ofNat id) = .ok (smaller, remap) ∧
      remap.apply slab.storage = (renumbered, .ok ()) ∧
      smaller.states = slab.palette.states.eraseIdx id ∧
      renumbered.values = slab.storage.values.map (Remap.closed id) ∧
      Shows { palette := smaller, storage := renumbered } keys := by
  obtain ⟨smaller, removed, smallerWellFormed, smallerStates⟩ :=
    shows.wellFormed.removeId_of_pos positive inside
  obtain ⟨renumbered, bound, applied, showsRenumbered⟩ :=
    Palette.apply_gapRemap shows.sound.represents fits inside
      (fun _ member => shows.resolves.id_lt member) unused
  refine ⟨smaller, _, renumbered, removed, applied, smallerStates, showsRenumbered.values_eq, ?_⟩
  exact
    { wellFormed := smallerWellFormed
      sound := by
        have sound := shows.sound.apply (slab.palette.gapRemap id)
        rw [applied] at sound
        exact sound
      length_eq := shows.length_eq
      resolves := by
        rw [showsRenumbered.values_eq]
        refine shows.resolves.map fun value member => ?_
        have different : value ≠ id := by
          rintro rfl
          exact unused member
        exact Palette.getElem?_keys_closed smallerStates different }

/-- Packing the storage anew changes no block and gives it the bound that the palette needs. -/
theorem repack
    (shows : slab.Shows keys)
    (addressable : slab.palette.Addressable) :
    ∃ repacked, Section.repack slab.palette slab.storage = .ok repacked ∧
      repacked.maxValue = slab.palette.size - 1 ∧
      repacked.values = slab.storage.values ∧
      Shows { palette := slab.palette, storage := repacked } keys := by
  have admissible : slab.palette.size - 1 ≤ maxCellValue :=
    addressable.le_maxCellValue (Nat.lt_succ_self _)
  have within : ∀ value ∈ slab.storage.values, value ≤ slab.palette.size - 1 := by
    intro value member
    have := shows.resolves.id_lt member
    omega
  obtain ⟨repacked, made, showsRepacked⟩ := PackedArray.ofValues_of_le .padded admissible within
  refine ⟨repacked, ?_, showsRepacked.maxValue_eq, showsRepacked.values_eq, ?_⟩
  · rw [Section.repack, PackedArray.checkMaxValue_of_le (Number.toNat?_ofNat _) admissible,
      ← shows.length_values]
    exact made
  · exact
      { wellFormed := shows.wellFormed
        sound := showsRepacked.sound within
        length_eq := shows.length_eq
        resolves := by
          rw [showsRepacked.values_eq]
          exact shows.resolves }

/--
Removing unused ids from the highest down goes to the end and changes no block,
if the ids that are too large for a storage are among them. The storage at the
end is packed already.
-/
theorem removeIds
    (shows : slab.Shows keys)
    {ids : List Nat}
    (descending : ids.Pairwise (· > ·))
    (removable : ∀ id ∈ ids, 0 < id ∧ id < slab.palette.size ∧ id ∉ slab.storage.values)
    (complete : ∀ id, maxCellValue < id → id < slab.palette.size → id ∈ ids) :
    ∃ smaller left repacked,
      Section.removeIds slab.palette slab.storage ids =
        { palette := smaller, storage := left, outcome := .ok repacked } ∧
      smaller.states = ids.foldl List.eraseIdx slab.palette.states ∧
      repacked.maxValue = smaller.size - 1 ∧
      Section.repack smaller repacked = .ok repacked ∧
      Shows { palette := smaller, storage := repacked } keys := by
  induction ids generalizing slab with
  | nil =>
      have addressable : slab.palette.Addressable := by
        by_contra tooMany
        unfold Palette.Addressable at tooMany
        exact List.not_mem_nil (complete (slab.palette.size - 1) (by omega) (by omega))
      obtain ⟨repacked, made, bound, sameValues, showsRepacked⟩ := shows.repack addressable
      refine ⟨slab.palette, slab.storage, repacked, ?_, rfl, bound, ?_, showsRepacked⟩
      · rw [Section.removeIds, made]
      · rw [Section.repack, sameValues]
        exact made
  | cons id rest inductionHypothesis =>
      obtain ⟨positive, inside, unused⟩ := removable id List.mem_cons_self
      obtain ⟨below, restDescending⟩ := List.pairwise_cons.1 descending
      -- While there are ids that are too large, the last one is removed, and nothing moves.
      have fits : id + 1 ≠ slab.palette.size → slab.palette.Addressable := by
        intro notLast
        by_contra tooMany
        unfold Palette.Addressable at tooMany
        rcases List.mem_cons.1 (complete (slab.palette.size - 1) (by omega) (by omega)) with
          same | inRest
        · omega
        · have := below _ inRest
          omega
      obtain ⟨smaller, remap, renumbered, removed, applied, smallerStates, newValues, showsNext⟩ :=
        shows.removeId fits positive inside unused
      have smallerSize : smaller.size = slab.palette.size - 1 :=
        Palette.size_of_states_eq_eraseIdx smallerStates inside
      -- Ids below the removed one keep their number, so they are as unused as before.
      have restRemovable :
          ∀ other ∈ rest, 0 < other ∧ other < smaller.size ∧ other ∉ renumbered.values := by
        intro other member
        obtain ⟨otherPositive, -, otherUnused⟩ := removable other (List.mem_cons_of_mem _ member)
        have otherBelow : other < id := below other member
        refine ⟨otherPositive, by omega, ?_⟩
        rw [newValues]
        exact Remap.not_mem_map_closed otherBelow unused otherUnused
      have restComplete : ∀ other, maxCellValue < other → other < smaller.size → other ∈ rest := by
        intro other unstorable otherInside
        rcases List.mem_cons.1 (complete other unstorable (by omega)) with same | inRest
        · have storable := (fits (by omega)).le_maxCellValue inside
          omega
        · exact inRest
      obtain ⟨final, left, repacked, restRemoved, finalStates, bound, packed, showsFinal⟩ :=
        inductionHypothesis showsNext restDescending restRemovable restComplete
      refine ⟨final, left, repacked, ?_, ?_, bound, packed, showsFinal⟩
      · rw [Section.removeIds, removed]
        simp only [applied]
        exact restRemoved
      · rw [finalStates, smallerStates, List.foldl_cons]

/-- Removals only shorten a list. -/
theorem length_foldl_eraseIdx_le
    {Element : Type}
    (ids : List Nat)
    (list : List Element) :
    (ids.foldl List.eraseIdx list).length ≤ list.length := by
  induction ids generalizing list with
  | nil => exact Nat.le_refl _
  | cons id rest inductionHypothesis =>
      exact Nat.le_trans (inductionHypothesis (list.eraseIdx id)) (List.length_eraseIdx_le list id)

end Shows

end Section

end BlockVolume
