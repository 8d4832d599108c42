import Mathlib.Data.List.InsertIdx
import BlockVolume.Proofs.Palette.Registry

namespace BlockVolume

/-!
# Removing a state from a palette

A removal takes one state out of the list, its key out of the table, and gives
every later key its new place there. List and table agree again afterwards,
also when the removed state was the last one and no key moves.
-/

namespace Palette

variable {palette : Palette}

/-- A table after some entries were put in: the new entries, and the old ones under other keys. -/
theorem getElem?_foldl_insert_iff
    (entries : List (BlockState × Nat))
    (distinct : (entries.map (·.1.key)).Nodup)
    (table : Std.TreeMap String Nat)
    (key : String)
    (id : Nat) :
    (entries.foldl (fun ids entry => ids.insert entry.1.key (entry.2 + 1)) table)[key]? = some id ↔
      (∃ entry ∈ entries, entry.1.key = key ∧ entry.2 + 1 = id) ∨
        (∀ entry ∈ entries, entry.1.key ≠ key) ∧ table[key]? = some id := by
  induction entries generalizing table with
  | nil => simp
  | cons entry rest inductionHypothesis =>
      obtain ⟨absent, restDistinct⟩ := List.nodup_cons.1 distinct
      rw [List.foldl_cons, inductionHypothesis restDistinct, Std.TreeMap.getElem?_insert]
      simp only [Std.LawfulEqCmp.compare_eq_iff_eq, List.mem_cons, exists_eq_or_imp,
        forall_eq_or_imp]
      by_cases sameKey : entry.1.key = key
      · have others : ∀ other ∈ rest, other.1.key ≠ key := by
          intro other member otherKey
          apply absent
          have listed : other.1.key ∈ rest.map (·.1.key) := List.mem_map_of_mem member
          rwa [otherKey, ← sameKey] at listed
        have noOther : ¬ ∃ other ∈ rest, other.1.key = key ∧ other.2 + 1 = id := by
          rintro ⟨other, member, otherKey, -⟩
          exact others other member otherKey
        rw [if_pos sameKey, Option.some.injEq]
        constructor
        · rintro (some | ⟨-, placed⟩)
          · exact absurd some noOther
          · exact .inl (.inl ⟨sameKey, placed⟩)
        · rintro ((⟨-, placed⟩ | some) | ⟨⟨different, -⟩, -⟩)
          · exact .inr ⟨others, placed⟩
          · exact absurd some noOther
          · exact absurd sameKey different
      · simp [sameKey]

/-- The entries of a list from a place on are its elements there, each with its place. -/
theorem mem_drop_zipIdx_iff
    {Element : Type}
    (list : List Element)
    (place : Nat)
    (entry : Element × Nat) :
    entry ∈ list.zipIdx.drop place ↔ place ≤ entry.2 ∧ list[entry.2]? = some entry.1 := by
  obtain ⟨element, index⟩ := entry
  rw [List.mem_iff_getElem?]
  simp only [List.getElem?_drop, List.getElem?_zipIdx, Option.map_eq_some_iff, Prod.mk.injEq,
    Nat.zero_add]
  constructor
  · rintro ⟨offset, found, present, rfl, rfl⟩
    exact ⟨Nat.le_add_right place offset, present⟩
  · rintro ⟨reached, present⟩
    refine ⟨index - place, element, ?_, rfl, by omega⟩
    rwa [Nat.add_sub_cancel' reached]

/-- The list of states after a removal, before the table is brought up to date. -/
theorem states_eraseIdx
    (palette : Palette)
    {place : Nat}
    (inside : place < palette.others.size)
    (ids : Std.TreeMap String Nat) :
    states { palette with others := palette.others.eraseIdx place inside, ids } =
      palette.states.eraseIdx (place + 1) := by
  simp [states]

/-- A removal gives the keys from the removed one on their new places, of which there may be none. -/
theorem removePlace_fst
    (palette : Palette)
    {place : Nat}
    (inside : place < palette.others.size) :
    (palette.removePlace place inside).1 =
      reindexFrom
        { palette with
          others := palette.others.eraseIdx place inside
          ids := palette.ids.erase palette.others[place].key }
        place := by
  unfold removePlace
  split
  · rename_i last
    have nothingMoves : (palette.others.toList.eraseIdx place).zipIdx.drop place = [] := by
      rw [List.drop_eq_nil_iff, List.length_zipIdx,
        List.length_eraseIdx_of_lt (by simpa using inside), Array.length_toList]
      omega
    simp [reindexFrom, nothingMoves]
  · rfl

/-- The list after a removal lacks the removed state and is otherwise the same. -/
theorem states_removePlace
    (palette : Palette)
    {place : Nat}
    (inside : place < palette.others.size) :
    (palette.removePlace place inside).1.states = palette.states.eraseIdx (place + 1) := by
  rw [removePlace_fst]
  exact palette.states_eraseIdx inside _

theorem keys_removePlace
    (palette : Palette)
    {place : Nat}
    (inside : place < palette.others.size) :
    (palette.removePlace place inside).1.keys = palette.keys.eraseIdx (place + 1) := by
  rw [keys, states_removePlace, keys, List.eraseIdx_map]

@[simp]
theorem keys_reindexFrom
    (palette : Palette)
    (place : Nat) :
    (palette.reindexFrom place).keys = palette.keys :=
  rfl

/-- Moving the keys from a place on: afterwards they have the places of the list. -/
theorem getElem?_ids_reindexFrom_iff
    (palette : Palette)
    (distinct : palette.keys.Nodup)
    (place : Nat)
    (key : String)
    (id : Nat) :
    (palette.reindexFrom place).ids[key]? = some id ↔
      (place < id ∧ palette.keys[id]? = some key) ∨
        (∀ other, place < other → palette.keys[other]? ≠ some key) ∧
          palette.ids[key]? = some id := by
  have othersDistinct : (palette.others.toList.map BlockState.key).Nodup := by
    simp only [keys, states, List.map_cons] at distinct
    exact (List.nodup_cons.1 distinct).2
  have sameKeys :
      palette.others.toList.zipIdx.map (·.1.key) = palette.others.toList.map BlockState.key := by
    conv_rhs => rw [← List.zipIdx_map_fst 0 palette.others.toList, List.map_map]
    rfl
  have entriesDistinct :
      ((palette.others.toList.zipIdx.drop place).map (·.1.key)).Nodup := by
    rw [← sameKeys] at othersDistinct
    exact ((List.drop_sublist place _).map _).nodup othersDistinct
  have listed : ∀ other,
      palette.keys[other + 1]? = (palette.others.toList[other]?).map BlockState.key := by
    intro other
    simp [keys, states]
  have moved :
      (∃ entry ∈ palette.others.toList.zipIdx.drop place,
          entry.1.key = key ∧ entry.2 + 1 = id) ↔
        place < id ∧ palette.keys[id]? = some key := by
    constructor
    · rintro ⟨⟨state, other⟩, member, sameKey, rfl⟩
      obtain ⟨reached, present⟩ := (mem_drop_zipIdx_iff _ _ _).1 member
      rw [listed, present, Option.map_some, sameKey]
      exact ⟨Nat.lt_succ_of_le reached, rfl⟩
    · rintro ⟨beyond, present⟩
      obtain ⟨other, rfl⟩ : ∃ other, id = other + 1 := ⟨id - 1, by omega⟩
      rw [listed, Option.map_eq_some_iff] at present
      obtain ⟨state, atPlace, sameKey⟩ := present
      exact ⟨(state, other),
        (mem_drop_zipIdx_iff _ _ _).2 ⟨Nat.le_of_lt_succ beyond, atPlace⟩, sameKey, rfl⟩
  have unmoved :
      (∀ entry ∈ palette.others.toList.zipIdx.drop place, entry.1.key ≠ key) ↔
        ∀ other, place < other → palette.keys[other]? ≠ some key := by
    constructor
    · intro absent other beyond present
      obtain ⟨index, rfl⟩ : ∃ index, other = index + 1 := ⟨other - 1, by omega⟩
      rw [listed, Option.map_eq_some_iff] at present
      obtain ⟨state, atPlace, sameKey⟩ := present
      exact absent (state, index)
        ((mem_drop_zipIdx_iff _ _ _).2 ⟨Nat.le_of_lt_succ beyond, atPlace⟩) sameKey
    · rintro absent ⟨state, index⟩ member sameKey
      obtain ⟨reached, present⟩ := (mem_drop_zipIdx_iff _ _ _).1 member
      apply absent (index + 1) (Nat.lt_succ_of_le reached)
      rw [listed, present, Option.map_some, sameKey]
  rw [reindexFrom, getElem?_foldl_insert_iff _ entriesDistinct, moved, unmoved]

namespace WellFormed

/-- A removal keeps list and table in agreement. -/
theorem removePlace
    (wellFormed : palette.WellFormed)
    {place : Nat}
    (inside : place < palette.others.size) :
    (palette.removePlace place inside).1.WellFormed := by
  have keptKeys := palette.keys_removePlace inside
  have removedKey : palette.keys[place + 1]? = some palette.others[place].key := by
    simp [keys, states, inside]
  have distinct : (palette.keys.eraseIdx (place + 1)).Nodup :=
    wellFormed.keys_nodup.eraseIdx (place + 1)
  intro key id
  rw [removePlace_fst, keys_reindexFrom] at keptKeys
  rw [removePlace_fst, keys_reindexFrom, getElem?_ids_reindexFrom_iff _ (keptKeys ▸ distinct),
    keptKeys, Std.TreeMap.getElem?_erase]
  simp only [Std.LawfulEqCmp.compare_eq_iff_eq]
  constructor
  · rintro (⟨-, present⟩ | ⟨absent, present⟩)
    · exact present
    · split at present
      · cases present
      · rename_i different
        have before := (wellFormed key id).1 present
        have notRemoved : id ≠ place + 1 := by
          rintro rfl
          exact different (Option.some.inj (removedKey.symm.trans before))
        rcases Nat.lt_or_gt_of_ne notRemoved with below | above
        · rwa [List.getElem?_eraseIdx_of_lt below]
        · exfalso
          apply absent (id - 1) (by omega)
          rw [List.getElem?_eraseIdx_of_ge (by omega), Nat.sub_add_cancel (by omega)]
          exact before
  · intro present
    by_cases moved : place < id
    · exact .inl ⟨moved, present⟩
    · rw [List.getElem?_eraseIdx_of_lt (by omega)] at present
      have different : palette.others[place].key ≠ key := by
        intro sameKey
        have samePlace := wellFormed.place_unique (sameKey ▸ removedKey) present
        omega
      refine .inr ⟨?_, by rw [if_neg different]; exact (wellFormed key id).2 present⟩
      intro other beyond otherPresent
      rw [List.getElem?_eraseIdx_of_ge (by omega)] at otherPresent
      have samePlace := wellFormed.place_unique otherPresent present
      omega

end WellFormed

end Palette

end BlockVolume
