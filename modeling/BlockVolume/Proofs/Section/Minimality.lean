import Mathlib.Data.Finset.Card
import Mathlib.Data.Finset.Dedup
import BlockVolume.Proofs.Section.Capacity

namespace BlockVolume

/-!
# What compaction leaves

Compaction leaves the default state and, in their old order, the states that
some block has. The ids are the places in that list, the bound is the last one,
and nothing is left to do for another compaction. So what is left is a matter
of the blocks and of the order of their states, and its size of the number of
different blocks.
-/

namespace Section

variable {slab : Section} {keys : List String}

/-- Taking out elements from the highest place down keeps the others in order. -/
theorem foldl_eraseIdx_filter
    {Element : Type}
    (list : List Element)
    {removable : Nat → Bool}
    {kept : Element → Bool}
    {count : Nat}
    (inside : count ≤ list.length)
    (agree : ∀ place element, place < count → list[place]? = some element →
      removable place = !kept element) :
    ((List.range count).filter removable).reverse.foldl List.eraseIdx list =
      (list.take count).filter kept ++ list.drop count := by
  induction count generalizing list with
  | zero => rfl
  | succ count inductionHypothesis =>
      have last := agree count list[count] (Nat.lt_succ_self _) (List.getElem?_eq_getElem inside)
      rw [List.range_succ, List.filter_append, List.reverse_append,
        List.take_succ_eq_append_getElem inside, List.filter_append, List.append_assoc]
      by_cases keeps : kept list[count] = true
      · have rest := inductionHypothesis list (Nat.le_of_succ_le inside)
          fun place element below => agree place element (Nat.lt_succ_of_lt below)
        rw [keeps, Bool.not_true] at last
        rw [List.filter_cons_of_neg (by simp [last]), List.filter_cons_of_pos keeps,
          List.filter_nil, List.filter_nil, List.reverse_nil, List.nil_append, rest,
          List.drop_eq_getElem_cons inside, List.singleton_append]
      · -- Places below the one that is taken out stay what they are.
        have shorter : count ≤ (list.eraseIdx count).length := by
          rw [List.length_eraseIdx_of_lt inside]
          exact Nat.le_sub_one_of_lt inside
        have rest := inductionHypothesis (list.eraseIdx count) shorter
          fun place element below found => agree place element (Nat.lt_succ_of_lt below) <| by
            rwa [List.getElem?_eraseIdx_of_lt below] at found
        have dropped : (list.eraseIdx count).drop count = list.drop (count + 1) := by
          rw [List.eraseIdx_eq_take_drop_succ]
          exact List.drop_left' (List.length_take_of_le (Nat.le_of_succ_le inside))
        rw [Bool.not_eq_true] at keeps
        rw [keeps, Bool.not_false] at last
        rw [List.filter_cons_of_pos (by simp [last]), List.filter_cons_of_neg (by simp [keeps]),
          List.filter_nil, List.filter_nil, List.reverse_singleton, List.singleton_append,
          List.foldl_cons, List.nil_append, rest, dropped,
          List.take_eraseIdx_eq_take_of_le _ _ _ (Nat.le_refl count)]

/-! ## Blocks -/

/-- The row of the states that a row of ids leads to. -/
def Rows (states : List BlockState) (ids : List Nat) (blocks : List BlockState) : Prop :=
  ids.map (states[·]?) = blocks.map some

/-- The ids of a row are the places of its states, if these are distinct. -/
theorem Rows.ids_eq
    {states blocks : List BlockState}
    {ids : List Nat}
    (distinct : states.Nodup)
    (row : Rows states ids blocks) :
    ids = blocks.map (states.idxOf ·) := by
  induction ids generalizing blocks with
  | nil =>
      cases blocks with
      | nil => rfl
      | cons state rest => cases row
  | cons id others inductionHypothesis =>
      cases blocks with
      | nil => cases row
      | cons state rest =>
          obtain ⟨found, othersRow⟩ := List.cons.inj row
          obtain ⟨inside, rfl⟩ := List.getElem?_eq_some_iff.1 found
          rw [List.map_cons, distinct.idxOf_getElem, ← inductionHypothesis othersRow]

/-- A state is in a row exactly when an id of the row leads to it. -/
theorem Rows.mem_iff
    {states blocks : List BlockState}
    {ids : List Nat}
    (row : Rows states ids blocks)
    (state : BlockState) :
    state ∈ blocks ↔ ∃ id ∈ ids, states[id]? = some state := by
  rw [← List.mem_map (f := (states[·]?)), row]
  simp

/-- A row leads to as many states as it has ids. -/
theorem Rows.length_eq
    {states blocks : List BlockState}
    {ids : List Nat}
    (row : Rows states ids blocks) :
    blocks.length = ids.length := by
  simpa using (congrArg List.length row).symm

/-- The block of a cell is the state in its place of the row. -/
theorem block_of_rows
    (sound : slab.storage.Sound)
    {blocks : List BlockState}
    (row : Rows slab.palette.states slab.storage.values blocks)
    {cell : Nat}
    {state : BlockState}
    (found : blocks[cell]? = some state) :
    slab.block cell = .ok state := by
  obtain ⟨id, stored, resolved⟩ :
      ∃ id, slab.storage.values[cell]? = some id ∧ slab.palette.states[id]? = some state := by
    simpa [found] using congrArg (·[cell]?) row
  obtain ⟨inside, rfl⟩ := List.getElem?_eq_some_iff.1 stored
  rw [block, sound.represents.get_of_lt (Number.toNat?_ofNat cell) inside]
  exact Palette.state_eq_ok_iff.2 ⟨_, Number.toNat?_ofNat _, resolved⟩

/-- The blocks are the row. -/
theorem blocks_of_rows
    (sound : slab.storage.Sound)
    {blocks : List BlockState}
    (row : Rows slab.palette.states slab.storage.values blocks) :
    slab.blocks = .ok blocks := by
  have size_eq : slab.storage.size = blocks.length := by
    rw [row.length_eq, PackedArray.length_values]
  have each : ∀ cell ∈ List.range slab.storage.size,
      slab.block cell = .ok (blocks.getD cell .air) := by
    intro cell member
    have inside : cell < blocks.length := size_eq ▸ List.mem_range.1 member
    refine block_of_rows sound row ?_
    rw [List.getD_eq_getElem?_getD, List.getElem?_eq_getElem inside, Option.getD_some]
  rw [Section.blocks, mapM_eq_ok each, size_eq]
  refine congrArg Except.ok (List.ext_getElem (by simp) fun cell inRow inside => ?_)
  rw [List.getElem_map, List.getElem_range, List.getD_eq_getElem?_getD,
    List.getElem?_eq_getElem inside, Option.getD_some]

namespace Shows

/-- The states that the ids of a section lead to have the keys that it shows. -/
theorem rows (shows : slab.Shows keys) :
    ∃ blocks, Rows slab.palette.states slab.storage.values blocks ∧
      blocks.map BlockState.key = keys := by
  have inside : ∀ id ∈ slab.storage.values,
      slab.palette.states[id]? = some (slab.palette.states.getD id .air) := by
    intro id member
    have within : id < slab.palette.states.length := by
      rw [Palette.length_states]
      exact shows.resolves.id_lt member
    rw [List.getD_eq_getElem?_getD, List.getElem?_eq_getElem within, Option.getD_some]
  have row : Rows slab.palette.states slab.storage.values
      (slab.storage.values.map (slab.palette.states.getD · .air)) := by
    rw [Rows, List.map_map]
    exact List.map_congr_left inside
  refine ⟨_, row, List.map_injective_iff.2 (Option.some_injective _) ?_⟩
  rw [← shows.resolves, List.map_map, List.map_map]
  refine List.map_congr_left fun id member => ?_
  rw [Palette.getElem?_keys, inside id member]
  rfl

end Shows

/-- Sections of the same size with the same row of states answer every read alike. -/
theorem get_congr_of_rows
    {left right : Section}
    {blocks : List BlockState}
    (leftSound : left.storage.Sound)
    (rightSound : right.storage.Sound)
    (leftRow : Rows left.palette.states left.storage.values blocks)
    (rightRow : Rows right.palette.states right.storage.values blocks)
    (length_eq : blocks.length = cellCount)
    (x y z : Number) :
    left.get x y z = right.get x y z := by
  cases addressed : place? x y z with
  | none =>
      obtain ⟨cause, refused, -⟩ := cellIndex_of_outside addressed
      rw [get, get, refused]
      rfl
  | some place =>
      have found := List.getElem?_eq_getElem (length_eq ▸ place.cell_lt)
      rw [get, get, cellIndex_of_place addressed]
      exact (block_of_rows leftSound leftRow found).trans
        (block_of_rows rightSound rightRow found).symm

/-! ## The states that remain -/

/-- The default state and, in their order, the other states that some block has. -/
def keptStates (slab : Section) (blocks : List BlockState) : List BlockState :=
  slab.defaultState :: slab.palette.states.tail.filter (· ∈ blocks)

section Kept

variable {blocks : List BlockState}

/-- Without the unused ids a palette lists what is kept. -/
theorem foldl_eraseIdx_unusedIds
    (wellFormed : slab.palette.WellFormed)
    (row : Rows slab.palette.states slab.storage.values blocks) :
    (unusedIds slab.palette.size slab.storage.values).foldl List.eraseIdx slab.palette.states =
      slab.keptStates blocks := by
  have distinct := wellFormed.states_nodup
  have notDefault : ∀ state ∈ slab.palette.states.tail, state ≠ slab.defaultState := by
    rintro state member rfl
    exact (List.nodup_cons.1 distinct).1 member
  have agree : ∀ place state, place < slab.palette.size →
      slab.palette.states[place]? = some state →
        (place != 0 && !slab.storage.values.contains place) =
          !(state == slab.defaultState || decide (state ∈ blocks)) := by
    intro place state _ found
    have isDefault : place = 0 ↔ state = slab.defaultState := by
      have first : slab.palette.states[0]? = some slab.defaultState := rfl
      constructor
      · rintro rfl
        exact Option.some.inj (found.symm.trans first)
      · rintro rfl
        exact wellFormed.place_unique_of_key_eq found first rfl
    have isUsed : place ∈ slab.storage.values ↔ state ∈ blocks := by
      rw [row.mem_iff]
      constructor
      · exact fun stored => ⟨place, stored, found⟩
      · rintro ⟨id, stored, foundAgain⟩
        rwa [wellFormed.place_unique_of_key_eq found foundAgain rfl]
    rw [bne, beq_eq_decide, beq_eq_decide, List.contains_eq_mem, decide_eq_decide.2 isDefault,
      decide_eq_decide.2 isUsed, Bool.not_or]
  rw [unusedIds, foldl_eraseIdx_filter _ (Nat.le_of_eq slab.palette.length_states.symm) agree,
    ← slab.palette.length_states, List.take_length, List.drop_length, List.append_nil]
  refine (List.filter_cons_of_pos (by simp [defaultState])).trans (congrArg _ ?_)
  refine List.filter_congr fun state member => ?_
  simp [notDefault state member]

/-- The states of a row are listed. -/
theorem Rows.mem_states
    {states : List BlockState}
    {ids : List Nat}
    (row : Rows states ids blocks)
    {state : BlockState}
    (member : state ∈ blocks) :
    state ∈ states := by
  obtain ⟨id, -, found⟩ := (row.mem_iff state).1 member
  exact List.mem_of_getElem? found

theorem keptStates_subset
    {state : BlockState}
    (kept : state ∈ slab.keptStates blocks) :
    state ∈ slab.palette.states := by
  rcases List.mem_cons.1 kept with rfl | isOther
  · exact List.mem_cons_self
  · exact List.mem_of_mem_tail (List.mem_filter.1 isOther).1

/-- What is kept is counted by the different keys of the blocks other than the default one. -/
theorem length_keptStates
    (wellFormed : slab.palette.WellFormed)
    (row : Rows slab.palette.states slab.storage.values blocks) :
    (slab.keptStates blocks).length =
      ((blocks.map BlockState.key).toFinset.erase slab.defaultState.key).card + 1 := by
  have distinct : (slab.palette.states.map BlockState.key).Nodup := wellFormed.keys_nodup
  obtain ⟨defaultApart, othersDistinct⟩ := List.nodup_cons.1 distinct
  have keptDistinct :
      ((slab.palette.states.tail.filter (· ∈ blocks)).map BlockState.key).Nodup :=
    (List.filter_sublist.map BlockState.key).nodup othersDistinct
  have sameKeys :
      ((slab.palette.states.tail.filter (· ∈ blocks)).map BlockState.key).toFinset =
        (blocks.map BlockState.key).toFinset.erase slab.defaultState.key := by
    ext key
    simp only [List.mem_toFinset, List.mem_map, List.mem_filter, decide_eq_true_eq,
      Finset.mem_erase]
    constructor
    · rintro ⟨state, ⟨isOther, isBlock⟩, rfl⟩
      exact ⟨fun same => defaultApart (List.mem_map.2 ⟨state, isOther, same⟩), state, isBlock, rfl⟩
    · rintro ⟨different, state, isBlock, rfl⟩
      rcases List.mem_cons.1 (row.mem_states isBlock) with same | isOther
      · exact absurd (congrArg BlockState.key same) different
      · exact ⟨state, ⟨isOther, isBlock⟩, rfl⟩
  rw [keptStates, List.length_cons, ← sameKeys, List.toFinset_card_of_nodup keptDistinct,
    List.length_map]

/-- A palette of kept states has no unused id. -/
theorem unusedIds_eq_nil
    {values : List Nat}
    {palette : Palette}
    (wellFormed : palette.WellFormed)
    (states_eq : palette.states = slab.keptStates blocks)
    (row : Rows palette.states values blocks) :
    unusedIds palette.size values = [] := by
  refine List.eq_nil_iff_forall_not_mem.2 fun id member => ?_
  obtain ⟨positive, inside, unused⟩ := mem_unusedIds_iff.1 member
  obtain ⟨place, rfl⟩ : ∃ place, id = place + 1 := ⟨id - 1, by omega⟩
  rw [← palette.length_states] at inside
  obtain ⟨state, found⟩ : ∃ state, palette.states[place + 1]? = some state :=
    ⟨_, List.getElem?_eq_getElem inside⟩
  have isBlock : state ∈ blocks := by
    have kept := found
    rw [states_eq, keptStates, List.getElem?_cons_succ] at kept
    simpa using (List.mem_filter.1 (List.mem_of_getElem? kept)).2
  obtain ⟨used, stored, foundAgain⟩ := (row.mem_iff state).1 isBlock
  rw [wellFormed.place_unique_of_key_eq found foundAgain rfl] at unused
  exact unused stored

end Kept

/-! ## Compaction -/

/-- What compaction makes of a section with these blocks. -/
structure CompactFormOf (compacted slab : Section) (blocks : List BlockState) : Prop where
  consistent : compacted.Consistent
  states_eq : compacted.palette.states = slab.keptStates blocks
  values_eq : compacted.storage.values = blocks.map (compacted.palette.states.idxOf ·)
  get_eq : ∀ x y z, compacted.get x y z = slab.get x y z
  maxValue_eq : compacted.storage.maxValue = compacted.palette.size - 1
  width_eq : compacted.storage.width = bitsNeeded (compacted.palette.size - 1)
  size_eq :
    compacted.palette.size =
      ((blocks.map BlockState.key).toFinset.erase slab.defaultState.key).card + 1
  compact_eq : compacted.compact = (compacted, .ok ())

/-- Compaction of a consistent section always goes to the end, and leaves this form. -/
theorem Consistent.compact (consistent : slab.Consistent) :
    ∃ blocks compacted, slab.blocks = .ok blocks ∧ slab.compact = (compacted, .ok ()) ∧
      compacted.CompactFormOf slab blocks := by
  obtain ⟨keys, shows⟩ := consistent.shows
  obtain ⟨compacted, succeeds, erased, bound, packed, showsCompacted⟩ := shows.compact_succeeds
  obtain ⟨blocks, row, blockKeys⟩ := shows.rows
  obtain ⟨blocksAfter, rowAfter, blockKeysAfter⟩ := showsCompacted.rows
  have states_eq := erased.trans (foldl_eraseIdx_unusedIds shows.wellFormed row)
  have sameBlocks : blocksAfter = blocks := by
    refine shows.wellFormed.row_eq_of_keys_eq (fun state member => ?_)
      (fun state member => row.mem_states member) (blockKeysAfter.trans blockKeys.symm)
    exact keptStates_subset (states_eq ▸ rowAfter.mem_states member)
  subst sameBlocks
  have length_eq : blocksAfter.length = cellCount := by
    rw [row.length_eq, shows.length_values]
  have nothingUnused := unusedIds_eq_nil showsCompacted.wellFormed states_eq rowAfter
  refine ⟨blocksAfter, compacted, blocks_of_rows shows.sound row, succeeds, ?_⟩
  exact
    { consistent := showsCompacted.consistent
      states_eq
      values_eq := rowAfter.ids_eq showsCompacted.wellFormed.states_nodup
      get_eq := get_congr_of_rows showsCompacted.sound shows.sound rowAfter row length_eq
      maxValue_eq := bound
      width_eq := congrArg bitsNeeded bound
      size_eq := by
        rw [← Palette.length_states, states_eq, length_keptStates shows.wellFormed row]
      compact_eq := by
        rw [Section.compact, compaction, nothingUnused, removeIds, packed] }

end Section

end BlockVolume
