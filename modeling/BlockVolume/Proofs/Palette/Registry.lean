import BlockVolume.Palette.Basic

namespace BlockVolume

/-!
# The list and the table of a palette

A palette keeps each state twice, at its place in a list and in a table from
keys to places. `WellFormed` says that the two agree; it makes the keys
distinct. Every change of a palette keeps it, and has one lemma that gives the
list of states that results.
-/

namespace BlockState

/--
The states of a list that are none of the known ones, each once, in the order
of their first appearance.
-/
def unseen (known states : List BlockState) : List BlockState :=
  (states.filter fun state => !known.any state.same).eraseDupsBy same

/-- Whether a state is among others is a matter of keys. -/
theorem any_same_iff
    (state : BlockState)
    (known : List BlockState) :
    known.any state.same = true ↔ state.key ∈ known.map key := by
  simp only [List.any_eq_true, List.mem_map, same, beq_iff_eq]
  constructor
  · rintro ⟨other, member, sameKey⟩
    exact ⟨other, member, sameKey.symm⟩
  · rintro ⟨other, member, sameKey⟩
    exact ⟨other, member, sameKey.symm⟩

@[simp]
theorem unseen_nil (known : List BlockState) : unseen known [] = [] :=
  rfl

/-- A known state at the front is passed over. -/
theorem unseen_cons_of_mem
    {known : List BlockState}
    {state : BlockState}
    (seen : state.key ∈ known.map key)
    (rest : List BlockState) :
    unseen known (state :: rest) = unseen known rest := by
  have found := (any_same_iff state known).2 seen
  simp [unseen, found]

/-- An unknown state at the front is kept, and known from there on. -/
theorem unseen_cons_of_not_mem
    {known : List BlockState}
    {state : BlockState}
    (new : state.key ∉ known.map key)
    (rest : List BlockState) :
    unseen known (state :: rest) = state :: unseen (known ++ [state]) rest := by
  have absent : known.any state.same = false := by
    rw [Bool.eq_false_iff]
    exact mt (any_same_iff state known).1 new
  simp only [unseen, List.filter_cons, absent, Bool.not_false, if_true, List.eraseDupsBy_cons,
    List.filter_filter, List.any_append, List.any_cons, List.any_nil, Bool.or_false, Bool.not_or]
  congr 3
  funext other
  cases same other state <;> simp

/-- There are no more unseen states than states. -/
theorem length_unseen_le (known states : List BlockState) :
    (unseen known states).length ≤ states.length := by
  induction states generalizing known with
  | nil => exact Nat.le_refl 0
  | cons state rest inductionHypothesis =>
      rw [List.length_cons]
      by_cases seen : state.key ∈ known.map key
      · rw [unseen_cons_of_mem seen]
        exact Nat.le_succ_of_le (inductionHypothesis known)
      · rw [unseen_cons_of_not_mem seen, List.length_cons]
        exact Nat.succ_le_succ (inductionHypothesis (known ++ [state]))

/-- Together with the known states the unseen ones have the keys of all. -/
theorem mem_keys_append_unseen_iff
    {known states : List BlockState}
    {wanted : String} :
    wanted ∈ (known ++ unseen known states).map key ↔
      wanted ∈ known.map key ∨ wanted ∈ states.map key := by
  induction states generalizing known with
  | nil => simp
  | cons state rest inductionHypothesis =>
      rw [List.map_cons, List.mem_cons]
      by_cases seen : state.key ∈ known.map key
      · rw [unseen_cons_of_mem seen, inductionHypothesis]
        constructor
        · rintro (old | new)
          · exact .inl old
          · exact .inr (.inr new)
        · rintro (old | same | new)
          · exact .inl old
          · exact .inl (same ▸ seen)
          · exact .inr new
      · rw [unseen_cons_of_not_mem seen, ← List.singleton_append, ← List.append_assoc,
          inductionHypothesis, List.map_append, List.mem_append, List.map_singleton,
          List.mem_singleton, or_assoc]

/-- The unseen states of two lists in a row. -/
theorem unseen_append (known first second : List BlockState) :
    unseen known (first ++ second) =
      unseen known first ++ unseen (known ++ unseen known first) second := by
  induction first generalizing known with
  | nil => simp
  | cons state rest inductionHypothesis =>
      rw [List.cons_append]
      by_cases seen : state.key ∈ known.map key
      · rw [unseen_cons_of_mem seen, unseen_cons_of_mem seen, inductionHypothesis]
      · rw [unseen_cons_of_not_mem seen, unseen_cons_of_not_mem seen, inductionHypothesis]
        simp

end BlockState

namespace Palette

variable {palette : Palette} {state : BlockState}

/-- The keys of the states, in the order of their ids. -/
def keys (palette : Palette) : List String :=
  palette.states.map BlockState.key

/-- The table knows the keys of the listed states, each with its place, and no others. -/
def WellFormed (palette : Palette) : Prop :=
  ∀ (key : String) (id : Nat), palette.ids[key]? = some id ↔ palette.keys[id]? = some key

/-- Every id is admissible as a value of an array. -/
def Addressable (palette : Palette) : Prop :=
  palette.size ≤ maxCellValue + 1

@[simp]
theorem length_keys (palette : Palette) : palette.keys.length = palette.size := by
  simp [keys]

theorem getElem?_keys
    (palette : Palette)
    (id : Nat) :
    palette.keys[id]? = (palette.states[id]?).map BlockState.key := by
  simp [keys]

/-- An id with a key is an id of the palette. -/
theorem id_lt_of_getElem?_keys
    {id : Nat}
    {key : String}
    (listed : palette.keys[id]? = some key) :
    id < palette.size := by
  have inside := (List.getElem?_eq_some_iff.1 listed).1
  rwa [length_keys] at inside

/-- Ids of an addressable palette are admissible. -/
theorem Addressable.le_maxCellValue
    (addressable : palette.Addressable)
    {id : Nat}
    (inside : id < palette.size) :
    id ≤ maxCellValue :=
  Nat.le_of_lt_succ (Nat.lt_of_lt_of_le inside addressable)

/-- An id with a key has a state, which has that key. -/
theorem state_of_getElem?_keys
    {id : Nat}
    {key : String}
    (listed : palette.keys[id]? = some key) :
    ∃ state, palette.state (.ofNat id) = .ok state ∧ state.key = key := by
  rw [getElem?_keys, Option.map_eq_some_iff] at listed
  obtain ⟨state, present, sameKey⟩ := listed
  refine ⟨state, ?_, sameKey⟩
  rw [Palette.state, Number.toNat?_ofNat, Option.bind_some, state?_eq_getElem?, present]

theorem keys_of_states_eq_append
    {grown : Palette}
    {added : List BlockState}
    (states_eq : grown.states = palette.states ++ added) :
    grown.keys = palette.keys ++ added.map BlockState.key := by
  rw [keys, states_eq, List.map_append, keys]

/-- Ids that are listed stay listed when states are added at the end. -/
theorem getElem?_keys_of_states_eq_append
    {grown : Palette}
    {added : List BlockState}
    (states_eq : grown.states = palette.states ++ added)
    {id : Nat}
    {key : String}
    (listed : palette.keys[id]? = some key) :
    grown.keys[id]? = some key := by
  have inside := (List.getElem?_eq_some_iff.1 listed).1
  rw [keys_of_states_eq_append states_eq, List.getElem?_append_left inside]
  exact listed

/-! ## Rows of ids -/

/-- A row of ids leads to a row of keys. -/
def Resolves (palette : Palette) (ids : List Nat) (keys : List String) : Prop :=
  ids.map (palette.keys[·]?) = keys.map some

namespace Resolves

variable {ids : List Nat} {row : List String}

theorem length_eq (resolves : palette.Resolves ids row) : ids.length = row.length := by
  have sameLength := congrArg List.length resolves
  rwa [List.length_map, List.length_map] at sameLength

/-- The id at a place leads to the key at that place. -/
theorem at_place
    (resolves : palette.Resolves ids row)
    {place id : Nat}
    (present : ids[place]? = some id) :
    palette.keys[id]? = row[place]? := by
  have inside := (List.getElem?_eq_some_iff.1 present).1
  have sameKey := congrArg (·[place]?) resolves
  rw [resolves.length_eq] at inside
  simp only [List.getElem?_map, present, Option.map_some, List.getElem?_eq_getElem inside] at sameKey
  rw [Option.some.inj sameKey, List.getElem?_eq_getElem inside]

/-- Every id of the row has a state. -/
theorem id_lt
    (resolves : palette.Resolves ids row)
    {id : Nat}
    (member : id ∈ ids) :
    id < palette.size := by
  have listed := List.mem_map_of_mem (f := (palette.keys[·]?)) member
  rw [resolves, List.mem_map] at listed
  obtain ⟨key, -, found⟩ := listed
  exact id_lt_of_getElem?_keys found.symm

/-- Ids that move to where their keys are lead to the same keys. -/
theorem map
    (resolves : palette.Resolves ids row)
    {other : Palette}
    {move : Nat → Nat}
    (moved : ∀ id ∈ ids, other.keys[move id]? = palette.keys[id]?) :
    other.Resolves (ids.map move) row := by
  rw [Resolves, List.map_map, ← resolves]
  exact List.map_congr_left moved

/-- A row leads to the same keys when states are added at the end. -/
theorem grow
    (resolves : palette.Resolves ids row)
    {grown : Palette}
    {added : List BlockState}
    (states_eq : grown.states = palette.states ++ added) :
    grown.Resolves ids row := by
  rw [Resolves, ← resolves]
  refine List.map_congr_left fun id member => ?_
  have inside : id < palette.keys.length := by
    rw [length_keys]
    exact resolves.id_lt member
  have found := List.getElem?_eq_getElem inside
  rw [found]
  exact getElem?_keys_of_states_eq_append states_eq found

/-- One id may be put in place of another, with its key. -/
theorem set
    (resolves : palette.Resolves ids row)
    {id : Nat}
    {key : String}
    (listed : palette.keys[id]? = some key)
    (place : Nat) :
    palette.Resolves (ids.set place id) (row.set place key) := by
  rw [Resolves, List.map_set, List.map_set, resolves, listed]

/-- Values that select keys of a row are replaced by the ids of these keys. -/
theorem select
    (resolves : palette.Resolves ids row)
    {values : List Nat}
    {selected : List String}
    (selects : values.map (row[·]?) = selected.map some) :
    palette.Resolves (values.map (ids.getD · 0)) selected := by
  rw [Resolves, List.map_map, ← selects]
  refine List.map_congr_left fun value member => ?_
  have found := List.mem_map_of_mem (f := (row[·]?)) member
  rw [selects, List.mem_map] at found
  obtain ⟨key, -, present⟩ := found
  have inside : value < ids.length := by
    rw [resolves.length_eq]
    exact (List.getElem?_eq_some_iff.1 present.symm).1
  rw [Function.comp_apply, List.getD_eq_getElem?_getD, List.getElem?_eq_getElem inside,
    Option.getD_some]
  exact resolves.at_place (List.getElem?_eq_getElem inside)

end Resolves

/-- An insertion adds at most one state. -/
theorem size_insert_le
    (palette : Palette)
    (state : BlockState) :
    (palette.insert state).1.size ≤ palette.size + 1 := by
  unfold insert
  split
  · exact Nat.le_succ _
  · simp [size]

namespace WellFormed

/-- The id of a state is the place of its key. -/
theorem id?_eq_some_iff
    (wellFormed : palette.WellFormed)
    {id : Nat} :
    palette.id? state = some id ↔ palette.keys[id]? = some state.key :=
  wellFormed state.key id

/-- A state has no id exactly when its key is not listed. -/
theorem id?_eq_none_iff (wellFormed : palette.WellFormed) :
    palette.id? state = none ↔ state.key ∉ palette.keys := by
  constructor
  · intro unknown member
    obtain ⟨id, found⟩ := List.getElem?_of_mem member
    rw [← wellFormed.id?_eq_some_iff, unknown] at found
    cases found
  · intro absent
    cases found : palette.id? state with
    | none => rfl
    | some id =>
        have listed := wellFormed.id?_eq_some_iff.1 found
        exact absurd (List.mem_of_getElem? listed) absent

/-- Each key has one place. -/
theorem place_unique
    (wellFormed : palette.WellFormed)
    {key : String}
    {first second : Nat}
    (atFirst : palette.keys[first]? = some key)
    (atSecond : palette.keys[second]? = some key) :
    first = second := by
  have found := (wellFormed key first).2 atFirst
  rw [(wellFormed key second).2 atSecond] at found
  exact (Option.some.inj found).symm

/-- No key is listed twice. -/
theorem keys_nodup (wellFormed : palette.WellFormed) : palette.keys.Nodup := by
  rw [List.Nodup, List.pairwise_iff_getElem]
  intro first second firstInside secondInside before sameKey
  have samePlace : first = second :=
    wellFormed.place_unique
      (List.getElem?_eq_getElem firstInside)
      (by rw [List.getElem?_eq_getElem secondInside, sameKey])
  omega

/-- The palette of a default state alone is well-formed. -/
theorem make (defaultState : BlockState) : (Palette.make defaultState).WellFormed := by
  intro key id
  simp only [Palette.make, keys, states, Std.TreeMap.getElem?_insert,
    Std.LawfulEqCmp.compare_eq_iff_eq]
  by_cases sameKey : defaultState.key = key
  · cases id with
    | zero => simp [sameKey]
    | succ place => simp [sameKey]
  · cases id with
    | zero => simp [sameKey]
    | succ place => simp [sameKey]

/-! ## Insertion -/

/-- A known state is found, and nothing changes. -/
theorem insert_of_mem
    (wellFormed : palette.WellFormed)
    (known : state.key ∈ palette.keys) :
    ∃ id, palette.insert state = (palette, id) ∧ palette.keys[id]? = some state.key := by
  cases found : palette.id? state with
  | none => exact absurd known (wellFormed.id?_eq_none_iff.1 found)
  | some id =>
      refine ⟨id, ?_, wellFormed.id?_eq_some_iff.1 found⟩
      rw [Palette.insert, found]

/-- A palette with a new state pushed at the end is well-formed. -/
theorem push
    (wellFormed : palette.WellFormed)
    (new : state.key ∉ palette.keys) :
    WellFormed
      { palette with
        others := palette.others.push state
        ids := palette.ids.insert state.key palette.size } := by
  intro key id
  have grownKeys :
      Palette.keys
          { palette with
            others := palette.others.push state
            ids := palette.ids.insert state.key palette.size } =
        palette.keys ++ [state.key] := by
    simp [keys, states]
  rw [grownKeys, Std.TreeMap.getElem?_insert]
  simp only [Std.LawfulEqCmp.compare_eq_iff_eq]
  by_cases sameKey : state.key = key
  · subst sameKey
    rw [if_pos rfl, Option.some.injEq, ← palette.length_keys]
    constructor
    · rintro rfl
      simp
    · intro listed
      rw [List.getElem?_append] at listed
      split at listed
      · exact absurd (List.mem_of_getElem? listed) new
      · have last := (List.getElem?_eq_some_iff.1 listed).1
        simp only [List.length_singleton] at last
        omega
  · rw [if_neg sameKey, wellFormed key id, List.getElem?_append]
    split
    · exact Iff.rfl
    · constructor
      · intro beyond
        have inside := (List.getElem?_eq_some_iff.1 beyond).1
        contradiction
      · intro last
        have member := List.mem_of_getElem? last
        exact absurd (List.mem_singleton.1 member).symm sameKey

/-- A new state comes last. -/
theorem insert_of_not_mem
    (wellFormed : palette.WellFormed)
    (new : state.key ∉ palette.keys) :
    ∃ grown, palette.insert state = (grown, palette.size) ∧ grown.WellFormed ∧
      grown.states = palette.states ++ [state] := by
  have unknown := wellFormed.id?_eq_none_iff.2 new
  exact ⟨_, by rw [Palette.insert, unknown], wellFormed.push new, by simp [states]⟩

/-- Inserting a state adds it if it is not there, and answers with its id. -/
theorem insert_spec
    (wellFormed : palette.WellFormed)
    (state : BlockState) :
    ∃ grown id, palette.insert state = (grown, id) ∧ grown.WellFormed ∧
      grown.states = palette.states ++ BlockState.unseen palette.states [state] ∧
      grown.keys[id]? = some state.key := by
  by_cases known : state.key ∈ palette.keys
  · obtain ⟨id, same, listed⟩ := wellFormed.insert_of_mem known
    refine ⟨palette, id, same, wellFormed, ?_, listed⟩
    rw [BlockState.unseen_cons_of_mem known, BlockState.unseen_nil, List.append_nil]
  · obtain ⟨grown, inserted, grownWellFormed, grownStates⟩ := wellFormed.insert_of_not_mem known
    refine ⟨grown, palette.size, inserted, grownWellFormed, ?_, ?_⟩
    · rw [grownStates, BlockState.unseen_cons_of_not_mem known, BlockState.unseen_nil]
    · rw [getElem?_keys, grownStates, ← palette.length_states]
      simp

/-- Inserting many states adds the unseen ones in order, and answers with the id of each. -/
theorem insertMany_spec
    (wellFormed : palette.WellFormed)
    (inserted : List BlockState) :
    ∃ grown ids, palette.insertMany inserted = (grown, ids) ∧ grown.WellFormed ∧
      grown.states = palette.states ++ BlockState.unseen palette.states inserted ∧
      grown.Resolves ids (inserted.map BlockState.key) := by
  induction inserted generalizing palette with
  | nil => exact ⟨palette, [], rfl, wellFormed, by simp, rfl⟩
  | cons state rest inductionHypothesis =>
      obtain ⟨between, id, first, betweenWellFormed, betweenStates, listed⟩ :=
        wellFormed.insert_spec state
      obtain ⟨grown, ids, later, grownWellFormed, grownStates, restListed⟩ :=
        inductionHypothesis betweenWellFormed
      refine ⟨grown, id :: ids, ?_, grownWellFormed, ?_, ?_⟩
      · rw [insertMany, first]
        simp only [later]
      · rw [grownStates, betweenStates, List.append_assoc, ← BlockState.unseen_append,
          List.singleton_append]
      · rw [Resolves, List.map_cons, restListed,
          getElem?_keys_of_states_eq_append grownStates listed]
        rfl

end WellFormed

end Palette

end BlockVolume
