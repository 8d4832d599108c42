import BlockVolume.Proofs.Palette.Reachable

namespace BlockVolume

/-!
# States and ids of a palette

Where list and table agree, looking up a state and looking up its id undo each
other, up to states that are the same. No change of a palette replaces its
default state, which has id `0` and is never removed.
-/

namespace Palette

variable {palette : Palette} {state : BlockState} {number : Number}

/-- A number leads to a state when it denotes an id at which the state is listed. -/
theorem state_eq_ok_iff :
    palette.state number = .ok state ↔
      ∃ id, number.toNat? = some id ∧ palette.states[id]? = some state := by
  unfold Palette.state
  cases denoted : number.toNat? with
  | none => simp
  | some id =>
      rw [Option.bind_some, state?_eq_getElem?]
      cases listed : palette.states[id]? <;> simp [listed]

/-- The default state has id `0`. -/
theorem state_zero (palette : Palette) : palette.state 0 = .ok palette.defaultState :=
  rfl

namespace WellFormed

/-- An id belongs to a state exactly when it leads to a state that is the same. -/
theorem id?_eq_some_iff_same
    (wellFormed : palette.WellFormed)
    {id : Nat} :
    palette.id? state = some id ↔
      ∃ found, palette.state (.ofNat id) = .ok found ∧ found.same state = true := by
  rw [wellFormed.id?_eq_some_iff, getElem?_keys, Option.map_eq_some_iff]
  simp only [state_eq_ok_iff, Number.toNat?_ofNat, Option.some.injEq, exists_eq_left',
    BlockState.same, beq_iff_eq]

/-- A state has no id exactly when no number leads to a state that is the same. -/
theorem id?_eq_none_iff_same (wellFormed : palette.WellFormed) :
    palette.id? state = none ↔
      ∀ number found, palette.state number = .ok found → found.same state = false := by
  constructor
  · intro unknown number found resolved
    obtain ⟨id, -, listed⟩ := state_eq_ok_iff.1 resolved
    rw [Bool.eq_false_iff]
    intro same
    have known : palette.id? state = some id :=
      wellFormed.id?_eq_some_iff_same.2
        ⟨found, state_eq_ok_iff.2 ⟨id, Number.toNat?_ofNat id, listed⟩, same⟩
    rw [unknown] at known
    cases known
  · intro none
    cases known : palette.id? state with
    | none => rfl
    | some id =>
        obtain ⟨found, resolved, same⟩ := wellFormed.id?_eq_some_iff_same.1 known
        rw [none _ found resolved] at same
        cases same

/-- Every id leads to a state, whose id it is. -/
theorem id?_of_lt
    (wellFormed : palette.WellFormed)
    {id : Nat}
    (inside : id < palette.size) :
    ∃ found, palette.state (.ofNat id) = .ok found ∧ palette.id? found = some id := by
  rw [← length_states] at inside
  have resolved : palette.state (.ofNat id) = .ok palette.states[id] :=
    state_eq_ok_iff.2 ⟨id, Number.toNat?_ofNat id, List.getElem?_eq_getElem inside⟩
  exact ⟨_, resolved, wellFormed.id?_eq_some_iff_same.2 ⟨_, resolved, by simp [BlockState.same]⟩⟩

/-! ## Distinct states -/

/-- Listed states with one key have one place. -/
theorem place_unique_of_key_eq
    (wellFormed : palette.WellFormed)
    {left right : BlockState}
    {first second : Nat}
    (atFirst : palette.states[first]? = some left)
    (atSecond : palette.states[second]? = some right)
    (sameKey : left.key = right.key) :
    first = second := by
  have firstKey : palette.keys[first]? = some left.key := by
    rw [getElem?_keys, atFirst, Option.map_some]
  have secondKey : palette.keys[second]? = some left.key := by
    rw [getElem?_keys, atSecond, Option.map_some, sameKey]
  exact wellFormed.place_unique firstKey secondKey

/-- So they are one state. -/
theorem eq_of_key_eq
    (wellFormed : palette.WellFormed)
    {left right : BlockState}
    (leftListed : left ∈ palette.states)
    (rightListed : right ∈ palette.states)
    (sameKey : left.key = right.key) :
    left = right := by
  obtain ⟨first, atFirst⟩ := List.getElem?_of_mem leftListed
  obtain ⟨second, atSecond⟩ := List.getElem?_of_mem rightListed
  rw [wellFormed.place_unique_of_key_eq atFirst atSecond sameKey, atSecond] at atFirst
  exact (Option.some.inj atFirst).symm

theorem states_nodup (wellFormed : palette.WellFormed) : palette.states.Nodup :=
  (List.pairwise_map.1 wellFormed.keys_nodup).imp fun differentKeys same =>
    differentKeys (congrArg BlockState.key same)

/-- Rows of listed states with the same keys are the same. -/
theorem row_eq_of_keys_eq
    (wellFormed : palette.WellFormed)
    {left right : List BlockState}
    (leftListed : ∀ state ∈ left, state ∈ palette.states)
    (rightListed : ∀ state ∈ right, state ∈ palette.states)
    (sameKeys : left.map BlockState.key = right.map BlockState.key) :
    left = right := by
  have sameLength : left.length = right.length := by
    simpa using congrArg List.length sameKeys
  refine List.ext_getElem sameLength fun place insideLeft insideRight => ?_
  refine wellFormed.eq_of_key_eq (leftListed _ (List.getElem_mem _))
    (rightListed _ (List.getElem_mem _)) ?_
  have sameKey := congrArg (·[place]?) sameKeys
  simpa [insideLeft, insideRight] using sameKey

end WellFormed

/-! ## Removals that are refused or find nothing -/

/-- A number that denotes the id of the default state is refused. -/
theorem removeId_of_zero
    (palette : Palette)
    (denoted : number.toNat? = some 0) :
    palette.removeId number = .error (.defaultStateRemoved palette.defaultState) := by
  rw [removeId, denoted]

/-- A number that leads to no state removes nothing. -/
theorem removeId_of_unknown
    (noState : ∀ found, palette.state number ≠ .ok found) :
    palette.removeId number = .ok (palette, .identity) := by
  cases denoted : number.toNat? with
  | none => rw [removeId, denoted]
  | some id =>
      have outside : palette.states.length ≤ id := by
        by_contra inside
        exact noState _ (state_eq_ok_iff.2 ⟨id, denoted, List.getElem?_eq_getElem (by omega)⟩)
      rw [length_states, size] at outside
      cases id with
      | zero => omega
      | succ place =>
          have beyond : ¬ place < palette.others.size := by omega
          rw [removeId, denoted]
          simp only [dif_neg beyond]

/-- A state that is the same as the default state is refused. -/
theorem WellFormed.removeState_of_default
    (wellFormed : palette.WellFormed)
    (same : palette.defaultState.same state = true) :
    palette.removeState state = .error (.defaultStateRemoved palette.defaultState) := by
  have known : palette.id? state = some 0 :=
    wellFormed.id?_eq_some_iff_same.2 ⟨_, palette.state_zero, same⟩
  rw [Palette.removeState, known]
  exact palette.removeId_of_zero (Number.toNat?_ofNat 0)

/-- A state without an id removes nothing. -/
theorem removeState_of_unknown
    (unknown : palette.id? state = none) :
    palette.removeState state = .ok (palette, .identity) := by
  rw [removeState, unknown]

/-! ## The default state -/

@[simp]
theorem defaultState_insert (palette : Palette) (state : BlockState) :
    (palette.insert state).1.defaultState = palette.defaultState := by
  unfold insert
  split <;> rfl

@[simp]
theorem defaultState_insertMany (palette : Palette) (states : List BlockState) :
    (palette.insertMany states).1.defaultState = palette.defaultState := by
  induction states generalizing palette with
  | nil => rfl
  | cons state rest inductionHypothesis =>
      rw [insertMany]
      exact (inductionHypothesis _).trans (palette.defaultState_insert state)

@[simp]
theorem defaultState_addAll (palette other : Palette) :
    (palette.addAll other).1.defaultState = palette.defaultState :=
  palette.defaultState_insertMany other.states

theorem defaultState_of_removeId
    {smaller : Palette}
    {remap : Remap}
    (removed : palette.removeId number = .ok (smaller, remap)) :
    smaller.defaultState = palette.defaultState := by
  unfold removeId at removed
  split at removed
  · cases removed
  · split at removed
    · rename_i place _ inside
      have same := congrArg (·.1.defaultState) (Except.ok.inj removed)
      rw [← same, removePlace_fst]
      rfl
    · cases removed
      rfl
  · cases removed
    rfl

theorem defaultState_of_removeState
    {smaller : Palette}
    {remap : Remap}
    (removed : palette.removeState state = .ok (smaller, remap)) :
    smaller.defaultState = palette.defaultState := by
  unfold removeState at removed
  split at removed
  · exact defaultState_of_removeId removed
  · cases removed
    rfl

end Palette

end BlockVolume
