import BlockVolume.Proofs.Palette.Removal

namespace BlockVolume

/-!
# Palettes that callers can build

A palette starts with its default state and is changed by insertions and
removals only. List and table agree after every row of such changes. Insertions
alone extend a palette: the ids that it has given stay.
-/

namespace Palette

variable {palette grown last : Palette}

/-- The palettes that some row of calls leads to. -/
inductive Reachable : Palette → Prop where
  | make (defaultState : BlockState) : Reachable (.make defaultState)
  | insert
      {palette : Palette}
      (reachable : Reachable palette)
      (state : BlockState) :
      Reachable (palette.insert state).1
  | addAll
      {palette other : Palette}
      (reachable : Reachable palette)
      (otherReachable : Reachable other) :
      Reachable (palette.addAll other).1
  | removeId
      {palette smaller : Palette}
      (reachable : Reachable palette)
      {id : Number}
      {remap : Remap}
      (removed : palette.removeId id = .ok (smaller, remap)) :
      Reachable smaller
  | removeState
      {palette smaller : Palette}
      (reachable : Reachable palette)
      {state : BlockState}
      {remap : Remap}
      (removed : palette.removeState state = .ok (smaller, remap)) :
      Reachable smaller

/-- A palette that keeps the ids of another one and may have further states behind them. -/
structure Extends (grown palette : Palette) : Prop where
  wellFormed : grown.WellFormed
  states_eq : ∃ added, grown.states = palette.states ++ added

namespace Extends

theorem refl (wellFormed : palette.WellFormed) : palette.Extends palette where
  wellFormed := wellFormed
  states_eq := ⟨[], (List.append_nil _).symm⟩

theorem trans
    (second : last.Extends grown)
    (first : grown.Extends palette) :
    last.Extends palette where
  wellFormed := second.wellFormed
  states_eq := by
    obtain ⟨firstAdded, firstStates⟩ := first.states_eq
    obtain ⟨secondAdded, secondStates⟩ := second.states_eq
    exact ⟨firstAdded ++ secondAdded, by rw [secondStates, firstStates, List.append_assoc]⟩

/-- If the larger palette is small enough for the ids that there are, so was the smaller one. -/
theorem addressable
    (extension : grown.Extends palette)
    (addressable : grown.Addressable) :
    palette.Addressable := by
  obtain ⟨added, states_eq⟩ := extension.states_eq
  refine Nat.le_trans ?_ addressable
  rw [← length_states, ← length_states, states_eq, List.length_append]
  exact Nat.le_add_right _ _

end Extends

namespace WellFormed

/-- Adding the states of another palette adds those that are unseen, and lists the id of each. -/
theorem addAll_spec
    (wellFormed : palette.WellFormed)
    (other : Palette) :
    ∃ grown ids, palette.addAll other = (grown, .ofIds ids) ∧ grown.WellFormed ∧
      grown.states = palette.states ++ BlockState.unseen palette.states other.states ∧
      grown.Resolves ids other.keys := by
  obtain ⟨grown, ids, inserted, grownWellFormed, grownStates, listed⟩ :=
    wellFormed.insertMany_spec other.states
  refine ⟨grown, ids, ?_, grownWellFormed, grownStates, listed⟩
  rw [addAll, inserted]

theorem extends_insert
    (wellFormed : palette.WellFormed)
    (state : BlockState) :
    (palette.insert state).1.Extends palette := by
  obtain ⟨grown, id, inserted, grownWellFormed, grownStates, -⟩ := wellFormed.insert_spec state
  rw [inserted]
  exact ⟨grownWellFormed, _, grownStates⟩

theorem extends_addAll
    (wellFormed : palette.WellFormed)
    (other : Palette) :
    (palette.addAll other).1.Extends palette := by
  obtain ⟨grown, ids, added, grownWellFormed, grownStates, -⟩ := wellFormed.addAll_spec other
  rw [added]
  exact ⟨grownWellFormed, _, grownStates⟩

/-- Adding the states of another palette adds at most those. -/
theorem size_addAll_le
    (wellFormed : palette.WellFormed)
    (other : Palette) :
    (palette.addAll other).1.size ≤ palette.size + other.size := by
  obtain ⟨grown, ids, added, -, grownStates, -⟩ := wellFormed.addAll_spec other
  have counted := BlockState.length_unseen_le palette.states other.states
  rw [added, ← length_states, grownStates, List.length_append]
  simp only [length_states] at counted ⊢
  omega

/-- A removal by id keeps list and table in agreement. -/
theorem removeId
    (wellFormed : palette.WellFormed)
    {id : Number}
    {smaller : Palette}
    {remap : Remap}
    (removed : palette.removeId id = .ok (smaller, remap)) :
    smaller.WellFormed := by
  unfold Palette.removeId at removed
  split at removed
  · cases removed
  · rename_i place denoted
    split at removed
    · rename_i inside
      have kept := wellFormed.removePlace inside
      rw [Except.ok.inj removed] at kept
      exact kept
    · cases removed
      exact wellFormed
  · cases removed
    exact wellFormed

/-- A removal by state keeps list and table in agreement. -/
theorem removeState
    (wellFormed : palette.WellFormed)
    {state : BlockState}
    {smaller : Palette}
    {remap : Remap}
    (removed : palette.removeState state = .ok (smaller, remap)) :
    smaller.WellFormed := by
  unfold Palette.removeState at removed
  split at removed
  · exact wellFormed.removeId removed
  · cases removed
    exact wellFormed

end WellFormed

/-- List and table of a palette that callers can build agree. -/
theorem Reachable.wellFormed (reachable : palette.Reachable) : palette.WellFormed := by
  induction reachable with
  | make defaultState => exact .make defaultState
  | insert _ state inductionHypothesis =>
      exact (inductionHypothesis.extends_insert state).wellFormed
  | @addAll _ other _ _ inductionHypothesis =>
      exact (inductionHypothesis.extends_addAll other).wellFormed
  | removeId _ removed inductionHypothesis => exact inductionHypothesis.removeId removed
  | removeState _ removed inductionHypothesis => exact inductionHypothesis.removeState removed

end Palette

end BlockVolume
