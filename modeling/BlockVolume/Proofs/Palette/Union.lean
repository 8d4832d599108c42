import BlockVolume.Proofs.Palette.Agreement
import BlockVolume.Proofs.Palette.Protocol

namespace BlockVolume

/-!
# The union of two palettes

A palette takes in the states of another one behind its own, those that it
lacks, in the order in which the other one lists them. Since no palette lists a
key twice, the ids there go to different ids here; adding once more finds every
state and answers with the same ids.
-/

namespace BlockState

/-- Of states with different keys the unseen ones are those that are not known. -/
theorem unseen_of_nodup
    {states : List BlockState}
    (distinct : (states.map key).Nodup)
    (known : List BlockState) :
    unseen known states = states.filter fun state => !known.any state.same := by
  induction states generalizing known with
  | nil => rfl
  | cons state rest inductionHypothesis =>
      rw [List.map_cons, List.nodup_cons] at distinct
      obtain ⟨onlyOnce, restDistinct⟩ := distinct
      by_cases seen : state.key ∈ known.map key
      · have found := (any_same_iff state known).2 seen
        rw [unseen_cons_of_mem seen, inductionHypothesis restDistinct]
        simp [found]
      · have absent : known.any state.same = false := by
          rw [Bool.eq_false_iff]
          exact mt (any_same_iff state known).1 seen
        -- What was kept before does not matter to the rest, whose keys are others.
        have stillUnknown : ∀ other ∈ rest,
            (!(known ++ [state]).any other.same) = !known.any other.same := by
          intro other member
          have different : other.same state = false := by
            rw [same, beq_eq_false_iff_ne]
            intro sameKey
            exact onlyOnce (sameKey ▸ List.mem_map_of_mem member)
          simp [different]
        rw [unseen_cons_of_not_mem seen, inductionHypothesis restDistinct,
          List.filter_congr stillUnknown]
        simp [absent]

end BlockState

namespace Remap

/-- The changes of the remap to given ids, by place. -/
theorem changes_ofIds_by_place (ids : List Nat) :
    (ofIds ids).changes = (List.range ids.length).map fun old => (old, ids.getD old 0) := by
  refine List.ext_getElem (by simp [ofIds]) fun place inside _ => ?_
  have insideIds : place < ids.length := by simpa [ofIds] using inside
  simp [ofIds, insideIds]

end Remap

namespace Palette

variable {palette other union : Palette} {ids : List Nat} {row : List String}

/--
A palette that took in the states of another one, with the remap that sends each
id there to the id of the same state here.
-/
structure Unites
    (union palette other : Palette)
    (remap : Remap)
    (newOf : Nat → Nat) :
    Prop where
  wellFormed : union.WellFormed
  states_eq :
    union.states =
      palette.states ++ other.states.filter fun state => !palette.states.any state.same
  keeps : ∀ number state, palette.state number = .ok state → union.state number = .ok state
  locked : remap.locked = true
  applied_eq : remap.applied = []
  registered : ((Remap.make 0).registerEach remap.changes).map Remap.lock = .ok remap
  changes_eq : remap.changes = (List.range other.size).map fun old => (old, newOf old)
  sends : ∀ old < other.size, ∃ was now, other.state (.ofNat old) = .ok was ∧
    union.state (.ofNat (newOf old)) = .ok now ∧ now.same was = true
  injective : ∀ first < other.size, ∀ second < other.size,
    newOf first = newOf second → first = second

/-- An id of the other palette and its id in the union lead to the same state. -/
theorem Resolves.state_getD
    (resolves : palette.Resolves ids other.keys)
    {old : Nat}
    (inside : old < other.size) :
    ∃ was now, other.state (.ofNat old) = .ok was ∧
      palette.state (.ofNat (ids.getD old 0)) = .ok now ∧ now.same was = true := by
  have insideKeys : old < other.keys.length := by rwa [length_keys]
  have insideIds : old < ids.length := by rwa [resolves.length_eq]
  have oldListed := List.getElem?_eq_getElem insideKeys
  have newListed := resolves.at_place (List.getElem?_eq_getElem insideIds)
  rw [oldListed] at newListed
  obtain ⟨was, oldState, wasKey⟩ := state_of_getElem?_keys oldListed
  obtain ⟨now, newState, nowKey⟩ := state_of_getElem?_keys newListed
  refine ⟨was, now, oldState, ?_, ?_⟩
  · rw [List.getD_eq_getElem?_getD, List.getElem?_eq_getElem insideIds, Option.getD_some]
    exact newState
  · rw [BlockState.same, nowKey, wasKey, beq_self_eq_true]

/-- Different keys have different ids. -/
theorem Resolves.nodup
    (resolves : palette.Resolves ids row)
    (distinct : row.Nodup) :
    ids.Nodup := by
  refine List.Nodup.of_map (palette.keys[·]?) ?_
  rw [resolves]
  exact distinct.map fun _ _ => Option.some.inj

namespace WellFormed

/-- States that are all known are found, and nothing changes. -/
theorem insertMany_of_resolves
    (wellFormed : palette.WellFormed)
    {states : List BlockState}
    (resolves : palette.Resolves ids (states.map BlockState.key)) :
    palette.insertMany states = (palette, ids) := by
  induction states generalizing ids with
  | nil =>
      obtain rfl : ids = [] := List.map_eq_nil_iff.1 resolves
      rfl
  | cons state rest inductionHypothesis =>
      cases ids with
      | nil => cases resolves
      | cons id restIds =>
          obtain ⟨listed, restResolves⟩ := List.cons.inj resolves
          obtain ⟨found, inserted, foundListed⟩ :=
            wellFormed.insert_of_mem (List.mem_of_getElem? listed)
          obtain rfl := wellFormed.place_unique foundListed listed
          rw [insertMany, inserted]
          simp only [inductionHypothesis restResolves]

/-- A palette takes nothing from one whose states it has all, and lists their ids. -/
theorem addAll_of_resolves
    (wellFormed : palette.WellFormed)
    (resolves : palette.Resolves ids other.keys) :
    palette.addAll other = (palette, .ofIds ids) := by
  rw [addAll, wellFormed.insertMany_of_resolves resolves]

/-- So it takes nothing from itself. -/
theorem addAll_self (wellFormed : palette.WellFormed) : (palette.addAll palette).1 = palette := by
  have resolves : palette.Resolves (List.range palette.size) palette.keys := by
    exact List.ext_getElem (by simp) fun place _ inside => by simp
  rw [wellFormed.addAll_of_resolves resolves]

/-- Adding a palette makes the union, and adding it once more gives the same again. -/
theorem addAll_unites
    (wellFormed : palette.WellFormed)
    (otherWellFormed : other.WellFormed) :
    ∃ union remap newOf, palette.addAll other = (union, remap) ∧
      union.Unites palette other remap newOf ∧ union.addAll other = (union, remap) := by
  obtain ⟨union, ids, added, unionWellFormed, states_eq, resolves⟩ := wellFormed.addAll_spec other
  rw [BlockState.unseen_of_nodup otherWellFormed.keys_nodup] at states_eq
  have length_eq : ids.length = other.size := by rw [resolves.length_eq, length_keys]
  have distinct := resolves.nodup otherWellFormed.keys_nodup
  refine ⟨union, .ofIds ids, (ids.getD · 0), added, ?_, unionWellFormed.addAll_of_resolves resolves⟩
  exact
    { wellFormed := unionWellFormed
      states_eq := states_eq
      keeps := fun number state found => by
        obtain ⟨place, denoted, listed⟩ := state_eq_ok_iff.1 found
        have inside := (List.getElem?_eq_some_iff.1 listed).1
        refine state_eq_ok_iff.2 ⟨place, denoted, ?_⟩
        rw [states_eq, List.getElem?_append_left inside, listed]
      locked := rfl
      applied_eq := rfl
      registered := Remap.registerEach_ofIds ids
      changes_eq := by rw [Remap.changes_ofIds_by_place, length_eq]
      sends := fun old inside => resolves.state_getD inside
      injective := fun first firstInside second secondInside same => by
        rw [← length_eq] at firstInside secondInside
        simp only [List.getD_eq_getElem?_getD, List.getElem?_eq_getElem, firstInside,
          secondInside, Option.getD_some] at same
        exact distinct.getElem_inj_iff.1 same }

end WellFormed

namespace Unites

variable {remap current : Remap} {newOf : Nat → Nat} {layout : Layout}

/-- Every new id is one of the union. -/
theorem newOf_lt
    (unites : union.Unites palette other remap newOf)
    {old : Nat}
    (inside : old < other.size) :
    newOf old < union.size := by
  obtain ⟨-, now, -, newState, -⟩ := unites.sends old inside
  obtain ⟨place, denoted, listed⟩ := state_eq_ok_iff.1 newState
  obtain rfl : newOf old = place := Option.some.inj ((Number.toNat?_ofNat _).symm.trans denoted)
  rw [← length_states]
  exact (List.getElem?_eq_some_iff.1 listed).1

/-- As long as it has its changes, the remap moves every array of ids of the other palette. -/
theorem apply
    (unites : union.Unites palette other remap newOf)
    (addressable : union.Addressable)
    (isLocked : current.locked = true)
    (sameChanges : current.changes = remap.changes)
    {array : PackedArray layout}
    {bound : Nat}
    {values : List Nat}
    (shows : array.Represents bound values)
    (inside : ∀ value ∈ values, value < other.size) :
    ∃ moved newBound, current.apply array = (moved, .ok ()) ∧
      moved.Represents newBound (values.map newOf) := by
  have changes_eq := sameChanges.trans unites.changes_eq
  have distinct : (current.changes.map Prod.fst).Nodup := by
    rw [changes_eq, List.map_map]
    exact (List.map_id _).symm ▸ List.nodup_range
  have hasChanges : current.changes ≠ [] := by
    rw [changes_eq, Ne, List.map_eq_nil_iff, List.range_eq_nil]
    exact Nat.succ_ne_zero _
  have mapped : ∀ value ∈ values, current.newCell current.table value = .ok (newOf value) := by
    intro value member
    refine Remap.newCell_of_mem distinct ?_
    rw [changes_eq, List.mem_map]
    exact ⟨value, List.mem_range.2 (inside value member), rfl⟩
  have newIds : current.changes.map (·.2) = (List.range other.size).map newOf := by
    rw [changes_eq, List.map_map]
    rfl
  have admissible : current.requestedBound (values.map newOf) ≤ maxCellValue := by
    refine Remap.largest_le fun new member => ?_
    rw [newIds, ← List.map_append] at member
    obtain ⟨old, listed, rfl⟩ := List.mem_map.1 member
    refine addressable.le_maxCellValue (unites.newOf_lt ?_)
    exact (List.mem_append.1 listed).elim List.mem_range.1 (inside old)
  obtain ⟨moved, applied, showsMoved⟩ :=
    Remap.apply_of_mapped shows isLocked hasChanges mapped admissible
  exact ⟨moved, _, applied, showsMoved⟩

/-- Each cell of a moved array leads to the state that it led to before. -/
theorem get_of_moved
    (unites : union.Unites palette other remap newOf)
    {array moved : PackedArray layout}
    (inside : ∀ value ∈ array.values, value < other.size)
    (values_eq : moved.values = array.values.map newOf)
    {index : Number}
    {old : Nat}
    (read : array.get index = .ok old) :
    ∃ new was now, moved.get index = .ok new ∧ other.state (.ofNat old) = .ok was ∧
      union.state (.ofNat new) = .ok now ∧ now.same was = true := by
  obtain ⟨place, denoted, listed⟩ := PackedArray.get_eq_ok_iff.1 read
  obtain ⟨was, now, oldState, newState, same⟩ :=
    unites.sends old (inside old (List.mem_of_getElem? listed))
  refine ⟨newOf old, was, now, ?_, oldState, newState, same⟩
  refine PackedArray.get_eq_ok_iff.2 ⟨place, denoted, ?_⟩
  rw [values_eq, List.getElem?_map, listed, Option.map_some]

end Unites

end Palette

end BlockVolume
