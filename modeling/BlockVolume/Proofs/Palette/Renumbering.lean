import BlockVolume.Palette.Remap
import BlockVolume.Proofs.Outcome
import BlockVolume.Proofs.Storage.Operations

namespace BlockVolume

/-!
# Renumbering an array

A remap sends each id to at most one new id. Applied to an array, it either
replaces every value by its new id at once, after raising the bound, or leaves
the array as it was. The two remaps that palettes make are described here too:
one sends `0, 1, 2, …` to given ids, one closes the gap of a removed id.
-/

namespace Remap

variable {remap : Remap} {layout : Layout} {array : PackedArray layout} {bound : Nat}
  {values : List Nat}

/-! ## The new id of a cell -/

/-- Looking up an old id finds its new id, when no old id was registered twice. -/
theorem newCell_of_mem
    (distinct : (remap.changes.map Prod.fst).Nodup)
    {old new : Nat}
    (registered : (old, new) ∈ remap.changes) :
    remap.newCell remap.table old = .ok new := by
  have pairwise : remap.changes.Pairwise fun first second => ¬ compare first.1 second.1 = .eq := by
    rw [List.Nodup, List.pairwise_map] at distinct
    exact distinct.imp fun different same =>
      different (Std.LawfulEqCmp.compare_eq_iff_eq.1 same)
  have found : remap.table[old]? = some new :=
    Std.TreeMap.getElem?_ofList_of_mem (Std.LawfulEqCmp.compare_eq_iff_eq.2 rfl) pairwise registered
  rw [newCell, found]

/-- Any other id is kept below the threshold and refused from there on. -/
theorem newCell_of_not_mem
    {old : Nat}
    (unregistered : old ∉ remap.changes.map Prod.fst) :
    remap.newCell remap.table old =
      if (Number.ofNat old).lt remap.unchangedBelow then
        .ok old
      else
        .error (.unmappedId (.ofNat old)) := by
  have absent : remap.table[old]? = none :=
    Std.TreeMap.getElem?_ofList_of_contains_eq_false (by simpa using unregistered)
  rw [newCell, absent]

/-! ## The largest new id -/

/-- A value of a list is at most the largest. -/
theorem le_largest
    {list : List Nat}
    {value : Nat}
    (member : value ∈ list) :
    value ≤ largest list := by
  have accumulated : ∀ (rest : List Nat) (start : Nat),
      start ≤ rest.foldl max start ∧ ∀ other ∈ rest, other ≤ rest.foldl max start := by
    intro rest
    induction rest with
    | nil => simp
    | cons first others inductionHypothesis =>
        intro start
        obtain ⟨reached, each⟩ := inductionHypothesis (max start first)
        refine ⟨by rw [List.foldl_cons]; omega, ?_⟩
        intro other otherMember
        rw [List.foldl_cons]
        rcases List.mem_cons.1 otherMember with rfl | inOthers
        · omega
        · exact each other inOthers
  exact (accumulated list 0).2 value member

/-- The largest value is one of the list, or zero. -/
theorem largest_mem_or_eq_zero (list : List Nat) : largest list ∈ list ∨ largest list = 0 := by
  have accumulated : ∀ (rest : List Nat) (start : Nat),
      rest.foldl max start ∈ rest ∨ rest.foldl max start = start := by
    intro rest
    induction rest with
    | nil => simp
    | cons first others inductionHypothesis =>
        intro start
        rw [List.foldl_cons]
        rcases inductionHypothesis (max start first) with member | same
        · exact .inl (List.mem_cons_of_mem _ member)
        · rw [same]
          rcases Nat.le_total start first with before | after
          · rw [Nat.max_eq_right before]
            exact .inl List.mem_cons_self
          · rw [Nat.max_eq_left after]
            exact .inr rfl
  exact accumulated list 0

theorem largest_le
    {list : List Nat}
    {limit : Nat}
    (each : ∀ value ∈ list, value ≤ limit) :
    largest list ≤ limit := by
  rcases largest_mem_or_eq_zero list with member | zero
  · exact each _ member
  · rw [zero]
    exact Nat.zero_le limit

/-! ## Whole arrays -/

/-- The bound that a remap asks for when it sends the values of an array to new ones. -/
def requestedBound (remap : Remap) (new : List Nat) : Nat :=
  largest (remap.changes.map (·.2) ++ new)

theorem le_requestedBound
    {new : List Nat}
    {value : Nat}
    (member : value ∈ new) :
    value ≤ remap.requestedBound new :=
  le_largest (List.mem_append_right _ member)

/-- When every value has a new id and all ids are admissible, every value is replaced at once. -/
theorem apply_of_mapped
    (shows : array.Represents bound values)
    (isLocked : remap.locked = true)
    (hasChanges : remap.changes ≠ [])
    {newId : Nat → Nat}
    (mapped : ∀ value ∈ values, remap.newCell remap.table value = .ok (newId value))
    (admissible : remap.requestedBound (values.map newId) ≤ maxCellValue) :
    ∃ renumbered, remap.apply array = (renumbered, .ok ()) ∧
      renumbered.Represents (max bound (remap.requestedBound (values.map newId)))
        (values.map newId) := by
  obtain ⟨widened, raised, showsWidened⟩ :=
    shows.widen_of_le (Number.toNat?_ofNat (remap.requestedBound (values.map newId))) admissible
  obtain ⟨renumbered, wrote, showsRenumbered⟩ :=
    showsWidened.setEach_placed (values.map newId) (by rw [List.length_map])
      (fun value member => Nat.le_trans (le_requestedBound member) (Nat.le_max_right _ _))
  refine ⟨renumbered, ?_, showsRenumbered⟩
  have notEmpty : remap.changes.isEmpty = false := by simpa using hasChanges
  rw [apply, isLocked, notEmpty, renumber, shows.values_eq, mapM_eq_ok mapped]
  rw [requestedBound] at raised
  simp only [if_true, Bool.false_eq_true, if_false, raised, wrote]

/-- The first value without a new id stops a remap before anything changes. -/
theorem apply_of_unmapped
    (sameValues : array.values = values)
    (isLocked : remap.locked = true)
    (hasChanges : remap.changes ≠ [])
    {before after : List Nat}
    {value : Nat}
    (split : values = before ++ value :: after)
    {newId : Nat → Nat}
    (mapped : ∀ other ∈ before, remap.newCell remap.table other = .ok (newId other))
    {cause : StorageError}
    (unmapped : remap.newCell remap.table value = .error cause) :
    remap.apply array = (array, .error cause) := by
  have notEmpty : remap.changes.isEmpty = false := by simpa using hasChanges
  rw [apply, isLocked, notEmpty, renumber, sameValues, split, mapM_eq_error mapped unmapped]
  rfl

/-- A remap that asks for a bound beyond every admissible one changes nothing. -/
theorem apply_of_too_large
    (sameValues : array.values = values)
    (isLocked : remap.locked = true)
    (hasChanges : remap.changes ≠ [])
    {newId : Nat → Nat}
    (mapped : ∀ value ∈ values, remap.newCell remap.table value = .ok (newId value))
    (tooLarge : maxCellValue < remap.requestedBound (values.map newId)) :
    remap.apply array =
      (array, .error (.invalidMaxValue (.ofNat (remap.requestedBound (values.map newId))))) := by
  have refused :
      array.widen (.ofNat (remap.requestedBound (values.map newId))) =
        (array, .error (.invalidMaxValue (.ofNat (remap.requestedBound (values.map newId))))) :=
    PackedArray.widen_of_outside fun wanted denoted => by
      rw [Number.toNat?_ofNat] at denoted
      exact Option.some.inj denoted ▸ tooLarge
  have notEmpty : remap.changes.isEmpty = false := by simpa using hasChanges
  rw [requestedBound] at refused
  rw [apply, isLocked, notEmpty, renumber, sameValues, mapM_eq_ok mapped]
  simp only [if_true, Bool.false_eq_true, if_false, refused, requestedBound]

/-- A remap leaves an array as it was, or one with as many values, all within its bound. -/
theorem apply_cases
    (shows : array.Represents bound values)
    (remap : Remap) :
    (remap.apply array).1 = array ∨
      ∃ newBound newValues, (remap.apply array).1.Represents newBound newValues ∧
        newValues.length = values.length ∧ ∀ value ∈ newValues, value ≤ newBound := by
  cases isLocked : remap.locked with
  | false =>
      left
      rw [apply, isLocked]
      rfl
  | true =>
      by_cases noChanges : remap.changes = []
      · left
        rw [apply, isLocked, noChanges]
        rfl
      · obtain ⟨newId, mapped | ⟨before, value, after, cause, split, early, unmapped⟩⟩ :=
          all_succeed_or_first_fails (remap.newCell remap.table) values
        · by_cases admissible : remap.requestedBound (values.map newId) ≤ maxCellValue
          · right
            obtain ⟨renumbered, applied, showsRenumbered⟩ :=
              apply_of_mapped shows isLocked noChanges mapped admissible
            rw [applied]
            exact ⟨_, _, showsRenumbered, List.length_map _, fun value member =>
              Nat.le_trans (le_requestedBound member) (Nat.le_max_right _ _)⟩
          · left
            rw [apply_of_too_large shows.values_eq isLocked noChanges mapped
              (Nat.lt_of_not_le admissible)]
        · left
          rw [apply_of_unmapped shows.values_eq isLocked noChanges split early unmapped]

/-! ## The remaps of palettes -/

/-- The remap to given ids registers every place in order. -/
theorem places_ofIds (ids : List Nat) :
    (ofIds ids).changes.map Prod.fst = List.range' 0 ids.length := by
  simp [ofIds, List.map_map, Function.comp_def]

/-- So it registers no place twice. -/
theorem distinct_ofIds (ids : List Nat) : ((ofIds ids).changes.map Prod.fst).Nodup := by
  rw [places_ofIds]
  exact List.nodup_range'

/-- It sends each place to the id there. -/
theorem newCell_ofIds
    {ids : List Nat}
    {place : Nat}
    (inside : place < ids.length) :
    (ofIds ids).newCell (ofIds ids).table place = .ok (ids.getD place 0) := by
  rw [List.getD_eq_getElem?_getD, List.getElem?_eq_getElem inside, Option.getD_some]
  refine newCell_of_mem (distinct_ofIds ids) ?_
  simp only [ofIds, List.mem_map, Prod.mk.injEq, Prod.exists]
  exact ⟨ids[place], place, List.mem_zipIdx_iff_getElem?.2 (List.getElem?_eq_getElem inside),
    rfl, rfl⟩

/-- It refuses every other value. -/
theorem newCell_ofIds_of_le
    {ids : List Nat}
    {place : Nat}
    (outside : ids.length ≤ place) :
    (ofIds ids).newCell (ofIds ids).table place = .error (.unmappedId (.ofNat place)) := by
  rw [newCell_of_not_mem (by rw [places_ofIds, List.mem_range'_1]; omega)]
  exact if_neg (by simp [ofIds, show (0 : Number) = .ofNat 0 from rfl])

/-- Its new ids are the given ones. -/
theorem changes_ofIds (ids : List Nat) : (ofIds ids).changes.map (·.2) = ids := by
  simp [ofIds, List.map_map, Function.comp_def]

theorem changes_ofIds_ne_nil
    {ids : List Nat}
    (nonempty : ids ≠ []) :
    (ofIds ids).changes ≠ [] := by
  intro noChanges
  have noIds := changes_ofIds ids
  rw [noChanges] at noIds
  exact nonempty noIds.symm

/-- It asks for the largest of the given ids. -/
theorem requestedBound_ofIds
    {ids new : List Nat}
    (fromIds : ∀ id ∈ new, id ∈ ids) :
    (ofIds ids).requestedBound new = largest ids := by
  rw [requestedBound, changes_ofIds]
  apply Nat.le_antisymm
  · refine largest_le fun id member => ?_
    rcases List.mem_append.1 member with given | isNew
    · exact le_largest given
    · exact le_largest (fromIds id isNew)
  · exact largest_le fun id member => le_largest (List.mem_append_left _ member)

/-- Renumbering by given ids puts for every value the id of its place. -/
theorem apply_ofIds
    (shows : array.Represents bound values)
    {ids : List Nat}
    (nonempty : ids ≠ [])
    (inside : ∀ value ∈ values, value < ids.length)
    (admissible : ∀ id ∈ ids, id ≤ maxCellValue) :
    ∃ renumbered, (ofIds ids).apply array = (renumbered, .ok ()) ∧
      renumbered.Represents (max bound (largest ids)) (values.map (ids.getD · 0)) ∧
      ∀ id ∈ values.map (ids.getD · 0), id ≤ max bound (largest ids) := by
  have fromIds : ∀ id ∈ values.map (ids.getD · 0), id ∈ ids := by
    intro id member
    obtain ⟨value, old, rfl⟩ := List.mem_map.1 member
    have := inside value old
    simp [this]
  have requested := requestedBound_ofIds fromIds
  obtain ⟨renumbered, applied, showsRenumbered⟩ :=
    apply_of_mapped shows rfl (changes_ofIds_ne_nil nonempty)
      (fun value member => newCell_ofIds (inside value member))
      (by rw [requested]; exact largest_le admissible)
  rw [requested] at showsRenumbered
  exact ⟨renumbered, applied, showsRenumbered, fun id member =>
    Nat.le_trans (le_largest (fromIds id member)) (Nat.le_max_right _ _)⟩

/-- The first value without an id of its place stops the renumbering. -/
theorem apply_ofIds_of_le
    (shows : array.Represents bound values)
    {ids : List Nat}
    (nonempty : ids ≠ [])
    {before after : List Nat}
    {value : Nat}
    (split : values = before ++ value :: after)
    (early : ∀ other ∈ before, other < ids.length)
    (outside : ids.length ≤ value) :
    (ofIds ids).apply array = (array, .error (.unmappedId (.ofNat value))) :=
  apply_of_unmapped shows.values_eq rfl (changes_ofIds_ne_nil nonempty) split
    (fun other member => newCell_ofIds (early other member)) (newCell_ofIds_of_le outside)

/-- An id after the gap of a removed one was closed. -/
def closed (removed id : Nat) : Nat :=
  if id < removed then id else id - 1

/-- A closed gap holds no id. -/
theorem closed_lt
    {removed size id : Nat}
    (inside : removed < size)
    (within : id ≤ size) :
    closed removed id < size := by
  unfold closed
  split <;> omega

/-- The remap of a gap registers every id behind it in ascending order, each with the one before. -/
theorem changes_closingGap (removed size : Nat) :
    (closingGap removed size).changes =
      (List.range' (removed + 1) (size - removed)).map fun old => (old, old - 1) := by
  rw [List.range'_succ_left, List.map_map, closingGap]
  exact List.map_congr_left fun new _ => rfl

theorem olds_closingGap (removed size : Nat) :
    (closingGap removed size).changes.map Prod.fst =
      List.range' (removed + 1) (size - removed) := by
  rw [changes_closingGap, List.map_map]
  exact List.map_id _

theorem distinct_closingGap (removed size : Nat) :
    ((closingGap removed size).changes.map Prod.fst).Nodup := by
  rw [olds_closingGap]
  exact List.nodup_range'

/-- The remap of a gap moves the ids above it down by one and keeps those below it. -/
theorem newCell_closingGap
    {removed size id : Nat}
    (different : id ≠ removed)
    (inside : id ≤ size) :
    (closingGap removed size).newCell (closingGap removed size).table id =
      .ok (closed removed id) := by
  unfold closed
  by_cases below : id < removed
  · rw [newCell_of_not_mem, if_pos below]
    · exact if_pos (by simp [closingGap, below])
    · rw [olds_closingGap, List.mem_range'_1]
      omega
  · rw [if_neg below]
    refine newCell_of_mem (distinct_closingGap removed size) ?_
    rw [changes_closingGap, List.mem_map]
    exact ⟨id, List.mem_range'_1.2 (by omega), rfl⟩

/-- The removed id itself has no new id. -/
theorem newCell_closingGap_self (removed size : Nat) :
    (closingGap removed size).newCell (closingGap removed size).table removed =
      .error (.unmappedId (.ofNat removed)) := by
  rw [newCell_of_not_mem]
  · exact if_neg (by simp [closingGap])
  · rw [olds_closingGap, List.mem_range'_1]
    omega

/-- It asks for no more than the highest id that is left. -/
theorem requestedBound_closingGap_le
    {removed size : Nat}
    {new : List Nat}
    (newWithin : ∀ id ∈ new, id < size) :
    (closingGap removed size).requestedBound new ≤ size - 1 := by
  apply largest_le
  intro id member
  rcases List.mem_append.1 member with registered | isNew
  · simp only [closingGap, List.map_map, List.mem_map, Function.comp_apply] at registered
    obtain ⟨other, inRange, rfl⟩ := registered
    have := List.mem_range'_1.1 inRange
    omega
  · have := newWithin id isNew
    omega

/-- Closing the gap of an id that an array does not hold moves the later ids down by one. -/
theorem apply_closingGap
    (shows : array.Represents bound values)
    {removed size : Nat}
    (inside : removed < size)
    (admissible : size ≤ maxCellValue + 1)
    (unused : removed ∉ values)
    (within : ∀ value ∈ values, value ≤ size) :
    ∃ renumbered newBound, (closingGap removed size).apply array = (renumbered, .ok ()) ∧
      renumbered.Represents newBound (values.map (closed removed)) := by
  have different : ∀ value ∈ values, value ≠ removed := by
    rintro value member rfl
    exact unused member
  have hasChanges : (closingGap removed size).changes ≠ [] := by
    simp [closingGap]
    omega
  have newWithin : ∀ id ∈ values.map (closed removed), id < size := by
    intro id member
    obtain ⟨value, old, rfl⟩ := List.mem_map.1 member
    exact closed_lt inside (within value old)
  have requested :
      (closingGap removed size).requestedBound (values.map (closed removed)) ≤ size - 1 :=
    requestedBound_closingGap_le newWithin
  obtain ⟨renumbered, applied, showsRenumbered⟩ :=
    apply_of_mapped shows rfl hasChanges
      (fun value member => newCell_closingGap (different value member) (within value member))
      (by omega)
  exact ⟨renumbered, _, applied, showsRenumbered⟩

end Remap

end BlockVolume
