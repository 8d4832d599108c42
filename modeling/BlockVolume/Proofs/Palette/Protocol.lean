import Mathlib.Data.List.Induction
import Mathlib.Data.List.Nodup
import BlockVolume.Proofs.Palette.Renumbering
import BlockVolume.Proofs.Storage.AllOrNothing

namespace BlockVolume

/-!
# The protocol of a remap

Changes are registered while a remap is open, and the first one of an old id
stays. The remaps that palettes hand out are made in this way, too. Once a remap is
locked it renumbers arrays, each once; what it refuses it leaves as it was, so that
a refused array is not counted as renumbered.
-/

namespace Remap

variable {remap next : Remap} {layout : Layout} {array left : PackedArray layout}
  {old new : Number} {oldId newId name : Nat} {cause : StorageError}

/-! ## First changes -/

/-- The first change of every old id. -/
def firstChanges (requests : List (Nat × Nat)) : List (Nat × Nat) :=
  requests.eraseDupsBy fun later earlier => later.1 == earlier.1

/-- Changes with one more, unless its old id is registered already. -/
def extended (changes : List (Nat × Nat)) (change : Nat × Nat) : List (Nat × Nat) :=
  if change.1 ∈ changes.map Prod.fst then changes else changes ++ [change]

theorem firstChanges_concat (requests : List (Nat × Nat)) (change : Nat × Nat) :
    firstChanges (requests ++ [change]) = extended (firstChanges requests) change := by
  let sameOld (later earlier : Nat × Nat) : Bool := later.1 == earlier.1
  -- The list is run through with the changes that are kept so far, the last one first.
  have accumulated : ∀ rest kept : List (Nat × Nat),
      List.eraseDupsBy.loop sameOld (rest ++ [change]) kept =
        extended (List.eraseDupsBy.loop sameOld rest kept) change := by
    intro rest
    induction rest with
    | nil =>
        intro kept
        have known : kept.any (sameOld change) = decide (change.1 ∈ kept.map Prod.fst) := by
          rw [Bool.eq_iff_iff, List.any_eq_true, decide_eq_true_iff, List.mem_map]
          exact exists_congr fun earlier => and_congr_right fun _ => by
            rw [beq_iff_eq, eq_comm]
        simp only [List.nil_append, List.eraseDupsBy.loop, known, extended, List.map_reverse,
          List.mem_reverse]
        by_cases member : change.1 ∈ kept.map Prod.fst
        · simp only [member, decide_true, if_true]
        · simp only [member, decide_false, if_false, List.reverse_cons]
    | cons first others inductionHypothesis =>
        intro kept
        simp only [List.cons_append, List.eraseDupsBy.loop]
        split
        · exact inductionHypothesis kept
        · exact inductionHypothesis (first :: kept)
  exact accumulated requests []

theorem nodup_extended
    {changes : List (Nat × Nat)}
    (distinct : (changes.map Prod.fst).Nodup)
    (change : Nat × Nat) :
    ((extended changes change).map Prod.fst).Nodup := by
  unfold extended
  split
  · exact distinct
  · rename_i new
    rw [List.map_append, List.nodup_append]
    refine ⟨distinct, List.nodup_singleton _, ?_⟩
    intro earlier member later isLater same
    rw [List.map_singleton, List.mem_singleton] at isLater
    rw [same, isLater] at member
    exact new member

/-- Of every old id there is one first change. -/
theorem nodup_firstChanges (requests : List (Nat × Nat)) :
    ((firstChanges requests).map Prod.fst).Nodup := by
  induction requests using List.reverseRecOn with
  | nil => exact List.nodup_nil
  | append_singleton earlier last inductionHypothesis =>
      rw [firstChanges_concat]
      exact nodup_extended inductionHypothesis last

/-! ## Registration -/

theorem registered?_eq_none_iff :
    remap.registered? oldId = none ↔ oldId ∉ remap.changes.map Prod.fst := by
  rw [registered?, List.lookup_eq_none_iff, List.mem_map]
  simp only [bne_iff_ne, not_exists, not_and]
  exact forall_congr' fun change => imp_congr_right fun _ => ne_comm

theorem mem_of_registered? (found : remap.registered? oldId = some newId) :
    (oldId, newId) ∈ remap.changes := by
  obtain ⟨before, behind, split, -⟩ := List.lookup_eq_some_iff.1 found
  rw [split]
  exact List.mem_append_right _ List.mem_cons_self

/-- When no old id is registered twice, a registered change is the one that is found. -/
theorem registered?_of_mem
    (distinct : (remap.changes.map Prod.fst).Nodup)
    (member : (oldId, newId) ∈ remap.changes) :
    remap.registered? oldId = some newId := by
  cases found : remap.registered? oldId with
  | none => exact absurd (List.mem_map_of_mem member) (registered?_eq_none_iff.1 found)
  | some known =>
      have same := List.inj_on_of_nodup_map distinct (mem_of_registered? found) member rfl
      rw [(Prod.mk.inj same).2]

theorem checkId_eq_ok_iff : checkId old = .ok oldId ↔ old.toNat? = some oldId := by
  unfold checkId
  cases old.toNat? <;> simp

/-- An open remap accepts two ids, unless the old one has another new id already. -/
theorem register_of_accepted
    (isOpen : remap.locked = false)
    (denotedOld : old.toNat? = some oldId)
    (denotedNew : new.toNat? = some newId)
    (noConflict : ∀ known, remap.registered? oldId = some known → known = newId) :
    remap.register old new =
      .ok { remap with changes := extended remap.changes (oldId, newId) } := by
  have checkedOld := checkId_eq_ok_iff.2 denotedOld
  have checkedNew := checkId_eq_ok_iff.2 denotedNew
  rw [register, if_neg (ne_true_of_eq_false isOpen)]
  refine bind_eq_ok_iff.2 ⟨oldId, checkedOld, bind_eq_ok_iff.2 ⟨newId, checkedNew, ?_⟩⟩
  cases found : remap.registered? oldId with
  | none =>
      simp only [extended, if_neg (registered?_eq_none_iff.1 found)]
      rfl
  | some known =>
      have member := List.mem_map_of_mem (f := Prod.fst) (mem_of_registered? found)
      simp only [extended, if_pos (noConflict known found), if_pos member]
      rfl

/-- It accepts nothing else. -/
theorem accepted_of_register_eq_ok
    (registered : remap.register old new = .ok next) :
    remap.locked = false ∧ ∃ oldId newId, old.toNat? = some oldId ∧ new.toNat? = some newId ∧
      ∀ known, remap.registered? oldId = some known → known = newId := by
  cases isLocked : remap.locked with
  | true =>
      rw [register_locked isLocked] at registered
      cases registered
  | false =>
      simp only [register, isLocked, Bool.false_eq_true, if_false] at registered
      obtain ⟨oldId, checkedOld, registered⟩ := bind_eq_ok_iff.1 registered
      obtain ⟨newId, checkedNew, registered⟩ := bind_eq_ok_iff.1 registered
      refine ⟨rfl, oldId, newId, checkId_eq_ok_iff.1 checkedOld,
        checkId_eq_ok_iff.1 checkedNew, fun known found => ?_⟩
      by_contra conflict
      rw [found] at registered
      simp only [if_neg conflict] at registered
      cases registered

/-- The change that two numbers name, if both are ids. -/
def change? (old new : Number) : Option (Nat × Nat) := do
  let oldId ← old.toNat?
  let newId ← new.toNat?
  return (oldId, newId)

/-- The remap after a registration, also after a refused one. -/
def registering (remap : Remap) (old new : Number) : Remap :=
  match remap.register old new with
  | .ok next => next
  | .error _ => remap

theorem registering_of_locked
    (isLocked : remap.locked = true)
    (old new : Number) :
    remap.registering old new = remap := by
  rw [registering, register_locked isLocked]

/-- An open remap gets at most the change that it is asked for. -/
theorem registering_of_open
    (isOpen : remap.locked = false)
    (old new : Number) :
    remap.registering old new =
      { remap with changes := (change? old new).toList.foldl extended remap.changes } := by
  unfold registering
  cases registered : remap.register old new with
  | ok next =>
      obtain ⟨-, oldId, newId, denotedOld, denotedNew, noConflict⟩ :=
        accepted_of_register_eq_ok registered
      rw [register_of_accepted isOpen denotedOld denotedNew noConflict] at registered
      simp [change?, denotedOld, denotedNew, ← Except.ok.inj registered]
  | error cause =>
      cases denotedOld : old.toNat? with
      | none => simp [change?, denotedOld]
      | some oldId =>
          cases denotedNew : new.toNat? with
          | none => simp [change?, denotedOld, denotedNew]
          | some newId =>
              -- Both are ids, so only a conflict is left, and the old id is known then.
              have known : oldId ∈ remap.changes.map Prod.fst := by
                by_contra isNew
                rw [register_of_accepted isOpen denotedOld denotedNew (by
                  rw [registered?_eq_none_iff.2 isNew]
                  exact nofun)] at registered
                cases registered
              simp [change?, denotedOld, denotedNew, extended, if_pos known]

/-! ## Rows of registrations -/

/-- Registers changes one after another. -/
def registerEach
    (remap : Remap)
    (changes : List (Nat × Nat)) :
    Except StorageError Remap :=
  changes.foldlM (fun remap change => remap.register (.ofNat change.1) (.ofNat change.2)) remap

/-- An open remap takes changes whose old ids are new to it and different from each other. -/
theorem registerEach_of_fresh
    {remap : Remap}
    (isOpen : remap.locked = false)
    {changes : List (Nat × Nat)}
    (distinct : ((remap.changes ++ changes).map Prod.fst).Nodup) :
    remap.registerEach changes =
      .ok { remap with changes := remap.changes ++ changes } := by
  induction changes generalizing remap with
  | nil =>
      rw [List.append_nil]
      rfl
  | cons change rest inductionHypothesis =>
      have isNew : change.1 ∉ remap.changes.map Prod.fst := by
        rw [List.map_append, List.map_cons, List.nodup_append] at distinct
        exact fun known => distinct.2.2 _ known _ List.mem_cons_self rfl
      have unknown := registered?_eq_none_iff.2 isNew
      have accepted :
          remap.register (.ofNat change.1) (.ofNat change.2) =
            .ok { remap with changes := remap.changes ++ [change] } := by
        rw [register_of_accepted isOpen (Number.toNat?_ofNat change.1)
          (Number.toNat?_ofNat change.2) (by rw [unknown]; exact nofun), extended, if_neg isNew]
      rw [List.append_cons] at distinct ⊢
      rw [registerEach, List.foldlM_cons, accepted]
      exact @inductionHypothesis { remap with changes := remap.changes ++ [change] } isOpen distinct

/-- Changes of different old ids that a new remap takes are its changes when it is locked. -/
theorem lock_registerEach_make
    (unchangedBelow : Number)
    {changes : List (Nat × Nat)}
    (distinct : (changes.map Prod.fst).Nodup) :
    ((make unchangedBelow).registerEach changes).map lock =
      .ok { unchangedBelow, changes, locked := true, applied := [] } := by
  have registered := @registerEach_of_fresh (make unchangedBelow) rfl changes distinct
  rw [registered]
  rfl

/-- The remap to given ids is what registering them one after another makes. -/
theorem registerEach_ofIds (ids : List Nat) :
    ((make 0).registerEach (ofIds ids).changes).map lock = .ok (ofIds ids) :=
  lock_registerEach_make 0 (distinct_ofIds ids)

/-- So is the remap of a gap, whose changes are registered in ascending order. -/
theorem registerEach_closingGap (removed size : Nat) :
    ((make (.ofNat removed)).registerEach (closingGap removed size).changes).map lock =
      .ok (closingGap removed size) :=
  lock_registerEach_make (.ofNat removed) (distinct_closingGap removed size)

/-! ## Application -/

/-- The new id of a cell is that of the number. -/
theorem newCell_eq_ok_iff
    (distinct : (remap.changes.map Prod.fst).Nodup) :
    remap.newCell remap.table oldId = .ok newId ↔
      remap.newId (.ofNat oldId) = .ok (.ofNat newId) := by
  have sameNumber : ∀ left right, Number.ofNat left = .ofNat right ↔ left = right := by
    intro left right
    refine ⟨fun same => ?_, congrArg _⟩
    have denoted := congrArg Number.toNat? same
    rw [Number.toNat?_ofNat, Number.toNat?_ofNat] at denoted
    exact Option.some.inj denoted
  rw [Remap.newId, Number.toNat?_ofNat, Option.bind_some]
  by_cases member : oldId ∈ remap.changes.map Prod.fst
  · obtain ⟨⟨_, known⟩, listed, rfl⟩ := List.mem_map.1 member
    rw [newCell_of_mem distinct listed, registered?_of_mem distinct listed]
    simp [sameNumber]
  · rw [newCell_of_not_mem member, registered?_eq_none_iff.2 member]
    cases (Number.ofNat oldId).lt remap.unchangedBelow <;> simp [sameNumber]

/-- The values have these new ids, and an array can hold them and all registered ones. -/
structure Renumbers (remap : Remap) (values : List Nat) (newOf : Nat → Nat) : Prop where
  newId_eq : ∀ value ∈ values, remap.newId (.ofNat value) = .ok (.ofNat (newOf value))
  admissible : ∀ new ∈ remap.changes.map Prod.snd ++ values.map newOf, new ≤ maxCellValue

theorem renumbers_iff
    (distinct : (remap.changes.map Prod.fst).Nodup)
    {values : List Nat}
    {newOf : Nat → Nat} :
    remap.Renumbers values newOf ↔
      (∀ value ∈ values, remap.newCell remap.table value = .ok (newOf value)) ∧
        remap.requestedBound (values.map newOf) ≤ maxCellValue := by
  constructor
  · intro renumbers
    refine ⟨fun value member => ?_, largest_le renumbers.admissible⟩
    exact (newCell_eq_ok_iff distinct).2 (renumbers.newId_eq value member)
  · rintro ⟨mapped, admissible⟩
    refine ⟨fun value member => ?_, fun new member => ?_⟩
    · exact (newCell_eq_ok_iff distinct).1 (mapped value member)
    · exact Nat.le_trans (le_largest member) admissible

/-- When every cell has a new id and all ids are admissible, nothing can go wrong any more. -/
theorem apply_succeeds
    (isLocked : remap.locked = true)
    (hasChanges : remap.changes ≠ [])
    {newOf : Nat → Nat}
    (mapped : ∀ value ∈ array.values, remap.newCell remap.table value = .ok (newOf value))
    (admissible : remap.requestedBound (array.values.map newOf) ≤ maxCellValue) :
    ∃ renumbered, remap.apply array = (renumbered, .ok ()) := by
  obtain ⟨widened, raised, sameSize, reached⟩ :=
    @PackedArray.widen_of_accepted _ array _ _
      (PackedArray.checkMaxValue_of_le (Number.toNat?_ofNat _) admissible)
  obtain ⟨renumbered, wrote⟩ :=
    @PackedArray.setEach_zipIdx_succeeds _ widened (array.values.map newOf) 0
      (by rw [List.length_map, PackedArray.length_values, sameSize, Nat.zero_add])
      (fun value member => Nat.le_trans (le_requestedBound member) reached)
  refine ⟨renumbered, ?_⟩
  have notEmpty : remap.changes.isEmpty = false := by simpa using hasChanges
  rw [requestedBound] at raised
  rw [apply, isLocked, notEmpty, renumber, mapM_eq_ok mapped]
  simp only [if_true, Bool.false_eq_true, if_false, raised]
  exact wrote

/-- An array is renumbered, or it stays as it was and some new id is missing or too large. -/
theorem apply_succeeds_or_refuses
    (isLocked : remap.locked = true)
    (hasChanges : remap.changes ≠ [])
    (array : PackedArray layout) :
    (∃ newOf renumbered,
      (∀ value ∈ array.values, remap.newCell remap.table value = .ok (newOf value)) ∧
      remap.requestedBound (array.values.map newOf) ≤ maxCellValue ∧
      remap.apply array = (renumbered, .ok ())) ∨
    ∃ cause, remap.apply array = (array, .error cause) := by
  obtain ⟨newOf, mapped | ⟨before, value, after, cause, split, early, unmapped⟩⟩ :=
    all_succeed_or_first_fails (remap.newCell remap.table) array.values
  · by_cases admissible : remap.requestedBound (array.values.map newOf) ≤ maxCellValue
    · obtain ⟨renumbered, applied⟩ := apply_succeeds isLocked hasChanges mapped admissible
      exact .inl ⟨newOf, renumbered, mapped, admissible, applied⟩
    · exact .inr ⟨_, apply_of_too_large rfl isLocked hasChanges mapped (Nat.lt_of_not_le admissible)⟩
  · exact .inr ⟨cause, apply_of_unmapped split isLocked hasChanges rfl early unmapped⟩

/-- What a remap refuses it leaves as it was. -/
theorem eq_of_apply_eq_error
    (refused : remap.apply array = (left, .error cause)) :
    left = array := by
  cases isLocked : remap.locked with
  | false =>
      rw [apply, isLocked] at refused
      exact (congrArg Prod.fst refused).symm
  | true =>
      by_cases noChanges : remap.changes = []
      · rw [apply, isLocked, noChanges] at refused
        cases refused
      · obtain ⟨newOf, renumbered, -, -, applied⟩ | ⟨_, unchanged⟩ :=
          apply_succeeds_or_refuses isLocked noChanges array
        · rw [applied] at refused
          cases refused
        · rw [unchanged] at refused
          exact (congrArg Prod.fst refused).symm

/-- An array that is renumbered follows the one before. -/
theorem follows_apply (remap : Remap) (array : PackedArray layout) :
    (remap.apply array).1.Follows array := by
  unfold apply
  split
  · split
    · exact .refl array
    · unfold renumber
      split
      · exact .refl array
      · rename_i newValues mapped
        have raised := PackedArray.Follows.widen array
          (.ofNat (largest (remap.changes.map (·.2) ++ newValues)))
        dsimp only
        split
        · rename_i widened cause refused
          rw [refused] at raised
          exact raised
        · rename_i widened succeeds
          rw [succeeds] at raised
          exact .trans (.setEach widened _) raised
  · exact .refl array

/-! ## Arrays by name -/

/-- A remap that is open renumbers nothing. -/
theorem upgrade_of_open
    (isOpen : remap.locked = false)
    (name : Nat)
    (array : PackedArray layout) :
    remap.upgrade name array = (array, .error .remapUnlocked) := by
  simp [upgrade, apply, isOpen, Except.map]

/-- A remap without changes answers without a look at the array. -/
theorem upgrade_of_no_changes
    (isLocked : remap.locked = true)
    (noChanges : remap.changes = [])
    (name : Nat)
    (array : PackedArray layout) :
    remap.upgrade name array = (array, .ok remap) := by
  simp [upgrade, apply, recorded, isLocked, noChanges, Except.map]

/-- A name that is recorded is refused. -/
theorem upgrade_of_applied
    (isLocked : remap.locked = true)
    (hasChanges : remap.changes ≠ [])
    (known : name ∈ remap.applied)
    (array : PackedArray layout) :
    remap.upgrade name array = (array, .error .remapApplied) := by
  rw [upgrade, if_pos ⟨isLocked, hasChanges, known⟩]

/-- Under any other name the remap is applied, and the name is recorded if that succeeds. -/
theorem upgrade_of_not_applied
    (isNew : name ∉ remap.applied)
    (array : PackedArray layout) :
    remap.upgrade name array =
      ((remap.apply array).1, (remap.apply array).2.map fun _ => remap.recorded name) := by
  rw [upgrade, if_neg fun refused => isNew refused.2.2]

@[simp]
theorem changes_recorded (remap : Remap) (name : Nat) :
    (remap.recorded name).changes = remap.changes := by
  unfold recorded
  split <;> rfl

@[simp]
theorem locked_recorded (remap : Remap) (name : Nat) :
    (remap.recorded name).locked = remap.locked := by
  unfold recorded
  split <;> rfl

/-- A name is recorded by a remap that has changes. -/
theorem mem_applied_recorded_iff
    {other : Nat} :
    other ∈ (remap.recorded name).applied ↔
      other ∈ remap.applied ∨ remap.changes ≠ [] ∧ other = name := by
  unfold recorded
  split
  · rename_i noChanges
    simp [List.isEmpty_iff.1 noChanges]
  · rename_i hasChanges
    rw [List.isEmpty_iff] at hasChanges
    simp [hasChanges, or_comm]

/-- Only a locked remap renumbers, and it records the name. -/
theorem of_upgrade_eq_ok
    (upgraded : remap.upgrade name array = (left, .ok next)) :
    remap.locked = true ∧ next = remap.recorded name := by
  cases isLocked : remap.locked with
  | false =>
      rw [upgrade_of_open isLocked] at upgraded
      cases upgraded
  | true =>
      refine ⟨rfl, ?_⟩
      unfold upgrade at upgraded
      split at upgraded
      · cases upgraded
      · obtain ⟨_, -, same⟩ := map_eq_ok_iff.1 (congrArg Prod.snd upgraded)
        exact same.symm

/-- An array under a name is left alone by what refuses it. -/
theorem eq_of_upgrade_eq_error
    (refused : remap.upgrade name array = (left, .error cause)) :
    left = array := by
  unfold upgrade at refused
  split at refused
  · exact (congrArg Prod.fst refused).symm
  · cases applied : remap.apply array with
    | mk renumbered outcome =>
        rw [applied] at refused
        cases outcome with
        | ok => cases refused
        | error cause =>
            have same : renumbered = left := congrArg Prod.fst refused
            rw [← same]
            exact eq_of_apply_eq_error applied

theorem follows_upgrade (remap : Remap) (name : Nat) (array : PackedArray layout) :
    (remap.upgrade name array).1.Follows array := by
  unfold upgrade
  split
  · exact .refl array
  · exact remap.follows_apply array

end Remap

end BlockVolume
