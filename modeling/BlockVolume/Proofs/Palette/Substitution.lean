import BlockVolume.Palette.Basic
import BlockVolume.Proofs.Palette.Protocol

namespace BlockVolume

/-!
# The substitution of a remap

A remap stands for a partial function on ids: the registered new id, or the id
itself below the threshold. It is a function because no old id is registered
twice, whatever calls the remap went through and whether a caller or a palette
made it.
-/

namespace Remap

variable {remap : Remap} {layout : Layout}

/-! ## Remaps that callers can build -/

/-- The remaps that some row of calls leads to, and those that palettes hand out. -/
inductive Reachable : Remap → Prop where
  | make (unchangedBelow : Number) : Reachable (.make unchangedBelow)
  | register
      {remap next : Remap}
      (reachable : Reachable remap)
      {old new : Number}
      (registered : remap.register old new = .ok next) :
      Reachable next
  | lock {remap : Remap} (reachable : Reachable remap) : Reachable remap.lock
  | upgrade
      {remap next : Remap}
      (reachable : Reachable remap)
      {layout : Layout}
      {name : Nat}
      {array left : PackedArray layout}
      (upgraded : remap.upgrade name array = (left, .ok next)) :
      Reachable next
  | addAll (palette other : Palette) : Reachable (palette.addAll other).2
  | removeId
      {palette smaller : Palette}
      {id : Number}
      {remap : Remap}
      (removed : palette.removeId id = .ok (smaller, remap)) :
      Reachable remap
  | removeState
      {palette smaller : Palette}
      {state : BlockState}
      {remap : Remap}
      (removed : palette.removeState state = .ok (smaller, remap)) :
      Reachable remap

/-- A removal registers no id twice. -/
theorem distinct_of_removeId
    {palette smaller : Palette}
    {id : Number}
    (removed : palette.removeId id = .ok (smaller, remap)) :
    (remap.changes.map Prod.fst).Nodup := by
  unfold Palette.removeId at removed
  split at removed
  · cases removed
  · split at removed
    · obtain rfl : (palette.removePlace _ _).2 = remap := congrArg Prod.snd (Except.ok.inj removed)
      unfold Palette.removePlace
      dsimp only
      split
      · exact List.nodup_nil
      · exact distinct_closingGap _ _
    · cases removed
      exact List.nodup_nil
  · cases removed
    exact List.nodup_nil

/-- No old id is registered twice. -/
theorem Reachable.distinct (reachable : remap.Reachable) :
    (remap.changes.map Prod.fst).Nodup := by
  induction reachable with
  | make unchangedBelow => exact List.nodup_nil
  | register _ registered inductionHypothesis =>
      obtain ⟨isOpen, oldId, newId, denotedOld, denotedNew, noConflict⟩ :=
        accepted_of_register_eq_ok registered
      rw [register_of_accepted isOpen denotedOld denotedNew noConflict] at registered
      rw [← Except.ok.inj registered]
      exact nodup_extended inductionHypothesis (oldId, newId)
  | lock _ inductionHypothesis => exact inductionHypothesis
  | upgrade _ upgraded inductionHypothesis =>
      rw [(of_upgrade_eq_ok upgraded).2, changes_recorded]
      exact inductionHypothesis
  | addAll palette other => exact distinct_ofIds _
  | removeId removed => exact distinct_of_removeId removed
  | removeState removed =>
      unfold Palette.removeState at removed
      split at removed
      · exact distinct_of_removeId removed
      · cases removed
        exact List.nodup_nil

/-! ## The new id of an id -/

/-- The registered new id, or the id itself below the threshold. -/
def target? (remap : Remap) (id : Nat) : Option Nat :=
  (remap.registered? id).or
    (if (Number.ofNat id).lt remap.unchangedBelow then some id else none)

/-- A cell is looked up like any other id. -/
theorem newCell_eq_target?
    (distinct : (remap.changes.map Prod.fst).Nodup)
    (id : Nat) :
    remap.newCell remap.table id =
      match remap.target? id with
      | some new => .ok new
      | none => .error (.unmappedId (.ofNat id)) := by
  unfold target?
  cases found : remap.registered? id with
  | some new =>
      rw [newCell_of_mem distinct (mem_of_registered? found)]
      rfl
  | none =>
      rw [newCell_of_not_mem (registered?_eq_none_iff.1 found), Option.none_or]
      split <;> rfl

/-- The bound that is asked for is the largest of the registered ids and the new ones. -/
theorem requestedBound_of_max?
    {new : List Nat}
    {highest : Nat}
    (isLargest : (remap.changes.map Prod.snd ++ new).max? = some highest) :
    remap.requestedBound new = highest := by
  obtain ⟨member, largestOf⟩ := List.max?_eq_some_iff.1 isLargest
  exact Nat.le_antisymm (largest_le largestOf) (le_largest member)

/-! ## Whole arrays -/

/--
A locked remap with changes replaces all values at once, if each has a new id and
the largest id is admissible. Otherwise the array stays as it was, and the cause
is the first value without a new id, if there is one, or else the largest id.
-/
theorem apply_substitutes
    {array : PackedArray layout}
    {bound : Nat}
    {values : List Nat}
    (shows : array.Represents bound values)
    (distinct : (remap.changes.map Prod.fst).Nodup)
    (isLocked : remap.locked = true)
    (hasChanges : remap.changes ≠ []) :
    (∃ new highest, values.map remap.target? = new.map some ∧
      (remap.changes.map Prod.snd ++ new).max? = some highest ∧
      (highest ≤ maxCellValue → ∃ renumbered, remap.apply array = (renumbered, .ok ()) ∧
        renumbered.Represents (max bound highest) new) ∧
      (maxCellValue < highest →
        remap.apply array = (array, .error (.invalidMaxValue (.ofNat highest))))) ∨
    ∃ before value after, values = before ++ value :: after ∧
      (∀ other ∈ before, ∃ new, remap.target? other = some new) ∧
      remap.target? value = none ∧
      remap.apply array = (array, .error (.unmappedId (.ofNat value))) := by
  have mapped : ∀ value, (∃ new, remap.target? value = some new) →
      remap.newCell remap.table value = .ok ((remap.target? value).getD 0) := by
    rintro value ⟨new, found⟩
    rw [newCell_eq_target? distinct, found]
    rfl
  rcases all_or_first_fails (fun value => ∃ new, remap.target? value = some new) values
    with each | ⟨before, value, after, split, early, fails⟩
  · obtain ⟨highest, isLargest⟩ : ∃ highest,
        (remap.changes.map Prod.snd ++ values.map fun value => (remap.target? value).getD 0).max? =
          some highest := by
      rw [← Option.ne_none_iff_exists', Ne, List.max?_eq_none_iff, List.append_eq_nil_iff,
        List.map_eq_nil_iff]
      exact fun noChanges => hasChanges noChanges.1
    have requested := requestedBound_of_max? isLargest
    have eachMapped := fun value member => mapped value (each value member)
    refine .inl ⟨_, highest, ?_, isLargest, fun admissible => ?_, fun tooLarge => ?_⟩
    · rw [List.map_map]
      refine List.map_congr_left fun value member => ?_
      obtain ⟨new, found⟩ := each value member
      rw [Function.comp_apply, found]
      rfl
    · obtain ⟨renumbered, applied, showsRenumbered⟩ :=
        apply_of_mapped shows isLocked hasChanges eachMapped (requested ▸ admissible)
      rw [requested] at showsRenumbered
      exact ⟨renumbered, applied, showsRenumbered⟩
    · rw [apply_of_too_large shows.values_eq isLocked hasChanges eachMapped (requested ▸ tooLarge),
        requested]
  · have missing : remap.target? value = none := by
      rw [← Option.not_isSome_iff_eq_none, Option.isSome_iff_exists]
      exact fails
    refine .inr ⟨before, value, after, split, early, missing, ?_⟩
    refine apply_of_unmapped shows.values_eq isLocked hasChanges split
      (fun other member => mapped other (early other member)) ?_
    rw [newCell_eq_target? distinct, missing]

end Remap

end BlockVolume
