import BlockVolume.Proofs.Palette.Protocol
import BlockVolume.Proofs.Workspace.Arrays

namespace BlockVolume

/-!
# Calls on a remap

A remap is registered to, locked, asked and applied in any order, while the
arrays that it renumbers are written and widened. A call that fails changes
nothing at all, and no call takes a cell from an array.
-/

/-- A call on a remap, or on an array that it may renumber. -/
inductive RemapCall where
  | register (old new : Number)
  | lock
  | newId (old : Number)
  | upgrade (array : ArrayId)
  | set (array : ArrayId) (index value : Number)
  | widen (array : ArrayId) (maxValue : Number)
  deriving DecidableEq

/-- The session of a call. -/
def RemapCall.session (id : RemapId) : RemapCall → Session Unit
  | .register old new => Workspace.register id old new
  | .lock => Workspace.lockRemap id
  | .newId old => do
      let _ ← Workspace.newId id old
  | .upgrade array => Workspace.upgrade id array
  | .set array index value => Workspace.setValue array index value
  | .widen array maxValue => Workspace.widen array maxValue

namespace Workspace

/-- The remap that an id stands for. -/
def remapAt (workspace : Workspace) (id : RemapId) : Remap :=
  workspace.remaps.getD id.index .identity

/-- The workspace with another remap under an id. -/
def withRemap (workspace : Workspace) (id : RemapId) (remap : Remap) : Workspace :=
  { workspace with remaps := workspace.remaps.setIfInBounds id.index remap }

variable {workspace next : Workspace} {id : RemapId} {array : ArrayId} {remap : Remap}
  {cause : StorageError}

/-! ## What a call does -/

theorem run_remap (workspace : Workspace) (id : RemapId) :
    (Workspace.remap id).run.run workspace = (.ok (workspace.remapAt id), workspace) :=
  rfl

theorem withRemap_self (workspace : Workspace) (id : RemapId) :
    workspace.withRemap id (workspace.remapAt id) = workspace := by
  rw [withRemap, remapAt, setIfInBounds_getD_self]

theorem remapAt_withRemap_self
    (kept : id.index < workspace.remaps.size)
    (remap : Remap) :
    (workspace.withRemap id remap).remapAt id = remap :=
  getD_setIfInBounds_self kept remap .identity

theorem run_register (workspace : Workspace) (id : RemapId) (old new : Number) :
    (register id old new).run.run workspace =
      match (workspace.remapAt id).register old new with
      | .ok remap => (.ok (), workspace.withRemap id remap)
      | .error cause => (.error cause, workspace) := by
  rw [register, run_bind_of_ok (run_remap workspace id)]
  cases (workspace.remapAt id).register old new <;> rfl

theorem after_register (workspace : Workspace) (id : RemapId) (old new : Number) :
    workspace.after (register id old new) =
      workspace.withRemap id ((workspace.remapAt id).registering old new) := by
  rw [after, run_register, Remap.registering]
  cases (workspace.remapAt id).register old new with
  | ok remap => rfl
  | error cause => exact (workspace.withRemap_self id).symm

/-- Asking for a new id changes nothing. -/
theorem run_newId (workspace : Workspace) (id : RemapId) (old : Number) :
    ((RemapCall.newId old).session id).run.run workspace =
      (((workspace.remapAt id).newId old).map fun _ => (), workspace) := by
  have asked :
      (newId id old).run.run workspace = ((workspace.remapAt id).newId old, workspace) :=
    rfl
  exact run_ignored asked

theorem run_upgrade_of_ok
    {renumbered : PackedArray array.layout}
    (upgraded :
      (workspace.remapAt id).upgrade array.name (workspace.arrayAt array) =
        (renumbered, .ok remap)) :
    (upgrade id array).run.run workspace =
      (.ok (), (workspace.withArray array renumbered).withRemap id remap) := by
  rw [upgrade, run_bind_of_ok (run_remap workspace id)]
  refine run_bind_of_ok ?_ _
  rw [run_updateArray, upgraded]

/-- An array that is refused is left alone, and so is the remap. -/
theorem run_upgrade_of_error
    {left : PackedArray array.layout}
    (refused :
      (workspace.remapAt id).upgrade array.name (workspace.arrayAt array) =
        (left, .error cause)) :
    (upgrade id array).run.run workspace = (.error cause, workspace) := by
  rw [upgrade, run_bind_of_ok (run_remap workspace id)]
  exact run_bind_of_error
    (run_updateArray_of_error refused (Remap.eq_of_upgrade_eq_error refused)) _

/-- A call that fails changes nothing. -/
theorem eq_of_run_eq_error
    (call : RemapCall)
    (failed : (call.session id).run.run workspace = (.error cause, next)) :
    next = workspace := by
  cases call with
  | register old new =>
      rw [RemapCall.session, run_register] at failed
      split at failed
      · cases failed
      · exact (congrArg Prod.snd failed).symm
  | lock => cases failed
  | newId old =>
      rw [run_newId] at failed
      exact (congrArg Prod.snd failed).symm
  | upgrade array =>
      cases upgraded : (workspace.remapAt id).upgrade array.name (workspace.arrayAt array) with
      | mk left outcome =>
          cases outcome with
          | ok remap =>
              rw [RemapCall.session, run_upgrade_of_ok upgraded] at failed
              cases failed
          | error cause =>
              rw [RemapCall.session, run_upgrade_of_error upgraded] at failed
              exact (congrArg Prod.snd failed).symm
  | set array index value =>
      rw [RemapCall.session, setValue] at failed
      refine eq_of_run_updateArray_eq_error ?_ failed
      intro left cause refused
      cases wrote : (workspace.arrayAt array).set index value with
      | ok written =>
          rw [wrote] at refused
          cases refused
      | error cause =>
          rw [wrote] at refused
          exact (congrArg Prod.fst refused).symm
  | widen array maxValue =>
      rw [RemapCall.session, widen] at failed
      refine eq_of_run_updateArray_eq_error ?_ failed
      intro left cause refused
      exact PackedArray.eq_of_widen_eq_error refused

/-! ## Renumbered arrays -/

theorem sameArrays_withRemap (workspace : Workspace) (id : RemapId) (remap : Remap) :
    (workspace.withRemap id remap).SameArrays workspace :=
  ⟨rfl, rfl, rfl⟩

/-- No call takes a cell from an array. -/
theorem HoldsArray.after
    (holds : workspace.HoldsArray array)
    (id : RemapId)
    (call : RemapCall) :
    (workspace.after (call.session id)).HoldsArray array := by
  cases call with
  | register old new =>
      rw [RemapCall.session, after_register]
      exact (workspace.sameArrays_withRemap id _).holdsArray holds
  | lock => exact (workspace.sameArrays_withRemap id _).holdsArray holds
  | newId old =>
      rw [Workspace.after, run_newId]
      exact holds
  | upgrade target =>
      cases upgraded : (workspace.remapAt id).upgrade target.name (workspace.arrayAt target) with
      | mk renumbered outcome =>
          have follows := (workspace.remapAt id).follows_upgrade target.name (workspace.arrayAt target)
          rw [upgraded] at follows
          cases outcome with
          | ok remap =>
              rw [RemapCall.session, Workspace.after, run_upgrade_of_ok upgraded]
              exact (sameArrays_withRemap _ id remap).holdsArray (holds.withArray follows)
          | error cause =>
              rw [RemapCall.session, Workspace.after, run_upgrade_of_error upgraded]
              exact holds
  | set target index value =>
      rw [RemapCall.session, setValue, Workspace.after, run_updateArray]
      refine holds.withArray ?_
      cases wrote : (workspace.arrayAt target).set index value with
      | ok written => exact .set wrote
      | error cause => exact .refl _
  | widen target maxValue =>
      rw [RemapCall.session, widen, Workspace.after, run_updateArray]
      exact holds.withArray (.widen _ _)

section New

variable {left : PackedArray array.layout}
  (isNew : array.name ∉ (workspace.remapAt id).applied)

include isNew

/-- A new array is kept as the remap renumbers it. -/
theorem run_upgrade_of_apply_eq_ok
    (applied : (workspace.remapAt id).apply (workspace.arrayAt array) = (left, .ok ())) :
    ∃ next, (upgrade id array).run.run workspace = (.ok (), next) ∧
      next.palettes = workspace.palettes ∧
      (workspace.HoldsArray array → next.arrayAt array = left) := by
  have upgraded := Remap.upgrade_of_not_applied isNew (workspace.arrayAt array)
  rw [applied] at upgraded
  refine ⟨_, run_upgrade_of_ok upgraded, workspace.palettes_withArray array left, fun holds => ?_⟩
  rw [(sameArrays_withRemap _ id _).arrayAt_eq, arrayAt_withArray_self holds.kept]

/-- A new array that the remap refuses is left alone with everything else. -/
theorem run_upgrade_of_apply_eq_error
    (refused : (workspace.remapAt id).apply (workspace.arrayAt array) = (left, .error cause)) :
    (upgrade id array).run.run workspace = (.error cause, workspace) := by
  have upgraded := Remap.upgrade_of_not_applied isNew (workspace.arrayAt array)
  rw [refused] at upgraded
  exact run_upgrade_of_error upgraded

end New

/-- A new array is renumbered as soon as all its values have new ids that it can hold. -/
theorem run_upgrade_of_renumbers
    (isLocked : (workspace.remapAt id).locked = true)
    (hasChanges : (workspace.remapAt id).changes ≠ [])
    (distinct : ((workspace.remapAt id).changes.map Prod.fst).Nodup)
    (isNew : array.name ∉ (workspace.remapAt id).applied)
    {newOf : Nat → Nat}
    (renumbers : (workspace.remapAt id).Renumbers (workspace.arrayAt array).values newOf) :
    ∃ next, (upgrade id array).run.run workspace = (.ok (), next) ∧
      (workspace.HoldsArray array →
        (next.arrayAt array).values = (workspace.arrayAt array).values.map newOf) := by
  obtain ⟨mapped, admissible⟩ := (Remap.renumbers_iff distinct).1 renumbers
  obtain ⟨renumbered, applied⟩ := Remap.apply_succeeds isLocked hasChanges mapped admissible
  obtain ⟨next, ran, -, found⟩ := run_upgrade_of_apply_eq_ok isNew applied
  refine ⟨next, ran, fun holds => ?_⟩
  obtain ⟨_, appliedToo, showsRenumbered⟩ :=
    Remap.apply_of_mapped holds.represents isLocked hasChanges mapped admissible
  rw [applied] at appliedToo
  cases appliedToo
  rw [found holds, showsRenumbered.values_eq]

/-- Nothing else is renumbered. -/
theorem renumbers_of_run_upgrade_eq_ok
    (hasChanges : (workspace.remapAt id).changes ≠ [])
    (distinct : ((workspace.remapAt id).changes.map Prod.fst).Nodup)
    (succeeds : (upgrade id array).run.run workspace = (.ok (), next)) :
    ∃ newOf, (workspace.remapAt id).Renumbers (workspace.arrayAt array).values newOf := by
  cases upgraded : (workspace.remapAt id).upgrade array.name (workspace.arrayAt array) with
  | mk renumbered outcome =>
      cases outcome with
      | error cause =>
          rw [run_upgrade_of_error upgraded] at succeeds
          cases succeeds
      | ok remap =>
          have isLocked := (Remap.of_upgrade_eq_ok upgraded).1
          obtain ⟨newOf, _, mapped, admissible, -⟩ | ⟨cause, refused⟩ :=
            Remap.apply_succeeds_or_refuses isLocked hasChanges (workspace.arrayAt array)
          · exact ⟨newOf, (Remap.renumbers_iff distinct).2 ⟨mapped, admissible⟩⟩
          · by_cases known : array.name ∈ (workspace.remapAt id).applied
            · rw [Remap.upgrade_of_applied isLocked hasChanges known] at upgraded
              cases upgraded
            · rw [Remap.upgrade_of_not_applied known, refused] at upgraded
              cases upgraded

end Workspace

end BlockVolume
