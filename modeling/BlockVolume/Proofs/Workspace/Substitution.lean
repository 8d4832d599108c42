import BlockVolume.Proofs.Palette.Substitution
import BlockVolume.Proofs.Workspace.Remaps

namespace BlockVolume

/-!
# Renumbering as one substitution

A locked remap with changes is applied to an array of either layout that it was
not applied to yet. Each value is replaced by what the remap had for it before
the first write, so that ids may swap; the bound is raised to cover the largest
id first. When an id is missing or too large, nothing at all changes.
-/

namespace Workspace

variable {workspace : Workspace} {id : RemapId} {array : ArrayId}

/--
A locked remap with changes and an array that it was not applied to. Either every
value has a new id, registered or kept below the threshold; then, with the largest
of these and of all registered ids, the array is renumbered at once if that one is
admissible, and otherwise it is refused as an invalid value. Or there is a first
value without a new id, which is named. What is refused changes nothing.
-/
theorem upgrade_substitutes
    (reachable : (workspace.remapAt id).Reachable)
    (isLocked : (workspace.remapAt id).locked = true)
    (hasChanges : (workspace.remapAt id).changes ≠ [])
    (isNew : array.name ∉ (workspace.remapAt id).applied)
    (holds : workspace.HoldsArray array) :
    (∃ new highest,
      (workspace.arrayAt array).values.map (workspace.remapAt id).target? = new.map some ∧
      ((workspace.remapAt id).changes.map Prod.snd ++ new).max? = some highest ∧
      (highest ≤ maxCellValue → ∃ next, (upgrade id array).run.run workspace = (.ok (), next) ∧
        (next.arrayAt array).values = new ∧
        (next.arrayAt array).size = (workspace.arrayAt array).size ∧
        (next.arrayAt array).maxValue = max (workspace.arrayAt array).maxValue highest ∧
        (next.arrayAt array).width =
          bitsNeeded (max (workspace.arrayAt array).maxValue highest)) ∧
      (maxCellValue < highest → ∃ cause, cause.failure.kind = .value ∧
        (upgrade id array).run.run workspace = (.error cause, workspace))) ∨
    ∃ before value after,
      (workspace.arrayAt array).values = before ++ value :: after ∧
      (∀ other ∈ before, ∃ new, (workspace.remapAt id).target? other = some new) ∧
      (workspace.remapAt id).target? value = none ∧
      ∃ cause, cause = .unmappedId (.ofNat value) ∧ cause.failure.kind = .palette ∧
        (upgrade id array).run.run workspace = (.error cause, workspace) := by
  rcases Remap.apply_substitutes holds.represents reachable.distinct isLocked hasChanges with
    ⟨new, highest, targets, isLargest, renumbers, refuses⟩ |
    ⟨before, value, after, split, early, missing, refused⟩
  · refine .inl ⟨new, highest, targets, isLargest, fun admissible => ?_, fun tooLarge => ?_⟩
    · obtain ⟨renumbered, applied, showsRenumbered⟩ := renumbers admissible
      obtain ⟨next, ran, -, found⟩ := run_upgrade_of_apply_eq_ok isNew applied
      obtain rfl := found holds
      have sameLength : new.length = (workspace.arrayAt array).values.length := by
        simpa using (congrArg List.length targets).symm
      refine ⟨next, ran, showsRenumbered.values_eq, ?_, showsRenumbered.maxValue_eq,
        congrArg bitsNeeded showsRenumbered.maxValue_eq⟩
      rw [← showsRenumbered.length_eq, sameLength, PackedArray.length_values]
    · exact ⟨_, rfl, run_upgrade_of_apply_eq_error isNew (refuses tooLarge)⟩
  · exact .inr ⟨before, value, after, split, early, missing, _, rfl, rfl,
      run_upgrade_of_apply_eq_error isNew refused⟩

/-- Two ids swap, one is kept and one moves up, in cells that are beyond their bound at first. -/
theorem upgrade_substitutes_of_swap :
    ∃ (workspace next : Workspace) (id : RemapId) (array : ArrayId),
      (workspace.remapAt id).changes = [(0, 1), (1, 0), (3, 6)] ∧
      (workspace.arrayAt array).values = [0, 1, 2, 3] ∧
      (workspace.arrayAt array).maxValue = 2 ∧
      (upgrade id array).run.run workspace = (.ok (), next) ∧
      (next.arrayAt array).values = [1, 0, 2, 6] ∧ (next.arrayAt array).maxValue = 6 := by
  let remap : Remap :=
    { unchangedBelow := 3, changes := [(0, 1), (1, 0), (3, 6)], locked := true, applied := [] }
  let workspace : Workspace :=
    { initial with
      buffers := #[#[0b11100100]]
      views := #[{ size := 4, maxValue := 2, buffer := ⟨0⟩ }]
      remaps := #[.identity, remap] }
  have first : (Remap.make 3).register 0 1 = .ok { Remap.make 3 with changes := [(0, 1)] } := rfl
  have second :
      Remap.register { Remap.make 3 with changes := [(0, 1)] } 1 0 =
        .ok { Remap.make 3 with changes := [(0, 1), (1, 0)] } := rfl
  have third :
      Remap.register { Remap.make 3 with changes := [(0, 1), (1, 0)] } 3 6 =
        .ok { Remap.make 3 with changes := [(0, 1), (1, 0), (3, 6)] } := rfl
  have reachable : remap.Reachable :=
    ((((Remap.Reachable.make 3).register first).register second).register third).lock
  have values_eq : (workspace.arrayAt (.view ⟨0⟩)).values = [0, 1, 2, 3] := by decide
  have holds : workspace.HoldsArray (.view ⟨0⟩) :=
    { kept := ⟨Nat.zero_lt_one, Nat.zero_lt_one⟩
      stored := ⟨by decide, by decide⟩ }
  have targets : [0, 1, 2, 3].map remap.target? = [1, 0, 2, 6].map some := by decide
  rcases @upgrade_substitutes workspace ⟨1⟩ (.view ⟨0⟩) reachable rfl
      (List.cons_ne_nil _ _) List.not_mem_nil holds with
    ⟨new, highest, found, isLargest, renumbers, -⟩ | ⟨before, value, after, split, -, missing, -⟩
  · rw [values_eq] at found
    obtain rfl : [1, 0, 2, 6] = new :=
      (List.map_inj_right fun _ _ same => Option.some.inj same).1 (targets.symm.trans found)
    obtain rfl : 6 = highest := Option.some.inj isLargest
    obtain ⟨next, ran, newValues, -, newBound, -⟩ := renumbers (by decide)
    exact ⟨workspace, next, ⟨1⟩, .view ⟨0⟩, rfl, values_eq, rfl, ran, newValues, newBound⟩
  · have member : value ∈ [0, 1, 2, 3] := by
      rw [← values_eq, split]
      exact List.mem_append_right _ List.mem_cons_self
    have present : remap.target? value ∈ [1, 0, 2, 6].map some :=
      targets ▸ List.mem_map_of_mem member
    change remap.target? value = none at missing
    rw [missing] at present
    simp at present

end Workspace

end BlockVolume
