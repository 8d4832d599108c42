import BlockVolume.Proofs.Palette.Union
import BlockVolume.Proofs.Workspace.PaletteRuns
import BlockVolume.Proofs.Workspace.Remaps

namespace BlockVolume

/-!
# Unions and the arrays that move with them

A palette takes in the states of another one, or of itself, and answers with the
remap for the arrays that store ids of the other one. Such an array is moved when
the remap is applied to it, which may be much later; from then on its ids are
those of the union, and each cell leads to the state that it led to before.
-/

namespace Workspace

variable {workspace : Workspace} {id other : PaletteId} {remapId : RemapId} {array : ArrayId}
  {union : Palette} {remap : Remap}

/-- The workspace after a union: a larger palette, and a remap of its own. -/
def united
    (workspace : Workspace)
    (id : PaletteId)
    (union : Palette)
    (remap : Remap) :
    Workspace :=
  { workspace.withPalette id union with remaps := workspace.remaps.push remap }

theorem run_paletteAddAll
    (added : (workspace.paletteAt id).addAll (workspace.paletteAt other) = (union, remap)) :
    (paletteAddAll id other).run.run workspace =
      (.ok ⟨workspace.remaps.size⟩, workspace.united id union remap) := by
  rw [paletteAddAll, run_bind_of_ok (run_palette workspace id),
    run_bind_of_ok (run_palette workspace other), added]
  rfl

theorem remapAt_united (workspace : Workspace) (id : PaletteId) :
    (workspace.united id union remap).remapAt ⟨workspace.remaps.size⟩ = remap :=
  getD_push_self _ _ _

theorem paletteAt_united_self (kept : id.index < workspace.palettes.size) :
    (workspace.united id union remap).paletteAt id = union :=
  getD_setIfInBounds_self kept union default

theorem paletteAt_united_of_ne (different : other ≠ id) :
    (workspace.united id union remap).paletteAt other = workspace.paletteAt other := by
  have differentIndex : id.index ≠ other.index := mt (congrArg PaletteId.mk) different.symm
  exact getD_setIfInBounds_of_ne differentIndex union default

/-- The palette whose states were taken in is the same afterwards, also if it is the union. -/
theorem paletteAt_united_other
    (kept : id.index < workspace.palettes.size)
    (wellFormed : (workspace.paletteAt id).WellFormed)
    (added : (workspace.paletteAt id).addAll (workspace.paletteAt other) = (union, remap)) :
    (workspace.united id union remap).paletteAt other = workspace.paletteAt other := by
  by_cases same : other = id
  · subst same
    rw [paletteAt_united_self kept, ← wellFormed.addAll_self, added]
  · exact paletteAt_united_of_ne same

/-! ## Unions -/

/--
A palette takes in the states of another one, which may be itself. The other one
stays as it is, and once more changes nothing and makes the same changes. Whenever
the remap is applied to an array of the other palette's ids that it was not
applied to yet, each cell leads to the state here that it led to there.
-/
theorem paletteAddAll_unites
    (kept : id.index < workspace.palettes.size)
    (wellFormed : (workspace.paletteAt id).WellFormed)
    (otherWellFormed : (workspace.paletteAt other).WellFormed) :
    ∃ remapId united newOf,
      (paletteAddAll id other).run.run workspace = (.ok remapId, united) ∧
      (united.paletteAt id).Unites (workspace.paletteAt id) (workspace.paletteAt other)
        (united.remapAt remapId) newOf ∧
      united.paletteAt other = workspace.paletteAt other ∧
      united.SameArrays workspace ∧
      (∃ againId again,
        (paletteAddAll id other).run.run united = (.ok againId, again) ∧
        again.paletteAt id = united.paletteAt id ∧
        again.remapAt againId = united.remapAt remapId) ∧
      ((united.paletteAt id).Addressable → ∀ later array,
        later.paletteAt id = united.paletteAt id →
        (later.remapAt remapId).locked = true →
        (later.remapAt remapId).changes = (united.remapAt remapId).changes →
        array.name ∉ (later.remapAt remapId).applied →
        later.HoldsArray array →
        (∀ value ∈ (later.arrayAt array).values, value < (workspace.paletteAt other).size) →
        ∃ moved, (upgrade remapId array).run.run later = (.ok (), moved) ∧
          moved.paletteAt id = united.paletteAt id ∧
          (moved.arrayAt array).size = (later.arrayAt array).size ∧
          ∀ index old, (later.arrayAt array).get index = .ok old →
            ∃ new was now, (moved.arrayAt array).get index = .ok new ∧
              (workspace.paletteAt other).state (.ofNat old) = .ok was ∧
              (moved.paletteAt id).state (.ofNat new) = .ok now ∧ now.same was = true) := by
  obtain ⟨union, remap, newOf, added, unites, addedAgain⟩ :=
    wellFormed.addAll_unites otherWellFormed
  have union_eq : (workspace.united id union remap).paletteAt id = union :=
    paletteAt_united_self kept
  have other_eq : (workspace.united id union remap).paletteAt other = workspace.paletteAt other :=
    paletteAt_united_other kept wellFormed added
  have remap_eq := @remapAt_united union remap workspace id
  refine ⟨⟨workspace.remaps.size⟩, workspace.united id union remap, newOf,
    run_paletteAddAll added, ?_⟩
  rw [union_eq, remap_eq]
  refine ⟨unites, other_eq, ⟨rfl, rfl, rfl⟩, ?_, ?_⟩
  · rw [← union_eq, ← other_eq] at addedAgain
    refine ⟨_, _, run_paletteAddAll addedAgain, ?_, remapAt_united _ _⟩
    rw [paletteAt_united_self (Nat.lt_of_lt_of_eq kept Array.size_setIfInBounds.symm), union_eq]
  · intro addressable later array sameUnion isLocked sameChanges isNew holds inside
    obtain ⟨left, _, applied, shows⟩ :=
      unites.apply addressable isLocked sameChanges holds.represents inside
    obtain ⟨moved, ran, palettes_eq, found⟩ := run_upgrade_of_apply_eq_ok isNew applied
    have moved_eq : moved.paletteAt id = union := by
      rw [paletteAt, palettes_eq]
      exact sameUnion
    refine ⟨moved, ran, moved_eq, ?_, fun index old read => ?_⟩
    · rw [found holds, ← shows.length_eq, List.length_map, PackedArray.length_values]
    · rw [moved_eq, found holds]
      exact unites.get_of_moved inside shows.values_eq read

/-- Stone and dirt are known in another order and glass is new, so three of four ids move. -/
theorem paletteAddAll_unites_of_glass :
    ∃ (stone dirt glass : BlockState) (workspace united moved : Workspace) (id other : PaletteId)
        (array : ArrayId) (remapId : RemapId),
      (workspace.paletteAt id).states = [.air, stone, dirt] ∧
      (workspace.paletteAt other).states = [.air, dirt, glass, stone] ∧
      (workspace.arrayAt array).values = [0, 1, 2, 3, 2] ∧
      (paletteAddAll id other).run.run workspace = (.ok remapId, united) ∧
      (united.paletteAt id).states = [.air, stone, dirt, glass] ∧
      (united.remapAt remapId).changes = [(0, 0), (1, 2), (2, 3), (3, 1)] ∧
      (upgrade remapId array).run.run united = (.ok (), moved) ∧
      ∃ new now, (moved.arrayAt array).get 2 = .ok new ∧
        (moved.paletteAt id).state (.ofNat new) = .ok now ∧ now.same glass = true := by
  let stone : BlockState := .bare ⟨"minecraft", "stone", by decide, by decide⟩
  let dirt : BlockState := .bare ⟨"minecraft", "dirt", by decide, by decide⟩
  let glass : BlockState := .bare ⟨"minecraft", "glass", by decide, by decide⟩
  let target : Palette := (((Palette.make .air).insert stone).1.insert dirt).1
  let source : Palette := ((((Palette.make .air).insert dirt).1.insert glass).1.insert stone).1
  let workspace : Workspace :=
    { initial with
      buffers := #[#[0b11100100, 0b10]]
      views := #[{ size := 5, maxValue := 3, buffer := ⟨0⟩ }]
      palettes := #[target, source] }
  have target_eq : target.states = [.air, stone, dirt] := by decide
  have source_eq : source.states = [.air, dirt, glass, stone] := by decide
  have values_eq : (workspace.arrayAt (.view ⟨0⟩)).values = [0, 1, 2, 3, 2] := by decide
  have targetWellFormed : target.WellFormed :=
    (((Palette.WellFormed.make .air).extends_insert stone).wellFormed.extends_insert dirt).wellFormed
  have sourceWellFormed : source.WellFormed :=
    ((((Palette.WellFormed.make .air).extends_insert dirt).wellFormed.extends_insert
      glass).wellFormed.extends_insert stone).wellFormed
  obtain ⟨remapId, united, newOf, ran, unites, -, same, -, moves⟩ :=
    @paletteAddAll_unites workspace ⟨0⟩ ⟨1⟩ Nat.zero_lt_two targetWellFormed sourceWellFormed
  have holds : united.HoldsArray (.view ⟨0⟩) :=
    same.holdsArray
      { kept := ⟨Nat.zero_lt_one, Nat.zero_lt_one⟩
        stored := ⟨by decide, by decide⟩ }
  have states_eq : (united.paletteAt ⟨0⟩).states = [.air, stone, dirt, glass] := by
    refine unites.states_eq.trans ?_
    change target.states ++ source.states.filter _ = _
    rw [target_eq, source_eq]
    decide
  have addressable : (united.paletteAt ⟨0⟩).Addressable := by
    rw [Palette.Addressable, ← Palette.length_states, states_eq]
    decide
  have array_eq := same.arrayAt_eq (.view ⟨0⟩)
  have inside : ∀ value ∈ (united.arrayAt (.view ⟨0⟩)).values, value < source.size := by
    rw [array_eq, values_eq, ← Palette.length_states, source_eq]
    decide
  obtain ⟨moved, upgraded, -, -, found⟩ :=
    moves addressable united (.view ⟨0⟩) rfl unites.locked rfl
      (by rw [unites.applied_eq]; exact List.not_mem_nil) holds inside
  have third : (united.arrayAt (.view ⟨0⟩)).get 2 = .ok 2 :=
    PackedArray.get_eq_ok_iff.2 ⟨2, rfl, by rw [array_eq, values_eq]; rfl⟩
  obtain ⟨new, was, now, newFound, wasState, nowState, sameState⟩ := found 2 2 third
  have isGlass : source.state (.ofNat 2) = .ok glass :=
    Palette.state_eq_ok_iff.2 ⟨2, rfl, by rw [source_eq]; rfl⟩
  obtain rfl : was = glass := Except.ok.inj (wasState.symm.trans isGlass)
  have changes_eq : (united.remapAt remapId).changes = [(0, 0), (1, 2), (2, 3), (3, 1)] := by
    have evaluated := @run_paletteAddAll workspace ⟨0⟩ ⟨1⟩ _ _ (Prod.eta _).symm
    have sameRun := ran.symm.trans evaluated
    obtain rfl : remapId = ⟨1⟩ := Except.ok.inj (congrArg Prod.fst sameRun)
    obtain rfl := congrArg Prod.snd sameRun
    decide
  exact ⟨stone, dirt, _, workspace, united, moved, ⟨0⟩, ⟨1⟩, .view ⟨0⟩, remapId, target_eq,
    source_eq, values_eq, ran, states_eq, changes_eq, upgraded, new, now, newFound, nowState,
    sameState⟩

end Workspace

end BlockVolume
