import BlockVolume.Proofs.Palette.ClosedGaps
import BlockVolume.Proofs.Workspace.PaletteRuns
import BlockVolume.Proofs.Workspace.RemapRuns

namespace BlockVolume

/-!
# Removals and the arrays that depend on them

A removal takes a state out of a palette and answers with the remap for the
arrays that store ids of that palette. The palette changes at once, an array
only when the remap is applied to it; until then its ids are old ones. After
both, each cell leads to the state that it led to before, and a cell of the
removed state is what keeps the remap from being applied.
-/

namespace Workspace

variable {workspace : Workspace} {paletteId : PaletteId} {array : ArrayId} {remap : Remap}

/-- The states that the cells of an array lead to in a palette. -/
def statesIn
    (workspace : Workspace)
    (paletteId : PaletteId)
    (array : ArrayId) :
    List (Except StorageError BlockState) :=
  (workspace.arrayAt array).values.map fun id => (workspace.paletteAt paletteId).state (.ofNat id)

/-! ## The shared remap -/

theorem remapAt_identityRemap_withRemap
    (shared : workspace.remapAt identityRemap = .identity)
    {id : RemapId}
    (unchanged : id = identityRemap → remap = .identity) :
    (workspace.withRemap id remap).remapAt identityRemap = .identity := by
  by_cases same : id = identityRemap
  · subst same
    rw [unchanged rfl, ← shared, withRemap_self]
  · rw [← shared]
    exact getD_setIfInBounds_of_ne (mt (congrArg RemapId.mk) same) remap .identity

/-- No call changes the shared remap, not even one that is made on it. -/
theorem remapAt_identityRemap_after
    (shared : workspace.remapAt identityRemap = .identity)
    (id : RemapId)
    (call : RemapCall) :
    (workspace.after (call.session id)).remapAt identityRemap = .identity := by
  cases call with
  | register old new =>
      rw [RemapCall.session, after_register]
      refine remapAt_identityRemap_withRemap shared ?_
      rintro rfl
      rw [shared]
      exact Remap.registering_of_locked rfl old new
  | lock =>
      refine remapAt_identityRemap_withRemap shared ?_
      rintro rfl
      change (workspace.remapAt identityRemap).lock = .identity
      rw [shared]
      rfl
  | newId old =>
      rw [after, run_newId]
      exact shared
  | upgrade array =>
      cases upgraded : (workspace.remapAt id).upgrade array.name (workspace.arrayAt array) with
      | mk left outcome =>
          cases outcome with
          | ok next =>
              rw [RemapCall.session, after, run_upgrade_of_ok upgraded]
              refine remapAt_identityRemap_withRemap ?_ ?_
              · rw [remapAt, remaps_withArray]
                exact shared
              · rintro rfl
                rw [(Remap.of_upgrade_eq_ok upgraded).2, shared]
                rfl
          | error cause =>
              rw [RemapCall.session, after, run_upgrade_of_error upgraded]
              exact shared
  | set array index value =>
      rw [RemapCall.session, setValue, after, run_updateArray, remapAt, remaps_withArray]
      exact shared
  | widen array maxValue =>
      rw [RemapCall.session, widen, after, run_updateArray, remapAt, remaps_withArray]
      exact shared

/-- So it is the same after any row of calls. -/
theorem remapAt_identityRemap_afterRemapCalls
    (shared : workspace.remapAt identityRemap = .identity)
    (id : RemapId)
    (calls : List RemapCall) :
    (workspace.afterRemapCalls id calls).remapAt identityRemap = .identity := by
  induction calls generalizing workspace with
  | nil => exact shared
  | cons call rest inductionHypothesis =>
      exact inductionHypothesis (remapAt_identityRemap_after shared id call)

/-! ## Remaps of removals -/

/-- A remap with changes is kept under an id of its own, and one without is the shared one. -/
theorem run_keepRemap
    (shared : remap.changes = [] → workspace.remapAt identityRemap = remap) :
    ∃ remapId next, (keepRemap remap).run.run workspace = (.ok remapId, next) ∧
      next.remapAt remapId = remap ∧ next.palettes = workspace.palettes ∧
      next.SameArrays workspace ∧
      (remap.changes = [] → remapId = identityRemap ∧ next = workspace) := by
  by_cases noChanges : remap.changes = []
  · refine ⟨identityRemap, workspace, ?_, shared noChanges, rfl, ⟨rfl, rfl, rfl⟩,
      fun _ => ⟨rfl, rfl⟩⟩
    rw [keepRemap, noChanges]
    rfl
  · have notEmpty : remap.changes.isEmpty = false := by simpa using noChanges
    refine ⟨⟨workspace.remaps.size⟩, { workspace with remaps := workspace.remaps.push remap }, ?_,
      getD_push_self _ _ _, rfl, ⟨rfl, rfl, rfl⟩, fun none => absurd none noChanges⟩
    rw [keepRemap, notEmpty]
    rfl

/-- The shared remap leaves every array alone. -/
theorem run_upgrade_identityRemap
    (shared : workspace.remapAt identityRemap = .identity)
    (array : ArrayId) :
    (upgrade identityRemap array).run.run workspace = (.ok (), workspace) := by
  have isLocked : (workspace.remapAt identityRemap).locked = true := by
    rw [shared]
    rfl
  have noChanges : (workspace.remapAt identityRemap).changes = [] := by
    rw [shared]
    rfl
  rw [run_upgrade_of_ok (Remap.upgrade_of_no_changes isLocked noChanges array.name _),
    withArray_self, withRemap_self]

/-! ## Removals -/

section Removal

variable {number : Number} {removed : Nat}

/-- A removal puts a palette without the state in place and keeps the remap of the gap. -/
theorem run_paletteRemoveId_of_pos
    (wellFormed : (workspace.paletteAt paletteId).WellFormed)
    (denoted : number.toNat? = some removed)
    (positive : 0 < removed)
    (inside : removed < (workspace.paletteAt paletteId).size) :
    ∃ smaller, smaller.WellFormed ∧
      smaller.states = (workspace.paletteAt paletteId).states.eraseIdx removed ∧
      (paletteRemoveId paletteId number).run.run workspace =
        (keepRemap ((workspace.paletteAt paletteId).gapRemap removed)).run.run
          (workspace.withPalette paletteId smaller) := by
  obtain ⟨smaller, shrinks, smallerWellFormed, smallerStates⟩ :=
    wellFormed.removeId_of_pos positive inside
  rw [← Palette.removeId_of_denoted _ denoted] at shrinks
  refine ⟨smaller, smallerWellFormed, smallerStates, ?_⟩
  rw [paletteRemoveId_eq, run_removeBy_of_ok shrinks]

/--
A removal of a state other than the default one, and the application of its remap
to an array of ids of the palette. The palette keeps the other states in order,
and the remap moves every later id down by one; it is what registering these changes
in order and locking makes. An array without the removed id then leads to the states
that it led to before. An array with it is refused and left alone, unless the id was
the last one; then the remap is the shared one, no array changes, and the id lies
right behind the palette.
-/
theorem removal_keeps_other_blocks
    (kept : paletteId.index < workspace.palettes.size)
    (wellFormed : (workspace.paletteAt paletteId).WellFormed)
    (addressable : (workspace.paletteAt paletteId).Addressable)
    (shared : workspace.remapAt identityRemap = .identity)
    (holds : workspace.HoldsArray array)
    (resolves : ∀ value ∈ (workspace.arrayAt array).values,
      value < (workspace.paletteAt paletteId).size)
    (denoted : number.toNat? = some removed)
    (positive : 0 < removed)
    (inside : removed < (workspace.paletteAt paletteId).size) :
    ∃ remapId shrunk,
      (paletteRemoveId paletteId number).run.run workspace = (.ok remapId, shrunk) ∧
      (shrunk.paletteAt paletteId).WellFormed ∧
      (shrunk.paletteAt paletteId).states =
        (workspace.paletteAt paletteId).states.eraseIdx removed ∧
      shrunk.arrayAt array = workspace.arrayAt array ∧
      (shrunk.remapAt remapId).changes =
        (List.range' (removed + 1) ((workspace.paletteAt paletteId).size - 1 - removed)).map
          (fun old => (old, old - 1)) ∧
      (removed + 1 < (workspace.paletteAt paletteId).size →
        ((Remap.make (.ofNat removed)).registerEach (shrunk.remapAt remapId).changes).map
          Remap.lock = .ok (shrunk.remapAt remapId)) ∧
      (removed ∉ (workspace.arrayAt array).values →
        ∃ next, (upgrade remapId array).run.run shrunk = (.ok (), next) ∧
          next.paletteAt paletteId = shrunk.paletteAt paletteId ∧
          next.statesIn paletteId array = workspace.statesIn paletteId array) ∧
      (removed ∈ (workspace.arrayAt array).values →
        removed + 1 < (workspace.paletteAt paletteId).size →
          ∃ cause, cause.failure.kind = .palette ∧
            (upgrade remapId array).run.run shrunk = (.error cause, shrunk)) ∧
      (removed + 1 = (workspace.paletteAt paletteId).size →
        remapId = identityRemap ∧
          (upgrade remapId array).run.run shrunk = (.ok (), shrunk) ∧
          (shrunk.paletteAt paletteId).size = removed ∧
          ∀ value ∈ (workspace.arrayAt array).values, value ≠ removed →
            (shrunk.paletteAt paletteId).state (.ofNat value) =
              (workspace.paletteAt paletteId).state (.ofNat value)) := by
  obtain ⟨smaller, smallerWellFormed, smallerStates, ran⟩ :=
    run_paletteRemoveId_of_pos wellFormed denoted positive inside
  obtain ⟨remapId, shrunk, keeps, remap_eq, palettes_eq, same, plain⟩ :=
    @run_keepRemap (workspace.withPalette paletteId smaller)
      ((workspace.paletteAt paletteId).gapRemap removed) fun noChanges =>
        shared.trans (Palette.gapRemap_eq_identity_of_changes inside noChanges).symm
  have smaller_eq : shrunk.paletteAt paletteId = smaller := by
    rw [paletteAt, palettes_eq]
    exact paletteAt_withPalette_self kept smaller
  have sameArrays : shrunk.SameArrays workspace :=
    ⟨same.buffers_eq, same.paddedArrays_eq, same.views_eq⟩
  have array_eq := sameArrays.arrayAt_eq array
  have isNew : array.name ∉ (shrunk.remapAt remapId).applied := by
    rw [remap_eq, Palette.applied_gapRemap]
    exact List.not_mem_nil
  have moved : ∀ value ∈ (workspace.arrayAt array).values, value ≠ removed →
      smaller.state (.ofNat (Remap.closed removed value)) =
        (workspace.paletteAt paletteId).state (.ofNat value) :=
    fun value member different =>
      Palette.state_closed smallerStates different (resolves value member)
  refine ⟨remapId, shrunk, ran.trans keeps, smaller_eq ▸ smallerWellFormed,
    smaller_eq ▸ smallerStates, array_eq, ?_, fun notLast => ?_, fun unused => ?_,
    fun used notLast => ?_, fun last => ?_⟩
  · rw [remap_eq, Palette.changes_gapRemap]
  · rw [remap_eq]
    exact Palette.registerEach_gapRemap (Nat.ne_of_lt notLast)
  · obtain ⟨renumbered, _, applied, shows⟩ :=
      Palette.apply_gapRemap holds.represents (fun _ => addressable) inside resolves unused
    rw [← remap_eq, ← array_eq] at applied
    obtain ⟨next, upgraded, nextPalettes_eq, found⟩ := run_upgrade_of_apply_eq_ok isNew applied
    have next_eq : next.paletteAt paletteId = shrunk.paletteAt paletteId := by
      rw [paletteAt, nextPalettes_eq, paletteAt]
    refine ⟨next, upgraded, next_eq, ?_⟩
    rw [statesIn, statesIn, found (sameArrays.holdsArray holds), shows.values_eq, next_eq,
      smaller_eq, List.map_map]
    refine List.map_congr_left fun value member => moved value member ?_
    rintro rfl
    exact unused member
  · have refused := Palette.apply_gapRemap_of_mem notLast resolves used
    rw [← remap_eq, ← array_eq] at refused
    exact ⟨_, rfl, run_upgrade_of_apply_eq_error isNew refused⟩
  · have isIdentity : (workspace.paletteAt paletteId).gapRemap removed = .identity := if_pos last
    obtain ⟨rfl, -⟩ := plain (congrArg Remap.changes isIdentity)
    refine ⟨rfl, run_upgrade_identityRemap (remap_eq.trans isIdentity) array, ?_,
      fun value member different => ?_⟩
    · rw [smaller_eq, Palette.size_of_states_eq_eraseIdx smallerStates inside, ← last]
      exact Nat.add_sub_cancel removed 1
    · have below : value < removed := by
        have := resolves value member
        omega
      rw [smaller_eq, ← moved value member different, Remap.closed, if_pos below]

/-- Stone is removed before dirt, and the cells of dirt follow it down. -/
theorem removal_keeps_other_blocks_of_dirt :
    ∃ (stone dirt : BlockState) (workspace shrunk next : Workspace) (paletteId : PaletteId)
        (array : ArrayId) (remapId : RemapId),
      (workspace.paletteAt paletteId).states = [.air, stone, dirt] ∧
      (workspace.arrayAt array).values = [0, 2, 0, 2] ∧
      (paletteRemoveId paletteId 1).run.run workspace = (.ok remapId, shrunk) ∧
      (shrunk.paletteAt paletteId).states = [.air, dirt] ∧
      (shrunk.remapAt remapId).changes = [(2, 1)] ∧
      (upgrade remapId array).run.run shrunk = (.ok (), next) ∧
      next.statesIn paletteId array = [.ok .air, .ok dirt, .ok .air, .ok dirt] := by
  let stone : BlockState := .bare ⟨"minecraft", "stone", by decide, by decide⟩
  let dirt : BlockState := .bare ⟨"minecraft", "dirt", by decide, by decide⟩
  let palette : Palette := (((Palette.make .air).insert stone).1.insert dirt).1
  let workspace : Workspace :=
    { initial with
      buffers := #[#[0b10001000]]
      views := #[{ size := 4, maxValue := 2, buffer := ⟨0⟩ }]
      palettes := #[palette] }
  have palette_eq : workspace.paletteAt ⟨0⟩ = palette := rfl
  have states_eq : palette.states = [.air, stone, dirt] := by decide
  have size_eq : palette.size = 3 := by
    rw [← Palette.length_states, states_eq]
    rfl
  have values_eq : (workspace.arrayAt (.view ⟨0⟩)).values = [0, 2, 0, 2] := by decide
  have withStone := ((Palette.WellFormed.make .air).extends_insert stone).wellFormed
  have wellFormed : palette.WellFormed := (withStone.extends_insert dirt).wellFormed
  have addressable : palette.Addressable := by
    rw [Palette.Addressable, size_eq]
    decide
  have holds : workspace.HoldsArray (.view ⟨0⟩) :=
    { kept := ⟨Nat.zero_lt_one, Nat.zero_lt_one⟩
      stored := ⟨by decide, by decide⟩ }
  have resolves : ∀ value ∈ (workspace.arrayAt (.view ⟨0⟩)).values, value < palette.size := by
    rw [values_eq, size_eq]
    decide
  have found : ∀ id state, palette.states[id]? = some state →
      palette.state (.ofNat id) = .ok state :=
    fun id state listed => Palette.state_eq_ok_iff.2 ⟨id, Number.toNat?_ofNat id, listed⟩
  have first := found 0 .air (by rw [states_eq]; rfl)
  have last := found 2 dirt (by rw [states_eq]; rfl)
  have inside : 1 < palette.size := by
    rw [size_eq]
    decide
  obtain ⟨remapId, shrunk, ran, -, shrunkStates, -, changes, -, closes, -⟩ :=
    @removal_keeps_other_blocks workspace ⟨0⟩ (.view ⟨0⟩) 1 1 Nat.zero_lt_one wellFormed
      addressable rfl holds resolves rfl Nat.zero_lt_one inside
  obtain ⟨next, upgraded, -, sameStates⟩ := closes (by rw [values_eq]; decide)
  rw [palette_eq, states_eq] at shrunkStates
  rw [palette_eq, size_eq] at changes
  refine ⟨stone, dirt, workspace, shrunk, next, ⟨0⟩, .view ⟨0⟩, remapId, states_eq, values_eq, ran,
    shrunkStates, changes, upgraded, ?_⟩
  rw [sameStates, statesIn, values_eq, palette_eq]
  simp only [List.map_cons, List.map_nil, first, last]

end Removal

end Workspace

end BlockVolume
