import BlockVolume.Proofs.Palette.Agreement
import BlockVolume.Proofs.Workspace.Sessions

namespace BlockVolume

/-!
# Runs of calls on palettes

Palettes are made, grow, shrink and are added to each other in any order, also
to themselves. A call replaces one palette by one that follows it: the default
state stays what it was, and list and table still agree. So they agree in every
palette that a run leads to.
-/

namespace Palette

/-- What every change of a palette keeps. -/
structure Follows (later earlier : Palette) : Prop where
  defaultState_eq : later.defaultState = earlier.defaultState
  wellFormed : earlier.WellFormed → later.WellFormed

namespace Follows

variable {palette smaller : Palette} {number : Number} {state : BlockState} {remap : Remap}

theorem refl (palette : Palette) : palette.Follows palette where
  defaultState_eq := rfl
  wellFormed := id

theorem insert (palette : Palette) (state : BlockState) :
    (palette.insert state).1.Follows palette where
  defaultState_eq := palette.defaultState_insert state
  wellFormed wellFormed := (wellFormed.extends_insert state).wellFormed

theorem addAll (palette other : Palette) : (palette.addAll other).1.Follows palette where
  defaultState_eq := palette.defaultState_addAll other
  wellFormed wellFormed := (wellFormed.extends_addAll other).wellFormed

theorem removeId (removed : palette.removeId number = .ok (smaller, remap)) :
    smaller.Follows palette where
  defaultState_eq := defaultState_of_removeId removed
  wellFormed wellFormed := wellFormed.removeId removed

theorem removeState (removed : palette.removeState state = .ok (smaller, remap)) :
    smaller.Follows palette where
  defaultState_eq := defaultState_of_removeState removed
  wellFormed wellFormed := wellFormed.removeState removed

end Follows

end Palette

/-- A call on the palettes of a workspace. -/
inductive PaletteCall where
  | make (defaultState : BlockState)
  | insert (id : PaletteId) (state : BlockState)
  | removeId (id : PaletteId) (number : Number)
  | removeState (id : PaletteId) (state : BlockState)
  | addAll (id other : PaletteId)

/-- The default state of the palette that a call makes, if it makes one. -/
def PaletteCall.made? : PaletteCall → Option BlockState
  | .make defaultState => some defaultState
  | _ => none

namespace Workspace

variable {workspace : Workspace} {id : PaletteId} {number : Number} {state : BlockState}

/-- The workspace after a call, also when the call fails. -/
def afterPaletteCall (workspace : Workspace) : PaletteCall → Workspace
  | .make defaultState => workspace.after (addPalette (.make defaultState))
  | .insert id state => workspace.after (paletteInsert id state)
  | .removeId id number => workspace.after (paletteRemoveId id number)
  | .removeState id state => workspace.after (paletteRemoveState id state)
  | .addAll id other => workspace.after (paletteAddAll id other)

/-- The workspace after a row of calls. -/
def afterPaletteCalls (workspace : Workspace) (calls : List PaletteCall) : Workspace :=
  calls.foldl afterPaletteCall workspace

/-- The workspace with another palette under an id. -/
def withPalette (workspace : Workspace) (id : PaletteId) (palette : Palette) : Workspace :=
  { workspace with palettes := workspace.palettes.setIfInBounds id.index palette }

theorem withPalette_self (workspace : Workspace) (id : PaletteId) :
    workspace.withPalette id (workspace.paletteAt id) = workspace := by
  rw [withPalette, paletteAt, setIfInBounds_getD_self]

theorem paletteAt_withPalette_self
    (kept : id.index < workspace.palettes.size)
    (palette : Palette) :
    (workspace.withPalette id palette).paletteAt id = palette :=
  getD_setIfInBounds_self kept palette default

/-! ## Removals -/

/-- A removal, by a rule that picks the state. -/
def removeBy
    (id : PaletteId)
    (rule : Palette → Except StorageError (Palette × Remap)) :
    Session RemapId := do
  let (smaller, remap) ← lift (rule (← palette id))
  setPalette id smaller
  keepRemap remap

theorem paletteRemoveId_eq (id : PaletteId) (number : Number) :
    paletteRemoveId id number = removeBy id (·.removeId number) :=
  rfl

theorem paletteRemoveState_eq (id : PaletteId) (state : BlockState) :
    paletteRemoveState id state = removeBy id (·.removeState state) :=
  rfl

section RemoveBy

variable {rule : Palette → Except StorageError (Palette × Remap)}

/-- A removal that is refused changes nothing. -/
theorem run_removeBy_of_error
    {cause : StorageError}
    (refused : rule (workspace.paletteAt id) = .error cause) :
    (removeBy id rule).run.run workspace = (.error cause, workspace) := by
  rw [removeBy, run_bind_of_ok (run_palette workspace id), refused]
  rfl

theorem run_removeBy_of_ok
    {smaller : Palette}
    {remap : Remap}
    (removed : rule (workspace.paletteAt id) = .ok (smaller, remap)) :
    (removeBy id rule).run.run workspace =
      (keepRemap remap).run.run (workspace.withPalette id smaller) := by
  rw [removeBy, run_bind_of_ok (run_palette workspace id), removed]
  rfl

/-- A removal of nothing answers with the shared remap and changes nothing. -/
theorem run_removeBy_of_nothing
    (nothing : rule (workspace.paletteAt id) = .ok (workspace.paletteAt id, .identity)) :
    (removeBy id rule).run.run workspace = (.ok identityRemap, workspace) := by
  rw [run_removeBy_of_ok nothing, withPalette_self]
  rfl

/-- A removal puts a palette that follows in the place of the old one. -/
theorem palettes_after_removeBy
    (follows : ∀ smaller remap, rule (workspace.paletteAt id) = .ok (smaller, remap) →
      smaller.Follows (workspace.paletteAt id)) :
    ∃ later, later.Follows (workspace.paletteAt id) ∧
      (workspace.after (removeBy id rule)).palettes = (workspace.withPalette id later).palettes := by
  cases result : rule (workspace.paletteAt id) with
  | error cause =>
      refine ⟨_, .refl _, ?_⟩
      rw [after, run_removeBy_of_error result, withPalette_self]
  | ok outcome =>
      obtain ⟨smaller, remap⟩ := outcome
      refine ⟨smaller, follows smaller remap result, ?_⟩
      rw [after, run_removeBy_of_ok result, keepRemap]
      split <;> rfl

end RemoveBy

/-! ## Runs -/

/-- A call makes a palette, or it replaces one palette by one that follows it. -/
theorem palettes_afterPaletteCall (workspace : Workspace) (call : PaletteCall) :
    (∃ defaultState, call.made? = some defaultState ∧
      (workspace.afterPaletteCall call).palettes =
        workspace.palettes.push (.make defaultState)) ∨
    (call.made? = none ∧ ∃ id later, later.Follows (workspace.paletteAt id) ∧
      (workspace.afterPaletteCall call).palettes = (workspace.withPalette id later).palettes) := by
  cases call with
  | make defaultState => exact .inl ⟨defaultState, rfl, rfl⟩
  | insert id state => exact .inr ⟨rfl, id, _, .insert (workspace.paletteAt id) state, rfl⟩
  | addAll id other =>
      exact .inr ⟨rfl, id, _, .addAll (workspace.paletteAt id) (workspace.paletteAt other), rfl⟩
  | removeId id number =>
      exact .inr ⟨rfl, id, palettes_after_removeBy fun _ _ => .removeId⟩
  | removeState id state =>
      exact .inr ⟨rfl, id, palettes_after_removeBy fun _ _ => .removeState⟩

/-- List and table agree in every palette, and the default states are those of a list. -/
structure KeepsPalettes (workspace : Workspace) (defaultStates : List BlockState) : Prop where
  wellFormed : ∀ palette ∈ workspace.palettes, palette.WellFormed
  defaultStates_eq : workspace.palettes.toList.map Palette.defaultState = defaultStates

namespace KeepsPalettes

variable {defaultStates : List BlockState}

theorem initial : KeepsPalettes Workspace.initial [] where
  wellFormed _ member := absurd member (Array.not_mem_empty _)
  defaultStates_eq := rfl

theorem paletteAt
    (keeps : workspace.KeepsPalettes defaultStates)
    (id : PaletteId) :
    (workspace.paletteAt id).WellFormed := by
  rw [Workspace.paletteAt, Array.getD_eq_getD_getElem?]
  cases found : workspace.palettes[id.index]? with
  | none => exact .make .air
  | some palette => exact keeps.wellFormed palette (Array.mem_of_getElem? found)

theorem defaultState_paletteAt
    (keeps : workspace.KeepsPalettes defaultStates)
    (made : defaultStates[id.index]? = some state) :
    (workspace.paletteAt id).defaultState = state := by
  rw [← keeps.defaultStates_eq, List.getElem?_map, Option.map_eq_some_iff] at made
  obtain ⟨palette, found, sameState⟩ := made
  rw [Array.getElem?_toList] at found
  rw [Workspace.paletteAt, Array.getD_eq_getD_getElem?, found]
  exact sameState

/-- A palette is made behind the others. -/
theorem push
    {next : Workspace}
    (keeps : workspace.KeepsPalettes defaultStates)
    (palettes_eq : next.palettes = workspace.palettes.push (.make state)) :
    next.KeepsPalettes (defaultStates ++ [state]) where
  wellFormed palette member := by
    rw [palettes_eq, Array.mem_push] at member
    obtain old | rfl := member
    · exact keeps.wellFormed palette old
    · exact .make state
  defaultStates_eq := by
    rw [palettes_eq, Array.toList_push, List.map_append, keeps.defaultStates_eq]
    rfl

/-- A palette takes the place of one that it follows. -/
theorem withPalette
    {next : Workspace}
    {later : Palette}
    (keeps : workspace.KeepsPalettes defaultStates)
    (follows : later.Follows (workspace.paletteAt id))
    (palettes_eq : next.palettes = (workspace.withPalette id later).palettes) :
    next.KeepsPalettes defaultStates where
  wellFormed palette member := by
    rw [palettes_eq, Workspace.withPalette] at member
    obtain old | rfl := Array.mem_or_eq_of_mem_setIfInBounds member
    · exact keeps.wellFormed palette old
    · exact follows.wellFormed (keeps.paletteAt id)
  defaultStates_eq := by
    have sameState :
        later.defaultState =
          (workspace.palettes.map Palette.defaultState).getD id.index
            (default : Palette).defaultState := by
      rw [follows.defaultState_eq, Workspace.paletteAt, Array.getD_eq_getD_getElem?,
        Array.getD_eq_getD_getElem?, Array.getElem?_map, Option.getD_map]
    have sameStates :
        (workspace.palettes.setIfInBounds id.index later).map Palette.defaultState =
          workspace.palettes.map Palette.defaultState := by
      rw [Array.map_setIfInBounds, sameState, setIfInBounds_getD_self]
    rw [palettes_eq, ← keeps.defaultStates_eq, Workspace.withPalette, ← Array.toList_map,
      ← Array.toList_map, sameStates]

/-- A call may make a palette, and keeps the others. -/
theorem afterPaletteCall
    (keeps : workspace.KeepsPalettes defaultStates)
    (call : PaletteCall) :
    (workspace.afterPaletteCall call).KeepsPalettes (defaultStates ++ call.made?.toList) := by
  obtain ⟨defaultState, made, palettes_eq⟩ | ⟨notMade, id, later, follows, palettes_eq⟩ :=
    palettes_afterPaletteCall workspace call
  · rw [made]
    exact keeps.push palettes_eq
  · rw [notMade, Option.toList_none, List.append_nil]
    exact keeps.withPalette follows palettes_eq

/-- So does a row of calls. -/
theorem afterPaletteCalls
    (keeps : workspace.KeepsPalettes defaultStates)
    (calls : List PaletteCall) :
    (workspace.afterPaletteCalls calls).KeepsPalettes
      (defaultStates ++ calls.filterMap PaletteCall.made?) := by
  induction calls generalizing workspace defaultStates with
  | nil => simpa [Workspace.afterPaletteCalls] using keeps
  | cons call rest inductionHypothesis =>
      have later := inductionHypothesis (keeps.afterPaletteCall call)
      have sameStates :
          call.made?.toList ++ rest.filterMap PaletteCall.made? =
            (call :: rest).filterMap PaletteCall.made? := by
        cases made : call.made? <;> simp [made]
      rw [List.append_assoc, sameStates] at later
      exact later

end KeepsPalettes

/--
After any row of calls, ids and states of a palette belong to each other: every
id below the size leads to a state whose id it is, a state has the id that leads
to its like, and no id exactly when nothing leads to its like. Id `0` is that of
the default state that the palette was made with, and a removal of it is
refused. A removal of what is not there finds nothing. Neither changes anything.
-/
theorem ids_and_states_agree
    (calls : List PaletteCall)
    (id : PaletteId)
    (defaultState : BlockState)
    (made : (calls.filterMap PaletteCall.made?)[id.index]? = some defaultState) :
    ∃ workspace palette,
      initial.afterPaletteCalls calls = workspace ∧ workspace.paletteAt id = palette ∧
      palette.keys.Nodup ∧
      (∀ number < palette.size, ∃ found,
        palette.state (.ofNat number) = .ok found ∧ palette.id? found = some number) ∧
      (∀ state number, palette.id? state = some number ↔
        ∃ found, palette.state (.ofNat number) = .ok found ∧ found.same state = true) ∧
      (∀ state, palette.id? state = none ↔
        ∀ number found, palette.state number = .ok found → found.same state = false) ∧
      palette.state 0 = .ok defaultState ∧
      (∃ cause, cause.failure.kind = .palette ∧
        (∀ number, number.toNat? = some 0 →
          (paletteRemoveId id number).run.run workspace = (.error cause, workspace)) ∧
        ∀ state, defaultState.same state = true →
          (paletteRemoveState id state).run.run workspace = (.error cause, workspace)) ∧
      (∀ number, (∀ found, palette.state number ≠ .ok found) →
        (paletteRemoveId id number).run.run workspace = (.ok identityRemap, workspace)) ∧
      ∀ state, palette.id? state = none →
        (paletteRemoveState id state).run.run workspace = (.ok identityRemap, workspace) := by
  have keeps := KeepsPalettes.initial.afterPaletteCalls calls
  have wellFormed := keeps.paletteAt id
  have sameDefault := keeps.defaultState_paletteAt made
  refine ⟨_, _, rfl, rfl, wellFormed.keys_nodup, ?_, ?_, ?_, ?_, ?_, ?_, ?_⟩
  · intro number inside
    exact wellFormed.id?_of_lt inside
  · intro state number
    exact wellFormed.id?_eq_some_iff_same
  · intro state
    exact wellFormed.id?_eq_none_iff_same
  · rw [Palette.state_zero, sameDefault]
  · refine ⟨.defaultStateRemoved defaultState, rfl, ?_, ?_⟩
    · intro number denoted
      rw [paletteRemoveId_eq]
      apply run_removeBy_of_error
      rw [Palette.removeId_of_zero _ denoted, sameDefault]
    · intro state same
      rw [paletteRemoveState_eq]
      apply run_removeBy_of_error
      rw [wellFormed.removeState_of_default (by rwa [sameDefault]), sameDefault]
  · intro number noState
    rw [paletteRemoveId_eq]
    exact run_removeBy_of_nothing (Palette.removeId_of_unknown noState)
  · intro state unknown
    rw [paletteRemoveState_eq]
    exact run_removeBy_of_nothing (Palette.removeState_of_unknown unknown)

/-- A palette of air takes in stone and itself and loses stone: air has id `0` still, for good. -/
theorem ids_and_states_agree_of_air :
    ∃ (calls : List PaletteCall) (stone : BlockState) (workspace : Workspace),
      calls = [.make .air, .insert ⟨0⟩ stone, .addAll ⟨0⟩ ⟨0⟩, .removeId ⟨0⟩ .nan,
        .removeState ⟨0⟩ stone] ∧
      initial.afterPaletteCalls calls = workspace ∧
      (workspace.paletteAt ⟨0⟩).state 0 = .ok .air ∧
      ∃ cause, (paletteRemoveId ⟨0⟩ 0).run.run workspace = (.error cause, workspace) ∧
        (paletteRemoveState ⟨0⟩ .air).run.run workspace = (.error cause, workspace) := by
  let stone : BlockState := .bare ⟨"minecraft", "stone", by decide, by decide⟩
  let calls : List PaletteCall :=
    [.make .air, .insert ⟨0⟩ stone, .addAll ⟨0⟩ ⟨0⟩, .removeId ⟨0⟩ .nan, .removeState ⟨0⟩ stone]
  obtain ⟨workspace, palette, ran, rfl, -, -, -, -, atZero, ⟨cause, -, byId, byState⟩, -⟩ :=
    ids_and_states_agree calls ⟨0⟩ .air rfl
  exact ⟨calls, stone, workspace, rfl, ran, atZero, cause, byId 0 rfl, byState .air (by decide)⟩

end Workspace

end BlockVolume
