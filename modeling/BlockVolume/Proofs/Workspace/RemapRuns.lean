import BlockVolume.Proofs.Workspace.Remaps

namespace BlockVolume

/-!
# Runs of calls on a remap

What a run leaves of a remap can be told from its calls: the first changes that
were requested before the lock, and the arrays that were renumbered since.
-/

namespace RemapCall

/-- The change that a call asks for, if it names two ids. -/
def request? : RemapCall → Option (Nat × Nat)
  | .register old new => Remap.change? old new
  | _ => none

/-- The changes that are asked for before the first lock. -/
def requests (calls : List RemapCall) : List (Nat × Nat) :=
  (calls.takeWhile (· ≠ .lock)).filterMap request?

theorem requests_cons (first : RemapCall) (rest : List RemapCall) :
    requests (first :: rest) =
      if first = .lock then [] else first.request?.toList ++ requests rest := by
  unfold requests
  by_cases isLock : first = .lock
  · simp [isLock]
  · cases requested : first.request? <;> simp [isLock, requested]

theorem requests_concat (calls : List RemapCall) (call : RemapCall) :
    requests (calls ++ [call]) =
      if .lock ∈ calls then requests calls else requests calls ++ call.request?.toList := by
  induction calls with
  | nil =>
      rw [List.nil_append, requests_cons]
      by_cases isLock : call = .lock
      · simp [isLock, request?, requests]
      · simp [isLock, requests]
  | cons first rest inductionHypothesis =>
      rw [List.cons_append, requests_cons, requests_cons, inductionHypothesis]
      by_cases isLock : first = .lock
      · simp [isLock]
      · have later : .lock ∈ first :: rest ↔ .lock ∈ rest := by
          simp [Ne.symm isLock]
        simp only [isLock, if_false, later]
        split <;> simp

/-- What is asked for after a lock does not count. -/
theorem requests_append_of_lock
    {calls : List RemapCall}
    (hasLock : .lock ∈ calls)
    (more : List RemapCall) :
    requests (calls ++ more) = requests calls := by
  induction more using List.reverseRecOn with
  | nil => rw [List.append_nil]
  | append_singleton earlier last inductionHypothesis =>
      rw [← List.append_assoc, requests_concat, if_pos (List.mem_append_left _ hasLock),
        inductionHypothesis]

end RemapCall

namespace Workspace

/-- The workspace after a row of calls, each of which starts whether or not the one before failed. -/
def afterRemapCalls
    (workspace : Workspace)
    (id : RemapId)
    (calls : List RemapCall) :
    Workspace :=
  calls.foldl (fun workspace call => workspace.after (call.session id)) workspace

/-- An upgrade that succeeds. -/
def UpgradesNow (workspace : Workspace) (id : RemapId) (array : ArrayId) : Prop :=
  ∃ next, (upgrade id array).run.run workspace = (.ok (), next)

/-- An array for which some upgrade of a row of calls succeeds. -/
def Upgrades
    (workspace : Workspace)
    (id : RemapId)
    (calls : List RemapCall)
    (array : ArrayId) :
    Prop :=
  ∃ before later, calls = before ++ .upgrade array :: later ∧
    (workspace.afterRemapCalls id before).UpgradesNow id array

variable {workspace next : Workspace} {id : RemapId} {array : ArrayId}
  {remap : Remap}

/-! ## What a run leaves behind -/

theorem afterRemapCalls_append
    (workspace : Workspace)
    (id : RemapId)
    (calls more : List RemapCall) :
    workspace.afterRemapCalls id (calls ++ more) =
      (workspace.afterRemapCalls id calls).afterRemapCalls id more :=
  List.foldl_append

/-- An upgrade is among calls with one more if it was among them, or if it is the one more. -/
theorem upgrades_concat_iff
    {calls : List RemapCall}
    {call : RemapCall} :
    workspace.Upgrades id (calls ++ [call]) array ↔
      workspace.Upgrades id calls array ∨
        call = .upgrade array ∧ (workspace.afterRemapCalls id calls).UpgradesNow id array := by
  constructor
  · rintro ⟨before, later, split, succeeds⟩
    obtain rfl | ⟨later, last, rfl⟩ := List.eq_nil_or_concat later
    · obtain ⟨rfl, same⟩ := List.append_inj' split rfl
      exact .inr ⟨List.singleton_inj.1 same, succeeds⟩
    · rw [List.concat_eq_append, ← List.cons_append, ← List.append_assoc] at split
      obtain ⟨same, -⟩ := List.append_inj' split rfl
      exact .inl ⟨before, later, same, succeeds⟩
  · rintro (⟨before, later, rfl, succeeds⟩ | ⟨rfl, succeeds⟩)
    · exact ⟨before, later ++ [call], by simp, succeeds⟩
    · exact ⟨calls, [], rfl, succeeds⟩

/-- What calls on a remap, which was open at the start, tell of it. -/
structure Recorded
    (start : Workspace)
    (id : RemapId)
    (calls : List RemapCall)
    (workspace : Workspace) :
    Prop where
  kept : id.index < workspace.remaps.size
  changes_eq : (workspace.remapAt id).changes = Remap.firstChanges (RemapCall.requests calls)
  locked_iff : (workspace.remapAt id).locked = true ↔ .lock ∈ calls
  locked_of_upgrades : ∀ array, start.Upgrades id calls array → .lock ∈ calls
  applied_iff : ∀ array : ArrayId,
    array.name ∈ (workspace.remapAt id).applied ↔
      (workspace.remapAt id).changes ≠ [] ∧ start.Upgrades id calls array

namespace Recorded

variable {start : Workspace} {calls : List RemapCall}

/-- Nothing is recorded at the start. -/
theorem nil
    {unchangedBelow : Number}
    (fresh : start.remapAt id = .make unchangedBelow) :
    start.Recorded id [] start where
  kept := by
    -- A remap that is not kept reads as one that is locked.
    by_contra outside
    have missing : start.remaps[id.index]? = none := Array.getElem?_eq_none (by omega)
    rw [remapAt, Array.getD_eq_getD_getElem?, missing] at fresh
    exact Bool.noConfusion (congrArg Remap.locked fresh)
  changes_eq := by
    rw [fresh]
    rfl
  locked_iff := by simp [fresh, Remap.make]
  locked_of_upgrades := by
    rintro array ⟨before, later, split, -⟩
    simp at split
  applied_iff := by
    intro array
    simp [fresh, Remap.make]

/-- A call that neither locks, nor asks for a change in time, nor renumbers tells nothing new. -/
theorem quiet
    {call : RemapCall}
    (recorded : start.Recorded id calls workspace)
    (atWorkspace : start.afterRemapCalls id calls = workspace)
    (sameRemaps : next.remaps = workspace.remaps)
    (noLock : call ≠ .lock)
    (noRequest : .lock ∈ calls ∨ call.request? = none)
    (noUpgrade : ∀ array, call = .upgrade array → ¬ workspace.UpgradesNow id array) :
    start.Recorded id (calls ++ [call]) next := by
  have sameRemap : next.remapAt id = workspace.remapAt id := by
    rw [remapAt, sameRemaps, remapAt]
  have sameLock : .lock ∈ calls ++ [call] ↔ .lock ∈ calls := by
    simp [noLock.symm]
  have sameUpgrades : ∀ array,
      start.Upgrades id (calls ++ [call]) array ↔ start.Upgrades id calls array := by
    intro array
    rw [upgrades_concat_iff, atWorkspace, or_iff_left]
    rintro ⟨isUpgrade, succeeds⟩
    exact noUpgrade array isUpgrade succeeds
  have sameRequests : RemapCall.requests (calls ++ [call]) = RemapCall.requests calls := by
    rw [RemapCall.requests_concat]
    rcases noRequest with hasLock | none
    · rw [if_pos hasLock]
    · rw [none, Option.toList_none, List.append_nil, ite_self]
  exact
    { kept := sameRemaps ▸ recorded.kept
      changes_eq := by rw [sameRemap, sameRequests, recorded.changes_eq]
      locked_iff := by rw [sameRemap, sameLock, recorded.locked_iff]
      locked_of_upgrades := by
        intro array upgraded
        rw [sameLock]
        exact recorded.locked_of_upgrades array ((sameUpgrades array).1 upgraded)
      applied_iff := by
        intro array
        rw [sameRemap, sameUpgrades, recorded.applied_iff] }

/-- A registration before the lock may add a change. -/
theorem register
    (recorded : start.Recorded id calls workspace)
    (atWorkspace : start.afterRemapCalls id calls = workspace)
    (old new : Number) :
    start.Recorded id (calls ++ [.register old new])
      (workspace.withRemap id ((workspace.remapAt id).registering old new)) := by
  by_cases hasLock : .lock ∈ calls
  · rw [Remap.registering_of_locked (recorded.locked_iff.2 hasLock), withRemap_self]
    exact recorded.quiet atWorkspace rfl nofun (.inl hasLock) nofun
  · have isOpen : (workspace.remapAt id).locked = false := by
      rw [Bool.eq_false_iff, Ne, recorded.locked_iff]
      exact hasLock
    have sameLock : .lock ∈ calls ++ [.register old new] ↔ .lock ∈ calls := by simp
    have noUpgrade : ∀ array, ¬ start.Upgrades id (calls ++ [.register old new]) array := by
      intro array upgraded
      obtain earlier | ⟨isUpgrade, -⟩ := upgrades_concat_iff.1 upgraded
      · exact hasLock (recorded.locked_of_upgrades array earlier)
      · cases isUpgrade
    have noneApplied : ∀ array : ArrayId, array.name ∉ (workspace.remapAt id).applied := by
      intro array applied
      exact hasLock (recorded.locked_of_upgrades array ((recorded.applied_iff array).1 applied).2)
    rw [Remap.registering_of_open isOpen]
    exact
      { kept := Nat.lt_of_lt_of_eq recorded.kept Array.size_setIfInBounds.symm
        changes_eq := by
          rw [remapAt_withRemap_self recorded.kept, RemapCall.requests_concat, if_neg hasLock,
            RemapCall.request?, recorded.changes_eq]
          cases Remap.change? old new with
          | none => simp
          | some change => exact (Remap.firstChanges_concat _ change).symm
        locked_iff := by
          rw [remapAt_withRemap_self recorded.kept, sameLock]
          exact recorded.locked_iff
        locked_of_upgrades := fun array upgraded => absurd upgraded (noUpgrade array)
        applied_iff := by
          intro array
          rw [remapAt_withRemap_self recorded.kept]
          exact iff_of_false (noneApplied array) fun both => noUpgrade array both.2 }

/-- A lock ends registration. -/
theorem lock (recorded : start.Recorded id calls workspace) :
    start.Recorded id (calls ++ [.lock])
      (workspace.withRemap id (workspace.remapAt id).lock) := by
  have sameUpgrades : ∀ array,
      start.Upgrades id (calls ++ [.lock]) array ↔ start.Upgrades id calls array := by
    intro array
    rw [upgrades_concat_iff, or_iff_left]
    exact nofun
  exact
    { kept := Nat.lt_of_lt_of_eq recorded.kept Array.size_setIfInBounds.symm
      changes_eq := by
        have noRequest : RemapCall.lock.request? = none := rfl
        rw [remapAt_withRemap_self recorded.kept, RemapCall.requests_concat, noRequest,
          Option.toList_none, List.append_nil, ite_self]
        exact recorded.changes_eq
      locked_iff := by
        rw [remapAt_withRemap_self recorded.kept]
        simp [Remap.lock]
      locked_of_upgrades := fun array _ => by simp
      applied_iff := by
        intro array
        rw [remapAt_withRemap_self recorded.kept, sameUpgrades]
        exact recorded.applied_iff array }

/-- An upgrade that succeeds records the array. -/
theorem upgrade
    (recorded : start.Recorded id calls workspace)
    (atWorkspace : start.afterRemapCalls id calls = workspace)
    {renumbered : PackedArray array.layout}
    (upgraded :
      (workspace.remapAt id).upgrade array.name (workspace.arrayAt array) =
        (renumbered, .ok remap)) :
    start.Recorded id (calls ++ [.upgrade array])
      ((workspace.withArray array renumbered).withRemap id remap) := by
  obtain ⟨isLocked, rfl⟩ := Remap.of_upgrade_eq_ok upgraded
  have hasLock := recorded.locked_iff.1 isLocked
  have kept : id.index < (workspace.withArray array renumbered).remaps.size := by
    rw [remaps_withArray]
    exact recorded.kept
  have sameUpgrades : ∀ other,
      start.Upgrades id (calls ++ [.upgrade array]) other ↔
        start.Upgrades id calls other ∨ other.name = array.name := by
    intro other
    rw [upgrades_concat_iff, atWorkspace]
    refine or_congr_right ⟨?_, ?_⟩
    · rintro ⟨same, -⟩
      rw [RemapCall.upgrade.inj same]
    · intro sameName
      rw [ArrayId.name_injective sameName]
      exact ⟨rfl, _, run_upgrade_of_ok upgraded⟩
  exact
    { kept := Nat.lt_of_lt_of_eq kept Array.size_setIfInBounds.symm
      changes_eq := by
        rw [remapAt_withRemap_self kept, Remap.changes_recorded, RemapCall.requests_concat,
          if_pos hasLock]
        exact recorded.changes_eq
      locked_iff := by
        rw [remapAt_withRemap_self kept, Remap.locked_recorded, recorded.locked_iff]
        simp
      locked_of_upgrades := fun other _ => List.mem_append_left _ hasLock
      applied_iff := by
        intro other
        rw [remapAt_withRemap_self kept, Remap.mem_applied_recorded_iff, Remap.changes_recorded,
          recorded.applied_iff, sameUpgrades, and_or_left] }

/-- Every call is told of. -/
theorem concat
    (recorded : start.Recorded id calls workspace)
    (atWorkspace : start.afterRemapCalls id calls = workspace)
    (call : RemapCall) :
    start.Recorded id (calls ++ [call]) (workspace.after (call.session id)) := by
  cases call with
  | register old new =>
      rw [RemapCall.session, after_register]
      exact recorded.register atWorkspace old new
  | lock => exact recorded.lock
  | newId old =>
      refine recorded.quiet atWorkspace ?_ (by simp) (.inr rfl) (by simp)
      rw [after, run_newId]
  | upgrade array =>
      cases upgraded : (workspace.remapAt id).upgrade array.name (workspace.arrayAt array) with
      | mk renumbered outcome =>
          cases outcome with
          | ok remap =>
              rw [RemapCall.session, after, run_upgrade_of_ok upgraded]
              exact recorded.upgrade atWorkspace upgraded
          | error cause =>
              have refused := run_upgrade_of_error upgraded
              rw [RemapCall.session, after, refused]
              refine recorded.quiet atWorkspace rfl (by simp) (.inr rfl) ?_
              rintro other same ⟨next, succeeds⟩
              cases same
              rw [refused] at succeeds
              cases succeeds
  | set array index value =>
      refine recorded.quiet atWorkspace ?_ (by simp) (.inr rfl) (by simp)
      rw [RemapCall.session, setValue, after, run_updateArray, remaps_withArray]
  | widen array maxValue =>
      refine recorded.quiet atWorkspace ?_ (by simp) (.inr rfl) (by simp)
      rw [RemapCall.session, widen, after, run_updateArray, remaps_withArray]

/-- The calls of a whole run tell of the remap. -/
theorem run
    {unchangedBelow : Number}
    (fresh : start.remapAt id = .make unchangedBelow)
    (calls : List RemapCall) :
    start.Recorded id calls (start.afterRemapCalls id calls) := by
  induction calls using List.reverseRecOn with
  | nil => exact .nil fresh
  | append_singleton earlier last inductionHypothesis =>
      rw [afterRemapCalls_append]
      exact inductionHypothesis.concat rfl last

end Recorded

theorem HoldsArray.afterRemapCalls
    (holds : workspace.HoldsArray array)
    (id : RemapId)
    (calls : List RemapCall) :
    (workspace.afterRemapCalls id calls).HoldsArray array := by
  induction calls generalizing workspace with
  | nil => exact holds
  | cons call rest inductionHypothesis => exact inductionHypothesis (holds.after id call)

/--
What any row of calls on a new remap leaves behind: the first change of every
old id that was asked for before the lock, and nothing that the lock or a later
call changes. Nothing is renumbered before the lock, and no array twice, unless
there is no change at all. An array that was not renumbered yet, whatever was
refused before, is renumbered exactly if its values have new ids that it can
hold, and then every value is replaced by its new id. A call that fails changes
nothing.
-/
theorem upgrades_once
    (start : Workspace)
    (id : RemapId)
    (unchangedBelow : Number)
    (fresh : start.remapAt id = .make unchangedBelow)
    (calls : List RemapCall) :
    ∃ workspace remap,
      start.afterRemapCalls id calls = workspace ∧ workspace.remapAt id = remap ∧
      remap.changes =
        (RemapCall.requests calls).eraseDupsBy (fun later earlier => later.1 == earlier.1) ∧
      (remap.changes.map Prod.fst).Nodup ∧
      (∀ old new, (∃ next, (register id old new).run.run workspace = (.ok (), next)) ↔
        .lock ∉ calls ∧ ∃ oldId newId, old.toNat? = some oldId ∧ new.toNat? = some newId ∧
          ∀ known, (oldId, known) ∈ remap.changes → known = newId) ∧
      (remap.locked = true ↔ .lock ∈ calls) ∧
      (.lock ∈ calls → ∀ more,
        ((workspace.afterRemapCalls id more).remapAt id).changes = remap.changes) ∧
      (.lock ∉ calls → ∀ array, ∃ cause, cause.failure.kind = .palette ∧
        (upgrade id array).run.run workspace = (.error cause, workspace)) ∧
      (.lock ∈ calls → remap.changes = [] → ∀ array,
        (upgrade id array).run.run workspace = (.ok (), workspace)) ∧
      (remap.changes ≠ [] → ∀ array, start.Upgrades id calls array →
        ∃ cause, cause.failure.kind = .palette ∧
          (upgrade id array).run.run workspace = (.error cause, workspace)) ∧
      (.lock ∈ calls → remap.changes ≠ [] → ∀ array, ¬ start.Upgrades id calls array →
        ((∃ next, (upgrade id array).run.run workspace = (.ok (), next)) ↔
          ∃ newOf, remap.Renumbers (workspace.arrayAt array).values newOf) ∧
        ∀ newOf, remap.Renumbers (workspace.arrayAt array).values newOf →
          start.HoldsArray array →
            ∃ next, (upgrade id array).run.run workspace = (.ok (), next) ∧
              (next.arrayAt array).values = (workspace.arrayAt array).values.map newOf) ∧
      ∀ (call : RemapCall) cause next,
        (call.session id).run.run workspace = (.error cause, next) → next = workspace := by
  have recorded := Recorded.run fresh calls
  have distinct : (((start.afterRemapCalls id calls).remapAt id).changes.map Prod.fst).Nodup := by
    rw [recorded.changes_eq]
    exact Remap.nodup_firstChanges _
  have isOpen : .lock ∉ calls → ((start.afterRemapCalls id calls).remapAt id).locked = false := by
    intro noLock
    rw [Bool.eq_false_iff, Ne, recorded.locked_iff]
    exact noLock
  refine ⟨_, _, rfl, rfl, recorded.changes_eq, distinct, ?_, recorded.locked_iff, ?_, ?_, ?_, ?_,
    ?_, ?_⟩
  · intro old new
    rw [run_register]
    constructor
    · rintro ⟨next, ran⟩
      cases registered : ((start.afterRemapCalls id calls).remapAt id).register old new with
      | error cause =>
          rw [registered] at ran
          cases ran
      | ok remap =>
          obtain ⟨isOpen, oldId, newId, denotedOld, denotedNew, noConflict⟩ :=
            Remap.accepted_of_register_eq_ok registered
          refine ⟨fun hasLock => ?_, oldId, newId, denotedOld, denotedNew, fun known member => ?_⟩
          · rw [recorded.locked_iff.2 hasLock] at isOpen
            cases isOpen
          · exact noConflict known (Remap.registered?_of_mem distinct member)
    · rintro ⟨noLock, oldId, newId, denotedOld, denotedNew, noConflict⟩
      rw [Remap.register_of_accepted (isOpen noLock) denotedOld denotedNew
        fun known found => noConflict known (Remap.mem_of_registered? found)]
      exact ⟨_, rfl⟩
  · intro hasLock more
    have recordedMore := Recorded.run fresh (calls ++ more)
    rw [← afterRemapCalls_append, recordedMore.changes_eq,
      RemapCall.requests_append_of_lock hasLock, recorded.changes_eq]
  · intro noLock array
    exact ⟨.remapUnlocked, rfl,
      run_upgrade_of_error (Remap.upgrade_of_open (isOpen noLock) array.name _)⟩
  · intro hasLock noChanges array
    rw [run_upgrade_of_ok
      (Remap.upgrade_of_no_changes (recorded.locked_iff.2 hasLock) noChanges array.name _),
      withArray_self, withRemap_self]
  · intro hasChanges array upgraded
    have isLocked := recorded.locked_iff.2 (recorded.locked_of_upgrades array upgraded)
    have known := (recorded.applied_iff array).2 ⟨hasChanges, upgraded⟩
    exact ⟨.remapApplied, rfl,
      run_upgrade_of_error (Remap.upgrade_of_applied isLocked hasChanges known _)⟩
  · intro hasLock hasChanges array notUpgraded
    have isLocked := recorded.locked_iff.2 hasLock
    have isNew : array.name ∉ ((start.afterRemapCalls id calls).remapAt id).applied :=
      fun known => notUpgraded ((recorded.applied_iff array).1 known).2
    refine ⟨⟨?_, ?_⟩, ?_⟩
    · rintro ⟨next, succeeds⟩
      exact renumbers_of_run_upgrade_eq_ok hasChanges distinct succeeds
    · rintro ⟨newOf, renumbers⟩
      obtain ⟨next, succeeds, -⟩ :=
        run_upgrade_of_renumbers isLocked hasChanges distinct isNew renumbers
      exact ⟨next, succeeds⟩
    · intro newOf renumbers holds
      obtain ⟨next, succeeds, renumbered⟩ :=
        run_upgrade_of_renumbers isLocked hasChanges distinct isNew renumbers
      exact ⟨next, succeeds, renumbered (holds.afterRemapCalls id calls)⟩
  · intro call cause next failed
    exact eq_of_run_eq_error call failed

/-- Four zeros become ones when a remap is applied to them, and a second application is refused. -/
theorem upgrades_once_of_zeros :
    ∃ (start : Workspace) (id : RemapId) (array : ArrayId) (calls : List RemapCall),
      start.remapAt id = .make 0 ∧ start.HoldsArray array ∧
      calls = [.register 0 1, .register 0 2, .lock] ∧
      ∃ next cause,
        (upgrade id array).run.run (start.afterRemapCalls id calls) = (.ok (), next) ∧
        (next.arrayAt array).values = [1, 1, 1, 1] ∧
        (upgrade id array).run.run next = (.error cause, next) := by
  let start : Workspace :=
    { initial with
      remaps := #[.identity, .make 0]
      paddedArrays := #[.zeros .padded 4 1] }
  let id : RemapId := ⟨1⟩
  let array : ArrayId := .padded ⟨0⟩
  let calls : List RemapCall := [.register 0 1, .register 0 2, .lock]
  have fresh : start.remapAt id = .make 0 := rfl
  have zeros := PackedArray.represents_zeros .padded 4 (show 1 ≤ maxCellValue by decide)
  have holds : start.HoldsArray array := ⟨Nat.zero_lt_one, zeros.stored⟩
  have values_eq :
      ((start.afterRemapCalls id calls).arrayAt array).values = List.replicate 4 0 :=
    zeros.values_eq
  have changes_eq : ((start.afterRemapCalls id calls).remapAt id).changes = [(0, 1)] := rfl
  have renumbers : ((start.afterRemapCalls id calls).remapAt id).Renumbers
      ((start.afterRemapCalls id calls).arrayAt array).values fun _ => 1 := by
    rw [values_eq]
    refine ⟨fun value member => ?_, ?_⟩
    · rw [List.eq_of_mem_replicate member]
      rfl
    · rw [changes_eq]
      decide
  have notUpgraded : ¬ start.Upgrades id calls array := by
    rintro ⟨before, later, split, -⟩
    have member : RemapCall.upgrade array ∈ calls := by
      rw [split]
      exact List.mem_append_right _ List.mem_cons_self
    exact absurd member (by decide)
  have hasChanges : ((start.afterRemapCalls id calls).remapAt id).changes ≠ [] := by
    rw [changes_eq]
    exact List.cons_ne_nil _ _
  obtain ⟨_, _, rfl, rfl, -, -, -, -, stable, -, -, -, renumbered, -⟩ :=
    upgrades_once start id 0 fresh calls
  obtain ⟨next, succeeds, ones⟩ :=
    (renumbered (by decide) hasChanges array notUpgraded).2 _ renumbers holds
  -- The second application follows a longer run.
  obtain ⟨_, _, rfl, rfl, -, -, -, -, -, -, -, refused, -⟩ :=
    upgrades_once start id 0 fresh (calls ++ [.upgrade array])
  have reached : (start.afterRemapCalls id calls).afterRemapCalls id [.upgrade array] = next :=
    after_of_run succeeds
  have hasChangesStill := stable (by decide) [.upgrade array]
  rw [afterRemapCalls_append, reached] at refused
  rw [reached] at hasChangesStill
  obtain ⟨cause, -, second⟩ :=
    refused (hasChangesStill ▸ hasChanges) array ⟨calls, [], rfl, next, succeeds⟩
  refine ⟨start, id, array, calls, fresh, holds, rfl, next, cause, succeeds, ?_, second⟩
  rw [ones, values_eq]
  rfl

end Workspace

end BlockVolume
