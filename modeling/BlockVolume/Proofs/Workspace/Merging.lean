import BlockVolume.Proofs.Section.Merging
import BlockVolume.Proofs.Workspace.Arrays

namespace BlockVolume

/-!
# Merging many sections into one palette

Sections are merged into one palette in a row. Every merge only adds states at
the end of the palette and writes a buffer of its own, so what earlier merges
answered stays right through all later ones, and no merged section changes.
-/

namespace Workspace

/-- Merges sections into a palette, one after another. -/
def mergeEach (target : PaletteId) (sections : List SectionId) : Session (List ViewId) :=
  sections.mapM fun id => mergeInto id target

/-- The workspace after a merge: a larger palette, and a contiguous array with its own buffer. -/
def merged
    (workspace : Workspace)
    (target : PaletteId)
    (grown : Palette)
    (cells : PackedArray .contiguous) :
    Workspace :=
  let view : View :=
    { size := cells.size, maxValue := cells.maxValue, buffer := ⟨workspace.buffers.size⟩ }
  { workspace with
    palettes := workspace.palettes.setIfInBounds target.index grown
    buffers := workspace.buffers.push cells.limbs
    views := workspace.views.push view }

variable {workspace : Workspace} {target : PaletteId} {grown : Palette}
  {cells : PackedArray .contiguous}

/-! ## One merge -/

/-- A merge that succeeds answers with a new array and leaves the larger palette behind. -/
theorem run_mergeInto
    {id : SectionId}
    (succeeds :
      (workspace.slabAt id).mergeInto (workspace.paletteAt target) = (grown, .ok cells)) :
    (mergeInto id target).run.run workspace =
      (.ok ⟨workspace.views.size⟩, workspace.merged target grown cells) := by
  rw [mergeInto, run_bind_of_ok (run_slab workspace id),
    run_bind_of_ok (run_palette workspace target), succeeds]
  rfl

/-- The target of a merge is the larger palette afterwards. -/
theorem paletteAt_merged_self (kept : target.index < workspace.palettes.size) :
    (workspace.merged target grown cells).paletteAt target = grown :=
  getD_setIfInBounds_self kept grown default

/-- A merge changes no other palette. -/
theorem paletteAt_merged_of_ne
    {other : PaletteId}
    (different : other ≠ target) :
    (workspace.merged target grown cells).paletteAt other = workspace.paletteAt other := by
  have differentIndex : target.index ≠ other.index :=
    mt (congrArg PaletteId.mk) different.symm
  exact getD_setIfInBounds_of_ne differentIndex grown default

/-- A merge changes no section that does not use its target. -/
theorem slabAt_merged
    {id : SectionId}
    (foreign : (workspace.recordAt id).palette ≠ target) :
    (workspace.merged target grown cells).slabAt id = workspace.slabAt id := by
  have samePalette :
      (workspace.merged target grown cells).paletteAt (workspace.recordAt id).palette =
        workspace.paletteAt (workspace.recordAt id).palette :=
    paletteAt_merged_of_ne foreign
  unfold slabAt
  rw [← samePalette]
  rfl

/-- The array that a merge answers with holds the merged ids. -/
theorem viewAt_merged_self :
    (workspace.merged target grown cells).viewAt ⟨workspace.views.size⟩ = cells :=
  workspace.viewAt_withNewView_self cells

theorem keepsView_merged_self :
    (workspace.merged target grown cells).KeepsView ⟨workspace.views.size⟩ :=
  ⟨(workspace.keepsView_withNewView_self cells).view_lt,
    (workspace.keepsView_withNewView_self cells).buffer_lt⟩

/-- An array that was kept before a merge stays kept. -/
theorem KeepsView.merged
    {id : ViewId}
    (keeps : workspace.KeepsView id) :
    (workspace.merged target grown cells).KeepsView id :=
  ⟨(keeps.withNewView cells).view_lt, (keeps.withNewView cells).buffer_lt⟩

/-- A merge changes no array that was kept before. -/
theorem viewAt_merged
    {id : ViewId}
    (keeps : workspace.KeepsView id) :
    (workspace.merged target grown cells).viewAt id = workspace.viewAt id :=
  viewAt_withNewView keeps cells

/-! ## Many merges -/

/-- What merging sections in a row leaves behind. -/
structure MergedEach
    (before after : Workspace)
    (target : PaletteId)
    (sections : List SectionId)
    (views : List ViewId) :
    Prop where
  wellFormed : (after.paletteAt target).WellFormed
  states_eq :
    (after.paletteAt target).states =
      (before.paletteAt target).states ++
        BlockState.unseen (before.paletteAt target).states
          (sections.flatMap fun id => (before.slabAt id).palette.states)
  slabAt_eq : ∀ id, (before.recordAt id).palette ≠ target → after.slabAt id = before.slabAt id
  viewAt_eq : ∀ id, before.KeepsView id → after.viewAt id = before.viewAt id
  length_eq : views.length = sections.length
  mergedInto : ∀ (place : Nat) (id : SectionId) (view : ViewId),
    sections[place]? = some id → views[place]? = some view →
    ∃ keys, (before.slabAt id).Shows keys ∧
      Section.MergedInto (after.viewAt view) (before.slabAt id) keys (after.paletteAt target)

/-- Nothing is merged. -/
theorem MergedEach.nil (wellFormed : (workspace.paletteAt target).WellFormed) :
    MergedEach workspace workspace target [] [] where
  wellFormed := wellFormed
  states_eq := by simp
  slabAt_eq := fun _ _ => rfl
  viewAt_eq := fun _ _ => rfl
  length_eq := rfl
  mergedInto := nofun

/-- One section is merged before others. -/
theorem MergedEach.cons
    {after : Workspace}
    {id : SectionId}
    {rest : List SectionId}
    {views : List ViewId}
    {keys : List String}
    (kept : target.index < workspace.palettes.size)
    (foreign : ∀ other ∈ id :: rest, (workspace.recordAt other).palette ≠ target)
    (shows : (workspace.slabAt id).Shows keys)
    (grownWellFormed : grown.WellFormed)
    (grownStates :
      grown.states =
        (workspace.paletteAt target).states ++
          BlockState.unseen (workspace.paletteAt target).states
            (workspace.slabAt id).palette.states)
    (first : Section.MergedInto cells (workspace.slabAt id) keys grown)
    (later : MergedEach (workspace.merged target grown cells) after target rest views) :
    MergedEach workspace after target (id :: rest) (⟨workspace.views.size⟩ :: views) where
  wellFormed := later.wellFormed
  states_eq := by
    have sameSections :
        (rest.flatMap fun other =>
            ((workspace.merged target grown cells).slabAt other).palette.states) =
          rest.flatMap fun other => (workspace.slabAt other).palette.states :=
      List.flatMap_congr fun other member => by
        rw [slabAt_merged (foreign other (List.mem_cons_of_mem _ member))]
    rw [later.states_eq, paletteAt_merged_self kept, sameSections, grownStates,
      List.flatMap_cons, BlockState.unseen_append, List.append_assoc]
  slabAt_eq := by
    intro other otherForeign
    rw [later.slabAt_eq other otherForeign, slabAt_merged otherForeign]
  viewAt_eq := by
    intro view keeps
    rw [later.viewAt_eq view keeps.merged, viewAt_merged keeps]
  length_eq := by rw [List.length_cons, List.length_cons, later.length_eq]
  mergedInto := by
    intro place other view present presentView
    cases place with
    | zero =>
        cases present
        cases presentView
        -- The ids of the first merge stay valid, since the palette only grows at its end.
        have sameCells : after.viewAt ⟨workspace.views.size⟩ = cells := by
          rw [later.viewAt_eq _ keepsView_merged_self, viewAt_merged_self]
        have grows := later.states_eq
        rw [paletteAt_merged_self kept] at grows
        rw [sameCells]
        exact ⟨keys, shows, first.grow grownWellFormed later.wellFormed grows⟩
    | succ place =>
        have member : other ∈ rest := List.mem_of_getElem? present
        have merged := later.mergedInto place other view present presentView
        rw [slabAt_merged (foreign other (List.mem_cons_of_mem _ member))] at merged
        exact merged

/-- Merging consistent sections in a row succeeds, as long as the palette has room. -/
theorem run_mergeEach
    {sections : List SectionId}
    (kept : target.index < workspace.palettes.size)
    (wellFormed : (workspace.paletteAt target).WellFormed)
    (consistent : ∀ id ∈ sections, (workspace.slabAt id).Consistent)
    (foreign : ∀ id ∈ sections, (workspace.recordAt id).palette ≠ target)
    (room :
      (workspace.paletteAt target).size +
          (sections.map fun id => (workspace.slabAt id).palette.size).sum ≤
        maxCellValue + 1) :
    ∃ views after, (mergeEach target sections).run.run workspace = (.ok views, after) ∧
      MergedEach workspace after target sections views := by
  induction sections generalizing workspace with
  | nil => exact ⟨[], workspace, rfl, .nil wellFormed⟩
  | cons id rest inductionHypothesis =>
      obtain ⟨keys, shows⟩ := (consistent id List.mem_cons_self).shows
      rw [List.map_cons, List.sum_cons] at room
      have counted := wellFormed.size_addAll_le (workspace.slabAt id).palette
      have addressable :
          ((workspace.paletteAt target).addAll (workspace.slabAt id).palette).1.Addressable := by
        unfold Palette.Addressable
        omega
      obtain ⟨grown, cells, succeeds, sameGrown, grownWellFormed, grownStates, first⟩ :=
        shows.mergeInto wellFormed addressable
      rw [← sameGrown] at counted
      have keptStill : target.index < (workspace.merged target grown cells).palettes.size :=
        Nat.lt_of_lt_of_eq kept (Array.size_setIfInBounds).symm
      have restForeign : ∀ other ∈ rest, (workspace.recordAt other).palette ≠ target :=
        fun other member => foreign other (List.mem_cons_of_mem _ member)
      have restSame : ∀ other ∈ rest,
          (workspace.merged target grown cells).slabAt other = workspace.slabAt other :=
        fun other member => slabAt_merged (restForeign other member)
      have restRoom :
          ((workspace.merged target grown cells).paletteAt target).size +
              (rest.map fun other =>
                ((workspace.merged target grown cells).slabAt other).palette.size).sum ≤
            maxCellValue + 1 := by
        have sameSizes :
            (rest.map fun other =>
                ((workspace.merged target grown cells).slabAt other).palette.size) =
              rest.map fun other => (workspace.slabAt other).palette.size :=
          List.map_congr_left fun other member => by rw [restSame other member]
        rw [sameSizes, paletteAt_merged_self kept]
        omega
      obtain ⟨views, after, ranRest, later⟩ :=
        inductionHypothesis keptStill
          (by rw [paletteAt_merged_self kept]; exact grownWellFormed)
          (fun other member => by
            rw [restSame other member]
            exact consistent other (List.mem_cons_of_mem _ member))
          restForeign restRoom
      refine ⟨⟨workspace.views.size⟩ :: views, after, ?_,
        .cons kept foreign shows grownWellFormed grownStates first later⟩
      rw [mergeEach, List.mapM_cons, run_bind_of_ok (run_mergeInto succeeds), ← mergeEach,
        run_bind_of_ok ranRest]
      rfl

/-- A key is in the palette afterwards exactly when it was there or is in a merged section. -/
theorem MergedEach.mem_keys_iff
    {after : Workspace}
    {sections : List SectionId}
    {views : List ViewId}
    (merged : MergedEach workspace after target sections views)
    {key : String} :
    key ∈ (after.paletteAt target).keys ↔
      key ∈ (workspace.paletteAt target).keys ∨
        ∃ id ∈ sections, key ∈ (workspace.slabAt id).palette.keys := by
  rw [Palette.keys, merged.states_eq, BlockState.mem_keys_append_unseen_iff, List.map_flatMap,
    List.mem_flatMap]
  rfl

/--
Sections merged into one palette in a row, none of which uses that palette:
every merge succeeds, and in the end every block of every merged array leads to
the state that the section has there. Ids of the palette keep their states; new
states come behind, each once, in the order of first appearance, and in another
order of merges the palette gets the same states. No section changes.
-/
theorem mergeEach_loses_nothing
    {sections : List SectionId}
    (kept : target.index < workspace.palettes.size)
    (wellFormed : (workspace.paletteAt target).WellFormed)
    (consistent : ∀ id ∈ sections, (workspace.slabAt id).Consistent)
    (foreign : ∀ id ∈ sections, (workspace.recordAt id).palette ≠ target)
    (room :
      (workspace.paletteAt target).size +
          (sections.map fun id => (workspace.slabAt id).palette.size).sum ≤
        maxCellValue + 1) :
    ∃ views after,
      (mergeEach target sections).run.run workspace = (.ok views, after) ∧
      views.length = sections.length ∧
      (∀ (place : Nat) (id : SectionId) (view : ViewId),
        sections[place]? = some id → views[place]? = some view →
          (after.viewAt view).size = Section.cellCount ∧
          (∃ ids, (workspace.slabAt id).palette.states.map (after.paletteAt target).id? =
              ids.map some ∧
            (after.viewAt view).maxValue =
              max (workspace.slabAt id).storage.maxValue (Remap.largest ids)) ∧
          ∀ cell < Section.cellCount, ∃ merged found expected,
            (after.viewAt view).get (.ofNat cell) = .ok merged ∧
            (after.paletteAt target).state (.ofNat merged) = .ok found ∧
            (workspace.slabAt id).block cell = .ok expected ∧
            found.same expected = true) ∧
      (∀ id < (workspace.paletteAt target).size,
        (after.paletteAt target).state (.ofNat id) =
          (workspace.paletteAt target).state (.ofNat id)) ∧
      (after.paletteAt target).states =
        (workspace.paletteAt target).states ++
          BlockState.unseen (workspace.paletteAt target).states
            (sections.flatMap fun id => (workspace.slabAt id).palette.states) ∧
      (after.paletteAt target).keys.Nodup ∧
      (∀ id ∈ sections, after.slabAt id = workspace.slabAt id) ∧
      ∀ reordered, reordered.Perm sections →
        ∃ otherViews otherAfter,
          (mergeEach target reordered).run.run workspace = (.ok otherViews, otherAfter) ∧
          (otherAfter.paletteAt target).keys.Perm (after.paletteAt target).keys := by
  obtain ⟨views, after, ran, merged⟩ := run_mergeEach kept wellFormed consistent foreign room
  refine ⟨views, after, ran, merged.length_eq, ?_, ?_, merged.states_eq,
    merged.wellFormed.keys_nodup, ?_, ?_⟩
  · intro place id view present presentView
    obtain ⟨keys, shows, mergedInto⟩ := merged.mergedInto place id view present presentView
    exact ⟨mergedInto.size_eq, mergedInto.bound, fun cell inside =>
      mergedInto.block_same shows inside⟩
  · intro id inside
    have listed : id < (workspace.paletteAt target).states.length := by
      rwa [Palette.length_states]
    have sameState : (after.paletteAt target).state? id = (workspace.paletteAt target).state? id := by
      rw [Palette.state?_eq_getElem?, merged.states_eq, List.getElem?_append_left listed,
        ← Palette.state?_eq_getElem?]
    obtain ⟨state, found⟩ : ∃ state, (workspace.paletteAt target).state? id = some state :=
      ⟨_, by rw [Palette.state?_eq_getElem?, List.getElem?_eq_getElem listed]⟩
    rw [Palette.state, Palette.state, Number.toNat?_ofNat, Option.bind_some, Option.bind_some,
      sameState, found]
  · intro id member
    exact merged.slabAt_eq id (foreign id member)
  · intro reordered permutation
    have sameRoom :
        (reordered.map fun id => (workspace.slabAt id).palette.size).sum =
          (sections.map fun id => (workspace.slabAt id).palette.size).sum :=
      (permutation.map _).sum_nat
    obtain ⟨otherViews, otherAfter, otherRan, otherMerged⟩ :=
      run_mergeEach kept wellFormed
        (fun id member => consistent id (permutation.mem_iff.1 member))
        (fun id member => foreign id (permutation.mem_iff.1 member))
        (sameRoom ▸ room)
    refine ⟨otherViews, otherAfter, otherRan, ?_⟩
    rw [List.perm_ext_iff_of_nodup otherMerged.wellFormed.keys_nodup merged.wellFormed.keys_nodup]
    intro key
    rw [otherMerged.mem_keys_iff, merged.mem_keys_iff]
    simp only [permutation.mem_iff]

/-- A section of stone is merged twice into a palette that knows air alone. -/
theorem mergeEach_loses_nothing_of_stone :
    ∃ (workspace : Workspace) (target : PaletteId) (slab : SectionId),
      target.index < workspace.palettes.size ∧ (workspace.paletteAt target).WellFormed ∧
      (workspace.slabAt slab).Consistent ∧ (workspace.recordAt slab).palette ≠ target ∧
      (workspace.paletteAt target).states = [.air] ∧
      ∃ views after, (mergeEach target [slab, slab]).run.run workspace = (.ok views, after) ∧
        views.length = 2 ∧ (after.paletteAt target).size = 2 := by
  let stone : BlockState := .bare ⟨"minecraft", "stone", by decide, by decide⟩
  let workspace : Workspace :=
    { initial with
      palettes := #[.make .air, .make stone]
      paddedArrays := #[.zeros .padded Section.cellCount 0]
      sections := #[{ palette := ⟨1⟩, storage := ⟨0⟩ }] }
  have kept : (⟨0⟩ : PaletteId).index < workspace.palettes.size := by decide
  have wellFormed : (workspace.paletteAt ⟨0⟩).WellFormed := .make .air
  have consistent : (workspace.slabAt ⟨0⟩).Consistent := (Section.shows_empty stone).consistent
  have foreign : (workspace.recordAt ⟨0⟩).palette ≠ ⟨0⟩ := by decide
  obtain ⟨views, after, ran, length_eq, -, -, states_eq, -⟩ :=
    @mergeEach_loses_nothing workspace ⟨0⟩ [⟨0⟩, ⟨0⟩] kept wellFormed
      (by simpa using consistent) (by simpa using foreign) (by decide)
  refine ⟨workspace, ⟨0⟩, ⟨0⟩, kept, wellFormed, consistent, foreign, rfl, views, after, ran,
    length_eq, ?_⟩
  rw [← Palette.length_states, states_eq]
  decide

end Workspace

end BlockVolume
