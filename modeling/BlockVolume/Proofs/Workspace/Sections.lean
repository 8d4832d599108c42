import BlockVolume.Proofs.Section.Capacity
import BlockVolume.Proofs.Workspace.Arrays

namespace BlockVolume

/-!
# Sections of a workspace

A section is changed through its palette and its storage. Two sections that use
neither the same palette nor the same storage do not notice a change of each
other, and a new section shares nothing with those that are kept already.
-/

namespace Workspace

variable {workspace next last : Workspace} {id other : SectionId} {value : Section}

/-- A section that is kept, with its palette and its storage. -/
structure KeepsSection (workspace : Workspace) (id : SectionId) : Prop where
  section_lt : id.index < workspace.sections.size
  palette_lt : (workspace.recordAt id).palette.index < workspace.palettes.size
  storage_lt : (workspace.recordAt id).storage.index < workspace.paddedArrays.size

/-- Sections that share neither palette nor storage. -/
structure Apart (workspace : Workspace) (left right : SectionId) : Prop where
  palette_ne : (workspace.recordAt left).palette ≠ (workspace.recordAt right).palette
  storage_ne : (workspace.recordAt left).storage ≠ (workspace.recordAt right).storage

theorem Apart.symm
    {left right : SectionId}
    (apart : workspace.Apart left right) :
    workspace.Apart right left :=
  ⟨apart.palette_ne.symm, apart.storage_ne.symm⟩

theorem Apart.ne
    {left right : SectionId}
    (apart : workspace.Apart left right) :
    left ≠ right := by
  rintro rfl
  exact apart.palette_ne rfl

theorem Apart.congr
    {left right : SectionId}
    (apart : workspace.Apart left right)
    (sameLeft : next.recordAt left = workspace.recordAt left)
    (sameRight : next.recordAt right = workspace.recordAt right) :
    next.Apart left right where
  palette_ne := by
    rw [sameLeft, sameRight]
    exact apart.palette_ne
  storage_ne := by
    rw [sameLeft, sameRight]
    exact apart.storage_ne

/-- A section that a change of another one does not touch. -/
structure Spares (workspace next : Workspace) (changed other : SectionId) : Prop where
  recordAt_eq : next.recordAt other = workspace.recordAt other
  slabAt_eq : next.slabAt other = workspace.slabAt other
  keeps : next.KeepsSection other
  apart : next.Apart changed other

theorem Spares.trans
    (first : workspace.Spares next id other)
    (second : next.Spares last id other) :
    workspace.Spares last id other where
  recordAt_eq := second.recordAt_eq.trans first.recordAt_eq
  slabAt_eq := second.slabAt_eq.trans first.slabAt_eq
  keeps := second.keeps
  apart := second.apart

/-! ## Changed sections -/

/-- The workspace with another value of a section. -/
def withSlab (workspace : Workspace) (id : SectionId) (value : Section) : Workspace :=
  let record := workspace.recordAt id
  { workspace with
    palettes := workspace.palettes.setIfInBounds record.palette.index value.palette
    paddedArrays := workspace.paddedArrays.setIfInBounds record.storage.index value.storage }

/-- The workspace with a new storage for a section. -/
def withStorage
    (workspace : Workspace)
    (id : SectionId)
    (storage : PackedArray .padded) :
    Workspace :=
  let updated : SectionRecord :=
    { workspace.recordAt id with storage := ⟨workspace.paddedArrays.size⟩ }
  { workspace with
    paddedArrays := workspace.paddedArrays.push storage
    sections := workspace.sections.setIfInBounds id.index updated }

/-- A write answers with its outcome and leaves its section behind. -/
theorem run_setBlock (workspace : Workspace) (id : SectionId) (cell : Nat) (state : BlockState) :
    (setBlock id cell state).run.run workspace =
      (((workspace.slabAt id).setBlock cell state).2,
        workspace.withSlab id ((workspace.slabAt id).setBlock cell state).1) :=
  rfl

/-- So does a row of writes at coordinates. -/
theorem run_setBlocks
    (workspace : Workspace)
    (id : SectionId)
    (writes : List ((Number × Number × Number) × BlockState)) :
    (setBlocks id writes).run.run workspace =
      (((workspace.slabAt id).setEach writes).2,
        workspace.withSlab id ((workspace.slabAt id).setEach writes).1) :=
  rfl

theorem withSlab_self (workspace : Workspace) (id : SectionId) :
    workspace.withSlab id (workspace.slabAt id) = workspace := by
  simp only [withSlab, slabAt, paletteAt, setIfInBounds_getD_self]

theorem KeepsSection.withSlab
    (keeps : workspace.KeepsSection other)
    (id : SectionId)
    (value : Section) :
    (workspace.withSlab id value).KeepsSection other where
  section_lt := keeps.section_lt
  palette_lt := Nat.lt_of_lt_of_eq keeps.palette_lt Array.size_setIfInBounds.symm
  storage_lt := Nat.lt_of_lt_of_eq keeps.storage_lt Array.size_setIfInBounds.symm

theorem KeepsSection.slabAt_withSlab_self
    (keeps : workspace.KeepsSection id)
    (value : Section) :
    (workspace.withSlab id value).slabAt id = value :=
  congrArg₂ Section.mk
    (getD_setIfInBounds_self keeps.palette_lt value.palette default)
    (getD_setIfInBounds_self keeps.storage_lt value.storage _)

theorem Apart.spares_withSlab
    (apart : workspace.Apart id other)
    (keeps : workspace.KeepsSection other)
    (value : Section) :
    workspace.Spares (workspace.withSlab id value) id other where
  recordAt_eq := rfl
  slabAt_eq :=
    congrArg₂ Section.mk
      (getD_setIfInBounds_of_ne (mt (congrArg PaletteId.mk) apart.palette_ne) value.palette default)
      (getD_setIfInBounds_of_ne (mt (congrArg PaddedId.mk) apart.storage_ne) value.storage _)
  keeps := keeps.withSlab id value
  apart := ⟨apart.palette_ne, apart.storage_ne⟩

section Storage

variable {storage : PackedArray .padded}

theorem recordAt_withStorage_self (inside : id.index < workspace.sections.size) :
    (workspace.withStorage id storage).recordAt id =
      { workspace.recordAt id with storage := ⟨workspace.paddedArrays.size⟩ } :=
  getD_setIfInBounds_self inside _ _

theorem recordAt_withStorage_of_ne (different : id ≠ other) :
    (workspace.withStorage id storage).recordAt other = workspace.recordAt other :=
  getD_setIfInBounds_of_ne (mt (congrArg SectionId.mk) different) _ _

theorem KeepsSection.withStorage_self
    (keeps : workspace.KeepsSection id)
    (storage : PackedArray .padded) :
    (workspace.withStorage id storage).KeepsSection id where
  section_lt := Nat.lt_of_lt_of_eq keeps.section_lt Array.size_setIfInBounds.symm
  palette_lt := by
    rw [recordAt_withStorage_self keeps.section_lt]
    exact keeps.palette_lt
  storage_lt := by
    rw [recordAt_withStorage_self keeps.section_lt]
    exact Nat.lt_of_lt_of_eq (Nat.lt_succ_self _) (Array.size_push _).symm

theorem KeepsSection.slabAt_withStorage_self
    (keeps : workspace.KeepsSection id)
    (storage : PackedArray .padded) :
    (workspace.withStorage id storage).slabAt id =
      { workspace.slabAt id with storage } := by
  rw [slabAt, recordAt_withStorage_self keeps.section_lt]
  exact congrArg (Section.mk _) (getD_push_self workspace.paddedArrays storage _)

/-- A new storage is shared with nobody. -/
theorem Apart.spares_withStorage
    (apart : workspace.Apart id other)
    (keepsChanged : workspace.KeepsSection id)
    (keeps : workspace.KeepsSection other)
    (storage : PackedArray .padded) :
    workspace.Spares (workspace.withStorage id storage) id other := by
  have sameRecord : (workspace.withStorage id storage).recordAt other = workspace.recordAt other :=
    recordAt_withStorage_of_ne apart.ne
  refine ⟨sameRecord, ?_, ⟨?_, ?_, ?_⟩, ⟨?_, ?_⟩⟩
  · rw [slabAt, sameRecord]
    exact congrArg (Section.mk _) (getD_push_of_lt keeps.storage_lt storage _)
  · exact Nat.lt_of_lt_of_eq keeps.section_lt Array.size_setIfInBounds.symm
  · rw [sameRecord]
    exact keeps.palette_lt
  · rw [sameRecord]
    exact Nat.lt_of_lt_of_eq (Nat.lt_succ_of_lt keeps.storage_lt) (Array.size_push _).symm
  · rw [sameRecord, recordAt_withStorage_self keepsChanged.section_lt]
    exact apart.palette_ne
  · rw [sameRecord, recordAt_withStorage_self keepsChanged.section_lt]
    intro sameStorage
    exact absurd (congrArg PaddedId.index sameStorage).symm (Nat.ne_of_lt keeps.storage_lt)

end Storage

theorem run_sectionRecord (workspace : Workspace) (id : SectionId) :
    (sectionRecord id).run.run workspace = (.ok (workspace.recordAt id), workspace) :=
  rfl

/-- A compaction that stops on the way leaves the section renumbered as far as it came. -/
theorem run_compact_of_error
    {cause : StorageError}
    (stopped : (workspace.slabAt id).compaction.outcome = .error cause) :
    (compact id).run.run workspace =
      (.error cause, workspace.withSlab id (workspace.slabAt id).compact.1) := by
  rw [compact, run_bind_of_ok (run_sectionRecord workspace id),
    run_bind_of_ok (run_slab workspace id), Section.compact]
  simp only [stopped]
  rfl

theorem run_compact_of_ok
    {storage : PackedArray .padded}
    (done : (workspace.slabAt id).compaction.outcome = .ok storage) :
    (compact id).run.run workspace =
      (.ok (),
        (workspace.withSlab id
          { palette := (workspace.slabAt id).compaction.palette
            storage := (workspace.slabAt id).compaction.storage }).withStorage id storage) := by
  rw [compact, run_bind_of_ok (run_sectionRecord workspace id),
    run_bind_of_ok (run_slab workspace id)]
  simp only [done]
  rfl

/-- A compaction changes its section as the rule says, and none that shares nothing with it. -/
theorem KeepsSection.run_compact (keeps : workspace.KeepsSection id) :
    ∃ next, (compact id).run.run workspace = ((workspace.slabAt id).compact.2, next) ∧
      next.chunks = workspace.chunks ∧ next.KeepsSection id ∧
      next.slabAt id = (workspace.slabAt id).compact.1 ∧
      ∀ other, workspace.KeepsSection other → workspace.Apart id other →
        workspace.Spares next id other := by
  cases outcome : (workspace.slabAt id).compaction.outcome with
  | error cause =>
      have stops : (workspace.slabAt id).compact.2 = .error cause := by
        simp only [Section.compact, outcome]
      have ran := run_compact_of_error outcome
      rw [← stops] at ran
      refine ⟨_, ran, rfl, keeps.withSlab id _, keeps.slabAt_withSlab_self _,
        fun other keepsOther apart => ?_⟩
      exact apart.spares_withSlab keepsOther _
  | ok storage =>
      have compacted : (workspace.slabAt id).compact =
          ({ palette := (workspace.slabAt id).compaction.palette, storage }, .ok ()) := by
        simp only [Section.compact, outcome]
      have succeeds : (workspace.slabAt id).compact.2 = .ok () := congrArg Prod.snd compacted
      have ran := run_compact_of_ok outcome
      rw [← succeeds] at ran
      refine ⟨_, ran, rfl, (keeps.withSlab id _).withStorage_self storage, ?_,
        fun other keepsOther apart => ?_⟩
      · rw [(keeps.withSlab id _).slabAt_withStorage_self, keeps.slabAt_withSlab_self, compacted]
      · -- The removals work on the old storage; only then does a new one take its place.
        have spares := apart.spares_withSlab keepsOther
          { palette := (workspace.slabAt id).compaction.palette
            storage := (workspace.slabAt id).compaction.storage }
        exact spares.trans
          (spares.apart.spares_withStorage (keeps.withSlab id _) spares.keeps storage)

/-! ## New sections -/

/-- The workspace with a new section behind all others. -/
def withSection (workspace : Workspace) (value : Section) : Workspace :=
  let record : SectionRecord :=
    { palette := ⟨workspace.palettes.size⟩, storage := ⟨workspace.paddedArrays.size⟩ }
  { workspace with
    palettes := workspace.palettes.push value.palette
    paddedArrays := workspace.paddedArrays.push value.storage
    sections := workspace.sections.push record }

theorem run_addSection (workspace : Workspace) (value : Section) :
    (addSection value).run.run workspace =
      (.ok ⟨workspace.sections.size⟩, workspace.withSection value) :=
  rfl

theorem recordAt_withSection_self (workspace : Workspace) (value : Section) :
    (workspace.withSection value).recordAt ⟨workspace.sections.size⟩ =
      { palette := ⟨workspace.palettes.size⟩, storage := ⟨workspace.paddedArrays.size⟩ } :=
  getD_push_self workspace.sections _ _

theorem keepsSection_withSection_self (workspace : Workspace) (value : Section) :
    (workspace.withSection value).KeepsSection ⟨workspace.sections.size⟩ where
  section_lt := Nat.lt_of_lt_of_eq (Nat.lt_succ_self _) (Array.size_push _).symm
  palette_lt := by
    rw [recordAt_withSection_self]
    exact Nat.lt_of_lt_of_eq (Nat.lt_succ_self _) (Array.size_push _).symm
  storage_lt := by
    rw [recordAt_withSection_self]
    exact Nat.lt_of_lt_of_eq (Nat.lt_succ_self _) (Array.size_push _).symm

theorem slabAt_withSection_self (workspace : Workspace) (value : Section) :
    (workspace.withSection value).slabAt ⟨workspace.sections.size⟩ = value := by
  rw [slabAt, recordAt_withSection_self]
  exact congrArg₂ Section.mk
    (getD_push_self workspace.palettes value.palette default)
    (getD_push_self workspace.paddedArrays value.storage _)

theorem KeepsSection.spares_withSection
    (keeps : workspace.KeepsSection other)
    (value : Section) :
    workspace.Spares (workspace.withSection value) ⟨workspace.sections.size⟩ other := by
  have sameRecord : (workspace.withSection value).recordAt other = workspace.recordAt other :=
    getD_push_of_lt keeps.section_lt _ _
  refine ⟨sameRecord, ?_, ⟨?_, ?_, ?_⟩, ⟨?_, ?_⟩⟩
  · rw [slabAt, sameRecord]
    exact congrArg₂ Section.mk
      (getD_push_of_lt keeps.palette_lt value.palette default)
      (getD_push_of_lt keeps.storage_lt value.storage _)
  · exact Nat.lt_of_lt_of_eq (Nat.lt_succ_of_lt keeps.section_lt) (Array.size_push _).symm
  · rw [sameRecord]
    exact Nat.lt_of_lt_of_eq (Nat.lt_succ_of_lt keeps.palette_lt) (Array.size_push _).symm
  · rw [sameRecord]
    exact Nat.lt_of_lt_of_eq (Nat.lt_succ_of_lt keeps.storage_lt) (Array.size_push _).symm
  · rw [sameRecord, recordAt_withSection_self]
    intro samePalette
    exact absurd (congrArg PaletteId.index samePalette).symm (Nat.ne_of_lt keeps.palette_lt)
  · rw [sameRecord, recordAt_withSection_self]
    intro sameStorage
    exact absurd (congrArg PaddedId.index sameStorage).symm (Nat.ne_of_lt keeps.storage_lt)

end Workspace

end BlockVolume
