import BlockVolume.Proofs.Chunk.Calls
import BlockVolume.Proofs.Workspace.Sections

namespace BlockVolume

/-!
# Chunks of a workspace

A chunk whose sections share no palette and no storage behaves as one that holds
the sections themselves: each call answers as the rule for such a chunk says, and
leaves behind a workspace whose chunk reads as that rule left it.
-/

/-- The session of a call; a section that is put in place is a new one. -/
def ChunkCall.session (id : ChunkId) : ChunkCall → Session Unit
  | .get x y z => do
      let _ ← Workspace.chunkGet id x y z
  | .set x y z state => do
      let _ ← Workspace.chunkSet id x y z state
  | .setSection index slab _ => do
      Workspace.chunkSetSection id index (← Workspace.addSection slab)
  | .compact index => do
      match ← Workspace.lift ((← Workspace.chunk id).slot index) with
      | none => pure ()
      | some held => Workspace.compact held

namespace Workspace

/-- The chunk that an id stands for. -/
def chunkAt (workspace : Workspace) (id : ChunkId) : Chunk SectionId :=
  workspace.chunks.getD id.index default

/-- The chunk with its sections in the place of their ids. -/
def chunkValueAt (workspace : Workspace) (id : ChunkId) : Chunk Section :=
  (workspace.chunkAt id).map workspace.slabAt

/-- The workspace with another chunk under an id. -/
def withChunk (workspace : Workspace) (id : ChunkId) (chunk : Chunk SectionId) : Workspace :=
  { workspace with chunks := workspace.chunks.setIfInBounds id.index chunk }

/-- The workspace with a new section in a slot of a chunk. -/
def withSectionIn
    (workspace : Workspace)
    (id : ChunkId)
    (slot : Fin 16)
    (slab : Section) :
    Workspace :=
  (workspace.withSection slab).withChunk id
    ((workspace.chunkAt id).put slot ⟨workspace.sections.size⟩)

/-- A chunk that is kept, whose sections are kept and share nothing with each other. -/
structure OwnsChunk (workspace : Workspace) (id : ChunkId) : Prop where
  chunk_lt : id.index < workspace.chunks.size
  keeps : ∀ slot held, (workspace.chunkAt id).content slot = some held →
    workspace.KeepsSection held
  apart : ∀ slot other held otherHeld, slot ≠ other →
    (workspace.chunkAt id).content slot = some held →
    (workspace.chunkAt id).content other = some otherHeld →
    workspace.Apart held otherHeld

variable {workspace next : Workspace} {id : ChunkId} {slot : Fin 16} {held : SectionId}

/-! ## Loading and storing -/

theorem run_chunk (workspace : Workspace) (id : ChunkId) :
    (chunk id).run.run workspace = (.ok (workspace.chunkAt id), workspace) :=
  rfl

/-- A section is put in a slot if the chunk accepts it there; otherwise nothing changes. -/
theorem run_chunkSetSection
    (workspace : Workspace)
    (id : ChunkId)
    (index : Number)
    (held : SectionId) :
    (chunkSetSection id index held).run.run workspace =
      match (workspace.chunkAt id).install index held (workspace.slabAt held).defaultState with
      | .ok changed => (.ok (), workspace.withChunk id changed)
      | .error cause => (.error cause, workspace) := by
  rw [chunkSetSection, run_bind_of_ok (run_slab workspace held),
    run_bind_of_ok (run_chunk workspace id)]
  cases (workspace.chunkAt id).install index held (workspace.slabAt held).defaultState <;> rfl

theorem content_chunkValueAt (workspace : Workspace) (id : ChunkId) (slot : Fin 16) :
    (workspace.chunkValueAt id).content slot =
      ((workspace.chunkAt id).content slot).map workspace.slabAt :=
  Chunk.content_map _ _ _

/-- A chunk is read with its sections in the place of their ids. -/
theorem run_chunkValue (workspace : Workspace) (id : ChunkId) :
    (chunkValue id).run.run workspace = (.ok (workspace.chunkValueAt id), workspace) := by
  have reads : ∀ content : Option SectionId,
      (match content with
        | none => pure none
        | some held => some <$> slab held : Session (Option Section)).run.run workspace =
          (.ok (content.map workspace.slabAt), workspace) := by
    intro content
    cases content <;> rfl
  have sections := run_mapM_of_reads reads (workspace.chunkAt id).slots
  rw [chunkValue, run_bind_of_ok (run_chunk workspace id)]
  exact run_bind_of_ok sections _

/-- Storing a chunk touches no section. -/
theorem KeepsSection.withChunk
    (keeps : workspace.KeepsSection held)
    (id : ChunkId)
    (chunk : Chunk SectionId) :
    (workspace.withChunk id chunk).KeepsSection held :=
  ⟨keeps.section_lt, keeps.palette_lt, keeps.storage_lt⟩

theorem Spares.withChunk
    {other : SectionId}
    (spares : workspace.Spares next held other)
    (id : ChunkId)
    (chunk : Chunk SectionId) :
    workspace.Spares (next.withChunk id chunk) held other where
  recordAt_eq := spares.recordAt_eq
  slabAt_eq := spares.slabAt_eq
  keeps := spares.keeps.withChunk id chunk
  apart := ⟨spares.apart.palette_ne, spares.apart.storage_ne⟩

namespace OwnsChunk

/-- A change of the section in one slot leaves the others as they were. -/
theorem put
    (owns : workspace.OwnsChunk id)
    (sameChunks : next.chunks.size = workspace.chunks.size)
    (chunkAt_eq : next.chunkAt id = (workspace.chunkAt id).put slot held)
    (keepsHeld : next.KeepsSection held)
    (spares : ∀ other kept, other ≠ slot → (workspace.chunkAt id).content other = some kept →
      workspace.Spares next held kept) :
    next.OwnsChunk id ∧
      next.chunkValueAt id = (workspace.chunkValueAt id).put slot (next.slabAt held) := by
  refine ⟨⟨sameChunks ▸ owns.chunk_lt, ?_, ?_⟩, ?_⟩
  · intro other kept present
    rw [chunkAt_eq, Chunk.content_put] at present
    split at present
    · cases present
      exact keepsHeld
    · rename_i elsewhere
      exact (spares other kept elsewhere present).keeps
  · intro left right leftHeld rightHeld different leftPresent rightPresent
    rw [chunkAt_eq, Chunk.content_put] at leftPresent rightPresent
    split at leftPresent
    · rename_i leftHere
      cases leftPresent
      rw [if_neg (leftHere ▸ different.symm)] at rightPresent
      exact (spares right rightHeld (leftHere ▸ different.symm) rightPresent).apart
    · rename_i leftElsewhere
      have leftSpared := spares left leftHeld leftElsewhere leftPresent
      split at rightPresent
      · cases rightPresent
        exact leftSpared.apart.symm
      · rename_i rightElsewhere
        -- Neither of them is the one that was changed, so both use what they used before.
        have rightSpared := spares right rightHeld rightElsewhere rightPresent
        have apart := owns.apart left right leftHeld rightHeld different leftPresent rightPresent
        exact apart.congr leftSpared.recordAt_eq rightSpared.recordAt_eq
  · rw [chunkValueAt, chunkAt_eq, Chunk.map_put fun other kept elsewhere present =>
      (spares other kept elsewhere present).slabAt_eq]
    rfl

/-- A new section outside the chunk does not show in it. -/
theorem withSection
    (owns : workspace.OwnsChunk id)
    (slab : Section) :
    (workspace.withSection slab).OwnsChunk id ∧
      (workspace.withSection slab).chunkValueAt id = workspace.chunkValueAt id := by
  have spares : ∀ slot kept, (workspace.chunkAt id).content slot = some kept →
      workspace.Spares (workspace.withSection slab) ⟨workspace.sections.size⟩ kept :=
    fun slot kept present => (owns.keeps slot kept present).spares_withSection slab
  refine ⟨⟨owns.chunk_lt, fun slot kept present => (spares slot kept present).keeps, ?_⟩, ?_⟩
  · intro left right leftHeld rightHeld different leftPresent rightPresent
    have apart := owns.apart left right leftHeld rightHeld different leftPresent rightPresent
    have leftSame := (spares left leftHeld leftPresent).recordAt_eq
    have rightSame := (spares right rightHeld rightPresent).recordAt_eq
    exact apart.congr leftSame rightSame
  · exact Chunk.map_congr fun slot kept present => (spares slot kept present).slabAt_eq

/-- A new section in a slot belongs to the chunk alone. -/
theorem withSectionIn
    (owns : workspace.OwnsChunk id)
    (slot : Fin 16)
    (slab : Section) :
    (workspace.withSectionIn id slot slab).OwnsChunk id ∧
      ((workspace.withSectionIn id slot slab).chunkAt id).content slot =
        some ⟨workspace.sections.size⟩ ∧
      (workspace.withSectionIn id slot slab).slabAt ⟨workspace.sections.size⟩ = slab ∧
      (workspace.withSectionIn id slot slab).chunkValueAt id =
        (workspace.chunkValueAt id).put slot slab := by
  have chunkAt_eq : (workspace.withSectionIn id slot slab).chunkAt id =
      (workspace.chunkAt id).put slot ⟨workspace.sections.size⟩ :=
    getD_setIfInBounds_self owns.chunk_lt _ default
  have slabAt_eq :
      (workspace.withSectionIn id slot slab).slabAt ⟨workspace.sections.size⟩ = slab :=
    workspace.slabAt_withSection_self slab
  obtain ⟨ownsPlaced, valueAt_eq⟩ :=
    owns.put Array.size_setIfInBounds chunkAt_eq
      ((workspace.keepsSection_withSection_self slab).withChunk id _)
      fun other kept _ present =>
        ((owns.keeps other kept present).spares_withSection slab).withChunk id _
  rw [slabAt_eq] at valueAt_eq
  refine ⟨ownsPlaced, ?_, slabAt_eq, valueAt_eq⟩
  rw [chunkAt_eq, Chunk.content_put, if_pos rfl]

/-- A slot that holds nothing is given an empty section. -/
theorem run_ensureSection
    (owns : workspace.OwnsChunk id)
    (slot : Fin 16) :
    ∃ held next, (ensureSection id slot).run.run workspace = (.ok held, next) ∧
      next.OwnsChunk id ∧ (next.chunkAt id).content slot = some held ∧
      next.slabAt held =
        ((workspace.chunkValueAt id).content slot).getD
          (.empty (workspace.chunkValueAt id).defaultState) ∧
      next.chunkValueAt id = (workspace.chunkValueAt id).put slot (next.slabAt held) := by
  rw [content_chunkValueAt, ensureSection, run_bind_of_ok (run_chunk workspace id)]
  cases present : (workspace.chunkAt id).content slot with
  | some held =>
      refine ⟨held, workspace, rfl, owns, present, rfl, (Chunk.put_of_content ?_).symm⟩
      rw [content_chunkValueAt, present, Option.map_some]
  | none =>
      obtain ⟨ownsPlaced, presentNow, slabAt_eq, valueAt_eq⟩ :=
        owns.withSectionIn slot (.empty (workspace.chunkAt id).defaultState)
      exact ⟨⟨workspace.sections.size⟩, workspace.withSectionIn id slot _, rfl, ownsPlaced,
        presentNow, slabAt_eq, by rw [slabAt_eq, valueAt_eq]⟩

/-- What happens to the section in a slot happens to that slot of the chunk. -/
theorem change
    (owns : workspace.OwnsChunk id)
    (present : (workspace.chunkAt id).content slot = some held)
    (keepsHeld : next.KeepsSection held)
    (sameChunks : next.chunks = workspace.chunks)
    (spares : ∀ other, workspace.KeepsSection other → workspace.Apart held other →
      workspace.Spares next held other) :
    next.OwnsChunk id ∧
      next.chunkValueAt id = (workspace.chunkValueAt id).put slot (next.slabAt held) := by
  have chunkAt_eq : next.chunkAt id = (workspace.chunkAt id).put slot held := by
    rw [Chunk.put_of_content present, chunkAt, sameChunks, chunkAt]
  refine owns.put (congrArg Array.size sameChunks) chunkAt_eq keepsHeld
    fun other kept elsewhere presentThere => ?_
  exact spares kept (owns.keeps other kept presentThere)
    (owns.apart slot other held kept elsewhere.symm present presentThere)

/-! ## Calls -/

/-- A read answers as the chunk of sections does. -/
theorem run_chunkGet (workspace : Workspace) (id : ChunkId) (x y z : Number) :
    (chunkGet id x y z).run.run workspace =
      ((workspace.chunkValueAt id).get x y z, workspace) := by
  rw [chunkGet, run_bind_of_ok (run_chunk workspace id)]
  cases addressed : Chunk.place? x y z with
  | none =>
      rw [Chunk.locate_of_outside addressed, Chunk.get_of_outside _ addressed]
      rfl
  | some place =>
      rw [Chunk.locate_of_place addressed, Chunk.get_of_place _ addressed, content_chunkValueAt]
      refine (run_bind_of_ok (run_lift_ok workspace _) _).trans ?_
      dsimp only
      cases (workspace.chunkAt id).content place.slot <;> rfl

/-- So does a write, and it leaves behind what the rule leaves behind. -/
theorem run_chunkSet
    (owns : workspace.OwnsChunk id)
    (x y z : Number)
    (state : BlockState) :
    ∃ next, (chunkSet id x y z state).run.run workspace =
        (((workspace.chunkValueAt id).set x y z state).2, next) ∧
      next.OwnsChunk id ∧
      next.chunkValueAt id = ((workspace.chunkValueAt id).set x y z state).1 := by
  rw [chunkSet]
  cases addressed : Chunk.place? x y z with
  | none =>
      rw [Chunk.locate_of_outside addressed, Chunk.set_of_outside _ addressed]
      exact ⟨workspace, rfl, owns, rfl⟩
  | some place =>
      obtain ⟨held, placed, ensured, ownsPlaced, present, slabAt_eq, valueAt_eq⟩ :=
        owns.run_ensureSection place.slot
      have keepsHeld := ownsPlaced.keeps place.slot held present
      have keepsWritten :=
        keepsHeld.withSlab held ((placed.slabAt held).setBlock place.cell state).1
      obtain ⟨ownsNext, nextValueAt_eq⟩ :=
        ownsPlaced.change present keepsWritten rfl fun other keeps apart =>
          apart.spares_withSlab keeps _
      rw [keepsHeld.slabAt_withSlab_self, valueAt_eq, Chunk.put_put] at nextValueAt_eq
      rw [Chunk.locate_of_place addressed, Chunk.set_of_place _ addressed, ← slabAt_eq]
      exact ⟨_, (run_bind_of_ok ensured _).trans (run_setBlock placed held place.cell state),
        ownsNext, nextValueAt_eq⟩

/-- A new section is put in place, or left aside when it is refused. -/
theorem run_setSection
    (owns : workspace.OwnsChunk id)
    (index : Number)
    (slab : Section)
    (consistent : slab.Consistent) :
    ∃ next, ((ChunkCall.setSection index slab consistent).session id).run.run workspace =
        (((workspace.chunkValueAt id).perform (.setSection index slab consistent)).2, next) ∧
      next.OwnsChunk id ∧
      next.chunkValueAt id =
        ((workspace.chunkValueAt id).perform (.setSection index slab consistent)).1 := by
  obtain ⟨ownsAside, asideValueAt_eq⟩ := owns.withSection slab
  have sameChunk : (workspace.withSection slab).chunkAt id = workspace.chunkAt id := rfl
  have sameState : (workspace.chunkAt id).defaultState = (workspace.chunkValueAt id).defaultState :=
    rfl
  rw [ChunkCall.session, run_bind_of_ok (run_addSection workspace slab), run_chunkSetSection,
    slabAt_withSection_self, sameChunk, Chunk.perform, Chunk.setSection]
  cases denoted : index.below? 16 with
  | none =>
      rw [Chunk.install_of_outside denoted, Chunk.install_of_outside denoted]
      exact ⟨_, rfl, ownsAside, asideValueAt_eq⟩
  | some slot =>
      cases sameDefault : slab.defaultState.same (workspace.chunkAt id).defaultState with
      | false =>
          rw [Chunk.install_of_mismatch denoted sameDefault,
            Chunk.install_of_mismatch denoted (sameState ▸ sameDefault)]
          exact ⟨_, rfl, ownsAside, asideValueAt_eq⟩
      | true =>
          obtain ⟨ownsPlaced, -, -, valueAt_eq⟩ := owns.withSectionIn slot slab
          rw [Chunk.install_of_same denoted sameDefault,
            Chunk.install_of_same denoted (sameState ▸ sameDefault)]
          exact ⟨_, rfl, ownsPlaced, valueAt_eq⟩

/-- A section in a slot is compacted there. -/
theorem run_compact
    (owns : workspace.OwnsChunk id)
    (index : Number) :
    ∃ next, ((ChunkCall.compact index).session id).run.run workspace =
        (((workspace.chunkValueAt id).perform (.compact index)).2, next) ∧
      next.OwnsChunk id ∧
      next.chunkValueAt id = ((workspace.chunkValueAt id).perform (.compact index)).1 := by
  rw [ChunkCall.session, run_bind_of_ok (run_chunk workspace id), Chunk.slot, Chunk.perform]
  cases Chunk.checkSlot index with
  | error cause => exact ⟨workspace, rfl, owns, rfl⟩
  | ok slot =>
      simp only [Chunk.compactSlot, content_chunkValueAt]
      cases present : (workspace.chunkAt id).content slot with
      | none =>
          refine ⟨workspace, ?_, owns, rfl⟩
          refine (run_bind_of_ok (run_lift_ok workspace _) _).trans ?_
          rw [present]
          rfl
      | some held =>
          obtain ⟨next, ran, sameChunks, keepsHeld, slabAt_eq, spares⟩ :=
            (owns.keeps slot held present).run_compact
          obtain ⟨ownsNext, valueAt_eq⟩ := owns.change present keepsHeld sameChunks spares
          refine ⟨next, ?_, ownsNext, ?_⟩
          · refine (run_bind_of_ok (run_lift_ok workspace _) _).trans ?_
            rw [present]
            exact ran
          · rw [valueAt_eq, slabAt_eq]
            rfl

/-- Every call answers and changes the chunk as the rule for a chunk of sections says. -/
theorem run_session
    (owns : workspace.OwnsChunk id)
    (call : ChunkCall) :
    ∃ next, (call.session id).run.run workspace =
        (((workspace.chunkValueAt id).perform call).2, next) ∧
      next.OwnsChunk id ∧ next.chunkValueAt id = ((workspace.chunkValueAt id).perform call).1 := by
  cases call with
  | get x y z => exact ⟨workspace, run_ignored (run_chunkGet workspace id x y z), owns, rfl⟩
  | set x y z state =>
      obtain ⟨next, ran, ownsNext, valueAt_eq⟩ := owns.run_chunkSet x y z state
      exact ⟨next, run_ignored ran, ownsNext, valueAt_eq⟩
  | setSection index slab consistent => exact owns.run_setSection index slab consistent
  | compact index => exact owns.run_compact index

end OwnsChunk

end Workspace

end BlockVolume
