import BlockVolume.Proofs.Chunk.Emptiness
import BlockVolume.Proofs.Workspace.ChunkRuns

namespace BlockVolume

/-!
# Emptiness of chunks after a run

What a chunk says about its emptiness after any row of calls is what the reads
of its blocks say: the chunk as a whole, the list of its filled sections and the
inspection of a slot.
-/

namespace Workspace

/-- A read answers with a state exactly when the chunk of the sections does. -/
theorem run_chunkGet_eq_ok_iff
    {workspace : Workspace}
    {id : ChunkId}
    {x y z : Number}
    {found : BlockState} :
    (chunkGet id x y z).run.run workspace = (.ok found, workspace) ↔
      (workspace.chunkValueAt id).get x y z = .ok found := by
  rw [OwnsChunk.run_chunkGet]
  exact ⟨congrArg Prod.fst, fun read => Prod.ext read rfl⟩

/-- The section in a slot is consistent. -/
theorem ShowsDone.consistent_of_content
    {workspace : Workspace}
    {id : ChunkId}
    {defaultState : BlockState}
    {done : List ChunkCall}
    (shown : workspace.ShowsDone id defaultState done)
    {slot : Fin 16}
    {held : SectionId}
    (present : (workspace.chunkAt id).content slot = some held) :
    (workspace.slabAt held).Consistent := by
  have presentValue : (workspace.chunkValueAt id).content slot = some (workspace.slabAt held) := by
    rw [content_chunkValueAt, present, Option.map_some]
  obtain ⟨row, showsRow, -⟩ := shown.shows.present slot _ presentValue
  exact showsRow.consistent

/--
A new chunk after any row of calls. It is empty exactly when every block reads as
the default state. The filled sections are listed in strictly ascending order, and
they are those with a block, among their sixteen levels, that reads otherwise. A
slot is inspected as filled when it is listed, as empty when a section is there
that is not listed, and as absent when none is there. The sections in the slots
are consistent, and a consistent section is empty exactly when each of its blocks
reads as its default state.
-/
theorem chunk_emptiness_agrees_with_reads
    {chunk : Chunk SectionId}
    {options : ChunkOptions}
    (made : Chunk.make options = .ok chunk)
    (start : Workspace)
    (calls : List ChunkCall) :
    ∃ id added later value,
      (addChunk chunk).run.run start = (.ok id, added) ∧
      later = added.afterChunkCalls id calls ∧
      (chunkValue id).run.run later = (.ok value, later) ∧
      (value.isEmpty = true ↔
        ∀ x y z place, Chunk.place? x y z = some place →
          ∃ found, (chunkGet id x y z).run.run later = (.ok found, later) ∧
            found.same options.defaultState = true) ∧
      value.nonEmptySections.Pairwise (· < ·) ∧
      (∀ index, index ∈ value.nonEmptySections ↔
        ∃ x y z place found, Chunk.place? x y z = some place ∧
          16 * index ≤ place.level.val ∧ place.level.val < 16 * index + 16 ∧
          (chunkGet id x y z).run.run later = (.ok found, later) ∧
          found.same options.defaultState = false) ∧
      (∀ index slot, index.below? 16 = some slot →
        (value.inspect index = .ok .absent ↔ (later.chunkAt id).slot index = .ok none) ∧
        (value.inspect index = .ok .empty ↔
          (∃ held, (later.chunkAt id).slot index = .ok (some held)) ∧
            slot.val ∉ value.nonEmptySections) ∧
        (value.inspect index = .ok .filled ↔ slot.val ∈ value.nonEmptySections)) ∧
      (∀ slot held, (later.chunkAt id).content slot = some held →
        (later.slabAt held).Consistent) ∧
      ∀ slab : Section, slab.Consistent →
        (slab.isEmpty = true ↔
          ∀ x y z place, Section.place? x y z = some place →
            ∃ found, slab.get x y z = .ok found ∧ found.same slab.defaultState = true) := by
  have shown := (ShowsDone.make made start).run calls
  rw [List.nil_append] at shown
  simp only [run_chunkGet_eq_ok_iff, ← shown.defaultState_eq]
  refine ⟨⟨start.chunks.size⟩, start.withNewChunk chunk, _, _, rfl, rfl, run_chunkValue _ _,
    ?_, ?_, ?_, ?_, ?_, ?_⟩
  · exact shown.shows.isEmpty_iff_get
  · exact Chunk.filledIndices_ascending _
  · exact fun index => shown.shows.mem_nonEmptySections_iff_get
  · intro index slot denoted
    obtain ⟨absentIff, emptyIff, filledIff⟩ := Chunk.inspect_of_denoted _ denoted
    rw [content_chunkValueAt] at absentIff emptyIff
    rw [absentIff, emptyIff, filledIff, Chunk.slot_of_denoted _ denoted]
    simp [Option.ne_none_iff_exists']
  · exact fun slot held present => shown.consistent_of_content present
  · exact fun slab consistent => consistent.isEmpty_iff_get

/-- Stone written in a new chunk of air fills one of its slots and leaves the next absent. -/
theorem chunk_emptiness_agrees_with_reads_of_stone :
    ∃ (chunk : Chunk SectionId) (options : ChunkOptions) (stone : BlockState) (id : ChunkId)
        (later : Workspace) (value : Chunk Section),
      Chunk.make options = .ok chunk ∧
      later = (initial.after (addChunk chunk)).afterChunkCalls id [.set 1 37 2 stone] ∧
      (chunkValue id).run.run later = (.ok value, later) ∧
      value.isEmpty = false ∧ 2 ∈ value.nonEmptySections ∧
      value.inspect 2 = .ok .filled ∧ value.inspect 3 = .ok .absent := by
  let stone : BlockState := .bare ⟨"minecraft", "stone", by decide, by decide⟩
  let options : ChunkOptions := { x := 0, z := 0, dataVersion := 2586, defaultState := .air }
  let place : Chunk.Place :=
    { column := ⟨1, by decide⟩, level := ⟨37, by decide⟩, row := ⟨2, by decide⟩ }
  obtain ⟨chunk, made⟩ : ∃ chunk : Chunk SectionId, Chunk.make options = .ok chunk := ⟨_, rfl⟩
  have addressed : Chunk.place? 1 37 2 = some place := by decide
  have second : (2 : Number).below? 16 = some 2 := by decide
  have third : (3 : Number).below? 16 = some 3 := by decide
  obtain ⟨id, added, _, value, ran, rfl, valued, emptyIff, -, listedIff, inspectIff, -⟩ :=
    chunk_emptiness_agrees_with_reads made initial [.set 1 37 2 stone]
  have fresh : (addChunk chunk).run.run initial =
      (.ok ⟨initial.chunks.size⟩, initial.withNewChunk chunk) := rfl
  rw [fresh] at ran
  cases ran
  have shown := ShowsDone.make made initial
  have wrote : ∃ previous next,
      (chunkSet ⟨initial.chunks.size⟩ 1 37 2 stone).run.run (initial.withNewChunk chunk) =
        (.ok previous, next) := by
    rcases shown.writes addressed stone with ⟨previous, next, wrote, -⟩ | ⟨held, present, -⟩
    · exact ⟨previous, next, wrote⟩
    · have vacant := (shown.vacant_iff place.slot).2 fun _ member => absurd member List.not_mem_nil
      rw [content_chunkValueAt, present] at vacant
      cases vacant
  obtain ⟨previous, next, wrote⟩ := wrote
  have answered :
      ((ChunkCall.set 1 37 2 stone).session ⟨initial.chunks.size⟩).run.run
        (initial.withNewChunk chunk) = (.ok (), next) :=
    run_ignored wrote
  have shownLater := shown.run [.set 1 37 2 stone]
  simp only [successes, successOf, answered, List.append_nil, List.nil_append] at shownLater
  obtain ⟨found, read, sameStone⟩ := shownLater.reads addressed
  have decided :
      (ChunkCall.lastDecided [.set 1 37 2 stone] place).getD options.defaultState = stone := by
    simp [ChunkCall.lastDecided, ChunkCall.decides?, addressed]
  rw [decided, BlockState.same, beq_iff_eq] at sameStone
  have differs : found.same options.defaultState = false := by
    rw [BlockState.same, sameStone]
    decide
  have listed : 2 ∈ value.nonEmptySections :=
    (listedIff 2).2 ⟨1, 37, 2, place, found, addressed, by decide, by decide, read, differs⟩
  refine ⟨chunk, options, stone, _, _, value, made, ?_, valued, ?_, listed, ?_, ?_⟩
  · rw [after_of_run fresh]
  · refine Bool.eq_false_iff.2 fun isEmpty => ?_
    obtain ⟨again, readAgain, sameDefault⟩ := emptyIff.1 isEmpty 1 37 2 place addressed
    rw [read] at readAgain
    cases readAgain
    rw [differs] at sameDefault
    cases sameDefault
  · exact (inspectIff 2 2 second).2.2.2 listed
  · rw [(inspectIff 3 3 third).1, shownLater.slot_eq_none_iff third]
    decide

end Workspace

end BlockVolume
