import BlockVolume.Proofs.Workspace.Chunks

namespace BlockVolume

/-!
# Runs of calls on a chunk

A chunk behaves as a total map from places to states. The calls that succeeded
tell everything about it: a block has the state that was put there last, by a
write or with a whole section, and a slot holds a section once something was put
in it. A call that is refused leaves no trace.
-/

namespace Workspace

/-- The workspace after a row of calls, each of which starts whether or not the one before failed. -/
def afterChunkCalls (workspace : Workspace) (id : ChunkId) (calls : List ChunkCall) : Workspace :=
  calls.foldl (fun workspace call => workspace.after (call.session id)) workspace

/-- A call, if it succeeds. -/
def successOf (workspace : Workspace) (id : ChunkId) (call : ChunkCall) : List ChunkCall :=
  match ((call.session id).run.run workspace).1 with
  | .ok _ => [call]
  | .error _ => []

/-- The calls of a row that succeed. -/
def successes (workspace : Workspace) (id : ChunkId) : List ChunkCall → List ChunkCall
  | [] => []
  | call :: rest =>
      workspace.successOf id call ++ (workspace.after (call.session id)).successes id rest

/-- The workspace with a new chunk behind all others. -/
def withNewChunk (workspace : Workspace) (chunk : Chunk SectionId) : Workspace :=
  { workspace with chunks := workspace.chunks.push chunk }

/-- A chunk that shows what successful calls put in it. -/
structure ShowsDone
    (workspace : Workspace)
    (id : ChunkId)
    (defaultState : BlockState)
    (done : List ChunkCall) :
    Prop where
  owns : workspace.OwnsChunk id
  defaultState_eq : (workspace.chunkValueAt id).defaultState = defaultState
  shows : (workspace.chunkValueAt id).Shows fun place =>
    ((ChunkCall.lastDecided done place).getD defaultState).key
  vacant_iff : ∀ slot, (workspace.chunkValueAt id).content slot = none ↔
    ∀ call ∈ done, call.fills slot = false

variable {workspace : Workspace} {id : ChunkId} {defaultState : BlockState} {done : List ChunkCall}

namespace ShowsDone

/-- A call that succeeds is the last one to decide, and one that is refused decides nothing. -/
theorem step
    (shown : workspace.ShowsDone id defaultState done)
    (call : ChunkCall) :
    (workspace.after (call.session id)).ShowsDone id defaultState
      (done ++ workspace.successOf id call) := by
  obtain ⟨next, ran, ownsNext, valueAt_eq⟩ := shown.owns.run_session call
  have sameDefault : (next.chunkValueAt id).defaultState = defaultState := by
    rw [valueAt_eq, Chunk.defaultState_perform, shown.defaultState_eq]
  rw [after_of_run ran, successOf, ran]
  obtain succeeds | refuses := shown.shows.perform call
  · simp only [succeeds.outcome]
    refine ⟨ownsNext, sameDefault, ?_, fun slot => ?_⟩
    · have laterKeys :
          (fun place => ((ChunkCall.lastDecided (done ++ [call]) place).getD defaultState).key) =
            call.keysAfter fun place => ((ChunkCall.lastDecided done place).getD defaultState).key := by
        funext place
        rw [ChunkCall.lastDecided_concat, ChunkCall.keysAfter]
        cases call.decides? place <;> rfl
      rw [valueAt_eq, laterKeys]
      exact succeeds.shows
    · rw [valueAt_eq, succeeds.vacant_iff, shown.vacant_iff]
      simp [or_imp, forall_and]
  · obtain ⟨cause, refused⟩ := refuses.outcome
    simp only [refused, List.append_nil]
    refine ⟨ownsNext, sameDefault, ?_, fun slot => ?_⟩
    · rw [valueAt_eq]
      exact refuses.shows
    · rw [valueAt_eq, refuses.vacant_iff, shown.vacant_iff]

theorem run
    (shown : workspace.ShowsDone id defaultState done)
    (calls : List ChunkCall) :
    (workspace.afterChunkCalls id calls).ShowsDone id defaultState
      (done ++ workspace.successes id calls) := by
  -- The first call is among the done ones when the rest of the run starts.
  induction calls generalizing workspace done with
  | nil =>
      rw [successes, List.append_nil]
      exact shown
  | cons call rest inductionHypothesis =>
      rw [successes, ← List.append_assoc]
      exact inductionHypothesis (shown.step call)

/-- A new chunk shows its default state. -/
theorem make
    {options : ChunkOptions}
    {chunk : Chunk SectionId}
    (made : Chunk.make options = .ok chunk)
    (start : Workspace) :
    (start.withNewChunk chunk).ShowsDone ⟨start.chunks.size⟩ options.defaultState [] := by
  have chunkAt_eq : (start.withNewChunk chunk).chunkAt ⟨start.chunks.size⟩ = chunk :=
    getD_push_self start.chunks chunk default
  obtain ⟨defaultState_eq, vacant⟩ := Chunk.of_make_eq_ok made
  have sameDefault :
      ((start.withNewChunk chunk).chunkValueAt ⟨start.chunks.size⟩).defaultState =
        options.defaultState :=
    (congrArg Chunk.defaultState chunkAt_eq).trans defaultState_eq
  have vacantValue : ∀ slot,
      ((start.withNewChunk chunk).chunkValueAt ⟨start.chunks.size⟩).content slot = none := by
    intro slot
    rw [content_chunkValueAt, chunkAt_eq, vacant slot, Option.map_none]
  refine ⟨⟨?_, ?_, ?_⟩, sameDefault, ?_, ?_⟩
  · exact Nat.lt_of_lt_of_eq (Nat.lt_succ_self _) (Array.size_push _).symm
  · intro slot held present
    rw [chunkAt_eq, vacant slot] at present
    cases present
  · intro slot other held otherHeld _ present
    rw [chunkAt_eq, vacant slot] at present
    cases present
  · rw [← sameDefault]
    exact Chunk.shows_of_vacant vacantValue
  · exact fun slot => iff_of_true (vacantValue slot) fun _ member => absurd member List.not_mem_nil

/-! ## What can be observed -/

variable {x y z index : Number} {place : Chunk.Place} {slot : Fin 16}

/-- A block has the state that was decided last. -/
theorem reads
    (shown : workspace.ShowsDone id defaultState done)
    (addressed : Chunk.place? x y z = some place) :
    ∃ found, (chunkGet id x y z).run.run workspace = (.ok found, workspace) ∧
      found.same ((ChunkCall.lastDecided done place).getD defaultState) = true := by
  obtain ⟨found, read, sameKey⟩ := shown.shows.get addressed
  refine ⟨found, ?_, ?_⟩
  · rw [OwnsChunk.run_chunkGet, read]
  · rw [BlockState.same, beq_iff_eq]
    exact sameKey

/-- A write answers with the state that the block has, unless the palette of its section is full. -/
theorem writes
    (shown : workspace.ShowsDone id defaultState done)
    (addressed : Chunk.place? x y z = some place)
    (state : BlockState) :
    (∃ previous next, (chunkSet id x y z state).run.run workspace = (.ok previous, next) ∧
      (chunkGet id x y z).run.run workspace = (.ok previous, workspace)) ∨
    ∃ held, (workspace.chunkAt id).content place.slot = some held ∧
      ¬ ((workspace.slabAt held).palette.insert state).1.Addressable := by
  obtain ⟨next, ran, -⟩ := shown.owns.run_chunkSet x y z state
  obtain ⟨written, previous, wrote, read, -⟩ | ⟨written, cause, -, -, slab, content, full⟩ :=
    shown.shows.set_or_refuses addressed state
  · refine .inl ⟨previous, next, ?_, ?_⟩
    · rw [ran, wrote]
    · rw [OwnsChunk.run_chunkGet, read]
  · rw [content_chunkValueAt, Option.map_eq_some_iff] at content
    obtain ⟨held, present, rfl⟩ := content
    exact .inr ⟨held, present, full⟩

/-- A slot is absent as long as nothing was put in it. -/
theorem slot_eq_none_iff
    (shown : workspace.ShowsDone id defaultState done)
    (denoted : index.below? 16 = some slot) :
    (workspace.chunkAt id).slot index = .ok none ↔ ∀ call ∈ done, call.fills slot = false := by
  rw [← shown.vacant_iff, content_chunkValueAt, Option.map_eq_none_iff,
    Chunk.slot_of_denoted _ denoted, Except.ok.injEq]

/-- A section with the default state of the chunk is accepted. -/
theorem accepts
    (shown : workspace.ShowsDone id defaultState done)
    (denoted : index.below? 16 = some slot)
    {slab : Section}
    (sameDefault : slab.defaultState.same defaultState = true)
    (consistent : slab.Consistent) :
    ∃ next, ((ChunkCall.setSection index slab consistent).session id).run.run workspace =
      (.ok (), next) := by
  obtain ⟨next, ran, -⟩ := shown.owns.run_setSection index slab consistent
  rw [← shown.defaultState_eq] at sameDefault
  refine ⟨next, ran.trans ?_⟩
  rw [Chunk.perform, Chunk.setSection, Chunk.install_of_same denoted sameDefault]

/-- A slot can always be compacted. -/
theorem compacts
    (shown : workspace.ShowsDone id defaultState done)
    (denoted : index.below? 16 = some slot) :
    ∃ next, ((ChunkCall.compact index).session id).run.run workspace = (.ok (), next) := by
  obtain ⟨next, ran, -⟩ := shown.owns.run_compact index
  obtain ⟨compacted, succeeds, -⟩ := shown.shows.compactSlot slot
  refine ⟨next, ran.trans ?_⟩
  simp only [Chunk.perform, Chunk.checkSlot, denoted, succeeds]

end ShowsDone

/-! ## What is refused -/

variable {x y z index : Number} {slot : Fin 16}

/-- Numbers that address no block are refused and change nothing. -/
theorem run_chunk_of_outside
    (workspace : Workspace)
    (id : ChunkId)
    (outside : Chunk.place? x y z = none)
    (state : BlockState) :
    (chunkGet id x y z).run.run workspace = (.error (.outsideChunk x y z), workspace) ∧
      (chunkSet id x y z state).run.run workspace =
        (.error (.outsideChunk x y z), workspace) := by
  refine ⟨?_, ?_⟩
  · rw [OwnsChunk.run_chunkGet, Chunk.get_of_outside _ outside]
  · rw [chunkSet, Chunk.locate_of_outside outside]
    rfl

/-- A number that denotes no slot is refused and changes nothing. -/
theorem run_slot_of_outside
    (workspace : Workspace)
    (id : ChunkId)
    (outside : index.below? 16 = none)
    (held : SectionId) :
    (chunkSetSection id index held).run.run workspace =
        (.error (.noSuchSection index), workspace) ∧
      ((ChunkCall.compact index).session id).run.run workspace =
        (.error (.noSuchSection index), workspace) := by
  refine ⟨?_, ?_⟩
  · rw [run_chunkSetSection, Chunk.install_of_outside outside]
  · rw [ChunkCall.session, run_bind_of_ok (run_chunk workspace id), Chunk.slot, Chunk.checkSlot,
      outside]
    rfl

/-- A section with another default state is refused, and nothing changes. -/
theorem run_chunkSetSection_of_mismatch
    {held : SectionId}
    (denoted : index.below? 16 = some slot)
    (mismatch :
      (workspace.slabAt held).defaultState.same (workspace.chunkAt id).defaultState = false) :
    (chunkSetSection id index held).run.run workspace =
      (.error (.defaultStateMismatch (workspace.slabAt held).defaultState
        (workspace.chunkAt id).defaultState), workspace) := by
  rw [run_chunkSetSection, Chunk.install_of_mismatch denoted mismatch]

/--
A new chunk after any row of calls. A block has the state that a successful call
put there last, by a write or with a whole section, or else the default state,
and a write answers with the state that the block has. A slot is absent as long
as no successful call puts something in it, and is never absent again. Numbers
that address no block or denote no slot are refused, and so is a section with
another default state; then nothing changes at all. All other calls succeed,
except for a write that needs one more id than there are.
-/
theorem chunk_reads_last_decided
    {chunk : Chunk SectionId}
    {options : ChunkOptions}
    (made : Chunk.make options = .ok chunk)
    (start : Workspace)
    (calls : List ChunkCall) :
    ∃ id added later done,
      (addChunk chunk).run.run start = (.ok id, added) ∧
      later = added.afterChunkCalls id calls ∧
      done = added.successes id calls ∧
      (∀ x y z place, Chunk.place? x y z = some place →
        ∃ found, (chunkGet id x y z).run.run later = (.ok found, later) ∧
          found.same ((ChunkCall.lastDecided done place).getD options.defaultState) = true) ∧
      (∀ x y z place state, Chunk.place? x y z = some place →
        (∃ previous next, (chunkSet id x y z state).run.run later = (.ok previous, next) ∧
          (chunkGet id x y z).run.run later = (.ok previous, later)) ∨
        ∃ held, (later.chunkAt id).content place.slot = some held ∧
          ¬ ((later.slabAt held).palette.insert state).1.Addressable) ∧
      (∀ index slot, index.below? 16 = some slot →
        ((later.chunkAt id).slot index = .ok none ↔ ∀ call ∈ done, call.fills slot = false)) ∧
      (∀ more index, ((later.afterChunkCalls id more).chunkAt id).slot index = .ok none →
        (later.chunkAt id).slot index = .ok none) ∧
      (∀ index slot, index.below? 16 = some slot →
        (∃ next, ((ChunkCall.compact index).session id).run.run later = (.ok (), next)) ∧
        ∀ (slab : Section) (consistent : slab.Consistent),
          slab.defaultState.same options.defaultState = true →
          ∃ next, ((ChunkCall.setSection index slab consistent).session id).run.run later =
            (.ok (), next)) ∧
      (∀ x y z state, Chunk.place? x y z = none →
        ∃ cause, cause.failure.kind = .index ∧
          (chunkGet id x y z).run.run later = (.error cause, later) ∧
          (chunkSet id x y z state).run.run later = (.error cause, later)) ∧
      (∀ index held, index.below? 16 = none →
        ∃ cause, cause.failure.kind = .index ∧
          (chunkSetSection id index held).run.run later = (.error cause, later) ∧
          ((ChunkCall.compact index).session id).run.run later = (.error cause, later)) ∧
      ∀ index slot held, index.below? 16 = some slot →
        (later.slabAt held).defaultState.same options.defaultState = false →
        ∃ cause, cause.failure.kind = .general ∧
          (chunkSetSection id index held).run.run later = (.error cause, later) := by
  have shown := (ShowsDone.make made start).run calls
  rw [List.nil_append] at shown
  refine ⟨⟨start.chunks.size⟩, start.withNewChunk chunk, _, _, rfl, rfl, rfl,
    fun x y z place addressed => shown.reads addressed,
    fun x y z place state addressed => shown.writes addressed state,
    fun index slot denoted => shown.slot_eq_none_iff denoted,
    ?_, fun index slot denoted => ⟨shown.compacts denoted, fun slab consistent sameDefault =>
      shown.accepts denoted sameDefault consistent⟩, ?_, ?_, ?_⟩
  · intro more index absent
    cases denoted : index.below? 16 with
    | none =>
        rw [Chunk.slot, Chunk.checkSlot, denoted] at absent
        cases absent
    | some slot =>
        rw [shown.slot_eq_none_iff denoted]
        intro call member
        exact ((shown.run more).slot_eq_none_iff denoted).1 absent call
          (List.mem_append_left _ member)
  · intro x y z state outside
    exact ⟨.outsideChunk x y z, rfl, run_chunk_of_outside _ _ outside state⟩
  · intro index held outside
    exact ⟨.noSuchSection index, rfl, run_slot_of_outside _ _ outside held⟩
  · intro index slot held denoted mismatch
    rw [← shown.defaultState_eq] at mismatch
    exact ⟨_, rfl, run_chunkSetSection_of_mismatch denoted mismatch⟩

/-- Stone is written in a new chunk of air: it is found there, and one slot holds a section. -/
theorem chunk_reads_last_decided_of_stone :
    ∃ (chunk : Chunk SectionId) (options : ChunkOptions) (stone : BlockState) (id : ChunkId)
        (later : Workspace),
      Chunk.make options = .ok chunk ∧ stone.same options.defaultState = false ∧
      later = (initial.after (addChunk chunk)).afterChunkCalls id [.set 1 37 2 stone] ∧
      (∃ found, (chunkGet id 1 37 2).run.run later = (.ok found, later) ∧
        found.same stone = true) ∧
      (later.chunkAt id).slot 2 ≠ .ok none ∧ (later.chunkAt id).slot 3 = .ok none := by
  let stone : BlockState := .bare ⟨"minecraft", "stone", by decide, by decide⟩
  let options : ChunkOptions := { x := 0, z := 0, dataVersion := 2586, defaultState := .air }
  let place : Chunk.Place :=
    { column := ⟨1, by decide⟩, level := ⟨37, by decide⟩, row := ⟨2, by decide⟩ }
  obtain ⟨chunk, made⟩ : ∃ chunk : Chunk SectionId, Chunk.make options = .ok chunk := ⟨_, rfl⟩
  have addressed : Chunk.place? 1 37 2 = some place := by decide
  have second : (2 : Number).below? 16 = some place.slot := by decide
  have third : (3 : Number).below? 16 = some 3 := by decide
  -- The slot is absent at first, so its section is made by the write and has room.
  obtain ⟨id, _, added, _, ran, rfl, rfl, -, writes, slots, -⟩ :=
    chunk_reads_last_decided made initial []
  have vacant : (added.chunkAt id).slot 2 = .ok none :=
    (slots 2 place.slot second).2 fun _ member => absurd member List.not_mem_nil
  have wrote : ∃ previous next,
      (chunkSet id 1 37 2 stone).run.run added = (.ok previous, next) := by
    obtain ⟨previous, next, wrote, -⟩ | ⟨held, present, -⟩ := writes 1 37 2 place stone addressed
    · exact ⟨previous, next, wrote⟩
    · rw [Chunk.slot, Chunk.checkSlot, second] at vacant
      rw [Except.ok.inj vacant] at present
      cases present
  obtain ⟨previous, next, wrote⟩ := wrote
  have succeeds : added.successes id [.set 1 37 2 stone] = [.set 1 37 2 stone] := by
    have answered : ((ChunkCall.set 1 37 2 stone).session id).run.run added = (.ok (), next) :=
      run_ignored wrote
    simp only [successes, successOf, answered, List.append_nil]
  obtain ⟨_, _, _, _, ranAgain, rfl, rfl, reads, -, slotsLater, -⟩ :=
    chunk_reads_last_decided made initial [.set 1 37 2 stone]
  rw [ran] at ranAgain
  cases ranAgain
  rw [succeeds] at reads slotsLater
  refine ⟨chunk, options, stone, id, _, made, by decide, ?_, reads 1 37 2 place addressed, ?_, ?_⟩
  · rw [after_of_run ran]
  · rw [Ne, slotsLater 2 place.slot second]
    decide
  · rw [slotsLater 3 3 third]
    decide

end Workspace

end BlockVolume
