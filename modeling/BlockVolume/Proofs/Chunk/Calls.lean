import BlockVolume.Proofs.Chunk.Blocks

namespace BlockVolume

/-!
# Calls on a chunk

A call that succeeds decides the states of the places that it writes, which are
one place, all places of a slot or none, and it fills the slot that it writes
to. A call that is refused decides nothing and fills nothing.
-/

/-- A call on a chunk; a section that is put in place is consistent and nobody else's. -/
inductive ChunkCall where
  | get (x y z : Number)
  | set (x y z : Number) (state : BlockState)
  | setSection (index : Number) (slab : Section) (consistent : slab.Consistent)
  | compact (index : Number)

namespace ChunkCall

/-- The state that a call puts at a place, if it does. -/
def decides? (place : Chunk.Place) : ChunkCall → Option BlockState
  | .set x y z state => if Chunk.place? x y z = some place then some state else none
  | .setSection index slab _ =>
      if index.below? 16 = some place.slot then (slab.block place.cell).toOption else none
  | _ => none

/-- Whether a call puts something in a slot. -/
def fills (slot : Fin 16) : ChunkCall → Bool
  | .set x y z _ => (Chunk.place? x y z).any (·.slot = slot)
  | .setSection index _ _ => index.below? 16 = some slot
  | _ => false

/-- The state that calls put last at a place, if any did. -/
def lastDecided (calls : List ChunkCall) (place : Chunk.Place) : Option BlockState :=
  calls.reverse.findSome? (decides? place)

/-- The last call comes before all others. -/
theorem lastDecided_concat (calls : List ChunkCall) (call : ChunkCall) (place : Chunk.Place) :
    lastDecided (calls ++ [call]) place = (call.decides? place).or (lastDecided calls place) := by
  rw [lastDecided, List.reverse_append, List.reverse_singleton, List.singleton_append,
    List.findSome?_cons, lastDecided]
  cases call.decides? place <;> rfl

/-- The keys after a call that succeeds. -/
def keysAfter (keys : Chunk.Place → String) (call : ChunkCall) (place : Chunk.Place) : String :=
  ((call.decides? place).map BlockState.key).getD (keys place)

end ChunkCall

namespace Chunk

variable {chunk : Chunk Section} {keys : Place → String} {x y z index : Number}

/-- The chunk after a call, and whether the call succeeds. -/
def perform (chunk : Chunk Section) : ChunkCall → Chunk Section × Except StorageError Unit
  | .get x y z => (chunk, (chunk.get x y z).map fun _ => ())
  | .set x y z state =>
      let (written, outcome) := chunk.set x y z state
      (written, outcome.map fun _ => ())
  | .setSection index slab _ =>
      match chunk.setSection index slab with
      | .ok changed => (changed, .ok ())
      | .error cause => (chunk, .error cause)
  | .compact index =>
      match checkSlot index with
      | .ok slot => chunk.compactSlot slot
      | .error cause => (chunk, .error cause)

/-- What a call does when it succeeds. -/
structure Succeeds (chunk : Chunk Section) (keys : Place → String) (call : ChunkCall) : Prop where
  outcome : (chunk.perform call).2 = .ok ()
  shows : (chunk.perform call).1.Shows (call.keysAfter keys)
  vacant_iff : ∀ slot, (chunk.perform call).1.content slot = none ↔
    chunk.content slot = none ∧ call.fills slot = false

/-- What a call does when it is refused. -/
structure Refuses (chunk : Chunk Section) (keys : Place → String) (call : ChunkCall) : Prop where
  outcome : ∃ cause, (chunk.perform call).2 = .error cause
  shows : (chunk.perform call).1.Shows keys
  vacant_iff : ∀ slot, (chunk.perform call).1.content slot = none ↔ chunk.content slot = none

namespace Shows

theorem perform_get
    (shows : chunk.Shows keys)
    (x y z : Number) :
    chunk.Succeeds keys (.get x y z) ∨ chunk.Refuses keys (.get x y z) := by
  cases addressed : place? x y z with
  | none =>
      have refused := chunk.get_of_outside addressed
      refine .inr ⟨⟨.outsideChunk x y z, ?_⟩, shows, fun _ => Iff.rfl⟩
      rw [perform, refused]
      rfl
  | some place =>
      obtain ⟨found, read, -⟩ := shows.get addressed
      refine .inl ⟨?_, shows, fun _ => ?_⟩
      · rw [perform, read]
        rfl
      · exact (and_iff_left rfl).symm

/-- A write changes the key of its place. -/
theorem keysAfter_set
    {place : Place}
    (addressed : place? x y z = some place)
    (keys : Place → String)
    (state : BlockState) :
    ChunkCall.keysAfter keys (.set x y z state) = Function.update keys place state.key := by
  funext other
  by_cases same : other = place
  · subst same
    simp [ChunkCall.keysAfter, ChunkCall.decides?, addressed]
  · simp [ChunkCall.keysAfter, ChunkCall.decides?, addressed, Ne.symm same, same]

theorem perform_set
    (shows : chunk.Shows keys)
    (x y z : Number)
    (state : BlockState) :
    chunk.Succeeds keys (.set x y z state) ∨ chunk.Refuses keys (.set x y z state) := by
  cases addressed : place? x y z with
  | none =>
      have refused := chunk.set_of_outside addressed state
      refine .inr ⟨⟨.outsideChunk x y z, ?_⟩, ?_, fun _ => ?_⟩
      · rw [perform, refused]
        rfl
      · rw [perform, refused]
        exact shows
      · rw [perform, refused]
  | some place =>
      have vacant_iff : ∀ slot, (chunk.perform (.set x y z state)).1.content slot = none ↔
          chunk.content slot = none ∧ slot ≠ place.slot := by
        intro slot
        rw [perform, chunk.set_of_place addressed]
        simp only [content_put]
        by_cases same : slot = place.slot
        · simp [same]
        · simp [same]
      obtain ⟨written, previous, wrote, -, showsWritten⟩ |
          ⟨written, cause, refused, showsWritten, slab, content, -⟩ :=
        shows.set_or_refuses addressed state
      · refine .inl ⟨?_, ?_, fun slot => ?_⟩
        · rw [perform, wrote]
          rfl
        · rw [perform, wrote, keysAfter_set addressed]
          exact showsWritten
        · rw [vacant_iff]
          simp [ChunkCall.fills, addressed, eq_comm]
      · refine .inr ⟨⟨cause, ?_⟩, ?_, fun slot => ?_⟩
        · rw [perform, refused]
          rfl
        · rw [perform, refused]
          exact showsWritten
        · rw [vacant_iff, and_iff_left_iff_imp]
          rintro vacant rfl
          rw [content] at vacant
          cases vacant

theorem perform_setSection
    (shows : chunk.Shows keys)
    (index : Number)
    (slab : Section)
    (consistent : slab.Consistent) :
    chunk.Succeeds keys (.setSection index slab consistent) ∨
      chunk.Refuses keys (.setSection index slab consistent) := by
  have of_refused : ∀ cause, chunk.setSection index slab = .error cause →
      chunk.Refuses keys (.setSection index slab consistent) := by
    intro cause refused
    refine ⟨⟨cause, ?_⟩, ?_, fun slot => ?_⟩
    · rw [perform, refused]
    · rw [perform, refused]
      exact shows
    · rw [perform, refused]
  cases denoted : index.below? 16 with
  | none => exact .inr (of_refused _ (install_of_outside denoted slab slab.defaultState))
  | some slot =>
      cases sameDefault : slab.defaultState.same chunk.defaultState with
      | false => exact .inr (of_refused _ (install_of_mismatch denoted sameDefault slab))
      | true =>
          have installed : chunk.setSection index slab = .ok (chunk.put slot slab) :=
            install_of_same denoted sameDefault slab
          refine .inl ⟨?_, ?_, fun other => ?_⟩
          · rw [perform, installed]
          · rw [perform, installed]
            refine shows.put (consistent.showsSlot fun place inSlot => ?_) sameDefault
              fun place elsewhere => ?_
            · obtain ⟨state, read⟩ := consistent.block_of_place place.inner
              refine ⟨state, read, ?_⟩
              simp only [ChunkCall.keysAfter, ChunkCall.decides?, denoted, inSlot, if_true,
                Place.cell, read]
              rfl
            · simp [ChunkCall.keysAfter, ChunkCall.decides?, denoted, Ne.symm elsewhere]
          · rw [perform, installed]
            simp only [content_put, ChunkCall.fills, denoted]
            by_cases same : other = slot
            · simp [same]
            · simp [same, Ne.symm same]

theorem perform_compact
    (shows : chunk.Shows keys)
    (index : Number) :
    chunk.Succeeds keys (.compact index) ∨ chunk.Refuses keys (.compact index) := by
  cases checked : checkSlot index with
  | error cause =>
      refine .inr ⟨⟨cause, ?_⟩, ?_, fun slot => ?_⟩
      · rw [perform, checked]
      · rw [perform, checked]
        exact shows
      · rw [perform, checked]
  | ok slot =>
      obtain ⟨compacted, succeeds, showsCompacted⟩ := shows.compactSlot slot
      refine .inl ⟨?_, ?_, fun other => ?_⟩
      · rw [perform, checked]
        simp only [succeeds]
      · rw [perform, checked]
        simp only [succeeds]
        exact showsCompacted
      · rw [perform, checked]
        simp only [content_compactSlot_eq_none_iff]
        exact (and_iff_left rfl).symm

/-- A call succeeds and decides what it puts, or it is refused and changes no block. -/
theorem perform
    (shows : chunk.Shows keys)
    (call : ChunkCall) :
    chunk.Succeeds keys call ∨ chunk.Refuses keys call := by
  cases call with
  | get x y z => exact shows.perform_get x y z
  | set x y z state => exact shows.perform_set x y z state
  | setSection index slab consistent => exact shows.perform_setSection index slab consistent
  | compact index => exact shows.perform_compact index

end Shows

/-- No call changes the default state. -/
theorem defaultState_perform (chunk : Chunk Section) (call : ChunkCall) :
    (chunk.perform call).1.defaultState = chunk.defaultState := by
  cases call with
  | get x y z => rfl
  | set x y z state => exact chunk.defaultState_set x y z state
  | setSection index slab consistent =>
      rw [perform]
      split
      · rename_i changed installed
        exact defaultState_of_install installed
      · rfl
  | compact index =>
      rw [perform]
      split
      · exact chunk.defaultState_compactSlot _
      · rfl

end Chunk

end BlockVolume
