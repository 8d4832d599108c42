import BlockVolume.Chunk
import BlockVolume.Proofs.Outcome

namespace BlockVolume

/-!
# Slots of a chunk

What a slot holds may be a section or stand for one. A chunk can be read with
every stand-in replaced, and putting something in a slot agrees with that.
-/

namespace Chunk

variable {Slot Content : Type} {chunk left right : Chunk Slot} {slot : Fin 16}
  {index : Number} {defaultState : BlockState}

/-- Chunks with equal fields and equal slots are equal. -/
theorem eq_of_content_eq
    (sameX : left.x = right.x)
    (sameZ : left.z = right.z)
    (sameVersion : left.dataVersion = right.dataVersion)
    (sameDefault : left.defaultState = right.defaultState)
    (sameContent : ∀ slot, left.content slot = right.content slot) :
    left = right := by
  cases left
  cases right
  cases sameX
  cases sameZ
  cases sameVersion
  cases sameDefault
  congr 1
  exact Vector.ext fun index inside => sameContent ⟨index, inside⟩

@[simp]
theorem content_put (chunk : Chunk Slot) (slot other : Fin 16) (content : Slot) :
    (chunk.put slot content).content other =
      if other = slot then some content else chunk.content other := by
  unfold Chunk.content put
  by_cases same : other = slot
  · subst same
    simp
  · have different : slot.val ≠ other.val := fun sameValue => same (Fin.ext sameValue.symm)
    simp [same, different]

/-- What is in a slot may be put there again. -/
theorem put_of_content
    {content : Slot}
    (present : chunk.content slot = some content) :
    chunk.put slot content = chunk := by
  refine eq_of_content_eq rfl rfl rfl rfl fun other => ?_
  rw [content_put]
  split
  · rename_i same
    rw [same, present]
  · rfl

/-- The last thing that is put in a slot counts. -/
theorem put_put (chunk : Chunk Slot) (slot : Fin 16) (first second : Slot) :
    (chunk.put slot first).put slot second = chunk.put slot second := by
  refine eq_of_content_eq rfl rfl rfl rfl fun other => ?_
  simp only [content_put]
  split <;> rfl

/-- The chunk with everything in its slots replaced. -/
def map (replace : Slot → Content) (chunk : Chunk Slot) : Chunk Content where
  x := chunk.x
  z := chunk.z
  dataVersion := chunk.dataVersion
  defaultState := chunk.defaultState
  slots := chunk.slots.map (Option.map replace)

@[simp]
theorem content_map (replace : Slot → Content) (chunk : Chunk Slot) (slot : Fin 16) :
    (chunk.map replace).content slot = (chunk.content slot).map replace := by
  simp [Chunk.content, map]

theorem map_congr
    {before after : Slot → Content}
    (same : ∀ slot kept, chunk.content slot = some kept → after kept = before kept) :
    chunk.map after = chunk.map before := by
  refine eq_of_content_eq rfl rfl rfl rfl fun slot => ?_
  rw [content_map, content_map]
  exact Option.map_congr fun kept present => same slot kept present

/-- Putting something in one slot changes nothing in the others, when they are read as before. -/
theorem map_put
    {before after : Slot → Content}
    {content : Slot}
    (sameElsewhere : ∀ other kept, other ≠ slot → chunk.content other = some kept →
      after kept = before kept) :
    (chunk.put slot content).map after = (chunk.map before).put slot (after content) := by
  refine eq_of_content_eq rfl rfl rfl rfl fun other => ?_
  simp only [content_map, content_put]
  split
  · rfl
  · rename_i elsewhere
    exact Option.map_congr fun kept present => sameElsewhere other kept elsewhere present

/-- A new chunk has nothing in its slots. -/
theorem of_make_eq_ok
    {options : ChunkOptions}
    {chunk : Chunk Slot}
    (made : make options = .ok chunk) :
    chunk.defaultState = options.defaultState ∧ ∀ slot, chunk.content slot = none := by
  unfold make at made
  split at made
  · cases made
    refine ⟨rfl, fun slot => ?_⟩
    simp [Chunk.content]
  · cases made

/-- A slot that is denoted is found with what it holds. -/
theorem slot_of_denoted
    (chunk : Chunk Slot)
    (denoted : index.below? 16 = some slot) :
    chunk.slot index = .ok (chunk.content slot) := by
  rw [Chunk.slot, checkSlot, denoted]
  rfl

/-! ## Sections that are put in place -/

/-- What is put in a slot does not change the default state. -/
theorem defaultState_of_install
    {changed : Chunk Slot}
    {content : Slot}
    (installed : chunk.install index content defaultState = .ok changed) :
    changed.defaultState = chunk.defaultState := by
  obtain ⟨slot, -, rest⟩ := bind_eq_ok_iff.1 installed
  obtain ⟨_, -, put⟩ := bind_eq_ok_iff.1 rest
  cases put
  rfl

/-- A section is accepted for a slot when it has the default state of the chunk. -/
theorem install_of_same
    (denoted : index.below? 16 = some slot)
    (sameDefault : defaultState.same chunk.defaultState = true)
    (content : Slot) :
    chunk.install index content defaultState = .ok (chunk.put slot content) := by
  simp only [install, checkSlot, denoted, checkDefault, sameDefault]
  rfl

theorem install_of_outside
    (outside : index.below? 16 = none)
    (content : Slot)
    (defaultState : BlockState) :
    chunk.install index content defaultState = .error (.noSuchSection index) := by
  simp only [install, checkSlot, outside]
  rfl

theorem install_of_mismatch
    (denoted : index.below? 16 = some slot)
    (mismatch : defaultState.same chunk.defaultState = false)
    (content : Slot) :
    chunk.install index content defaultState =
      .error (.defaultStateMismatch defaultState chunk.defaultState) := by
  simp only [install, checkSlot, denoted, checkDefault, mismatch]
  rfl

end Chunk

end BlockVolume
