import BlockVolume.Proofs.Section.Minimality
import BlockVolume.Proofs.Workspace.Sections

namespace BlockVolume

/-!
# Compaction in a workspace

A kept section is compacted in place: its palette loses states, and its storage
is renumbered and then replaced by a packed one. What the section is afterwards
is the compact form of what it was, and compacting again leaves it at that.
-/

namespace Workspace

variable {workspace : Workspace} {id : SectionId}

/--
Compaction of a consistent section never fails. Afterwards the palette lists the
default state and, in their old order, exactly the other states that some block
has. The ids are the places in that list, every read answers as before, the bound
is the last id, and the width what that needs; the number of states is that of the
different blocks. Another compaction changes nothing.
-/
theorem compact_exact_and_minimal
    (keeps : workspace.KeepsSection id)
    (consistent : (workspace.slabAt id).Consistent) :
    ∃ blocks next last,
      (workspace.slabAt id).blocks = .ok blocks ∧
      (compact id).run.run workspace = (.ok (), next) ∧
      (next.slabAt id).CompactFormOf (workspace.slabAt id) blocks ∧
      (compact id).run.run next = (.ok (), last) ∧
      last.slabAt id = next.slabAt id := by
  obtain ⟨blocks, compacted, read, succeeds, form⟩ := consistent.compact
  obtain ⟨next, ran, -, keepsNext, slab_eq, -⟩ := keeps.run_compact
  obtain ⟨last, ranAgain, -, -, lastSlab_eq, -⟩ := keepsNext.run_compact
  rw [succeeds] at ran slab_eq
  change next.slabAt id = compacted at slab_eq
  rw [slab_eq, form.compact_eq] at ranAgain lastSlab_eq
  refine ⟨blocks, next, last, read, ran, ?_, ranAgain, lastSlab_eq.trans slab_eq.symm⟩
  rw [slab_eq]
  exact form

/-- A state that no block has is dropped, and one bit of the bound with it. -/
theorem compact_exact_and_minimal_of_unused_stone :
    ∃ (stone : BlockState) (slab : Section) (id : SectionId) (workspace next : Workspace),
      slab.palette.states = [.air, stone] ∧ slab.storage.maxValue = 1 ∧
      workspace.slabAt id = slab ∧ (compact id).run.run workspace = (.ok (), next) ∧
      (next.slabAt id).palette.states = [.air] ∧ (next.slabAt id).storage.maxValue = 0 := by
  let stone : BlockState := .bare ⟨"minecraft", "stone", by decide, by decide⟩
  let slab : Section :=
    { palette := ((Palette.make .air).insert stone).1
      storage := .zeros .padded Section.cellCount 1 }
  have listed : slab.palette.states = [.air, stone] := by decide
  have default_eq : slab.defaultState = .air := Palette.defaultState_insert _ _
  have zeros : slab.storage.Represents 1 (List.replicate Section.cellCount 0) :=
    PackedArray.represents_zeros .padded Section.cellCount (by decide)
  have sound : slab.storage.Sound := zeros.sound fun value member => by
    rw [List.eq_of_mem_replicate member]
    exact Nat.zero_le 1
  have row : Section.Rows slab.palette.states slab.storage.values
      (List.replicate Section.cellCount .air) := by
    rw [Section.Rows, zeros.values_eq, listed, List.map_replicate, List.map_replicate]
    rfl
  have consistent : slab.Consistent :=
    { wellFormed := ((Palette.WellFormed.make .air).extends_insert stone).wellFormed
      sound
      size_eq := rfl
      resolves := fun id member => by
        rw [zeros.values_eq] at member
        rw [List.eq_of_mem_replicate member]
        exact Nat.succ_pos _ }
  have slab_eq := initial.slabAt_withSection_self slab
  obtain ⟨blocks, next, -, read, ran, form, -⟩ :=
    compact_exact_and_minimal (initial.keepsSection_withSection_self slab) (slab_eq ▸ consistent)
  rw [slab_eq, Section.blocks_of_rows sound row] at read
  cases read
  have noStone : ¬ stone ∈ List.replicate Section.cellCount BlockState.air := fun member =>
    absurd (List.eq_of_mem_replicate member) (by decide)
  have states_eq : (next.slabAt ⟨initial.sections.size⟩).palette.states = [.air] := by
    rw [form.states_eq, slab_eq, Section.keptStates, listed, List.tail_cons,
      List.filter_cons_of_neg (by simpa using noStone), List.filter_nil, default_eq]
  refine ⟨stone, slab, _, _, next, listed, rfl, slab_eq, ran, states_eq, ?_⟩
  rw [form.maxValue_eq, ← Palette.length_states, states_eq]
  rfl

end Workspace

end BlockVolume
