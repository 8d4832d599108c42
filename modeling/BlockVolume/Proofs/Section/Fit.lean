import BlockVolume.Proofs.Section.Minimality
import BlockVolume.Proofs.Section.Runs

namespace BlockVolume

/-!
# Storages that fit their palettes

A section that starts empty and is only written and compacted has a storage whose
bound is the last id of its palette, and so the width that this id needs. A write of
a new state adds its id and raises the bound to it, a write of a known state raises
nothing, and a compaction packs the storage anew for what the palette is then.

The palette holds nothing but the default state and states that were written.
-/

namespace PackedArray

variable {layout : Layout} {array left : PackedArray layout}

/-- A write keeps the bound. -/
theorem maxValue_of_set
    {index value : Number}
    (wrote : array.set index value = .ok left) :
    left.maxValue = array.maxValue := by
  obtain ⟨write, -, rfl⟩ := map_eq_ok_iff.1 wrote
  rfl

/-- A bound that is reached is the larger one of the old and the wanted one. -/
theorem maxValue_of_widen
    {wanted : Nat}
    (widened : array.widen (.ofNat wanted) = (left, .ok ())) :
    left.maxValue = max array.maxValue wanted := by
  rw [widen] at widened
  split at widened
  · cases widened
  · rename_i bound accepted
    obtain ⟨denoted, admissible⟩ := of_checkMaxValue_eq_ok accepted
    rw [Number.toNat?_ofNat] at denoted
    cases denoted
    split at widened
    · rename_i enough
      cases widened
      exact (Nat.max_eq_left enough).symm
    · rename_i exceeds
      rw [Nat.max_eq_right (Nat.le_of_not_le exceeds)]
      split at widened
      · cases widened
        rfl
      · rename_i otherWidth
        obtain ⟨repacked, wrote, shows⟩ := array.repack_of_wider admissible exceeds otherWidth
        rw [wrote] at widened
        cases widened
        exact shows.maxValue_eq

end PackedArray

namespace Palette

/-- The id of an inserted state is one that the palette had before, or the new last one. -/
theorem WellFormed.max_of_insert
    {palette grown : Palette}
    (wellFormed : palette.WellFormed)
    {state : BlockState}
    {id : Nat}
    (inserted : palette.insert state = (grown, id)) :
    max (palette.size - 1) id = grown.size - 1 := by
  by_cases known : state.key ∈ palette.keys
  · obtain ⟨_, same, listed⟩ := wellFormed.insert_of_mem known
    rw [inserted] at same
    cases same
    exact Nat.max_eq_left (Nat.le_sub_one_of_lt (id_lt_of_getElem?_keys listed))
  · obtain ⟨_, same, -, states_eq⟩ := wellFormed.insert_of_not_mem known
    rw [inserted] at same
    cases same
    have grew := congrArg List.length states_eq
    rw [length_states, List.length_append, length_states, List.length_singleton] at grew
    rw [grew, Nat.add_sub_cancel]
    exact Nat.max_eq_right (Nat.sub_le _ _)

end Palette

namespace Section

variable {slab : Section} {state : BlockState} {calls : List SectionCall}

/-! ## The bound of the storage -/

/-- A write raises the bound to the id of its state, if that is not within it. -/
theorem maxValue_of_setBlock
    {cell id : Nat}
    {grown : Palette}
    {written : Section}
    {previous : BlockState}
    (inserted : slab.palette.insert state = (grown, id))
    (wrote : slab.setBlock cell state = (written, .ok previous)) :
    written.storage.maxValue = max slab.storage.maxValue id := by
  rw [setBlock, inserted] at wrote
  split at wrote
  · cases wrote
  · dsimp only at wrote
    split at wrote
    · cases wrote
    · rename_i raised
      split at wrote
      · cases wrote
      · rename_i stored
        cases wrote
        rw [PackedArray.maxValue_of_set stored, PackedArray.maxValue_of_widen raised]

/-- A consistent section whose bound is the last id of its palette. -/
structure Fitted (slab : Section) : Prop where
  consistent : slab.Consistent
  maxValue_eq : slab.storage.maxValue = slab.palette.size - 1

theorem fitted_empty (defaultState : BlockState) : (empty defaultState).Fitted where
  consistent := (shows_empty defaultState).consistent
  maxValue_eq := rfl

namespace Fitted

/-- A write keeps the storage fitted, whether it adds a state or not. -/
theorem set
    (fitted : slab.Fitted)
    (x y z : Number)
    (state : BlockState)
    (addressable : (slab.set x y z state).1.palette.Addressable) :
    (slab.set x y z state).1.Fitted := by
  cases addressed : place? x y z with
  | none =>
      obtain ⟨cause, -, -, refused⟩ := slab.get_set_of_outside addressed state
      rw [refused]
      exact fitted
  | some place =>
      obtain ⟨keys, shows⟩ := fitted.consistent.shows
      have palette_eq := shows.palette_set addressed state
      rw [palette_eq] at addressable
      obtain ⟨written, previous, wrote, -, showsWritten⟩ :=
        shows.set_of_place addressed state addressable
      rw [wrote] at palette_eq ⊢
      refine ⟨showsWritten.consistent, ?_⟩
      rw [Section.set, cellIndex_of_place addressed] at wrote
      have bound := maxValue_of_setBlock (Prod.mk.eta (p := slab.palette.insert state)).symm wrote
      rw [bound, fitted.maxValue_eq, palette_eq]
      exact shows.wellFormed.max_of_insert Prod.mk.eta.symm

/-- So does a compaction. -/
theorem compact (fitted : slab.Fitted) : slab.compact.1.Fitted := by
  obtain ⟨blocks, compacted, -, succeeds, form⟩ := fitted.consistent.compact
  rw [succeeds]
  exact ⟨form.consistent, form.maxValue_eq⟩

theorem after
    (fitted : slab.Fitted)
    (call : SectionCall)
    (addressable : (slab.after call).palette.Addressable) :
    (slab.after call).Fitted := by
  cases call with
  | get x y z => exact fitted
  | set x y z state => exact fitted.set x y z state addressable
  | compact => exact fitted.compact
  | mergeInto target => exact fitted

/-- A row of calls keeps the storage fitted. -/
theorem afterAll
    (fitted : slab.Fitted)
    (addressable : slab.StaysAddressable calls) :
    (slab.afterAll calls).Fitted := by
  induction calls generalizing slab with
  | nil => exact fitted
  | cons call rest inductionHypothesis =>
      obtain ⟨-, staysAddressable⟩ := addressable
      exact inductionHypothesis (fitted.after call staysAddressable.first) staysAddressable

end Fitted

/-! ## The states of the palette -/

/-- A state that a call of a row writes, and the write succeeds. -/
def Writes (slab : Section) (calls : List SectionCall) (state : BlockState) : Prop :=
  ∃ earlier x y z later previous,
    calls = earlier ++ .set x y z state :: later ∧
    ((slab.afterAll earlier).set x y z state).2 = .ok previous

/-- What the rest of a row writes, the row writes. -/
theorem Writes.cons
    {call : SectionCall}
    (writes : (slab.after call).Writes calls state) :
    slab.Writes (call :: calls) state := by
  obtain ⟨earlier, x, y, z, later, previous, rfl, wrote⟩ := writes
  exact ⟨call :: earlier, x, y, z, later, previous, rfl, wrote⟩

namespace Consistent

/-- A call adds no state besides the default one except by writing it. -/
theorem mem_tail_after
    (consistent : slab.Consistent)
    {call : SectionCall}
    (addressable : (slab.after call).palette.Addressable)
    (member : state ∈ (slab.after call).palette.states.tail) :
    state ∈ slab.palette.states.tail ∨ slab.Writes (call :: calls) state := by
  cases call with
  | get x y z => exact .inl member
  | mergeInto target => exact .inl member
  | compact =>
      obtain ⟨blocks, compacted, -, succeeds, form⟩ := consistent.compact
      rw [Section.after, succeeds, form.states_eq, keptStates, List.tail_cons] at member
      exact .inl (List.mem_filter.1 member).1
  | set x y z new =>
      cases addressed : place? x y z with
      | none =>
          obtain ⟨cause, -, -, refused⟩ := slab.get_set_of_outside addressed new
          rw [Section.after, refused] at member
          exact .inl member
      | some place =>
          obtain ⟨keys, shows⟩ := consistent.shows
          have palette_eq := shows.palette_set addressed new
          rw [Section.after, palette_eq] at addressable member
          obtain ⟨written, previous, wrote, -⟩ := shows.set_of_place addressed new addressable
          by_cases known : new.key ∈ slab.palette.keys
          · obtain ⟨id, inserted, -⟩ := shows.wellFormed.insert_of_mem known
            rw [inserted] at member
            exact .inl member
          · obtain ⟨grown, inserted, -, states_eq⟩ := shows.wellFormed.insert_of_not_mem known
            rw [inserted, states_eq] at member
            rcases List.mem_append.1 member with old | added
            · exact .inl old
            · obtain rfl := List.mem_singleton.1 added
              exact .inr ⟨[], x, y, z, calls, previous, rfl, congrArg Prod.snd wrote⟩

end Consistent

/-- All states that a row of calls leaves were there or are written by it, the default one apart. -/
theorem Fitted.mem_tail_afterAll
    (fitted : slab.Fitted)
    (addressable : slab.StaysAddressable calls)
    (member : state ∈ (slab.afterAll calls).palette.states.tail) :
    state ∈ slab.palette.states.tail ∨ slab.Writes calls state := by
  induction calls generalizing slab with
  | nil => exact .inl member
  | cons call rest inductionHypothesis =>
      obtain ⟨-, staysAddressable⟩ := addressable
      have next := fitted.after call staysAddressable.first
      rcases inductionHypothesis next staysAddressable member with before | later
      · exact fitted.consistent.mem_tail_after staysAddressable.first before
      · exact .inr later.cons

/--
After any row of writes and compactions on an empty section, refused writes among
them, the bound of the storage is the last id of the palette and its width is what
that id needs; no stored id is larger. The states of the palette are different from
each other, and each of them but the default one was written by a call that
succeeded.
-/
theorem storage_fits_palette
    (defaultState : BlockState)
    (calls : List SectionCall)
    (addressable : (empty defaultState).StaysAddressable calls) :
    ((empty defaultState).afterAll calls).storage.maxValue =
      ((empty defaultState).afterAll calls).palette.size - 1 ∧
    ((empty defaultState).afterAll calls).storage.width =
      bitsNeeded (((empty defaultState).afterAll calls).palette.size - 1) ∧
    (∀ id ∈ ((empty defaultState).afterAll calls).storage.values,
      id ≤ ((empty defaultState).afterAll calls).storage.maxValue) ∧
    (((empty defaultState).afterAll calls).palette.states.Pairwise
      fun left right => left.same right = false) ∧
    ∀ state ∈ ((empty defaultState).afterAll calls).palette.states.tail,
      ∃ earlier x y z later previous,
        calls = earlier ++ .set x y z state :: later ∧
        (((empty defaultState).afterAll earlier).set x y z state).2 = .ok previous := by
  have fitted := (fitted_empty defaultState).afterAll addressable
  refine ⟨fitted.maxValue_eq, congrArg bitsNeeded fitted.maxValue_eq,
    fitted.consistent.sound.within, ?_, fun state member => ?_⟩
  · have distinct := List.pairwise_map.1 fitted.consistent.wellFormed.keys_nodup
    exact distinct.imp fun different => beq_eq_false_iff_ne.2 different
  · rcases (fitted_empty defaultState).mem_tail_afterAll addressable member with before | writes
    · cases before
    · exact writes

/-- Two states are written and one of them is overwritten, then a compaction drops that one. -/
theorem storage_fits_palette_of_stone_dirt :
    ∃ (stone dirt : BlockState) (calls : List SectionCall),
      calls =
        [.set 0 0 0 stone, .set 16 0 0 dirt, .set 1 0 0 dirt, .set 0 0 0 dirt, .compact] ∧
      (empty .air).StaysAddressable calls ∧
      ((empty .air).afterAll calls).storage.maxValue =
        ((empty .air).afterAll calls).palette.size - 1 ∧
      ((empty .air).afterAll calls).storage.width =
        bitsNeeded (((empty .air).afterAll calls).palette.size - 1) := by
  let stone : BlockState := .bare ⟨"minecraft", "stone", by decide, by decide⟩
  let dirt : BlockState := .bare ⟨"minecraft", "dirt", by decide, by decide⟩
  let calls : List SectionCall :=
    [.set 0 0 0 stone, .set 16 0 0 dirt, .set 1 0 0 dirt, .set 0 0 0 dirt, .compact]
  have addressable : (empty .air).StaysAddressable calls :=
    (shows_empty .air).staysAddressable calls (by decide)
  obtain ⟨bound, width, -⟩ := storage_fits_palette .air calls addressable
  exact ⟨stone, dirt, calls, rfl, addressable, bound, width⟩

end Section

end BlockVolume
