import BlockVolume.Proofs.Storage.Operations

namespace BlockVolume

/-!
# What operations on any array keep

Whatever an array holds, also one over bytes that break its bound, a write or a
raise of the bound that is refused leaves it as it was. Only the checks can
refuse: once a bound is accepted, every cell finds its place in the new store.
No operation shortens a store or lowers a bound.
-/

namespace PackedArray

variable {layout : Layout} {array left : PackedArray layout} {number : Number}

/-- Values within the bound can be written into cells that exist. -/
theorem setEach_zipIdx_succeeds
    (new : List Nat)
    (index : Nat)
    (room : index + new.length ≤ array.size)
    (within : ∀ value ∈ new, value ≤ array.maxValue) :
    ∃ written,
      array.setEach ((new.zipIdx index).map fun entry => (.ofNat entry.2, .ofNat entry.1)) =
        (written, .ok ()) := by
  induction new generalizing array index with
  | nil => exact ⟨array, rfl⟩
  | cons value rest inductionHypothesis =>
      rw [List.length_cons] at room
      have inside : index < array.size := by omega
      have accepted :
          array.checkWrite (.ofNat index) (.ofNat value) = .ok (⟨index, inside⟩, value) := by
        rw [checkWrite, checkIndex, Number.below?_of_lt (Number.toNat?_ofNat index) inside,
          checkValue_of_le (Number.toNat?_ofNat value) (within value List.mem_cons_self)]
        rfl
      rw [List.zipIdx_cons, List.map_cons, setEach, accepted]
      exact @inductionHypothesis (array.setCell index value) (index + 1)
        (by rw [size_setCell]; omega)
        (fun other member => within other (List.mem_cons_of_mem _ member))

/-- An accepted bound is reached, without a cell lost. -/
theorem widen_of_accepted
    {bound : Nat}
    (accepted : checkMaxValue number = .ok bound) :
    ∃ widened, array.widen number = (widened, .ok ()) ∧
      widened.size = array.size ∧ bound ≤ widened.maxValue := by
  rw [widen, accepted]
  by_cases enough : bound ≤ array.maxValue
  · exact ⟨array, if_pos enough, rfl, enough⟩
  · by_cases sameWidth : bitsNeeded bound = array.width
    · refine ⟨{ array with maxValue := bound }, ?_, rfl, Nat.le_refl bound⟩
      simp only [enough, sameWidth, if_true, if_false]
    · have admissible := (of_checkMaxValue_eq_ok accepted).2
      obtain ⟨widened, wrote, shows⟩ := array.repack_of_wider admissible enough sameWidth
      refine ⟨widened, ?_, ?_, Nat.le_of_eq shows.maxValue_eq.symm⟩
      · simp only [enough, sameWidth, if_false, wrote]
      · rw [← shows.length_eq, length_values]

/-- A raise of the bound that is refused changes nothing. -/
theorem eq_of_widen_eq_error
    {cause : StorageError}
    (refused : array.widen number = (left, .error cause)) :
    left = array := by
  cases checked : checkMaxValue number with
  | error _ =>
      rw [widen, checked] at refused
      exact (congrArg Prod.fst refused).symm
  | ok bound =>
      obtain ⟨widened, succeeds, -⟩ := @widen_of_accepted _ array _ _ checked
      rw [succeeds] at refused
      cases refused

/-- What every operation on an array keeps. -/
structure Follows (later earlier : PackedArray layout) : Prop where
  size_eq : later.size = earlier.size
  maxValue_le : earlier.maxValue ≤ later.maxValue
  limbs_eq : later.width = earlier.width → later.limbs.size = earlier.limbs.size
  stored : earlier.Stored → later.Stored

namespace Follows

variable {first second third : PackedArray layout}

theorem refl (array : PackedArray layout) : array.Follows array where
  size_eq := rfl
  maxValue_le := Nat.le_refl _
  limbs_eq _ := rfl
  stored := id

/-- Cells never get narrower. -/
theorem width_mono (follows : second.Follows first) : first.width ≤ second.width :=
  bitsNeeded_mono follows.maxValue_le

theorem trans (later : third.Follows second) (earlier : second.Follows first) :
    third.Follows first where
  size_eq := later.size_eq.trans earlier.size_eq
  maxValue_le := Nat.le_trans earlier.maxValue_le later.maxValue_le
  limbs_eq sameWidth := by
    -- Cells never get narrower, so they have one width all the way.
    have grewFirst := earlier.width_mono
    have grewThen := later.width_mono
    have width_eq : second.width = first.width := by omega
    have laterWidth_eq : third.width = second.width := by omega
    rw [later.limbs_eq laterWidth_eq, earlier.limbs_eq width_eq]
  stored := later.stored ∘ earlier.stored

theorem setCell (array : PackedArray layout) (index value : Nat) :
    (array.setCell index value).Follows array where
  size_eq := rfl
  maxValue_le := Nat.le_refl _
  limbs_eq _ := Limbs.size_write _ _ _ _
  stored stored := stored.setCell index value

theorem setEach (array : PackedArray layout) (writes : List (Number × Number)) :
    (array.setEach writes).1.Follows array := by
  induction writes generalizing array with
  | nil => exact .refl array
  | cons write rest inductionHypothesis =>
      rw [PackedArray.setEach]
      split
      · exact .refl array
      · rename_i place natural accepted
        exact (inductionHypothesis _).trans (.setCell array place natural)

theorem set
    {index value : Number}
    (wrote : array.set index value = .ok left) :
    left.Follows array := by
  obtain ⟨⟨place, natural⟩, -, rfl⟩ := map_eq_ok_iff.1 wrote
  exact .setCell array place natural

theorem widen (array : PackedArray layout) (number : Number) :
    (array.widen number).1.Follows array := by
  unfold PackedArray.widen
  split
  · exact .refl array
  · rename_i bound accepted
    split
    · exact .refl array
    · rename_i exceeds
      have admissible := (of_checkMaxValue_eq_ok accepted).2
      split
      · rename_i sameWidth
        exact
          { size_eq := rfl
            maxValue_le := Nat.le_of_not_le exceeds
            limbs_eq _ := rfl
            stored := fun stored =>
              { bound_le := admissible
                enough := by
                  simp only [width, sameWidth]
                  exact stored.enough } }
      · rename_i otherWidth
        obtain ⟨widened, wrote, shows⟩ := array.repack_of_wider admissible exceeds otherWidth
        rw [wrote]
        exact
          { size_eq := by rw [← shows.length_eq, length_values]
            maxValue_le := by
              rw [shows.maxValue_eq]
              exact Nat.le_of_not_le exceeds
            limbs_eq := fun sameWidth => by
              rw [width, shows.maxValue_eq] at sameWidth
              exact absurd sameWidth otherWidth
            stored := fun _ => shows.stored }

end Follows

/-- A copy in the other layout has a limb for every bit of its cells as well. -/
theorem Stored.relayout
    (stored : array.Stored)
    {target : Layout}
    {copy : PackedArray target}
    (copied : array.relayout target = .ok copy) :
    copy.Stored := by
  obtain ⟨-, -, rfl⟩ := map_eq_ok_iff.1 copied
  exact (Follows.setEach _ _).stored (represents_zeros target array.size stored.bound_le).stored

end PackedArray

end BlockVolume
