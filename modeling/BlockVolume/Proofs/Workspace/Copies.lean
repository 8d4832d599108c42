import BlockVolume.Proofs.Storage.Sizes
import BlockVolume.Proofs.Workspace.Arrays

namespace BlockVolume

/-!
# Copies in the contiguous layout

An array of either layout is copied into a new contiguous array, cell by cell, which
takes a buffer of its own and leaves everything else alone. A padded array always has
a copy, which never takes more bytes. An array over a foreign buffer has one as long as
no cell is beyond its bound; otherwise the first such cell is named.
-/

namespace Workspace

variable {workspace next : Workspace} {id : ArrayId}

/-- What the cells of an array allow to be made of them is kept as a new array. -/
theorem run_contiguousCopy_of_ok
    {copy : PackedArray .contiguous}
    (copied : (workspace.arrayAt id).relayout .contiguous = .ok copy) :
    (contiguousCopy id).run.run workspace =
      (.ok ⟨workspace.views.size⟩, workspace.withNewView copy) := by
  rw [contiguousCopy, run_bind_of_ok (workspace.run_readArray id _), copied,
    run_bind_of_ok (run_lift_ok workspace copy), run_addView]

/-- A copy that is refused changes nothing. -/
theorem run_contiguousCopy_of_error
    {cause : StorageError}
    (refused : (workspace.arrayAt id).relayout .contiguous = .error cause) :
    (contiguousCopy id).run.run workspace = (.error cause, workspace) := by
  rw [contiguousCopy, run_bind_of_ok (workspace.run_readArray id _), refused]
  rfl

/-- A contiguous array with the cells of another one, and no array changed by it. -/
structure CopiedFrom
    (next workspace : Workspace)
    (copy : ViewId)
    (source : ArrayId) :
    Prop where
  size_eq : (next.viewAt copy).size = (workspace.arrayAt source).size
  maxValue_eq : (next.viewAt copy).maxValue = (workspace.arrayAt source).maxValue
  width_eq : (next.viewAt copy).width = (workspace.arrayAt source).width
  values_eq : (next.viewAt copy).values = (workspace.arrayAt source).values
  byteLength_eq :
    (next.viewAt copy).byteLength =
      ((workspace.arrayAt source).size * (workspace.arrayAt source).width + 7) / 8
  unchanged : ∀ other, workspace.KeepsArray other → next.arrayAt other = workspace.arrayAt other

/-- Cells within their bound are copied. -/
theorem run_contiguousCopy_of_le
    (stored : (workspace.arrayAt id).Stored)
    (within : ∀ value ∈ (workspace.arrayAt id).values, value ≤ (workspace.arrayAt id).maxValue) :
    ∃ copy next, (contiguousCopy id).run.run workspace = (.ok copy, next) ∧
      next.CopiedFrom workspace copy id := by
  obtain ⟨copy, copied, shows⟩ := stored.represents.relayout_of_le within .contiguous
  have size_eq : copy.size = (workspace.arrayAt id).size := by
    rw [← shows.length_eq, PackedArray.length_values]
  have width_eq : copy.width = (workspace.arrayAt id).width :=
    congrArg bitsNeeded shows.maxValue_eq
  have found := workspace.viewAt_withNewView_self copy
  refine ⟨_, _, run_contiguousCopy_of_ok copied, ?_⟩
  exact
    { size_eq := by rw [found, size_eq]
      maxValue_eq := by rw [found, shows.maxValue_eq]
      width_eq := by rw [found, width_eq]
      values_eq := by rw [found, shows.values_eq]
      byteLength_eq := by
        rw [found, PackedArray.byteLength, size_eq, width_eq]
        exact Nat.one_mul _
      unchanged := fun _ keeps => arrayAt_withNewView keeps copy }

/-- The first cell beyond the bound is refused. -/
theorem run_contiguousCopy_of_exceeds
    (stored : (workspace.arrayAt id).Stored)
    {before after : List Nat}
    {value : Nat}
    (split : (workspace.arrayAt id).values = before ++ value :: after)
    (early : ∀ other ∈ before, other ≤ (workspace.arrayAt id).maxValue)
    (exceeds : (workspace.arrayAt id).maxValue < value) :
    (contiguousCopy id).run.run workspace =
      (.error (.exceedsMaxValue (.ofNat value) (workspace.arrayAt id).maxValue), workspace) :=
  run_contiguousCopy_of_error (stored.represents.relayout_of_exceeds split early exceeds .contiguous)

/-- An array is copied exactly when no cell is beyond its bound. -/
theorem contiguousCopy_succeeds_iff (stored : (workspace.arrayAt id).Stored) :
    (∃ copy next, (contiguousCopy id).run.run workspace = (.ok copy, next)) ↔
      ∀ value ∈ (workspace.arrayAt id).values, value ≤ (workspace.arrayAt id).maxValue := by
  constructor
  · rintro ⟨copy, next, ran⟩
    rcases all_or_first_fails (· ≤ (workspace.arrayAt id).maxValue) (workspace.arrayAt id).values
      with within | ⟨before, value, after, split, early, fails⟩
    · exact within
    · rw [run_contiguousCopy_of_exceeds stored split early (Nat.lt_of_not_le fails)] at ran
      cases ran
  · intro within
    obtain ⟨copy, next, ran, -⟩ := run_contiguousCopy_of_le stored within
    exact ⟨copy, next, ran⟩

/--
A padded array that callers can build is always copied into the contiguous layout. The
copy has the same size, bound, width and values, takes the bytes of its bits, which are
no more than the padded array takes, and a store of so many bytes can be allocated if
the padded one could. A contiguous array over a buffer of any bytes is copied exactly
when no cell is beyond its bound, and otherwise the first such cell is refused with its
value. No array changes in any of these cases.
-/
theorem contiguousCopy_is_lossless :
    (∀ (workspace : Workspace) (id : PaddedId), workspace.KeepsArray (.padded id) →
      (workspace.paddedAt id).Reachable →
      ∃ copy next, (contiguousCopy (.padded id)).run.run workspace = (.ok copy, next) ∧
        next.CopiedFrom workspace copy (.padded id) ∧
        (workspace.paddedAt id).byteLength = 4 * (workspace.paddedAt id).limbs.size ∧
        (next.viewAt copy).byteLength ≤ (workspace.paddedAt id).byteLength ∧
        ((workspace.paddedAt id).byteLength ≤ PackedArray.allocatableBytes →
          PackedArray.checkNew .contiguous
              (.ofNat (workspace.paddedAt id).size) (.ofNat (workspace.paddedAt id).maxValue) =
            .ok ((workspace.paddedAt id).size, (workspace.paddedAt id).maxValue))) ∧
    ∀ (workspace : Workspace) (id : ViewId), workspace.HoldsArray (.view id) →
      ((∃ copy next, (contiguousCopy (.view id)).run.run workspace = (.ok copy, next)) ↔
        ∀ value ∈ (workspace.viewAt id).values, value ≤ (workspace.viewAt id).maxValue) ∧
      (∀ copy next, (contiguousCopy (.view id)).run.run workspace = (.ok copy, next) →
        next.CopiedFrom workspace copy (.view id)) ∧
      ∀ before value after, (workspace.viewAt id).values = before ++ value :: after →
        (∀ other ∈ before, other ≤ (workspace.viewAt id).maxValue) →
        (workspace.viewAt id).maxValue < value →
        ∃ cause, (contiguousCopy (.view id)).run.run workspace = (.error cause, workspace) ∧
          cause.failure.kind = .value ∧ cause.failure.value = some (.ofNat value) := by
  constructor
  · intro workspace id _ reachable
    have sound : (workspace.arrayAt (.padded id)).Sound := reachable.sound
    have fewer := sound.stored.bytesNeeded_le_byteLength
    obtain ⟨copy, next, ran, copied⟩ := run_contiguousCopy_of_le sound.stored sound.within
    refine ⟨copy, next, ran, copied, ?_, ?_, fun allocated => ?_⟩
    · exact congrArg (4 * ·) reachable.tight.symm
    · rw [copied.byteLength_eq]
      exact fewer
    · exact PackedArray.checkNew_contiguous sound.stored.bound_le (Nat.le_trans fewer allocated)
  · intro workspace id holds
    have succeeds_iff := contiguousCopy_succeeds_iff holds.stored
    refine ⟨succeeds_iff, fun copy next ran => ?_, fun before value after split early exceeds => ?_⟩
    · obtain ⟨found, left, ranToo, copied⟩ :=
        run_contiguousCopy_of_le holds.stored (succeeds_iff.1 ⟨copy, next, ran⟩)
      rw [ran] at ranToo
      cases ranToo
      exact copied
    · exact ⟨_, run_contiguousCopy_of_exceeds holds.stored split early exceeds, rfl, rfl⟩

/-- Three padded cells, and two over a byte that breaks the lower one of two bounds. -/
theorem contiguousCopy_is_lossless_of_three_bits :
    ∃ workspace : Workspace,
      (∃ copy next, (contiguousCopy (.padded ⟨0⟩)).run.run workspace = (.ok copy, next) ∧
        (next.viewAt copy).values = [0, 20, 0] ∧ (next.viewAt copy).byteLength = 2) ∧
      (workspace.viewAt ⟨0⟩).values = [7, 4] ∧
      (∃ cause, (contiguousCopy (.view ⟨0⟩)).run.run workspace = (.error cause, workspace) ∧
        cause.failure.value = some 7) ∧
      ∃ copy next, (contiguousCopy (.view ⟨1⟩)).run.run workspace = (.ok copy, next) ∧
        (next.viewAt copy).values = [7, 4] := by
  let array := (PackedArray.zeros .padded 3 20).setCell 1 20
  let workspace : Workspace :=
    { initial with
      buffers := #[#[0xE7]]
      paddedArrays := #[array]
      views :=
        #[{ size := 2, maxValue := 5, buffer := ⟨0⟩ }, { size := 2, maxValue := 7, buffer := ⟨0⟩ }] }
  have made : PackedArray.make .padded 3 20 = .ok (.zeros .padded 3 20) := rfl
  have wrote : (PackedArray.zeros .padded 3 20).set 1 20 = .ok array := rfl
  have lower : workspace.HoldsArray (.view ⟨0⟩) :=
    ⟨⟨by decide, by decide⟩, ⟨by decide, by decide⟩⟩
  have upper : workspace.HoldsArray (.view ⟨1⟩) :=
    ⟨⟨by decide, by decide⟩, ⟨by decide, by decide⟩⟩
  have shown : (workspace.viewAt ⟨1⟩).values = [7, 4] := by decide
  obtain ⟨copies, copiesViews⟩ := contiguousCopy_is_lossless
  obtain ⟨copy, next, ran, copied, -⟩ :=
    copies workspace ⟨0⟩ Nat.zero_lt_one (.set (.make made) wrote)
  obtain ⟨-, -, refuses⟩ := copiesViews workspace ⟨0⟩ lower
  obtain ⟨cause, refused, -, named⟩ :=
    refuses [] 7 [4] (by decide) (fun other member => nomatch member) (by decide)
  obtain ⟨succeeds_iff, copiesUpper, -⟩ := copiesViews workspace ⟨1⟩ upper
  obtain ⟨copyUpper, nextUpper, ranUpper⟩ := succeeds_iff.2 (by decide)
  refine ⟨workspace, ⟨copy, next, ran, ?_, ?_⟩, by decide, ⟨cause, refused, named⟩,
    copyUpper, nextUpper, ranUpper, ?_⟩
  · exact copied.values_eq.trans (by decide)
  · exact copied.byteLength_eq.trans (by decide)
  · exact (copiesUpper copyUpper nextUpper ranUpper).values_eq.trans shown

end Workspace

end BlockVolume
