import BlockVolume.Proofs.Storage.ByteAccesses
import BlockVolume.Proofs.Storage.WordAccesses
import BlockVolume.Proofs.Workspace.Copies
import BlockVolume.Proofs.Workspace.Views

namespace BlockVolume

/-!
# Stores that are large enough

Arrays are accessed without a check that a limb exists, so every array has to come with the
limbs that its cells need and keep them. A padded array has just these limbs. A contiguous
one may lie over a longer buffer that other arrays use as well; none of them changes the
length of a buffer, and a widening takes a new one of the right length.
-/

namespace Workspace

variable {workspace next : Workspace} {id : ViewId}

/-- What calls on some arrays, each on the one that is named with it, leave behind. -/
def afterCalls (workspace : Workspace) (calls : List (ArrayId × ArrayCall)) : Workspace :=
  calls.foldl (fun left next => left.after (arrayCall next.1 next.2)) workspace

/-- No call on any array takes a cell from another. -/
theorem HoldsArray.afterCalls
    {id : ArrayId}
    (holds : workspace.HoldsArray id)
    (calls : List (ArrayId × ArrayCall)) :
    (workspace.afterCalls calls).HoldsArray id := by
  induction calls generalizing workspace with
  | nil => exact holds
  | cons first rest inductionHypothesis =>
      exact inductionHypothesis (holds.afterArrayCalls [first.2])

/-- A new contiguous array: over a buffer that is kept, of zeros, or with the cells of another. -/
inductive MakesView (next workspace : Workspace) (id : ViewId) : Prop where
  | onBuffer
      {buffer : BufferId}
      {size maxValue : Number}
      (kept : buffer.index < workspace.buffers.size)
      (ran : (layOver size maxValue buffer).run.run workspace = (.ok id, next)) :
      MakesView next workspace id
  | zeros
      {size maxValue : Number}
      {array : PackedArray .contiguous}
      (made : PackedArray.make .contiguous size maxValue = .ok array)
      (ran : (addView array).run.run workspace = (.ok id, next)) :
      MakesView next workspace id
  | copy
      {source : ArrayId}
      (holds : workspace.HoldsArray source)
      (ran : (contiguousCopy source).run.run workspace = (.ok id, next)) :
      MakesView next workspace id

/-- Only accepted dimensions are laid over a buffer. -/
theorem accepted_of_run_layOver
    {buffer : BufferId}
    {size maxValue : Number}
    (ran : (layOver size maxValue buffer).run.run workspace = (.ok id, next)) :
    ∃ count bound, PackedArray.checkDimensions size maxValue = .ok (count, bound) := by
  cases laid : PackedArray.overBytes size maxValue (workspace.bytesAt buffer) with
  | ok array =>
      obtain ⟨⟨count, bound⟩, accepted, -⟩ := bind_eq_ok_iff.1 laid
      exact ⟨count, bound, accepted⟩
  | error cause =>
      rw [run_layOver_of_error laid] at ran
      cases ran

/-- An array that is stored whole is kept so in a buffer of its own. -/
theorem holdsArray_withNewView
    (workspace : Workspace)
    {array : PackedArray .contiguous}
    (stored : array.Stored) :
    (workspace.withNewView array).HoldsArray (.view ⟨workspace.views.size⟩) where
  kept := keepsView_withNewView_self workspace array
  stored := by
    rw [arrayAt, viewAt_withNewView_self]
    exact stored

/-- A new contiguous array has the bytes that its cells need. -/
theorem MakesView.holdsArray (makes : next.MakesView workspace id) :
    next.HoldsArray (.view id) := by
  cases makes with
  | onBuffer kept ran =>
      obtain ⟨count, bound, accepted⟩ := accepted_of_run_layOver ran
      have laid := laidOver_of_run kept accepted ran
      exact ⟨laid.lies.kept, laid.stored⟩
  | zeros made ran =>
      obtain ⟨count, bound, -, -, admissible, -, rfl⟩ := PackedArray.make_eq_ok_iff.1 made
      rw [run_addView] at ran
      cases ran
      exact workspace.holdsArray_withNewView
        (PackedArray.represents_zeros .contiguous count admissible).stored
  | @copy source holds ran =>
      cases copied : (workspace.arrayAt source).relayout .contiguous with
      | ok array =>
          rw [run_contiguousCopy_of_ok copied] at ran
          cases ran
          exact workspace.holdsArray_withNewView (holds.stored.relayout copied)
      | error cause =>
          rw [run_contiguousCopy_of_error copied] at ran
          cases ran

/--
A padded array that callers can build has two halves for each of the words that its cells
fill, and keeps to one word in each access. A contiguous array, over a given buffer or with
a store of its own, still has the bytes that its cells need after any calls on any arrays,
and keeps to them. No access leaves its store or shifts by a count outside `0` to `31`; it
answers and leaves behind what the array does.
-/
theorem accesses_stay_in_stores :
    (∀ array : PackedArray .padded, array.Reachable →
      array.limbs.size = 2 * Layout.ceilDiv array.size (Layout.cellsPerWord array.width) ∧
      ∀ index < array.size, array.KeepsToWord index) ∧
    ∀ (workspace made : Workspace) (id : ViewId), made.MakesView workspace id → ∀ calls,
      Layout.ceilDiv (((made.afterCalls calls).viewAt id).size *
          ((made.afterCalls calls).viewAt id).width) 8 ≤
        ((made.afterCalls calls).viewAt id).limbs.size ∧
      ∀ index < ((made.afterCalls calls).viewAt id).size,
        ((made.afterCalls calls).viewAt id).KeepsToBytes index := by
  constructor
  · intro array reachable
    exact ⟨reachable.tight, fun index inside => reachable.sound.stored.keepsToWord inside⟩
  · intro workspace made id makes calls
    have stored := (makes.holdsArray.afterCalls calls).stored
    exact ⟨stored.enough, fun index inside => stored.keepsToBytes inside⟩

/-- A cell across both halves of a word, and one in five bytes of a buffer that has one more. -/
theorem accesses_stay_in_stores_of_crossing_cells :
    ∃ (array : PackedArray .padded) (workspace laid : Workspace),
      PackedArray.ofLongs [-1] 12 31 true = .ok array ∧ array.limbs.size = 2 ∧
      Layout.offsetOf array.width 6 = 30 ∧ array.KeepsToWord 6 ∧
      (layOver 2 2147483647 ⟨0⟩).run.run workspace = (.ok ⟨0⟩, laid) ∧
      ((laid.afterCalls [(.view ⟨0⟩, .set 1 2147483646)]).viewAt ⟨0⟩).limbs.size = 9 ∧
      ((laid.afterCalls [(.view ⟨0⟩, .set 1 2147483646)]).viewAt ⟨0⟩).KeepsToBytes 1 := by
  let array : PackedArray .padded := { size := 12, maxValue := 31, limbs := #[-1, -1] }
  let workspace : Workspace := { initial with buffers := #[Array.replicate 9 0] }
  let laid := workspace.withViewOn { size := 2, maxValue := 2147483647, buffer := ⟨0⟩ }
  have read : PackedArray.ofLongs [-1] 12 31 true = .ok array := by decide
  have ran : (layOver 2 2147483647 ⟨0⟩).run.run workspace = (.ok ⟨0⟩, laid) := rfl
  have makes : laid.MakesView workspace ⟨0⟩ := .onBuffer (by decide) ran
  obtain ⟨paddedArrays, views⟩ := accesses_stay_in_stores
  obtain ⟨twoHalves, keepsToWord⟩ := paddedArrays array (.ofLongs read)
  obtain ⟨-, keepsToBytes⟩ := views workspace laid ⟨0⟩ makes [(.view ⟨0⟩, .set 1 2147483646)]
  exact ⟨array, workspace, laid, read, twoHalves.trans (by decide), by decide,
    keepsToWord 6 (by decide), ran, by decide, keepsToBytes 1 (by decide)⟩

end Workspace

end BlockVolume
