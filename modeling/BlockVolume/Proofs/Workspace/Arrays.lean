import BlockVolume.Proofs.Storage.AllOrNothing
import BlockVolume.Proofs.Workspace.Sessions

namespace BlockVolume

/-!
# Arrays of a workspace

An array of either layout is loaded, changed by a rule and stored again. Two
contiguous arrays may lie over one buffer, so that a change of one shows in the
other; but neither loses a cell by it, since a buffer keeps its length.
-/

/-- The layout of the array of an id. -/
def ArrayId.layout : ArrayId → Layout
  | .padded _ => .padded
  | .view _ => .contiguous

/-- The bytes of a contiguous array. -/
def PackedArray.bytes (array : PackedArray .contiguous) : Array Byte :=
  array.limbs

namespace Workspace

variable {workspace : Workspace} {Answer : Type}

/-- The padded array that an id stands for. -/
def paddedAt (workspace : Workspace) (id : PaddedId) : PackedArray .padded :=
  workspace.paddedArrays.getD id.index (.zeros .padded 0 0)

/-- The array that an id stands for. -/
def arrayAt (workspace : Workspace) : (id : ArrayId) → PackedArray id.layout
  | .padded id => workspace.paddedAt id
  | .view id => workspace.viewAt id

/-- A contiguous array that is kept, over a buffer that is kept. -/
structure KeepsView (workspace : Workspace) (id : ViewId) : Prop where
  view_lt : id.index < workspace.views.size
  buffer_lt : (workspace.viewRecordAt id).buffer.index < workspace.buffers.size

/-- An array that is kept. -/
def KeepsArray (workspace : Workspace) : ArrayId → Prop
  | .padded id => id.index < workspace.paddedArrays.size
  | .view id => workspace.KeepsView id

/-- An array that is kept with all its cells. -/
structure HoldsArray (workspace : Workspace) (id : ArrayId) : Prop where
  kept : workspace.KeepsArray id
  stored : (workspace.arrayAt id).Stored

/-- A held array shows its values. -/
theorem HoldsArray.represents
    {id : ArrayId}
    (holds : workspace.HoldsArray id) :
    (workspace.arrayAt id).Represents (workspace.arrayAt id).maxValue
      (workspace.arrayAt id).values :=
  holds.stored.represents

/-- A fact about an array is read off the array that its id stands for. -/
theorem run_readArray
    (workspace : Workspace)
    (id : ArrayId)
    (observe : {layout : Layout} → PackedArray layout → Answer) :
    (readArray id observe).run.run workspace =
      (.ok (observe (workspace.arrayAt id)), workspace) := by
  cases id with
  | padded id => rfl
  | view id => rfl

/-- Workspaces with the same arrays. -/
structure SameArrays (next workspace : Workspace) : Prop where
  buffers_eq : next.buffers = workspace.buffers
  paddedArrays_eq : next.paddedArrays = workspace.paddedArrays
  views_eq : next.views = workspace.views

namespace SameArrays

variable {next : Workspace} {id : ArrayId}

theorem arrayAt_eq
    (same : next.SameArrays workspace)
    (id : ArrayId) :
    next.arrayAt id = workspace.arrayAt id := by
  cases id with
  | padded id => rw [arrayAt, arrayAt, paddedAt, paddedAt, same.paddedArrays_eq]
  | view id =>
      rw [arrayAt, arrayAt, viewAt, viewAt, viewRecordAt, viewRecordAt, same.buffers_eq,
        same.views_eq]

theorem holdsArray
    (same : next.SameArrays workspace)
    (holds : workspace.HoldsArray id) :
    next.HoldsArray id where
  kept := by
    cases id with
    | padded id =>
        exact Nat.lt_of_lt_of_eq holds.kept (congrArg Array.size same.paddedArrays_eq.symm)
    | view id =>
        refine ⟨?_, ?_⟩
        · rw [same.views_eq]
          exact holds.kept.view_lt
        · rw [viewRecordAt, same.buffers_eq, same.views_eq]
          exact holds.kept.buffer_lt
  stored := by
    rw [same.arrayAt_eq]
    exact holds.stored

end SameArrays

/-! ## New arrays -/

/-- The workspace with a new contiguous array over a buffer of its own. -/
def withNewView (workspace : Workspace) (array : PackedArray .contiguous) : Workspace :=
  let view : View :=
    { size := array.size, maxValue := array.maxValue, buffer := ⟨workspace.buffers.size⟩ }
  { workspace with
    buffers := workspace.buffers.push array.bytes
    views := workspace.views.push view }

theorem run_addView (workspace : Workspace) (array : PackedArray .contiguous) :
    (addView array).run.run workspace =
      (.ok ⟨workspace.views.size⟩, workspace.withNewView array) :=
  rfl

section NewView

variable {id : ViewId}

theorem viewRecordAt_withNewView_self (workspace : Workspace) (array : PackedArray .contiguous) :
    (workspace.withNewView array).viewRecordAt ⟨workspace.views.size⟩ =
      { size := array.size, maxValue := array.maxValue, buffer := ⟨workspace.buffers.size⟩ } :=
  getD_push_self workspace.views _ _

/-- A new contiguous array is found. -/
theorem viewAt_withNewView_self (workspace : Workspace) (array : PackedArray .contiguous) :
    (workspace.withNewView array).viewAt ⟨workspace.views.size⟩ = array := by
  have bytes :
      (workspace.withNewView array).buffers.getD workspace.buffers.size #[] = array.limbs :=
    getD_push_self workspace.buffers array.limbs #[]
  simp only [viewAt, viewRecordAt_withNewView_self, bytes]

theorem keepsView_withNewView_self (workspace : Workspace) (array : PackedArray .contiguous) :
    (workspace.withNewView array).KeepsView ⟨workspace.views.size⟩ where
  view_lt := Nat.lt_of_lt_of_eq (Nat.lt_succ_self _) (Array.size_push _).symm
  buffer_lt := by
    rw [viewRecordAt_withNewView_self]
    exact Nat.lt_of_lt_of_eq (Nat.lt_succ_self _) (Array.size_push _).symm

theorem viewRecordAt_withNewView
    (inside : id.index < workspace.views.size)
    (array : PackedArray .contiguous) :
    (workspace.withNewView array).viewRecordAt id = workspace.viewRecordAt id :=
  getD_push_of_lt inside _ _

/-- A contiguous array stays kept when a new one comes. -/
theorem KeepsView.withNewView
    (keeps : workspace.KeepsView id)
    (array : PackedArray .contiguous) :
    (workspace.withNewView array).KeepsView id where
  view_lt := Nat.lt_of_lt_of_eq (Nat.lt_succ_of_lt keeps.view_lt) (Array.size_push _).symm
  buffer_lt := by
    rw [viewRecordAt_withNewView keeps.view_lt]
    exact Nat.lt_of_lt_of_eq (Nat.lt_succ_of_lt keeps.buffer_lt) (Array.size_push _).symm

/-- It also stays what it was. -/
theorem viewAt_withNewView
    (keeps : workspace.KeepsView id)
    (array : PackedArray .contiguous) :
    (workspace.withNewView array).viewAt id = workspace.viewAt id := by
  have sameBuffer :
      (workspace.withNewView array).buffers.getD (workspace.viewRecordAt id).buffer.index #[] =
        workspace.buffers.getD (workspace.viewRecordAt id).buffer.index #[] :=
    getD_push_of_lt keeps.buffer_lt _ _
  simp only [viewAt, viewRecordAt_withNewView keeps.view_lt, sameBuffer]

end NewView

/-- A new contiguous array changes no array that was kept before. -/
theorem arrayAt_withNewView
    {id : ArrayId}
    (keeps : workspace.KeepsArray id)
    (array : PackedArray .contiguous) :
    (workspace.withNewView array).arrayAt id = workspace.arrayAt id := by
  cases id with
  | padded id => rfl
  | view id => exact viewAt_withNewView keeps array

/-! ## Stored changes -/

/-- The workspace with other buffers and a contiguous array over one of them. -/
def withViewOver
    (workspace : Workspace)
    (id : ViewId)
    (array : PackedArray .contiguous)
    (buffer : BufferId)
    (buffers : Array (Array Byte)) :
    Workspace :=
  let view : View := { size := array.size, maxValue := array.maxValue, buffer }
  { workspace with
    buffers
    views := workspace.views.setIfInBounds id.index view }

/-- The workspace with another contiguous array, in its buffer while its cells keep their width. -/
def withView
    (workspace : Workspace)
    (id : ViewId)
    (array : PackedArray .contiguous) :
    Workspace :=
  let record := workspace.viewRecordAt id
  if bitsNeeded record.maxValue = array.width then
    workspace.withViewOver id array record.buffer
      (workspace.buffers.setIfInBounds record.buffer.index array.bytes)
  else
    workspace.withViewOver id array ⟨workspace.buffers.size⟩ (workspace.buffers.push array.bytes)

/-- The workspace with another array. -/
def withArray (workspace : Workspace) : (id : ArrayId) → PackedArray id.layout → Workspace
  | .padded id, array =>
      { workspace with paddedArrays := workspace.paddedArrays.setIfInBounds id.index array }
  | .view id, array => workspace.withView id array

theorem run_viewRecord (workspace : Workspace) (id : ViewId) :
    (viewRecord id).run.run workspace = (.ok (workspace.viewRecordAt id), workspace) :=
  rfl

theorem run_setView (workspace : Workspace) (id : ViewId) (array : PackedArray .contiguous) :
    (setView id array).run.run workspace = (.ok (), workspace.withView id array) := by
  rw [setView, run_bind_of_ok (run_viewRecord workspace id), withView]
  split <;> rfl

/-- A rule answers with its outcome and leaves its array behind. -/
theorem run_updateArray
    (workspace : Workspace)
    (id : ArrayId)
    (rule :
      {layout : Layout} → PackedArray layout → PackedArray layout × Except StorageError Answer) :
    (updateArray id rule).run.run workspace =
      ((rule (workspace.arrayAt id)).2,
        workspace.withArray id (rule (workspace.arrayAt id)).1) := by
  cases id with
  | padded id => rfl
  | view id =>
      rw [updateArray, run_bind_of_ok (run_view workspace id)]
      exact run_bind_of_ok (run_setView workspace id _) _

theorem remaps_withView (workspace : Workspace) (id : ViewId) (array : PackedArray .contiguous) :
    (workspace.withView id array).remaps = workspace.remaps := by
  rw [withView]
  split <;> rfl

@[simp]
theorem remaps_withArray (workspace : Workspace) (id : ArrayId) (array : PackedArray id.layout) :
    (workspace.withArray id array).remaps = workspace.remaps := by
  cases id with
  | padded id => rfl
  | view id => exact workspace.remaps_withView id array

theorem palettes_withView (workspace : Workspace) (id : ViewId) (array : PackedArray .contiguous) :
    (workspace.withView id array).palettes = workspace.palettes := by
  rw [withView]
  split <;> rfl

@[simp]
theorem palettes_withArray (workspace : Workspace) (id : ArrayId) (array : PackedArray id.layout) :
    (workspace.withArray id array).palettes = workspace.palettes := by
  cases id with
  | padded id => rfl
  | view id => exact workspace.palettes_withView id array

/-- Storing an array as it is changes nothing. -/
theorem withArray_self (workspace : Workspace) (id : ArrayId) :
    workspace.withArray id (workspace.arrayAt id) = workspace := by
  cases id with
  | padded id =>
      rw [withArray, arrayAt, paddedAt, setIfInBounds_getD_self]
  | view id =>
      have stays : bitsNeeded (workspace.viewRecordAt id).maxValue = (workspace.viewAt id).width :=
        rfl
      have sameBuffers :
          workspace.buffers.setIfInBounds (workspace.viewRecordAt id).buffer.index
            (workspace.viewAt id).bytes = workspace.buffers :=
        setIfInBounds_getD_self _ _ _
      have sameViews :
          workspace.views.setIfInBounds id.index (workspace.viewRecordAt id) = workspace.views :=
        setIfInBounds_getD_self _ _ _
      exact (if_pos stays).trans
        (congrArg₂ (fun buffers views => { workspace with buffers, views }) sameBuffers sameViews)

/-- A rule that refuses an array and leaves it alone changes nothing. -/
theorem run_updateArray_of_error
    {id : ArrayId}
    {rule :
      {layout : Layout} → PackedArray layout → PackedArray layout × Except StorageError Answer}
    {left : PackedArray id.layout}
    {cause : StorageError}
    (refused : rule (workspace.arrayAt id) = (left, .error cause))
    (unchanged : left = workspace.arrayAt id) :
    (updateArray id rule).run.run workspace = (.error cause, workspace) := by
  rw [run_updateArray, refused, unchanged, withArray_self]

/-- A rule that leaves alone what it refuses changes nothing when it fails. -/
theorem eq_of_run_updateArray_eq_error
    {id : ArrayId}
    {rule :
      {layout : Layout} → PackedArray layout → PackedArray layout × Except StorageError Answer}
    {next : Workspace}
    {cause : StorageError}
    (unchanged : ∀ left cause, rule (workspace.arrayAt id) = (left, .error cause) →
      left = workspace.arrayAt id)
    (failed : (updateArray id rule).run.run workspace = (.error cause, next)) :
    next = workspace := by
  cases result : rule (workspace.arrayAt id) with
  | mk left outcome =>
      cases outcome with
      | ok answer =>
          rw [run_updateArray, result] at failed
          cases failed
      | error cause =>
          rw [run_updateArray_of_error result (unchanged left cause result)] at failed
          exact (congrArg Prod.snd failed).symm

/-! ## Arrays that are kept -/

section Kept

variable {id other target : ViewId} {array : PackedArray .contiguous} {buffer : BufferId}
  {buffers : Array (Array Byte)}

theorem viewRecordAt_withViewOver_self (inside : id.index < workspace.views.size) :
    (workspace.withViewOver id array buffer buffers).viewRecordAt id =
      { size := array.size, maxValue := array.maxValue, buffer } :=
  getD_setIfInBounds_self inside _ _

theorem viewRecordAt_withViewOver_of_ne (different : target ≠ other) :
    (workspace.withViewOver target array buffer buffers).viewRecordAt other =
      workspace.viewRecordAt other := by
  have differentIndex : target.index ≠ other.index := mt (congrArg ViewId.mk) different
  exact getD_setIfInBounds_of_ne differentIndex _ _

/-- A contiguous array that is stored is found. -/
theorem viewAt_withViewOver_self
    (inside : id.index < workspace.views.size)
    (placed : buffers.getD buffer.index #[] = array.bytes) :
    (workspace.withViewOver id array buffer buffers).viewAt id = array := by
  rw [viewAt, viewRecordAt_withViewOver_self inside]
  exact congrArg (PackedArray.mk array.size array.maxValue) placed

namespace KeepsView

theorem viewAt_withView_self
    (kept : workspace.KeepsView id)
    (array : PackedArray .contiguous) :
    (workspace.withView id array).viewAt id = array := by
  rw [withView]
  split
  · exact viewAt_withViewOver_self kept.view_lt (getD_setIfInBounds_self kept.buffer_lt _ _)
  · exact viewAt_withViewOver_self kept.view_lt (getD_push_self _ _ _)

/-- A contiguous array stays kept when one is stored. -/
theorem withViewOver
    (kept : workspace.KeepsView id)
    (placed : target = id → buffer.index < buffers.size)
    (noneLost : workspace.buffers.size ≤ buffers.size) :
    (workspace.withViewOver target array buffer buffers).KeepsView id where
  view_lt := Nat.lt_of_lt_of_eq kept.view_lt Array.size_setIfInBounds.symm
  buffer_lt := by
    by_cases same : target = id
    · subst same
      rw [viewRecordAt_withViewOver_self kept.view_lt]
      exact placed rfl
    · rw [viewRecordAt_withViewOver_of_ne same]
      exact Nat.lt_of_lt_of_le kept.buffer_lt noneLost

theorem withView
    (kept : workspace.KeepsView id)
    (target : ViewId)
    (array : PackedArray .contiguous) :
    (workspace.withView target array).KeepsView id := by
  rw [Workspace.withView]
  split
  · refine kept.withViewOver (fun same => ?_) (Nat.le_of_eq Array.size_setIfInBounds.symm)
    subst same
    rw [Array.size_setIfInBounds]
    exact kept.buffer_lt
  · refine kept.withViewOver (fun _ => ?_) ?_
    · rw [Array.size_push]
      exact Nat.lt_succ_self _
    · rw [Array.size_push]
      exact Nat.le_succ _

/-- It also stays stored, since every buffer keeps its length. -/
theorem stored_withViewOver
    (kept : workspace.KeepsView id)
    (stored : (workspace.viewAt id).Stored)
    (different : target ≠ id)
    (sameSizes : ∀ index < workspace.buffers.size,
      (buffers.getD index #[]).size = (workspace.buffers.getD index #[]).size) :
    ((workspace.withViewOver target array buffer buffers).viewAt id).Stored where
  bound_le := by
    rw [viewAt, viewRecordAt_withViewOver_of_ne different]
    exact stored.bound_le
  enough := by
    rw [viewAt, viewRecordAt_withViewOver_of_ne different]
    exact Nat.le_trans stored.enough (Nat.le_of_eq (sameSizes _ kept.buffer_lt).symm)

theorem stored_withView
    (kept : workspace.KeepsView id)
    (stored : (workspace.viewAt id).Stored)
    (follows : array.Follows (workspace.viewAt target)) :
    ((workspace.withView target array).viewAt id).Stored := by
  by_cases same : target = id
  · subst same
    rw [kept.viewAt_withView_self]
    exact follows.stored stored
  · rw [Workspace.withView]
    split
    · rename_i stays
      refine kept.stored_withViewOver stored same fun index inside => ?_
      by_cases sameBuffer : (workspace.viewRecordAt target).buffer.index = index
      · subst sameBuffer
        rw [getD_setIfInBounds_self inside]
        exact follows.limbs_eq stays.symm
      · rw [getD_setIfInBounds_of_ne sameBuffer]
    · refine kept.stored_withViewOver stored same fun index inside => ?_
      rw [getD_push_of_lt inside]

end KeepsView

end Kept

/-- An array that is stored is found. -/
theorem arrayAt_withArray_self
    {id : ArrayId}
    (kept : workspace.KeepsArray id)
    (array : PackedArray id.layout) :
    (workspace.withArray id array).arrayAt id = array := by
  cases id with
  | padded id => exact getD_setIfInBounds_self kept array _
  | view id => exact KeepsView.viewAt_withView_self kept array

theorem arrayAt_withArray_padded_of_ne
    {target : PaddedId}
    {id : ArrayId}
    (different : .padded target ≠ id)
    (array : PackedArray (ArrayId.padded target).layout) :
    (workspace.withArray (.padded target) array).arrayAt id = workspace.arrayAt id := by
  cases id with
  | view id => rfl
  | padded id =>
      have differentIndex : target.index ≠ id.index :=
        mt (congrArg fun index => ArrayId.padded ⟨index⟩) different
      exact getD_setIfInBounds_of_ne differentIndex array _

theorem paddedArrays_withView
    (workspace : Workspace)
    (id : ViewId)
    (array : PackedArray .contiguous) :
    (workspace.withView id array).paddedArrays = workspace.paddedArrays := by
  rw [withView]
  split <;> rfl

/-- What operations leave behind takes no cell from any array. -/
theorem HoldsArray.withArray
    {id target : ArrayId}
    {array : PackedArray target.layout}
    (holds : workspace.HoldsArray id)
    (follows : array.Follows (workspace.arrayAt target)) :
    (workspace.withArray target array).HoldsArray id := by
  cases target with
  | padded target =>
      refine ⟨?_, ?_⟩
      · cases id with
        | padded id => exact Nat.lt_of_lt_of_eq holds.kept Array.size_setIfInBounds.symm
        | view id => exact ⟨holds.kept.view_lt, holds.kept.buffer_lt⟩
      · by_cases same : .padded target = id
        · subst same
          rw [arrayAt_withArray_self holds.kept]
          exact follows.stored holds.stored
        · rw [arrayAt_withArray_padded_of_ne same]
          exact holds.stored
  | view target =>
      cases id with
      | padded id =>
          have unchanged := workspace.paddedArrays_withView target array
          refine ⟨?_, ?_⟩
          · simpa only [KeepsArray, Workspace.withArray, unchanged] using holds.kept
          · simpa only [arrayAt, paddedAt, Workspace.withArray, unchanged] using holds.stored
      | view id =>
          exact ⟨KeepsView.withView holds.kept target array,
            KeepsView.stored_withView holds.kept holds.stored follows⟩

end Workspace

end BlockVolume
