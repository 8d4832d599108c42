import BlockVolume.Proofs.Rows
import BlockVolume.Workspace.Volumes

namespace BlockVolume

/-!
# What sessions do to a workspace

A session is run on a workspace and leaves one behind. The values that ids
stand for are read off a workspace here, and each kind of step has one lemma
that says what it answers and which values it changes.
-/

namespace Workspace

variable {workspace next : Workspace} {Answer Later : Type}

/-- A stage that succeeds hands its answer and its workspace to the stages after it. -/
theorem run_bind_of_ok
    {first : Session Answer}
    {answer : Answer}
    (ran : first.run.run workspace = (.ok answer, next))
    (second : Answer → Session Later) :
    (first >>= second).run.run workspace = (second answer).run.run next := by
  rw [ExceptT.run_bind, StateT.run_bind, ran]
  rfl

/-- A stage that fails keeps the later ones from starting. -/
theorem run_bind_of_error
    {first : Session Answer}
    {cause : StorageError}
    (failed : first.run.run workspace = (.error cause, next))
    (second : Answer → Session Later) :
    (first >>= second).run.run workspace = (.error cause, next) := by
  rw [ExceptT.run_bind, StateT.run_bind, failed]
  rfl

/-- A rule that succeeds leaves the workspace alone. -/
theorem run_lift_ok (workspace : Workspace) (answer : Answer) :
    (lift (.ok answer)).run.run workspace = (.ok answer, workspace) :=
  rfl

/-- A session whose answer is not needed. -/
theorem run_ignored
    {first : Session Answer}
    {outcome : Except StorageError Answer}
    (ran : first.run.run workspace = (outcome, next)) :
    (do let _ ← first : Session Unit).run.run workspace = (outcome.map fun _ => (), next) := by
  cases outcome with
  | ok answer => exact run_bind_of_ok ran _
  | error cause => exact run_bind_of_error ran _

/-- A traversal that only reads answers with what it reads and leaves the workspace alone. -/
theorem run_mapM_of_reads
    {Element : Type}
    {step : Element → Session Answer}
    {view : Element → Answer}
    (reads : ∀ element, (step element).run.run workspace = (.ok (view element), workspace))
    {size : Nat}
    (row : Vector Element size) :
    (row.mapM step).run.run workspace = (.ok (row.map view), workspace) := by
  have listed : ∀ elements : List Element,
      (elements.mapM step).run.run workspace = (.ok (elements.map view), workspace) := by
    intro elements
    induction elements with
    | nil => rfl
    | cons element rest inductionHypothesis =>
        rw [List.mapM_cons, run_bind_of_ok (reads element), run_bind_of_ok inductionHypothesis]
        rfl
  -- The library reduces the traversal of a vector to that of a list for its array only.
  have asArray : (Vector.toArray <$> row.mapM step : Session (Array Answer)).run.run workspace =
      (.ok (row.map view).toArray, workspace) := by
    rw [Vector.toArray_mapM, Array.mapM_eq_mapM_toList, map_eq_pure_bind,
      run_bind_of_ok (listed _), ← Array.toList_map, Array.toArray_toList, Vector.toArray_map]
    rfl
  rw [map_eq_pure_bind] at asArray
  generalize ran : (row.mapM step).run.run workspace = result at asArray
  obtain ⟨_ | answers, left⟩ := result
  · rw [run_bind_of_error ran] at asArray
    cases asArray
  · rw [run_bind_of_ok ran] at asArray
    obtain ⟨sameArray, sameWorkspace⟩ := Prod.mk.inj asArray
    rw [Vector.toArray_inj.1 (Except.ok.inj sameArray)]
    exact Prod.ext rfl sameWorkspace

/-- The workspace that a session leaves behind, also when it fails. -/
def after (workspace : Workspace) (session : Session Answer) : Workspace :=
  (session.run.run workspace).2

theorem after_of_run
    {session : Session Answer}
    {outcome : Except StorageError Answer}
    (ran : session.run.run workspace = (outcome, next)) :
    workspace.after session = next := by
  rw [after, ran]

/-! ## Values -/

/-- The palette that an id stands for. -/
def paletteAt (workspace : Workspace) (id : PaletteId) : Palette :=
  workspace.palettes.getD id.index default

/-- The record of a section. -/
def recordAt (workspace : Workspace) (id : SectionId) : SectionRecord :=
  workspace.sections.getD id.index { palette := ⟨0⟩, storage := ⟨0⟩ }

/-- The section that an id stands for. -/
def slabAt (workspace : Workspace) (id : SectionId) : Section :=
  { palette := workspace.paletteAt (workspace.recordAt id).palette
    storage :=
      workspace.paddedArrays.getD (workspace.recordAt id).storage.index (.zeros .padded 0 0) }

/-- The record of a contiguous array. -/
def viewRecordAt (workspace : Workspace) (id : ViewId) : View :=
  workspace.views.getD id.index { size := 0, maxValue := 0, buffer := ⟨0⟩ }

/-- The contiguous array that an id stands for. -/
def viewAt (workspace : Workspace) (id : ViewId) : PackedArray .contiguous :=
  { size := (workspace.viewRecordAt id).size
    maxValue := (workspace.viewRecordAt id).maxValue
    limbs := workspace.buffers.getD (workspace.viewRecordAt id).buffer.index #[] }

/-- Loading a palette answers with its value. -/
theorem run_palette (workspace : Workspace) (id : PaletteId) :
    (palette id).run.run workspace = (.ok (workspace.paletteAt id), workspace) :=
  rfl

theorem run_slab (workspace : Workspace) (id : SectionId) :
    (slab id).run.run workspace = (.ok (workspace.slabAt id), workspace) :=
  rfl

theorem run_view (workspace : Workspace) (id : ViewId) :
    (view id).run.run workspace = (.ok (workspace.viewAt id), workspace) :=
  rfl

end Workspace

end BlockVolume
