import BlockVolume.Proofs.Storage.BitStrings
import BlockVolume.Proofs.Workspace.Arrays

namespace BlockVolume

/-!
# Contiguous arrays over given buffers

A contiguous array that is laid over a buffer does not copy it. As long as its cells keep
their width, the buffer is its store: reads come from it, and a write changes it in the
bits of one cell. A widening that changes the width moves the cells into a new buffer, and
from then on no call on the array reaches the old one.
-/

namespace Workspace

variable {workspace next : Workspace} {Answer Seen : Type}

/-- The bytes of a buffer. -/
def bytesAt (workspace : Workspace) (buffer : BufferId) : Array Byte :=
  workspace.buffers.getD buffer.index #[]

theorem run_buffer (workspace : Workspace) (id : BufferId) :
    (buffer id).run.run workspace = (.ok (workspace.bytesAt id), workspace) :=
  rfl

/-! ## Calls on kept arrays -/

/-- A call on a kept array. -/
def arrayCall (id : ArrayId) : ArrayCall → Session (Option Nat)
  | .get index => some <$> getValue id index
  | .set index value => (fun _ => none) <$> setValue id index value
  | .widen maxValue => (fun _ => none) <$> widen id maxValue

/-- What a row of calls on a kept array leaves behind. -/
def afterArrayCalls
    (workspace : Workspace)
    (id : ArrayId)
    (calls : List ArrayCall) :
    Workspace :=
  calls.foldl (fun left next => left.after (arrayCall id next)) workspace

theorem run_map
    {session : Session Answer}
    {outcome : Except StorageError Answer}
    (ran : session.run.run workspace = (outcome, next))
    (view : Answer → Seen) :
    (view <$> session).run.run workspace = (outcome.map view, next) := by
  rw [ExceptT.run_map, StateT.run_map, ran]
  rfl

theorem run_getValue (workspace : Workspace) (id : ArrayId) (index : Number) :
    (getValue id index).run.run workspace = ((workspace.arrayAt id).get index, workspace) := by
  rw [getValue, run_bind_of_ok (workspace.run_readArray id _)]
  rfl

theorem run_setValue_of_ok
    {id : ArrayId}
    {index value : Number}
    {written : PackedArray id.layout}
    (wrote : (workspace.arrayAt id).set index value = .ok written) :
    (setValue id index value).run.run workspace = (.ok (), workspace.withArray id written) := by
  rw [setValue, run_updateArray, wrote]
  rfl

theorem run_widen (workspace : Workspace) (id : ArrayId) (maxValue : Number) :
    (widen id maxValue).run.run workspace =
      (((workspace.arrayAt id).widen maxValue).2,
        workspace.withArray id ((workspace.arrayAt id).widen maxValue).1) :=
  run_updateArray workspace id _

/-- A call on a kept array is the call on its value, which is stored again. -/
theorem run_arrayCall (workspace : Workspace) (id : ArrayId) (call : ArrayCall) :
    (arrayCall id call).run.run workspace =
      (((workspace.arrayAt id).call call).2,
        workspace.withArray id ((workspace.arrayAt id).call call).1) := by
  cases call with
  | get index =>
      rw [arrayCall, run_map (workspace.run_getValue id index)]
      exact Prod.ext rfl (workspace.withArray_self id).symm
  | set index value =>
      rw [PackedArray.call]
      cases wrote : (workspace.arrayAt id).set index value with
      | ok written => exact run_map (run_setValue_of_ok wrote) _
      | error cause =>
          have refused : allOrNothing (workspace.arrayAt id)
              ((workspace.arrayAt id).set index value) =
              (workspace.arrayAt id, .error cause) := by
            rw [wrote]
            rfl
          exact (run_map (run_updateArray_of_error refused rfl) _).trans
            (Prod.ext rfl (workspace.withArray_self id).symm)
  | widen maxValue => exact run_map (workspace.run_widen id maxValue) _

theorem after_viewCall (workspace : Workspace) (id : ViewId) (call : ArrayCall) :
    workspace.after (arrayCall (.view id) call) =
      workspace.withView id ((workspace.viewAt id).call call).1 :=
  after_of_run (workspace.run_arrayCall (.view id) call)

namespace KeepsView

variable {id : ViewId}

theorem viewAt_after (kept : workspace.KeepsView id) (call : ArrayCall) :
    (workspace.after (arrayCall (.view id) call)).viewAt id =
      ((workspace.viewAt id).call call).1 := by
  rw [after_viewCall, kept.viewAt_withView_self]

/-- The array that its calls leave behind is the one that they leave behind of its value. -/
theorem viewAt_afterArrayCalls (kept : workspace.KeepsView id) (calls : List ArrayCall) :
    (workspace.afterArrayCalls (.view id) calls).viewAt id =
      (workspace.viewAt id).afterCalls calls := by
  induction calls generalizing workspace with
  | nil => rfl
  | cons first rest inductionHypothesis =>
      have keptFirst : (workspace.after (arrayCall (.view id) first)).KeepsView id := by
        rw [after_viewCall]
        exact kept.withView id _
      exact (inductionHypothesis keptFirst).trans
        (congrArg (PackedArray.afterCalls · rest) (kept.viewAt_after first))

end KeepsView

/-! ## Arrays over a buffer -/

/-- A contiguous array whose store is a buffer. -/
structure LiesOver (workspace : Workspace) (id : ViewId) (buffer : BufferId) : Prop where
  kept : workspace.KeepsView id
  buffer_eq : (workspace.viewRecordAt id).buffer = buffer

/-- A contiguous array whose store is another one than a buffer that is kept. -/
structure LiesApart (workspace : Workspace) (id : ViewId) (buffer : BufferId) : Prop where
  kept : workspace.KeepsView id
  buffer_lt : buffer.index < workspace.buffers.size
  buffer_ne : (workspace.viewRecordAt id).buffer ≠ buffer

section Stores

variable {id : ViewId} {buffer : BufferId} {array : PackedArray .contiguous}

/-- While cells keep their width, their array is stored in its buffer. -/
theorem withView_of_width_eq (sameWidth : array.width = (workspace.viewAt id).width) :
    workspace.withView id array =
      workspace.withViewOver id array (workspace.viewRecordAt id).buffer
        (workspace.buffers.setIfInBounds (workspace.viewRecordAt id).buffer.index array.bytes) :=
  if_pos sameWidth.symm

/-- Cells of another width are stored in a new buffer. -/
theorem withView_of_width_ne (otherWidth : array.width ≠ (workspace.viewAt id).width) :
    workspace.withView id array =
      workspace.withViewOver id array ⟨workspace.buffers.size⟩
        (workspace.buffers.push array.bytes) :=
  if_neg otherWidth.symm

/-- Cells that keep their width change no buffer but their own. -/
theorem bytesAt_withView_of_width_eq
    (sameWidth : array.width = (workspace.viewAt id).width)
    (apart : (workspace.viewRecordAt id).buffer ≠ buffer) :
    (workspace.withView id array).bytesAt buffer = workspace.bytesAt buffer := by
  have apartIndex : (workspace.viewRecordAt id).buffer.index ≠ buffer.index :=
    mt (congrArg BufferId.mk) apart
  rw [withView_of_width_eq sameWidth]
  exact getD_setIfInBounds_of_ne apartIndex _ _

/-- Cells that move change no buffer. -/
theorem bytesAt_withView_of_width_ne
    (otherWidth : array.width ≠ (workspace.viewAt id).width)
    (inside : buffer.index < workspace.buffers.size) :
    (workspace.withView id array).bytesAt buffer = workspace.bytesAt buffer := by
  rw [withView_of_width_ne otherWidth]
  exact getD_push_of_lt inside _ _

theorem buffers_withView_le (workspace : Workspace) (id : ViewId) (array : PackedArray .contiguous) :
    workspace.buffers.size ≤ (workspace.withView id array).buffers.size := by
  by_cases sameWidth : array.width = (workspace.viewAt id).width
  · rw [withView_of_width_eq sameWidth]
    exact Nat.le_of_eq Array.size_setIfInBounds.symm
  · rw [withView_of_width_ne sameWidth]
    exact Nat.le_trans (Nat.le_succ _) (Nat.le_of_eq (Array.size_push _).symm)

namespace LiesApart

/-- An array that lies apart from a buffer stays apart and leaves it alone. -/
theorem withView (apart : workspace.LiesApart id buffer) (array : PackedArray .contiguous) :
    (workspace.withView id array).LiesApart id buffer ∧
      (workspace.withView id array).bytesAt buffer = workspace.bytesAt buffer := by
  have kept := apart.kept.withView id array
  have buffer_lt := Nat.lt_of_lt_of_le apart.buffer_lt (workspace.buffers_withView_le id array)
  by_cases sameWidth : array.width = (workspace.viewAt id).width
  · refine ⟨⟨kept, buffer_lt, ?_⟩, bytesAt_withView_of_width_eq sameWidth apart.buffer_ne⟩
    rw [withView_of_width_eq sameWidth, viewRecordAt_withViewOver_self apart.kept.view_lt]
    exact apart.buffer_ne
  · refine ⟨⟨kept, buffer_lt, fun same => ?_⟩,
      bytesAt_withView_of_width_ne sameWidth apart.buffer_lt⟩
    rw [withView_of_width_ne sameWidth, viewRecordAt_withViewOver_self apart.kept.view_lt] at same
    exact Nat.ne_of_gt apart.buffer_lt (congrArg BufferId.index same)

/-- It does so through any row of calls. -/
theorem afterArrayCalls (apart : workspace.LiesApart id buffer) (calls : List ArrayCall) :
    (workspace.afterArrayCalls (.view id) calls).LiesApart id buffer ∧
      (workspace.afterArrayCalls (.view id) calls).bytesAt buffer = workspace.bytesAt buffer := by
  induction calls generalizing workspace with
  | nil => exact ⟨apart, rfl⟩
  | cons first rest inductionHypothesis =>
      obtain ⟨apartFirst, sameFirst⟩ := apart.withView ((workspace.viewAt id).call first).1
      rw [← after_viewCall] at apartFirst sameFirst
      obtain ⟨apartRest, sameRest⟩ := inductionHypothesis apartFirst
      exact ⟨apartRest, sameRest.trans sameFirst⟩

end LiesApart

namespace LiesOver

/-- The store of the array is the buffer. -/
theorem limbs_eq (lies : workspace.LiesOver id buffer) :
    (workspace.viewAt id).limbs = workspace.bytesAt buffer :=
  congrArg workspace.bytesAt lies.buffer_eq

theorem withView_of_width_eq
    (lies : workspace.LiesOver id buffer)
    (sameWidth : array.width = (workspace.viewAt id).width) :
    (workspace.withView id array).LiesOver id buffer where
  kept := lies.kept.withView id array
  buffer_eq := by
    rw [Workspace.withView_of_width_eq sameWidth, viewRecordAt_withViewOver_self lies.kept.view_lt]
    exact lies.buffer_eq

theorem withView_of_width_ne
    (lies : workspace.LiesOver id buffer)
    (otherWidth : array.width ≠ (workspace.viewAt id).width) :
    (workspace.withView id array).LiesApart id buffer ∧
      (workspace.withView id array).bytesAt buffer = workspace.bytesAt buffer := by
  have buffer_lt : buffer.index < workspace.buffers.size := lies.buffer_eq ▸ lies.kept.buffer_lt
  refine ⟨⟨lies.kept.withView id array,
    Nat.lt_of_lt_of_le buffer_lt (workspace.buffers_withView_le id array), fun same => ?_⟩,
    bytesAt_withView_of_width_ne otherWidth buffer_lt⟩
  rw [Workspace.withView_of_width_ne otherWidth,
    viewRecordAt_withViewOver_self lies.kept.view_lt] at same
  exact Nat.ne_of_gt buffer_lt (congrArg BufferId.index same)

/-- As long as no call has changed the width, the array lies over the buffer. -/
theorem afterArrayCalls
    (lies : workspace.LiesOver id buffer)
    (calls : List ArrayCall)
    (sameWidth : ((workspace.afterArrayCalls (.view id) calls).viewAt id).width =
      (workspace.viewAt id).width) :
    (workspace.afterArrayCalls (.view id) calls).LiesOver id buffer := by
  induction calls generalizing workspace with
  | nil => exact lies
  | cons first rest inductionHypothesis =>
      have found := lies.kept.viewAt_after first
      -- The width after the first call lies between the first and the last one.
      have grewFirst := ((workspace.viewAt id).follows_call first).width_mono
      have grewThen := (((workspace.viewAt id).call first).1.follows_afterCalls rest).width_mono
      have final : ((workspace.afterArrayCalls (.view id) (first :: rest)).viewAt id).width =
          (((workspace.viewAt id).call first).1.afterCalls rest).width :=
        congrArg PackedArray.width (lies.kept.viewAt_afterArrayCalls (first :: rest))
      have firstWidth : ((workspace.viewAt id).call first).1.width = (workspace.viewAt id).width := by
        omega
      have liesFirst := lies.withView_of_width_eq firstWidth
      rw [← after_viewCall] at liesFirst
      exact inductionHypothesis liesFirst (by rw [found, firstWidth]; exact sameWidth)

end LiesOver

end Stores

/-! ## Strings of bits -/

/-- A workspace with some bits of a buffer replaced by those of a value, and no others. -/
structure BitsReplaced
    (next workspace : Workspace)
    (buffer : BufferId)
    (offset width value : Nat) :
    Prop where
  size_eq : (next.bytesAt buffer).size = (workspace.bytesAt buffer).size
  toNat_eq : Limbs.toNat (next.bytesAt buffer) =
    replaceBits (Limbs.toNat (workspace.bytesAt buffer)) offset width value
  others_eq : ∀ other, other ≠ buffer → next.bytesAt other = workspace.bytesAt other

/--
A contiguous array that is a string of bits over a buffer: it shows the bits of the
buffer, a write of a value within the bound replaces those of its cell, and once a
widening has changed the width the buffer is left as it was.
-/
structure BitStringOver (workspace : Workspace) (id : ViewId) (buffer : BufferId) : Prop where
  shows : (workspace.viewAt id).ShowsBits (workspace.bytesAt buffer)
  sets : ∀ {index value : Number} {place natural : Nat},
    index.toNat? = some place → place < (workspace.viewAt id).size →
    value.toNat? = some natural → natural ≤ (workspace.viewAt id).maxValue →
    ∃ next, (setValue (.view id) index value).run.run workspace = (.ok (), next) ∧
      next.BitsReplaced workspace buffer ((workspace.viewAt id).width * place)
        (workspace.viewAt id).width natural
  leaves : ∀ maxValue,
    ((workspace.after (widen (.view id) maxValue)).viewAt id).width ≠
      (workspace.viewAt id).width →
    ∀ calls, ((workspace.after (widen (.view id) maxValue)).afterArrayCalls
      (.view id) calls).bytesAt buffer = workspace.bytesAt buffer

/-- A workspace with a larger bound of an array, or the same one, and the same values in it. -/
structure WidenedTo (next workspace : Workspace) (id : ArrayId) (wanted : Nat) : Prop where
  maxValue_eq : (next.arrayAt id).maxValue = max (workspace.arrayAt id).maxValue wanted
  values_eq : (next.arrayAt id).values = (workspace.arrayAt id).values

section Bits

variable {id : ViewId} {buffer : BufferId}

/-- A write of a value within the bound changes the bits of its cell. -/
theorem LiesOver.run_setValue
    (lies : workspace.LiesOver id buffer)
    (stored : (workspace.viewAt id).Stored)
    {index value : Number}
    {place natural : Nat}
    (denotedIndex : index.toNat? = some place)
    (inside : place < (workspace.viewAt id).size)
    (denotedValue : value.toNat? = some natural)
    (within : natural ≤ (workspace.viewAt id).maxValue) :
    ∃ next, (setValue (.view id) index value).run.run workspace = (.ok (), next) ∧
      next.BitsReplaced workspace buffer ((workspace.viewAt id).width * place)
        (workspace.viewAt id).width natural := by
  have wrote := PackedArray.set_eq_setCell denotedIndex inside denotedValue within
  have sameWidth : ((workspace.viewAt id).setCell place natural).width =
      (workspace.viewAt id).width := rfl
  have bytes := (lies.withView_of_width_eq sameWidth).limbs_eq
  rw [lies.kept.viewAt_withView_self] at bytes
  refine ⟨workspace.withView id ((workspace.viewAt id).setCell place natural),
    @run_setValue_of_ok workspace (.view id) index value _ wrote, ?_, ?_, fun other different => ?_⟩
  · rw [← bytes, ← lies.limbs_eq]
    exact Limbs.size_write _ _ _ _
  · rw [← bytes, ← lies.limbs_eq]
    exact stored.toNat_setCell inside within
  · refine bytesAt_withView_of_width_eq sameWidth fun same => different ?_
    rw [← same, lies.buffer_eq]

/-- An array over a buffer is a string of its bits. -/
theorem LiesOver.bitStringOver
    (lies : workspace.LiesOver id buffer)
    (stored : (workspace.viewAt id).Stored) :
    workspace.BitStringOver id buffer where
  shows := lies.limbs_eq ▸ stored.showsBits
  sets := lies.run_setValue stored
  leaves maxValue otherWidth calls := by
    have widened : workspace.after (widen (.view id) maxValue) =
        workspace.withView id ((workspace.viewAt id).widen maxValue).1 :=
      after_of_run (workspace.run_widen (.view id) maxValue)
    rw [widened, lies.kept.viewAt_withView_self] at otherWidth
    obtain ⟨apart, same⟩ := lies.withView_of_width_ne otherWidth
    rw [widened]
    exact (apart.afterArrayCalls calls).2.trans same

/-- An accepted bound is reached, and every cell keeps its value. -/
theorem HoldsArray.run_widen
    {id : ArrayId}
    (holds : workspace.HoldsArray id)
    {maxValue : Number}
    {wanted : Nat}
    (denoted : maxValue.toNat? = some wanted)
    (admissible : wanted ≤ maxCellValue) :
    ∃ next, (widen id maxValue).run.run workspace = (.ok (), next) ∧
      next.WidenedTo workspace id wanted := by
  obtain ⟨widened, raised, shows⟩ := holds.represents.widen_of_le denoted admissible
  refine ⟨workspace.withArray id widened, ?_, ?_, ?_⟩
  · rw [Workspace.run_widen, raised]
  · rw [arrayAt_withArray_self holds.kept, shows.maxValue_eq]
  · rw [arrayAt_withArray_self holds.kept, shows.values_eq]

theorem HoldsArray.afterArrayCalls
    {id target : ArrayId}
    (holds : workspace.HoldsArray id)
    (calls : List ArrayCall) :
    (workspace.afterArrayCalls target calls).HoldsArray id := by
  induction calls generalizing workspace with
  | nil => exact holds
  | cons first rest inductionHypothesis =>
      have holdsFirst : (workspace.after (arrayCall target first)).HoldsArray id := by
        rw [after_of_run (workspace.run_arrayCall target first)]
        exact holds.withArray ((workspace.arrayAt target).follows_call first)
      exact inductionHypothesis holdsFirst

end Bits

/-! ## New arrays over a buffer -/

section Layers

variable {id : ViewId} {buffer : BufferId} {sizeNumber maxValue : Number} {size bound : Nat}

/-- The workspace with a new contiguous array over a buffer that it has. -/
def withViewOn (workspace : Workspace) (view : View) : Workspace :=
  { workspace with views := workspace.views.push view }

theorem run_layOver_of_ok
    {array : PackedArray .contiguous}
    (laid : PackedArray.overBytes sizeNumber maxValue (workspace.bytesAt buffer) = .ok array) :
    (layOver sizeNumber maxValue buffer).run.run workspace =
      (.ok ⟨workspace.views.size⟩,
        workspace.withViewOn { size := array.size, maxValue := array.maxValue, buffer }) := by
  rw [layOver, run_bind_of_ok (workspace.run_buffer buffer), laid,
    run_bind_of_ok (run_lift_ok workspace array)]
  rfl

theorem run_layOver_of_error
    {cause : StorageError}
    (refused : PackedArray.overBytes sizeNumber maxValue (workspace.bytesAt buffer) =
      .error cause) :
    (layOver sizeNumber maxValue buffer).run.run workspace = (.error cause, workspace) := by
  rw [layOver, run_bind_of_ok (workspace.run_buffer buffer), refused]
  rfl

/-- A new array of some dimensions over a buffer, and no buffer changed by it. -/
structure LaidOver
    (next workspace : Workspace)
    (id : ViewId)
    (buffer : BufferId)
    (size bound : Nat) :
    Prop where
  lies : next.LiesOver id buffer
  stored : (next.viewAt id).Stored
  size_eq : (next.viewAt id).size = size
  maxValue_eq : (next.viewAt id).maxValue = bound
  buffers_eq : next.buffers = workspace.buffers

/-- A buffer takes an array exactly when it has enough bytes for the cells. -/
theorem layOver_succeeds_iff
    (accepted : PackedArray.checkDimensions sizeNumber maxValue = .ok (size, bound)) :
    (∃ id next, (layOver sizeNumber maxValue buffer).run.run workspace = (.ok id, next)) ↔
      Layout.bytesNeeded size (bitsNeeded bound) ≤ (workspace.bytesAt buffer).size := by
  rw [← PackedArray.overBytes_succeeds_iff accepted]
  constructor
  · rintro ⟨id, next, ran⟩
    cases laid : PackedArray.overBytes sizeNumber maxValue (workspace.bytesAt buffer) with
    | ok array => exact ⟨array, rfl⟩
    | error cause =>
        rw [run_layOver_of_error laid] at ran
        cases ran
  · rintro ⟨array, laid⟩
    exact ⟨_, _, run_layOver_of_ok laid⟩

theorem laidOver_of_run
    (inside : buffer.index < workspace.buffers.size)
    (accepted : PackedArray.checkDimensions sizeNumber maxValue = .ok (size, bound))
    (ran : (layOver sizeNumber maxValue buffer).run.run workspace = (.ok id, next)) :
    next.LaidOver workspace id buffer size bound := by
  have enough := (layOver_succeeds_iff accepted).1 ⟨id, next, ran⟩
  have laid := PackedArray.overBytes_of_accepted accepted (workspace.bytesAt buffer)
  rw [if_neg (Nat.not_lt.2 enough)] at laid
  rw [run_layOver_of_ok laid] at ran
  cases ran
  have found : (workspace.withViewOn { size, maxValue := bound, buffer }).viewRecordAt
      ⟨workspace.views.size⟩ = { size, maxValue := bound, buffer } :=
    getD_push_self workspace.views _ _
  have shown : (workspace.withViewOn { size, maxValue := bound, buffer }).viewAt
      ⟨workspace.views.size⟩ =
        { size, maxValue := bound, limbs := workspace.bytesAt buffer } := by
    rw [viewAt, found]
    rfl
  exact
    { lies :=
        { kept :=
            { view_lt := Nat.lt_of_lt_of_eq (Nat.lt_succ_self _) (Array.size_push _).symm
              buffer_lt := by
                rw [found]
                exact inside }
          buffer_eq := by rw [found] }
      stored := by
        rw [shown]
        exact ⟨(PackedArray.checkDimensions_eq_ok_iff.1 accepted).2.2, enough⟩
      size_eq := by rw [shown]
      maxValue_eq := by rw [shown]
      buffers_eq := rfl }

end Layers

/--
A buffer takes a contiguous array of accepted dimensions exactly when it has bytes for
the bits of all cells, and is not changed by it. Whatever the buffer holds, and after any
calls on the array, a widening to an admissible bound succeeds and keeps every value; and
as long as the width is the first one, the array is a string of bits over the buffer: it
reads, hands out and takes back the digits of the natural that the bytes spell, a write
changes the bits of one cell, and after a widening that changes the width no call reaches
the buffer any more. An array with a store of its own spells its values and nothing else
after any calls.
-/
theorem views_are_bit_strings :
    (∀ (workspace : Workspace) (buffer : BufferId) (sizeNumber maxValue : Number)
        (size bound : Nat), buffer.index < workspace.buffers.size →
      PackedArray.checkDimensions sizeNumber maxValue = .ok (size, bound) →
      ((∃ id next, (layOver sizeNumber maxValue buffer).run.run workspace = (.ok id, next)) ↔
        (size * bitsNeeded bound + 7) / 8 ≤ (workspace.bytesAt buffer).size) ∧
      ∀ id next, (layOver sizeNumber maxValue buffer).run.run workspace = (.ok id, next) →
        next.buffers = workspace.buffers ∧ (next.viewAt id).maxValue = bound ∧
        ∀ calls,
          ((next.afterArrayCalls (.view id) calls).viewAt id).size = size ∧
          (((next.afterArrayCalls (.view id) calls).viewAt id).width = bitsNeeded bound →
            (next.afterArrayCalls (.view id) calls).BitStringOver id buffer) ∧
          ∀ wider wanted, Number.toNat? wider = some wanted → wanted ≤ maxCellValue →
            ∃ later, (widen (.view id) wider).run.run (next.afterArrayCalls (.view id) calls) =
                (.ok (), later) ∧
              later.WidenedTo (next.afterArrayCalls (.view id) calls) (.view id) wanted) ∧
    ∀ (workspace : Workspace) (sizeNumber maxValue : Number) (array : PackedArray .contiguous),
      PackedArray.make .contiguous sizeNumber maxValue = .ok array →
      ∀ id next, (addView array).run.run workspace = (.ok id, next) → ∀ calls,
        ((next.afterArrayCalls (.view id) calls).viewAt id).SpellsValues := by
  constructor
  · intro workspace buffer sizeNumber maxValue size bound inside accepted
    refine ⟨layOver_succeeds_iff accepted, fun id next ran => ?_⟩
    have laid := laidOver_of_run inside accepted ran
    refine ⟨laid.buffers_eq, laid.maxValue_eq, fun calls => ?_⟩
    have holds : next.HoldsArray (.view id) := ⟨laid.lies.kept, laid.stored⟩
    have left := laid.lies.kept.viewAt_afterArrayCalls calls
    have holdsLeft : (next.afterArrayCalls (.view id) calls).HoldsArray (.view id) :=
      holds.afterArrayCalls calls
    refine ⟨?_, fun sameWidth => ?_, fun wider wanted denoted admissible => ?_⟩
    · rw [left, ((next.viewAt id).follows_afterCalls calls).size_eq, laid.size_eq]
    · have firstWidth : (next.viewAt id).width = bitsNeeded bound :=
        congrArg bitsNeeded laid.maxValue_eq
      have lies := laid.lies.afterArrayCalls calls (sameWidth.trans firstWidth.symm)
      exact lies.bitStringOver holdsLeft.stored
    · exact holdsLeft.run_widen denoted admissible
  · intro workspace sizeNumber maxValue array made id next ran calls
    obtain ⟨size, bound, -, -, admissible, -, rfl⟩ := PackedArray.make_eq_ok_iff.1 made
    rw [run_addView] at ran
    cases ran
    have kept := workspace.keepsView_withNewView_self (.zeros .contiguous size bound)
    have clean := (PackedArray.clean_zeros size admissible).afterCalls calls
    rw [kept.viewAt_afterArrayCalls calls, viewAt_withNewView_self]
    exact clean.spellsValues

/-- Three cells of three bits over bytes that break their bound, and three in a new store. -/
theorem views_are_bit_strings_of_three_bits :
    ∃ workspace laid made : Workspace,
      (layOver 3 5 ⟨0⟩).run.run workspace = (.ok ⟨0⟩, laid) ∧
      (¬ ∃ id next, (layOver 9 5 ⟨0⟩).run.run workspace = (.ok id, next)) ∧
      laid.bytesAt ⟨0⟩ = #[0xE7, 0xFF, 0xAA] ∧
      (laid.viewAt ⟨0⟩).get 2 = .ok 7 ∧
      (∃ later, (setValue (.view ⟨0⟩) 1 2).run.run laid = (.ok (), later) ∧
        Limbs.toNat (later.bytesAt ⟨0⟩) = 0xAAFFD7) ∧
      (∃ later, (widen (.view ⟨0⟩) 100).run.run laid = (.ok (), later) ∧
        (later.viewAt ⟨0⟩).values = [7, 4, 7]) ∧
      ((laid.after (widen (.view ⟨0⟩) 100)).afterArrayCalls (.view ⟨0⟩) [.set 0 100]).bytesAt
        ⟨0⟩ = #[0xE7, 0xFF, 0xAA] ∧
      (addView (.zeros .contiguous 3 20)).run.run workspace = (.ok ⟨0⟩, made) ∧
      Limbs.toNat ((made.afterArrayCalls (.view ⟨0⟩) [.set 1 20, .widen 1000]).viewAt
        ⟨0⟩).toBytes = 20 * 2 ^ 10 := by
  let workspace : Workspace := { initial with buffers := #[#[0xE7, 0xFF, 0xAA]] }
  let laid := workspace.withViewOn { size := 3, maxValue := 5, buffer := ⟨0⟩ }
  let made := workspace.withNewView (.zeros .contiguous 3 20)
  have ran : (layOver 3 5 ⟨0⟩).run.run workspace = (.ok ⟨0⟩, laid) := rfl
  have ranNew : (addView (.zeros .contiguous 3 20)).run.run workspace = (.ok ⟨0⟩, made) := rfl
  have inside : (⟨0⟩ : BufferId).index < workspace.buffers.size := by decide
  have accepted : PackedArray.checkDimensions 3 5 = .ok (3, 5) := by decide
  have acceptedNine : PackedArray.checkDimensions 9 5 = .ok (9, 5) := by decide
  have madeNew : PackedArray.make .contiguous 3 20 = .ok (.zeros .contiguous 3 20) := rfl
  obtain ⟨overBuffers, overOwnStores⟩ := views_are_bit_strings
  obtain ⟨-, strings⟩ := overBuffers workspace ⟨0⟩ 3 5 3 5 inside accepted
  obtain ⟨succeedsNine, -⟩ := overBuffers workspace ⟨0⟩ 9 5 9 5 inside acceptedNine
  obtain ⟨-, -, calls⟩ := strings ⟨0⟩ laid ran
  obtain ⟨-, string, widens⟩ := calls []
  obtain ⟨shows, sets, leaves⟩ := string (by decide)
  obtain ⟨later, ranSet, replaced⟩ :=
    @sets 1 2 1 2 (by decide) (by decide) (by decide) (by decide)
  obtain ⟨widened, ranWiden, wider⟩ := widens 100 100 (by decide) (by decide)
  have spells :=
    overOwnStores workspace 3 20 _ madeNew ⟨0⟩ made ranNew [.set 1 20, .widen 1000]
  refine ⟨workspace, laid, made, ran, fun succeeds => ?_, rfl, ?_, ⟨later, ranSet, ?_⟩,
    ⟨widened, ranWiden, ?_⟩, ?_, ranNew, ?_⟩
  · exact absurd (succeedsNine.1 succeeds) (by decide)
  · exact (@shows.get_eq 2 2 (by decide) (by decide)).trans (by decide)
  · exact replaced.toNat_eq.trans (by decide)
  · exact wider.values_eq.trans (by decide)
  · exact leaves 100 (by decide) [.set 0 100]
  · exact spells.toNat_toBytes.trans (by decide)

end Workspace

end BlockVolume
