import BlockVolume.Proofs.Section.Runs
import BlockVolume.Proofs.Workspace.Growth
import BlockVolume.Proofs.Workspace.Merging
import BlockVolume.Proofs.Workspace.PaletteRuns

namespace BlockVolume

/-!
# Sections that share a palette

Sections may use one palette as long as it only grows: writes, insertions, whole
palettes that are added and sections that are merged into it put new states at
its end. In any interleaving of such calls a section is changed by its own
writes alone. It may be given an id that another section brought into being and
that lies beyond what its storage was made for; the storage is widened then.
-/

/-- A call that may extend a shared palette; a write is one to a section that uses it. -/
inductive SharedCall where
  | set (target : SectionId) (x y z : Number) (state : BlockState)
  | insert (state : BlockState)
  | addAll (other : PaletteId)
  | mergeInto (source : SectionId)

namespace SharedCall

/-- The session of a call. -/
def session (palette : PaletteId) : SharedCall → Session Unit
  | .set target x y z state => do
      let _ ← Workspace.setBlocks target [((x, y, z), state)]
  | .insert state => do
      let _ ← Workspace.paletteInsert palette state
  | .addAll other => do
      let _ ← Workspace.paletteAddAll palette other
  | .mergeInto source => do
      let _ ← Workspace.mergeInto source palette

/-- Writes go to the writers, and what is merged is one of the sections that are known. -/
def AdmittedFor (writers readers : List SectionId) : SharedCall → Prop
  | .set target .. => target ∈ writers
  | .mergeInto source => source ∈ writers ++ readers
  | _ => True

/-- The coordinates of a write, if the call is one, address a block. -/
def InRange : SharedCall → Prop
  | .set _ x y z _ => ∃ place, Section.place? x y z = some place
  | _ => True

/-- The write to a section that a call is, if it is one. -/
def writeTo (held : SectionId) : SharedCall → List SectionCall
  | .set target x y z state => if target = held then [.set x y z state] else []
  | _ => []

/-- The writes to a section among calls. -/
def writesTo (held : SectionId) (calls : List SharedCall) : List SectionCall :=
  calls.flatMap (writeTo held)

end SharedCall

namespace Workspace

/-- The workspace after a row of calls, each of which starts even if the one before failed. -/
def afterSharedCalls
    (workspace : Workspace)
    (palette : PaletteId)
    (calls : List SharedCall) :
    Workspace :=
  calls.foldl (fun workspace call => workspace.after (call.session palette)) workspace

/--
Sections that write over one palette, next to others that are only merged into it. All are
consistent, and nobody else has the storage of a writer.
-/
structure SharesPalette
    (workspace : Workspace)
    (palette : PaletteId)
    (writers readers : List SectionId) :
    Prop where
  palette_lt : palette.index < workspace.palettes.size
  wellFormed : (workspace.paletteAt palette).WellFormed
  keeps : ∀ held ∈ writers, workspace.KeepsSection held
  palette_eq : ∀ held ∈ writers, (workspace.recordAt held).palette = palette
  storage_ne : ∀ held ∈ writers, ∀ other ∈ writers ++ readers, held ≠ other →
    (workspace.recordAt held).storage ≠ (workspace.recordAt other).storage
  consistent : ∀ held ∈ writers ++ readers, (workspace.slabAt held).Consistent

/-- What a call leaves behind when sections share a palette. -/
structure Carried
    (workspace : Workspace)
    (palette : PaletteId)
    (writers readers : List SectionId)
    (call : SharedCall) :
    Prop where
  shares : (workspace.after (call.session palette)).SharesPalette palette writers readers
  grows : workspace.Grows (workspace.after (call.session palette)) palette
  shows : ((workspace.after (call.session palette)).paletteAt palette).Addressable →
    ∀ held ∈ writers, ∀ keys, (workspace.slabAt held).Shows keys →
      ((workspace.after (call.session palette)).slabAt held).Shows
        ((call.writeTo held).foldl Section.keysAfter keys)
  succeeds : ((workspace.after (call.session palette)).paletteAt palette).Addressable →
    call.InRange → ((call.session palette).run.run workspace).1 = .ok ()

/-- A merge that is refused leaves the larger palette behind all the same. -/
theorem run_mergeInto_of_error
    {workspace : Workspace}
    {target : PaletteId}
    {source : SectionId}
    {grown : Palette}
    {cause : StorageError}
    (refused :
      (workspace.slabAt source).mergeInto (workspace.paletteAt target) = (grown, .error cause)) :
    (mergeInto source target).run.run workspace =
      (.error cause, workspace.withPalette target grown) := by
  rw [mergeInto, run_bind_of_ok (run_slab workspace source),
    run_bind_of_ok (run_palette workspace target), refused]
  rfl

/-- A write answers as the section does and leaves it behind. -/
theorem run_sharedSet
    (workspace : Workspace)
    (palette : PaletteId)
    (target : SectionId)
    (x y z : Number)
    (state : BlockState) :
    ((SharedCall.set target x y z state).session palette).run.run workspace =
      (((workspace.slabAt target).set x y z state).2.map fun _ => (),
        workspace.withSlab target ((workspace.slabAt target).set x y z state).1) := by
  have ran := run_ignored (run_setBlocks workspace target [((x, y, z), state)])
  rw [Section.setEach_singleton] at ran
  refine ran.trans (Prod.ext ?_ rfl)
  cases ((workspace.slabAt target).set x y z state).2 <;> rfl

namespace SharesPalette

variable {workspace next : Workspace} {palette : PaletteId} {writers readers : List SectionId}

/-- The palette of a writer is the shared one. -/
theorem palette_slabAt
    (shares : workspace.SharesPalette palette writers readers)
    {held : SectionId}
    (writer : held ∈ writers) :
    (workspace.slabAt held).palette = workspace.paletteAt palette :=
  congrArg workspace.paletteAt (shares.palette_eq held writer)

/-- Sections share a palette that grew as long as they are still consistent. -/
theorem grow
    (shares : workspace.SharesPalette palette writers readers)
    (grows : workspace.Grows next palette)
    (sameSize : next.paddedArrays.size = workspace.paddedArrays.size)
    (consistent : ∀ held ∈ writers ++ readers, (next.slabAt held).Consistent) :
    next.SharesPalette palette writers readers where
  palette_lt := Nat.lt_of_lt_of_eq shares.palette_lt grows.size_eq.symm
  wellFormed := grows.extension.wellFormed
  keeps held member := by
    have keeps := shares.keeps held member
    refine ⟨?_, ?_, ?_⟩
    · rw [grows.sections_eq]
      exact keeps.section_lt
    · rw [grows.recordAt_eq, grows.size_eq]
      exact keeps.palette_lt
    · rw [grows.recordAt_eq, sameSize]
      exact keeps.storage_lt
  palette_eq held member := by
    rw [grows.recordAt_eq]
    exact shares.palette_eq held member
  storage_ne held member other otherMember different := by
    rw [grows.recordAt_eq, grows.recordAt_eq]
    exact shares.storage_ne held member other otherMember different
  consistent := consistent

/-- A call that writes no block changes none, as long as it succeeds when there is room. -/
theorem carried_of_quiet
    (shares : workspace.SharesPalette palette writers readers)
    {call : SharedCall}
    {outcome : Except StorageError Unit}
    (ran : (call.session palette).run.run workspace = (outcome, next))
    (grows : workspace.Grows next palette)
    (sameArrays : next.paddedArrays = workspace.paddedArrays)
    (quiet : ∀ held keys, (call.writeTo held).foldl Section.keysAfter keys = keys)
    (succeeds : (next.paletteAt palette).Addressable → call.InRange → outcome = .ok ()) :
    workspace.Carried palette writers readers call := by
  have sameStorage : ∀ held, (next.slabAt held).storage = (workspace.slabAt held).storage := by
    intro held
    rw [slabAt, sameArrays, grows.recordAt_eq, slabAt]
  have nextShares : next.SharesPalette palette writers readers := by
    refine shares.grow grows (congrArg Array.size sameArrays) fun held member => ?_
    obtain ⟨keys, shows⟩ := (shares.consistent held member).shows
    exact (grows.shows (sameStorage held) shows).consistent
  refine ⟨?_, ?_, ?_, ?_⟩ <;> rw [after_of_run ran]
  · exact nextShares
  · exact grows
  · intro _ held _ keys shows
    rw [quiet held keys]
    exact grows.shows (sameStorage held) shows
  · intro addressable inRange
    rw [ran]
    exact succeeds addressable inRange

/-- A palette may be replaced by one that extends it. -/
theorem grows_of_extends
    (shares : workspace.SharesPalette palette writers readers)
    {grown : Palette}
    (extension : grown.Extends (workspace.paletteAt palette)) :
    workspace.Grows (workspace.withPalette palette grown) palette :=
  .of_replaced shares.palette_lt extension rfl rfl

theorem carried_insert
    (shares : workspace.SharesPalette palette writers readers)
    (state : BlockState) :
    workspace.Carried palette writers readers (.insert state) :=
  shares.carried_of_quiet (run_ignored rfl)
    (shares.grows_of_extends (shares.wellFormed.extends_insert state))
    rfl (fun _ _ => rfl) fun _ _ => rfl

theorem carried_addAll
    (shares : workspace.SharesPalette palette writers readers)
    (other : PaletteId) :
    workspace.Carried palette writers readers (.addAll other) :=
  shares.carried_of_quiet (run_ignored rfl)
    (.of_replaced shares.palette_lt
      (shares.wellFormed.extends_addAll (workspace.paletteAt other)) rfl rfl)
    rfl (fun _ _ => rfl) fun _ _ => rfl

/-- A merge reads its section and adds the states of it, whether or not all ids are admissible. -/
theorem carried_mergeInto
    (shares : workspace.SharesPalette palette writers readers)
    {source : SectionId}
    (known : source ∈ writers ++ readers) :
    workspace.Carried palette writers readers (.mergeInto source) := by
  obtain ⟨keys, shows⟩ := (shares.consistent source known).shows
  have extension := shares.wellFormed.extends_addAll (workspace.slabAt source).palette
  rw [← shows.mergeInto_fst] at extension
  generalize result : (workspace.slabAt source).mergeInto (workspace.paletteAt palette) = merged
    at extension
  obtain ⟨grown, cause | cells⟩ := merged
  · refine shares.carried_of_quiet (run_ignored (run_mergeInto_of_error result))
      (shares.grows_of_extends extension) rfl (fun _ _ => rfl) fun addressable _ => ?_
    have sameGrown := shows.mergeInto_fst (workspace.paletteAt palette)
    rw [paletteAt_withPalette_self shares.palette_lt] at addressable
    rw [result] at sameGrown
    obtain ⟨_, _, succeeds, -⟩ := shows.mergeInto shares.wellFormed (sameGrown ▸ addressable)
    rw [result] at succeeds
    cases succeeds
  · exact shares.carried_of_quiet (run_ignored (run_mergeInto result))
      (.of_replaced shares.palette_lt extension rfl rfl) rfl (fun _ _ => rfl) fun _ _ => rfl

/-- The section of a writer is replaced by one over a larger palette. -/
theorem withSlab
    (shares : workspace.SharesPalette palette writers readers)
    {target : SectionId}
    (writer : target ∈ writers)
    {value : Section}
    (consistent : value.Consistent)
    (extension : value.palette.Extends (workspace.paletteAt palette)) :
    workspace.Grows (workspace.withSlab target value) palette ∧
      (workspace.withSlab target value).SharesPalette palette writers readers ∧
      (workspace.withSlab target value).slabAt target = value ∧
      ∀ held ∈ writers ++ readers, held ≠ target →
        ((workspace.withSlab target value).slabAt held).storage =
          (workspace.slabAt held).storage := by
  have grows : workspace.Grows (workspace.withSlab target value) palette := by
    refine .of_replaced shares.palette_lt extension ?_ rfl
    rw [Workspace.withSlab, shares.palette_eq target writer]
  have slabAt_eq := (shares.keeps target writer).slabAt_withSlab_self value
  have storage_eq : ∀ held ∈ writers ++ readers, held ≠ target →
      ((workspace.withSlab target value).slabAt held).storage =
        (workspace.slabAt held).storage := by
    intro held known different
    have storage_ne := shares.storage_ne target writer held known different.symm
    exact getD_setIfInBounds_of_ne (mt (congrArg PaddedId.mk) storage_ne) value.storage _
  refine ⟨grows, shares.grow grows Array.size_setIfInBounds ?_, slabAt_eq, storage_eq⟩
  intro held known
  by_cases same : held = target
  · rw [same, slabAt_eq]
    exact consistent
  · obtain ⟨keys, shows⟩ := (shares.consistent held known).shows
    exact (grows.shows (storage_eq held known same) shows).consistent

/-- After a write in range the palette is the one with the written state. -/
theorem paletteAt_after_set
    (shares : workspace.SharesPalette palette writers readers)
    {target : SectionId}
    (writer : target ∈ writers)
    {x y z : Number}
    {place : Section.Place}
    (addressed : Section.place? x y z = some place)
    (state : BlockState) :
    (workspace.after ((SharedCall.set target x y z state).session palette)).paletteAt palette =
      ((workspace.paletteAt palette).insert state).1 := by
  obtain ⟨keys, shows⟩ := (shares.consistent target (List.mem_append_left _ writer)).shows
  rw [after_of_run (run_sharedSet workspace palette target x y z state),
    ← shares.palette_slabAt writer, ← shows.palette_set addressed state, Workspace.withSlab,
    shares.palette_eq target writer]
  exact getD_setIfInBounds_self shares.palette_lt _ default

theorem carried_set
    (shares : workspace.SharesPalette palette writers readers)
    {target : SectionId}
    (writer : target ∈ writers)
    (x y z : Number)
    (state : BlockState) :
    workspace.Carried palette writers readers (.set target x y z state) := by
  obtain ⟨keys, shows⟩ := (shares.consistent target (List.mem_append_left _ writer)).shows
  have ran := workspace.run_sharedSet palette target x y z state
  cases addressed : Section.place? x y z with
  | none =>
      -- Nothing changes, and the keys after such a write are those before.
      obtain ⟨cause, -, -, refused⟩ := (workspace.slabAt target).get_set_of_outside addressed state
      rw [refused, withSlab_self] at ran
      refine shares.carried_of_quiet ran (.refl shares.wellFormed) rfl ?_ ?_
      · intro held keys
        rw [SharedCall.writeTo]
        split
        · simp [Section.keysAfter, addressed]
        · rfl
      · rintro - ⟨place, inRange⟩
        rw [addressed] at inRange
        cases inRange
  | some place =>
      have extension :
          ((workspace.slabAt target).set x y z state).1.palette.Extends
            (workspace.paletteAt palette) := by
        rw [shows.palette_set addressed state, shares.palette_slabAt writer]
        exact shares.wellFormed.extends_insert state
      obtain ⟨grows, nextShares, slabAt_eq, storage_eq⟩ :=
        shares.withSlab writer (shows.consistent_set x y z state) extension
      have grown_eq := shares.paletteAt_after_set writer addressed state
      rw [after_of_run ran, ← shares.palette_slabAt writer] at grown_eq
      refine ⟨?_, ?_, ?_, ?_⟩ <;> rw [after_of_run ran]
      · exact nextShares
      · exact grows
      · intro addressable held member heldKeys heldShows
        by_cases same : target = held
        · subst same
          obtain ⟨written, previous, wrote, -, showsWritten⟩ :=
            heldShows.set_of_place addressed state (grown_eq ▸ addressable)
          rw [slabAt_eq, wrote]
          simpa [SharedCall.writeTo, Section.keysAfter, addressed] using showsWritten
        · have known := List.mem_append_left readers member
          rw [SharedCall.writeTo, if_neg same]
          exact grows.shows (storage_eq held known (Ne.symm same)) heldShows
      · intro addressable _
        obtain ⟨written, previous, wrote, -, -⟩ :=
          shows.set_of_place addressed state (grown_eq ▸ addressable)
        rw [ran, wrote]
        rfl

/-- Every call on a shared palette changes at most the block that it writes. -/
theorem carried
    (shares : workspace.SharesPalette palette writers readers)
    {call : SharedCall}
    (admitted : call.AdmittedFor writers readers) :
    workspace.Carried palette writers readers call := by
  cases call with
  | set target x y z state => exact shares.carried_set admitted x y z state
  | insert state => exact shares.carried_insert state
  | addAll other => exact shares.carried_addAll other
  | mergeInto source => exact shares.carried_mergeInto admitted

/-- So in a row of calls each section is changed by the writes to it alone. -/
theorem run
    (shares : workspace.SharesPalette palette writers readers)
    (calls : List SharedCall)
    (admitted : ∀ call ∈ calls, call.AdmittedFor writers readers) :
    (workspace.afterSharedCalls palette calls).SharesPalette palette writers readers ∧
      workspace.Grows (workspace.afterSharedCalls palette calls) palette ∧
      (((workspace.afterSharedCalls palette calls).paletteAt palette).Addressable →
        ∀ held ∈ writers, ∀ keys, (workspace.slabAt held).Shows keys →
          ((workspace.afterSharedCalls palette calls).slabAt held).Shows
            ((SharedCall.writesTo held calls).foldl Section.keysAfter keys)) := by
  induction calls generalizing workspace with
  | nil => exact ⟨shares, .refl shares.wellFormed, fun _ _ _ _ shows => shows⟩
  | cons call rest inductionHypothesis =>
      have first := shares.carried (admitted call List.mem_cons_self)
      obtain ⟨finalShares, restGrows, restShows⟩ :=
        inductionHypothesis first.shares fun other member =>
          admitted other (List.mem_cons_of_mem _ member)
      refine ⟨finalShares, first.grows.trans restGrows, ?_⟩
      intro addressable held member keys shows
      -- The palette is largest in the end, so there was room for the ids of the first call too.
      have showsFirst :=
        first.shows (restGrows.extension.addressable addressable) held member keys shows
      rw [SharedCall.writesTo, List.flatMap_cons, List.foldl_append]
      exact restShows addressable held member _ showsFirst

/-- No call of a row fails that writes in range, as long as the palette stays small enough. -/
theorem succeeds
    (shares : workspace.SharesPalette palette writers readers)
    {before after : List SharedCall}
    {call : SharedCall}
    (admitted : ∀ other ∈ before ++ call :: after, other.AdmittedFor writers readers)
    (addressable :
      ((workspace.afterSharedCalls palette (before ++ call :: after)).paletteAt
        palette).Addressable)
    (inRange : call.InRange) :
    ∃ next, (call.session palette).run.run (workspace.afterSharedCalls palette before) =
      (.ok (), next) := by
  obtain ⟨midShares, -, -⟩ := shares.run before fun other member =>
    admitted other (List.mem_append_left _ member)
  have carried := midShares.carried (admitted call List.mem_append_cons_self)
  obtain ⟨-, restGrows, -⟩ := carried.shares.run after fun other member =>
    admitted other (List.mem_append_right _ (List.mem_cons_of_mem _ member))
  rw [afterSharedCalls, List.foldl_append, List.foldl_cons] at addressable
  have succeeds := carried.succeeds (restGrows.extension.addressable addressable) inRange
  exact ⟨_, Prod.ext succeeds rfl⟩

end SharesPalette

/--
Sections that share a palette while it grows, in any interleaving of writes to
them with calls that extend the palette. A block of a writer reads as what was
written last at just its coordinates to just its section, or else as at the
start. The writers still use the palette and all their ids have states there. No
call fails, unless it is a write out of range.
-/
theorem shared_palette_reads_own_writes
    {workspace : Workspace}
    {palette : PaletteId}
    {writers readers : List SectionId}
    (shares : workspace.SharesPalette palette writers readers)
    (calls : List SharedCall)
    (admitted : ∀ call ∈ calls, call.AdmittedFor writers readers)
    (addressable : ((workspace.afterSharedCalls palette calls).paletteAt palette).Addressable) :
    ∃ later,
      later = workspace.afterSharedCalls palette calls ∧
      (∀ held ∈ writers, ∀ x y z place, Section.place? x y z = some place →
        ∃ start found,
          (workspace.slabAt held).get x y z = .ok start ∧
          (later.slabAt held).get x y z = .ok found ∧
          found.same
            ((SectionCall.lastWritten (SharedCall.writesTo held calls) place).getD start) = true) ∧
      (∀ held ∈ writers,
        (later.recordAt held).palette = palette ∧ (later.slabAt held).Consistent ∧
        ∀ id ∈ (later.slabAt held).storage.values, id < (later.paletteAt palette).size) ∧
      ∀ before call after, calls = before ++ call :: after → call.InRange →
        ∃ next, (call.session palette).run.run (workspace.afterSharedCalls palette before) =
          (.ok (), next) := by
  obtain ⟨finalShares, -, finalShows⟩ := shares.run calls admitted
  refine ⟨_, rfl, ?_, ?_, ?_⟩
  · intro held member x y z place addressed
    obtain ⟨keys, shows⟩ := (shares.consistent held (List.mem_append_left _ member)).shows
    obtain ⟨start, read, startKey⟩ := shows.get_of_place addressed
    obtain ⟨found, readFinal, foundKey⟩ :=
      (finalShows addressable held member keys shows).get_of_place addressed
    refine ⟨start, found, read, readFinal, ?_⟩
    rw [Section.getElem?_foldl_keysAfter startKey, Option.some.injEq] at foundKey
    rw [BlockState.same, beq_iff_eq, foundKey]
  · intro held member
    have consistent := finalShares.consistent held (List.mem_append_left _ member)
    refine ⟨finalShares.palette_eq held member, consistent, fun id stored => ?_⟩
    rw [← finalShares.palette_slabAt member]
    exact consistent.resolves id stored
  · rintro before call after rfl inRange
    exact shares.succeeds admitted addressable inRange

/--
Two sections of air share a palette. Stone is written in the first one and then in the
second, whose storage was made for air alone.
-/
theorem shared_palette_reads_own_writes_of_stone :
    ∃ (workspace later : Workspace) (palette : PaletteId) (left right : SectionId)
        (stone leftFound rightFound : BlockState),
      workspace.SharesPalette palette [left, right] [] ∧ stone.same .air = false ∧
      (workspace.slabAt right).storage.maxValue = 0 ∧
      later = workspace.afterSharedCalls palette
        [.set left 1 2 3 stone, .set right 4 5 6 stone] ∧
      (later.paletteAt palette).Addressable ∧
      (later.slabAt right).get 4 5 6 = .ok rightFound ∧ rightFound.same stone = true ∧
      (later.slabAt left).get 4 5 6 = .ok leftFound ∧ leftFound.same .air = true := by
  let stone : BlockState := .bare ⟨"minecraft", "stone", by decide, by decide⟩
  let storage : PackedArray .padded := .zeros .padded Section.cellCount 0
  let workspace : Workspace :=
    { initial with
      palettes := #[.make .air]
      paddedArrays := #[storage, storage]
      sections := #[
        { palette := ⟨0⟩, storage := ⟨0⟩ },
        { palette := ⟨0⟩, storage := ⟨1⟩ }] }
  let left : SectionId := ⟨0⟩
  let right : SectionId := ⟨1⟩
  have shares : workspace.SharesPalette ⟨0⟩ [left, right] [] := by
    refine ⟨by decide, .make .air, ?_, ?_, ?_, ?_⟩
    · simp only [List.forall_mem_cons]
      exact ⟨⟨by decide, by decide, by decide⟩, ⟨by decide, by decide, by decide⟩, nofun⟩
    · simp only [List.forall_mem_cons]
      exact ⟨rfl, rfl, nofun⟩
    · decide
    · simp only [List.append_nil, List.forall_mem_cons]
      exact ⟨(Section.shows_empty .air).consistent, (Section.shows_empty .air).consistent, nofun⟩
  have leftAddressed : Section.place? 1 2 3 =
      some { column := ⟨1, by decide⟩, level := ⟨2, by decide⟩, row := ⟨3, by decide⟩ } := by decide
  let place : Section.Place :=
    { column := ⟨4, by decide⟩, level := ⟨5, by decide⟩, row := ⟨6, by decide⟩ }
  have rightAddressed : Section.place? 4 5 6 = some place := by decide
  have leftWriter : left ∈ [left, right] := by decide
  have rightWriter : right ∈ [left, right] := by decide
  -- Each of the writes adds at most one state to the palette of air.
  have addressable : ((workspace.afterSharedCalls ⟨0⟩
      [.set left 1 2 3 stone, .set right 4 5 6 stone]).paletteAt ⟨0⟩).Addressable := by
    have between := (shares.carried_set leftWriter 1 2 3 stone).shares
    rw [afterSharedCalls, List.foldl_cons, List.foldl_cons, List.foldl_nil,
      between.paletteAt_after_set rightWriter rightAddressed,
      shares.paletteAt_after_set leftWriter leftAddressed]
    refine Nat.le_trans (Palette.size_insert_le _ stone) ?_
    refine Nat.le_trans (Nat.succ_le_succ (Palette.size_insert_le _ stone)) ?_
    decide
  have admitted : ∀ call ∈ ([.set left 1 2 3 stone, .set right 4 5 6 stone] : List SharedCall),
      call.AdmittedFor [left, right] [] := by
    simp only [List.forall_mem_cons]
    exact ⟨leftWriter, rightWriter, List.forall_mem_nil _⟩
  obtain ⟨later, same, reads, -⟩ :=
    shared_palette_reads_own_writes shares _ admitted addressable
  obtain ⟨_, rightFound, -, readRight, sameRight⟩ :=
    reads right rightWriter 4 5 6 place rightAddressed
  obtain ⟨start, leftFound, readStart, readLeft, sameLeft⟩ :=
    reads left leftWriter 4 5 6 place rightAddressed
  obtain ⟨again, readAgain, startKey⟩ := (Section.shows_empty .air).get_of_place rightAddressed
  cases readAgain.symm.trans readStart
  refine ⟨workspace, later, ⟨0⟩, left, right, stone, leftFound, rightFound, shares, by decide, rfl,
    same, same ▸ addressable, readRight, sameRight, readLeft, ?_⟩
  rw [List.getElem?_replicate, if_pos place.cell_lt, Option.some.injEq] at startKey
  rw [BlockState.same, startKey]
  exact sameLeft

end Workspace

end BlockVolume
