import BlockVolume.Proofs.Section.Capacity
import BlockVolume.Proofs.Section.Merging
import BlockVolume.Proofs.Section.WorldFiles

namespace BlockVolume

/-!
# Runs of calls on a section

A section that nobody else uses behaves as a map from places to states. A write
changes the state of one place, and nothing else changes any: neither a
compaction nor a merge, nor the growth of palette and storage that a write
brings about. The map is compared by keys, as states are.
-/

/-- A call on a section. -/
inductive SectionCall where
  | get (x y z : Number)
  | set (x y z : Number) (state : BlockState)
  | compact
  | mergeInto (target : Palette)

namespace SectionCall

/-- The state that a call writes at a place, if it does. -/
def written? (place : Section.Place) : SectionCall → Option BlockState
  | .set x y z state => if Section.place? x y z = some place then some state else none
  | _ => none

/-- The state that calls wrote last at a place, if any did. -/
def lastWritten (calls : List SectionCall) (place : Section.Place) : Option BlockState :=
  calls.reverse.findSome? (written? place)

/-- What is written first is what nothing later overwrites. -/
theorem lastWritten_cons
    (first : SectionCall)
    (rest : List SectionCall)
    (place : Section.Place) :
    lastWritten (first :: rest) place =
      (lastWritten rest place).or (first.written? place) := by
  rw [lastWritten, List.reverse_cons, List.findSome?_append, ← lastWritten,
    List.findSome?_singleton]

end SectionCall

namespace Section

/-- The ways to obtain a section with a palette and a storage of its own. -/
inductive Obtained : Section → Prop where
  | empty (defaultState : BlockState) : Obtained (.empty defaultState)
  | make
      {palette : Palette}
      {storage : PackedArray .padded}
      {slab : Section}
      (paletteReachable : palette.Reachable)
      (storageReachable : storage.Reachable)
      (made : Section.make palette storage = .ok slab) :
      Obtained slab
  | ofWorld
      {defaultState : BlockState}
      {world : List BlockState}
      {longs : List Int}
      {dataVersion : Number}
      {slab : Section}
      (read : Section.ofWorld defaultState world longs dataVersion = .ok slab) :
      Obtained slab

variable {slab : Section} {keys : List String}

/-- A section that is obtained in one of these ways is consistent. -/
theorem Obtained.consistent (obtained : slab.Obtained) : slab.Consistent := by
  cases obtained with
  | empty defaultState => exact (shows_empty defaultState).consistent
  | make paletteReachable storageReachable made =>
      obtain ⟨size_eq, resolves, rfl⟩ := make_eq_ok_iff.1 made
      exact
        { wellFormed := paletteReachable.wellFormed
          sound := storageReachable.sound
          size_eq
          resolves }
  | ofWorld read => exact consistent_of_ofWorld read

/-- The section after a call; a read or a merge leaves it alone. -/
def after (slab : Section) : SectionCall → Section
  | .get .. => slab
  | .set x y z state => (slab.set x y z state).1
  | .compact => slab.compact.1
  | .mergeInto _ => slab

/-- The section after a row of calls. -/
def afterAll (slab : Section) (calls : List SectionCall) : Section :=
  calls.foldl after slab

/-- The palette has at most `2 ^ 31` states before, between and after the calls. -/
def StaysAddressable (slab : Section) : List SectionCall → Prop
  | [] => slab.palette.Addressable
  | call :: rest => slab.palette.Addressable ∧ StaysAddressable (slab.after call) rest

theorem StaysAddressable.first
    {calls : List SectionCall}
    (addressable : slab.StaysAddressable calls) :
    slab.palette.Addressable := by
  cases calls with
  | nil => exact addressable
  | cons => exact addressable.1

/-- A call adds at most one state to the palette. -/
theorem Shows.size_after_le
    (shows : slab.Shows keys)
    (call : SectionCall) :
    (slab.after call).palette.size ≤ slab.palette.size + 1 := by
  cases call with
  | get x y z => exact Nat.le_succ _
  | set x y z state =>
      cases addressed : place? x y z with
      | none =>
          obtain ⟨cause, -, -, refused⟩ := slab.get_set_of_outside addressed state
          simp only [Section.after, refused]
          exact Nat.le_succ _
      | some place =>
          rw [Section.after, shows.palette_set addressed state]
          exact slab.palette.size_insert_le state
  | compact =>
      obtain ⟨compacted, succeeds, states, -⟩ := shows.compact_succeeds
      simp only [Section.after, succeeds]
      rw [← Palette.length_states, states]
      refine Nat.le_succ_of_le (Nat.le_trans (length_foldl_eraseIdx_le _ _) ?_)
      exact Nat.le_of_eq slab.palette.length_states
  | mergeInto target => exact Nat.le_succ _

/-- The keys after a call: those that were shown, with the one of a write in its place. -/
def keysAfter (keys : List String) : SectionCall → List String
  | .set x y z state =>
      match place? x y z with
      | some place => keys.set place.cell state.key
      | none => keys
  | _ => keys

/-- One call changes at most the block that it writes. -/
theorem Shows.after
    (shows : slab.Shows keys)
    (call : SectionCall)
    (afterwards : (slab.after call).palette.Addressable) :
    (slab.after call).Shows (keysAfter keys call) := by
  cases call with
  | get x y z => exact shows
  | set x y z state =>
      cases addressed : place? x y z with
      | none =>
          obtain ⟨cause, -, -, refused⟩ := slab.get_set_of_outside addressed state
          simp only [Section.after, keysAfter, addressed, refused]
          exact shows
      | some place =>
          simp only [Section.after, shows.palette_set addressed state] at afterwards
          obtain ⟨written, previous, wrote, -, showsWritten⟩ :=
            shows.set_of_place addressed state afterwards
          simp only [Section.after, keysAfter, addressed, wrote]
          exact showsWritten
  | compact =>
      obtain ⟨compacted, succeeds, -, -, -, showsCompacted⟩ := shows.compact_succeeds
      simp only [Section.after, keysAfter, succeeds]
      exact showsCompacted
  | mergeInto target => exact shows

/-- A call changes the key of a place to that of the state that it writes there, if it does. -/
theorem getElem?_keysAfter
    {place : Place}
    {state : BlockState}
    (shown : keys[place.cell]? = some state.key)
    (call : SectionCall) :
    (keysAfter keys call)[place.cell]? = some ((call.written? place).getD state).key := by
  cases call with
  | set x y z new =>
      simp only [keysAfter, SectionCall.written?]
      cases addressed : place? x y z with
      | none => simpa using shown
      | some target =>
          have inside := (List.getElem?_eq_some_iff.1 shown).1
          by_cases same : target = place
          · subst same
            simp [inside]
          · have different : target.cell ≠ place.cell := mt Place.cell_injective same
            simpa [List.getElem?_set_ne different, same] using shown
  | get x y z => exact shown
  | compact => exact shown
  | mergeInto target => exact shown

/-- So a row of calls changes it to that of the state that is written there last, if one is. -/
theorem getElem?_foldl_keysAfter
    {place : Place}
    {state : BlockState}
    (shown : keys[place.cell]? = some state.key)
    (calls : List SectionCall) :
    (calls.foldl keysAfter keys)[place.cell]? =
      some ((SectionCall.lastWritten calls place).getD state).key := by
  -- The state at the start of the rest of the run is the one that the first call leaves.
  induction calls generalizing keys state with
  | nil => exact shown
  | cons call rest inductionHypothesis =>
      rw [List.foldl_cons, inductionHypothesis (getElem?_keysAfter shown call),
        SectionCall.lastWritten_cons]
      cases SectionCall.lastWritten rest place <;> rfl

/-- A row of calls shows, at every place, the state written last or the one that was there. -/
theorem Shows.afterAll
    (shows : slab.Shows keys)
    {calls : List SectionCall}
    (addressable : slab.StaysAddressable calls) :
    ∃ finalKeys, (slab.afterAll calls).Shows finalKeys ∧
      ∀ (place : Place) (state : BlockState), keys[place.cell]? = some state.key →
        finalKeys[place.cell]? =
          some ((SectionCall.lastWritten calls place).getD state).key := by
  refine ⟨calls.foldl keysAfter keys, ?_, fun place state shown =>
    getElem?_foldl_keysAfter shown calls⟩
  induction calls generalizing slab keys with
  | nil => exact shows
  | cons call rest inductionHypothesis =>
      obtain ⟨-, staysAddressable⟩ := addressable
      exact inductionHypothesis (shows.after call staysAddressable.first) staysAddressable

/-- A run that is short enough for the room that the palette has left is addressable. -/
theorem Shows.staysAddressable
    (shows : slab.Shows keys)
    (calls : List SectionCall)
    (room : slab.palette.size + calls.length ≤ maxCellValue + 1) :
    slab.StaysAddressable calls := by
  induction calls generalizing slab keys with
  | nil => exact room
  | cons call rest inductionHypothesis =>
      rw [List.length_cons] at room
      have before : slab.palette.Addressable := by
        unfold Palette.Addressable
        omega
      have grows := shows.size_after_le call
      have afterwards : (slab.after call).palette.Addressable := by
        unfold Palette.Addressable
        omega
      exact ⟨before, inductionHypothesis (shows.after call afterwards) (by omega)⟩

/--
After any row of calls, a read finds the state that was written last at its
place, or the one that was there at the start. A write answers with what a read
would have found. Coordinates outside the section are refused and change
nothing; every other call succeeds, and compaction changes no block.
-/
theorem reads_last_written
    (obtained : slab.Obtained)
    (calls : List SectionCall)
    (addressable : slab.StaysAddressable calls) :
    ∃ initial : Place → BlockState,
      (∀ x y z place, place? x y z = some place → slab.get x y z = .ok (initial place)) ∧
      (∀ x y z place, place? x y z = some place →
        ∃ found, (slab.afterAll calls).get x y z = .ok found ∧
          found.same ((SectionCall.lastWritten calls place).getD (initial place)) = true) ∧
      (∀ x y z place state, place? x y z = some place →
        ((slab.afterAll calls).set x y z state).1.palette.Addressable →
          ∃ written previous,
            (slab.afterAll calls).set x y z state = (written, .ok previous) ∧
            (slab.afterAll calls).get x y z = .ok previous) ∧
      (∀ x y z state, place? x y z = none →
        ∃ cause, cause.failure.kind = .index ∧
          (slab.afterAll calls).get x y z = .error cause ∧
          (slab.afterAll calls).set x y z state = (slab.afterAll calls, .error cause)) ∧
      (∃ compacted, (slab.afterAll calls).compact = (compacted, .ok ()) ∧
        ∀ x y z place, place? x y z = some place →
          ∃ found kept, (slab.afterAll calls).get x y z = .ok found ∧
            compacted.get x y z = .ok kept ∧ kept.same found = true) ∧
      ∀ target : Palette, target.Reachable →
        (target.addAll (slab.afterAll calls).palette).1.Addressable →
          ∃ grown cells, (slab.afterAll calls).mergeInto target = (grown, .ok cells) := by
  obtain ⟨keys, shows⟩ := obtained.consistent.shows
  obtain ⟨finalKeys, showsFinal, final⟩ := shows.afterAll addressable
  have started : ∀ place : Place, ∃ state,
      slab.block place.cell = .ok state ∧ keys[place.cell]? = some state.key := by
    intro place
    obtain ⟨state, found, sameKey⟩ := shows.block_of_lt (shows.cell_lt_length place)
    exact ⟨state, found, by rw [List.getElem?_eq_getElem (shows.cell_lt_length place), sameKey]⟩
  obtain ⟨initial, starts⟩ := Classical.axiomOfChoice started
  refine ⟨initial, ?_, ?_, ?_, ?_, ?_, ?_⟩
  · intro x y z place addressed
    rw [get, cellIndex_of_place addressed]
    exact (starts place).1
  · intro x y z place addressed
    obtain ⟨found, read, sameKey⟩ := showsFinal.get_of_place addressed
    refine ⟨found, read, ?_⟩
    rw [final place _ (starts place).2, Option.some.injEq] at sameKey
    rw [BlockState.same, beq_iff_eq]
    exact sameKey.symm
  · intro x y z place state addressed written
    rw [showsFinal.palette_set addressed state] at written
    obtain ⟨after, previous, wrote, found, -⟩ := showsFinal.set_of_place addressed state written
    exact ⟨after, previous, wrote, found⟩
  · intro x y z state outside
    exact (slab.afterAll calls).get_set_of_outside outside state
  · obtain ⟨compacted, succeeds, -, -, -, showsCompacted⟩ := showsFinal.compact_succeeds
    refine ⟨compacted, succeeds, ?_⟩
    intro x y z place addressed
    obtain ⟨found, read, foundKey⟩ := showsFinal.get_of_place addressed
    obtain ⟨kept, readKept, keptKey⟩ := showsCompacted.get_of_place addressed
    refine ⟨found, kept, read, readKept, ?_⟩
    rw [foundKey, Option.some.injEq] at keptKey
    rw [BlockState.same, beq_iff_eq]
    exact keptKey.symm
  · intro target reachable targetAddressable
    obtain ⟨grown, cells, merged, -⟩ :=
      showsFinal.mergeInto reachable.wellFormed targetAddressable
    exact ⟨grown, cells, merged⟩

/-- A state is written into a section of air, which is compacted then: the state is still there. -/
theorem reads_last_written_of_set_compact :
    ∃ (slab : Section) (calls : List SectionCall) (state : BlockState),
      slab.Obtained ∧ slab.StaysAddressable calls ∧ state.same .air = false ∧
        calls = [.set 1 2 3 state, .set .nan 2 3 .air, .compact] ∧
        ∃ found, (slab.afterAll calls).get 1 2 3 = .ok found ∧ found.same state = true := by
  let stone : BlockState := .bare ⟨"minecraft", "stone", by decide, by decide⟩
  let calls : List SectionCall := [.set 1 2 3 stone, .set .nan 2 3 .air, .compact]
  have obtained := Obtained.empty .air
  have addressable : (empty .air).StaysAddressable calls :=
    (shows_empty .air).staysAddressable calls (by decide)
  obtain ⟨initial, -, reads, -⟩ := reads_last_written obtained calls addressable
  refine ⟨empty .air, calls, stone, obtained, addressable, by decide, rfl, ?_⟩
  let place : Place :=
    { column := ⟨1, by decide⟩, level := ⟨2, by decide⟩, row := ⟨3, by decide⟩ }
  have last : SectionCall.lastWritten calls place = some stone := rfl
  obtain ⟨found, read, same⟩ := reads 1 2 3 place (by decide)
  rw [last] at same
  exact ⟨found, read, same⟩

end Section

end BlockVolume
