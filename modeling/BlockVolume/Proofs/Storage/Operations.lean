import BlockVolume.Proofs.Outcome
import BlockVolume.Proofs.Storage.Cells

namespace BlockVolume

/-!
# Operations on the list that an array shows

One lemma for each outcome of each operation: what it answers and which list
the array shows afterwards. A bulk write puts a whole list in place when all
its values are within the bound, so raising the bound, which may move every
cell into a new store, never stops half-way and never changes a value.
-/

namespace Number

variable {number : Number} {extent place : Nat}

theorem below?_of_lt
    (denoted : number.toNat? = some place)
    (inside : place < extent) :
    number.below? extent = some ⟨place, inside⟩ :=
  below?_eq_some_iff.2 denoted

theorem below?_of_outside
    (outside : ∀ place, number.toNat? = some place → extent ≤ place) :
    number.below? extent = none := by
  cases found : number.below? extent with
  | none => rfl
  | some place =>
      have beyond := outside place.val (below?_eq_some_iff.1 found)
      exact absurd place.isLt (Nat.not_lt.2 beyond)

/-- A number denotes a place below an extent, or no natural below it. -/
theorem inside_or_outside (number : Number) (extent : Nat) :
    (∃ place, number.toNat? = some place ∧ place < extent) ∨
      ∀ place, number.toNat? = some place → extent ≤ place := by
  cases found : number.below? extent with
  | some place => exact .inl ⟨place.val, below?_eq_some_iff.1 found, place.isLt⟩
  | none =>
      refine .inr fun place denoted => Nat.le_of_not_lt fun inside => ?_
      rw [below?_of_lt denoted inside] at found
      cases found

/-- A safe natural is the natural that a number denotes. -/
theorem toNat?_of_toSafeNat?
    {natural : Nat}
    (safe : number.toSafeNat? = some natural) :
    number.toNat? = some natural :=
  (Option.filter_eq_some_iff.1 safe).1

/-- A natural that a number denotes safely is safe by itself. -/
theorem toSafeNat?_ofNat_of_toSafeNat?
    {natural : Nat}
    (safe : number.toSafeNat? = some natural) :
    (ofNat natural).toSafeNat? = some natural := by
  have below := (Option.filter_eq_some_iff.1 safe).2
  exact Option.filter_eq_some_iff.2 ⟨toNat?_ofNat natural, below⟩

end Number

namespace PackedArray

variable {layout : Layout} {array : PackedArray layout} {bound : Nat} {values : List Nat}

/-! ## Checks -/

/-- An admissible bound is accepted. -/
theorem checkMaxValue_of_le
    {number : Number}
    (denoted : number.toNat? = some bound)
    (admissible : bound ≤ maxCellValue) :
    checkMaxValue number = .ok bound := by
  simp [checkMaxValue, denoted, admissible]

theorem checkMaxValue_of_outside
    {number : Number}
    (outside : ∀ bound, number.toNat? = some bound → maxCellValue < bound) :
    checkMaxValue number = .error (.invalidMaxValue number) := by
  unfold checkMaxValue
  cases denoted : number.toNat? with
  | none => rfl
  | some bound => exact if_neg (Nat.not_le.2 (outside bound denoted))

/-- A bound that is accepted is admissible. -/
theorem of_checkMaxValue_eq_ok
    {number : Number}
    (accepted : checkMaxValue number = .ok bound) :
    number.toNat? = some bound ∧ bound ≤ maxCellValue := by
  unfold checkMaxValue at accepted
  cases denoted : number.toNat? with
  | none =>
      rw [denoted] at accepted
      cases accepted
  | some natural =>
      simp only [denoted] at accepted
      split at accepted
      · cases accepted
        exact ⟨rfl, ‹_›⟩
      · cases accepted

/-- A store is accepted exactly when it can be allocated. -/
theorem checkStore_eq_ok_iff (layout : Layout) (limbs : Nat) :
    checkStore layout limbs = .ok () ↔ layout.limbBytes * limbs ≤ allocatableBytes := by
  have allocatable : allocatableBytes ≤ maxStoreBytes := by decide
  unfold checkStore
  by_cases tooLong : maxStoreBytes < layout.limbBytes * limbs
  · simp [tooLong]
    omega
  · by_cases tooLarge : allocatableBytes < layout.limbBytes * limbs
    · simp [tooLong, tooLarge]
    · simp [tooLong, tooLarge]
      omega

/-- A size and a bound are accepted exactly when the size is safe and the bound admissible. -/
theorem checkDimensions_eq_ok_iff
    {size maxValue : Number}
    {count bound : Nat} :
    checkDimensions size maxValue = .ok (count, bound) ↔
      size.toSafeNat? = some count ∧ maxValue.toNat? = some bound ∧ bound ≤ maxCellValue := by
  unfold checkDimensions
  constructor
  · intro accepted
    cases safe : size.toSafeNat? with
    | none =>
        rw [safe] at accepted
        cases accepted
    | some natural =>
        rw [safe] at accepted
        obtain ⟨checked, boundAccepted, same⟩ := map_eq_ok_iff.1 accepted
        cases same
        exact ⟨rfl, of_checkMaxValue_eq_ok boundAccepted⟩
  · rintro ⟨safe, denoted, admissible⟩
    rw [safe, checkMaxValue_of_le denoted admissible]
    rfl

/-- For a new array the store must also be one that can be allocated. -/
theorem checkNew_eq_ok_iff
    {size maxValue : Number}
    {count bound : Nat} :
    checkNew layout size maxValue = .ok (count, bound) ↔
      size.toSafeNat? = some count ∧ maxValue.toNat? = some bound ∧ bound ≤ maxCellValue ∧
        layout.limbBytes * layout.limbsRequested count (bitsNeeded bound) ≤ allocatableBytes := by
  constructor
  · intro accepted
    obtain ⟨⟨checkedCount, checkedBound⟩, dimensions, rest⟩ := bind_eq_ok_iff.1 accepted
    obtain ⟨⟨⟩, stored, same⟩ := bind_eq_ok_iff.1 rest
    cases same
    obtain ⟨safe, denoted, admissible⟩ := checkDimensions_eq_ok_iff.1 dimensions
    exact ⟨safe, denoted, admissible, (checkStore_eq_ok_iff _ _).1 stored⟩
  · rintro ⟨safe, denoted, admissible, allocatable⟩
    rw [checkNew, checkDimensions_eq_ok_iff.2 ⟨safe, denoted, admissible⟩]
    change (checkStore _ _ >>= _) = _
    rw [(checkStore_eq_ok_iff _ _).2 allocatable]
    rfl

/-- A natural within the bound is accepted as a value. -/
theorem checkValue_of_le
    {number : Number}
    {value : Nat}
    (denoted : number.toNat? = some value)
    (within : value ≤ bound) :
    checkValue number bound = .ok value := by
  simp [checkValue, denoted, within]

theorem checkValue_of_lt
    {number : Number}
    {value : Nat}
    (denoted : number.toNat? = some value)
    (exceeds : bound < value) :
    checkValue number bound = .error (.exceedsMaxValue number bound) := by
  simp [checkValue, denoted, exceeds]

/-- A value that is accepted is within the bound. -/
theorem le_of_checkValue_eq_ok
    {number : Number}
    {value : Nat}
    (accepted : checkValue number bound = .ok value) :
    value ≤ bound := by
  unfold checkValue at accepted
  split at accepted
  · split at accepted
    · rename_i within
      exact Except.ok.inj accepted ▸ within
    · cases accepted
  · cases accepted

/-- A write that is accepted is one of a value within the bound. -/
theorem le_of_checkWrite_eq_ok
    {index value : Number}
    {write : Fin array.size × Nat}
    (accepted : array.checkWrite index value = .ok write) :
    write.2 ≤ array.maxValue := by
  obtain ⟨place, -, checked⟩ := bind_eq_ok_iff.1 accepted
  obtain ⟨natural, within, same⟩ := bind_eq_ok_iff.1 checked
  cases same
  exact le_of_checkValue_eq_ok within

/-- A cell that exists is read. -/
theorem get_eq_cell
    {index : Number}
    {place : Nat}
    (denoted : index.toNat? = some place)
    (inside : place < array.size) :
    array.get index = .ok (array.cell place) := by
  rw [get, checkIndex, Number.below?_of_lt denoted inside]
  rfl

/-- A write of a value within the bound to a cell that exists writes the cell. -/
theorem set_eq_setCell
    {index value : Number}
    {place natural : Nat}
    (denotedIndex : index.toNat? = some place)
    (inside : place < array.size)
    (denotedValue : value.toNat? = some natural)
    (within : natural ≤ array.maxValue) :
    array.set index value = .ok (array.setCell place natural) := by
  rw [set, checkWrite, checkIndex, Number.below?_of_lt denotedIndex inside,
    checkValue_of_le denotedValue within]
  rfl

/-- A cell is read exactly where its value is listed. -/
theorem get_eq_ok_iff
    {index : Number}
    {value : Nat} :
    array.get index = .ok value ↔
      ∃ place, index.toNat? = some place ∧ array.values[place]? = some value := by
  obtain ⟨place, denoted, inside⟩ | outside := index.inside_or_outside array.size
  · rw [get, checkIndex, Number.below?_of_lt denoted inside]
    simp [denoted, array.getElem?_values, inside, Except.map]
  · rw [get, checkIndex, Number.below?_of_outside outside]
    constructor
    · nofun
    · rintro ⟨place, denoted, listed⟩
      rw [array.getElem?_values, if_neg (Nat.not_lt.2 (outside place denoted))] at listed
      cases listed

namespace Represents

theorem checkIndex_of_lt
    (shows : array.Represents bound values)
    {number : Number}
    {place : Nat}
    (denoted : number.toNat? = some place)
    (inside : place < values.length) :
    array.checkIndex number = .ok ⟨place, shows.length_eq ▸ inside⟩ := by
  have insideArray : place < array.size := shows.length_eq ▸ inside
  simp [checkIndex, Number.below?_of_lt denoted insideArray]

theorem checkIndex_of_outside
    (shows : array.Represents bound values)
    {number : Number}
    (outside : ∀ place, number.toNat? = some place → values.length ≤ place) :
    array.checkIndex number = .error (.cellOutOfBounds number values.length) := by
  rw [shows.length_eq] at outside ⊢
  simp [checkIndex, Number.below?_of_outside outside]

/-! ## Single cells -/

/-- Reading a cell answers with the value at its place. -/
theorem get_of_lt
    (shows : array.Represents bound values)
    {index : Number}
    {place : Nat}
    (denoted : index.toNat? = some place)
    (inside : place < values.length) :
    array.get index = .ok values[place] := by
  rw [get, shows.checkIndex_of_lt denoted inside, ← shows.cell_eq inside]
  rfl

theorem get_of_outside
    (shows : array.Represents bound values)
    {index : Number}
    (outside : ∀ place, index.toNat? = some place → values.length ≤ place) :
    array.get index = .error (.cellOutOfBounds index values.length) := by
  rw [get, shows.checkIndex_of_outside outside]
  rfl

/-- A write of a value within the bound sets the value at its place. -/
theorem set_of_le
    (shows : array.Represents bound values)
    {index value : Number}
    {place natural : Nat}
    (denotedIndex : index.toNat? = some place)
    (inside : place < values.length)
    (denotedValue : value.toNat? = some natural)
    (within : natural ≤ bound) :
    ∃ written, array.set index value = .ok written ∧
      written.Represents bound (values.set place natural) := by
  exact ⟨array.setCell place natural,
    set_eq_setCell denotedIndex (shows.length_eq ▸ inside) denotedValue (shows.maxValue_eq ▸ within),
    shows.setCell inside within⟩

theorem set_of_outside
    (shows : array.Represents bound values)
    {index : Number}
    (outside : ∀ place, index.toNat? = some place → values.length ≤ place)
    (value : Number) :
    array.set index value = .error (.cellOutOfBounds index values.length) := by
  rw [set, checkWrite, shows.checkIndex_of_outside outside]
  rfl

/-- A write of a value that the check refuses is refused for the same cause. -/
theorem set_of_refused
    (shows : array.Represents bound values)
    {index value : Number}
    {place : Nat}
    {cause : StorageError}
    (denotedIndex : index.toNat? = some place)
    (inside : place < values.length)
    (refused : checkValue value bound = .error cause) :
    array.set index value = .error cause := by
  rw [set, checkWrite, shows.checkIndex_of_lt denotedIndex inside, shows.maxValue_eq]
  change Except.map _ (checkValue value bound >>= _) = _
  rw [refused]
  rfl

/-! ## All cells -/

/-- Writing values one after another puts them in place from an index on. -/
theorem setEach_zipIdx
    (shows : array.Represents bound values)
    (new : List Nat)
    (index : Nat)
    (room : index + new.length ≤ values.length)
    (within : ∀ value ∈ new, value ≤ bound) :
    ∃ written,
      array.setEach ((new.zipIdx index).map fun entry => (.ofNat entry.2, .ofNat entry.1)) =
        (written, .ok ()) ∧
      written.Represents bound
        (values.take index ++ new ++ values.drop (index + new.length)) := by
  -- Each write moves one value from what is left into what is done, one place further on.
  induction new generalizing array values index with
  | nil => exact ⟨array, rfl, by simpa using shows⟩
  | cons value rest inductionHypothesis =>
      have inside : index < values.length := by
        rw [List.length_cons] at room
        omega
      have valueWithin : value ≤ bound := within value List.mem_cons_self
      have first := shows.setCell inside valueWithin
      obtain ⟨written, wrote, showsWritten⟩ :=
        inductionHypothesis first (index + 1)
          (by rw [List.length_set]; rw [List.length_cons] at room; omega)
          (fun other member => within other (List.mem_cons_of_mem _ member))
      have accepted :
          array.checkWrite (.ofNat index) (.ofNat value) =
            .ok (⟨index, shows.length_eq ▸ inside⟩, value) := by
        rw [checkWrite, shows.checkIndex_of_lt (Number.toNat?_ofNat index) inside,
          checkValue_of_le (Number.toNat?_ofNat value) (shows.maxValue_eq ▸ valueWithin)]
        rfl
      have sameList :
          (values.set index value).take (index + 1) ++ rest ++
              (values.set index value).drop (index + 1 + rest.length) =
            values.take index ++ (value :: rest) ++
              values.drop (index + (value :: rest).length) := by
        rw [List.drop_set_of_lt (by omega), List.take_succ_eq_append_getElem (by simpa using inside),
          List.take_set_of_le (Nat.le_refl index), List.getElem_set_self, List.length_cons]
        simp [Nat.add_assoc, Nat.add_comm 1]
      refine ⟨written, ?_, sameList ▸ showsWritten⟩
      rw [List.zipIdx_cons, List.map_cons, setEach, accepted]
      exact wrote

/-- A list as long as the array and within its bound takes the place of what was there. -/
theorem setEach_placed
    (shows : array.Represents bound values)
    (new : List Nat)
    (sameLength : new.length = values.length)
    (within : ∀ value ∈ new, value ≤ bound) :
    ∃ written, array.setEach (placed new) = (written, .ok ()) ∧ written.Represents bound new := by
  obtain ⟨written, wrote, showsWritten⟩ :=
    shows.setEach_zipIdx new 0 (by omega) within
  refine ⟨written, wrote, ?_⟩
  simpa [List.drop_eq_nil_of_le (Nat.le_of_eq sameLength.symm)] using showsWritten

end Represents

/-- Writes go on where the ones before them ended. -/
theorem setEach_append_of_ok
    {first : List (Number × Number)}
    {written : PackedArray layout}
    (done : array.setEach first = (written, .ok ()))
    (second : List (Number × Number)) :
    array.setEach (first ++ second) = written.setEach second := by
  induction first generalizing array with
  | nil =>
      cases done
      rfl
  | cons write rest inductionHypothesis =>
      obtain ⟨index, value⟩ := write
      rw [List.cons_append, setEach]
      rw [setEach] at done
      cases checked : array.checkWrite index value with
      | error cause =>
          rw [checked] at done
          cases done
      | ok accepted =>
          rw [checked] at done
          exact inductionHypothesis done

/-! ## New arrays -/

/--
An array is made exactly for a safe size, an admissible bound and a store that
can be allocated; it holds only zeros.
-/
theorem make_eq_ok_iff
    {size maxValue : Number} :
    make layout size maxValue = .ok array ↔
      ∃ count bound, size.toSafeNat? = some count ∧ maxValue.toNat? = some bound ∧
        bound ≤ maxCellValue ∧
        layout.limbBytes * layout.limbsRequested count (bitsNeeded bound) ≤ allocatableBytes ∧
        array = zeros layout count bound := by
  constructor
  · intro made
    obtain ⟨⟨count, bound⟩, checked, same⟩ := bind_eq_ok_iff.1 made
    cases same
    obtain ⟨safe, denoted, admissible, allocatable⟩ := checkNew_eq_ok_iff.1 checked
    exact ⟨count, bound, safe, denoted, admissible, allocatable, rfl⟩
  · rintro ⟨count, bound, safe, denoted, admissible, allocatable, rfl⟩
    rw [make, checkNew_eq_ok_iff.2 ⟨safe, denoted, admissible, allocatable⟩]
    rfl

/-- Values within an admissible bound make an array that shows them. -/
theorem ofValues_of_le
    (layout : Layout)
    (admissible : bound ≤ maxCellValue)
    (within : ∀ value ∈ values, value ≤ bound) :
    ∃ made, ofValues layout values.length bound values = .ok made ∧
      made.Represents bound values := by
  have shows := represents_zeros layout values.length admissible
  obtain ⟨made, wrote, showsMade⟩ :=
    shows.setEach_placed values (by rw [List.length_replicate]) within
  refine ⟨made, ?_, showsMade⟩
  rw [ofValues, finished, wrote]
  rfl

/-- The first value beyond the bound is refused. -/
theorem ofValues_of_exceeds
    (layout : Layout)
    (admissible : bound ≤ maxCellValue)
    {before after : List Nat}
    {value : Nat}
    (split : values = before ++ value :: after)
    (early : ∀ other ∈ before, other ≤ bound)
    (exceeds : bound < value) :
    ofValues layout values.length bound values =
      .error (.exceedsMaxValue (.ofNat value) bound) := by
  have room : before.length < values.length := by simp [split]
  obtain ⟨written, wrote, showsWritten⟩ :=
    (represents_zeros layout values.length admissible).setEach_zipIdx before 0
      (by rw [List.length_replicate]; omega) early
  have refused :
      written.checkWrite (.ofNat before.length) (.ofNat value) =
        .error (.exceedsMaxValue (.ofNat value) bound) := by
    rw [checkWrite, showsWritten.checkIndex_of_lt (Number.toNat?_ofNat before.length)
      (by simp; omega), showsWritten.maxValue_eq]
    change (checkValue _ bound >>= _) = _
    rw [checkValue_of_lt (Number.toNat?_ofNat value) exceeds]
    rfl
  have writes :
      placed values =
        ((before.zipIdx 0).map fun entry => (.ofNat entry.2, .ofNat entry.1)) ++
          (.ofNat before.length, .ofNat value) ::
            ((after.zipIdx (before.length + 1)).map fun entry =>
              (.ofNat entry.2, .ofNat entry.1)) := by
    simp [placed, split, List.zipIdx_append]
  rw [ofValues, writes, setEach_append_of_ok wrote, setEach, refused]
  rfl

/-- Cells only move when they get wider, so every old value is within the new bound. -/
theorem repack_of_wider
    (array : PackedArray layout)
    (admissible : bound ≤ maxCellValue)
    (exceeds : ¬ bound ≤ array.maxValue)
    (otherWidth : bitsNeeded bound ≠ array.width) :
    ∃ widened,
      (zeros layout array.size bound).setEach (placed array.values) = (widened, .ok ()) ∧
      widened.Represents bound array.values := by
  have wider : array.width < bitsNeeded bound := by
    have mono := bitsNeeded_mono (Nat.le_of_not_le exceeds)
    unfold width at otherWidth ⊢
    omega
  have within : ∀ value ∈ array.values, value ≤ bound := by
    intro value member
    obtain ⟨index, -, rfl⟩ := List.mem_map.1 member
    exact le_of_lt_two_pow_of_lt_bitsNeeded (array.cell_lt index) wider
  exact (represents_zeros layout array.size admissible).setEach_placed array.values
    (by rw [List.length_replicate, length_values]) within

namespace Represents

/-- The same cells in another layout, when all of them are within the bound. -/
theorem relayout_of_le
    (shows : array.Represents bound values)
    (within : ∀ value ∈ values, value ≤ bound)
    (target : Layout) :
    ∃ copy, array.relayout target = .ok copy ∧ copy.Represents bound values := by
  have admissible : bound ≤ maxCellValue := shows.maxValue_eq ▸ shows.stored.bound_le
  rw [relayout, ← shows.length_eq, shows.maxValue_eq, shows.values_eq]
  exact ofValues_of_le target admissible within

/-- Of the same cells the first one beyond the bound is refused. -/
theorem relayout_of_exceeds
    (shows : array.Represents bound values)
    {before after : List Nat}
    {value : Nat}
    (split : values = before ++ value :: after)
    (early : ∀ other ∈ before, other ≤ bound)
    (exceeds : bound < value)
    (target : Layout) :
    array.relayout target = .error (.exceedsMaxValue (.ofNat value) bound) := by
  have admissible : bound ≤ maxCellValue := shows.maxValue_eq ▸ shows.stored.bound_le
  rw [relayout, ← shows.length_eq, shows.maxValue_eq, shows.values_eq]
  exact ofValues_of_exceeds target admissible split early exceeds

/-- Raising the bound to an admissible one keeps every value, and the bound never falls. -/
theorem widen_of_le
    (shows : array.Represents bound values)
    {number : Number}
    {wanted : Nat}
    (denoted : number.toNat? = some wanted)
    (admissible : wanted ≤ maxCellValue) :
    ∃ widened, array.widen number = (widened, .ok ()) ∧
      widened.Represents (max bound wanted) values := by
  rw [widen, checkMaxValue_of_le denoted admissible]
  by_cases enough : wanted ≤ array.maxValue
  · refine ⟨array, by simp [enough], ?_⟩
    rw [Nat.max_eq_left (shows.maxValue_eq ▸ enough)]
    exact shows
  · have raised : max bound wanted = wanted :=
      Nat.max_eq_right (by rw [← shows.maxValue_eq]; omega)
    rw [raised]
    by_cases sameWidth : bitsNeeded wanted = array.width
    · refine ⟨{ array with maxValue := wanted }, by simp [enough, sameWidth], ?_⟩
      exact
        { stored :=
            { bound_le := admissible
              enough := by
                simp only [width, sameWidth]
                exact shows.stored.enough }
          maxValue_eq := rfl
          values_eq := by
            rw [← shows.values_eq]
            refine List.map_congr_left fun index _ => ?_
            have keptWidth : { array with maxValue := wanted }.width = array.width := sameWidth
            rw [cell, keptWidth, cell] }
    · obtain ⟨widened, wrote, showsWidened⟩ := array.repack_of_wider admissible enough sameWidth
      rw [shows.values_eq] at wrote showsWidened
      refine ⟨widened, ?_, showsWidened⟩
      simp only [enough, sameWidth, if_false, shows.values_eq, wrote]

end Represents

/-- Raising the bound to anything else is refused and changes nothing. -/
theorem widen_of_outside
    {number : Number}
    (outside : ∀ wanted, number.toNat? = some wanted → maxCellValue < wanted) :
    array.widen number = (array, .error (.invalidMaxValue number)) := by
  rw [widen, checkMaxValue_of_outside outside]

end PackedArray

end BlockVolume
