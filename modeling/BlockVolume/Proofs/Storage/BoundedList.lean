import BlockVolume.Proofs.Storage.Operations

namespace BlockVolume

/-!
# Packed arrays as bounded lists

A list of naturals with a bound can be read, written and given a larger bound
in the obvious way, and refuses every other call without a change. A new
packed array of either layout cannot be told from such a list by any row of
calls, so the two layouts cannot be told from each other.
-/

/-- A call on an array, with numbers as callers hand them in. -/
inductive ArrayCall where
  | get (index : Number)
  | set (index value : Number)
  | widen (maxValue : Number)
  deriving Repr, DecidableEq

namespace ArrayCall

/-- What a call answers: a value for a read, nothing for the others, or a refusal. -/
abbrev Answer := Except StorageError (Option Nat)

end ArrayCall

/-- What can be seen of an array between two calls. -/
structure Shown where
  size : Nat
  maxValue : Nat
  bitsPerCell : Nat
  values : List Nat
  deriving Repr, DecidableEq

/-- The answers to a row of calls, each with what is seen after it. -/
def traceOf
    {State : Type}
    (call : State → ArrayCall → State × ArrayCall.Answer)
    (shown : State → Shown)
    (state : State) :
    List ArrayCall → List (ArrayCall.Answer × Shown)
  | [] => []
  | first :: rest =>
      let (next, answer) := call state first
      (answer, shown next) :: traceOf call shown next rest

namespace PackedArray

variable {layout : Layout}

/-- A call on a packed array, which answers and leaves an array behind. -/
def call (array : PackedArray layout) : ArrayCall → PackedArray layout × ArrayCall.Answer
  | .get index => (array, (array.get index).map some)
  | .set index value =>
      match array.set index value with
      | .ok written => (written, .ok none)
      | .error cause => (array, .error cause)
  | .widen maxValue =>
      let (widened, outcome) := array.widen maxValue
      (widened, outcome.map fun _ => none)

/-- What is seen of a packed array. -/
def shown (array : PackedArray layout) : Shown :=
  { size := array.size
    maxValue := array.maxValue
    bitsPerCell := array.width
    values := array.values }

/-- What a row of calls on a packed array shows. -/
def trace (array : PackedArray layout) (calls : List ArrayCall) :
    List (ArrayCall.Answer × Shown) :=
  traceOf call shown array calls

end PackedArray

/-- A list of naturals with a bound. -/
structure BoundedList where
  entries : List Nat
  bound : Nat
  deriving Repr, DecidableEq

namespace BoundedList

/-- So many zeros, with a bound. -/
def zeros (size bound : Nat) : BoundedList :=
  { entries := List.replicate size 0, bound }

/--
A call on a bounded list. A read or write needs an integer index inside the
list, a write also an integer value from zero to the bound, and a new bound an
integer from zero to `2 ^ 31 - 1`. Everything else is refused.
-/
def call (list : BoundedList) : ArrayCall → BoundedList × ArrayCall.Answer
  | .get index =>
      match index.below? list.entries.length with
      | some place => (list, .ok (some list.entries[place]))
      | none => (list, .error (.cellOutOfBounds index list.entries.length))
  | .set index value =>
      match index.below? list.entries.length, value.toNat? with
      | none, _ => (list, .error (.cellOutOfBounds index list.entries.length))
      | some _, none => (list, .error (.notNatural value))
      | some place, some natural =>
          if natural ≤ list.bound then
            ({ list with entries := list.entries.set place natural }, .ok none)
          else
            (list, .error (.exceedsMaxValue value list.bound))
  | .widen maxValue =>
      match maxValue.toNat? with
      | none => (list, .error (.invalidMaxValue maxValue))
      | some bound =>
          if bound ≤ maxCellValue then
            ({ list with bound := max list.bound bound }, .ok none)
          else
            (list, .error (.invalidMaxValue maxValue))

/-- What is seen of a bounded list. -/
def shown (list : BoundedList) : Shown :=
  { size := list.entries.length
    maxValue := list.bound
    bitsPerCell := bitsNeeded list.bound
    values := list.entries }

/-- What a row of calls on a bounded list shows. -/
def trace (list : BoundedList) (calls : List ArrayCall) : List (ArrayCall.Answer × Shown) :=
  traceOf call shown list calls

end BoundedList

namespace PackedArray

variable {layout : Layout} {array : PackedArray layout} {list : BoundedList}

/-- An array shows what the bounded list shows that it represents. -/
theorem Represents.shown_eq (shows : array.Represents list.bound list.entries) :
    array.shown = list.shown := by
  rw [shown, BoundedList.shown, shows.length_eq, width, shows.maxValue_eq, shows.values_eq]

/-- A read answers as the bounded list does. -/
theorem Represents.call_get
    (shows : array.Represents list.bound list.entries)
    (index : Number) :
    (array.call (.get index)).2 = (list.call (.get index)).2 ∧
      (array.call (.get index)).1.Represents
        (list.call (.get index)).1.bound (list.call (.get index)).1.entries := by
  rcases index.inside_or_outside list.entries.length with ⟨place, denoted, inside⟩ | outside
  · simp only [call, BoundedList.call, Number.below?_of_lt denoted inside,
      shows.get_of_lt denoted inside]
    exact ⟨rfl, shows⟩
  · simp only [call, BoundedList.call, Number.below?_of_outside outside,
      shows.get_of_outside outside]
    exact ⟨rfl, shows⟩

/-- A write answers and changes one value as the bounded list does. -/
theorem Represents.call_set
    (shows : array.Represents list.bound list.entries)
    (index value : Number) :
    (array.call (.set index value)).2 = (list.call (.set index value)).2 ∧
      (array.call (.set index value)).1.Represents
        (list.call (.set index value)).1.bound (list.call (.set index value)).1.entries := by
  rcases index.inside_or_outside list.entries.length with ⟨place, denoted, inside⟩ | outside
  · cases denotedValue : value.toNat? with
    | none =>
        have refused : checkValue value list.bound = .error (.notNatural value) := by
          simp [checkValue, denotedValue]
        simp only [call, BoundedList.call, Number.below?_of_lt denoted inside, denotedValue,
          shows.set_of_refused denoted inside refused]
        exact ⟨trivial, shows⟩
    | some natural =>
        by_cases within : natural ≤ list.bound
        · obtain ⟨written, wrote, showsWritten⟩ :=
            shows.set_of_le denoted inside denotedValue within
          simp only [call, BoundedList.call, Number.below?_of_lt denoted inside, denotedValue,
            wrote, if_pos within]
          exact ⟨trivial, showsWritten⟩
        · have refused :
              checkValue value list.bound = .error (.exceedsMaxValue value list.bound) := by
            simp [checkValue, denotedValue, within]
          simp only [call, BoundedList.call, Number.below?_of_lt denoted inside, denotedValue,
            if_neg within, shows.set_of_refused denoted inside refused]
          exact ⟨trivial, shows⟩
  · simp only [call, BoundedList.call, Number.below?_of_outside outside,
      shows.set_of_outside outside value]
    exact ⟨trivial, shows⟩

/-- A larger bound is taken or refused as by the bounded list, and no value changes. -/
theorem Represents.call_widen
    (shows : array.Represents list.bound list.entries)
    (maxValue : Number) :
    (array.call (.widen maxValue)).2 = (list.call (.widen maxValue)).2 ∧
      (array.call (.widen maxValue)).1.Represents
        (list.call (.widen maxValue)).1.bound (list.call (.widen maxValue)).1.entries := by
  cases natural : maxValue.toNat? with
  | none =>
      have refused : array.widen maxValue = (array, .error (.invalidMaxValue maxValue)) :=
        widen_of_outside fun wanted denoted => by
          rw [natural] at denoted
          cases denoted
      simp only [call, BoundedList.call, natural, refused]
      exact ⟨rfl, shows⟩
  | some wanted =>
      by_cases admissible : wanted ≤ maxCellValue
      · obtain ⟨widened, raised, showsWidened⟩ := shows.widen_of_le natural admissible
        simp only [call, BoundedList.call, natural, if_pos admissible, raised]
        exact ⟨rfl, showsWidened⟩
      · have refused : array.widen maxValue = (array, .error (.invalidMaxValue maxValue)) :=
          widen_of_outside fun other denoted => by
            rw [natural] at denoted
            cases denoted
            exact Nat.lt_of_not_le admissible
        simp only [call, BoundedList.call, natural, if_neg admissible, refused]
        exact ⟨rfl, shows⟩

/-- Every call answers as the bounded list does, and the array still represents it afterwards. -/
theorem Represents.call_refines
    (shows : array.Represents list.bound list.entries)
    (next : ArrayCall) :
    (array.call next).2 = (list.call next).2 ∧
      (array.call next).1.Represents (list.call next).1.bound (list.call next).1.entries := by
  cases next with
  | get index => exact shows.call_get index
  | set index value => exact shows.call_set index value
  | widen maxValue => exact shows.call_widen maxValue

/-- No row of calls tells an array from the bounded list that it represents. -/
theorem Represents.trace_eq
    (shows : array.Represents list.bound list.entries)
    (calls : List ArrayCall) :
    array.trace calls = list.trace calls := by
  induction calls generalizing array list with
  | nil => rfl
  | cons first rest inductionHypothesis =>
      obtain ⟨sameAnswer, showsNext⟩ := shows.call_refines first
      have sameShown := showsNext.shown_eq
      have sameRest := inductionHypothesis showsNext
      simp only [trace, BoundedList.trace, traceOf] at sameRest ⊢
      rw [sameAnswer, sameShown, sameRest]

/--
Arrays of the two layouts with the same admissible size and bound answer every
row of calls alike, and both show after every call what a bounded list of
zeros shows.
-/
theorem trace_eq_of_make
    {size maxValue : Number}
    {padded : PackedArray .padded}
    {contiguous : PackedArray .contiguous}
    (paddedMade : make .padded size maxValue = .ok padded)
    (contiguousMade : make .contiguous size maxValue = .ok contiguous)
    (calls : List ArrayCall) :
    ∃ count bound, size.toNat? = some count ∧ maxValue.toNat? = some bound ∧
      padded.shown = (BoundedList.zeros count bound).shown ∧
      contiguous.shown = (BoundedList.zeros count bound).shown ∧
      padded.trace calls = (BoundedList.zeros count bound).trace calls ∧
      contiguous.trace calls = (BoundedList.zeros count bound).trace calls := by
  obtain ⟨count, bound, safe, denoted, admissible, -, rfl⟩ := make_eq_ok_iff.1 paddedMade
  obtain ⟨otherCount, otherBound, otherSafe, otherDenoted, -, -, rfl⟩ :=
    make_eq_ok_iff.1 contiguousMade
  have sameCount : otherCount = count := Option.some.inj (otherSafe.symm.trans safe)
  have sameBound : otherBound = bound := Option.some.inj (otherDenoted.symm.trans denoted)
  subst sameCount sameBound
  have paddedShows :
      (zeros .padded otherCount otherBound).Represents
        (BoundedList.zeros otherCount otherBound).bound
        (BoundedList.zeros otherCount otherBound).entries :=
    represents_zeros .padded otherCount admissible
  have contiguousShows :
      (zeros .contiguous otherCount otherBound).Represents
        (BoundedList.zeros otherCount otherBound).bound
        (BoundedList.zeros otherCount otherBound).entries :=
    represents_zeros .contiguous otherCount admissible
  exact ⟨otherCount, otherBound, Number.toNat?_of_toSafeNat? safe, denoted,
    paddedShows.shown_eq, contiguousShows.shown_eq,
    paddedShows.trace_eq calls, contiguousShows.trace_eq calls⟩

/-- Two arrays of three cells up to 20, through a refused write, a widening and a refused read. -/
theorem trace_eq_of_make_three :
    make .padded 3 20 = .ok (zeros .padded 3 20) ∧
      make .contiguous 3 20 = .ok (zeros .contiguous 3 20) ∧
      ∃ count bound, (3 : Number).toNat? = some count ∧ (20 : Number).toNat? = some bound ∧
        (zeros .padded 3 20).shown = (BoundedList.zeros count bound).shown ∧
        (zeros .contiguous 3 20).shown = (BoundedList.zeros count bound).shown ∧
        (zeros .padded 3 20).trace
            [.set 1 20, .set 0 21, .widen 1000, .set 2 21, .get .nan, .get 1] =
          (BoundedList.zeros count bound).trace
            [.set 1 20, .set 0 21, .widen 1000, .set 2 21, .get .nan, .get 1] ∧
        (zeros .contiguous 3 20).trace
            [.set 1 20, .set 0 21, .widen 1000, .set 2 21, .get .nan, .get 1] =
          (BoundedList.zeros count bound).trace
            [.set 1 20, .set 0 21, .widen 1000, .set 2 21, .get .nan, .get 1] :=
  ⟨rfl, rfl, trace_eq_of_make rfl rfl _⟩

end PackedArray

end BlockVolume
