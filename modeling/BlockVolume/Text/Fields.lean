namespace BlockVolume

/-!
# Named fields

A table of named values, each name at most once. Naming a field again
replaces its value and keeps its place. A listing shows the fields whose name
is an index first, in ascending order, and then the others in the order in
which they came.
-/

/-- Named values in the order in which their names came. -/
abbrev Fields (Value : Type) := List (String × Value)

namespace Fields

variable {Value : Type}

/-- Gives a field a value, in its old place if the name is known and at the end otherwise. -/
def insert
    (fields : Fields Value)
    (name : String)
    (value : Value) :
    Fields Value :=
  match fields with
  | [] => [(name, value)]
  | (known, old) :: rest =>
      if known = name then
        (known, value) :: rest
      else
        (known, old) :: insert rest name value

/-- A name that stands for no field where fields are assigned one by one. -/
def reservedName : String := "__proto__"

/-- Gives a field a value as `insert` does, except that the reserved name has no effect. -/
def assign
    (fields : Fields Value)
    (name : String)
    (value : Value) :
    Fields Value :=
  if name = reservedName then fields else fields.insert name value

/-- The table that results from naming the fields one after another. -/
def ofPairs (pairs : List (String × Value)) : Fields Value :=
  pairs.foldl (fun fields pair => fields.insert pair.1 pair.2) []

/-- The value of a field. -/
def value? (fields : Fields Value) (name : String) : Option Value :=
  (List.find? (fun field => field.1 == name) fields).map (·.2)

/-- Adds the fields of `upper`, which win over those of the same name. -/
def overlay (fields upper : Fields Value) : Fields Value :=
  upper.foldl (fun merged pair => merged.insert pair.1 pair.2) fields

/-- The largest name that counts as an index. -/
def maxIndex : Nat := 4294967294

/-- The index that a name spells in decimal digits without needless zeros. -/
def index? (name : String) : Option Nat :=
  let digits := name.toList
  if digits.isEmpty || !digits.all Char.isDigit || 10 < digits.length then
    none
  else
    let index := digits.foldl (fun value digit => value * 10 + (digit.toNat - 48)) 0
    if index ≤ maxIndex && Nat.toDigits 10 index == digits then some index else none

/-- The fields whose name is an index, in ascending order. -/
def indexed (fields : Fields Value) : Fields Value :=
  let withIndex := fields.filterMap fun field => (index? field.1).map fun index => (index, field)
  (withIndex.mergeSort fun left right => decide (left.1 ≤ right.1)).map (·.2)

/-- The fields whose name is no index, in the order in which they came. -/
def unindexed (fields : Fields Value) : Fields Value :=
  fields.filter fun field => (index? field.1).isNone

/-- The fields in the order in which they are shown. -/
def listing (fields : Fields Value) : Fields Value :=
  fields.indexed ++ fields.unindexed

/-- Naming a field sets its value and leaves every other field as it was. -/
theorem value?_insert
    (fields : Fields Value)
    (name other : String)
    (value : Value) :
    (fields.insert name value).value? other =
      if name = other then some value else fields.value? other := by
  induction fields with
  | nil =>
      by_cases same : name = other <;> simp [insert, value?, same]
  | cons field rest inductionHypothesis =>
      simp only [value?] at inductionHypothesis
      by_cases known : field.1 = name
      · by_cases same : name = other <;> simp [insert, value?, known, same]
      · by_cases here : field.1 = other
        · have different : ¬ name = other := fun equal => known (here.trans equal.symm)
          rw [insert, if_neg known]
          simp [value?, here, different]
        · simpa [insert, value?, known, here] using inductionHypothesis

end Fields

end BlockVolume
