import BlockVolume.Number.Decimal

namespace BlockVolume

/-!
# Reports of failures

Every operation fails for a cause of its own domain. What a caller sees of a
cause is a `Failure`: the kind it may be caught as, a message, and for the two
kinds that carry one the offending index or value.
-/

/-- The kinds of failure that callers tell apart. -/
inductive FailureKind where
  | general
  | range
  | index
  | value
  | palette
  deriving Repr, DecidableEq

/-- An index that was refused: a number, or a label that names a coordinate. -/
inductive RefusedIndex where
  | number (refused : Number)
  | label (refused : String)
  deriving Repr, DecidableEq

namespace RefusedIndex

/-- The index as messages show it. -/
def text : RefusedIndex → String
  | .number refused => refused.text
  | .label refused => refused

end RefusedIndex

/-- What a caller sees of a failure. -/
structure Failure where
  kind : FailureKind
  message : String
  index : Option RefusedIndex
  value : Option Number
  deriving Repr, DecidableEq

namespace Failure

/-- A failure without details. -/
def plain (kind : FailureKind) (message : String) : Failure :=
  { kind, message, index := none, value := none }

/-- An index outside the bounds that are named. -/
def outOfBounds (index : RefusedIndex) (bounds : String) : Failure :=
  { kind := .index
    message := s!"Index {index.text} out of bounds ({bounds})"
    index := some index
    value := none }

/-- A value that cannot be represented, for the reason that is named. -/
def invalidValue (value : Number) (reason : String) : Failure :=
  { kind := .value
    message := s!"Invalid value {value.text}: {reason}"
    index := none
    value := some value }

end Failure

/-- Raises a failure: a plain message, or one that is caught as a range failure. -/
def fail (message : String) (asRange : Bool) : Except Failure Unit :=
  .error (.plain (if asRange then .range else .general) message)

end BlockVolume
