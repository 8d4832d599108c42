namespace BlockVolume

/-!
# Log entries

Warnings are always logged, other messages only while debug logging is on. An
entry shows its tag in brackets and its messages separated by blanks.
-/

/-- How important an entry is. -/
inductive LogLevel where
  | log
  | warn
  deriving Repr, DecidableEq

namespace LogLevel

/-- The word for a level. -/
def name : LogLevel → String
  | .log => "log"
  | .warn => "warn"

end LogLevel

/-- An entry of the log. -/
structure LogEntry where
  level : LogLevel
  text : String
  deriving Repr, DecidableEq

namespace LogEntry

/-- The text of a tag and messages. -/
def render (tag : String) (messages : List String) : String :=
  " ".intercalate (s!"[{tag}]" :: messages)

/-- A warning. -/
def warning (tag : String) (messages : List String) : LogEntry :=
  { level := .warn, text := render tag messages }

/-- A debug message, which is dropped while debug logging is off. -/
def debug? (enabled : Bool) (tag : String) (messages : List String) : Option LogEntry :=
  if enabled then some { level := .log, text := render tag messages } else none

end LogEntry

end BlockVolume
