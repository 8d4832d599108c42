import BlockVolume.Chunk
import BlockVolume.Config.Vars
import BlockVolume.Log

namespace BlockVolume

/-!
# Configuration

Three variables configure new chunks: the default state, the data version and
whether debug messages are logged. Other variables with the same beginning are
reported by a warning. A variable that is absent, or present without a value,
takes its default.
-/

/-- What new chunks are made with. -/
structure Config where
  defaultState : BlockState
  dataVersion : Number
  debug : Bool
  deriving Repr, DecidableEq

/-- Why variables are refused. -/
inductive ConfigError where
  | block (cause : BlockError)
  | invalidDataVersion (text : String)
  | invalidDebug (text : String)
  | directory
  deriving Repr, DecidableEq

/-- What is found where the vars file should be. -/
inductive VarsFile where
  | missing
  | directory
  | text (content : String)
  deriving Repr, DecidableEq

namespace Config

/-- What the names of all variables begin with. -/
def beginning : String := "VOXPACK_"

/-- The variable of the default state. -/
def defaultStateName : String := "VOXPACK_DEFAULT_STATE"

/-- The variable of the data version. -/
def dataVersionName : String := "VOXPACK_DATA_VERSION"

/-- The variable of debug logging. -/
def debugName : String := "VOXPACK_DEBUG"

/-- The variables that are known. -/
def knownNames : List String :=
  [defaultStateName, dataVersionName, debugName]

/-- Variables with values; a variable without one counts as absent. -/
abbrev Variables := Fields (Option String)

/-- The value of a variable, or its default. -/
def valueOr
    (vars : Variables)
    (name : String)
    (default : String) :
    String :=
  (vars.value? name).join.getD default

/-- Whether a variable begins like ours and is not known. -/
def isUnknown (name : String) : Bool :=
  beginning.toList.isPrefixOf name.toList && !knownNames.contains name

/-- The warnings about unknown variables, in the order in which the variables are listed. -/
def warnings (vars : Variables) : List LogEntry :=
  ((Fields.listing vars).filter fun field => isUnknown field.1).map fun field =>
    .warning "CONFIG" [s!"Unknown variable {field.1}"]

/-- The natural that digits spell. -/
def digitsValue (digits : List Char) : Nat :=
  digits.foldl (fun value digit => value * 10 + (digit.toNat - 48)) 0

/-- The data version that digits spell, rounded to the nearest double. -/
def parseDataVersion (text : String) : Except ConfigError Number :=
  let digits := text.toList
  if !digits.isEmpty && digits.all Char.isDigit then
    .ok (.nearest false (digitsValue digits) 1)
  else
    .error (.invalidDataVersion text)

/-- The truth value that a word spells, whatever the case of its letters. -/
def parseDebug (text : String) : Except ConfigError Bool :=
  let word := String.ofList (text.toList.map Char.toLower)
  if ["1", "true", "yes"].contains word then
    .ok true
  else if ["0", "false", "no", ""].contains word then
    .ok false
  else
    .error (.invalidDebug text)

/-- The configuration that variables spell; the data version is checked first. -/
def parse (vars : Variables) : Except ConfigError Config := do
  let dataVersion ← parseDataVersion (valueOr vars dataVersionName "2586")
  let defaultState ←
    (BlockState.parse (valueOr vars defaultStateName "minecraft:air")).mapError .block
  let debug ← parseDebug (valueOr vars debugName "false")
  return { defaultState, dataVersion, debug }

/-- The variables of a vars file, with those of the environment on top. -/
def merge (file : Fields String) (environment : Variables) : Variables :=
  Fields.overlay (file.map fun field => (field.1, some field.2)) environment

/-- The variables to read, unless there is a directory in the place of the vars file. -/
def variablesOf (file : VarsFile) (environment : Variables) : Except ConfigError Variables :=
  match file with
  | .missing => .ok (merge [] environment)
  | .text content => .ok (merge (Vars.parse content) environment)
  | .directory => .error .directory

/-- The options of a new chunk at a location. -/
def chunkOptions (config : Config) (x z : Number) : ChunkOptions :=
  { x, z, dataVersion := config.dataVersion, defaultState := config.defaultState }

end Config

namespace ConfigError

/-- A refusal as its caller sees it. -/
def failure : ConfigError → Failure
  | .block cause => cause.failure
  | .invalidDataVersion text =>
      .plain .general
        s!"{Config.dataVersionName} must be a non-negative integer, got \"{text}\""
  | .invalidDebug text =>
      .plain .general s!"{Config.debugName} must be a boolean, got \"{text}\""
  | .directory =>
      .plain .general "EISDIR: illegal operation on a directory, read"

end ConfigError

end BlockVolume
