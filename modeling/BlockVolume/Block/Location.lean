import BlockVolume.Failure

namespace BlockVolume

/-!
# Names of blocks

A block is named by a location such as `minecraft:stone`: a space and a path
with a colon between them. Neither part is empty, both consist of lower-case
letters, digits, dots, underscores and hyphens, and a path may hold slashes
too. A text without a colon names a path in the default space.
-/

/-- Why a block name, its properties or their tagged form are refused. -/
inductive BlockError where
  | invalidSpace (space : String)
  | invalidPath (path : String)
  | invalidLocation (text : String)
  | propertyNotText (property location : String)
  | tagNotText (name kind : String)
  deriving Repr, DecidableEq

namespace BlockError

/-- The message of a refusal. -/
def message : BlockError → String
  | .invalidSpace space => s!"Invalid namespace: \"{space}\""
  | .invalidPath path => s!"Invalid path: \"{path}\""
  | .invalidLocation text => s!"Invalid resource location: \"{text}\""
  | .propertyNotText property location =>
      s!"Property \"{property}\" of {location} is not a string"
  | .tagNotText name kind => s!"Block property \"{name}\" is {kind}, expected string"

/-- A refusal as its caller sees it. -/
def failure (error : BlockError) : Failure :=
  .plain .general error.message

end BlockError

namespace Location

/-- The space of names that give none. -/
def defaultSpace : String := "minecraft"

/-- Whether a character may stand in a space. -/
def isSpaceChar (character : Char) : Bool :=
  character.isLower || character.isDigit
    || character == '.' || character == '_' || character == '-'

/-- Whether a character may stand in a path. -/
def isPathChar (character : Char) : Bool :=
  isSpaceChar character || character == '/'

/-- Whether a text may be a space. -/
def isSpace (text : String) : Bool :=
  !text.toList.isEmpty && text.toList.all isSpaceChar

/-- Whether a text may be a path. -/
def isPath (text : String) : Bool :=
  !text.toList.isEmpty && text.toList.all isPathChar

end Location

/-- The name of a block. -/
structure Location where
  space : String
  path : String
  space_valid : Location.isSpace space = true
  path_valid : Location.isPath path = true
  deriving Repr, DecidableEq

namespace Location

/-- The location of a space and a path, the space being checked first. -/
def make (space path : String) : Except BlockError Location :=
  if spaceValid : isSpace space = true then
    if pathValid : isPath path = true then
      .ok ⟨space, path, spaceValid, pathValid⟩
    else
      .error (.invalidPath path)
  else
    .error (.invalidSpace space)

/-- The location with its colon. -/
def text (location : Location) : String :=
  location.space ++ ":" ++ location.path

/-- The location that a text names, and nothing for a text with two colons or more. -/
def ofText? (text : String) : Except BlockError (Option Location) :=
  let characters := text.toList
  match characters.dropWhile (· != ':') with
  | [] => (make defaultSpace text).map some
  | _ :: rest =>
      if rest.contains ':' then
        .ok none
      else
        let space := characters.takeWhile (· != ':')
        (make (String.ofList space) (String.ofList rest)).map some

/-- The location that a text names. -/
def parse (text : String) : Except BlockError Location :=
  match ofText? text with
  | .ok (some location) => .ok location
  | .ok none => .error (.invalidLocation text)
  | .error refusal => .error refusal

/-- Whether two locations have the same parts. -/
def same (left right : Location) : Bool :=
  left.space == right.space && left.path == right.path

/-- A colon stands in no path, so it stands in no space either. -/
theorem not_isPathChar_colon : isPathChar ':' = false := by
  decide

/-- Two valid parts make a location of these parts. -/
theorem make_eq_ok
    {space path : String}
    (spaceValid : isSpace space = true)
    (pathValid : isPath path = true) :
    make space path = .ok ⟨space, path, spaceValid, pathValid⟩ := by
  simp [make, spaceValid, pathValid]

end Location

end BlockVolume
