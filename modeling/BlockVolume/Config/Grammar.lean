import BlockVolume.Text.Blank

namespace BlockVolume

/-!
# Grammar of vars files

A vars file assigns texts to names, one assignment at the start of a line:

* blanks, which may reach over line ends, and optionally the word `export`;
* a name of letters, digits, underscores, dots and hyphens;
* an equals sign with blanks before it, or a colon with a blank after it;
* optionally a value: a text in single, double or back quotes, in which a
  backslash keeps a quote from closing it, or the rest of the line up to `#`;
* optionally a comment from `#` on, and then the end of the line.

Where a line can be read in more ways than one, each part in turn takes the
first reading that lets the rest succeed, longer ones before shorter ones. So
every part below is given what comes next, and tries its readings in order.
-/

namespace Grammar

variable {Result : Type}

/-- What comes after a part: a reading of the remaining characters, if there is one. -/
abbrev Next (Result : Type) := List Char → Option Result

/-- The first of two readings that succeeds. -/
def orElse
    (first : Option Result)
    (second : Unit → Option Result) :
    Option Result :=
  match first with
  | some result => some result
  | none => second ()

/-- As many accepted characters as possible. -/
def many
    (accepts : Char → Bool)
    (next : Next Result) :
    Next Result
  | [] => next []
  | character :: rest =>
      if accepts character then
        orElse (many accepts next rest) fun _ => next (character :: rest)
      else
        next (character :: rest)

/-- As few accepted characters as possible. -/
def few
    (accepts : Char → Bool)
    (next : Next Result) :
    Next Result
  | [] => next []
  | character :: rest =>
      orElse (next (character :: rest)) fun _ =>
        if accepts character then few accepts next rest else none

/-- One accepted character. -/
def one
    (accepts : Char → Bool)
    (next : Next Result) :
    Next Result
  | [] => none
  | character :: rest => if accepts character then next rest else none

/-- A fixed word. -/
def word
    (expected : List Char)
    (next : Next Result) :
    Next Result :=
  fun input => if expected.isPrefixOf input then next (input.drop expected.length) else none

/-- A part that may be missing, but is read if that lets the rest succeed. -/
def optionally
    (part : Next Result → Next Result)
    (next : Next Result) :
    Next Result :=
  fun input => orElse (part next input) fun _ => next input

/-- The text behind an opening quote and the quote that closes it. -/
def quotedBody
    (quote : Char)
    (next : Next Result) :
    Next Result
  | [] => none
  | [character] => if character = quote then next [] else none
  | character :: following :: rest =>
      if character = quote then
        next (following :: rest)
      else if character = '\\' ∧ following = quote then
        orElse (quotedBody quote next rest) fun _ => next rest
      else
        quotedBody quote next (following :: rest)

/-- A quoted text with blanks before it. -/
def quoted
    (quote : Char)
    (next : Next Result) :
    Next Result :=
  many isBlank (one (· == quote) (quotedBody quote next))

/-- Whether a character may stand in a name. -/
def isNameChar (character : Char) : Bool :=
  character.isAlphanum || character == '_' || character == '.' || character == '-'

/-- Whether a character may stand in a value without quotes. -/
def isPlainChar (character : Char) : Bool :=
  character != '#' && character != '\r' && character != '\n'

/-- A value, with the characters that it is written with. -/
def value (next : List Char → Next Result) : Next Result :=
  fun input =>
    let written := fun rest => next (input.take (input.length - rest.length)) rest
    orElse (quoted '\'' written input) fun _ =>
      orElse (quoted '"' written input) fun _ =>
        orElse (quoted '\x60' written input) fun _ =>
          orElse (one isPlainChar (many isPlainChar written) input) fun _ =>
            next [] input

/-- The end of a line or of the file, which is not consumed. -/
def lineEnd (next : Next Result) : Next Result
  | [] => next []
  | character :: rest => if isLineEnd character then next (character :: rest) else none

/-- A comment up to the end of the line. -/
def comment (next : Next Result) : Next Result :=
  one (· == '#') (many (!isLineEnd ·) next)

/-- What may follow a value on its line. -/
def lineRest (next : Next Result) : Next Result :=
  many isBlank (optionally comment (lineEnd next))

/-- The sign between a name and its value. -/
def assignmentSign (next : Next Result) : Next Result :=
  fun input =>
    orElse (many isBlank (one (· == '=') (few isBlank next)) input) fun _ =>
      one (· == ':') (one isBlank (few isBlank next)) input

/-- The word `export` and the blanks behind it. -/
def exportWord (next : Next Result) : Next Result :=
  word "export".toList (one isBlank (many isBlank next))

/-- An assignment as it is written. -/
structure Assignment where
  name : List Char
  written : List Char
  deriving Repr, DecidableEq

/-- An assignment and what remains behind it. -/
def assignment : Next (Assignment × List Char) :=
  many isBlank <| optionally exportWord fun input =>
    let named := fun rest =>
      let name := input.take (input.length - rest.length)
      assignmentSign
        (value fun written => lineRest fun remaining => some ({ name, written }, remaining))
        rest
    one isNameChar (many isNameChar named) input

/-- Whether a line starts behind characters. -/
def endsLine (characters : List Char) : Bool :=
  characters.getLast?.all isLineEnd

/-- The assignments of a text, where `lineStart` tells whether a line starts here. -/
def assignments (lineStart : Bool) (input : List Char) : List Assignment :=
  match input with
  | [] => []
  | character :: rest =>
      match if lineStart then assignment (character :: rest) else none with
      | some (found, remaining) =>
          if shorter : remaining.length < rest.length + 1 then
            let consumed := (character :: rest).take (rest.length + 1 - remaining.length)
            found :: assignments (endsLine consumed) remaining
          else
            [found]
      | none => assignments (isLineEnd character) rest
termination_by input.length

end Grammar

end BlockVolume
