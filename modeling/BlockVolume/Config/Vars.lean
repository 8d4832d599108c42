import BlockVolume.Config.Grammar
import BlockVolume.Text.Fields

namespace BlockVolume

/-!
# Variables of a vars file

The written form of a value is trimmed and loses the quotes around it. Inside
double quotes `\n` and `\r` stand for the line ends that they name.
-/

namespace Vars

/-- Line ends of two characters, and single returns, become newlines. -/
def unifyLineEnds : List Char → List Char
  | [] => []
  | ['\r'] => ['\n']
  | '\r' :: '\n' :: rest => '\n' :: unifyLineEnds rest
  | '\r' :: other :: rest => '\n' :: unifyLineEnds (other :: rest)
  | character :: rest => character :: unifyLineEnds rest

/-- Whether a character opens a quoted value. -/
def isQuote (character : Char) : Bool :=
  character == '\'' || character == '"' || character == '\x60'

/-- The text up to the last quote that ends a line, and what follows that quote. -/
def lastClosing (quote : Char) : List Char → Option (List Char × List Char)
  | [] => none
  | character :: rest =>
      match lastClosing quote rest with
      | some (inner, after) => some (character :: inner, after)
      | none =>
          if character = quote ∧ rest.head?.all isLineEnd then some ([], rest) else none

/-- The text without the quotes around what stands between the start and the end of lines. -/
def unquote (lineStart : Bool) (input : List Char) : List Char :=
  match input with
  | [] => []
  | character :: rest =>
      match if lineStart && isQuote character then lastClosing character rest else none with
      | some (inner, after) =>
          if _shorter : after.length < rest.length + 1 then
            inner ++ unquote false after
          else
            inner
      | none => character :: unquote (isLineEnd character) rest
termination_by input.length

/-- Replaces a backslash and a letter by one character. -/
def expandEscape (letter replacement : Char) : List Char → List Char
  | [] => []
  | [character] => [character]
  | character :: following :: rest =>
      if character = '\\' ∧ following = letter then
        replacement :: expandEscape letter replacement rest
      else
        character :: expandEscape letter replacement (following :: rest)

/-- The value that a written form stands for. -/
def valueOf (written : List Char) : List Char :=
  let trimmed := trimBlanks written
  let unquoted := unquote true trimmed
  if trimmed.head? = some '"' then
    expandEscape 'r' '\r' (expandEscape 'n' '\n' unquoted)
  else
    unquoted

/-- The variables that a vars file assigns. -/
def parse (text : String) : Fields String :=
  let found := Grammar.assignments true (unifyLineEnds text.toList)
  found.foldl
    (fun fields assignment =>
      fields.assign
        (String.ofList assignment.name)
        (String.ofList (valueOf assignment.written)))
    []

end Vars

end BlockVolume
