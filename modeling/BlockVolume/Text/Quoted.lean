namespace BlockVolume

/-!
# Quoted text

A quoted text stands between double quotes. The quote, the backslash and the
control characters below `U+0020` are escaped, by a letter where there is one
and by four hexadecimal digits otherwise; every other character stands for
itself.
-/

namespace Quoted

/-- The control character's digits behind `\u00`. -/
def hexPair (code : Nat) : List Char :=
  [Nat.digitChar (code / 16), Nat.digitChar (code % 16)]

/-- The written form of one character. -/
def encodeChar (character : Char) : List Char :=
  match character with
  | '"' => ['\\', '"']
  | '\\' => ['\\', '\\']
  | '\x08' => ['\\', 'b']
  | '\x0c' => ['\\', 'f']
  | '\n' => ['\\', 'n']
  | '\r' => ['\\', 'r']
  | '\t' => ['\\', 't']
  | other =>
      if other.toNat < 0x20 then
        '\\' :: 'u' :: '0' :: '0' :: hexPair other.toNat
      else
        [other]

/-- The written form of a text, without the quotes around it. -/
def encodeChars (characters : List Char) : List Char :=
  characters.flatMap encodeChar

/-- The written form of a text. -/
def encode (text : String) : String :=
  "\"" ++ String.ofList (encodeChars text.toList) ++ "\""

/-- A list in brackets. -/
def list (items : List String) : String :=
  "[" ++ ",".intercalate items ++ "]"

end Quoted

end BlockVolume
