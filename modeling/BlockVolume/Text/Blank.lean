namespace BlockVolume

/-!
# Blanks and line ends

The vars file format counts as blank the spaces and line ends of Unicode and
the byte order mark, but not `U+0085`. Four of the blanks end a line.
-/

/-- Whether a character is blank. -/
def isBlank (character : Char) : Bool :=
  let code := character.toNat
  (0x09 ≤ code && code ≤ 0x0D)
    || code == 0x20
    || code == 0xA0
    || code == 0x1680
    || (0x2000 ≤ code && code ≤ 0x200A)
    || code == 0x2028
    || code == 0x2029
    || code == 0x202F
    || code == 0x205F
    || code == 0x3000
    || code == 0xFEFF

/-- Whether a character ends a line. -/
def isLineEnd (character : Char) : Bool :=
  character == '\n'
    || character == '\r'
    || character == '\u2028'
    || character == '\u2029'

/-- A text without the blanks at both ends. -/
def trimBlanks (characters : List Char) : List Char :=
  ((characters.dropWhile isBlank).reverse.dropWhile isBlank).reverse

/-- A line end is blank. -/
theorem isBlank_of_isLineEnd
    {character : Char}
    (lineEnd : isLineEnd character = true) :
    isBlank character = true := by
  simp only [isLineEnd, Bool.or_eq_true, beq_iff_eq] at lineEnd
  rcases lineEnd with ((rfl | rfl) | rfl) | rfl <;> rfl

end BlockVolume
