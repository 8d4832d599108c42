namespace BlockVolume

/-!
# Order by 16-bit units

Property names are sorted by the 16-bit units of their text. A character
outside the first plane counts as a high and a low surrogate, so it sorts
before the characters from `U+E000` to `U+FFFF`, against the order of code
points.
-/

namespace Units

/-- The units of one character. -/
def ofChar (character : Char) : List Nat :=
  let code := character.toNat
  if code < 0x10000 then
    [code]
  else
    [0xD800 + (code - 0x10000) / 0x400, 0xDC00 + (code - 0x10000) % 0x400]

/-- The units of a text, in order. -/
def ofText (text : String) : List Nat :=
  text.toList.flatMap ofChar

/-- Whether one row of units comes no later than another, by the first unit that differs. -/
def rowLe : List Nat → List Nat → Bool
  | [], _ => true
  | _ :: _, [] => false
  | left :: leftRest, right :: rightRest =>
      if left < right then
        true
      else if right < left then
        false
      else
        rowLe leftRest rightRest

/-- Whether `left` sorts no later than `right`. -/
def le (left right : String) : Bool :=
  rowLe (ofText left) (ofText right)

/-- The order of rows is transitive. -/
theorem rowLe_trans
    {first second third : List Nat}
    (firstSecond : rowLe first second = true)
    (secondThird : rowLe second third = true) :
    rowLe first third = true := by
  induction first generalizing second third with
  | nil => simp [rowLe]
  | cons unit firstRest inductionHypothesis =>
      cases second with
      | nil => simp [rowLe] at firstSecond
      | cons secondUnit secondRest =>
          cases third with
          | nil => simp [rowLe] at secondThird
          | cons thirdUnit thirdRest =>
              simp only [rowLe] at *
              grind

/-- Any two rows are comparable. -/
theorem rowLe_total
    (left right : List Nat) :
    rowLe left right = true ∨ rowLe right left = true := by
  induction left generalizing right with
  | nil => simp [rowLe]
  | cons left leftRest inductionHypothesis =>
      cases right with
      | nil => simp [rowLe]
      | cons right rightRest =>
          have rest := inductionHypothesis rightRest
          simp only [rowLe]
          grind

/-- The units of a character are never empty. -/
theorem ofChar_ne_nil (character : Char) : ofChar character ≠ [] := by
  unfold ofChar
  simp only
  split <;> simp

end Units

end BlockVolume
