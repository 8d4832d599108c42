namespace BlockVolume

/-!
# Rows of kept things

What a row holds in a place after something was put behind it or in one of its places.
-/

variable {Kept : Type} {row : Array Kept} {index : Nat}

/-- What was kept last is found behind everything else. -/
theorem getD_push_self (row : Array Kept) (new fallback : Kept) :
    (row.push new).getD row.size fallback = new := by
  simp

theorem getD_push_of_lt
    (inside : index < row.size)
    (new fallback : Kept) :
    (row.push new).getD index fallback = row.getD index fallback := by
  rw [Array.getD_eq_getD_getElem?, Array.getD_eq_getD_getElem?, Array.getElem?_push_lt inside,
    Array.getElem?_eq_getElem inside]

/-- What was replaced is found in its place. -/
theorem getD_setIfInBounds_self
    (inside : index < row.size)
    (new fallback : Kept) :
    (row.setIfInBounds index new).getD index fallback = new := by
  simp [inside]

theorem getD_setIfInBounds_of_ne
    {other : Nat}
    (different : index ≠ other)
    (new fallback : Kept) :
    (row.setIfInBounds index new).getD other fallback = row.getD other fallback := by
  rw [Array.getD_eq_getD_getElem?, Array.getD_eq_getD_getElem?,
    Array.getElem?_setIfInBounds_ne different]

/-- Replacing a kept thing by itself changes nothing. -/
theorem setIfInBounds_getD_self (row : Array Kept) (index : Nat) (fallback : Kept) :
    row.setIfInBounds index (row.getD index fallback) = row := by
  by_cases inside : index < row.size
  · rw [Array.setIfInBounds_def, dif_pos inside, Array.getD_eq_getD_getElem?,
      Array.getElem?_eq_getElem inside]
    exact Array.set_getElem_self inside
  · rw [Array.setIfInBounds_def, dif_neg inside]

end BlockVolume
