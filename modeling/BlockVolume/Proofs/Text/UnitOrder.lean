import BlockVolume.Proofs.Text.PrefixFree
import BlockVolume.Text.Units

namespace BlockVolume

/-!
# Texts and their units

No two texts have the same row of 16-bit units, since surrogates stand for no
character by themselves. The order of texts by their units is therefore a
linear one: texts that sort no later than each other are the same.
-/

namespace Units

/-- The code of a character is no surrogate. -/
theorem not_surrogate (character : Char) :
    character.toNat < 0xD800 ∨ 0xDFFF < character.toNat ∧ character.toNat < 0x110000 :=
  character.valid

/-- The end of the units of a character shows. -/
theorem prefixFree_ofChar : PrefixFree ofChar := by
  intro first second afterFirst afterSecond sameUnits
  have firstCode := not_surrogate first
  have secondCode := not_surrogate second
  have sameCode : first.toNat = second.toNat ∧ afterFirst = afterSecond := by
    simp only [ofChar] at sameUnits
    -- One unit against two: the high surrogate would be the code of a character.
    split at sameUnits <;> split at sameUnits
    · simpa using sameUnits
    · simp only [List.cons_append, List.cons.injEq] at sameUnits
      omega
    · simp only [List.cons_append, List.cons.injEq] at sameUnits
      omega
    · simp only [List.cons_append, List.nil_append, List.cons.injEq] at sameUnits
      obtain ⟨sameHigh, sameLow, sameAfter⟩ := sameUnits
      exact ⟨by omega, sameAfter⟩
  exact ⟨Char.toNat_inj.1 sameCode.1, sameCode.2⟩

/-- The units determine the text. -/
theorem ofText_injective
    {left right : String}
    (sameUnits : ofText left = ofText right) :
    left = right :=
  String.toList_injective (prefixFree_ofChar.flatMap_injective ofChar_ne_nil sameUnits)

/-- Rows that come no later than each other are the same. -/
theorem rowLe_antisymm
    {left right : List Nat}
    (leftFirst : rowLe left right = true)
    (rightFirst : rowLe right left = true) :
    left = right := by
  induction left generalizing right with
  | nil =>
      cases right with
      | nil => rfl
      | cons unit rest => cases rightFirst
  | cons unit rest inductionHypothesis =>
      cases right with
      | nil => cases leftFirst
      | cons other otherRest =>
          simp only [rowLe] at leftFirst rightFirst
          rcases Nat.lt_trichotomy unit other with below | rfl | above
          · simp [below, Nat.lt_asymm below] at rightFirst
          · simp only [Nat.lt_irrefl, if_false] at leftFirst rightFirst
            rw [inductionHypothesis leftFirst rightFirst]
          · simp [above, Nat.lt_asymm above] at leftFirst

theorem le_trans
    {first second third : String}
    (firstSecond : le first second = true)
    (secondThird : le second third = true) :
    le first third = true :=
  rowLe_trans firstSecond secondThird

theorem le_total (left right : String) : le left right = true ∨ le right left = true :=
  rowLe_total _ _

/-- Texts that sort no later than each other are the same. -/
theorem le_antisymm
    {left right : String}
    (leftFirst : le left right = true)
    (rightFirst : le right left = true) :
    left = right :=
  ofText_injective (rowLe_antisymm leftFirst rightFirst)

end Units

end BlockVolume
