namespace BlockVolume

/-!
# Written things with a visible end

A way of writing is prefix-free when a written thing can be told from whatever
follows it. What is written that way, one thing after another and then a mark
that starts none of them, is prefix-free again, so the texts of nested lists
can be taken apart from the outside to the inside.
-/

/-- Written things are told from each other, and from what stands behind them. -/
def PrefixFree {Thing Symbol : Type} (write : Thing → List Symbol) : Prop :=
  ∀ (first second : Thing) (afterFirst afterSecond : List Symbol),
    write first ++ afterFirst = write second ++ afterSecond →
      first = second ∧ afterFirst = afterSecond

namespace PrefixFree

variable {Thing Other Symbol : Type} {write : Thing → List Symbol}
  {writeOther : Other → List Symbol}

/-- Things that are written alike are the same. -/
theorem injective
    (prefixFree : PrefixFree write)
    {first second : Thing}
    (sameText : write first = write second) :
    first = second :=
  (prefixFree first second [] [] (by simpa using sameText)).1

/-- Two things in a row. -/
theorem pair
    (prefixFree : PrefixFree write)
    (otherPrefixFree : PrefixFree writeOther) :
    PrefixFree fun both : Thing × Other => write both.1 ++ writeOther both.2 := by
  rintro ⟨first, firstOther⟩ ⟨second, secondOther⟩ afterFirst afterSecond sameText
  simp only [List.append_assoc] at sameText
  obtain ⟨rfl, sameRest⟩ := prefixFree _ _ _ _ sameText
  obtain ⟨rfl, sameAfter⟩ := otherPrefixFree _ _ _ _ sameRest
  exact ⟨rfl, sameAfter⟩

/-- A thing behind a symbol that is always the same. -/
theorem behind
    (prefixFree : PrefixFree write)
    (opening : Symbol) :
    PrefixFree fun thing => opening :: write thing := by
  intro first second afterFirst afterSecond sameText
  simp only [List.cons_append, List.cons.injEq, true_and] at sameText
  exact prefixFree _ _ _ _ sameText

/-- A thing before a symbol that is always the same. -/
theorem before
    (prefixFree : PrefixFree write)
    (closing : Symbol) :
    PrefixFree fun thing => write thing ++ [closing] := by
  intro first second afterFirst afterSecond sameText
  simp only [List.append_assoc] at sameText
  obtain ⟨rfl, sameRest⟩ := prefixFree _ _ _ _ sameText
  exact ⟨rfl, List.append_cancel_left sameRest⟩

/-- Things with another shape, which determine what is written. -/
theorem comap
    (prefixFree : PrefixFree write)
    {shape : Other → Thing}
    (determines : ∀ first second, shape first = shape second → first = second) :
    PrefixFree fun other => write (shape other) := by
  intro first second afterFirst afterSecond sameText
  obtain ⟨sameShape, sameAfter⟩ := prefixFree _ _ _ _ sameText
  exact ⟨determines _ _ sameShape, sameAfter⟩

/-- A row of things up to a closing mark that starts none of them. -/
theorem row
    (prefixFree : PrefixFree write)
    {mark : Symbol}
    (apart : ∀ thing, ∃ symbol rest, write thing = symbol :: rest ∧ symbol ≠ mark) :
    PrefixFree fun things : List Thing => things.flatMap write ++ [mark] := by
  intro things
  induction things with
  | nil =>
      intro others afterFirst afterSecond sameText
      cases others with
      | nil => exact ⟨rfl, by simpa using sameText⟩
      | cons other rest =>
          obtain ⟨symbol, text, written, different⟩ := apart other
          simp [written, different.symm] at sameText
  | cons thing rest inductionHypothesis =>
      intro others afterFirst afterSecond sameText
      cases others with
      | nil =>
          obtain ⟨symbol, text, written, different⟩ := apart thing
          simp [written, different] at sameText
      | cons other otherRest =>
          simp only [List.flatMap_cons, List.append_assoc] at sameText
          obtain ⟨rfl, sameRest⟩ := prefixFree _ _ _ _ sameText
          obtain ⟨rfl, sameAfter⟩ :=
            inductionHypothesis otherRest afterFirst afterSecond (by simpa using sameRest)
          exact ⟨rfl, sameAfter⟩

/-- A row of things none of which is written as nothing. -/
theorem flatMap_injective
    (prefixFree : PrefixFree write)
    (nonempty : ∀ thing, write thing ≠ [])
    {things others : List Thing}
    (sameText : things.flatMap write = others.flatMap write) :
    things = others := by
  induction things generalizing others with
  | nil =>
      cases others with
      | nil => rfl
      | cons other rest => simp [nonempty other] at sameText
  | cons thing rest inductionHypothesis =>
      cases others with
      | nil => simp [nonempty thing] at sameText
      | cons other otherRest =>
          simp only [List.flatMap_cons] at sameText
          obtain ⟨rfl, sameRest⟩ := prefixFree _ _ _ _ sameText
          rw [inductionHypothesis sameRest]

end PrefixFree

end BlockVolume
