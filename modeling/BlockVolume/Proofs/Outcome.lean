namespace BlockVolume

/-!
# Outcomes of staged operations

An operation in stages succeeds exactly when every stage does; these are the
inversions by which a success is taken apart.
-/

variable {Cause First Second : Type}

/-- Two stages succeed exactly when the first does and the second does with its result. -/
theorem bind_eq_ok_iff
    {first : Except Cause First}
    {second : First → Except Cause Second}
    {answer : Second} :
    (first >>= second) = .ok answer ↔
      ∃ between, first = .ok between ∧ second between = .ok answer := by
  cases first with
  | error cause => exact ⟨nofun, nofun⟩
  | ok between =>
      constructor
      · intro succeeds
        exact ⟨between, rfl, succeeds⟩
      · rintro ⟨between, same, succeeds⟩
        cases same
        exact succeeds

/-- Two stages fail exactly when the first does or the second does with its result. -/
theorem bind_eq_error_iff
    {first : Except Cause First}
    {second : First → Except Cause Second}
    {cause : Cause} :
    (first >>= second) = .error cause ↔
      first = .error cause ∨ ∃ between, first = .ok between ∧ second between = .error cause := by
  cases first with
  | error other =>
      constructor
      · intro fails
        exact .inl (congrArg Except.error (Except.error.inj fails))
      · rintro (same | ⟨between, impossible, -⟩)
        · exact congrArg Except.error (Except.error.inj same)
        · cases impossible
  | ok between =>
      constructor
      · intro fails
        exact .inr ⟨between, rfl, fails⟩
      · rintro (impossible | ⟨between, same, fails⟩)
        · cases impossible
        · cases same
          exact fails

/-- A mapped outcome succeeds exactly when the outcome does. -/
theorem map_eq_ok_iff
    {first : Except Cause First}
    {view : First → Second}
    {answer : Second} :
    first.map view = .ok answer ↔ ∃ between, first = .ok between ∧ view between = answer := by
  cases first with
  | error cause => exact ⟨nofun, nofun⟩
  | ok between =>
      constructor
      · intro succeeds
        exact ⟨between, rfl, Except.ok.inj succeeds⟩
      · rintro ⟨between, same, seen⟩
        cases same
        exact congrArg Except.ok seen

/-- A traversal whose every step succeeds answers with the results in order. -/
theorem mapM_eq_ok
    {step : First → Except Cause Second}
    {view : First → Second}
    {values : List First}
    (succeeds : ∀ value ∈ values, step value = .ok (view value)) :
    values.mapM step = .ok (values.map view) := by
  induction values with
  | nil => rfl
  | cons value rest inductionHypothesis =>
      rw [List.mapM_cons, succeeds value List.mem_cons_self,
        inductionHypothesis fun other member => succeeds other (List.mem_cons_of_mem _ member)]
      rfl

/-- A traversal fails for the cause of its first failing step. -/
theorem mapM_eq_error
    {step : First → Except Cause Second}
    {view : First → Second}
    {before : List First}
    (succeeds : ∀ value ∈ before, step value = .ok (view value))
    {value : First}
    {cause : Cause}
    (fails : step value = .error cause)
    (after : List First) :
    (before ++ value :: after).mapM step = .error cause := by
  induction before with
  | nil =>
      rw [List.nil_append, List.mapM_cons, fails]
      rfl
  | cons first rest inductionHypothesis =>
      rw [List.cons_append, List.mapM_cons, succeeds first List.mem_cons_self,
        inductionHypothesis fun other member => succeeds other (List.mem_cons_of_mem _ member)]
      rfl

/-- Either a property holds of a whole list, or there is a first element where it fails. -/
theorem all_or_first_fails
    {Element : Type}
    (property : Element → Prop)
    (list : List Element) :
    (∀ element ∈ list, property element) ∨
      ∃ before element after, list = before ++ element :: after ∧
        (∀ other ∈ before, property other) ∧ ¬ property element := by
  classical
  cases found : list.find? fun element => decide (¬ property element) with
  | none => exact .inl (by simpa using found)
  | some element =>
      obtain ⟨fails, before, after, split, early⟩ := List.find?_eq_some_iff_append.1 found
      exact .inr ⟨before, element, after, split, by simpa using early, by simpa using fails⟩

/-- A range around one of its numbers. -/
theorem range_split
    {place size : Nat}
    (inside : place < size) :
    List.range size =
      List.range place ++ place :: List.range' (place + 1) (size - place - 1) := by
  rw [List.range_eq_range', List.range_eq_range', ← List.range'_succ]
  have whole := List.range'_append_1 (s := 0) (m := place) (n := size - place - 1 + 1)
  rw [Nat.zero_add] at whole
  rw [whole]
  congr 1
  omega

/-- Either every step of a traversal succeeds, or there is a first one that fails. -/
theorem all_succeed_or_first_fails
    [Inhabited Second]
    (step : First → Except Cause Second)
    (values : List First) :
    ∃ view : First → Second,
      (∀ value ∈ values, step value = .ok (view value)) ∨
        ∃ before value after cause, values = before ++ value :: after ∧
          (∀ other ∈ before, step other = .ok (view other)) ∧ step value = .error cause := by
  refine ⟨fun value => match step value with | .ok result => result | .error _ => default, ?_⟩
  rcases all_or_first_fails (fun value => ∃ result, step value = .ok result) values
    with succeed | ⟨before, value, after, split, early, fails⟩
  · refine .inl fun value member => ?_
    obtain ⟨result, succeeds⟩ := succeed value member
    simp only [succeeds]
  · cases attempt : step value with
    | ok result => exact absurd ⟨result, attempt⟩ fails
    | error cause =>
        refine .inr ⟨before, value, after, cause, split, fun other member => ?_, attempt⟩
        obtain ⟨result, succeeds⟩ := early other member
        simp only [succeeds]

end BlockVolume
