import Mathlib.Data.List.Nodup
import BlockVolume.Text.Fields

namespace BlockVolume

/-!
# Tables of fields

Naming fields one after another makes a table with distinct names. Such a table
is determined by its entries, up to their order, and a listing only reorders
them.
-/

namespace Fields

variable {Value : Type} {fields others : Fields Value}

/-- The names of the fields. -/
def names (fields : Fields Value) : List String :=
  fields.map Prod.fst

@[simp]
theorem names_cons (field : String × Value) (rest : Fields Value) :
    names (field :: rest) = field.1 :: rest.names :=
  rfl

/-- Naming a field adds its name at the end, if it is not there. -/
theorem names_insert
    (fields : Fields Value)
    (name : String)
    (value : Value) :
    (fields.insert name value).names =
      if name ∈ fields.names then fields.names else fields.names ++ [name] := by
  induction fields with
  | nil => rfl
  | cons field rest inductionHypothesis =>
      obtain ⟨known, old⟩ := field
      rw [insert]
      by_cases same : known = name
      · simp [same]
      · by_cases member : name ∈ names rest
        · simp [same, member, inductionHypothesis]
        · simp [same, Ne.symm same, member, inductionHypothesis]

/-- A field of a new name comes last. -/
theorem insert_of_notMem
    {name : String}
    (new : name ∉ fields.names)
    (value : Value) :
    fields.insert name value = fields ++ [(name, value)] := by
  induction fields with
  | nil => rfl
  | cons field rest inductionHypothesis =>
      obtain ⟨known, old⟩ := field
      rw [names_cons, List.mem_cons, not_or] at new
      obtain ⟨different, newInRest⟩ := new
      rw [insert, if_neg (Ne.symm different), inductionHypothesis newInRest]
      rfl

theorem nodup_names_insert
    (distinct : fields.names.Nodup)
    (name : String)
    (value : Value) :
    (fields.insert name value).names.Nodup := by
  rw [names_insert]
  split
  · exact distinct
  · rename_i new
    rw [List.nodup_append]
    refine ⟨distinct, List.nodup_singleton name, ?_⟩
    rintro known member other inSingleton rfl
    exact new (List.mem_singleton.1 inSingleton ▸ member)

/-- A table that results from naming fields has distinct names. -/
theorem nodup_names_ofPairs (pairs : List (String × Value)) :
    (ofPairs pairs).names.Nodup := by
  have accumulated : ∀ (rest : List (String × Value)) (start : Fields Value),
      start.names.Nodup →
        (rest.foldl (fun fields pair => fields.insert pair.1 pair.2) start).names.Nodup := by
    intro rest
    induction rest with
    | nil => exact fun _ distinct => distinct
    | cons pair later inductionHypothesis =>
        intro start distinct
        exact inductionHypothesis _ (nodup_names_insert distinct pair.1 pair.2)
  exact accumulated pairs [] List.nodup_nil

/-- Entries of one name are the same entry. -/
theorem eq_of_mem
    (distinct : fields.names.Nodup)
    {first second : String × Value}
    (firstMember : first ∈ fields)
    (secondMember : second ∈ fields)
    (sameName : first.1 = second.1) :
    first = second :=
  List.inj_on_of_nodup_map distinct firstMember secondMember sameName

/-- Tables with the same entries differ in their order only. -/
theorem perm_of_mem_iff
    (distinct : fields.names.Nodup)
    (othersDistinct : others.names.Nodup)
    (sameEntries : ∀ entry, entry ∈ fields ↔ entry ∈ others) :
    fields.Perm others :=
  (List.perm_ext_iff_of_nodup
    (List.Nodup.of_map Prod.fst distinct)
    (List.Nodup.of_map Prod.fst othersDistinct)).2 sameEntries

/-- A listing holds the entries of the table, possibly in another order. -/
theorem perm_listing (fields : Fields Value) : fields.listing.Perm fields := by
  have indices :
      fields.indexed.Perm (fields.filter fun field => (index? field.1).isSome) := by
    have sorted := (List.mergeSort_perm
      (fields.filterMap fun field => (index? field.1).map fun index => (index, field))
      (fun left right => decide (left.1 ≤ right.1))).map Prod.snd
    have entries :
        (fields.filterMap fun field =>
            (index? field.1).map fun index => (index, field)).map Prod.snd =
          fields.filter fun field => (index? field.1).isSome := by
      rw [List.map_filterMap, ← List.filterMap_eq_filter]
      refine List.filterMap_congr fun field _ => ?_
      cases found : index? field.1 <;> simp [Option.guard, found]
    rw [entries] at sorted
    exact sorted
  have others :
      fields.unindexed = fields.filter fun field => !(index? field.1).isSome := by
    refine List.filter_congr fun field _ => ?_
    cases index? field.1 <;> rfl
  rw [listing, others]
  exact (indices.append_right _).trans (List.filter_append_perm _ _)

end Fields

end BlockVolume
