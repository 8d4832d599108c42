import Mathlib.Data.List.Perm.Basic
import BlockVolume.Proofs.Block.Identity

namespace BlockVolume

/-!
# Properties read back from their tagged form

Entries are assigned one by one when a compound is read, and the names in a
compound of properties are distinct, so every entry comes back at the end of
what was read before it. The reserved name is the one exception: its entry is
written, and assigning it has no effect.
-/

namespace Fields

variable {Value : Type} {fields : Fields Value}

/-- The fields whose name can be assigned. -/
def assignable (fields : Fields Value) : Fields Value :=
  fields.filter fun field => decide (field.1 ≠ reservedName)

@[simp]
theorem mem_assignable
    {field : String × Value} :
    field ∈ fields.assignable ↔ field ∈ fields ∧ field.1 ≠ reservedName := by
  simp [assignable]

theorem assignable_cons_of_reserved
    {name : String}
    (reserved : name = reservedName)
    (value : Value) :
    assignable ((name, value) :: fields) = fields.assignable :=
  List.filter_cons_of_neg (by simpa using reserved)

theorem assignable_cons_of_ne
    {name : String}
    (notReserved : name ≠ reservedName)
    (value : Value) :
    assignable ((name, value) :: fields) = (name, value) :: fields.assignable :=
  List.filter_cons_of_pos (by simpa using notReserved)

theorem assignable_eq_self
    (unreserved : reservedName ∉ fields.names) :
    fields.assignable = fields := by
  refine List.filter_eq_self.2 fun field member => decide_eq_true ?_
  intro isReserved
  exact unreserved (isReserved ▸ List.mem_map_of_mem member)

/-- No field is left out exactly when the reserved name is not among the names. -/
theorem mem_assignable_iff_mem_iff_unreserved :
    (∀ field, field ∈ fields.assignable ↔ field ∈ fields) ↔ reservedName ∉ fields.names := by
  constructor
  · intro sameFields reserved
    obtain ⟨field, member, isReserved⟩ := List.mem_map.1 reserved
    exact (mem_assignable.1 ((sameFields field).2 member)).2 isReserved
  · intro unreserved field
    rw [assignable_eq_self unreserved]

theorem nodup_names_assignable
    (distinct : fields.names.Nodup) :
    fields.assignable.names.Nodup :=
  distinct.sublist (List.filter_sublist.map Prod.fst)

end Fields

namespace Tag

open BlockState

/-- Entries with names of their own are added behind the properties read before them. -/
theorem foldlM_readProperty
    (fields readBefore : Properties)
    (distinct : (Fields.names (readBefore ++ fields)).Nodup) :
    (fields.map fun property => (property.1, Tag.text property.2)).foldlM
        readProperty readBefore =
      .ok (readBefore ++ fields.assignable) := by
  induction fields generalizing readBefore with
  | nil =>
      rw [Fields.assignable, List.filter_nil, List.append_nil]
      rfl
  | cons property rest inductionHypothesis =>
      obtain ⟨name, text⟩ := property
      rw [List.map_cons, List.foldlM_cons]
      by_cases reserved : name = Fields.reservedName
      · have skipped : readProperty readBefore (name, .text text) = .ok readBefore := by
          simp [readProperty, Fields.assign, reserved]
        have restDistinct : (Fields.names (readBefore ++ rest)).Nodup :=
          distinct.sublist (((List.sublist_cons_self _ _).append_left _).map Prod.fst)
        rw [skipped, Fields.assignable_cons_of_reserved reserved]
        exact inductionHypothesis readBefore restDistinct
      · have new : name ∉ Fields.names readBefore := by
          intro known
          rw [Fields.names, List.map_append] at distinct
          exact (List.nodup_append.1 distinct).2.2 name known name List.mem_cons_self rfl
        have added :
            readProperty readBefore (name, .text text) = .ok (readBefore ++ [(name, text)]) := by
          rw [readProperty_text reserved, Fields.insert_of_notMem new]
        rw [List.append_cons] at distinct
        rw [added, Fields.assignable_cons_of_ne reserved,
          List.append_cons readBefore _ (Fields.assignable rest)]
        exact inductionHypothesis (readBefore ++ [(name, text)]) distinct

/-- Properties are read back from their entries but for the reserved name. -/
theorem toProperties_ofProperties
    {properties : Properties}
    (distinct : (Fields.names properties).Nodup) :
    toProperties (ofProperties properties) =
      .ok (Fields.assignable (Fields.listing properties)) := by
  have listedDistinct : (Fields.names (Fields.listing properties)).Nodup :=
    ((Fields.perm_listing properties).map Prod.fst).nodup_iff.2 distinct
  exact foldlM_readProperty (Fields.listing properties) [] listedDistinct

/-- Reading back leaves the same properties that can be assigned, in some order. -/
theorem perm_assignable_listing (properties : Properties) :
    (Fields.assignable (Fields.listing properties)).Perm (Fields.assignable properties) :=
  (Fields.perm_listing properties).filter _

end Tag

namespace BlockState

/-- Texts with distinct names make a state, and the state has these texts. -/
theorem exists_ofValues_given
    (name : Location)
    {properties : Properties}
    (distinct : (Fields.names properties).Nodup) :
    ∃ state,
      ofValues name (properties.map given) = .ok state ∧ state.name = name ∧
        Canonical state.properties ∧ state.properties.Perm properties := by
  have texts : ∀ value ∈ properties.map given, value.2.isSome = true := by
    intro value member
    obtain ⟨property, -, rfl⟩ := List.mem_map.1 member
    rfl
  obtain ⟨state, made⟩ := exists_ofValues_eq_ok name texts
  have givenDistinct : (Fields.names (properties.map given)).Nodup := by
    simpa [Fields.names, given, Function.comp_def] using distinct
  obtain ⟨sameName, canonical, reordered⟩ := of_ofValues_eq_ok givenDistinct made
  refine ⟨state, made, sameName, canonical, ?_⟩
  exact (List.map_perm_map_iff fun _ _ => given_injective).1 reordered

/--
The properties of a table read back from their entries are those whose name is
not the reserved one, so a table and a state made of it survive exactly when
the reserved name is not among the names.
-/
theorem properties_survive_iff_unreserved
    (name : Location)
    (pairs : List (String × String)) :
    ∃ (readBack statesReadBack : Properties) (state rebuilt : BlockState),
      Tag.toProperties (Tag.ofProperties (Fields.ofPairs pairs)) = .ok readBack ∧
      (∀ property text,
        (property, text) ∈ readBack ↔
          (property, text) ∈ Fields.ofPairs pairs ∧ property ≠ Fields.reservedName) ∧
      ((∀ property text,
          (property, text) ∈ readBack ↔ (property, text) ∈ Fields.ofPairs pairs) ↔
        Fields.reservedName ∉ Fields.names (Fields.ofPairs pairs)) ∧
      ofValues name ((Fields.ofPairs pairs).map given) = .ok state ∧
      Tag.toProperties (Tag.ofProperties state.properties) = .ok statesReadBack ∧
      ofValues name (statesReadBack.map given) = .ok rebuilt ∧
      (rebuilt.same state = true ↔
        Fields.reservedName ∉ Fields.names (Fields.ofPairs pairs)) := by
  have distinct := Fields.nodup_names_ofPairs pairs
  obtain ⟨state, made, stateName, canonical, sameProperties⟩ := exists_ofValues_given name distinct
  have remaining := Tag.perm_assignable_listing state.properties
  have remainingDistinct :
      (Fields.names (Fields.assignable (Fields.listing state.properties))).Nodup :=
    (remaining.map Prod.fst).nodup_iff.2 (Fields.nodup_names_assignable canonical.distinct)
  obtain ⟨rebuilt, remade, rebuiltName, rebuiltCanonical, rebuiltProperties⟩ :=
    exists_ofValues_given name remainingDistinct
  have readMembers : ∀ property text,
      (property, text) ∈ Fields.assignable (Fields.listing (Fields.ofPairs pairs)) ↔
        (property, text) ∈ Fields.assignable (Fields.ofPairs pairs) :=
    fun _ _ => (Tag.perm_assignable_listing _).mem_iff
  refine ⟨_, _, state, rebuilt, Tag.toProperties_ofProperties distinct, ?_, ?_, made,
    Tag.toProperties_ofProperties canonical.distinct, remade, ?_⟩
  · intro property text
    rw [readMembers, Fields.mem_assignable]
  · rw [← Fields.mem_assignable_iff_mem_iff_unreserved, Prod.forall]
    exact forall₂_congr fun property text => iff_congr (readMembers property text) Iff.rfl
  · rw [Fields.names, ← (sameProperties.map Prod.fst).mem_iff, same, beq_iff_eq]
    constructor
    · intro sameKey
      rw [eq_of_key_eq sameKey] at rebuiltProperties
      exact Fields.mem_assignable_iff_mem_iff_unreserved.1 fun _ =>
        (rebuiltProperties.trans remaining).mem_iff.symm
    · intro unreserved
      rw [Fields.assignable_eq_self unreserved] at remaining
      exact key_eq_of_eq (rebuiltName.trans stateName.symm) <|
        rebuiltCanonical.eq_of_perm canonical (rebuiltProperties.trans remaining)

/-- A single property of the reserved name is not read back from its own entries. -/
theorem reserved_property_lost :
    (Fields.reservedName, "x") ∈ Fields.ofPairs [("__proto__", "x")] ∧
      Tag.toProperties (Tag.ofProperties (Fields.ofPairs [("__proto__", "x")])) = .ok [] := by
  refine ⟨by decide, ?_⟩
  rw [Tag.toProperties_ofProperties (by decide)]
  exact congrArg Except.ok (Tag.perm_assignable_listing _).eq_nil

end BlockState

end BlockVolume
