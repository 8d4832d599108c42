import BlockVolume.Block.Tag
import BlockVolume.Proofs.Outcome
import BlockVolume.Proofs.Text.FieldTables
import BlockVolume.Proofs.Text.Quoting
import BlockVolume.Proofs.Text.UnitOrder

namespace BlockVolume

/-!
# Keys of block states

The key of a state can be read back to its name and its properties, and both
are in a form that does not depend on how the state was given: the colon of a
name stands in neither part, and distinct property names have one sorted order.
So states have one key exactly when they were made of the same parts, and then
they are the same in every respect.
-/

namespace Location

theorem colon_not_mem_of_isSpace
    {space : String}
    (valid : isSpace space = true) :
    ':' ∉ space.toList := by
  intro member
  simp only [isSpace, Bool.and_eq_true, List.all_eq_true] at valid
  have colon := valid.2 ':' member
  revert colon
  decide

theorem colon_not_mem_of_isPath
    {path : String}
    (valid : isPath path = true) :
    ':' ∉ path.toList := by
  intro member
  simp only [isPath, Bool.and_eq_true, List.all_eq_true] at valid
  have colon := valid.2 ':' member
  rw [not_isPathChar_colon] at colon
  cases colon

/-- A location with its colon determines both parts. -/
theorem text_injective
    {left right : Location}
    (sameText : left.text = right.text) :
    left = right := by
  have sameList :
      left.space.toList ++ ':' :: left.path.toList =
        right.space.toList ++ ':' :: right.path.toList := by
    simpa [text] using congrArg String.toList sameText
  obtain ⟨sameSpace, -, samePath⟩ :=
    (List.append_cons_inj_of_notMem
      (colon_not_mem_of_isSpace left.space_valid)
      (colon_not_mem_of_isPath left.path_valid)).1 sameList
  obtain ⟨leftSpace, leftPath, _, _⟩ := left
  obtain ⟨rightSpace, rightPath, _, _⟩ := right
  cases String.toList_injective sameSpace
  cases String.toList_injective samePath
  rfl

end Location

namespace BlockState

/-! ## Keys -/

/-- The pairs of a key start with a bracket, so none is taken for the end of the list. -/
theorem pairText_apart (property : String × String) :
    ∃ symbol rest,
      (Quoted.list [Quoted.encode property.1, Quoted.encode property.2]).toList = symbol :: rest ∧
        symbol ≠ ']' :=
  ⟨'[', _, Quoted.toList_list_cons _ _, by decide⟩

/-- A key is read back to the name and the properties in it. -/
theorem keyText_injective
    {left right : Location}
    {leftProperties rightProperties : Properties}
    (sameText : keyText left leftProperties = keyText right rightProperties) :
    left = right ∧ leftProperties = rightProperties := by
  have pairs :=
    Quoted.prefixFree_list
      (Quoted.prefixFree_pair Quoted.prefixFree_encode Quoted.prefixFree_encode) pairText_apart
  have same : (left.text, leftProperties) = (right.text, rightProperties) :=
    (Quoted.prefixFree_pair Quoted.prefixFree_encode pairs).injective
      (congrArg String.toList sameText)
  obtain ⟨sameName, sameProperties⟩ := Prod.mk.inj same
  exact ⟨Location.text_injective sameName, sameProperties⟩

/-- States with one key are the same in every respect. -/
theorem eq_of_key_eq
    {left right : BlockState}
    (sameKey : left.key = right.key) :
    left = right := by
  rw [left.key_eq, right.key_eq] at sameKey
  obtain ⟨sameName, sameProperties⟩ := keyText_injective sameKey
  exact ext_parts sameName sameProperties

/-! ## Sorted properties -/

variable {Value : Type} {fields others : Fields Value}

theorem sorted_sortedByName (fields : Fields Value) :
    (sortedByName fields).Pairwise fun left right => Units.le left.1 right.1 = true := by
  apply List.pairwise_mergeSort
  · intro first second third firstSecond secondThird
    exact Units.le_trans firstSecond secondThird
  · intro left right
    rw [Bool.or_eq_true]
    exact Units.le_total left.1 right.1

theorem perm_sortedByName (fields : Fields Value) : (sortedByName fields).Perm fields :=
  List.mergeSort_perm fields _

/-- Two sorted orders of the same entries are one. -/
theorem eq_of_perm_of_sorted
    (distinct : (Fields.names fields).Nodup)
    (reordered : fields.Perm others)
    (sorted : fields.Pairwise fun left right => Units.le left.1 right.1 = true)
    (othersSorted : others.Pairwise fun left right => Units.le left.1 right.1 = true) :
    fields = others := by
  refine reordered.eq_of_pairwise (fun first second member otherMember before after => ?_)
    sorted othersSorted
  exact Fields.eq_of_mem distinct member (reordered.mem_iff.2 otherMember)
    (Units.le_antisymm before after)

/-! ## States as they are made -/

/-- A sorted table of texts with distinct names. -/
structure Canonical (properties : Properties) : Prop where
  distinct : (Fields.names properties).Nodup
  sorted : properties.Pairwise fun left right => Units.le left.1 right.1 = true

/-- A property as it is given, next to properties that are no texts. -/
def given (property : String × String) : String × Option String :=
  (property.1, some property.2)

theorem given_injective
    {left right : String × String}
    (same : given left = given right) :
    left = right := by
  obtain ⟨sameName, sameText⟩ := Prod.mk.inj same
  exact Prod.ext sameName (Option.some.inj sameText)

/-- Values that are required to be texts are these texts. -/
theorem eq_map_given_of_requireTexts
    {name : Location}
    {values : Fields (Option String)}
    {properties : Properties}
    (accepted : requireTexts name values = .ok properties) :
    values = properties.map given := by
  induction values generalizing properties with
  | nil =>
      cases accepted
      rfl
  | cons value rest inductionHypothesis =>
      rw [requireTexts, List.mapM_cons] at accepted
      obtain ⟨property, isText, later⟩ := bind_eq_ok_iff.1 accepted
      obtain ⟨others, restAccepted, same⟩ := bind_eq_ok_iff.1 later
      cases same
      obtain ⟨valueName, _ | text⟩ := value
      · cases isText
      · cases isText
        rw [inductionHypothesis restAccepted]
        rfl

/-- A state is made whenever all values are texts. -/
theorem exists_ofValues_eq_ok
    (name : Location)
    {values : Fields (Option String)}
    (texts : ∀ value ∈ values, value.2.isSome = true) :
    ∃ state, ofValues name values = .ok state := by
  have accepted : requireTexts name (sortedByName values) =
      .ok ((sortedByName values).map fun value => (value.1, value.2.getD "")) := by
    refine mapM_eq_ok fun value member => ?_
    have isText := texts value ((perm_sortedByName values).mem_iff.1 member)
    obtain ⟨valueName, _ | text⟩ := value
    · cases isText
    · rfl
  exact ⟨_, by rw [ofValues, accepted]; rfl⟩

/-- A state that is made has the given name, and the given texts in sorted order. -/
theorem of_ofValues_eq_ok
    {name : Location}
    {values : Fields (Option String)}
    {state : BlockState}
    (distinct : (Fields.names values).Nodup)
    (made : ofValues name values = .ok state) :
    state.name = name ∧ Canonical state.properties ∧
      (state.properties.map given).Perm values := by
  obtain ⟨properties, accepted, rfl⟩ := map_eq_ok_iff.1 made
  have same := eq_map_given_of_requireTexts accepted
  have sorted := sorted_sortedByName values
  have reordered := perm_sortedByName values
  rw [same] at sorted reordered
  have sameNames : Fields.names (properties.map given) = Fields.names properties := by
    simp [Fields.names, given, Function.comp_def]
  refine ⟨rfl, ⟨?_, List.pairwise_map.1 sorted⟩, reordered⟩
  have distinctGiven := (reordered.map Prod.fst).nodup_iff.2 distinct
  exact sameNames ▸ distinctGiven

/-- Canonical properties with the same entries are the same. -/
theorem Canonical.eq_of_perm
    {left right : Properties}
    (leftCanonical : Canonical left)
    (rightCanonical : Canonical right)
    (reordered : left.Perm right) :
    left = right :=
  eq_of_perm_of_sorted leftCanonical.distinct reordered leftCanonical.sorted rightCanonical.sorted

/-! ## Tagged form -/

/-- The entries of properties determine them, in whatever order they are listed. -/
theorem Canonical.eq_of_ofProperties_eq
    {left right : Properties}
    (leftCanonical : Canonical left)
    (rightCanonical : Canonical right)
    (sameEntries : Tag.ofProperties left = Tag.ofProperties right) :
    left = right := by
  have sameListing : Fields.listing left = Fields.listing right := by
    refine List.map_injective_iff.2 (fun first second same => ?_) sameEntries
    obtain ⟨sameName, sameTag⟩ := Prod.mk.inj same
    exact Prod.ext sameName (Tag.text.inj sameTag)
  refine leftCanonical.eq_of_perm rightCanonical ?_
  exact (Fields.perm_listing left).symm.trans (sameListing ▸ Fields.perm_listing right)

/-- The tagged form holds the text of the name and the entries of the properties. -/
theorem parts_of_ofState_eq
    {left right : BlockState}
    (sameTags : Tag.ofState left = Tag.ofState right) :
    left.name.text = right.name.text ∧
      Tag.ofProperties left.properties = Tag.ofProperties right.properties := by
  have none : ∀ {state : BlockState}, ¬ state.hasProperties = true → state.properties = [] := by
    intro state bare
    simpa [hasProperties] using bare
  unfold Tag.ofState at sameTags
  split at sameTags <;> split at sameTags
  · simpa using sameTags
  · simp at sameTags
  · simp at sameTags
  · rename_i leftBare rightBare
    rw [none leftBare, none rightBare]
    exact ⟨by simpa using sameTags, rfl⟩

/--
States that are made have one key exactly when they are made of the same space,
the same path and the same properties, given in any order; no properties count
as none given. With one key everything about them is the same, and with
different keys their tagged forms differ.
-/
theorem key_eq_iff_same_parts
    {leftName rightName : Location}
    {leftPairs rightPairs : List (String × Option String)}
    {left right : BlockState}
    (leftMade : ofValues leftName (Fields.ofPairs leftPairs) = .ok left)
    (rightMade : ofValues rightName (Fields.ofPairs rightPairs) = .ok right) :
    (left.key = right.key ↔
      leftName.space = rightName.space ∧ leftName.path = rightName.path ∧
        ∀ (property text : String),
          (property, some text) ∈ Fields.ofPairs leftPairs ↔
            (property, some text) ∈ Fields.ofPairs rightPairs) ∧
    (left.key = right.key →
      Fields.listing left.properties = Fields.listing right.properties ∧
        left.text = right.text ∧ Tag.ofState left = Tag.ofState right) ∧
    (left.key ≠ right.key → Tag.ofState left ≠ Tag.ofState right) ∧
    ofValues leftName (Fields.ofPairs []) = .ok (bare leftName) := by
  obtain ⟨rfl, leftCanonical, leftGiven⟩ :=
    of_ofValues_eq_ok (Fields.nodup_names_ofPairs leftPairs) leftMade
  obtain ⟨rfl, rightCanonical, rightGiven⟩ :=
    of_ofValues_eq_ok (Fields.nodup_names_ofPairs rightPairs) rightMade
  have entries : ∀ {state : BlockState} {values : Fields (Option String)},
      (state.properties.map given).Perm values →
        ∀ property text, (property, text) ∈ state.properties ↔ (property, some text) ∈ values := by
    intro state values reordered property text
    rw [← reordered.mem_iff]
    exact (List.mem_map_of_injective fun _ _ => given_injective).symm
  refine ⟨⟨fun sameKey => ?_, ?_⟩, fun sameKey => ?_, fun differentKeys sameTags => ?_, ?_⟩
  · have same := eq_of_key_eq sameKey
    subst same
    refine ⟨rfl, rfl, fun property text => ?_⟩
    rw [← entries leftGiven, entries rightGiven]
  · rintro ⟨sameSpace, samePath, sameEntries⟩
    have sameName : left.name = right.name :=
      Location.text_injective (by rw [Location.text, Location.text, sameSpace, samePath])
    have sameMembers : ∀ entry, entry ∈ left.properties ↔ entry ∈ right.properties := by
      rintro ⟨property, text⟩
      rw [entries leftGiven, entries rightGiven]
      exact sameEntries property text
    exact key_eq_of_eq sameName <|
      leftCanonical.eq_of_perm rightCanonical <|
        Fields.perm_of_mem_iff leftCanonical.distinct rightCanonical.distinct sameMembers
  · rw [eq_of_key_eq sameKey]
    exact ⟨rfl, rfl, rfl⟩
  · obtain ⟨sameText, sameProperties⟩ := parts_of_ofState_eq sameTags
    exact differentKeys <|
      key_eq_of_eq (Location.text_injective sameText)
        (leftCanonical.eq_of_ofProperties_eq rightCanonical sameProperties)
  · simp [ofValues, Fields.ofPairs, sortedByName, requireTexts, bare]
    rfl

/-- Stone with a quote and an index among its properties, given in two orders and with a repetition. -/
theorem key_eq_of_stone_reordered :
    ∃ (name : Location) (left right : BlockState),
      ofValues name (Fields.ofPairs [("facing", some "\"=,"), ("10", some "1")]) = .ok left ∧
        ofValues name
            (Fields.ofPairs [("10", some "2"), ("facing", some "\"=,"), ("10", some "1")]) =
          .ok right ∧
        left.key = right.key ∧ left.text = right.text := by
  let name : Location := ⟨"minecraft", "stone", by decide, by decide⟩
  obtain ⟨left, leftMade⟩ := @exists_ofValues_eq_ok name
    (Fields.ofPairs [("facing", some "\"=,"), ("10", some "1")]) (by decide)
  obtain ⟨right, rightMade⟩ := @exists_ofValues_eq_ok name
    (Fields.ofPairs [("10", some "2"), ("facing", some "\"=,"), ("10", some "1")]) (by decide)
  obtain ⟨keyIff, sameShown, -⟩ := key_eq_iff_same_parts leftMade rightMade
  have sameKey := keyIff.2 ⟨rfl, rfl, fun property text => by
    simp [Fields.ofPairs, Fields.insert, or_comm]⟩
  exact ⟨name, left, right, leftMade, rightMade, sameKey, (sameShown sameKey).2.1⟩

end BlockState

end BlockVolume
