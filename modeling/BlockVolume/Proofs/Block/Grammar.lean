import Mathlib.Data.List.TakeWhile
import BlockVolume.Proofs.Block.Identity

namespace BlockVolume

/-!
# The grammar of block names

A block name is a path, or a space and a path with a colon between them; both are
words over their letters, and neither may be empty. Reading a text finds its first
colon and checks both sides of it. What it accepts are the names of the grammar, and
a second colon is told apart from letters that are not allowed.

Since no part holds a colon, the text of a location is read back to its parts, and
different locations have different texts.
-/

namespace Location

/-! ## Letters and words -/

/-- The letters of a space. -/
def SpaceLetter (letter : Char) : Prop :=
  ('a' ≤ letter ∧ letter ≤ 'z') ∨ ('0' ≤ letter ∧ letter ≤ '9') ∨ letter ∈ ['.', '_', '-']

/-- The letters of a path. -/
def PathLetter (letter : Char) : Prop :=
  SpaceLetter letter ∨ letter = '/'

/-- A text of one letter or more, all of one kind. -/
def Word (Letter : Char → Prop) (text : String) : Prop :=
  text ≠ "" ∧ ∀ letter ∈ text.toList, Letter letter

/-- The texts that name the path in the space: the path alone in the default space, or both. -/
inductive Names : String → String → String → Prop where
  | pathAlone
      {path : String}
      (isPath : Word PathLetter path) :
      Names path "minecraft" path
  | bothParts
      {space path : String}
      (isSpace : Word SpaceLetter space)
      (isPath : Word PathLetter path) :
      Names (space ++ ":" ++ path) space path

theorem isSpaceChar_iff (letter : Char) : isSpaceChar letter = true ↔ SpaceLetter letter := by
  have lower : letter.isLower = (decide ('a' ≤ letter) && decide (letter ≤ 'z')) := rfl
  simp [isSpaceChar, SpaceLetter, lower, Char.isDigit, Char.le_def, or_assoc]

theorem isPathChar_iff (letter : Char) : isPathChar letter = true ↔ PathLetter letter := by
  simp [isPathChar, PathLetter, isSpaceChar_iff]

theorem isSpace_iff (text : String) : isSpace text = true ↔ Word SpaceLetter text := by
  simp [isSpace, Word, isSpaceChar_iff]

theorem isPath_iff (text : String) : isPath text = true ↔ Word PathLetter text := by
  simp [isPath, Word, isPathChar_iff]

theorem Word.colon_not_mem_space {space : String} (word : Word SpaceLetter space) :
    ':' ∉ space.toList :=
  colon_not_mem_of_isSpace ((isSpace_iff space).2 word)

theorem Word.colon_not_mem_path {path : String} (word : Word PathLetter path) :
    ':' ∉ path.toList :=
  colon_not_mem_of_isPath ((isPath_iff path).2 word)

/-! ## Making a location -/

variable {text space path : String} {location : Location}

/-- A location is made of the parts that it has. -/
theorem make_eq_ok_iff :
    make space path = .ok location ↔ location.space = space ∧ location.path = path := by
  constructor
  · intro made
    unfold make at made
    split at made
    · split at made
      · cases made
        exact ⟨rfl, rfl⟩
      · cases made
    · cases made
  · rintro ⟨rfl, rfl⟩
    exact make_eq_ok location.space_valid location.path_valid

theorem space_word (location : Location) : Word SpaceLetter location.space :=
  (isSpace_iff _).1 location.space_valid

theorem path_word (location : Location) : Word PathLetter location.path :=
  (isPath_iff _).1 location.path_valid

/-! ## Reading a text -/

/-- A text without a colon is a path in the default space. -/
theorem ofText?_of_no_colon (noColon : ':' ∉ text.toList) :
    ofText? text = (make defaultSpace text).map some := by
  have skipped : text.toList.dropWhile (· != ':') = [] := by
    rw [List.dropWhile_eq_nil_iff]
    intro letter member
    rw [bne_iff_ne]
    rintro rfl
    exact noColon member
  simp only [ofText?, skipped]

/-- The first colon ends the space, and another one behind it is one too many. -/
theorem ofText?_of_first_colon (noColon : ':' ∉ space.toList) (path : String) :
    ofText? (space ++ ":" ++ path) =
      if ':' ∈ path.toList then .ok none else (make space path).map some := by
  have kept : ∀ letter ∈ space.toList, (letter != ':') = true := by
    intro letter member
    rw [bne_iff_ne]
    rintro rfl
    exact noColon member
  have letters : (space ++ ":" ++ path).toList = space.toList ++ ':' :: path.toList := by
    simp
  have skipped : (space.toList ++ ':' :: path.toList).dropWhile (· != ':') = ':' :: path.toList := by
    rw [List.dropWhile_append_of_pos kept, List.dropWhile_cons_of_neg (by decide)]
  have taken : (space.toList ++ ':' :: path.toList).takeWhile (· != ':') = space.toList := by
    rw [List.takeWhile_append_of_pos kept, List.takeWhile_cons_of_neg (by decide), List.append_nil]
  simp only [ofText?, letters, skipped, taken, List.contains_iff_mem, String.ofList_toList]

/-- A colon in a text has a first one before it, or is the first one. -/
theorem exists_first_colon (colon : ':' ∈ text.toList) :
    ∃ space path : String, text = space ++ ":" ++ path ∧ ':' ∉ space.toList := by
  obtain ⟨before, behind, split, noColon⟩ := List.eq_append_cons_of_mem colon
  refine ⟨String.ofList before, String.ofList behind, ?_, ?_⟩
  · apply String.toList_injective
    simpa using split
  · simpa using noColon

theorem count_colon_of_first (noColon : ':' ∉ space.toList) (path : String) :
    (space ++ ":" ++ path).toList.count ':' = path.toList.count ':' + 1 := by
  simp [List.count_eq_zero.2 noColon]

/-- Only a second colon makes a text name nothing without a refusal. -/
theorem ofText?_eq_none_iff : ofText? text = .ok none ↔ 2 ≤ text.toList.count ':' := by
  have notNone : ∀ space path, (make space path).map some ≠ .ok none := by
    intro space path same
    obtain ⟨_, -, impossible⟩ := map_eq_ok_iff.1 same
    cases impossible
  by_cases colon : ':' ∈ text.toList
  · obtain ⟨space, path, rfl, noColon⟩ := exists_first_colon colon
    rw [ofText?_of_first_colon noColon, count_colon_of_first noColon]
    by_cases second : ':' ∈ path.toList
    · have counted := List.count_pos_iff.2 second
      rw [if_pos second]
      exact iff_of_true rfl (Nat.succ_le_succ counted)
    · rw [if_neg second, List.count_eq_zero.2 second]
      exact iff_of_false (notNone space path) (by decide)
  · rw [ofText?_of_no_colon colon, List.count_eq_zero.2 colon]
    exact iff_of_false (notNone defaultSpace text) (by decide)

namespace Names

/-- The parts of a name are words. -/
theorem words (names : Names text space path) : Word SpaceLetter space ∧ Word PathLetter path := by
  cases names with
  | pathAlone isPath => exact ⟨(isSpace_iff defaultSpace).1 (by decide), isPath⟩
  | bothParts isSpace isPath => exact ⟨isSpace, isPath⟩

/-- A name is read as the location of its parts. -/
theorem ofText?_eq (names : Names text space path) :
    ofText? text = (make space path).map some := by
  cases names with
  | pathAlone isPath => exact ofText?_of_no_colon isPath.colon_not_mem_path
  | bothParts isSpace isPath =>
      rw [ofText?_of_first_colon isSpace.colon_not_mem_space, if_neg isPath.colon_not_mem_path]

/-- The parts of a name with their colon are the name, if that has one. -/
theorem append_eq (names : Names text space path) :
    space ++ ":" ++ path = if ':' ∈ text.toList then text else "minecraft:" ++ text := by
  cases names with
  | pathAlone isPath =>
      rw [if_neg isPath.colon_not_mem_path]
      rfl
  | bothParts isSpace isPath => rw [if_pos (by simp)]

/-- A location is named by its text. -/
theorem of_location (location : Location) :
    Names location.text location.space location.path :=
  .bothParts location.space_word location.path_word

end Names

/-- A text is read as a location exactly when it names its parts. -/
theorem ofText?_eq_some_iff :
    ofText? text = .ok (some location) ↔ Names text location.space location.path := by
  have of_made : ∀ {space path}, (make space path).map some = .ok (some location) →
      location.space = space ∧ location.path = path := by
    intro space path succeeds
    obtain ⟨_, made, same⟩ := map_eq_ok_iff.1 succeeds
    cases same
    exact make_eq_ok_iff.1 made
  constructor
  · intro read
    by_cases colon : ':' ∈ text.toList
    · obtain ⟨space, path, rfl, noColon⟩ := exists_first_colon colon
      rw [ofText?_of_first_colon noColon] at read
      split at read
      · cases read
      · obtain ⟨rfl, rfl⟩ := of_made read
        exact .of_location location
    · rw [ofText?_of_no_colon colon] at read
      obtain ⟨isDefault, rfl⟩ := of_made read
      rw [isDefault]
      exact .pathAlone location.path_word
  · intro names
    rw [names.ofText?_eq, make_eq_ok_iff.2 ⟨rfl, rfl⟩]
    rfl

theorem exists_ofText?_eq_some_iff :
    (∃ location, ofText? text = .ok (some location)) ↔ ∃ space path, Names text space path := by
  constructor
  · rintro ⟨location, read⟩
    exact ⟨_, _, ofText?_eq_some_iff.1 read⟩
  · rintro ⟨space, path, names⟩
    obtain ⟨isSpace, isPath⟩ := names.words
    exact ⟨⟨space, path, (isSpace_iff space).2 isSpace, (isPath_iff path).2 isPath⟩,
      ofText?_eq_some_iff.2 names⟩

/-- Everything else is refused. -/
theorem ofText?_refused_iff :
    (∃ refusal, ofText? text = .error refusal) ↔
      text.toList.count ':' < 2 ∧ ¬ ∃ space path, Names text space path := by
  rw [← exists_ofText?_eq_some_iff, ← Nat.not_le, ← ofText?_eq_none_iff]
  cases ofText? text with
  | error refusal => simp
  | ok found => cases found <;> simp

theorem parse_eq_ok_iff : parse text = .ok location ↔ ofText? text = .ok (some location) := by
  unfold parse
  split <;> simp_all

/-- Without a location to answer with, a second colon is a refusal too. -/
theorem parse_refused_iff :
    (∃ refusal, parse text = .error refusal) ↔
      (∃ refusal, ofText? text = .error refusal) ∨ ofText? text = .ok none := by
  unfold parse
  split <;> simp_all

/-- Locations have the same parts exactly when they have the same text. -/
theorem same_iff_text_eq {left right : Location} :
    left.same right = true ↔ left.text = right.text := by
  rw [same, Bool.and_eq_true, beq_iff_eq, beq_iff_eq]
  constructor
  · rintro ⟨sameSpace, samePath⟩
    rw [Location.text, sameSpace, samePath, Location.text]
  · intro sameText
    rw [text_injective sameText]
    exact ⟨rfl, rfl⟩

/--
A text with two colons or more names nothing. Any other text is read as a location
exactly when it is a path alone, in the default space, or a space and a path with a
colon between them, both words over their letters; the rest is refused. A parse
refuses what is refused here or names nothing. A location that is read has the text
that it was read from, behind the default space if that had no colon. Every location
is read back from its text, and locations are equal exactly when their texts are.
-/
theorem reads_the_grammar :
    (∀ text, ofText? text = .ok none ↔ 2 ≤ text.toList.count ':') ∧
    (∀ text, (∃ location, ofText? text = .ok (some location)) ↔
      ∃ space path, Names text space path) ∧
    (∀ text, (∃ refusal, ofText? text = .error refusal) ↔
      text.toList.count ':' < 2 ∧ ¬ ∃ space path, Names text space path) ∧
    (∀ text, (∃ refusal, parse text = .error refusal) ↔
      (∃ refusal, ofText? text = .error refusal) ∨ ofText? text = .ok none) ∧
    (∀ text location, ofText? text = .ok (some location) →
      Names text location.space location.path ∧
      location.text = if ':' ∈ text.toList then text else "minecraft:" ++ text) ∧
    (∀ location : Location, parse location.text = .ok location) ∧
    ∀ left right : Location, left.same right = true ↔ left.text = right.text := by
  refine ⟨fun _ => ofText?_eq_none_iff, fun _ => exists_ofText?_eq_some_iff,
    fun _ => ofText?_refused_iff, fun _ => parse_refused_iff, fun text location read => ?_,
    fun location => parse_eq_ok_iff.2 (ofText?_eq_some_iff.2 (.of_location location)),
    fun _ _ => same_iff_text_eq⟩
  have names := ofText?_eq_some_iff.1 read
  exact ⟨names, names.append_eq⟩

/-- Both parts, a path alone, a letter that is not allowed, and a colon too many. -/
theorem reads_the_grammar_of_cogwheel :
    (∃ location, ofText? "create:cogwheel/large" = .ok (some location) ∧
      location.text = "create:cogwheel/large") ∧
    (∃ location, ofText? "stone" = .ok (some location) ∧ location.text = "minecraft:stone") ∧
    (¬ ∃ space path, Names "Mod:thing" space path) ∧
    ofText? "a:b:c" = .ok none ∧ ∃ refusal, parse "a:b:c" = .error refusal := by
  have both : Names ("create" ++ ":" ++ "cogwheel/large") "create" "cogwheel/large" :=
    .bothParts ((isSpace_iff _).1 (by decide)) ((isPath_iff _).1 (by decide))
  have alone : Names "stone" "minecraft" "stone" := .pathAlone ((isPath_iff _).1 (by decide))
  have refused : ofText? "Mod:thing" = .error (.invalidSpace "Mod") := by decide
  obtain ⟨nothing, accepts, refuses, parses, reads, -⟩ := reads_the_grammar
  obtain ⟨large, readLarge⟩ := (accepts _).2 ⟨_, _, both⟩
  obtain ⟨stone, readStone⟩ := (accepts _).2 ⟨_, _, alone⟩
  have tooMany : ofText? "a:b:c" = .ok none := (nothing _).2 (by decide)
  exact ⟨⟨large, readLarge, (reads _ _ readLarge).2⟩, ⟨stone, readStone, (reads _ _ readStone).2⟩,
    ((refuses _).1 ⟨_, refused⟩).2, tooMany, (parses _).2 (.inr tooMany)⟩

end Location

end BlockVolume
