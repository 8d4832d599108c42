import BlockVolume.Proofs.Text.PrefixFree
import BlockVolume.Text.Quoted

namespace BlockVolume

/-!
# Reading quoted text back

The written form of a character is read back to that character, whatever
follows it, and never starts with the quote. Quoted texts, and bracketed pairs
and lists of things with a visible end, therefore have a visible end too.
-/

namespace Quoted

/-- The value of a hexadecimal digit. -/
def digitValue (digit : Char) : Nat :=
  if digit.isDigit then digit.toNat - '0'.toNat else digit.toNat - 'a'.toNat + 10

/-- The character of an escape, read behind its backslash, with what follows it. -/
def readEscape : List Char → Option (Char × List Char)
  | '"' :: rest => some ('"', rest)
  | '\\' :: rest => some ('\\', rest)
  | 'b' :: rest => some ('\x08', rest)
  | 'f' :: rest => some ('\x0c', rest)
  | 'n' :: rest => some ('\n', rest)
  | 'r' :: rest => some ('\r', rest)
  | 't' :: rest => some ('\t', rest)
  | 'u' :: '0' :: '0' :: high :: low :: rest =>
      some (Char.ofNat (16 * digitValue high + digitValue low), rest)
  | _ => none

/-- The first character of a quoted text with what follows it, and nothing at the closing quote. -/
def readChar : List Char → Option (Char × List Char)
  | [] => none
  | first :: rest =>
      if first = '\\' then
        readEscape rest
      else if first = '"' then
        none
      else
        some (first, rest)

theorem digitValue_digitChar : ∀ digit < 16, digitValue (Nat.digitChar digit) = digit := by
  decide

/-- The two digits of a control character are read back. -/
theorem ofNat_hexPair
    {character : Char}
    (control : character.toNat < 0x20) :
    Char.ofNat
        (16 * digitValue (Nat.digitChar (character.toNat / 16)) +
          digitValue (Nat.digitChar (character.toNat % 16))) =
      character := by
  rw [digitValue_digitChar _ (by omega), digitValue_digitChar _ (by omega), Nat.div_add_mod,
    Char.ofNat_toNat]

/-- Every character is read back from its written form. -/
theorem readChar_encodeChar
    (character : Char)
    (rest : List Char) :
    readChar (encodeChar character ++ rest) = some (character, rest) := by
  unfold encodeChar
  split
  case h_8 notQuote notBackslash _ _ _ _ _ =>
    split
    · rename_i control
      exact congrArg (fun read => some (read, rest)) (ofNat_hexPair control)
    · rw [List.singleton_append, readChar, if_neg notBackslash, if_neg notQuote]
  all_goals rfl

/-- The end of a written character shows. -/
theorem prefixFree_encodeChar : PrefixFree encodeChar := by
  intro first second afterFirst afterSecond sameText
  have read := readChar_encodeChar first afterFirst
  rw [sameText, readChar_encodeChar] at read
  cases read
  exact ⟨rfl, rfl⟩

/-- No written character starts with the quote that closes a text. -/
theorem encodeChar_apart (character : Char) :
    ∃ symbol rest, encodeChar character = symbol :: rest ∧ symbol ≠ '"' := by
  cases written : encodeChar character with
  | nil =>
      have read := readChar_encodeChar character []
      rw [written] at read
      cases read
  | cons symbol rest =>
      refine ⟨symbol, rest, rfl, ?_⟩
      rintro rfl
      have read := readChar_encodeChar character []
      rw [written] at read
      cases read

theorem toList_encode (text : String) :
    (encode text).toList = '"' :: (text.toList.flatMap encodeChar ++ ['"']) := by
  simp [encode, encodeChars]

/-- The end of a quoted text shows. -/
theorem prefixFree_encode : PrefixFree fun text => (encode text).toList := by
  have quoted :=
    ((prefixFree_encodeChar.row encodeChar_apart).behind '"').comap
      (fun _ _ => String.toList_injective)
  simpa only [toList_encode] using quoted

/-! ## Brackets -/

variable {Thing Other : Type} {write : Thing → String} {writeOther : Other → String}

/-- What stands in brackets: the first item, and every later one behind a comma. -/
theorem toList_list_cons (item : String) (rest : List String) :
    (list (item :: rest)).toList =
      '[' :: (item.toList ++ (rest.flatMap (fun other => ',' :: other.toList) ++ [']'])) := by
  have joined : ∀ first : String,
      [','].intercalate (first.toList :: rest.map String.toList) =
        first.toList ++ rest.flatMap fun other => ',' :: other.toList := by
    induction rest with
    | nil => simp
    | cons second others inductionHypothesis =>
        intro first
        rw [List.map_cons, List.intercalate_cons_cons, inductionHypothesis second]
        simp
  rw [list, String.toList_append, String.toList_append, String.toList_intercalate, List.map_cons]
  change ['['] ++ [','].intercalate _ ++ [']'] = _
  rw [joined]
  simp

/-- The end of a bracketed pair shows. -/
theorem prefixFree_pair
    (prefixFree : PrefixFree fun thing => (write thing).toList)
    (otherPrefixFree : PrefixFree fun other => (writeOther other).toList) :
    PrefixFree fun both : Thing × Other =>
      (list [write both.1, writeOther both.2]).toList := by
  have bracketed :=
    (prefixFree.pair ((otherPrefixFree.behind ',').before ']')).behind '['
  simpa [toList_list_cons] using bracketed

/-- The end of a bracketed list shows, when its items do not start with the closing bracket. -/
theorem prefixFree_list
    (prefixFree : PrefixFree fun thing => (write thing).toList)
    (apart : ∀ thing, ∃ symbol rest, (write thing).toList = symbol :: rest ∧ symbol ≠ ']') :
    PrefixFree fun things : List Thing => (list (things.map write)).toList := by
  -- Behind the first item every item follows a comma, so the closing bracket starts none of them.
  have later : PrefixFree fun things : List Thing =>
      things.flatMap (fun thing => ',' :: (write thing).toList) ++ [']'] :=
    (prefixFree.behind ',').row fun thing => ⟨',', (write thing).toList, rfl, by decide⟩
  have nonempty : ∀ (first : Thing) (rest : List Thing),
      (list ((first :: rest).map write)).toList =
        '[' :: ((write first).toList ++
          (rest.flatMap (fun thing => ',' :: (write thing).toList) ++ [']'])) := by
    intro first rest
    rw [List.map_cons, toList_list_cons, List.flatMap_map]
  have empty : (list ([] : List String)).toList = ['[', ']'] := rfl
  intro things others afterThings afterOthers sameText
  dsimp only at sameText
  cases things with
  | nil =>
      cases others with
      | nil => exact ⟨rfl, by simpa using sameText⟩
      | cons other otherRest =>
          obtain ⟨symbol, text, written, different⟩ := apart other
          rw [nonempty, List.map_nil, empty, written] at sameText
          simp [different.symm] at sameText
  | cons thing rest =>
      cases others with
      | nil =>
          obtain ⟨symbol, text, written, different⟩ := apart thing
          rw [nonempty, List.map_nil, empty, written] at sameText
          simp [different] at sameText
      | cons other otherRest =>
          simp only [nonempty, List.cons_append, List.cons.injEq, true_and] at sameText
          obtain ⟨same, sameAfter⟩ :=
            prefixFree.pair later (thing, rest) (other, otherRest) _ _ sameText
          cases same
          exact ⟨rfl, sameAfter⟩

end Quoted

end BlockVolume
