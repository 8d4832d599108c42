import Mathlib.Data.List.Induction
import Mathlib.Data.Nat.Digits.Defs
import BlockVolume.Config.Basic
import BlockVolume.Proofs.Number.Rounding
import BlockVolume.Proofs.Outcome

namespace BlockVolume

/-!
# Data versions of loaded configurations

Loading looks at the text of the data version only: any digits pass. The number
that they spell is then rounded to a double, and the constructor of chunks
looks at that double. So the data version is the number that is spelled exactly
if that has at most 53 significant bits, and a chunk can be made exactly if the
number does not overflow.
-/

namespace Config

/-- The digits of a text in positional notation, the last one worth the least. -/
theorem digitsValue_eq_ofDigits (digits : List Char) :
    digitsValue digits =
      Nat.ofDigits 10 (digits.reverse.map fun digit => digit.toNat - '0'.toNat) := by
  induction digits using List.reverseRecOn with
  | nil => rfl
  | append_singleton digits digit inductionHypothesis =>
      rw [List.reverse_append, List.reverse_singleton, List.singleton_append, List.map_cons,
        Nat.ofDigits_cons, ← inductionHypothesis, digitsValue, List.foldl_append]
      exact (Nat.add_comm _ _).trans (congrArg _ (Nat.mul_comm _ _))

/-- What passes as a data version is digits, and becomes the double nearest to their value. -/
theorem parseDataVersion_eq_ok_iff
    {text : String}
    {version : Number} :
    parseDataVersion text = .ok version ↔
      text.toList ≠ [] ∧ (∀ digit ∈ text.toList, digit.isDigit) ∧
        version = .nearest false (digitsValue text.toList) 1 := by
  unfold parseDataVersion
  dsimp only
  split
  · rename_i accepted
    rw [Bool.and_eq_true, Bool.not_eq_true', List.isEmpty_eq_false_iff, List.all_eq_true]
      at accepted
    rw [Except.ok.injEq]
    exact ⟨fun same => ⟨accepted.1, accepted.2, same.symm⟩, fun spelled => spelled.2.2.symm⟩
  · rename_i refused
    refine ⟨nofun, fun spelled => absurd ?_ refused⟩
    rw [Bool.and_eq_true, Bool.not_eq_true', List.isEmpty_eq_false_iff, List.all_eq_true]
    exact ⟨spelled.1, spelled.2.1⟩

/-- The data version of a configuration comes from its own variable alone. -/
theorem parseDataVersion_of_parse
    {vars : Variables}
    {config : Config}
    (loaded : parse vars = .ok config) :
    parseDataVersion (valueOr vars dataVersionName "2586") = .ok config.dataVersion := by
  obtain ⟨version, spelled, rest⟩ := bind_eq_ok_iff.1 loaded
  obtain ⟨state, -, rest⟩ := bind_eq_ok_iff.1 rest
  obtain ⟨debug, -, made⟩ := bind_eq_ok_iff.1 rest
  rw [spelled, ← Except.ok.inj made]

/-- A configuration that sets the data version alone loads if the text does. -/
theorem parse_dataVersion
    {text : String}
    {version : Number}
    (spelled : parseDataVersion text = .ok version) :
    parse [(dataVersionName, some text)] =
      .ok { defaultState := .air, dataVersion := version, debug := false } := by
  have state : BlockState.parse "minecraft:air" = .ok .air := by decide
  have debug : parseDebug "false" = .ok false := by decide
  refine bind_eq_ok_iff.2 ⟨version, spelled, bind_eq_ok_iff.2 ⟨.air, ?_, ?_⟩⟩
  · exact congrArg (Except.mapError ConfigError.block) state
  · exact bind_eq_ok_iff.2 ⟨false, debug, rfl⟩

end Config

namespace Chunk

variable {Slot : Type}

/-- A data version that is a natural makes a chunk. -/
theorem make_of_natural
    {options : ChunkOptions}
    {version : Nat}
    (natural : options.dataVersion.toNat? = some version) :
    ∃ chunk : Chunk Slot, make options = .ok chunk ∧ chunk.dataVersion = options.dataVersion := by
  unfold make
  rw [natural]
  exact ⟨_, rfl, rfl⟩

/-- Any other data version is refused. -/
theorem make_of_not_natural
    {options : ChunkOptions}
    (notNatural : options.dataVersion.toNat? = none) :
    (make options : Except StorageError (Chunk Slot)) =
      .error (.invalidDataVersion options.dataVersion) := by
  unfold make
  rw [notNatural]

end Chunk

namespace Config

variable {Slot : Type}

/-- Whether a text consists of digits that denote a natural in positional notation. -/
def Spells (text : String) (value : Nat) : Prop :=
  text.toList ≠ [] ∧ (∀ digit ∈ text.toList, digit.isDigit) ∧
    value = Nat.ofDigits 10 (text.toList.reverse.map fun digit => digit.toNat - '0'.toNat)

/-- What passes as a data version spells a natural, and becomes the double nearest to it. -/
theorem parseDataVersion_eq_ok_iff_spells
    {text : String}
    {version : Number} :
    parseDataVersion text = .ok version ↔
      ∃ value, Spells text value ∧ version = .nearest false value 1 := by
  rw [parseDataVersion_eq_ok_iff, digitsValue_eq_ofDigits]
  constructor
  · rintro ⟨nonempty, digits, rfl⟩
    exact ⟨_, ⟨nonempty, digits, rfl⟩, rfl⟩
  · rintro ⟨_, ⟨nonempty, digits, rfl⟩, rfl⟩
    exact ⟨nonempty, digits, rfl⟩

/-- What a loaded data version is: the natural nearest to the one that is spelled, with which
chunks can be made, or an infinity, with which none can. -/
theorem dataVersion_of_loaded
    {vars : Variables}
    {config : Config}
    (loaded : parse vars = .ok config) :
    ∃ spelled,
      Spells ((vars.value? dataVersionName).join.getD "2586") spelled ∧
      ((vars.value? dataVersionName).join = none → spelled = 2586) ∧
      (spelled < 2 ^ 1024 - 2 ^ 970 →
        config.dataVersion.toNat? = some (Number.roundNat spelled) ∧
          Number.FitsMantissa (Number.roundNat spelled) ∧
          (∀ other, Number.FitsMantissa other →
            Number.distance (Number.roundNat spelled) spelled ≤ Number.distance other spelled) ∧
          (Number.roundNat spelled = spelled ↔ Number.FitsMantissa spelled) ∧
          ∀ x z, ∃ chunk : Chunk Slot, Chunk.make (chunkOptions config x z) = .ok chunk ∧
            chunk.dataVersion = config.dataVersion) ∧
      (2 ^ 1024 - 2 ^ 970 ≤ spelled →
        config.dataVersion = .infinity false ∧
          ∀ x z, (Chunk.make (chunkOptions config x z) : Except StorageError (Chunk Slot)) =
            .error (.invalidDataVersion (.infinity false))) := by
  obtain ⟨spelled, spells, version_eq⟩ :=
    parseDataVersion_eq_ok_iff_spells.1 (parseDataVersion_of_parse loaded)
  refine ⟨spelled, spells, fun absent => ?_, fun inside => ?_, fun tooLarge => ?_⟩
  · rw [spells.2.2, valueOr, absent]
    decide
  · have natural : config.dataVersion.toNat? = some (Number.roundNat spelled) :=
      version_eq ▸ Number.toNat?_nearest inside
    exact ⟨natural, Number.fitsMantissa_roundNat spelled,
      fun other fits => Number.distance_roundNat_le spelled fits,
      Number.roundNat_eq_self_iff spelled, fun x z => Chunk.make_of_natural natural⟩
  · have infinite : config.dataVersion = .infinity false :=
      version_eq.trans (Number.nearest_of_overflow tooLarge)
    refine ⟨infinite, fun x z => ?_⟩
    have notNatural : (chunkOptions config x z).dataVersion.toNat? = none := by
      rw [chunkOptions, infinite]
      rfl
    rw [Chunk.make_of_not_natural notNatural, chunkOptions, infinite]

/-- A data version with a leading zero is loaded as what it spells, and chunks can be made with it. -/
theorem dataVersion_of_loaded_leading_zero :
    ∃ config, parse [(dataVersionName, some "01343")] = .ok config ∧
      config.dataVersion.toNat? = some 1343 ∧
      ∀ x z, ∃ chunk : Chunk Section, Chunk.make (chunkOptions config x z) = .ok chunk ∧
        chunk.dataVersion = config.dataVersion := by
  have accepted : parseDataVersion "01343" = .ok (.nearest false 1343 1) := by decide
  have loaded := parse_dataVersion accepted
  obtain ⟨spelled, spells, -, usable, -⟩ := @dataVersion_of_loaded Section _ _ loaded
  have value : spelled = 1343 := spells.2.2.trans (by decide)
  subst value
  obtain ⟨natural, -, -, exact_iff, makes⟩ := usable (by decide +kernel)
  refine ⟨_, loaded, ?_, makes⟩
  rw [natural, exact_iff.2 (Number.fitsMantissa_of_log2_le (by decide +kernel))]

/-- Two data versions load without being what is spelled: the first natural that doubles skip
becomes its neighbour, and `309` nines become an infinity, with which no chunk can be made. -/
theorem dataVersion_beyond_doubles :
    (∃ config, parse [(dataVersionName, some "9007199254740993")] = .ok config ∧
      config.dataVersion.toNat? = some 9007199254740992) ∧
    (∃ config, parse [(dataVersionName, some (String.ofList (List.replicate 309 '9')))] =
        .ok config ∧
      config.dataVersion = .infinity false ∧
      ∀ x z, (Chunk.make (chunkOptions config x z) : Except StorageError (Chunk Section)) =
        .error (.invalidDataVersion (.infinity false))) := by
  have skipped : parseDataVersion "9007199254740993" = .ok (.finite false (2 ^ 52) 1) := by decide
  have infinite :
      parseDataVersion (String.ofList (List.replicate 309 '9')) = .ok (.infinity false) := by
    rw [parseDataVersion_eq_ok_iff, String.toList_ofList]
    refine ⟨by decide, fun digit member => ?_, (Number.nearest_of_overflow ?_).symm⟩
    · rw [List.eq_of_mem_replicate member]
      decide
    · decide +kernel
  exact ⟨⟨_, parse_dataVersion skipped, by decide⟩,
    ⟨_, parse_dataVersion infinite, rfl, fun x z => rfl⟩⟩

end Config

end BlockVolume
