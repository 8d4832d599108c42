import Mathlib.Data.Nat.Find
import BlockVolume.Proofs.Section.Blocks

namespace BlockVolume

/-!
# Sections from world files

A world file lists its palette in any order, with repetitions and with or
without the default state, and its ids lie in one of two layouts. Reading it
resolves every id in the file's palette. It fails exactly when longs are missing
or an id has no state, and says which.
-/

/-! ## Widths of world files -/

/-- A mask needs as many bits as it sets. -/
theorem bitsNeeded_lowMask
    {width : Nat}
    (positive : 0 < width) :
    bitsNeeded (lowMask width) = width := by
  obtain ⟨lower, rfl⟩ : ∃ lower, width = lower + 1 := ⟨width - 1, by omega⟩
  have power : 2 ^ (lower + 1) = 2 * 2 ^ lower := by rw [Nat.pow_succ, Nat.mul_comm]
  have positivePower := Nat.two_pow_pos lower
  have top : (2 ^ (lower + 1) - 1).log2 = lower := by
    rw [Nat.log2_eq_iff (by omega)]
    omega
  rw [bitsNeeded, lowMask, Nat.one_shiftLeft, top]

/-- A mask bounds every value of its width. -/
theorem le_lowMask_of_lt
    {value width : Nat}
    (fits : value < 2 ^ width) :
    value ≤ lowMask width := by
  rw [lowMask, Nat.one_shiftLeft]
  omega

namespace Long

/-- A cell fits into its width. -/
theorem cell_lt
    (isPadded : Bool)
    (longs : List Int)
    (width index : Nat) :
    cell isPadded longs width index < 2 ^ width := by
  have positive := Nat.two_pow_pos width
  unfold cell paddedCell contiguousCell
  split
  · exact Nat.mod_lt _ positive
  · exact Nat.mod_lt _ positive

end Long

namespace Section

theorem worldBits_pos (size : Nat) : 0 < worldBits size :=
  Nat.lt_of_lt_of_le (show 0 < minWorldBits by decide) (Nat.le_max_left _ _)

/-- A palette of fewer than `2 ^ 31` states has ids of at most 31 bits. -/
theorem worldBits_le
    {size : Nat}
    (small : size < 2 ^ 31) :
    worldBits size ≤ 31 := by
  have widest : bitsNeeded maxCellValue = 31 := by decide
  have bits : bitsNeeded (size - 1) ≤ bitsNeeded maxCellValue :=
    bitsNeeded_mono (by unfold maxCellValue; omega)
  exact Nat.max_le.2 ⟨by decide, widest ▸ bits⟩

/-- The dimensions of a section of a width up to 31 are accepted. -/
theorem checkNew_section
    {width : Nat}
    (fits : width ≤ 31) :
    PackedArray.checkNew .padded (.ofNat cellCount) (.ofNat (lowMask width)) =
      .ok (cellCount, lowMask width) := by
  refine PackedArray.checkNew_eq_ok_iff.2 ⟨rfl, Number.toNat?_ofNat _, ?_, ?_⟩
  · rw [lowMask, Nat.one_shiftLeft]
    have power : 2 ^ width ≤ 2 ^ 31 := Nat.pow_le_pow_right (by decide) fits
    unfold maxCellValue
    omega
  · rcases Nat.eq_zero_or_pos width with rfl | positive
    · decide
    · rw [bitsNeeded_lowMask positive]
      have allocatable : ∀ bits < 32,
          Layout.padded.limbBytes * Layout.padded.limbsRequested cellCount bits ≤
            PackedArray.allocatableBytes := by
        decide
      exact allocatable width (by omega)

/-! ## Reading a file -/

/-- The id that a file holds for a block. -/
def worldId
    (world : List BlockState)
    (longs : List Int)
    (dataVersion : Number)
    (cell : Nat) :
    Nat :=
  Long.cell (isPaddedVersion dataVersion) longs (worldBits world.length) cell

/-- A file has longs for every block. -/
def LongsSuffice
    (world : List BlockState)
    (longs : List Int)
    (dataVersion : Number) :
    Prop :=
  if isPaddedVersion dataVersion then
    Layout.ceilDiv cellCount (64 / worldBits world.length) ≤ longs.length
  else
    64 * worldBits world.length ≤ longs.length

instance
    (world : List BlockState)
    (longs : List Int)
    (dataVersion : Number) :
    Decidable (LongsSuffice world longs dataVersion) :=
  inferInstanceAs (Decidable (if isPaddedVersion dataVersion then _ else _))

variable {world : List BlockState} {longs : List Int} {dataVersion : Number}

/-- What suffices for a section is what suffices for its cells. -/
theorem longsSuffice_iff :
    LongsSuffice world longs dataVersion ↔
      Long.Suffice (isPaddedVersion dataVersion) longs (worldBits world.length) cellCount := by
  unfold LongsSuffice Long.Suffice
  split
  · exact Iff.rfl
  · have bytes :
        Layout.bytesNeeded cellCount (worldBits world.length) = 8 * (64 * worldBits world.length) := by
      unfold Layout.bytesNeeded Layout.ceilDiv cellCount
      omega
    rw [bytes]
    omega

/-- A file with a palette is read in stages: its longs, their new ids, and the check of these. -/
theorem ofWorld_of_ne_nil
    (defaultState : BlockState)
    (nonempty : world ≠ [])
    {palette : Palette}
    {ids : List Nat}
    (inserted : (Palette.make defaultState).insertMany world = (palette, ids)) :
    ofWorld defaultState world longs dataVersion =
      (PackedArray.ofLongs longs (.ofNat cellCount) (.ofNat (lowMask (worldBits world.length)))
          (isPaddedVersion dataVersion) >>= fun stored =>
        PackedArray.finished ((Remap.ofIds ids).apply stored) >>= make palette) := by
  have notEmpty : world.isEmpty = false := by simpa using nonempty
  rw [ofWorld, notEmpty, inserted]
  rfl

/-- Too few longs are a range failure. -/
theorem ofWorld_of_short
    (defaultState : BlockState)
    (nonempty : world ≠ [])
    (small : world.length < 2 ^ 31)
    (short : ¬ LongsSuffice world longs dataVersion) :
    ∃ cause, ofWorld defaultState world longs dataVersion = .error cause ∧
      cause.failure.kind = .range := by
  have accepted := checkNew_section (worldBits_le small)
  have missing :
      ¬ Long.Suffice (isPaddedVersion dataVersion) longs
        (bitsNeeded (lowMask (worldBits world.length))) cellCount := by
    rw [bitsNeeded_lowMask (worldBits_pos _)]
    exact mt longsSuffice_iff.2 short
  obtain ⟨cause, refused, kind⟩ := PackedArray.ofLongs_of_short accepted missing
  refine ⟨cause, ?_, kind⟩
  rw [ofWorld_of_ne_nil defaultState nonempty rfl, refused]
  rfl

/-- With enough longs the stored ids are read, whatever they are. -/
theorem ofLongs_world
    (small : world.length < 2 ^ 31)
    (enough : LongsSuffice world longs dataVersion) :
    ∃ stored,
      PackedArray.ofLongs longs (.ofNat cellCount) (.ofNat (lowMask (worldBits world.length)))
        (isPaddedVersion dataVersion) = .ok stored ∧
      stored.Represents (lowMask (worldBits world.length))
        ((List.range cellCount).map (worldId world longs dataVersion)) := by
  have accepted := checkNew_section (worldBits_le small)
  have width := bitsNeeded_lowMask (worldBits_pos world.length)
  have present :
      Long.Suffice (isPaddedVersion dataVersion) longs
        (bitsNeeded (lowMask (worldBits world.length))) cellCount := by
    rw [width]
    exact longsSuffice_iff.1 enough
  obtain ⟨stored, read, shows⟩ := PackedArray.ofLongs_of_le accepted present (by
    intro value member
    obtain ⟨index, -, rfl⟩ := List.mem_map.1 member
    rw [width]
    exact le_lowMask_of_lt (Long.cell_lt _ _ _ _))
  rw [width] at shows
  exact ⟨stored, read, shows⟩

/-- With enough longs a file is read up to the renumbering of what is stored. -/
theorem ofWorld_of_enough
    (defaultState : BlockState)
    (nonempty : world ≠ [])
    (small : world.length < 2 ^ 31)
    (enough : LongsSuffice world longs dataVersion) :
    ∃ palette ids stored,
      ofWorld defaultState world longs dataVersion =
        (PackedArray.finished ((Remap.ofIds ids).apply stored) >>= make palette) ∧
      palette.WellFormed ∧
      palette.states = defaultState :: BlockState.unseen [defaultState] world ∧
      palette.Resolves ids (world.map BlockState.key) ∧
      stored.Represents (lowMask (worldBits world.length))
        ((List.range cellCount).map (worldId world longs dataVersion)) := by
  obtain ⟨palette, ids, inserted, wellFormed, states, resolves⟩ :=
    (Palette.WellFormed.make defaultState).insertMany_spec world
  obtain ⟨stored, read, shows⟩ := ofLongs_world small enough
  refine ⟨palette, ids, stored, ?_, wellFormed, states, resolves, shows⟩
  rw [ofWorld_of_ne_nil defaultState nonempty inserted, read]
  rfl

/-- A section that was read from a file is consistent, whatever the file holds. -/
theorem consistent_of_ofWorld
    {defaultState : BlockState}
    {slab : Section}
    (read : ofWorld defaultState world longs dataVersion = .ok slab) :
    slab.Consistent := by
  obtain ⟨palette, ids, inserted, wellFormed, -⟩ :=
    (Palette.WellFormed.make defaultState).insertMany_spec world
  have nonempty : world ≠ [] := by
    rintro rfl
    cases read
  rw [ofWorld_of_ne_nil defaultState nonempty inserted] at read
  obtain ⟨stored, readStored, rest⟩ := bind_eq_ok_iff.1 read
  obtain ⟨storage, renumbered, made⟩ := bind_eq_ok_iff.1 rest
  obtain ⟨size_eq, resolves, rfl⟩ := make_eq_ok_iff.1 made
  have sound := (PackedArray.Reachable.ofLongs readStored).apply (Remap.ofIds ids)
  obtain ⟨-, -, rfl⟩ := map_eq_ok_iff.1 renumbered
  exact
    { wellFormed
      sound := sound.sound
      size_eq
      resolves }

theorem length_of_resolves
    {palette : Palette}
    {ids : List Nat}
    (resolves : palette.Resolves ids (world.map BlockState.key)) :
    ids.length = world.length := by
  rw [resolves.length_eq, List.length_map]

/-- A file whose ids all have states is read, and each block has the state of its id. -/
theorem ofWorld_of_lt
    (defaultState : BlockState)
    (nonempty : world ≠ [])
    (small : world.length < 2 ^ 31)
    (enough : LongsSuffice world longs dataVersion)
    (inside : ∀ cell < cellCount, worldId world longs dataVersion cell < world.length) :
    ∃ slab, ofWorld defaultState world longs dataVersion = .ok slab ∧
      slab.palette.states = defaultState :: BlockState.unseen [defaultState] world ∧
      slab.Shows
        ((List.range cellCount).map fun cell =>
          (world.getD (worldId world longs dataVersion cell) defaultState).key) := by
  obtain ⟨palette, ids, stored, read, wellFormed, states, resolves, shows⟩ :=
    ofWorld_of_enough defaultState nonempty small enough
  have idCount := length_of_resolves resolves
  have someIds : ids ≠ [] := by
    rintro rfl
    exact nonempty (List.length_eq_zero_iff.1 idCount.symm)
  have addressable : palette.Addressable := by
    have counted := BlockState.length_unseen_le [defaultState] world
    rw [Palette.Addressable, ← Palette.length_states, states, List.length_cons]
    unfold maxCellValue
    omega
  obtain ⟨storage, applied, showsStorage, within⟩ :=
    Remap.apply_ofIds shows someIds
      (fun value member => by
        obtain ⟨cell, inRange, rfl⟩ := List.mem_map.1 member
        exact idCount ▸ inside cell (List.mem_range.1 inRange))
      (fun id member => addressable.le_maxCellValue (resolves.id_lt member))
  have blocksResolve :
      palette.Resolves storage.values
        ((List.range cellCount).map fun cell =>
          (world.getD (worldId world longs dataVersion cell) defaultState).key) := by
    rw [showsStorage.values_eq]
    refine resolves.select ?_
    rw [List.map_map, List.map_map]
    refine List.map_congr_left fun cell inRange => ?_
    have known := inside cell (List.mem_range.1 inRange)
    simp [known]
  have rightSize : storage.size = cellCount := by
    rw [← PackedArray.length_values, blocksResolve.length_eq, List.length_map, List.length_range]
  have made : make palette storage = .ok { palette, storage } :=
    make_eq_ok_iff.2 ⟨rightSize, fun id member => blocksResolve.id_lt member, rfl⟩
  refine ⟨{ palette, storage }, ?_, states, ?_⟩
  · rw [read, PackedArray.finished, applied]
    exact made
  · exact
      { wellFormed
        sound := showsStorage.sound within
        length_eq := by rw [List.length_map, List.length_range]
        resolves := blocksResolve }

/-- The first block whose id has no state is refused, and its id is named. -/
theorem ofWorld_of_unmapped
    (defaultState : BlockState)
    (nonempty : world ≠ [])
    (small : world.length < 2 ^ 31)
    (enough : LongsSuffice world longs dataVersion)
    {cell : Nat}
    (inSection : cell < cellCount)
    (early : ∀ earlier < cell, worldId world longs dataVersion earlier < world.length)
    (outside : world.length ≤ worldId world longs dataVersion cell) :
    ofWorld defaultState world longs dataVersion =
      .error (.unmappedId (.ofNat (worldId world longs dataVersion cell))) := by
  obtain ⟨palette, ids, stored, read, -, -, resolves, shows⟩ :=
    ofWorld_of_enough defaultState nonempty small enough
  have idCount := length_of_resolves resolves
  have someIds : ids ≠ [] := by
    rintro rfl
    exact nonempty (List.length_eq_zero_iff.1 idCount.symm)
  have split := congrArg (List.map (worldId world longs dataVersion)) (range_split inSection)
  rw [List.map_append, List.map_cons] at split
  rw [read, PackedArray.finished,
    Remap.apply_ofIds_of_le shows someIds split (fun other member => by
      obtain ⟨earlier, inRange, rfl⟩ := List.mem_map.1 member
      exact idCount ▸ early earlier (List.mem_range.1 inRange)) (idCount ▸ outside)]
  rfl

/--
A file is read exactly when it has longs for every block and every id has a
state. The blocks then have the states of their ids, and the palette is the
default state followed by the other states of the file. Missing longs are a
range failure; with enough of them the first id without a state is refused.
-/
theorem ofWorld_decodes
    (defaultState : BlockState)
    (longs : List Int)
    (dataVersion : Number)
    (nonempty : world ≠ [])
    (small : world.length < 2 ^ 31) :
    ((∃ slab, ofWorld defaultState world longs dataVersion = .ok slab) ↔
        LongsSuffice world longs dataVersion ∧
          ∀ cell < cellCount, worldId world longs dataVersion cell < world.length) ∧
      (∀ slab, ofWorld defaultState world longs dataVersion = .ok slab →
        slab.palette.states = defaultState :: BlockState.unseen [defaultState] world ∧
          ∀ cell < cellCount, ∃ expected found,
            world[worldId world longs dataVersion cell]? = some expected ∧
              slab.get (.ofNat (cell % 16)) (.ofNat (cell / 256)) (.ofNat (cell / 16 % 16)) =
                .ok found ∧
              found.same expected = true) ∧
      (¬ LongsSuffice world longs dataVersion →
        ∃ cause, ofWorld defaultState world longs dataVersion = .error cause ∧
          cause.failure.kind = .range) ∧
      (LongsSuffice world longs dataVersion →
        ∀ cell < cellCount,
          (∀ earlier < cell, worldId world longs dataVersion earlier < world.length) →
          world.length ≤ worldId world longs dataVersion cell →
          ∃ cause, ofWorld defaultState world longs dataVersion = .error cause ∧
            cause = .unmappedId (.ofNat (worldId world longs dataVersion cell)) ∧
            cause.failure.kind = .palette) := by
  have refusedShort : ¬ LongsSuffice world longs dataVersion →
      ∃ cause, ofWorld defaultState world longs dataVersion = .error cause ∧
        cause.failure.kind = .range :=
    ofWorld_of_short defaultState nonempty small
  have refusedFirst : ∀ cell < cellCount, LongsSuffice world longs dataVersion →
      (∀ earlier < cell, worldId world longs dataVersion earlier < world.length) →
      world.length ≤ worldId world longs dataVersion cell →
      ofWorld defaultState world longs dataVersion =
        .error (.unmappedId (.ofNat (worldId world longs dataVersion cell))) :=
    fun _ inSection enough early outside =>
      ofWorld_of_unmapped defaultState nonempty small enough inSection early outside
  have succeeds_iff :
      (∃ slab, ofWorld defaultState world longs dataVersion = .ok slab) ↔
        LongsSuffice world longs dataVersion ∧
          ∀ cell < cellCount, worldId world longs dataVersion cell < world.length := by
    constructor
    · rintro ⟨slab, read⟩
      have enough : LongsSuffice world longs dataVersion := by
        apply Classical.byContradiction
        intro short
        obtain ⟨cause, refused, -⟩ := refusedShort short
        rw [refused] at read
        cases read
      refine ⟨enough, ?_⟩
      -- A file that is read has no first stray id, since that one would have been refused.
      apply Classical.byContradiction
      intro notAll
      have stray :
          ∃ cell, cell < cellCount ∧ world.length ≤ worldId world longs dataVersion cell := by
        simpa using notAll
      obtain ⟨inSection, outside⟩ := Nat.find_spec stray
      have early : ∀ earlier < Nat.find stray,
          worldId world longs dataVersion earlier < world.length := by
        intro earlier below
        have notStray := Nat.find_min stray below
        exact Nat.lt_of_not_le fun beyond => notStray ⟨Nat.lt_trans below inSection, beyond⟩
      rw [refusedFirst _ inSection enough early outside] at read
      cases read
    · rintro ⟨enough, inside⟩
      obtain ⟨slab, read, -⟩ := ofWorld_of_lt defaultState nonempty small enough inside
      exact ⟨slab, read⟩
  refine ⟨succeeds_iff, ?_, refusedShort, ?_⟩
  · intro slab read
    obtain ⟨enough, inside⟩ := succeeds_iff.1 ⟨slab, read⟩
    obtain ⟨decoded, readDecoded, states, shows⟩ :=
      ofWorld_of_lt defaultState nonempty small enough inside
    rw [readDecoded] at read
    cases read
    refine ⟨states, fun cell inSection => ?_⟩
    have known := inside cell inSection
    obtain ⟨found, read, sameKey⟩ := shows.get_of_place (place?_ofCell inSection)
    refine ⟨world[worldId world longs dataVersion cell], found,
      List.getElem?_eq_getElem known, read, ?_⟩
    rw [Place.cell_ofCell, List.getElem?_map, List.getElem?_range inSection, Option.map_some,
      Option.some.injEq, List.getD_eq_getElem?_getD, List.getElem?_eq_getElem known] at sameKey
    rw [BlockState.same, beq_iff_eq]
    exact sameKey.symm
  · intro enough cell inSection early outside
    exact ⟨_, refusedFirst cell inSection enough early outside, rfl, rfl⟩

/--
A file in the older layout that lists one state sixteen times, then another one, and
not the default state. Ids take five bits, so the thirteenth block spans two longs.
The file is read when that block has the last id and refused when it has the next
one, which has no state; in the newer layout it would lack longs.
-/
theorem ofWorld_decodes_spanning_block :
    ∃ (stone dirt : BlockState) (world : List BlockState) (longs stray : List Int),
      stone.same dirt = false ∧ world = List.replicate 16 stone ++ [dirt] ∧
      world ≠ [] ∧ world.length < 2 ^ 31 ∧
      (∃ slab first spanning, ofWorld .air world longs 2528 = .ok slab ∧
        slab.palette.states = [.air, stone, dirt] ∧
        slab.get 0 0 0 = .ok first ∧ first.same stone = true ∧
        slab.get 12 0 0 = .ok spanning ∧ spanning.same dirt = true) ∧
      (∃ cause, ofWorld .air world stray 2528 = .error cause ∧
        cause = .unmappedId (.ofNat 17) ∧ cause.failure.kind = .palette) ∧
      ∃ cause, ofWorld .air world longs 2529 = .error cause ∧ cause.failure.kind = .range := by
  let stone : BlockState := .bare ⟨"minecraft", "stone", by decide, by decide⟩
  let dirt : BlockState := .bare ⟨"minecraft", "dirt", by decide, by decide⟩
  let world := List.replicate 16 stone ++ [dirt]
  let longs : List Int := [0, 1] ++ List.replicate 318 0
  let stray : List Int := [2 ^ 60, 1] ++ List.replicate 318 0
  have nonempty : world ≠ [] := by decide
  have small : world.length < 2 ^ 31 := by decide
  have total : Long.total longs = 2 ^ 64 := by decide +kernel
  have totalStray : Long.total stray = 2 ^ 64 + 2 ^ 60 := by decide +kernel
  have oldLayout : isPaddedVersion 2528 = false := by decide
  have bits : worldBits world.length = 5 := by decide
  have idAt : ∀ longs cell,
      worldId world longs 2528 cell = Long.total longs / 2 ^ (5 * cell) % 2 ^ 5 := by
    intro longs cell
    rw [worldId, oldLayout, bits, Long.cell, if_neg Bool.false_ne_true, Long.contiguousCell]
  have inside : ∀ cell < cellCount, worldId world longs 2528 cell < world.length := by
    intro cell _
    rw [idAt, total]
    by_cases below : cell < 13
    · exact (by decide : ∀ cell < 13, 2 ^ 64 / 2 ^ (5 * cell) % 2 ^ 5 < 17) cell below
    · have beyond : 2 ^ 64 < 2 ^ (5 * cell) := Nat.pow_lt_pow_right (by decide) (by omega)
      rw [Nat.div_eq_of_lt beyond]
      decide
  have early : ∀ cell < 12, worldId world stray 2528 cell < world.length := by
    intro cell below
    rw [idAt, totalStray]
    exact (by decide : ∀ cell < 12, (2 ^ 64 + 2 ^ 60) / 2 ^ (5 * cell) % 2 ^ 5 < 17) cell below
  obtain ⟨succeeds, decodes, -, -⟩ := ofWorld_decodes .air longs 2528 nonempty small
  obtain ⟨-, -, -, refusesStray⟩ := ofWorld_decodes .air stray 2528 nonempty small
  obtain ⟨-, -, refusesShort, -⟩ := ofWorld_decodes .air longs 2529 nonempty small
  obtain ⟨slab, read⟩ := succeeds.2 ⟨by decide +kernel, inside⟩
  obtain ⟨states, blocks⟩ := decodes slab read
  obtain ⟨expected, first, listed, readFirst, same⟩ := blocks 0 (by decide)
  obtain ⟨expectedSpanning, spanning, listedSpanning, readSpanning, sameSpanning⟩ :=
    blocks 12 (by decide)
  rw [idAt, total] at listed listedSpanning
  obtain rfl : stone = expected := Option.some.inj listed
  obtain rfl : dirt = expectedSpanning := Option.some.inj listedSpanning
  have strayId : worldId world stray 2528 12 = 17 := by
    rw [idAt, totalStray]
    decide
  obtain ⟨cause, refused, cause_eq, kind⟩ :=
    refusesStray (by decide +kernel) 12 (by decide) early (by rw [strayId]; decide)
  rw [strayId] at cause_eq
  exact ⟨stone, dirt, world, longs, stray, by decide, rfl, nonempty, small,
    ⟨slab, first, spanning, read, states.trans (by decide), readFirst, same, readSpanning,
      sameSpanning⟩,
    ⟨cause, refused, cause_eq, kind⟩, refusesShort (by decide +kernel)⟩

end Section

end BlockVolume
