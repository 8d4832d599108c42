import BlockVolume.Proofs.Storage.Halves

namespace BlockVolume

/-!
# Accesses, step by step

A limb beyond a store reads as zero and cannot be written, and a shift by 32 bits shifts by
none. An access that goes wrong in one of these ways does not fail, it answers wrongly. So
accesses are written here as programs that record every step of this kind. A record changes
nothing in what an access answers; it says which limbs the access has touched and by how
much it has shifted.
-/

/-! ## Naturals among signed integers -/

namespace Wrapped

/-- A mask narrower than 32 bits is a power of two less one. -/
theorem mask_eq
    {width : Nat}
    (narrow : width < 32) :
    mask width = (lowMask width : Nat) := by
  rw [mask, Number.lowMask_ofNat, Nat.min_eq_left (Nat.le_of_lt narrow)]

/-- The power of two of a mask may be the sign bit; it is read without a sign. -/
theorem power_sub_one
    {width : Nat}
    (narrow : width < 32) :
    shiftRight (shiftLeft 1 width) 0 - 1 = mask width := by
  have power : (BitVec.ofNat 32 1 <<< width).toNat = 1 <<< width := by
    have below : 2 ^ width < 2 ^ 32 := Nat.pow_lt_pow_right (by decide) narrow
    simpa [Nat.shiftLeft_eq] using below
  have positive : 1 ≤ 1 <<< width := by
    rw [Nat.one_shiftLeft]
    exact Nat.two_pow_pos width
  rw [mask_eq narrow, lowMask, shiftRight_zero, bits_shiftLeft, Nat.mod_eq_of_lt narrow,
    show bits 1 = BitVec.ofNat 32 1 from rfl, power]
  omega

/-- A natural of 31 bits is not taken for a negative number. -/
theorem toInt_ofNat_of_lt
    {natural : Nat}
    (small : natural < 2 ^ 31) :
    (BitVec.ofNat 32 natural).toInt = natural := by
  have whole : (BitVec.ofNat 32 natural).toNat = natural := Nat.mod_eq_of_lt (by omega)
  rw [BitVec.toInt_eq_toNat_of_lt (by rw [whole]; omega), whole]

theorem bitOr_natCast
    {left right : Nat}
    (leftSmall : left < 2 ^ 31)
    (rightSmall : right < 2 ^ 31) :
    bitOr left right = (left ||| right : Nat) := by
  rw [bitOr, bits_natCast, bits_natCast, ← BitVec.ofNat_or,
    toInt_ofNat_of_lt (Nat.or_lt_two_pow leftSmall rightSmall)]

theorem bitAnd_natCast
    (left : Nat)
    {right : Nat}
    (rightSmall : right < 2 ^ 31) :
    bitAnd left right = (left &&& right : Nat) := by
  rw [bitAnd, bits_natCast, bits_natCast, ← BitVec.ofNat_and,
    toInt_ofNat_of_lt (Nat.and_lt_two_pow left rightSmall)]

theorem shiftLeft_natCast
    {natural count : Nat}
    (inRange : count < 32)
    (small : natural <<< count < 2 ^ 31) :
    shiftLeft natural count = (natural <<< count : Nat) := by
  have shifted : BitVec.ofNat 32 natural <<< count = BitVec.ofNat 32 (natural <<< count) := by
    apply BitVec.eq_of_toNat_eq
    simp [Nat.shiftLeft_eq, Nat.mod_mul_mod]
  rw [shiftLeft, bits_natCast, Nat.mod_eq_of_lt inRange, shifted, toInt_ofNat_of_lt small]

theorem shiftRight_natCast
    {natural count : Nat}
    (inRange : count < 32)
    (small : natural < 2 ^ 32) :
    shiftRight natural count = (natural >>> count : Nat) := by
  rw [shiftRight, bits_natCast, Nat.mod_eq_of_lt inRange, BitVec.toNat_ushiftRight,
    BitVec.toNat_ofNat, Nat.mod_eq_of_lt small]

theorem lowMask_lt
    {width : Nat}
    (narrow : width ≤ 31) :
    lowMask width < 2 ^ 31 := by
  have power := Nat.pow_le_pow_right Nat.two_pos narrow
  have positive := Nat.two_pow_pos width
  rw [lowMask, Nat.one_shiftLeft]
  omega

/-- The lowest bits of a shifted natural, as many as a mask has. -/
theorem masked_natCast
    {natural count width : Nat}
    (small : natural < 2 ^ 32)
    (inRange : count < 32)
    (narrow : width ≤ 31) :
    bitAnd (shiftRight natural count) (mask width) = (natural >>> count &&& lowMask width : Nat) := by
  rw [shiftRight_natCast inRange small, mask_eq (Nat.lt_succ_of_le narrow),
    bitAnd_natCast _ (lowMask_lt narrow)]

end Wrapped

/-! ## Records -/

/-- A step of an access that would go wrong in silence. -/
inductive AccessStep where
  | load (limb : Nat)
  | store (limb : Nat)
  | shift (count : Int)
  | chunk (width : Nat)
  deriving Repr, DecidableEq

namespace AccessStep

/--
A step that goes right: it touches a limb below a limit, shifts by less than 32 bits, or
takes up to a byte, and never nothing.
-/
def Within (limit : Nat) : AccessStep → Prop
  | .load limb => limb < limit
  | .store limb => limb < limit
  | .shift count => 0 ≤ count ∧ count ≤ 31
  | .chunk width => 1 ≤ width ∧ width ≤ 8

/-- The chunks that some steps take of a cell, in order. -/
def chunkWidths (steps : List AccessStep) : List Nat :=
  steps.filterMap fun
    | .chunk width => some width
    | _ => none

theorem chunkWidths_append (first second : List AccessStep) :
    chunkWidths (first ++ second) = chunkWidths first ++ chunkWidths second :=
  List.filterMap_append

end AccessStep

/-- A store under an access, with the steps that were taken so far. -/
structure Recording (limbBits : Nat) where
  limbs : Array (BitVec limbBits)
  steps : List AccessStep

/-- A computation over a store that records its steps. -/
abbrev Access (limbBits : Nat) := StateM (Recording limbBits)

namespace Access

variable {limbBits : Nat} {Answer Later : Type}

/-! ## Single steps -/

/-- Records a step. -/
def note (step : AccessStep) : Access limbBits Unit :=
  modify fun recording => { recording with steps := recording.steps ++ [step] }

/-- The natural in a limb; a limb that does not exist reads as zero. -/
def load (limb : Nat) : Access limbBits Int := do
  note (.load limb)
  return ((← get).limbs.getD limb 0).toNat

/-- Puts the lowest bits of an integer into a limb; nothing is put into one that does not exist. -/
def store (limb : Nat) (value : Int) : Access limbBits Unit := do
  note (.store limb)
  modify fun recording =>
    { recording with
      limbs := recording.limbs.setIfInBounds limb (BitVec.ofInt limbBits value) }

/-- A shift of 32 bits to the left, by the residue of its count. -/
def shiftLeft (value count : Int) : Access limbBits Int := do
  note (.shift count)
  return Wrapped.shiftLeft value (count % 32).toNat

/-- A shift of 32 bits to the right, by the residue of its count. -/
def shiftRight (value count : Int) : Access limbBits Int := do
  note (.shift count)
  return Wrapped.shiftRight value (count % 32).toNat

/-- The mask of a width, made by a shift unless it has all 32 bits. -/
def mask (width : Nat) : Access limbBits Int := do
  if 32 ≤ width then
    return 4294967295
  else
    let power ← shiftRight (← shiftLeft 1 width) 0
    return power - 1

/-! ## Runs -/

/-- From some limbs an access answers, leaves limbs behind and takes steps on the way. -/
def Takes
    (access : Access limbBits Answer)
    (limbs : Array (BitVec limbBits))
    (answer : Answer)
    (left : Array (BitVec limbBits))
    (steps : List AccessStep) :
    Prop :=
  ∀ before, access.run { limbs, steps := before } =
    (answer, { limbs := left, steps := before ++ steps })

section Runs

variable {limbs left last : Array (BitVec limbBits)} {answer : Answer} {later : Later}
  {steps more : List AccessStep}

theorem takes_pure (limbs : Array (BitVec limbBits)) (answer : Answer) :
    Takes (pure answer) limbs answer limbs [] := fun before => by
  rw [List.append_nil]
  rfl

/-- An access goes on where the one before it ended. -/
theorem Takes.bind
    {first : Access limbBits Answer}
    {second : Answer → Access limbBits Later}
    (took : Takes first limbs answer left steps)
    (tookThen : Takes (second answer) left later last more) :
    Takes (first >>= second) limbs later last (steps ++ more) := fun before => by
  rw [StateT.run_bind, took before]
  exact (tookThen _).trans (by rw [List.append_assoc])

/-- The answer is used as it is. -/
theorem Takes.map
    {access : Access limbBits Answer}
    (took : Takes access limbs answer left steps)
    (view : Answer → Later) :
    Takes (do return view (← access)) limbs (view answer) left steps :=
  List.append_nil steps ▸ took.bind (takes_pure left _)

theorem takes_note (limbs : Array (BitVec limbBits)) (step : AccessStep) :
    Takes (note step) limbs () limbs [step] :=
  fun _ => rfl

theorem takes_load (limbs : Array (BitVec limbBits)) (limb : Nat) :
    Takes (load limb) limbs ((limbs.getD limb 0).toNat : Int) limbs [.load limb] :=
  fun _ => rfl

theorem takes_store (limbs : Array (BitVec limbBits)) (limb : Nat) (value : Int) :
    Takes (store limb value) limbs ()
      (limbs.setIfInBounds limb (BitVec.ofInt limbBits value)) [.store limb] :=
  fun _ => rfl

/-- A count of at least zero is taken as the natural that it is. -/
theorem takes_shiftLeft (limbs : Array (BitVec limbBits)) (value : Int) (count : Nat) :
    Takes (shiftLeft value count) limbs (Wrapped.shiftLeft value count) limbs [.shift count] := by
  have sameCount : ((count : Int) % 32).toNat % 32 = count % 32 := by omega
  have residue : Wrapped.shiftLeft value ((count : Int) % 32).toNat =
      Wrapped.shiftLeft value count := by
    rw [Wrapped.shiftLeft, Wrapped.shiftLeft, sameCount]
  exact residue ▸ fun _ => rfl

theorem takes_shiftRight (limbs : Array (BitVec limbBits)) (value : Int) (count : Nat) :
    Takes (shiftRight value count) limbs (Wrapped.shiftRight value count) limbs
      [.shift count] := by
  have sameCount : ((count : Int) % 32).toNat % 32 = count % 32 := by omega
  have residue : Wrapped.shiftRight value ((count : Int) % 32).toNat =
      Wrapped.shiftRight value count := by
    rw [Wrapped.shiftRight, Wrapped.shiftRight, sameCount]
  exact residue ▸ fun _ => rfl

/-- A shift by nothing is one by the natural zero. -/
theorem takes_shiftRight_zero (limbs : Array (BitVec limbBits)) (value : Int) :
    Takes (shiftRight value 0) limbs (Wrapped.shiftRight value 0) limbs [.shift 0] :=
  takes_shiftRight limbs value 0

theorem takes_mask
    (limbs : Array (BitVec limbBits))
    {width : Nat}
    (narrow : width < 32) :
    Takes (mask width) limbs (Wrapped.mask width) limbs [.shift width, .shift 0] := by
  rw [mask, if_neg (Nat.not_le.2 narrow), ← Wrapped.power_sub_one narrow]
  exact (takes_shiftLeft limbs 1 width).bind ((takes_shiftRight_zero limbs _).map (· - 1))

end Runs

end Access

end BlockVolume
