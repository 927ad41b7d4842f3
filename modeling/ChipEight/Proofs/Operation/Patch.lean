import Mathlib.Data.List.Induction
import ChipEight.Proofs.Operation.Footprint

/-! Bytes that instructions lay over memory, and which of them an address shows in the end. -/

namespace ChipEight

/-- Bytes that are put into memory from an address on. -/
structure Patch where
  /-- The address of the first byte. -/
  start : Nat
  /-- The bytes. -/
  bytes : List UInt8
deriving DecidableEq, Repr

namespace Patch

/-- Whether a patch reaches an address. -/
def Covers (patch : Patch) (address : Nat) : Prop :=
  patch.start ≤ address ∧ address < patch.start + patch.bytes.length

/-- The byte that a patch puts at an address, if it reaches there. -/
def byteAt? (patch : Patch) (address : Nat) : Option UInt8 :=
  if patch.start ≤ address then patch.bytes[address - patch.start]? else none

/-- Memory once a patch has been laid over it. -/
def lay (memory : Memory) (patch : Patch) : Memory :=
  memory.overlay patch.start patch.bytes

/-- The byte of the latest of several patches that reach an address, if any of them does. -/
def latest? (patches : List Patch) (address : Nat) : Option UInt8 :=
  patches.reverse.findSome? fun patch => patch.byteAt? address

/-- A patch has no byte for an address that it does not reach. -/
theorem byteAt?_of_not_covers {patch : Patch} {address : Nat} (missed : ¬ patch.Covers address) :
    patch.byteAt? address = none := by
  -- The address lies before the first byte or behind the last one.
  unfold byteAt?
  split
  case isFalse => rfl
  case isTrue reached =>
    refine List.getElem?_eq_none ?_
    unfold Covers at missed
    omega

/-- The last of several patches comes before the others wherever it reaches. -/
theorem latest?_concat (earlier : List Patch) (last : Patch) (address : Nat) :
    latest? (earlier ++ [last]) address =
      (last.byteAt? address).or (latest? earlier address) := by
  -- The patches are searched from the last one on.
  rw [latest?, List.reverse_append, List.reverse_singleton, List.singleton_append,
    List.findSome?_cons]
  cases last.byteAt? address <;> rfl

/-- Where no patch reaches, there is no latest byte. -/
theorem latest?_of_not_covers {patches : List Patch} {address : Nat}
    (missed : ∀ patch ∈ patches, ¬ patch.Covers address) : latest? patches address = none := by
  -- Every patch is asked in vain.
  rw [latest?, List.findSome?_eq_none_iff]
  intro patch listed
  exact byteAt?_of_not_covers (missed patch (List.mem_reverse.mp listed))

/-- Under a patch an address shows the byte of the patch, or what it held before. -/
theorem byteAt_lay (memory : Memory) (patch : Patch) {address : Nat} (within : address < 4096) :
    (lay memory patch).byteAt address = (patch.byteAt? address).getD (memory.byteAt address) := by
  -- Both sides ask whether the address lies behind the start of the patch.
  rw [lay, Memory.byteAt_overlay, byteAt?]
  by_cases reached : patch.start ≤ address <;> simp [reached, within]

/-- Under several patches an address shows the latest byte, or what it held before all of them. -/
theorem byteAt_foldl_lay (memory : Memory) (patches : List Patch) {address : Nat}
    (within : address < 4096) :
    (patches.foldl lay memory).byteAt address =
      (latest? patches address).getD (memory.byteAt address) := by
  -- The last patch decides, and where it does not reach the others do.
  induction patches using List.reverseRecOn with
  | nil => rfl
  | append_singleton earlier last ih =>
    rw [List.foldl_append, List.foldl_cons, List.foldl_nil, byteAt_lay _ _ within, ih,
      latest?_concat]
    cases last.byteAt? address <;> rfl

end Patch

namespace Operation

/-- What an instruction lays over memory, if it stores anything, given the registers and the index
that it finds. -/
def patch? (operation : Operation) (hardware : Hardware) : Option Patch :=
  match operation with
  | digits x => some ⟨hardware.index.toNat, decimalDigits (hardware.register x)⟩
  | store last => some ⟨hardware.index.toNat, hardware.registers.block last⟩
  | _ => none

/-- Instructions other than the two that store have no byte of memory in their footprint. -/
theorem byte_notMem_footprint {operation : Operation} {hardware : Hardware}
    (idle : operation.patch? hardware = none) (address : Nat) :
    Place.byte address ∉ operation.footprint hardware := by
  -- The only long footprint left is made of registers.
  cases operation <;> simp_all [patch?, footprint]

/-- An instruction that is carried out lays its patch over memory and changes nothing else there. -/
theorem memory_of_effect {operation : Operation} {before after : Hardware}
    (carriedOut : operation.effect.run before = .ok () after) :
    after.memory = (operation.patch? before).toList.foldl Patch.lay before.memory := by
  cases operation with
  -- Digits and registers are laid over memory at the index, which is what their patches say.
  | digits x =>
    obtain ⟨-, rfl⟩ := ok_of_digits carriedOut
    rfl
  | store last =>
    obtain ⟨-, rfl⟩ := ok_of_store carriedOut
    rfl
  | _ =>
    -- No byte lies in the footprint, so all of them are kept.
    refine Memory.ext fun address _ => ?_
    exact (same_of_effect carriedOut (byte_notMem_footprint rfl address)).symm

/-- The digits of a byte are decimal digits, and together they make up the byte. -/
theorem decimalDigits_eq (byte : UInt8) :
    ∃ hundreds tens units : UInt8, decimalDigits byte = [hundreds, tens, units] ∧
      (hundreds ≤ 9 ∧ tens ≤ 9 ∧ units ≤ 9) ∧
      100 * hundreds.toNat + 10 * tens.toNat + units.toNat = byte.toNat := by
  refine ⟨_, _, _, rfl, ?_, ?_⟩
  · -- A byte has at most two hundreds, and the other two digits are remainders by ten.
    have small := byte.toNat_lt
    simp only [UInt8.le_iff_toNat_le, UInt8.toNat_div, UInt8.toNat_mod, UInt8.toNat_ofNat,
      Nat.reducePow, Nat.reduceMod]
    omega
  · -- The digits are those of the number to the base of ten.
    simp only [UInt8.toNat_div, UInt8.toNat_mod, UInt8.toNat_ofNat, Nat.reducePow, Nat.reduceMod]
    omega

end Operation

namespace Registers

/-- The bytes of a block are those of the registers in order. -/
theorem getElem?_block (registers : Registers) {last number : Register} (early : number ≤ last) :
    (registers.block last)[number.val]? = some (registers.read number) := by
  -- The place of a register in the list of all registers is its number.
  have listed : number.val < last.val + 1 := Nat.lt_succ_of_le early
  simp only [block, Register.through, Nibble.all, List.getElem?_map, List.getElem?_take,
    if_pos listed]
  simp

end Registers

end ChipEight
