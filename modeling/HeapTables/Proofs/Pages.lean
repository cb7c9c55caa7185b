import Mathlib.Algebra.Group.Nat.Defs
import HeapTables.Address

/-! Pages and offsets of an address, in numbers. The mask splits the lower 32 bits
into a part without in-page bits and a part with nothing else, and only the two
parts of an address have that form and its sum. -/
namespace HeapTables
variable {address : UInt64} {page offset : UInt32}

def Aligned (page : UInt32) : Prop := page &&& offsetMask = 0

def InPage (offset : UInt32) : Prop := offset ≤ offsetMask

instance : Decidable (Aligned page) := inferInstanceAs (Decidable (page &&& offsetMask = 0))

instance : Decidable (InPage offset) := inferInstanceAs (Decidable (offset ≤ offsetMask))

theorem maskedNat (word : UInt32) : (word &&& offsetMask).toNat = word.toNat % 2 ^ 18 := by
  have mask : offsetMask.toNat = 2 ^ 18 - 1 := rfl
  rw [UInt32.toNat_and, mask, Nat.and_two_pow_sub_one_eq_mod]

theorem alignedNat : Aligned page ↔ page.toNat % 2 ^ 18 = 0 := by
  rw [Aligned, ← UInt32.toNat_inj, maskedNat]
  rfl

theorem inPageNat : InPage offset ↔ offset.toNat < 2 ^ 18 := by
  have mask : offsetMask.toNat = 2 ^ 18 - 1 := rfl
  rw [InPage, UInt32.le_iff_toNat_le, mask]
  omega

theorem splitJoin (address : UInt64) :
    (splitAddress address).1 ||| (splitAddress address).2 = address.toUInt32 := by
  unfold splitAddress
  apply UInt32.toBitVec_inj.mp
  rw [UInt32.toBitVec_or, UInt32.toBitVec_and, UInt32.toBitVec_and, UInt32.toBitVec_not,
    ← BitVec.and_or_distrib_left, BitVec.not_or_self, BitVec.and_allOnes]

theorem splitDisjoint (address : UInt64) :
    (splitAddress address).1 &&& (splitAddress address).2 = 0 := by
  unfold splitAddress
  calc (address.toUInt32 &&& ~~~offsetMask) &&& (address.toUInt32 &&& offsetMask)
      = address.toUInt32 &&& address.toUInt32 &&& (~~~offsetMask &&& offsetMask) := by ac_rfl
    _ = 0 := by rw [UInt32.not_and_self, UInt32.and_zero]

theorem splitSum (address : UInt64) : (splitAddress address).1.toNat +
    (splitAddress address).2.toNat = address.toNat % 2 ^ 32 := by
  have disjoint := congrArg UInt32.toBitVec (splitDisjoint address)
  have join := congrArg UInt32.toNat (splitJoin address)
  rw [UInt64.toNat_toUInt32] at join
  rw [← join]
  -- Parts that share no bit are joined by adding them without a carry.
  have sum := BitVec.toNat_add_of_and_eq_zero disjoint
  rw [BitVec.add_eq_or_of_and_eq_zero _ _ disjoint] at sum
  exact sum.symm

theorem splitOffset (address : UInt64) :
    (splitAddress address).2.toNat = address.toNat % 2 ^ 18 := by
  have masked := maskedNat address.toUInt32
  rw [UInt64.toNat_toUInt32] at masked
  exact masked.trans (by omega)

theorem splitAligned (address : UInt64) : Aligned (splitAddress address).1 := by
  have sum := splitSum address
  have offset := splitOffset address
  exact alignedNat.mpr (by omega)

theorem splitInPage (address : UInt64) : InPage (splitAddress address).2 := by
  have offset := splitOffset address
  exact inPageNat.mpr (by omega)

theorem splitExact : splitAddress address = (page, offset) ↔
    Aligned page ∧ InPage offset ∧ address.toNat % 2 ^ 32 = page.toNat + offset.toNat := by
  have sum := splitSum address
  have low := splitOffset address
  refine ⟨fun split => ?_, fun ⟨aligned, inside, whole⟩ => ?_⟩
  · have aligned := splitAligned address
    have inside := splitInPage address
    rw [split] at aligned inside sum
    exact ⟨aligned, inside, sum.symm⟩
  · have aligned := alignedNat.mp aligned
    have inside := inPageNat.mp inside
    refine Prod.ext (UInt32.toNat_inj.mp ?_) (UInt32.toNat_inj.mp ?_)
    · show (splitAddress address).1.toNat = page.toNat
      omega
    · show (splitAddress address).2.toNat = offset.toNat
      omega

theorem addInPage (aligned : Aligned page) (inside : InPage offset) :
    page.toNat + offset.toNat < 2 ^ 32 ∧ (page + offset).toNat = page.toNat + offset.toNat := by
  have aligned := alignedNat.mp aligned
  have inside := inPageNat.mp inside
  have bound := page.toNat_lt
  have fits : page.toNat + offset.toNat < 2 ^ 32 := by omega
  exact ⟨fits, by rw [UInt32.toNat_add, Nat.mod_eq_of_lt fits]⟩

end HeapTables
