import Mathlib.Algebra.Group.Nat.Defs
import BadgeLink.RegisterAddress
import BadgeLink.Proofs.Outcome

/-!
# The size of register addresses

A number takes as many bytes as its highest bit asks for.  So the numbers that can name a register are
those below two to the power of 32, just as the raw addresses are those of at most four bytes.
-/

namespace BadgeLink
namespace RegisterAddress

/-- Whether an address fits the four bytes that a device can be sent. -/
def InRange : RegisterAddress → Prop
  | raw bytes => bytes.length ≤ 4
  | number value => value.toNat < 2 ^ 32

instance : DecidablePred InRange
  | raw bytes => inferInstanceAs (Decidable (bytes.length ≤ 4))
  | number value => inferInstanceAs (Decidable (value.toNat < 2 ^ 32))

/-- The number of bits bounds a value from above, and nothing smaller does. -/
theorem bitLength_le_iff {value : UInt64} {k : Nat} : bitLength value ≤ k ↔ value.toNat < 2 ^ k := by
  by_cases hzero : value = 0
  · subst hzero
    rw [bitLength, if_pos rfl]
    exact iff_of_true (Nat.zero_le k) (Nat.two_pow_pos k)
  · have hnat : value.toNat ≠ 0 := fun h => hzero (UInt64.toNat_inj.mp h)
    rw [bitLength, if_neg hzero, Nat.succ_le_iff, Nat.log2_lt hnat]

theorem byteCount_le_eight (value : UInt64) : byteCount value ≤ 8 := by
  have hbits : bitLength value ≤ 64 := bitLength_le_iff.mpr value.toNat_lt
  rw [byteCount]
  omega

theorem length_minimalBytes (value : UInt64) : (minimalBytes value).length = byteCount value := by
  have hcount := byteCount_le_eight value
  rw [minimalBytes, List.length_drop, bigEndian, List.length_map]
  simp only [List.length_cons, List.length_nil]
  omega

theorem length_bytes_le_iff {address : RegisterAddress} :
    address.bytes.length ≤ maxLength ↔ address.InRange := by
  cases address with
  | raw bytes => rfl
  | number value =>
      have hbits : bitLength value ≤ 32 ↔ value.toNat < 2 ^ 32 := bitLength_le_iff
      rw [bytes, length_minimalBytes, InRange, ← hbits, maxLength, byteCount]
      omega

/-- Exactly an address in range is sent, and it is sent as it is. -/
theorem toBytes_eq_ok_iff {address : RegisterAddress} {sent : List UInt8} :
    address.toBytes = .ok sent ↔ address.InRange ∧ sent = address.bytes := by
  rw [toBytes, Except.ite_error_eq_ok_iff, Nat.not_lt, length_bytes_le_iff, Except.ok.injEq,
    eq_comm (b := sent)]

theorem refusesOnly_toBytes (address : RegisterAddress) : RefusesOnly address.toBytes :=
  .ite (.argument _) (.ok _)

end RegisterAddress
end BadgeLink
