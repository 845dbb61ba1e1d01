import BadgeLink.Frame
import BadgeLink.Proofs.Outcome

/-!
# Frames delimit themselves

A frame says in its first byte where it ends.  So a frame can be cut off the front of any bytes in one
way only, and its first byte and data can be read off it again.  The length byte of a frame is never
zero, because the body has at least its own first byte.
-/

namespace BadgeLink
namespace Frame

theorem toNat_lengthByte {n : Nat} (hn : n ≤ 255) : n.toUInt8.toNat = n := by
  rw [Nat.toUInt8_eq, UInt8.toNat_ofNat']
  omega

theorem lengthByte_inj
    {m n : Nat} (hm : m ≤ 255) (hn : n ≤ 255)
    (heq : m.toUInt8 = n.toUInt8) : m = n := by
  have hnat := congrArg UInt8.toNat heq
  rwa [toNat_lengthByte hm, toNat_lengthByte hn] at hnat

theorem lengthByte_ne_zero {n : Nat} (hpos : 0 < n) (hn : n ≤ 255) : n.toUInt8 ≠ 0 := by
  intro hzero
  have hn0 : n = 0 := lengthByte_inj hn (by omega) hzero
  omega

/-- A frame exists exactly when its body fits the length byte, and then it is the length, the body and
the checksum. -/
theorem encode_eq_ok_iff
    {first : UInt8} {data bytes : List UInt8} :
    encode first data = .ok bytes ↔
      data.length ≤ 254 ∧
        bytes = (data.length + 1).toUInt8 :: first :: (data ++ [checksum (first :: data)]) := by
  have hfits_iff : ¬maxBody < (first :: data).length ↔ data.length ≤ 254 := by
    rw [maxBody, List.length_cons]
    omega
  rw [encode, Except.ite_error_eq_ok_iff, hfits_iff, Except.ok.injEq, eq_comm (b := bytes)]
  rfl

/-- The only fault of a frame is that its body is too long for the length byte. -/
theorem encode_eq_error_iff {first : UInt8} {data : List UInt8} {e : Error} :
    encode first data = .error e ↔
      254 < data.length ∧ e = .argument (.bodyLength (data.length + 1)) := by
  have hlong_iff : maxBody < (first :: data).length ↔ 254 < data.length := by
    rw [maxBody, List.length_cons]
    omega
  rw [encode, Except.ite_error_ok_eq_error_iff, hlong_iff, List.length_cons]

theorem refusesOnly_encode (first : UInt8) (data : List UInt8) : RefusesOnly (encode first data) :=
  .ite (.argument _) (.ok _)

/-- Bytes start with at most one frame, and the frame determines what it carries. -/
theorem encode_append_inj
    {first first' : UInt8} {data data' bytes bytes' rest rest' : List UInt8}
    (hframe : encode first data = .ok bytes)
    (hframe' : encode first' data' = .ok bytes')
    (heq : bytes ++ rest = bytes' ++ rest') :
    first = first' ∧ data = data' ∧ rest = rest' := by
  obtain ⟨hfits, rfl⟩ := encode_eq_ok_iff.mp hframe
  obtain ⟨hfits', rfl⟩ := encode_eq_ok_iff.mp hframe'
  simp only [List.cons_append, List.append_assoc, List.cons.injEq] at heq
  obtain ⟨hlength, hfirst, htail⟩ := heq
  have hlen : data.length = data'.length := by
    have := lengthByte_inj (by omega) (by omega) hlength
    omega
  obtain ⟨hdata, hsum⟩ := List.append_inj htail hlen
  exact ⟨hfirst, hdata, (List.cons.inj hsum).2⟩

end Frame
end BadgeLink
