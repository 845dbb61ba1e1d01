import Mathlib.Algebra.Ring.Parity
import Mathlib.Data.List.Fold
import Mathlib.Data.List.Perm.Basic
import BadgeLink.Proofs.Frame.Decoding

/-!
# Which corruptions are detected

The last byte of an accepted body is the exclusive or of all bytes before it, so the exclusive or of the
whole body is zero.  A corrupted body of the same length is accepted as long as this stays so.  It does
where every bit is flipped an even number of times, and only there: one byte that changes is always
noticed, two bytes that change places never are.
-/

namespace BadgeLink
namespace Frame

/-- The exclusive or of two bodies byte by byte, taken over all bytes: a bit of it is set where the
bodies differ in that bit an odd number of times. -/
def oddDifference (body other : List UInt8) : UInt8 :=
  (List.zipWith (· ^^^ ·) body other).foldr (· ^^^ ·) 0

/-- In how many bytes two bodies differ in this bit. -/
def flips (body other : List UInt8) (bit : Nat) : Nat :=
  (List.zipWith (· ^^^ ·) body other).countP fun difference => difference.toNat.testBit bit

/-- A body whose last byte is not the checksum of the bytes before it. -/
def FailsChecksum (body : List UInt8) : Prop :=
  ∃ expected received, decodeBody body = .error (.checksum expected received)

/-- A body that is taken apart into a status and a payload. -/
def Accepted (body : List UInt8) : Prop :=
  ∃ status payload, decodeBody body = .ok (status, payload)

variable {body other : List UInt8}

/-! ## The exclusive or of all bytes -/

theorem checksum_eq_foldr (bytes : List UInt8) : checksum bytes = bytes.foldr (· ^^^ ·) 0 :=
  List.foldl_eq_foldr

theorem checksum_cons (byte : UInt8) (bytes : List UInt8) :
    checksum (byte :: bytes) = byte ^^^ checksum bytes := by
  rw [checksum_eq_foldr, checksum_eq_foldr, List.foldr_cons]

theorem checksum_eq_of_perm (hperm : body.Perm other) : checksum body = checksum other := by
  rw [checksum_eq_foldr, checksum_eq_foldr, hperm.foldr_eq]

/-- It does not matter to a checksum where in the list a byte stands. -/
theorem checksum_middle (before after : List UInt8) (byte : UInt8) :
    checksum (before ++ byte :: after) = byte ^^^ checksum (before ++ after) := by
  rw [checksum_eq_of_perm List.perm_middle, checksum_cons]

theorem oddDifference_eq (hlength : other.length = body.length) :
    oddDifference body other = checksum body ^^^ checksum other := by
  induction body generalizing other with
  | nil =>
      obtain rfl := List.length_eq_zero_iff.mp hlength
      rfl
  | cons byte rest ih =>
      obtain ⟨byte', rest', rfl⟩ := List.exists_cons_of_length_eq_add_one hlength
      have htail := ih (Nat.succ.inj hlength)
      rw [oddDifference] at htail ⊢
      rw [List.zipWith_cons_cons, List.foldr_cons, htail, checksum_cons, checksum_cons]
      ac_rfl

/-- A bit of a checksum is the parity of the number of bytes in which this bit is set. -/
theorem testBit_checksum_iff (bytes : List UInt8) (bit : Nat) :
    (checksum bytes).toNat.testBit bit = true ↔
      Odd (bytes.countP fun byte => byte.toNat.testBit bit) := by
  induction bytes with
  | nil => simp [checksum]
  | cons byte rest ih =>
      rw [checksum_cons, UInt8.toNat_xor, Nat.testBit_xor, List.countP_cons]
      by_cases hbit : byte.toNat.testBit bit = true
      · rw [if_pos hbit, hbit, Nat.odd_add_one, ← ih]
        simp
      · rw [if_neg hbit, Nat.add_zero, ← ih, Bool.eq_false_iff.mpr hbit]
        simp

theorem oddDifference_ne_zero_of_flips {bit : Nat} (hodd : Odd (flips body other bit)) :
    oddDifference body other ≠ 0 := by
  intro hzero
  rw [oddDifference, ← checksum_eq_foldr] at hzero
  have hbit := (testBit_checksum_iff _ bit).mpr hodd
  rw [hzero] at hbit
  simp at hbit

/-! ## What is accepted -/

/-- With at least a status and a checksum, a body is accepted or fails for its checksum, as the exclusive
or of all its bytes is zero or not. -/
theorem decodeBody_by_checksum (hbody : 2 ≤ body.length) :
    (checksum body = 0 ∧ Accepted body) ∨
      ∃ expected received, checksum body = expected ^^^ received ∧ checksum body ≠ 0 ∧
        decodeBody body = .error (.checksum expected received) := by
  obtain ⟨status, payload, received, rfl⟩ := exists_status_checksum hbody
  have hsum : checksum (status :: (payload ++ [received])) =
      checksum (status :: payload) ^^^ received := by
    rw [← List.cons_append, checksum_middle, List.append_nil, UInt8.xor_comm]
  rw [hsum, decodeBody_concat]
  by_cases hequal : checksum (status :: payload) = received
  · left
    refine ⟨UInt8.xor_eq_zero_iff.mpr hequal, status, payload, ?_⟩
    rw [decodeBody_concat, if_pos hequal]
  · right
    refine ⟨_, received, rfl, fun hzero => hequal (UInt8.xor_eq_zero_iff.mp hzero), ?_⟩
    rw [if_neg hequal]

theorem Accepted.two_le_length (h : Accepted body) : 2 ≤ body.length := by
  obtain ⟨status, payload, hdecode⟩ := h
  rw [decodeBody_eq_ok_iff.mp hdecode]
  simp

theorem Accepted.checksum_eq_zero (h : Accepted body) : checksum body = 0 := by
  rcases decodeBody_by_checksum h.two_le_length with ⟨hzero, -⟩ | ⟨_, _, -, -, herror⟩
  · exact hzero
  · obtain ⟨status, payload, hdecode⟩ := h
    rw [hdecode] at herror
    cases herror

theorem accepted_of_checksum_eq_zero (hbody : 2 ≤ body.length) (hzero : checksum body = 0) :
    Accepted body := by
  rcases decodeBody_by_checksum hbody with ⟨-, haccepted⟩ | ⟨_, _, -, hne, -⟩
  · exact haccepted
  · exact absurd hzero hne

theorem failsChecksum_iff (hbody : 2 ≤ body.length) : FailsChecksum body ↔ checksum body ≠ 0 := by
  constructor
  · rintro ⟨expected, received, herror⟩ hzero
    obtain ⟨status, payload, hdecode⟩ := accepted_of_checksum_eq_zero hbody hzero
    rw [hdecode] at herror
    cases herror
  · intro hne
    rcases decodeBody_by_checksum hbody with ⟨hzero, -⟩ | ⟨expected, received, -, -, herror⟩
    · exact absurd hzero hne
    · exact ⟨expected, received, herror⟩

/-- The two checksums of a refused body differ in the exclusive or of all its bytes. -/
theorem xor_of_failsChecksum {expected received : UInt8} (hbody : 2 ≤ body.length)
    (herror : decodeBody body = .error (.checksum expected received)) :
    expected ^^^ received = checksum body := by
  rcases decodeBody_by_checksum hbody with ⟨-, status, payload, hdecode⟩ | ⟨_, _, hsum, -, herror'⟩
  · rw [hdecode] at herror
    cases herror
  · rw [herror] at herror'
    cases herror'
    exact hsum.symm

/-- One byte of an accepted body cannot change alone. -/
theorem Accepted.failsChecksum_set (h : Accepted body) {index : Nat} (hindex : index < body.length)
    {byte : UInt8} (hbyte : byte ≠ body[index]) : FailsChecksum (body.set index byte) := by
  have hlength : 2 ≤ (body.set index byte).length := by
    rw [List.length_set]
    exact h.two_le_length
  have hbefore : body[index] ^^^ checksum (body.take index ++ body.drop (index + 1)) = 0 := by
    rw [← checksum_middle, List.getElem_cons_drop, List.take_append_drop]
    exact h.checksum_eq_zero
  rw [failsChecksum_iff hlength, List.set_eq_take_append_cons_drop, if_pos hindex, checksum_middle,
    ← UInt8.xor_eq_zero_iff.mp hbefore]
  exact fun hzero => hbyte (UInt8.xor_eq_zero_iff.mp hzero)

/-! ## Corrupted bodies -/

/-- Another body of the length of an accepted one fails for its checksum exactly when the two differ in
some bit an odd number of times, and is accepted otherwise; the two checksums of the error differ in
exactly these bits.  So one byte that changes is noticed, wherever it stands and whatever it becomes, and
so is a bit that is flipped in an odd number of bytes; bytes that change places are not. -/
theorem decodeBody_notices_odd_differences
    {body : List UInt8} (hbody : Accepted body) :
    (∀ other : List UInt8, other.length = body.length →
      (FailsChecksum other ↔ oddDifference body other ≠ 0) ∧
        (Accepted other ↔ oddDifference body other = 0) ∧
        (∀ expected received, decodeBody other = .error (.checksum expected received) →
          expected ^^^ received = oddDifference body other) ∧
        ∀ bit, Odd (flips body other bit) → FailsChecksum other) ∧
      (∀ index, ∀ hindex : index < body.length, ∀ byte, byte ≠ body[index] →
        FailsChecksum (body.set index byte)) ∧
      ∀ other, body.Perm other → Accepted other := by
  refine ⟨?_, ?_, ?_⟩
  · intro other hlength
    have hother : 2 ≤ other.length := hlength ▸ hbody.two_le_length
    have hdifference : oddDifference body other = checksum other := by
      rw [oddDifference_eq hlength, hbody.checksum_eq_zero, UInt8.zero_xor]
    have hfails : FailsChecksum other ↔ oddDifference body other ≠ 0 := by
      rw [hdifference]
      exact failsChecksum_iff hother
    refine ⟨hfails, ⟨?_, ?_⟩, ?_, ?_⟩
    · intro haccepted
      rw [hdifference, haccepted.checksum_eq_zero]
    · intro hzero
      exact accepted_of_checksum_eq_zero hother (hdifference.symm.trans hzero)
    · intro expected received herror
      rw [hdifference, xor_of_failsChecksum hother herror]
    · intro bit hodd
      exact hfails.mpr (oddDifference_ne_zero_of_flips hodd)
  · intro index hindex byte hbyte
    exact hbody.failsChecksum_set hindex hbyte
  · intro other hperm
    have hother : 2 ≤ other.length := hperm.length_eq ▸ hbody.two_le_length
    refine accepted_of_checksum_eq_zero hother ?_
    rw [← checksum_eq_of_perm hperm, hbody.checksum_eq_zero]

/-- A frame with a payload of two bytes: a bit that flips in its status is noticed, and the same bit
flipped in both bytes of the payload is not. -/
theorem decodeBody_notices_one_flip_of_two :
    Accepted [0x80, 0x11, 0x22, 0xb3] ∧ FailsChecksum [0x81, 0x11, 0x22, 0xb3] ∧
      Accepted [0x80, 0x10, 0x23, 0xb3] := by
  have hbody : Accepted [0x80, 0x11, 0x22, 0xb3] := ⟨0x80, [0x11, 0x22], rfl⟩
  obtain ⟨hsame, hset, -⟩ := decodeBody_notices_odd_differences hbody
  obtain ⟨-, haccepted, -⟩ := hsame [0x80, 0x10, 0x23, 0xb3] rfl
  exact ⟨hbody, hset 0 (by decide) 0x81 (by decide), haccepted.mpr (by decide)⟩

end Frame
end BadgeLink
