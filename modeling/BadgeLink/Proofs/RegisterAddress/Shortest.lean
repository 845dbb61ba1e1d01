import Mathlib.Data.Nat.Digits.Lemmas
import BadgeLink.Command
import BadgeLink.Proofs.RegisterAddress

/-!
# Numbers take the fewest bytes

The bytes of a number are the lowest ones of its eight, as many as the number needs and at least one.
They stand for the number, and no fewer bytes do.  So a number and the bytes that it is sent as name the
same register, whatever the width of the number.
-/

namespace BadgeLink
namespace RegisterAddress

/-- The number that bytes stand for, the highest of them first. -/
def bigEndianValue (bytes : List UInt8) : Nat :=
  Nat.ofDigits 256 (bytes.reverse.map UInt8.toNat)

/-- Bytes that stand for a number, at least one and as few as possible. -/
structure Spells (bytes : List UInt8) (value : Nat) : Prop where
  nonempty : bytes ≠ []
  value_eq : bigEndianValue bytes = value
  length_le : ∀ other, other ≠ [] → bigEndianValue other = value → bytes.length ≤ other.length

/-- The addresses that name a number, in any width that holds it. -/
inductive Names : RegisterAddress → Nat → Prop
  | ofUInt8 (value : UInt8) : Names (.ofUInt8 value) value.toNat
  | ofUInt16 (value : UInt16) : Names (.ofUInt16 value) value.toNat
  | ofUInt32 (value : UInt32) : Names (.ofUInt32 value) value.toNat
  | ofUInt64 (value : UInt64) : Names (.ofUInt64 value) value.toNat

variable {bytes sent : List UInt8} {value : UInt64} {address : RegisterAddress} {count : Nat}

/-! ## What bytes stand for -/

theorem two_pow_bits (count : Nat) : 2 ^ (8 * count) = 256 ^ count :=
  pow_mul 2 8 count

theorem bigEndianValue_cons (byte : UInt8) (bytes : List UInt8) :
    bigEndianValue (byte :: bytes) =
      bigEndianValue bytes + 256 ^ bytes.length * byte.toNat := by
  rw [bigEndianValue, bigEndianValue, List.reverse_cons, List.map_append, Nat.ofDigits_append,
    List.length_map, List.length_reverse, List.map_singleton, Nat.ofDigits_singleton]

theorem bigEndianValue_lt (bytes : List UInt8) : bigEndianValue bytes < 256 ^ bytes.length := by
  have hdigits : ∀ digit ∈ bytes.reverse.map UInt8.toNat, digit < 256 := by
    intro digit hdigit
    obtain ⟨byte, -, rfl⟩ := List.mem_map.mp hdigit
    exact byte.toNat_lt
  have hlt := Nat.ofDigits_lt_base_pow_length (by decide) hdigits
  rwa [List.length_map, List.length_reverse] at hlt

/-! ## The lowest bytes of a number -/

/-- The lowest bytes of a number, the highest of them first. -/
def lowBytes (value : UInt64) : Nat → List UInt8
  | 0 => []
  | count + 1 => (value >>> (8 * count).toUInt64).toUInt8 :: lowBytes value count

theorem length_lowBytes (value : UInt64) (count : Nat) : (lowBytes value count).length = count := by
  induction count with
  | zero => rfl
  | succ count ih => rw [lowBytes, List.length_cons, ih]

theorem drop_bigEndian (hcount : count ≤ 8) :
    (bigEndian value).drop (8 - count) = lowBytes value count := by
  interval_cases count <;> rfl

theorem bigEndianValue_lowBytes (hcount : count ≤ 8) :
    bigEndianValue (lowBytes value count) = value.toNat % 256 ^ count := by
  induction count with
  | zero => simp [lowBytes, bigEndianValue, Nat.mod_one]
  | succ count ih =>
      have hshift : ((8 * count).toUInt64).toNat % 64 = 8 * count := by
        rw [Nat.toUInt64_eq, UInt64.toNat_ofNat']
        omega
      have hbyte : (value >>> (8 * count).toUInt64).toUInt8.toNat =
          value.toNat / 256 ^ count % 256 := by
        rw [UInt64.toNat_toUInt8, UInt64.toNat_shiftRight, hshift, Nat.shiftRight_eq_div_pow,
          two_pow_bits]
      rw [lowBytes, bigEndianValue_cons, length_lowBytes, hbyte, ih (by omega), ← Nat.mod_pow_succ]

/-! ## The bytes of a number -/

theorem byteCount_le_iff (hcount : 0 < count) :
    byteCount value ≤ count ↔ value.toNat < 256 ^ count := by
  have hbits : bitLength value ≤ 8 * count ↔ value.toNat < 256 ^ count := by
    rw [bitLength_le_iff, two_pow_bits]
  rw [← hbits, byteCount]
  omega

theorem byteCount_pos (value : UInt64) : 0 < byteCount value := by
  rw [byteCount]
  omega

theorem bigEndianValue_minimalBytes (value : UInt64) :
    bigEndianValue (minimalBytes value) = value.toNat := by
  have hfits : value.toNat < 256 ^ byteCount value :=
    (byteCount_le_iff (byteCount_pos value)).mp le_rfl
  rw [minimalBytes, drop_bigEndian (byteCount_le_eight value),
    bigEndianValue_lowBytes (byteCount_le_eight value), Nat.mod_eq_of_lt hfits]

theorem minimalBytes_spells (value : UInt64) : Spells (minimalBytes value) value.toNat where
  nonempty := by
    rw [← List.length_pos_iff, length_minimalBytes]
    exact byteCount_pos value
  value_eq := bigEndianValue_minimalBytes value
  length_le other hother hvalue := by
    rw [length_minimalBytes, byteCount_le_iff (List.length_pos_iff.mpr hother), ← hvalue]
    exact bigEndianValue_lt other

/-- The first byte could be left out if it were zero, unless it is the only one. -/
theorem Spells.head?_ne_zero {number : Nat} (h : Spells bytes number) (hnumber : number ≠ 0) :
    bytes.head? ≠ some 0 := by
  intro hzero
  obtain ⟨rest, rfl⟩ : ∃ rest, bytes = 0 :: rest := by
    obtain ⟨first, rest, rfl⟩ := List.exists_cons_of_ne_nil h.nonempty
    exact ⟨rest, by rw [Option.some.inj hzero]⟩
  have hrest : bigEndianValue rest = number := by
    rw [← h.value_eq, bigEndianValue_cons]
    simp
  by_cases hempty : rest = []
  · rw [hempty] at hrest
    exact hnumber hrest.symm
  · have hlength := h.length_le rest hempty hrest
    rw [List.length_cons] at hlength
    omega

/-! ## Sending numbers -/

theorem number_toBytes_eq_ok_iff :
    (number value).toBytes = .ok sent ↔ value.toNat < 2 ^ 32 ∧ sent = minimalBytes value :=
  toBytes_eq_ok_iff

/-- The size that is reported for a number that is too large is the one that it needs. -/
theorem number_toBytes_eq_error {e : Error} (h : (number value).toBytes = .error e) :
    ∃ count, e = .argument (.addressLength count) ∧
      IsLeast {count | value.toNat < 256 ^ count} count := by
  obtain ⟨hlong, rfl⟩ := Except.ite_error_ok_eq_error_iff.mp h
  rw [bytes, length_minimalBytes] at hlong
  rw [bytes, length_minimalBytes]
  refine ⟨_, rfl, (byteCount_le_iff (byteCount_pos value)).mp le_rfl, ?_⟩
  intro count hcount
  by_cases hzero : count = 0
  · -- No byte is enough for zero only, and one byte would do for that.
    have hone : byteCount value ≤ 1 := by
      rw [byteCount_le_iff Nat.one_pos]
      rw [hzero] at hcount
      exact hcount.trans_le (by decide)
    rw [maxLength] at hlong
    omega
  · exact (byteCount_le_iff (Nat.pos_of_ne_zero hzero)).mpr hcount

theorem raw_toBytes_eq_ok_iff : (raw bytes).toBytes = .ok bytes ↔ bytes.length ≤ 4 := by
  rw [toBytes_eq_ok_iff]
  exact and_iff_left rfl

theorem Names.eq_number {number : Nat} (h : Names address number) (hvalue : number = value.toNat) :
    address = .number value := by
  have hword {width : Nat} (word : BitVec width) (hwidth : width ≤ 64)
      (hword : word.toNat = value.toNat) : ofWord word = .number value := by
    rw [ofWord, RegisterAddress.number.injEq, ← UInt64.toNat_inj, ← hword]
    exact BitVec.toNat_setWidth_of_le hwidth
  cases h with
  | ofUInt8 v => exact hword v.toBitVec (by decide) hvalue
  | ofUInt16 v => exact hword v.toBitVec (by decide) hvalue
  | ofUInt32 v => exact hword v.toBitVec (by decide) hvalue
  | ofUInt64 v => exact hword v.toBitVec (by decide) hvalue

/-- A command for a register is made from the bytes that are sent for the address, and from nothing else
of it. -/
theorem commands_eq_of_toBytes_eq {other : RegisterAddress} (h : address.toBytes = other.toBytes)
    (device : UInt8) :
    (∀ length,
      Command.ofI2cRead device address length = Command.ofI2cRead device other length) ∧
      ∀ data, Command.ofI2cWrite device address data = Command.ofI2cWrite device other data := by
  constructor
  · intro length
    rw [Command.ofI2cRead, Command.ofI2cRead, h]
  · intro data
    rw [Command.ofI2cWrite, Command.ofI2cWrite, h]

/-- What is sent for a number is a shortest spelling of it and of no other one. -/
theorem number_toBytes_spells (h : (number value).toBytes = .ok sent) :
    (1 ≤ sent.length ∧ sent.length ≤ 4) ∧ Spells sent value.toNat ∧
      (value ≠ 0 → sent.head? ≠ some 0) ∧
      ∀ other, (number other).toBytes = .ok sent → other = value := by
  obtain ⟨hrange, rfl⟩ := number_toBytes_eq_ok_iff.mp h
  have hspells := minimalBytes_spells value
  have hlength : (number value).bytes.length ≤ maxLength := length_bytes_le_iff.mpr hrange
  refine ⟨⟨List.length_pos_iff.mpr hspells.nonempty, hlength⟩, hspells, ?_, ?_⟩
  · intro hvalue
    exact hspells.head?_ne_zero fun hzero => hvalue (UInt64.toNat_inj.mp hzero)
  · intro other hother
    obtain ⟨-, hsame⟩ := number_toBytes_eq_ok_iff.mp hother
    rw [← UInt64.toNat_inj, ← bigEndianValue_minimalBytes other, ← hsame, hspells.value_eq]

/-- The numbers below two to the power of 32 can be sent, each in the fewest bytes that stand for it and no
two of them alike; any other is refused with the number of bytes that it needs.  Raw bytes are sent as they
are, up to four of them.  So a command for a register is the same for a number of any width and for the
bytes that it is sent as. -/
theorem number_takes_fewest_bytes :
    (∀ value : UInt64,
      ((∃ sent, (number value).toBytes = .ok sent) ↔ value.toNat < 2 ^ 32) ∧
        (∀ sent, (number value).toBytes = .ok sent →
          ((1 ≤ sent.length ∧ sent.length ≤ 4) ∧ Spells sent value.toNat ∧
            (value ≠ 0 → sent.head? ≠ some 0) ∧
            ∀ other, (number other).toBytes = .ok sent → other = value) ∧
          ∀ address, Names address value.toNat → ∀ device,
            (∀ length, Command.ofI2cRead device address length =
              Command.ofI2cRead device (raw sent) length) ∧
            ∀ data, Command.ofI2cWrite device address data =
              Command.ofI2cWrite device (raw sent) data) ∧
        (∀ e, (number value).toBytes = .error e →
          ∃ count, e = .argument (.addressLength count) ∧
            IsLeast {count | value.toNat < 256 ^ count} count) ∧
        byteCount value ≤ 8) ∧
      ∀ bytes, (raw bytes).toBytes = .ok bytes ↔ bytes.length ≤ 4 := by
  constructor
  · intro value
    refine ⟨?_, ?_, ?_, byteCount_le_eight value⟩
    · constructor
      · rintro ⟨sent, hsent⟩
        exact (number_toBytes_eq_ok_iff.mp hsent).1
      · intro hrange
        exact ⟨_, number_toBytes_eq_ok_iff.mpr ⟨hrange, rfl⟩⟩
    · intro sent hsent
      have hspells := number_toBytes_spells hsent
      refine ⟨hspells, ?_⟩
      intro address hnames device
      have hraw : (raw sent).toBytes = .ok sent := raw_toBytes_eq_ok_iff.mpr hspells.1.2
      rw [hnames.eq_number rfl]
      exact commands_eq_of_toBytes_eq (hsent.trans hraw.symm) device
    · intro e he
      exact number_toBytes_eq_error he
  · intro bytes
    exact raw_toBytes_eq_ok_iff

/-- The largest number of three bytes, given in 32 bits, and the smallest one that needs five. -/
theorem number_takes_three_of_four_bytes :
    (number 0xffffff).toBytes = .ok [0xff, 0xff, 0xff] ∧
      Spells [0xff, 0xff, 0xff] 0xffffff ∧
      Command.ofI2cRead 0x50 (ofUInt32 0xffffff) 16 =
        Command.ofI2cRead 0x50 (raw [0xff, 0xff, 0xff]) 16 ∧
      ∃ count, (number 0x100000000).toBytes = .error (.argument (.addressLength count)) ∧
        IsLeast {count | 0x100000000 < 256 ^ count} count := by
  obtain ⟨hnumber, -⟩ := number_takes_fewest_bytes
  obtain ⟨-, hok, -, -⟩ := hnumber 0xffffff
  obtain ⟨-, -, herror, -⟩ := hnumber 0x100000000
  have hsent : (number 0xffffff).toBytes = .ok [0xff, 0xff, 0xff] := by decide
  have hrefused : (number 0x100000000).toBytes = .error (.argument (.addressLength 5)) := by decide
  obtain ⟨⟨-, hspells, -, -⟩, hcommands⟩ := hok _ hsent
  obtain ⟨hread, -⟩ := hcommands _ (.ofUInt32 0xffffff) 0x50
  obtain ⟨count, he, hleast⟩ := herror _ hrefused
  exact ⟨hsent, hspells, hread 16, count, he ▸ hrefused, hleast⟩

end RegisterAddress
end BadgeLink
