import BadgeLink.Badge
import BadgeLink.Proofs.Command.Size
import BadgeLink.Proofs.RegisterAddress

/-!
# The arguments of requests

A request is checked twice: when its command is made, and when the command is encoded.  Taken together
the checks bound every argument, and where both bound the same one the tighter bound counts: a text may
have 250 bytes and not 255, because four other bytes and the type byte share the body with it.
-/

namespace BadgeLink

namespace Text

/-- An ASCII character is one byte. -/
theorem length_utf8_of_ascii {text : String} (hascii : ∀ c ∈ text.toList, c.toNat < 128) :
    (utf8 text).length = text.length := by
  have hchars : ∀ chars : List Char, (∀ c ∈ chars, c.toNat < 128) →
      (chars.flatMap String.utf8EncodeChar).length = chars.length := by
    intro chars hall
    induction chars with
    | nil => rfl
    | cons c rest ih =>
        have hc : c.utf8Size = 1 := by
          have := hall c List.mem_cons_self
          rw [Char.utf8Size_eq_one_iff]
          exact UInt32.le_iff_toNat_le.mpr (Nat.le_of_lt_succ this)
        rw [List.flatMap_cons, List.length_append, String.length_utf8EncodeChar, hc,
          ih fun d hd => hall d (List.mem_cons_of_mem c hd), List.length_cons, Nat.add_comm]
  rw [utf8, hchars text.toList hascii, String.length_toList]

end Text

namespace Command

/-! ## The first check -/

theorem ofText_eq_ok_iff {row col : UInt8} {text : String} {c : Command} :
    ofText row col text = .ok c ↔
      (∀ c ∈ text.toList, c.toNat < 128) ∧ text.length ≤ 255 ∧ c = lcdText row col text := by
  have hascii : ¬(!isAscii text) = true ↔ ∀ c ∈ text.toList, c.toNat < 128 := by
    simp [isAscii]
  rw [ofText, Except.ite_error_eq_ok_iff, Except.ite_error_eq_ok_iff, hascii, Nat.not_lt,
    Except.ok.injEq, eq_comm (b := c)]
  apply and_congr_right
  intro hall
  rw [Text.length_utf8_of_ascii hall, maxField]

theorem ofI2cClock_eq_ok_iff {khz : Nat} {c : Command} :
    ofI2cClock khz = .ok c ↔ (1 ≤ khz ∧ khz ≤ 400) ∧ c = i2cClock khz.toUInt16 := by
  rw [ofI2cClock, Except.ite_eq_ok_iff, Except.ok.injEq, eq_comm (b := c)]

theorem ofI2cRead_eq_ok_iff
    {device : UInt8} {register : RegisterAddress} {length : Nat} {c : Command} :
    ofI2cRead device register length = .ok c ↔
      (register.InRange ∧ length ≤ 255) ∧ c = i2cRead device register.bytes length.toUInt8 := by
  rw [ofI2cRead, Except.bind_eq_ok_iff]
  constructor
  · rintro ⟨address, haddress, hc⟩
    obtain ⟨hrange, rfl⟩ := RegisterAddress.toBytes_eq_ok_iff.mp haddress
    obtain ⟨hlength, hc⟩ := Except.ite_eq_ok_iff.mp hc
    exact ⟨⟨hrange, hlength⟩, (Except.ok.inj hc).symm⟩
  · rintro ⟨⟨hrange, hlength⟩, rfl⟩
    exact ⟨_, RegisterAddress.toBytes_eq_ok_iff.mpr ⟨hrange, rfl⟩,
      Except.ite_eq_ok_iff.mpr ⟨hlength, rfl⟩⟩

theorem ofI2cWrite_eq_ok_iff
    {device : UInt8} {register : RegisterAddress} {data : List UInt8} {c : Command} :
    ofI2cWrite device register data = .ok c ↔
      (register.InRange ∧ data.length ≤ 255) ∧ c = i2cWrite device register.bytes data := by
  rw [ofI2cWrite, Except.bind_eq_ok_iff]
  constructor
  · rintro ⟨address, haddress, hc⟩
    obtain ⟨hrange, rfl⟩ := RegisterAddress.toBytes_eq_ok_iff.mp haddress
    obtain ⟨hlength, hc⟩ := Except.ite_eq_ok_iff.mp hc
    exact ⟨⟨hrange, hlength⟩, (Except.ok.inj hc).symm⟩
  · rintro ⟨⟨hrange, hlength⟩, rfl⟩
    exact ⟨_, RegisterAddress.toBytes_eq_ok_iff.mpr ⟨hrange, rfl⟩,
      Except.ite_eq_ok_iff.mpr ⟨hlength, rfl⟩⟩

theorem ofSpiConfig_eq_ok_iff {khz : Nat} {mode : SpiMode} {c : Command} :
    ofSpiConfig khz mode = .ok c ↔ (1 ≤ khz ∧ khz ≤ 60000) ∧ c = spiConfig khz.toUInt16 mode := by
  rw [ofSpiConfig, Except.ite_eq_ok_iff, Except.ok.injEq, eq_comm (b := c)]

theorem ofSpiTransfer_eq_ok_iff {data : List UInt8} {c : Command} :
    ofSpiTransfer data = .ok c ↔ data.length ≤ 255 ∧ c = spiTransfer data := by
  rw [ofSpiTransfer, Except.ite_eq_ok_iff, Except.ok.injEq, eq_comm (b := c), maxField]

end Command

namespace Request

/-- The bytes that are sent for a request, if its arguments can be accepted. -/
def wire (request : Request) : Except Error (List UInt8) :=
  request.command >>= Command.toWire

/-- The arguments that can be accepted.  What is not named here is bounded by its type. -/
def InRange : Request → Prop
  | uart data => data.length ≤ 254
  | lcdText _ _ text => (∀ c ∈ text.toList, c.toNat < 128) ∧ text.length ≤ 250
  | i2cClock khz => 1 ≤ khz ∧ khz ≤ 400
  | i2cRead _ register length => register.InRange ∧ length ≤ 255
  | i2cWrite _ register data =>
    register.InRange ∧ data.length ≤ 255 ∧ register.bytes.length + data.length ≤ 250
  | spiConfig khz _ => 1 ≤ khz ∧ khz ≤ 60000
  | spiTransfer data => data.length ≤ 252
  | _ => True

instance : DecidablePred InRange
  | uart _ | spiTransfer _ => Nat.decLe ..
  | lcdText .. => @instDecidableAnd _ _ (List.decidableBAll ..) (Nat.decLe ..)
  | i2cClock _ | i2cRead .. | i2cWrite .. | spiConfig .. => instDecidableAnd
  | lcdClear | lcdRefresh | lcdPixel .. | ledSet .. | ledBlink .. | buttons => .isTrue trivial

theorem exists_wire_iff_exists_command {request : Request} :
    (∃ wire, request.wire = .ok wire) ↔
      ∃ command, request.command = .ok command ∧ command.bodySize ≤ 255 := by
  constructor
  · rintro ⟨wire, hwire⟩
    obtain ⟨command, hcommand, hbytes⟩ := Except.bind_eq_ok_iff.mp hwire
    exact ⟨command, hcommand, Command.exists_toWire_iff.mp ⟨wire, hbytes⟩⟩
  · rintro ⟨command, hcommand, hsize⟩
    obtain ⟨wire, hbytes⟩ := Command.exists_toWire_iff.mpr hsize
    exact ⟨wire, Except.bind_eq_ok_iff.mpr ⟨command, hcommand, hbytes⟩⟩

/-- What is refused on the way from a request to its command is an argument. -/
theorem refusesOnly_command (request : Request) : RefusesOnly request.command := by
  cases request with
  | uart | lcdClear | lcdRefresh | lcdPixel | ledSet | ledBlink | buttons => exact .ok _
  | lcdText row col text => exact .ite (.argument _) (.ite (.argument _) (.ok _))
  | i2cClock khz => exact .ite (.ok _) (.argument _)
  | spiConfig khz mode => exact .ite (.ok _) (.argument _)
  | spiTransfer data => exact .ite (.ok _) (.argument _)
  | i2cRead device register length =>
      refine register.refusesOnly_toBytes.bind fun address => ?_
      exact .ite (.ok _) (.argument _)
  | i2cWrite device register data =>
      refine register.refusesOnly_toBytes.bind fun address => ?_
      exact .ite (.ok _) (.argument _)

theorem refusesOnly_wire (request : Request) : RefusesOnly request.wire :=
  request.refusesOnly_command.bind fun command => command.refusesOnly_toWire

/-! ## Both checks -/

theorem exists_only {p : Prop} {command : Command} {q : Command → Prop} :
    (∃ c, (p ∧ c = command) ∧ q c) ↔ p ∧ q command := by
  simp only [and_assoc, exists_and_left, exists_eq_left]

/-- A request is accepted exactly when its arguments are in range. -/
theorem exists_wire_iff {request : Request} :
    (∃ wire, request.wire = .ok wire) ↔ request.InRange := by
  rw [exists_wire_iff_exists_command]
  cases request with
  | lcdClear | lcdRefresh | lcdPixel | ledSet | ledBlink | buttons =>
      simp [command, InRange, Command.bodySize]
  | uart data =>
      simp only [command, InRange, Except.ok.injEq, exists_eq_left']
      rw [Command.bodySize]
      omega
  | i2cClock khz =>
      simp only [command, InRange, Command.ofI2cClock_eq_ok_iff, exists_only]
      rw [Command.bodySize]
      omega
  | spiConfig khz mode =>
      simp only [command, InRange, Command.ofSpiConfig_eq_ok_iff, exists_only]
      rw [Command.bodySize]
      omega
  | spiTransfer data =>
      simp only [command, InRange, Command.ofSpiTransfer_eq_ok_iff, exists_only]
      rw [Command.bodySize]
      omega
  | lcdText row col text =>
      simp only [command, InRange, Command.ofText_eq_ok_iff, ← and_assoc, exists_only]
      constructor
      · rintro ⟨⟨hascii, -⟩, hsize⟩
        rw [Command.bodySize, Text.length_utf8_of_ascii hascii] at hsize
        exact ⟨hascii, by omega⟩
      · rintro ⟨hascii, hlength⟩
        refine ⟨⟨hascii, by omega⟩, ?_⟩
        rw [Command.bodySize, Text.length_utf8_of_ascii hascii]
        omega
  | i2cRead device register length =>
      -- An address in range leaves room for everything else.
      simp only [command, InRange, Command.ofI2cRead_eq_ok_iff, exists_only,
        ← RegisterAddress.length_bytes_le_iff, RegisterAddress.maxLength]
      rw [Command.bodySize]
      omega
  | i2cWrite device register data =>
      simp only [command, InRange, Command.ofI2cWrite_eq_ok_iff, exists_only,
        ← RegisterAddress.length_bytes_le_iff, RegisterAddress.maxLength]
      rw [Command.bodySize]
      omega

end Request
end BadgeLink
