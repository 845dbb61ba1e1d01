import BadgeLink.Proofs.Command.Size

/-!
# The bodies of commands

A body of a command is its selector and its parameters as they look on the wire.  The encoder writes the
one body there is behind its length, or names the first thing that is too long: a field for its own length
byte, or the body for that of the frame.
-/

namespace BadgeLink
namespace Command

variable {c : Command}

/-- A body of a command is its type byte, its opcode if it has one, and its parameters as they are
written. -/
def IsBody (c : Command) (body : List UInt8) : Prop :=
  ∃ written, List.Forall₂ Piece.Written c.pieces written ∧
    body = c.kind.group :: (c.kind.opcode.toList ++ written.flatten)

/-- The bodies of a command are its parameters, as they are encoded, behind its selector. -/
theorem isBody_iff {body : List UInt8} :
    c.IsBody body ↔
      ∃ params, c.parameters = .ok params ∧
        body = c.kind.group :: (c.kind.opcode.toList ++ params) := by
  simp only [parameters_eq, Except.map_eq_ok_iff, Except.mapM_eq_ok_iff, Piece.encode_eq_ok_iff]
  constructor
  · rintro ⟨written, hwritten, hbody⟩
    exact ⟨_, ⟨written, hwritten, rfl⟩, hbody⟩
  · rintro ⟨_, ⟨written, hwritten, rfl⟩, hbody⟩
    exact ⟨written, hwritten, hbody⟩

theorem length_of_isBody {body : List UInt8} (hbody : c.IsBody body) :
    body.length = c.bodySize := by
  obtain ⟨params, hparams, rfl⟩ := isBody_iff.mp hbody
  rw [bodySize_eq hparams, List.length_cons, Nat.add_comm]

/-- A command other than a reset is sent as a length byte, a body of this length and its checksum. -/
theorem toWire_eq_ok_iff_isBody (hc : c ≠ reset) {bytes : List UInt8} :
    c.toWire = .ok bytes ↔
      ∃ (length : UInt8) (body : List UInt8), c.IsBody body ∧ length.toNat = body.length ∧
        bytes = length :: (body ++ [Frame.checksum body]) := by
  rw [toWire_eq_ok_iff hc]
  constructor
  · rintro ⟨params, hparams, hframe⟩
    obtain ⟨hfits, rfl⟩ := Frame.encode_eq_ok_iff.mp hframe
    refine ⟨_, _, isBody_iff.mpr ⟨params, hparams, rfl⟩, ?_, rfl⟩
    exact Frame.toNat_lengthByte (Nat.succ_le_succ hfits)
  · rintro ⟨length, body, hbody, hlength, rfl⟩
    obtain ⟨params, hparams, rfl⟩ := isBody_iff.mp hbody
    rw [List.length_cons] at hlength
    have hbound := length.toNat_lt
    refine ⟨params, hparams, Frame.encode_eq_ok_iff.mpr ⟨by omega, ?_⟩⟩
    rw [← hlength, Nat.toUInt8_eq, UInt8.ofNat_toNat]
    rfl

/-- A command that cannot be sent has a field that is too long, or else a body that is. -/
theorem toWire_eq_error_iff (hc : c ≠ reset) {e : Error} :
    c.toWire = .error e ↔
      (∃ field, c.fields.find? (255 < ·.length) = some field ∧
        e = .argument (.fieldLength field.length)) ∨
      ((∀ field ∈ c.fields, field.length ≤ 255) ∧ 255 < c.bodySize ∧
        e = .argument (.bodyLength c.bodySize)) := by
  rw [toWire_of_ne_reset hc, Except.bind_eq_error_iff, parameters_eq_error_iff,
    ← exists_parameters_iff]
  apply or_congr Iff.rfl
  constructor
  · rintro ⟨params, hparams, hframe⟩
    obtain ⟨hlong, he⟩ := Frame.encode_eq_error_iff.mp hframe
    rw [bodySize_eq hparams]
    exact ⟨⟨params, hparams⟩, by omega, by rw [he, Nat.add_comm]⟩
  · rintro ⟨⟨params, hparams⟩, hlong, he⟩
    rw [bodySize_eq hparams] at hlong he
    exact ⟨params, hparams, Frame.encode_eq_error_iff.mpr ⟨by omega, by rw [he, Nat.add_comm]⟩⟩

/-- The encoding of commands is exact.  A reset is one zero byte.  Any other command can be sent exactly
when its body has at most 255 bytes, and then it is the length of the body, the body as it is laid out,
and the checksum; nothing is cut off.  Otherwise the command is refused because of the first of its
fields that has more than 255 bytes, or, if there is none, because of the size of its body. -/
theorem toWire_writes_body_exactly :
    reset.toWire = .ok [0x00] ∧
      (∀ c : Command, c ≠ reset →
        ((∃ bytes, c.toWire = .ok bytes) ↔ c.bodySize ≤ 255) ∧
          (∀ bytes, c.toWire = .ok bytes ↔
            ∃ (length : UInt8) (body : List UInt8), c.IsBody body ∧ length.toNat = body.length ∧
              bytes = length :: (body ++ [Frame.checksum body])) ∧
          (∀ e, c.toWire = .error e ↔
            (∃ field, c.fields.find? (255 < ·.length) = some field ∧
              e = .argument (.fieldLength field.length)) ∨
            ((∀ field ∈ c.fields, field.length ≤ 255) ∧ 255 < c.bodySize ∧
              e = .argument (.bodyLength c.bodySize))) ∧
          c.bodySize = 1 + c.kind.opcode.toList.length + (c.pieces.map Piece.size).sum ∧
          ∀ body, c.IsBody body → body.length = c.bodySize) ∧
      ∀ n, (Error.argument (.fieldLength n)).message =
          "Invalid argument: " ++ s!"field of {n} bytes exceeds 255" ∧
        (Error.argument (.bodyLength n)).message =
          "Invalid argument: " ++ s!"frame body is {n} bytes, at most 255 fit the length byte" := by
  refine ⟨rfl, ?_, ?_⟩
  · intro c hc
    exact ⟨exists_toWire_iff, fun bytes => toWire_eq_ok_iff_isBody hc,
      fun e => toWire_eq_error_iff hc, c.bodySize_eq_sum, fun body => length_of_isBody⟩
  · intro n
    exact ⟨rfl, rfl⟩

/-- With an address of one byte, 249 bytes can be written and 250 cannot; where the address is too long
as well as the data, the address is named. -/
theorem toWire_writes_longest_i2cWrite :
    (∃ bytes, (i2cWrite 0x50 [0x10] (List.replicate 249 0)).toWire = .ok bytes) ∧
      (i2cWrite 0x50 [0x10] (List.replicate 250 0)).toWire = .error (.argument (.bodyLength 256)) ∧
      (i2cWrite 0x50 (List.replicate 256 0) (List.replicate 300 0)).toWire =
        .error (.argument (.fieldLength 256)) := by
  obtain ⟨-, hexact, -⟩ := toWire_writes_body_exactly
  have hnotReset (register data : List UInt8) : i2cWrite 0x50 register data ≠ reset := nofun
  have hlength (n : Nat) : (List.replicate n (0 : UInt8)).length = n := List.length_replicate
  have hfields (register data : List UInt8) :
      (i2cWrite 0x50 register data).fields = [register, data] := rfl
  have hsize (n : Nat) : (i2cWrite 0x50 [0x10] (List.replicate n 0)).bodySize = 6 + n := by
    rw [bodySize, hlength, List.length_singleton]
  refine ⟨?_, ?_, ?_⟩
  · exact (hexact _ (hnotReset _ _)).1.mpr (Nat.le_of_eq (hsize 249))
  · apply ((hexact _ (hnotReset _ _)).2.2.1 _).mpr
    right
    rw [hsize]
    refine ⟨?_, by decide, rfl⟩
    intro field hfield
    rw [hfields, List.mem_pair] at hfield
    obtain rfl | rfl := hfield
    · decide
    · rw [hlength]
      decide
  · apply ((hexact _ (hnotReset _ _)).2.2.1 _).mpr
    left
    refine ⟨List.replicate 256 0, ?_, by rw [hlength]⟩
    rw [hfields]
    exact List.find?_cons_of_pos (by rw [hlength]; decide)

end Command
end BadgeLink
