import BadgeLink.Proofs.Command.Pieces
import BadgeLink.Proofs.Command.Stream
import Mathlib.Algebra.Order.BigOperators.Group.List
import Mathlib.Algebra.Order.Group.Nat

/-!
# The size of commands

A command can be encoded exactly when its body fits one length byte.  The fields of a body that fits are
shorter still, so their own length bytes add no condition; they only decide which fault a command that
is too long is refused with.
-/

namespace BadgeLink
namespace Command

/-- The number of bytes between the length byte and the checksum of a command.  A reset has neither and
is one byte. -/
def bodySize : Command → Nat
  | reset | buttons => 1
  | uart data => 1 + data.length
  | lcdClear | lcdRefresh => 2
  | lcdPixel .. => 5
  | lcdText _ _ text => 5 + (Text.utf8 text).length
  | ledSet .. | ledBlink .. | i2cClock _ => 4
  | i2cRead _ register _ => 5 + register.length
  | i2cWrite _ register data => 5 + register.length + data.length
  | spiConfig .. => 5
  | spiTransfer data => 3 + data.length

/-- The size of a body is the sum of the sizes of its parts. -/
theorem bodySize_eq_sum (c : Command) :
    c.bodySize = 1 + c.kind.opcode.toList.length + (c.pieces.map Piece.size).sum := by
  cases c <;> simp [bodySize, kind, Kind.opcode, pieces, Piece.size]
  all_goals omega

/-- The body is the type byte, the opcode and the parameters. -/
theorem bodySize_eq
    {c : Command} {params : List UInt8} (hparams : c.parameters = .ok params) :
    c.bodySize = 1 + (c.kind.opcode.toList ++ params).length := by
  rw [bodySize_eq_sum, List.length_append, length_of_parameters hparams, Nat.add_assoc]

/-- A field takes its own bytes and one more. -/
theorem length_lt_bodySize {c : Command} {field : List UInt8} (hfield : field ∈ c.fields) :
    field.length < c.bodySize := by
  obtain ⟨piece, hpiece, hcontent⟩ := List.mem_filterMap.mp hfield
  have hsize : piece.size = field.length + 1 := Piece.size_of_field? hcontent
  have hle : piece.size ≤ (c.pieces.map Piece.size).sum :=
    List.le_sum_of_mem (List.mem_map_of_mem hpiece)
  rw [bodySize_eq_sum]
  omega

/-- No field is refused in a body that fits its length byte. -/
theorem exists_parameters {c : Command} (hfits : c.bodySize ≤ 255) :
    ∃ params, c.parameters = .ok params := by
  rw [exists_parameters_iff]
  intro field hfield
  exact Nat.le_of_lt (Nat.lt_of_lt_of_le (length_lt_bodySize hfield) hfits)

/-- A command can be encoded exactly when its body fits the length byte. -/
theorem exists_toWire_iff {c : Command} :
    (∃ bytes, c.toWire = .ok bytes) ↔ c.bodySize ≤ 255 := by
  by_cases hc : c = reset
  · subst hc
    simp [toWire, bodySize]
  · constructor
    · rintro ⟨bytes, hbytes⟩
      obtain ⟨params, hparams, hframe⟩ := (toWire_eq_ok_iff hc).mp hbytes
      have hfits := (Frame.encode_eq_ok_iff.mp hframe).1
      rw [bodySize_eq hparams]
      omega
    · intro hfits
      obtain ⟨params, hparams⟩ := exists_parameters hfits
      rw [bodySize_eq hparams] at hfits
      have hlen : (c.kind.opcode.toList ++ params).length ≤ 254 := by omega
      exact ⟨_, (toWire_eq_ok_iff hc).mpr
        ⟨params, hparams, Frame.encode_eq_ok_iff.mpr ⟨hlen, rfl⟩⟩⟩

theorem refusesOnly_parameters (c : Command) : RefusesOnly c.parameters := by
  intro e he
  obtain ⟨field, -, rfl⟩ := parameters_eq_error_iff.mp he
  exact ⟨_, rfl⟩

/-- Nothing but a refused argument keeps a command from being encoded. -/
theorem refusesOnly_toWire (c : Command) : RefusesOnly c.toWire := by
  unfold toWire
  split
  · exact .ok _
  · exact ((refusesOnly_parameters c).map _).bind fun data => Frame.refusesOnly_encode _ data

end Command
end BadgeLink
