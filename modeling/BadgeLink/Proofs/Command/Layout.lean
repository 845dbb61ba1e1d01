import BadgeLink.Command.Wire
import BadgeLink.Proofs.Frame
import BadgeLink.Proofs.Outcome

/-!
# The layout of commands

What follows the length byte of a command says which kind of command it is: the type byte names the
group and the opcode the member, and no two kinds share both.  Every parameter can be read off the
bytes after that.  A field of varying size is delimited by its own length byte, so one field can follow
another without a separator.
-/

namespace BadgeLink

namespace Text

theorem utf8_inj {text text' : String} (heq : utf8 text = utf8 text') : text = text' := by
  have hbytes (t : String) : (utf8 t).toByteArray = t.toByteArray := by
    rw [← String.utf8Encode_toList, List.utf8Encode, utf8]
  apply String.toByteArray_inj.mp
  rw [← hbytes text, ← hbytes text', heq]

end Text

/-- A choice is determined by its number, because the number names it. -/
theorem Led.number_inj {led led' : Led} (heq : led.number = led'.number) : led = led' := by
  have hname := Led.ofNumber_number led
  rw [heq, Led.ofNumber_number] at hname
  exact (Except.ok.inj hname).symm

theorem Color.number_inj {color color' : Color} (heq : color.number = color'.number) :
    color = color' := by
  have hname := Color.ofNumber_number color
  rw [heq, Color.ofNumber_number] at hname
  exact (Except.ok.inj hname).symm

theorem SpiMode.number_inj {mode mode' : SpiMode} (heq : mode.number = mode'.number) :
    mode = mode' := by
  have hname := SpiMode.ofNumber_number mode
  rw [heq, SpiMode.ofNumber_number] at hname
  exact (Except.ok.inj hname).symm

namespace Command

/-! ## Kinds -/

/-- Kinds of one group either all have an opcode or none has, and the opcode tells them apart. -/
theorem Kind.all_selectors :
    ∀ kind ∈ Kind.all, ∀ kind' ∈ Kind.all, kind.group = kind'.group →
      kind.opcode.toList.length = kind'.opcode.toList.length ∧
        (kind.opcode.toList = kind'.opcode.toList → kind = kind') := by
  decide

/-- The type byte and the opcode can be read off the front of a body. -/
theorem Kind.selector_append_inj
    {kind kind' : Kind} {rest rest' : List UInt8}
    (hgroup : kind.group = kind'.group)
    (heq : kind.opcode.toList ++ rest = kind'.opcode.toList ++ rest') :
    kind = kind' ∧ rest = rest' := by
  obtain ⟨hlength, hopcode⟩ :=
    Kind.all_selectors kind (Kind.mem_all kind) kind' (Kind.mem_all kind') hgroup
  obtain ⟨heq_opcode, hrest⟩ := List.append_inj heq hlength
  exact ⟨hopcode heq_opcode, hrest⟩

/-! ## Fields -/

theorem counted_eq_ok_iff {field bytes : List UInt8} :
    counted field = .ok bytes ↔
      field.length ≤ 255 ∧ bytes = field.length.toUInt8 :: field := by
  rw [counted, Except.ite_error_eq_ok_iff, Nat.not_lt, Except.ok.injEq, eq_comm (b := bytes)]
  rfl

/-- A counted field can be read off the front of any bytes. -/
theorem counted_append_inj
    {field field' bytes bytes' rest rest' : List UInt8}
    (hfield : counted field = .ok bytes) (hfield' : counted field' = .ok bytes')
    (heq : bytes ++ rest = bytes' ++ rest') :
    field = field' ∧ rest = rest' := by
  obtain ⟨hfits, rfl⟩ := counted_eq_ok_iff.mp hfield
  obtain ⟨hfits', rfl⟩ := counted_eq_ok_iff.mp hfield'
  simp only [List.cons_append, List.cons.injEq] at heq
  exact List.append_inj heq.2 (Frame.lengthByte_inj hfits hfits' heq.1)

theorem counted_inj
    {field field' bytes : List UInt8}
    (hfield : counted field = .ok bytes) (hfield' : counted field' = .ok bytes) :
    field = field' :=
  (counted_append_inj hfield hfield' (rfl : bytes ++ [] = bytes ++ [])).1

/-- The two bytes of a frequency are its quotient and remainder by 256. -/
theorem bigEndian_eq (khz : UInt16) :
    bigEndian khz = [(khz.toNat / 256).toUInt8, (khz.toNat % 256).toUInt8] := by
  have hhigh : (khz >>> 8).toUInt8 = (khz.toNat / 256).toUInt8 := by
    apply UInt8.toNat_inj.mp
    simp [Nat.shiftRight_eq_div_pow]
  have hlow : khz.toUInt8 = (khz.toNat % 256).toUInt8 := by
    apply UInt8.toNat_inj.mp
    simp
  rw [bigEndian, hhigh, hlow]

theorem bigEndian_inj {khz khz' : UInt16} (heq : bigEndian khz = bigEndian khz') : khz = khz' := by
  have hbound := khz.toNat_lt
  have hbound' := khz'.toNat_lt
  simp only [bigEndian_eq, List.cons.injEq, and_true] at heq
  have hhigh := Frame.lengthByte_inj (by omega) (by omega) heq.1
  have hlow := Frame.lengthByte_inj (by omega) (by omega) heq.2
  apply UInt16.toNat_inj.mp
  omega

/-! ## Parameters -/

/-- Commands of one kind are told apart by the bytes of their parameters. -/
theorem parameters_inj
    {c d : Command} {bytes : List UInt8} (hkind : c.kind = d.kind)
    (hc : c.parameters = .ok bytes) (hd : d.parameters = .ok bytes) : c = d := by
  -- Of the pairs of commands only those of one kind are left.
  cases c <;> cases d <;> try cases hkind
  case reset.refl | lcdClear.refl | lcdRefresh.refl | buttons.refl => rfl
  case uart.refl data data' =>
    cases hc
    cases hd
    rfl
  case lcdPixel.refl x y color x' y' color' =>
    simp only [parameters, Except.ok.injEq] at hc hd
    rw [← hd] at hc
    simp only [List.cons.injEq, and_true] at hc
    rw [hc.1, hc.2.1, Color.number_inj hc.2.2]
  case lcdText.refl row col text row' col' text' =>
    obtain ⟨field, hfield, rfl⟩ := Except.map_eq_ok_iff.mp hc
    obtain ⟨field', hfield', heq⟩ := Except.map_eq_ok_iff.mp hd
    obtain ⟨rfl, rfl, rfl⟩ : row' = row ∧ col' = col ∧ field' = field := by simpa using heq
    rw [Text.utf8_inj (counted_inj hfield hfield')]
  case ledSet.refl led on led' on' =>
    simp only [parameters, Except.ok.injEq] at hc hd
    rw [← hd] at hc
    simp only [List.cons.injEq, and_true] at hc
    have hon : on = on' := by
      revert hc
      cases on <;> cases on' <;> simp
    rw [Led.number_inj hc.1, hon]
  case ledBlink.refl led period led' period' =>
    simp only [parameters, Except.ok.injEq] at hc hd
    rw [← hd] at hc
    simp only [List.cons.injEq, and_true] at hc
    rw [Led.number_inj hc.1, hc.2]
  case i2cClock.refl khz khz' =>
    simp only [parameters, Except.ok.injEq] at hc hd
    rw [bigEndian_inj (hc.trans hd.symm)]
  case i2cRead.refl device register length device' register' length' =>
    obtain ⟨field, hfield, rfl⟩ := Except.map_eq_ok_iff.mp hc
    obtain ⟨field', hfield', heq⟩ := Except.map_eq_ok_iff.mp hd
    simp only [List.cons_append, List.cons.injEq] at heq
    obtain ⟨hregister, hlength⟩ := counted_append_inj hfield' hfield heq.2
    rw [heq.1, hregister, (List.cons.inj hlength).1]
  case i2cWrite.refl device register data device' register' data' =>
    obtain ⟨address, haddress, hrest⟩ := Except.bind_eq_ok_iff.mp hc
    obtain ⟨written, hwritten, hbytes⟩ := Except.bind_eq_ok_iff.mp hrest
    obtain ⟨address', haddress', hrest'⟩ := Except.bind_eq_ok_iff.mp hd
    obtain ⟨written', hwritten', hbytes'⟩ := Except.bind_eq_ok_iff.mp hrest'
    have heq := (Except.ok.inj hbytes).trans (Except.ok.inj hbytes').symm
    simp only [List.cons_append, List.cons.injEq] at heq
    -- The first field ends where its length byte says, and the second begins there.
    obtain ⟨hregister, hfields⟩ := counted_append_inj haddress haddress' heq.2
    subst hfields
    rw [heq.1, hregister, counted_inj hwritten hwritten']
  case spiConfig.refl khz mode khz' mode' =>
    simp only [parameters, Except.ok.injEq] at hc hd
    obtain ⟨hkhz, hmode⟩ := List.append_inj (hc.trans hd.symm) rfl
    rw [bigEndian_inj hkhz, SpiMode.number_inj (List.cons.inj hmode).1]
  case spiTransfer.refl data data' =>
    rw [counted_inj hc hd]

end Command
end BadgeLink
