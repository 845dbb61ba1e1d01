import BadgeLink.Proofs.Command.Layout

/-!
# Streams of commands

The bytes of several commands follow one another on the wire without separators.  A command cuts itself
off the front of what follows: a reset is the only one that starts with a zero byte, and any other is a
frame.  So at most one sequence of commands can be behind given bytes.
-/

namespace BadgeLink
namespace Command

/-- The bytes that a sequence of commands puts on the wire, if all of them can be encoded. -/
def wireStream : List Command → Except Error (List UInt8)
  | [] => .ok []
  | c :: rest => do
    let bytes ← c.toWire
    let following ← wireStream rest
    return bytes ++ following

/-- What is sent for a command that is not a reset is a frame around its selector and parameters. -/
theorem toWire_of_ne_reset {c : Command} (hc : c ≠ reset) :
    c.toWire = c.parameters >>= fun params =>
      Frame.encode c.kind.group (c.kind.opcode.toList ++ params) := by
  have hdata : c.toWire = c.data >>= fun data => Frame.encode c.kind.group data := by
    unfold toWire
    split
    · exact absurd rfl hc
    · rfl
  rw [hdata, data]
  cases c.parameters <;> rfl

theorem toWire_eq_ok_iff {c : Command} {bytes : List UInt8} (hc : c ≠ reset) :
    c.toWire = .ok bytes ↔
      ∃ params, c.parameters = .ok params ∧
        Frame.encode c.kind.group (c.kind.opcode.toList ++ params) = .ok bytes := by
  rw [toWire_of_ne_reset hc, Except.bind_eq_ok_iff]

/-- The wire bytes of a command are never empty, and exactly a reset starts with the reset byte. -/
theorem exists_first_of_toWire
    {c : Command} {bytes : List UInt8} (hbytes : c.toWire = .ok bytes) :
    ∃ first rest, bytes = first :: rest ∧ (first = resetByte ↔ c = reset) := by
  by_cases hc : c = reset
  · subst hc
    cases hbytes
    exact ⟨resetByte, [], rfl, by simp⟩
  · obtain ⟨params, -, hframe⟩ := (toWire_eq_ok_iff hc).mp hbytes
    obtain ⟨hfits, rfl⟩ := Frame.encode_eq_ok_iff.mp hframe
    have hpos := Frame.lengthByte_ne_zero (Nat.succ_pos _) (Nat.succ_le_succ hfits)
    exact ⟨_, _, rfl, fun hzero => absurd hzero hpos, fun hreset => absurd hreset hc⟩

/-- Bytes start with at most one command. -/
theorem toWire_append_inj
    {c d : Command} {xs ys rest rest' : List UInt8}
    (hxs : c.toWire = .ok xs) (hys : d.toWire = .ok ys)
    (heq : xs ++ rest = ys ++ rest') : c = d ∧ rest = rest' := by
  -- The first bytes agree, so either both commands are resets or both are framed.
  have hreset : c = reset ↔ d = reset := by
    obtain ⟨first, tail, rfl, hfirst⟩ := exists_first_of_toWire hxs
    obtain ⟨first', tail', rfl, hfirst'⟩ := exists_first_of_toWire hys
    rw [← hfirst, ← hfirst', (List.cons.inj heq).1]
  by_cases hc : c = reset
  · have hd := hreset.mp hc
    subst hc hd
    cases hxs
    cases hys
    exact ⟨rfl, (List.cons.inj heq).2⟩
  · have hd : d ≠ reset := fun h => hc (hreset.mpr h)
    obtain ⟨params, hparams, hframe⟩ := (toWire_eq_ok_iff hc).mp hxs
    obtain ⟨params', hparams', hframe'⟩ := (toWire_eq_ok_iff hd).mp hys
    obtain ⟨hgroup, hdata, hrest⟩ := Frame.encode_append_inj hframe hframe' heq
    obtain ⟨hkind, rfl⟩ := Kind.selector_append_inj hgroup hdata
    exact ⟨parameters_inj hkind hparams hparams', hrest⟩

theorem wireStream_cons_eq_ok_iff {c : Command} {rest : List Command} {stream : List UInt8} :
    wireStream (c :: rest) = .ok stream ↔
      ∃ bytes following, c.toWire = .ok bytes ∧ wireStream rest = .ok following ∧
        stream = bytes ++ following := by
  rw [wireStream, Except.bind_eq_ok_iff]
  constructor
  · rintro ⟨bytes, hbytes, hrest⟩
    obtain ⟨following, hfollowing, hstream⟩ := Except.bind_eq_ok_iff.mp hrest
    exact ⟨bytes, following, hbytes, hfollowing, (Except.ok.inj hstream).symm⟩
  · rintro ⟨bytes, following, hbytes, hfollowing, rfl⟩
    exact ⟨bytes, hbytes, Except.bind_eq_ok_iff.mpr ⟨following, hfollowing, rfl⟩⟩

theorem wireStream_inj {cs ds : List Command} {stream : List UInt8}
    (hcs : wireStream cs = .ok stream) (hds : wireStream ds = .ok stream) : cs = ds := by
  induction cs generalizing ds stream with
  | nil =>
      cases hcs
      cases ds with
      | nil => rfl
      | cons d ds =>
          obtain ⟨bytes, following, hbytes, -, heq⟩ := wireStream_cons_eq_ok_iff.mp hds
          obtain ⟨first, rest, rfl, -⟩ := exists_first_of_toWire hbytes
          cases heq
  | cons c cs ih =>
      obtain ⟨bytes, following, hbytes, hfollowing, rfl⟩ := wireStream_cons_eq_ok_iff.mp hcs
      cases ds with
      | nil =>
          obtain ⟨first, rest, rfl, -⟩ := exists_first_of_toWire hbytes
          cases hds
      | cons d ds =>
          obtain ⟨bytes', following', hbytes', hfollowing', heq⟩ :=
            wireStream_cons_eq_ok_iff.mp hds
          obtain ⟨rfl, rfl⟩ := toWire_append_inj hbytes hbytes' heq
          rw [ih hfollowing hfollowing']

/-- Commands can be read off the wire in one way only.  The stream of a sequence determines the sequence,
so the bytes of one command determine it; no command starts like another one and goes on; and the first
byte tells a reset from the frame of anything else. -/
theorem wireStream_uniquely_decodable :
    (∀ (cs ds : List Command) (stream : List UInt8),
      wireStream cs = .ok stream → wireStream ds = .ok stream → cs = ds) ∧
    (∀ (c d : Command) (bytes : List UInt8),
      c.toWire = .ok bytes → d.toWire = .ok bytes → c = d) ∧
    (∀ (c d : Command) (xs ys : List UInt8),
      c.toWire = .ok xs → d.toWire = .ok ys → xs <+: ys → c = d ∧ xs = ys) ∧
    (∀ (c : Command) (bytes : List UInt8),
      c.toWire = .ok bytes → (bytes.head? = some resetByte ↔ c = reset)) := by
  refine ⟨?_, ?_, ?_, ?_⟩
  · intro cs ds stream hcs hds
    exact wireStream_inj hcs hds
  · intro c d bytes hc hd
    exact (toWire_append_inj hc hd (rfl : bytes ++ [] = bytes ++ [])).1
  · rintro c d xs _ hxs hys ⟨rest, rfl⟩
    have heq : xs ++ rest = (xs ++ rest) ++ [] := (List.append_nil _).symm
    obtain ⟨hcd, hrest⟩ := toWire_append_inj hxs hys heq
    exact ⟨hcd, by rw [hrest, List.append_nil]⟩
  · intro c bytes hbytes
    obtain ⟨first, rest, rfl, hfirst⟩ := exists_first_of_toWire hbytes
    rw [← hfirst, List.head?_cons, Option.some.injEq]

/-- The thirteen bytes of a reset, a text and a query of the buttons, of which the first tells that a
reset comes first and the second that a text does not. -/
theorem wireStream_reset_text_buttons :
    wireStream [reset, lcdText 2 5 "Hi", buttons] =
        .ok [0, 7, 2, 3, 2, 5, 2, 0x48, 0x69, 0x25, 1, 4, 4] ∧
      [reset, lcdText 2 5 "Hi", buttons] = [reset, lcdText 2 5 "Hi", buttons] ∧
      (lcdText 2 5 "Hi").toWire = .ok [7, 2, 3, 2, 5, 2, 0x48, 0x69, 0x25] ∧
      (([7, 2, 3, 2, 5, 2, 0x48, 0x69, 0x25] : List UInt8).head? = some resetByte ↔
        lcdText 2 5 "Hi" = reset) := by
  refine ⟨rfl, ?_, rfl, ?_⟩
  · exact wireStream_uniquely_decodable.1 _ _ _ rfl rfl
  · exact wireStream_uniquely_decodable.2.2.2 _ _ rfl

end Command
end BadgeLink
