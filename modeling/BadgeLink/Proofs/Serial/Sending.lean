import BadgeLink.Proofs.Serial.Script

/-!
# Sending in pieces

A port that takes some bytes at every write, between interruptions, has taken all of them in the end, in
their order, and hands them over together.
-/

namespace BadgeLink
namespace Serial
namespace Bench

variable {b after : Bench} {s : Scripted} {bytes : List UInt8} {rounds : Nat}

/-! ## Single writes -/

theorem port_write (bytes : List UInt8) (b : Bench) : port.write bytes b = b.write bytes :=
  rfl

theorem flush_of_no_fault (hfault : b.flushFault = none) :
    port.flush b = (.ok (), { b with sent := b.sent ++ [b.unflushed], unflushed := [] }) := by
  have hflush : port.flush b = b.flush := rfl
  rw [hflush, flush, hfault]

theorem write_of_nil (hscript : b.writes = []) :
    port.write bytes b = (.bytes bytes.length, b.accept bytes) := by
  rw [port_write, write, hscript]

theorem write_of_atMost {count : Nat} {rest : List WriteEvent}
    (hscript : b.writes = .atMost count :: rest) :
    port.write bytes b =
      (.bytes (bytes.take count).length, { b.accept (bytes.take count) with writes := rest }) := by
  rw [port_write, write, hscript]

theorem write_of_interrupted {rest : List WriteEvent}
    (hscript : b.writes = .interrupted :: rest) :
    port.write bytes b = (.interrupted, { b with writes := rest }) := by
  rw [port_write, write, hscript]

/-! ## One round -/

theorem deliver_nil (b : Bench) : port.deliver rounds [] b = (.ok (), b) := by
  cases rounds <;> rfl

theorem deliver_of_taken
    (hbytes : bytes ≠ []) {taken : Nat} (htaken : 0 < taken)
    (hwrite : port.write bytes b = (.bytes taken, after)) :
    port.deliver (rounds + 1) bytes b = port.deliver rounds (bytes.drop taken) after := by
  obtain ⟨left, rfl⟩ := Nat.exists_eq_succ_of_ne_zero (Nat.ne_of_gt htaken)
  rw [Port.deliver, bind_of_eq hwrite]
  · rfl
  · exact hbytes

theorem deliver_of_interrupted
    (hbytes : bytes ≠ []) (hwrite : port.write bytes b = (.interrupted, after)) :
    port.deliver (rounds + 1) bytes b = port.deliver rounds bytes after := by
  rw [Port.deliver, bind_of_eq hwrite]
  exact hbytes

/-! ## The loop -/

/-- With a round for each byte and each event of the script, all bytes are taken. -/
theorem deliver_of_takes
    (hwrites : ∀ event ∈ b.writes, event.Takes) (hrounds : bytes.length + b.writes.length ≤ rounds) :
    ∃ writes, (∀ event ∈ writes, event.Takes) ∧
      port.deliver rounds bytes b =
        (.ok (), { b with unflushed := b.unflushed ++ bytes, writes }) := by
  -- A write either takes a byte or uses up an event, so a round is left for what is left.
  induction rounds generalizing bytes b with
  | zero =>
      obtain rfl : bytes = [] := List.length_eq_zero_iff.mp (by omega)
      exact ⟨b.writes, hwrites, by rw [deliver_nil, List.append_nil]⟩
  | succ rounds ih =>
      by_cases hbytes : bytes = []
      · subst hbytes
        exact ⟨b.writes, hwrites, by rw [deliver_nil, List.append_nil]⟩
      have hpos : 0 < bytes.length := List.length_pos_iff.mpr hbytes
      cases hscript : b.writes with
      | nil =>
          refine ⟨[], nofun, ?_⟩
          rw [deliver_of_taken hbytes hpos (write_of_nil hscript), List.drop_length, deliver_nil,
            accept, ← hscript]
      | cons event rest =>
          rw [hscript] at hwrites hrounds
          have hrest (event) (h : event ∈ rest) : event.Takes :=
            hwrites event (List.mem_cons_of_mem _ h)
          cases event with
          | atMost count =>
              have hcount : 0 < count := hwrites _ List.mem_cons_self
              let taken := bytes.take count
              have htaken : 0 < taken.length := by
                rw [List.length_take]
                omega
              have hsplit : taken ++ bytes.drop taken.length = bytes :=
                List.prefix_iff_eq_append.mp (List.take_prefix count bytes)
              have hrounds' : (bytes.drop taken.length).length + rest.length ≤ rounds := by
                rw [List.length_drop]
                rw [List.length_cons] at hrounds
                omega
              obtain ⟨writes, hleft, hdeliver⟩ :=
                ih (b := { b.accept taken with writes := rest }) hrest hrounds'
              refine ⟨writes, hleft, ?_⟩
              rw [deliver_of_taken hbytes htaken (write_of_atMost hscript), hdeliver, accept,
                List.append_assoc, hsplit]
          | interrupted =>
              obtain ⟨writes, hleft, hdeliver⟩ :=
                ih (b := { b with writes := rest }) hrest (Nat.le_of_succ_le_succ hrounds)
              refine ⟨writes, hleft, ?_⟩
              rw [deliver_of_interrupted hbytes (write_of_interrupted hscript), hdeliver]
          | failed message => exact (hwrites _ List.mem_cons_self).elim

theorem Mirrors.send (h : b.Mirrors s) (bytes : List UInt8) :
    ∃ after, port.send bytes b = (.ok (), after) ∧
      after.Mirrors { s with sent := s.sent ++ [bytes] } := by
  have hrounds : bytes.length + b.writes.length ≤
      bytes.length + (b.reads.length + b.writes.length) := by
    omega
  obtain ⟨writes, hwrites, hdeliver⟩ := deliver_of_takes h.writes hrounds
  let delivered : Bench := { b with unflushed := b.unflushed ++ bytes, writes }
  have hbytes : delivered.unflushed = bytes := by
    simp [delivered, h.unflushed]
  have hflush := flush_of_no_fault (b := delivered) h.flushFault
  rw [hbytes] at hflush
  refine ⟨{ delivered with sent := b.sent ++ [bytes], unflushed := [] }, ?_, ?_⟩
  · have hpatience : port.patience b = (b.reads.length + b.writes.length, b) := rfl
    rw [Port.send, bind_of_eq hpatience, bind_of_eq hdeliver]
    dsimp only
    rw [bind_of_eq hflush]
    rfl
  · exact { h with writes := hwrites, unflushed := rfl, sent := congrArg (· ++ [bytes]) h.sent }

end Bench
end Serial
end BadgeLink
