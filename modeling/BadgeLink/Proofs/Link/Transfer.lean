import BadgeLink.Proofs.Badge.Responses
import BadgeLink.Proofs.Link.Receiving

/-!
# Transfers over any input

How a transfer over a link without faults ends is decided by the bytes that are unread when its frame is
sent.  The first of them says how many the transfer waits for after it.  If they are not there, it takes
what is there and times out; if they are, it takes them and no more, and they have a verdict.
-/

namespace BadgeLink
namespace Scripted

open Exchange (receiveExact receivePayload transfer)

variable {s : Scripted} {command : Command} {wire : List UInt8}

/-! ## Input that ends too early -/

theorem run_receivePayload_of_nil
    (hfaults : s.faults = []) (hunread : s.unread = []) (timeout : Nat) :
    (receivePayload timeout).run.overLink link s =
      (.error (.timeout 1 0), { s with reads := s.reads ++ [(1, timeout)] }) := by
  have hnone : s.unread.length = 0 := by rw [hunread, List.length_nil]
  have hfew : s.unread.length < 1 := by omega
  have hread := run_receiveExact_of_lt hfaults timeout hfew
  rw [hnone, consume_of_unread_nil hunread] at hread
  rw [receivePayload, Exchange.receiveResponse]
  exact Exchange.overLink_bind_of_error (Exchange.overLink_bind_of_error hread _) _

theorem run_receivePayload_of_short
    (hfaults : s.faults = []) {length : UInt8} {rest : List UInt8}
    (hunread : s.unread = length :: rest) (hshort : rest.length < length.toNat + 1) (timeout : Nat) :
    (receivePayload timeout).run.overLink link s =
      (.error (.timeout (length.toNat + 1) rest.length),
        { s.consume (length.toNat + 2) with
          reads := s.reads ++ [(1, timeout), (length.toNat + 1, timeout)] }) := by
  have hleft := unread_headed hunread timeout
  have hfew : (s.headed timeout).unread.length < length.toNat + 1 := by rwa [hleft]
  have hread := run_receiveExact_of_lt (s := s.headed timeout) hfaults timeout hfew
  rw [hleft, consume_headed] at hread
  rw [receivePayload, Exchange.receiveResponse]
  apply Exchange.overLink_bind_of_error
  rw [Exchange.overLink_bind_of_ok (run_receiveExact_one hfaults hunread timeout)]
  exact Exchange.overLink_bind_of_error hread _

/-! ## Transfers -/

theorem run_transfer
    (hwire : command.toWire = .ok wire) (hfaults : s.faults = []) (timeout : Nat) :
    s.run (transfer command timeout).run =
      (receivePayload timeout).run.overLink link (s.sending wire) := by
  rw [run, Exchange.transfer_of_toWire hwire, Exchange.run_note_bind, Exchange.run_send_bind,
    overLink_note_send hfaults]

/-- What a transfer over a link without faults leaves of it: its frame has been sent, some reads have
been made, some bytes have been taken, and only the log may have changed besides. -/
def Leaves (s : Scripted) (wire : List UInt8) (reads : List (Nat × Nat)) (taken : Nat)
    (after : Scripted) : Prop :=
  after =
    { s.consume taken with
      sent := s.sent ++ [wire]
      reads := s.reads ++ reads
      log := after.log }

theorem Leaves.unread_eq
    {reads : List (Nat × Nat)} {taken : Nat} {after : Scripted}
    (h : s.Leaves wire reads taken after) : after.unread = s.unread.drop taken := by
  rw [h]
  exact unread_consume taken s

theorem run_transfer_of_nil
    (hwire : command.toWire = .ok wire) (hfaults : s.faults = []) (hunread : s.unread = [])
    (timeout : Nat) :
    ∃ after, s.run (transfer command timeout).run = (.error (.timeout 1 0), after) ∧
      s.Leaves wire [(1, timeout)] 0 after := by
  rw [run_transfer hwire hfaults, run_receivePayload_of_nil (s := s.sending wire) hfaults hunread]
  refine ⟨_, rfl, ?_⟩
  rw [Leaves, consume_zero]
  rfl

theorem run_transfer_of_short
    (hwire : command.toWire = .ok wire) (hfaults : s.faults = []) {length : UInt8}
    {rest : List UInt8} (hunread : s.unread = length :: rest)
    (hshort : rest.length < length.toNat + 1) (timeout : Nat) :
    ∃ after,
      s.run (transfer command timeout).run =
        (.error (.timeout (length.toNat + 1) rest.length), after) ∧
      s.Leaves wire [(1, timeout), (length.toNat + 1, timeout)] (length.toNat + 2) after := by
  rw [run_transfer hwire hfaults,
    run_receivePayload_of_short (s := s.sending wire) hfaults hunread hshort]
  exact ⟨_, rfl, rfl⟩

theorem run_transfer_of_frame
    (hwire : command.toWire = .ok wire) (hfaults : s.faults = []) {length : UInt8}
    {body rest : List UInt8} (hunread : s.unread = length :: (body ++ rest))
    (hbody : body.length = length.toNat + 1) (timeout : Nat) :
    ∃ after,
      s.run (transfer command timeout).run = (Response.verdict (length :: body), after) ∧
      s.Leaves wire [(1, timeout), (length.toNat + 1, timeout)] (length.toNat + 2) after := by
  rw [run_transfer hwire hfaults,
    run_receivePayload_of_frame (s := s.sending wire) hfaults ⟨length, body, rfl, hbody⟩ hunread]
  have htaken : length.toNat + 2 = (length :: body).length := by rw [List.length_cons, hbody]
  refine ⟨_, rfl, ?_⟩
  rw [htaken, ← hbody]
  rfl

/-- The outcome of a transfer where at least one byte is unread. -/
structure Decided (length : UInt8) (rest : List UInt8) (outcome : Except Error (List UInt8)) :
    Prop where
  timeout : rest.length < length.toNat + 1 →
    outcome = .error (.timeout (length.toNat + 1) rest.length)
  empty : length = 0 → rest ≠ [] → outcome = .error (.frame .missingStatus)
  framed : ∀ status payload received later, rest = status :: (payload ++ received :: later) →
    length.toNat = payload.length + 1 →
      outcome =
        if Frame.checksum (status :: payload) ≠ received then
          .error (.checksum (Frame.checksum (status :: payload)) received)
        else if status ≠ 0x80 then .error (.refused status payload)
        else .ok payload

theorem decided_timeout
    {length : UInt8} {rest : List UInt8} (hshort : rest.length < length.toNat + 1) :
    Decided length rest (.error (.timeout (length.toNat + 1) rest.length)) := by
  constructor
  · intro _
    rfl
  · rintro rfl hrest
    exact absurd (List.length_eq_zero_iff.mp (Nat.lt_one_iff.mp hshort)) hrest
  · rintro status payload received later rfl hlength
    simp only [List.length_cons, List.length_append] at hshort
    omega

theorem decided_verdict
    {length : UInt8} {body later : List UInt8} (hbody : body.length = length.toNat + 1) :
    Decided length (body ++ later) (Response.verdict (length :: body)) := by
  constructor
  · intro hshort
    rw [List.length_append] at hshort
    omega
  · rintro rfl -
    obtain ⟨received, rfl⟩ := List.length_eq_one_iff.mp hbody
    rfl
  · intro status payload received later' hrest hlength
    rw [← List.cons_append, List.append_cons] at hrest
    obtain ⟨rfl, -⟩ := List.append_inj hrest (by simp [hbody, hlength])
    exact Response.verdict_concat length status received payload

theorem run_transfer_of_cons
    (hwire : command.toWire = .ok wire) (hfaults : s.faults = []) {length : UInt8}
    {rest : List UInt8} (hunread : s.unread = length :: rest) (timeout : Nat) :
    ∃ outcome after, s.run (transfer command timeout).run = (outcome, after) ∧
      Decided length rest outcome ∧
      s.Leaves wire [(1, timeout), (length.toNat + 1, timeout)] (length.toNat + 2) after ∧
      outcome ≠ .error (.frame .missingChecksum) := by
  by_cases hshort : rest.length < length.toNat + 1
  · obtain ⟨after, hrun, hleaves⟩ := run_transfer_of_short hwire hfaults hunread hshort timeout
    exact ⟨_, after, hrun, decided_timeout hshort, hleaves, nofun⟩
  · obtain ⟨body, later, rfl, hbody⟩ :
        ∃ body later, rest = body ++ later ∧ body.length = length.toNat + 1 := by
      refine ⟨_, _, (List.take_append_drop (length.toNat + 1) rest).symm, ?_⟩
      rw [List.length_take]
      omega
    obtain ⟨after, hrun, hleaves⟩ := run_transfer_of_frame hwire hfaults hunread hbody timeout
    exact ⟨_, after, hrun, decided_verdict hbody, hleaves, Response.verdict_ne_missingChecksum _⟩

/-- The outcome of a transfer is decided by what is unread, stale bytes first: the first byte says how long
the rest of the frame is, and too few bytes are a timeout.  The reads take this frame and nothing else, or
all there is of it.  A missing checksum is never the outcome, and on any link a read of one byte that
succeeds has a first byte. -/
theorem run_transfer_decided_by_unread
    (hwire : command.toWire = .ok wire) (hfaults : s.faults = []) (timeout : Nat) :
    ∃ outcome after, s.run (transfer command timeout).run = (outcome, after) ∧
      (s.unread = [] →
        outcome = .error (.timeout 1 0) ∧ s.Leaves wire [(1, timeout)] 0 after) ∧
      (∀ length rest, s.unread = length :: rest →
        Decided length rest outcome ∧
          s.Leaves wire [(1, timeout), (length.toNat + 1, timeout)] (length.toNat + 2) after ∧
          after.unread = rest.drop (length.toNat + 1)) ∧
      outcome ≠ .error (.frame .missingChecksum) ∧
      ∀ (t : Scripted) head, (t.run (receiveExact 1 timeout).run).1 = .ok head → head ≠ [] := by
  have hhead (t : Scripted) (head : List UInt8)
      (hrun : (t.run (receiveExact 1 timeout).run).1 = .ok head) : head ≠ [] := by
    have hone := (Exchange.receiveExact_eq_ok (Prod.ext hrun rfl)).1
    exact List.ne_nil_of_length_pos hone
  cases hunread : s.unread with
  | nil =>
      obtain ⟨after, hrun, hleaves⟩ := run_transfer_of_nil hwire hfaults hunread timeout
      exact ⟨_, after, hrun, fun _ => ⟨rfl, hleaves⟩, nofun, nofun, hhead⟩
  | cons length rest =>
      obtain ⟨outcome, after, hrun, hdecided, hleaves, hchecksum⟩ :=
        run_transfer_of_cons hwire hfaults hunread timeout
      refine ⟨outcome, after, hrun, nofun, ?_, hchecksum, hhead⟩
      rintro _ _ ⟨⟩
      refine ⟨hdecided, hleaves, ?_⟩
      rw [hleaves.unread_eq, hunread, List.drop_succ_cons]

/-- Bytes on both sides of the border between what is stale and what will come are one frame. -/
theorem run_transfer_across_queues :
    let s : Scripted := { stale := [0x03, 0x80, 0x07], incoming := [0x09, 0x8e, 0x55] }
    ∃ after, s.run (transfer .lcdClear 50).run = (.ok [0x07, 0x09], after) ∧ after.unread = [0x55] := by
  intro s
  have hwire : Command.toWire .lcdClear = .ok [0x02, 0x02, 0x00, 0x02] := rfl
  obtain ⟨outcome, after, hrun, -, hcons, -⟩ :=
    run_transfer_decided_by_unread (s := s) hwire rfl 50
  obtain ⟨hdecided, -, hunread⟩ := hcons 0x03 [0x80, 0x07, 0x09, 0x8e, 0x55] rfl
  have houtcome := hdecided.framed 0x80 [0x07, 0x09] 0x8e [0x55] rfl rfl
  refine ⟨after, ?_, hunread⟩
  rw [hrun, houtcome]
  rfl

end Scripted
end BadgeLink
