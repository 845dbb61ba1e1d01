import BadgeLink.Proofs.Link.Scripted
import BadgeLink.Proofs.Response

/-!
# Receiving frames from a scripted link

Where the unread bytes of a link start with a frame, receiving takes that frame and nothing else, whatever
the frame says: a wrong checksum or a status other than success is found out only after all its bytes
have been read.
-/

namespace BadgeLink
namespace Scripted

open Exchange (receiveExact receiveResponse receivePayload)

variable {s : Scripted}

theorem run_receive (hfaults : s.faults = []) (count timeout : Nat) :
    (Exchange.receive count timeout).run.overLink link s =
      (.ok (s.unread.take count),
        { s.consume count with reads := s.reads ++ [(count, timeout)] }) := by
  show Dialogue.overLink link (.receive count timeout _) s = _
  rw [Dialogue.overLink_receive, receive_of_no_faults hfaults]
  rfl

theorem run_receiveExact_of_le
    (hfaults : s.faults = []) {count : Nat} (timeout : Nat) (hcount : count ≤ s.unread.length) :
    (receiveExact count timeout).run.overLink link s =
      (.ok (s.unread.take count),
        { s.consume count with reads := s.reads ++ [(count, timeout)] }) := by
  rw [receiveExact, Exchange.overLink_bind_of_ok (run_receive hfaults count timeout),
    List.length_take, Nat.min_eq_left hcount, if_neg (Nat.lt_irrefl count)]
  rfl

/-- Too few bytes are a timeout, and they are taken all the same. -/
theorem run_receiveExact_of_lt
    (hfaults : s.faults = []) {count : Nat} (timeout : Nat) (hcount : s.unread.length < count) :
    (receiveExact count timeout).run.overLink link s =
      (.error (.timeout count s.unread.length),
        { s.consume count with reads := s.reads ++ [(count, timeout)] }) := by
  rw [receiveExact, Exchange.overLink_bind_of_ok (run_receive hfaults count timeout),
    List.length_take, Nat.min_eq_right (Nat.le_of_lt hcount), if_pos hcount]
  rfl

/-- The link after the length byte has been read from it. -/
def headed (timeout : Nat) (s : Scripted) : Scripted :=
  { s.consume 1 with reads := s.reads ++ [(1, timeout)] }

theorem unread_headed
    {length : UInt8} {rest : List UInt8} (hunread : s.unread = length :: rest) (timeout : Nat) :
    (s.headed timeout).unread = rest := by
  show (s.consume 1).unread = _
  rw [unread_consume, hunread, List.drop_succ_cons, List.drop_zero]

theorem run_receiveExact_one
    (hfaults : s.faults = []) {length : UInt8} {rest : List UInt8}
    (hunread : s.unread = length :: rest) (timeout : Nat) :
    (receiveExact 1 timeout).run.overLink link s = (.ok [length], s.headed timeout) := by
  have hone : 1 ≤ s.unread.length := by
    rw [hunread]
    exact Nat.succ_le_succ (Nat.zero_le _)
  rw [run_receiveExact_of_le hfaults timeout hone, hunread, List.take_succ_cons, List.take_zero,
    headed]

/-- The read for the body comes after the one for the length byte. -/
theorem consume_headed (count timeout : Nat) (s : Scripted) :
    { (s.headed timeout).consume count with
        reads := (s.headed timeout).reads ++ [(count, timeout)] } =
      { s.consume (count + 1) with reads := s.reads ++ [(1, timeout), (count, timeout)] } := by
  have hreads : (s.headed timeout).reads ++ [(count, timeout)] =
      s.reads ++ [(1, timeout), (count, timeout)] := List.append_assoc ..
  rw [hreads, Nat.add_comm, ← consume_add]
  rfl

/-- A frame in front is received whole, in a read for its length byte and one for its body. -/
theorem run_receiveResponse_of_frame
    (hfaults : s.faults = []) {length : UInt8} {body rest : List UInt8}
    (hbody : body.length = length.toNat + 1) (hunread : s.unread = length :: (body ++ rest))
    (timeout : Nat) :
    (receiveResponse timeout).run.overLink link s =
      (Response.ofBody body,
        { s.consume (body.length + 1) with
          reads := s.reads ++ [(1, timeout), (body.length, timeout)]
          log := s.log ++ [.received (length :: body)] }) := by
  have hleft := unread_headed hunread timeout
  have henough : body.length ≤ (s.headed timeout).unread.length := by
    rw [hleft, List.length_append]
    exact Nat.le_add_right _ _
  have hrest := run_receiveExact_of_le (s := s.headed timeout) hfaults timeout henough
  rw [hleft, List.take_left, consume_headed] at hrest
  rw [receiveResponse, Exchange.overLink_bind_of_ok (run_receiveExact_one hfaults hunread timeout)]
  dsimp only [List.headD_cons]
  rw [← hbody, Exchange.overLink_bind_of_ok hrest, Exchange.run_note_bind, Dialogue.overLink_note]
  rfl

/-- What the log says about a frame after it is received. -/
def report (frame : List UInt8) : List Record :=
  .received frame ::
    match Response.ofBody frame.tail with
    | .ok (.failed status payload) => [.reported (.failed status payload)]
    | _ => []

/-- What is left of a link after a frame is taken from it. -/
def afterFrame (frame : List UInt8) (timeout : Nat) (s : Scripted) : Scripted :=
  { s.consume frame.length with
    reads := s.reads ++ [(1, timeout), (frame.length - 1, timeout)]
    log := s.log ++ report frame }

/-- A frame in front is received, and its verdict is the outcome. -/
theorem run_receivePayload_of_frame
    (hfaults : s.faults = []) {frame rest : List UInt8} (hframe : Response.IsFrame frame)
    (hunread : s.unread = frame ++ rest) (timeout : Nat) :
    (receivePayload timeout).run.overLink link s =
      (Response.verdict frame, s.afterFrame frame timeout) := by
  obtain ⟨length, body, rfl, hbody⟩ := hframe
  have hresponse := run_receiveResponse_of_frame hfaults hbody hunread timeout
  rw [← Response.toPayload_ofBody length (by rintro rfl; cases hbody), receivePayload, afterFrame]
  cases hof : Response.ofBody body with
  | error e =>
      rw [hof] at hresponse
      rw [Exchange.overLink_bind_of_error hresponse, report, List.tail_cons, hof]
      rfl
  | ok response =>
      rw [hof] at hresponse
      rw [Exchange.overLink_bind_of_ok hresponse, report, List.tail_cons, hof]
      cases response with
      | ok payload => rfl
      | failed status payload =>
          dsimp only
          rw [List.append_cons s.log _ [.reported (.failed status payload)]]
          rfl

end Scripted
end BadgeLink
