import BadgeLink.Badge
import BadgeLink.Proofs.Link.Faults

/-!
# Operations and faults of the link

An operation on a badge ends with the first request to the link that fails, and with the fault of that
request.  It does so in every part of it: between the resets of a handshake as well as between the two
reads of a response.  So a fault that is planned for a scripted link changes nothing before it comes.
-/

namespace BadgeLink

variable {α β : Type}

namespace Exchange

/-- An exchange ends with the fault of its first request that fails. -/
def Stops (x : Exchange α) : Prop :=
  x.run.StopsWith fun fault outcome => outcome = .error (.link fault)

theorem Stops.bind
    {x : Exchange α} {f : α → Exchange β} (hx : Stops x) (hf : ∀ value, Stops (f value)) :
    Stops (x >>= f) := by
  rw [Stops, run_bind]
  refine Dialogue.StopsWith.bind hx ?_ ?_
  · intro outcome
    cases outcome with
    | ok value => exact hf value
    | error e => trivial
  · rintro fault _ rfl
    exact ⟨_, rfl, rfl⟩

theorem stops_ofExcept (outcome : Except Error α) : Stops (ofExcept outcome) :=
  trivial

theorem stops_note (record : Record) : Stops (note record) :=
  trivial

theorem stops_send (bytes : List UInt8) : Stops (send bytes) :=
  ⟨fun _ => ⟨_, rfl, rfl⟩, fun _ => trivial⟩

theorem stops_receive (count timeout : Nat) : Stops (receive count timeout) :=
  ⟨fun _ => ⟨_, rfl, rfl⟩, fun _ => trivial⟩

theorem stops_receiveExact (count timeout : Nat) : Stops (receiveExact count timeout) := by
  refine (stops_receive count timeout).bind ?_
  intro bytes
  split <;> trivial

theorem stops_receiveResponse (timeout : Nat) : Stops (receiveResponse timeout) := by
  refine (stops_receiveExact 1 timeout).bind ?_
  intro head
  refine (stops_receiveExact _ timeout).bind ?_
  intro body
  exact (stops_note _).bind fun _ => stops_ofExcept _

theorem stops_transfer (command : Command) (timeout : Nat) : Stops (transfer command timeout) := by
  refine (stops_ofExcept command.toWire).bind ?_
  intro wire
  refine (stops_note _).bind fun _ => (stops_send wire).bind fun _ => ?_
  refine (stops_receiveResponse timeout).bind ?_
  intro response
  split
  · exact (stops_note _).bind fun _ => stops_ofExcept _
  · exact stops_ofExcept _

end Exchange

namespace Handshake

/-- Between two resets a handshake ends with a fault as it does at its start. -/
theorem stopsWith_awaitAck (timeout left : Nat) (h : Handshake) :
    (awaitAck timeout left h).StopsWith fun fault result => result.1 = .error (.link fault) := by
  induction left generalizing h with
  | zero => trivial
  | succ left ih =>
      refine ⟨fun _ => ⟨_, rfl, rfl⟩, ?_⟩
      intro got
      dsimp only
      split
      · trivial
      · split
        · trivial
        · exact ⟨fun _ => ⟨_, rfl, rfl⟩, fun _ => ih _⟩

theorem stopsWith_run (h : Handshake) (timeout : Nat) :
    (h.run timeout).StopsWith fun fault result => result.1 = .error (.link fault) :=
  ⟨fun _ => ⟨_, rfl, rfl⟩, fun _ => ⟨fun _ => ⟨_, rfl, rfl⟩, fun _ => stopsWith_awaitAck _ _ _⟩⟩

end Handshake

namespace Badge

open Exchange (Stops)

theorem stops_init (badge : Badge) : Stops badge.init := by
  refine Stops.bind ?_ fun _ => Exchange.stops_note _
  refine Dialogue.StopsWith.bind (Handshake.stopsWith_run _ _) (fun _ => trivial) ?_
  intro fault result hresult
  exact ⟨_, rfl, hresult⟩

theorem stops_ask (badge : Badge) (request : Request) : Stops (badge.ask request) := by
  refine (Exchange.stops_ofExcept request.command).bind ?_
  intro command
  refine (Exchange.stops_transfer command badge.timeout).bind ?_
  intro payload
  split
  · exact (Exchange.stops_note _).bind fun _ => Exchange.stops_ofExcept _
  · exact Exchange.stops_ofExcept _

theorem stops_perform (badge : Badge) (operation : Operation) : Stops (badge.perform operation) := by
  cases operation with
  | init => exact badge.stops_init.bind fun _ => trivial
  | request request => exact badge.stops_ask request

/-- Every operation on a badge, and the transfer of any command, goes over a scripted link with planned
faults as it would over the same link without faults, until the first fault is due, and ends with that
one. -/
theorem perform_follows_until_fault (s : Scripted) :
    (∀ (badge : Badge) (operation : Operation),
        s.FollowsUntilFault (badge.perform operation).run) ∧
      ∀ (command : Command) (timeout : Nat),
        s.FollowsUntilFault (Exchange.transfer command timeout).run := by
  constructor
  · intro badge operation
    exact Scripted.followsUntilFault_of_stopsWith (badge.stops_perform operation) s
  · intro command timeout
    exact Scripted.followsUntilFault_of_stopsWith (Exchange.stops_transfer command timeout) s

/-- The second read of a handshake fails: both resets have been sent, the acknowledgement stays unread,
and the fault planned behind this one has not come closer. -/
theorem init_stops_at_second_read :
    let s : Scripted :=
      { stale := [0x55], incoming := [0xde, 0xad, 0xbe, 0x01, 0x81, 0x81]
        faults := [⟨.receive, 1, "gone"⟩, ⟨.receive, 1, "later"⟩, ⟨.send, 4, "never"⟩] }
    let (outcome, after) := s.run (({} : Badge).perform .init).run
    outcome = .error (.link (.io "gone")) ∧
      after.incoming = [0x01, 0x81, 0x81] ∧ after.sent = [[0x00], [0x00]] ∧
      after.faults = [⟨.receive, 1, "later"⟩, ⟨.send, 2, "never"⟩] := by
  intro s
  have hstopped := ((perform_follows_until_fault s).1 {} .init).stopped
  let gone : PlannedFault := ⟨.receive, 1, "gone"⟩
  have hdue : PlannedFault.Due s.faults [.clear, .send, .receive, .send] .receive gone := by
    refine ⟨?_, rfl, rfl⟩
    intro call fault hfirst
    cases call with
    | send | receive =>
        cases hfirst
        decide
    | clear => cases hfirst
  have hrun := (hstopped [_, _, _, _] (.receive 3 defaultTimeout) _ [] gone rfl hdue).2
  rw [Scripted.run, hrun]
  exact ⟨rfl, rfl, rfl, rfl⟩

end Badge
end BadgeLink
