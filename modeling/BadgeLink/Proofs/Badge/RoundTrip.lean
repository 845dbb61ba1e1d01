import BadgeLink.Proofs.Badge.Pairing
import BadgeLink.Proofs.Handshake.Attempts

/-!
# Round trips

A round trip is an operation together with the bytes by which the device answers it.  If a link holds the
answers to some operations in the order of these operations, each of them takes its own answer, and the
commands are sent in the same order.
-/

namespace BadgeLink

/-- An operation of a client and what the device answers to it. -/
structure RoundTrip (ι : Type) where
  client : ι
  operation : Operation
  answer : List UInt8
  deriving DecidableEq

namespace RoundTrip

variable {ι : Type}

/-- A reset is answered by its acknowledgement, a request by a frame, and a request that is never sent, as
its arguments are out of range, by nothing. -/
def Fits (trip : RoundTrip ι) : Prop :=
  match trip.operation with
  | .init => trip.answer = Handshake.ack
  | .request request =>
    (request.InRange → Response.IsFrame trip.answer) ∧ (¬request.InRange → trip.answer = [])

/-- What is sent on a round trip that the device answers at once. -/
def sent (trip : RoundTrip ι) : List (List UInt8) :=
  match trip.operation with
  | .init => [Handshake.resetBytes]
  | .request request => request.wire.toOption.toList

/-- What the answer says to the operation, or why the operation is refused. -/
def outcome (trip : RoundTrip ι) : Except Error Reply :=
  match trip.operation with
  | .init => .ok .done
  | .request request => request.wire >>= fun _ => request.answer trip.answer

end RoundTrip

namespace Badge

variable {ι : Type} {s : Scripted} {frames : List (List UInt8)}

/-! ## One round trip -/

/-- A handshake takes three bytes for each of its attempts, up to the first acknowledgement, and leaves
what comes behind it. -/
theorem init_overLink_of_first_ack
    (hfaults : s.faults = []) {k : Nat} (hk : k < Handshake.maxAttempts)
    (hack : Handshake.group s.incoming k = Handshake.ack)
    (hmissed : ∀ j < k, Handshake.group s.incoming j ≠ Handshake.ack) (badge : Badge) :
    ∃ after, (badge.perform .init).run.overLink Scripted.link s = (.ok .done, after) ∧
      after.faults = [] ∧ after.stale = [] ∧
      after.incoming = s.incoming.drop (3 * (k + 1)) ∧
      after.sent = s.sent ++ List.replicate (k + 1) Handshake.resetBytes := by
  have hrun := (Handshake.run_of_ack hfaults hk hack hmissed
    { interval := badge.resetInterval } badge.timeout).eq_of_done.1
  let awaited := Handshake.afterReads badge.timeout (k + 1)
    (Handshake.missedRecords s.incoming 0 k ++ [.received Handshake.ack]) s
  let ready : Scripted := { awaited with log := awaited.log ++ [.ready] }
  have hinit : badge.init.run.overLink Scripted.link s = (.ok (), ready) := by
    rw [init, Exchange.run_bind, Dialogue.overLink_bind_run]
    simp only [ExceptT.run_mk, Dialogue.bind_eq_bind, Dialogue.overLink_bind_run, hrun]
    rfl
  refine ⟨ready, ?_, hfaults, rfl, rfl, rfl⟩
  rw [perform, Exchange.overLink_bind_of_ok hinit]
  rfl

/-- A handshake that is acknowledged at once takes the acknowledgement and nothing else. -/
theorem init_overLink_of_ack (h : s.Holds (Handshake.ack :: frames)) (badge : Badge) :
    ∃ after, (badge.perform .init).run.overLink Scripted.link s = (.ok .done, after) ∧
      after.Holds frames ∧ after.sent = s.sent ++ [Handshake.resetBytes] := by
  have hincoming : s.incoming = Handshake.ack ++ frames.flatten := h.incoming
  have hack : Handshake.group s.incoming 0 = Handshake.ack := by
    rw [hincoming]
    rfl
  obtain ⟨after, hinit, hfaults, hstale, hleft, hsent⟩ :=
    init_overLink_of_first_ack h.faults (by decide) hack nofun badge
  rw [hincoming] at hleft
  exact ⟨after, hinit, ⟨hfaults, hstale, hleft⟩, hsent⟩

/-- An accepted request sends its command and nothing else. -/
theorem sent_ask
    {request : Request} {wire : List UInt8} (hwire : request.wire = .ok wire)
    (hfaults : s.faults = []) (badge : Badge) :
    ((badge.ask request).run.overLink Scripted.link s).2.sent = s.sent ++ [wire] := by
  rw [ask_of_accepted hwire, Scripted.overLink_note_send hfaults]
  exact Scripted.sent_overLink_of_receives (obeys_await badge request) _

/-- A request takes the answer in front, if this is its own; a refused one has none, and takes none. -/
theorem ask_overLink_of_fits
    {client : ι} {request : Request} {answer : List UInt8}
    (hfits : RoundTrip.Fits { client, operation := .request request, answer })
    (h : s.Holds (answer :: frames)) (badge : Badge) :
    let trip : RoundTrip ι := { client, operation := .request request, answer }
    ∃ after, (badge.ask request).run.overLink Scripted.link s = (trip.outcome, after) ∧
      after.Holds frames ∧ after.sent = s.sent ++ trip.sent := by
  intro trip
  have houtcome : trip.outcome = request.wire >>= fun _ => request.answer answer := rfl
  have hsent : trip.sent = request.wire.toOption.toList := rfl
  cases hwire : request.wire with
  | ok wire =>
      have hrange : request.InRange := Request.exists_wire_iff.mp ⟨wire, hwire⟩
      obtain ⟨after, hask, hafter⟩ := ask_overLink_of_inRange h (hfits.1 hrange) hrange badge
      have hwired := sent_ask hwire h.faults badge
      rw [hask] at hwired
      rw [houtcome, hsent, hwire]
      exact ⟨after, hask, hafter, hwired⟩
  | error e =>
      have hrange : ¬request.InRange := by
        intro hrange
        obtain ⟨wire, hok⟩ := Request.exists_wire_iff.mpr hrange
        rw [hwire] at hok
        cases hok
      have hempty : answer = [] := hfits.2 hrange
      subst hempty
      rw [ask_of_refused hwire, houtcome, hsent, hwire]
      exact ⟨s, rfl, ⟨h.faults, h.stale, h.incoming⟩, (List.append_nil _).symm⟩

/-- An operation takes the answer in front, if this is its own. -/
theorem perform_overLink_of_fits
    {trip : RoundTrip ι} (hfits : trip.Fits) (h : s.Holds (trip.answer :: frames)) (badge : Badge) :
    ∃ after,
      (badge.perform trip.operation).run.overLink Scripted.link s = (trip.outcome, after) ∧
        after.Holds frames ∧ after.sent = s.sent ++ trip.sent := by
  obtain ⟨client, operation, answer⟩ := trip
  cases operation with
  | init =>
      obtain rfl : answer = Handshake.ack := hfits
      exact init_overLink_of_ack h badge
  | request request => exact ask_overLink_of_fits hfits h badge

/-! ## Round trips in a row -/

/-- Over a link that holds their answers in their order, operations take one answer each, and what is
behind the answers is left. -/
theorem performAll_overLink_of_fits
    {trips : List (RoundTrip ι)} (hfits : ∀ trip ∈ trips, trip.Fits)
    (h : s.Holds (trips.map RoundTrip.answer ++ frames)) (badge : Badge) :
    ∃ after,
      (badge.performAll (trips.map RoundTrip.operation)).overLink Scripted.link s =
          (trips.map RoundTrip.outcome, after) ∧
        after.Holds frames ∧ after.sent = s.sent ++ trips.flatMap RoundTrip.sent := by
  induction trips generalizing s with
  | nil => exact ⟨s, rfl, h, (List.append_nil _).symm⟩
  | cons trip rest ih =>
      obtain ⟨hfirst, hrest⟩ := List.forall_mem_cons.mp hfits
      obtain ⟨between, hperform, hholds, hsent⟩ := perform_overLink_of_fits hfirst h badge
      obtain ⟨after, hall, hleft, hlater⟩ := ih hrest hholds
      refine ⟨after, ?_, hleft, ?_⟩
      · rw [List.map_cons, performAll_cons_overLink hperform, hall]
        rfl
      · rw [hlater, hsent, List.append_assoc]
        rfl

end Badge
end BadgeLink
