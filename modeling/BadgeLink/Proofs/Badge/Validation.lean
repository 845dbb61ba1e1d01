import BadgeLink.Link.Scripted
import BadgeLink.Proofs.Badge.Arguments
import BadgeLink.Proofs.Exchange

/-!
# Arguments are checked before the link is used

A request whose arguments are out of range ends before the link is asked for anything.  Any other request
sends its command once, before everything else, and from then on only receives; whatever comes back, it
does not blame the arguments.
-/

namespace BadgeLink

/-- What a request makes of the payload it receives. -/
def Request.conclude (request : Request) (payload : List UInt8) : Exchange Reply := do
  if let some record := request.remark payload then Exchange.note record
  Exchange.ofExcept (request.reply payload)

namespace Badge

open Exchange (Receives NotRefused)

/-- What a session does for a request after its command is sent. -/
def await (badge : Badge) (request : Request) : Exchange Reply :=
  Exchange.receivePayload badge.timeout >>= request.conclude

theorem ask_of_refused
    {request : Request} {e : Error} (he : request.wire = .error e) (badge : Badge) :
    (badge.ask request).run = .done (.error e) := by
  rcases Except.bind_eq_error_iff.mp he with hcommand | ⟨command, hcommand, hwire⟩
  · rw [ask, hcommand]
    rfl
  · rw [ask, hcommand, Exchange.ofExcept_ok_bind, Exchange.transfer, hwire]
    rfl

/-- A request out of range is over before anything happens, and its arguments are to blame. -/
theorem ask_of_not_inRange {request : Request} (hrange : ¬request.InRange) (badge : Badge) :
    ∃ cause, (badge.ask request).run = .done (.error (.argument cause)) := by
  cases hwire : request.wire with
  | ok wire => exact absurd (Request.exists_wire_iff.mp ⟨wire, hwire⟩) hrange
  | error e =>
      obtain ⟨cause, rfl⟩ := request.refusesOnly_wire e hwire
      exact ⟨cause, ask_of_refused hwire badge⟩

theorem ask_of_accepted
    {request : Request} {wire : List UInt8} (hwire : request.wire = .ok wire) (badge : Badge) :
    (badge.ask request).run =
      .note (.sent wire) (.send wire fun
        | .ok () => (badge.await request).run
        | .error fault => .done (.error (.link fault))) := by
  obtain ⟨command, hcommand, hbytes⟩ := Except.bind_eq_ok_iff.mp hwire
  rw [ask, hcommand, Exchange.ofExcept_ok_bind, Exchange.transfer_of_toWire hbytes]
  simp only [bind_assoc]
  rw [Exchange.run_note_bind, Exchange.run_send_bind]
  rfl

theorem notRefused_reply (request : Request) (payload : List UInt8) :
    NotRefused (request.reply payload) := by
  unfold Request.reply
  split
  · nofun
  · nofun
  · nofun
  · split <;> nofun
  · nofun

/-- Awaiting a response asks for nothing but bytes, and does not blame the arguments. -/
theorem obeys_await (badge : Badge) (request : Request) :
    (badge.await request).run.Obeys Receives NotRefused := by
  refine Exchange.receives_bind (Exchange.obeys_receivePayload _) ?_
  intro payload
  have hreply := notRefused_reply request payload
  unfold Request.conclude
  split
  · exact Exchange.receives_bind (Exchange.obeys_note _) fun _ => hreply
  · exact hreply

/-- What follows the first request to the link only receives, also when sending has failed. -/
theorem obeys_afterSending (badge : Badge) (request : Request) (answer : Except LinkFault Unit) :
    Dialogue.Obeys Receives NotRefused
      (match answer with
        | .ok () => (badge.await request).run
        | .error fault => .done (.error (.link fault))) := by
  cases answer with
  | ok => exact obeys_await badge request
  | error fault => nofun

/-- Over any link, an accepted request asks to send its bytes and then only to receive. -/
theorem asks_of_accepted
    {σ : Type} {request : Request} {wire : List UInt8} (hwire : request.wire = .ok wire)
    (badge : Badge) (link : Link (StateM σ)) (s : σ) :
    ∃ later, ((badge.ask request).run.asks link s).map Prod.fst = .send wire :: later ∧
      ∀ ask ∈ later, Receives ask := by
  rw [ask_of_accepted hwire, Dialogue.asks, Dialogue.asks, List.map_cons]
  refine ⟨_, rfl, ?_⟩
  intro ask hask
  obtain ⟨visit, hvisit, rfl⟩ := List.mem_map.mp hask
  exact (obeys_afterSending badge request _).allowed_of_mem_asks hvisit

theorem notRefused_of_accepted
    {σ : Type} {request : Request} {wire : List UInt8} (hwire : request.wire = .ok wire)
    (badge : Badge) (link : Link (StateM σ)) (s : σ) :
    NotRefused ((badge.ask request).run.overLink link s).1 := by
  rw [ask_of_accepted hwire, Dialogue.overLink_note, Dialogue.overLink_send]
  exact (obeys_afterSending badge request _).good_outcome link _

/-- A request blames its arguments exactly when they are out of range.  Then the link is as it was, down
to its log, and was asked for nothing.  Otherwise the request first sends its encoded command, and never
sends again, whether or not the link fails. -/
theorem ask_checks_before_sending (badge : Badge) (request : Request) (s : Scripted) :
    let outcome := (s.run (badge.ask request).run).1
    let after := (s.run (badge.ask request).run).2
    let asked := ((badge.ask request).run.asks Scripted.link s).map Prod.fst
    ((∃ cause, outcome = .error (.argument cause)) ↔ ¬request.InRange) ∧
      (¬request.InRange → after = s ∧ asked = []) ∧
      (request.InRange → ∃ wire later, request.wire = .ok wire ∧ asked = .send wire :: later ∧
        ∀ bytes, .send bytes ∉ later) := by
  dsimp only
  by_cases hrange : request.InRange
  · obtain ⟨wire, hwire⟩ := Request.exists_wire_iff.mpr hrange
    have houtcome := notRefused_of_accepted hwire badge Scripted.link s
    obtain ⟨later, hasked, hlater⟩ := asks_of_accepted hwire badge Scripted.link s
    refine ⟨?_, fun hout => absurd hrange hout, fun _ => ⟨wire, later, hwire, hasked, ?_⟩⟩
    · exact iff_of_false (fun ⟨cause, hcause⟩ => houtcome cause hcause) (not_not_intro hrange)
    · intro bytes hsend
      obtain ⟨count, timeout, hask⟩ := hlater _ hsend
      cases hask
  · obtain ⟨cause, hask⟩ := ask_of_not_inRange hrange badge
    rw [hask]
    exact ⟨iff_of_true ⟨cause, rfl⟩ hrange, fun _ => ⟨rfl, rfl⟩, fun hin => absurd hin hrange⟩

end Badge
end BadgeLink
