import BadgeLink.Proofs.Badge.Validation
import BadgeLink.Proofs.Frame.Decoding
import BadgeLink.Proofs.Session.Record

/-!
# Requests over any link

Whatever a link answers, a request that has a reply has sent its frame and read a whole response, with
the right checksum and the status of success.  A request that fails has sent its frame and nothing else,
or nothing at all if its arguments are refused.  Several requests, of which each has to succeed before the
next one is made, send their frames in order up to the first that fails.
-/

namespace BadgeLink

variable {α β σ : Type} {link : Link (StateM σ)} {s s' : σ}

/-! ## Exchanges that end in a value -/

namespace Exchange

/-- An exchange that has a value has got through both of its parts. -/
theorem overLink_bind_eq_ok
    {x : Exchange α} {f : α → Exchange β} {b : β}
    (h : (x >>= f).run.overLink link s = (.ok b, s')) :
    ∃ a between, x.run.overLink link s = (.ok a, between) ∧
      (f a).run.overLink link between = (.ok b, s') ∧
      (x >>= f).run.events link s = x.run.events link s ++ (f a).run.events link between := by
  rw [run_bind, Dialogue.overLink_bind_run] at h
  rw [run_bind, Dialogue.events_bind]
  cases hx : (x.run.overLink link s).1 with
  | error e =>
      rw [hx] at h
      cases h
  | ok a =>
      rw [hx] at h
      exact ⟨a, _, Prod.ext hx rfl, h, rfl⟩

/-- Whatever is made of a value in the end, the outcome changes accordingly and nothing else does. -/
theorem overLink_bind_pure (x : Exchange α) (f : α → β) (s : σ) :
    (x >>= fun value => pure (f value)).run.overLink link s =
      ((x.run.overLink link s).1.map f, (x.run.overLink link s).2) := by
  rw [run_bind, Dialogue.overLink_bind_run]
  cases (x.run.overLink link s).1 <;> rfl

theorem events_bind_pure (x : Exchange α) (f : α → β) (s : σ) :
    (x >>= fun value => pure (f value)).run.events link s = x.run.events link s := by
  rw [run_bind, Dialogue.events_bind]
  cases (x.run.overLink link s).1 <;> exact List.append_nil _

theorem receive_eq_ok
    {count timeout : Nat} {bytes : List UInt8}
    (h : (receive count timeout).run.overLink link s = (.ok bytes, s')) :
    (receive count timeout).run.events link s = [.received count timeout (.ok bytes)] := by
  have hanswer : (link.receive count timeout s).1 = .ok bytes :=
    Except.mapError_eq_ok_iff.mp (congrArg Prod.fst h)
  rw [← hanswer]
  rfl

theorem receiveExact_eq_ok
    {count timeout : Nat} {bytes : List UInt8}
    (h : (receiveExact count timeout).run.overLink link s = (.ok bytes, s')) :
    count ≤ bytes.length ∧
      (receiveExact count timeout).run.events link s = [.received count timeout (.ok bytes)] := by
  obtain ⟨got, between, hgot, henough, hevents⟩ := overLink_bind_eq_ok h
  rw [receive_eq_ok hgot] at hevents
  by_cases hshort : got.length < count
  · rw [if_pos hshort] at henough
    cases henough
  · rw [if_neg hshort] at henough hevents
    cases henough
    exact ⟨Nat.le_of_not_lt hshort, hevents⟩

/-- A response that has been received was read whole: its length byte, and as many bytes as it says. -/
theorem receiveResponse_eq_ok
    {timeout : Nat} {response : Response}
    (h : (receiveResponse timeout).run.overLink link s = (.ok response, s')) :
    ∃ head body, 1 ≤ head.length ∧ (head.headD 0).toNat + 1 ≤ body.length ∧
      Response.ofBody body = .ok response ∧
      (receiveResponse timeout).run.events link s =
        [.received 1 timeout (.ok head),
          .received ((head.headD 0).toNat + 1) timeout (.ok body)] := by
  obtain ⟨head, _, hhead, hrest, hevents⟩ := overLink_bind_eq_ok h
  obtain ⟨hone, hheadEvents⟩ := receiveExact_eq_ok hhead
  obtain ⟨body, _, hbody, hlast, hrestEvents⟩ := overLink_bind_eq_ok hrest
  obtain ⟨hlength, hbodyEvents⟩ := receiveExact_eq_ok hbody
  refine ⟨head, body, hone, hlength, congrArg Prod.fst hlast, ?_⟩
  rw [receiveResponse, hevents, hheadEvents, hrestEvents, hbodyEvents]
  rfl

theorem receivePayload_eq_ok
    {timeout : Nat} {payload : List UInt8}
    (h : (receivePayload timeout).run.overLink link s = (.ok payload, s')) :
    ∃ head body, 1 ≤ head.length ∧ (head.headD 0).toNat + 1 ≤ body.length ∧
      Response.ofBody body = .ok (.ok payload) ∧
      (receivePayload timeout).run.events link s =
        [.received 1 timeout (.ok head),
          .received ((head.headD 0).toNat + 1) timeout (.ok body)] := by
  obtain ⟨response, _, hresponse, hlast, hevents⟩ := overLink_bind_eq_ok h
  obtain ⟨head, body, hone, hlength, hof, hresponseEvents⟩ := receiveResponse_eq_ok hresponse
  cases response with
  | failed status bytes => cases hlast
  | ok bytes =>
      cases hlast
      refine ⟨head, body, hone, hlength, hof, ?_⟩
      rw [receivePayload, hevents, hresponseEvents]
      rfl

end Exchange

/-- A body that says success is the status, the payload and their checksum. -/
theorem Response.ofBody_eq_ok
    {body payload : List UInt8} (h : ofBody body = .ok (.ok payload)) :
    body = 0x80 :: payload ++ [Frame.checksum (0x80 :: payload)] := by
  obtain ⟨⟨status, bytes⟩, hdecode, hresponse⟩ := Except.map_eq_ok_iff.mp h
  dsimp only at hresponse
  split at hresponse
  · next hstatus =>
      cases hresponse
      rw [hstatus] at hdecode
      exact Frame.decodeBody_eq_ok_iff.mp hdecode
  · cases hresponse

namespace Badge

/-- The events of a request that has got its response: the frame is sent, and then the length byte and all
that it announces are read, which is a payload with the status of success and the right checksum. -/
inductive Answered (wire : List UInt8) : List Event → Prop
  | intro (timeout : Nat) (head body payload : List UInt8) (hhead : 1 ≤ head.length)
    (hlength : (head.headD 0).toNat + 1 ≤ body.length)
    (hbody : body = 0x80 :: payload ++ [Frame.checksum (0x80 :: payload)]) :
    Answered wire
      [.sent wire (.ok ()), .received 1 timeout (.ok head),
        .received ((head.headD 0).toNat + 1) timeout (.ok body)]

/-- How a request ends, and its events. -/
inductive Asking (request : Request) : Except Error Reply → List Event → Prop
  | refused (e : Error) (he : request.wire = .error e) : Asking request (.error e) []
  | failed (wire : List UInt8) (answer : Except LinkFault Unit) (later : List Event) (e : Error)
    (hwire : request.wire = .ok wire) (hlater : ∀ event ∈ later, event.bytes? = none) :
    Asking request (.error e) (.sent wire answer :: later)
  | answered (wire : List UInt8) (reply : Reply) (events : List Event)
    (hwire : request.wire = .ok wire) (hevents : Answered wire events) :
    Asking request (.ok reply) events

theorem events_conclude (request : Request) (payload : List UInt8) (s : σ) :
    (request.conclude payload).run.events link s = [] := by
  unfold Request.conclude
  cases request.remark payload <;> rfl

/-- A request whose frame is sent awaits the whole response to it. -/
theorem answered_of_await
    {badge : Badge} {request : Request} {reply : Reply}
    (h : (badge.await request).run.overLink link s = (.ok reply, s')) (wire : List UInt8) :
    Answered wire (.sent wire (.ok ()) :: (badge.await request).run.events link s) := by
  obtain ⟨payload, _, hpayload, -, hevents⟩ := Exchange.overLink_bind_eq_ok h
  obtain ⟨head, body, hhead, hlength, hof, hreceived⟩ := Exchange.receivePayload_eq_ok hpayload
  rw [await, hevents, hreceived, events_conclude]
  exact .intro badge.timeout head body payload hhead hlength (Response.ofBody_eq_ok hof)

/-- What only receives hands over nothing. -/
theorem bytes?_of_receives
    {d : Dialogue α} {good : α → Prop} (hd : d.Obeys Exchange.Receives good) {event : Event}
    (hevent : event ∈ d.events link s) : event.bytes? = none := by
  obtain ⟨⟨ask, before⟩, hask, rfl⟩ := List.mem_map.mp hevent
  obtain ⟨count, timeout, hreceive⟩ := hd.allowed_of_mem_asks hask
  dsimp only at hreceive
  subst hreceive
  rfl

theorem asking_ask (badge : Badge) (link : Link (StateM σ)) (request : Request) (s : σ) :
    Asking request ((badge.ask request).run.overLink link s).1
      ((badge.ask request).run.events link s) := by
  cases hwire : request.wire with
  | error e =>
      rw [ask_of_refused hwire]
      exact .refused e hwire
  | ok wire =>
      rw [ask_of_accepted hwire, Dialogue.overLink_note, Dialogue.overLink_send,
        Dialogue.events_note, Dialogue.events_send]
      cases (link.send wire (link.note (.sent wire) s).2).1 with
      | error fault => exact .failed wire _ [] _ hwire nofun
      | ok sent =>
          dsimp only
          generalize (link.send wire (link.note (.sent wire) s).2).2 = after
          cases houtcome : ((badge.await request).run.overLink link after).1 with
          | error e =>
              exact .failed wire _ _ e hwire fun _ => bytes?_of_receives (obeys_await badge request)
          | ok reply =>
              exact .answered wire reply _ hwire (answered_of_await (Prod.ext houtcome rfl) wire)

/-! ## Operations in turn -/

/-- Carries out operations on a badge, up to the first that fails. -/
def performInTurn (badge : Badge) : List Operation → Exchange (List Reply)
  | [] => pure []
  | operation :: rest => do
    let reply ← badge.perform operation
    return reply :: (← badge.performInTurn rest)

/-- How requests are made one after another, each only when the one before has its reply: up to the first
that fails. -/
inductive AskingInTurn : List Request → Except Error (List Reply) → List Event → Prop
  | done : AskingInTurn [] (.ok []) []
  | stopped (request : Request) (rest : List Request) (e : Error) (events : List Event)
    (hfirst : Asking request (.error e) events) : AskingInTurn (request :: rest) (.error e) events
  | next (request : Request) (rest : List Request) (reply : Reply)
    (outcome : Except Error (List Reply)) (events later : List Event)
    (hfirst : Asking request (.ok reply) events) (hrest : AskingInTurn rest outcome later) :
    AskingInTurn (request :: rest) (outcome.map (reply :: ·)) (events ++ later)

theorem askingInTurn_performInTurn
    (badge : Badge) (link : Link (StateM σ)) (requests : List Request) (s : σ) :
    AskingInTurn requests
      ((badge.performInTurn (requests.map .request)).run.overLink link s).1
      ((badge.performInTurn (requests.map .request)).run.events link s) := by
  induction requests generalizing s with
  | nil => exact .done
  | cons request rest ih =>
      have hfirst := asking_ask badge link request s
      rw [List.map_cons, performInTurn, Exchange.run_bind, Dialogue.overLink_bind_run,
        Dialogue.events_bind, perform]
      cases houtcome : ((badge.ask request).run.overLink link s).1 with
      | error e =>
          rw [houtcome] at hfirst
          have hstopped := AskingInTurn.stopped request rest e _ hfirst
          rw [← List.append_nil ((badge.ask request).run.events link s)] at hstopped
          exact hstopped
      | ok reply =>
          rw [houtcome] at hfirst
          dsimp only
          rw [Exchange.overLink_bind_pure, Exchange.events_bind_pure]
          exact .next request rest reply _ _ _ hfirst (ih _)

theorem Answered.sends_eq {wire : List UInt8} {events : List Event} (h : Answered wire events) :
    sends events = [wire] := by
  cases h
  rfl

/-- A request that fails hands over its frame, or nothing if it has none. -/
theorem Asking.sends_of_error
    {request : Request} {e : Error} {events : List Event} (h : Asking request (.error e) events) :
    (request.wire = .error e ∧ events = []) ∨
      ∃ wire, request.wire = .ok wire ∧ sends events = [wire] := by
  cases h with
  | refused _ he => exact Or.inl ⟨he, rfl⟩
  | failed wire answer later _ hwire hlater =>
      have hquiet : sends later = [] := List.filterMap_eq_nil_iff.mpr hlater
      refine Or.inr ⟨wire, hwire, ?_⟩
      show wire :: sends later = [wire]
      rw [hquiet]

namespace AskingInTurn

variable {requests : List Request} {outcome : Except Error (List Reply)} {events : List Event}

/-- The frames are sent in their order, up to some point. -/
theorem sends_prefix
    (h : AskingInTurn requests outcome events) {frames : List (List UInt8)}
    (hframes : requests.mapM Request.wire = .ok frames) : sends events <+: frames := by
  induction h generalizing frames with
  | done => exact List.nil_prefix
  | stopped request rest e events hfirst =>
      obtain ⟨wire, others, hwire, -, rfl⟩ := Except.mapM_cons_eq_ok_iff.mp hframes
      rcases hfirst.sends_of_error with ⟨hrefused, -⟩ | ⟨wire', hwire', hsends⟩
      · rw [hwire] at hrefused
        cases hrefused
      · rw [hwire] at hwire'
        cases hwire'
        rw [hsends]
        exact ⟨others, rfl⟩
  | next request rest reply outcome events later hfirst _ ih =>
      obtain ⟨wire, others, hwire, hothers, rfl⟩ := Except.mapM_cons_eq_ok_iff.mp hframes
      cases hfirst with
      | answered wire' reply events hwire' hevents =>
          rw [hwire] at hwire'
          cases hwire'
          rw [sends_append, hevents.sends_eq]
          exact (List.prefix_cons_inj wire).mpr (ih hothers)

/-- Requests that all have replies have sent all their frames. -/
theorem sends_of_ok
    {replies : List Reply} (h : AskingInTurn requests (.ok replies) events) :
    requests.mapM Request.wire = .ok (sends events) := by
  generalize houtcome : (Except.ok replies : Except Error (List Reply)) = outcome at h
  induction h generalizing replies with
  | done => rfl
  | stopped => cases houtcome
  | next request rest reply outcome events later hfirst _ ih =>
      obtain ⟨others, rfl, -⟩ := Except.map_eq_ok_iff.mp houtcome.symm
      cases hfirst with
      | answered wire reply events hwire hevents =>
          rw [sends_append, hevents.sends_eq]
          exact Except.mapM_cons_eq_ok_iff.mpr ⟨wire, _, hwire, ih rfl, rfl⟩

/-- Between the frames of two requests, the whole response to the first one is read. -/
theorem answered_of_sends
    (h : AskingInTurn requests outcome events) {first second : List UInt8}
    {others : List (List UInt8)} (hsends : sends events = first :: second :: others) :
    ∃ answered later, events = answered ++ later ∧ Answered first answered ∧
      sends later = second :: others := by
  cases h with
  | done => cases hsends
  | stopped request rest e _ hfirst =>
      rcases hfirst.sends_of_error with ⟨-, rfl⟩ | ⟨wire, -, hone⟩
      · cases hsends
      · rw [hone] at hsends
        cases hsends
  | next request rest reply outcome events later hfirst hrest =>
      cases hfirst with
      | answered wire _ _ _ hevents =>
          rw [sends_append, hevents.sends_eq] at hsends
          obtain ⟨rfl, hlater⟩ := List.cons.inj hsends
          exact ⟨_, later, rfl, hevents, hlater⟩

/-- Nothing is sent if the first of the requests is refused. -/
theorem eq_nil_of_refused
    {request : Request} {rest : List Request} {e : Error}
    (h : AskingInTurn (request :: rest) outcome events) (he : request.wire = .error e) :
    events = [] ∧ outcome = .error e := by
  cases h with
  | stopped _ _ e' _ hfirst =>
      cases hfirst with
      | refused _ he' =>
          rw [he] at he'
          cases he'
          exact ⟨rfl, rfl⟩
      | failed wire answer later _ hwire =>
          rw [he] at hwire
          cases hwire
  | next _ _ reply outcome events later hfirst =>
      cases hfirst with
      | answered wire _ _ hwire =>
          rw [he] at hwire
          cases hwire

end AskingInTurn

end Badge
end BadgeLink
