import BadgeLink.Proofs.Badge.Pairing
import BadgeLink.Proofs.Handshake.Transcript
import BadgeLink.Proofs.Log

/-!
# The log as a transcript

Over a link without faults the log of a session tells what has been on the wire.  A request tells what is
sent for it and, once the response to it has been read whole, all bytes of the response, however bad they
are; a handshake tells its first reset and each of its reads.  Only a request that times out takes bytes
that the log does not show.
-/

namespace BadgeLink

open Dialogue (Tells)

/-- An outcome is that too few bytes came in time. -/
def timedOut {α : Type} : Except Error α → Bool
  | .error (.timeout ..) => true
  | _ => false

theorem timedOut_error (α β : Type) (e : Error) :
    timedOut (.error e : Except Error α) = timedOut (.error e : Except Error β) := by
  cases e <;> rfl

variable {s : Scripted}

/-! ## Responses -/

namespace Scripted

open Exchange (receivePayload)

/-- What is told of the bytes that are taken in order to receive a response: nothing if they are too few,
and otherwise first all of them, however bad the response is. -/
inductive Received {α : Type} : Except Error α → List Record → List UInt8 → Prop
  | short (bytes : List UInt8) (expected got : Nat) (hshort : ¬Response.IsFrame bytes) :
    Received (.error (.timeout expected got)) [] bytes
  | whole {frame : List UInt8} {outcome : Except Error α} {remarks : List Record}
    (hframe : Response.IsFrame frame) (houtcome : timedOut outcome = false)
    (hremarks : ∀ record ∈ remarks, record.IsRemark) :
    Received outcome (.received frame :: remarks) frame

namespace Received

variable {α β : Type} {outcome : Except Error α} {told remarks : List Record} {bytes : List UInt8}

theorem error {e : Error} (h : Received (.error e : Except Error α) told bytes) :
    Received (.error e : Except Error β) told bytes := by
  cases h with
  | short bytes expected got hshort => exact .short bytes expected got hshort
  | whole hframe houtcome hremarks =>
      exact .whole hframe ((timedOut_error β α e).trans houtcome) hremarks

/-- What is made of a payload may be remarked on, and is no timeout. -/
theorem followed
    {payload : α} {last : Except Error β} (h : Received (.ok payload) told bytes)
    (hlast : timedOut last = false) (hremarks : ∀ record ∈ remarks, record.IsRemark) :
    Received last (told ++ remarks) bytes := by
  cases h with
  | whole hframe houtcome hearlier =>
      refine .whole hframe hlast ?_
      intro record hrecord
      rcases List.mem_append.mp hrecord with hrecord | hrecord
      · exact hearlier record hrecord
      · exact hremarks record hrecord

theorem none_sent_or_missed (h : Received outcome told bytes) :
    told.filterMap Record.sent? = [] ∧ told.filterMap Record.missed? = [] := by
  cases h with
  | short => exact ⟨rfl, rfl⟩
  | whole hframe houtcome hremarks =>
      constructor
      · exact List.filterMap_eq_nil_iff.mpr
          (List.forall_mem_cons.mpr ⟨rfl, fun record hrecord => (hremarks record hrecord).1⟩)
      · exact List.filterMap_eq_nil_iff.mpr
          (List.forall_mem_cons.mpr ⟨rfl, fun record hrecord => (hremarks record hrecord).2.2⟩)

theorem of_isFrame (h : Received outcome told bytes) (hwhole : Response.IsFrame bytes) :
    told.filterMap Record.received? = [bytes] ∧ timedOut outcome = false := by
  cases h with
  | short _ _ _ hshort => exact absurd hwhole hshort
  | @whole _ _ remarks hframe houtcome hremarks =>
      have hnone : remarks.filterMap Record.received? = [] :=
        List.filterMap_eq_nil_iff.mpr fun record hrecord => (hremarks record hrecord).2.1
      exact ⟨congrArg (List.cons bytes) hnone, houtcome⟩

theorem of_not_isFrame (h : Received outcome told bytes) (hother : ¬Response.IsFrame bytes) :
    told.filterMap Record.received? = [] ∧ timedOut outcome = true := by
  cases h with
  | short => exact ⟨rfl, rfl⟩
  | whole hframe => exact absurd hframe hother

end Received

theorem timedOut_verdict (frame : List UInt8) : timedOut (Response.verdict frame) = false := by
  unfold Response.verdict
  split
  · rfl
  · dsimp only
    split
    · rfl
    · split <;> rfl

theorem received_of_frame {frame : List UInt8} (hframe : Response.IsFrame frame) :
    Received (Response.verdict frame) (report frame) frame := by
  refine .whole hframe (timedOut_verdict frame) ?_
  split
  · intro record hrecord
    rw [List.mem_singleton.mp hrecord]
    exact ⟨rfl, rfl, rfl⟩
  · nofun

theorem taken_head_body (timeout : Nat) (length : UInt8) (body : List UInt8) :
    taken [.received 1 timeout (.ok [length]), .received (length.toNat + 1) timeout (.ok body)] =
      length :: body :=
  congrArg (List.cons length) (List.append_nil body)

theorem received_receivePayload (hfaults : s.faults = []) (timeout : Nat) :
    ∃ outcome told events s', Tells link (receivePayload timeout).run s outcome told events s' ∧
      sends events = [] ∧ Received outcome told (taken events) := by
  cases hunread : s.unread with
  | nil =>
      obtain ⟨s', hread⟩ := tells_receiveResponse_of_nil hfaults hunread timeout
      exact ⟨_, _, _, s', hread.bind_error _, rfl, .short _ 1 0 Response.not_isFrame_nil⟩
  | cons length rest =>
      by_cases hshort : rest.length < length.toNat + 1
      · obtain ⟨s', hread⟩ := tells_receiveResponse_of_short hfaults hunread hshort timeout
        refine ⟨_, _, _, s', hread.bind_error _, rfl, .short _ _ _ ?_⟩
        rw [taken_head_body, Response.isFrame_cons_iff]
        exact Nat.ne_of_lt hshort
      · obtain ⟨body, later, rfl, hbody⟩ :
            ∃ body later, rest = body ++ later ∧ body.length = length.toNat + 1 := by
          refine ⟨_, _, (List.take_append_drop (length.toNat + 1) rest).symm, ?_⟩
          rw [List.length_take]
          omega
        obtain ⟨s', hread⟩ := tells_receivePayload_of_frame hfaults hbody hunread timeout
        refine ⟨_, _, _, s', hread, rfl, ?_⟩
        rw [taken_head_body]
        exact received_of_frame (Response.isFrame_cons_iff.mpr hbody)

end Scripted

/-! ## Requests -/

namespace Request

/-- What the log says about a request.  If it is accepted, what is sent for it is told once; a response
that has been read whole is told once, with all the bytes that were taken, and any other is a timeout and
not told. -/
structure Logged (request : Request) (outcome : Except Error Reply) (told : List Record)
    (events : List Event) : Prop where
  refused : ∀ e, request.wire = .error e → told = [] ∧ events = []
  sent : ∀ wire, request.wire = .ok wire →
    told.filterMap Record.sent? = [wire] ∧ sends events = [wire]
  whole : Response.IsFrame (taken events) → told.filterMap Record.received? = [taken events]
  short : ¬Response.IsFrame (taken events) → told.filterMap Record.received? = []
  missed : told.filterMap Record.missed? = []
  timeout : timedOut outcome ↔
    (∃ wire, request.wire = .ok wire) ∧ ¬Response.IsFrame (taken events)

theorem logged_of_refused {request : Request} {e : Error} (he : request.wire = .error e) :
    request.Logged (.error e) [] [] := by
  obtain ⟨cause, rfl⟩ := request.refusesOnly_wire e he
  refine ⟨fun _ _ => ⟨rfl, rfl⟩, ?_, ?_, fun _ => rfl, rfl, ?_⟩
  · intro wire hwire
    cases he.symm.trans hwire
  · intro hframe
    exact absurd hframe Response.not_isFrame_nil
  · apply iff_of_false nofun
    rintro ⟨⟨wire, hwire⟩, -⟩
    cases he.symm.trans hwire

theorem logged_of_received
    {request : Request} {wire : List UInt8} {outcome : Except Error Reply} {told : List Record}
    {events : List Event} (hwire : request.wire = .ok wire) (hsends : sends events = [])
    (h : Scripted.Received outcome told (taken events)) :
    request.Logged outcome (.sent wire :: told) (.sent wire (.ok ()) :: events) := by
  have hrefused (e : Error) : request.wire ≠ .error e := by
    rw [hwire]
    nofun
  obtain ⟨hsent, hmissed⟩ := h.none_sent_or_missed
  constructor
  · intro e he
    exact absurd he (hrefused e)
  · intro wire' hwire'
    obtain rfl : wire = wire' := Except.ok.inj (hwire.symm.trans hwire')
    exact ⟨congrArg (List.cons wire) hsent, congrArg (List.cons wire) hsends⟩
  · intro hframe
    exact (h.of_isFrame hframe).1
  · intro hother
    exact (h.of_not_isFrame hother).1
  · exact hmissed
  · constructor
    · intro htimeout
      refine ⟨⟨wire, hwire⟩, fun hframe => ?_⟩
      rw [(h.of_isFrame hframe).2] at htimeout
      cases htimeout
    · rintro ⟨-, hother⟩
      exact (h.of_not_isFrame hother).2

end Request

namespace Badge

theorem tells_conclude (request : Request) (payload : List UInt8) (s : Scripted) :
    ∃ remarks s', Tells Scripted.link (request.conclude payload).run s (request.reply payload)
      remarks [] s' ∧ ∀ record ∈ remarks, record.IsRemark := by
  unfold Request.conclude
  cases hremark : request.remark payload with
  | none => exact ⟨[], s, .done _ _, nofun⟩
  | some record =>
      refine ⟨[record], _, .note (.done _ _), ?_⟩
      intro record' hrecord'
      obtain rfl := List.mem_singleton.mp hrecord'
      unfold Request.remark at hremark
      split at hremark
      · split at hremark
        · cases hremark
        · cases hremark
          exact ⟨rfl, rfl, rfl⟩
      · cases hremark

theorem timedOut_reply (request : Request) (payload : List UInt8) :
    timedOut (request.reply payload) = false := by
  unfold Request.reply
  split
  · rfl
  · rfl
  · rfl
  · split <;> rfl
  · rfl

theorem received_await (hfaults : s.faults = []) (badge : Badge) (request : Request) :
    ∃ outcome told events s', Tells Scripted.link (badge.await request).run s outcome told events s' ∧
      sends events = [] ∧ Scripted.Received outcome told (taken events) := by
  obtain ⟨outcome, told, events, between, hread, hsends, hreceived⟩ :=
    Scripted.received_receivePayload hfaults badge.timeout
  cases outcome with
  | error e =>
      exact ⟨_, told, events, between, hread.bind_error _, hsends, hreceived.error⟩
  | ok payload =>
      obtain ⟨remarks, s', hconclude, hremarks⟩ := tells_conclude request payload between
      refine ⟨_, _, _, s', hread.bind_ok hconclude, ?_⟩
      rw [List.append_nil]
      exact ⟨hsends, hreceived.followed (timedOut_reply request payload) hremarks⟩

/-- A request is logged, whatever comes of it. -/
theorem logged_ask (hfaults : s.faults = []) (badge : Badge) (request : Request) :
    ∃ outcome told events s', Tells Scripted.link (badge.ask request).run s outcome told events s' ∧
      request.Logged outcome told events := by
  cases hwire : request.wire with
  | error e =>
      rw [ask_of_refused hwire]
      exact ⟨_, _, _, s, .done _ _, Request.logged_of_refused hwire⟩
  | ok wire =>
      let noted : Scripted := { s with log := s.log ++ [.sent wire] }
      have hsend := Scripted.send_of_no_faults (s := noted) hfaults wire
      obtain ⟨outcome, told, events, s', hawait, hsends, hreceived⟩ :=
        received_await (s := s.sending wire) hfaults badge request
      rw [ask_of_accepted hwire]
      exact ⟨outcome, _, _, s', .note (.send hsend hawait),
        Request.logged_of_received hwire hsends hreceived⟩

/-! ## Handshakes -/

/-- How many attempts a handshake on a badge counts. -/
def attempts (badge : Badge) (s : Scripted) : Nat :=
  ((Handshake.run { interval := badge.resetInterval } badge.timeout).overLink Scripted.link s).1.2.attempts

theorem logged_init (hfaults : s.faults = []) (badge : Badge) :
    ∃ outcome told events s', Tells Scripted.link badge.init.run s outcome told events s' ∧
      Handshake.Logged (outcome = .ok ()) (badge.attempts s) told events ∧
        timedOut outcome = false := by
  obtain ⟨outcome, h, told, events, s', hrun, hlogged⟩ :=
    Handshake.logged_run hfaults badge.timeout { interval := badge.resetInterval }
  have hends := Handshake.run_outcome_cases hfaults { interval := badge.resetInterval } badge.timeout
  rw [hrun.outcome_eq] at hends
  rw [init_run, attempts, hrun.outcome_eq]
  cases outcome with
  | error e =>
      refine ⟨.error e, told ++ [], events ++ [], s', hrun.bind (.done _ s'), ?_⟩
      rw [List.append_nil, List.append_nil]
      rcases hends with hok | herror
      · cases hok
      · cases herror
        exact ⟨hlogged, rfl⟩
  | ok started =>
      refine ⟨.ok (), told ++ [.ready], events ++ [], _, hrun.bind (.note (.done _ _)), ?_⟩
      rw [List.append_nil]
      exact ⟨hlogged.ready, rfl⟩

theorem logged_perform_init (hfaults : s.faults = []) (badge : Badge) :
    ∃ outcome told events s',
      Tells Scripted.link (badge.perform .init).run s outcome told events s' ∧
        Handshake.Logged (outcome = .ok .done) (badge.attempts s) told events ∧
          timedOut outcome = false := by
  obtain ⟨outcome, told, events, s', hinit, hlogged, htimeout⟩ := logged_init hfaults badge
  cases outcome with
  | error e =>
      refine ⟨.error e, told, events, s', hinit.bind_error _, hlogged.congr ?_, ?_⟩
      · exact iff_of_false nofun nofun
      · exact (timedOut_error Reply Unit e).trans htimeout
  | ok started =>
      refine ⟨.ok .done, told ++ [], events ++ [], s', hinit.bind_ok (.done _ s'), ?_⟩
      rw [List.append_nil, List.append_nil]
      exact ⟨hlogged.congr (iff_of_true rfl rfl), rfl⟩

/-! ## Sessions -/

open Text (Hex.encode)

variable {σ : Type} {link : Link (StateM σ)}

/-- The operations of a session, each with the state in which it starts. -/
def starts (badge : Badge) (link : Link (StateM σ)) : List Operation → σ → List (Operation × σ)
  | [], _ => []
  | operation :: rest, s =>
    (operation, s) ::
      badge.starts link rest ((badge.perform operation).run.overLink link s).2

/-- What an operation of a session yields. -/
def outcome (badge : Badge) (link : Link (StateM σ)) (start : Operation × σ) : Except Error Reply :=
  ((badge.perform start.1).run.overLink link start.2).1

/-- What an operation of a session notes. -/
def told (badge : Badge) (link : Link (StateM σ)) (start : Operation × σ) : List Record :=
  (badge.perform start.1).run.notes link start.2

/-- The requests of an operation of a session to the link, with their answers. -/
def events (badge : Badge) (link : Link (StateM σ)) (start : Operation × σ) : List Event :=
  (badge.perform start.1).run.events link start.2

theorem starts_fst (badge : Badge) (link : Link (StateM σ)) (operations : List Operation) (s : σ) :
    (badge.starts link operations s).map Prod.fst = operations := by
  induction operations generalizing s with
  | nil => rfl
  | cons operation rest ih => exact congrArg (List.cons operation) (ih _)

/-- A session does what its operations do, one after the other. -/
theorem performAll_tells
    (badge : Badge) (link : Link (StateM σ)) (operations : List Operation) (s : σ) :
    ((badge.performAll operations).overLink link s).1 =
        (badge.starts link operations s).map (badge.outcome link) ∧
      (badge.performAll operations).notes link s =
        (badge.starts link operations s).flatMap (badge.told link) ∧
      (badge.performAll operations).events link s =
        (badge.starts link operations s).flatMap (badge.events link) := by
  induction operations generalizing s with
  | nil => exact ⟨rfl, rfl, rfl⟩
  | cons operation rest ih =>
      obtain ⟨houtcomes, hnotes, hevents⟩ := ih ((badge.perform operation).run.overLink link s).2
      refine ⟨?_, ?_, ?_⟩
      · rw [performAll_cons_overLink rfl, houtcomes]
        rfl
      · rw [performAll, Dialogue.notes_bind, Dialogue.notes_bind, hnotes]
        exact congrArg _ (List.append_nil _)
      · rw [performAll, Dialogue.events_bind, Dialogue.events_bind, hevents]
        exact congrArg _ (List.append_nil _)

theorem faults_of_mem_starts
    (hfaults : s.faults = []) {badge : Badge} {operations : List Operation}
    {start : Operation × Scripted} (hstart : start ∈ badge.starts Scripted.link operations s) :
    start.2.faults = [] := by
  induction operations generalizing s with
  | nil => cases hstart
  | cons operation rest ih =>
      rcases List.mem_cons.mp hstart with rfl | hstart
      · exact hfaults
      · exact ih (Scripted.sent_overLink hfaults _).1 hstart

/-- The bytes that an operation shows are those that it has taken, or none if it has timed out. -/
def Shows (outcome : Except Error Reply) (told : List Record) (events : List Event) : Prop :=
  told.flatMap Record.shown = if timedOut outcome then [] else taken events

theorem shows_of_logged
    {request : Request} {outcome : Except Error Reply} {told : List Record} {events : List Event}
    (h : request.Logged outcome told events) : Shows outcome told events := by
  rw [Shows, Record.shown_of_none_missed h.missed]
  by_cases hframe : Response.IsFrame (taken events)
  · have htimeout : ¬timedOut outcome := fun htimeout => (h.timeout.mp htimeout).2 hframe
    rw [h.whole hframe, if_neg htimeout, List.flatten_singleton]
  · rw [h.short hframe, List.flatten_nil]
    cases hwire : request.wire with
    | error e =>
        rw [(h.refused e hwire).2]
        exact (ite_self _).symm
    | ok wire => exact (if_pos (h.timeout.mpr ⟨⟨wire, hwire⟩, hframe⟩)).symm

/-- What each operation tells, and what it shows, is what it has done. -/
theorem logged_of_mem_starts
    (hfaults : s.faults = []) {badge : Badge} {operations : List Operation}
    {start : Operation × Scripted} (hstart : start ∈ badge.starts Scripted.link operations s) :
    Shows (badge.outcome Scripted.link start) (badge.told Scripted.link start)
        (badge.events Scripted.link start) ∧
      (∀ request, start.1 = .request request →
        request.Logged (badge.outcome Scripted.link start) (badge.told Scripted.link start)
          (badge.events Scripted.link start)) ∧
      (start.1 = .init →
        Handshake.Logged (badge.outcome Scripted.link start = .ok .done) (badge.attempts start.2)
          (badge.told Scripted.link start) (badge.events Scripted.link start)) := by
  have hworks := faults_of_mem_starts hfaults hstart
  obtain ⟨operation, before⟩ := start
  rw [outcome, told, events]
  cases operation with
  | init =>
      obtain ⟨outcome, told, events, s', htells, hlogged, htimeout⟩ :=
        logged_perform_init hworks badge
      rw [htells.outcome_eq, htells.told_eq, htells.events_eq]
      refine ⟨?_, nofun, fun _ => hlogged⟩
      rw [Shows, htimeout]
      exact hlogged.shown
  | request request =>
      obtain ⟨outcome, told, events, s', htells, hlogged⟩ := logged_ask hworks badge request
      rw [perform, htells.outcome_eq, htells.told_eq, htells.events_eq]
      refine ⟨shows_of_logged hlogged, ?_, nofun⟩
      rintro _ ⟨⟩
      exact hlogged

/-- The log of a session is a transcript of the wire.  Each operation tells what is sent for it and what is
taken, as said in `Request.Logged` and `Handshake.Logged`, in records that are known by their lines.  So the
bytes that the log shows as taken are, in their order, all that came off the front of what the link held,
except those of the requests that have timed out. -/
theorem performAll_transcribed
    (hfaults : s.faults = []) (badge : Badge) (operations : List Operation) :
    let starts := badge.starts Scripted.link operations s
    let outcome := badge.outcome Scripted.link
    let told := badge.told Scripted.link
    let events := badge.events Scripted.link
    let ran := s.run (badge.performAll operations)
    (starts.map Prod.fst = operations ∧ ran.1 = starts.map outcome ∧
      (badge.performAll operations).events Scripted.link s = starts.flatMap events ∧
      ran.2.sent = s.sent ++ sends (starts.flatMap events) ∧
      s.TakenOff ran.2.incoming (taken (starts.flatMap events)) ∧
      ran.2.log = s.log ++ starts.flatMap told) ∧
    (∀ start ∈ starts, ∀ request, start.1 = .request request →
      request.Logged (outcome start) (told start) (events start)) ∧
    (∀ start ∈ starts, start.1 = .init →
      Handshake.Logged (outcome start = .ok .done) (badge.attempts start.2) (told start)
        (events start)) ∧
    ((starts.flatMap told).flatMap Record.shown =
      starts.flatMap fun start => if timedOut (outcome start) then [] else taken (events start)) ∧
    ∀ record : Record,
      (∀ bytes, record.sent? = some bytes ↔ record.line = "DEBUG => " ++ Hex.encode bytes) ∧
      (∀ bytes, record.received? = some bytes ↔ record.line = "DEBUG <= " ++ Hex.encode bytes) ∧
      (record.missed?.isSome ↔ record.level = .trace) ∧
      ∀ got attempt, record.missed? = some (got, attempt) → ∃ expected, record.line = "TRACE " ++
        s!"reset attempt {attempt} got [{Hex.encode got}], expected [{Hex.encode expected}]" := by
  intro starts outcome told events ran
  obtain ⟨houtcomes, hnotes, hevents⟩ := performAll_tells badge Scripted.link operations s
  refine ⟨⟨?_, houtcomes, hevents, ?_, ?_, ?_⟩, ?_, ?_, ?_, ?_⟩
  · exact starts_fst badge Scripted.link operations s
  · rw [← hevents]
    exact (Scripted.sent_overLink hfaults _).2
  · rw [← hevents]
    exact Scripted.taken_overLink hfaults _
  · rw [← hnotes]
    exact Scripted.log_overLink _ s
  · intro start hstart
    exact (logged_of_mem_starts hfaults hstart).2.1
  · intro start hstart
    exact (logged_of_mem_starts hfaults hstart).2.2
  · rw [List.flatMap_assoc]
    apply List.flatMap_congr
    intro start hstart
    exact (logged_of_mem_starts hfaults hstart).1
  · intro record
    exact ⟨fun _ => record.sent?_eq_some_iff, fun _ => record.received?_eq_some_iff,
      record.missed?_isSome_iff, fun _ _ => record.line_of_missed?⟩

/-- A handshake that succeeds at its second read, a request that is answered, one that is refused and one
that times out: what the last one has taken is not shown. -/
theorem performAll_transcribed_after_timeout :
    let s : Scripted :=
      { incoming := [0xde, 0xad, 0xbe, 0x01, 0x81, 0x81, 0x01, 0x80, 0x80, 0x02, 0x80] }
    let operations : List Operation :=
      [.init, .request .lcdClear, .request (.i2cClock 0), .request .lcdRefresh]
    (s.run (performAll {} operations)).2.log.flatMap Record.shown =
        [0xde, 0xad, 0xbe, 0x01, 0x81, 0x81, 0x01, 0x80, 0x80] ∧
      (s.run (performAll {} operations)).2.incoming = [] := by
  intro s operations
  obtain ⟨⟨-, -, -, -, -, hlog⟩, -, -, hshown, -⟩ :=
    performAll_transcribed (s := s) rfl {} operations
  rw [hlog, List.flatMap_append, hshown]
  constructor <;> decide +kernel

end Badge
end BadgeLink
