import BadgeLink.Proofs.Session.Course

/-!
# What a session sends

Whatever the port answers, the bytes that a session sends are the resets of one handshake at most, and
then frames of its job from the first one on.  No frame is sent unless the handshake has succeeded and all
arguments are valid, and a second frame only after the whole response to the first.
-/

namespace BadgeLink

open CommandLine (Invocation Job Settings)

variable {σ : Type}

/-! ## The frames of a job -/

namespace CommandLine.Job

/-- The frames of a job, if all its arguments are valid. -/
def frames (job : Job) : Except Failure (List (List UInt8)) := do
  choose ((← job.requests).mapM Request.wire)

/-- What a job asks for after its first request: drawing is followed by a refresh of the display. -/
def followUp : Job → List Request
  | lcdPixel .. | lcdText .. => [.lcdRefresh]
  | _ => []

def followUpFrames : Job → List (List UInt8)
  | lcdPixel .. | lcdText .. => [[0x02, 0x02, 0x01, 0x03]]
  | _ => []

variable {job : Job} {requests : List Request}

theorem wires_followUp (job : Job) : job.followUp.mapM Request.wire = .ok job.followUpFrames := by
  cases job <;> rfl

/-- A reset makes no requests, and any other job makes one of its own before what follows it. -/
theorem requests_shape (h : job.requests = .ok requests) :
    (job = .reset ∧ requests = []) ∨
      (job ≠ .reset ∧ ∃ first, requests = first :: job.followUp) := by
  cases job with
  | reset =>
      cases h
      exact Or.inl ⟨rfl, rfl⟩
  | lcdClear | lcdRefresh | lcdText | buttons | i2cClock | i2cRead =>
      cases h
      exact Or.inr ⟨nofun, _, rfl⟩
  | uart | lcdPixel | led | ledBlink | i2cWrite | spiConfig | spiTransfer =>
      obtain ⟨value, -, h⟩ := Except.bind_eq_ok_iff.mp h
      cases h
      exact Or.inr ⟨nofun, _, rfl⟩

theorem frames_eq_ok_iff {frames : List (List UInt8)} :
    job.frames = .ok frames ↔
      ∃ requests, job.requests = .ok requests ∧ requests.mapM Request.wire = .ok frames := by
  rw [Job.frames, Except.bind_eq_ok_iff]
  simp only [choose, Except.mapError_eq_ok_iff]

theorem frames_shape {frames : List (List UInt8)} (h : job.frames = .ok frames) :
    (job = .reset ∧ frames = []) ∨
      (job ≠ .reset ∧ ∃ first, frames = first :: job.followUpFrames) := by
  obtain ⟨requests, hrequests, hwires⟩ := frames_eq_ok_iff.mp h
  rcases requests_shape hrequests with ⟨hreset, rfl⟩ | ⟨hreset, first, rfl⟩
  · cases hwires
    exact Or.inl ⟨hreset, rfl⟩
  · obtain ⟨wire, others, -, hothers, rfl⟩ := Except.mapM_cons_eq_ok_iff.mp hwires
    rw [wires_followUp] at hothers
    cases hothers
    exact Or.inr ⟨hreset, wire, rfl⟩

/-- Only the first request of a job can be refused. -/
theorem first_refused
    {e : Error} (hrequests : job.requests = .ok requests)
    (hwires : requests.mapM Request.wire = .error e) :
    ∃ first rest, requests = first :: rest ∧ first.wire = .error e := by
  rcases requests_shape hrequests with ⟨-, rfl⟩ | ⟨-, first, rfl⟩
  · cases hwires
  · refine ⟨first, job.followUp, rfl, ?_⟩
    rw [List.mapM_cons, wires_followUp] at hwires
    rcases Except.bind_eq_error_iff.mp hwires with hfirst | ⟨wire, -, hrest⟩
    · exact hfirst
    · cases hrest

/-- A session resets an open badge only for a job that is nothing else, and makes the requests of any
other job. -/
theorem operations_eq_ok
    {settings : Settings} {operations : List Operation}
    (h : job.operations settings = .ok operations) :
    (job = .reset ∧ settings.noReset ∧ operations = [.init]) ∨
      (¬(job = .reset ∧ settings.noReset) ∧ ∃ requests, job.requests = .ok requests ∧
        operations = requests.map .request) := by
  obtain ⟨requests, hrequests, hoperations⟩ := Except.bind_eq_ok_iff.mp h
  dsimp only at hoperations
  split at hoperations
  · next hreset =>
      obtain ⟨rfl, hnoReset⟩ := hreset
      cases hrequests
      cases hoperations
      exact Or.inl ⟨rfl, hnoReset, rfl⟩
  · next hreset =>
      cases hoperations
      exact Or.inr ⟨hreset, requests, hrequests, rfl⟩

end CommandLine.Job

/-! ## The handshake at the start -/

/-- The events of a handshake, if there is one. -/
def resetEvents (link : Link (StateM σ)) (reset : Option (ResetRun σ)) : List Event :=
  reset.elim [] (·.events link)

theorem filter_isTraffic_of_events (link : Link (StateM σ)) (run : ResetRun σ) :
    (run.events link).filter Event.isTraffic = run.events link :=
  List.filter_eq_self.mpr fun _ => Dialogue.isTraffic_of_mem_events

namespace Connecting

variable {ε : Type} {link : Link (StateM σ)} {noReset : Bool} {events : List Event}

/-- All traffic before the port is held, or is given up again, is that of one handshake at most. -/
theorem traffic_of_error
    {e : ε} (h : Connecting link (!noReset) (.error e : Except ε _) events) :
    ∃ reset, events.filter Event.isTraffic = resetEvents link reset ∧
      (noReset → reset = none) := by
  cases h with
  | unopened => exact ⟨none, rfl, fun _ => rfl⟩
  | refused => exact ⟨none, rfl, fun _ => rfl⟩
  | unready port timeout run _ hreset =>
      refine ⟨some run, ?_, fun hnoReset => ?_⟩
      · show (run.events link ++ [Event.closed port]).filter Event.isTraffic = run.events link
        rw [List.filter_append, filter_isTraffic_of_events]
        exact List.append_nil _
      · rw [hnoReset] at hreset
        cases hreset

theorem traffic_of_ok
    {connection : String × Badge}
    (h : Connecting link (!noReset) (.ok connection : Except ε _) events) :
    ∃ reset, events.filter Event.isTraffic = resetEvents link reset ∧
      (noReset → reset = none) ∧ (¬noReset → ∃ run, reset = some run) ∧
      ∀ run ∈ reset, run.Succeeds link := by
  cases h with
  | opened port timeout badge hreset =>
      refine ⟨none, rfl, fun _ => rfl, fun hnoReset => ?_, nofun⟩
      exact absurd (by simpa using hreset) hnoReset
  | ready port timeout run hreset hrun =>
      refine ⟨some run, filter_isTraffic_of_events link run, fun hnoReset => ?_,
        fun _ => ⟨run, rfl⟩, fun other hother => ?_⟩
      · rw [hnoReset] at hreset
        cases hreset
      · cases hother
        exact hrun

end Connecting

/-! ## The whole trace -/

/-- What a session sends: the resets of a handshake, if there is one, and then frames for the requests of
its job, whose events are `requests`. -/
structure WireTrace
    (link : Link (StateM σ)) (settings : Settings) (job : Job)
    (outcome : Except Failure (List String)) (events : List Event)
    (reset : Option (ResetRun σ)) (requests : List Event) : Prop where
  traffic_eq : events.filter Event.isTraffic = resetEvents link reset ++ requests
  reset_eq_none : settings.noReset → job ≠ .reset → reset = none
  reset_of_ok : job = .reset → ∀ lines, outcome = .ok lines →
    ∃ run, reset = some run ∧ run.Succeeds link
  after_reset : requests ≠ [] → ∀ run ∈ reset, run.Succeeds link
  nothing_of_invalid : ∀ e, job.frames = .error e → requests = []
  prefix_of_frames : ∀ frames, job.frames = .ok frames → sends requests <+: frames
  frames_of_ok : ∀ lines, outcome = .ok lines → job.frames = .ok (sends requests)
  answered : ∀ first second others, sends requests = first :: second :: others →
    ∃ answered later, requests = answered ++ later ∧ Badge.Answered first answered ∧
      sends later = second :: others

namespace WireTrace

variable {link : Link (StateM σ)} {settings : Settings} {job : Job}
  {outcome : Except Failure (List String)} {events requests : List Event}
  {reset : Option (ResetRun σ)}

/-- What is sent are resets, followed by what the requests send. -/
theorem sends_eq (h : WireTrace link settings job outcome events reset requests) :
    ∃ n ≤ 256, sends (resetEvents link reset) = List.replicate n [0x00] ∧
      sends events = List.replicate n [0x00] ++ sends requests := by
  have hsent : ∃ n ≤ 256, sends (resetEvents link reset) = List.replicate n [0x00] := by
    cases reset with
    | none => exact ⟨0, Nat.zero_le 256, rfl⟩
    | some run => exact run.badge.sends_init run.start
  obtain ⟨n, hn, hresets⟩ := hsent
  refine ⟨n, hn, hresets, ?_⟩
  rw [← sends_filter_isTraffic, h.traffic_eq, sends_append, hresets]

/-- A session that fails before its first request sends nothing but resets. -/
theorem of_error
    {e : Failure} (htraffic : events.filter Event.isTraffic = resetEvents link reset)
    (hnone : settings.noReset → reset = none) :
    WireTrace link settings job (.error e) events reset [] where
  traffic_eq := by rw [htraffic, List.append_nil]
  reset_eq_none hnoReset _ := hnone hnoReset
  reset_of_ok _ _ hok := nomatch hok
  after_reset hrequests := absurd rfl hrequests
  nothing_of_invalid _ _ := rfl
  prefix_of_frames _ _ := List.nil_prefix
  frames_of_ok _ hok := nomatch hok
  answered _ _ _ hsends := nomatch hsends

end WireTrace

theorem traffic_append_closed
    {uses : List Event} (huses : ∀ event ∈ uses, event.isTraffic) (connecting : List Event)
    (port : String) :
    (connecting ++ (uses ++ [Event.closed port])).filter Event.isTraffic =
      connecting.filter Event.isTraffic ++ uses := by
  rw [List.filter_append, List.filter_append, List.filter_eq_self.mpr huses]
  exact congrArg (_ ++ ·) (List.append_nil uses)

namespace Session

variable {link : Link (StateM σ)} {settings : Settings} {job : Job}

/-- A session that only resets the badge makes one handshake. -/
theorem wireTrace_of_init
    {badge : Badge} {port : String} {connecting : List Event}
    (hconnecting : connecting.filter Event.isTraffic = []) (s : σ) :
    WireTrace link settings .reset
      ((((badge.performInTurn [.init]).run.overLink link s).1.mapError .badge).map
        (·.filterMap Reply.line?))
      (connecting ++ ((badge.performInTurn [.init]).run.events link s ++ [.closed port]))
      (some ⟨badge, s⟩) [] := by
  have hperform : badge.performInTurn [.init] =
      (badge.init >>= fun _ => pure Reply.done) >>= fun reply => pure [reply] := rfl
  have hevents : (badge.performInTurn [.init]).run.events link s =
      badge.init.run.events link s := by
    rw [hperform, Exchange.events_bind_pure, Exchange.events_bind_pure]
  have hsucceeds : ∀ lines, (((badge.performInTurn [.init]).run.overLink link s).1.mapError
      Failure.badge).map (·.filterMap Reply.line?) = .ok lines →
        (⟨badge, s⟩ : ResetRun σ).Succeeds link := by
    intro lines hok
    obtain ⟨replies, hreplies, -⟩ := Except.map_eq_ok_iff.mp hok
    have hinit := Except.mapError_eq_ok_iff.mp hreplies
    rw [hperform, Exchange.overLink_bind_pure, Exchange.overLink_bind_pure] at hinit
    obtain ⟨_, hdone, -⟩ := Except.map_eq_ok_iff.mp hinit
    obtain ⟨_, hready, -⟩ := Except.map_eq_ok_iff.mp hdone
    exact hready
  constructor
  case traffic_eq =>
    rw [hevents, traffic_append_closed fun _ => Dialogue.isTraffic_of_mem_events, hconnecting]
    exact (List.append_nil _).symm
  case reset_eq_none => exact fun _ hreset => absurd rfl hreset
  case reset_of_ok => exact fun _ lines hok => ⟨_, rfl, hsucceeds lines hok⟩
  case after_reset => exact fun hrequests => absurd rfl hrequests
  case nothing_of_invalid => exact fun _ _ => rfl
  case prefix_of_frames => exact fun _ _ => List.nil_prefix
  case frames_of_ok => exact fun _ _ => rfl
  case answered => exact fun _ _ _ hsends => nomatch hsends

/-- A session that makes requests sends their frames up to the first that fails. -/
theorem wireTrace_of_requests
    {badge : Badge} {port : String} {connecting : List Event} {reset : Option (ResetRun σ)}
    {requests : List Request} (hrequests : job.requests = .ok requests)
    (hconnecting : connecting.filter Event.isTraffic = resetEvents link reset)
    (hnone : settings.noReset → reset = none) (hsome : job = .reset → ∃ run, reset = some run)
    (hsucceeds : ∀ run ∈ reset, run.Succeeds link) (s : σ) :
    WireTrace link settings job
      ((((badge.performInTurn (requests.map .request)).run.overLink link s).1.mapError .badge).map
        (·.filterMap Reply.line?))
      (connecting ++
        ((badge.performInTurn (requests.map .request)).run.events link s ++ [.closed port]))
      reset ((badge.performInTurn (requests.map .request)).run.events link s) := by
  have hturn := badge.askingInTurn_performInTurn link requests s
  constructor
  case traffic_eq =>
    rw [traffic_append_closed fun _ => Dialogue.isTraffic_of_mem_events, hconnecting]
  case reset_eq_none => exact fun hnoReset _ => hnone hnoReset
  case reset_of_ok =>
    intro hreset lines _
    obtain ⟨run, hrun⟩ := hsome hreset
    exact ⟨run, hrun, hsucceeds run hrun⟩
  case after_reset => exact fun _ => hsucceeds
  case nothing_of_invalid =>
    intro e hframes
    rcases Except.bind_eq_error_iff.mp hframes with hinvalid | ⟨requests', hsame, hwires⟩
    · rw [hrequests] at hinvalid
      cases hinvalid
    · rw [hrequests] at hsame
      cases hsame
      obtain ⟨cause, hwires, -⟩ := Except.mapError_eq_error_iff.mp hwires
      obtain ⟨first, rest, rfl, hfirst⟩ := Job.first_refused hrequests hwires
      exact (hturn.eq_nil_of_refused hfirst).1
  case prefix_of_frames =>
    intro frames hframes
    obtain ⟨requests', hsame, hwires⟩ := Job.frames_eq_ok_iff.mp hframes
    rw [hrequests] at hsame
    cases hsame
    exact hturn.sends_prefix hwires
  case frames_of_ok =>
    intro lines hok
    obtain ⟨replies, hreplies, -⟩ := Except.map_eq_ok_iff.mp hok
    rw [Except.mapError_eq_ok_iff.mp hreplies] at hturn
    exact Job.frames_eq_ok_iff.mpr ⟨requests, hrequests, hturn.sends_of_ok⟩
  case answered => exact fun first second others => hturn.answered_of_sends

theorem Course.exists_wireTrace
    {outcome : Except Failure (List String)} {events : List Event}
    (h : Course link settings job outcome events) :
    ∃ reset requests, WireTrace link settings job outcome events reset requests := by
  cases h with
  | unconnected e events hconnecting =>
      obtain ⟨reset, htraffic, hnone⟩ := hconnecting.traffic_of_error
      exact ⟨reset, [], .of_error htraffic hnone⟩
  | refused port badge e connecting hconnecting hoperations =>
      obtain ⟨reset, htraffic, hnone, -, -⟩ := hconnecting.traffic_of_ok
      have hclosed := traffic_append_closed (List.forall_mem_nil _) connecting port
      rw [htraffic, List.append_nil] at hclosed
      exact ⟨reset, [], .of_error hclosed hnone⟩
  | carriedOut port badge operations s connecting hconnecting hoperations =>
      obtain ⟨reset, htraffic, hnone, hsome, hsucceeds⟩ := hconnecting.traffic_of_ok
      -- Only a reset after a connection without one has its handshake among the operations.
      rcases Job.operations_eq_ok hoperations with
        ⟨rfl, hnoReset, rfl⟩ | ⟨hreset, requests, hrequests, rfl⟩
      · rw [hnone hnoReset] at htraffic
        exact ⟨_, [], wireTrace_of_init htraffic s⟩
      · have hsome : job = .reset → ∃ run, reset = some run := fun hjob =>
          hsome fun hnoReset => hreset ⟨hjob, hnoReset⟩
        exact ⟨reset, _, wireTrace_of_requests hrequests htraffic hnone hsome hsucceeds s⟩

/-- Whatever the port answers, all that a session sends for a job are the resets of one handshake at most,
and then the frames of the job up to some point: the frame of its own request, and where it draws, that of
the refresh. -/
theorem run_sends_resets_then_frames
    (place : Workplace (StateM σ)) (settings : Settings) (job : Job) (s : σ) :
    (∀ frames, job.frames = .ok frames →
      (job = .reset ∧ frames = []) ∨
        (job ≠ .reset ∧ ∃ first, frames = first :: job.followUpFrames)) ∧
      ∃ outcome events s',
        Runs (run place ⟨settings, .work job⟩).run (run place.recorded ⟨settings, .work job⟩).run s
            outcome events s' ∧
          ∃ reset requests,
            WireTrace place.toLink settings job outcome events reset requests ∧
              ∃ n ≤ 256, sends (resetEvents place.toLink reset) = List.replicate n [0x00] ∧
                sends events = List.replicate n [0x00] ++ sends requests := by
  obtain ⟨outcome, events, s', hcourse, hruns⟩ := exists_course place settings job s
  obtain ⟨reset, requests, htrace⟩ := hcourse.exists_wireTrace
  exact ⟨fun _ => Job.frames_shape,
    outcome, events, s', hruns, reset, requests, htrace, htrace.sends_eq⟩

end Session
end BadgeLink
