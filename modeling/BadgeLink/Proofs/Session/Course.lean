import BadgeLink.Proofs.Badge.Responses
import BadgeLink.Proofs.Session.Configuration

/-!
# The course of a session

What a session does with its port, one stage after the other: it opens the port, runs a handshake unless
it is told not to, carries out its operations up to the first that fails, and gives the port back.  The
lemmas say for each stage how it can end and what is recorded of it.
-/

namespace BadgeLink

variable {σ : Type}

/-- A handshake in a session: the badge, and the state in which it starts. -/
structure ResetRun (σ : Type) where
  badge : Badge
  start : σ

namespace ResetRun

def events (link : Link (StateM σ)) (run : ResetRun σ) : List Event :=
  run.badge.init.run.events link run.start

def Succeeds (link : Link (StateM σ)) (run : ResetRun σ) : Prop :=
  (run.badge.init.run.overLink link run.start).1 = .ok ()

end ResetRun

/-- How a session can get hold of a port, and what is recorded of it.  A port is held exactly if there
is a connection in the end. -/
inductive Connecting {ε : Type} (link : Link (StateM σ)) (withReset : Bool) :
    Except ε (String × Badge) → List Event → Prop
  | unopened (e : ε) : Connecting link withReset (.error e) []
  | refused (port : String) (timeout : Nat) (message : String) (e : ε) :
    Connecting link withReset (.error e) [.opened port timeout (.error message)]
  | opened (port : String) (timeout : Nat) (badge : Badge) (hreset : withReset = false) :
    Connecting link withReset (.ok (port, badge)) [.opened port timeout (.ok ())]
  | unready (port : String) (timeout : Nat) (run : ResetRun σ) (e : ε) (hreset : withReset = true)
    (hrun : ¬run.Succeeds link) :
    Connecting link withReset (.error e)
      (.opened port timeout (.ok ()) :: (run.events link ++ [.closed port]))
  | ready (port : String) (timeout : Nat) (run : ResetRun σ) (hreset : withReset = true)
    (hrun : run.Succeeds link) :
    Connecting link withReset (.ok (port, run.badge))
      (.opened port timeout (.ok ()) :: run.events link)

/-- Renaming an error changes nothing about what is held and recorded. -/
theorem Connecting.mapError
    {ε ε' : Type} {link : Link (StateM σ)} {withReset : Bool} {outcome : Except ε (String × Badge)}
    {events : List Event} (h : Connecting link withReset outcome events) (rename : ε → ε') :
    Connecting link withReset (outcome.mapError rename) events := by
  cases h with
  | unopened e => exact .unopened _
  | refused port timeout message e => exact .refused port timeout message _
  | opened port timeout badge hreset => exact .opened port timeout badge hreset
  | unready port timeout run e hreset hrun => exact .unready port timeout run _ hreset hrun
  | ready port timeout run hreset hrun => exact .ready port timeout run hreset hrun

/-! ## Opening and closing a port -/

namespace Serial.Station

variable {α : Type} {s s' : σ}

theorem runs_answer
    {x : StateM σ (Except String α)} {y : StateM (σ × List Event) (Except String α)}
    {outcome : Except String α} {events : List Event} (hx : Runs x y s outcome events s') :
    Runs (answer x).run (answer y).run s
      (outcome.mapError fun message => .link (.serial message)) events s' :=
  hx.bind_pure (Except.mapError fun message => Error.link (.serial message))

/-- What comes of an attempt to open a port is recorded. -/
theorem runs_openNamed (station : Station (StateM σ)) (name : String) (timeout : Nat) (s : σ) :
    ∃ answer s', Runs (station.openNamed name timeout).run
      (station.recorded.openNamed name timeout).run s
      (answer.mapError fun message => .link (.serial message))
      [.opened name timeout answer] s' := by
  let told := (station.note (.opening name baudRate) s).2
  have hnote := Runs.recording (station.note (.opening name baudRate)) (fun _ => []) s
  have hopen := Runs.recording (station.openPort name timeout)
    (fun answer => [.opened name timeout answer]) told
  exact ⟨_, _, Runs.bind_ok hnote.lift (runs_answer hopen)⟩

/-- How a port can be opened: none is found, or the attempt fails, or the port is open. -/
inductive Opening (timeout : Nat) : Except Error String → List Event → Prop
  | notFound (e : Error) : Opening timeout (.error e) []
  | failed (name message : String) (e : Error) :
    Opening timeout (.error e) [.opened name timeout (.error message)]
  | opened (name : String) : Opening timeout (.ok name) [.opened name timeout (.ok ())]

/-- A port that is open is all that a session without a handshake needs. -/
theorem Opening.connecting
    {timeout : Nat} {outcome : Except Error String} {events : List Event}
    (h : Opening timeout outcome events) (link : Link (StateM σ)) (badge : Badge) :
    Connecting link false (outcome.map fun name => (name, badge)) events := by
  cases h with
  | notFound e => exact .unopened e
  | failed name message e => exact .refused name timeout message e
  | opened name => exact .opened name timeout badge rfl

theorem runs_openNamed_opening (station : Station (StateM σ)) (name : String) (timeout : Nat) (s : σ) :
    ∃ outcome events s', Opening timeout outcome events ∧
      Runs (do station.openNamed name timeout; return name : ExceptT Error _ String).run
        (do station.recorded.openNamed name timeout; return name : ExceptT Error _ String).run
        s outcome events s' := by
  obtain ⟨answer, s', hopen⟩ := station.runs_openNamed name timeout s
  cases answer with
  | error message => exact ⟨_, _, s', .failed name message _, hopen.bind_error⟩
  | ok opened => exact ⟨_, _, s', .opened name, hopen.bind_ok (.pure _ s')⟩

theorem runs_openNth (station : Station (StateM σ)) (index timeout : Nat) (s : σ) :
    ∃ outcome events s', Opening timeout outcome events ∧
      Runs (station.openNth index timeout).run (station.recorded.openNth index timeout).run s
        outcome events s' := by
  have hscan := runs_answer (Runs.recording station.ports (fun _ => []) s)
  rw [openNth, openNth]
  cases hports : (station.ports s).1 with
  | error message =>
      rw [hports] at hscan
      exact ⟨_, _, _, .notFound _, hscan.bind_error⟩
  | ok names =>
      rw [hports] at hscan
      cases hname : names[index]? with
      | none =>
          refine ⟨.error (.link (.serial s!"No serial port found at index #{index}")), [],
            (station.ports s).2, .notFound _, hscan.bind_ok ?_⟩
          rw [hname]
          exact .pure _ _
      | some name =>
          obtain ⟨outcome, events, s', hopening, hopen⟩ :=
            station.runs_openNamed_opening name timeout (station.ports s).2
          refine ⟨outcome, events, s', hopening, hscan.bind_ok ?_⟩
          rw [hname]
          exact hopen

theorem runs_openPreferred
    (station : Station (StateM σ)) (preferred : Option String) (timeout : Nat) (s : σ) :
    ∃ outcome events s', Opening timeout outcome events ∧
      Runs (station.openPreferred preferred timeout).run
        (station.recorded.openPreferred preferred timeout).run s outcome events s' := by
  cases preferred with
  | none => exact station.runs_openNth 0 timeout s
  | some name => exact station.runs_openNamed_opening name timeout s

theorem runs_release (station : Station (StateM σ)) (name : String) (s : σ) :
    ∃ s', Runs (station.release name) (station.recorded.release name) s () [.closed name] s' := by
  let told := (station.note (.closing name) s).2
  have hnote := Runs.recording (station.note (.closing name)) (fun _ => []) s
  have hclose := Runs.recording (station.closePort name) (fun _ => [.closed name]) told
  exact ⟨_, hnote.bind hclose⟩

theorem runs_carryOut (station : Station (StateM σ)) (exchange : Exchange α) (s : σ) :
    Runs (station.carryOut exchange).run (station.recorded.carryOut exchange).run s
      (exchange.run.overLink station.toLink s).1 (exchange.run.events station.toLink s)
      (exchange.run.overLink station.toLink s).2 :=
  Dialogue.runs_overLink exchange.run s

theorem carryOut_bind
    {m : Type → Type} [Monad m] [LawfulMonad m] {β : Type} (station : Station m) (x : Exchange α)
    (f : α → Exchange β) :
    station.carryOut (x >>= f) = station.carryOut x >>= fun value => station.carryOut (f value) := by
  show ExceptT.mk ((x >>= f).run.overLink station.toLink) = ExceptT.mk _
  congr 1
  rw [Exchange.run_bind, Dialogue.overLink_bind]
  apply bind_congr
  intro outcome
  cases outcome <;> rfl

/-! ## Connecting -/

/-- A badge is opened with a handshake; a port whose badge is not ready is closed again. -/
theorem runs_openBadge (station : Station (StateM σ)) (config : Config) (s : σ) :
    ∃ outcome events s', Connecting station.toLink true outcome events ∧
      Runs (station.openBadge config).run (station.recorded.openBadge config).run s
        outcome events s' := by
  obtain ⟨outcome, events, opened, hopening, hopen⟩ :=
    station.runs_openPreferred config.port config.timeout s
  cases hopening with
  | notFound e => exact ⟨_, _, opened, .unopened e, hopen.bind_error⟩
  | failed name message e => exact ⟨_, _, opened, .refused name _ message e, hopen.bind_error⟩
  | opened name =>
      let run : ResetRun σ :=
        ⟨{ timeout := config.timeout, resetInterval := config.resetInterval }, opened⟩
      have hinit := station.runs_carryOut run.badge.init opened
      cases houtcome : (run.badge.init.run.overLink station.toLink opened).1 with
      | error e =>
          rw [houtcome] at hinit
          obtain ⟨closed, hclose⟩ := station.runs_release name
            (run.badge.init.run.overLink station.toLink opened).2
          have hfailed : ¬run.Succeeds station.toLink := by
            rw [ResetRun.Succeeds, houtcome]
            exact nofun
          refine ⟨_, _, closed, .unready name _ run e rfl hfailed, hopen.bind_ok ?_⟩
          exact hinit.bind (hclose.bind_pure fun _ => Except.error e)
      | ok ready =>
          rw [houtcome] at hinit
          refine ⟨_, _, (run.badge.init.run.overLink station.toLink opened).2,
            .ready name _ run rfl houtcome, hopen.bind_ok ?_⟩
          exact hinit.bind_silent (.pure _ _)

end Serial.Station

namespace Session

open CommandLine (Job Settings)

/-! ## The configuration -/

theorem unrecorded_load (place : Workplace (StateM σ)) (path : String) :
    Unrecorded (Config.load place path).run (Config.load place.recorded path).run := by
  refine .bind_except (.bind (.recording (place.readFile path)) fun _ => .pure _) fun data => ?_
  refine .bind_except (.pure _) fun text => ?_
  refine .bind_except (.pure _) fun config => ?_
  exact .bind_except (.bind (.recording (place.note (.loaded path config))) fun _ => .pure _)
    fun _ => .pure _

theorem unrecorded_configure (place : Workplace (StateM σ)) (settings : Settings) :
    Unrecorded (configure place settings).run (configure place.recorded settings).run := by
  rw [configure_eq, configure_eq, base, base]
  refine .bind_except ?_ fun found => .pure _
  cases settings.configPath with
  | none => exact .pure _
  | some path => exact unrecorded_load place path

/-! ## The operations -/

/-- The operations of a session are one exchange. -/
theorem performAll_eq
    {m : Type → Type} [Monad m] [LawfulMonad m] (place : Workplace m) (badge : Badge)
    (operations : List Operation) :
    performAll place badge operations =
      (place.toStation.carryOut (badge.performInTurn operations)).adapt .badge := by
  induction operations with
  | nil => exact (ExceptT.adapt_pure _ _).symm
  | cons operation rest ih =>
      rw [performAll, Badge.performInTurn, Serial.Station.carryOut_bind, ExceptT.adapt_bind, ih]
      apply bind_congr
      intro reply
      rw [Serial.Station.carryOut_bind, ExceptT.adapt_bind]
      apply bind_congr
      intro replies
      exact (ExceptT.adapt_pure _ _).symm

theorem runs_performAll
    (place : Workplace (StateM σ)) (badge : Badge) (operations : List Operation) (s : σ) :
    Runs (performAll place badge operations).run (performAll place.recorded badge operations).run s
      (((badge.performInTurn operations).run.overLink place.toLink s).1.mapError .badge)
      ((badge.performInTurn operations).run.events place.toLink s)
      ((badge.performInTurn operations).run.overLink place.toLink s).2 := by
  rw [performAll_eq, performAll_eq]
  exact (place.toStation.runs_carryOut (badge.performInTurn operations) s).adapt Failure.badge

/-! ## The whole course -/

/-- A session that has a configuration opens its port, and resets the badge unless it must not. -/
theorem exists_connecting (place : Workplace (StateM σ)) (settings : Settings) (s : σ) :
    ∃ (outcome : Except Failure (String × Badge)) (events : List Event) (s' : σ),
      Connecting place.toLink (!settings.noReset) outcome events ∧
        Runs (connect place settings).run (connect place.recorded settings).run s
          (outcome.map fun (port, badge) => ⟨port, badge⟩) events s' := by
  have hconfigure := unrecorded_configure place settings s
  unfold connect
  cases houtcome : ((configure place settings).run s).1 with
  | error e =>
      rw [houtcome] at hconfigure
      exact ⟨.error e, _, _, .unopened e, hconfigure.bind_error⟩
  | ok config =>
      rw [houtcome] at hconfigure
      let configured := ((configure place settings).run s).2
      cases hreset : settings.noReset with
      | true =>
          obtain ⟨outcome, events, s', hopening, hopen⟩ :=
            place.toStation.runs_openPreferred config.port config.timeout configured
          let badge : Badge := { timeout := config.timeout }
          refine ⟨_, events, s', (hopening.connecting place.toLink badge).mapError .badge, ?_⟩
          refine hconfigure.bind_ok ?_
          cases outcome with
          | error e => exact (hopen.adapt Failure.badge).bind_error
          | ok port => exact (hopen.adapt Failure.badge).bind_map fun port => Connection.mk port badge
      | false =>
          obtain ⟨outcome, events, s', hconnecting, hopen⟩ :=
            place.toStation.runs_openBadge config configured
          refine ⟨_, events, s', hconnecting.mapError .connecting, ?_⟩
          refine hconfigure.bind_ok ?_
          exact (hopen.adapt Failure.connecting).bind_map _

/-- What a session does with its port: it connects, and whatever it has connected to is given back at the
end. -/
inductive Course (link : Link (StateM σ)) (settings : Settings) (job : Job) :
    Except Failure (List String) → List Event → Prop
  | unconnected (e : Failure) (events : List Event)
    (hconnecting : Connecting link (!settings.noReset) (.error e : Except Failure _) events) :
    Course link settings job (.error e) events
  | refused (port : String) (badge : Badge) (e : Failure) (connecting : List Event)
    (hconnecting : Connecting link (!settings.noReset) (.ok (port, badge) : Except Failure _)
      connecting)
    (hoperations : job.operations settings = .error e) :
    Course link settings job (.error e) (connecting ++ [.closed port])
  | carriedOut (port : String) (badge : Badge) (operations : List Operation) (s : σ)
    (connecting : List Event)
    (hconnecting : Connecting link (!settings.noReset) (.ok (port, badge) : Except Failure _)
      connecting)
    (hoperations : job.operations settings = .ok operations) :
    Course link settings job
      ((((badge.performInTurn operations).run.overLink link s).1.mapError .badge).map
        (·.filterMap Reply.line?))
      (connecting ++ ((badge.performInTurn operations).run.events link s ++ [.closed port]))

theorem exists_course
    (place : Workplace (StateM σ)) (settings : Settings) (job : Job) (s : σ) :
    ∃ outcome events s', Course place.toLink settings job outcome events ∧
      Runs (work place settings job).run (work place.recorded settings job).run s outcome events
        s' := by
  obtain ⟨connected, connecting, held, hconnecting, hconnect⟩ :=
    exists_connecting place settings s
  unfold work
  cases connected with
  | error e => exact ⟨_, _, held, .unconnected e _ hconnecting, hconnect.bind_error⟩
  | ok connection =>
      obtain ⟨port, badge⟩ := connection
      cases hoperations : job.operations settings with
      | error e =>
          obtain ⟨s', hclose⟩ := place.toStation.runs_release port held
          have hnone := Runs.pure (Except.error e : Except Failure (List Reply)) held
          refine ⟨_, _, s', .refused port badge e _ hconnecting hoperations, hconnect.bind_ok ?_⟩
          exact hnone.bind (hclose.bind_pure _)
      | ok operations =>
          have hperform := runs_performAll place badge operations held
          let finished := ((badge.performInTurn operations).run.overLink place.toLink held).2
          obtain ⟨s', hclose⟩ := place.toStation.runs_release port finished
          refine ⟨_, _, s', .carriedOut port badge operations held _ hconnecting hoperations,
            hconnect.bind_ok ?_⟩
          exact hperform.bind (hclose.bind_pure _)

end Session
end BadgeLink
