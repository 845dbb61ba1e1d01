import BadgeLink.Proofs.Session.Course

/-!
# Giving the port back

Whatever happens in a session, it opens one port at most.  A port that cannot be opened is not closed, and
one that is open is closed exactly once, when the session does not use it any more.  The same is true of a
badge that is opened on its own.
-/

namespace BadgeLink

open CommandLine (Invocation Job Settings)

variable {σ α : Type}

/-- The whole use of the ports of a machine: none is opened, or one cannot be opened, or one is opened,
used for some time, and closed in the end. -/
inductive PortUse : List Event → Prop
  | none : PortUse []
  | refused (port : String) (timeout : Nat) (message : String) :
    PortUse [.opened port timeout (.error message)]
  | closed (port : String) (timeout : Nat) (uses : List Event)
    (huses : ∀ event ∈ uses, event.isTraffic) :
    PortUse (.opened port timeout (.ok ()) :: (uses ++ [.closed port]))

namespace Connecting

variable {ε : Type} {link : Link (StateM σ)} {withReset : Bool} {events : List Event}

/-- Who has not got hold of a port does not hold one. -/
theorem portUse_of_error
    {e : ε} (h : Connecting link withReset (.error e : Except ε _) events) : PortUse events := by
  cases h with
  | unopened => exact .none
  | refused port timeout message => exact .refused port timeout message
  | unready port timeout run =>
      exact .closed port timeout _ fun _ => Dialogue.isTraffic_of_mem_events

/-- Who has got hold of a port may use it and then has to close it. -/
theorem portUse_of_ok
    {port : String} {badge : Badge}
    (h : Connecting link withReset (.ok (port, badge) : Except ε _) events) {uses : List Event}
    (huses : ∀ event ∈ uses, event.isTraffic) : PortUse (events ++ (uses ++ [.closed port])) := by
  cases h with
  | opened port timeout => exact .closed port timeout uses huses
  | ready port timeout run =>
      have hall : ∀ event ∈ run.events link ++ uses, event.isTraffic := by
        intro event hevent
        rcases List.mem_append.mp hevent with hreset | huse
        · exact Dialogue.isTraffic_of_mem_events hreset
        · exact huses event huse
      have hclosed := PortUse.closed port timeout _ hall
      rwa [List.append_assoc] at hclosed

end Connecting

namespace Serial.Station

/-- Opens a badge, uses it, and gives the port back. -/
def withBadge
    {m : Type → Type} [Monad m] (station : Station m) (config : Config)
    (use : Badge → Exchange α) : ExceptT Error m α := do
  let (name, badge) ← station.openBadge config
  ExceptT.mk do
    let outcome ← station.carryOut (use badge)
    station.release name
    return outcome

theorem exists_portUse
    (station : Station (StateM σ)) (config : Config) (use : Badge → Exchange α) (s : σ) :
    ∃ outcome events s',
      Runs (station.withBadge config use).run (station.recorded.withBadge config use).run s outcome
        events s' ∧ PortUse events := by
  obtain ⟨connected, connecting, held, hconnecting, hopen⟩ :=
    station.runs_openBadge config s
  cases connected with
  | error e => exact ⟨_, _, held, hopen.bind_error, hconnecting.portUse_of_error⟩
  | ok connection =>
      obtain ⟨name, badge⟩ := connection
      have huse := station.runs_carryOut (use badge) held
      let used := ((use badge).run.overLink station.toLink held).2
      obtain ⟨s', hclose⟩ := station.runs_release name used
      refine ⟨_, _, s', hopen.bind_ok (huse.bind (hclose.bind_pure _)), ?_⟩
      exact hconnecting.portUse_of_ok fun _ => Dialogue.isTraffic_of_mem_events

end Serial.Station

namespace Session

variable {place : Workplace (StateM σ)}

theorem unrecorded_listPorts :
    Unrecorded (listPorts place).run (listPorts place.recorded).run := by
  have hscan : Unrecorded (place.scan.adapt Failure.badge).run
      (place.recorded.scan.adapt Failure.badge).run := by
    intro s
    exact (Serial.Station.runs_answer (Runs.recording place.ports (fun _ => []) s)).adapt _
  refine .bind_except hscan fun names => ?_
  split
  · exact .bind_except (.bind (.recording (place.note .noPorts)) fun _ => .pure _) fun _ => .pure _
  · exact .pure _

theorem Course.portUse
    {link : Link (StateM σ)} {settings : Settings} {job : Job}
    {outcome : Except Failure (List String)} {events : List Event}
    (h : Course link settings job outcome events) : PortUse events := by
  cases h with
  | unconnected e events hconnecting => exact hconnecting.portUse_of_error
  | refused port badge e connecting hconnecting =>
      exact hconnecting.portUse_of_ok (List.forall_mem_nil _)
  | carriedOut port badge operations s connecting hconnecting =>
      exact hconnecting.portUse_of_ok fun _ => Dialogue.isTraffic_of_mem_events

/-- Whatever the ports answer and wherever it fails, a command line that is carried out opens one port at
most, and closes it exactly once, after everything else, if it has been opened.  So does whoever opens a
badge, uses it in any way or not at all, and gives it up. -/
theorem closes_port_exactly_once (place : Workplace (StateM σ)) (s : σ) :
    (∀ invocation : Invocation, ∃ outcome events s',
        Runs (run place invocation).run (run place.recorded invocation).run s outcome events s' ∧
          PortUse events) ∧
      ∀ (config : Config) (use : Badge → Exchange α), ∃ outcome events s',
        Runs (place.withBadge config use).run (place.recorded.withBadge config use).run s outcome
            events s' ∧
          PortUse events := by
  constructor
  · intro invocation
    unfold run
    cases invocation.purpose with
    | listPorts => exact ⟨_, _, _, unrecorded_listPorts s, .none⟩
    | work job =>
        obtain ⟨outcome, events, s', hcourse, hruns⟩ := exists_course place invocation.settings job s
        exact ⟨outcome, events, s', hruns, hcourse.portUse⟩
  · intro config use
    exact place.toStation.exists_portUse config use s

end Session
end BadgeLink
