import BadgeLink.Proofs.Dialogue
import BadgeLink.Session

/-!
# Records of sessions

A workplace can keep a record of how its ports are used: every port that is opened or closed, and every
request to the link over it, each with its answer.  Apart from that a recorded workplace answers as the
workplace itself does, so the record tells what a session does without the record.  The record of a
dialogue is the list of its requests with their answers.
-/

namespace BadgeLink

variable {σ α β ε ε' : Type}

/-- One use of a port, with its answer. -/
inductive Event
  | opened (port : String) (timeout : Nat) (answer : Except String Unit)
  | closed (port : String)
  | sent (bytes : List UInt8) (answer : Except LinkFault Unit)
  | received (count timeout : Nat) (answer : Except LinkFault (List UInt8))
  | cleared (answer : Except LinkFault Unit)

namespace Event

/-- Whether an event is a request to the link over a port that is open. -/
def isTraffic : Event → Bool
  | opened .. | closed _ => false
  | sent .. | received .. | cleared _ => true

/-- The bytes that are handed over in a request to send. -/
def bytes? : Event → Option (List UInt8)
  | sent bytes _ => some bytes
  | _ => none

/-- A request to a link in some state, with its answer. -/
def ofAsk (link : Link (StateM σ)) : Ask × σ → Event
  | (.send bytes, s) => .sent bytes (link.send bytes s).1
  | (.receive count timeout, s) => .received count timeout (link.receive count timeout s).1
  | (.clear, s) => .cleared (link.clear s).1

theorem isTraffic_ofAsk (link : Link (StateM σ)) (ask : Ask × σ) : (ofAsk link ask).isTraffic := by
  obtain ⟨_ | _ | _, s⟩ := ask <;> rfl

end Event

/-- All bytes that were handed over to be sent, in their order. -/
def sends (events : List Event) : List (List UInt8) :=
  events.filterMap Event.bytes?

theorem sends_append (earlier later : List Event) :
    sends (earlier ++ later) = sends earlier ++ sends later :=
  List.filterMap_append

/-- Only requests to the link hand over bytes. -/
theorem sends_filter_isTraffic (events : List Event) :
    sends (events.filter Event.isTraffic) = sends events := by
  rw [sends, List.filterMap_filter]
  congr
  funext event
  cases event <;> rfl

/-! ## Recording -/

/-- A request that adds `events` of its answer to a record. -/
def recording (request : StateM σ α) (events : α → List Event) : StateM (σ × List Event) α :=
  fun state =>
    let (answer, after) := request state.1
    (answer, (after, state.2 ++ events answer))

def Link.recorded (link : Link (StateM σ)) : Link (StateM (σ × List Event)) where
  send bytes := recording (link.send bytes) fun answer => [.sent bytes answer]
  receive count timeout :=
    recording (link.receive count timeout) fun answer => [.received count timeout answer]
  clear := recording link.clear fun answer => [.cleared answer]
  pause time := recording (link.pause time) fun _ => []
  note record := recording (link.note record) fun _ => []

def Serial.Station.recorded (station : Station (StateM σ)) :
    Station (StateM (σ × List Event)) where
  toLink := station.toLink.recorded
  ports := recording station.ports fun _ => []
  openPort name timeout :=
    recording (station.openPort name timeout) fun answer => [.opened name timeout answer]
  closePort name := recording (station.closePort name) fun _ => [.closed name]

def Workplace.recorded (place : Workplace (StateM σ)) : Workplace (StateM (σ × List Event)) where
  toStation := place.toStation.recorded
  readFile path := recording (place.readFile path) fun _ => []

/-! ## Runs with their records -/

/-- From `s`, a program comes to an outcome and a state, and so does its recorded form, which has added
`events` to the record then. -/
structure Runs
    (program : StateM σ α) (recorded : StateM (σ × List Event) α) (s : σ)
    (outcome : α) (events : List Event) (s' : σ) : Prop where
  outcome_eq : program s = (outcome, s')
  recorded_eq : ∀ before, recorded (s, before) = (outcome, (s', before ++ events))

namespace Runs

variable {s s₁ s₂ : σ} {events later : List Event}

theorem pure (value : α) (s : σ) : Runs (Pure.pure value) (Pure.pure value) s value [] s :=
  ⟨rfl, fun before => by rw [List.append_nil]; rfl⟩

theorem recording (request : StateM σ α) (note : α → List Event) (s : σ) :
    Runs request (BadgeLink.recording request note) s (request s).1 (note (request s).1)
      (request s).2 :=
  ⟨rfl, fun _ => rfl⟩

theorem bind
    {x : StateM σ α} {y : StateM (σ × List Event) α} {f : α → StateM σ β}
    {g : α → StateM (σ × List Event) β} {a : α} {b : β} (hx : Runs x y s a events s₁)
    (hf : Runs (f a) (g a) s₁ b later s₂) :
    Runs (x >>= f) (y >>= g) s b (events ++ later) s₂ := by
  constructor
  · show f (x s).1 (x s).2 = _
    rw [hx.outcome_eq]
    exact hf.outcome_eq
  · intro before
    show g (y (s, before)).1 (y (s, before)).2 = _
    rw [hx.recorded_eq, ← List.append_assoc]
    exact hf.recorded_eq _

/-- A program goes on with something that is not recorded. -/
theorem bind_silent
    {x : StateM σ α} {y : StateM (σ × List Event) α} {f : α → StateM σ β}
    {g : α → StateM (σ × List Event) β} {a : α} {b : β} (hx : Runs x y s a events s₁)
    (hf : Runs (f a) (g a) s₁ b [] s₂) :
    Runs (x >>= f) (y >>= g) s b events s₂ := by
  have hboth := hx.bind hf
  rwa [List.append_nil] at hboth

/-- Whatever is made of the outcome in the end, the record stays the same. -/
theorem bind_pure
    {x : StateM σ α} {y : StateM (σ × List Event) α} {a : α} (hx : Runs x y s a events s₁)
    (f : α → β) :
    Runs (x >>= fun value => Pure.pure (f value)) (y >>= fun value => Pure.pure (f value)) s (f a)
      events s₁ :=
  hx.bind_silent (.pure (f a) s₁)

/-! ## Programs that can fail -/

section Fallible

variable {x : ExceptT ε (StateM σ) α} {y : ExceptT ε (StateM (σ × List Event)) α}
  {f : α → ExceptT ε (StateM σ) β} {g : α → ExceptT ε (StateM (σ × List Event)) β}

/-- A program goes on from a value. -/
theorem bind_ok
    {a : α} {outcome : Except ε β} (hx : Runs x.run y.run s (.ok a) events s₁)
    (hf : Runs (f a).run (g a).run s₁ outcome later s₂) :
    Runs (x >>= f).run (y >>= g).run s outcome (events ++ later) s₂ :=
  Runs.bind (f := ExceptT.bindCont f) (g := ExceptT.bindCont g) hx hf

/-- A program stops at an error. -/
theorem bind_error {e : ε} (hx : Runs x.run y.run s (.error e) events s₁) :
    Runs (x >>= f).run (y >>= g).run s (.error e) events s₁ :=
  Runs.bind_silent (f := ExceptT.bindCont f) (g := ExceptT.bindCont g) hx
    (pure (Except.error e) s₁)

/-- Whatever is made of a value in the end, the record stays the same. -/
theorem bind_map
    {outcome : Except ε α} (hx : Runs x.run y.run s outcome events s₁) (f : α → β) :
    Runs (x >>= fun value => Pure.pure (f value)).run (y >>= fun value => Pure.pure (f value)).run s
      (outcome.map f) events s₁ := by
  cases outcome with
  | error e => exact hx.bind_error
  | ok value =>
      exact Runs.bind_silent (f := ExceptT.bindCont fun value => Pure.pure (f value))
        (g := ExceptT.bindCont fun value => Pure.pure (f value)) hx (pure (Except.ok (f value)) s₁)

theorem adapt
    {outcome : Except ε α} (hx : Runs x.run y.run s outcome events s₁) (rename : ε → ε') :
    Runs (x.adapt rename).run (y.adapt rename).run s (outcome.mapError rename) events s₁ := by
  constructor
  · show ((x.run s).1.mapError rename, (x.run s).2) = _
    rw [hx.outcome_eq]
  · intro before
    show ((y.run (s, before)).1.mapError rename, (y.run (s, before)).2) = _
    rw [hx.recorded_eq]

theorem lift
    {x : StateM σ α} {y : StateM (σ × List Event) α} {a : α} (hx : Runs x y s a events s₁) :
    Runs (ExceptT.lift x : ExceptT ε _ α).run (ExceptT.lift y).run s (.ok a) events s₁ := by
  constructor
  · show (Except.ok (x s).1, (x s).2) = _
    rw [hx.outcome_eq]
  · intro before
    show (Except.ok (y (s, before)).1, (y (s, before)).2) = _
    rw [hx.recorded_eq]

end Fallible
end Runs

/-! ## Programs without a record -/

/-- Nothing that a program does is recorded. -/
def Unrecorded (program : StateM σ α) (recorded : StateM (σ × List Event) α) : Prop :=
  ∀ s, Runs program recorded s (program s).1 [] (program s).2

namespace Unrecorded

theorem pure (value : α) :
    Unrecorded (σ := σ) (Pure.pure value) (Pure.pure value) :=
  Runs.pure value

theorem recording (request : StateM σ α) :
    Unrecorded request (BadgeLink.recording request fun _ => []) :=
  Runs.recording request fun _ => []

theorem bind
    {x : StateM σ α} {y : StateM (σ × List Event) α} {f : α → StateM σ β}
    {g : α → StateM (σ × List Event) β} (hx : Unrecorded x y)
    (hf : ∀ a, Unrecorded (f a) (g a)) : Unrecorded (x >>= f) (y >>= g) :=
  fun s => (hx s).bind (hf _ _)

theorem bind_except
    {x : ExceptT ε (StateM σ) α} {y : ExceptT ε (StateM (σ × List Event)) α}
    {f : α → ExceptT ε (StateM σ) β} {g : α → ExceptT ε (StateM (σ × List Event)) β}
    (hx : Unrecorded x.run y.run) (hf : ∀ a, Unrecorded (f a).run (g a).run) :
    Unrecorded (x >>= f).run (y >>= g).run := by
  refine bind (f := ExceptT.bindCont f) (g := ExceptT.bindCont g) hx ?_
  intro outcome
  cases outcome with
  | ok value => exact hf value
  | error e => exact pure (Except.error e)

end Unrecorded

/-! ## Dialogues -/

/-- The record of a dialogue: its requests to a link with their answers. -/
def Dialogue.events (link : Link (StateM σ)) (d : Dialogue α) (s : σ) : List Event :=
  (d.asks link s).map (Event.ofAsk link)

namespace Dialogue

variable {link : Link (StateM σ)}

theorem events_send
    (bytes : List UInt8) (next : Except LinkFault Unit → Dialogue α) (s : σ) :
    (send bytes next).events link s =
      .sent bytes (link.send bytes s).1 ::
        (next (link.send bytes s).1).events link (link.send bytes s).2 :=
  rfl

theorem events_receive
    (count timeout : Nat) (next : Except LinkFault (List UInt8) → Dialogue α) (s : σ) :
    (receive count timeout next).events link s =
      .received count timeout (link.receive count timeout s).1 ::
        (next (link.receive count timeout s).1).events link (link.receive count timeout s).2 :=
  rfl

theorem events_clear (next : Except LinkFault Unit → Dialogue α) (s : σ) :
    (clear next).events link s =
      .cleared (link.clear s).1 :: (next (link.clear s).1).events link (link.clear s).2 :=
  rfl

theorem events_note (record : Record) (next : Dialogue α) (s : σ) :
    (note record next).events link s = next.events link (link.note record s).2 :=
  rfl

theorem events_bind (d : Dialogue α) (f : α → Dialogue β) (s : σ) :
    (d.bind f).events link s =
      d.events link s ++ (f (d.overLink link s).1).events link (d.overLink link s).2 := by
  rw [events, asks_bind, List.map_append]
  rfl

theorem isTraffic_of_mem_events {d : Dialogue α} {s : σ} {event : Event}
    (hevent : event ∈ d.events link s) : event.isTraffic := by
  obtain ⟨ask, -, rfl⟩ := List.mem_map.mp hevent
  exact Event.isTraffic_ofAsk link ask

/-- A dialogue runs over a recorded link as over the link itself, and its requests are recorded. -/
theorem runs_overLink (d : Dialogue α) (s : σ) :
    Runs (d.overLink link) (d.overLink link.recorded) s (d.overLink link s).1 (d.events link s)
      (d.overLink link s).2 := by
  induction d generalizing s with
  | done value => exact .pure value s
  | send bytes next ih =>
      exact Runs.bind (f := fun answer => overLink link (next answer))
        (g := fun answer => overLink link.recorded (next answer))
        (.recording (link.send bytes) (fun answer => [.sent bytes answer]) s) (ih _ _)
  | receive count timeout next ih =>
      exact Runs.bind (f := fun answer => overLink link (next answer))
        (g := fun answer => overLink link.recorded (next answer))
        (.recording (link.receive count timeout)
          (fun answer => [.received count timeout answer]) s) (ih _ _)
  | clear next ih =>
      exact Runs.bind (f := fun answer => overLink link (next answer))
        (g := fun answer => overLink link.recorded (next answer))
        (.recording (link.clear) (fun answer => [.cleared answer]) s) (ih _ _)
  | pause time next ih =>
      exact Runs.bind (f := fun _ => overLink link next)
        (g := fun _ => overLink link.recorded next)
        (.recording (link.pause time) (fun _ => []) s) (ih _)
  | note record next ih =>
      exact Runs.bind (f := fun _ => overLink link next)
        (g := fun _ => overLink link.recorded next)
        (.recording (link.note record) (fun _ => []) s) (ih _)

end Dialogue
end BadgeLink
