import BadgeLink.Dialogue

/-!
# What a dialogue asks for

A dialogue that runs over a link with a state is a function of the state it starts in, and so is the list
of everything it asks the link for.  Some facts about this list do not depend on the link at all: a
dialogue `Obeys` a rule if it keeps to it whatever it is answered.
-/

namespace BadgeLink

/-- A request to a link, without its answer. -/
inductive Ask
  | send (bytes : List UInt8)
  | receive (count timeout : Nat)
  | clear
  deriving Repr, DecidableEq

namespace Dialogue

variable {α β σ : Type} {link : Link (StateM σ)}

/-! ## Running over a link with a state -/

@[simp]
theorem overLink_done (value : α) (s : σ) : (done value).overLink link s = (value, s) :=
  rfl

@[simp]
theorem overLink_send
    (bytes : List UInt8) (next : Except LinkFault Unit → Dialogue α) (s : σ) :
    (send bytes next).overLink link s =
      (next (link.send bytes s).1).overLink link (link.send bytes s).2 :=
  rfl

@[simp]
theorem overLink_receive
    (count timeout : Nat) (next : Except LinkFault (List UInt8) → Dialogue α) (s : σ) :
    (receive count timeout next).overLink link s =
      (next (link.receive count timeout s).1).overLink link (link.receive count timeout s).2 :=
  rfl

@[simp]
theorem overLink_clear (next : Except LinkFault Unit → Dialogue α) (s : σ) :
    (clear next).overLink link s = (next (link.clear s).1).overLink link (link.clear s).2 :=
  rfl

@[simp]
theorem overLink_pause (time : Nat) (next : Dialogue α) (s : σ) :
    (pause time next).overLink link s = next.overLink link (link.pause time s).2 :=
  rfl

@[simp]
theorem overLink_note (record : Record) (next : Dialogue α) (s : σ) :
    (note record next).overLink link s = next.overLink link (link.note record s).2 :=
  rfl

/-- A sequence of two dialogues runs the second from where the first ends. -/
theorem overLink_bind_run (d : Dialogue α) (f : α → Dialogue β) (s : σ) :
    (d.bind f).overLink link s =
      (f (d.overLink link s).1).overLink link (d.overLink link s).2 := by
  rw [overLink_bind]
  rfl

/-! ## One request at a time -/

/-- Makes the next request of a dialogue, if there is one, and stops after it. -/
def advance (link : Link (StateM σ)) : Dialogue α → σ → Dialogue α × σ
  | done value, s => (done value, s)
  | send bytes next, s => (next (link.send bytes s).1, (link.send bytes s).2)
  | receive count timeout next, s =>
    (next (link.receive count timeout s).1, (link.receive count timeout s).2)
  | clear next, s => (next (link.clear s).1, (link.clear s).2)
  | pause time next, s => (next, (link.pause time s).2)
  | note record next, s => (next, (link.note record s).2)

/-- A run may stop after its next request and go on from there. -/
theorem overLink_advance (d : Dialogue α) (s : σ) :
    (d.advance link s).1.overLink link (d.advance link s).2 = d.overLink link s := by
  cases d <;> rfl

/-! ## Requests along a run -/

/-- Everything a dialogue asks for over a link, each time with the state in which it asks. -/
def asks (link : Link (StateM σ)) : Dialogue α → σ → List (Ask × σ)
  | done _, _ => []
  | send bytes next, s =>
    (.send bytes, s) :: asks link (next (link.send bytes s).1) (link.send bytes s).2
  | receive count timeout next, s =>
    (.receive count timeout, s) ::
      asks link (next (link.receive count timeout s).1) (link.receive count timeout s).2
  | clear next, s => (.clear, s) :: asks link (next (link.clear s).1) (link.clear s).2
  | pause time next, s => asks link next (link.pause time s).2
  | note record next, s => asks link next (link.note record s).2

/-- A sequence of two dialogues asks for what the first asks for, and then for what the second does. -/
theorem asks_bind (d : Dialogue α) (f : α → Dialogue β) (s : σ) :
    (d.bind f).asks link s =
      d.asks link s ++ (f (d.overLink link s).1).asks link (d.overLink link s).2 := by
  induction d generalizing s with
  | done value => rfl
  | send bytes next ih => exact congrArg (List.cons _) (ih _ _)
  | receive count timeout next ih => exact congrArg (List.cons _) (ih _ _)
  | clear next ih => exact congrArg (List.cons _) (ih _ _)
  | pause time next ih => exact ih _
  | note record next ih => exact ih _

/-- How long a dialogue pauses over a link, each time that it does. -/
def pauses (link : Link (StateM σ)) : Dialogue α → σ → List Nat
  | done _, _ => []
  | send bytes next, s => pauses link (next (link.send bytes s).1) (link.send bytes s).2
  | receive count timeout next, s =>
    pauses link (next (link.receive count timeout s).1) (link.receive count timeout s).2
  | clear next, s => pauses link (next (link.clear s).1) (link.clear s).2
  | pause time next, s => time :: pauses link next (link.pause time s).2
  | note record next, s => pauses link next (link.note record s).2

theorem pauses_bind (d : Dialogue α) (f : α → Dialogue β) (s : σ) :
    (d.bind f).pauses link s =
      d.pauses link s ++ (f (d.overLink link s).1).pauses link (d.overLink link s).2 := by
  induction d generalizing s with
  | done value => rfl
  | send bytes next ih => exact ih _ _
  | receive count timeout next ih => exact ih _ _
  | clear next ih => exact ih _ _
  | pause time next ih => exact congrArg (List.cons time) (ih _)
  | note record next ih => exact ih _

/-! ## Parts of a run -/

/-- Making the requests `asked`, a dialogue in one state comes to another dialogue in another state. -/
structure LeadsTo
    (link : Link (StateM σ)) (d : Dialogue α) (s : σ) (asked : List Ask)
    (d' : Dialogue α) (s' : σ) : Prop where
  outcome : d.overLink link s = d'.overLink link s'
  asked_eq : (d.asks link s).map Prod.fst = asked ++ (d'.asks link s').map Prod.fst

namespace LeadsTo

variable {d d' d'' : Dialogue α} {s s' s'' : σ} {asked asked' : List Ask}

theorem trans
    (h : LeadsTo link d s asked d' s') (h' : LeadsTo link d' s' asked' d'' s'') :
    LeadsTo link d s (asked ++ asked') d'' s'' := by
  constructor
  · rw [h.outcome, h'.outcome]
  · rw [h.asked_eq, h'.asked_eq, List.append_assoc]

theorem refl (d : Dialogue α) (s : σ) : LeadsTo link d s [] d s :=
  ⟨rfl, rfl⟩

theorem send
    {bytes : List UInt8} {answer : Except LinkFault Unit}
    {next : Except LinkFault Unit → Dialogue α} (h : link.send bytes s = (answer, s'))
    (hnext : LeadsTo link (next answer) s' asked d' s'') :
    LeadsTo link (.send bytes next) s (.send bytes :: asked) d' s'' := by
  constructor
  · rw [overLink_send, h, hnext.outcome]
  · rw [asks, h, List.map_cons, hnext.asked_eq]
    rfl

theorem receive
    {count timeout : Nat} {answer : Except LinkFault (List UInt8)}
    {next : Except LinkFault (List UInt8) → Dialogue α}
    (h : link.receive count timeout s = (answer, s'))
    (hnext : LeadsTo link (next answer) s' asked d' s'') :
    LeadsTo link (.receive count timeout next) s (.receive count timeout :: asked) d' s'' := by
  constructor
  · rw [overLink_receive, h, hnext.outcome]
  · rw [asks, h, List.map_cons, hnext.asked_eq]
    rfl

theorem clear
    {answer : Except LinkFault Unit} {next : Except LinkFault Unit → Dialogue α}
    (h : link.clear s = (answer, s')) (hnext : LeadsTo link (next answer) s' asked d' s'') :
    LeadsTo link (.clear next) s (.clear :: asked) d' s'' := by
  constructor
  · rw [overLink_clear, h, hnext.outcome]
  · rw [asks, h, List.map_cons, hnext.asked_eq]
    rfl

theorem pause {time : Nat} (hnext : LeadsTo link d (link.pause time s).2 asked d' s') :
    LeadsTo link (.pause time d) s asked d' s' :=
  ⟨hnext.outcome, hnext.asked_eq⟩

theorem note {record : Record} (hnext : LeadsTo link d (link.note record s).2 asked d' s') :
    LeadsTo link (.note record d) s asked d' s' :=
  ⟨hnext.outcome, hnext.asked_eq⟩

/-- Where a run comes to an end, its value, its last state and all its requests are known. -/
theorem eq_of_done {value : α} (h : LeadsTo link d s asked (.done value) s') :
    d.overLink link s = (value, s') ∧ (d.asks link s).map Prod.fst = asked := by
  constructor
  · rw [h.outcome, overLink_done]
  · rw [h.asked_eq]
    exact List.append_nil asked

end LeadsTo

/-! ## Rules that hold whatever is answered -/

/-- Whatever it is answered, a dialogue asks only for what is allowed and ends in a good value. -/
def Obeys (allowed : Ask → Prop) (good : α → Prop) : Dialogue α → Prop
  | done value => good value
  | send bytes next => allowed (.send bytes) ∧ ∀ answer, (next answer).Obeys allowed good
  | receive count timeout next =>
    allowed (.receive count timeout) ∧ ∀ answer, (next answer).Obeys allowed good
  | clear next => allowed .clear ∧ ∀ answer, (next answer).Obeys allowed good
  | pause _ next => next.Obeys allowed good
  | note _ next => next.Obeys allowed good

variable {allowed : Ask → Prop} {good : α → Prop} {good' : β → Prop}

theorem Obeys.bind {d : Dialogue α} {f : α → Dialogue β} (hd : d.Obeys allowed good)
    (hf : ∀ a, good a → (f a).Obeys allowed good') : (d.bind f).Obeys allowed good' := by
  induction d with
  | done value => exact hf value hd
  | send bytes next ih => exact ⟨hd.1, fun answer => ih answer (hd.2 answer)⟩
  | receive count timeout next ih => exact ⟨hd.1, fun answer => ih answer (hd.2 answer)⟩
  | clear next ih => exact ⟨hd.1, fun answer => ih answer (hd.2 answer)⟩
  | pause time next ih => exact ih hd
  | note record next ih => exact ih hd

/-- A dialogue that keeps to a rule keeps to every weaker one. -/
theorem Obeys.mono
    {allowed' : Ask → Prop} {weaker : α → Prop} {d : Dialogue α} (hd : d.Obeys allowed good)
    (hallowed : ∀ ask, allowed ask → allowed' ask) (hgood : ∀ value, good value → weaker value) :
    d.Obeys allowed' weaker := by
  induction d with
  | done value => exact hgood value hd
  | send bytes next ih => exact ⟨hallowed _ hd.1, fun answer => ih answer (hd.2 answer)⟩
  | receive count timeout next ih => exact ⟨hallowed _ hd.1, fun answer => ih answer (hd.2 answer)⟩
  | clear next ih => exact ⟨hallowed _ hd.1, fun answer => ih answer (hd.2 answer)⟩
  | pause time next ih => exact ih hd
  | note record next ih => exact ih hd

/-- What an obedient dialogue asks for over any link is allowed. -/
theorem Obeys.allowed_of_mem_asks
    {d : Dialogue α} (hd : d.Obeys allowed good) {s : σ} {ask : Ask × σ}
    (hask : ask ∈ d.asks link s) : allowed ask.1 := by
  induction d generalizing s with
  | done value => cases hask
  | send bytes next ih =>
      rcases List.mem_cons.mp hask with rfl | hlater
      · exact hd.1
      · exact ih _ (hd.2 _) hlater
  | receive count timeout next ih =>
      rcases List.mem_cons.mp hask with rfl | hlater
      · exact hd.1
      · exact ih _ (hd.2 _) hlater
  | clear next ih =>
      rcases List.mem_cons.mp hask with rfl | hlater
      · exact hd.1
      · exact ih _ (hd.2 _) hlater
  | pause time next ih => exact ih hd hask
  | note record next ih => exact ih hd hask

theorem Obeys.good_outcome
    {d : Dialogue α} (hd : d.Obeys allowed good) (link : Link (StateM σ)) (s : σ) :
    good (d.overLink link s).1 := by
  induction d generalizing s with
  | done value => exact hd
  | send bytes next ih => exact ih _ (hd.2 _) _
  | receive count timeout next ih => exact ih _ (hd.2 _) _
  | clear next ih => exact ih _ (hd.2 _) _
  | pause time next ih => exact ih hd _
  | note record next ih => exact ih hd _

/-- A dialogue ends as soon as a request fails, with a value that fits the fault. -/
def StopsWith (last : LinkFault → α → Prop) : Dialogue α → Prop
  | done _ => True
  | send _ next =>
    (∀ fault, ∃ value, next (.error fault) = done value ∧ last fault value) ∧
      ∀ answer, (next (.ok answer)).StopsWith last
  | receive _ _ next =>
    (∀ fault, ∃ value, next (.error fault) = done value ∧ last fault value) ∧
      ∀ answer, (next (.ok answer)).StopsWith last
  | clear next =>
    (∀ fault, ∃ value, next (.error fault) = done value ∧ last fault value) ∧
      ∀ answer, (next (.ok answer)).StopsWith last
  | pause _ next => next.StopsWith last
  | note _ next => next.StopsWith last

/-- A sequence of two dialogues stops with a fault if both parts do and the second one has nothing to ask
for after the first has failed. -/
theorem StopsWith.bind
    {last : LinkFault → α → Prop} {last' : LinkFault → β → Prop} {d : Dialogue α}
    {f : α → Dialogue β} (hd : d.StopsWith last) (hf : ∀ value, (f value).StopsWith last')
    (hlast : ∀ fault value, last fault value → ∃ value', f value = done value' ∧ last' fault value') :
    (d.bind f).StopsWith last' := by
  have hstop {γ : Type} {next : Except LinkFault γ → Dialogue α}
      (hnext : ∀ fault, ∃ value, next (.error fault) = done value ∧ last fault value)
      (fault : LinkFault) :
      ∃ value, (next (.error fault)).bind f = done value ∧ last' fault value := by
    obtain ⟨value, hvalue, hfits⟩ := hnext fault
    rw [hvalue]
    exact hlast fault value hfits
  induction d with
  | done value => exact hf value
  | send bytes next ih => exact ⟨hstop hd.1, fun answer => ih _ (hd.2 answer)⟩
  | receive count timeout next ih => exact ⟨hstop hd.1, fun answer => ih _ (hd.2 answer)⟩
  | clear next ih => exact ⟨hstop hd.1, fun answer => ih _ (hd.2 answer)⟩
  | pause time next ih => exact ih hd
  | note record next ih => exact ih hd

end Dialogue

end BadgeLink
