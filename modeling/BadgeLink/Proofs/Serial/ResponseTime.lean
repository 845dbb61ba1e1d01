import Mathlib.Tactic.IntervalCases
import BadgeLink.Proofs.Badge.Validation
import BadgeLink.Proofs.Serial.Deadline

/-!
# The time that a response takes

A response is received in two calls, one for its length byte and one for the rest.  Each of them starts
with a look at the clock and keeps the deadline that this look gives it.  What the first call has waited
for its byte is not taken from the time of the second, so the timeout of a session bounds each of the
calls, and the response as a whole only by twice as much.
-/

namespace BadgeLink

namespace Exchange

variable {α β σ : Type}

/-- An exchange that asks the link for nothing. -/
def Silent (x : Exchange α) : Prop :=
  x.run.Obeys (fun _ => False) fun _ => True

theorem Silent.bind {x : Exchange α} {f : α → Exchange β} (hx : Silent x)
    (hf : ∀ value, Silent (f value)) : Silent (x >>= f) :=
  obeys_bind hx (fun value _ => hf value) fun _ _ => trivial

theorem silent_note (record : Record) : Silent (note record) :=
  trivial

theorem silent_ofExcept (outcome : Except Error α) : Silent (ofExcept outcome) :=
  trivial

/-- Receiving exactly so many bytes is one request to the link, and a timeout if it brings too few. -/
theorem overLink_receiveExact (link : Link (StateM σ)) (count timeout : Nat) (s : σ) :
    (receiveExact count timeout).run.overLink link s =
      (match (link.receive count timeout s).1 with
        | .error fault => .error (.link fault)
        | .ok bytes =>
          if bytes.length < count then .error (.timeout count bytes.length) else .ok bytes,
        (link.receive count timeout s).2) := by
  have hreceive : (receive count timeout).run.overLink link s =
      ((link.receive count timeout s).1.mapError .link, (link.receive count timeout s).2) := rfl
  rcases hanswer : (link.receive count timeout s).1 with fault | bytes
  · rw [hanswer] at hreceive
    rw [receiveExact, overLink_bind_of_error hreceive]
  · rw [hanswer] at hreceive
    rw [receiveExact, overLink_bind_of_ok hreceive]
    dsimp only
    by_cases hshort : bytes.length < count
    · rw [if_pos hshort, if_pos hshort]
      rfl
    · rw [if_neg hshort, if_neg hshort]
      rfl

end Exchange

namespace Serial

/-- Events of a call to send. -/
def PortEvent.Sends : PortEvent → Prop
  | write _ | flush _ => True
  | look _ | refused _ | read _ | clear _ => False

/-- No read takes longer than the timeout in force. -/
def Punctual (events : List PortEvent) : Prop :=
  ∀ reading, .read reading ∈ events → reading.returned ≤ reading.issued + reading.limit

/-- No read is issued when the time is up, nor still waiting then. -/
def Timely (start timeout : Nat) (events : List PortEvent) : Prop :=
  ∀ reading, .read reading ∈ events →
    reading.issued < start + timeout ∧ reading.returned ≤ start + timeout

namespace Watch

/-- Between two states a port is only sent to. -/
def SendsTo (w after : Watch) : Prop :=
  ∃ sending, after.events = w.events ++ sending ∧ ∀ event ∈ sending, event.Sends

namespace SendsTo

variable {w between after : Watch}

theorem refl (w : Watch) : SendsTo w w :=
  ⟨[], (List.append_nil _).symm, nofun⟩

theorem note (w : Watch) (event : PortEvent) (hevent : event.Sends) : SendsTo w (w.note event) :=
  ⟨[event], rfl, List.forall_mem_singleton.mpr hevent⟩

theorem trans (h : SendsTo w between) (hrest : SendsTo between after) : SendsTo w after := by
  obtain ⟨first, hfirst, hfirstSends⟩ := h
  obtain ⟨rest, hrest, hrestSends⟩ := hrest
  refine ⟨first ++ rest, ?_, List.forall_mem_append.mpr ⟨hfirstSends, hrestSends⟩⟩
  rw [hrest, hfirst, List.append_assoc]

end SendsTo

end Watch

theorem Punctual.mono
    {events more : List PortEvent} (h : Punctual more) (hsubset : events ⊆ more) : Punctual events :=
  fun reading hreading => h reading (hsubset hreading)

/-- Every read of a call is over at its deadline, if the port keeps to its timeouts. -/
theorem Rounds.timely
    {count start timeout rounds : Nat} {got : List UInt8} {during : List PortEvent}
    {result : Received} (h : Rounds count (start + timeout) rounds got during result)
    (hpunctual : Punctual during) : Timely start timeout during := by
  intro reading hreading
  obtain ⟨earlier, later, hsplit⟩ := List.append_of_mem hreading
  have hdue := (h.due_of_read hsplit).2
  have hearly := hdue.early
  have hreturned := hpunctual reading hreading
  rw [hdue.limit_eq] at hreturned
  omega

namespace Conduct

variable {α β : Type}

/-- The link over a port of this conduct.  What is noted does not show at the port, and a request does not
pause. -/
def link (conduct : Conduct) (patience : Nat) : Link (StateM Watch) :=
  (conduct.port patience).link (fun _ => pure ()) (fun _ => pure ())

theorem link_receive (conduct : Conduct) (patience count timeout : Nat) (w : Watch) :
    (conduct.link patience).receive count timeout w =
      (((conduct.port patience).receive count timeout w).1.outcome,
        ((conduct.port patience).receive count timeout w).2) :=
  rfl

/-- No look at the clock takes longer than so much, in events of which the first has this number. -/
def LooksWithin (conduct : Conduct) (delay first : Nat) (events : List PortEvent) : Prop :=
  ∀ index time, events[index]? = some (.look time) → time ≤ conduct.clock (first + index) + delay

theorem LooksWithin.of_append
    {conduct : Conduct} {delay first : Nat} {events later : List PortEvent}
    (h : conduct.LooksWithin delay first (events ++ later)) :
    conduct.LooksWithin delay (first + events.length) later := by
  intro index time hlook
  have hindex : (events ++ later)[events.length + index]? = some (.look time) := by
    rw [List.getElem?_append_right (Nat.le_add_right _ _), Nat.add_sub_cancel_left, hlook]
  rw [Nat.add_assoc]
  exact h _ _ hindex

/-- What happens while a response is received, after so many events: nothing, if sending has failed; a
call that does not bring the length byte; or a call that brings it, and when this is over a second one,
which has the timeout for itself again. -/
inductive Receiving (conduct : Conduct) (timeout first : Nat) : List PortEvent → Prop
  | unsent : Receiving conduct timeout first []
  | headless (during : List PortEvent)
    (htimely : Timely (conduct.clock (first + 1)) timeout during)
    (hnothing : delivered during = []) :
    Receiving conduct timeout first (.look (conduct.clock (first + 1)) :: during)
  | whole (during rest : List PortEvent) (second : Nat)
    (htimely : Timely (conduct.clock (first + 1)) timeout during)
    (hhead : delivered during ≠ [])
    (hsecond : second = first + 1 + during.length)
    (hover : conduct.clock second ≤ conduct.clock (first + 1) + timeout)
    (hrest : Timely (conduct.clock (second + 1)) timeout rest) :
    Receiving conduct timeout first
      (.look (conduct.clock (first + 1)) :: during ++ .look (conduct.clock (second + 1)) :: rest)

/-- As its two calls follow each other, a response takes at most twice as long as one of them. -/
theorem Receiving.returned_le
    {conduct : Conduct} {timeout first delay : Nat} {events : List PortEvent}
    (h : Receiving conduct timeout first events) (hlooks : conduct.LooksWithin delay first events)
    {reading : Reading} (hreading : .read reading ∈ events) :
    reading.returned ≤ conduct.clock first + 2 * (delay + timeout) := by
  cases h with
  | unsent => cases hreading
  | headless during htimely hnothing =>
      have hstart := hlooks 0 _ rfl
      have hmem : .read reading ∈ during := by simpa using hreading
      have hreturned := (htimely reading hmem).2
      rw [Nat.add_zero first] at hstart
      omega
  | whole during rest second htimely hhead hsecond hover hrest =>
      have hstart := hlooks 0 _ rfl
      have hagain := hlooks (during.length + 1) (conduct.clock (second + 1)) (by simp)
      rw [Nat.add_zero first] at hstart
      rw [Nat.add_comm during.length, ← Nat.add_assoc, ← hsecond] at hagain
      have hmem : .read reading ∈ during ∨ .read reading ∈ rest := by simpa using hreading
      rcases hmem with hmem | hmem
      · have hreturned := (htimely reading hmem).2
        omega
      · have hreturned := (hrest reading hmem).2
        omega

/-! ## Sending -/

theorem sendsTo_deliver
    (conduct : Conduct) (patience rounds : Nat) (bytes : List UInt8) (w : Watch) :
    w.SendsTo ((conduct.port patience).deliver rounds bytes w).2 := by
  induction rounds generalizing bytes w with
  | zero => cases bytes <;> exact .refl w
  | succ rounds ih =>
      by_cases hbytes : bytes = []
      · rw [hbytes]
        exact .refl w
      · have hwrite : (conduct.port patience).write bytes w =
            (conduct.takes w.events.length bytes,
              w.note (.write (conduct.takes w.events.length bytes))) := rfl
        rw [Port.deliver, Bench.bind_of_eq hwrite]
        · refine .trans (.note w (.write (conduct.takes w.events.length bytes)) trivial) ?_
          rcases conduct.takes w.events.length bytes with (_ | count) | _ | message
          · exact .refl _
          · exact ih _ _
          · exact ih _ _
          · exact .refl _
        · exact hbytes

theorem sendsTo_send (conduct : Conduct) (patience : Nat) (bytes : List UInt8) (w : Watch) :
    w.SendsTo ((conduct.link patience).send bytes w).2 := by
  have hdelivered := conduct.sendsTo_deliver patience (bytes.length + patience) bytes w
  have hsend : (conduct.link patience).send bytes w = (conduct.port patience).send bytes w := rfl
  have hpatience : (conduct.port patience).patience w = (patience, w) := rfl
  rw [hsend, Port.send, Bench.bind_of_eq hpatience]
  rcases hdeliver : (conduct.port patience).deliver (bytes.length + patience) bytes w with
    ⟨cause | _, after⟩
  · rw [hdeliver] at hdelivered
    rw [Bench.bind_of_eq hdeliver]
    exact hdelivered
  · rw [hdeliver] at hdelivered
    rw [Bench.bind_of_eq hdeliver]
    exact hdelivered.trans (.note after (.flush _) trivial)

/-! ## Receiving -/

/-- A call to receive starts with a look at the clock and keeps the deadline that this gives it.  It gets
what its reads bring, and if that is all that it wants, then the last read is over by the deadline. -/
theorem receive_timely
    (conduct : Conduct) (patience count timeout : Nat) (hcount : 0 < count) (w : Watch) :
    ∃ during,
      ((conduct.link patience).receive count timeout w).2.events =
        w.events ++ .look (conduct.later w) :: during ∧
      (Punctual during → Timely (conduct.later w) timeout during) ∧
      (∀ fault, ((conduct.link patience).receive count timeout w).1 = .error fault →
        (delivered during).length < count) ∧
      ∀ bytes, ((conduct.link patience).receive count timeout w).1 = .ok bytes →
        bytes = delivered during ∧
          (Punctual during → count ≤ bytes.length →
            conduct.now ((conduct.link patience).receive count timeout w).2 ≤
              conduct.later w + timeout) := by
  rw [link_receive, receive_eq]
  obtain ⟨during, hevents, hrounds, hlast⟩ := conduct.collect_rounds patience count
    (conduct.later w + timeout) (count + patience + 1) [] (w.note (.look (conduct.later w)))
  refine ⟨during, ?_, hrounds.timely, ?_, ?_⟩
  · rw [hevents, Watch.note, List.append_assoc]
    rfl
  · intro fault hfault
    exact hrounds.length_lt_of_error hfault
  · intro bytes hbytes
    refine ⟨hrounds.eq_of_ok hbytes, ?_⟩
    intro hpunctual hfull
    obtain ⟨reading, hreading⟩ := hrounds.ends_in_read hcount hbytes hfull
    rw [← hlast reading hreading]
    exact (hrounds.timely hpunctual reading (List.mem_of_getLast? hreading)).2

/-! ## Whole requests -/

/-- A dialogue that asks for nothing leaves a port as it is. -/
theorem overLink_of_obeys
    {d : Dialogue α} {good : α → Prop} (hd : d.Obeys (fun _ => False) good) (conduct : Conduct)
    (patience : Nat) (w : Watch) : (d.overLink (conduct.link patience) w).2 = w := by
  induction d with
  | done value => rfl
  | send bytes next => exact hd.1.elim
  | receive count timeout next => exact hd.1.elim
  | clear next => exact hd.1.elim
  | pause time next ih => exact ih hd
  | note record next ih => exact ih hd

/-- What an exchange does at the end without the link does not show at the port. -/
theorem overLink_bind_of_silent
    {f : α → Exchange β} (hf : ∀ value, Exchange.Silent (f value)) (conduct : Conduct)
    (patience : Nat) (x : Exchange α) (w : Watch) :
    ((x >>= f).run.overLink (conduct.link patience) w).2 =
      (x.run.overLink (conduct.link patience) w).2 := by
  rcases hx : x.run.overLink (conduct.link patience) w with ⟨e | value, after⟩
  · rw [Exchange.overLink_bind_of_error hx]
  · rw [Exchange.overLink_bind_of_ok hx]
    exact overLink_of_obeys (hf value) conduct patience after

/-- A response is received in one call, or in two that follow each other. -/
theorem receiving_receiveResponse (conduct : Conduct) (patience timeout : Nat) (w : Watch) :
    ∃ receiving,
      ((Exchange.receiveResponse timeout).run.overLink (conduct.link patience) w).2.events =
        w.events ++ receiving ∧
      (Punctual receiving → conduct.Receiving timeout w.events.length receiving) := by
  obtain ⟨during, hevents, htimely, hfault, hgot⟩ :=
    conduct.receive_timely patience 1 timeout Nat.one_pos w
  have hhead := Exchange.overLink_receiveExact (conduct.link patience) 1 timeout w
  rcases hcall : (conduct.link patience).receive 1 timeout w with ⟨fault | head, between⟩
  · rw [hcall] at hevents hfault hhead
    rw [Exchange.receiveResponse, Exchange.overLink_bind_of_error hhead]
    refine ⟨_, hevents, ?_⟩
    intro hpunctual
    refine .headless during (htimely (hpunctual.mono (List.subset_cons_self _ _))) ?_
    exact List.eq_nil_of_length_eq_zero (Nat.lt_one_iff.mp (hfault fault rfl))
  · rw [hcall] at hevents hgot hhead
    obtain ⟨hdelivered, hover⟩ := hgot head rfl
    by_cases hshort : head.length < 1
    · dsimp only at hhead
      rw [if_pos hshort] at hhead
      rw [Exchange.receiveResponse, Exchange.overLink_bind_of_error hhead]
      refine ⟨_, hevents, ?_⟩
      intro hpunctual
      refine .headless during (htimely (hpunctual.mono (List.subset_cons_self _ _))) ?_
      rw [← hdelivered]
      exact List.eq_nil_of_length_eq_zero (Nat.lt_one_iff.mp hshort)
    · dsimp only at hhead
      rw [if_neg hshort] at hhead
      obtain ⟨rest, hrestEvents, hrestTimely, -, -⟩ :=
        conduct.receive_timely patience ((head.headD 0).toNat + 1) timeout (Nat.succ_pos _) between
      have hrun : ((Exchange.receiveResponse timeout).run.overLink (conduct.link patience) w).2 =
          ((conduct.link patience).receive ((head.headD 0).toNat + 1) timeout between).2 := by
        -- What follows the second call is done without the link.
        rw [Exchange.receiveResponse, Exchange.overLink_bind_of_ok hhead, overLink_bind_of_silent,
          Exchange.overLink_receiveExact]
        intro body
        exact (Exchange.silent_note _).bind fun _ => Exchange.silent_ofExcept _
      have hlength : between.events.length = w.events.length + 1 + during.length := by
        rw [hevents, List.length_append, List.length_cons, Nat.add_comm during.length, Nat.add_assoc]
      refine ⟨.look (conduct.later w) :: during ++ .look (conduct.later between) :: rest, ?_, ?_⟩
      · rw [hrun, hrestEvents, hevents, List.append_assoc]
      · intro hpunctual
        have hduring : Punctual during :=
          hpunctual.mono (List.subset_append_of_subset_left _ (List.subset_cons_self _ _))
        have hrest : Punctual rest :=
          hpunctual.mono (List.subset_append_of_subset_right _ (List.subset_cons_self _ _))
        have hone := Nat.le_of_not_lt hshort
        refine .whole during rest between.events.length (htimely hduring) ?_ hlength
          (hover hduring hone) (hrestTimely hrest)
        rw [← hdelivered]
        exact List.length_pos_iff.mp hone

/-- What a request makes of its payload does not need the link. -/
theorem silent_conclude (request : Request) (payload : List UInt8) :
    Exchange.Silent (request.conclude payload) := by
  unfold Request.conclude
  split
  · exact (Exchange.silent_note _).bind fun _ => Exchange.silent_ofExcept _
  · exact Exchange.silent_ofExcept _

/-- Once a request is sent, all that shows at the port is its response. -/
theorem await_overLink
    (conduct : Conduct) (patience : Nat) (badge : Badge) (request : Request) (w : Watch) :
    ((badge.await request).run.overLink (conduct.link patience) w).2 =
      ((Exchange.receiveResponse badge.timeout).run.overLink (conduct.link patience) w).2 := by
  rw [Badge.await, overLink_bind_of_silent (silent_conclude request), Exchange.receivePayload,
    overLink_bind_of_silent]
  intro response
  split
  · exact (Exchange.silent_note _).bind fun _ => Exchange.silent_ofExcept _
  · exact Exchange.silent_ofExcept _

/-- A request sends first, and receives a response if all has been sent. -/
theorem receiving_ask
    (conduct : Conduct) (patience : Nat) (badge : Badge) (request : Request) (before : Watch) :
    ∃ sent receiving, before.SendsTo sent ∧
      ((badge.ask request).run.overLink (conduct.link patience) before).2.events =
        sent.events ++ receiving ∧
      (Punctual receiving → conduct.Receiving badge.timeout sent.events.length receiving) := by
  cases hwire : request.wire with
  | error e =>
      refine ⟨before, [], .refl before, ?_, fun _ => .unsent⟩
      rw [Badge.ask_of_refused hwire, List.append_nil]
      rfl
  | ok wire =>
      have hsends := conduct.sendsTo_send patience wire before
      have hnote : (conduct.link patience).note (.sent wire) before = ((), before) := rfl
      rw [Badge.ask_of_accepted hwire, Dialogue.overLink_note, hnote, Dialogue.overLink_send]
      rcases hsend : (conduct.link patience).send wire before with ⟨fault | _, sent⟩
      · rw [hsend] at hsends
        exact ⟨sent, [], hsends, (List.append_nil _).symm, fun _ => .unsent⟩
      · rw [hsend] at hsends
        obtain ⟨receiving, hevents, hreceiving⟩ :=
          conduct.receiving_receiveResponse patience badge.timeout sent
        rw [← conduct.await_overLink patience badge request sent] at hevents
        exact ⟨sent, receiving, hsends, hevents, hreceiving⟩

/-- Whatever the port does, a request first sends and then receives its response, in no more than two calls
that follow each other.  If no read takes longer than the timeout in force, then each call keeps the
deadline that it has from its own look at the clock.  So the timeout of the session bounds each call, and
twice the timeout bounds the response, but for what the looks at the clock take. -/
theorem ask_bounds_each_call
    (conduct : Conduct) (patience : Nat) (badge : Badge) (request : Request) (before : Watch) :
    ∃ sent receiving, before.SendsTo sent ∧
      ((badge.ask request).run.overLink (conduct.link patience) before).2.events =
        sent.events ++ receiving ∧
      (Punctual receiving →
        conduct.Receiving badge.timeout sent.events.length receiving ∧
        ∀ delay, conduct.LooksWithin delay sent.events.length receiving →
          ∀ reading, .read reading ∈ receiving →
            reading.returned ≤ conduct.now sent + 2 * (delay + badge.timeout)) := by
  obtain ⟨sent, receiving, hsends, hevents, hreceiving⟩ :=
    conduct.receiving_ask patience badge request before
  refine ⟨sent, receiving, hsends, hevents, ?_⟩
  intro hpunctual
  refine ⟨hreceiving hpunctual, ?_⟩
  intro delay hlooks reading hreading
  exact (hreceiving hpunctual).returned_le hlooks hreading

/-- A badge that answers with the length byte after 400 units of time, and with the rest of its response in
two pieces, of which the last is there at 550.  Nothing but these reads takes any time. -/
def dawdling : Conduct where
  clock event := if event ≤ 4 then 0 else if event ≤ 7 then 400 else if event ≤ 9 then 500 else 550
  yields event space :=
    let brings : List UInt8 :=
      if event = 4 then [0x02] else if event = 7 then [0x80] else if event = 9 then [0x41, 0xc1] else []
    .bytes (brings.take space)
  refuses _ := none
  takes _ bytes := .bytes bytes.length
  flushes _ := .ok ()
  clears _ := .ok ()
  clock_mono := by
    intro event later hle
    dsimp only
    split_ifs <;> omega
  fits event space := List.length_take_le _ _

/-- What happens at the port of a dawdling badge in a request. -/
def dawdlingEvents : List PortEvent :=
  [.write (.bytes 4), .flush (.ok ()),
    .look 0, .look 0, .read ⟨500, 1, .bytes [0x02], 0, 400⟩,
    .look 400, .look 400, .read ⟨500, 3, .bytes [0x80], 400, 500⟩,
    .look 500, .read ⟨400, 2, .bytes [0x41, 0xc1], 500, 550⟩]

theorem dawdling_run :
    (Badge.ask { timeout := 500 } (.uart [0x01])).run.overLink (dawdling.link 0) {} =
      (.ok (.bytes [0x41]), ⟨dawdlingEvents, 400⟩) :=
  rfl

theorem punctual_dawdlingEvents : Punctual dawdlingEvents := by
  intro reading hreading
  simp only [dawdlingEvents, List.mem_cons, reduceCtorEq, PortEvent.read.injEq, false_or,
    List.not_mem_nil, or_false] at hreading
  rcases hreading with rfl | rfl | rfl <;> decide

theorem looksWithin_dawdlingEvents : dawdling.LooksWithin 0 0 dawdlingEvents := by
  intro index time hlook
  have hindex : index < 10 := (List.getElem?_eq_some_iff.mp hlook).1
  interval_cases index <;> cases hlook <;> decide

theorem looksWithin_of_dawdlingEvents_eq
    {earlier later : List PortEvent} (hsplit : dawdlingEvents = earlier ++ later) :
    dawdling.LooksWithin 0 earlier.length later := by
  have hlooks := (hsplit ▸ looksWithin_dawdlingEvents).of_append
  rwa [Nat.zero_add] at hlooks

/-- The request of a badge with a timeout of 500 takes no more than 1000 units of time at a dawdling one. -/
theorem ask_bounds_each_call_of_dawdling :
    let badge : Badge := { timeout := 500 }
    let run := (badge.ask (.uart [0x01])).run.overLink (dawdling.link 0) {}
    ∃ sent receiving, run.2.events = sent.events ++ receiving ∧
      dawdling.Receiving 500 sent.events.length receiving ∧
      ∀ reading, .read reading ∈ receiving → reading.returned ≤ dawdling.now sent + 1000 := by
  dsimp only
  obtain ⟨sent, receiving, -, hevents, hbounds⟩ :=
    dawdling.ask_bounds_each_call 0 { timeout := 500 } (.uart [0x01]) {}
  have hsplit : dawdlingEvents = sent.events ++ receiving := by rw [← hevents, dawdling_run]
  have hpunctual : Punctual receiving :=
    punctual_dawdlingEvents.mono (hsplit ▸ List.subset_append_right _ _)
  obtain ⟨hreceiving, hreturned⟩ := hbounds hpunctual
  exact ⟨sent, receiving, hevents, hreceiving,
    hreturned 0 (looksWithin_of_dawdlingEvents_eq hsplit)⟩

/-- The timeout of a session does not bound a response: with a timeout of 500, a punctual port and a clock
that is looked at in no time, a read that brings the end of the response is issued 500 units of time after
the request was sent, and waits beyond that. -/
theorem response_outlasts_timeout :
    let badge : Badge := { timeout := 500 }
    let run := (badge.ask (.uart [0x01])).run.overLink (dawdling.link 0) {}
    run.1 = .ok (.bytes [0x41]) ∧
      ∃ sent receiving last, Watch.SendsTo {} sent ∧ run.2.events = sent.events ++ receiving ∧
        Punctual receiving ∧ dawdling.LooksWithin 0 sent.events.length receiving ∧
        .read last ∈ receiving ∧ dawdling.now sent + badge.timeout ≤ last.issued ∧
        dawdling.now sent + badge.timeout < last.returned := by
  dsimp only
  rw [dawdling_run]
  have hsplit : dawdlingEvents = dawdlingEvents.take 2 ++ dawdlingEvents.drop 2 :=
    (List.take_append_drop 2 dawdlingEvents).symm
  refine ⟨rfl, ⟨dawdlingEvents.take 2, 0⟩, dawdlingEvents.drop 2, _, ⟨_, rfl, ?_⟩, hsplit,
    punctual_dawdlingEvents.mono (List.drop_subset 2 _), looksWithin_of_dawdlingEvents_eq hsplit,
    List.mem_of_getLast? rfl, ?_, ?_⟩
  · exact List.forall_mem_cons.mpr ⟨trivial, List.forall_mem_singleton.mpr trivial⟩
  · decide
  · decide

end Conduct
end Serial
end BadgeLink
