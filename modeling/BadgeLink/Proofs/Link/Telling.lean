import BadgeLink.Proofs.Link.Receiving
import BadgeLink.Proofs.Session.Record

/-!
# What a run tells the log

A dialogue notes records while it makes its requests.  Over a scripted link these are exactly the records
that a run adds to the log, and the bytes that it hands over are exactly those that the link counts as
sent.  A run is known when its outcome, its records, its requests with their answers and its last state
are, and a run of two dialogues is put together from a run of each.
-/

namespace BadgeLink

variable {α β σ : Type}

/-! ## Bytes that were read -/

/-- The bytes that a request to receive was answered by. -/
def Event.got? : Event → Option (List UInt8)
  | received _ _ (.ok got) => some got
  | _ => none

/-- What each completed read has taken, in their order. -/
def chunks (events : List Event) : List (List UInt8) :=
  events.filterMap Event.got?

/-- All bytes that were taken, in their order. -/
def taken (events : List Event) : List UInt8 :=
  (chunks events).flatten

/-! ## Runs with what they tell -/

namespace Dialogue

/-- Everything a dialogue notes over a link. -/
def notes (link : Link (StateM σ)) : Dialogue α → σ → List Record
  | done _, _ => []
  | send bytes next, s => notes link (next (link.send bytes s).1) (link.send bytes s).2
  | receive count timeout next, s =>
    notes link (next (link.receive count timeout s).1) (link.receive count timeout s).2
  | clear next, s => notes link (next (link.clear s).1) (link.clear s).2
  | pause time next, s => notes link next (link.pause time s).2
  | note record next, s => record :: notes link next (link.note record s).2

variable {link : Link (StateM σ)}

theorem notes_bind (d : Dialogue α) (f : α → Dialogue β) (s : σ) :
    (d.bind f).notes link s =
      d.notes link s ++ (f (d.overLink link s).1).notes link (d.overLink link s).2 := by
  induction d generalizing s with
  | done value => rfl
  | send bytes next ih => exact ih _ _
  | receive count timeout next ih => exact ih _ _
  | clear next ih => exact ih _ _
  | pause time next ih => exact ih _
  | note record next ih => exact congrArg (List.cons record) (ih _)

/-- From `s`, a dialogue comes to an outcome and a state; by then it has noted the records `told`, and
made requests with their answers. -/
structure Tells
    (link : Link (StateM σ)) (d : Dialogue α) (s : σ) (outcome : α) (told : List Record)
    (events : List Event) (s' : σ) : Prop where
  outcome_eq : d.overLink link s = (outcome, s')
  told_eq : d.notes link s = told
  events_eq : d.events link s = events

namespace Tells

variable {d : Dialogue α} {s between s' : σ} {value outcome : α} {told told' : List Record}
  {events events' : List Event}

theorem done (value : α) (s : σ) : Tells link (.done value) s value [] [] s :=
  ⟨rfl, rfl, rfl⟩

theorem send
    {bytes : List UInt8} {answer : Except LinkFault Unit}
    {next : Except LinkFault Unit → Dialogue α} (h : link.send bytes s = (answer, between))
    (hnext : Tells link (next answer) between outcome told events s') :
    Tells link (.send bytes next) s outcome told (.sent bytes answer :: events) s' := by
  constructor
  · rw [overLink_send, h, hnext.outcome_eq]
  · rw [notes, h, hnext.told_eq]
  · rw [events_send, h, hnext.events_eq]

theorem receive
    {count timeout : Nat} {answer : Except LinkFault (List UInt8)}
    {next : Except LinkFault (List UInt8) → Dialogue α}
    (h : link.receive count timeout s = (answer, between))
    (hnext : Tells link (next answer) between outcome told events s') :
    Tells link (.receive count timeout next) s outcome told
      (.received count timeout answer :: events) s' := by
  constructor
  · rw [overLink_receive, h, hnext.outcome_eq]
  · rw [notes, h, hnext.told_eq]
  · rw [events_receive, h, hnext.events_eq]

theorem clear
    {answer : Except LinkFault Unit} {next : Except LinkFault Unit → Dialogue α}
    (h : link.clear s = (answer, between))
    (hnext : Tells link (next answer) between outcome told events s') :
    Tells link (.clear next) s outcome told (.cleared answer :: events) s' := by
  constructor
  · rw [overLink_clear, h, hnext.outcome_eq]
  · rw [notes, h, hnext.told_eq]
  · rw [events_clear, h, hnext.events_eq]

theorem pause
    {time : Nat} (hnext : Tells link d (link.pause time s).2 outcome told events s') :
    Tells link (.pause time d) s outcome told events s' :=
  ⟨hnext.outcome_eq, hnext.told_eq, hnext.events_eq⟩

theorem note
    {record : Record} (hnext : Tells link d (link.note record s).2 outcome told events s') :
    Tells link (.note record d) s outcome (record :: told) events s' :=
  ⟨hnext.outcome_eq, congrArg (List.cons record) hnext.told_eq, hnext.events_eq⟩

theorem bind
    {f : α → Dialogue β} {last : β} (hd : Tells link d s value told events between)
    (hf : Tells link (f value) between last told' events' s') :
    Tells link (d.bind f) s last (told ++ told') (events ++ events') s' := by
  constructor
  · rw [overLink_bind_run, hd.outcome_eq, hf.outcome_eq]
  · rw [notes_bind, hd.outcome_eq, hd.told_eq, hf.told_eq]
  · rw [events_bind, hd.outcome_eq, hd.events_eq, hf.events_eq]

/-! ### Exchanges -/

theorem bind_ok
    {x : Exchange α} {f : α → Exchange β} {last : Except Error β}
    (hx : Tells link x.run s (.ok value) told events between)
    (hf : Tells link (f value).run between last told' events' s') :
    Tells link (x >>= f).run s last (told ++ told') (events ++ events') s' := by
  rw [Exchange.run_bind]
  exact hx.bind hf

theorem bind_error
    {x : Exchange α} {e : Error} (hx : Tells link x.run s (.error e) told events s')
    (f : α → Exchange β) : Tells link (x >>= f).run s (.error e) told events s' := by
  rw [Exchange.run_bind, ← List.append_nil told, ← List.append_nil events]
  exact hx.bind (.done _ s')

end Tells
end Dialogue

/-! ## Scripted links -/

namespace Scripted

open Dialogue (Tells)
open Exchange (receiveExact receiveResponse receivePayload)

theorem log_attempt
    {call : Call} {request : Scripted → α × Scripted} (hrequest : ∀ s, (request s).2.log = s.log)
    (s : Scripted) : (attempt call request s).2.log = s.log := by
  unfold attempt
  split
  · rfl
  · exact hrequest _

/-- Only what a dialogue notes is added to the log, faults or not. -/
theorem log_overLink (d : Dialogue α) (s : Scripted) :
    (d.overLink link s).2.log = s.log ++ d.notes link s := by
  induction d generalizing s with
  | done value => exact (List.append_nil s.log).symm
  | send bytes next ih =>
      have hlog : (link.send bytes s).2.log = s.log := log_attempt (fun _ => rfl) s
      rw [Dialogue.overLink_send, ih, hlog]
      rfl
  | receive count timeout next ih =>
      have hlog : (link.receive count timeout s).2.log = s.log := log_attempt (fun _ => rfl) _
      rw [Dialogue.overLink_receive, ih, hlog]
      rfl
  | clear next ih =>
      have hlog : (link.clear s).2.log = s.log := log_attempt (fun _ => rfl) s
      rw [Dialogue.overLink_clear, ih, hlog]
      rfl
  | pause time next ih => exact ih s
  | note record next ih =>
      rw [Dialogue.overLink_note, ih]
      exact List.append_assoc s.log [record] _

/-- Over a link without faults everything that is handed over is sent, and no fault comes up. -/
theorem sent_overLink {s : Scripted} (hfaults : s.faults = []) (d : Dialogue α) :
    (d.overLink link s).2.faults = [] ∧
      (d.overLink link s).2.sent = s.sent ++ sends (d.events link s) := by
  induction d generalizing s with
  | done value => exact ⟨hfaults, (List.append_nil s.sent).symm⟩
  | send bytes next ih =>
      rw [Dialogue.overLink_send, Dialogue.events_send, send_of_no_faults hfaults]
      obtain ⟨hafter, hsent⟩ := ih (.ok ()) (s := { s with sent := s.sent ++ [bytes] }) hfaults
      refine ⟨hafter, hsent.trans ?_⟩
      exact List.append_assoc s.sent [bytes] _
  | receive count timeout next ih =>
      rw [Dialogue.overLink_receive, Dialogue.events_receive, receive_of_no_faults hfaults]
      exact ih _ hfaults
  | clear next ih =>
      rw [Dialogue.overLink_clear, Dialogue.events_clear, clear_of_no_faults hfaults]
      exact ih _ hfaults
  | pause time next ih => exact ih hfaults
  | note record next ih => exact ih hfaults

/-- Bytes that come off the front of what a link holds: of the stale ones first, then of the incoming ones,
which leave `left`. -/
def TakenOff (s : Scripted) (left bytes : List UInt8) : Prop :=
  ∃ old new, old <+: s.stale ∧ s.incoming = new ++ left ∧ bytes = old ++ new

theorem takenOff_consume
    {s : Scripted} {count : Nat} {left bytes : List UInt8} (h : (s.consume count).TakenOff left bytes) :
    s.TakenOff left (s.unread.take count ++ bytes) := by
  obtain ⟨old, new, hold, hnew, rfl⟩ := h
  rw [stale_consume] at hold
  rw [incoming_consume] at hnew
  rw [unread, List.take_append]
  rcases Nat.le_total count s.stale.length with hcount | hcount
  · rw [Nat.sub_eq_zero_of_le hcount] at hnew ⊢
    refine ⟨s.stale.take count ++ old, new, ?_, hnew, ?_⟩
    · obtain ⟨rest, hrest⟩ := hold
      refine ⟨rest, ?_⟩
      rw [List.append_assoc, hrest, List.take_append_drop]
    · rw [List.take_zero, List.append_nil, List.append_assoc]
  · -- Once incoming bytes are taken, nothing stale is left.
    rw [List.drop_of_length_le hcount] at hold
    obtain rfl := List.prefix_nil.mp hold
    refine ⟨s.stale, s.incoming.take (count - s.stale.length) ++ new, List.prefix_rfl, ?_, ?_⟩
    · rw [List.append_assoc, ← hnew, List.take_append_drop]
    · rw [List.take_of_length_le hcount, List.nil_append, List.append_assoc]

/-- Over a link without faults the bytes that are taken come off the front of what the link holds. -/
theorem taken_overLink {s : Scripted} (hfaults : s.faults = []) (d : Dialogue α) :
    s.TakenOff (d.overLink link s).2.incoming (taken (d.events link s)) := by
  induction d generalizing s with
  | done value => exact ⟨[], [], List.nil_prefix, rfl, rfl⟩
  | send bytes next ih =>
      rw [Dialogue.overLink_send, Dialogue.events_send, send_of_no_faults hfaults]
      exact ih (.ok ()) (s := { s with sent := s.sent ++ [bytes] }) hfaults
  | receive count timeout next ih =>
      rw [Dialogue.overLink_receive, Dialogue.events_receive, receive_of_no_faults hfaults]
      apply takenOff_consume
      exact ih _ (s := { s.consume count with reads := s.reads ++ [(count, timeout)] }) hfaults
  | clear next ih =>
      rw [Dialogue.overLink_clear, Dialogue.events_clear, clear_of_no_faults hfaults]
      obtain ⟨old, new, hold, hnew, htaken⟩ :=
        ih (.ok ()) (s := { s with stale := [], clears := s.clears + 1 }) hfaults
      obtain rfl := List.prefix_nil.mp hold
      exact ⟨[], new, List.nil_prefix, hnew, htaken⟩
  | pause time next ih => exact ih hfaults
  | note record next ih =>
      exact ih (s := { s with log := s.log ++ [record] }) hfaults

/-! ## Receiving over scripted links -/

variable {s : Scripted}

theorem tells_receive (hfaults : s.faults = []) (count timeout : Nat) :
    Tells link (Exchange.receive count timeout).run s (.ok (s.unread.take count)) []
      [.received count timeout (.ok (s.unread.take count))]
      { s.consume count with reads := s.reads ++ [(count, timeout)] } :=
  .receive (receive_of_no_faults hfaults count timeout) (.done _ _)

theorem tells_receiveExact_of_le
    (hfaults : s.faults = []) {count : Nat} (timeout : Nat) (hcount : count ≤ s.unread.length) :
    Tells link (receiveExact count timeout).run s (.ok (s.unread.take count)) []
      [.received count timeout (.ok (s.unread.take count))]
      { s.consume count with reads := s.reads ++ [(count, timeout)] } := by
  refine Tells.bind_ok (tells_receive hfaults count timeout) ?_
  rw [List.length_take, Nat.min_eq_left hcount, if_neg (Nat.lt_irrefl count)]
  exact .done _ _

theorem tells_receiveExact_of_lt
    (hfaults : s.faults = []) {count : Nat} (timeout : Nat) (hcount : s.unread.length < count) :
    Tells link (receiveExact count timeout).run s
      (.error (.timeout count s.unread.length)) []
      [.received count timeout (.ok s.unread)]
      { s.consume count with reads := s.reads ++ [(count, timeout)] } := by
  have hall : s.unread.take count = s.unread := List.take_of_length_le (Nat.le_of_lt hcount)
  have hread := tells_receive hfaults count timeout
  rw [hall] at hread
  refine Tells.bind_ok hread ?_
  rw [if_pos hcount]
  exact .done _ _

theorem tells_receiveResponse_of_frame
    (hfaults : s.faults = []) {length : UInt8} {body rest : List UInt8}
    (hbody : body.length = length.toNat + 1) (hunread : s.unread = length :: (body ++ rest))
    (timeout : Nat) :
    ∃ s', Tells link (receiveResponse timeout).run s (Response.ofBody body)
      [.received (length :: body)]
      [.received 1 timeout (.ok [length]), .received (length.toNat + 1) timeout (.ok body)] s' := by
  have hone : 1 ≤ s.unread.length := by
    rw [hunread, List.length_cons]
    omega
  have hhead := tells_receiveExact_of_le hfaults timeout hone
  rw [hunread, List.take_succ_cons, List.take_zero] at hhead
  have hleft := unread_headed hunread timeout
  have henough : length.toNat + 1 ≤ (s.headed timeout).unread.length := by
    rw [hleft, List.length_append, hbody]
    omega
  have hrest := tells_receiveExact_of_le (s := s.headed timeout) hfaults timeout henough
  rw [hleft, List.take_left' hbody] at hrest
  apply Exists.intro
  apply Tells.bind_ok hhead
  exact .bind_ok hrest (.note (.done _ _))

theorem tells_receiveResponse_of_nil
    (hfaults : s.faults = []) (hunread : s.unread = []) (timeout : Nat) :
    ∃ s', Tells link (receiveResponse timeout).run s (.error (.timeout 1 0)) []
      [.received 1 timeout (.ok [])] s' := by
  have hfew : s.unread.length < 1 := by
    rw [hunread]
    decide
  have hread := tells_receiveExact_of_lt hfaults timeout hfew
  rw [hunread] at hread
  exact ⟨_, hread.bind_error _⟩

theorem tells_receiveResponse_of_short
    (hfaults : s.faults = []) {length : UInt8} {rest : List UInt8}
    (hunread : s.unread = length :: rest) (hshort : rest.length < length.toNat + 1) (timeout : Nat) :
    ∃ s', Tells link (receiveResponse timeout).run s
      (.error (.timeout (length.toNat + 1) rest.length)) []
      [.received 1 timeout (.ok [length]), .received (length.toNat + 1) timeout (.ok rest)] s' := by
  have hone : 1 ≤ s.unread.length := by
    rw [hunread, List.length_cons]
    omega
  have hhead := tells_receiveExact_of_le hfaults timeout hone
  rw [hunread, List.take_succ_cons, List.take_zero] at hhead
  have hleft := unread_headed hunread timeout
  have hfew : (s.headed timeout).unread.length < length.toNat + 1 := by rwa [hleft]
  have hrest := tells_receiveExact_of_lt (s := s.headed timeout) hfaults timeout hfew
  rw [hleft] at hrest
  apply Exists.intro
  apply Tells.bind_ok hhead
  exact hrest.bind_error _

/-- What a response says is told after its bytes, and nothing more is read for it. -/
theorem tells_receivePayload_of_frame
    (hfaults : s.faults = []) {length : UInt8} {body rest : List UInt8}
    (hbody : body.length = length.toNat + 1) (hunread : s.unread = length :: (body ++ rest))
    (timeout : Nat) :
    ∃ s', Tells link (receivePayload timeout).run s (Response.verdict (length :: body))
      (report (length :: body))
      [.received 1 timeout (.ok [length]), .received (length.toNat + 1) timeout (.ok body)] s' := by
  obtain ⟨between, hresponse⟩ := tells_receiveResponse_of_frame hfaults hbody hunread timeout
  rw [← Response.toPayload_ofBody length (by rintro rfl; cases hbody), receivePayload, report,
    List.tail_cons]
  cases hof : Response.ofBody body with
  | error e =>
      rw [hof] at hresponse
      exact ⟨between, hresponse.bind_error _⟩
  | ok response =>
      rw [hof] at hresponse
      cases response with
      | ok payload => exact ⟨between, .bind_ok hresponse (.done _ _)⟩
      | failed status payload =>
          apply Exists.intro
          exact .bind_ok hresponse (.note (.done _ _))

end Scripted
end BadgeLink
