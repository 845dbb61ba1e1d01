import BadgeLink.Badge
import BadgeLink.Proofs.Exchange
import BadgeLink.Proofs.Session.Record

/-!
# The resets of a handshake

Whatever a link answers, a handshake sends nothing but resets, and no more of them than it may read.  It
pauses after each reset that is sent, except the first one.
-/

namespace BadgeLink

/-- Bytes that were handed over, and taken. -/
def Event.isDelivery : Event → Bool
  | sent _ (.ok ()) => true
  | _ => false

namespace Handshake

variable {σ : Type} {link : Link (StateM σ)} {interval left : Nat} {events : List Event}
  {pauses : List Nat}

/-- The events and pauses of a handshake that waits for the acknowledgement and may send `left` more
resets.  Each of them follows a read, and is followed by a pause and another read if it is taken. -/
inductive Resetting (interval : Nat) : Nat → List Event → List Nat → Prop
  | ended (left timeout : Nat) (got : Except LinkFault (List UInt8)) :
    Resetting interval left [.received ack.length timeout got] []
  | undelivered (left timeout : Nat) (got : Except LinkFault (List UInt8)) (fault : LinkFault) :
    Resetting interval (left + 1)
      [.received ack.length timeout got, .sent resetBytes (.error fault)] []
  | again (left timeout : Nat) (got : Except LinkFault (List UInt8)) {events : List Event}
    {pauses : List Nat} (hrest : Resetting interval left events pauses) :
    Resetting interval (left + 1)
      (.received ack.length timeout got :: .sent resetBytes (.ok ()) :: events)
      (interval :: pauses)

theorem resetting_awaitAck (timeout left : Nat) (h : Handshake) (s : σ) :
    Resetting h.interval left ((awaitAck timeout (left + 1) h).events link s)
      ((awaitAck timeout (left + 1) h).pauses link s) := by
  induction left generalizing h s with
  | zero =>
      rw [awaitAck, Dialogue.events_receive, Dialogue.pauses]
      cases (link.receive ack.length timeout s).1 with
      | error fault => exact .ended _ _ _
      | ok got =>
          dsimp only
          split <;> exact .ended _ _ _
  | succ left ih =>
      rw [awaitAck, Dialogue.events_receive, Dialogue.pauses]
      cases (link.receive ack.length timeout s).1 with
      | error fault => exact .ended _ _ _
      | ok got =>
          dsimp only
          split
          · exact .ended _ _ _
          · rw [if_neg (Nat.succ_ne_zero left), Dialogue.events_note, Dialogue.pauses,
              Dialogue.events_send, Dialogue.pauses]
            rcases link.send resetBytes _ with ⟨fault | taken, after⟩
            · exact .undelivered _ _ _ fault
            · exact .again left timeout _ (ih { h with attempts := h.attempts + 1 } _)

namespace Resetting

/-- Nothing but resets is sent. -/
theorem sends_eq (h : Resetting interval left events pauses) :
    ∃ n ≤ left, sends events = List.replicate n resetBytes := by
  induction h with
  | ended left => exact ⟨0, Nat.zero_le left, rfl⟩
  | undelivered left => exact ⟨1, Nat.succ_le_succ (Nat.zero_le left), rfl⟩
  | again left timeout got _ ih =>
      obtain ⟨n, hn, hsends⟩ := ih
      refine ⟨n + 1, Nat.succ_le_succ hn, ?_⟩
      rw [List.replicate_succ, ← hsends]
      rfl

/-- There is a pause for each reset that was taken. -/
theorem pauses_eq (h : Resetting interval left events pauses) :
    pauses = List.replicate (events.countP Event.isDelivery) interval := by
  induction h with
  | ended => rfl
  | undelivered => rfl
  | again left timeout got _ ih =>
      rw [List.countP_cons_of_neg Bool.false_ne_true, List.countP_cons_of_pos rfl,
        List.replicate_succ, ← ih]

end Resetting

/-! ## Whole handshakes -/

theorem sends_run (h : Handshake) (timeout : Nat) (s : σ) :
    ∃ n ≤ maxAttempts, sends ((h.run timeout).events link s) = List.replicate n resetBytes := by
  rw [run, Dialogue.events_clear]
  rcases link.clear s with ⟨fault | ⟨⟩, cleared⟩
  · exact ⟨0, Nat.zero_le _, rfl⟩
  · dsimp only
    rw [Dialogue.events_note, Dialogue.events_send]
    rcases link.send resetBytes _ with ⟨fault | ⟨⟩, sent⟩
    · exact ⟨1, Nat.succ_le_succ (Nat.zero_le _), rfl⟩
    · obtain ⟨n, hn, hsends⟩ := (resetting_awaitAck timeout 255
        { h with state := .awaitingAck, attempts := 0 } sent).sends_eq
      refine ⟨n + 1, Nat.succ_le_succ hn, ?_⟩
      rw [List.replicate_succ, ← hsends]
      rfl

theorem pauses_run (h : Handshake) (timeout : Nat) (link : Link (StateM σ)) (s : σ) :
    (h.run timeout).pauses link s =
      List.replicate (((h.run timeout).events link s).countP Event.isDelivery - 1) h.interval := by
  rw [run, Dialogue.events_clear, Dialogue.pauses]
  rcases link.clear s with ⟨fault | ⟨⟩, cleared⟩
  · rfl
  · dsimp only
    rw [Dialogue.events_note, Dialogue.events_send, Dialogue.pauses, Dialogue.pauses]
    rcases link.send resetBytes _ with ⟨fault | ⟨⟩, sent⟩
    · rfl
    · dsimp only
      -- The first reset has no pause, and `awaitAck` does not send it.
      rw [List.countP_cons_of_neg Bool.false_ne_true, List.countP_cons_of_pos rfl,
        Nat.add_sub_cancel]
      exact (resetting_awaitAck timeout 255 _ sent).pauses_eq

end Handshake

namespace Badge

variable {σ : Type} {link : Link (StateM σ)}

/-- An initialization is a handshake with the interval of the badge, and a note at its end. -/
theorem init_run (badge : Badge) :
    badge.init.run =
      (Handshake.run { interval := badge.resetInterval } badge.timeout).bind fun
        | (.ok (), _) => .note .ready (.done (.ok ()))
        | (.error e, _) => .done (.error e) := by
  rw [init, Exchange.run_bind]
  show Dialogue.bind (Dialogue.bind _ _) _ = _
  rw [Dialogue.bind_assoc]
  congr
  funext ⟨outcome, after⟩
  cases outcome <;> rfl

theorem events_init (badge : Badge) (s : σ) :
    badge.init.run.events link s =
      (Handshake.run { interval := badge.resetInterval } badge.timeout).events link s := by
  rw [init_run, Dialogue.events_bind]
  split
  · exact List.append_nil _
  · exact List.append_nil _

/-- A handshake on a badge sends nothing but resets. -/
theorem sends_init (badge : Badge) (s : σ) :
    ∃ n ≤ 256, sends (badge.init.run.events link s) = List.replicate n [0x00] := by
  rw [events_init]
  exact Handshake.sends_run _ badge.timeout s

/-- How many resets a handshake on a badge gets sent. -/
def resets (badge : Badge) (link : Link (StateM σ)) (s : σ) : Nat :=
  (badge.init.run.events link s).countP Event.isDelivery

/-- A handshake on a badge pauses for its interval after each reset that is sent, except the first. -/
theorem pauses_init (badge : Badge) (s : σ) :
    badge.init.run.pauses link s =
      List.replicate (badge.resets link s - 1) badge.resetInterval := by
  have hrun := Handshake.pauses_run { interval := badge.resetInterval } badge.timeout link s
  rw [resets, events_init, ← hrun, init_run, Dialogue.pauses_bind]
  split
  · exact List.append_nil _
  · exact List.append_nil _

end Badge
end BadgeLink
