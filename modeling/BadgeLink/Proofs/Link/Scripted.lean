import BadgeLink.Link.Scripted
import BadgeLink.Proofs.Exchange

/-!
# Scripted links without faults

As long as no fault is planned, a scripted link is a queue: what is stale comes first, what will come
second, and a read takes from the front as many bytes as it wants and finds.
-/

namespace BadgeLink
namespace Scripted

variable {α β : Type}

/-- All bytes that can still be received, in their order. -/
def unread (s : Scripted) : List UInt8 :=
  s.stale ++ s.incoming

/-- The link without its first `count` unread bytes. -/
def consume (count : Nat) (s : Scripted) : Scripted :=
  { s with
    stale := s.stale.drop count
    incoming := s.incoming.drop (count - s.stale.length) }

@[simp]
theorem stale_consume (count : Nat) (s : Scripted) :
    (s.consume count).stale = s.stale.drop count :=
  rfl

@[simp]
theorem incoming_consume (count : Nat) (s : Scripted) :
    (s.consume count).incoming = s.incoming.drop (count - s.stale.length) :=
  rfl

@[simp]
theorem unread_consume (count : Nat) (s : Scripted) :
    (s.consume count).unread = s.unread.drop count := by
  rw [unread, unread, consume, List.drop_append]

theorem consume_add (m n : Nat) (s : Scripted) :
    (s.consume m).consume n = s.consume (m + n) := by
  simp only [consume, List.drop_drop, List.length_drop, Scripted.mk.injEq, true_and, and_true]
  congr 1
  omega

@[simp]
theorem consume_zero (s : Scripted) : s.consume 0 = s := by
  rw [consume, List.drop_zero, Nat.zero_sub, List.drop_zero]

theorem consume_of_unread_nil {s : Scripted} (h : s.unread = []) (count : Nat) :
    s.consume count = s := by
  obtain ⟨hstale, hincoming⟩ := List.append_eq_nil_iff.mp h
  have hdrop : s.stale.drop count = s.stale := by rw [hstale, List.drop_nil]
  have hdrop' : s.incoming.drop (count - s.stale.length) = s.incoming := by
    rw [hincoming, List.drop_nil]
  rw [consume, hdrop, hdrop']

/-- A read takes from the front of what is unread. -/
theorem take_eq (count : Nat) (s : Scripted) :
    s.take count = (s.unread.take count, s.consume count) := by
  have hnew : (s.incoming.take (count - (s.stale.take count).length)) =
      s.incoming.take (count - s.stale.length) := by
    rw [List.length_take]
    congr 1
    omega
  have hrest : s.incoming.drop (s.incoming.take (count - s.stale.length)).length =
      s.incoming.drop (count - s.stale.length) := by
    rw [List.length_take]
    rcases Nat.le_total (count - s.stale.length) s.incoming.length with hle | hge
    · rw [Nat.min_eq_left hle]
    · rw [Nat.min_eq_right hge, List.drop_length, List.drop_eq_nil_of_le hge]
  rw [take, unread, List.take_append, consume]
  simp only [hnew, hrest]

variable {s : Scripted}

theorem attempt_of_no_faults
    (hfaults : s.faults = []) (call : Call) (request : Scripted → α × Scripted) :
    attempt call request s = (.ok (request s).1, (request s).2) := by
  have hsame : { s with faults := [] } = s := by rw [← hfaults]
  rw [attempt, hfaults, consult]
  simp only [hsame]

theorem send_of_no_faults (hfaults : s.faults = []) (bytes : List UInt8) :
    link.send bytes s = (.ok (), { s with sent := s.sent ++ [bytes] }) := by
  show attempt .send (fun s => ((), { s with sent := s.sent ++ [bytes] })) s = _
  rw [attempt_of_no_faults hfaults]

/-- The link after bytes have been sent over it, which the log says too. -/
def sending (bytes : List UInt8) (s : Scripted) : Scripted :=
  { s with sent := s.sent ++ [bytes], log := s.log ++ [.sent bytes] }

/-- Bytes that are noted and sent are on the link, and the dialogue goes on. -/
theorem overLink_note_send
    (hfaults : s.faults = []) (bytes : List UInt8) (next : Except LinkFault Unit → Dialogue α) :
    (Dialogue.note (.sent bytes) (.send bytes next)).overLink link s =
      (next (.ok ())).overLink link (s.sending bytes) := by
  have hsend : link.send bytes (link.note (.sent bytes) s).2 = (.ok (), s.sending bytes) :=
    send_of_no_faults (s := (link.note (.sent bytes) s).2) hfaults bytes
  rw [Dialogue.overLink_note, Dialogue.overLink_send, hsend]

theorem receive_of_no_faults (hfaults : s.faults = []) (count timeout : Nat) :
    link.receive count timeout s =
      (.ok (s.unread.take count),
        { s.consume count with reads := s.reads ++ [(count, timeout)] }) := by
  let asked : Scripted := { s with reads := s.reads ++ [(count, timeout)] }
  have hasked : asked.faults = [] := hfaults
  show attempt .receive (take count) asked = _
  rw [attempt_of_no_faults hasked, take_eq]
  rfl

theorem clear_of_no_faults (hfaults : s.faults = []) :
    link.clear s = (.ok (), { s with stale := [], clears := s.clears + 1 }) := by
  show attempt .clear (fun s => ((), { s with stale := [], clears := s.clears + 1 })) s = _
  rw [attempt_of_no_faults hfaults]

/-! ## What has been sent -/

theorem sent_receive (count timeout : Nat) (s : Scripted) :
    (link.receive count timeout s).2.sent = s.sent := by
  show (attempt .receive (take count) { s with reads := s.reads ++ [(count, timeout)] }).2.sent = _
  unfold attempt
  split <;> rfl

/-- A dialogue that only receives sends nothing, faults or not. -/
theorem sent_overLink_of_receives
    {good : α → Prop} {d : Dialogue α} (hd : d.Obeys Exchange.Receives good) (s : Scripted) :
    (d.overLink link s).2.sent = s.sent := by
  induction d generalizing s with
  | done value => rfl
  | send bytes next ih =>
      obtain ⟨count, timeout, hask⟩ := hd.1
      cases hask
  | receive count timeout next ih =>
      rw [Dialogue.overLink_receive, ih _ (hd.2 _), sent_receive]
  | clear next ih =>
      obtain ⟨count, timeout, hask⟩ := hd.1
      cases hask
  | pause time next ih => exact ih hd s
  | note record next ih => exact ih hd _

/-! ## Stale bytes and bytes to come -/

/-- Two links that work and have the same bytes to receive, wherever these lie. -/
structure SameUnread (s t : Scripted) : Prop where
  faults : s.faults = []
  faults' : t.faults = []
  unread : s.unread = t.unread

/-- Only a request to discard tells stale bytes from bytes to come: everything else goes on in the same
way over two links with the same unread bytes. -/
theorem SameUnread.overLink
    {s t : Scripted} (h : s.SameUnread t) {good : α → Prop} {d : Dialogue α}
    (hd : d.Obeys (· ≠ .clear) good) :
    (d.overLink link s).1 = (d.overLink link t).1 ∧
      (d.overLink link s).2.SameUnread (d.overLink link t).2 := by
  induction d generalizing s t with
  | done value => exact ⟨rfl, h⟩
  | send bytes next ih =>
      rw [Dialogue.overLink_send, Dialogue.overLink_send, send_of_no_faults h.faults,
        send_of_no_faults h.faults']
      exact ih _ ⟨h.faults, h.faults', h.unread⟩ (hd.2 _)
  | receive count timeout next ih =>
      rw [Dialogue.overLink_receive, Dialogue.overLink_receive, receive_of_no_faults h.faults,
        receive_of_no_faults h.faults', h.unread]
      have hunread : (s.consume count).unread = (t.consume count).unread := by
        rw [unread_consume, unread_consume, h.unread]
      exact ih _ ⟨h.faults, h.faults', hunread⟩ (hd.2 _)
  | clear next ih => exact absurd rfl hd.1
  | pause time next ih => exact ih h hd
  | note record next ih => exact ih ⟨h.faults, h.faults', h.unread⟩ hd

/-- A dialogue that starts by discarding what is stale does not depend on it. -/
theorem overLink_clear_of_stale
    (hfaults : s.faults = []) (stale : List UInt8) (next : Except LinkFault Unit → Dialogue α) :
    (Dialogue.clear next).overLink link { s with stale } = (Dialogue.clear next).overLink link s := by
  rw [Dialogue.overLink_clear, Dialogue.overLink_clear, clear_of_no_faults hfaults,
    clear_of_no_faults (s := { s with stale }) hfaults]

end Scripted
end BadgeLink
