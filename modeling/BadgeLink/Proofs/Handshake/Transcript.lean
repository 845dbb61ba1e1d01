import BadgeLink.Proofs.Handshake.Attempts
import BadgeLink.Proofs.Handshake.Resets
import BadgeLink.Proofs.Link.Telling
import BadgeLink.Proofs.Log

/-!
# The log of a handshake

Over a link without faults a handshake tells of its first reset, and then of each of its reads: of those
that are not the acknowledgement with a number, and of the acknowledgement itself.  The resets that follow
a read are not told.
-/

namespace BadgeLink
namespace Handshake

open Dialogue (Tells)

/-- What the reads have found that was not the acknowledgement. -/
def misses (events : List Event) : List (List UInt8) :=
  (chunks events).filter fun got => decide (got ≠ ack)

variable {s : Scripted} {start attempts timeout : Nat} {got : List UInt8} {success : Prop}
  {told : List Record} {events : List Event}

/-! ## Reads -/

/-- What the log says about the reads of a handshake that has missed `start` acknowledgements before. -/
structure Awaited (start : Nat) (success : Prop) (attempts : Nat) (told : List Record)
    (events : List Event) : Prop where
  sent : told.filterMap Record.sent? = []
  resent : ∃ n, sends events = List.replicate n resetBytes
  missed : told.filterMap Record.missed? = (misses events).zipIdx (start + 1)
  attempts_eq : attempts = start + (misses events).length
  acknowledged : success → told.filterMap Record.received? = [ack]
  failed : ¬success → told.filterMap Record.received? = []
  shown : told.flatMap Record.shown = taken events

theorem misses_cons_ack : misses (.received 3 timeout (.ok ack) :: events) = misses events :=
  List.filter_cons_of_neg (by decide)

theorem misses_cons_of_ne (hgot : got ≠ ack) :
    misses (.received 3 timeout (.ok got) :: events) = got :: misses events :=
  List.filter_cons_of_pos (decide_eq_true hgot)

theorem awaited_of_ack (start timeout : Nat) (hsuccess : success) :
    Awaited start success start [.received ack] [.received 3 timeout (.ok ack)] := by
  refine ⟨rfl, ⟨0, rfl⟩, ?_, ?_, fun _ => rfl, fun hfailed => absurd hsuccess hfailed, rfl⟩
  · rw [misses_cons_ack]
    rfl
  · rw [misses_cons_ack]
    rfl

theorem awaited_of_last_missed (start timeout : Nat) (hgot : got ≠ ack) (hfailed : ¬success) :
    Awaited start success (start + 1) [.missedAck (start + 1) got ack, .gaveUp (start + 1)]
      [.received 3 timeout (.ok got)] := by
  refine ⟨rfl, ⟨0, rfl⟩, ?_, ?_, fun hsuccess => absurd hsuccess hfailed, fun _ => rfl, rfl⟩
  · rw [misses_cons_of_ne hgot]
    rfl
  · rw [misses_cons_of_ne hgot]
    rfl

/-- A read that misses the acknowledgement is told with its number, and the reset after it is not. -/
theorem Awaited.again
    (hgot : got ≠ ack) (timeout : Nat) (h : Awaited (start + 1) success attempts told events) :
    Awaited start success attempts (.missedAck (start + 1) got ack :: told)
      (.received 3 timeout (.ok got) :: .sent resetBytes (.ok ()) :: events) := by
  have hmisses : misses (.received 3 timeout (.ok got) :: .sent resetBytes (.ok ()) :: events) =
      got :: misses events := misses_cons_of_ne hgot
  obtain ⟨n, hresent⟩ := h.resent
  refine ⟨h.sent, ⟨n + 1, ?_⟩, ?_, ?_, h.acknowledged, h.failed, ?_⟩
  · rw [List.replicate_succ, ← hresent]
    rfl
  · rw [hmisses, List.zipIdx_cons, ← h.missed]
    rfl
  · rw [hmisses, h.attempts_eq, List.length_cons]
    omega
  · exact congrArg (got ++ ·) h.shown

theorem tells_awaitAck_of_ack
    (hfaults : s.faults = []) (hack : s.unread.take 3 = ack) (timeout left : Nat) (h : Handshake) :
    ∃ s', Tells Scripted.link (awaitAck timeout (left + 1) h) s (.ok (), { h with state := .ready })
      [.received ack] [.received 3 timeout (.ok ack)] s' := by
  have hread := Scripted.receive_of_no_faults hfaults 3 timeout
  rw [hack] at hread
  rw [awaitAck]
  apply Exists.intro
  apply Tells.receive hread
  dsimp only
  rw [if_pos rfl]
  exact .note (.done _ _)

theorem tells_awaitAck_of_last_missed
    (hfaults : s.faults = []) (hmissed : s.unread.take 3 ≠ ack) (timeout : Nat) (h : Handshake) :
    ∃ s', Tells Scripted.link (awaitAck timeout 1 h) s
      (.error (.noReset (h.attempts + 1)), { h with state := .failed, attempts := h.attempts + 1 })
      [.missedAck (h.attempts + 1) (s.unread.take 3) ack, .gaveUp (h.attempts + 1)]
      [.received 3 timeout (.ok (s.unread.take 3))] s' := by
  rw [awaitAck]
  apply Exists.intro
  apply Tells.receive (Scripted.receive_of_no_faults hfaults 3 timeout)
  dsimp only
  rw [if_neg hmissed, if_pos rfl]
  exact .note (.note (.done _ _))

theorem tells_awaitAck_of_missed
    (hfaults : s.faults = []) (hmissed : s.unread.take 3 ≠ ack) {timeout left : Nat} {h : Handshake}
    {result : Except Error Unit × Handshake} {s' : Scripted}
    (hrest : Tells Scripted.link (awaitAck timeout (left + 1) { h with attempts := h.attempts + 1 })
      (afterMisses h.attempts timeout 1 s) result told events s') :
    Tells Scripted.link (awaitAck timeout (left + 2) h) s result
      (.missedAck (h.attempts + 1) (s.unread.take 3) ack :: told)
      (.received 3 timeout (.ok (s.unread.take 3)) :: .sent resetBytes (.ok ()) :: events) s' := by
  let noted : Scripted :=
    { s.consume 3 with
      reads := s.reads ++ [(3, timeout)]
      log := s.log ++ missedRecords s.unread h.attempts 1 }
  have hsend := Scripted.send_of_no_faults (s := noted) hfaults resetBytes
  rw [awaitAck]
  apply Tells.receive (Scripted.receive_of_no_faults hfaults 3 timeout)
  dsimp only
  rw [if_neg hmissed, if_neg (Nat.succ_ne_zero left)]
  apply Tells.note
  apply Tells.send hsend
  exact .pause hrest

theorem awaited_awaitAck (hfaults : s.faults = []) (timeout left : Nat) (h : Handshake) :
    ∃ outcome h' told events s',
      Tells Scripted.link (awaitAck timeout (left + 1) h) s (outcome, h') told events s' ∧
        Awaited h.attempts (outcome = .ok ()) h'.attempts told events := by
  induction left generalizing h s with
  | zero =>
      by_cases hread : s.unread.take 3 = ack
      · obtain ⟨s', htells⟩ := tells_awaitAck_of_ack hfaults hread timeout 0 h
        exact ⟨_, _, _, _, s', htells, awaited_of_ack h.attempts timeout rfl⟩
      · obtain ⟨s', htells⟩ := tells_awaitAck_of_last_missed hfaults hread timeout h
        exact ⟨_, _, _, _, s', htells, awaited_of_last_missed h.attempts timeout hread nofun⟩
  | succ left ih =>
      by_cases hread : s.unread.take 3 = ack
      · obtain ⟨s', htells⟩ := tells_awaitAck_of_ack hfaults hread timeout (left + 1) h
        exact ⟨_, _, _, _, s', htells, awaited_of_ack h.attempts timeout rfl⟩
      · obtain ⟨outcome, h', told, events, s', htells, hawaited⟩ :=
          ih (s := afterMisses h.attempts timeout 1 s) hfaults { h with attempts := h.attempts + 1 }
        exact ⟨outcome, h', _, _, s', tells_awaitAck_of_missed hfaults hread htells,
          hawaited.again hread timeout⟩

/-! ## Whole handshakes -/

/-- A handshake ends with the acknowledgement or without it. -/
theorem run_outcome_cases (hfaults : s.faults = []) (h : Handshake) (timeout : Nat) :
    ((h.run timeout).overLink Scripted.link s).1.1 = .ok () ∨
      ((h.run timeout).overLink Scripted.link s).1.1 = .error (.noReset maxAttempts) := by
  rcases first_ack_or_none s.incoming with ⟨k, hk, hack, hmissed⟩ | hmissed
  · rw [(run_of_ack hfaults hk hack hmissed h timeout).eq_of_done.1]
    exact Or.inl rfl
  · rw [(run_of_no_ack hfaults hmissed h timeout).eq_of_done.1]
    exact Or.inr rfl

/-- What the log says about a handshake.  Its first reset is told once, the resets that follow are not.
Each read that was not the acknowledgement is told with its number, up to the number of attempts, and the
acknowledgement is told if the handshake has succeeded.  So all bytes that were taken are shown. -/
structure Logged (success : Prop) (attempts : Nat) (told : List Record) (events : List Event) :
    Prop where
  sent : told.filterMap Record.sent? = [resetBytes]
  sends : ∃ n, BadgeLink.sends events = List.replicate (n + 1) resetBytes
  missed : told.filterMap Record.missed? = (misses events).zipIdx 1
  attempts_eq : attempts = (misses events).length
  acknowledged : success → told.filterMap Record.received? = [ack]
  failed : ¬success → told.filterMap Record.received? = []
  shown : told.flatMap Record.shown = taken events

theorem Awaited.logged (h : Awaited 0 success attempts told events) :
    Logged success attempts (.sent resetBytes :: told)
      (.cleared (.ok ()) :: .sent resetBytes (.ok ()) :: events) := by
  obtain ⟨n, hresent⟩ := h.resent
  refine ⟨congrArg (List.cons resetBytes) h.sent, ⟨n, ?_⟩, h.missed, ?_, h.acknowledged, h.failed,
    h.shown⟩
  · rw [List.replicate_succ, ← hresent]
    rfl
  · exact h.attempts_eq.trans (Nat.zero_add _)

theorem logged_run (hfaults : s.faults = []) (timeout : Nat) (h : Handshake) :
    ∃ outcome h' told events s',
      Tells Scripted.link (h.run timeout) s (outcome, h') told events s' ∧
        Logged (outcome = .ok ()) h'.attempts told events := by
  obtain ⟨outcome, h', told, events, s', hawait, hawaited⟩ :=
    awaited_awaitAck (s := started s) hfaults timeout 255
      { h with state := .awaitingAck, attempts := 0 }
  let cleared : Scripted :=
    { s with stale := [], clears := s.clears + 1, log := s.log ++ [.sent resetBytes] }
  have hsend := Scripted.send_of_no_faults (s := cleared) hfaults resetBytes
  refine ⟨outcome, h', _, _, s', ?_, hawaited.logged⟩
  rw [run]
  apply Tells.clear (Scripted.clear_of_no_faults hfaults)
  apply Tells.note
  exact .send hsend hawait

theorem Logged.congr
    {success' : Prop} (hiff : success ↔ success') (h : Logged success attempts told events) :
    Logged success' attempts told events := by
  rwa [← propext hiff]

/-- That the device is ready is told without any bytes. -/
theorem Logged.ready (h : Logged success attempts told events) :
    Logged success attempts (told ++ [Record.ready]) events := by
  have hsame {α : Type} (f : Record → Option α) (hready : f .ready = none) :
      (told ++ [Record.ready]).filterMap f = told.filterMap f := by
    rw [List.filterMap_append, List.filterMap_cons_none hready, List.filterMap_nil, List.append_nil]
  refine ⟨?_, h.sends, ?_, h.attempts_eq, ?_, ?_, ?_⟩
  · rw [hsame Record.sent? rfl, h.sent]
  · rw [hsame Record.missed? rfl, h.missed]
  · rw [hsame Record.received? rfl]
    exact h.acknowledged
  · rw [hsame Record.received? rfl]
    exact h.failed
  · rw [List.flatMap_append, h.shown]
    exact List.append_nil _

end Handshake
end BadgeLink
