import BadgeLink.Handshake
import BadgeLink.Proofs.Link.Scripted
import Mathlib.Data.Nat.Find

/-!
# The attempts of a handshake

Over a link without faults a handshake is decided by the bytes that will come, taken in groups of three:
it succeeds at the first group that is the acknowledgement, and fails if none of the first 256 is.  Each
group costs one reset and one read.  What lies in the buffer already is discarded first, and what earlier
runs have left in the handshake is overwritten, so neither makes a difference.
-/

namespace BadgeLink
namespace Handshake

open Dialogue (LeadsTo)

/-- The bytes that the read after `k` others finds: three of them, fewer where the bytes end. -/
def group (bytes : List UInt8) (k : Nat) : List UInt8 :=
  (bytes.drop (3 * k)).take 3

/-- What the reads of a failed handshake have told the log, if `attempts` have failed before. -/
def missedRecords (bytes : List UInt8) (attempts k : Nat) : List Record :=
  (List.range k).map fun j => .missedAck (attempts + j + 1) (group bytes j) ack

theorem missedRecords_succ (bytes : List UInt8) (attempts k : Nat) :
    missedRecords bytes attempts (k + 1) =
      missedRecords bytes attempts k ++ [.missedAck (attempts + k + 1) (group bytes k) ack] := by
  rw [missedRecords, List.range_succ, List.map_append]
  rfl

/-- What is left of a link after `k` reads that were not the acknowledgement, each of them answered by
another reset. -/
def afterMisses (attempts timeout k : Nat) (s : Scripted) : Scripted :=
  { s.consume (3 * k) with
    sent := s.sent ++ List.replicate k resetBytes
    reads := s.reads ++ List.replicate k (3, timeout)
    log := s.log ++ missedRecords s.unread attempts k }

theorem unread_afterMisses (attempts timeout k : Nat) (s : Scripted) :
    (afterMisses attempts timeout k s).unread = s.unread.drop (3 * k) :=
  Scripted.unread_consume (3 * k) s

theorem afterMisses_succ (attempts timeout k : Nat) (s : Scripted) :
    afterMisses (attempts + k) timeout 1 (afterMisses attempts timeout k s) =
      afterMisses attempts timeout (k + 1) s := by
  have hgroup : group (afterMisses attempts timeout k s).unread 0 = group s.unread k := by
    rw [unread_afterMisses]
    rfl
  have hconsume : (s.consume (3 * k)).consume 3 = s.consume (3 * (k + 1)) :=
    Scripted.consume_add (3 * k) 3 s
  have hlog : missedRecords (afterMisses attempts timeout k s).unread (attempts + k) 1 =
      [.missedAck (attempts + k + 1) (group s.unread k) ack] := by
    rw [← hgroup]
    rfl
  rw [afterMisses, hlog]
  simp only [afterMisses, missedRecords_succ, List.replicate_succ', List.append_assoc]
  rw [← hconsume]
  rfl

variable {s : Scripted}

/-! ## One attempt -/

/-- A read that is not the acknowledgement, and not the last one allowed, leads to another reset and on
to the next read. -/
theorem awaitAck_leadsTo_of_missed
    (hfaults : s.faults = []) (hmissed : group s.unread 0 ≠ ack) (timeout left : Nat)
    (h : Handshake) :
    LeadsTo Scripted.link (awaitAck timeout (left + 2) h) s [.receive 3 timeout, .send resetBytes]
      (awaitAck timeout (left + 1) { h with attempts := h.attempts + 1 })
      (afterMisses h.attempts timeout 1 s) := by
  have hgot : ¬s.unread.take 3 = ack := hmissed
  have hread := Scripted.receive_of_no_faults hfaults 3 timeout
  let noted : Scripted :=
    { s.consume 3 with
      reads := s.reads ++ [(3, timeout)]
      log := s.log ++ missedRecords s.unread h.attempts 1 }
  have hsend := Scripted.send_of_no_faults (s := noted) hfaults resetBytes
  rw [awaitAck]
  apply LeadsTo.receive hread
  dsimp only
  rw [if_neg hgot, if_neg (Nat.succ_ne_zero left)]
  apply LeadsTo.note
  apply LeadsTo.send hsend
  apply LeadsTo.pause
  exact LeadsTo.refl _ _

theorem awaitAck_leadsTo_of_ack
    (hfaults : s.faults = []) (hack : group s.unread 0 = ack) (timeout left : Nat) (h : Handshake) :
    LeadsTo Scripted.link (awaitAck timeout (left + 1) h) s [.receive 3 timeout]
      (.done (.ok (), { h with state := .ready }))
      { s.consume 3 with
        reads := s.reads ++ [(3, timeout)]
        log := s.log ++ [.received ack] } := by
  have hgot : s.unread.take 3 = ack := hack
  have hread := Scripted.receive_of_no_faults hfaults 3 timeout
  rw [hgot] at hread
  rw [awaitAck]
  apply LeadsTo.receive hread
  dsimp only
  rw [if_pos rfl]
  apply LeadsTo.note
  exact LeadsTo.refl _ _

/-- The last read allowed ends the handshake if it is not the acknowledgement; no reset follows it. -/
theorem awaitAck_leadsTo_of_last_missed
    (hfaults : s.faults = []) (hmissed : group s.unread 0 ≠ ack) (timeout : Nat) (h : Handshake) :
    LeadsTo Scripted.link (awaitAck timeout 1 h) s [.receive 3 timeout]
      (.done (.error (.noReset (h.attempts + 1)),
        { h with state := .failed, attempts := h.attempts + 1 }))
      { s.consume 3 with
        reads := s.reads ++ [(3, timeout)]
        log := s.log ++ missedRecords s.unread h.attempts 1 ++ [.gaveUp (h.attempts + 1)] } := by
  have hgot : ¬s.unread.take 3 = ack := hmissed
  have hread := Scripted.receive_of_no_faults hfaults 3 timeout
  rw [awaitAck]
  apply LeadsTo.receive hread
  dsimp only
  rw [if_neg hgot, if_pos rfl]
  apply LeadsTo.note
  apply LeadsTo.note
  exact LeadsTo.refl _ _

/-! ## Attempts in a row -/

/-- As many reads that are not the acknowledgement, with as many resets in between. -/
theorem awaitAck_leadsTo_of_misses
    (hfaults : s.faults = []) {k : Nat} (hmissed : ∀ j < k, group s.unread j ≠ ack)
    (timeout left : Nat) (h : Handshake) :
    LeadsTo Scripted.link (awaitAck timeout (left + 1 + k) h) s
      (List.replicate k [.receive 3 timeout, .send resetBytes]).flatten
      (awaitAck timeout (left + 1) { h with attempts := h.attempts + k })
      (afterMisses h.attempts timeout k s) := by
  -- The last of the reads is split off, because the group that it finds is known from the start.
  induction k generalizing left with
  | zero =>
      have hstart : afterMisses h.attempts timeout 0 s = s := by
        simp [afterMisses, missedRecords]
      rw [hstart]
      exact LeadsTo.refl _ _
  | succ k ih =>
      have hbefore := ih (fun j hj => hmissed j (Nat.lt_succ_of_lt hj)) (left + 1)
      have hlast : group (afterMisses h.attempts timeout k s).unread 0 ≠ ack := by
        rw [unread_afterMisses]
        exact hmissed k (Nat.lt_succ_self k)
      have hstep := awaitAck_leadsTo_of_missed (s := afterMisses h.attempts timeout k s) hfaults
        hlast timeout left { h with attempts := h.attempts + k }
      have hleft : left + 1 + (k + 1) = left + 1 + 1 + k := by omega
      have hasked : (List.replicate (k + 1) [Ask.receive 3 timeout, .send resetBytes]).flatten =
          (List.replicate k [.receive 3 timeout, .send resetBytes]).flatten ++
            [.receive 3 timeout, .send resetBytes] := by
        rw [List.replicate_succ', List.flatten_append, List.flatten_singleton]
      rw [hleft, hasked, ← afterMisses_succ]
      exact hbefore.trans hstep

/-- Sends and reads alternate, whichever of them is taken to belong together. -/
theorem flatten_send_receive (timeout k : Nat) :
    (.send resetBytes :: (List.replicate k [.receive 3 timeout, .send resetBytes]).flatten) ++
        [.receive 3 timeout] =
      (List.replicate (k + 1) [Ask.send resetBytes, .receive 3 timeout]).flatten := by
  induction k with
  | zero => rfl
  | succ k ih =>
      rw [List.replicate_succ, List.flatten_cons, List.replicate_succ, List.flatten_cons, ← ih]
      rfl

/-! ## Whole runs -/

/-- What a run has made of a link when its first reset is sent. -/
def started (s : Scripted) : Scripted :=
  { s with
    stale := []
    clears := s.clears + 1
    sent := s.sent ++ [resetBytes]
    log := s.log ++ [.sent resetBytes] }

theorem run_leadsTo_awaitAck (hfaults : s.faults = []) (h : Handshake) (timeout : Nat) :
    LeadsTo Scripted.link (h.run timeout) s [.clear, .send resetBytes]
      (awaitAck timeout maxAttempts { h with state := .awaitingAck, attempts := 0 })
      (started s) := by
  have hclear := Scripted.clear_of_no_faults hfaults
  let cleared : Scripted :=
    { s with stale := [], clears := s.clears + 1, log := s.log ++ [.sent resetBytes] }
  have hsend := Scripted.send_of_no_faults (s := cleared) hfaults resetBytes
  rw [run]
  apply LeadsTo.clear hclear
  apply LeadsTo.note
  apply LeadsTo.send hsend
  exact LeadsTo.refl _ _

theorem unread_started (s : Scripted) : (started s).unread = s.incoming :=
  List.nil_append s.incoming

/-- What a run leaves of a link: all that was stale is gone, and for each of `count` reads there are one
reset and three bytes less, as long as there are any. -/
def afterReads (timeout count : Nat) (told : List Record) (s : Scripted) : Scripted :=
  { s with
    stale := []
    incoming := s.incoming.drop (3 * count)
    sent := s.sent ++ List.replicate count resetBytes
    reads := s.reads ++ List.replicate count (3, timeout)
    clears := s.clears + 1
    log := s.log ++ .sent resetBytes :: told }

/-- The state after the last read of a run, put together from what came before it. -/
theorem afterMisses_started (timeout k : Nat) (told : List Record) (s : Scripted) :
    let missed := afterMisses 0 timeout k (started s)
    { missed.consume 3 with
      reads := missed.reads ++ [(3, timeout)]
      log := missed.log ++ told } =
      afterReads timeout (k + 1) (missedRecords s.incoming 0 k ++ told) s := by
  have hincoming : (s.incoming.drop (3 * k)).drop 3 = s.incoming.drop (3 * (k + 1)) := by
    rw [List.drop_drop]
    rfl
  have hsent : s.sent ++ [resetBytes] ++ List.replicate k resetBytes =
      s.sent ++ List.replicate (k + 1) resetBytes := by
    rw [List.append_assoc]
    rfl
  simp only [afterMisses, started, Scripted.consume, afterReads, List.drop_nil, List.length_nil,
    Nat.sub_zero, hincoming, hsent, List.append_assoc, List.replicate_succ']
  rfl

/-- What the reads of a run find is what will come, from its start on. -/
theorem group_afterMisses_started (timeout k : Nat) (s : Scripted) :
    group (afterMisses 0 timeout k (started s)).unread 0 = group s.incoming k := by
  rw [unread_afterMisses, unread_started]
  rfl

/-- Up to its first `k` reads a run that has not met the acknowledgement has been resetting the device. -/
theorem run_leadsTo_of_misses
    (hfaults : s.faults = []) {k left : Nat} (hleft : left + 1 + k = maxAttempts)
    (hmissed : ∀ j < k, group s.incoming j ≠ ack) (h : Handshake) (timeout : Nat) :
    LeadsTo Scripted.link (h.run timeout) s
      (.clear :: .send resetBytes ::
        (List.replicate k [.receive 3 timeout, .send resetBytes]).flatten)
      (awaitAck timeout (left + 1) { h with state := .awaitingAck, attempts := k })
      (afterMisses 0 timeout k (started s)) := by
  have hstart := run_leadsTo_awaitAck hfaults h timeout
  have hunread : ∀ j < k, group (started s).unread j ≠ ack := by
    rw [unread_started]
    exact hmissed
  have hmisses := awaitAck_leadsTo_of_misses (s := started s) hfaults hunread timeout left
    { h with state := .awaitingAck, attempts := 0 }
  rw [hleft, Nat.zero_add] at hmisses
  exact hstart.trans hmisses

/-- A run whose first acknowledgement comes after `k` other groups succeeds with it. -/
theorem run_of_ack
    (hfaults : s.faults = []) {k : Nat} (hk : k < maxAttempts) (hack : group s.incoming k = ack)
    (hmissed : ∀ j < k, group s.incoming j ≠ ack) (h : Handshake) (timeout : Nat) :
    LeadsTo Scripted.link (h.run timeout) s
      (.clear :: (List.replicate (k + 1) [.send resetBytes, .receive 3 timeout]).flatten)
      (.done (.ok (), { h with state := .ready, attempts := k }))
      (afterReads timeout (k + 1) (missedRecords s.incoming 0 k ++ [.received ack]) s) := by
  have hleft : maxAttempts - k - 1 + 1 + k = maxAttempts := by omega
  have hmisses := run_leadsTo_of_misses hfaults hleft hmissed h timeout
  rw [← group_afterMisses_started timeout] at hack
  have hread := awaitAck_leadsTo_of_ack (s := afterMisses 0 timeout k (started s)) hfaults hack
    timeout (maxAttempts - k - 1) { h with state := .awaitingAck, attempts := k }
  rw [← afterMisses_started, ← flatten_send_receive]
  exact hmisses.trans hread

/-- A run that does not find the acknowledgement in any group that it may read fails. -/
theorem run_of_no_ack
    (hfaults : s.faults = []) (hmissed : ∀ j < maxAttempts, group s.incoming j ≠ ack)
    (h : Handshake) (timeout : Nat) :
    LeadsTo Scripted.link (h.run timeout) s
      (.clear :: (List.replicate maxAttempts [.send resetBytes, .receive 3 timeout]).flatten)
      (.done (.error (.noReset maxAttempts), { h with state := .failed, attempts := maxAttempts }))
      (afterReads timeout maxAttempts
        (missedRecords s.incoming 0 maxAttempts ++ [.gaveUp maxAttempts]) s) := by
  have hearlier : ∀ j < 255, group s.incoming j ≠ ack := by
    intro j hj
    exact hmissed j (Nat.lt_succ_of_lt hj)
  have hleft : 0 + 1 + 255 = maxAttempts := rfl
  have hmisses := run_leadsTo_of_misses hfaults hleft hearlier h timeout
  have hlast : group (afterMisses 0 timeout 255 (started s)).unread 0 ≠ ack := by
    rw [group_afterMisses_started]
    exact hmissed 255 (Nat.lt_succ_self 255)
  have hread := awaitAck_leadsTo_of_last_missed (s := afterMisses 0 timeout 255 (started s))
    hfaults hlast timeout { h with state := .awaitingAck, attempts := 255 }
  have htold : missedRecords (afterMisses 0 timeout 255 (started s)).unread 255 1 =
      [.missedAck 256 (group s.incoming 255) ack] := by
    rw [← group_afterMisses_started timeout]
    rfl
  have hrecords : missedRecords s.incoming 0 256 ++ [.gaveUp 256] =
      missedRecords s.incoming 0 255 ++
        [.missedAck 256 (group s.incoming 255) ack, .gaveUp 256] := by
    rw [missedRecords_succ, List.append_assoc]
    rfl
  rw [htold, List.append_assoc] at hread
  show LeadsTo Scripted.link (h.run timeout) s
    (.clear :: (List.replicate (255 + 1) [.send resetBytes, .receive 3 timeout]).flatten) _
    (afterReads timeout (255 + 1) (missedRecords s.incoming 0 256 ++ [.gaveUp 256]) s)
  rw [hrecords, ← afterMisses_started, ← flatten_send_receive]
  exact hmisses.trans hread

/-- Among the groups that a run may read there is a first acknowledgement, or none at all. -/
theorem first_ack_or_none (bytes : List UInt8) :
    (∃ k < maxAttempts, group bytes k = ack ∧ ∀ j < k, group bytes j ≠ ack) ∨
      ∀ j < maxAttempts, group bytes j ≠ ack := by
  by_cases hsome : ∃ k, k < maxAttempts ∧ group bytes k = ack
  · have hleast := Nat.find_spec hsome
    refine Or.inl ⟨Nat.find hsome, hleast.1, hleast.2, ?_⟩
    intro j hj hack
    exact Nat.find_min hsome hj ⟨Nat.lt_trans hj hleast.1, hack⟩
  · right
    intro j hj hack
    exact hsome ⟨j, hj, hack⟩

/-- Two runs that will read the same bytes end in the same way, whatever lies in the buffer before them
and whatever earlier runs have left. -/
theorem run_outcome_eq
    {t : Scripted} (hs : s.faults = []) (ht : t.faults = []) (hincoming : t.incoming = s.incoming)
    (h h' : Handshake) (timeout timeout' : Nat) :
    let outcome := ((h.run timeout).overLink Scripted.link s).1
    let outcome' := ((h'.run timeout').overLink Scripted.link t).1
    outcome'.1 = outcome.1 ∧ outcome'.2.state = outcome.2.state ∧
      outcome'.2.attempts = outcome.2.attempts := by
  dsimp only
  rcases first_ack_or_none s.incoming with ⟨k, hk, hack, hmissed⟩ | hmissed
  · have hrun := (run_of_ack hs hk hack hmissed h timeout).eq_of_done.1
    rw [← hincoming] at hack hmissed
    have hrun' := (run_of_ack ht hk hack hmissed h' timeout').eq_of_done.1
    rw [hrun, hrun']
    exact ⟨rfl, rfl, rfl⟩
  · have hrun := (run_of_no_ack hs hmissed h timeout).eq_of_done.1
    rw [← hincoming] at hmissed
    have hrun' := (run_of_no_ack ht hmissed h' timeout').eq_of_done.1
    rw [hrun, hrun']
    exact ⟨rfl, rfl, rfl⟩

/-- Over a link without faults a handshake discards what is stale, and then sends one reset before each
of its reads.  If one of the first 256 groups of three bytes is the acknowledgement, it succeeds at the
first of them and leaves what comes behind it; otherwise it fails after 256 reads.  What was stale and
what earlier runs have left makes no difference to the outcome. -/
theorem run_decided_by_first_ack
    {s : Scripted} (hfaults : s.faults = []) (h : Handshake) (timeout : Nat) :
    let outcome := (s.run (h.run timeout)).1
    let after := (s.run (h.run timeout)).2
    let asked := ((h.run timeout).asks Scripted.link s).map Prod.fst
    (∀ k ≤ 255, group s.incoming k = [0x01, 0x81, 0x81] →
      (∀ j < k, group s.incoming j ≠ [0x01, 0x81, 0x81]) →
        outcome = (.ok (), { h with state := .ready, attempts := k }) ∧
          asked = .clear :: (List.replicate (k + 1) [.send [0x00], .receive 3 timeout]).flatten ∧
          after = afterReads timeout (k + 1)
            (missedRecords s.incoming 0 k ++ [.received [0x01, 0x81, 0x81]]) s) ∧
      ((∀ k ≤ 255, group s.incoming k ≠ [0x01, 0x81, 0x81]) →
        outcome = (.error (.noReset 256), { h with state := .failed, attempts := 256 }) ∧
          asked = .clear :: (List.replicate 256 [.send [0x00], .receive 3 timeout]).flatten ∧
          after = afterReads timeout 256 (missedRecords s.incoming 0 256 ++ [.gaveUp 256]) s) ∧
      ∀ (h' : Handshake) (stale : List UInt8),
        let other := (({ s with stale } : Scripted).run (h'.run timeout)).1
        other.1 = outcome.1 ∧ other.2.state = outcome.2.state ∧
          other.2.attempts = outcome.2.attempts := by
  refine ⟨?_, ?_, ?_⟩
  · intro k hk hack hmissed
    have hrun := run_of_ack hfaults (Nat.lt_succ_of_le hk) hack hmissed h timeout
    obtain ⟨hresult, hasked⟩ := hrun.eq_of_done
    exact ⟨congrArg Prod.fst hresult, hasked, congrArg Prod.snd hresult⟩
  · intro hnone
    have hmissed : ∀ j < maxAttempts, group s.incoming j ≠ ack := by
      intro j hj
      exact hnone j (Nat.le_of_lt_succ hj)
    obtain ⟨hresult, hasked⟩ := (run_of_no_ack hfaults hmissed h timeout).eq_of_done
    exact ⟨congrArg Prod.fst hresult, hasked, congrArg Prod.snd hresult⟩
  · intro h' stale
    exact run_outcome_eq (t := { s with stale }) hfaults hfaults rfl h h' timeout timeout

/-- A handshake that failed before, an acknowledgement among the stale bytes, which does not count, then
a shifted one, and a good one at last: the second group is read as the acknowledgement. -/
theorem run_decided_by_second_group :
    let s : Scripted :=
      { stale := [0x01, 0x81, 0x81], incoming := [0x81, 0x01, 0x81, 0x01, 0x81, 0x81, 0x02, 0x80] }
    let h : Handshake := { state := .failed, attempts := 256, interval := 7 }
    (s.run (h.run 20)).1 = (.ok (), { h with state := .ready, attempts := 1 }) ∧
      (s.run (h.run 20)).2.incoming = [0x02, 0x80] := by
  intro s h
  have hack : group s.incoming 1 = [0x01, 0x81, 0x81] := rfl
  have hmissed : ∀ j < 1, group s.incoming j ≠ [0x01, 0x81, 0x81] := by decide
  obtain ⟨houtcome, -, hafter⟩ :=
    (run_decided_by_first_ack (s := s) rfl h 20).1 1 (by decide) hack hmissed
  have hincoming := congrArg Scripted.incoming hafter
  exact ⟨houtcome, hincoming⟩

end Handshake
end BadgeLink
