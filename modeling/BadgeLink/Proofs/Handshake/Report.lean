import BadgeLink.Proofs.Handshake.Attempts

/-!
# What a handshake reports

A handshake that is run several times reports a state and a number of failed attempts.  They describe the
latest run that has started, which is to say that discarding the stale bytes and sending the first reset
have both succeeded.  A run that ends before that leaves the state as it was: a handshake can report that
the device is ready although its latest run has failed.
-/

namespace BadgeLink
namespace Handshake

variable {α σ : Type} {link : Link (StateM σ)} {s : σ}

/-! ## Reads that were not the acknowledgement -/

/-- A request to read that was answered, and not by the acknowledgement. -/
def missed (link : Link (StateM σ)) : Ask × σ → Bool
  | (.receive count timeout, before) =>
    match (link.receive count timeout before).1 with
    | .ok got => decide (got ≠ ack)
    | .error _ => false
  | _ => false

/-- How many reads of a dialogue were completed without the acknowledgement. -/
def missedReads (link : Link (StateM σ)) (d : Dialogue α) (s : σ) : Nat :=
  (d.asks link s).countP (missed link)

theorem missedReads_send (bytes : List UInt8) (next : Except LinkFault Unit → Dialogue α) :
    missedReads link (.send bytes next) s =
      missedReads link (next (link.send bytes s).1) (link.send bytes s).2 :=
  List.countP_cons_of_neg Bool.false_ne_true

theorem missedReads_clear (next : Except LinkFault Unit → Dialogue α) :
    missedReads link (.clear next) s =
      missedReads link (next (link.clear s).1) (link.clear s).2 :=
  List.countP_cons_of_neg Bool.false_ne_true

theorem missedReads_receive_of_missed
    {count timeout : Nat} {got : List UInt8}
    (hread : (link.receive count timeout s).1 = .ok got) (hgot : got ≠ ack)
    (next : Except LinkFault (List UInt8) → Dialogue α) :
    missedReads link (.receive count timeout next) s =
      missedReads link (next (.ok got)) (link.receive count timeout s).2 + 1 := by
  have hmissed : missed link (.receive count timeout, s) = true := by
    rw [missed, hread]
    exact decide_eq_true hgot
  rw [missedReads, Dialogue.asks, List.countP_cons_of_pos hmissed, hread]
  rfl

theorem missedReads_receive_of_not_missed
    {count timeout : Nat} {answer : Except LinkFault (List UInt8)}
    (hread : (link.receive count timeout s).1 = answer) (hanswer : ∀ got, answer = .ok got → got = ack)
    (next : Except LinkFault (List UInt8) → Dialogue α) :
    missedReads link (.receive count timeout next) s =
      missedReads link (next answer) (link.receive count timeout s).2 := by
  have hmissed : ¬missed link (.receive count timeout, s) = true := by
    rw [missed, hread]
    cases answer with
    | error fault => exact Bool.false_ne_true
    | ok got => simp [hanswer got rfl]
  rw [missedReads, Dialogue.asks, List.countP_cons_of_neg hmissed, hread]
  rfl

/-! ## Reports -/

/-- A handshake says of a run that ended in `outcome` how it has ended, and that `count` of its reads
were not the acknowledgement. -/
structure Reports (h : Handshake) (outcome : Except Error Unit) (count : Nat) : Prop where
  ready : h.state = .ready ↔ outcome = .ok ()
  failed : h.state = .failed ↔ ∃ attempts, outcome = .error (.noReset attempts)
  attempts : h.attempts = count

theorem reports_of_ready {h : Handshake} (hstate : h.state = .ready) :
    h.Reports (.ok ()) h.attempts :=
  ⟨by simp [hstate], by simp [hstate], rfl⟩

theorem reports_of_failed {h : Handshake} (hstate : h.state = .failed) (attempts : Nat) :
    h.Reports (.error (.noReset attempts)) h.attempts :=
  ⟨by simp [hstate], by simp [hstate], rfl⟩

theorem reports_of_awaitingAck {h : Handshake} (hstate : h.state = .awaitingAck) (fault : LinkFault) :
    h.Reports (.error (.link fault)) h.attempts :=
  ⟨by simp [hstate], by simp [hstate], rfl⟩

/-- The rest of a run ends with a report of the whole run, if `count` reads have missed before. -/
def EndsInReport
    (link : Link (StateM σ)) (count : Nat) (d : Dialogue (Except Error Unit × Handshake)) (s : σ) :
    Prop :=
  let result := (d.overLink link s).1
  result.2.Reports result.1 (count + missedReads link d s)

theorem endsInReport_send
    {count : Nat} {bytes : List UInt8}
    {next : Except LinkFault Unit → Dialogue (Except Error Unit × Handshake)}
    (h : EndsInReport link count (next (link.send bytes s).1) (link.send bytes s).2) :
    EndsInReport link count (.send bytes next) s := by
  rw [EndsInReport, missedReads_send, Dialogue.overLink_send]
  exact h

theorem endsInReport_clear
    {count : Nat} {next : Except LinkFault Unit → Dialogue (Except Error Unit × Handshake)}
    (h : EndsInReport link count (next (link.clear s).1) (link.clear s).2) :
    EndsInReport link count (.clear next) s := by
  rw [EndsInReport, missedReads_clear, Dialogue.overLink_clear]
  exact h

theorem endsInReport_note
    {count : Nat} {record : Record} {next : Dialogue (Except Error Unit × Handshake)}
    (h : EndsInReport link count next (link.note record s).2) :
    EndsInReport link count (.note record next) s :=
  h

theorem endsInReport_receive_of_missed
    {count size timeout : Nat} {got : List UInt8}
    {next : Except LinkFault (List UInt8) → Dialogue (Except Error Unit × Handshake)}
    (hread : (link.receive size timeout s).1 = .ok got) (hgot : got ≠ ack)
    (h : EndsInReport link (count + 1) (next (.ok got)) (link.receive size timeout s).2) :
    EndsInReport link count (.receive size timeout next) s := by
  have hcount (n : Nat) : count + (n + 1) = count + 1 + n := by omega
  rw [EndsInReport, missedReads_receive_of_missed hread hgot, Dialogue.overLink_receive, hread,
    hcount]
  exact h

theorem endsInReport_receive_of_not_missed
    {count size timeout : Nat} {answer : Except LinkFault (List UInt8)}
    {next : Except LinkFault (List UInt8) → Dialogue (Except Error Unit × Handshake)}
    (hread : (link.receive size timeout s).1 = answer) (hanswer : ∀ got, answer = .ok got → got = ack)
    (h : EndsInReport link count (next answer) (link.receive size timeout s).2) :
    EndsInReport link count (.receive size timeout next) s := by
  rw [EndsInReport, missedReads_receive_of_not_missed hread hanswer, Dialogue.overLink_receive, hread]
  exact h

/-! ## One run -/

/-- While it awaits the acknowledgement, a handshake keeps up with the reads. -/
theorem awaitAck_endsInReport
    (left timeout : Nat) {h : Handshake} (hstate : h.state = .awaitingAck) (s : σ) :
    EndsInReport link h.attempts (awaitAck timeout left h) s := by
  induction left generalizing h s with
  | zero => exact reports_of_failed rfl h.attempts
  | succ left ih =>
      rw [awaitAck]
      cases hread : (link.receive ack.length timeout s).1 with
      | error fault =>
          have hfault : ∀ got, Except.error fault = .ok got → got = ack := by
            intro got hgot
            cases hgot
          apply endsInReport_receive_of_not_missed hread hfault
          exact reports_of_awaitingAck hstate fault
      | ok got =>
          by_cases hgot : got = ack
          · apply endsInReport_receive_of_not_missed hread (by simp [hgot])
            simp only [if_pos hgot]
            exact reports_of_ready rfl
          · apply endsInReport_receive_of_missed hread hgot
            simp only [if_neg hgot]
            by_cases hlast : left = 0
            · simp only [if_pos hlast]
              exact reports_of_failed rfl _
            · simp only [if_neg hlast]
              apply endsInReport_note
              apply endsInReport_send
              split
              · exact reports_of_awaitingAck (h := { h with attempts := h.attempts + 1 }) hstate _
              · exact ih (h := { h with attempts := h.attempts + 1 }) hstate _

/-- Discarding the stale bytes and sending the first reset both succeed. -/
def Starts (link : Link (StateM σ)) (s : σ) : Prop :=
  (link.clear s).1 = .ok () ∧
    (link.send resetBytes (link.note (.sent resetBytes) (link.clear s).2).2).1 = .ok ()

/-- A run that starts ends with a report of itself. -/
theorem run_endsInReport (hstarts : Starts link s) (h : Handshake) (timeout : Nat) :
    EndsInReport link 0 (h.run timeout) s := by
  apply endsInReport_clear
  rw [hstarts.1]
  apply endsInReport_note
  apply endsInReport_send
  rw [hstarts.2]
  exact awaitAck_endsInReport maxAttempts timeout
    (h := { h with state := .awaitingAck, attempts := 0 }) rfl _

theorem run_of_clear_fault
    {fault : LinkFault} (hclear : (link.clear s).1 = .error fault) (h : Handshake) (timeout : Nat) :
    ((h.run timeout).overLink link s).1 = (.error (.link fault), h) := by
  rw [run, Dialogue.overLink_clear, hclear]
  rfl

theorem run_of_send_fault
    {fault : LinkFault} (hclear : (link.clear s).1 = .ok ())
    (hsend : (link.send resetBytes (link.note (.sent resetBytes) (link.clear s).2).2).1 =
      .error fault)
    (h : Handshake) (timeout : Nat) :
    ((h.run timeout).overLink link s).1 = (.error (.link fault), { h with attempts := 0 }) := by
  rw [run, Dialogue.overLink_clear, hclear]
  dsimp only
  rw [Dialogue.overLink_note, Dialogue.overLink_send, hsend]
  rfl

/-- A run that does not start fails with a fault of the link.  It leaves the state alone, and the
attempts as well if it could not even discard the stale bytes. -/
theorem run_of_not_starts (hstarts : ¬Starts link s) (h : Handshake) (timeout : Nat) :
    (∃ fault, ((h.run timeout).overLink link s).1.1 = .error (.link fault)) ∧
      ((link.clear s).1 ≠ .ok () → ((h.run timeout).overLink link s).1.2 = h) ∧
      ((link.clear s).1 = .ok () →
        ((h.run timeout).overLink link s).1.2 = { h with attempts := 0 }) := by
  cases hclear : (link.clear s).1 with
  | error fault =>
      rw [run_of_clear_fault hclear]
      exact ⟨⟨fault, rfl⟩, fun _ => rfl, nofun⟩
  | ok done =>
      cases hsend : (link.send resetBytes (link.note (.sent resetBytes) (link.clear s).2).2).1 with
      | error fault =>
          rw [run_of_send_fault hclear hsend]
          exact ⟨⟨fault, rfl⟩, fun hne => absurd rfl hne, fun _ => rfl⟩
      | ok sent => exact absurd ⟨hclear, hsend⟩ hstarts

/-! ## One run after the other -/

/-- A handshake after several runs, each with a timeout of its own and over a link in some state. -/
def afterRuns (link : Link (StateM σ)) (h : Handshake) (runs : List (Nat × σ)) : Handshake :=
  runs.foldl (fun before call => ((before.run call.1).overLink link call.2).1.2) h

theorem afterRuns_append (h : Handshake) (earlier later : List (Nat × σ)) :
    h.afterRuns link (earlier ++ later) = (h.afterRuns link earlier).afterRuns link later :=
  List.foldl_append

/-- Runs that do not start leave the state of a handshake alone.  They keep the attempts until one of
them gets as far as to discard the stale bytes. -/
theorem afterRuns_of_not_starts
    {runs : List (Nat × σ)} (hruns : ∀ call ∈ runs, ¬Starts link call.2) (h : Handshake) :
    (h.afterRuns link runs).state = h.state ∧
      ((∀ call ∈ runs, (link.clear call.2).1 ≠ .ok ()) →
        (h.afterRuns link runs).attempts = h.attempts) ∧
      ((∃ call ∈ runs, (link.clear call.2).1 = .ok ()) → (h.afterRuns link runs).attempts = 0) := by
  induction runs generalizing h with
  | nil => exact ⟨rfl, fun _ => rfl, nofun⟩
  | cons call rest ih =>
      obtain ⟨hcall, hrest⟩ := List.forall_mem_cons.mp hruns
      obtain ⟨-, hkept, hzero⟩ := run_of_not_starts hcall h call.1
      obtain ⟨hstate, hsame, hlost⟩ := ih hrest ((h.run call.1).overLink link call.2).1.2
      rw [afterRuns, List.foldl_cons]
      by_cases hclear : (link.clear call.2).1 = .ok ()
      · rw [hzero hclear] at hstate hsame hlost ⊢
        refine ⟨hstate, ?_, ?_⟩
        · intro hnone
          exact absurd hclear (hnone call List.mem_cons_self)
        · intro _
          by_cases hlater : ∃ later ∈ rest, (link.clear later.2).1 = .ok ()
          · exact hlost hlater
          · exact hsame fun later hmem hok => hlater ⟨later, hmem, hok⟩
      · rw [hkept hclear] at hstate hsame hlost ⊢
        refine ⟨hstate, ?_, ?_⟩
        · intro hnone
          exact hsame fun later hmem => hnone later (List.mem_cons_of_mem call hmem)
        · rintro ⟨later, hmem, hok⟩
          rcases List.mem_cons.mp hmem with rfl | hmem
          · exact absurd hok hclear
          · exact hlost ⟨later, hmem, hok⟩

/-- After any runs, state and attempts are those of the latest run that has started: the handshake is
ready exactly if that run has succeeded, and failed exactly if it has given up.  The runs since then,
none of which has started, are not reported at all, although all of them have failed; the attempts are
forgotten once one of them has discarded the stale bytes. -/
theorem afterRuns_reports_latest_start
    (h : Handshake) (earlier : List (Nat × σ)) (timeout : Nat) (hstarts : Starts link s)
    {later : List (Nat × σ)} (hlater : ∀ call ∈ later, ¬Starts link call.2) :
    let before := h.afterRuns link earlier
    let outcome := ((before.run timeout).overLink link s).1.1
    let after := h.afterRuns link (earlier ++ (timeout, s) :: later)
    (after.state = .ready ↔ outcome = .ok ()) ∧
      (after.state = .failed ↔ ∃ attempts, outcome = .error (.noReset attempts)) ∧
      ((∀ call ∈ later, (link.clear call.2).1 ≠ .ok ()) →
        after.attempts = missedReads link (before.run timeout) s) ∧
      ((∃ call ∈ later, (link.clear call.2).1 = .ok ()) → after.attempts = 0) ∧
      ∀ call ∈ later, ∀ h' : Handshake,
        ∃ fault, ((h'.run call.1).overLink link call.2).1.1 = .error (.link fault) := by
  dsimp only
  rw [afterRuns_append, afterRuns, List.foldl_cons]
  obtain ⟨hstate, hkept, hlost⟩ := afterRuns_of_not_starts hlater
    (((h.afterRuns link earlier).run timeout).overLink link s).1.2
  obtain ⟨hready, hfailed, hattempts⟩ :=
    run_endsInReport hstarts (h.afterRuns link earlier) timeout
  rw [afterRuns] at hstate hkept hlost
  rw [hstate]
  refine ⟨hready, hfailed, ?_, hlost, ?_⟩
  · intro hnone
    rw [hkept hnone, hattempts, Nat.zero_add]
  · intro call hmem h'
    exact (run_of_not_starts (hlater call hmem) h' call.1).1

/-- A handshake that has succeeded at its second read and is run again over a link that cannot discard
its stale bytes: the new run fails without any read, and still the handshake reports that the device is
ready after one failed attempt. -/
theorem ready_after_faulty_run :
    let earlier : List (Nat × Scripted) := [(0, { incoming := [0xde, 0xad, 0xbe, 0x01, 0x81, 0x81] })]
    let s : Scripted := { faults := [{ call := .clear, skip := 0, message := "gone" }] }
    let before := ({} : Handshake).afterRuns Scripted.link earlier
    let result := (s.run (before.run 0)).1
    result.1 = .error (.link (.io "gone")) ∧ result.2.state = .ready ∧ result.2.attempts = 1 ∧
      missedReads Scripted.link (before.run 0) s = 0 ∧
      ¬result.2.Reports result.1 (missedReads Scripted.link (before.run 0) s) := by
  intro earlier s before result
  have hbefore : before = { state := .ready, attempts := 1 } := by decide +kernel
  have hclear : (Scripted.link.clear s).1 = .error (.io "gone") := rfl
  have hresult : result = (.error (.link (.io "gone")), before) :=
    run_of_clear_fault hclear before 0
  have hcount : missedReads Scripted.link (before.run 0) s = 0 := by decide +kernel
  rw [hcount, hresult, hbefore]
  refine ⟨rfl, rfl, rfl, rfl, ?_⟩
  intro hreports
  exact absurd hreports.attempts Nat.one_ne_zero

/-- Between a run that succeeds at its second read and two that end before their first reset is sent, the
report stays that of the first, but for the attempts. -/
theorem afterRuns_reports_first_of_three :
    let s : Scripted := { incoming := [0xde, 0xad, 0xbe, 0x01, 0x81, 0x81] }
    let later : List (Nat × Scripted) :=
      [(0, { faults := [{ call := .clear, skip := 0, message := "gone" }] }),
        (0, { faults := [{ call := .send, skip := 0, message := "gone" }] })]
    let after := ({} : Handshake).afterRuns Scripted.link ([] ++ (0, s) :: later)
    after.state = .ready ∧ after.attempts = 0 := by
  intro s later after
  have hstarts : Starts Scripted.link s := ⟨rfl, rfl⟩
  have hlater : ∀ call ∈ later, ¬Starts Scripted.link call.2 := by
    intro call hmem
    rcases List.mem_cons.mp hmem with rfl | hmem
    · exact fun hcall => nomatch hcall.1
    · obtain rfl := List.mem_singleton.mp hmem
      exact fun hcall => nomatch hcall.2
  have hmissed : ∀ j < 1, group s.incoming j ≠ ack := by decide
  have hfirst := run_of_ack (s := s) rfl (by decide) rfl hmissed {} 0
  have houtcome : (((({} : Handshake).afterRuns Scripted.link []).run 0).overLink Scripted.link s).1.1 =
      .ok () := by
    rw [afterRuns, List.foldl_nil, hfirst.eq_of_done.1]
  obtain ⟨hready, -, -, hlost, -⟩ := afterRuns_reports_latest_start {} [] 0 hstarts hlater
  refine ⟨hready.mpr houtcome, hlost ?_⟩
  exact ⟨_, List.mem_cons_of_mem _ List.mem_cons_self, rfl⟩

end Handshake
end BadgeLink
