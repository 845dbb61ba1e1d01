import BadgeLink.Proofs.Link.Planned

/-!
# Runs that end in a fault

A dialogue that stops at the first fault runs over a link with planned faults as it would over the same
link without any, up to the request at which the first fault is due.  So both runs can be told from each
other only there, and by what the planned faults still skip.
-/

namespace BadgeLink

/-- The kind of a request. -/
def Ask.call : Ask → Call
  | send _ => .send
  | receive _ _ => .receive
  | clear => .clear

namespace Scripted

open PlannedFault (worn worn_nil worn_cons Passed passed_cons Due passed_or_due consult_of_passed
  consult_of_due)

variable {α β : Type} {d : Dialogue (Except Error α)} {ask : Ask}

/-- The link without its planned faults. -/
def working (s : Scripted) : Scripted :=
  { s with faults := [] }

/-- What a request that fails leaves of a link: all as it was, but the attempt to read is recorded. -/
def tried : Ask → Scripted → Scripted
  | .receive count timeout, s => { s with reads := s.reads ++ [(count, timeout)] }
  | .send _, s => s
  | .clear, s => s

/-! ## One request -/

/-- A request over a link heeds the planned faults: it does what it does without them, and they come
closer, or the one that is due comes and is used up. -/
structure Heeds (ask : Ask) (request : Scripted → Except LinkFault β × Scripted) : Prop where
  passed : ∀ s, Passed s.faults [ask.call] →
    ∃ answer after, request s = (.ok answer, after) ∧ after.faults = worn [ask.call] s.faults ∧
      request s.working = (.ok answer, after.working)
  due : ∀ s fault, Due s.faults [] ask.call fault →
    request s =
      (.error (.io fault.message),
        { s.tried ask with faults := s.faults.eraseP (·.call = ask.call) })

theorem faults_tried (ask : Ask) (s : Scripted) : (s.tried ask).faults = s.faults := by
  cases ask <;> rfl

theorem tried_working (ask : Ask) (s : Scripted) : s.working.tried ask = (s.tried ask).working := by
  cases ask <;> rfl

theorem attempt_of_passed
    {call : Call} {s : Scripted} (h : Passed s.faults [call]) (request : Scripted → β × Scripted) :
    attempt call request s =
      (.ok (request { s with faults := worn [call] s.faults }).1,
        (request { s with faults := worn [call] s.faults }).2) := by
  rw [attempt, consult_of_passed h]

theorem attempt_of_due
    {call : Call} {fault : PlannedFault} {s : Scripted} (h : Due s.faults [] call fault)
    (request : Scripted → β × Scripted) :
    attempt call request s =
      (.error (.io fault.message), { s with faults := s.faults.eraseP (·.call = call) }) := by
  rw [attempt, consult_of_due h]

/-- Whatever does not look at the planned faults heeds them if it is attempted. -/
theorem heeds_attempt
    {ask : Ask} (f : Scripted → β × Scripted)
    (hf : ∀ s faults, f { s with faults } = ((f s).1, { (f s).2 with faults })) :
    Heeds ask fun s => attempt ask.call f (s.tried ask) := by
  constructor
  · intro s hpassed
    rw [← faults_tried ask s] at hpassed
    refine ⟨_, _, attempt_of_passed hpassed f, ?_, ?_⟩
    · rw [hf, faults_tried]
    · rw [tried_working, attempt_of_no_faults rfl, working, hf (s.tried ask) [],
        hf (s.tried ask) (worn _ _)]
      rfl
  · intro s fault hdue
    rw [← faults_tried ask s] at hdue
    rw [attempt_of_due hdue, faults_tried]

theorem heeds_send (bytes : List UInt8) : Heeds (.send bytes) (link.send bytes) :=
  heeds_attempt (fun s => ((), { s with sent := s.sent ++ [bytes] })) fun _ _ => rfl

theorem heeds_receive (count timeout : Nat) :
    Heeds (.receive count timeout) (link.receive count timeout) :=
  heeds_attempt (take count) fun _ _ => rfl

theorem heeds_clear : Heeds .clear link.clear :=
  heeds_attempt (fun s => ((), { s with stale := [], clears := s.clears + 1 })) fun _ _ => rfl

/-! ## Whole runs -/

/-- The kinds of the requests of a run. -/
def calls (visits : List (Ask × Scripted)) : List Call :=
  visits.map fun visit => visit.1.call

@[simp]
theorem calls_nil : calls [] = [] :=
  rfl

@[simp]
theorem calls_cons (ask : Ask) (s : Scripted) (visits : List (Ask × Scripted)) :
    calls ((ask, s) :: visits) = ask.call :: calls visits :=
  rfl

theorem passed_or_due_visit (faults : List PlannedFault) (visits : List (Ask × Scripted)) :
    Passed faults (calls visits) ∨
      ∃ before ask reached later fault, visits = before ++ (ask, reached) :: later ∧
        Due faults (calls before) ask.call fault := by
  refine (passed_or_due faults (calls visits)).imp_right ?_
  rintro ⟨before, call, later, fault, hcalls, hdue⟩
  obtain ⟨first, rest, rfl, rfl, hrest⟩ := List.map_eq_append_iff.mp hcalls
  obtain ⟨⟨ask, reached⟩, rest', rfl, rfl, -⟩ := List.map_eq_cons_iff.mp hrest
  exact ⟨first, ask, reached, rest', fault, rfl, hdue⟩

/-- A run follows the one without faults until the first fault is due.  If all requests pass, it ends in the
same way; if a fault is due at one of them, this is its last, and it ends with the message of the fault in
the state of the other run at this request.  The planned faults have come closer by the requests that
passed, and the one that was due is used up. -/
structure FollowsUntilFault (d : Dialogue (Except Error α)) (s : Scripted) : Prop where
  decided : Passed s.faults (calls (d.asks link s.working)) ∨
    ∃ before ask reached later fault, d.asks link s.working = before ++ (ask, reached) :: later ∧
      Due s.faults (calls before) ask.call fault
  passed : Passed s.faults (calls (d.asks link s.working)) →
    (d.asks link s).map Prod.fst = (d.asks link s.working).map Prod.fst ∧
      d.overLink link s =
        ((d.overLink link s.working).1,
          { (d.overLink link s.working).2 with
            faults := worn (calls (d.asks link s.working)) s.faults })
  stopped : ∀ before ask reached later fault,
    d.asks link s.working = before ++ (ask, reached) :: later →
    Due s.faults (calls before) ask.call fault →
      (d.asks link s).map Prod.fst = before.map Prod.fst ++ [ask] ∧
        d.overLink link s =
          (.error (.link (.io fault.message)),
            { tried ask reached with
              faults := (worn (calls before) s.faults).eraseP (·.call = ask.call) })

/-- A dialogue begins with a request that heeds the planned faults, and ends with it if it fails. -/
structure Begins
    (d : Dialogue (Except Error α)) (ask : Ask)
    (request : Scripted → Except LinkFault β × Scripted)
    (next : Except LinkFault β → Dialogue (Except Error α)) : Prop where
  overLink_eq : ∀ s, d.overLink link s = (next (request s).1).overLink link (request s).2
  asks_eq : ∀ s, d.asks link s = (ask, s) :: (next (request s).1).asks link (request s).2
  heeds : Heeds ask request
  stops : ∀ fault, ∃ value, next (.error fault) = .done value ∧ value = .error (.link fault)

namespace Begins

variable {request : Scripted → Except LinkFault β × Scripted}
  {next : Except LinkFault β → Dialogue (Except Error α)}

/-- After a request that passes, the run goes on from where the one without faults does. -/
theorem exists_after
    (h : Begins d ask request next) {s : Scripted} (hpassed : Passed s.faults [ask.call]) :
    ∃ answer after, after.faults = worn [ask.call] s.faults ∧
      d.asks link s = (ask, s) :: (next (.ok answer)).asks link after ∧
      d.overLink link s = (next (.ok answer)).overLink link after ∧
      d.asks link s.working = (ask, s.working) :: (next (.ok answer)).asks link after.working ∧
      d.overLink link s.working = (next (.ok answer)).overLink link after.working := by
  obtain ⟨answer, after, hrequest, hfaults, hworking⟩ := h.heeds.passed s hpassed
  refine ⟨answer, after, hfaults, ?_, ?_, ?_, ?_⟩
  · rw [h.asks_eq, hrequest]
  · rw [h.overLink_eq, hrequest]
  · rw [h.asks_eq, hworking]
  · rw [h.overLink_eq, hworking]

theorem stops_at_once
    (h : Begins d ask request next) {s : Scripted} {fault : PlannedFault}
    (hdue : Due s.faults [] ask.call fault) :
    (d.asks link s).map Prod.fst = [ask] ∧
      d.overLink link s =
        (.error (.link (.io fault.message)),
          { s.tried ask with faults := s.faults.eraseP (·.call = ask.call) }) := by
  obtain ⟨_, hdone, rfl⟩ := h.stops (.io fault.message)
  rw [h.asks_eq, h.overLink_eq, h.heeds.due s fault hdue, hdone]
  exact ⟨rfl, rfl⟩

/-- A run follows the one without faults if it does so after its first request. -/
theorem followsUntilFault
    (h : Begins d ask request next) (hnext : ∀ answer s, FollowsUntilFault (next (.ok answer)) s)
    (s : Scripted) : FollowsUntilFault d s := by
  refine ⟨passed_or_due_visit _ _, ?_, ?_⟩
  · intro hpassed
    have hone : Passed s.faults [ask.call] := by
      rw [h.asks_eq, calls_cons] at hpassed
      exact (passed_cons.mp hpassed).1
    obtain ⟨answer, after, hfaults, hasked, hended, hasked', hended'⟩ := h.exists_after hone
    rw [hasked', calls_cons] at hpassed
    have hrest := (passed_cons.mp hpassed).2
    rw [← hfaults] at hrest
    obtain ⟨hlater, hend⟩ := (hnext answer after).passed hrest
    rw [hasked, hended, hasked', hended', calls_cons, worn_cons, ← hfaults]
    exact ⟨congrArg (List.cons ask) hlater, hend⟩
  · intro before ask' reached later fault hvisits hdue
    cases before with
    | nil =>
        -- The first request is the one that fails.
        rw [h.asks_eq] at hvisits
        obtain ⟨⟨rfl, rfl⟩, -⟩ : (ask = ask' ∧ s.working = reached) ∧ _ := by simpa using hvisits
        rw [calls_nil, worn_nil, tried_working]
        exact h.stops_at_once hdue
    | cons visit before =>
        obtain rfl : (ask, s.working) = visit := by
          rw [h.asks_eq] at hvisits
          exact (List.cons.inj hvisits).1
        rw [calls_cons] at hdue
        obtain ⟨hone, hrest⟩ := hdue.of_cons
        obtain ⟨answer, after, hfaults, hasked, hended, hasked', -⟩ := h.exists_after hone
        rw [hasked'] at hvisits
        rw [← hfaults] at hrest
        obtain ⟨hlater, hend⟩ :=
          (hnext answer after).stopped _ _ _ _ _ (List.cons.inj hvisits).2 hrest
        rw [hasked, hended, calls_cons, worn_cons, ← hfaults]
        exact ⟨congrArg (List.cons ask) hlater, hend⟩

end Begins

/-- Over every link, a dialogue that ends with the first fault follows its run without faults. -/
theorem followsUntilFault_of_stopsWith
    (hd : d.StopsWith fun fault outcome => outcome = .error (.link fault)) (s : Scripted) :
    FollowsUntilFault d s := by
  induction d generalizing s with
  | done value =>
      refine ⟨passed_or_due_visit _ _, ?_, ?_⟩
      · intro _
        rw [Dialogue.asks, Dialogue.asks, calls_nil, worn_nil]
        exact ⟨rfl, rfl⟩
      · intro before ask reached later fault hvisits _
        cases before <;> cases hvisits
  | send bytes next ih =>
      have hbegins : Begins (.send bytes next) _ _ next :=
        ⟨fun _ => rfl, fun _ => rfl, heeds_send bytes, hd.1⟩
      exact hbegins.followsUntilFault (fun answer => ih _ (hd.2 answer)) s
  | receive count timeout next ih =>
      have hbegins : Begins (.receive count timeout next) _ _ next :=
        ⟨fun _ => rfl, fun _ => rfl, heeds_receive count timeout, hd.1⟩
      exact hbegins.followsUntilFault (fun answer => ih _ (hd.2 answer)) s
  | clear next ih =>
      have hbegins : Begins (.clear next) _ _ next :=
        ⟨fun _ => rfl, fun _ => rfl, heeds_clear, hd.1⟩
      exact hbegins.followsUntilFault (fun answer => ih _ (hd.2 answer)) s
  | pause time next ih =>
      have hnext := ih hd s
      exact ⟨hnext.decided, hnext.passed, hnext.stopped⟩
  | note record next ih =>
      have hnext := ih hd { s with log := s.log ++ [record] }
      exact ⟨hnext.decided, hnext.passed, hnext.stopped⟩

end Scripted
end BadgeLink
