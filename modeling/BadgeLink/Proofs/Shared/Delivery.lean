import BadgeLink.Proofs.Badge.RoundTrip
import BadgeLink.Proofs.Shared.Serialization

/-!
# Every client gets its own answers

The lock makes the order in which the commands of several clients are sent that of the visits.  So where
the device answers in this order, each answer is taken by the operation that it belongs to: the outcomes
of a client are those of its own round trips.
-/

namespace BadgeLink

variable {ι : Type}

/-- The operations of a visit, each with the client that wants it. -/
def Visit.asked (visit : Visit ι) : List (ι × Operation) :=
  visit.operations.map fun operation => (visit.client, operation)

def RoundTrip.asked (trip : RoundTrip ι) : ι × Operation :=
  (trip.client, trip.operation)

theorem operations_of_asked
    {visit : Visit ι} {trips : List (RoundTrip ι)}
    (hasked : visit.asked = trips.map RoundTrip.asked) :
    visit.operations = trips.map RoundTrip.operation := by
  calc
    visit.operations = visit.asked.map Prod.snd := by simp [Visit.asked, Function.comp_def]
    _ = (trips.map RoundTrip.asked).map Prod.snd := by rw [hasked]
    _ = trips.map RoundTrip.operation := List.map_map

variable [DecidableEq ι]

/-- What a client's own round trips yield. -/
def outcomesOf (i : ι) (trips : List (RoundTrip ι)) : List (Except Error Reply) :=
  (trips.filter fun trip => trip.client = i).map RoundTrip.outcome

/-- The round trips of one visit all belong to its client. -/
theorem outcomesOf_visit
    {visit : Visit ι} {trips : List (RoundTrip ι)}
    (hasked : visit.asked = trips.map RoundTrip.asked) (i : ι) :
    outcomesOf i trips = if visit.client = i then trips.map RoundTrip.outcome else [] := by
  have hclient : ∀ trip ∈ trips, trip.client = visit.client := by
    intro trip hmem
    have hpair : trip.asked ∈ visit.asked := by
      rw [hasked]
      exact List.mem_map_of_mem hmem
    obtain ⟨operation, -, heq⟩ := List.mem_map.mp hpair
    exact (congrArg Prod.fst heq).symm
  rw [outcomesOf]
  split
  · rename_i hi
    rw [List.filter_eq_self.mpr]
    intro trip hmem
    exact decide_eq_true ((hclient trip hmem).trans hi)
  · rename_i hi
    rw [List.filter_eq_nil_iff.mpr, List.map_nil]
    intro trip hmem
    rw [hclient trip hmem]
    simpa using hi

theorem outcomesOf_append (i : ι) (trips more : List (RoundTrip ι)) :
    outcomesOf i (trips ++ more) = outcomesOf i trips ++ outcomesOf i more := by
  rw [outcomesOf, List.filter_append, List.map_append]
  rfl

/-- A visit adds the outcomes of its round trips to those of its client. -/
theorem outcomes_record
    {visit : Visit ι} {trips : List (RoundTrip ι)}
    (hasked : visit.asked = trips.map RoundTrip.asked) (served : Served ι Scripted)
    (line : Scripted) (i : ι) :
    (served.record visit.client (trips.map RoundTrip.outcome, line)).outcomes i =
      served.outcomes i ++ outcomesOf i trips := by
  rw [outcomesOf_visit hasked]
  by_cases hi : visit.client = i
  · subst hi
    simp [Served.record]
  · simp [Served.record, Function.update_of_ne (Ne.symm hi), hi]

/-- On a badge that is not shared, the sections of several clients take the answers to their own
operations. -/
theorem Badge.serve_of_fits
    {visits : List (Visit ι)} {trips : List (RoundTrip ι)}
    (hasked : visits.flatMap Visit.asked = trips.map RoundTrip.asked)
    (hfits : ∀ trip ∈ trips, trip.Fits) {served : Served ι Scripted}
    {frames : List (List UInt8)}
    (h : served.line.Holds (trips.map RoundTrip.answer ++ frames)) (badge : Badge) :
    let after := badge.serve Scripted.link visits served
    after.line.Holds frames ∧
      after.line.sent = served.line.sent ++ trips.flatMap RoundTrip.sent ∧
      ∀ i, after.outcomes i = served.outcomes i ++ outcomesOf i trips := by
  induction visits generalizing trips served with
  | nil =>
      obtain rfl : trips = [] := List.map_eq_nil_iff.mp hasked.symm
      exact ⟨h, (List.append_nil _).symm, fun i => (List.append_nil _).symm⟩
  | cons visit rest ih =>
      -- The round trips of the first visit come first, and take the answers in front.
      obtain ⟨own, others, rfl, hown, hothers⟩ := List.map_eq_append_iff.mp hasked.symm
      obtain ⟨hfitsOwn, hfitsOthers⟩ := List.forall_mem_append.mp hfits
      rw [List.map_append, List.append_assoc] at h
      obtain ⟨line, hperform, hholds, hsent⟩ := badge.performAll_overLink_of_fits hfitsOwn h
      rw [← operations_of_asked hown.symm] at hperform
      let between := served.record visit.client (own.map RoundTrip.outcome, line)
      have hbetween : between.line.Holds (others.map RoundTrip.answer ++ frames) := hholds
      have hline : between.line.sent = served.line.sent ++ own.flatMap RoundTrip.sent := hsent
      have hfirst : badge.serve Scripted.link (visit :: rest) served =
          badge.serve Scripted.link rest between := by
        rw [serve, List.foldl_cons, hperform]
        rfl
      obtain ⟨hleft, hlater, houtcomes⟩ := ih hothers.symm hfitsOthers hbetween
      rw [hfirst]
      refine ⟨hleft, ?_, ?_⟩
      · rw [hlater, hline, List.flatMap_append, List.append_assoc]
      · intro i
        rw [houtcomes i, outcomes_record hown.symm served line i, outcomesOf_append,
          List.append_assoc]

namespace Sharing

/-- Whatever turns the clients take, at most one of them is in a section, and each can still carry out all of
its own.  While nobody holds the lock, all is as if the sections had been carried out on a badge that is
not shared, in the order in which the lock was granted.  If the link held the answers in this order, each
client has the outcomes of its own round trips, and no answer is left over. -/
theorem run_serializes_and_delivers
    (shared : SharedBadge) (sections : ι → List (List Operation)) (turns : List (Turn ι)) :
    (∀ {σ : Type} (link : Link (StateM σ)) (s : σ),
      let w := (start shared sections s).run link turns
      let alone := shared.badge.serve link w.visits (Served.none s)
      (∀ i j, (w.clients i).inside ≠ none → (w.clients j).inside ≠ none → i = j) ∧
        (∀ i, ∃ more, (w.run link more).holder = none ∧ ((w.run link more).clients i).pending = []) ∧
        (w.holder = none →
          w.line = alone.line ∧
            ∀ i, (w.clients i).outcomes = alone.outcomes i ∧
              sections i = sectionsOf i w.visits ++ (w.clients i).pending)) ∧
      ∀ (s : Scripted) (trips : List (RoundTrip ι)) (later : List (List UInt8)),
        let w := (start shared sections s).run Scripted.link turns
        w.holder = none → w.visits.flatMap Visit.asked = trips.map RoundTrip.asked →
          (∀ trip ∈ trips, trip.Fits) → s.Holds (trips.map RoundTrip.answer ++ later) →
            w.line.Holds later ∧
              w.line.sent = s.sent ++ trips.flatMap RoundTrip.sent ∧
              ∀ i, (w.clients i).outcomes = outcomesOf i trips := by
  constructor
  · intro σ link s w alone
    have hserial : w.Serialized link shared.badge sections s := (serialized_start shared).run turns
    refine ⟨?_, hserial.exclusive.exists_turns_complete link, ?_⟩
    · intro i j hi hj
      have hholder := (hserial.exclusive i).mp hi
      rw [(hserial.exclusive j).mp hj] at hholder
      exact (Option.some.inj hholder).symm
    · intro hfree
      have hserved : w.served = alone := hserial.served_eq hfree
      refine ⟨congrArg Served.line hserved, ?_⟩
      intro i
      exact ⟨congrFun (congrArg Served.outcomes hserved) i, hserial.sections_eq i⟩
  · intro s trips later w hfree hasked hfits hholds
    have hserial : w.Serialized Scripted.link shared.badge sections s :=
      (serialized_start shared).run turns
    have hserved := hserial.served_eq hfree
    have hstart : (Served.none s : Served ι Scripted).line.Holds
        (trips.map RoundTrip.answer ++ later) := hholds
    obtain ⟨hleft, hsent, houtcomes⟩ := shared.badge.serve_of_fits hasked hfits hstart
    rw [← hserved] at hleft hsent houtcomes
    exact ⟨hleft, hsent, houtcomes⟩

/-- Two clients take turns on a badge whose lock is poisoned.  The second one resets the badge first and
dies when it drops the lock; the first one has to wait, and still gets its own answers, one of them a
refusal. -/
theorem run_delivers_after_death :
    let shared : SharedBadge := { badge := {}, poisoned := true }
    let sections (i : Fin 2) : List (List Operation) :=
      if i = 0 then [[.request (.uart [1]), .request (.i2cClock 0)]]
      else [[.init, .request (.uart [2])]]
    let s : Scripted := { incoming := [0x01, 0x81, 0x81, 2, 0x80, 0x42, 0xc2, 2, 0x80, 0x41, 0xc1, 7] }
    let turns : List (Turn (Fin 2)) :=
      (List.replicate 20 [{ client := 1, dies := true }, { client := 0 }]).flatten
    let w := (start shared sections s).run Scripted.link turns
    (w.clients 0).outcomes.map Except.toOption = [some (.bytes [0x41]), none] ∧
      (w.clients 1).outcomes.map Except.toOption = [some .done, some (.bytes [0x42])] ∧
      w.line.incoming = [7] ∧ w.line.sent = [[0x00], [2, 1, 2, 3], [2, 1, 1, 0]] := by
  intro shared sections s turns w
  let trips : List (RoundTrip (Fin 2)) :=
    [{ client := 1, operation := .init, answer := [0x01, 0x81, 0x81] },
      { client := 1, operation := .request (.uart [2]), answer := [2, 0x80, 0x42, 0xc2] },
      { client := 0, operation := .request (.uart [1]), answer := [2, 0x80, 0x41, 0xc1] },
      { client := 0, operation := .request (.i2cClock 0), answer := [] }]
  have hfits : ∀ trip ∈ trips, trip.Fits := by
    intro trip hmem
    simp only [trips, List.mem_cons, List.not_mem_nil, or_false] at hmem
    rcases hmem with rfl | rfl | rfl | rfl
    · rfl
    · exact ⟨fun _ => ⟨_, _, rfl, rfl⟩, fun hout => absurd (by decide) hout⟩
    · exact ⟨fun _ => ⟨_, _, rfl, rfl⟩, fun hout => absurd (by decide) hout⟩
    · exact ⟨fun hin => absurd hin (by decide), fun _ => rfl⟩
  have hfree : w.holder = none := by decide +kernel
  have hasked : w.visits.flatMap Visit.asked = trips.map RoundTrip.asked := by decide +kernel
  have hholds : s.Holds (trips.map RoundTrip.answer ++ [[7]]) := ⟨rfl, rfl, rfl⟩
  have hw : (start shared sections s).run Scripted.link turns = w := rfl
  have hdelivered :=
    (run_serializes_and_delivers shared sections turns).2 s trips [[7]] hfree hasked hfits hholds
  -- With the run under its name, comparing parts of it does not carry it out.
  rw [hw] at hdelivered
  obtain ⟨hleft, hsent, houtcomes⟩ := hdelivered
  rw [hsent, houtcomes 0, houtcomes 1]
  exact ⟨rfl, rfl, hleft.incoming, rfl⟩

end Sharing
end BadgeLink
