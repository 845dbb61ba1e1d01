import BadgeLink.Proofs.Shared.Interleaving

/-!
# Taking turns is working one after the other

However the turns of the clients are mixed, the link and the outcomes are those of carrying out the
sections one after the other, in the order in which the lock was granted.  The steps of a section may lie
far apart, but nobody else uses the link in between.  So a state in the middle of a section can be
compared to the state that its holder would leave if it were alone, and no request changes that state.
-/

namespace BadgeLink

variable {ι σ : Type}

/-- A link with what the operations of each client have yielded on it. -/
structure Served (ι σ : Type) where
  line : σ
  outcomes : ι → List (Except Error Reply)

/-- Nobody has been served yet. -/
def Served.none (s : σ) : Served ι σ where
  line := s
  outcomes _ := []

variable [DecidableEq ι]

/-- A section of a client has come to its end. -/
def Served.record (served : Served ι σ) (i : ι) (result : List (Except Error Reply) × σ) :
    Served ι σ where
  line := result.2
  outcomes := Function.update served.outcomes i (served.outcomes i ++ result.1)

/-- A badge that is not shared carries out whole sections, one after the other. -/
def Badge.serve
    (badge : Badge) (link : Link (StateM σ)) (visits : List (Visit ι)) (served : Served ι σ) :
    Served ι σ :=
  visits.foldl
    (fun before visit =>
      before.record visit.client ((badge.performAll visit.operations).overLink link before.line))
    served

theorem Badge.serve_concat
    (badge : Badge) (link : Link (StateM σ)) (visits : List (Visit ι)) (visit : Visit ι)
    (served : Served ι σ) :
    badge.serve link (visits ++ [visit]) served =
      (badge.serve link visits served).record visit.client
        ((badge.performAll visit.operations).overLink link
          (badge.serve link visits served).line) := by
  rw [serve, List.foldl_append]
  rfl

/-- The sections among some visits that are a client's own. -/
def sectionsOf (i : ι) (visits : List (Visit ι)) : List (List Operation) :=
  (visits.filter fun visit => visit.client = i).map Visit.operations

theorem sectionsOf_concat (i : ι) (visits : List (Visit ι)) (visit : Visit ι) :
    sectionsOf i (visits ++ [visit]) =
      sectionsOf i visits ++ if visit.client = i then [visit.operations] else [] := by
  unfold sectionsOf
  by_cases hi : visit.client = i
  · simp [hi]
  · simp [hi]

namespace Sharing

variable {link : Link (StateM σ)} {w w' : Sharing ι σ} {i : ι}

/-! ## What a holder would leave -/

/-- What the sections that have come to their end have made of the link and the clients. -/
def served (w : Sharing ι σ) : Served ι σ where
  line := w.line
  outcomes i := (w.clients i).outcomes

/-- What there will be when the holder of the lock has finished its section, if nobody else takes a
step. -/
def settled (link : Link (StateM σ)) (w : Sharing ι σ) : Served ι σ :=
  match w.holder with
  | none => w.served
  | some i =>
    match (w.clients i).inside with
    | none => w.served
    | some rest => w.served.record i (rest.overLink link w.line)

theorem settled_of_free (hfree : w.holder = none) (link : Link (StateM σ)) :
    w.settled link = w.served := by
  rw [settled, hfree]

theorem settled_of_inside
    (hholder : w.holder = some i) {rest : Dialogue (List (Except Error Reply))}
    (hinside : (w.clients i).inside = some rest) :
    w.settled link = w.served.record i (rest.overLink link w.line) := by
  simp only [settled, hholder, hinside]

theorem outcomes_enter
    (i : ι) (operations : List Operation) (rest : List (List Operation)) (j : ι) :
    ((w.enter i operations rest).clients j).outcomes = (w.clients j).outcomes := by
  apply Client.apply_update_of_eq Client.outcomes
  rfl

theorem outcomes_proceed (rest : Dialogue (List (Except Error Reply))) (j : ι) :
    ((w.proceed link i rest).clients j).outcomes = (w.clients j).outcomes := by
  apply Client.apply_update_of_eq Client.outcomes
  rfl

/-- Where the lock is granted, the whole section is still to come. -/
theorem settled_enter
    (hfree : w.holder = none) (i : ι) (operations : List Operation) (rest : List (List Operation)) :
    (w.enter i operations rest).settled link =
      (w.settled link).record i
        ((w.shared.badge.performAll operations).overLink link (w.settled link).line) := by
  have hinside : ((w.enter i operations rest).clients i).inside =
      some (w.shared.badge.performAll operations) := by
    simp [enter, SharedBadge.lock]
  have hserved : (w.enter i operations rest).served = w.served := by
    unfold served
    simp only [outcomes_enter]
    rfl
  rw [settled_of_inside rfl hinside, settled_of_free hfree, hserved]
  rfl

/-- A request of the holder is one of those that are to come anyway. -/
theorem settled_proceed
    (hholder : w.holder = some i) {rest : Dialogue (List (Except Error Reply))}
    (hinside : (w.clients i).inside = some rest) :
    (w.proceed link i rest).settled link = w.settled link := by
  have hholder' : (w.proceed link i rest).holder = some i := hholder
  have hline : (w.proceed link i rest).line = (rest.advance link w.line).2 := rfl
  rw [settled_of_inside hholder' (inside_proceed rest), settled_of_inside hholder hinside, hline,
    Dialogue.overLink_advance]
  simp only [Served.record, served, outcomes_proceed]

/-- Where the lock is dropped, nothing was to come any more. -/
theorem settled_leave
    {turn : Turn ι} (hholder : w.holder = some turn.client) {outcomes : List (Except Error Reply)}
    (hinside : (w.clients turn.client).inside = some (.done outcomes)) :
    (w.leave turn outcomes).settled link = w.settled link := by
  have hfree : (w.leave turn outcomes).holder = none := rfl
  rw [settled_of_free hfree, settled_of_inside hholder hinside, Dialogue.overLink_done]
  simp only [served, Served.record, Served.mk.injEq]
  refine ⟨rfl, ?_⟩
  funext j
  by_cases hj : j = turn.client
  · subst hj
    simp [leave]
  · simp [leave, Function.update_of_ne hj]

/-! ## The order of the lock -/

/-- The work that is done, and the section in progress if it were finished, is that of whole sections in
the order in which the lock was granted; the sections that have been begun are each client's first ones. -/
structure Serialized
    (link : Link (StateM σ)) (badge : Badge) (sections : ι → List (List Operation)) (s : σ)
    (w : Sharing ι σ) : Prop where
  exclusive : w.Exclusive
  badge_eq : w.shared.badge = badge
  settled_eq : w.settled link = badge.serve link w.visits (Served.none s)
  sections_eq : ∀ i, sections i = sectionsOf i w.visits ++ (w.clients i).pending

variable {badge : Badge} {sections : ι → List (List Operation)} {s : σ}

theorem serialized_start (shared : SharedBadge) :
    (start shared sections s).Serialized link shared.badge sections s where
  exclusive := exclusive_start shared sections s
  badge_eq := rfl
  settled_eq := rfl
  sections_eq _ := rfl

theorem Serialized.enter
    (h : w.Serialized link badge sections s) (hfree : w.holder = none)
    {operations : List Operation} {rest : List (List Operation)}
    (hpending : (w.clients i).pending = operations :: rest) :
    (w.enter i operations rest).Serialized link badge sections s where
  exclusive := h.exclusive.enter hfree i operations rest
  badge_eq := h.badge_eq
  settled_eq := by
    rw [settled_enter hfree, h.settled_eq, h.badge_eq]
    exact (badge.serve_concat link w.visits { client := i, operations } _).symm
  sections_eq := by
    intro j
    have hvisits : (w.enter i operations rest).visits =
        w.visits ++ [{ client := i, operations }] := rfl
    rw [hvisits, sectionsOf_concat, h.sections_eq j]
    by_cases hj : j = i
    · subst hj
      simp [Sharing.enter, hpending]
    · simp [Sharing.enter, Function.update_of_ne hj, Ne.symm hj]

theorem Serialized.moves
    {turn : Turn ι} (h : w.Serialized link badge sections s) (hmoves : Moves link w turn w') :
    w'.Serialized link badge sections s := by
  have hexclusive := h.exclusive.moves hmoves
  cases hmoves with
  | enter operations rest houtside hfree hpending => exact h.enter hfree hpending
  | proceed rest hinside =>
      have hholder := h.exclusive.holder_eq hinside
      refine ⟨hexclusive, h.badge_eq, ?_, ?_⟩
      · rw [settled_proceed hholder hinside]
        exact h.settled_eq
      · intro j
        rw [pending_proceed]
        exact h.sections_eq j
  | leave outcomes hinside =>
      have hholder := h.exclusive.holder_eq hinside
      refine ⟨hexclusive, ?_, ?_, ?_⟩
      · rw [← h.badge_eq, leave]
        split <;> rfl
      · rw [settled_leave hholder hinside]
        exact h.settled_eq
      · intro j
        rw [pending_leave]
        exact h.sections_eq j
  | wait => exact h

theorem Serialized.run (h : w.Serialized link badge sections s) (turns : List (Turn ι)) :
    (w.run link turns).Serialized link badge sections s := by
  induction turns generalizing w with
  | nil => exact h
  | cons turn rest ih => exact ih (h.moves (moves_step link w turn))

/-- While nobody holds the lock, the link and the outcomes are those of a badge that is not shared. -/
theorem Serialized.served_eq
    (h : w.Serialized link badge sections s) (hfree : w.holder = none) :
    w.served = badge.serve link w.visits (Served.none s) := by
  rw [← settled_of_free hfree link]
  exact h.settled_eq

end Sharing
end BadgeLink
