import BadgeLink.Shared
import BadgeLink.Proofs.Badge.Sequence
import Mathlib.Logic.Function.Basic

/-!
# Clients that take turns on a shared badge

Several clients share a badge, each with a list of critical sections that it wants to carry out.  A turn
lets one of them take one step: to take the lock, to make one request to the link, or to drop the lock.
The lock is granted only while nobody holds it; that is all that is assumed of it.  From this alone it
follows that the link is used only by the client that holds the lock.
-/

namespace BadgeLink

/-- A client, with the sections that it has not begun, what is left of the section that it is in, and the
outcomes of the sections that it has left. -/
structure Client where
  pending : List (List Operation)
  inside : Option (Dialogue (List (Except Error Reply))) := none
  outcomes : List (Except Error Reply) := []

/-- A change of one client that keeps something of it keeps this of all clients. -/
theorem Client.apply_update_of_eq
    {ι α : Type} [DecidableEq ι] (f : Client → α) {clients : ι → Client} {i : ι} {client : Client}
    (hsame : f client = f (clients i)) (j : ι) :
    f (Function.update clients i client j) = f (clients j) := by
  by_cases hj : j = i
  · subst hj
    rw [Function.update_self, hsame]
  · rw [Function.update_of_ne hj]

/-- A section for which the lock has been granted. -/
structure Visit (ι : Type) where
  client : ι
  operations : List Operation
  deriving DecidableEq

/-- A client takes a step.  If the step is to drop the lock, the client may die of it. -/
structure Turn (ι : Type) where
  client : ι
  dies : Bool := false

/-- Clients in the middle of their work on a shared badge, with the visits in the order in which the lock
was granted. -/
structure Sharing (ι σ : Type) where
  shared : SharedBadge
  clients : ι → Client
  holder : Option ι := none
  line : σ
  visits : List (Visit ι) := []

namespace Sharing

variable {ι σ : Type} {link : Link (StateM σ)} {w w' : Sharing ι σ} {i : ι}

def start (shared : SharedBadge) (sections : ι → List (List Operation)) (s : σ) : Sharing ι σ where
  shared
  clients i := { pending := sections i }
  line := s

/-- The client that is in a section is the one that holds the lock. -/
def Exclusive (w : Sharing ι σ) : Prop :=
  ∀ i, (w.clients i).inside ≠ none ↔ w.holder = some i

theorem exclusive_start (shared : SharedBadge) (sections : ι → List (List Operation)) (s : σ) :
    (start shared sections s).Exclusive := by
  intro i
  exact iff_of_false (not_not_intro rfl) nofun

theorem Exclusive.holder_eq
    (h : w.Exclusive) {rest : Dialogue (List (Except Error Reply))}
    (hinside : (w.clients i).inside = some rest) : w.holder = some i := by
  apply (h i).mp
  rw [hinside]
  exact Option.some_ne_none rest

theorem Exclusive.outside (h : w.Exclusive) (hholder : w.holder ≠ some i) :
    (w.clients i).inside = none := by
  by_contra hinside
  exact hholder ((h i).mp hinside)

theorem Exclusive.outside_of_free (h : w.Exclusive) (hfree : w.holder = none) (i : ι) :
    (w.clients i).inside = none := by
  apply h.outside
  rw [hfree]
  nofun

variable [DecidableEq ι]

/-! ## Turns -/

/-- The lock is granted, even if an earlier holder has died. -/
def enter (w : Sharing ι σ) (i : ι) (operations : List Operation) (rest : List (List Operation)) :
    Sharing ι σ :=
  { w with
    clients := Function.update w.clients i
      { w.clients i with pending := rest, inside := some (w.shared.lock.performAll operations) }
    holder := some i
    visits := w.visits ++ [{ client := i, operations }] }

/-- The holder of the lock makes one request. -/
def proceed
    (link : Link (StateM σ)) (w : Sharing ι σ) (i : ι)
    (rest : Dialogue (List (Except Error Reply))) : Sharing ι σ :=
  { w with
    clients := Function.update w.clients i
      { w.clients i with inside := some (rest.advance link w.line).1 }
    line := (rest.advance link w.line).2 }

/-- The holder of the lock drops it. -/
def leave (w : Sharing ι σ) (turn : Turn ι) (outcomes : List (Except Error Reply)) : Sharing ι σ :=
  { w with
    shared := if turn.dies then w.shared.poison else w.shared
    clients := Function.update w.clients turn.client
      { w.clients turn.client with
        inside := none
        outcomes := (w.clients turn.client).outcomes ++ outcomes }
    holder := none }

/-- What a turn makes of the clients.  A client that is not in a section waits while another holds the
lock, and does nothing if it has no section left. -/
def step (link : Link (StateM σ)) (w : Sharing ι σ) (turn : Turn ι) : Sharing ι σ :=
  match (w.clients turn.client).inside with
  | some (.done outcomes) => w.leave turn outcomes
  | some rest => w.proceed link turn.client rest
  | none =>
    match w.holder, (w.clients turn.client).pending with
    | none, operations :: rest => w.enter turn.client operations rest
    | _, _ => w

def run (link : Link (StateM σ)) (w : Sharing ι σ) (turns : List (Turn ι)) : Sharing ι σ :=
  turns.foldl (step link) w

@[simp]
theorem run_cons (turn : Turn ι) (turns : List (Turn ι)) :
    w.run link (turn :: turns) = (w.step link turn).run link turns :=
  rfl

theorem run_append (turns more : List (Turn ι)) :
    w.run link (turns ++ more) = (w.run link turns).run link more :=
  List.foldl_append

/-- The steps that a turn can be. -/
inductive Moves (link : Link (StateM σ)) (w : Sharing ι σ) (turn : Turn ι) : Sharing ι σ → Prop
  | enter (operations : List Operation) (rest : List (List Operation))
    (houtside : (w.clients turn.client).inside = none) (hfree : w.holder = none)
    (hpending : (w.clients turn.client).pending = operations :: rest) :
    Moves link w turn (w.enter turn.client operations rest)
  | proceed (rest : Dialogue (List (Except Error Reply)))
    (hinside : (w.clients turn.client).inside = some rest) :
    Moves link w turn (w.proceed link turn.client rest)
  | leave (outcomes : List (Except Error Reply))
    (hinside : (w.clients turn.client).inside = some (.done outcomes)) :
    Moves link w turn (w.leave turn outcomes)
  | wait : Moves link w turn w

theorem moves_step (link : Link (StateM σ)) (w : Sharing ι σ) (turn : Turn ι) :
    Moves link w turn (w.step link turn) := by
  unfold step
  split
  · exact .leave _ ‹_›
  · exact .proceed _ ‹_›
  · split
    · exact .enter _ _ ‹_› ‹_› ‹_›
    · exact .wait

/-! ## Mutual exclusion -/

theorem Exclusive.enter
    (h : w.Exclusive) (hfree : w.holder = none) (i : ι) (operations : List Operation)
    (rest : List (List Operation)) : (w.enter i operations rest).Exclusive := by
  intro j
  by_cases hj : j = i
  · subst hj
    simp [Sharing.enter]
  · have hother := h.outside_of_free hfree j
    simp [Sharing.enter, Function.update_of_ne hj, hother, Ne.symm hj]

theorem Exclusive.proceed
    (h : w.Exclusive) {rest : Dialogue (List (Except Error Reply))}
    (hinside : (w.clients i).inside = some rest) : (w.proceed link i rest).Exclusive := by
  intro j
  by_cases hj : j = i
  · subst hj
    simp [Sharing.proceed, h.holder_eq hinside]
  · simp [Sharing.proceed, Function.update_of_ne hj, h j]

theorem Exclusive.leave
    (h : w.Exclusive) {turn : Turn ι} {rest : Dialogue (List (Except Error Reply))}
    (hinside : (w.clients turn.client).inside = some rest) (outcomes : List (Except Error Reply)) :
    (w.leave turn outcomes).Exclusive := by
  intro j
  by_cases hj : j = turn.client
  · subst hj
    simp [Sharing.leave]
  · have hother : (w.clients j).inside = none := by
      apply h.outside
      rw [h.holder_eq hinside]
      exact fun heq => hj (Option.some.inj heq).symm
    simp [Sharing.leave, Function.update_of_ne hj, hother]

theorem Exclusive.moves {turn : Turn ι} (h : w.Exclusive) (hmoves : Moves link w turn w') :
    w'.Exclusive := by
  cases hmoves with
  | enter operations rest houtside hfree hpending => exact h.enter hfree _ operations rest
  | proceed rest hinside => exact h.proceed hinside
  | leave outcomes hinside => exact h.leave hinside outcomes
  | wait => exact h

theorem Exclusive.run (h : w.Exclusive) (turns : List (Turn ι)) : (w.run link turns).Exclusive := by
  induction turns generalizing w with
  | nil => exact h
  | cons turn rest ih => exact ih (h.moves (moves_step link w turn))

/-! ## Progress -/

@[simp]
theorem pending_proceed (rest : Dialogue (List (Except Error Reply))) (j : ι) :
    ((w.proceed link i rest).clients j).pending = (w.clients j).pending := by
  apply Client.apply_update_of_eq Client.pending
  rfl

@[simp]
theorem pending_leave (turn : Turn ι) (outcomes : List (Except Error Reply)) (j : ι) :
    ((w.leave turn outcomes).clients j).pending = (w.clients j).pending := by
  apply Client.apply_update_of_eq Client.pending
  rfl

theorem inside_proceed (rest : Dialogue (List (Except Error Reply))) :
    ((w.proceed link i rest).clients i).inside = some (rest.advance link w.line).1 := by
  simp [proceed]

theorem step_of_done {outcomes : List (Except Error Reply)}
    (hinside : (w.clients i).inside = some (.done outcomes)) :
    w.step link { client := i } = w.leave { client := i } outcomes := by
  simp only [step, hinside]

theorem step_of_not_done {rest : Dialogue (List (Except Error Reply))}
    (hinside : (w.clients i).inside = some rest) (hrest : ∀ outcomes, rest ≠ .done outcomes) :
    w.step link { client := i } = w.proceed link i rest := by
  cases rest with
  | done outcomes => exact absurd rfl (hrest outcomes)
  | _ => simp only [step, hinside]

theorem step_of_free {operations : List Operation} {rest : List (List Operation)}
    (houtside : (w.clients i).inside = none) (hfree : w.holder = none)
    (hpending : (w.clients i).pending = operations :: rest) (link : Link (StateM σ)) :
    w.step link { client := i } = w.enter i operations rest := by
  simp only [step, houtside, hfree, hpending]

/-- Turns after which the lock is free, without any new section begun. -/
def Frees (link : Link (StateM σ)) (w : Sharing ι σ) (turns : List (Turn ι)) : Prop :=
  (w.run link turns).holder = none ∧
    ∀ j, ((w.run link turns).clients j).pending = (w.clients j).pending

theorem frees_of_proceed
    {rest : Dialogue (List (Except Error Reply))} (hinside : (w.clients i).inside = some rest)
    (hrest : ∀ outcomes, rest ≠ .done outcomes)
    (hlater : ∃ turns, (w.proceed link i rest).Frees link turns) : ∃ turns, w.Frees link turns := by
  obtain ⟨turns, hfree, hpending⟩ := hlater
  have hstep : w.step link { client := i } = w.proceed link i rest := step_of_not_done hinside hrest
  refine ⟨{ client := i } :: turns, ?_, ?_⟩
  · rw [run_cons, hstep]
    exact hfree
  · intro j
    rw [run_cons, hstep, hpending j, pending_proceed]

/-- A client that holds the lock can always finish its section and drop it. -/
theorem exists_frees_of_inside
    {rest : Dialogue (List (Except Error Reply))} (hinside : (w.clients i).inside = some rest) :
    ∃ turns, w.Frees link turns := by
  induction rest generalizing w with
  | done outcomes =>
      have hstep : w.step link { client := i } = w.leave { client := i } outcomes :=
        step_of_done hinside
      refine ⟨[{ client := i }], ?_, ?_⟩
      · rw [run_cons, hstep]
        rfl
      · intro j
        rw [run_cons, hstep]
        exact pending_leave _ outcomes j
  | send bytes next ih => exact frees_of_proceed hinside nofun (ih _ (inside_proceed _))
  | receive count timeout next ih => exact frees_of_proceed hinside nofun (ih _ (inside_proceed _))
  | clear next ih => exact frees_of_proceed hinside nofun (ih _ (inside_proceed _))
  | pause time next ih => exact frees_of_proceed hinside nofun (ih (inside_proceed _))
  | note record next ih => exact frees_of_proceed hinside nofun (ih (inside_proceed _))

theorem Exclusive.exists_frees (h : w.Exclusive) (link : Link (StateM σ)) :
    ∃ turns, w.Frees link turns := by
  cases hholder : w.holder with
  | none => exact ⟨[], hholder, fun _ => rfl⟩
  | some i =>
      obtain ⟨rest, hinside⟩ := Option.ne_none_iff_exists'.mp ((h i).mpr hholder)
      exact exists_frees_of_inside hinside

/-- Nobody is locked out: whatever the clients have been doing, each of them can still carry out all its
sections. -/
theorem Exclusive.exists_turns_complete (h : w.Exclusive) (link : Link (StateM σ)) (i : ι) :
    ∃ turns, (w.run link turns).holder = none ∧ ((w.run link turns).clients i).pending = [] := by
  generalize hpending : (w.clients i).pending = sections
  induction sections generalizing w with
  | nil =>
      obtain ⟨turns, hfree, hkept⟩ := h.exists_frees link
      exact ⟨turns, hfree, (hkept i).trans hpending⟩
  | cons operations rest ih =>
      obtain ⟨before, hfree, hkept⟩ := h.exists_frees link
      have hexclusive : (w.run link before).Exclusive := h.run before
      have houtside := hexclusive.outside_of_free hfree i
      have hstep := step_of_free houtside hfree ((hkept i).trans hpending) link
      have hentered : (((w.run link before).enter i operations rest).clients i).pending = rest := by
        simp [Sharing.enter]
      obtain ⟨after, hdone⟩ := ih (hexclusive.enter hfree i operations rest) hentered
      refine ⟨before ++ { client := i } :: after, ?_⟩
      rw [run_append, run_cons, hstep]
      exact hdone

end Sharing
end BadgeLink
