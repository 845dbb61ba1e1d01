import BadgeLink.Proofs.Link.Scripted
import Mathlib.Data.List.Induction

/-!
# Planned faults

Of the faults that are planned for a link only the first of each kind matters at a time.  It lets as
many requests of its kind pass as it skips, and then it comes.  Until then nothing but these counts
changes, and the link works as if no fault were planned at all.
-/

namespace BadgeLink
namespace PlannedFault

/-- The first fault that is planned for a kind of request. -/
def first (call : Call) (faults : List PlannedFault) : Option PlannedFault :=
  faults.find? (·.call = call)

/-- A fault that has come closer by some requests. -/
def closer (passed : Nat) (fault : PlannedFault) : PlannedFault :=
  { fault with skip := fault.skip - passed }

/-- The planned faults after some requests have passed: the first fault of each kind has come closer by
the number of requests of its kind, and the others have not changed. -/
def worn (calls : List Call) : List PlannedFault → List PlannedFault
  | [] => []
  | fault :: rest =>
    fault.closer (calls.count fault.call) :: worn (calls.filter (· ≠ fault.call)) rest

/-- No fault comes at any of these requests: the first of each kind skips them all. -/
def Passed (faults : List PlannedFault) (calls : List Call) : Prop :=
  ∀ call fault, first call faults = some fault → calls.count call ≤ fault.skip

/-- After these requests, none of which fails, the next one of this kind does. -/
def Due (faults : List PlannedFault) (calls : List Call) (call : Call) (fault : PlannedFault) :
    Prop :=
  Passed faults calls ∧ first call faults = some fault ∧ calls.count call = fault.skip

variable {faults rest : List PlannedFault} {fault : PlannedFault} {call : Call} {calls : List Call}

theorem first_cons_of_eq (h : fault.call = call) : first call (fault :: rest) = some fault := by
  simp [first, h]

theorem first_cons_of_ne (h : fault.call ≠ call) :
    first call (fault :: rest) = first call rest := by
  simp [first, h]

@[simp]
theorem closer_zero (fault : PlannedFault) : fault.closer 0 = fault :=
  rfl

@[simp]
theorem call_closer (passed : Nat) (fault : PlannedFault) :
    (fault.closer passed).call = fault.call :=
  rfl

theorem closer_closer (m n : Nat) (fault : PlannedFault) :
    (fault.closer m).closer n = fault.closer (m + n) := by
  rw [closer, closer, closer, Nat.sub_sub]

@[simp]
theorem worn_nil (faults : List PlannedFault) : worn [] faults = faults := by
  induction faults with
  | nil => rfl
  | cons fault rest ih => simp [worn, ih]

theorem worn_cons_self (fault : PlannedFault) (rest : List PlannedFault) :
    worn [fault.call] (fault :: rest) = fault.closer 1 :: rest := by
  simp [worn]

theorem worn_cons_of_ne (h : fault.call ≠ call) :
    worn [call] (fault :: rest) = fault :: worn [call] rest := by
  simp [worn, Ne.symm h]

/-- One request makes the difference of one to the first fault of its kind. -/
theorem worn_cons (call : Call) (calls : List Call) (faults : List PlannedFault) :
    worn (call :: calls) faults = worn calls (worn [call] faults) := by
  induction faults generalizing calls with
  | nil => rfl
  | cons fault rest ih =>
      by_cases hcall : fault.call = call
      · subst hcall
        rw [worn_cons_self, worn, worn, List.count_cons_self, List.filter_cons_of_neg (by simp),
          closer_closer, Nat.add_comm, call_closer]
      · have hkept : (call :: calls).filter (· ≠ fault.call) =
            call :: calls.filter (· ≠ fault.call) :=
          List.filter_cons_of_pos (by simpa using Ne.symm hcall)
        rw [worn_cons_of_ne hcall, worn, worn, hkept, ih, List.count_cons_of_ne (Ne.symm hcall)]

theorem first_worn (calls : List Call) (call : Call) (faults : List PlannedFault) :
    first call (worn calls faults) = (first call faults).map (closer (calls.count call)) := by
  induction faults generalizing calls with
  | nil => rfl
  | cons fault rest ih =>
      by_cases hcall : fault.call = call
      · subst hcall
        rw [worn, first_cons_of_eq (call_closer _ _), first_cons_of_eq rfl, Option.map_some]
      · have hcount : (calls.filter (· ≠ fault.call)).count call = calls.count call := by
          simp [List.count_filter, Ne.symm hcall]
        rw [worn, first_cons_of_ne (by rwa [call_closer]), first_cons_of_ne hcall, ih, hcount]

theorem passed_nil (faults : List PlannedFault) : Passed faults [] := by
  intro call fault _
  exact Nat.zero_le _

/-- Requests pass if the first one does and the others do after it. -/
theorem passed_cons :
    Passed faults (call :: calls) ↔ Passed faults [call] ∧ Passed (worn [call] faults) calls := by
  constructor
  · intro h
    constructor
    · intro other fault hfirst
      have hpass := h other fault hfirst
      simp only [List.count_cons, List.count_nil] at hpass ⊢
      omega
    · intro other fault hfirst
      rw [first_worn] at hfirst
      obtain ⟨fault', hfirst', rfl⟩ := Option.map_eq_some_iff.mp hfirst
      have hpass := h other fault' hfirst'
      simp only [closer, List.count_cons, List.count_nil] at hpass ⊢
      omega
  · rintro ⟨hone, hrest⟩ other fault hfirst
    have hpass := hone other fault hfirst
    have hlater := hrest other (fault.closer ([call].count other)) (by rw [first_worn, hfirst]; rfl)
    simp only [closer, List.count_cons, List.count_nil] at hpass hlater ⊢
    omega

/-- A fault that comes later is due, as much closer as it has come, after the first request. -/
theorem Due.of_cons {other : Call} (h : Due faults (call :: calls) other fault) :
    Passed faults [call] ∧
      Due (worn [call] faults) calls other (fault.closer ([call].count other)) := by
  obtain ⟨hpassed, hfirst, hskip⟩ := h
  obtain ⟨hone, hrest⟩ := passed_cons.mp hpassed
  refine ⟨hone, hrest, ?_, ?_⟩
  · rw [first_worn, hfirst, Option.map_some]
  · simp only [closer, ← hskip, List.count_cons, List.count_nil]
    omega

theorem passed_concat (h : Passed faults calls)
    (hnext : ∀ fault, first call faults = some fault → calls.count call < fault.skip) :
    Passed faults (calls ++ [call]) := by
  intro other fault hfirst
  rw [List.count_append, List.count_singleton]
  by_cases hcall : call = other
  · subst hcall
    rw [beq_self_eq_true, if_pos rfl]
    exact hnext fault hfirst
  · have hpass := h other fault hfirst
    simp [hcall, hpass]

/-- Either all requests pass, or a fault comes at one of them. -/
theorem passed_or_due (faults : List PlannedFault) (calls : List Call) :
    Passed faults calls ∨
      ∃ before call later fault, calls = before ++ call :: later ∧ Due faults before call fault := by
  induction calls using List.reverseRecOn with
  | nil => exact Or.inl (passed_nil faults)
  | append_singleton calls call ih =>
      rcases ih with hpassed | ⟨before, earlier, later, fault, rfl, hdue⟩
      · by_cases hdue : ∃ fault, Due faults calls call fault
        · obtain ⟨fault, hdue⟩ := hdue
          exact Or.inr ⟨calls, call, [], fault, rfl, hdue⟩
        · refine Or.inl (passed_concat hpassed ?_)
          intro fault hfirst
          refine Nat.lt_of_le_of_ne (hpassed call fault hfirst) ?_
          intro hskip
          exact hdue ⟨fault, hpassed, hfirst, hskip⟩
      · exact Or.inr ⟨before, earlier, later ++ [call], fault, by simp, hdue⟩

theorem consult_of_passed (h : Passed faults [call]) :
    consult call faults = (none, worn [call] faults) := by
  have hskip (fault : PlannedFault) (hfirst : first call faults = some fault) : fault.skip ≠ 0 := by
    have hpass := h call fault hfirst
    rw [List.count_singleton_self] at hpass
    omega
  clear h
  induction faults with
  | nil => rfl
  | cons fault rest ih =>
      by_cases hcall : fault.call = call
      · subst hcall
        rw [consult, if_pos rfl, if_neg (hskip fault (first_cons_of_eq rfl)), worn_cons_self]
        rfl
      · rw [consult, if_neg hcall, worn_cons_of_ne hcall, ih]
        intro later hfirst
        exact hskip later (by rw [first_cons_of_ne hcall, hfirst])

theorem consult_of_due (h : Due faults [] call fault) :
    consult call faults = (some fault.message, faults.eraseP (·.call = call)) := by
  obtain ⟨-, hfirst, hskip⟩ := h
  induction faults with
  | nil => cases hfirst
  | cons head rest ih =>
      by_cases hcall : head.call = call
      · obtain rfl : head = fault := by
          rw [first_cons_of_eq hcall] at hfirst
          exact Option.some.inj hfirst
        have hnow : head.skip = 0 := by rw [← hskip, List.count_nil]
        rw [consult, if_pos hcall, if_pos hnow, List.eraseP_cons_of_pos (by simpa using hcall)]
      · rw [first_cons_of_ne hcall] at hfirst
        rw [consult, if_neg hcall, ih hfirst, List.eraseP_cons_of_neg (by simpa using hcall)]

end PlannedFault
end BadgeLink
