import BadgeLink.Badge
import BadgeLink.Proofs.Dialogue

/-!
# Sequences of operations

A session is used for one operation after the other.  An operation that fails does not end the session:
the next one starts with the link as the failed one has left it.
-/

namespace BadgeLink
namespace Badge

/-- Carries out operations in their order, and yields what each of them has yielded. -/
def performAll (badge : Badge) : List Operation → Dialogue (List (Except Error Reply))
  | [] => .done []
  | operation :: rest =>
    (badge.perform operation).run.bind fun outcome =>
      (badge.performAll rest).bind fun outcomes => .done (outcome :: outcomes)

variable {σ : Type}

/-- A sequence goes on from the state in which its first operation ends. -/
theorem performAll_cons_overLink
    {badge : Badge} {operation : Operation} {link : Link (StateM σ)} {s s' : σ}
    {outcome : Except Error Reply}
    (hfirst : (badge.perform operation).run.overLink link s = (outcome, s'))
    (rest : List Operation) :
    (badge.performAll (operation :: rest)).overLink link s =
      (outcome :: ((badge.performAll rest).overLink link s').1,
        ((badge.performAll rest).overLink link s').2) := by
  rw [performAll, Dialogue.overLink_bind_run, hfirst, Dialogue.overLink_bind_run]
  rfl

theorem length_performAll_overLink
    (badge : Badge) (operations : List Operation) (link : Link (StateM σ)) (s : σ) :
    ((badge.performAll operations).overLink link s).1.length = operations.length := by
  induction operations generalizing s with
  | nil => rfl
  | cons operation rest ih =>
      rw [performAll_cons_overLink rfl, List.length_cons, List.length_cons, ih]

/-- An operation starts from where the operations before it have ended. -/
theorem performAll_overLink_getElem?
    (badge : Badge) (operations : List Operation) (link : Link (StateM σ)) (s : σ) (i : Nat) :
    ((badge.performAll operations).overLink link s).1[i]? =
      operations[i]?.map fun operation =>
        ((badge.perform operation).run.overLink link
          ((badge.performAll (operations.take i)).overLink link s).2).1 := by
  induction operations generalizing s i with
  | nil => rfl
  | cons operation rest ih =>
      rw [performAll_cons_overLink rfl]
      cases i with
      | zero => rfl
      | succ i =>
          rw [List.getElem?_cons_succ, List.getElem?_cons_succ, List.take_succ_cons,
            performAll_cons_overLink rfl, ih]

end Badge
end BadgeLink
