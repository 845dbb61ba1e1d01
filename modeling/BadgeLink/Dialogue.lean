import BadgeLink.Log

/-!
# Dialogues over a byte link

A dialogue is a program that asks a byte link for things, one request at a time, and goes on from what
the link answers.  It says nothing about the link: the same dialogue runs over a scripted link, a serial
port or anything else with the same requests, and its requests can be looked at one by one.
-/

namespace BadgeLink

/-- A program that talks over a byte link. -/
inductive Dialogue (α : Type) : Type
  | done (value : α)
  | send (bytes : List UInt8) (next : Except LinkFault Unit → Dialogue α)
  | receive (count timeout : Nat) (next : Except LinkFault (List UInt8) → Dialogue α)
  | clear (next : Except LinkFault Unit → Dialogue α)
  | pause (time : Nat) (next : Dialogue α)
  | note (record : Record) (next : Dialogue α)

/-- What a byte link can be asked for; receiving yields at most the bytes asked for, fewer if the time
runs out. -/
structure Link (m : Type → Type) where
  send : List UInt8 → m (Except LinkFault Unit)
  receive : Nat → Nat → m (Except LinkFault (List UInt8))
  clear : m (Except LinkFault Unit)
  pause : Nat → m Unit
  note : Record → m Unit

namespace Dialogue

variable {α β : Type}

/-- Goes on with a second dialogue when the first is done. -/
def bind : Dialogue α → (α → Dialogue β) → Dialogue β
  | done value, f => f value
  | send bytes next, f => .send bytes fun answer => bind (next answer) f
  | receive count timeout next, f => .receive count timeout fun answer => bind (next answer) f
  | clear next, f => .clear fun answer => bind (next answer) f
  | pause time next, f => .pause time (bind next f)
  | note record next, f => .note record (bind next f)

instance : Monad Dialogue where
  pure := done
  bind := bind

theorem bind_eq_bind (d : Dialogue α) (f : α → Dialogue β) : d >>= f = d.bind f :=
  rfl

@[simp]
theorem bind_done (d : Dialogue α) : d.bind done = d := by
  induction d with
  | done value => rfl
  | send bytes next ih => simp only [bind]; congr; funext answer; exact ih answer
  | receive count timeout next ih => simp only [bind]; congr; funext answer; exact ih answer
  | clear next ih => simp only [bind]; congr; funext answer; exact ih answer
  | pause time next ih => simp only [bind, ih]
  | note record next ih => simp only [bind, ih]

theorem bind_assoc
    {γ : Type} (d : Dialogue α) (f : α → Dialogue β) (g : β → Dialogue γ) :
    (d.bind f).bind g = d.bind fun value => (f value).bind g := by
  induction d with
  | done value => rfl
  | send bytes next ih => simp only [bind]; congr; funext answer; exact ih answer
  | receive count timeout next ih => simp only [bind]; congr; funext answer; exact ih answer
  | clear next ih => simp only [bind]; congr; funext answer; exact ih answer
  | pause time next ih => simp only [bind, ih]
  | note record next ih => simp only [bind, ih]

instance : LawfulMonad Dialogue :=
  LawfulMonad.mk' Dialogue bind_done (fun _ _ => rfl) bind_assoc

def overLink {m : Type → Type} [Monad m] (link : Link m) : Dialogue α → m α
  | done value => pure value
  | send bytes next => do overLink link (next (← link.send bytes))
  | receive count timeout next => do overLink link (next (← link.receive count timeout))
  | clear next => do overLink link (next (← link.clear))
  | pause time next => do
    link.pause time
    overLink link next
  | note record next => do
    link.note record
    overLink link next

/-- Running a sequence of two dialogues runs one after the other. -/
theorem overLink_bind
    {m : Type → Type} [Monad m] [LawfulMonad m]
    (link : Link m) (d : Dialogue α) (f : α → Dialogue β) :
    (d.bind f).overLink link = d.overLink link >>= fun value => (f value).overLink link := by
  induction d with
  | done value => simp [bind, overLink]
  | send bytes next ih => simp [bind, overLink, ih]
  | receive count timeout next ih => simp [bind, overLink, ih]
  | clear next ih => simp [bind, overLink, ih]
  | pause time next ih => simp [bind, overLink, ih]
  | note record next ih => simp [bind, overLink, ih]

end Dialogue
end BadgeLink
