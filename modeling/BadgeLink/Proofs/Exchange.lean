import BadgeLink.Exchange
import BadgeLink.Proofs.Dialogue
import BadgeLink.Proofs.Outcome

/-!
# The shape of exchanges

An exchange that transfers a command consists of two parts: it sends the bytes of the command, and then
it only receives.  What it receives can fail in many ways, but none of them is a refused argument.
-/

namespace BadgeLink
namespace Exchange

variable {α β σ : Type}

/-- An exchange goes on from a value and stops at an error. -/
theorem run_bind (x : Exchange α) (f : α → Exchange β) :
    (x >>= f).run = x.run.bind fun
      | .ok value => (f value).run
      | .error e => .done (.error e) := by
  show x.run.bind (ExceptT.bindCont f) = _
  congr
  funext outcome
  cases outcome <;> rfl

/-- An exchange obeys a rule if its parts do; where the first part fails, its error is the last word. -/
theorem obeys_bind
    {allowed : Ask → Prop} {good : Except Error α → Prop} {good' : Except Error β → Prop}
    {x : Exchange α} {f : α → Exchange β} (hx : x.run.Obeys allowed good)
    (hok : ∀ value, good (.ok value) → (f value).run.Obeys allowed good')
    (herror : ∀ e, good (.error e) → good' (.error e)) :
    (x >>= f).run.Obeys allowed good' := by
  rw [run_bind]
  apply hx.bind
  intro outcome hgood
  cases outcome with
  | ok value => exact hok value hgood
  | error e => exact herror e hgood

theorem overLink_bind_of_ok
    {link : Link (StateM σ)} {x : Exchange α} {value : α} {s s' : σ}
    (hx : x.run.overLink link s = (.ok value, s')) (f : α → Exchange β) :
    (x >>= f).run.overLink link s = (f value).run.overLink link s' := by
  rw [run_bind, Dialogue.overLink_bind_run, hx]

theorem overLink_bind_of_error
    {link : Link (StateM σ)} {x : Exchange α} {e : Error} {s s' : σ}
    (hx : x.run.overLink link s = (.error e, s')) (f : α → Exchange β) :
    (x >>= f).run.overLink link s = (.error e, s') := by
  rw [run_bind, Dialogue.overLink_bind_run, hx]
  rfl

/-! ## Steps at the front of an exchange -/

theorem ofExcept_ok_bind (value : α) (f : α → Exchange β) : ofExcept (.ok value) >>= f = f value :=
  rfl

theorem run_note_bind (record : Record) (f : Unit → Exchange α) :
    (note record >>= f).run = .note record (f ()).run :=
  rfl

theorem run_send_bind (bytes : List UInt8) (f : Unit → Exchange α) :
    (send bytes >>= f).run = .send bytes fun
      | .ok () => (f ()).run
      | .error fault => .done (.error (.link fault)) := by
  rw [run_bind]
  show Dialogue.send bytes _ = _
  congr
  funext answer
  cases answer <;> rfl

/-! ## The two parts of a transfer -/

/-- Receives a response frame and takes the payload out of it. -/
def receivePayload (timeout : Nat) : Exchange (List UInt8) := do
  let response ← receiveResponse timeout
  if !response.isOk then note (.reported response)
  ofExcept response.toPayload

/-- A transfer sends what its command is on the wire, and receives after that. -/
theorem transfer_of_toWire
    {command : Command} {wire : List UInt8} (hwire : command.toWire = .ok wire) (timeout : Nat) :
    transfer command timeout =
      (do
        note (.sent wire)
        send wire
        receivePayload timeout) := by
  rw [transfer, hwire, ofExcept_ok_bind]
  rfl

def Receives (ask : Ask) : Prop :=
  ∃ count timeout, ask = .receive count timeout

/-- Any outcome but a refused argument. -/
def NotRefused (outcome : Except Error α) : Prop :=
  ∀ cause, outcome ≠ .error (.argument cause)

theorem NotRefused.error {e : Error} (he : NotRefused (.error e : Except Error α)) :
    NotRefused (.error e : Except Error β) := by
  intro cause h
  cases h
  exact he cause rfl

/-- An exchange only receives if both of its parts do. -/
theorem receives_bind
    {x : Exchange α} {f : α → Exchange β} (hx : x.run.Obeys Receives NotRefused)
    (hf : ∀ value, (f value).run.Obeys Receives NotRefused) :
    (x >>= f).run.Obeys Receives NotRefused :=
  obeys_bind hx (fun value _ => hf value) fun _ => NotRefused.error

theorem obeys_note (record : Record) : (note record).run.Obeys Receives NotRefused :=
  nofun

theorem obeys_receive (count timeout : Nat) :
    (receive count timeout).run.Obeys Receives NotRefused := by
  refine ⟨⟨count, timeout, rfl⟩, ?_⟩
  intro answer cause
  cases answer <;> nofun

theorem obeys_receiveExact (count timeout : Nat) :
    (receiveExact count timeout).run.Obeys Receives NotRefused := by
  refine receives_bind (obeys_receive count timeout) ?_
  intro bytes
  split <;> nofun

theorem notRefused_ofBody (bytes : List UInt8) : NotRefused (Response.ofBody bytes) := by
  intro cause h
  have hdecode := Except.map_eq_error_iff.mp h
  unfold Frame.decodeBody at hdecode
  split at hdecode
  · cases hdecode
  · cases hdecode
  · dsimp only at hdecode
    split at hdecode <;> cases hdecode

theorem notRefused_toPayload (response : Response) : NotRefused response.toPayload := by
  cases response <;> nofun

theorem obeys_receiveResponse (timeout : Nat) :
    (receiveResponse timeout).run.Obeys Receives NotRefused := by
  refine receives_bind (obeys_receiveExact 1 timeout) ?_
  intro head
  refine receives_bind (obeys_receiveExact _ timeout) ?_
  intro body
  exact receives_bind (obeys_note _) fun _ => notRefused_ofBody body

/-- Once a command is sent, a transfer only receives, and cannot refuse an argument any more. -/
theorem obeys_receivePayload (timeout : Nat) :
    (receivePayload timeout).run.Obeys Receives NotRefused := by
  refine receives_bind (obeys_receiveResponse timeout) ?_
  intro response
  have hpayload := notRefused_toPayload response
  split
  · exact receives_bind (obeys_note _) fun _ => hpayload
  · exact hpayload

end Exchange
end BadgeLink
