import BadgeLink.Dialogue

/-!
# Scripted links

A link whose whole behaviour is written down beforehand: the bytes that lie in its buffer already, the
bytes that will come, and the requests that will fail.  It never waits, and it keeps a record of every
request.
-/

namespace BadgeLink

/-- The requests of a link that can fail. -/
inductive Call
  | send
  | receive
  | clear
  deriving Repr, DecidableEq

/-- A failure in store: `skip` more requests of its kind succeed before it comes. -/
structure PlannedFault where
  call : Call
  skip : Nat
  message : String
  deriving Repr, DecidableEq

/-- Looks at the first fault planned for a request.  It is used up if it is due, and comes closer
otherwise. -/
def consult (call : Call) : List PlannedFault → Option String × List PlannedFault
  | [] => (none, [])
  | fault :: rest =>
    if fault.call = call then
      if fault.skip = 0 then (some fault.message, rest)
      else (none, { fault with skip := fault.skip - 1 } :: rest)
    else
      let (due, others) := consult call rest
      (due, fault :: others)

/-- A scripted link with what has happened on it. -/
structure Scripted where
  stale : List UInt8 := []
  incoming : List UInt8 := []
  faults : List PlannedFault := []
  sent : List (List UInt8) := []
  reads : List (Nat × Nat) := []
  clears : Nat := 0
  log : List Record := []
  deriving Repr, DecidableEq, Inhabited

namespace Scripted

/-- Carries out a request unless a fault is due; the fault leaves everything else as it was. -/
def attempt {α : Type} (call : Call) (request : Scripted → α × Scripted) (s : Scripted) :
    Except LinkFault α × Scripted :=
  match consult call s.faults with
  | (some message, faults) => (.error (.io message), { s with faults })
  | (none, faults) =>
    let (value, after) := request { s with faults }
    (.ok value, after)

/-- Takes up to `count` bytes, what is stale first. -/
def take (count : Nat) (s : Scripted) : List UInt8 × Scripted :=
  let old := s.stale.take count
  let new := s.incoming.take (count - old.length)
  (old ++ new, { s with stale := s.stale.drop count, incoming := s.incoming.drop new.length })

def send (bytes : List UInt8) : Scripted → Except LinkFault Unit × Scripted :=
  attempt .send fun s => ((), { s with sent := s.sent ++ [bytes] })

/-- Receives what is there, and records the read even if it fails. -/
def receive (count timeout : Nat) (s : Scripted) : Except LinkFault (List UInt8) × Scripted :=
  attempt .receive (take count) { s with reads := s.reads ++ [(count, timeout)] }

def clear : Scripted → Except LinkFault Unit × Scripted :=
  attempt .clear fun s => ((), { s with stale := [], clears := s.clears + 1 })

def link : Link (StateM Scripted) where
  send := send
  receive := receive
  clear := clear
  pause _ := pure ()
  note record := fun s => ((), { s with log := s.log ++ [record] })

def run {α : Type} (d : Dialogue α) (s : Scripted) : α × Scripted :=
  d.overLink link s

/-- Forgets what has happened so far, but not the log. -/
def forget (s : Scripted) : Scripted :=
  { s with sent := [], reads := [], clears := 0 }

def feed (stale incoming : List UInt8) (faults : List PlannedFault) (s : Scripted) : Scripted :=
  { s with
    stale := s.stale ++ stale
    incoming := s.incoming ++ incoming
    faults := s.faults ++ faults }

end Scripted
end BadgeLink
