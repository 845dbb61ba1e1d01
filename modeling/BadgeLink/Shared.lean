import BadgeLink.Badge

/-!
# Shared badges

Several clients can hold handles to one badge.  A client works on the badge only while it holds the
lock, so a request and its response are never torn apart.  A client that dies while it holds the lock
leaves nothing half-done behind but the bytes on the link, so the lock is granted afterwards as before.
-/

namespace BadgeLink

/-- A badge with the number of handles to it. -/
structure SharedBadge where
  badge : Badge
  handles : Nat := 1
  poisoned : Bool := false
  deriving Repr, DecidableEq

namespace SharedBadge

def clone (s : SharedBadge) : SharedBadge :=
  { s with handles := s.handles + 1 }

/-- A holder of the lock dies. -/
def poison (s : SharedBadge) : SharedBadge :=
  { s with poisoned := true }

/-- The badge that a holder of the lock works on, whether or not an earlier holder died. -/
def lock (s : SharedBadge) : Badge :=
  s.badge

/-- Every handle leads to the same badge. -/
theorem lock_clone (s : SharedBadge) : s.clone.lock = s.lock :=
  rfl

/-- The death of a holder does not lock the others out. -/
theorem lock_poison (s : SharedBadge) : s.poison.lock = s.lock :=
  rfl

end SharedBadge
end BadgeLink
