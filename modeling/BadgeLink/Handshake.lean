import BadgeLink.Exchange

/-!
# Reset handshake

The handshake brings a device whose state is unknown into command mode.  What is pending is discarded,
then the reset byte is sent until the device acknowledges it, with a pause between attempts.  Every
read that is not the acknowledgement counts as a failed attempt, and the last one allowed ends the
handshake.
-/

namespace BadgeLink

/-- How far a handshake has come. -/
inductive HandshakeState
  | unknown
  | awaitingAck
  | ready
  | failed
  deriving Repr, DecidableEq, Inhabited

/-- A handshake, which may be run again. -/
structure Handshake where
  state : HandshakeState := .unknown
  attempts : Nat := 0
  interval : Nat := defaultResetInterval
  deriving Repr, DecidableEq

namespace Handshake

/-- How many reads may miss the acknowledgement. -/
def maxAttempts : Nat :=
  256

/-- The frame that acknowledges a reset. -/
def ack : List UInt8 :=
  Frame.bare Response.resetStatus

/-- The bytes that ask for a reset. -/
def resetBytes : List UInt8 :=
  [Command.resetByte]

/-- Reads the acknowledgement, asking again after a read that is something else.  The first argument
is the number of reads that are left. -/
def awaitAck (timeout : Nat) : Nat → Handshake → Dialogue (Except Error Unit × Handshake)
  | 0, h => .done (.error (.noReset h.attempts), { h with state := .failed })
  | left + 1, h =>
    .receive ack.length timeout fun
      | .error fault => .done (.error (.link fault), h)
      | .ok got =>
        if got = ack then .note (.received got) (.done (.ok (), { h with state := .ready }))
        else
          let missed := { h with attempts := h.attempts + 1 }
          .note (.missedAck missed.attempts got ack) <|
            if left = 0 then
              .note (.gaveUp missed.attempts)
                (.done (.error (.noReset missed.attempts), { missed with state := .failed }))
            else
              .send resetBytes fun
                | .error fault => .done (.error (.link fault), missed)
                | .ok () => .pause missed.interval (awaitAck timeout left missed)

/-- Runs a handshake from the start.  A fault of the link ends it at once, and the state stays as it
was at that moment. -/
def run (h : Handshake) (timeout : Nat) : Dialogue (Except Error Unit × Handshake) :=
  .clear fun
    | .error fault => .done (.error (.link fault), h)
    | .ok () =>
      let started := { h with attempts := 0 }
      .note (.sent resetBytes) <|
        .send resetBytes fun
          | .error fault => .done (.error (.link fault), started)
          | .ok () => awaitAck timeout maxAttempts { started with state := .awaitingAck }

end Handshake
end BadgeLink
