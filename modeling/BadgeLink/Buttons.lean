/-!
# Buttons

The state of the buttons is one byte with a bit for each of them.  The upper bits mean nothing and
are kept as they came.
-/

namespace BadgeLink

/-- The mask a device reports for its buttons. -/
structure Buttons where
  bits : UInt8
  deriving Repr, DecidableEq, Inhabited

namespace Buttons

def right (b : Buttons) : Bool :=
  b.bits &&& 1 != 0

/-- Whether the left button is pressed; a device in command mode never reports it. -/
def left (b : Buttons) : Bool :=
  b.bits &&& 2 != 0

def down (b : Buttons) : Bool :=
  b.bits &&& 4 != 0

def up (b : Buttons) : Bool :=
  b.bits &&& 8 != 0

/-- Every button with its state, in the order of their bits. -/
def states (b : Buttons) : List (String × Bool) :=
  [("RIGHT", b.right), ("LEFT", b.left), ("DOWN", b.down), ("UP", b.up)]

def pressed (b : Buttons) : List String :=
  b.states.filterMap fun state => if state.2 then some state.1 else none

/-- The pressed buttons, or that there are none. -/
def display (b : Buttons) : String :=
  if b.pressed.isEmpty then "none" else "|".intercalate b.pressed

def debug (b : Buttons) : String :=
  "Buttons \x7b " ++ s!"right: {b.right}, left: {b.left}, down: {b.down}, up: {b.up}" ++ " \x7d"

end Buttons
end BadgeLink
