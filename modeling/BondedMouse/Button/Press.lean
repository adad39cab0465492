import BondedMouse.Mouse.Report

/-! # Buttons and what they ask for

The device has four buttons.  Two move the cursor, one erases all bonds, and one opens
the pairing window or, held long, drops the link.
-/

namespace BondedMouse

inductive Button
  | left
  | up
  | eraseBonds
  | pair
  deriving DecidableEq, Repr

inductive PressLength
  | short
  | long
  deriving DecidableEq, Repr

structure Press where
  button : Button
  length : PressLength
  deriving DecidableEq, Repr

inductive Request
  | moveCursor (movement : Movement)
  | pairingWindow
  | eraseBonds
  | disconnect
  deriving DecidableEq, Repr

def Movement.step : Int16 := 5

/-- What a press asks for; only the pairing button tells long from short. -/
def Press.request (press : Press) : Request :=
  match press.button, press.length with
  | .left, _ => .moveCursor ⟨-Movement.step, 0⟩
  | .up, _ => .moveCursor ⟨0, -Movement.step⟩
  | .eraseBonds, _ => .eraseBonds
  | .pair, .short => .pairingWindow
  | .pair, .long => .disconnect

end BondedMouse
