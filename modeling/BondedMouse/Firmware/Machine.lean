import BondedMouse.Firmware.Boot

/-! # The machine

The machine is the device as seen from outside.  While it is off there is only its
hardware; switched on, it runs one millisecond after the other until a fatal fault
stops it.
-/

namespace BondedMouse.Firmware

/-- A device that is switched on or off. -/
inductive Machine (φ : Type)
  | off (unit : RadioUnit) (flash : φ)
  | on (engine : Engine φ)

namespace Machine

variable {φ : Type}

/-- A device that is off. -/
def new (flash : φ) : Machine φ := .off (.new .powerOff none) flash

def unit : Machine φ → RadioUnit
  | .off unit _ => unit
  | .on engine => engine.unit

def flash : Machine φ → φ
  | .off _ flash => flash
  | .on engine => engine.flash

def setUnit (machine : Machine φ) (unit : RadioUnit) : Machine φ :=
  match machine with
  | .off _ flash => .off unit flash
  | .on engine => .on (engine.setUnit unit)

def setFlash (machine : Machine φ) (flash : φ) : Machine φ :=
  match machine with
  | .off unit _ => .off unit flash
  | .on engine => .on { engine with flash }

/-- The radio is advertising. -/
def isAdvertising : Machine φ → Bool
  | .off _ _ => false
  | .on engine => engine.advertiser.isAdvertising

variable [Flash φ]

/-- Switches the device on. -/
def powerUp (unit : RadioUnit) (flash : φ) : Except Fault Unit × Machine φ :=
  let unit := { unit with board := setupCalls.foldl Board.note unit.board }
  match assemble unit flash with
  | .error fault => (.error fault, .off unit flash)
  | .ok engine =>
    match firstPolls.run engine with
    | .ok () engine => (.ok (), .on engine)
    | .error fault engine => (.error fault, .on engine)

/-- Lets a running device run for some milliseconds, or up to a fatal fault. -/
def runOn : Nat → Engine φ → Except Fault Unit × Machine φ
  | 0, engine => (.ok (), .on engine)
  | time + 1, engine =>
    match Engine.millisecond.run engine with
    | .ok () engine => runOn time engine
    | .error fault engine => (.error fault, .on engine)

/-- Lets the device run for some milliseconds, switching it on first if it is off. -/
def run (time : Nat) : Machine φ → Except Fault Unit × Machine φ
  | .on engine => runOn time engine
  | .off unit flash =>
    match powerUp unit flash with
    | (.ok (), .on engine) => runOn time engine
    | stopped => stopped

end Machine

end BondedMouse.Firmware
