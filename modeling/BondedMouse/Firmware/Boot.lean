import BondedMouse.Firmware.Engine
import BondedMouse.Ranking.Pool

/-! # Power-up

At power-up the firmware sets up the hardware, loads the record cache, starts the
controller and polls its tasks for the first time.
-/

namespace BondedMouse.Firmware

/-- The pins of the buttons, in the order in which their tasks are polled. -/
def buttonPins : List (Button × Nat) :=
  [(.left, 11), (.up, 12), (.eraseBonds, 24), (.pair, 25)]

/-- The set-up of the radio: one link as a peripheral, with the internal clock source. -/
def radioSetup : RadioSetup where
  clockSource := 0
  calibrationInterval := 16
  temperatureInterval := 2
  clockAccuracy := 1
  linkCount := 1
  eventLength := 24
  packetSize := 23
  attributeTableSize := 1408
  advertisingSets := 1
  peripheralRoles := 1
  centralRoles := 0
  centralSecurityRoles := 0
  roleFlags := 0
  nameWritePermission := 0
  nameFlags := 1
  name := "BLE Mouse"

def setupCalls : List BoardCall :=
  [.priority .pins 2, .priority .time 2, .enable radioSetup, .priority .tick 6]

variable {φ : Type} [Flash φ]

/-- The engine before its first poll. -/
def assemble (unit : RadioUnit) (flash : φ) : Except Fault (Engine φ) := do
  let (cache, flash) := RecordCache.empty.load [Ranking.Record.key] flash
  let some (slot, pool) := RankingPool.empty.alloc | throw .rankingsExhausted
  let session ← Session.powerUp (pool.get slot) (unit, cache) 0
  return {
    session, flash
    budget := .fresh
    presses := .empty
    buttons := buttonPins.map fun (button, pin) => .new button pin
    advertiser := .new }

/-- The first polls of all tasks.  The timers' tick only starts to be counted. -/
def firstPolls : EngineM φ Unit := do
  Engine.control Controller.start
  Engine.iterate
  modify fun engine => engine.pollButtons.pollAdvertiser

end BondedMouse.Firmware
