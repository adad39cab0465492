import BondedMouse.Button.Debounce
import BondedMouse.Controller.Platform
import BondedMouse.Controller.Session
import BondedMouse.Radio.Advertiser.Poll
import BondedMouse.Storage.Cache
import BondedMouse.Storage.SaveBudget

/-! # The running firmware

The engine is the state of all tasks of the firmware while it runs: the session of the
controller with the radio unit and the record cache, the flash region behind the
cache, the advertiser and the four buttons.

The main loop handles the events and presses that wait, ticks the controller, runs the
timers that are ready, and saves the cache.  A fault that is not one of storage ends
it.
-/

namespace BondedMouse.Firmware

/-- What the firmware's controller runs on. -/
abbrev Platform := RadioUnit × RecordCache

structure Engine (φ : Type) where
  session : Session Platform
  flash : φ
  budget : SaveBudget
  presses : Channel Press 4
  buttons : List ButtonTask
  advertiser : Advertiser

/-- Steps of the main loop; they may end in a fatal fault. -/
abbrev EngineM (φ : Type) := EStateM Fault (Engine φ)

namespace Engine

variable {φ : Type}

def unit (engine : Engine φ) : RadioUnit :=
  engine.session.device.env.1

def cache (engine : Engine φ) : RecordCache :=
  engine.session.device.env.2

def setUnit (engine : Engine φ) (unit : RadioUnit) : Engine φ :=
  let device := engine.session.device
  let device := { device with env := (unit, device.env.2) }
  { engine with session := { engine.session with device } }

def setCache (engine : Engine φ) (cache : RecordCache) : Engine φ :=
  let device := engine.session.device
  let device := { device with env := (device.env.1, cache) }
  { engine with session := { engine.session with device } }

/-! ## The main loop -/

/-- Passes a fatal fault on; a fault of storage is only worth a note in the log. -/
def raise : Except Fault Unit → EngineM φ Unit
  | .ok () => pure ()
  | .error fault => if fault.needsReset then throw fault else pure ()

def control (operation : ControlM Platform Unit) : EngineM φ Unit := do
  let engine ← get
  let (result, session) := engine.session.control operation
  set { engine with session }
  raise result

def nextEvent? : EngineM φ (Option RadioEvent) := fun engine =>
  match engine.unit.events.receive? with
  | none => .ok none engine
  | some (event, events) => .ok (some event) (engine.setUnit { engine.unit with events })

def drainEvents : Nat → EngineM φ Unit
  | 0 => pure ()
  | limit + 1 => do
    match ← nextEvent? with
    | none => pure ()
    | some event =>
      control (Controller.onEvent event)
      drainEvents limit

def nextPress? : EngineM φ (Option Press) := fun engine =>
  match engine.presses.receive? with
  | none => .ok none engine
  | some (press, presses) => .ok (some press) { engine with presses }

def drainPresses : Nat → EngineM φ Unit
  | 0 => pure ()
  | limit + 1 => do
    match ← nextPress? with
    | none => pure ()
    | some press =>
      control (Controller.onRequest press.request)
      drainPresses limit

/-- The controller's half of the loop: events, presses, the tick and the ready timers.  No
event is posted while events are handled and no press while presses are, so those that wait
at first are all. -/
def drive : EngineM φ Unit := do
  drainEvents (← get).unit.events.items.length
  drainPresses (← get).presses.items.length
  control Controller.tick
  modify fun engine => { engine with session := engine.session.timerStep }

variable [Flash φ]

/-- Tries once to bring the cache to flash, and counts the try. -/
def saveOnce : EngineM φ SaveVerdict := fun engine =>
  let (result, cache, flash) := engine.cache.save engine.flash
  let (step, budget) := engine.budget.count result
  .ok step { engine.setCache cache with flash, budget }

def sync : EngineM φ Unit := do
  if (← get).cache.needsSave then
    match ← saveOnce with
    | .done | .retry => pure ()
    | .collect => control (Controller.onEvent .storageFull)
    | .giveUp error =>
      modify fun engine => engine.setCache engine.cache.dropPending
      raise (.error (.storage error))

def iterate : EngineM φ Unit := do
  drive
  sync

/-! ## The other tasks -/

def pollButton (engine : Engine φ) (task : ButtonTask) : Engine φ × ButtonTask :=
  let (after, task) := task.poll ⟨engine.unit.board, engine.presses⟩
  ({ engine.setUnit { engine.unit with board := after.board } with presses := after.presses }, task)

def pollEach : List ButtonTask → Engine φ → List ButtonTask × Engine φ
  | [], engine => ([], engine)
  | task :: rest, engine =>
    let (engine, task) := engine.pollButton task
    let (rest, engine) := pollEach rest engine
    (task :: rest, engine)

def pollButtons (engine : Engine φ) : Engine φ :=
  let (buttons, engine) := pollEach engine.buttons engine
  { engine with buttons }

def pollAdvertiser (engine : Engine φ) : Engine φ :=
  let (unit, advertiser) := engine.advertiser.poll engine.unit
  { engine.setUnit unit with advertiser }

def tick (engine : Engine φ) : Engine φ :=
  { engine with session := engine.session.timerTick }

def advanceClock (engine : Engine φ) : Engine φ :=
  engine.setUnit { engine.unit with board := engine.unit.board.advanceClock }

/-- One millisecond: the clock moves on and each task is polled once. -/
def millisecond : EngineM φ Unit := do
  modify advanceClock
  iterate
  modify fun engine => engine.tick.pollButtons.pollAdvertiser

end Engine

end BondedMouse.Firmware
