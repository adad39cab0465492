import BondedMouse.Button.Press
import BondedMouse.Radio.Stack
import BondedMouse.Ranking.Record
import BondedMouse.Reconnect.Sequence
import BondedMouse.Timer.Scheduler

/-! # The controller's state

The controller decides which bonded central may connect, in what order, and for how
long the device advertises.  Its state stands beside the timer pool and the
environment with the radio stack and the record store; the three make up a device.

Operations run in `ControlM`: they change the device and may end in a fault.  What was
changed before the fault stays changed.
-/

namespace BondedMouse

inductive Link
  | down
  | up (handle : LinkHandle)
  /-- The device has asked for the link to be dropped. -/
  | closing (handle : LinkHandle)
  deriving DecidableEq, Repr

def Link.handle? : Link → Option LinkHandle
  | .down => none
  | .up handle | .closing handle => some handle

structure Controller where
  mode : Mode
  /-- The controller wants the stack to advertise. -/
  wanted : Bool
  /-- The stack is taken to be advertising. -/
  running : Bool
  /-- The link belongs to a bonded peer, known when it connected or bonded since. -/
  bondedLink : Bool
  /-- The bonds are to be erased once the link is down. -/
  erasePending : Bool
  /-- The profile of the next start of advertising. -/
  profile : Profile
  /-- The window of the latest change of mode. -/
  window : Window
  link : Link
  whitelist : List PeerId
  sequence : Sequence
  /-- The fault of a timer callback, until the next tick reports it. -/
  fault : Option Fault
  ranking : Ranking
  /-- The ranking has changed since it was last stored. -/
  unsaved : Bool
  /-- The failed tries to store the present ranking. -/
  saveTries : Nat
  scanTimer : TimerHandle

def Controller.idle (ranking : Ranking) (scanTimer : TimerHandle) : Controller where
  mode := .idle
  wanted := false
  running := false
  bondedLink := false
  erasePending := false
  profile := .directed
  window := .first
  link := .down
  whitelist := []
  sequence := .fresh
  fault := none
  ranking := ranking
  unsaved := false
  saveTries := 0
  scanTimer := scanTimer

/-- A controller with its timers and its environment. -/
structure Device (ε : Type) extends Controller where
  timers : TimerPool
  env : ε

instance {ε : Type} : HasTimers (Device ε) where
  timers device := device.timers
  setTimers device timers := { device with timers }

abbrev ControlM (ε : Type) := EStateM Fault (Device ε)

namespace Controller

/-- The length of a scan window in milliseconds. -/
def scanTime : UInt32 := 10000

variable {ε : Type}

def ask [RadioStack ε] (request : RadioRequest) : ControlM ε Unit := fun device =>
  let (result, env) := RadioStack.request request device.env
  match tolerate request.tolerated result with
  | .ok () => .ok () { device with env }
  | .error fault => .error fault { device with env }

/-- Writes the ranking to the record store, if it has changed.  A busy store is tried again
later, three times in all; any other failure is reported at once. -/
def saveRanking [RecordStore ε] : ControlM ε Unit := fun device =>
  if device.unsaved then
    let tries := device.saveTries + 1
    let (result, env) := device.ranking.persist device.env
    match result with
    | .ok () => .ok () { device with env, unsaved := false, saveTries := 0 }
    | .error error =>
      if error = .busy ∧ tries < storageTries then
        .ok () { device with env, saveTries := tries }
      else
        .error (.storage error) { device with env, unsaved := false, saveTries := 0 }
  else
    .ok () device

end Controller

end BondedMouse
