import BondedMouse.Controller.Events

/-! # Sessions

A session is a device with the scheduler that runs its scan timer, from one power-up
to the next.  `Operation` lists everything that can be done to it, so that a run is a
list of operations.
-/

namespace BondedMouse

structure Session (ε : Type) where
  device : Device ε
  scheduler : Scheduler (Device ε)

inductive Operation
  | start
  | startSequence
  | setMode (mode : Mode) (target : Option PeerId)
  | event (event : RadioEvent)
  | request (request : Request)
  | tick
  /-- The end of the scan timer, whether or not it is due. -/
  | scanTimeout
  /-- One millisecond passes for the timers. -/
  | timerTick
  /-- The scheduler runs what is ready. -/
  | timerStep
  deriving DecidableEq

namespace Session

variable {ε : Type} [RadioStack ε]

/-- Registers callbacks that do nothing; where no timer is left, none. -/
def reserveTimers (count : Nat) (scheduler : Scheduler (Device ε)) (pool : TimerPool) :
    Scheduler (Device ε) × TimerPool :=
  count.repeat (fun (scheduler, pool) =>
    match scheduler.register pool id with
    | some (_, scheduler, pool) => (scheduler, pool)
    | none => (scheduler, pool)) (scheduler, pool)

/-- A session at power-up, with a number of timers already reserved.  It needs a timer of its
own. -/
def powerUp (ranking : Ranking) (env : ε) (reserved : Nat) : Except Fault (Session ε) :=
  let (scheduler, pool) := reserveTimers reserved (Scheduler.new TimerPool.idle) TimerPool.idle
  match scheduler.register pool Controller.onScanTimer with
  | none => .error .timersExhausted
  | some (scanTimer, scheduler, timers) =>
    .ok ⟨{ Controller.idle ranking scanTimer with timers, env }, scheduler⟩

def control (operation : ControlM ε Unit) (session : Session ε) : Except Fault Unit × Session ε :=
  match operation.run session.device with
  | .ok () device => (.ok (), { session with device })
  | .error fault device => (.error fault, { session with device })

def timerTick (session : Session ε) : Session ε :=
  { session with device := { session.device with timers := session.device.timers.tick } }

def timerStep (session : Session ε) : Session ε :=
  let (scheduler, device) := session.scheduler.step session.device
  ⟨device, scheduler⟩

variable [RecordStore ε]

def perform : Operation → Session ε → Except Fault Unit × Session ε
  | .start => control Controller.start
  | .startSequence => control Controller.startSequence
  | .setMode mode target => control (Controller.setMode mode target)
  | .event event => control (Controller.onEvent event)
  | .request request => control (Controller.onRequest request)
  | .tick => control Controller.tick
  | .scanTimeout => fun session =>
    (.ok (), { session with device := Controller.onScanTimer session.device })
  | .timerTick => fun session => (.ok (), session.timerTick)
  | .timerStep => fun session => (.ok (), session.timerStep)

def millisecond (session : Session ε) : Except Fault Unit × Session ε :=
  session.timerTick.timerStep.perform .tick

/-- Milliseconds of the main loop, up to the first that fails: the last result and how many were
begun, on top of those already done. -/
def runFor : (limit : Nat) → (done : Nat) → Session ε → (Except Fault Unit × Nat) × Session ε
  | 0, done, session => ((.ok (), done), session)
  | limit + 1, done, session =>
    match session.millisecond with
    | (.error fault, session) => ((.error fault, done + 1), session)
    | (.ok (), session) => runFor limit (done + 1) session

end Session

end BondedMouse
