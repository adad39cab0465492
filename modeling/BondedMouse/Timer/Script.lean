import BondedMouse.Timer.Scheduler

/-! # Scripted callbacks

A stage is a timer pool whose callbacks follow scripts: each of its callbacks notes
that it ran and then does the actions of its script.  A timer service is a stage with
any number of schedulers on its pool.
-/

namespace BondedMouse.Timer

abbrev callbackCount : Nat := 8

inductive Action
  /-- Arms the timer that was registered in the given place of order. -/
  | arm (registration : Nat) (delay : UInt32)
  | ticks (count : Nat)
  deriving DecidableEq, Repr

structure Run where
  callback : Fin callbackCount
  now : UInt32
  deriving DecidableEq, Repr

structure Stage where
  pool : TimerPool
  handles : List TimerHandle
  scripts : Vector (List Action) callbackCount
  runs : List Run

namespace Stage

instance : HasTimers Stage where
  timers stage := stage.pool
  setTimers stage pool := { stage with pool }

def empty : Stage := ⟨TimerPool.idle, [], Vector.replicate callbackCount [], []⟩

def ticks (stage : Stage) (count : Nat) : Stage :=
  { stage with pool := count.repeat TimerPool.tick stage.pool }

/-- Arms a registered timer; `none` if there is none of that number. -/
def arm? (stage : Stage) (registration : Nat) (delay : UInt32) : Option Stage :=
  (stage.handles[registration]?).map fun handle =>
    { stage with pool := stage.pool.arm handle delay }

def act (stage : Stage) : Action → Stage
  | .arm registration delay => (stage.arm? registration delay).getD stage
  | .ticks count => stage.ticks count

/-- The callback of a number: it notes its run and follows its script. -/
def callback (number : Fin callbackCount) (stage : Stage) : Stage :=
  let noted := { stage with runs := stage.runs ++ [⟨number, stage.pool.now⟩] }
  stage.scripts[number].foldl act noted

def setScript (stage : Stage) (number : Fin callbackCount) (script : List Action) : Stage :=
  { stage with scripts := stage.scripts.set number script }

end Stage

structure Service where
  stage : Stage
  schedulers : List (Scheduler Stage)

namespace Service

/-- The service at power-up: one scheduler, nothing registered. -/
def start : Service := ⟨Stage.empty, [Scheduler.new TimerPool.idle]⟩

def addScheduler (service : Service) : Service :=
  { service with schedulers := service.schedulers ++ [Scheduler.new service.stage.pool] }

def register? (service : Service) (scheduler : Nat) (callback : Fin callbackCount) :
    Option (TimerHandle × Service) := do
  let chosen ← service.schedulers[scheduler]?
  let (handle, chosen, pool) ← chosen.register service.stage.pool (Stage.callback callback)
  return (handle,
    { stage := { service.stage with pool, handles := service.stage.handles ++ [handle] }
      schedulers := service.schedulers.set scheduler chosen })

def step (service : Service) (scheduler : Nat) : Service :=
  match service.schedulers[scheduler]? with
  | none => service
  | some chosen =>
    let (chosen, stage) := chosen.step service.stage
    { stage, schedulers := service.schedulers.set scheduler chosen }

/-- Ticks, each followed by a step of a scheduler. -/
def run (service : Service) (count scheduler : Nat) : Service :=
  let millisecond (service : Service) :=
    { service with stage := service.stage.ticks 1 }.step scheduler
  count.repeat millisecond service

end Service

end BondedMouse.Timer
