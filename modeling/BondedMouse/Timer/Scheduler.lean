import BondedMouse.Timer.Pool

/-! # The scheduler of callbacks

A scheduler holds the callbacks of the timers that were registered with it and runs
those that are ready.  Callbacks work on a context that holds the timer pool, so a
callback may arm timers, and several schedulers may share one pool.
-/

namespace BondedMouse

/-- Contexts that hold a timer pool. -/
class HasTimers (χ : Type) where
  timers : χ → TimerPool
  setTimers : χ → TimerPool → χ

structure Scheduler (χ : Type) where
  callbacks : Vector (Option (χ → χ)) TimerPool.size
  /-- The count at the last step. -/
  lastTick : UInt32

namespace Scheduler

variable {χ : Type}

/-- A scheduler without callbacks, made at the present count of a pool. -/
def new (pool : TimerPool) : Scheduler χ :=
  ⟨Vector.replicate TimerPool.size none, pool.now⟩

/-- Reserves a timer for a callback; `none` if all are reserved.  It stays reserved for ever. -/
def register (scheduler : Scheduler χ) (pool : TimerPool) (callback : χ → χ) :
    Option (TimerHandle × Scheduler χ × TimerPool) :=
  pool.reserve.map fun (⟨index⟩, pool) =>
    (⟨index⟩, { scheduler with callbacks := scheduler.callbacks.set index (some callback) }, pool)

def callback? (scheduler : Scheduler χ) (index : Fin TimerPool.size) : Option (χ → χ) :=
  scheduler.callbacks[index]

variable [HasTimers χ]

/-- Runs the callback of one timer if it is registered here and ready. -/
def runSlot (scheduler : Scheduler χ) (context : χ) (index : Fin TimerPool.size) : χ :=
  match scheduler.callback? index with
  | none => context
  | some callback =>
    let (ready, pool) := (HasTimers.timers context).popReady ⟨index⟩
    if ready then callback (HasTimers.setTimers context pool) else context

/-- Runs the ready callbacks in the order of their timers. -/
def sweep (scheduler : Scheduler χ) (context : χ) : χ :=
  (List.finRange TimerPool.size).foldl scheduler.runSlot context

/-- Runs the ready callbacks if the count has moved since the last step. -/
def step (scheduler : Scheduler χ) (context : χ) : Scheduler χ × χ :=
  let now := (HasTimers.timers context).now
  if now = scheduler.lastTick then (scheduler, context)
  else ({ scheduler with lastTick := now }, scheduler.sweep context)

end Scheduler

end BondedMouse
