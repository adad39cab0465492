/-! # The timer pool

A pool counts milliseconds in 32 bits, which wrap, and keeps five one-shot timers.
The tick may come at any time, also between two accesses of `arm`; therefore `arm` is
put together from its single accesses, which a tick can separate.

* `tick` counts one millisecond and turns due timers from armed to ready;
* `arm` sets a timer to a delay from now;
* `popReady` reads and clears the ready mark.
-/

namespace BondedMouse

structure TimerSlot where
  /-- The tick at which the timer is due, while it is armed. -/
  target : UInt32
  armed : Bool
  /-- The timer became due and has not been run. -/
  ready : Bool
  /-- A callback is registered for the timer. -/
  reserved : Bool
  deriving DecidableEq, Repr

namespace TimerSlot

def idle : TimerSlot := ⟨0, false, false, false⟩

/-- The counter has reached the target; of two counts the later one is the one that is less
than half a turn ahead. -/
def isDue (slot : TimerSlot) (now : UInt32) : Bool :=
  decide (0 ≤ (now - slot.target).toInt32)

/-- What the tick that counts `now` makes of a timer. -/
def tick (slot : TimerSlot) (now : UInt32) : TimerSlot :=
  if slot.armed && slot.isDue now then { slot with armed := false, ready := true } else slot

end TimerSlot

abbrev TimerPool.size : Nat := 5

structure TimerHandle where
  index : Fin TimerPool.size
  deriving DecidableEq, Repr

structure TimerPool where
  now : UInt32
  slots : Vector TimerSlot TimerPool.size
  deriving DecidableEq

namespace TimerPool

/-- The length of a tick in milliseconds. -/
def tickPeriod : UInt32 := 1

def idle : TimerPool := ⟨0, Vector.replicate size TimerSlot.idle⟩

def tick (pool : TimerPool) : TimerPool :=
  let now := pool.now + 1
  ⟨now, pool.slots.map (·.tick now)⟩

def slot (pool : TimerPool) (handle : TimerHandle) : TimerSlot :=
  pool.slots[handle.index]

def update (pool : TimerPool) (handle : TimerHandle) (change : TimerSlot → TimerSlot) : TimerPool :=
  { pool with slots := pool.slots.set handle.index (change (pool.slot handle)) }

@[simp] theorem now_tick (pool : TimerPool) : pool.tick.now = pool.now + 1 := rfl

@[simp] theorem slot_tick (pool : TimerPool) (handle : TimerHandle) :
    pool.tick.slot handle = (pool.slot handle).tick (pool.now + 1) := by
  simp [tick, slot]

@[simp] theorem now_update (pool : TimerPool) (handle : TimerHandle)
    (change : TimerSlot → TimerSlot) : (pool.update handle change).now = pool.now := rfl

/-- An update reaches no other timer. -/
theorem slot_update (pool : TimerPool) (handle other : TimerHandle)
    (change : TimerSlot → TimerSlot) :
    (pool.update handle change).slot other =
      if other = handle then change (pool.slot handle) else pool.slot other := by
  obtain ⟨index⟩ := handle
  obtain ⟨place⟩ := other
  simp only [slot, update, Fin.getElem_fin, Vector.getElem_set, TimerHandle.mk.injEq]
  by_cases same : place = index
  · simp [same]
  · have apart : index.val ≠ place.val := fun equal => same (Fin.ext equal.symm)
    simp [same, apart]

/-! ## Arming, access by access -/

def clearArmed (pool : TimerPool) (handle : TimerHandle) : TimerPool :=
  pool.update handle fun slot => { slot with armed := false }

def clearReady (pool : TimerPool) (handle : TimerHandle) : TimerPool :=
  pool.update handle fun slot => { slot with ready := false }

/-- The target of a timer that is armed now. -/
def targetIn (pool : TimerPool) (delay : UInt32) : UInt32 :=
  pool.now + delay / tickPeriod

def setTarget (pool : TimerPool) (handle : TimerHandle) (target : UInt32) : TimerPool :=
  pool.update handle fun slot => { slot with target }

def setArmed (pool : TimerPool) (handle : TimerHandle) : TimerPool :=
  pool.update handle fun slot => { slot with armed := true }

/-- Sets a timer to run once after a delay.  What it was set to before is dropped, also when it
was due and not yet run. -/
def arm (pool : TimerPool) (handle : TimerHandle) (delay : UInt32) : TimerPool :=
  let pool := pool.clearArmed handle
  let pool := pool.clearReady handle
  let target := pool.targetIn delay
  let pool := pool.setTarget handle target
  pool.setArmed handle

@[simp] theorem now_arm (pool : TimerPool) (handle : TimerHandle) (delay : UInt32) :
    (pool.arm handle delay).now = pool.now := rfl

/-- What arming makes of each timer. -/
theorem slot_arm (pool : TimerPool) (handle other : TimerHandle) (delay : UInt32) :
    (pool.arm handle delay).slot other =
      if other = handle then
        ⟨pool.targetIn delay, true, false, (pool.slot handle).reserved⟩
      else
        pool.slot other := by
  by_cases same : other = handle
  · simp [arm, clearArmed, clearReady, setTarget, setArmed, targetIn, slot_update, same]
  · simp [arm, clearArmed, clearReady, setTarget, setArmed, slot_update, same]

/-! ## Registering and running -/

/-- Takes the first timer that is not reserved. -/
def reserve (pool : TimerPool) : Option (TimerHandle × TimerPool) :=
  (pool.slots.findFinIdx? fun slot => !slot.reserved).map fun index =>
    (⟨index⟩, pool.update ⟨index⟩ fun slot => { slot with reserved := true })

/-- Reads and clears the ready mark of a timer. -/
def popReady (pool : TimerPool) (handle : TimerHandle) : Bool × TimerPool :=
  ((pool.slot handle).ready, pool.clearReady handle)

end TimerPool

end BondedMouse
