import BondedMouse.Timer.Scheduler

/-! # The timers of a pool

What ticks, reserving and reading do to the marks of a timer, as equations, and what
registering does to the callbacks of a scheduler.
-/

namespace BondedMouse

namespace TimerSlot

@[simp] theorem reserved_tick (slot : TimerSlot) (now : UInt32) :
    (slot.tick now).reserved = slot.reserved := by
  unfold tick
  split <;> rfl

@[simp] theorem armed_tick (slot : TimerSlot) (now : UInt32) :
    (slot.tick now).armed = (slot.armed && !slot.isDue now) := by
  unfold tick
  split <;> simp_all

@[simp] theorem ready_tick (slot : TimerSlot) (now : UInt32) :
    (slot.tick now).ready = (slot.ready || slot.armed && slot.isDue now) := by
  unfold tick
  split <;> simp_all

/-- A target is due when it is reached, and also when it lies ahead by more than half a turn: then
it counts as behind. -/
theorem isDue_iff {slot : TimerSlot} {now : UInt32} {ahead : Nat}
    (target : slot.target = now + .ofNat ahead) (turn : ahead < UInt32.size) :
    slot.isDue now = true ↔ ahead = 0 ∨ UInt32.size < 2 * ahead := by
  have behind : (now - slot.target).toNat = (UInt32.size - ahead) % UInt32.size := by
    rw [target, UInt32.toNat_sub, UInt32.toNat_add, UInt32.toNat_ofNat_of_lt' turn]
    have below := now.toNat_lt
    rw [UInt32.size] at *
    omega
  have signed : (now - slot.target).toInt32.toInt =
      ((UInt32.size - ahead : Nat) : Int).bmod UInt32.size := by
    change (now - slot.target).toBitVec.toInt = _
    rw [BitVec.toInt_eq_toNat_bmod, UInt32.toNat_toBitVec, behind, Int.natCast_emod]
    exact Int.emod_bmod _ _
  rw [isDue, decide_eq_true_eq, Int32.le_iff_toInt_le, signed, Int.bmod_def]
  change 0 ≤ _ ↔ _
  rw [UInt32.size] at *
  split <;> omega

/-- A target that lies ahead, by less than half a turn, is not due before it is reached. -/
theorem isDue_ahead {slot : TimerSlot} {now : UInt32} {ahead : Nat}
    (target : slot.target = now + .ofNat ahead) (near : 2 * ahead < UInt32.size) :
    slot.isDue now = decide (ahead = 0) := by
  rw [Bool.eq_iff_iff, isDue_iff target (by omega), decide_eq_true_eq]
  omega

end TimerSlot

/-- A count that stands where it stood some ticks ago has not moved, unless it went round. -/
theorem ticks_eq_zero {now last : UInt32} {ticks : Nat} (counted : now = last + .ofNat ticks)
    (few : ticks < UInt32.size) (still : now = last) : ticks = 0 := by
  have none : UInt32.ofNat ticks = 0 := by
    rw [still] at counted
    simpa using counted.symm
  simpa [UInt32.toNat_ofNat_of_lt' few] using congrArg UInt32.toNat none

theorem TimerPool.size_pos : 0 < TimerPool.size := by decide

def TimerHandle.first : TimerHandle := ⟨⟨0, TimerPool.size_pos⟩⟩

theorem TimerHandle.index_injective : Function.Injective TimerHandle.index :=
  fun _ _ same => congrArg TimerHandle.mk same

namespace TimerPool

variable {pool after : TimerPool} {handle : TimerHandle}

theorem slot_popReady (pool : TimerPool) (handle other : TimerHandle) :
    (pool.popReady handle).2.slot other =
      if other = handle then { pool.slot handle with ready := false } else pool.slot other := by
  simp [popReady, clearReady, slot_update]

theorem reserve_eq_some (reserved : pool.reserve = some (handle, after)) :
    (pool.slot handle).reserved = false ∧
      after = pool.update handle fun slot => { slot with reserved := true } := by
  simp only [reserve, Option.map_eq_some_iff, Prod.mk.injEq] at reserved
  obtain ⟨index, found, rfl, rfl⟩ := reserved
  simp only [Vector.findFinIdx?, Option.map_eq_some_iff, Array.findFinIdx?_eq_some_iff] at found
  obtain ⟨place, ⟨free, -⟩, rfl⟩ := found
  exact ⟨by simpa [slot] using free, rfl⟩

theorem reserve_eq_none_iff :
    pool.reserve = none ↔ ∀ handle, (pool.slot handle).reserved = true := by
  simp only [reserve, Option.map_eq_none_iff, Vector.findFinIdx?, Array.findFinIdx?_eq_none_iff]
  constructor
  · intro taken handle
    simpa using taken (pool.slot handle) (by simp [slot])
  · intro taken slot member
    obtain ⟨place, inside, rfl⟩ := Array.mem_iff_getElem.1 member
    have reserved := taken ⟨⟨place, by simpa using inside⟩⟩
    simpa [slot] using reserved

theorem reserve_idle :
    idle.reserve = some (.first, idle.update .first fun slot => { slot with reserved := true }) := by
  decide +kernel

end TimerPool

namespace Scheduler

variable {χ : Type}

@[simp] theorem callback?_new (pool : TimerPool) (place : Fin TimerPool.size) :
    (new pool : Scheduler χ).callback? place = none := by
  simp [callback?, new]

theorem register_eq_some {scheduler next : Scheduler χ} {pool after : TimerPool}
    {callback : χ → χ} {handle : TimerHandle}
    (registered : scheduler.register pool callback = some (handle, next, after)) :
    pool.reserve = some (handle, after) ∧ next.lastTick = scheduler.lastTick := by
  simp only [register, Option.map_eq_some_iff, Prod.exists, Prod.mk.injEq] at registered
  obtain ⟨_, _, reserved, rfl, rfl, rfl⟩ := registered
  exact ⟨reserved, rfl⟩

theorem callbacks_register {scheduler next : Scheduler χ} {pool after : TimerPool}
    {callback : χ → χ} {handle : TimerHandle}
    (registered : scheduler.register pool callback = some (handle, next, after))
    (place : Fin TimerPool.size) :
    next.callback? place =
      if place = handle.index then some callback else scheduler.callback? place := by
  simp only [register, Option.map_eq_some_iff, Prod.exists, Prod.mk.injEq] at registered
  obtain ⟨_, _, -, rfl, rfl, rfl⟩ := registered
  simp only [callback?, Fin.getElem_fin, Vector.getElem_set, Fin.ext_iff, eq_comm]

end Scheduler

end BondedMouse
