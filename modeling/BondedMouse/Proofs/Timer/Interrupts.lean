import BondedMouse.Proofs.Timer.DueTicks
import Mathlib.Logic.Function.Iterate
import Mathlib.Order.Bounds.Basic

/-! # Arming a timer while ticks interrupt

The tick interrupts the accesses that arm a timer, and nothing interrupts a tick.  So any
number of ticks may come before an access.  From its first access to its last the timer is
not armed, and all ticks between skip it: what the last one makes valid is what was written,
whatever was armed or ready before.  So the timer is left as if it had been armed all at
once where the count was read.

The delay counts from the tick at which the count is read.  When more ticks than that come
before the last access, the timer is over at the first tick behind it.
-/

namespace BondedMouse

/-- How many ticks come before each access of an arm, from the one before it on. -/
structure ArmGaps where
  beforeDisarm : Nat
  beforeClear : Nat
  beforeRead : Nat
  beforeTarget : Nat
  beforeArmed : Nat

namespace ArmGaps

def none : ArmGaps := ⟨0, 0, 0, 0, 0⟩

/-- The ticks up to the access that reads the count. -/
def untilRead (gaps : ArmGaps) : Nat :=
  gaps.beforeDisarm + gaps.beforeClear + gaps.beforeRead

/-- The ticks between the reading of the count and the last access. -/
def sinceRead (gaps : ArmGaps) : Nat :=
  gaps.beforeTarget + gaps.beforeArmed

end ArmGaps

namespace TimerPool

def ticked (pool : TimerPool) (count : Nat) : TimerPool :=
  tick^[count] pool

/-- Arms a timer, with ticks before each of the accesses. -/
def armAmid (pool : TimerPool) (handle : TimerHandle) (delay : UInt32) (gaps : ArmGaps) :
    TimerPool :=
  let pool := (pool.ticked gaps.beforeDisarm).clearArmed handle
  let pool := (pool.ticked gaps.beforeClear).clearReady handle
  let pool := pool.ticked gaps.beforeRead
  let target := pool.targetIn delay
  let pool := (pool.ticked gaps.beforeTarget).setTarget handle target
  (pool.ticked gaps.beforeArmed).setArmed handle

theorem armAmid_none (pool : TimerPool) (handle : TimerHandle) (delay : UInt32) :
    pool.armAmid handle delay .none = pool.arm handle delay := rfl

section Ticked

variable {pool : TimerPool} {handle : TimerHandle}

theorem ticked_succ (pool : TimerPool) (count : Nat) :
    pool.ticked (count + 1) = (pool.ticked count).tick :=
  Function.iterate_succ_apply' tick count pool

@[simp] theorem now_ticked (pool : TimerPool) (count : Nat) :
    (pool.ticked count).now = pool.now + .ofNat count := by
  induction count with
  | zero => simp [ticked]
  | succ count ih =>
    rw [ticked_succ, now_tick, ih, UInt32.ofNat_add, UInt32.add_assoc]
    rfl

@[simp] theorem reserved_ticked (pool : TimerPool) (handle : TimerHandle) (count : Nat) :
    ((pool.ticked count).slot handle).reserved = (pool.slot handle).reserved := by
  induction count with
  | zero => rfl
  | succ count ih => rw [ticked_succ, slot_tick, TimerSlot.reserved_tick, ih]

/-- Ticks skip a timer that is not armed. -/
theorem slot_ticked_of_disarmed (disarmed : (pool.slot handle).armed = false) (count : Nat) :
    (pool.ticked count).slot handle = pool.slot handle := by
  induction count with
  | zero => rfl
  | succ count ih =>
    rw [ticked_succ, slot_tick, ih, TimerSlot.tick, disarmed]
    simp

/-- Behind the ticks a timer that is not armed is changed from where it was before them. -/
theorem slot_update_ticked (disarmed : (pool.slot handle).armed = false) (count : Nat)
    (change : TimerSlot → TimerSlot) :
    ((pool.ticked count).update handle change).slot handle = change (pool.slot handle) := by
  rw [slot_update, if_pos rfl, slot_ticked_of_disarmed disarmed]

end Ticked

section Arm

variable (pool : TimerPool) (handle : TimerHandle) (delay : UInt32) (gaps : ArmGaps)

theorem now_armAmid :
    (pool.armAmid handle delay gaps).now =
      pool.now + .ofNat gaps.untilRead + .ofNat gaps.sinceRead := by
  simp [armAmid, clearArmed, clearReady, setTarget, setArmed, ArmGaps.untilRead,
    ArmGaps.sinceRead, UInt32.ofNat_add, UInt32.add_assoc]

/-- What arming makes of the timer is the same whatever ticks come between the accesses. -/
theorem slot_armAmid :
    (pool.armAmid handle delay gaps).slot handle =
      ⟨pool.now + .ofNat gaps.untilRead + delay, true, false, (pool.slot handle).reserved⟩ := by
  let disarmed := (pool.ticked gaps.beforeDisarm).clearArmed handle
  let cleared := (disarmed.ticked gaps.beforeClear).clearReady handle
  let read := cleared.ticked gaps.beforeRead
  let aimed := (read.ticked gaps.beforeTarget).setTarget handle (read.targetIn delay)
  have disarmed_slot : disarmed.slot handle =
      { (pool.ticked gaps.beforeDisarm).slot handle with armed := false } := by
    simp [disarmed, clearArmed, slot_update]
  have cleared_slot : cleared.slot handle = { disarmed.slot handle with ready := false } :=
    slot_update_ticked (by rw [disarmed_slot]) _ _
  have read_slot : read.slot handle = cleared.slot handle :=
    slot_ticked_of_disarmed (by rw [cleared_slot, disarmed_slot]) _
  have aimed_slot : aimed.slot handle =
      { cleared.slot handle with target := read.targetIn delay } := by
    rw [← read_slot]
    exact slot_update_ticked (by rw [read_slot, cleared_slot, disarmed_slot]) _ _
  have read_now : read.now = pool.now + .ofNat gaps.untilRead := by
    simp [read, cleared, disarmed, clearReady, clearArmed, ArmGaps.untilRead, UInt32.ofNat_add,
      UInt32.add_assoc]
  have target : read.targetIn delay = pool.now + .ofNat gaps.untilRead + delay := by
    simp [targetIn, tickPeriod, read_now]
  have last : (pool.armAmid handle delay gaps).slot handle =
      { aimed.slot handle with armed := true } :=
    slot_update_ticked (by rw [aimed_slot, cleared_slot, disarmed_slot]) _ _
  rw [last, aimed_slot, cleared_slot, disarmed_slot, target]
  simp only [reserved_ticked]

/-- Ticks between the accesses leave the timer as if it had been armed all at once where the count
was read. -/
theorem slot_armAmid_eq_arm :
    (pool.armAmid handle delay gaps).slot handle =
      ((pool.ticked gaps.untilRead).arm handle delay).slot handle := by
  rw [← armAmid_none, slot_armAmid, slot_armAmid, now_ticked, reserved_ticked]
  simp [ArmGaps.none, ArmGaps.untilRead]

end Arm

end TimerPool

/-! ## From the last access to the due tick -/

/-- The number, behind the last access, of the tick at which a timer is due whose count was read
some ticks before. -/
theorem dueTick_since {delay : UInt32} {since : Nat}
    (near : since + 1 + delay.toNat < 2147483648) :
    dueTick (delay - .ofNat since) = max (delay.toNat - since) 1 := by
  have few : since < UInt32.size := by
    rw [UInt32.size]
    omega
  have left : (delay - .ofNat since).toNat =
      (UInt32.size - since + delay.toNat) % UInt32.size := by
    rw [UInt32.toNat_sub, UInt32.toNat_ofNat_of_lt' few]
  rw [UInt32.size] at left
  unfold dueTick
  split <;> omega

/-- Of the ticks behind the last access, the due one is the first that is as many ticks behind the
reading of the count as the delay says, and one at least. -/
theorem isLeast_dueTick {delay : UInt32} {since : Nat}
    (near : since + 1 + delay.toNat < 2147483648) :
    IsLeast {tick | 0 < tick ∧ max delay.toNat 1 ≤ since + tick}
      (dueTick (delay - .ofNat since)) := by
  rw [dueTick_since near]
  constructor
  · simp only [Set.mem_ofPred_eq]
    omega
  · rintro tick ⟨ticked, reached⟩
    omega

/-- Behind its last access the arm is as good as one that was not interrupted and had the rest of
the delay. -/
theorem Underway.of_armAmid (pool : TimerPool) (handle : TimerHandle) (delay : UInt32)
    (gaps : ArmGaps) :
    Underway handle (pool.armAmid handle delay gaps).now (delay - .ofNat gaps.sinceRead) []
      (pool.armAmid handle delay gaps) where
  now := by simp [ticksIn]
  target := by
    have rest : UInt32.ofNat gaps.sinceRead + (delay - .ofNat gaps.sinceRead) = delay := by
      rw [UInt32.add_comm, UInt32.sub_add_cancel]
    rw [TimerPool.slot_armAmid, TimerPool.now_armAmid, UInt32.add_assoc _ (.ofNat gaps.sinceRead),
      rest]
  armed := by simp [TimerPool.slot_armAmid, ticksIn, dueTick_pos]
  ready := by
    simp only [TimerPool.slot_armAmid, Bool.false_eq_true, false_iff]
    exact not_rungUnread_nil

/-- Behind the last access the timer is armed, its target is the tick that was read and the delay,
and nothing is left of what it was set to before, wherever ticks came between the accesses.  Up to
half a turn it then becomes ready exactly once before it is armed again: at the first tick behind
the last access that is as many ticks behind the reading as the delay says, and one at least; and it
is ready from there until it is read. -/
theorem arm_amid_ticks (pool : TimerPool) (handle : TimerHandle) (delay : UInt32) (gaps : ArmGaps)
    (moves : List PoolMove) (spared : ∀ wait, .arm handle wait ∉ moves) :
    let armed := pool.armAmid handle delay gaps
    let later := armed.after moves
    armed.slot handle =
      ⟨pool.now + .ofNat gaps.untilRead + delay, true, false, (pool.slot handle).reserved⟩ ∧
    (gaps.sinceRead + 1 + delay.toNat < 2147483648 →
      ∃ due, IsLeast {tick | 0 < tick ∧ max delay.toNat 1 ≤ gaps.sinceRead + tick} due ∧
        (later.TurnsReady handle ↔ ticksIn moves + 1 = due) ∧
        ((later.slot handle).ready = true ↔
          ∃ early late, moves = early ++ .tick :: late ∧ ticksIn early + 1 = due ∧
            .read handle ∉ late)) := by
  intro armed later
  have underway : Underway handle armed.now (delay - .ofNat gaps.sinceRead) moves later :=
    (Underway.of_armAmid pool handle delay gaps).through spared
  constructor
  · exact pool.slot_armAmid handle delay gaps
  · intro near
    exact ⟨_, isLeast_dueTick near, underway.turnsReady_iff, underway.ready⟩

/-- A timer that is due is armed anew with a delay of two, and a tick comes before each access: the
timer would be over with the second of those behind the reading, and is with the first behind the
last access. -/
theorem arm_amid_ticks_of_due_timer :
    let pool : TimerPool := (TimerPool.idle.arm .first 1)
    let gaps : ArmGaps := ⟨1, 1, 1, 1, 1⟩
    let moves := [.arm ⟨1⟩ 3, .reserve]
    (∀ wait, .arm .first wait ∉ moves) ∧ gaps.sinceRead + 1 + (2 : UInt32).toNat < 2147483648 ∧
      (pool.armAmid .first 2 gaps).slot .first = ⟨5, true, false, false⟩ ∧
      ((pool.armAmid .first 2 gaps).after moves).TurnsReady .first := by
  intro pool gaps moves
  have spared : ∀ wait, PoolMove.arm .first wait ∉ moves := by
    intro wait
    simp [moves, TimerHandle.first]
  have near : gaps.sinceRead + 1 + (2 : UInt32).toNat < 2147483648 := by decide
  obtain ⟨slot, rings⟩ := arm_amid_ticks pool .first 2 gaps moves spared
  obtain ⟨due, least, turns, -⟩ := rings near
  refine ⟨spared, near, slot, turns.2 ?_⟩
  apply Nat.le_antisymm
  · exact least.1.1
  · exact least.2 ⟨by decide, by decide⟩

end BondedMouse
