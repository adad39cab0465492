import BondedMouse.Proofs.Timer.Pool
import Mathlib.Data.List.Induction

/-! # The tick at which a timer is due

A timer that is set to a delay becomes ready at the tick of that number behind the arm,
whatever the count is then; a delay of zero waits for the next tick.  The count wraps,
and of two counts the later one is the one that is less than half a turn ahead.  So a
delay whose target is still more than half a turn ahead at the next tick is over then.

Until the timer is armed again, whatever else is done to the pool changes nothing about
that tick: other timers are armed, timers are read, and timers are reserved.
-/

namespace BondedMouse

/-- What may be done to a pool. -/
inductive PoolMove
  | tick
  | arm (handle : TimerHandle) (delay : UInt32)
  /-- A step of a scheduler reads the ready mark, and clears it. -/
  | read (handle : TimerHandle)
  | reserve
  deriving DecidableEq

namespace TimerPool

def moved (pool : TimerPool) : PoolMove → TimerPool
  | .tick => pool.tick
  | .arm handle delay => pool.arm handle delay
  | .read handle => (pool.popReady handle).2
  | .reserve => (pool.reserve.map Prod.snd).getD pool

def after (pool : TimerPool) (moves : List PoolMove) : TimerPool :=
  moves.foldl moved pool

theorem after_concat (pool : TimerPool) (moves : List PoolMove) (move : PoolMove) :
    pool.after (moves ++ [move]) = (pool.after moves).moved move := by
  simp [after]

/-- The next tick moves the timer from armed to ready. -/
def TurnsReady (pool : TimerPool) (handle : TimerHandle) : Prop :=
  (pool.slot handle).armed = true ∧
    (pool.tick.slot handle).armed = false ∧ (pool.tick.slot handle).ready = true

/-- Reserving changes nothing that a tick looks at. -/
theorem reserve_spares (pool : TimerPool) (handle : TimerHandle) :
    (pool.moved .reserve).now = pool.now ∧
    ∃ reserved, (pool.moved .reserve).slot handle = { pool.slot handle with reserved } := by
  cases taken : pool.reserve with
  | none => exact ⟨by simp [moved, taken], (pool.slot handle).reserved, by simp [moved, taken]⟩
  | some result =>
    have next : pool.moved .reserve = result.2 := by simp [moved, taken]
    obtain ⟨-, updated⟩ := reserve_eq_some taken
    rw [next, updated]
    refine ⟨rfl, ?_⟩
    rw [slot_update]
    split
    · next same => exact ⟨true, by rw [same]⟩
    · exact ⟨(pool.slot handle).reserved, rfl⟩

end TimerPool

/-! ## Delays and ticks -/

/-- The number, behind the arm, of the tick at which a timer is due.  Up to one tick more than half
a turn it is the delay, but no timer is due before the next tick; a longer delay is over then. -/
def dueTick (delay : UInt32) : Nat :=
  if delay.toNat ≤ 2147483649 then max delay.toNat 1 else 1

theorem dueTick_pos (delay : UInt32) : 0 < dueTick delay := by
  unfold dueTick
  split <;> omega

/-- Up to the due tick, a timer is found due at that tick alone. -/
theorem TimerSlot.isDue_at {slot : TimerSlot} {start delay : UInt32} {ticks : Nat}
    (target : slot.target = start + delay) (ticked : 0 < ticks) (soon : ticks ≤ dueTick delay) :
    slot.isDue (start + .ofNat ticks) = decide (ticks = dueTick delay) := by
  have below := delay.toNat_lt
  -- The count is at its due tick, before it, or one past a delay of zero: then the target is ahead
  -- by all but one of a whole turn.
  have few : ticks < UInt32.size := by
    rw [UInt32.size]
    unfold dueTick at soon
    split at soon <;> omega
  let ahead := (delay.toNat + (UInt32.size - ticks)) % UInt32.size
  have turn : ahead < UInt32.size := Nat.mod_lt _ (by decide)
  have split_delay : delay = .ofNat ticks + .ofNat ahead := by
    apply UInt32.toNat_inj.1
    rw [UInt32.toNat_add, UInt32.toNat_ofNat_of_lt' few, UInt32.toNat_ofNat_of_lt' turn]
    simp only [ahead, UInt32.size] at *
    omega
  rw [Bool.eq_iff_iff, decide_eq_true_eq,
    isDue_iff (by rw [target, UInt32.add_assoc, ← split_delay]) turn]
  simp only [ahead, UInt32.size] at *
  unfold dueTick at *
  by_cases short : delay.toNat ≤ 2147483649
  · rw [if_pos short] at *
    omega
  · rw [if_neg short] at *
    omega

/-! ## From the arm to the due tick -/

/-- The ticks among some moves. -/
def ticksIn (moves : List PoolMove) : Nat :=
  moves.count .tick

/-- The due tick was among the moves, and the timer has not been read since. -/
def RungUnread (handle : TimerHandle) (delay : UInt32) (moves : List PoolMove) : Prop :=
  ∃ early late, moves = early ++ .tick :: late ∧ ticksIn early + 1 = dueTick delay ∧
    .read handle ∉ late

section Moves

variable {handle : TimerHandle} {delay : UInt32} {moves : List PoolMove} {move : PoolMove}

theorem ticksIn_concat (moves : List PoolMove) (move : PoolMove) :
    ticksIn (moves ++ [move]) = ticksIn moves + if move = .tick then 1 else 0 := by
  simp [ticksIn, List.count_singleton]

theorem not_rungUnread_nil : ¬ RungUnread handle delay [] := by
  rintro ⟨early, late, parts, -⟩
  simp at parts

theorem rungUnread_concat_iff :
    RungUnread handle delay (moves ++ [move]) ↔
      (move = .tick ∧ ticksIn moves + 1 = dueTick delay) ∨
      (RungUnread handle delay moves ∧ move ≠ .read handle) := by
  constructor
  · rintro ⟨early, late, parts, due, unread⟩
    obtain rfl | ⟨later, last, rfl⟩ := late.eq_nil_or_concat
    · obtain ⟨rfl, same⟩ := List.append_inj' parts rfl
      exact .inl ⟨by simpa using same, due⟩
    · rw [List.concat_eq_append] at *
      rw [← List.cons_append, ← List.append_assoc] at parts
      obtain ⟨rfl, same⟩ := List.append_inj' parts rfl
      obtain rfl : move = last := by simpa using same
      simp only [List.mem_append, List.mem_singleton, not_or] at unread
      exact .inr ⟨⟨early, later, rfl, due, unread.1⟩, fun own => unread.2 own.symm⟩
  · rintro (⟨rfl, due⟩ | ⟨⟨early, late, rfl, due, unread⟩, other⟩)
    · exact ⟨moves, [], rfl, due, by simp⟩
    · refine ⟨early, late ++ [move], by simp, due, ?_⟩
      simp only [List.mem_append, List.mem_singleton, not_or]
      exact ⟨unread, fun own => other own.symm⟩

/-- What is known of a timer after its arm, until it is armed again. -/
structure Underway (handle : TimerHandle) (start delay : UInt32) (moves : List PoolMove)
    (pool : TimerPool) : Prop where
  now : pool.now = start + .ofNat (ticksIn moves)
  target : (pool.slot handle).target = start + delay
  armed : (pool.slot handle).armed = decide (ticksIn moves < dueTick delay)
  ready : (pool.slot handle).ready = true ↔ RungUnread handle delay moves

namespace Underway

variable {start : UInt32} {pool : TimerPool}

theorem of_arm (pool : TimerPool) (handle : TimerHandle) (delay : UInt32) :
    Underway handle pool.now delay [] (pool.arm handle delay) where
  now := by simp [ticksIn]
  target := by
    rw [TimerPool.slot_arm, if_pos rfl]
    show pool.now + delay / TimerPool.tickPeriod = _
    simp [TimerPool.tickPeriod]
  armed := by simp [TimerPool.slot_arm, ticksIn, dueTick_pos]
  ready := by
    simp only [TimerPool.slot_arm, if_pos, Bool.false_eq_true, false_iff]
    exact not_rungUnread_nil

/-- A move that is no tick, and leaves target and marks of the timer. -/
theorem beside {after : TimerPool} (underway : Underway handle start delay moves pool)
    (quiet : move ≠ .tick) (other : move ≠ .read handle) (now : after.now = pool.now)
    (target : (after.slot handle).target = (pool.slot handle).target)
    (armed : (after.slot handle).armed = (pool.slot handle).armed)
    (ready : (after.slot handle).ready = (pool.slot handle).ready) :
    Underway handle start delay (moves ++ [move]) after where
  now := by rw [now, underway.now, ticksIn_concat, if_neg quiet, Nat.add_zero]
  target := target.trans underway.target
  armed := by rw [armed, underway.armed, ticksIn_concat, if_neg quiet, Nat.add_zero]
  ready := by
    rw [ready, underway.ready, rungUnread_concat_iff]
    simp [quiet, other]

theorem isDue (underway : Underway handle start delay moves pool)
    (waits : ticksIn moves < dueTick delay) :
    (pool.slot handle).isDue (pool.now + 1) = decide (ticksIn moves + 1 = dueTick delay) := by
  have next : pool.now + 1 = start + .ofNat (ticksIn moves + 1) := by
    rw [underway.now, UInt32.ofNat_add, UInt32.add_assoc]
    rfl
  rw [next]
  exact TimerSlot.isDue_at underway.target (Nat.succ_pos _) waits

theorem tick (underway : Underway handle start delay moves pool) :
    Underway handle start delay (moves ++ [.tick]) pool.tick where
  now := by
    rw [TimerPool.now_tick, underway.now, ticksIn_concat, if_pos rfl, UInt32.ofNat_add,
      UInt32.add_assoc]
    rfl
  target := by
    rw [TimerPool.slot_tick, TimerSlot.tick, ← underway.target]
    split <;> rfl
  armed := by
    rw [TimerPool.slot_tick, TimerSlot.armed_tick, underway.armed, ticksIn_concat, if_pos rfl]
    by_cases waits : ticksIn moves < dueTick delay
    · rw [underway.isDue waits]
      grind
    · grind
  ready := by
    rw [TimerPool.slot_tick, TimerSlot.ready_tick, rungUnread_concat_iff, ← underway.ready,
      underway.armed]
    by_cases waits : ticksIn moves < dueTick delay
    · rw [underway.isDue waits]
      grind
    · grind

theorem armedOther (underway : Underway handle start delay moves pool) {other : TimerHandle}
    (apart : handle ≠ other) (wait : UInt32) :
    Underway handle start delay (moves ++ [.arm other wait]) (pool.arm other wait) := by
  have spared : (pool.arm other wait).slot handle = pool.slot handle := by
    rw [TimerPool.slot_arm, if_neg apart]
  exact underway.beside nofun nofun rfl (by rw [spared]) (by rw [spared]) (by rw [spared])

theorem read (underway : Underway handle start delay moves pool) (other : TimerHandle) :
    Underway handle start delay (moves ++ [.read other]) (pool.popReady other).2 := by
  by_cases own : handle = other
  · subst own
    have cleared : (pool.popReady handle).2.slot handle = { pool.slot handle with ready := false } := by
      rw [TimerPool.slot_popReady, if_pos rfl]
    refine ⟨?_, ?_, ?_, ?_⟩
    · rw [ticksIn_concat, if_neg nofun, Nat.add_zero]
      exact underway.now
    · rw [cleared]
      exact underway.target
    · rw [cleared, ticksIn_concat, if_neg nofun, Nat.add_zero]
      exact underway.armed
    · rw [cleared, rungUnread_concat_iff]
      simp
  · have spared : (pool.popReady other).2.slot handle = pool.slot handle := by
      rw [TimerPool.slot_popReady, if_neg own]
    exact underway.beside nofun (fun same => own (PoolMove.read.inj same).symm) rfl
      (by rw [spared]) (by rw [spared]) (by rw [spared])

theorem reserved (underway : Underway handle start delay moves pool) :
    Underway handle start delay (moves ++ [.reserve]) (pool.moved .reserve) := by
  obtain ⟨now, reserved, slot⟩ := pool.reserve_spares handle
  exact underway.beside nofun nofun now (by rw [slot]) (by rw [slot]) (by rw [slot])

theorem moved (underway : Underway handle start delay moves pool)
    (spares : ∀ wait, move ≠ .arm handle wait) :
    Underway handle start delay (moves ++ [move]) (pool.moved move) := by
  cases move with
  | tick => exact underway.tick
  | arm other wait => exact underway.armedOther (fun own => spares wait (by rw [own])) wait
  | read other => exact underway.read other
  | reserve => exact underway.reserved

theorem through (underway : Underway handle start delay [] pool)
    (spared : ∀ wait, .arm handle wait ∉ moves) :
    Underway handle start delay moves (pool.after moves) := by
  induction moves using List.reverseRecOn with
  | nil => exact underway
  | append_singleton moves move ih =>
    rw [TimerPool.after_concat]
    have before := ih fun wait member => spared wait (List.mem_append_left _ member)
    exact before.moved fun wait same => spared wait (by simp [same])

theorem after (pool : TimerPool) (handle : TimerHandle) (delay : UInt32) (moves : List PoolMove)
    (spared : ∀ wait, .arm handle wait ∉ moves) :
    Underway handle pool.now delay moves ((pool.arm handle delay).after moves) :=
  (of_arm pool handle delay).through spared

/-- The due tick is the next one, or it is not. -/
theorem turnsReady_iff (underway : Underway handle start delay moves pool) :
    pool.TurnsReady handle ↔ ticksIn moves + 1 = dueTick delay := by
  have armed := underway.tick.armed
  have ready := underway.tick.ready
  rw [ticksIn_concat, if_pos rfl] at armed
  rw [rungUnread_concat_iff] at ready
  simp only [TimerPool.TurnsReady, underway.armed, armed, ready, decide_eq_true_eq,
    decide_eq_false_iff_not]
  constructor
  · rintro ⟨waits, gone, -⟩
    omega
  · intro due
    exact ⟨by omega, by omega, .inl ⟨trivial, due⟩⟩

end Underway

end Moves

/-- To arm a timer leaves all others alone and drops what it was set to before, also an expiry that
was not run yet.  Until it is armed again, the timer is armed before its due tick, the due tick and
no other moves it from armed to ready, and it is ready from there until it is read. -/
theorem timer_due_at_its_tick (pool : TimerPool) (handle : TimerHandle) (delay : UInt32)
    (moves : List PoolMove) (spared : ∀ wait, .arm handle wait ∉ moves) :
    let armed := pool.arm handle delay
    let later := armed.after moves
    (∀ other ≠ handle, armed.slot other = pool.slot other) ∧
    (armed.slot handle).armed = true ∧ (armed.slot handle).ready = false ∧
    ((later.slot handle).armed = true ↔ ticksIn moves < dueTick delay) ∧
    ((later.slot handle).ready = true ↔ RungUnread handle delay moves) ∧
    (later.TurnsReady handle ↔ ticksIn moves + 1 = dueTick delay) := by
  intro armed later
  have underway : Underway handle pool.now delay moves later := .after pool handle delay moves spared
  refine ⟨fun other apart => ?_, ?_, ?_, ?_, underway.ready, underway.turnsReady_iff⟩
  · rw [TimerPool.slot_arm, if_neg apart]
  · simp [armed, TimerPool.slot_arm]
  · simp [armed, TimerPool.slot_arm]
  · rw [underway.armed, decide_eq_true_eq]

/-- A delay of five from three ticks before the count wraps: another timer is armed on the way, and
the fifth tick is the due one. -/
theorem timer_due_across_the_wrap :
    let pool : TimerPool := { TimerPool.idle with now := 4294967293 }
    let moves := [.tick, .arm ⟨1⟩ 3, .tick, .read .first, .tick, .reserve, .tick]
    (∀ wait, .arm .first wait ∉ moves) ∧
      ((pool.arm .first 5).after moves).now = 1 ∧
      ((pool.arm .first 5).after moves).TurnsReady .first := by
  intro pool moves
  have spared : ∀ wait, PoolMove.arm .first wait ∉ moves := by
    intro wait
    simp [moves, TimerHandle.first]
  obtain ⟨-, -, -, -, -, turns⟩ := timer_due_at_its_tick pool .first 5 moves spared
  exact ⟨spared, by decide +kernel, turns.2 (by decide)⟩

end BondedMouse
