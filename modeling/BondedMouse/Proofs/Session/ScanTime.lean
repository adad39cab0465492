import BondedMouse.Proofs.Session.ScanTimer
import BondedMouse.Proofs.Session.Targets

/-! # How long a scan window lasts

Ticks are counted along a run: since the window in force was opened, since the latest step
of the scheduler, and the most that ever came between two steps.  While a scan lasts its
timer knows the first of these numbers (`AlarmAt`); and as long as the count does not go
round between two steps, the scheduler knows the second.
-/

namespace BondedMouse

/-! ## The alarm -/

/-- The timer was armed for a scan, some ticks ago. -/
structure AlarmAt (age : Nat) (handle : TimerHandle) (pool : TimerPool) : Prop where
  early : age < Controller.scanTime.toNat → (pool.slot handle).armed = true ∧
    (pool.slot handle).ready = false ∧
      (pool.slot handle).target = pool.now + .ofNat (Controller.scanTime.toNat - age)
  late : Controller.scanTime.toNat ≤ age → (pool.slot handle).ready = true

namespace AlarmAt

variable {age : Nat} {handle : TimerHandle} {pool other : TimerPool}

theorem arm (handle : TimerHandle) (pool : TimerPool) :
    AlarmAt 0 handle (pool.arm handle Controller.scanTime) := by
  refine ⟨fun _ => ?_, fun late => absurd late (by decide)⟩
  rw [TimerPool.slot_arm, if_pos rfl]
  exact ⟨rfl, rfl, rfl⟩

theorem untouched (alarm : AlarmAt age handle pool) (same : Untouched handle pool other) :
    AlarmAt age handle other where
  early := by
    rw [same.slot, same.now]
    exact alarm.early
  late := by
    rw [same.slot]
    exact alarm.late

theorem tick (alarm : AlarmAt age handle pool) : AlarmAt (age + 1) handle pool.tick := by
  -- The target is ahead by what is left of the scan, up to the tick at which nothing is left.
  have target : age < Controller.scanTime.toNat → (pool.slot handle).target =
      pool.now + 1 + .ofNat (Controller.scanTime.toNat - (age + 1)) := by
    intro young
    have left : Controller.scanTime.toNat - age = 1 + (Controller.scanTime.toNat - (age + 1)) := by
      omega
    rw [(alarm.early young).2.2, left, UInt32.ofNat_add, ← UInt32.add_assoc]
    rfl
  have near : 2 * (Controller.scanTime.toNat - (age + 1)) < UInt32.size := by
    have bounded : 2 * Controller.scanTime.toNat < UInt32.size := by decide
    omega
  refine ⟨fun young => ?_, fun old => ?_⟩
  · have younger : age < Controller.scanTime.toNat := by omega
    obtain ⟨armed, unready, -⟩ := alarm.early younger
    have waits : (pool.slot handle).isDue (pool.now + 1) = false := by
      rw [TimerSlot.isDue_ahead (target younger) near]
      exact decide_eq_false (by omega)
    rw [TimerPool.slot_tick, TimerSlot.tick, waits, Bool.and_false]
    exact ⟨armed, unready, target younger⟩
  · rw [TimerPool.slot_tick, TimerSlot.ready_tick]
    by_cases before : Controller.scanTime.toNat ≤ age
    · simp [alarm.late before]
    · have younger : age < Controller.scanTime.toNat := by omega
      have due : (pool.slot handle).isDue (pool.now + 1) = true := by
        rw [TimerSlot.isDue_ahead (target younger) near]
        exact decide_eq_true (by omega)
      simp [(alarm.early younger).1, due]

end AlarmAt

variable {ε : Type}

/-! ## The step of the scheduler -/

/-- What a step means for the window in force, where it reads the timer. -/
inductive Heeds (device last : Device ε) : Prop
  | waits (unready : (device.timers.slot device.scanTimer).ready = false)
      (same : last.window = device.window) (mode : last.mode = device.mode)
      (untouched : Untouched device.scanTimer device.timers last.timers)
  /-- The timer was armed by an earlier scan. -/
  | ignored (quiet : device.mode ≠ .scan) (same : last.window = device.window)
      (mode : last.mode = device.mode)
  | ended (ready : (device.timers.slot device.scanTimer).ready = true) (scan : device.mode = .scan)
      (numbered : last.window ≠ device.window)
      (opens : last.mode = .scan → AlarmAt 0 device.scanTimer last.timers)

namespace Heeds

variable {device last : Device ε} {age : Nat}

theorem alarm (heeds : Heeds device last)
    (alarm : device.mode = .scan → AlarmAt age device.scanTimer device.timers)
    (scan : last.mode = .scan) :
    AlarmAt (if last.window = device.window then age else 0) device.scanTimer last.timers := by
  cases heeds with
  | waits unready same mode untouched =>
    rw [if_pos same]
    exact (alarm (mode.symm.trans scan)).untouched untouched
  | ignored quiet same mode => exact absurd (mode.symm.trans scan) quiet
  | ended ready was numbered opens =>
    rw [if_neg numbered]
    exact opens scan

/-- Behind a step no scan is older than its time: a timer that was not ready had not come to its
target. -/
theorem young (heeds : Heeds device last)
    (alarm : device.mode = .scan → AlarmAt age device.scanTimer device.timers)
    (scan : last.mode = .scan) :
    (if last.window = device.window then age else 0) < Controller.scanTime.toNat := by
  cases heeds with
  | waits unready same mode untouched =>
    rw [if_pos same]
    refine Nat.lt_of_not_le fun late => ?_
    simp [(alarm (mode.symm.trans scan)).late late] at unready
  | ignored quiet same mode => exact absurd (mode.symm.trans scan) quiet
  | ended ready was numbered opens =>
    rw [if_neg numbered]
    decide

theorem late_of_ended (heeds : Heeds device last)
    (alarm : device.mode = .scan → AlarmAt age device.scanTimer device.timers)
    (ends : last.window ≠ device.window) :
    device.mode = .scan ∧ Controller.scanTime.toNat ≤ age := by
  cases heeds with
  | waits unready same mode untouched => exact absurd same ends
  | ignored quiet same mode => exact absurd same ends
  | ended ready scan numbered opens =>
    refine ⟨scan, Nat.le_of_not_lt fun early => ?_⟩
    simp [((alarm scan).early early).2.1] at ready

theorem ended_of_late (heeds : Heeds device last) (scan : device.mode = .scan)
    (alarm : AlarmAt age device.scanTimer device.timers)
    (late : Controller.scanTime.toNat ≤ age) : last.window ≠ device.window := by
  cases heeds with
  | waits unready same mode untouched => simp [alarm.late late] at unready
  | ignored quiet same mode => exact absurd scan quiet
  | ended ready was numbered opens => exact numbered

end Heeds

theorem Session.timerStep_still {session : Session ε}
    (still : session.device.timers.now = session.scheduler.lastTick) :
    session.timerStep = session := by
  have stands : (HasTimers.timers session.device).now = session.scheduler.lastTick := still
  rw [Session.timerStep, Scheduler.step]
  simp only [if_pos stands]

theorem Session.timerStep_moved {session : Session ε}
    (moved : session.device.timers.now ≠ session.scheduler.lastTick) :
    session.timerStep = ⟨session.scheduler.sweep session.device,
      { session.scheduler with lastTick := session.device.timers.now }⟩ := by
  have moves : (HasTimers.timers session.device).now ≠ session.scheduler.lastTick := moved
  rw [Session.timerStep, Scheduler.step]
  simp only [if_neg moves]
  rfl

section Reads

variable [RadioStack ε] {device last : Device ε}

theorem Reads.keeps (reads : Reads device last) :
    last.scanTimer = device.scanTimer ∧ last.timers.now = device.timers.now := by
  cases reads with
  | waits unready untouched => exact ⟨rfl, untouched.now⟩
  | rings ready popped rings behind =>
    have arms := rings.course.arms
    exact ⟨arms.scanTimer, behind.now.trans (arms.now.trans popped.now)⟩

theorem Session.Hooked.timerStep {session : Session ε} (hooked : session.Hooked) :
    session.timerStep.Hooked := by
  by_cases still : session.device.timers.now = session.scheduler.lastTick
  · rwa [Session.timerStep_still still]
  · rw [Session.timerStep_moved still]
    exact hooked.of_same rfl hooked.sweep_reads.keeps.1

theorem Reads.heeds (reads : Reads device last)
    (scanning : device.mode = .scan → device.sequence.phase = .scanning)
    (recorded : ∀ error, last.fault ≠ some (.stack error)) : Heeds device last := by
  cases reads with
  | waits unready untouched => exact .waits unready rfl rfl untouched
  | @rings before after rung ready popped rings behind =>
    by_cases scan : device.mode = .scan
    · have numbered : rung.window ≠ device.window := rings.numbered ⟨scan, scanning scan⟩ recorded
      refine .ended ready scan numbered fun opened => ?_
      have armed : rung.timers = before.arm device.scanTimer Controller.scanTime :=
        rings.course.arms.opens numbered opened
      exact (armed ▸ AlarmAt.arm device.scanTimer before).untouched behind
    · cases rings with
      | ignored quiet => exact .ignored scan rfl rfl
      | closed mode | failed mode => exact absurd mode scan

end Reads

/-! ## Counting ticks -/

/-- What is counted along a run. -/
structure TickCount where
  /-- The ticks since the window in force was opened. -/
  age : Nat
  /-- The ticks since the latest step of the scheduler. -/
  waited : Nat
  /-- The most ticks that ever came without a step between them. -/
  longest : Nat

section Schedule

variable [RadioStack ε]

/-- The timer, the scheduler and the scan go by the same counts. -/
structure OnTime (count : TickCount) (session : Session ε) : Prop where
  hooked : session.Hooked
  counts : session.device.timers.now = session.scheduler.lastTick + .ofNat count.waited
  patient : count.waited ≤ count.longest
  alarm : session.device.mode = .scan →
    AlarmAt count.age session.device.scanTimer session.device.timers
  prompt : session.device.mode = .scan → count.longest < UInt32.size →
    count.age < Controller.scanTime.toNat + count.waited

namespace OnTime

variable {count : TickCount} {session : Session ε}

/-- What arms the timer where a scan opens leaves it on time. -/
theorem arms (onTime : OnTime count session) {after : Device ε} (arms : Arms session.device after)
    (age : Nat) (aged : age = if after.window = session.device.window then count.age else 0) :
    OnTime ⟨age, count.waited, count.longest⟩ ⟨after, session.scheduler⟩ where
  hooked := onTime.hooked.of_same rfl arms.scanTimer
  counts := by
    rw [arms.now]
    exact onTime.counts
  patient := onTime.patient
  alarm := by
    intro scan
    by_cases same : after.window = session.device.window
    · obtain ⟨mode, timers⟩ := arms.stays same
      rw [aged, if_pos same, timers, arms.scanTimer]
      exact onTime.alarm (mode.symm.trans scan)
    · rw [aged, if_neg same, arms.opens same scan, arms.scanTimer]
      exact .arm _ _
  prompt := by
    intro scan fewer
    by_cases same : after.window = session.device.window
    · rw [aged, if_pos same]
      exact onTime.prompt ((arms.stays same).1.symm.trans scan) fewer
    · rw [aged, if_neg same]
      exact Nat.add_pos_left (by decide) _

theorem tick (onTime : OnTime count session) :
    OnTime ⟨count.age + 1, count.waited + 1, max count.longest (count.waited + 1)⟩
      session.timerTick where
  hooked := onTime.hooked.of_same rfl rfl
  counts := by
    change session.device.timers.now + 1 = session.scheduler.lastTick + _
    rw [onTime.counts, UInt32.ofNat_add, UInt32.add_assoc]
    rfl
  patient := Nat.le_max_right _ _
  alarm := fun scan => (onTime.alarm scan).tick
  prompt := by
    intro scan fewer
    have before := onTime.prompt scan (Nat.lt_of_le_of_lt (Nat.le_max_left _ _) fewer)
    change count.age + 1 < _ + (count.waited + 1)
    omega

theorem waited_eq_zero (onTime : OnTime count session) (fewer : count.longest < UInt32.size)
    (still : session.device.timers.now = session.scheduler.lastTick) : count.waited = 0 :=
  ticks_eq_zero onTime.counts (Nat.lt_of_le_of_lt onTime.patient fewer) still

theorem step (onTime : OnTime count session)
    (scanning : session.device.mode = .scan → session.device.sequence.phase = .scanning)
    (recorded : ∀ error, session.timerStep.device.fault ≠ some (.stack error)) (age : Nat)
    (aged : age = if session.timerStep.device.window = session.device.window then count.age else 0) :
    OnTime ⟨age, 0, count.longest⟩ session.timerStep := by
  by_cases still : session.device.timers.now = session.scheduler.lastTick
  · rw [Session.timerStep_still still] at aged ⊢
    rw [if_pos rfl] at aged
    subst aged
    refine ⟨onTime.hooked, by simpa using still, Nat.zero_le _, onTime.alarm, fun scan fewer => ?_⟩
    have prompt := onTime.prompt scan fewer
    rw [onTime.waited_eq_zero fewer still] at prompt
    exact prompt
  · rw [Session.timerStep_moved still] at aged recorded ⊢
    have reads := onTime.hooked.sweep_reads
    have heeds := reads.heeds scanning recorded
    obtain ⟨scanTimer, now⟩ := reads.keeps
    generalize session.scheduler.sweep session.device = last at aged heeds scanTimer now ⊢
    rw [aged]
    refine ⟨onTime.hooked.of_same rfl scanTimer, by simpa using now, Nat.zero_le _,
      fun scan => ?_, fun scan fewer => ?_⟩
    · change AlarmAt _ last.scanTimer last.timers
      rw [scanTimer]
      exact heeds.alarm onTime.alarm scan
    · exact heeds.young onTime.alarm scan

theorem ends (onTime : OnTime count session)
    (scanning : session.device.mode = .scan → session.device.sequence.phase = .scanning)
    (recorded : ∀ error, session.timerStep.device.fault ≠ some (.stack error))
    (ends : session.timerStep.device.window ≠ session.device.window) :
    session.device.mode = .scan ∧ Controller.scanTime.toNat ≤ count.age := by
  by_cases still : session.device.timers.now = session.scheduler.lastTick
  · rw [Session.timerStep_still still] at ends
    exact absurd rfl ends
  · rw [Session.timerStep_moved still] at ends recorded
    exact (onTime.hooked.sweep_reads.heeds scanning recorded).late_of_ended onTime.alarm ends

theorem ends_of_late (onTime : OnTime count session)
    (scanning : session.device.mode = .scan → session.device.sequence.phase = .scanning)
    (recorded : ∀ error, session.timerStep.device.fault ≠ some (.stack error))
    (scan : session.device.mode = .scan) (fewer : count.longest < UInt32.size)
    (late : Controller.scanTime.toNat ≤ count.age) :
    session.timerStep.device.window ≠ session.device.window := by
  have prompt := onTime.prompt scan fewer
  have moved : session.device.timers.now ≠ session.scheduler.lastTick := fun still => by
    have none := onTime.waited_eq_zero fewer still
    omega
  rw [Session.timerStep_moved moved] at recorded ⊢
  exact (onTime.hooked.sweep_reads.heeds scanning recorded).ended_of_late scan (onTime.alarm scan) late

end OnTime

end Schedule

/-! ## Runs -/

section Counting

variable [RadioStack ε] [RecordStore ε]

def TickCount.next (count : TickCount) (session : Session ε) (move : Move ε) : TickCount :=
  let age := if (session.moved move).2.device.window = session.device.window then count.age else 0
  match move with
  | .operation .timerTick =>
    ⟨age + 1, count.waited + 1, max count.longest (count.waited + 1)⟩
  | .operation .timerStep => ⟨age, 0, count.longest⟩
  | _ => ⟨age, count.waited, count.longest⟩

/-- Moves of which the stack refuses nothing, with their ticks counted. -/
inductive TimedRun (started : Session ε) : TickCount → Session ε → Prop
  | start : TimedRun started ⟨0, 0, 0⟩ started
  | move {count : TickCount} {session : Session ε} (run : TimedRun started count session)
      (move : Move ε) (untroubled : session.Untroubled move) :
      TimedRun started (count.next session move) (session.moved move).2

/-- The session with another count of its timers, as if some time had gone by. -/
def Session.startingAt (session : Session ε) (now : UInt32) : Session ε :=
  ⟨{ session.device with timers := { session.device.timers with now } },
    { session.scheduler with lastTick := now }⟩

theorem Session.moved_arms {session : Session ε} (wired : session.Wired) {move : Move ε}
    (untimed : move ≠ .operation .timerTick ∧ move ≠ .operation .timerStep) :
    Arms session.device (session.moved move).2.device := by
  by_cases regular : move.Regular
  · exact (Session.moved_goes wired regular).arms untimed
  · cases move with
    | outside env => exact absurd trivial regular
    | operation operation =>
      cases operation with
      | setMode mode target =>
        rw [Session.moved, Session.perform, Session.control_device]
        exact setMode_arms mode target session.device
      | _ => exact absurd trivial regular

theorem Session.moved_untimed (session : Session ε) {move : Move ε}
    (untimed : move ≠ .operation .timerStep) :
    (session.moved move).2 = ⟨(session.moved move).2.device, session.scheduler⟩ := by
  have controlled : ∀ operation : ControlM ε Unit, (session.control operation).2 =
      ⟨(session.control operation).2.device, session.scheduler⟩ := by
    intro operation
    rw [Session.control_apply]
    cases operation session.device <;> rfl
  cases move with
  | outside env => rfl
  | operation operation =>
    cases operation with
    | timerStep => exact absurd rfl untimed
    | scanTimeout | timerTick => rfl
    | start | startSequence | setMode | event | request | tick => exact controlled _

theorem TickCount.next_untimed (count : TickCount) (session : Session ε) {move : Move ε}
    (untimed : move ≠ .operation .timerTick ∧ move ≠ .operation .timerStep) :
    count.next session move =
      ⟨if (session.moved move).2.device.window = session.device.window then count.age else 0,
        count.waited, count.longest⟩ := by
  cases move with
  | outside env => rfl
  | operation operation =>
    cases operation with
    | timerTick => exact absurd rfl untimed.1
    | timerStep => exact absurd rfl untimed.2
    | start | startSequence | setMode | event | request | tick | scanTimeout => rfl

theorem OnTime.moved {sound : Ranking → Prop} {count : TickCount} {session : Session ε}
    (onTime : OnTime count session) (calm : Calm sound session.device) {move : Move ε}
    (untroubled : session.Untroubled move) :
    OnTime (count.next session move) (session.moved move).2 := by
  by_cases ticks : move = .operation .timerTick
  · subst ticks
    have aged : count.next session (.operation .timerTick) =
        ⟨count.age + 1, count.waited + 1, max count.longest (count.waited + 1)⟩ := by
      simp [TickCount.next, Session.moved, Session.perform, Session.timerTick]
    rw [aged]
    exact onTime.tick
  by_cases steps : move = .operation .timerStep
  · subst steps
    exact onTime.step (fun scan => (calm.scan scan).1) untroubled.recorded _ rfl
  · have untimed : move ≠ .operation .timerTick ∧ move ≠ .operation .timerStep := ⟨ticks, steps⟩
    rw [count.next_untimed session untimed, session.moved_untimed steps]
    exact onTime.arms (Session.moved_arms onTime.hooked.wired untimed) _ rfl

theorem TimedRun.clean {started session : Session ε} {count : TickCount}
    (run : TimedRun started count session) : CleanRun started session := by
  induction run with
  | start => exact .start
  | move run move untroubled ih => exact .move ih move untroubled

theorem TimedRun.onTime {sound : Ranking → Prop} (closed : Ranking.Closed sound)
    {started session : Session ε} {count : TickCount} (run : TimedRun started count session)
    (calm : Calm sound started.device) (onTime : OnTime ⟨0, 0, 0⟩ started) :
    OnTime count session := by
  induction run with
  | start => exact onTime
  | move run move untroubled ih =>
    exact ih.moved (run.clean.calm closed onTime.hooked.wired calm) untroubled

omit [RecordStore ε] in
theorem OnTime.startingAt {ranking : Ranking} {env : ε} {reserved : Nat} {powered : Session ε}
    (powerUp : Session.powerUp ranking env reserved = .ok powered) (now : UInt32) :
    OnTime ⟨0, 0, 0⟩ (powered.startingAt now) := by
  have hooked := Session.powerUp_hooked powerUp
  have quiet : (powered.startingAt now).device.mode ≠ .scan := by
    obtain ⟨-, scanTimer, timers, device⟩ := Session.powerUp_eq_ok powerUp
    simp [Session.startingAt, device, Controller.idle]
  exact ⟨hooked.of_same rfl rfl, by simp [Session.startingAt], Nat.le_refl 0,
    fun scan => absurd scan quiet, fun scan => absurd scan quiet⟩

/-- A step of the scheduler ends a scan window no earlier than the time of a scan after it was
opened.  If the count never goes round between two steps, the first step from then on ends the
window; if there is a step for every tick, that is the step behind the last tick of this time. -/
theorem scan_lasts_its_time {ranking : Ranking} {env : ε} {reserved : Nat}
    {powered session : Session ε} (powerUp : Session.powerUp ranking env reserved = .ok powered)
    (now : UInt32) {count : TickCount} (run : TimedRun (powered.startingAt now) count session)
    (untroubled : session.Untroubled (.operation .timerStep)) :
    (session.Ends (.operation .timerStep) →
      session.device.mode = .scan ∧ Controller.scanTime.toNat ≤ count.age) ∧
    (session.device.mode = .scan → count.longest < UInt32.size →
      (session.Ends (.operation .timerStep) ↔ Controller.scanTime.toNat ≤ count.age)) ∧
    (session.device.mode = .scan → count.longest ≤ 1 →
      (session.Ends (.operation .timerStep) ↔ count.age = Controller.scanTime.toNat)) := by
  have start := OnTime.startingAt powerUp now
  have calm : Calm (fun _ => True) powered.device := .powerUp powerUp trivial
  have waiting : Calm (fun _ => True) (powered.startingAt now).device := { calm with }
  have onTime := run.onTime .trivial waiting start
  have scanning := run.clean.calm .trivial start.hooked.wired waiting
  have phase : session.device.mode = .scan → session.device.sequence.phase = .scanning :=
    fun scan => (scanning.scan scan).1
  have early := onTime.ends phase untroubled.recorded
  have late := onTime.ends_of_late phase untroubled.recorded
  refine ⟨early, fun scan fewer => ⟨fun ends => (early ends).2, late scan fewer⟩,
    fun scan paced => ?_⟩
  have fewer : count.longest < UInt32.size := Nat.lt_of_le_of_lt paced (by decide)
  have prompt := onTime.prompt scan fewer
  have patient := onTime.patient
  refine ⟨fun ends => ?_, fun aged => late scan fewer (Nat.le_of_eq aged.symm)⟩
  have old := (early ends).2
  omega

/-- Ticks alone change nothing but the timers. -/
def Session.ticked (session : Session ε) (ticks : Nat) : Session ε :=
  { session with device := { session.device with
    timers := ticks.repeat TimerPool.tick session.device.timers } }

theorem TimedRun.ticked {started session : Session ε} (run : TimedRun started ⟨0, 0, 0⟩ session)
    (clear : session.device.fault = none) (ticks : Nat) :
    TimedRun started ⟨ticks, ticks, ticks⟩ (session.ticked ticks) := by
  induction ticks with
  | zero => exact run
  | succ ticks ih =>
    have untroubled : (session.ticked ticks).Untroubled (.operation .timerTick) := by
      refine ⟨nofun, fun error => ?_⟩
      simp [Session.ticked, Session.moved, Session.perform, Session.timerTick, clear]
    have counted : TickCount.next ⟨ticks, ticks, ticks⟩ (session.ticked ticks)
        (.operation .timerTick) = ⟨ticks + 1, ticks + 1, ticks + 1⟩ := by
      simp [TickCount.next, Session.moved, Session.perform, Session.timerTick]
    have next := ih.move (.operation .timerTick) untroubled
    rw [counted] at next
    exact next

end Counting

section Bench

open Simulation

/-- The count is about to go round. -/
def lateBench : Session Platform := rankedBench.startingAt 0xFFFFF000

def lateScan : Session Platform := (lateBench.moved (.operation .start)).2

/-- Whatever the timers show, the step is refused nothing. -/
theorem lateScan_step_clear (timers : TimerPool) :
    (Session.timerStep ⟨{ lateScan.device with timers }, lateScan.scheduler⟩).device.fault = none := by
  by_cases still : timers.now = lateScan.scheduler.lastTick
  · rw [Session.timerStep_still still]
    rfl
  · rw [Session.timerStep_moved still]
    have swept : lateScan.scheduler.sweep { lateScan.device with timers } =
        if (timers.slot .first).ready then
          Controller.onScanTimer { lateScan.device with timers := (timers.popReady .first).2 }
        else { lateScan.device with timers } := rfl
    rw [swept]
    split <;> rfl

/-- Nobody answers the scan, and it ends at the step behind its last tick. -/
theorem scan_ends_by_its_timer :
    (lateScan.ticked 10000).device.mode = .scan ∧
      (lateScan.ticked 10000).Ends (.operation .timerStep) := by
  have started : TimedRun lateBench ⟨0, 0, 0⟩ lateScan := by
    have returned : (lateBench.moved (.operation .start)).1 = .ok () := rfl
    have clear : (lateBench.moved (.operation .start)).2.device.fault = none := rfl
    have counted : TickCount.next ⟨0, 0, 0⟩ lateBench (.operation .start) = ⟨0, 0, 0⟩ := by
      simp [TickCount.next]
    have untroubled : lateBench.Untroubled (.operation .start) :=
      ⟨by simp [returned], by simp [clear]⟩
    have run := TimedRun.start.move (.operation .start) untroubled
    rw [counted] at run
    exact run
  have untroubled : ∀ ticks, (lateScan.ticked ticks).Untroubled (.operation .timerStep) := by
    refine fun ticks => ⟨nofun, fun error recorded => ?_⟩
    exact absurd ((lateScan_step_clear _).symm.trans recorded) nofun
  have scan : ∀ ticks, (lateScan.ticked ticks).device.mode = .scan := fun _ => rfl
  have run := started.ticked rfl 10000
  have lasts := (scan_lasts_its_time (Session.powerUp_fresh _ _) _ run (untroubled 10000)).2.1
  exact ⟨scan 10000, (lasts (scan 10000) (by decide)).2 (by decide)⟩

end Bench

end BondedMouse
