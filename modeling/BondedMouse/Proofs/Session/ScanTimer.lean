import BondedMouse.Proofs.Session.Courses
import Mathlib.Data.List.Nodup

/-! # The scan timer

One timer serves all scan windows.  It is armed by whatever opens a scan, and by nothing
else; it is read by the step of the scheduler, and by nothing else.  `Arms` is the first
half, for every operation of the controller, and `Reads` the second.
-/

namespace BondedMouse

variable {ε : Type}

/-! ## Who arms the timer -/

/-- The timers change where a scan opens, and there the scan timer is armed. -/
structure Arms (device after : Device ε) : Prop where
  scanTimer : after.scanTimer = device.scanTimer
  now : after.timers.now = device.timers.now
  stays : after.window = device.window → after.mode = device.mode ∧ after.timers = device.timers
  opens : after.window ≠ device.window → after.mode = .scan →
    after.timers = device.timers.arm device.scanTimer Controller.scanTime

namespace Arms

variable {device middle after : Device ε}

/-- No window was opened. -/
theorem of_same (same : SameCourse device after) : Arms device after where
  scanTimer := same.scanTimer
  now := by rw [same.timers]
  stays := fun _ => ⟨same.mode, same.timers⟩
  opens := fun opened => absurd same.window opened

/-- A window was opened that is no scan. -/
theorem of_other (scanTimer : after.scanTimer = device.scanTimer)
    (timers : after.timers = device.timers) (numbered : after.window ≠ device.window)
    (quiet : after.mode ≠ .scan) : Arms device after where
  scanTimer := scanTimer
  now := by rw [timers]
  stays := fun same => absurd same numbered
  opens := fun _ scan => absurd scan quiet

theorem then_same (arms : Arms device middle) (same : SameCourse middle after) :
    Arms device after where
  scanTimer := same.scanTimer.trans arms.scanTimer
  now := by rw [same.timers, arms.now]
  stays := by
    rw [same.window, same.mode, same.timers]
    exact arms.stays
  opens := by
    rw [same.window, same.mode, same.timers]
    exact arms.opens

/-- What is armed does not depend on the sequence. -/
theorem of_beside (arms : Arms middle after) (window : middle.window = device.window)
    (timers : middle.timers = device.timers) (scanTimer : middle.scanTimer = device.scanTimer)
    (mode : middle.mode = device.mode) : Arms device after where
  scanTimer := arms.scanTimer.trans scanTimer
  now := by rw [arms.now, timers]
  stays := by
    rw [← window, ← mode, ← timers]
    exact arms.stays
  opens := by
    rw [← window, ← timers, ← scanTimer]
    exact arms.opens

theorem rest (device : Device ε) : Arms device device.forRest :=
  .of_other rfl rfl device.window.next_ne nofun

theorem pairing (device : Device ε) : Arms device device.forPairing :=
  .of_other rfl rfl device.window.next_ne nofun

theorem peer (device : Device ε) (peer : PeerId) : Arms device (device.forPeer peer) :=
  .of_other rfl rfl device.window.next_ne nofun

section Described

variable [RadioStack ε]

theorem scan (device : Device ε) : Arms device device.forScan := by
  unfold Device.forScan
  dsimp only
  split
  · exact .of_other rfl rfl device.window.next_next_ne nofun
  · exact ⟨rfl, rfl, fun same => absurd same device.window.next_ne, fun _ _ => rfl⟩

theorem anyBonded (device : Device ε) : Arms device device.forAnyBonded := by
  unfold Device.forAnyBonded
  dsimp only
  split
  · exact .of_other rfl rfl device.window.next_next_ne nofun
  · exact .of_other rfl rfl device.window.next_ne nofun

theorem counted_scan (device : Device ε) : Arms device device.counted.forScan := by
  unfold Device.forScan
  dsimp only
  split
  · exact .of_other rfl rfl device.window.next_next_next_ne nofun
  · exact ⟨rfl, rfl, fun same => absurd same device.window.next_next_ne, fun _ _ => rfl⟩

theorem targets (device : Device ε) : Arms device device.forTargets := by
  unfold Device.forTargets
  dsimp only
  split
  · exact (peer _ _).of_beside rfl rfl rfl rfl
  · exact (scan _).of_beside rfl rfl rfl rfl

theorem next (device : Device ε) : Arms device device.forNext := by
  unfold Device.forNext
  dsimp only
  split
  · exact (peer _ _).of_beside rfl rfl rfl rfl
  · exact (scan _).of_beside rfl rfl rfl rfl
  · exact (anyBonded _).of_beside rfl rfl rfl rfl

theorem sequence (device : Device ε) : Arms device device.forSequence :=
  (scan _).of_beside rfl rfl rfl rfl

end Described

end Arms

section Operations

variable [RadioStack ε] {device after : Device ε} {clean : Prop}

theorem Follows.arms {described : Device ε} (follows : Follows device described) :
    Arms device described := by
  cases follows with
  | rest => exact .rest device
  | pairing => exact .pairing device
  | targets scans same =>
    exact (Arms.targets _).of_beside same.window same.timers same.scanTimer same.mode
  | completed scans peer same =>
    exact (Arms.targets _).of_beside same.window same.timers same.scanTimer same.mode

theorem Course.arms (course : Course device clean after) : Arms device after := by
  cases course with
  | stays same => exact .of_same same
  | noted scans peer same => exact (Arms.of_same same).of_beside rfl rfl rfl rfl
  | opened follows same => exact follows.arms.then_same same

theorem Goes.arms {move : Move ε} (goes : Goes device move clean after)
    (untimed : move ≠ .operation .timerTick ∧ move ≠ .operation .timerStep) :
    Arms device after := by
  cases goes with
  | on course => exact course.arms
  | clocked timed => exact absurd timed (not_or.2 untimed)
  | turned expires mode phase same =>
    exact ((Arms.next _).then_same same).of_beside rfl rfl rfl rfl
  | restarted resets restarts =>
    obtain ⟨same, opened, wish⟩ := restarts
    have fresh := (Arms.sequence _).then_same opened
    exact fresh.of_beside same.window same.timers same.scanTimer same.mode
  | released request up same => exact .of_same same

open Controller

theorem setMode_arms (mode : Mode) (target : Option PeerId) (device : Device ε) :
    Arms device (final (setMode mode target device)) := by
  cases mode with
  | idle =>
    have silenced : SameCourse device.forRest device.forRest.silenced := ⟨rfl, rfl, rfl, rfl, rfl⟩
    exact (Arms.rest device).then_same (silenced.trans (silence_asks device.forRest).sameCourse)
  | pairing => exact (Arms.pairing device).then_same (putInForce_sameCourse _)
  | scan =>
    rw [setMode, openScan_apply]
    exact (Arms.scan device).then_same (putInForce_sameCourse _)
  | anyBonded =>
    rw [setMode, openAnyBonded_apply]
    exact (Arms.anyBonded device).then_same (putInForce_sameCourse _)
  | directed =>
    cases target with
    | some peer => exact (Arms.peer device peer).then_same (putInForce_sameCourse _)
    | none =>
      change Arms device (final (openScan device.counted))
      rw [openScan_apply]
      exact (Arms.counted_scan device).then_same (putInForce_sameCourse _)

end Operations

/-! ## Who reads the timer -/

/-- The count and one timer are the same in both pools. -/
structure Untouched (handle : TimerHandle) (pool other : TimerPool) : Prop where
  now : other.now = pool.now
  slot : other.slot handle = pool.slot handle

namespace Untouched

variable {handle : TimerHandle} {pool middle other : TimerPool}

theorem refl (handle : TimerHandle) (pool : TimerPool) : Untouched handle pool pool := ⟨rfl, rfl⟩

theorem trans (first : Untouched handle pool middle) (rest : Untouched handle middle other) :
    Untouched handle pool other :=
  ⟨rest.now.trans first.now, rest.slot.trans first.slot⟩

theorem popReady (untouched : Untouched handle pool other) :
    Untouched handle (pool.popReady handle).2 (other.popReady handle).2 where
  now := untouched.now
  slot := by simp only [TimerPool.slot_popReady, if_true, untouched.slot]

theorem of_popReady {place : TimerHandle} (apart : handle ≠ place) :
    Untouched handle pool (pool.popReady place).2 where
  now := rfl
  slot := by rw [TimerPool.slot_popReady, if_neg apart]

end Untouched

/-- A sweep comes to each place once. -/
theorem TimerPool.places_around (place : Fin TimerPool.size) :
    ∃ front back, List.finRange TimerPool.size = front ++ place :: back ∧
      place ∉ front ∧ place ∉ back := by
  obtain ⟨front, back, places⟩ := List.append_of_mem (List.mem_finRange place)
  have distinct := List.nodup_finRange TimerPool.size
  rw [places, List.nodup_middle, List.nodup_cons, List.mem_append, not_or] at distinct
  exact ⟨front, back, places, distinct.1⟩

/-- The scheduler runs the scan timer at the place that the controller arms. -/
structure Session.Hooked [RadioStack ε] (session : Session ε) : Prop where
  rings : session.scheduler.callback? session.device.scanTimer.index = some Controller.onScanTimer
  idles : ∀ (other : Fin TimerPool.size) (idle : Device ε → Device ε),
    other ≠ session.device.scanTimer.index →
      session.scheduler.callback? other = some idle → idle = id

section Steps

variable [RadioStack ε]

/-- What a step of the scheduler makes of a device, with regard to the scan timer. -/
inductive Reads (device : Device ε) : Device ε → Prop
  | waits {timers : TimerPool} (unready : (device.timers.slot device.scanTimer).ready = false)
      (untouched : Untouched device.scanTimer device.timers timers) :
      Reads device { device with timers }
  | rings {before after : TimerPool} {rung : Device ε}
      (ready : (device.timers.slot device.scanTimer).ready = true)
      (popped : Untouched device.scanTimer (device.timers.popReady device.scanTimer).2 before)
      (rings : Rings { device with timers := before } rung)
      (behind : Untouched device.scanTimer rung.timers after) :
      Reads device { rung with timers := after }

namespace Session.Hooked

variable {session : Session ε}

theorem wired (hooked : session.Hooked) : session.Wired := ⟨_, hooked.rings, hooked.idles⟩

/-- It does not depend on the rest of the device, nor on the last step. -/
theorem of_same (hooked : session.Hooked) {after : Session ε}
    (callbacks : after.scheduler.callbacks = session.scheduler.callbacks)
    (scanTimer : after.device.scanTimer = session.device.scanTimer) : after.Hooked := by
  obtain ⟨rings, idles⟩ := hooked
  unfold Scheduler.callback? at rings idles
  rw [← callbacks, ← scanTimer] at rings idles
  exact ⟨rings, idles⟩

theorem runSlot_other (hooked : session.Hooked) {place : Fin TimerPool.size}
    (other : place ≠ session.device.scanTimer.index) (device : Device ε) :
    ∃ timers, session.scheduler.runSlot device place = { device with timers } ∧
      Untouched session.device.scanTimer device.timers timers := by
  unfold Scheduler.runSlot
  cases held : session.scheduler.callback? place with
  | none => exact ⟨device.timers, rfl, .refl _ _⟩
  | some callback =>
    cases hooked.idles place callback other held
    dsimp only
    split
    · refine ⟨_, rfl, .of_popReady fun same => ?_⟩
      exact other (congrArg TimerHandle.index same).symm
    · exact ⟨device.timers, rfl, .refl _ _⟩

theorem foldl_other (hooked : session.Hooked) {places : List (Fin TimerPool.size)}
    (others : session.device.scanTimer.index ∉ places) (device : Device ε) :
    ∃ timers, places.foldl session.scheduler.runSlot device = { device with timers } ∧
      Untouched session.device.scanTimer device.timers timers := by
  induction places generalizing device with
  | nil => exact ⟨device.timers, rfl, .refl _ _⟩
  | cons place places ih =>
    rw [List.mem_cons, not_or] at others
    obtain ⟨first, ran, here⟩ := hooked.runSlot_other (Ne.symm others.1) device
    obtain ⟨last, swept, rest⟩ := ih others.2 { device with timers := first }
    exact ⟨last, by rw [List.foldl_cons, ran, swept], here.trans rest⟩

theorem runSlot_own (hooked : session.Hooked) (device : Device ε) :
    session.scheduler.runSlot device session.device.scanTimer.index =
      if (device.timers.slot session.device.scanTimer).ready then
        Controller.onScanTimer
          { device with timers := (device.timers.popReady session.device.scanTimer).2 }
      else device := by
  unfold Scheduler.runSlot
  rw [hooked.rings]
  rfl

theorem sweep_reads (hooked : session.Hooked) :
    Reads session.device (session.scheduler.sweep session.device) := by
  -- The places before that of the scan timer, and those behind it, do not touch it.
  obtain ⟨front, back, places, inFront, inBack⟩ :=
    TimerPool.places_around session.device.scanTimer.index
  rw [Scheduler.sweep, places, List.foldl_append, List.foldl_cons]
  obtain ⟨before, ran, untouched⟩ := hooked.foldl_other inFront session.device
  rw [ran, hooked.runSlot_own, untouched.slot]
  split
  · next ready =>
    obtain ⟨after, swept, behind⟩ := hooked.foldl_other inBack (Controller.onScanTimer
      { session.device with timers := (before.popReady session.device.scanTimer).2 })
    rw [swept]
    exact .rings ready untouched.popReady (Controller.onScanTimer_rings _) behind
  · next unready =>
    obtain ⟨after, swept, behind⟩ := hooked.foldl_other inBack { session.device with timers := before }
    rw [swept]
    exact .waits (by simpa using unready) (untouched.trans behind)

end Session.Hooked

theorem Rings.numbered {device last : Device ε} (rings : Rings device last)
    (scans : device.mode = .scan ∧ device.sequence.phase = .scanning)
    (recorded : ∀ error, last.fault ≠ some (.stack error)) : last.window ≠ device.window := by
  cases rings with
  | ignored quiet => exact absurd scans quiet
  | closed mode phase closes ok =>
    cases closes with
    | refused refuses => cases ok
    | @turned env answers =>
      have opened := (putInForce_sameCourse { device.silenced with env }.forTargets).window
      rw [ok] at opened
      have numbered := (Describes.targets { device.silenced with env }).numbered
      rw [← opened] at numbered
      exact numbered
  | failed mode phase closes error =>
    obtain ⟨refusal, rfl⟩ := closes.error error
    exact absurd rfl (recorded refusal)

theorem Session.powerUp_hooked {ranking : Ranking} {env : ε} {reserved : Nat} {session : Session ε}
    (powered : Session.powerUp ranking env reserved = .ok session) : session.Hooked := by
  obtain ⟨scanTimer, timers, device, rings, idles⟩ := Session.powerUp_served powered
  constructor <;> rw [device] <;> assumption

end Steps

end BondedMouse
