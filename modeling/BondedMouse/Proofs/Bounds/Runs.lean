import BondedMouse.Proofs.Bounds.Counters
import BondedMouse.Proofs.Firmware.Backing
import BondedMouse.Proofs.Session.ScanTime

/-! # No guard fails

A rig is all of the firmware that counts in bytes or keeps arrays: the session of the
controller, and the budget of the saves.  It is moved on by the moves of the session and
by the results of saves, both of them in any order and with any outcome.

From power-up on the guarded rig goes every step that the rig goes, and between two steps
the rig is within its bounds.  The invariant is `Rig.Sound`; it says more than the bounds
do, since a counter is within its limit only because of the mode that steps it.
-/

namespace BondedMouse

/-! ## Guarded moves -/

section Moves

variable {ε : Type} [RadioStack ε]

namespace Guarded

def control (operation : GuardedM ε Unit) (session : Session ε) :
    Option (Except Fault Unit × Session ε) :=
  match operation.run session.device with
  | .ok () device => some (.ok (), { session with device })
  | .error (.fault fault) device => some (.error fault, { session with device })
  | .error .halted _ => none

/-- Runs the callback of one timer.  That of the scan timer is the only one with guards. -/
def runSlot (session : Session ε) (device : Device ε) (place : Fin TimerPool.size) :
    Option (Device ε) :=
  if place = session.device.scanTimer.index then
    let (ready, timers) := device.timers.popReady session.device.scanTimer
    if ready then onScanTimer { device with timers } else some device
  else
    some (session.scheduler.runSlot device place)

def sweep (session : Session ε) : Option (Device ε) :=
  (List.finRange TimerPool.size).foldlM (runSlot session) session.device

def timerStep (session : Session ε) : Option (Session ε) :=
  if session.device.timers.now = session.scheduler.lastTick then
    some session
  else do
    let device ← sweep session
    return ⟨device, { session.scheduler with lastTick := session.device.timers.now }⟩

omit [RadioStack ε] in
theorem control_eq {guarded : GuardedM ε Unit} {operation : ControlM ε Unit} {session : Session ε}
    (agrees : Agrees guarded operation session.device) :
    control guarded session = some (session.control operation) := by
  have ran : guarded.run session.device = GuardedM.plain operation session.device := agrees
  rw [control, ran, GuardedM.plain, Session.control_apply]
  cases operation session.device <;> rfl

variable {session : Session ε}

theorem foldlM_others {places : List (Fin TimerPool.size)}
    (others : session.device.scanTimer.index ∉ places) (device : Device ε) :
    places.foldlM (runSlot session) device =
      some (places.foldl session.scheduler.runSlot device) := by
  induction places generalizing device with
  | nil => rfl
  | cons place places ih =>
    rw [List.mem_cons, not_or] at others
    have here : runSlot session device place = some (session.scheduler.runSlot device place) :=
      if_neg (Ne.symm others.1)
    rw [List.foldlM_cons, here]
    exact ih others.2 _

theorem runSlot_own (hooked : session.Hooked) {device : Device ε} (bounds : InBounds device) :
    runSlot session device session.device.scanTimer.index =
      some (session.scheduler.runSlot device session.device.scanTimer.index) := by
  have popped : InBounds { device with
      timers := (device.timers.popReady session.device.scanTimer).2 } := { bounds with }
  rw [hooked.runSlot_own, runSlot, if_pos rfl]
  by_cases ready : (device.timers.slot session.device.scanTimer).ready = true
  · rw [if_pos ready]
    exact (if_pos ready).trans (onScanTimer_eq popped)
  · rw [if_neg ready]
    exact if_neg ready

theorem sweep_eq (hooked : session.Hooked) (bounds : InBounds session.device) :
    sweep session = some (session.scheduler.sweep session.device) := by
  obtain ⟨front, back, places, inFront, inBack⟩ :=
    TimerPool.places_around session.device.scanTimer.index
  obtain ⟨timers, ran, -⟩ := hooked.foldl_other inFront session.device
  have waiting : InBounds { session.device with timers } := { bounds with }
  -- Before its own place the scan timer finds the device as it was, but for the timers.
  rw [sweep, Scheduler.sweep, places, List.foldlM_append, List.foldl_append, List.foldl_cons,
    foldlM_others inFront, ran]
  change (session.device.scanTimer.index :: back).foldlM (runSlot session) _ = _
  rw [List.foldlM_cons, runSlot_own hooked waiting]
  exact foldlM_others inBack _

theorem timerStep_eq (hooked : session.Hooked) (bounds : InBounds session.device) :
    timerStep session = some session.timerStep := by
  unfold timerStep
  split
  · next still => rw [Session.timerStep_still still]
  · next moved =>
    rw [Session.timerStep_moved moved, sweep_eq hooked bounds]
    rfl

variable [RecordStore ε]

def perform : Operation → Session ε → Option (Except Fault Unit × Session ε)
  | .start => control start
  | .startSequence => control startSequence
  | .setMode mode target => control (setMode mode target)
  | .event event => control (onEvent event)
  | .request request => control (onRequest request)
  | .tick => control tick
  | .scanTimeout => fun session =>
    (onScanTimer session.device).map fun device => (.ok (), { session with device })
  | .timerTick => fun session => some (.ok (), session.timerTick)
  | .timerStep => fun session => (timerStep session).map fun session => (.ok (), session)

def moved (session : Session ε) : Move ε → Option (Except Fault Unit × Session ε)
  | .operation operation => perform operation session
  | .outside env => some (session.moved (.outside env))

/-- On a session within its bounds no guard fails, whatever the move. -/
theorem moved_eq (hooked : session.Hooked) (bounds : InBounds session.device) (move : Move ε) :
    moved session move = some (session.moved move) := by
  cases move with
  | outside env => rfl
  | operation operation =>
    cases operation with
    | start => exact control_eq (start_agrees bounds)
    | startSequence => exact control_eq (startSequence_agrees _)
    | setMode mode target => exact control_eq (setMode_agrees mode target _)
    | event event => exact control_eq (onEvent_agrees bounds event)
    | request request => exact control_eq (onRequest_agrees request _)
    | tick => exact control_eq (tick_agrees bounds)
    | scanTimeout => exact congrArg (Option.map _) (onScanTimer_eq bounds)
    | timerTick => rfl
    | timerStep => exact congrArg (Option.map _) (timerStep_eq hooked bounds)

end Guarded

theorem Session.Hooked.moved [RecordStore ε] {session : Session ε} (hooked : session.Hooked)
    (move : Move ε) : (session.moved move).2.Hooked := by
  by_cases steps : move = .operation .timerStep
  · subst steps
    exact hooked.timerStep
  by_cases ticks : move = .operation .timerTick
  · subst ticks
    exact hooked.of_same rfl rfl
  have arms := Session.moved_arms hooked.wired ⟨ticks, steps⟩
  rw [session.moved_untimed steps]
  exact hooked.of_same rfl arms.scanTimer

end Moves

/-! ## Rigs -/

/-- What counts in bytes and keeps arrays. -/
structure Rig (ε : Type) where
  session : Session ε
  budget : SaveBudget

/-- What moves a rig on. -/
inductive Stride (ε : Type)
  | move (move : Move ε)
  /-- A save was tried, with this result. -/
  | saved (result : Except StorageError Unit)

section Rigs

variable {ε : Type} [RadioStack ε] [RecordStore ε]

/-- The strides of the firmware, which never sets a mode itself. -/
def Stride.Regular : Stride ε → Prop
  | .move step => step.Regular
  | .saved _ => True

namespace Rig

def taken (rig : Rig ε) : Stride ε → Rig ε
  | .move move => { rig with session := (rig.session.moved move).2 }
  | .saved result => { rig with budget := (rig.budget.count result).2 }

def after (rig : Rig ε) (strides : List (Stride ε)) : Rig ε :=
  strides.foldl taken rig

end Rig

namespace Guarded

def taken (rig : Rig ε) : Stride ε → Option (Rig ε)
  | .move move => (moved rig.session move).map fun (_, session) => { rig with session }
  | .saved result => (rig.budget.guardedCount result).map fun (_, budget) => { rig with budget }

def after (rig : Rig ε) (strides : List (Stride ε)) : Option (Rig ε) :=
  strides.foldlM taken rig

end Guarded

namespace Rig

/-- The bounds of all counters, and of the whitelist. -/
structure InBounds (rig : Rig ε) : Prop extends BondedMouse.InBounds rig.session.device where
  failures : rig.budget.failures < storageTries

/-- The rig is within its bounds, and stays there. -/
structure Sound (rig : Rig ε) : Prop where
  hooked : rig.session.Hooked
  inPace : InPace rig.session.device
  fits : rig.session.device.sequence.Fits
  saveTries : rig.session.device.saveTries < storageTries
  whitelist : rig.session.device.whitelist.length ≤ Registry.whitelistMax
  failures : rig.budget.failures < storageTries

namespace Sound

variable {rig : Rig ε}

omit [RecordStore ε] in
theorem inBounds (sound : rig.Sound) : rig.InBounds where
  index := sound.fits.index
  count := sound.fits.count_le
  passes := sound.fits.passes
  saveTries := sound.saveTries
  whitelist := sound.whitelist
  failures := sound.failures

theorem taken_eq (sound : rig.Sound) (stride : Stride ε) :
    Guarded.taken rig stride = some (rig.taken stride) := by
  cases stride with
  | move move =>
    rw [Guarded.taken, Guarded.moved_eq sound.hooked sound.inBounds.toInBounds]
    rfl
  | saved result =>
    have room : rig.budget.failures < 255 := Nat.lt_trans sound.failures (by decide)
    rw [Guarded.taken, SaveBudget.guardedCount_eq room]
    rfl

theorem failures_count_lt (budget : SaveBudget) (result : Except StorageError Unit) :
    (budget.count result).2.failures < storageTries := by
  unfold SaveBudget.count
  split
  · exact Nat.zero_lt_succ _
  · split
    · exact Nat.zero_lt_succ _
    · next fewer => exact Nat.not_le.1 fewer

theorem taken (sound : rig.Sound) {stride : Stride ε} (regular : stride.Regular) :
    (rig.taken stride).Sound := by
  cases stride with
  | move move =>
    have wired := sound.hooked.wired
    exact {
      hooked := sound.hooked.moved move
      inPace := (Session.moved_paces wired regular sound.inPace).inPace
      fits := Session.moved_fits wired regular sound.inPace sound.fits
      saveTries := Session.moved_fewTries wired move sound.saveTries
      whitelist := Session.moved_roomy wired regular sound.whitelist
      failures := sound.failures }
  | saved result => exact { sound with failures := failures_count_lt rig.budget result }

theorem after (sound : rig.Sound) {strides : List (Stride ε)}
    (regular : ∀ stride ∈ strides, stride.Regular) :
    Guarded.after rig strides = some (rig.after strides) ∧ (rig.after strides).Sound := by
  -- The bounds alone are not kept by a stride; it is `Sound` that goes along.
  induction strides generalizing rig with
  | nil => exact ⟨rfl, sound⟩
  | cons stride strides ih =>
    have next := sound.taken (regular stride List.mem_cons_self)
    have rest := ih next fun other member => regular other (List.mem_cons_of_mem _ member)
    rw [Guarded.after, List.foldlM_cons, sound.taken_eq stride]
    exact rest

omit [RecordStore ε] in
theorem powerUp {ranking : Ranking} {env : ε} {reserved : Nat} {started : Session ε}
    (powered : Session.powerUp ranking env reserved = .ok started) :
    Sound ⟨started, .fresh⟩ := by
  have hooked := Session.powerUp_hooked powered
  obtain ⟨-, scanTimer, timers, device⟩ := Session.powerUp_eq_ok powered
  refine ⟨hooked, ?_, ?_, ?_, ?_, Nat.zero_lt_succ _⟩
  all_goals dsimp only; rw [device]
  · exact .of_other nofun nofun
  · exact .fresh
  · exact Nat.zero_lt_succ _
  · exact Nat.zero_le _

end Sound

end Rig

/-- From power-up on no counter is stepped past its byte, and no access leaves its array.  Whatever
happens and whatever fails, the guarded rig gets as far as the rig, to the same end, and there the
rig is within its bounds.  The registry of bonds and the pool of rankings, which no bound is needed
for, pass their guards in every state. -/
theorem guards_hold_throughout {ranking : Ranking} {env : ε} {reserved : Nat} {started : Session ε}
    (powered : Session.powerUp ranking env reserved = .ok started) (strides : List (Stride ε))
    (regular : ∀ stride ∈ strides, stride.Regular) :
    Guarded.after ⟨started, .fresh⟩ strides = some (Rig.after ⟨started, .fresh⟩ strides) ∧
      (Rig.after ⟨started, .fresh⟩ strides).InBounds ∧
      (∀ (table : BondTable) (after : Option PeerId),
        table.guardedNext after = some (table.next? after)) ∧
      (∀ (table : BondTable) (bond : Bond), table.guardedKeep bond = some (table.keep bond)) ∧
      (∀ pool : RankingPool,
        pool.guardedAlloc = some (pool.alloc.map fun (slot, after) => (slot.index.val, after))) ∧
      ∀ (pool : RankingPool) (slot : RankingPool.Slot),
        pool.rankings[slot.index.val]? = some (pool.get slot) := by
  have sound := (Rig.Sound.powerUp powered).after regular
  exact ⟨sound.1, sound.2.inBounds, BondTable.guardedNext_eq, BondTable.guardedKeep_eq,
    RankingPool.guardedAlloc_eq, fun pool slot => Vector.getElem?_eq_getElem slot.index.isLt⟩

end Rigs

section Bench

open Simulation

/-- Three passes that nobody takes, and a save that fails. -/
def worstCase : List (Stride Platform) :=
  (.operation .start :: fruitlessPass ⟨2⟩ ++ fruitlessPass ⟨4⟩ ++ fruitlessPass ⟨6⟩).map .move ++
    [.saved (.error .io)]

/-- The passes and the index reach their bounds, and no guard fails. -/
theorem guards_hold_to_the_limit :
    let rig := Rig.after ⟨nearBench, .fresh⟩ worstCase
    Guarded.after ⟨nearBench, .fresh⟩ worstCase = some rig ∧
      rig.session.device.sequence.index = rig.session.device.sequence.count ∧
      rig.session.device.sequence.passes = Sequence.maxPasses ∧ rig.budget.failures = 1 := by
  have regular : ∀ stride ∈ worstCase, stride.Regular := by
    simp [worstCase, fruitlessPass, Stride.Regular, Move.Regular]
  have powered : Session.powerUp _ _ 0 = .ok nearBench := Session.powerUp_fresh _ _
  exact ⟨(guards_hold_throughout powered worstCase regular).1, rfl, rfl, rfl⟩

end Bench

/-! ## The firmware's own strides -/

namespace Firmware.Engine

open EngineM

variable {φ : Type} {engine next : Engine φ} {first : Rig Platform}

def rig (engine : Engine φ) : Rig Platform := ⟨engine.session, engine.budget⟩

/-- Strides of the firmware lead from a rig to that of the engine. -/
def Strides (first : Rig Platform) (engine : Engine φ) : Prop :=
  ∃ strides, (∀ stride ∈ strides, stride.Regular) ∧ engine.rig = first.after strides

namespace Strides

theorem taken (reached : engine.Strides first) (stride : Stride Platform)
    (regular : stride.Regular) (takes : next.rig = engine.rig.taken stride) :
    next.Strides first := by
  obtain ⟨strides, regulars, same⟩ := reached
  refine ⟨strides ++ [stride], fun other member => ?_, ?_⟩
  · obtain before | last := List.mem_append.1 member
    · exact regulars other before
    · exact List.mem_singleton.1 last ▸ regular
  · rw [Rig.after, List.foldl_append, takes, same]
    rfl

theorem setUnit (reached : engine.Strides first) (unit : RadioUnit) :
    (engine.setUnit unit).Strides first :=
  reached.taken (.move (.outside (unit, engine.cache))) trivial rfl

theorem setCache (reached : engine.Strides first) (cache : RecordCache) :
    (engine.setCache cache).Strides first :=
  reached.taken (.move (.outside (engine.unit, cache))) trivial rfl

theorem performed (reached : engine.Strides first) (operation : Operation)
    (regular : Stride.Regular (.move (.operation operation) : Stride Platform))
    (performs : next.session = (engine.session.perform operation).2)
    (budget : next.budget = engine.budget) : next.Strides first := by
  refine reached.taken (.move (.operation operation)) regular ?_
  rw [rig, performs, budget]
  rfl

theorem lasting : Lasting (Strides (φ := φ) first) where
  event received reached := by
    rw [left_control]
    exact (reached.setUnit _).performed (.event _) trivial rfl rfl
  request := by
    intro engine presses request reached
    rw [left_control]
    exact reached.performed (.request request) trivial rfl rfl
  tick reached := by
    rw [left_control]
    exact reached.performed .tick trivial rfl rfl
  timerStep reached := reached.performed .timerStep trivial rfl rfl

variable [Flash φ]

theorem sync (reached : engine.Strides first) : (left engine.sync).Strides first := by
  have tried : engine.tried.Strides first :=
    (reached.setCache (engine.cache.save engine.flash).2.1).taken
      (.saved (engine.cache.save engine.flash).1) trivial rfl
  rw [left_sync]
  split
  · split
    · exact tried
    · exact tried
    · rw [left_control]
      exact tried.performed (.event .storageFull) trivial rfl rfl
    · exact tried.setCache _
  · exact reached

theorem ran (reached : engine.Strides first) (stretch : Stretch φ) :
    (engine.ran stretch).Strides first := by
  cases stretch with
  | start =>
    change (left (Engine.control Controller.start engine)).Strides first
    rw [left_control]
    exact reached.performed .start trivial rfl rfl
  | drive => exact lasting.drive reached
  | sync => exact reached.sync
  | tick => exact reached.performed .timerTick trivial rfl rfl
  | advertiser =>
    cases moves : engine.advertiser.step? engine.unit with
    | none =>
      rw [Engine.ran, moves]
      exact reached
    | some moved =>
      obtain ⟨unit, advertiser⟩ := moved
      rw [ran_advertiser moves]
      exact reached.setUnit unit
  | bonded bond => exact reached.setUnit _
  | secured address mode => exact reached.setUnit _
  | outside board presses buttons flash => exact reached.setUnit { engine.unit with board }

theorem ranThrough (reached : engine.Strides first) (stretches : List (Stretch φ)) :
    (engine.ranThrough stretches).Strides first := by
  induction stretches generalizing engine with
  | nil => exact reached
  | cons stretch stretches ih => exact ih (reached.ran stretch)

end Strides

/-- However the firmware's tasks take turns, the guarded rig gets to where the engine is, and the
engine is within its bounds. -/
theorem guards_hold [Flash φ] {unit : RadioUnit} {flash : φ}
    (ready : assemble unit flash = .ok engine) (stretches : List (Stretch φ)) :
    (engine.ranThrough stretches).rig.InBounds ∧
      ∃ strides, Guarded.after engine.rig strides = some (engine.ranThrough stretches).rig := by
  rw [assemble_eq] at ready
  cases ready
  have sound : (fresh unit flash).rig.Sound := .powerUp (Session.powerUp_fresh _ _)
  have start : (fresh unit flash).Strides (fresh unit flash).rig := ⟨[], nofun, rfl⟩
  obtain ⟨strides, regular, led⟩ := start.ranThrough stretches
  obtain ⟨guarded, there⟩ := sound.after regular
  rw [led]
  exact ⟨there.inBounds, strides, guarded⟩

end Firmware.Engine

end BondedMouse
