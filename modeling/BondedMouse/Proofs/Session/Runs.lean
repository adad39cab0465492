import BondedMouse.Controller.Session
import BondedMouse.Proofs.Controller.Saving
import BondedMouse.Proofs.Timer.Pool

/-! # Runs of a session

A run is a list of moves: operations of the session, and changes of the environment
from outside, such as a new bond.  The scheduler of a session that was powered up
serves the scan timer and nothing else that acts; so its step is a change of the timers
and at most one end of the scan timer.
-/

namespace BondedMouse

/-! ## Schedulers that serve one callback -/

namespace Scheduler

variable {χ : Type}

/-- Every callback does nothing. -/
def Rests (scheduler : Scheduler χ) : Prop :=
  ∀ (place : Fin TimerPool.size) (callback : χ → χ),
    scheduler.callback? place = some callback → callback = id

/-- One timer runs the callback; those of the other timers do nothing. -/
def Serves (scheduler : Scheduler χ) (callback : χ → χ) : Prop :=
  ∃ place : Fin TimerPool.size, scheduler.callback? place = some callback ∧
    ∀ (other : Fin TimerPool.size) (idle : χ → χ), other ≠ place →
      scheduler.callback? other = some idle → idle = id

theorem rests_new (pool : TimerPool) : (new pool : Scheduler χ).Rests := by
  intro place callback registered
  simp [callback?, new] at registered

theorem Rests.register {scheduler next : Scheduler χ} {pool after : TimerPool}
    {handle : TimerHandle} (rests : scheduler.Rests)
    (registered : scheduler.register pool id = some (handle, next, after)) : next.Rests := by
  intro place callback found
  rw [callbacks_register registered] at found
  split at found
  · exact (Option.some.inj found).symm
  · exact rests place callback found

/-- A callback that is registered with a scheduler that rests stands alone at its place. -/
theorem Rests.registered {scheduler next : Scheduler χ} {pool after : TimerPool}
    {callback : χ → χ} {handle : TimerHandle} (rests : scheduler.Rests)
    (registered : scheduler.register pool callback = some (handle, next, after)) :
    next.callback? handle.index = some callback ∧
      ∀ (other : Fin TimerPool.size) (idle : χ → χ), other ≠ handle.index →
        next.callback? other = some idle → idle = id := by
  refine ⟨by rw [callbacks_register registered, if_pos rfl], fun other idle apart found => ?_⟩
  rw [callbacks_register registered, if_neg apart] at found
  exact rests other idle found

end Scheduler

/-! ## Steps of the scheduler -/

section Step

variable {ε : Type} [RadioStack ε]

/-- What a step of the scheduler makes of a device. -/
inductive Steps (device : Device ε) : Device ε → Prop
  | quiet (timers : TimerPool) : Steps device { device with timers }
  | rung (before after : TimerPool) (rung : Device ε)
      (rings : Rings { device with timers := before } rung) :
      Steps device { rung with timers := after }

namespace Scheduler

variable {scheduler : Scheduler (Device ε)} {place : Fin TimerPool.size}

omit [RadioStack ε] in
theorem runSlot_idle
    (idles : ∀ idle : Device ε → Device ε, scheduler.callback? place = some idle → idle = id)
    (device : Device ε) : ∃ timers, scheduler.runSlot device place = { device with timers } := by
  unfold runSlot
  cases found : scheduler.callback? place with
  | none => exact ⟨device.timers, rfl⟩
  | some callback =>
    cases idles callback found
    dsimp only
    split
    · exact ⟨_, rfl⟩
    · exact ⟨device.timers, rfl⟩

omit [RadioStack ε] in
theorem foldl_runSlot_idle (places : List (Fin TimerPool.size))
    (idles : ∀ place ∈ places, ∀ idle : Device ε → Device ε,
      scheduler.callback? place = some idle → idle = id) (device : Device ε) :
    ∃ timers, places.foldl scheduler.runSlot device = { device with timers } := by
  induction places generalizing device with
  | nil => exact ⟨device.timers, rfl⟩
  | cons place places ih =>
    obtain ⟨timers, ran⟩ := runSlot_idle (idles place List.mem_cons_self) device
    rw [List.foldl_cons, ran]
    exact ih (fun other member => idles other (List.mem_cons_of_mem _ member)) _

theorem runSlot_serving (serving : scheduler.callback? place = some Controller.onScanTimer)
    (device : Device ε) : Steps device (scheduler.runSlot device place) := by
  unfold runSlot
  rw [serving]
  dsimp only
  split
  · exact .rung _ _ _ (Controller.onScanTimer_rings _)
  · exact .quiet device.timers

end Scheduler

namespace Steps

theorem timers {device last : Device ε} (steps : Steps device last) (timers : TimerPool) :
    Steps device { last with timers } := by
  cases steps with
  | quiet => exact .quiet timers
  | rung before after rung rings => exact .rung before timers rung rings

theorem of_timers {device last : Device ε} {timers : TimerPool}
    (steps : Steps { device with timers } last) : Steps device last := by
  cases steps with
  | quiet timers => exact .quiet timers
  | rung before after rung rings => exact .rung before after rung rings

end Steps

theorem Scheduler.foldl_runSlot_steps {scheduler : Scheduler (Device ε)}
    (serves : scheduler.Serves Controller.onScanTimer) (places : List (Fin TimerPool.size))
    (distinct : places.Nodup) (device : Device ε) :
    Steps device (places.foldl scheduler.runSlot device) := by
  obtain ⟨owner, serving, idles⟩ := serves
  induction places generalizing device with
  | nil => exact .quiet device.timers
  | cons place places ih =>
    rw [List.nodup_cons] at distinct
    rw [List.foldl_cons]
    -- The owner's callback may ring; behind it and before it nothing happens but to the timers.
    by_cases own : place = owner
    · subst own
      -- The owner comes once, so the places behind it are idle.
      have others : ∀ other ∈ places, ∀ idle : Device ε → Device ε,
          scheduler.callback? other = some idle → idle = id :=
        fun other member idle => idles other idle fun same => distinct.1 (same ▸ member)
      obtain ⟨timers, ran⟩ := foldl_runSlot_idle places others (scheduler.runSlot device place)
      rw [ran]
      exact (runSlot_serving serving device).timers timers
    · obtain ⟨timers, ran⟩ := runSlot_idle (fun idle => idles place idle own) device
      rw [ran]
      exact (ih distinct.2 _).of_timers

end Step

/-! ## Sessions at power-up -/

namespace Session

variable {ε : Type} [RadioStack ε]

/-- The session's scheduler runs the scan timer. -/
def Wired (session : Session ε) : Prop :=
  session.scheduler.Serves Controller.onScanTimer

theorem timerStep_steps {session : Session ε} (wired : session.Wired) :
    Steps session.device session.timerStep.device := by
  simp only [timerStep, Scheduler.step]
  split
  · exact .quiet session.device.timers
  · exact Scheduler.foldl_runSlot_steps wired _ (List.nodup_finRange _) _

theorem timerStep_spares {session : Session ε} (wired : session.Wired) :
    Spares session.device session.timerStep.device := by
  have steps := timerStep_steps wired
  generalize session.timerStep.device = after at steps
  cases steps with
  | quiet timers => exact { Spares.refl session.device with }
  | rung before after rung rings => exact { rings.spares with }

theorem Wired.timerStep {session : Session ε} (wired : session.Wired) :
    session.timerStep.Wired := by
  unfold Session.Wired Session.timerStep Scheduler.step
  dsimp only
  split
  · exact wired
  · exact wired

omit [RadioStack ε] in
theorem reserveTimers_rests (count : Nat) {scheduler : Scheduler (Device ε)} {pool : TimerPool}
    (rests : scheduler.Rests) : (reserveTimers count scheduler pool).1.Rests := by
  induction count with
  | zero => exact rests
  | succ count ih =>
    simp only [reserveTimers, Nat.repeat] at ih ⊢
    split
    · next registered => exact ih.register registered
    · exact ih

theorem powerUp_served {ranking : Ranking} {env : ε} {reserved : Nat} {session : Session ε}
    (powered : powerUp ranking env reserved = .ok session) :
    ∃ scanTimer timers, session.device = { Controller.idle ranking scanTimer with timers, env } ∧
      session.scheduler.callback? scanTimer.index = some Controller.onScanTimer ∧
      ∀ (other : Fin TimerPool.size) (idle : Device ε → Device ε), other ≠ scanTimer.index →
        session.scheduler.callback? other = some idle → idle = id := by
  have rests : (reserveTimers (ε := ε) reserved (.new .idle) .idle).1.Rests :=
    reserveTimers_rests reserved (Scheduler.rests_new _)
  simp only [powerUp] at powered
  split at powered
  · cases powered
  · next registered =>
    cases powered
    exact ⟨_, _, rfl, rests.registered registered⟩

theorem powerUp_eq_ok {ranking : Ranking} {env : ε} {reserved : Nat} {session : Session ε}
    (powered : powerUp ranking env reserved = .ok session) :
    session.Wired ∧ ∃ scanTimer timers,
      session.device = { Controller.idle ranking scanTimer with timers, env } := by
  obtain ⟨scanTimer, timers, device, served⟩ := powerUp_served powered
  exact ⟨⟨_, served⟩, scanTimer, timers, device⟩

/-- A session at power-up, before which no timer was reserved. -/
def fresh (ranking : Ranking) (env : ε) : Session ε where
  device := { Controller.idle ranking .first with
    timers := TimerPool.idle.update .first fun slot => { slot with reserved := true }
    env }
  scheduler := { (Scheduler.new .idle : Scheduler (Device ε)) with
    callbacks := (Vector.replicate TimerPool.size none).set TimerHandle.first.index
      (some Controller.onScanTimer) }

theorem powerUp_fresh (ranking : Ranking) (env : ε) :
    powerUp ranking env 0 = .ok (fresh ranking env) := by
  simp only [powerUp, reserveTimers, Nat.repeat, Scheduler.register, TimerPool.reserve_idle,
    Option.map_some]
  rfl

end Session

/-! ## Moves -/

inductive Move (ε : Type)
  | operation (operation : Operation)
  /-- The environment changes on its own. -/
  | outside (env : ε)

namespace Session

variable {ε : Type} [RadioStack ε] [RecordStore ε]

def moved (session : Session ε) : Move ε → Except Fault Unit × Session ε
  | .operation operation => session.perform operation
  | .outside env => (.ok (), { session with device := { session.device with env } })

omit [RadioStack ε] [RecordStore ε] in
theorem control_apply (operation : ControlM ε Unit) (session : Session ε) :
    session.control operation =
      match operation session.device with
      | .ok () device => (.ok (), { session with device })
      | .error fault device => (.error fault, { session with device }) := rfl

omit [RadioStack ε] [RecordStore ε] in
theorem control_device (operation : ControlM ε Unit) (session : Session ε) :
    (session.control operation).2.device = Controller.final (operation session.device) := by
  rw [control_apply]
  cases operation session.device <;> rfl

/-- No move rewires the scheduler. -/
theorem Wired.moved {session : Session ε} (wired : session.Wired) (move : Move ε) :
    (session.moved move).2.Wired := by
  have controlled : ∀ operation : ControlM ε Unit, (session.control operation).2.Wired := by
    intro operation
    rw [control_apply]
    cases operation session.device <;> exact wired
  cases move with
  | outside env => exact wired
  | operation operation =>
    cases operation with
    | timerStep => exact wired.timerStep
    | scanTimeout | timerTick => exact wired
    | start | startSequence | setMode | event | request | tick => exact controlled _

/-- The stack refuses nothing that a move asks for, neither at once nor in the scan timer. -/
structure Untroubled (session : Session ε) (move : Move ε) : Prop where
  returned : ∀ error, (session.moved move).1 ≠ .error (.stack error)
  recorded : ∀ error, (session.moved move).2.device.fault ≠ some (.stack error)

end Session

/-! ## What moves keep -/

namespace Maintained

variable {ε : Type} [RadioStack ε] [RecordStore ε] {holds : Device ε → Prop}
  {session : Session ε}

/-- Every operation keeps the property, if a collection of the store does too. -/
theorem performed (maintained : Maintained holds)
    (collected : ∀ {device}, holds device →
      holds (Controller.final (Controller.onStorageFull device)))
    (wired : session.Wired) (held : holds session.device) (operation : Operation) :
    holds (session.perform operation).2.device := by
  have controlled {program : ControlM ε Unit}
      (kept : holds (Controller.final (program session.device))) :
      holds (session.control program).2.device := by
    rwa [Session.control_device]
  cases operation with
  | start => exact controlled (maintained.start held)
  | startSequence => exact controlled (maintained.spares held (startSequence_spares _))
  | setMode mode target => exact controlled (maintained.spares held (setMode_spares mode target _))
  | event event =>
    by_cases full : event = .storageFull
    · subst full
      exact controlled (collected held)
    · exact controlled (maintained.event full held)
  | request request => exact controlled (maintained.spares held (onRequest_spares request _))
  | tick => exact controlled (maintained.tick held)
  | scanTimeout =>
    exact maintained.spares held (Controller.onScanTimer_rings session.device).spares
  | timerTick => exact maintained.spares held { Spares.refl session.device with }
  | timerStep => exact maintained.spares held (Session.timerStep_spares wired)

/-- Every move keeps the property, if it does not depend on the environment. -/
theorem moved (maintained : Maintained holds)
    (elsewhere : ∀ {device} (env : ε), holds device → holds { device with env })
    (wired : session.Wired) (held : holds session.device) (move : Move ε) :
    holds (session.moved move).2.device := by
  cases move with
  | outside env => exact elsewhere env held
  | operation operation =>
    refine maintained.performed (fun {device} held => ?_) wired held operation
    rw [Controller.final_onStorageFull]
    exact elsewhere _ held

end Maintained

end BondedMouse
