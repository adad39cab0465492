import BondedMouse.Proofs.Timer.Pool

/-! # Logs of a timer service

A service is a context with a timer pool and any number of schedulers on it.  Its log
lists what happened to the timers, one entry after the other: also inside of a step,
where callbacks arm timers and may be interrupted by ticks.

What a callback does to the pool is known by its effects, for each timer apart; for a
timer has one callback for ever.
-/

namespace BondedMouse

/-- Contexts that keep the pool they are given. -/
class LawfulTimers (χ : Type) [HasTimers χ] : Prop where
  timers_setTimers (context : χ) (pool : TimerPool) :
    HasTimers.timers (HasTimers.setTimers context pool) = pool

attribute [simp] LawfulTimers.timers_setTimers

/-! ## Accesses of callbacks -/

/-- What a callback does to the pool, or a tick while it runs. -/
inductive Access
  | arm (handle : TimerHandle) (delay : UInt32)
  | tick

def TimerPool.access (pool : TimerPool) : Access → TimerPool
  | .arm handle delay => pool.arm handle delay
  | .tick => pool.tick

def TimerPool.play (pool : TimerPool) (accesses : List Access) : TimerPool :=
  accesses.foldl access pool

theorem TimerPool.play_append (pool : TimerPool) (accesses more : List Access) :
    pool.play (accesses ++ more) = (pool.play accesses).play more :=
  List.foldl_append ..

/-- The accesses that the callback of each timer makes, from the context in which it is called. -/
abbrev Effects (χ : Type) := TimerHandle → χ → List Access

/-- What the callback does to the pool is what the effects of the timer say. -/
def Effects.Fit {χ : Type} [HasTimers χ] (effects : Effects χ) (handle : TimerHandle)
    (callback : χ → χ) : Prop :=
  ∀ context, HasTimers.timers (callback context) =
    (HasTimers.timers context).play (effects handle context)

/-! ## Entries -/

/-- Schedulers go by their place in the order in which they were made. -/
inductive Entry (χ : Type)
  | made (scheduler : Nat)
  | registered (scheduler : Nat) (handle : TimerHandle) (callback : χ → χ)
  | armed (handle : TimerHandle)
  | ticked
  /-- A step of a scheduler begins, also one in which it finds nothing to do. -/
  | began (scheduler : Nat)
  | ran (scheduler : Nat) (handle : TimerHandle) (callback : χ → χ)

section Log

variable {χ : Type}

def Access.entry : Access → Entry χ
  | .arm handle _ => .armed handle
  | .tick => .ticked

/-- The timer was armed, or its callback ran. -/
def Entry.About (handle : TimerHandle) : Entry χ → Prop
  | .armed other | .ran _ other _ => other = handle
  | .made _ | .registered _ _ _ | .ticked | .began _ => False

def Entry.registered? : Entry χ → Option TimerHandle
  | .registered _ handle _ => some handle
  | _ => none

def Entry.armed? : Entry χ → Option TimerHandle
  | .armed handle => some handle
  | _ => none

def Entry.ran? : Entry χ → Option TimerHandle
  | .ran _ handle _ => some handle
  | _ => none

/-- The timers that were registered, with whatever scheduler. -/
def registrations (log : List (Entry χ)) : List TimerHandle := log.filterMap Entry.registered?

/-- A timer was armed and has not been armed again since, nor has its callback run. -/
def Pending (handle : TimerHandle) (log : List (Entry χ)) : Prop :=
  ∃ early late, log = early ++ .armed handle :: late ∧ ∀ entry ∈ late, ¬entry.About handle

/-- The ticks since the latest step of a scheduler began, or since the scheduler was made. -/
def waited (scheduler : Nat) (log : List (Entry χ)) : Nat :=
  log.foldl (fun ticks entry =>
    match entry with
    | .ticked => ticks + 1
    | .made other | .began other => if other = scheduler then 0 else ticks
    | .registered _ _ _ | .armed _ | .ran _ _ _ => ticks) 0

/-- Between two steps of the scheduler the count never went round, nor before its first step: a
scheduler takes down the count when it is made, and again at the start of each step. -/
def Timely (scheduler : Nat) (log : List (Entry χ)) : Prop :=
  ∀ front, front ++ [.began scheduler] <+: log → waited scheduler front < UInt32.size

end Log

/-! ## Calls -/

/-- A context with a timer pool, and the schedulers on the pool. -/
structure TimerService (χ : Type) where
  context : χ
  schedulers : List (Scheduler χ)

inductive ServiceCall (χ : Type)
  | make
  | register (scheduler : Nat) (callback : χ → χ)
  | arm (handle : TimerHandle) (delay : UInt32)
  | tick
  | step (scheduler : Nat)
  /-- The context is changed, but for its pool. -/
  | elsewhere (context : χ)

section Calls

variable {χ : Type} [HasTimers χ]

namespace Scheduler

/-- What a step does to the timers at one place, for a scheduler of that name. -/
def slotEntries (scheduler : Scheduler χ) (effects : Effects χ) (name : Nat) (context : χ)
    (place : Fin TimerPool.size) : List (Entry χ) :=
  match scheduler.callback? place with
  | none => []
  | some callback =>
    let (ready, pool) := (HasTimers.timers context).popReady ⟨place⟩
    if ready then
      .ran name ⟨place⟩ callback ::
        (effects ⟨place⟩ (HasTimers.setTimers context pool)).map Access.entry
    else
      []

def sweepEntries (scheduler : Scheduler χ) (effects : Effects χ) (name : Nat) :
    List (Fin TimerPool.size) → χ → List (Entry χ)
  | [], _ => []
  | place :: places, context =>
    scheduler.slotEntries effects name context place ++
      scheduler.sweepEntries effects name places (scheduler.runSlot context place)

end Scheduler

/-- What is done to the context where a step makes an entry: a callback runs, and its timer is read
before.  The accesses of a callback are part of its run. -/
def Entry.replay (context : χ) : Entry χ → χ
  | .ran _ handle callback =>
    callback (HasTimers.setTimers context ((HasTimers.timers context).popReady handle).2)
  | .made _ | .registered _ _ _ | .armed _ | .ticked | .began _ => context

theorem replay_accesses (accesses : List Access) (context : χ) :
    (accesses.map Access.entry).foldl Entry.replay context = context := by
  induction accesses with
  | nil => rfl
  | cons access accesses ih => cases access <;> exact ih

namespace Scheduler

theorem replay_slotEntries (scheduler : Scheduler χ) (effects : Effects χ) (name : Nat)
    (context : χ) (place : Fin TimerPool.size) :
    (scheduler.slotEntries effects name context place).foldl Entry.replay context =
      scheduler.runSlot context place := by
  unfold slotEntries runSlot
  cases scheduler.callback? place with
  | none => rfl
  | some callback =>
    dsimp only
    split
    · exact replay_accesses _ _
    · rfl

/-- The log of a sweep is what the sweep does. -/
theorem replay_sweepEntries (scheduler : Scheduler χ) (effects : Effects χ) (name : Nat)
    (places : List (Fin TimerPool.size)) (context : χ) :
    (scheduler.sweepEntries effects name places context).foldl Entry.replay context =
      places.foldl scheduler.runSlot context := by
  induction places generalizing context with
  | nil => rfl
  | cons place places ih =>
    rw [sweepEntries, List.foldl_append, replay_slotEntries, ih, List.foldl_cons]

end Scheduler

namespace TimerService

def pool (service : TimerService χ) : TimerPool := HasTimers.timers service.context

def withPool (service : TimerService χ) (pool : TimerPool) : TimerService χ :=
  { service with context := HasTimers.setTimers service.context pool }

def register? (service : TimerService χ) (scheduler : Nat) (callback : χ → χ) :
    Option (TimerHandle × TimerService χ) := do
  let chosen ← service.schedulers[scheduler]?
  let (handle, chosen, pool) ← chosen.register service.pool callback
  let schedulers := service.schedulers.set scheduler chosen
  return (handle, { service with schedulers }.withPool pool)

@[simp] theorem pool_withPool [LawfulTimers χ] (service : TimerService χ) (pool : TimerPool) :
    (service.withPool pool).pool = pool :=
  LawfulTimers.timers_setTimers ..

/-- The service behind a call. -/
def after (service : TimerService χ) : ServiceCall χ → TimerService χ
  | .make => { service with schedulers := service.schedulers ++ [.new service.pool] }
  | .register scheduler callback =>
    match service.register? scheduler callback with
    | some (_, service) => service
    | none => service
  | .arm handle delay => service.withPool (service.pool.arm handle delay)
  | .tick => service.withPool service.pool.tick
  | .step scheduler =>
    match service.schedulers[scheduler]? with
    | none => service
    | some chosen =>
      let (chosen, context) := chosen.step service.context
      ⟨context, service.schedulers.set scheduler chosen⟩
  | .elsewhere context => { service with context }.withPool service.pool

/-- What a call adds to the log. -/
def entries (service : TimerService χ) (effects : Effects χ) : ServiceCall χ → List (Entry χ)
  | .make => [.made service.schedulers.length]
  | .register scheduler callback =>
    match service.register? scheduler callback with
    | some (handle, _) => [.registered scheduler handle callback]
    | none => []
  | .arm handle _ => [.armed handle]
  | .tick => [.ticked]
  | .step scheduler =>
    match service.schedulers[scheduler]? with
    | none => []
    | some chosen =>
      .began scheduler ::
        if service.pool.now = chosen.lastTick then []
        else chosen.sweepEntries effects scheduler (List.finRange TimerPool.size) service.context
  | .elsewhere _ => []

/-- What a call can do. -/
inductive Called (effects : Effects χ) (service : TimerService χ) :
    ServiceCall χ → List (Entry χ) → TimerService χ → Prop
  | made :
      Called effects service .make [.made service.schedulers.length]
        { service with schedulers := service.schedulers ++ [.new service.pool] }
  | registered {name : Nat} {callback : χ → χ} {chosen next : Scheduler χ} {handle : TimerHandle}
      {pool : TimerPool} (found : service.schedulers[name]? = some chosen)
      (inside : name < service.schedulers.length)
      (registered : chosen.register service.pool callback = some (handle, next, pool)) :
      Called effects service (.register name callback) [.registered name handle callback]
        ({ service with schedulers := service.schedulers.set name next }.withPool pool)
  | refused {name : Nat} {callback : χ → χ}
      (full : name < service.schedulers.length → service.pool.reserve = none) :
      Called effects service (.register name callback) [] service
  | armed {handle : TimerHandle} {delay : UInt32} :
      Called effects service (.arm handle delay) [.armed handle]
        (service.withPool (service.pool.arm handle delay))
  | ticked : Called effects service .tick [.ticked] (service.withPool service.pool.tick)
  | unknown {name : Nat} (none : service.schedulers[name]? = none) :
      Called effects service (.step name) [] service
  | still {name : Nat} {chosen : Scheduler χ} (found : service.schedulers[name]? = some chosen)
      (still : service.pool.now = chosen.lastTick) :
      Called effects service (.step name) [.began name] service
  | swept {name : Nat} {chosen : Scheduler χ} (found : service.schedulers[name]? = some chosen)
      (inside : name < service.schedulers.length) (moved : service.pool.now ≠ chosen.lastTick) :
      Called effects service (.step name)
        (.began name ::
          chosen.sweepEntries effects name (List.finRange TimerPool.size) service.context)
        ⟨chosen.sweep service.context,
          service.schedulers.set name { chosen with lastTick := service.pool.now }⟩
  | elsewhere {context : χ} :
      Called effects service (.elsewhere context) []
        ({ service with context }.withPool service.pool)

theorem called (effects : Effects χ) (service : TimerService χ) (call : ServiceCall χ) :
    Called effects service call (service.entries effects call) (service.after call) := by
  cases call with
  | make => exact .made
  | arm handle delay => exact .armed
  | tick => exact .ticked
  | elsewhere context => exact .elsewhere
  | register name callback =>
    simp only [entries, after, register?, Option.pure_def, Option.bind_eq_bind]
    cases found : service.schedulers[name]? with
    | none =>
      exact .refused fun inside => absurd (List.getElem?_eq_none_iff.1 found) (Nat.not_le_of_lt inside)
    | some chosen =>
      obtain ⟨inside, -⟩ := List.getElem?_eq_some_iff.1 found
      rw [Option.bind_some]
      cases registered : chosen.register service.pool callback with
      | none => exact .refused fun _ => by simpa [Scheduler.register] using registered
      | some result => exact .registered found inside registered
  | step name =>
    simp only [entries, after]
    cases found : service.schedulers[name]? with
    | none => exact .unknown found
    | some chosen =>
      obtain ⟨inside, own⟩ := List.getElem?_eq_some_iff.1 found
      simp only [Scheduler.step]
      by_cases same : (HasTimers.timers service.context).now = chosen.lastTick
      · have unset : service.schedulers.set name chosen = service.schedulers := by
          rw [← own, List.set_getElem_self]
        have stands : service.pool.now = chosen.lastTick := same
        rw [if_pos same, if_pos stands, unset]
        exact .still found same
      · have moved : ¬service.pool.now = chosen.lastTick := same
        rw [if_neg same, if_neg moved]
        exact .swept found inside same

/-- The log of some calls, and the service behind them.  Only timers that were registered are armed,
and the callback that is registered for a timer has the effects of the timer. -/
inductive Runs (effects : Effects χ) (start : TimerService χ) (earlier : List (Entry χ)) :
    List (Entry χ) → TimerService χ → Prop
  | none : Runs effects start earlier [] start
  | call {log : List (Entry χ)} {service : TimerService χ}
      (run : Runs effects start earlier log service) (call : ServiceCall χ)
      (named : ∀ handle, .armed handle ∈ service.entries effects call →
        handle ∈ registrations (earlier ++ log))
      (fit : ∀ scheduler handle callback,
        .registered scheduler handle callback ∈ service.entries effects call →
          effects.Fit handle callback) :
      Runs effects start earlier (log ++ service.entries effects call) (service.after call)

end TimerService

end Calls

end BondedMouse
