import BondedMouse.Proofs.Timer.Books
import BondedMouse.Timer.Script

/-! # Expiries of timers

What a timer was armed for happens once, and on the scheduler of its callback.  What may
keep it from happening is another arm; and a count that goes round between two steps.
-/

namespace BondedMouse

variable {χ : Type}

/-! ## What a step runs -/

section Sweeps

variable [HasTimers χ] {effects : Effects χ} {chosen : Scheduler χ} {name : Nat} {context : χ}
  {place : Fin TimerPool.size} {places : List (Fin TimerPool.size)} {handle : TimerHandle}

/-- At its place the callback of the timer runs, and accesses timers. -/
theorem mem_slotEntries {entry : Entry χ}
    (member : entry ∈ chosen.slotEntries effects name context place) :
    (∃ callback, chosen.callback? place = some callback ∧ entry = .ran name ⟨place⟩ callback) ∨
      ∃ access : Access, entry = access.entry := by
  unfold Scheduler.slotEntries at member
  cases held : chosen.callback? place with
  | none => simp [held] at member
  | some callback =>
    rw [held] at member
    dsimp only at member
    split at member
    · obtain ran | accessed := List.mem_cons.1 member
      · exact .inl ⟨callback, rfl, ran⟩
      · obtain ⟨access, -, rfl⟩ := List.mem_map.1 accessed
        exact .inr ⟨access, rfl⟩
    · cases member

theorem mem_sweepEntries {entry : Entry χ}
    (member : entry ∈ chosen.sweepEntries effects name places context) :
    (∃ place ∈ places, ∃ callback, chosen.callback? place = some callback ∧
      entry = .ran name ⟨place⟩ callback) ∨ ∃ access : Access, entry = access.entry := by
  induction places generalizing context with
  | nil => cases member
  | cons place places ih =>
    obtain here | later := List.mem_append.1 member
    · refine (mem_slotEntries here).imp_left ?_
      rintro ⟨callback, held, ran⟩
      exact ⟨place, List.mem_cons_self, callback, held, ran⟩
    · refine (ih later).imp_left ?_
      rintro ⟨place, member, callback, held, ran⟩
      exact ⟨place, List.mem_cons_of_mem _ member, callback, held, ran⟩

theorem sweepEntries_ran {scheduler : Nat} {callback : χ → χ}
    (ran : .ran scheduler handle callback ∈ chosen.sweepEntries effects name places context) :
    scheduler = name ∧ handle.index ∈ places ∧ chosen.callback? handle.index = some callback := by
  obtain ⟨place, member, other, held, same⟩ | ⟨access, same⟩ := mem_sweepEntries ran
  · cases same
    exact ⟨rfl, member, held⟩
  · cases access <;> cases same

theorem slotEntries_runs (chosen : Scheduler χ) (effects : Effects χ) (name : Nat) (context : χ)
    (place : Fin TimerPool.size) :
    (chosen.slotEntries effects name context place).filterMap Entry.ran? = [] ∨
      (chosen.slotEntries effects name context place).filterMap Entry.ran? = [⟨place⟩] := by
  have quiet : ∀ accesses : List Access,
      (accesses.map (Access.entry : Access → Entry χ)).filterMap Entry.ran? = [] := by
    intro accesses
    rw [List.filterMap_map, List.filterMap_eq_nil_iff]
    intro access _
    cases access <;> rfl
  unfold Scheduler.slotEntries
  split
  · exact .inl rfl
  · dsimp only
    split
    · exact .inr (congrArg (List.cons (TimerHandle.mk place)) (quiet _))
    · exact .inl rfl

/-- A step runs callbacks in the order of its places. -/
theorem sweepEntries_runs (ascending : places.Pairwise (· < ·)) :
    ((chosen.sweepEntries effects name places context).filterMap Entry.ran?).Pairwise
      (·.index < ·.index) := by
  induction places generalizing context with
  | nil => exact .nil
  | cons place places ih =>
    obtain ⟨first, rest⟩ := List.pairwise_cons.1 ascending
    rw [Scheduler.sweepEntries, List.filterMap_append]
    obtain none | one := slotEntries_runs chosen effects name context place
    · rw [none]
      exact ih rest
    · rw [one, List.singleton_append, List.pairwise_cons]
      refine ⟨fun other member => ?_, ih rest⟩
      obtain ⟨entry, ran, named⟩ := List.mem_filterMap.1 member
      cases entry with
      | ran scheduler handle callback =>
        cases named
        exact first _ (sweepEntries_ran ran).2.1
      | made | registered | armed | ticked | began => cases named

/-! ## What stays ready -/

omit [HasTimers χ] in
theorem ready_play {pool : TimerPool} {accesses : List Access}
    (ready : (pool.slot handle).ready = true)
    (unarmed : (.armed handle : Entry χ) ∉ accesses.map Access.entry) :
    ((pool.play accesses).slot handle).ready = true := by
  induction accesses generalizing pool with
  | nil => exact ready
  | cons access accesses ih =>
    rw [List.map_cons, List.mem_cons, not_or] at unarmed
    refine ih ?_ unarmed.2
    cases access with
    | tick => simp [TimerPool.access, ready]
    | arm other delay =>
      have apart : handle ≠ other := fun same => unarmed.1 (same ▸ rfl)
      simpa [TimerPool.access, TimerPool.slot_arm, apart] using ready

variable [LawfulTimers χ]

/-- A timer stays ready at the places of others, unless it is armed there. -/
theorem ready_runSlot (ready : ((HasTimers.timers context).slot handle).ready = true)
    (fits : ∀ callback, chosen.callback? place = some callback → effects.Fit ⟨place⟩ callback)
    (foreign : place = handle.index → chosen.callback? place = none)
    (unarmed : .armed handle ∉ chosen.slotEntries effects name context place) :
    ((HasTimers.timers (chosen.runSlot context place)).slot handle).ready = true := by
  unfold Scheduler.slotEntries at unarmed
  unfold Scheduler.runSlot
  cases held : chosen.callback? place with
  | none => exact ready
  | some callback =>
    rw [held] at unarmed
    have apart : handle ≠ ⟨place⟩ := by
      rintro rfl
      exact absurd (foreign rfl) (by simp [held])
    dsimp only at unarmed ⊢
    split
    · next popped =>
      rw [if_pos popped] at unarmed
      rw [fits callback held, LawfulTimers.timers_setTimers]
      refine ready_play ?_ (fun member => unarmed (List.mem_cons_of_mem _ member))
      rw [TimerPool.slot_popReady, if_neg apart]
      exact ready
    · exact ready

theorem ready_foldl (ready : ((HasTimers.timers context).slot handle).ready = true)
    (fits : ∀ place callback, chosen.callback? place = some callback → effects.Fit ⟨place⟩ callback)
    (foreign : chosen.callback? handle.index = none)
    (unarmed : .armed handle ∉ chosen.sweepEntries effects name places context) :
    ((HasTimers.timers (places.foldl chosen.runSlot context)).slot handle).ready = true := by
  induction places generalizing context with
  | nil => exact ready
  | cons place places ih =>
    rw [Scheduler.sweepEntries, List.mem_append, not_or] at unarmed
    exact ih (ready_runSlot ready (fits place) (fun same => same ▸ foreign) unarmed.1) unarmed.2

end Sweeps

/-! ## Expiries -/

namespace TimerHandle

variable {handles : List TimerHandle}

theorem length_le_size (distinct : handles.Nodup) : handles.length ≤ TimerPool.size := by
  simpa using (distinct.map index_injective).length_le_card

theorem size_le_length (all : ∀ handle, handle ∈ handles) : TimerPool.size ≤ handles.length := by
  have every : (handles.map index).toFinset = Finset.univ := by
    ext place
    simpa using ⟨_, all ⟨place⟩, rfl⟩
  have most := (handles.map index).toFinset_card_le
  rw [every] at most
  simpa using most

end TimerHandle

/-- The first entry about a timer is the run of its callback, or an arm that came before. -/
def RunsFirst (scheduler : Nat) (handle : TimerHandle) (callback : χ → χ)
    (entries : List (Entry χ)) : Prop :=
  ∃ front entry back, entries = front ++ entry :: back ∧ (∀ other ∈ front, ¬other.About handle) ∧
    (entry = .ran scheduler handle callback ∨ entry = .armed handle)

section RunsFirst

variable {scheduler : Nat} {handle : TimerHandle} {callback : χ → χ}
  {entries more : List (Entry χ)}

theorem RunsFirst.append (first : RunsFirst scheduler handle callback entries)
    (more : List (Entry χ)) : RunsFirst scheduler handle callback (entries ++ more) := by
  obtain ⟨front, entry, back, rfl, quiet, meant⟩ := first
  exact ⟨front, entry, back ++ more, by simp, quiet, meant⟩

theorem RunsFirst.behind (first : RunsFirst scheduler handle callback entries)
    (quiet : ∀ entry ∈ more, ¬entry.About handle) :
    RunsFirst scheduler handle callback (more ++ entries) := by
  obtain ⟨front, entry, back, rfl, silent, meant⟩ := first
  refine ⟨more ++ front, entry, back, by simp, fun other member => ?_, meant⟩
  exact (List.mem_append.1 member).elim (quiet other) (silent other)

theorem about_iff {entry : Entry χ} :
    entry.About handle ↔ entry = .armed handle ∨ ∃ scheduler callback,
      entry = .ran scheduler handle callback := by
  cases entry <;> simp [Entry.About]

theorem RunsFirst.of_armed (armed : .armed handle ∈ entries)
    (unrun : ∀ scheduler callback, .ran scheduler handle callback ∉ entries) :
    RunsFirst scheduler handle callback entries := by
  obtain ⟨front, back, rfl, early⟩ := List.eq_append_cons_of_mem armed
  refine ⟨front, _, back, rfl, fun entry member about => ?_, .inr rfl⟩
  obtain rfl | ⟨name, other, rfl⟩ := about_iff.1 about
  · exact early member
  · exact unrun name other (List.mem_append_left _ member)

end RunsFirst

section Expiries

variable [HasTimers χ] [LawfulTimers χ] {effects : Effects χ} {log : List (Entry χ)}
  {service : TimerService χ} {handle : TimerHandle}

theorem sweepEntries_runsFirst {chosen : Scheduler χ} {name : Nat} {context : χ}
    {places : List (Fin TimerPool.size)} {callback : χ → χ}
    (held : chosen.callback? handle.index = some callback)
    (fits : ∀ place callback, chosen.callback? place = some callback → effects.Fit ⟨place⟩ callback)
    (ready : ((HasTimers.timers context).slot handle).ready = true)
    (member : handle.index ∈ places) :
    RunsFirst name handle callback (chosen.sweepEntries effects name places context) := by
  -- The sweep goes on until it has come to the timer, or one of the callbacks has armed it.
  induction places generalizing context with
  | nil => cases member
  | cons place places ih =>
    rw [Scheduler.sweepEntries]
    by_cases own : place = handle.index
    · subst own
      have popped : ((HasTimers.timers context).popReady handle).1 = true := ready
      refine RunsFirst.append ?_ _
      simp only [Scheduler.slotEntries, held, popped, if_true]
      exact ⟨[], _, _, rfl, by simp, .inl rfl⟩
    · have unrun : ∀ scheduler callback,
          .ran scheduler handle callback ∉ chosen.slotEntries effects name context place := by
        intro scheduler other ran
        obtain ⟨callback, -, same⟩ | ⟨access, same⟩ := mem_slotEntries ran
        · cases same
          exact own rfl
        · cases access <;> cases same
      by_cases armed : .armed handle ∈ chosen.slotEntries effects name context place
      · exact (RunsFirst.of_armed armed unrun).append _
      · have stays := ready_runSlot ready (fits place) (fun same => absurd same own) armed
        have rest := ih stays ((List.mem_cons.1 member).resolve_left (Ne.symm own))
        refine rest.behind fun entry member about => ?_
        obtain rfl | ⟨scheduler, other, rfl⟩ := about_iff.1 about
        · exact armed member
        · exact unrun scheduler other member

/-- A timer that is ready stays so until it is armed, or its scheduler makes a step. -/
theorem Books.ready_called {scheduler : Nat} {callback : χ → χ} {call : ServiceCall χ}
    {entries : List (Entry χ)} {after : TimerService χ}
    (books : Books effects NoneDue log service.schedulers service.pool)
    (registered : .registered scheduler handle callback ∈ log)
    (called : service.Called effects call entries after)
    (ready : (service.pool.slot handle).ready = true) (unarmed : .armed handle ∉ entries)
    (unstepped : .began scheduler ∉ entries) : (after.pool.slot handle).ready = true := by
  cases called with
  | made | refused | unknown | still => exact ready
  | registered found inside registered =>
    obtain ⟨-, rfl⟩ := TimerPool.reserve_eq_some (Scheduler.register_eq_some registered).1
    rw [TimerService.pool_withPool, TimerPool.slot_update]
    split
    · next same => exact same ▸ ready
    · exact ready
  | @armed other delay =>
    have apart : handle ≠ other := fun same => unarmed (same ▸ List.mem_singleton_self _)
    rw [TimerService.pool_withPool, TimerPool.slot_arm, if_neg apart]
    exact ready
  | ticked => simp [ready]
  | elsewhere =>
    rw [TimerService.pool_withPool]
    exact ready
  | @swept name chosen found inside moved =>
    -- The sweep of another scheduler has no callback for the timer.
    have foreign : chosen.callback? handle.index = none := by
      cases held : chosen.callback? handle.index with
      | none => rfl
      | some other =>
        have second : .registered name handle other ∈ log :=
          (books.callbacks _ _ _).2 ((callbackOf?_eq found _).trans held)
        obtain ⟨rfl, -⟩ := registered_unique books.distinct registered second
        exact absurd List.mem_cons_self unstepped
    refine ready_foldl ready (fun place callback held => ?_) foreign
      (fun member => unarmed (List.mem_cons_of_mem _ member))
    have called := (callbackOf?_eq found _).trans held
    exact books.fits _ _ _ ((books.callbacks name ⟨place⟩ callback).2 called)

theorem Books.ready_run {scheduler : Nat} {callback : χ → χ} {more : List (Entry χ)}
    {later : TimerService χ} (books : Books effects NoneDue log service.schedulers service.pool)
    (registered : .registered scheduler handle callback ∈ log)
    (ready : (service.pool.slot handle).ready = true)
    (run : TimerService.Runs effects service log more later) (unarmed : .armed handle ∉ more)
    (unstepped : .began scheduler ∉ more) : (later.pool.slot handle).ready = true := by
  induction run with
  | none => exact ready
  | call run call named fit ih =>
    rw [List.mem_append, not_or] at unarmed unstepped
    exact (run.books books).ready_called (List.mem_append_left _ registered)
      (TimerService.called effects _ call) (ih unarmed.1 unstepped.1) unarmed.2 unstepped.2

/-- A step runs what is ready, unless the count went round since the last one. -/
theorem Books.runsFirst {scheduler : Nat} {callback : χ → χ}
    (books : Books effects NoneDue log service.schedulers service.pool)
    (registered : .registered scheduler handle callback ∈ log)
    (ready : (service.pool.slot handle).ready = true)
    (timely : Timely scheduler (log ++ [.began scheduler])) :
    RunsFirst scheduler handle callback (service.entries effects (.step scheduler)) := by
  have held := (books.callbacks _ _ _).1 registered
  obtain ⟨chosen, found, held⟩ := Option.bind_eq_some_iff.1 held
  have waits := (books.awaited scheduler handle callback timely.of_append registered
    ready).resolve_right id
  have moved : service.pool.now ≠ chosen.lastTick := fun still => by
    simp [books.waited_eq_zero found timely.last still] at waits
  have fits : ∀ place other, chosen.callback? place = some other → effects.Fit ⟨place⟩ other :=
    fun place other here => books.fits _ _ _
      ((books.callbacks scheduler ⟨place⟩ other).2 ((callbackOf?_eq found _).trans here))
  have swept : RunsFirst scheduler handle callback (chosen.sweepEntries effects scheduler
      (List.finRange TimerPool.size) service.context) :=
    sweepEntries_runsFirst held fits ready (List.mem_finRange _)
  have quiet : ∀ entry ∈ [(.began scheduler : Entry χ)], ¬entry.About handle := by
    simp [Entry.About]
  simp only [TimerService.entries, found, moved, if_false]
  exact swept.behind quiet

namespace TimerService.Called

variable {call : ServiceCall χ} {entries : List (Entry χ)} {after : TimerService χ}
  {scheduler : Nat} {callback : χ → χ}

omit [LawfulTimers χ] in
/-- A registration that fails changes nothing. -/
theorem eq_of_refused (called : service.Called effects (.register scheduler callback) [] after) :
    after = service := by
  cases called with
  | refused full => rfl

omit [LawfulTimers χ] in
/-- Only a registration registers. -/
theorem of_registered (called : service.Called effects call entries after)
    (registered : .registered scheduler handle callback ∈ entries) :
    call = .register scheduler callback := by
  cases called with
  | registered found inside taken =>
    cases List.mem_singleton.1 registered
    rfl
  | made | armed | ticked | still => simp at registered
  | refused | unknown | elsewhere => cases registered
  | swept found inside moved =>
    obtain ⟨_, _, _, _, same⟩ | ⟨access, same⟩ :=
      mem_sweepEntries ((List.mem_cons.1 registered).resolve_left nofun)
    · cases same
    · cases access <;> cases same

omit [LawfulTimers χ] in
theorem ascending (called : service.Called effects (.step scheduler) entries after) :
    (entries.filterMap Entry.ran?).Pairwise (·.index < ·.index) := by
  cases called with
  | unknown none => exact .nil
  | still found still => exact .nil
  | swept found inside moved => exact sweepEntries_runs (List.pairwise_lt_finRange _)

omit [LawfulTimers χ] in
theorem replayed (called : service.Called effects (.step scheduler) entries after) :
    after.context = entries.foldl Entry.replay service.context := by
  cases called with
  | unknown none => rfl
  | still found still => rfl
  | swept found inside moved => exact (Scheduler.replay_sweepEntries ..).symm

end TimerService.Called

section Called

variable {call : ServiceCall χ} {entries : List (Entry χ)} {after : TimerService χ}
  {scheduler : Nat} {callback : χ → χ}

omit [LawfulTimers χ] in
/-- A registration succeeds as long as there is a timer left. -/
theorem Books.registers (books : Books effects NoneDue log service.schedulers service.pool)
    (called : service.Called effects (.register scheduler callback) entries after)
    (inside : scheduler < service.schedulers.length) :
    entries ≠ [] ↔ (registrations log).length < TimerPool.size := by
  cases called with
  | registered found inside registered =>
    have fresh := books.not_mem (Scheduler.register_eq_some registered).1
    have most := TimerHandle.length_le_size (books.distinct.concat fresh)
    rw [List.length_concat] at most
    exact ⟨fun _ => most, fun _ => by simp⟩
  | refused full =>
    have taken := TimerPool.reserve_eq_none_iff.1 (full inside)
    have most := TimerHandle.size_le_length fun handle => (books.reserved handle).1 (taken handle)
    exact ⟨fun filled => absurd rfl filled, fun fewer => absurd most (Nat.not_le_of_lt fewer)⟩

omit [LawfulTimers χ] in
/-- What runs is run by a step of the scheduler that has the callback. -/
theorem Books.of_ran (books : Books effects NoneDue log service.schedulers service.pool)
    (called : service.Called effects call entries after)
    (ran : .ran scheduler handle callback ∈ entries) :
    call = .step scheduler ∧ .registered scheduler handle callback ∈ log := by
  cases called with
  | made | registered | armed | ticked | still => simp at ran
  | refused | unknown | elsewhere => cases ran
  | swept found inside moved =>
    obtain ⟨rfl, -, held⟩ := sweepEntries_ran ((List.mem_cons.1 ran).resolve_left nofun)
    exact ⟨rfl, (books.callbacks _ _ _).2 ((callbackOf?_eq found _).trans held)⟩

end Called

/-- What is to be said of the expiries where a run has come to. -/
structure Expiries (effects : Effects χ) (log : List (Entry χ)) (service : TimerService χ) : Prop where
  distinct : (registrations log).Nodup
  bounded : (registrations log).length ≤ TimerPool.size
  registers : ∀ scheduler callback, scheduler < service.schedulers.length →
    (service.entries effects (.register scheduler callback) ≠ [] ↔
      (registrations log).length < TimerPool.size)
  /-- A registration that fails changes nothing. -/
  refused : ∀ scheduler callback, service.entries effects (.register scheduler callback) = [] →
    service.after (.register scheduler callback) = service
  /-- A callback runs in a step of the scheduler that it was registered with. -/
  own : ∀ call scheduler handle callback,
    .ran scheduler handle callback ∈ service.entries effects call →
      call = .step scheduler ∧ .registered scheduler handle callback ∈ log
  /-- A step runs the callbacks of its log, each behind the reading of its timer, and nothing else. -/
  replayed : ∀ scheduler, (service.after (.step scheduler)).context =
    (service.entries effects (.step scheduler)).foldl Entry.replay service.context
  /-- Each run uses up an arm of its own, which was not replaced by a later one. -/
  consumes : ∀ front scheduler handle callback,
    front ++ [.ran scheduler handle callback] <+: log → Pending handle front
  ascending : ∀ scheduler, ((service.entries effects (.step scheduler)).filterMap
    Entry.ran?).Pairwise (·.index < ·.index)
  owned : ∀ handle, (service.pool.slot handle).ready = true → handle ∈ registrations log
  /-- What is ready runs in the next step of its scheduler, unless it is armed first. -/
  runs : ∀ scheduler handle callback, .registered scheduler handle callback ∈ log →
    (service.pool.slot handle).ready = true →
    ∀ more later, TimerService.Runs effects service log more later →
      .armed handle ∉ more → .began scheduler ∉ more →
      Timely scheduler (log ++ more ++ [.began scheduler]) →
      RunsFirst scheduler handle callback (later.entries effects (.step scheduler))

theorem Books.expiries (books : Books effects NoneDue log service.schedulers service.pool) :
    Expiries effects log service where
  distinct := books.distinct
  bounded := TimerHandle.length_le_size books.distinct
  registers := fun _ _ => books.registers (TimerService.called effects service _)
  refused := by
    intro scheduler callback empty
    have called := TimerService.called effects service (.register scheduler callback)
    rw [empty] at called
    exact called.eq_of_refused
  own := fun call _ _ _ => books.of_ran (TimerService.called effects service call)
  replayed := fun _ => (TimerService.called effects service _).replayed
  consumes := books.accounted
  ascending := fun _ => (TimerService.called effects service _).ascending
  owned := fun handle ready => books.named handle (books.pending handle (.inr ready)).mem
  runs := by
    intro scheduler handle callback registered ready more later run unarmed unstepped timely
    have stays := books.ready_run registered ready run unarmed unstepped
    exact (run.books books).runsFirst (List.mem_append_left _ registered) stays timely

/-- In every run of a timer service each expiry happens once, on the scheduler of its callback, and
none is lost. -/
theorem expiries_run_once {context : χ} {count : UInt32}
    (idle : HasTimers.timers context = { TimerPool.idle with now := count })
    (run : TimerService.Runs effects ⟨context, []⟩ [] log service) :
    Expiries effects log service := by
  have start : Books effects NoneDue [] [] (TimerService.pool ⟨context, []⟩) := by
    rw [TimerService.pool, idle]
    exact Books.start count
  exact (run.books start).expiries

end Expiries

theorem mem_armed_iff {log : List (Entry χ)} {handle : TimerHandle} :
    .armed handle ∈ log ↔ handle ∈ log.filterMap Entry.armed? := by
  rw [List.mem_filterMap]
  constructor
  · exact fun armed => ⟨_, armed, rfl⟩
  · rintro ⟨entry, member, named⟩
    cases entry with
    | armed other =>
      cases named
      exact member
    | made | registered | ticked | began | ran => cases named

theorem TimerService.entries_register [HasTimers χ] {effects : Effects χ} {service : TimerService χ}
    {scheduler : Nat} {chosen : Scheduler χ} {handle : TimerHandle} {pool : TimerPool}
    {callback : χ → χ} (found : service.schedulers[scheduler]? = some chosen)
    (reserved : service.pool.reserve = some (handle, pool)) :
    service.entries effects (.register scheduler callback) =
      [.registered scheduler handle callback] := by
  simp [entries, register?, found, Scheduler.register, reserved]

/-! ## Scripted callbacks -/

namespace Timer

instance : LawfulTimers Stage := ⟨fun _ _ => rfl⟩

namespace Stage

def actionAccesses (stage : Stage) : Action → List Access
  | .arm registration delay => (stage.handles[registration]?).toList.map (.arm · delay)
  | .ticks count => List.replicate count .tick

/-- The accesses that the script of a callback makes. -/
def accesses (number : Fin callbackCount) (stage : Stage) : List Access :=
  (stage.scripts.get number).flatMap stage.actionAccesses

theorem play_ticks (pool : TimerPool) (count : Nat) :
    pool.play (List.replicate count .tick) = count.repeat TimerPool.tick pool := by
  induction count with
  | zero => rfl
  | succ count ih =>
    rw [List.replicate_succ', TimerPool.play_append, ih]
    rfl

theorem act_accesses (stage : Stage) (action : Action) :
    stage.act action = { stage with pool := stage.pool.play (stage.actionAccesses action) } := by
  cases action with
  | ticks count => rw [actionAccesses, play_ticks, act, ticks]
  | arm registration delay =>
    rw [act, arm?, actionAccesses]
    cases stage.handles[registration]? <;> rfl

theorem foldl_act (script : List Action) (stage : Stage) :
    (script.foldl act stage).pool = stage.pool.play (script.flatMap stage.actionAccesses) := by
  induction script generalizing stage with
  | nil => rfl
  | cons action script ih =>
    rw [List.foldl_cons, ih, act_accesses, List.flatMap_cons, TimerPool.play_append]
    rfl

/-- What a scripted callback does to the pool is what its script says. -/
theorem callback_fits (numbers : TimerHandle → Fin callbackCount) (handle : TimerHandle) :
    Effects.Fit (fun handle => accesses (numbers handle)) handle (callback (numbers handle)) :=
  fun _ => foldl_act _ _

theorem callbackCount_pos : 0 < callbackCount := by decide

def bell : Fin callbackCount := ⟨0, callbackCount_pos⟩

/-- A stage of one timer, whose callback arms it anew and is interrupted by a tick. -/
def alarm : Stage :=
  { empty with
    handles := [.first]
    scripts := Vector.replicate callbackCount [.arm 0 1, .ticks 1] }

end Stage

def ring : Stage → Stage := Stage.callback Stage.bell

/-- An alarm that is armed, due, and run a first time. -/
def alarmCalls : List (ServiceCall Stage) :=
  [.make, .register 0 ring, .arm .first 1, .tick, .step 0]

/-- A step has run the alarm, and the next step does so again. -/
theorem alarm_runs_again :
    let effects : Effects Stage := fun _ => Stage.accesses Stage.bell
    let service := alarmCalls.foldl TimerService.after ⟨Stage.alarm, []⟩
    (service.pool.slot .first).ready = true ∧
      RunsFirst 0 .first ring (service.entries effects (.step 0)) := by
  intro effects service
  have next : ∀ {log : List (Entry Stage)} {service : TimerService Stage} (call : ServiceCall Stage),
      TimerService.Runs effects ⟨Stage.alarm, []⟩ [] log service →
      (∀ handle ∈ (service.entries effects call).filterMap Entry.armed?, handle ∈ registrations log) →
      (∀ scheduler callback, call = .register scheduler callback → callback = ring) →
      TimerService.Runs effects ⟨Stage.alarm, []⟩ [] (log ++ service.entries effects call)
        (service.after call) := by
    intro log service call run named scripted
    refine run.call call (fun handle armed => named handle (mem_armed_iff.1 armed)) ?_
    intro scheduler handle callback registered
    cases (TimerService.called effects service call).of_registered registered
    exact scripted _ _ rfl ▸ Stage.callback_fits (fun _ => Stage.bell) handle
  have made := next .make .none (by decide +kernel) nofun
  have registered := next (.register 0 ring) made (by decide +kernel) (by simp)
  have armed := next (.arm .first 1) registered (by decide +kernel) nofun
  have ticked := next .tick armed (by decide +kernel) nofun
  have stepped := next (.step 0) ticked (by decide +kernel) nofun
  have taken : .registered 0 .first ring ∈
      (TimerService.after ⟨Stage.alarm, []⟩ .make).entries effects (.register 0 ring) := by
    have found : (TimerService.after ⟨Stage.alarm, []⟩ .make).schedulers[0]? =
        some (.new TimerPool.idle) := rfl
    have pool : (TimerService.after ⟨Stage.alarm, []⟩ .make).pool = TimerPool.idle := rfl
    rw [TimerService.entries_register found (pool ▸ TimerPool.reserve_idle)]
    exact List.mem_singleton_self _
  have idle : HasTimers.timers Stage.alarm = { TimerPool.idle with now := 0 } := rfl
  have expiries := expiries_run_once idle stepped
  have ready : (service.pool.slot .first).ready = true := by decide +kernel
  refine ⟨ready, expiries.runs 0 .first ring ?_ ready [] _ .none (by simp) (by simp)
    (Timely.of_length_le (by decide +kernel))⟩
  simp only [List.mem_append, taken, true_or, or_true]

end Timer

end BondedMouse
