import BondedMouse.Proofs.Timer.Log
import Mathlib.Data.Fintype.Card
import Mathlib.Data.List.Pairwise

/-! # The books of a timer service

`Books` ties the log of a service to its pool and its schedulers, between two calls and in
the middle of a step.  Its three parts are about the registrations, the expiries that are
still owed, and the count of ticks.  Every kind of entry keeps them, hence every call, and
hence every run.
-/

namespace BondedMouse

variable {χ : Type}

/-! ## Logs -/

section Log

variable {log more : List (Entry χ)} {entry : Entry χ} {handle other : TimerHandle}
  {scheduler : Nat}

@[simp] theorem registrations_append (log more : List (Entry χ)) :
    registrations (log ++ more) = registrations log ++ registrations more :=
  List.filterMap_append ..

theorem mem_registrations_iff :
    handle ∈ registrations log ↔ ∃ scheduler callback, .registered scheduler handle callback ∈ log := by
  simp only [registrations, List.mem_filterMap]
  constructor
  · rintro ⟨entry, member, named⟩
    cases entry with
    | registered scheduler other callback =>
      cases named
      exact ⟨scheduler, callback, member⟩
    | made | armed | ticked | began | ran => cases named
  · rintro ⟨scheduler, callback, member⟩
    exact ⟨_, member, rfl⟩

/-- Where no timer is registered twice, a timer has one scheduler and one callback. -/
theorem registered_unique (distinct : (registrations log).Nodup) {name : Nat}
    {callback another : χ → χ} (first : .registered scheduler handle callback ∈ log)
    (second : .registered name handle another ∈ log) : scheduler = name ∧ callback = another := by
  rw [registrations, List.Nodup, List.pairwise_filterMap] at distinct
  by_contra apart
  have differs : (.registered scheduler handle callback : Entry χ) ≠
      .registered name handle another := by
    rintro ⟨⟩
    exact apart ⟨rfl, rfl⟩
  have symmetric : Std.Symm fun entry entry' : Entry χ =>
      ∀ handle, entry.registered? = some handle → ∀ other, entry'.registered? = some other →
        handle ≠ other :=
    ⟨fun entry entry' apart handle named other named' => (apart other named' handle named).symm⟩
  exact distinct.forall first second differs handle rfl handle rfl rfl

/-- An entry that registers nothing leaves the registrations. -/
theorem registered_mem_concat (other : entry.registered? = none) {callback : χ → χ} :
    .registered scheduler handle callback ∈ log ++ [entry] ↔
      .registered scheduler handle callback ∈ log := by
  rw [List.mem_append, or_iff_left]
  intro member
  rw [← List.mem_singleton.1 member] at other
  cases other

theorem pending_armed (handle : TimerHandle) (log : List (Entry χ)) :
    Pending handle (log ++ [.armed handle]) :=
  ⟨log, [], rfl, by simp⟩

theorem Pending.concat (pending : Pending handle log) (quiet : ¬entry.About handle) :
    Pending handle (log ++ [entry]) := by
  obtain ⟨early, late, rfl, silent⟩ := pending
  refine ⟨early, late ++ [entry], by simp, fun other member => ?_⟩
  obtain member | member := List.mem_append.1 member
  · exact silent other member
  · cases List.mem_singleton.1 member
    exact quiet

theorem Pending.mem (pending : Pending handle log) : .armed handle ∈ log := by
  obtain ⟨early, late, rfl, silent⟩ := pending
  simp

@[simp] theorem waited_concat_ticked :
    waited scheduler (log ++ [.ticked]) = waited scheduler log + 1 := by
  simp [waited]

@[simp] theorem waited_concat_armed :
    waited scheduler (log ++ [.armed handle]) = waited scheduler log := by
  simp [waited]

@[simp] theorem waited_concat_ran {name : Nat} {callback : χ → χ} :
    waited scheduler (log ++ [.ran name handle callback]) = waited scheduler log := by
  simp [waited]

@[simp] theorem waited_concat_registered {name : Nat} {callback : χ → χ} :
    waited scheduler (log ++ [.registered name handle callback]) = waited scheduler log := by
  simp [waited]

theorem waited_concat_made (name : Nat) :
    waited scheduler (log ++ [.made name]) = if name = scheduler then 0 else waited scheduler log := by
  simp [waited]

theorem waited_concat_began (name : Nat) :
    waited scheduler (log ++ [.began name]) = if name = scheduler then 0 else waited scheduler log := by
  simp [waited]

theorem waited_le_length (scheduler : Nat) (log : List (Entry χ)) :
    waited scheduler log ≤ log.length := by
  induction log using List.reverseRecOn with
  | nil => simp [waited]
  | append_singleton log entry ih =>
    rw [List.length_append, List.length_singleton]
    cases entry with
    | made name =>
      rw [waited_concat_made]
      split <;> omega
    | began name =>
      rw [waited_concat_began]
      split <;> omega
    | ticked => simpa using ih
    | registered | armed | ran => simpa using Nat.le_succ_of_le ih

theorem Timely.of_length_le (short : log.length ≤ UInt32.size) : Timely scheduler log := by
  intro front began
  have shorter := began.length_le
  have most := waited_le_length scheduler front
  rw [List.length_append, List.length_singleton] at shorter
  omega

theorem Timely.of_append (timely : Timely scheduler (log ++ more)) : Timely scheduler log :=
  fun front began => timely front (began.trans (List.prefix_append log more))

theorem Timely.last (timely : Timely scheduler (log ++ [.began scheduler])) :
    waited scheduler log < UInt32.size :=
  timely log (List.prefix_refl _)

end Log

/-! ## The books of a service -/

/-- The callback that a scheduler has for a timer. -/
def callbackOf? (schedulers : List (Scheduler χ)) (scheduler : Nat) (place : Fin TimerPool.size) :
    Option (χ → χ) :=
  schedulers[scheduler]?.bind (·.callback? place)

theorem callbackOf?_eq {schedulers : List (Scheduler χ)} {scheduler : Nat} {chosen : Scheduler χ}
    (found : schedulers[scheduler]? = some chosen) (place : Fin TimerPool.size) :
    callbackOf? schedulers scheduler place = chosen.callback? place := by
  simp [callbackOf?, found]

/-- The registrations of the log are those of the schedulers and of the pool. -/
structure Registered (effects : Effects χ) [HasTimers χ] (log : List (Entry χ))
    (schedulers : List (Scheduler χ)) (pool : TimerPool) : Prop where
  callbacks : ∀ scheduler handle callback, .registered scheduler handle callback ∈ log ↔
    callbackOf? schedulers scheduler handle.index = some callback
  fits : ∀ scheduler handle callback, .registered scheduler handle callback ∈ log →
    effects.Fit handle callback
  reserved : ∀ handle, (pool.slot handle).reserved = true ↔ handle ∈ registrations log
  distinct : (registrations log).Nodup
  named : ∀ handle, .armed handle ∈ log → handle ∈ registrations log

/-- An expiry that is still to come, or to be run, is that of an arm. -/
structure Owed (log : List (Entry χ)) (pool : TimerPool) : Prop where
  single : ∀ handle, (pool.slot handle).ready = true → (pool.slot handle).armed = false
  pending : ∀ handle, (pool.slot handle).armed = true ∨ (pool.slot handle).ready = true →
    Pending handle log
  accounted : ∀ front scheduler handle callback,
    front ++ [.ran scheduler handle callback] <+: log → Pending handle front

/-- A timer that is ready became so by a tick behind the start of the latest step, or the step has
still to come to it. -/
structure Clocked (due : Nat → TimerHandle → Prop) (log : List (Entry χ))
    (schedulers : List (Scheduler χ)) (pool : TimerPool) : Prop where
  counts : ∀ scheduler chosen, schedulers[scheduler]? = some chosen →
    pool.now = chosen.lastTick + .ofNat (waited scheduler log)
  awaited : ∀ scheduler handle callback, Timely scheduler log →
    .registered scheduler handle callback ∈ log → (pool.slot handle).ready = true →
      0 < waited scheduler log ∨ due scheduler handle

theorem Clocked.waited_eq_zero {due : Nat → TimerHandle → Prop} {log : List (Entry χ)}
    {schedulers : List (Scheduler χ)} {pool : TimerPool} {scheduler : Nat} {chosen : Scheduler χ}
    (clocked : Clocked due log schedulers pool) (found : schedulers[scheduler]? = some chosen)
    (few : waited scheduler log < UInt32.size) (still : pool.now = chosen.lastTick) :
    waited scheduler log = 0 :=
  ticks_eq_zero (clocked.counts scheduler chosen found) few still

structure Books (effects : Effects χ) [HasTimers χ] (due : Nat → TimerHandle → Prop)
    (log : List (Entry χ)) (schedulers : List (Scheduler χ)) (pool : TimerPool) : Prop
    extends Registered effects log schedulers pool, Owed log pool, Clocked due log schedulers pool

section Frames

variable [HasTimers χ] {effects : Effects χ} {log : List (Entry χ)} {entry : Entry χ}
  {schedulers : List (Scheduler χ)} {pool after : TimerPool} {handle : TimerHandle}

/-- An entry that registers nothing. -/
theorem Registered.concat (registered : Registered effects log schedulers pool)
    (other : entry.registered? = none)
    (named : ∀ handle, entry = .armed handle → handle ∈ registrations log)
    (reserved : ∀ handle, (after.slot handle).reserved = (pool.slot handle).reserved) :
    Registered effects (log ++ [entry]) schedulers after := by
  have same : registrations (log ++ [entry]) = registrations log := by
    simp [registrations, other]
  refine ⟨?_, ?_, ?_, same ▸ registered.distinct, ?_⟩
  · intro scheduler handle callback
    rw [registered_mem_concat other]
    exact registered.callbacks scheduler handle callback
  · intro scheduler handle callback
    rw [registered_mem_concat other]
    exact registered.fits scheduler handle callback
  · intro handle
    rw [reserved, same]
    exact registered.reserved handle
  · intro handle armed
    rw [same]
    obtain armed | armed := List.mem_append.1 armed
    · exact registered.named handle armed
    · exact named handle (List.mem_singleton.1 armed).symm

omit [HasTimers χ] in
/-- An entry that leaves the marks of the timers that it is not about.  Those it is about are pending
behind it. -/
theorem Owed.concat (owed : Owed log pool)
    (single : ∀ handle, (after.slot handle).ready = true → (after.slot handle).armed = false)
    (pending : ∀ handle, (after.slot handle).armed = true ∨ (after.slot handle).ready = true →
      ((pool.slot handle).armed = true ∨ (pool.slot handle).ready = true) ∧ ¬entry.About handle ∨
        entry = .armed handle)
    (runs : ∀ scheduler handle callback, entry = .ran scheduler handle callback → Pending handle log) :
    Owed (log ++ [entry]) after := by
  refine ⟨single, fun handle marked => ?_, ?_⟩
  · obtain ⟨before, quiet⟩ | rfl := pending handle marked
    · exact (owed.pending handle before).concat quiet
    · exact pending_armed handle log
  · intro front scheduler handle callback ran
    obtain last | before := List.prefix_concat_iff.1 ran
    · obtain ⟨rfl, same⟩ := List.append_inj' last rfl
      exact runs scheduler handle callback (List.singleton_inj.1 same).symm
    · exact owed.accounted front scheduler handle callback before

omit [HasTimers χ] in
/-- An entry at which the count stands still. -/
theorem Clocked.concat {due due' : Nat → TimerHandle → Prop} (clocked : Clocked due log schedulers pool)
    (other : entry.registered? = none)
    (still : ∀ scheduler, waited scheduler (log ++ [entry]) = waited scheduler log)
    (now : after.now = pool.now)
    (ready : ∀ handle, (after.slot handle).ready = true → (pool.slot handle).ready = true ∧
      ∀ scheduler, due scheduler handle → due' scheduler handle) :
    Clocked due' (log ++ [entry]) schedulers after := by
  refine ⟨fun scheduler chosen found => ?_, fun scheduler handle callback timely registered rings => ?_⟩
  · rw [now, still]
    exact clocked.counts scheduler chosen found
  · obtain ⟨before, stays⟩ := ready handle rings
    rw [registered_mem_concat other] at registered
    rw [still]
    exact (clocked.awaited scheduler handle callback timely.of_append registered before).imp_right
      (stays scheduler)

end Frames

/-! ## Entries of callbacks and ticks -/

section Entries

variable [HasTimers χ] {effects : Effects χ} {due : Nat → TimerHandle → Prop}
  {log : List (Entry χ)} {schedulers : List (Scheduler χ)} {pool : TimerPool}
  {handle : TimerHandle}

namespace Books

theorem armed (books : Books effects due log schedulers pool) (named : handle ∈ registrations log)
    (delay : UInt32) :
    Books effects due (log ++ [.armed handle]) schedulers (pool.arm handle delay) where
  toRegistered := by
    refine books.toRegistered.concat rfl (fun other same => ?_) fun other => ?_
    · cases same
      exact named
    · rw [TimerPool.slot_arm]
      split <;> simp_all
  toOwed := by
    refine books.toOwed.concat (fun other => ?_) (fun other => ?_) nofun
    · rw [TimerPool.slot_arm]
      split
      · simp
      · exact books.single other
    · rw [TimerPool.slot_arm]
      by_cases same : other = handle
      · exact fun _ => .inr (same ▸ rfl)
      · rw [if_neg same]
        exact fun marked => .inl ⟨marked, fun about => same about.symm⟩
  toClocked := by
    refine books.toClocked.concat rfl (by simp) rfl fun other => ?_
    rw [TimerPool.slot_arm]
    split
    · simp
    · exact fun ready => ⟨ready, fun _ => id⟩

/-- Behind a tick every step has something to wait for. -/
theorem ticked (books : Books effects due log schedulers pool) (later : Nat → TimerHandle → Prop) :
    Books effects later (log ++ [.ticked]) schedulers pool.tick where
  toRegistered := books.toRegistered.concat rfl nofun (by simp)
  toOwed := by
    refine books.toOwed.concat (fun other => ?_) (fun other marked => ?_) nofun
    · have single := books.single other
      rw [TimerPool.slot_tick, TimerSlot.ready_tick, TimerSlot.armed_tick]
      cases ready : (pool.slot other).ready <;> simp_all
    · rw [TimerPool.slot_tick, TimerSlot.ready_tick, TimerSlot.armed_tick] at marked
      refine .inl ⟨?_, id⟩
      cases armed : (pool.slot other).armed <;> simp_all
  toClocked := by
    refine ⟨fun scheduler chosen found => ?_, fun scheduler other callback _ _ _ => .inl (by simp)⟩
    rw [TimerPool.now_tick, books.counts scheduler chosen found, waited_concat_ticked,
      UInt32.ofNat_add, UInt32.add_assoc]
    rfl

theorem access (books : Books effects due log schedulers pool) (access : Access)
    (named : ∀ handle, (.armed handle : Entry χ) = access.entry → handle ∈ registrations log) :
    Books effects due (log ++ [access.entry]) schedulers (pool.access access) := by
  cases access with
  | arm handle delay => exact books.armed (named handle rfl) delay
  | tick => exact books.ticked due

theorem play (books : Books effects due log schedulers pool) (accesses : List Access)
    (named : ∀ handle, (.armed handle : Entry χ) ∈ accesses.map Access.entry →
      handle ∈ registrations log) :
    Books effects due (log ++ accesses.map Access.entry) schedulers (pool.play accesses) := by
  induction accesses generalizing log pool with
  | nil => simpa [TimerPool.play] using books
  | cons access accesses ih =>
    have first := books.access access fun handle same => named handle (by simp [same])
    have rest := ih first fun handle member => by
      rw [registrations_append]
      exact List.mem_append_left _ (named handle (List.mem_cons_of_mem _ member))
    simpa [TimerPool.play] using rest

end Books

end Entries

/-! ## Steps -/

/-- Between two calls no step is under way. -/
def NoneDue (_ : Nat) (_ : TimerHandle) : Prop := False

/-- The step of a scheduler has still to come to the timer. -/
def Sweeping (name : Nat) (places : List (Fin TimerPool.size)) (scheduler : Nat)
    (handle : TimerHandle) : Prop :=
  scheduler = name ∧ handle.index ∈ places

section Steps

variable [HasTimers χ] {effects : Effects χ} {log : List (Entry χ)}
  {schedulers : List (Scheduler χ)} {pool : TimerPool} {name : Nat} {place : Fin TimerPool.size}
  {places : List (Fin TimerPool.size)}

namespace Books

theorem ran (books : Books effects (Sweeping name (place :: places)) log schedulers pool)
    (ready : (pool.slot ⟨place⟩).ready = true) (callback : χ → χ) :
    Books effects (Sweeping name places) (log ++ [.ran name ⟨place⟩ callback]) schedulers
      (pool.popReady ⟨place⟩).2 where
  toRegistered := by
    refine books.toRegistered.concat rfl nofun fun other => ?_
    rw [TimerPool.slot_popReady]
    split <;> simp_all
  toOwed := by
    refine books.toOwed.concat (fun other => ?_) (fun other => ?_) ?_
    · rw [TimerPool.slot_popReady]
      split
      · simp
      · exact books.single other
    · rw [TimerPool.slot_popReady]
      -- What was ready is neither armed nor ready any more.
      by_cases same : other = ⟨place⟩
      · simp [same, books.single _ ready]
      · rw [if_neg same]
        exact fun marked => .inl ⟨marked, fun about => same about.symm⟩
    · rintro scheduler handle other ⟨⟩
      exact books.pending _ (.inr ready)
  toClocked := by
    refine books.toClocked.concat rfl (by simp) rfl fun other => ?_
    rw [TimerPool.slot_popReady]
    by_cases same : other = ⟨place⟩
    · simp [same]
    · rw [if_neg same]
      refine fun rings => ⟨rings, fun scheduler ⟨own, member⟩ => ⟨own, ?_⟩⟩
      obtain here | member := List.mem_cons.1 member
      · exact absurd (congrArg TimerHandle.mk here) same
      · exact member

/-- A timer at which the step finds nothing to run. -/
theorem passed (books : Books effects (Sweeping name (place :: places)) log schedulers pool)
    (quiet : ∀ callback, .registered name ⟨place⟩ callback ∈ log →
      (pool.slot ⟨place⟩).ready = false) :
    Books effects (Sweeping name places) log schedulers pool where
  toRegistered := books.toRegistered
  toOwed := books.toOwed
  counts := books.counts
  awaited := by
    intro scheduler handle callback timely registered ready
    refine (books.awaited scheduler handle callback timely registered ready).imp_right ?_
    rintro ⟨rfl, member⟩
    obtain here | member := List.mem_cons.1 member
    · obtain ⟨index⟩ := handle
      cases here
      exact absurd ready (by simp [quiet callback registered])
    · exact ⟨rfl, member⟩

theorem none_due (books : Books effects (Sweeping name []) log schedulers pool) :
    Books effects NoneDue log schedulers pool where
  toRegistered := books.toRegistered
  toOwed := books.toOwed
  counts := books.counts
  awaited := fun scheduler handle callback timely registered ready =>
    (books.awaited scheduler handle callback timely registered ready).imp_right
      fun ⟨_, member⟩ => by simp at member

variable [LawfulTimers χ] {chosen : Scheduler χ} {count : UInt32} {context : χ}

theorem slot
    (books : Books effects (Sweeping name (place :: places)) log schedulers
      (HasTimers.timers context))
    (found : schedulers[name]? = some { chosen with lastTick := count })
    (named : ∀ handle, .armed handle ∈ chosen.slotEntries effects name context place →
      handle ∈ registrations log) :
    Books effects (Sweeping name places)
      (log ++ chosen.slotEntries effects name context place) schedulers
      (HasTimers.timers (chosen.runSlot context place)) := by
  unfold Scheduler.slotEntries Scheduler.runSlot at *
  cases held : chosen.callback? place with
  | none =>
    -- No callback of this scheduler is registered here.
    rw [List.append_nil]
    refine books.passed fun other registered => ?_
    have here := (books.callbacks _ _ _).1 registered
    rw [callbackOf?_eq found] at here
    exact absurd (held.symm.trans here) nofun
  | some callback =>
    rw [held] at named
    dsimp only at named ⊢
    by_cases ready : ((HasTimers.timers context).slot ⟨place⟩).ready = true
    · have popped : ((HasTimers.timers context).popReady ⟨place⟩).1 = true := ready
      rw [if_pos popped] at named ⊢
      rw [if_pos popped]
      have registered : .registered name ⟨place⟩ callback ∈ log :=
        (books.callbacks _ _ _).2 ((callbackOf?_eq found _).trans held)
      have begun := books.ran ready callback
      rw [books.fits _ _ _ registered, LawfulTimers.timers_setTimers]
      have played := begun.play (effects ⟨place⟩ (HasTimers.setTimers context
        ((HasTimers.timers context).popReady ⟨place⟩).2)) fun handle member => by
          rw [registrations_append]
          exact List.mem_append_left _ (named handle (List.mem_cons_of_mem _ member))
      simpa using played
    · have stays : ((HasTimers.timers context).popReady ⟨place⟩).1 ≠ true := ready
      rw [if_neg stays, if_neg stays, List.append_nil]
      exact books.passed fun _ _ => by simpa using ready

theorem sweep
    (books : Books effects (Sweeping name places) log schedulers (HasTimers.timers context))
    (found : schedulers[name]? = some { chosen with lastTick := count })
    (named : ∀ handle, .armed handle ∈ chosen.sweepEntries effects name places context →
      handle ∈ registrations log) :
    Books effects (Sweeping name []) (log ++ chosen.sweepEntries effects name places context)
      schedulers (HasTimers.timers (places.foldl chosen.runSlot context)) := by
  induction places generalizing log context with
  | nil => simpa [Scheduler.sweepEntries] using books
  | cons place places ih =>
    rw [Scheduler.sweepEntries] at named ⊢
    have first := books.slot found fun handle member => named handle (List.mem_append_left _ member)
    have rest := ih first fun handle member => by
      rw [registrations_append]
      exact List.mem_append_left _ (named handle (List.mem_append_right _ member))
    rw [List.append_assoc] at rest
    exact rest

end Books

end Steps

/-! ## Calls -/

section Calls

variable [HasTimers χ] {effects : Effects χ} {log : List (Entry χ)}
  {schedulers : List (Scheduler χ)} {pool : TimerPool} {name : Nat} {chosen : Scheduler χ}

theorem Registered.of_callbacks {others : List (Scheduler χ)}
    (registered : Registered effects log schedulers pool)
    (same : ∀ scheduler place,
      callbackOf? others scheduler place = callbackOf? schedulers scheduler place) :
    Registered effects log others pool where
  callbacks := fun scheduler handle callback => by
    rw [same]
    exact registered.callbacks scheduler handle callback
  fits := registered.fits
  reserved := registered.reserved
  distinct := registered.distinct
  named := registered.named

namespace Books

theorem began (books : Books effects NoneDue log schedulers pool)
    (found : schedulers[name]? = some chosen) (inside : name < schedulers.length) :
    Books effects (Sweeping name (List.finRange TimerPool.size)) (log ++ [.began name])
      (schedulers.set name { chosen with lastTick := pool.now }) pool where
  toRegistered := by
    refine (books.toRegistered.concat rfl (by simp) fun _ => rfl).of_callbacks
      fun scheduler place => ?_
    by_cases same : name = scheduler
    · subst same
      rw [callbackOf?_eq found, callbackOf?_eq (List.getElem?_set_self inside)]
      rfl
    · simp only [callbackOf?, List.getElem?_set_ne same]
  toOwed := books.toOwed.concat books.single (fun _ marked => .inl ⟨marked, id⟩) nofun
  counts := by
    intro scheduler other here
    rw [waited_concat_began]
    by_cases same : name = scheduler
    · subst same
      rw [List.getElem?_set_self inside] at here
      cases here
      simp
    · rw [List.getElem?_set_ne same] at here
      rw [if_neg same]
      exact books.counts scheduler other here
  awaited := by
    intro scheduler handle callback timely registered ready
    rw [registered_mem_concat rfl] at registered
    rw [waited_concat_began]
    by_cases same : name = scheduler
    · exact .inr ⟨same.symm, List.mem_finRange _⟩
    · rw [if_neg same]
      exact .inl ((books.awaited scheduler handle callback timely.of_append registered
        ready).resolve_right id)

/-- If the count stands where it stood at the last step, nothing is ready: it has not gone round. -/
theorem skipped (books : Books effects NoneDue log schedulers pool)
    (found : schedulers[name]? = some chosen) (still : pool.now = chosen.lastTick) :
    Books effects NoneDue (log ++ [.began name]) schedulers pool where
  toRegistered := books.toRegistered.concat rfl nofun fun _ => rfl
  toOwed := books.toOwed.concat books.single (fun _ marked => .inl ⟨marked, id⟩) nofun
  counts := by
    intro scheduler other here
    rw [waited_concat_began]
    by_cases same : name = scheduler
    · subst same
      cases found.symm.trans here
      simp [still]
    · rw [if_neg same]
      exact books.counts scheduler other here
  awaited := by
    intro scheduler handle callback timely registered ready
    rw [registered_mem_concat rfl] at registered
    have before := (books.awaited scheduler handle callback timely.of_append registered
      ready).resolve_right id
    rw [waited_concat_began]
    by_cases same : name = scheduler
    · subst same
      simp [books.waited_eq_zero found timely.last still] at before
    · rw [if_neg same]
      exact .inl before

theorem made (books : Books effects NoneDue log schedulers pool) :
    Books effects NoneDue (log ++ [.made schedulers.length]) (schedulers ++ [.new pool]) pool where
  toRegistered := by
    refine (books.toRegistered.concat rfl (by simp) fun _ => rfl).of_callbacks
      fun scheduler place => ?_
    -- The new scheduler has no callbacks.
    by_cases inside : scheduler < schedulers.length
    · simp only [callbackOf?, List.getElem?_append_left inside]
    · have outside := Nat.le_of_not_lt inside
      simp only [callbackOf?, List.getElem?_append_right outside, List.getElem?_eq_none outside]
      cases scheduler - schedulers.length <;> simp
  toOwed := books.toOwed.concat books.single (fun _ marked => .inl ⟨marked, id⟩) nofun
  counts := by
    intro scheduler other here
    rw [waited_concat_made]
    by_cases inside : scheduler < schedulers.length
    · rw [List.getElem?_append_left inside] at here
      rw [if_neg (Nat.ne_of_gt inside)]
      exact books.counts scheduler other here
    · rw [List.getElem?_append_right (Nat.le_of_not_lt inside)] at here
      have last : scheduler - schedulers.length = 0 := by
        have found := (List.getElem?_eq_some_iff.1 here).1
        simpa using found
      rw [last] at here
      cases here
      have same : schedulers.length = scheduler := by omega
      simp [same, Scheduler.new]
  awaited := by
    intro scheduler handle callback timely registered ready
    rw [registered_mem_concat rfl] at registered
    -- What is registered is registered with a scheduler that was there before.
    have inside : scheduler < schedulers.length := by
      have held := (books.callbacks _ _ _).1 registered
      by_contra outside
      simp [callbackOf?, List.getElem?_eq_none (Nat.le_of_not_lt outside)] at held
    rw [waited_concat_made, if_neg (Nat.ne_of_gt inside)]
    exact books.awaited scheduler handle callback timely.of_append registered ready

end Books

section Register

variable {next : Scheduler χ} {after : TimerPool} {handle : TimerHandle} {callback : χ → χ}

omit [HasTimers χ] in
theorem registered_mem_concat_iff {scheduler : Nat} {other : TimerHandle} {another : χ → χ} :
    .registered scheduler other another ∈ log ++ [.registered name handle callback] ↔
      .registered scheduler other another ∈ log ∨
        scheduler = name ∧ other = handle ∧ another = callback := by
  simp

omit [HasTimers χ] in
theorem registrations_concat :
    registrations (log ++ [.registered name handle callback]) = registrations log ++ [handle] := by
  simp [registrations, Entry.registered?]

theorem Registered.not_mem (books : Registered effects log schedulers pool)
    (reserved : pool.reserve = some (handle, after)) : handle ∉ registrations log := by
  intro taken
  have free := (TimerPool.reserve_eq_some reserved).1
  simp [(books.reserved handle).2 taken] at free

theorem Registered.callbacks_register (books : Registered effects log schedulers pool)
    (found : schedulers[name]? = some chosen) (inside : name < schedulers.length)
    (registered : chosen.register pool callback = some (handle, next, after))
    (scheduler : Nat) (other : TimerHandle) (another : χ → χ) :
    .registered scheduler other another ∈ log ++ [.registered name handle callback] ↔
      callbackOf? (schedulers.set name next) scheduler other.index = some another := by
  rw [registered_mem_concat_iff]
  by_cases own : name = scheduler
  · subst own
    rw [callbackOf?_eq (List.getElem?_set_self inside), Scheduler.callbacks_register registered]
    by_cases same : other = handle
    · subst same
      have fresh := books.not_mem (Scheduler.register_eq_some registered).1
      have unheld : .registered name other another ∉ log := fun member =>
        fresh (mem_registrations_iff.2 ⟨name, another, member⟩)
      simp [unheld, eq_comm]
    · have apart : other.index ≠ handle.index := TimerHandle.index_injective.ne same
      simp [same, apart, books.callbacks, callbackOf?_eq found]
  · simp [books.callbacks, callbackOf?, List.getElem?_set_ne own, Ne.symm own]

theorem Registered.register (books : Registered effects log schedulers pool)
    (found : schedulers[name]? = some chosen) (inside : name < schedulers.length)
    (registered : chosen.register pool callback = some (handle, next, after))
    (fit : effects.Fit handle callback) :
    Registered effects (log ++ [.registered name handle callback]) (schedulers.set name next)
      after where
  callbacks := books.callbacks_register found inside registered
  fits := by
    intro scheduler other another member
    obtain earlier | ⟨-, rfl, rfl⟩ := registered_mem_concat_iff.1 member
    · exact books.fits scheduler other another earlier
    · exact fit
  reserved := by
    intro other
    obtain ⟨-, rfl⟩ := TimerPool.reserve_eq_some (Scheduler.register_eq_some registered).1
    rw [registrations_concat, TimerPool.slot_update]
    by_cases same : other = handle
    · simp [same]
    · simp [same, books.reserved]
  distinct := by
    rw [registrations_concat]
    have fresh := books.not_mem (Scheduler.register_eq_some registered).1
    simpa using List.Nodup.concat fresh books.distinct
  named := by
    intro other armed
    rw [registrations_concat]
    exact List.mem_append_left _ (books.named other (by simpa using armed))

/-- The timer that is registered was not armed before. -/
theorem Books.register (books : Books effects NoneDue log schedulers pool)
    (found : schedulers[name]? = some chosen) (inside : name < schedulers.length)
    (registered : chosen.register pool callback = some (handle, next, after))
    (fit : effects.Fit handle callback) :
    Books effects NoneDue (log ++ [.registered name handle callback]) (schedulers.set name next)
      after := by
  obtain ⟨reserved, lastTick⟩ := Scheduler.register_eq_some registered
  have fresh := books.not_mem reserved
  have held := books.toRegistered.register found inside registered fit
  obtain ⟨-, rfl⟩ := TimerPool.reserve_eq_some reserved
  have marks : ∀ other : TimerHandle,
      ((pool.update handle fun slot => { slot with reserved := true }).slot other).ready =
          (pool.slot other).ready ∧
        ((pool.update handle fun slot => { slot with reserved := true }).slot other).armed =
          (pool.slot other).armed := by
    intro other
    rw [TimerPool.slot_update]
    split <;> simp_all
  refine ⟨held, ?_, fun scheduler other here => ?_,
    fun scheduler other another timely member ready => ?_⟩
  · exact books.toOwed.concat (fun other => by simpa [marks] using books.single other)
      (fun other marked => .inl ⟨by simpa [marks] using marked, id⟩) nofun
  · rw [waited_concat_registered, TimerPool.now_update]
    by_cases own : name = scheduler
    · subst own
      rw [List.getElem?_set_self inside] at here
      cases here
      rw [lastTick]
      exact books.counts name chosen found
    · rw [List.getElem?_set_ne own] at here
      exact books.counts scheduler other here
  · rw [(marks other).1] at ready
    rw [waited_concat_registered]
    obtain earlier | ⟨-, rfl, rfl⟩ := registered_mem_concat_iff.1 member
    · exact books.awaited scheduler other another timely.of_append earlier ready
    · exact absurd (books.named _ (books.pending _ (.inr ready)).mem) fresh

end Register

theorem Books.start (count : UInt32) :
    Books effects NoneDue [] ([] : List (Scheduler χ)) { TimerPool.idle with now := count } := by
  have idle : ∀ handle : TimerHandle,
      TimerPool.slot { TimerPool.idle with now := count } handle = TimerSlot.idle := by
    intro handle
    simp [TimerPool.slot, TimerPool.idle]
  constructor
  · constructor <;> simp [registrations, callbackOf?, idle, TimerSlot.idle]
  · constructor <;> simp [idle, TimerSlot.idle]
  · constructor <;> simp

variable [LawfulTimers χ] {service : TimerService χ}

theorem Books.called {call : ServiceCall χ} {entries : List (Entry χ)} {after : TimerService χ}
    (books : Books effects NoneDue log service.schedulers service.pool)
    (called : service.Called effects call entries after)
    (named : ∀ handle, .armed handle ∈ entries → handle ∈ registrations log)
    (fit : ∀ scheduler handle callback, .registered scheduler handle callback ∈ entries →
      effects.Fit handle callback) :
    Books effects NoneDue (log ++ entries) after.schedulers after.pool := by
  cases called with
  | made => exact books.made
  | registered found inside registered =>
    rw [TimerService.pool_withPool]
    exact books.register found inside registered (fit _ _ _ (List.mem_singleton_self _))
  | refused full => simpa using books
  | armed =>
    rw [TimerService.pool_withPool]
    exact books.armed (named _ (List.mem_singleton_self _)) _
  | ticked =>
    rw [TimerService.pool_withPool]
    exact books.ticked NoneDue
  | unknown none => simpa using books
  | still found still => exact books.skipped found still
  | @swept name chosen found inside moved =>
    have begun := books.began found inside
    have swept := begun.sweep (List.getElem?_set_self inside) fun handle member => by
      rw [registrations_append]
      exact List.mem_append_left _ (named handle (List.mem_cons_of_mem _ member))
    rw [List.append_assoc] at swept
    exact swept.none_due
  | elsewhere =>
    rw [TimerService.pool_withPool, List.append_nil]
    exact books

theorem TimerService.Runs.books {start : TimerService χ} {earlier : List (Entry χ)}
    (books : Books effects NoneDue earlier start.schedulers start.pool)
    (run : TimerService.Runs effects start earlier log service) :
    Books effects NoneDue (earlier ++ log) service.schedulers service.pool := by
  induction run with
  | none => simpa using books
  | call run call named fit ih =>
    rw [← List.append_assoc]
    exact ih.called (TimerService.called effects _ call) named fit

end Calls

end BondedMouse
