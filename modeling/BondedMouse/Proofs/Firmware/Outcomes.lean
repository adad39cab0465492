import BondedMouse.Proofs.Firmware.Loop

/-! # What the main loop leaves behind

A step of the main loop leaves an engine behind, whether or not it ends in a fault.  So a
property that is kept by the handling of an event, of a request, by the tick and by the
timers is kept by the controller's half of an iteration, wherever a fault ends that.
-/

namespace BondedMouse.Firmware

open Controller

variable {φ : Type}

namespace EngineM

/-- The engine that a step leaves behind, whether or not it ends in a fault. -/
def left {α : Type} : EStateM.Result Fault (Engine φ) α → Engine φ
  | .ok _ engine | .error _ engine => engine

theorem left_bind {α β : Type} (holds : Engine φ → Prop) (first : EngineM φ α)
    {rest : α → EngineM φ β} {engine : Engine φ} (held : holds (left (first engine)))
    (keeps : ∀ value next, holds next → holds (left (rest value next))) :
    holds (left ((first >>= rest) engine)) := by
  change holds (left (EStateM.bind first rest engine))
  unfold EStateM.bind
  cases ran : first engine with
  | ok value next =>
    rw [ran] at held
    exact keeps value next held
  | error fault next =>
    rw [ran] at held
    exact held

end EngineM

namespace Engine

open EngineM

theorem wired_control {session : Session Platform} (wired : session.Wired)
    (operation : ControlM Platform Unit) : (session.control operation).2.Wired := by
  rw [Session.control_apply]
  cases operation session.device <;> exact wired

theorem left_control (operation : ControlM Platform Unit) (engine : Engine φ) :
    left (control operation engine) =
      { engine with session := (engine.session.control operation).2 } := by
  rw [control_apply]
  unfold raise
  cases (engine.session.control operation).1 with
  | ok value => rfl
  | error fault =>
    dsimp only
    split <;> rfl

/-! ## The controller's half of the loop -/

/-- A property that is kept by each part of the controller's half of the loop. -/
structure Lasting (holds : Engine φ → Prop) : Prop where
  event : ∀ {engine event events}, engine.unit.events.receive? = some (event, events) →
    holds engine →
    holds (left (control (onEvent event) (engine.setUnit { engine.unit with events })))
  request : ∀ {engine presses} (request : Request), holds engine →
    holds (left (control (onRequest request) { engine with presses }))
  tick : ∀ {engine}, holds engine → holds (left (control Controller.tick engine))
  timerStep : ∀ {engine}, holds engine →
    holds { engine with session := engine.session.timerStep }

namespace Lasting

variable {holds : Engine φ → Prop} {engine : Engine φ}

theorem drainEvents (lasting : Lasting holds) (limit : Nat) (held : holds engine) :
    holds (left (Engine.drainEvents limit engine)) := by
  induction limit generalizing engine with
  | zero => exact held
  | succ limit ih =>
    cases waits : engine.unit.events.receive? with
    | none =>
      rw [drainEvents_idle _ waits]
      exact held
    | some received =>
      obtain ⟨event, events⟩ := received
      rw [drainEvents_succ waits]
      exact left_bind _ _ (lasting.event waits held) fun _ _ handled => ih handled

theorem drainPresses (lasting : Lasting holds) (limit : Nat) (held : holds engine) :
    holds (left (Engine.drainPresses limit engine)) := by
  induction limit generalizing engine with
  | zero => exact held
  | succ limit ih =>
    cases waits : engine.presses.receive? with
    | none =>
      rw [drainPresses_idle _ waits]
      exact held
    | some received =>
      obtain ⟨press, presses⟩ := received
      rw [drainPresses_succ waits]
      exact left_bind _ _ (lasting.request press.request held) fun _ _ handled => ih handled

theorem drive (lasting : Lasting holds) (held : holds engine) :
    holds (left (Engine.drive engine)) :=
  left_bind _ get held fun _ _ held =>
    left_bind _ _ (lasting.drainEvents _ held) fun _ _ held =>
      left_bind _ get held fun _ _ held =>
        left_bind _ _ (lasting.drainPresses _ held) fun _ _ held =>
          left_bind _ _ (lasting.tick held) fun _ _ held => lasting.timerStep held

end Lasting

/-! ## Saves -/

section Saves

variable [Flash φ]

/-- A save that was tried, before anything is made of its verdict. -/
def tried (engine : Engine φ) : Engine φ :=
  { engine.setCache (engine.cache.save engine.flash).2.1 with
    flash := (engine.cache.save engine.flash).2.2
    budget := (engine.budget.count (engine.cache.save engine.flash).1).2 }

theorem left_sync (engine : Engine φ) :
    left engine.sync = if engine.cache.needsSave then
      match (engine.budget.count (engine.cache.save engine.flash).1).1 with
      | .done | .retry => engine.tried
      | .collect => left (control (Controller.onEvent .storageFull) engine.tried)
      | .giveUp _ => engine.tried.setCache engine.tried.cache.dropPending
    else engine := by
  change left
    ((get >>= fun start => if start.cache.needsSave then _ else _ : EngineM φ Unit) engine) = _
  rw [bind_of_ok (show (get : EngineM φ (Engine φ)) engine = .ok engine engine from rfl)]
  split
  · have tried : saveOnce engine = .ok
        (engine.budget.count (engine.cache.save engine.flash).1).1 engine.tried := rfl
    rw [bind_of_ok tried]
    generalize (engine.budget.count (engine.cache.save engine.flash).1).1 = verdict
    cases verdict with
    | done | retry | collect => rfl
    | giveUp error =>
      -- Of the fault only a note is left, if anything.
      have dropped : (modify fun engine => engine.setCache engine.cache.dropPending : EngineM φ Unit)
          engine.tried = .ok () (engine.tried.setCache engine.tried.cache.dropPending) := rfl
      dsimp only
      rw [bind_of_ok dropped]
      unfold raise
      dsimp only
      split <;> rfl
  · rfl

end Saves

/-! ## Runs of the machine -/

section Machines

variable [Flash φ]

/-- A way from engine to engine that each part of a machine's run behind the start goes, wherever a
fault ends it. -/
structure Leading (leads : Engine φ → Engine φ → Prop) : Prop where
  refl : ∀ engine, leads engine engine
  trans : ∀ {engine middle last}, leads engine middle → leads middle last → leads engine last
  drive : ∀ engine, leads engine (left engine.drive)
  sync : ∀ engine, leads engine (left engine.sync)
  clock : ∀ engine, leads engine engine.advanceClock
  tick : ∀ engine, leads engine engine.tick
  polls : ∀ engine, leads engine engine.pollButtons.pollAdvertiser

namespace Leading

variable {leads : Engine φ → Engine φ → Prop}

theorem bind (leading : Leading leads) {α β : Type} {first : EngineM φ α} {rest : α → EngineM φ β}
    (begins : ∀ engine, leads engine (left (first engine)))
    (continues : ∀ value engine, leads engine (left (rest value engine))) (engine : Engine φ) :
    leads engine (left ((first >>= rest) engine)) :=
  left_bind _ _ (begins engine) fun value next led => leading.trans led (continues value next)

theorem iterate (leading : Leading leads) (engine : Engine φ) :
    leads engine (left engine.iterate) :=
  leading.bind leading.drive (fun _ => leading.sync) engine

theorem millisecond (leading : Leading leads) (engine : Engine φ) :
    leads engine (left engine.millisecond) := by
  have clock : ∀ engine, leads engine (left ((modify advanceClock : EngineM φ Unit) engine)) :=
    leading.clock
  have others : ∀ engine, leads engine (left ((modify fun engine =>
      engine.tick.pollButtons.pollAdvertiser : EngineM φ Unit) engine)) := fun engine =>
    leading.trans (leading.tick engine) (leading.polls engine.tick)
  exact leading.bind clock (fun _ => leading.bind leading.iterate fun _ => others) engine

theorem firstPolls (leading : Leading leads) (engine : Engine φ) :
    leads (left (control Controller.start engine)) (left (firstPolls engine)) := by
  have others : ∀ engine, leads engine (left ((modify fun engine =>
      engine.pollButtons.pollAdvertiser : EngineM φ Unit) engine)) := leading.polls
  exact left_bind _ _ (leading.refl _) fun _ next led =>
    leading.trans led (leading.bind leading.iterate (fun _ => others) next)

theorem runOn (leading : Leading leads) (time : Nat) (engine : Engine φ) :
    ∃ last, leads engine last ∧ (Machine.runOn time engine).2 = .on last := by
  induction time generalizing engine with
  | zero => exact ⟨engine, leading.refl engine, rfl⟩
  | succ time ih =>
    have led := leading.millisecond engine
    have run : Engine.millisecond.run engine = engine.millisecond := rfl
    rw [Machine.runOn, run]
    cases ran : engine.millisecond with
    | error fault next =>
      rw [ran] at led
      exact ⟨next, led, rfl⟩
    | ok value next =>
      rw [ran] at led
      obtain ⟨last, later, on⟩ := ih next
      exact ⟨last, leading.trans led later, on⟩

end Leading

/-- The radio unit when the hardware is set up. -/
def setUp (unit : RadioUnit) : RadioUnit :=
  { unit with board := setupCalls.foldl Board.note unit.board }

theorem Leading.powerUp {leads : Engine φ → Engine φ → Prop} (leading : Leading leads)
    {unit : RadioUnit} {flash : φ} {engine : Engine φ}
    (on : (Machine.powerUp unit flash).2 = .on engine) :
    leads (left (control Controller.start (fresh (setUp unit) flash))) engine := by
  have led := leading.firstPolls (fresh (setUp unit) flash)
  have run : Firmware.firstPolls.run (fresh (setUp unit) flash) =
    Firmware.firstPolls (fresh (setUp unit) flash) := rfl
  unfold Machine.powerUp at on
  dsimp only at on
  rw [show assemble { unit with board := setupCalls.foldl Board.note unit.board } flash = _ from
    assemble_eq (setUp unit) flash] at on
  dsimp only at on
  rw [run] at on
  cases polled : Firmware.firstPolls (fresh (setUp unit) flash) with
  | ok value next =>
    rw [polled] at led on
    cases on
    exact led
  | error fault next =>
    rw [polled] at led on
    cases on
    exact led

/-- Whatever a machine comes to when it is switched on and runs, the start leads to. -/
theorem Leading.run {leads : Engine φ → Engine φ → Prop} (leading : Leading leads)
    {unit : RadioUnit} {flash : φ} {time : Nat} {engine : Engine φ}
    (ran : (Machine.run time (.off unit flash)).2 = .on engine) :
    leads (left (control Controller.start (fresh (setUp unit) flash))) engine := by
  unfold Machine.run at ran
  dsimp only at ran
  split at ran
  · next started powered =>
    obtain ⟨last, later, on⟩ := leading.runOn time started
    rw [Machine.on.inj (ran.symm.trans on)]
    exact leading.trans (leading.powerUp (congrArg Prod.snd powered)) later
  · exact leading.powerUp ran

end Machines

end Engine

end BondedMouse.Firmware
