import BondedMouse.Firmware.Machine
import BondedMouse.Proofs.Firmware.Interleaving

/-! # The main loop as turns

The engine polls its tasks one after the other.  What they do in a millisecond is a row
of turns of the controller and the advertiser, so whatever holds of every interleaving
holds of the machine while it runs.
-/

namespace BondedMouse.Firmware

open Controller Parties

variable {φ : Type} {engine next : Engine φ}

theorem EngineM.bind_eq_ok_iff {α β : Type} {first : EngineM φ α} {rest : α → EngineM φ β}
    {value : β} :
    (first >>= rest) engine = .ok value next ↔
      ∃ result middle, first engine = .ok result middle ∧ rest result middle = .ok value next := by
  change EStateM.bind first rest engine = _ ↔ _
  unfold EStateM.bind
  cases first engine with
  | ok result middle =>
    constructor
    · exact fun continues => ⟨result, middle, rfl, continues⟩
    · rintro ⟨_, _, same, continues⟩
      cases same
      exact continues
  | error fault middle => simp

theorem EngineM.bind_of_ok {α β : Type} {first : EngineM φ α} {rest : α → EngineM φ β} {value : α}
    (passed : first engine = .ok value next) : (first >>= rest) engine = rest value next := by
  change EStateM.bind first rest engine = _
  unfold EStateM.bind
  rw [passed]

theorem EngineM.bind_of_error {α β : Type} {first : EngineM φ α} {rest : α → EngineM φ β}
    {fault : Fault} (failed : first engine = .error fault next) :
    (first >>= rest) engine = .error fault next := by
  change EStateM.bind first rest engine = _
  unfold EStateM.bind
  rw [failed]

namespace Engine

open EngineM

def parties (engine : Engine φ) : Parties :=
  ⟨engine.session, engine.advertiser⟩

/-- No fault of the stack waits for the next tick. -/
def Clear (engine : Engine φ) : Prop :=
  ∀ error, engine.session.device.fault ≠ some (.stack error)

theorem ok_ne_stack (error : StackError) :
    (Except.ok () : Except Fault Unit) ≠ .error (.stack error) := by
  intro refused
  cases refused

theorem control_apply (operation : ControlM Platform Unit) (engine : Engine φ) :
    control operation engine = raise (engine.session.control operation).1
      { engine with session := (engine.session.control operation).2 } := rfl

/-- What the controller did was not refused by the stack. -/
theorem control_eq_ok {operation : ControlM Platform Unit}
    (controlled : control operation engine = .ok () next) :
    next = { engine with session := (engine.session.control operation).2 } ∧
      ∀ error, (engine.session.control operation).1 ≠ .error (.stack error) := by
  rw [control_apply] at controlled
  generalize (engine.session.control operation).1 = result at controlled
  cases result with
  | ok value =>
    cases controlled
    exact ⟨rfl, ok_ne_stack⟩
  | error fault =>
    -- Of the faults only those of storage do not end the loop.
    cases fault with
    | storage error =>
      cases controlled
      exact ⟨rfl, fun error refused => by cases refused⟩
    | stack | timersExhausted | rankingsExhausted => cases controlled

/-! ## The queues -/

theorem drainEvents_idle (limit : Nat) (idle : engine.unit.events.receive? = none) :
    drainEvents limit engine = .ok () engine := by
  cases limit with
  | zero => rfl
  | succ limit =>
    have taken : nextEvent? engine = .ok none engine := by rw [nextEvent?, idle]
    exact bind_of_ok taken

theorem drainPresses_idle (limit : Nat) (idle : engine.presses.receive? = none) :
    drainPresses limit engine = .ok () engine := by
  cases limit with
  | zero => rfl
  | succ limit =>
    have taken : nextPress? engine = .ok none engine := by rw [nextPress?, idle]
    exact bind_of_ok taken

theorem drainEvents_succ {limit : Nat} {event : RadioEvent} {events : Channel RadioEvent 8}
    (received : engine.unit.events.receive? = some (event, events)) :
    drainEvents (limit + 1) engine = (control (onEvent event) >>= fun _ => drainEvents limit)
      (engine.setUnit { engine.unit with events }) := by
  have taken : nextEvent? engine =
      .ok (some event) (engine.setUnit { engine.unit with events }) := by
    rw [nextEvent?, received]
  exact bind_of_ok taken

theorem drainPresses_succ {limit : Nat} {press : Press} {presses : Channel Press 4}
    (received : engine.presses.receive? = some (press, presses)) :
    drainPresses (limit + 1) engine =
      (control (onRequest press.request) >>= fun _ => drainPresses limit)
        { engine with presses } := by
  have taken : nextPress? engine = .ok (some press) { engine with presses } := by
    rw [nextPress?, received]
  exact bind_of_ok taken

theorem pollEach_eq (tasks : List ButtonTask) (engine : Engine φ) :
    ∃ board presses, (pollEach tasks engine).2 =
      { engine.setUnit { engine.unit with board } with presses } := by
  induction tasks generalizing engine with
  | nil => exact ⟨engine.unit.board, engine.presses, rfl⟩
  | cons task tasks ih =>
    obtain ⟨board, presses, polled⟩ := ih (engine.pollButton task).1
    exact ⟨board, presses, polled⟩

/-- The buttons touch the board and post presses, and leave everything else alone. -/
theorem pollButtons_eq (engine : Engine φ) :
    ∃ board presses buttons, engine.pollButtons =
      { engine.setUnit { engine.unit with board } with presses, buttons } := by
  obtain ⟨board, presses, polled⟩ := pollEach_eq engine.buttons engine
  refine ⟨board, presses, (pollEach engine.buttons engine).1, ?_⟩
  unfold pollButtons
  dsimp only
  rw [polled]

/-- A run from a session leads to the engine's parties. -/
def Runs (started : Session Platform) (engine : Engine φ) : Prop :=
  ∃ crossed, Run started engine.parties crossed

namespace Runs

variable {started : Session Platform}

theorem turn (runs : engine.Runs started) (turn : Turn engine.parties next.parties) :
    next.Runs started := by
  obtain ⟨crossed, run⟩ := runs
  exact ⟨_, run.turn turn⟩

/-! ## Changes from outside -/

theorem setUnit (runs : engine.Runs started) {unit : RadioUnit}
    (commands : unit.commands = engine.unit.commands)
    (reports : unit.reports = engine.unit.reports) : (engine.setUnit unit).Runs started :=
  runs.turn (.outside commands reports)

theorem setCache (runs : engine.Runs started) (cache : RecordCache) :
    (engine.setCache cache).Runs started :=
  runs.turn (.outside rfl rfl)

theorem pollButtons (runs : engine.Runs started) : engine.pollButtons.Runs started := by
  obtain ⟨board, presses, buttons, pressed⟩ := engine.pollButtons_eq
  have changed : (engine.setUnit { engine.unit with board }).Runs started := runs.setUnit rfl rfl
  rw [pressed]
  exact changed

/-! ## The advertiser -/

/-- A poll is a turn for each move up to where the task waits. -/
theorem pollAdvertiser (runs : engine.Runs started) : engine.pollAdvertiser.Runs started :=
  Advertiser.poll_keeps
    (fun unit task => ∃ crossed,
      Run started ⟨(Parties.tuned engine.parties unit).session, task⟩ crossed)
    (fun ⟨_, run⟩ moves => ⟨_, run.turn (.advertiser moves)⟩) runs

theorem pollTasks (runs : engine.Runs started) :
    engine.pollButtons.pollAdvertiser.Runs started :=
  runs.pollButtons.pollAdvertiser

/-! ## The controller -/

/-- An operation that is not to handle a report. -/
theorem operation (runs : engine.Runs started) (operation : Operation)
    {command : ControlM Platform Unit} (own : operation.isReport = false)
    (performs : engine.session.moved (.operation operation) = engine.session.control command)
    (survives : Survives (Calm fun _ => True) (command engine.session.device))
    (controlled : control command engine = .ok () next) : next.Runs started := by
  obtain ⟨rfl, returned⟩ := control_eq_ok controlled
  have clear := (survives.control returned).clear
  rw [← performs] at returned clear ⊢
  exact runs.turn (.operation own ⟨returned, fun error recorded => by cases clear.symm.trans recorded⟩)

theorem saveOnce [Flash φ] (runs : engine.Runs started) {verdict : SaveVerdict}
    (saved : Engine.saveOnce engine = .ok verdict next) : next.Runs started := by
  cases saved
  exact runs.setCache _

section Controller

variable (begins : Sound ⟨started, .new⟩ false)

include begins

theorem calm (runs : engine.Runs started) : Calm (fun _ => True) engine.session.device := by
  obtain ⟨crossed, run⟩ := runs
  exact (run.sound begins).calm

theorem event (runs : engine.Runs started) {event : RadioEvent} {events : Channel RadioEvent 8}
    (waits : engine.unit.events.receive? = some (event, events))
    (controlled : control (onEvent event) (engine.setUnit { engine.unit with events }) = .ok () next) :
    next.Runs started := by
  have taken : Calm (fun _ => True) (engine.setUnit { engine.unit with events }).session.device :=
    { runs.calm begins with }
  obtain ⟨rfl, returned⟩ := control_eq_ok controlled
  have clear := ((onEvent_survives .trivial taken event).control returned).clear
  exact runs.turn (.event waits ⟨returned, fun error recorded => by cases clear.symm.trans recorded⟩)

theorem drainEvents (limit : Nat) (runs : engine.Runs started)
    (drained : Engine.drainEvents limit engine = .ok () next) : next.Runs started := by
  induction limit generalizing engine with
  | zero =>
    cases drained
    exact runs
  | succ limit ih =>
    obtain ⟨taken, middle, received, continues⟩ := bind_eq_ok_iff.1 drained
    unfold nextEvent? at received
    split at received
    · cases received
      cases continues
      exact runs
    · next event events waits =>
      cases received
      obtain ⟨_, handled, controlled, rest⟩ := bind_eq_ok_iff.1 continues
      exact ih (runs.event begins waits controlled) rest

theorem request (runs : engine.Runs started) (request : Request)
    (controlled : control (onRequest request) engine = .ok () next) : next.Runs started :=
  runs.operation (.request request) rfl rfl
    (onRequest_survives (runs.calm begins) request) controlled

theorem drainPresses (limit : Nat) (runs : engine.Runs started)
    (drained : Engine.drainPresses limit engine = .ok () next) : next.Runs started := by
  induction limit generalizing engine with
  | zero =>
    cases drained
    exact runs
  | succ limit ih =>
    obtain ⟨taken, middle, received, continues⟩ := bind_eq_ok_iff.1 drained
    unfold nextPress? at received
    split at received
    · cases received
      cases continues
      exact runs
    · next press presses waits =>
      cases received
      obtain ⟨_, handled, controlled, rest⟩ := bind_eq_ok_iff.1 continues
      have waiting : Runs started { engine with presses } := runs
      exact ih (waiting.request begins _ controlled) rest

/-- The controller's half of the loop, unless its scan timer records a fault. -/
theorem drive (runs : engine.Runs started) (driven : Engine.drive engine = .ok () next)
    (clear : next.Clear) : next.Runs started := by
  obtain ⟨_, _, here, driven⟩ := bind_eq_ok_iff.1 driven
  cases here
  -- Events, presses, the tick, and the timers, of which none but the last can record a fault.
  obtain ⟨_, handled, drained, driven⟩ := bind_eq_ok_iff.1 driven
  obtain ⟨_, _, here, driven⟩ := bind_eq_ok_iff.1 driven
  cases here
  obtain ⟨_, asked, drainedPresses, driven⟩ := bind_eq_ok_iff.1 driven
  obtain ⟨_, ticked, controlled, stepped⟩ := bind_eq_ok_iff.1 driven
  cases stepped
  have runs := runs.drainEvents begins _ drained
  have runs := runs.drainPresses begins _ drainedPresses
  have calm := runs.calm begins
  have runs := runs.operation .tick rfl rfl
    ((tick_survives .trivial calm).mono fun _ settled => settled.toCalm) controlled
  have turn : Turn ticked.parties (ticked.parties.made (.operation .timerStep)) :=
    .operation rfl ⟨ok_ne_stack, clear⟩
  change Runs started { ticked with session := ticked.session.timerStep }
  exact runs.turn turn

theorem tick (runs : engine.Runs started) : engine.tick.Runs started := by
  have clear := (runs.calm begins).clear
  have turn : Turn engine.parties (engine.parties.made (.operation .timerTick)) :=
    .operation rfl ⟨ok_ne_stack, fun error recorded => by cases clear.symm.trans recorded⟩
  exact runs.turn turn

variable [Flash φ]

theorem sync (runs : engine.Runs started) (synced : Engine.sync engine = .ok () next) :
    next.Runs started := by
  obtain ⟨_, _, here, synced⟩ := bind_eq_ok_iff.1 synced
  cases here
  split at synced
  · obtain ⟨verdict, saved, tried, follows⟩ := bind_eq_ok_iff.1 synced
    have runs := runs.saveOnce tried
    cases verdict with
    | done | retry =>
      cases follows
      exact runs
    | collect =>
      exact runs.operation (.event .storageFull) rfl rfl (onStorageFull_survives (runs.calm begins))
        follows
    | giveUp error =>
      cases follows
      exact runs.setCache _
  · cases synced
    exact runs

end Controller

end Runs

/-! ## Milliseconds -/

theorem fault_pollTasks (engine : Engine φ) :
    engine.pollButtons.pollAdvertiser.session.device.fault = engine.session.device.fault := by
  obtain ⟨board, presses, buttons, pressed⟩ := engine.pollButtons_eq
  show engine.pollButtons.session.device.fault = _
  rw [pressed]
  rfl

variable [Flash φ]

/-- Saving the cache records no fault. -/
theorem fault_sync (synced : sync engine = .ok () next) :
    next.session.device.fault = engine.session.device.fault := by
  obtain ⟨_, _, here, synced⟩ := bind_eq_ok_iff.1 synced
  cases here
  split at synced
  · obtain ⟨verdict, saved, tried, follows⟩ := bind_eq_ok_iff.1 synced
    -- The save itself changes only the cache.
    have spared : saved.session.device.fault = engine.session.device.fault := by
      cases tried
      rfl
    rw [← spared]
    cases verdict with
    | done | retry =>
      cases follows
      rfl
    | collect =>
      obtain ⟨rfl, returned⟩ := control_eq_ok follows
      have kept : Survives (fun device => device.fault = saved.session.device.fault)
          (onStorageFull saved.session.device) := by
        unfold onStorageFull
        dsimp only
        split <;> rfl
      exact kept.control returned
    | giveUp error =>
      cases follows
      rfl
  · cases synced
    rfl

section Iterate

variable {started : Session Platform} (begins : Sound ⟨started, .new⟩ false)

include begins

theorem Runs.iterate (runs : engine.Runs started) (passed : iterate engine = .ok () next)
    (clear : next.Clear) : next.Runs started := by
  obtain ⟨_, driven, drove, synced⟩ := bind_eq_ok_iff.1 passed
  have fault := fault_sync synced
  exact (runs.drive begins drove fun error => fault ▸ clear error).sync begins synced

theorem Runs.millisecond (runs : engine.Runs started) (passed : millisecond engine = .ok () next)
    (clear : next.Clear) : next.Runs started := by
  obtain ⟨_, advanced, here, passed⟩ := bind_eq_ok_iff.1 passed
  cases here
  obtain ⟨_, looped, iterated, rest⟩ := bind_eq_ok_iff.1 passed
  cases rest
  have advanced : engine.advanceClock.Runs started := runs.setUnit rfl rfl
  have fault : looped.tick.pollButtons.pollAdvertiser.session.device.fault =
      looped.session.device.fault := fault_pollTasks looped.tick
  have iterated := advanced.iterate begins iterated fun error => fault ▸ clear error
  exact (iterated.tick begins).pollTasks

theorem Runs.firstPolls (runs : engine.Runs started) (polled : firstPolls engine = .ok () next)
    (clear : next.Clear) : next.Runs started := by
  obtain ⟨_, begun, controlled, polled⟩ := bind_eq_ok_iff.1 polled
  obtain ⟨_, looped, iterated, rest⟩ := bind_eq_ok_iff.1 polled
  cases rest
  have begun := runs.operation .start rfl rfl (start_survives .trivial (runs.calm begins)) controlled
  have fault : looped.pollButtons.pollAdvertiser.session.device.fault =
      looped.session.device.fault := fault_pollTasks looped
  exact (begun.iterate begins iterated fun error => fault ▸ clear error).pollTasks

end Iterate

/-! ## The life of a device -/

/-- The engines that a device comes to from the first on, millisecond by millisecond and with
changes from outside in between, while no fault is recorded. -/
inductive Lives (first : Engine φ) : Engine φ → Prop
  | switchedOn {engine : Engine φ} (polled : firstPolls first = .ok () engine)
      (clear : engine.Clear) : Lives first engine
  | millisecond {engine next : Engine φ} (lives : Lives first engine)
      (passed : Engine.millisecond engine = .ok () next) (clear : next.Clear) : Lives first next
  | outside {engine : Engine φ} (lives : Lives first engine) {unit : RadioUnit}
      (commands : unit.commands = engine.unit.commands)
      (reports : unit.reports = engine.unit.reports) : Lives first (engine.setUnit unit)

/-- The engine before its first poll: it ranks nobody yet, and has the cache that it loaded. -/
def fresh (unit : RadioUnit) (flash : φ) : Engine φ where
  session := .fresh .empty (unit, (RecordCache.empty.load [Ranking.Record.key] flash).1)
  flash := (RecordCache.empty.load [Ranking.Record.key] flash).2
  budget := .fresh
  presses := .empty
  buttons := buttonPins.map fun (button, pin) => .new button pin
  advertiser := .new

theorem wired_fresh (unit : RadioUnit) (flash : φ) : (fresh unit flash).session.Wired :=
  (Session.powerUp_eq_ok (Session.powerUp_fresh _ _)).1

/-- There is a ranking and a timer for the one session that is powered up. -/
theorem assemble_eq (unit : RadioUnit) (flash : φ) :
    assemble unit flash = .ok (fresh unit flash) := by
  have first : RankingPool.empty.used.finIdxOf? false = some 0 := by decide +kernel
  simp only [assemble, RankingPool.alloc, first, Option.map_some]
  change (Session.powerUp Ranking.empty
    ((unit, (RecordCache.empty.load [Ranking.Record.key] flash).1) : Platform) 0 >>= _) = _
  rw [Session.powerUp_fresh]
  rfl

theorem powerUp_of_assemble {unit : RadioUnit} {flash : φ}
    (assembled : assemble unit flash = .ok engine) :
    ∃ ranking cache, Session.powerUp ranking (unit, cache) 0 = .ok engine.session ∧
      engine.advertiser = .new := by
  rw [assemble_eq] at assembled
  cases assembled
  exact ⟨_, _, Session.powerUp_fresh _ _, rfl⟩

/-- Whatever a device lives through is a run of its controller and its advertiser. -/
theorem Lives.runs {first : Engine φ} {unit : RadioUnit} {flash : φ}
    (assembled : assemble unit flash = .ok first) (idle : unit.commands.items = [])
    (silent : unit.reports = []) (lives : Lives first engine) : engine.Runs first.session := by
  obtain ⟨ranking, cache, powered, new⟩ := powerUp_of_assemble assembled
  -- Both parties start fresh, with nothing on its way between them.
  have begins : Sound ⟨first.session, .new⟩ false := .powerUp powered idle silent
  induction lives with
  | switchedOn polled clear =>
    have runs : first.Runs first.session := by
      rw [Runs, parties, new]
      exact ⟨_, .start⟩
    exact runs.firstPolls begins polled clear
  | millisecond lives passed clear ih => exact ih.millisecond begins passed clear
  | outside lives commands reports ih => exact ih.setUnit commands reports

end Engine

end BondedMouse.Firmware
