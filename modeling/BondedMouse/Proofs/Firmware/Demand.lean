import BondedMouse.Proofs.Firmware.Costs
import BondedMouse.Proofs.Firmware.Loop
import BondedMouse.Storage.Chip
import Mathlib.Algebra.GroupWithZero.Nat

/-! # The demand of an iteration

While an iteration of the main loop runs, the advertiser does not, and nothing is taken
from the channel of its commands.  `demand` bounds the places that the iteration takes
by what waits in the two queues.  If that many are left, the iteration ends well;
and a fault of the stack means that the channel became full.

The queues hold more than the channel serves: three presses of the pairing button that
are handled in one iteration take six places.
-/

namespace BondedMouse.Firmware

open Controller

variable {φ : Type} {start engine next : Engine φ}

namespace Engine

/-- The places that what waits in the queues can cost. -/
def due (engine : Engine φ) : Nat :=
  (engine.unit.events.items.map RadioEvent.cost).sum +
    (engine.presses.items.map fun press => press.request.cost).sum

/-- A bound on the places that the next iteration takes.  Either what waits opens a window, which
silences the scan timer; or the tick posts at most one command, and the scan timer two. -/
def demand (engine : Engine φ) : Nat :=
  max engine.due (min engine.due 1 + 2)

/-! ## Parts of the loop -/

/-- The loop goes on, with an engine that has the property.  If not, and if the calls to the radio
firmware were answered well, it has found the channel of commands full. -/
def Endures (property : Engine φ → Prop) (demand : Nat) (start : Engine φ) :
    EStateM.Result Fault (Engine φ) Unit → Prop
  | .ok () next => property next
  | .error fault next => start.unit.board.codes.Willing →
    fault = .stack .noResources ∧ Crowded demand start.unit next.unit

theorem Endures.mono {property other : Engine φ → Prop} {demand more : Nat}
    {result : EStateM.Result Fault (Engine φ) Unit} (endures : Endures property demand start result)
    (implies : ∀ next, property next → other next) (le : demand ≤ more) :
    Endures other more start result := by
  cases result with
  | ok value next => exact implies next endures
  | error fault next =>
    intro willing
    obtain ⟨named, crowded⟩ := endures willing
    exact ⟨named, crowded.full, Nat.lt_of_lt_of_le crowded.short (Nat.add_le_add_left le _)⟩

theorem Endures.bind {property other : Engine φ → Prop} {demand : Nat} {first rest : EngineM φ Unit}
    (endures : Endures property demand start (first engine))
    (continues : ∀ next, property next → Endures other demand start (rest next)) :
    Endures other demand start ((first >>= fun _ => rest) engine) := by
  cases passed : first engine with
  | ok value next =>
    rw [passed] at endures
    rw [EngineM.bind_of_ok passed]
    exact continues next endures
  | error fault next =>
    rw [passed] at endures
    rw [EngineM.bind_of_error passed]
    exact endures

/-- The state of an iteration at some place of it: what was posted since its start, with what is
owed to the tick, is no more than is due.  As soon as something was posted the scan timer is
quiet. -/
structure Balance (start : Engine φ) (due : Nat) (engine : Engine φ) : Prop where
  calm : Calm (fun _ => True) engine.session.device
  hooked : engine.session.Hooked
  codes : engine.unit.board.codes = start.unit.board.codes
  commands : start.unit.commands.items <+: engine.unit.commands.items
  within : engine.unit.commands.items.length + engine.session.device.owed ≤
    start.unit.commands.items.length + due
  lull : engine.unit.commands.items.length = start.unit.commands.items.length ∨
    engine.session.device.Lulled

/-- What is in place when an iteration begins. -/
structure Steady (engine : Engine φ) : Prop where
  calm : Calm (fun _ => True) engine.session.device
  hooked : engine.session.Hooked
  paid : engine.session.device.owed = 0

theorem Steady.balance (steady : Steady engine) : Balance engine 0 engine where
  calm := steady.calm
  hooked := steady.hooked
  codes := rfl
  commands := List.prefix_rfl
  within := Nat.le_of_eq (congrArg _ steady.paid)
  lull := .inl rfl

theorem Steady.of_session {env : Platform} (steady : Steady engine)
    (session : next.session = { engine.session with device := { engine.session.device with env } }) :
    Steady next := by
  constructor <;> rw [session]
  · exact { steady.calm with }
  · exact steady.hooked.of_same rfl rfl
  · exact steady.paid

namespace Balance

variable {due : Nat}

theorem setUnit (balance : Balance start due engine) (events : Channel RadioEvent 8) :
    Balance start due (engine.setUnit { engine.unit with events }) :=
  ⟨{ balance.calm with }, balance.hooked.of_same rfl rfl, balance.codes, balance.commands,
    balance.within, balance.lull⟩

/-- The loop goes on behind an operation of the controller unless the stack refuses it. -/
theorem control (balance : Balance start due engine) {operation : ControlM Platform Unit}
    {property : Device Platform → Prop} {cost : Nat}
    (fares : Fares property (engine.session.device.owed + cost) engine.session.device
      (operation engine.session.device)) :
    Endures (fun next => ∃ device, property device ∧
        next = { engine with session := { engine.session with device } })
      (due + cost) start (Engine.control operation engine) := by
  have within := balance.within
  rw [control_apply, Session.control_apply]
  generalize operation engine.session.device = result at fares
  cases result with
  | ok value device => exact ⟨device, fares, rfl⟩
  | error fault device =>
    cases fault with
    | storage error => exact ⟨device, fares, rfl⟩
    | stack | timersExhausted | rankingsExhausted =>
      intro willing
      obtain ⟨named, crowded⟩ := fares (balance.codes ▸ willing)
      have short : 4 < engine.unit.commands.items.length +
        (engine.session.device.owed + cost) := crowded.short
      exact ⟨named, crowded.full, by omega⟩

/-- An event or a request is added to what is due. -/
theorem handled (balance : Balance start due engine) {device : Device Platform} {cost : Nat}
    (spends : Spends cost engine.session.device device) (calm : Calm (fun _ => True) device)
    (arms : Arms engine.session.device device) :
    Balance start (due + cost) { engine with session := { engine.session with device } } where
  calm := calm
  hooked := balance.hooked.of_same rfl arms.scanTimer
  codes := spends.sends.codes.trans balance.codes
  commands := balance.commands.trans spends.sends.commands
  within := by
    have before := balance.within
    have taken := spends.within
    change device.env.1.commands.items.length + device.owed ≤ _
    change engine.session.device.env.1.commands.items.length + _ ≤ _ at before
    omega
  lull := by
    obtain same | opened := spends.opens
    · exact balance.lull.imp same.trans arms.lulled
    · exact .inr (arms.lulled_of_opened opened)

end Balance

/-- An operation of the controller that has its cost. -/
theorem Balance.operation {due cost : Nat} (balance : Balance start due engine)
    {operation : ControlM Platform Unit}
    (costs : Costs cost engine.session.device (operation engine.session.device))
    (survives : Survives (Calm fun _ => True) (operation engine.session.device))
    (arms : Arms engine.session.device (final (operation engine.session.device))) :
    Endures (fun next => Balance start (due + cost) next ∧ next.presses = engine.presses ∧
        engine.unit.events.items <+: next.unit.events.items)
      (due + cost) start (Engine.control operation engine) := by
  have armed : Survives (Arms engine.session.device) (operation engine.session.device) :=
    .of_final arms
  have fares := (Fares.and costs survives).and armed
  refine (balance.control fares).mono ?_ (Nat.le_refl _)
  rintro next ⟨device, ⟨⟨spends, calm⟩, arms⟩, rfl⟩
  exact ⟨balance.handled spends calm arms, rfl, spends.sends.events⟩

theorem drainEvents_endures {due : Nat} (waiting : List RadioEvent)
    (balance : Balance start due engine) (queued : waiting <+: engine.unit.events.items) :
    Endures (fun next => Balance start (due + (waiting.map RadioEvent.cost).sum) next ∧
        next.presses = engine.presses)
      (due + (waiting.map RadioEvent.cost).sum) start (drainEvents waiting.length engine) := by
  induction waiting generalizing engine due with
  | nil => exact ⟨balance, rfl⟩
  | cons event waiting ih =>
    obtain ⟨more, items⟩ := queued
    obtain ⟨events, received, rest⟩ := Channel.exists_receive? items.symm
    rw [List.length_cons, drainEvents_succ received, List.map_cons, List.sum_cons, ← Nat.add_assoc]
    have calm := (balance.setUnit events).calm
    have handled := (balance.setUnit events).operation (onEvent_costs event _)
      (onEvent_survives .trivial calm event) ((onEvent_goes event _).arms ⟨nofun, nofun⟩)
    refine (handled.mono (fun _ => id) (Nat.le_add_right _ _)).bind ?_
    rintro next ⟨balance, presses, grown⟩
    -- Handling an event may add to those that wait, but not before them.
    have left : waiting <+: events.items := ⟨more, rest.symm⟩
    refine (ih balance (left.trans grown)).mono ?_ (Nat.le_refl _)
    exact fun last ⟨balance, same⟩ => ⟨balance, same.trans presses⟩

theorem drainPresses_endures {due : Nat} (waiting : List Press) (balance : Balance start due engine)
    (queued : engine.presses.items = waiting) :
    Endures (Balance start (due + (waiting.map fun press => press.request.cost).sum))
      (due + (waiting.map fun press => press.request.cost).sum) start
      (drainPresses waiting.length engine) := by
  induction waiting generalizing engine due with
  | nil => exact balance
  | cons press waiting ih =>
    obtain ⟨presses, received, rest⟩ := Channel.exists_receive? queued
    rw [List.length_cons, drainPresses_succ received, List.map_cons, List.sum_cons, ← Nat.add_assoc]
    have taken : Balance start due { engine with presses } := { balance with }
    have handled := taken.operation (onRequest_costs press.request _)
      (onRequest_survives balance.calm press.request)
      ((onRequest_goes press.request _).arms ⟨nofun, nofun⟩)
    refine (handled.mono (fun _ => id) (Nat.le_add_right _ _)).bind ?_
    rintro next ⟨balance, same, -⟩
    exact ih balance ((congrArg Channel.items same).trans rest)

/-- The state of an iteration behind the tick. -/
structure Ticked (start : Engine φ) (due : Nat) (engine : Engine φ) : Prop
    extends Steady engine where
  codes : engine.unit.board.codes = start.unit.board.codes
  commands : start.unit.commands.items <+: engine.unit.commands.items
  within : engine.unit.commands.items.length ≤ start.unit.commands.items.length + due
  lull : engine.unit.commands.items.length ≤ start.unit.commands.items.length + min due 1 ∨
    engine.session.device.Lulled

theorem tick_endures {due : Nat} (balance : Balance start due engine) :
    Endures (Ticked start due) due start (Engine.control Controller.tick engine) := by
  have calm := balance.calm
  have armed : Survives (Arms engine.session.device) (Controller.tick engine.session.device) :=
    .of_final (.of_same (tick_beside _).toSameCourse)
  have fares := ((tick_pays calm.clear).and (tick_survives .trivial calm)).and armed
  rw [← Nat.add_zero engine.session.device.owed] at fares
  refine (balance.control fares).mono ?_ (Nat.le_refl _)
  rintro next ⟨device, ⟨⟨pays, settled⟩, arms⟩, rfl⟩
  have before := balance.within
  have owed := engine.session.device.owed_le_one
  have posted : device.env.1.commands.items.length ≤
    engine.unit.commands.items.length + engine.session.device.owed := pays.within
  refine ⟨⟨settled.toCalm, balance.hooked.of_same rfl arms.scanTimer, pays.paid⟩,
    pays.sends.codes.trans balance.codes, balance.commands.trans pays.sends.commands, ?_, ?_⟩
  · change device.env.1.commands.items.length ≤ _
    omega
  · refine balance.lull.imp (fun none => ?_) arms.lulled
    change device.env.1.commands.items.length ≤ _
    omega

/-- What an iteration comes to, if it ends well: the engine is steady again and what it posted is
within the demand; or the scan timer has left its fault to the next tick. -/
inductive Ended (demand : Nat) (start engine : Engine φ) : Prop
  | steady (steady : Steady engine)
      (commands : start.unit.commands.items <+: engine.unit.commands.items)
      (within : engine.unit.commands.items.length ≤ start.unit.commands.items.length + demand)
  | failed {error : StackError} (recorded : engine.session.device.fault = some (.stack error))
      (crowded : start.unit.board.codes.Willing →
        error = .noResources ∧ Crowded demand start.unit engine.unit)

theorem Ticked.timerStep {due : Nat} (ticked : Ticked start due engine) :
    Ended (max due (min due 1 + 2)) start
      { engine with session := engine.session.timerStep } := by
  have hooked := ticked.hooked.timerStep
  have within := ticked.within
  obtain few | lulled := ticked.lull
  -- Only the tick has posted something, and that at most once.
  · cases Session.timerStep_served ticked.hooked ticked.calm with
    | done calm spends owed =>
      have taken := spends.within
      rw [ticked.paid] at owed taken
      refine .steady ⟨calm, hooked, Nat.le_zero.1 owed⟩
        (ticked.commands.trans spends.sends.commands) ?_
      change engine.session.timerStep.device.env.1.commands.items.length ≤ _
      change engine.session.device.env.1.commands.items.length ≤ _ at few
      omega
    | failed recorded crowded =>
      refine .failed recorded fun willing => ?_
      obtain ⟨named, full, short⟩ := crowded (ticked.codes ▸ willing)
      rw [ticked.paid] at short
      change engine.session.device.env.1.commands.items.length ≤ _ at few
      exact ⟨named, full, by omega⟩
  -- A window was opened; the timer has nothing to end.
  · obtain ⟨timers, stepped⟩ := Session.timerStep_spared ticked.hooked lulled
    have unit : ({ engine with session := engine.session.timerStep } : Engine φ).unit =
        engine.unit := by
      change engine.session.timerStep.device.env.1 = _
      rw [stepped]
      rfl
    refine .steady ⟨?_, hooked, ?_⟩ (unit ▸ ticked.commands) ?_
    · change Calm _ engine.session.timerStep.device
      rw [stepped]
      exact { ticked.calm with }
    · change engine.session.timerStep.device.owed = 0
      rw [stepped]
      exact ticked.paid
    · rw [unit]
      omega

theorem drive_endures (steady : Steady engine) :
    Endures (Ended engine.demand engine) engine.demand engine (drive engine) := by
  have drained := drainEvents_endures _ steady.balance List.prefix_rfl
  rw [Nat.zero_add] at drained
  have covers := Nat.le_max_left engine.due (min engine.due 1 + 2)
  refine (drained.mono (fun _ => id) (Nat.le_trans (Nat.le_add_right _ _) covers)).bind ?_
  rintro drained ⟨balance, presses⟩
  -- Handling the events leaves the presses as they were when the iteration began.
  have pressed := drainPresses_endures _ balance rfl
  rw [presses] at pressed
  change Endures _ _ engine ((drainPresses drained.presses.items.length >>= fun _ => _) drained)
  rw [presses]
  refine (pressed.mono (fun _ => id) covers).bind fun pressed balance => ?_
  refine ((tick_endures balance).mono (fun _ => id) covers).bind fun ticked paid => ?_
  exact paid.timerStep

/-! ## Saving the cache -/

theorem onStorageFull_spares (engine : Engine φ) :
    ∃ cache, Engine.control (onEvent .storageFull) engine = .ok () (engine.setCache cache) := by
  have answered : ∃ cache, onStorageFull engine.session.device =
      .ok () { engine.session.device with env := (engine.session.device.env.1, cache) } := by
    unfold onStorageFull
    cases requested : engine.session.device.env.2.collectRequested <;>
      exact ⟨_, by simp [RecordStore.reclaim, RecordCache.reclaim, requested]; rfl⟩
  obtain ⟨cache, answered⟩ := answered
  rw [control_apply, Session.control_apply, onEvent, answered]
  exact ⟨cache, rfl⟩

theorem Ended.spared {demand : Nat} {cache : RecordCache} (ended : Ended demand start engine)
    (session : next.session = (engine.setCache cache).session) : Ended demand start next := by
  have unit : next.unit = engine.unit := by
    rw [Engine.unit, session]
    rfl
  cases ended with
  | steady steady commands within =>
    refine .steady ⟨?_, ?_, ?_⟩ (unit ▸ commands) (unit ▸ within)
    · rw [session]
      exact { steady.calm with }
    · rw [session]
      exact steady.hooked.of_same rfl rfl
    · rw [session]
      exact steady.paid
  | failed recorded crowded =>
    refine .failed ?_ (unit ▸ crowded)
    rw [session]
    exact recorded

/-! ## The other tasks -/

/-- The buttons and the advertiser reach the controller only through the queues. -/
theorem pollTasks_spares (engine : Engine φ) :
    ∃ env, engine.pollButtons.pollAdvertiser.session =
      { engine.session with device := { engine.session.device with env } } := by
  obtain ⟨board, presses, buttons, pressed⟩ := engine.pollButtons_eq
  obtain ⟨env, advertised⟩ : ∃ env, engine.pollButtons.pollAdvertiser.session =
      { engine.pollButtons.session with
        device := { engine.pollButtons.session.device with env } } := ⟨_, rfl⟩
  exact ⟨env, by rw [advertised, pressed]; rfl⟩

variable [Flash φ]

theorem saveOnce_spares (engine : Engine φ) :
    ∃ verdict saved cache, saveOnce engine = .ok verdict saved ∧
      saved.session = (engine.setCache cache).session :=
  ⟨_, _, _, rfl, rfl⟩

/-- Bringing the cache to flash ends well, and touches nothing of the session but the cache. -/
theorem sync_spares (engine : Engine φ) :
    ∃ next cache, sync engine = .ok () next ∧ next.session = (engine.setCache cache).session := by
  have checks : sync engine =
      (if engine.cache.needsSave then _ else pure () : EngineM φ Unit) engine := rfl
  by_cases needs : engine.cache.needsSave = true
  · obtain ⟨verdict, saved, cache, tried, session⟩ := saveOnce_spares engine
    rw [checks, if_pos needs, EngineM.bind_of_ok tried]
    cases verdict with
    | done | retry => exact ⟨saved, cache, rfl, session⟩
    | collect =>
      obtain ⟨collected, handled⟩ := onStorageFull_spares saved
      exact ⟨_, collected, handled, by simp only [setCache, session]⟩
    | giveUp error => exact ⟨_, saved.cache.dropPending, rfl, by simp only [setCache, session]⟩
  · rw [checks, if_neg needs]
    exact ⟨engine, engine.cache, rfl, rfl⟩

theorem iterate_endures (steady : Steady engine) :
    Endures (Ended engine.demand engine) engine.demand engine (iterate engine) := by
  refine (drive_endures steady).bind fun driven ended => ?_
  obtain ⟨next, cache, synced, session⟩ := sync_spares driven
  rw [synced]
  exact ended.spared session

/-! ## The engines that a device comes to -/

/-- An engine that the main loop comes to between two iterations, the stack having refused nothing
so far.  In between the rest of the device may change in every way, so any content of the
queues is covered. -/
inductive Reached : Engine φ → Prop
  | booted {first engine : Engine φ} {ranking : Ranking} {env : Platform}
      (powered : Session.powerUp ranking env 0 = .ok first.session)
      (started : Engine.control Controller.start first = .ok () engine) : Reached engine
  | iterated {engine next : Engine φ} (reached : Reached engine)
      (passed : iterate engine = .ok () next) (clear : next.Clear) : Reached next
  | ticked {engine : Engine φ} (reached : Reached engine) : Reached engine.tick
  | between {engine next : Engine φ} {env : Platform} (reached : Reached engine)
      (session : next.session =
        { engine.session with device := { engine.session.device with env } }) : Reached next

theorem Reached.steady (reached : Reached engine) : Steady engine := by
  induction reached with
  | @booted first engine ranking env powered started =>
    obtain ⟨rfl, returned⟩ := control_eq_ok started
    have calm : Calm (fun _ => True) first.session.device := .powerUp powered trivial
    have goes : Goes first.session.device (.operation .start) _ _ :=
      .restarted .start (start_restarts first.session.device)
    have arms := goes.arms ⟨nofun, nofun⟩
    rw [← Session.control_device] at arms
    refine ⟨(start_survives .trivial calm).control returned, ?_,
      (start_settles first.session.device).control returned⟩
    refine (Session.powerUp_hooked powered).of_same ?_ arms.scanTimer
    rw [Session.control_apply]
    cases Controller.start first.session.device <;> rfl
  | iterated reached passed clear ih =>
    have ended := iterate_endures ih
    rw [passed] at ended
    cases ended with
    | steady steady commands within => exact steady
    | failed recorded crowded => exact absurd recorded (clear _)
  | ticked reached ih => exact ⟨{ ih.calm with }, ih.hooked.of_same rfl rfl, ih.paid⟩
  | between reached session ih => exact ih.of_session session

theorem Reached.millisecond (reached : Reached engine)
    (passed : Engine.millisecond engine = .ok () next) (clear : next.Clear) : Reached next := by
  obtain ⟨_, advanced, here, passed⟩ := EngineM.bind_eq_ok_iff.1 passed
  cases here
  obtain ⟨_, looped, iterated, rest⟩ := EngineM.bind_eq_ok_iff.1 passed
  cases rest
  obtain ⟨env, session⟩ := pollTasks_spares looped.tick
  have clear : looped.Clear := by
    rw [Clear, session] at clear
    exact clear
  have advanced : Reached engine.advanceClock := reached.between rfl
  exact ((advanced.iterated iterated clear).ticked).between session

/-- Whatever a device lives through is covered. -/
theorem Lives.reached {first : Engine φ} {unit : RadioUnit} {flash : φ}
    (assembled : assemble unit flash = .ok first) (lives : Lives first engine) : Reached engine := by
  obtain ⟨ranking, cache, powered, -⟩ := powerUp_of_assemble assembled
  induction lives with
  | switchedOn polled clear =>
    obtain ⟨_, begun, started, polled⟩ := EngineM.bind_eq_ok_iff.1 polled
    obtain ⟨_, looped, iterated, rest⟩ := EngineM.bind_eq_ok_iff.1 polled
    cases rest
    obtain ⟨env, session⟩ := pollTasks_spares looped
    have clear : looped.Clear := by
      rw [Clear, session] at clear
      exact clear
    exact ((Reached.booted powered started).iterated iterated clear).between session
  | millisecond lives passed clear ih => exact ih.millisecond passed clear
  | outside lives commands reports ih => exact ih.between rfl

/-! ## Too many presses -/

omit [Flash φ] in
/-- While a window runs, a request for a pairing window takes two places or finds too few. -/
theorem control_pairingWindow (engine : Engine φ) (willing : engine.unit.board.codes.Willing)
    (down : engine.session.device.link = .down) (running : engine.session.device.running = true) :
    (∃ stopped, Engine.control (onRequest .pairingWindow) engine =
      .error (.stack .noResources) stopped) ∨
    ∃ next, Engine.control (onRequest .pairingWindow) engine = .ok () next ∧
      next.presses = engine.presses ∧ next.unit.board.codes = engine.unit.board.codes ∧
      next.session.device.link = .down ∧ next.session.device.running = true ∧
      next.unit.commands.items.length = engine.unit.commands.items.length + 2 := by
  have asks := putInForce_asks engine.session.device.forPairing
  rw [control_apply, Session.control_apply, onRequest_pairingWindow]
  generalize putInForce engine.session.device.forPairing = result at asks
  cases asks with
  | refused refuses =>
    obtain ⟨rfl, -⟩ := refuses.crowded willing
    exact .inl ⟨_, rfl⟩
  | @answered env answers =>
    have free : engine.session.device.forPairing.link = .down := down
    have runs : engine.session.device.forPairing.running = true := running
    have posted := answers.commands
    rw [commands_openingRequests, if_pos free, if_pos runs] at posted
    refine .inr ⟨_, rfl, rfl, answers.sends.codes, ?_, ?_, ?_⟩
    · simp [Device.advertised, Device.silenced, free, Link.dropped]
    · simp [Device.advertised, Device.silenced, free]
    · exact (congrArg List.length posted).trans List.length_append

omit [Flash φ] in
/-- The presses are handled until there is no place left. -/
theorem drainPresses_overruns (waiting : List Press) (queued : engine.presses.items = waiting)
    (pairing : ∀ press ∈ waiting, press.request = .pairingWindow)
    (willing : engine.unit.board.codes.Willing) (down : engine.session.device.link = .down)
    (running : engine.session.device.running = true)
    (short : 4 < engine.unit.commands.items.length + 2 * waiting.length) :
    ∃ stopped, drainPresses waiting.length engine = .error (.stack .noResources) stopped := by
  induction waiting generalizing engine with
  | nil => exact absurd engine.unit.commands.length_le (Nat.not_le.2 short)
  | cons press waiting ih =>
    obtain ⟨presses, received, rest⟩ := Channel.exists_receive? queued
    rw [List.length_cons, drainPresses_succ received, pairing press List.mem_cons_self]
    obtain ⟨stopped, refused⟩ | ⟨next, asked, same, codes, free, runs, grown⟩ :=
      control_pairingWindow { engine with presses } willing down running
    · exact ⟨stopped, EngineM.bind_of_error refused⟩
    · rw [EngineM.bind_of_ok asked]
      refine ih ((congrArg Channel.items same).trans rest)
        (fun other member => pairing other (List.mem_cons_of_mem _ member)) (codes ▸ willing)
        free runs ?_
      change next.unit.commands.items.length = engine.unit.commands.items.length + 2 at grown
      rw [List.length_cons] at short
      omega

/-- With nothing but presses for a pairing window in the queues, the demand is met exactly. -/
theorem iterate_overruns (quiet : engine.unit.events.items = [])
    (pairing : ∀ press ∈ engine.presses.items, press.request = .pairingWindow)
    (willing : engine.unit.board.codes.Willing) (down : engine.session.device.link = .down)
    (running : engine.session.device.running = true)
    (short : 4 < engine.unit.commands.items.length + 2 * engine.presses.items.length) :
    ∃ stopped, iterate engine = .error (.stack .noResources) stopped := by
  obtain ⟨stopped, overruns⟩ := drainPresses_overruns _ rfl pairing willing down running short
  have drained : drainEvents engine.unit.events.items.length engine = .ok () engine := by
    rw [quiet]
    rfl
  have driven : drive engine = .error (.stack .noResources) stopped := by
    change (drainEvents engine.unit.events.items.length >>= fun _ => _) engine = _
    rw [EngineM.bind_of_ok drained]
    change (drainPresses engine.presses.items.length >>= fun _ => _) engine = _
    exact EngineM.bind_of_error overruns
  exact ⟨stopped, EngineM.bind_of_error driven⟩

/-! ## A device without bonds -/

section Bench

/-- A blank device at power-up, before its first polls. -/
def blank : Engine Chip where
  session := Parties.unbonded
  flash := .new .empty
  budget := .fresh
  presses := .empty
  buttons := buttonPins.map fun (button, pin) => .new button pin
  advertiser := .new

/-- The blank device behind its first polls, when the radio firmware answers all calls well.  It
advertises for a new central. -/
def offering : Engine Chip :=
  let polled : Engine Chip := match firstPolls blank with
    | .ok _ engine | .error _ engine => engine
  polled.setUnit { polled.unit with board := { polled.unit.board with codes := {} } }

theorem assemble_blank : assemble (.new .powerOff none) (.new .empty : Chip) = .ok blank := by
  rw [assemble_eq]
  rfl

theorem lives_offering : Lives blank offering := by
  have clear : offering.session.device.fault = none := rfl
  exact .outside (.switchedOn rfl fun _ recorded => by cases clear.symm.trans recorded) rfl rfl

/-- The engine with other contents of its queues. -/
def queued (engine : Engine φ) (commands : Channel AdvertiserCommand 4)
    (events : Channel RadioEvent 8) (presses : Channel Press 4) : Engine φ :=
  { engine.setUnit { engine.unit with commands, events } with presses }

theorem reached_queued (commands : Channel AdvertiserCommand 4) (events : Channel RadioEvent 8)
    (presses : Channel Press 4) : Reached (offering.queued commands events presses) :=
  (lives_offering.reached assemble_blank).between rfl

def pairPress : Press := ⟨.pair, .short⟩

/-- Two presses for a pairing window fill the channel, and no more. -/
def pressedTwice : Engine Chip := offering.queued .empty .empty ⟨[pairPress, pairPress], by decide⟩

/-- A third press finds the channel full, whatever was left of it. -/
def pressedThrice : Engine Chip :=
  offering.queued offering.unit.commands .empty ⟨[pairPress, pairPress, pairPress], by decide⟩

end Bench

/-! ## What an iteration comes to -/

/-- Where the calls to the radio firmware are answered well, nothing but a full channel of commands
ends an iteration or leaves a fault to the next one; and then what was left of the channel
was less than the demand. -/
theorem only_a_full_channel_is_fatal {engine : Engine φ} (reached : Reached engine)
    (willing : engine.unit.board.codes.Willing) :
    (engine.unit.commands.items.length + engine.demand ≤ 4 →
      ∃ next posted, iterate engine = .ok () next ∧ next.session.device.fault = none ∧
        next.unit.commands.items = engine.unit.commands.items ++ posted ∧
        posted.length ≤ engine.demand) ∧
    ∀ fault next,
      (iterate engine = .error fault next ∨
        iterate engine = .ok () next ∧ next.session.device.fault = some fault) →
      fault = .stack .noResources ∧ next.unit.commands.items.length = 4 ∧
        4 < engine.unit.commands.items.length + engine.demand := by
  have endures := iterate_endures reached.steady
  cases passed : iterate engine with
  | error fault last =>
    rw [passed] at endures
    obtain ⟨rfl, full, short⟩ := endures willing
    refine ⟨fun room => by omega, ?_⟩
    rintro fault next (failed | ⟨ok, -⟩)
    · cases failed
      exact ⟨rfl, full, short⟩
    · cases ok
  | ok value last =>
    rw [passed] at endures
    cases endures with
    | steady steady commands within =>
      have clear := steady.calm.clear
      refine ⟨fun room => ?_, ?_⟩
      · obtain ⟨posted, appended⟩ := commands
        refine ⟨last, posted, rfl, clear, appended.symm, ?_⟩
        rw [← appended, List.length_append] at within
        omega
      · rintro fault next (failed | ⟨ok, recorded⟩)
        · cases failed
        · cases ok
          cases clear.symm.trans recorded
    | failed recorded crowded =>
      obtain ⟨rfl, full, short⟩ := crowded willing
      refine ⟨fun room => by omega, ?_⟩
      rintro fault next (failed | ⟨ok, found⟩)
      · cases failed
      · cases ok
        cases recorded.symm.trans found
        exact ⟨rfl, full, short⟩

theorem two_pairing_presses_are_safe : Reached pressedTwice ∧ pressedTwice.unit.board.codes.Willing ∧
    pressedTwice.unit.commands.items.length + pressedTwice.demand ≤ 4 ∧
    ∃ next posted, iterate pressedTwice = .ok () next ∧ next.session.device.fault = none ∧
      next.unit.commands.items = pressedTwice.unit.commands.items ++ posted ∧
      posted.length ≤ pressedTwice.demand := by
  have reached : Reached pressedTwice := reached_queued _ _ _
  have willing : pressedTwice.unit.board.codes.Willing := .of_zero rfl
  have room : pressedTwice.unit.commands.items.length + pressedTwice.demand ≤ 4 := by decide
  exact ⟨reached, willing, room, (only_a_full_channel_is_fatal reached willing).1 room⟩

/-- A device that advertises for a new central is reset by three presses of its pairing button that
are handled in one iteration. -/
theorem three_pairing_presses_are_fatal : assemble (.new .powerOff none) (.new .empty) = .ok blank ∧
    Lives blank offering ∧ Reached pressedThrice ∧ pressedThrice.unit.board.codes = {} ∧
    ∃ stopped, iterate pressedThrice = .error (.stack .noResources) stopped := by
  refine ⟨assemble_blank, lives_offering, reached_queued _ _ _, rfl, ?_⟩
  refine iterate_overruns rfl ?_ (.of_zero rfl) rfl rfl (Nat.lt_of_lt_of_le ?_ (Nat.le_add_left 6 _))
  · simp [pressedThrice, queued, pairPress, Press.request]
  · decide

end Engine

end BondedMouse.Firmware
