import BondedMouse.Proofs.Controller.Upheld
import BondedMouse.Proofs.Firmware.Outcomes
import BondedMouse.Proofs.Radio.Bonds
import BondedMouse.Proofs.Reconnect.Sequence
import BondedMouse.Proofs.Session.Runs
import BondedMouse.Storage.Chip

/-! # The bonds behind the ranking

The registry of bonds and the ranking are changed by different tasks, and between them
is a queue of events.  Still every ranked peer has a bond, and so has every peer whose
report waits: bonds are only ever added but for the erasure, and when a tick erases
them, the events of before are handled and the ranking goes with the bonds.  A scan thus
never waits for a peer that is gone.
-/

namespace BondedMouse

open Firmware

/-! ## The count of the detected peers -/

section Devices

variable {ε : Type} [RadioStack ε] {device middle described : Device ε}

theorem Device.tallied_forScan (tallied : device.sequence.Tallied) :
    device.forScan.sequence.Tallied := by
  unfold Device.forScan
  dsimp only
  split
  · exact tallied
  · exact Sequence.tallied_restart _

omit [RadioStack ε] in
theorem Device.tallied_noted (tallied : device.sequence.Tallied) (peer : PeerId) :
    (device.noted peer).sequence.Tallied := by
  unfold Device.noted
  dsimp only
  split
  · exact tallied.note _ _
  · exact tallied

theorem Opens.tallied (opens : Opens middle described) (tallied : middle.sequence.Tallied) :
    described.sequence.Tallied := by
  cases opens with
  | rest | pairing => exact tallied
  | targets =>
    unfold Device.forTargets
    dsimp only
    split
    · exact tallied.closeScan
    · exact Device.tallied_forScan tallied.closeScan
  | next phase =>
    unfold Device.forNext
    dsimp only
    split
    · exact tallied.turn
    · exact Device.tallied_forScan tallied.turn
    · have turned : ({ middle with sequence := middle.sequence.turn.2 } : Device ε).sequence.Tallied :=
        tallied.turn
      unfold Device.forAnyBonded
      dsimp only
      split <;> exact turned
  | sequence => exact Device.tallied_forScan (Sequence.tallied_restart .fresh)

theorem Opens.ranking (opens : Opens middle described) : described.ranking = middle.ranking := by
  obtain rfl | describes := opens.describes
  · rfl
  · cases describes
    rfl

end Devices

/-! ## The controller -/

/-- The registry has these bonds, these events wait, and whoever is ranked has a bond. -/
structure Rests (table : BondTable) (events : Channel RadioEvent 8) (device : Device Platform) :
    Prop where
  bonds : device.env.1.bonds = table
  events : device.env.1.events = events
  formed : device.ranking.WellFormed
  ranked : ∀ peer ∈ device.ranking.toList, table.Has peer
  tallied : device.sequence.Tallied

namespace Rests

open Controller

variable {table : BondTable} {events : Channel RadioEvent 8} {device : Device Platform}

theorem inserted (rests : Rests table events device) {peer : PeerId} (has : table.Has peer) :
    Rests table events { device with ranking := (device.ranking.insert peer).2 } :=
  { rests with
    formed := Ranking.wellFormed_closed.insert peer rests.formed
    ranked := fun other member => by
      rw [rests.formed.toList_insert] at member
      obtain rfl | older := List.mem_cons.1 (List.mem_of_mem_take member)
      · exact has
      · exact rests.ranked other (List.mem_of_mem_erase older) }

/-- While no bond is erased, the bonds of the ranked peers are there to stay. -/
theorem upheld (table : BondTable) (events : Channel RadioEvent 8) :
    Upheld table.Has (Rests table events) where
  same rests same := {
    bonds := same.calls.sameBonds.bonds.trans rests.bonds
    events := same.calls.sameBonds.events.trans rests.events
    formed := same.ranking ▸ rests.formed
    ranked := same.ranking ▸ rests.ranked
    tallied := same.sequence ▸ rests.tallied }
  opens rests opens := {
    bonds := opens.env ▸ rests.bonds
    events := opens.env ▸ rests.events
    formed := opens.ranking ▸ rests.formed
    ranked := opens.ranking ▸ rests.ranked
    tallied := opens.tallied rests.tallied }
  struck _ rests := { rests with }
  noted peer rests := { rests with tallied := Device.tallied_noted rests.tallied peer }
  inserted has rests := rests.inserted has

/-- The start ranks only peers with a bond, whatever the store has. -/
theorem start (bonds : device.env.1.bonds = table) (waiting : device.env.1.events = events)
    (formed : device.ranking.WellFormed) (tallied : device.sequence.Tallied) :
    Rests table events (final (start device)) := by
  have restored := Ranking.wellFormed_closed.restore formed device.env
  have env : device.restored.env.1 = device.env.1 := by rw [device.env_restored]; rfl
  have pruned : Rests table events device.restored.pruned := {
    bonds := (congrArg RadioUnit.bonds env).trans bonds
    events := (congrArg RadioUnit.events env).trans waiting
    formed := Ranking.wellFormed_closed.retain _ restored
    ranked := fun peer member => by
      have listed : peer ∈ (device.restored.ranking.retain
        (Registry.enumerates device.restored.env)).2.toList := member
      rw [Ranking.toList_retain, List.mem_filter, Registry.enumerates_iff_has, env, bonds] at listed
      exact listed.2
    tallied }
  rw [start_apply]
  exact final_bind _ ((upheld table events).opened .sequence pruned) fun _ =>
    (upheld table events).saved

/-- An order to erase the bonds is only taken down; all other requests leave the bonds alone. -/
theorem request (rests : Rests table events device) (request : Request) :
    Rests table events (final (onRequest request device)) := by
  by_cases erasing : request = .eraseBonds
  · subst erasing
    exact { rests with }
  · exact (upheld table events).request erasing rests

end Rests

/-- Everybody who is ranked has a bond, and no bond waits to be ranked. -/
def CaughtUp (device : Device Platform) : Prop :=
  ∃ table events, Rests table events device ∧ ∀ peer, .bonded peer ∉ events.items

namespace CaughtUp

open Controller

variable {device : Device Platform}

/-- An erasure takes the ranking with the bonds. -/
theorem erased (caught : CaughtUp device) : CaughtUp (final (eraseWhenDown device)) := by
  obtain ⟨table, events, rests, handled⟩ := caught
  have erases := eraseWhenDown_erases device
  generalize eraseWhenDown device = result at erases
  cases erases with
  | spared keeps => exact ⟨table, events, rests, handled⟩
  | refused pending down refuses =>
    -- The radio unit never refuses to erase its bonds.
    cases refuses with
    | here refused => cases refused
    | later answered rest => cases rest
  | erased pending down answers =>
    cases answers with
    | next answered rest =>
      cases rest
      refine ⟨.empty, events.sendOrDrop .bondsErased, ⟨rfl, ?_, ?_, ?_, rests.tallied⟩, ?_⟩
      · exact congrArg (Channel.sendOrDrop · .bondsErased) rests.events
      · exact Ranking.wellFormed_closed.empty
      · exact fun _ member => absurd member List.not_mem_nil
      · intro peer waits
        rw [Channel.items_sendOrDrop] at waits
        obtain before | own := List.mem_append.1 (List.mem_of_mem_take waits)
        · exact handled peer before
        · cases List.mem_singleton.1 own

theorem tick (caught : CaughtUp device) : CaughtUp (final (tick device)) := by
  obtain ⟨table, events, rests, handled⟩ := caught
  cases recorded : device.fault with
  | some fault =>
    rw [tick_fault recorded]
    exact ⟨table, events, { rests with }, handled⟩
  | none =>
    have reconciled : CaughtUp (final (reconcile device)) :=
      ⟨table, events, (Rests.upheld table events).asks (reconcile_asks device)
        device.forgetBonds_not_mem_reconcileRequests { rests with }, handled⟩
    rw [tick_apply recorded]
    refine final_bind CaughtUp reconciled fun _ caught => ?_
    refine final_bind CaughtUp caught.erased fun _ caught => ?_
    obtain ⟨table, events, rests, handled⟩ := caught
    exact ⟨table, events, (Rests.upheld table events).saved rests, handled⟩

end CaughtUp

/-! ## The main loop -/

namespace Firmware.Engine

open EngineM Controller

variable {φ : Type} {engine : Engine φ}

/-- Everybody who is ranked, or about to be ranked, has a bond. -/
structure Backed (engine : Engine φ) : Prop where
  wired : engine.session.Wired
  rests : Rests engine.unit.bonds engine.unit.events engine.session.device
  covers : engine.unit.Covers

/-- Beside that, all bonds of before are ranked. -/
structure Handled (engine : Engine φ) : Prop where
  wired : engine.session.Wired
  caught : CaughtUp engine.session.device

theorem Handled.backed (handled : engine.Handled) : engine.Backed := by
  obtain ⟨wired, table, events, rests, none_waits⟩ := handled
  have bonds : engine.unit.bonds = table := rests.bonds
  have waiting : engine.unit.events = events := rests.events
  refine ⟨wired, bonds ▸ waiting ▸ rests, fun peer waits => ?_⟩
  rw [waiting] at waits
  exact absurd waits (none_waits peer)

theorem Backed.handled (backed : engine.Backed)
    (none_waits : ∀ peer, .bonded peer ∉ engine.unit.events.items) : engine.Handled :=
  ⟨backed.wired, _, _, backed.rests, none_waits⟩

/-- The controller has done something over the same bonds. -/
theorem Backed.controlled (backed : engine.Backed) {operation : ControlM Platform Unit}
    (rests : Rests engine.unit.bonds engine.unit.events (final (operation engine.session.device))) :
    (left (control operation engine)).Backed ∧
      (left (control operation engine)).unit.events = engine.unit.events := by
  rw [← Session.control_device] at rests
  rw [left_control]
  have bonds : (engine.session.control operation).2.device.env.1.bonds = engine.unit.bonds :=
    rests.bonds
  have waiting : (engine.session.control operation).2.device.env.1.events = engine.unit.events :=
    rests.events
  refine ⟨⟨wired_control backed.wired operation, ?_, fun peer waits => ?_⟩, waiting⟩
  · exact ⟨rfl, rfl, rests.formed, fun peer member => bonds ▸ rests.ranked peer member,
      rests.tallied⟩
  · show (engine.session.control operation).2.device.env.1.bonds.Has peer
    rw [bonds]
    exact backed.covers peer (waiting ▸ waits)

/-- An event that was taken from the queue is handled over the same bonds. -/
theorem Backed.event (backed : engine.Backed) {event : RadioEvent} {events : Channel RadioEvent 8}
    (waits : engine.unit.events.receive? = some (event, events)) :
    let taken := engine.setUnit { engine.unit with events }
    taken.Backed ∧
      Rests taken.unit.bonds events (final (onEvent event taken.session.device)) := by
  intro taken
  have items := Channel.receive?_eq_some_iff.1 waits
  have rests : Rests engine.unit.bonds events taken.session.device :=
    { backed.rests with events := rfl }
  have behind : taken.Backed :=
    ⟨backed.wired, rests, fun peer later => backed.covers peer (by rw [items]; exact .tail _ later)⟩
  refine ⟨behind, (Rests.upheld _ _).event (fun peer handle named _ => ?_) rests⟩
  exact backed.covers peer (by rw [items, named]; exact List.mem_cons_self)

/-- The controller's part of an iteration behind the events keeps up with the bonds. -/
theorem Handled.lasting : Lasting (Handled : Engine φ → Prop) where
  event := by
    intro engine event events waits handled
    obtain ⟨behind, rests⟩ := handled.backed.event waits
    obtain ⟨backed, same⟩ := behind.controlled rests
    refine backed.handled fun peer later => ?_
    obtain ⟨table, present, rested, none_waits⟩ := handled.caught
    have items := Channel.receive?_eq_some_iff.1 waits
    have waiting : engine.unit.events = present := rested.events
    refine none_waits peer (waiting ▸ ?_)
    rw [items]
    rw [same] at later
    exact .tail _ later
  request := by
    intro engine presses request handled
    obtain ⟨table, present, rests, none_waits⟩ := handled.caught
    have taken : ({ engine with presses }).Handled := ⟨handled.wired, handled.caught⟩
    obtain ⟨backed, same⟩ := taken.backed.controlled (taken.backed.rests.request request)
    refine backed.handled fun peer later => none_waits peer ?_
    rw [same] at later
    exact rests.events ▸ later
  tick := by
    intro engine handled
    rw [left_control]
    refine ⟨wired_control handled.wired _, ?_⟩
    show CaughtUp (engine.session.control Controller.tick).2.device
    rw [Session.control_device]
    exact handled.caught.tick
  timerStep := by
    intro engine handled
    obtain ⟨table, events, rests, none_waits⟩ := handled.caught
    have steps := Session.timerStep_steps handled.wired
    refine ⟨handled.wired.timerStep, table, events, ?_, none_waits⟩
    show Rests table events engine.session.timerStep.device
    generalize engine.session.timerStep.device = after at steps
    cases steps with
    | quiet timers => exact { rests with }
    | rung before after rung rings =>
      have unrung : Rests table events { engine.session.device with timers := before } :=
        { rests with }
      exact { (Rests.upheld table events).rings unrung rings with }

/-- When the events that wait are handled, so are all bonds. -/
theorem Backed.drainEvents (backed : engine.Backed) {limit : Nat}
    (enough : engine.unit.events.items.length ≤ limit) :
    (left (Engine.drainEvents limit engine)).Backed ∧
      ∀ next, Engine.drainEvents limit engine = .ok () next → next.Handled := by
  induction limit generalizing engine with
  | zero =>
    have empty := List.length_eq_zero_iff.1 (Nat.le_zero.1 enough)
    refine ⟨backed, fun next drained => ?_⟩
    cases drained
    exact backed.handled fun peer waits => by rw [empty] at waits; cases waits
  | succ limit ih =>
    cases waits : engine.unit.events.receive? with
    | none =>
      have empty := Channel.receive?_eq_none_iff.1 waits
      rw [drainEvents_idle _ waits]
      refine ⟨backed, fun next drained => ?_⟩
      cases drained
      exact backed.handled fun peer waits => by rw [empty] at waits; cases waits
    | some received =>
      obtain ⟨event, events⟩ := received
      obtain ⟨behind, rests⟩ := backed.event waits
      obtain ⟨handled, same⟩ := behind.controlled rests
      have length := Channel.length_of_receive? waits
      rw [drainEvents_succ waits]
      cases ran : Engine.control (onEvent event) (engine.setUnit { engine.unit with events }) with
      | error fault next =>
        rw [bind_of_error ran]
        rw [ran] at handled
        refine ⟨handled, fun _ drained => ?_⟩
        cases drained
      | ok value next =>
        rw [bind_of_ok ran]
        rw [ran] at handled same
        refine ih handled ?_
        have fewer : next.unit.events.items = events.items := congrArg Channel.items same
        rw [fewer]
        omega

/-- The controller's part of an iteration behind the events. -/
def driveOn : EngineM φ Unit := do
  drainPresses (← get).presses.items.length
  Engine.control Controller.tick
  modify fun engine => { engine with session := engine.session.timerStep }

theorem drive_eq (engine : Engine φ) :
    engine.drive = (Engine.drainEvents engine.unit.events.items.length >>= fun _ => driveOn) engine :=
  bind_of_ok (show (get : EngineM φ (Engine φ)) engine = .ok engine engine from rfl)

/-- Behind the events no bond waits, so the tick may erase all of them. -/
theorem Handled.driveOn (handled : engine.Handled) : (left (Engine.driveOn engine)).Handled := by
  have lasting : Lasting (Handled : Engine φ → Prop) := Handled.lasting
  refine left_bind _ get handled fun _ _ held => ?_
  refine left_bind _ _ (lasting.drainPresses _ held) fun _ _ held => ?_
  exact left_bind _ _ (lasting.tick held) fun _ _ held => lasting.timerStep held

theorem Backed.drive (backed : engine.Backed) : (left engine.drive).Backed := by
  obtain ⟨kept, handled⟩ := backed.drainEvents (Nat.le_refl _)
  rw [drive_eq]
  cases ran : Engine.drainEvents engine.unit.events.items.length engine with
  | error fault next =>
    rw [bind_of_error ran]
    rwa [ran] at kept
  | ok value next =>
    rw [bind_of_ok ran]
    exact (handled next ran).driveOn.backed

theorem Backed.start (backed : engine.Backed) :
    (left (Engine.control Controller.start engine)).Backed :=
  (backed.controlled (.start rfl rfl backed.rests.formed backed.rests.tallied)).1

/-- The radio unit changes on its own, and no peer loses its bond. -/
theorem Backed.changed (backed : engine.Backed) {unit : RadioUnit} (covers : unit.Covers)
    (stay : ∀ peer, engine.unit.bonds.Has peer → unit.bonds.Has peer) :
    (engine.setUnit unit).Backed where
  wired := backed.wired
  rests := ⟨rfl, rfl, backed.rests.formed,
    fun peer member => stay peer (backed.rests.ranked peer member), backed.rests.tallied⟩
  covers := covers

variable [Flash φ]

/-- A save has nothing to do with the bonds. -/
theorem Backed.sync (backed : engine.Backed) : (left engine.sync).Backed := by
  have tried : engine.tried.Backed := ⟨backed.wired, { backed.rests with }, backed.covers⟩
  rw [left_sync]
  split
  · split
    · exact tried
    · exact tried
    · exact (tried.controlled
        ((Rests.upheld _ _).event (fun _ _ named => by cases named) tried.rests)).1
    · exact ⟨tried.wired, { tried.rests with }, tried.covers⟩
  · exact backed

/-! ## Interleavings -/

/-- What can happen from one place where a task waits to the next.  The main loop has its start, its
half with the controller and its half with the saves, each taken to its end or to a fault.  All the
rest of the board, the buttons and the flash may become anything. -/
inductive Stretch (φ : Type)
  | start
  | drive
  | sync
  | tick
  /-- The advertiser makes a move, if it has one to make. -/
  | advertiser
  | bonded (bond : Bond)
  | secured (address : Address) (mode : SecurityMode)
  | outside (board : Board) (presses : Channel Press 4) (buttons : List ButtonTask) (flash : φ)

def ran (engine : Engine φ) : Stretch φ → Engine φ
  | .start => left (Engine.control Controller.start engine)
  | .drive => left engine.drive
  | .sync => left engine.sync
  | .tick => engine.tick
  | .advertiser =>
    match engine.advertiser.step? engine.unit with
    | some (unit, advertiser) => { engine.setUnit unit with advertiser }
    | none => engine
  | .bonded bond => engine.setUnit (engine.unit.onBonded bond)
  | .secured address mode => engine.setUnit (engine.unit.onSecurity address mode)
  | .outside board presses buttons flash =>
    { engine.setUnit { engine.unit with board } with presses, buttons, flash }

theorem ran_advertiser {unit : RadioUnit} {advertiser : Advertiser}
    (moves : engine.advertiser.step? engine.unit = some (unit, advertiser)) :
    engine.ran .advertiser = { engine.setUnit unit with advertiser } := by
  rw [ran, moves]

def ranThrough (engine : Engine φ) (stretches : List (Stretch φ)) : Engine φ :=
  stretches.foldl ran engine

/-- The step: no stretch takes the bond of a peer that is ranked or about to be. -/
theorem Backed.ran (backed : engine.Backed) (stretch : Stretch φ) : (engine.ran stretch).Backed := by
  cases stretch with
  | start => exact backed.start
  | drive => exact backed.drive
  | sync => exact backed.sync
  | tick => exact ⟨backed.wired, { backed.rests with }, backed.covers⟩
  | advertiser =>
    cases moves : engine.advertiser.step? engine.unit with
    | none =>
      rw [Engine.ran, moves]
      exact backed
    | some moved =>
      obtain ⟨unit, advertiser⟩ := moved
      rw [ran_advertiser moves]
      have bonds := Advertiser.bonds_step? moves
      have changed := backed.changed (Advertiser.covers_step? backed.covers moves) fun peer has =>
        bonds ▸ has
      exact ⟨changed.wired, changed.rests, changed.covers⟩
  | bonded bond =>
    obtain ⟨covers, stay⟩ := backed.covers.onBonded bond
    exact backed.changed covers stay
  | secured address mode =>
    obtain ⟨covers, bonds⟩ := backed.covers.onSecurity address mode
    exact backed.changed covers fun peer has => bonds ▸ has
  | outside board presses buttons flash =>
    have changed : (engine.setUnit { engine.unit with board }).Backed :=
      backed.changed backed.covers fun _ => id
    exact ⟨changed.wired, changed.rests, changed.covers⟩

theorem Backed.ranThrough (backed : engine.Backed) (stretches : List (Stretch φ)) :
    (engine.ranThrough stretches).Backed := by
  induction stretches generalizing engine with
  | nil => exact backed
  | cons stretch stretches ih => exact ih (backed.ran stretch)

theorem Backed.fresh {unit : RadioUnit} (covers : unit.Covers) (flash : φ) :
    (Engine.fresh unit flash).Backed where
  wired := wired_fresh unit flash
  rests := {
    bonds := rfl
    events := rfl
    formed := Ranking.wellFormed_closed.empty
    ranked := fun _ member => absurd member List.not_mem_nil
    tallied := Sequence.tallied_restart .fresh }
  covers := covers

/-! ## The machine's own interleaving -/

theorem ranThrough_append (engine : Engine φ) (stretches more : List (Stretch φ)) :
    engine.ranThrough (stretches ++ more) = (engine.ranThrough stretches).ranThrough more :=
  List.foldl_append

theorem pollAdvertiser_ranThrough (engine : Engine φ) :
    ∃ stretches, engine.pollAdvertiser = engine.ranThrough stretches := by
  refine Advertiser.poll_keeps (fun unit advertiser => ∃ stretches,
    { engine.setUnit unit with advertiser } = engine.ranThrough stretches) ?_ ⟨[], rfl⟩
  rintro unit next task result ⟨stretches, reached⟩ moves
  refine ⟨stretches ++ [.advertiser], ?_⟩
  rw [ranThrough_append, ← reached]
  have moved : Engine.ran { engine.setUnit unit with advertiser := task } .advertiser =
      { engine.setUnit next with advertiser := result } := ran_advertiser moves
  exact moved.symm

theorem leading_ranThrough :
    Leading fun engine last : Engine φ => ∃ stretches, last = engine.ranThrough stretches where
  refl engine := ⟨[], rfl⟩
  trans := by
    rintro engine middle last ⟨stretches, rfl⟩ ⟨more, rfl⟩
    exact ⟨stretches ++ more, (ranThrough_append engine stretches more).symm⟩
  drive engine := ⟨[.drive], rfl⟩
  sync engine := ⟨[.sync], rfl⟩
  clock engine :=
    ⟨[.outside engine.unit.board.advanceClock engine.presses engine.buttons engine.flash], rfl⟩
  tick engine := ⟨[.tick], rfl⟩
  polls engine := by
    obtain ⟨board, presses, buttons, pressed⟩ := engine.pollButtons_eq
    obtain ⟨stretches, advertised⟩ := pollAdvertiser_ranThrough engine.pollButtons
    refine ⟨.outside board presses buttons engine.flash :: stretches, ?_⟩
    rw [advertised, pressed]
    rfl

/-- What a machine comes to when it is switched on and runs is one of the interleavings. -/
theorem run_ranThrough {unit : RadioUnit} {flash : φ} {time : Nat} {engine : Engine φ}
    (ran : (Machine.run time (.off unit flash)).2 = .on engine) :
    ∃ stretches, engine = (Engine.fresh (setUp unit) flash).ranThrough (.start :: stretches) :=
  leading_ranThrough.run ran

/-! ## The theorem -/

/-- However the tasks take turns from power-up on, every ranked peer has a bond, and so has every
peer whose bond waits to be ranked.  As long as a scan has detected fewer peers than are ranked,
there is one among them that it has not detected and that the registry enumerates. -/
theorem ranked_peers_have_bonds {unit : RadioUnit} {flash : φ} {first : Engine φ}
    (ready : assemble unit flash = .ok first) (covered : unit.Covers)
    (stretches : List (Stretch φ)) :
    let engine := first.ranThrough stretches
    let device := engine.session.device
    (∀ peer ∈ device.ranking.toList, engine.unit.bonds.Has peer) ∧
      (∀ peer, .bonded peer ∈ engine.unit.events.items → engine.unit.bonds.Has peer) ∧
      (device.sequence.count < device.ranking.count →
        ∃ peer ∈ device.ranking.toList,
          peer ∉ device.sequence.targets ∧ Registry.enumerates device.env peer = true) := by
  intro engine device
  rw [assemble_eq] at ready
  cases ready
  have backed : engine.Backed := (Backed.fresh covered flash).ranThrough stretches
  refine ⟨backed.rests.ranked, backed.covers, fun fewer => ?_⟩
  rw [backed.rests.formed.count_eq, show device.sequence.count = _ from backed.rests.tallied] at fewer
  -- More peers are ranked than detected, so they are not all among these.
  obtain ⟨peer, ranked, undetected⟩ :
      ∃ peer ∈ device.ranking.toList, peer ∉ device.sequence.targets := by
    by_contra missing
    have detected : device.ranking.toList ⊆ device.sequence.targets := fun peer ranked =>
      of_not_not fun undetected => missing ⟨peer, ranked, undetected⟩
    exact Nat.not_le.2 fewer (backed.rests.formed.distinct.subperm detected).length_le
  exact ⟨peer, ranked, undetected,
    (Registry.enumerates_iff_has device.env peer).2 (backed.rests.ranked peer ranked)⟩

section Bench

def centralAddress : Address := ⟨.publicDevice, .replicate 6 1⟩

/-- The bond of a central. -/
def centralBond : Bond :=
  ⟨⟨0, .replicate 8 0⟩, ⟨.replicate 16 0⟩, ⟨.replicate 16 0, centralAddress⟩⟩

/-- The board becomes another one, and nothing is pressed. -/
def weather (board : Board) : Stretch Chip := .outside board .empty [] (.new .empty)

/-- A central takes the pairing window, bonds and leaves, and the device scans for it. -/
def bondingStretches : List (Stretch Chip) :=
  [.start, .drive, .advertiser, .advertiser, .advertiser,
    weather { Board.powerOff with outcomes := [.connected centralAddress (some 7)] },
    .advertiser, .advertiser, .drive, .bonded centralBond, .drive, .sync, .advertiser,
    weather { Board.powerOff with clock := 1000, link := some ⟨centralAddress, none⟩ },
    .advertiser, .advertiser, .advertiser, .drive]

theorem scan_awaits_a_bonded_peer :
    let first : Engine Chip := .fresh (.new .powerOff none) (.new .empty)
    let engine := first.ranThrough bondingStretches
    let device := engine.session.device
    assemble (.new .powerOff none) (.new .empty) = .ok first ∧
      (RadioUnit.new .powerOff none).Covers ∧ device.mode = .scan ∧
      device.sequence.count < device.ranking.count ∧
      device.ranking.toList = [BondTable.peerOf 0] ∧ engine.unit.bonds.Has (BondTable.peerOf 0) ∧
      Registry.enumerates device.env (BondTable.peerOf 0) = true := by
  intro first engine device
  have ready : assemble (.new .powerOff none) (.new .empty) = .ok first := assemble_eq _ _
  have covered : (RadioUnit.new .powerOff none).Covers := fun _ waits =>
    absurd waits List.not_mem_nil
  have fewer : device.sequence.count < device.ranking.count := by decide +kernel
  have single : device.ranking.toList = [BondTable.peerOf 0] := by decide +kernel
  obtain ⟨ranked, -, awaits⟩ := ranked_peers_have_bonds ready covered bondingStretches
  obtain ⟨peer, listed, -, enumerated⟩ := awaits fewer
  have same : peer = BondTable.peerOf 0 := List.mem_singleton.1 (single ▸ listed)
  exact ⟨ready, covered, by decide +kernel, fewer, single,
    ranked _ (by rw [single]; exact List.mem_cons_self), same ▸ enumerated⟩

end Bench

end Firmware.Engine

end BondedMouse
