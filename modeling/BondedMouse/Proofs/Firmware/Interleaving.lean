import BondedMouse.Proofs.Firmware.Concord

/-! # Interleavings of the controller and the advertiser

The controller and the advertiser take turns in any order, and in between the outside
does what it likes: centrals connect, links drop, bonds are made.  A turn is a single
move, which is finer than the tasks' turns between two waits; so every order in which
they can be scheduled is a run.  Once nothing is on its way the two agree, unless the
advertiser runs a window whose start was overtaken.
-/

namespace BondedMouse

open Controller Firmware

/-- The operation is to handle a report of the advertiser. -/
def Operation.isReport : Operation → Bool
  | .event handled => handled.isReport
  | _ => false

/-! ## Turns -/

/-- The controller's session and the advertiser.  They share the radio unit in the session's
platform. -/
structure Parties where
  session : Session Platform
  advertiser : Advertiser

namespace Parties

def unit (parties : Parties) : RadioUnit :=
  parties.session.device.env.1

/-- The session makes a move. -/
def made (parties : Parties) (move : Move Platform) : Parties :=
  { parties with session := (parties.session.moved move).2 }

/-- The radio unit changes. -/
def tuned (parties : Parties) (unit : RadioUnit) : Parties :=
  parties.made (.outside (unit, parties.session.device.env.2))

/-- A turn of one of the parties that the stack does not refuse, or of the outside. -/
inductive Turn (parties : Parties) : Parties → Prop
  /-- The controller handles the oldest event that waits. -/
  | event {event : RadioEvent} {events : Channel RadioEvent 8}
      (waits : parties.unit.events.receive? = some (event, events))
      (untroubled : (parties.tuned { parties.unit with events }).session.Untroubled
        (.operation (.event event))) :
      Turn parties ((parties.tuned { parties.unit with events }).made (.operation (.event event)))
  /-- The controller does anything else. -/
  | operation {operation : Operation} (own : operation.isReport = false)
      (untroubled : parties.session.Untroubled (.operation operation)) :
      Turn parties (parties.made (.operation operation))
  /-- The advertiser makes a move. -/
  | advertiser {unit : RadioUnit} {advertiser : Advertiser}
      (moves : parties.advertiser.step? parties.unit = some (unit, advertiser)) :
      Turn parties ⟨(parties.tuned unit).session, advertiser⟩
  /-- Neither party posts anything, but all else may change, and events may come that are not
  reports. -/
  | outside {unit : RadioUnit} {cache : RecordCache} (commands : unit.commands = parties.unit.commands)
      (reports : unit.reports = parties.unit.reports) :
      Turn parties (parties.made (.outside (unit, cache)))

/-- The runs from a session on, with the answer to whether the last start was overtaken. -/
inductive Run (started : Session Platform) : Parties → Bool → Prop
  | start : Run started ⟨started, .new⟩ false
  | turn {parties next : Parties} {crossed : Bool} (run : Run started parties crossed)
      (turn : Turn parties next) :
      Run started next (crossing parties.unit next.unit next.advertiser crossed)

end Parties

/-! ## Concord along a run -/

theorem Session.moved_orders {sound : Ranking → Prop} {session : Session Platform}
    (calm : Calm sound session.device) (wired : session.Wired)
    {operation : Operation} (own : operation.isReport = false)
    (untroubled : session.Untroubled (.operation operation)) :
    Orders session.device (session.moved (.operation operation)).2.device := by
  obtain ⟨returned, recorded⟩ := untroubled
  cases operation with
  | start => exact (start_orders calm).control returned
  | startSequence => exact (startSequence_orders calm).control returned
  | setMode mode target => exact (setMode_orders calm mode target).control returned
  | request request => exact (onRequest_orders calm request).control returned
  | tick => exact (tick_orders calm).control returned
  | timerTick => exact .of_eq rfl rfl rfl rfl rfl
  | scanTimeout => exact (onScanTimer_rings session.device).orders calm recorded
  | event event =>
    have orders := (onEvent_orders calm event).control returned
    cases event with
    | bonded | storageFull | bondsErased => exact orders
    | connected | disconnected | timedOut => cases own
  | timerStep =>
    have steps := timerStep_steps wired
    change ∀ error, session.timerStep.device.fault ≠ _ at recorded
    change Orders session.device session.timerStep.device
    generalize session.timerStep.device = last at steps recorded
    cases steps with
    | quiet timers => exact .of_eq rfl rfl rfl rfl rfl
    | rung before after rung rings =>
      have waiting : Calm sound { session.device with timers := before } := { calm with }
      have waits : Orders session.device { session.device with timers := before } :=
        .of_eq rfl rfl rfl rfl rfl
      exact (waits.trans (rings.orders waiting recorded)).trans (.of_eq rfl rfl rfl rfl rfl)

/-- What holds along a run: both parties are in concord, and the controller is calm. -/
structure Parties.Sound (parties : Parties) (crossed : Bool) : Prop where
  wired : parties.session.Wired
  calm : Calm (fun _ => True) parties.session.device
  concord : Concord parties.session.device parties.advertiser crossed

namespace Parties

variable {parties next : Parties} {crossed : Bool}

/-- What the controller tells the advertiser when it handles the oldest event. -/
theorem Sound.handled (invariant : parties.Sound crossed) {event : RadioEvent}
    {events : Channel RadioEvent 8}
    (untroubled : (parties.tuned { parties.unit with events }).session.Untroubled
      (.operation (.event event))) :
    Orders ((parties.tuned { parties.unit with events }).session.device.received event)
      ((parties.tuned { parties.unit with events }).made
        (.operation (.event event))).session.device := by
  -- Taking the event from the channel is a change of the environment only.
  have taken : Calm (fun _ => True) (parties.tuned { parties.unit with events }).session.device :=
    { invariant.calm with }
  exact (onEvent_orders taken event).control untroubled.returned

theorem Sound.turn (invariant : parties.Sound crossed) (turn : Turn parties next) :
    next.Sound (crossing parties.unit next.unit next.advertiser crossed) := by
  obtain ⟨wired, calm, concord⟩ := invariant
  cases turn with
  | @event event events waits untroubled =>
    have taken : Calm (fun _ => True) (parties.tuned { parties.unit with events }).session.device :=
      { calm with }
    have received := concord.received calm.toFlagsAgree waits
    have after := received.orders (Sound.handled ⟨wired, calm, concord⟩ untroubled)
    rw [Device.env_received] at after
    exact ⟨(wired.moved _).moved _, taken.moved .trivial (wired.moved _) untroubled, after⟩
  | operation own untroubled =>
    exact ⟨wired.moved _, calm.moved .trivial wired untroubled,
      concord.orders (Session.moved_orders calm wired own untroubled)⟩
  | @advertiser unit task moves =>
    -- The advertiser posts no commands, so the last start is as late as it was.
    have kinds := Advertiser.step?_moves moves
    change Sound _ (crossing parties.unit unit task crossed)
    rw [crossing_eq kinds.length_commands_le]
    exact ⟨wired.moved _, { calm with }, concord.moved kinds⟩
  | @outside unit cache commands reports =>
    -- For the two parties such a change is an operation without orders.
    have same : unit.commands.items = parties.unit.commands.items := by rw [commands]
    have orders : Orders parties.session.device
        (parties.made (.outside (unit, cache))).session.device :=
      ⟨Iff.rfl, reports, [], by rw [List.append_nil]; exact same, rfl, fun _ => ⟨rfl, rfl⟩⟩
    exact ⟨wired.moved _, { calm with }, concord.orders orders⟩

theorem Sound.powerUp {ranking : Ranking} {env : Platform} {reserved : Nat}
    {started : Session Platform} (powered : Session.powerUp ranking env reserved = .ok started)
    (idle : env.1.commands.items = []) (silent : env.1.reports = []) :
    Sound ⟨started, .new⟩ false := by
  have wired := (Session.powerUp_eq_ok powered).1
  have calm : Calm (fun _ => True) started.device := .powerUp powered trivial
  obtain ⟨-, scanTimer, timers, device⟩ := Session.powerUp_eq_ok powered
  refine ⟨wired, calm, ?_⟩
  rw [device]
  have flies : flight env.1 .new = [] := by rw [flight, silent]; rfl
  have heads : course env.1 .new = none := by rw [course, idle]; rfl
  refine ⟨?_, fun runs => ?_, ?_, fun crossed => ?_, fun _ runs => ?_⟩
  · rw [flies]
    rfl
  · cases runs
  · intro profile window told
    rw [heads] at told
    cases told
  · cases crossed
  · cases runs

theorem Run.sound {started : Session Platform} (run : Run started parties crossed)
    (begins : Sound ⟨started, .new⟩ false) : parties.Sound crossed := by
  induction run with
  | start => exact begins
  | turn run turn ih => exact ih.turn turn

/-! ## Agreement at rest -/

/-- Nothing is on its way between the parties, and the controller has no link. -/
structure AtRest (parties : Parties) : Prop where
  events : parties.unit.events.items = []
  commands : parties.unit.commands.items = []
  kept : parties.advertiser.kept? = none
  unsent : parties.advertiser.unsent = []
  down : parties.session.device.link = .down

/-- The advertiser runs a window if and only if the controller takes it to, and then the
controller's window with its profile. -/
def Agree (parties : Parties) : Prop :=
  parties.advertiser.runs? =
    if parties.session.device.running then
      some (parties.session.device.profile, parties.session.device.window)
    else none

instance (parties : Parties) : Decidable parties.Agree :=
  inferInstanceAs (Decidable (_ = _))

/-- At rest the parties agree, unless the advertiser runs a window whose start was overtaken. -/
theorem agree_at_rest_iff {ranking : Ranking} {env : Platform} {reserved : Nat}
    {started : Session Platform} (powered : Session.powerUp ranking env reserved = .ok started)
    (idle : env.1.commands.items = []) (silent : env.1.reports = [])
    (run : Run started parties crossed) (rest : parties.AtRest) :
    parties.Agree ↔ ¬(crossed = true ∧ parties.advertiser.runs?.isSome) := by
  obtain ⟨-, -, concord⟩ := run.sound (.powerUp powered idle silent)
  -- At rest nothing is in flight, and the course is the window that runs.
  have flies : flight parties.session.device.env.1 parties.advertiser = [] := by
    have silent : parties.unit.reports = [] := by rw [RadioUnit.reports, rest.events]; rfl
    rw [flight, rest.unsent, List.append_nil]
    exact silent
  have heads : course parties.session.device.env.1 parties.advertiser =
      parties.advertiser.runs?.map Advertiser.starting := by
    have idle : parties.session.device.env.1.commands.items = [] := rest.commands
    rw [course, idle, Advertiser.command?, rest.kept]
    rfl
  have runs := concord.runs
  have told := concord.told
  have late := concord.late
  rw [flies, heads] at runs
  rw [heads] at told
  rw [flies] at late
  unfold Agree
  constructor
  · rintro agree ⟨overtaken, some_window⟩
    cases running : parties.session.device.running with
    | true => cases late overtaken running
    | false => simp [agree, running] at some_window
  · intro fresh
    -- If the controller takes a window to run, its end is not in flight, so it runs.
    cases running : parties.session.device.running with
    | true =>
      obtain start | ended := runs running
      · obtain ⟨⟨profile, window⟩, found, same⟩ := Option.map_eq_some_iff.1 start
        cases same
        exact found
      · cases ended
    | false =>
      cases found : parties.advertiser.runs? with
      | none => rfl
      -- A window that runs against the flag was started too late.
      | some described =>
        have start := told described.1 described.2 (by rw [found]; rfl)
        rw [running] at start
        exact absurd ⟨start.resolve_left Bool.false_ne_true, by rw [found]; rfl⟩ fresh

/-! ## Played runs -/

/-- A turn by its name. -/
inductive Cue
  | event
  | operation (operation : Operation)
  | advertiser
  | board (change : Board → Board)

/-- The session does an operation, unless the stack refuses something. -/
def performed? (parties : Parties) (operation : Operation) : Option Parties :=
  match parties.session.moved (.operation operation) with
  | (.error (.stack _), _) => none
  | (_, session) => if session.device.fault.isSome then none else some { parties with session }

/-- The parties after the turn of a cue; `none` if it cannot be taken. -/
def cued? (parties : Parties) : Cue → Option Parties
  | .event =>
    match parties.unit.events.receive? with
    | none => none
    | some (event, events) =>
      (parties.tuned { parties.unit with events }).performed? (.event event)
  | .operation operation => if operation.isReport then none else parties.performed? operation
  | .advertiser =>
    (parties.advertiser.step? parties.unit).map fun (unit, advertiser) =>
      ⟨(parties.tuned unit).session, advertiser⟩
  | .board change => some (parties.tuned { parties.unit with board := change parties.unit.board })

/-- Plays a list of cues. -/
def played? : List Cue → Parties → Bool → Option (Parties × Bool)
  | [], parties, crossed => some (parties, crossed)
  | cue :: cues, parties, crossed =>
    (parties.cued? cue).bind fun next =>
      played? cues next (crossing parties.unit next.unit next.advertiser crossed)

theorem made_of_performed? {operation : Operation}
    (performed : parties.performed? operation = some next) :
    next = parties.made (.operation operation) ∧
      parties.session.Untroubled (.operation operation) := by
  unfold performed? at performed
  split at performed
  · cases performed
  · next result session unrefused moved =>
    split at performed
    · cases performed
    · next clear =>
      cases performed
      refine ⟨?_, ?_, ?_⟩
      · rw [made, moved]
      · intro error refused
        rw [moved] at refused
        exact unrefused error refused
      · intro error recorded
        rw [moved] at recorded
        exact clear (Option.isSome_of_eq_some recorded)

theorem Turn.of_cued? {cue : Cue} (cued : parties.cued? cue = some next) : Turn parties next := by
  cases cue with
  | event =>
    simp only [cued?] at cued
    split at cued
    · cases cued
    · next event events waits =>
      obtain ⟨rfl, untroubled⟩ := made_of_performed? cued
      exact .event waits untroubled
  | operation operation =>
    simp only [cued?] at cued
    split at cued
    · cases cued
    · next own =>
      obtain ⟨rfl, untroubled⟩ := made_of_performed? cued
      exact .operation (Bool.eq_false_iff.2 own) untroubled
  | advertiser =>
    simp only [cued?, Option.map_eq_some_iff] at cued
    obtain ⟨⟨unit, advertiser⟩, moves, rfl⟩ := cued
    exact .advertiser moves
  | board change =>
    cases cued
    exact .outside rfl rfl

theorem Run.of_played? {started : Session Platform} {cues : List Cue} {late : Bool}
    (run : Run started parties crossed) (played : played? cues parties crossed = some (next, late)) :
    Run started next late := by
  induction cues generalizing parties crossed with
  | nil =>
    cases played
    exact run
  | cons cue cues ih =>
    simp only [played?, Option.bind_eq_some_iff] at played
    obtain ⟨middle, cued, played⟩ := played
    exact ih (run.turn (.of_cued? cued)) played

section Bench

/-- A device without bonds. -/
def unbonded : Session Platform :=
  .fresh .empty (.new .powerOff none, .empty)

/-- The device starts and advertises the pairing window. -/
def pairingCues : List Cue := [.operation .start, .advertiser, .advertiser, .advertiser]

/-- A central takes the pairing window while the end of an erasure is on its way, which opens the
window once more.  The user sends the central away. -/
def crossingCues : List Cue :=
  pairingCues ++
  [.operation (.request .eraseBonds), .operation .tick,
    .board (·.addOutcome (.connected ⟨.publicDevice, .replicate 6 1⟩ (some 7))),
    .advertiser, .advertiser, .event, .event,
    .advertiser, .advertiser, .advertiser, .advertiser,
    .operation (.request .disconnect), .board Board.dropLink,
    .advertiser, .advertiser, .advertiser, .advertiser, .event, .operation .tick]

/-- The parties of the device without bonds after some cues. -/
def benched (cues : List Cue) : Parties :=
  ((played? cues ⟨unbonded, .new⟩ false).getD (⟨unbonded, .new⟩, false)).1

theorem Run.benched {cues : List Cue} {late : Bool}
    (played : (played? cues ⟨unbonded, .new⟩ false).map Prod.snd = some late) :
    Run unbonded (benched cues) late := by
  obtain ⟨⟨parties, crossed⟩, ended, rfl⟩ := Option.map_eq_some_iff.1 played
  rw [Parties.benched, ended]
  exact .of_played? .start ended

theorem agree_while_pairing : (benched pairingCues).AtRest ∧ (benched pairingCues).Agree ∧
    (benched pairingCues).session.device.running = true := by
  have run : Run unbonded (benched pairingCues) false := .benched rfl
  have rest : (benched pairingCues).AtRest := ⟨rfl, rfl, rfl, rfl, rfl⟩
  have agree := (agree_at_rest_iff (Session.powerUp_fresh _ _) rfl rfl run rest).2 nofun
  exact ⟨rest, agree, rfl⟩

/-- There are starts that are overtaken: the pairing window is taken by the central and is run once
more when that is gone. -/
theorem pairing_window_runs_again : Run unbonded (benched crossingCues) true ∧
    (benched crossingCues).AtRest ∧ ¬(benched crossingCues).Agree := by
  refine ⟨.benched (by decide +kernel), ⟨?_, ?_, ?_, ?_, ?_⟩, ?_⟩
  all_goals decide +kernel

end Bench

end Parties

end BondedMouse
