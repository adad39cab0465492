import BondedMouse.Proofs.Firmware.Demand
import BondedMouse.Proofs.Firmware.Outcomes
import BondedMouse.Proofs.Firmware.Tethers
import BondedMouse.Proofs.Radio.Brackets

/-! # The controller's link and the reports of the advertiser

The controller ignores a connection that is reported while it has a link, and the end of
a connection that is reported while it has none.  Neither report ever comes: they reach
the controller in the order in which the advertiser sends them, and there connections
and their ends come by turns.  So the controller has a link from the connection that it
handles to the end of it.

This holds whatever is refused on the way, up to the fault that ends the main loop.
-/

namespace BondedMouse

open Controller Firmware

/-! ## Spans -/

def Exchange.handled? : Exchange → Option RadioEvent
  | .handled event => some event
  | .took _ | .sent _ => none

/-- The reports of the advertiser that the controller has handled. -/
def reportsHandled (log : List Exchange) : List RadioEvent :=
  (log.filterMap Exchange.handled?).filter (·.isReport)

/-- A connection was handled, and the end of it was not yet. -/
def Spanned (log : List Exchange) : Prop :=
  ∃ before peer handle after, log = before ++ .handled (.connected peer handle) :: after ∧
    .handled .disconnected ∉ after

theorem reportsHandled_append (log more : List Exchange) :
    reportsHandled (log ++ more) = reportsHandled log ++ reportsHandled more := by
  rw [reportsHandled, List.filterMap_append, List.filter_append]
  rfl

/-- What is no handling of a report does not show among these. -/
theorem reportsHandled_aside (log : List Exchange) (exchange : Exchange)
    (aside : ∀ event, exchange = .handled event → event.isReport = false) :
    reportsHandled (log ++ [exchange]) = reportsHandled log := by
  rw [reportsHandled_append]
  cases exchange with
  | took | sent => exact List.append_nil _
  | handled event =>
    have none : reportsHandled [.handled event] = [] := by
      simp [reportsHandled, Exchange.handled?, aside event rfl]
    rw [none, List.append_nil]

theorem reportsHandled_report (log : List Exchange) {event : RadioEvent}
    (report : event.isReport = true) :
    reportsHandled (log ++ [.handled event]) = reportsHandled log ++ [event] := by
  rw [reportsHandled_append]
  simp [reportsHandled, Exchange.handled?, report]

namespace Spanned

variable {log : List Exchange}

theorem connected (log : List Exchange) (peer : Option PeerId) (handle : LinkHandle) :
    Spanned (log ++ [.handled (.connected peer handle)]) :=
  ⟨log, peer, handle, [], rfl, List.not_mem_nil⟩

theorem not_disconnected (log : List Exchange) : ¬Spanned (log ++ [.handled .disconnected]) := by
  rintro ⟨before, peer, handle, after, split, still⟩
  obtain ⟨-, same, -⟩ | ⟨rest, rfl, -⟩ := concat_eq_append_cons split
  · cases same
  · exact still (List.mem_append_right _ List.mem_cons_self)

theorem concat_iff {exchange : Exchange}
    (other : ∀ peer handle, exchange ≠ .handled (.connected peer handle))
    (goes : exchange ≠ .handled .disconnected) : Spanned (log ++ [exchange]) ↔ Spanned log := by
  constructor
  · rintro ⟨before, peer, handle, after, split, still⟩
    obtain ⟨-, same, -⟩ | ⟨rest, rfl, earlier⟩ := concat_eq_append_cons split
    · exact absurd same (other peer handle)
    · exact ⟨before, peer, handle, rest, earlier, fun ended => still (List.mem_append_left _ ended)⟩
  · rintro ⟨before, peer, handle, after, rfl, still⟩
    refine ⟨before, peer, handle, after ++ [exchange], by simp, fun ended => ?_⟩
    obtain earlier | here := List.mem_append.1 ended
    · exact still earlier
    · exact goes (List.mem_singleton.1 here).symm

end Spanned

/-- Where the reports come by turns, the last of them decides. -/
theorem spanned_iff {log : List Exchange} {linked : Bool}
    (folded : (reportsHandled log).foldlM RadioEvent.bracket? false = some linked) :
    Spanned log ↔ linked = true := by
  induction log using List.reverseRecOn generalizing linked with
  | nil =>
    cases folded
    refine ⟨?_, nofun⟩
    rintro ⟨before, peer, handle, after, split, -⟩
    cases before <;> cases split
  | append_singleton log exchange ih =>
    by_cases report : ∃ event, exchange = .handled event ∧ event.isReport = true
    · obtain ⟨event, rfl, report⟩ := report
      rw [reportsHandled_report log report, List.foldlM_append] at folded
      obtain ⟨before, earlier, last⟩ := Option.bind_eq_some_iff.1 folded
      cases event with
      | bonded | storageFull | bondsErased => cases report
      | connected peer handle =>
        cases before <;> cases last
        exact iff_of_true (.connected log peer handle) rfl
      | disconnected =>
        cases before <;> cases last
        exact iff_of_false (Spanned.not_disconnected log) nofun
      | timedOut window =>
        cases before <;> cases last
        exact (Spanned.concat_iff (by simp) (by simp)).trans (ih earlier)
    · have aside : ∀ event, exchange = .handled event → event.isReport = false := fun event same =>
        Bool.eq_false_iff.2 fun is_report => report ⟨event, same, is_report⟩
      rw [reportsHandled_aside log exchange aside] at folded
      refine (Spanned.concat_iff (fun peer handle same => ?_) fun same => ?_).trans (ih folded)
      · cases aside _ same
      · cases aside _ same

/-! ## Histories -/

namespace Parties

variable {parties next : Parties} {log entries : List Exchange}

/-- A turn, however it ends, with what passes in it through the channels of the advertiser. -/
inductive Logs (parties : Parties) : Parties → List Exchange → Prop
  /-- The controller handles the oldest event that waits. -/
  | event {event : RadioEvent} {events : Channel RadioEvent 8}
      (waits : parties.unit.events.receive? = some (event, events)) :
      Logs parties ((parties.tuned { parties.unit with events }).made (.operation (.event event)))
        [.handled event]
  /-- The controller does anything else. -/
  | operation {operation : Operation} (own : operation.isReport = false) :
      Logs parties (parties.made (.operation operation)) []
  /-- The advertiser makes a move. -/
  | advertiser {unit : RadioUnit} {advertiser : Advertiser}
      (moves : parties.advertiser.step? parties.unit = some (unit, advertiser)) :
      Logs parties ⟨(parties.tuned unit).session, advertiser⟩ (exchanged parties.unit unit)
  /-- All may change but for the commands and the reports. -/
  | outside {unit : RadioUnit} {cache : RecordCache} (commands : unit.commands = parties.unit.commands)
      (reports : unit.reports = parties.unit.reports) :
      Logs parties (parties.made (.outside (unit, cache))) []

/-- A turn that is not refused is one with an end. -/
theorem Turn.logs (turn : Turn parties next) : ∃ entries, Logs parties next entries := by
  cases turn with
  | event waits untroubled => exact ⟨_, .event waits⟩
  | operation own untroubled => exact ⟨_, .operation own⟩
  | advertiser moves => exact ⟨_, .advertiser moves⟩
  | outside commands reports => exact ⟨_, .outside commands reports⟩

/-- The turns from a session on, with all that has passed. -/
inductive History (started : Session Platform) : Parties → List Exchange → Prop
  | start : History started ⟨started, .new⟩ []
  | turn {parties next : Parties} {log entries : List Exchange}
      (history : History started parties log) (logs : Logs parties next entries) :
      History started next (log ++ entries)

variable {started : Session Platform}

theorem Run.history {crossed : Bool} (run : Run started parties crossed) :
    ∃ log, History started parties log := by
  induction run with
  | start => exact ⟨[], .start⟩
  | turn run turn ih =>
    obtain ⟨log, history⟩ := ih
    obtain ⟨entries, logs⟩ := turn.logs
    exact ⟨_, history.turn logs⟩

namespace History

/-- To the advertiser the controller and the outside are one surroundings. -/
theorem serves (history : History started parties log) : parties.advertiser.Serves log := by
  induction history with
  | start => exact .new
  | turn history logs ih =>
    cases logs with
    | event => exact ih.handled _
    | operation | outside =>
      rw [List.append_nil]
      exact ih
    | advertiser moves => exact ih.move moves

theorem wired (history : History started parties log) (wired : started.Wired) :
    parties.session.Wired := by
  induction history with
  | start => exact wired
  | turn history logs ih =>
    cases logs with
    | event => exact (ih.moved _).moved _
    | operation | outside => exact ih.moved _
    | advertiser => exact ih.moved _

end History

end Parties

/-! ## Links along a history -/

/-- No report is lost or out of order, and the link is what those say that were handled. -/
structure KeepsUp (device : Device Platform) (log : List Exchange) : Prop where
  ordered : eventsSent log = reportsHandled log ++ device.env.1.reports
  linked : (reportsHandled log).foldlM RadioEvent.bracket? false = some (decide (device.link ≠ .down))

namespace KeepsUp

variable {device after : Device Platform} {log : List Exchange} {task result : Advertiser}
  {next : RadioUnit} {event : RadioEvent} {events : Channel RadioEvent 8}

theorem tethered (keeps : KeepsUp device log)
    (tethered : Tethered (device.link = .down) device.env.1.reports after) : KeepsUp after log where
  ordered := by rw [tethered.reports, keeps.ordered]
  linked := by simp [keeps.linked, tethered.link]

theorem spanned (keeps : KeepsUp device log) : device.link ≠ .down ↔ Spanned log := by
  rw [spanned_iff keeps.linked, decide_eq_true_iff]

/-- The report that waits at the front is in its place. -/
theorem fits (keeps : KeepsUp device log) (bracketed : Bracketed (eventsSent log))
    (waits : device.env.1.events.receive? = some (event, events)) (report : event.isReport = true) :
    (event.bracket? (decide (device.link ≠ .down))).isSome = true := by
  have reports : device.env.1.reports = event :: RadioUnit.reports { device.env.1 with events } := by
    rw [RadioUnit.reports, Channel.receive?_eq_some_iff.1 waits, List.filter_cons_of_pos report]
    rfl
  -- All that was sent is in brackets, and the front report is next behind what was handled.
  have next : Bracketed (reportsHandled log ++ [event]) := by
    rw [keeps.ordered, reports, List.append_cons] at bracketed
    exact bracketed.of_append
  rw [Bracketed, List.foldlM_append, keeps.linked] at next
  simpa using next

theorem down (keeps : KeepsUp device log) (bracketed : Bracketed (eventsSent log))
    {peer : Option PeerId} {handle : LinkHandle}
    (waits : device.env.1.events.receive? = some (.connected peer handle, events)) :
    device.link = .down := by
  simpa [RadioEvent.bracket?] using keeps.fits bracketed waits rfl

theorem linked_of_disconnected (keeps : KeepsUp device log) (bracketed : Bracketed (eventsSent log))
    (waits : device.env.1.events.receive? = some (.disconnected, events)) :
    device.link ≠ .down := by
  simpa [RadioEvent.bracket?] using keeps.fits bracketed waits rfl

theorem received (keeps : KeepsUp device log) (bracketed : Bracketed (eventsSent log))
    (waits : device.env.1.events.receive? = some (event, events)) :
    KeepsUp (Device.received { device with env := ({ device.env.1 with events }, device.env.2) } event)
      (log ++ [.handled event]) where
  ordered := by
    have items := Channel.receive?_eq_some_iff.1 waits
    have sent : eventsSent (log ++ [.handled event]) = eventsSent log := by
      rw [eventsSent_append]
      exact List.append_nil _
    have reports : device.env.1.reports =
        reportsHandled [.handled event] ++ RadioUnit.reports { device.env.1 with events } := by
      rw [RadioUnit.reports, items, reportsHandled]
      cases report : event.isReport <;> simp [report, Exchange.handled?, RadioUnit.reports]
    rw [sent, keeps.ordered, reports, reportsHandled_append, List.append_assoc, Device.env_received]
  linked := by
    have linked := keeps.linked
    cases event with
    | bonded | storageFull | bondsErased =>
      rw [reportsHandled_aside log _ (by simp [RadioEvent.isReport])]
      exact linked
    | connected peer handle =>
      have down := keeps.down bracketed waits
      rw [reportsHandled_report log rfl, List.foldlM_append, linked, Device.received, if_pos down]
      simp [RadioEvent.bracket?, down, Device.linked]
    | disconnected =>
      have up := keeps.linked_of_disconnected bracketed waits
      rw [reportsHandled_report log rfl, List.foldlM_append, linked, Device.received, if_neg up]
      simp [RadioEvent.bracket?, up, Device.unlinked]
    | timedOut window =>
      have down : device.link = .down := by
        simpa [RadioEvent.bracket?] using keeps.fits bracketed waits rfl
      have kept : (Device.received
          { device with env := ({ device.env.1 with events }, device.env.2) }
          (.timedOut window)).link = .down := by
        rw [Device.received]
        split <;> exact down
      rw [reportsHandled_report log rfl, List.foldlM_append, linked, kept, down]
      rfl

theorem moved (keeps : KeepsUp device log) (moves : Moves device.env.1 task next result) :
    KeepsUp { device with env := (next, device.env.2) } (log ++ exchanged device.env.1 next) := by
  cases moves with
  | @took command waited events =>
    rw [exchanged_took waited events]
    have handled := reportsHandled_aside log (.took command) (by simp)
    refine ⟨?_, (congrArg _ handled).trans keeps.linked⟩
    have sent : eventsSent [.took command] = [] := rfl
    rw [handled, eventsSent_append, sent, List.append_nil, keeps.ordered,
      RadioUnit.reports, RadioUnit.reports, events]
  | turned commands events | lost commands events =>
    rw [exchanged_nothing commands events, List.append_nil]
    exact ⟨by rw [keeps.ordered, RadioUnit.reports, RadioUnit.reports, events], keeps.linked⟩
  | ended idle commands events =>
    rw [exchanged_nothing commands events, List.append_nil]
    exact ⟨by rw [keeps.ordered, RadioUnit.reports, RadioUnit.reports, events], keeps.linked⟩
  | @reported event commands events report =>
    rw [exchanged_sent commands events]
    have handled := reportsHandled_aside log (.sent event) (by simp)
    refine ⟨?_, (congrArg _ handled).trans keeps.linked⟩
    have sent : eventsSent [.sent event] = [event] := rfl
    rw [handled, eventsSent_append, sent, keeps.ordered, RadioUnit.reports,
      RadioUnit.reports, events, List.filter_append, List.filter_cons_of_pos report,
      List.filter_nil, List.append_assoc]

end KeepsUp

namespace Parties

variable {parties : Parties} {log : List Exchange} {started : Session Platform}

theorem History.keepsUp (history : History started parties log) (wired : started.Wired)
    (down : started.device.link = .down) (silent : started.device.env.1.reports = []) :
    KeepsUp parties.session.device log := by
  induction history with
  | start => exact ⟨silent.symm, by simp [down, reportsHandled]⟩
  | @turn parties next log entries history logs ih =>
    cases logs with
    | @event event events waits =>
      have received := ih.received history.serves.bracketed waits
      refine received.tethered ?_
      rw [made, Session.moved, Session.perform, Session.control_device]
      exact Tethered.event ⟨Iff.rfl, rfl⟩
    | operation own =>
      rw [List.append_nil]
      exact ih.tethered (Tethered.moved ⟨Iff.rfl, rfl⟩ (history.wired wired) own)
    | advertiser moves => exact ih.moved (Advertiser.step?_moves moves)
    | outside commands reports =>
      rw [List.append_nil]
      exact ih.tethered ⟨Iff.rfl, reports⟩

/-- How the controller's link stands to a history. -/
structure InStep (parties : Parties) (log : List Exchange) : Prop where
  serves : parties.advertiser.Serves log
  /-- What was sent is what was handled, with what waits behind it. -/
  ordered : eventsSent log = reportsHandled log ++ parties.unit.reports
  /-- There is a link from the handling of a connection to the handling of its end. -/
  spanned : parties.session.device.link ≠ .down ↔ Spanned log
  /-- No connection is handled while there is a link. -/
  connects : ∀ peer handle events,
    parties.unit.events.receive? = some (.connected peer handle, events) →
    parties.session.device.link = .down
  /-- No end of a connection is handled without a link. -/
  disconnects : ∀ events, parties.unit.events.receive? = some (.disconnected, events) →
    parties.session.device.link ≠ .down

theorem History.inStep (history : History started parties log) (wired : started.Wired)
    (down : started.device.link = .down) (silent : started.device.env.1.reports = []) :
    InStep parties log := by
  have keeps := history.keepsUp wired down silent
  have bracketed := history.serves.bracketed
  exact ⟨history.serves, keeps.ordered, keeps.spanned,
    fun _ _ _ waits => keeps.down bracketed waits,
    fun _ waits => keeps.linked_of_disconnected bracketed waits⟩

end Parties

/-! ## The machine -/

namespace Firmware.Engine

open EngineM Parties

variable {φ : Type} {engine next first : Engine φ} {started : Session Platform}

/-- A history leads from a session to the engine's parties. -/
def Recorded (started : Session Platform) (engine : Engine φ) : Prop :=
  ∃ log, History started engine.parties log

namespace Recorded

theorem turn (recorded : engine.Recorded started) {entries : List Exchange}
    (logs : Logs engine.parties next.parties entries) : next.Recorded started := by
  obtain ⟨log, history⟩ := recorded
  exact ⟨_, history.turn logs⟩

theorem setUnit (recorded : engine.Recorded started) {unit : RadioUnit}
    (commands : unit.commands = engine.unit.commands)
    (reports : unit.reports = engine.unit.reports) : (engine.setUnit unit).Recorded started :=
  recorded.turn (.outside commands reports)

theorem setCache (recorded : engine.Recorded started) (cache : RecordCache) :
    (engine.setCache cache).Recorded started :=
  recorded.turn (.outside rfl rfl)

theorem operation (recorded : engine.Recorded started) (operation : Operation)
    {command : ControlM Platform Unit} (own : operation.isReport = false)
    (performs : engine.session.moved (.operation operation) = engine.session.control command) :
    (left (control command engine)).Recorded started := by
  have logs : Logs engine.parties ⟨(engine.session.control command).2, engine.advertiser⟩ [] := by
    rw [← performs]
    exact .operation own
  rw [left_control]
  exact recorded.turn logs

theorem lasting (started : Session Platform) : Lasting (φ := φ) (Recorded started) where
  event := by
    intro engine event events waits recorded
    rw [left_control]
    exact recorded.turn (Logs.event waits)
  request := by
    intro engine presses request recorded
    have taken : Recorded started { engine with presses } := recorded
    exact taken.operation (.request request) rfl rfl
  tick := fun recorded => recorded.operation .tick rfl rfl
  timerStep := fun {engine} recorded => recorded.turn (@Logs.operation engine.parties .timerStep rfl)

theorem start (recorded : engine.Recorded started) :
    (left (control Controller.start engine)).Recorded started :=
  recorded.operation .start rfl rfl

theorem timerTick (recorded : engine.Recorded started) : engine.tick.Recorded started :=
  recorded.turn (@Logs.operation engine.parties .timerTick rfl)

theorem pollAdvertiser (recorded : engine.Recorded started) :
    engine.pollAdvertiser.Recorded started :=
  Advertiser.poll_keeps
    (fun unit task => ∃ log, History started ⟨(engine.parties.tuned unit).session, task⟩ log)
    (fun ⟨_, history⟩ moves => ⟨_, history.turn (.advertiser moves)⟩) recorded

theorem polls (recorded : engine.Recorded started) :
    engine.pollButtons.pollAdvertiser.Recorded started := by
  obtain ⟨board, presses, buttons, pressed⟩ := engine.pollButtons_eq
  have polled : engine.pollButtons.Recorded started := by
    have changed : (engine.setUnit { engine.unit with board }).Recorded started :=
      recorded.setUnit rfl rfl
    rw [pressed]
    exact changed
  exact polled.pollAdvertiser

variable [Flash φ]

theorem sync (recorded : engine.Recorded started) : (left engine.sync).Recorded started := by
  have tried : engine.tried.Recorded started := recorded.setCache _
  rw [left_sync]
  split
  · split
    · exact tried
    · exact tried
    · exact tried.operation (.event .storageFull) rfl rfl
    · exact tried.setCache _
  · exact recorded

theorem iterate (recorded : engine.Recorded started) : (left engine.iterate).Recorded started :=
  left_bind _ _ ((lasting started).drive recorded) fun _ _ driven => driven.sync

theorem millisecond (recorded : engine.Recorded started) :
    (left engine.millisecond).Recorded started :=
  left_bind _ (modify advanceClock) (recorded.setUnit rfl rfl) fun _ _ advanced =>
    left_bind _ _ advanced.iterate fun _ _ iterated => iterated.timerTick.polls

theorem firstPolls (recorded : engine.Recorded started) :
    (left (Firmware.firstPolls engine)).Recorded started :=
  left_bind _ _ recorded.start fun _ _ begun => left_bind _ _ begun.iterate fun _ _ iterated =>
    iterated.polls

end Recorded

variable [Flash φ]

/-- The engines that a device comes to from the first on, millisecond by millisecond and with
changes from outside in between.  A fault may end a millisecond at any place. -/
inductive Ages (first : Engine φ) : Engine φ → Prop
  | switchedOn : Ages first (left (firstPolls first))
  | millisecond {engine : Engine φ} (ages : Ages first engine) :
      Ages first (left (Engine.millisecond engine))
  | outside {engine : Engine φ} (ages : Ages first engine) {unit : RadioUnit} {flash : φ}
      (commands : unit.commands = engine.unit.commands)
      (reports : unit.reports = engine.unit.reports) :
      Ages first { engine.setUnit unit with flash }

/-- The engines at which the main loop looks for the next event. -/
inductive Listens (first : Engine φ) : Engine φ → Prop
  | first (handled : Nat) :
      Listens first (left (drainEvents handled (left (control Controller.start first))))
  | later {engine : Engine φ} (ages : Ages first engine) (handled : Nat) :
      Listens first (left (drainEvents handled engine.advanceClock))

theorem Ages.recorded (ages : Ages first engine) (recorded : first.Recorded started) :
    engine.Recorded started := by
  induction ages with
  | switchedOn => exact recorded.firstPolls
  | millisecond ages ih => exact ih.millisecond
  | outside ages commands reports ih => exact ih.setUnit commands reports

theorem Listens.recorded (listens : Listens first engine) (recorded : first.Recorded started) :
    engine.Recorded started := by
  cases listens with
  | first handled => exact (Recorded.lasting started).drainEvents handled recorded.start
  | @later engine ages handled =>
    have advanced : engine.advanceClock.Recorded started := (ages.recorded recorded).setUnit rfl rfl
    exact (Recorded.lasting started).drainEvents handled advanced

/-- What the advertiser reports is in brackets, whatever it takes and whatever becomes of its
advertisements: connections and their ends come by turns, a start is answered by one report on its
window at most, a stop by none, and a report is made for the last command only.  So along every
history of the firmware the controller has a link between a connection and its end, and there is
no report that it has to ignore. -/
theorem reports_well_bracketed {unit : RadioUnit} {flash : φ}
    (assembled : assemble unit flash = .ok first) (silent : unit.reports = []) :
    (∀ log task, Advertiser.Serves log task → WellBracketed log) ∧
    (∀ log task unit next result event, Advertiser.Serves log task →
      task.step? unit = some (next, result) → event ∈ result.unsent → event.isOutcome = true →
      event ∈ task.unsent ∨ unit.commands.items = [] ∧
        ∃ profile window, unanswered log = some (.start profile window) ∧
          event.ends window = true) ∧
    (∀ parties log, History first.session parties log → InStep parties log) ∧
    ∀ engine, first.Ages engine ∨ first.Listens engine →
      ∃ log, History first.session engine.parties log ∧ InStep engine.parties log := by
  obtain ⟨ranking, cache, powered, new⟩ := powerUp_of_assemble assembled
  obtain ⟨wired, scanTimer, timers, device⟩ := Session.powerUp_eq_ok powered
  have inStep {parties : Parties} {log : List Exchange}
      (history : History first.session parties log) : InStep parties log :=
    history.inStep wired (by rw [device]; rfl) (by rw [device]; exact silent)
  have begins : first.Recorded first.session := by
    rw [Recorded, Engine.parties, new]
    exact ⟨[], .start⟩
  refine ⟨fun _ _ serves => serves.wellBracketed,
    fun _ _ _ _ _ _ serves moves made outcome => serves.ended moves made outcome,
    fun _ _ history => inStep history, fun engine comes => ?_⟩
  obtain ⟨log, history⟩ : engine.Recorded first.session :=
    comes.elim (·.recorded begins) (·.recorded begins)
  exact ⟨log, history, inStep history⟩

/-- A central takes the pairing window. -/
def linkingCues : List Cue := pairingCues ++
  [.board (·.addOutcome (.connected ⟨.publicDevice, .replicate 6 1⟩ (some 7))), .advertiser,
    .advertiser, .event]

/-- A device without bonds is in no span while it waits for a central, and in one when that has
come. -/
theorem pairing_central_is_spanned :
    assemble (.new .powerOff none) (.new .empty : Chip) = .ok blank ∧
    (∃ log, History blank.session (benched pairingCues) log ∧ ¬Spanned log) ∧
    ∃ log, History blank.session (benched linkingCues) log ∧ Spanned log := by
  obtain ⟨-, -, inStep, -⟩ := reports_well_bracketed assemble_blank rfl
  have pairing : Run unbonded (benched pairingCues) false := .benched rfl
  have linking : Run unbonded (benched linkingCues) false := .benched (by decide +kernel)
  obtain ⟨before, waits⟩ := pairing.history
  obtain ⟨log, comes⟩ := linking.history
  have down : (benched pairingCues).session.device.link = .down := by decide +kernel
  have up : (benched linkingCues).session.device.link ≠ .down := by decide +kernel
  exact ⟨assemble_blank, ⟨before, waits, fun spanned => (inStep _ _ waits).spanned.2 spanned down⟩,
    log, comes, (inStep _ _ comes).spanned.1 up⟩

end Firmware.Engine

end BondedMouse
