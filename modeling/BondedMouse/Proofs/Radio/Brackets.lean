import BondedMouse.Proofs.Radio.Moves
import Mathlib.Data.List.Induction

/-! # What the advertiser sends for what it takes

A log lists what passes through the two channels of the advertiser.  Two things hold of
it, whatever waits in the channels, whatever becomes of the advertisements and in
whatever order all this happens.  The advertiser reports connections and their ends by
turns, and that a window ran out only when there is no link.  And it reports on a window
only if the start of that is the last command that it took, and only once.
-/

namespace BondedMouse

/-! ## Logs -/

/-- Something that passes through one of the channels. -/
inductive Exchange
  /-- The advertiser takes a command. -/
  | took (command : AdvertiserCommand)
  /-- The advertiser sends an event. -/
  | sent (event : RadioEvent)
  /-- An event is handled at the other end. -/
  | handled (event : RadioEvent)
  deriving DecidableEq

namespace Exchange

def sent? : Exchange → Option RadioEvent
  | .sent event => some event
  | .took _ | .handled _ => none

def isTaking : Exchange → Bool
  | .took _ => true
  | .sent _ | .handled _ => false

end Exchange

namespace RadioEvent

/-- The event says what became of a window. -/
def isOutcome : RadioEvent → Bool
  | .connected _ _ | .timedOut _ => true
  | .disconnected | .bonded _ | .storageFull | .bondsErased => false

/-- Whether a link is held after an event of the advertiser; `none` if the event is out of place. -/
def bracket? (linked : Bool) : RadioEvent → Option Bool
  | .connected _ _ => if linked then none else some true
  | .disconnected => if linked then some false else none
  | .timedOut _ => if linked then none else some false
  | .bonded _ | .storageFull | .bondsErased => none

end RadioEvent

def eventsSent (log : List Exchange) : List RadioEvent :=
  log.filterMap Exchange.sent?

def outcomesSent (log : List Exchange) : List RadioEvent :=
  (eventsSent log).filter (·.isOutcome)

theorem eventsSent_append (log more : List Exchange) :
    eventsSent (log ++ more) = eventsSent log ++ eventsSent more :=
  List.filterMap_append ..

theorem outcomesSent_append (log more : List Exchange) :
    outcomesSent (log ++ more) = outcomesSent log ++ outcomesSent more := by
  rw [outcomesSent, eventsSent_append, List.filter_append]
  rfl

/-- Connections and their ends come by turns, and no window runs out in between. -/
def Bracketed (events : List RadioEvent) : Prop :=
  (events.foldlM RadioEvent.bracket? false).isSome

/-- What a command may be answered by: a start by one report on its window, a stop by none. -/
def AdvertiserCommand.Yields : AdvertiserCommand → List RadioEvent → Prop
  | .stop, outcomes => outcomes = []
  | .start _ window, outcomes =>
    outcomes = [] ∨ ∃ event, outcomes = [event] ∧ event.ends window = true

/-- What passes through the channels as the unit changes: commands leave at the front and events
come in behind. -/
def exchanged (unit next : RadioUnit) : List Exchange :=
  (unit.commands.items.take (unit.commands.items.length - next.commands.items.length)).map .took ++
    (next.events.items.drop unit.events.items.length).map .sent

namespace Advertiser

/-- The task has come to a state by its own moves.  Between these the unit may change in any way,
and events may be handled. -/
inductive Serves : List Exchange → Advertiser → Prop
  | new : Serves [] .new
  | move {log : List Exchange} {task result : Advertiser} {unit next : RadioUnit}
      (serves : Serves log task) (moves : task.step? unit = some (next, result)) :
      Serves (log ++ exchanged unit next) result
  | handled {log : List Exchange} {task : Advertiser} (serves : Serves log task)
      (event : RadioEvent) : Serves (log ++ [.handled event]) task

end Advertiser

/-- An entry of a log that has grown is the new one, or was there before. -/
theorem concat_eq_append_cons {α : Type} {log before after : List α} {last entry : α}
    (split : log ++ [last] = before ++ entry :: after) :
    (log = before ∧ last = entry ∧ after = []) ∨
      ∃ rest, after = rest ++ [last] ∧ log = before ++ entry :: rest := by
  obtain rfl | ⟨rest, newest, rfl⟩ := List.eq_nil_or_concat after
  · obtain ⟨same, ends⟩ := List.append_inj' split rfl
    cases ends
    exact .inl ⟨same, rfl, rfl⟩
  · rw [List.concat_eq_append, ← List.cons_append, ← List.append_assoc] at split
    obtain ⟨same, ends⟩ := List.append_inj' split rfl
    cases ends
    exact .inr ⟨rest, List.concat_eq_append, same⟩

/-! ## Brackets -/

theorem Bracketed.of_append {events more : List RadioEvent} (bracketed : Bracketed (events ++ more)) :
    Bracketed events := by
  unfold Bracketed at *
  rw [List.foldlM_append] at bracketed
  cases folded : events.foldlM RadioEvent.bracket? false with
  | some linked => rfl
  | none => simp [folded] at bracketed

/-- Between a connection and the next report on a window there is the end of the connection, and
nothing else. -/
theorem Bracketed.between {before between after : List RadioEvent} {peer : Option PeerId}
    {handle : LinkHandle} {outcome : RadioEvent}
    (bracketed : Bracketed (before ++ .connected peer handle :: (between ++ outcome :: after)))
    (next : outcome.isOutcome = true) (silent : ∀ event ∈ between, event.isOutcome = false) :
    between = [.disconnected] := by
  unfold Bracketed at bracketed
  rw [List.foldlM_append] at bracketed
  cases folded : before.foldlM RadioEvent.bracket? false with
  | none => simp [folded] at bracketed
  | some linked =>
    cases linked with
    | true => simp [folded, RadioEvent.bracket?] at bracketed
    | false =>
      simp only [folded, List.foldlM_cons, RadioEvent.bracket?] at bracketed
      cases between with
      -- The next report on a window does not fit while the link is held.
      | nil => cases outcome <;> simp [RadioEvent.bracket?, RadioEvent.isOutcome] at bracketed next
      | cons first rest =>
        have other := silent first List.mem_cons_self
        cases first with
        | connected | timedOut => cases other
        | bonded | storageFull | bondsErased => simp [RadioEvent.bracket?] at bracketed
        | disconnected =>
          cases rest with
          | nil => rfl
          | cons second rest =>
            have another := silent second (by simp)
            cases second <;> simp [RadioEvent.bracket?, RadioEvent.isOutcome] at bracketed another

/-! ## Answers -/

/-- The command that is not answered yet, after something has passed. -/
def Exchange.leaves (command : Option AdvertiserCommand) : Exchange → Option AdvertiserCommand
  | .took taken => some taken
  | .sent event => if event.isOutcome then none else command
  | .handled _ => command

/-- The command that was taken last, unless a report on a window was sent since. -/
def unanswered (log : List Exchange) : Option AdvertiserCommand :=
  log.foldl Exchange.leaves none

theorem unanswered_concat (log : List Exchange) (exchange : Exchange) :
    unanswered (log ++ [exchange]) = exchange.leaves (unanswered log) := by
  rw [unanswered, List.foldl_append]
  rfl

/-- A report on a window is sent only for the start that was taken last and not answered yet. -/
def Answered (log : List Exchange) : Prop :=
  ∀ before event after, log = before ++ .sent event :: after → event.isOutcome = true →
    ∃ profile window, unanswered before = some (.start profile window) ∧ event.ends window = true

namespace Answered

variable {log : List Exchange}

theorem nil : Answered [] := by
  intro before event after split
  cases before <;> cases split

theorem concat (answered : Answered log) {exchange : Exchange}
    (fits : ∀ event, exchange = .sent event → event.isOutcome = true →
      ∃ profile window, unanswered log = some (.start profile window) ∧ event.ends window = true) :
    Answered (log ++ [exchange]) := by
  intro before event after split outcome
  obtain ⟨rfl, same, -⟩ | ⟨rest, -, earlier⟩ := concat_eq_append_cons split
  · exact fits event same outcome
  · exact answered before event rest earlier outcome

theorem of_append {more : List Exchange} (answered : Answered (log ++ more)) : Answered log := by
  rintro before event after rfl
  exact answered before event (after ++ more) (by simp)

/-- Between two commands that are taken the first is answered once at most, and as becomes it. -/
theorem yields {before between : List Exchange} {command : AdvertiserCommand}
    (answered : Answered (before ++ .took command :: between))
    (untaken : ∀ exchange ∈ between, exchange.isTaking = false) :
    command.Yields (outcomesSent between) ∧
      unanswered (before ++ .took command :: between) =
        if outcomesSent between = [] then some command else none := by
  induction between using List.reverseRecOn with
  | nil =>
    refine ⟨by cases command <;> simp [AdvertiserCommand.Yields, outcomesSent, eventsSent], ?_⟩
    rw [unanswered_concat]
    rfl
  | append_singleton between last ih =>
    rw [← List.cons_append, ← List.append_assoc] at answered
    obtain ⟨yields, left⟩ := ih answered.of_append fun exchange member =>
      untaken exchange (List.mem_append_left _ member)
    rw [← List.cons_append, ← List.append_assoc, unanswered_concat, left, outcomesSent_append]
    cases last with
    | took => cases untaken _ (List.mem_append_right _ List.mem_cons_self)
    | handled event =>
      have same : outcomesSent [.handled event] = [] := rfl
      rw [same, List.append_nil]
      exact ⟨yields, rfl⟩
    | sent event =>
      cases outcome : event.isOutcome with
      | false =>
        have same : outcomesSent [.sent event] = [] := by
          simp [outcomesSent, eventsSent, Exchange.sent?, outcome]
        rw [same, List.append_nil]
        simp only [Exchange.leaves, outcome]
        exact ⟨yields, rfl⟩
      | true =>
        have one : outcomesSent [.sent event] = [event] := by
          simp [outcomesSent, eventsSent, Exchange.sent?, outcome]
        -- The report needs an open start, so it is the first, and the command is that start.
        obtain ⟨profile, window, opened, ends⟩ := answered _ event [] rfl outcome
        rw [left] at opened
        split at opened
        · next silent =>
          cases opened
          rw [silent, one]
          simp only [Exchange.leaves, outcome]
          exact ⟨.inr ⟨event, rfl, ends⟩, rfl⟩
        · cases opened

/-- Nothing is said of windows before there is a command. -/
theorem silent (answered : Answered log)
    (untaken : ∀ exchange ∈ log, exchange.isTaking = false) : outcomesSent log = [] := by
  have nothing {before : List Exchange} (untaken : ∀ exchange ∈ before, exchange.isTaking = false) :
      unanswered before = none := by
    induction before using List.reverseRecOn with
    | nil => rfl
    | append_singleton before last ih =>
      rw [unanswered_concat, ih fun exchange member => untaken exchange (List.mem_append_left _ member)]
      cases last with
      | took => cases untaken _ (List.mem_append_right _ List.mem_cons_self)
      | handled => rfl
      | sent event => exact ite_self none
  rw [List.eq_nil_iff_forall_not_mem]
  intro event member
  obtain ⟨said, outcome⟩ := List.mem_filter.1 member
  obtain ⟨exchange, here, same⟩ := List.mem_filterMap.1 said
  obtain ⟨before, after, rfl⟩ := List.append_of_mem here
  cases exchange with
  | took | handled => cases same
  | sent said =>
    cases same
    obtain ⟨profile, window, opened, -⟩ := answered before event after rfl outcome
    rw [nothing fun exchange member => untaken exchange (List.mem_append_left _ member)] at opened
    cases opened

end Answered

/-- What the advertiser sends for what it takes. -/
structure WellBracketed (log : List Exchange) : Prop where
  /-- Connections and their ends come by turns, and no window runs out in between. -/
  bracketed : Bracketed (eventsSent log)
  /-- From a connection to the next report on a window it is the connection's end that is sent,
  and nothing else. -/
  between : ∀ before peer handle between outcome after,
    eventsSent log = before ++ .connected peer handle :: (between ++ outcome :: after) →
    outcome.isOutcome = true → (∀ event ∈ between, event.isOutcome = false) →
    between = [.disconnected]
  /-- A command is answered once at most before the next is taken, a stop not at all. -/
  yields : ∀ before command between after,
    log = before ++ .took command :: (between ++ after) →
    (∀ exchange ∈ between, exchange.isTaking = false) → command.Yields (outcomesSent between)
  /-- Before the first command there is no report on a window. -/
  silent : ∀ before after, log = before ++ after →
    (∀ exchange ∈ before, exchange.isTaking = false) → outcomesSent before = []

/-! ## The advertiser's part -/

section Exchanged

variable {unit next : RadioUnit}

theorem exchanged_nothing (commands : next.commands = unit.commands)
    (events : next.events = unit.events) : exchanged unit next = [] := by
  simp [exchanged, commands, events]

theorem exchanged_took {command : AdvertiserCommand}
    (waited : unit.commands.items = command :: next.commands.items)
    (events : next.events = unit.events) : exchanged unit next = [.took command] := by
  simp [exchanged, waited, events]

theorem exchanged_sent {event : RadioEvent} (commands : next.commands = unit.commands)
    (events : next.events.items = unit.events.items ++ [event]) :
    exchanged unit next = [.sent event] := by
  simp [exchanged, commands, events]

end Exchanged

namespace Advertiser

variable {log : List Exchange} {task result : Advertiser} {unit next : RadioUnit}

/-- The task is at a report that is not sent yet, so it follows no command. -/
theorem command?_of_unsent {event : RadioEvent} (waits : event ∈ task.unsent)
    (outcome : event.isOutcome = true) : task.command? = none := by
  cases task with
  | announcing | connecting => rfl
  | closing =>
    cases List.mem_singleton.1 waits
    cases outcome
  | ready | advertising | holding => cases waits

/-- A report on a window is made while there is no link. -/
theorem bracket?_of_unsent {event : RadioEvent} {linked : Bool} (unsent : task.unsent = [event])
    (outcome : event.isOutcome = true) (fits : event.linkAfter? linked = some task.linked) :
    event.bracket? linked = some task.linked := by
  cases task with
  | announcing window =>
    cases unsent
    cases fits
    rfl
  | connecting peer handle =>
    cases unsent
    exact fits
  | closing =>
    cases unsent
    cases outcome
  | ready | advertising | holding => cases unsent

/-- What the log tells of a task that has come this far. -/
structure Tells (log : List Exchange) (task : Advertiser) : Prop where
  brackets : (eventsSent log ++ task.unsent).foldlM RadioEvent.bracket? false = some task.linked
  follows : ∀ command, task.command? = some command → unanswered log = some command
  decided : ∀ event ∈ task.unsent, event.isOutcome = true →
    ∃ profile window, unanswered log = some (.start profile window) ∧ event.ends window = true
  answered : Answered log

theorem Tells.moved (tells : Tells log task) (moves : Moves unit task next result) :
    Tells (log ++ exchanged unit next) result := by
  have brackets := tells.brackets
  cases moves with
  | @took command waited events follows unsent linked =>
    rw [exchanged_took waited events]
    refine ⟨?_, fun other same => ?_, fun event waits outcome => ?_, tells.answered.concat nofun⟩
    · rw [eventsSent_append, show eventsSent [.took command] = [] from rfl, List.append_nil, unsent,
        linked]
      exact brackets
    · rw [unanswered_concat]
      exact follows.symm.trans same
    -- The task follows a command, so it is not at a report.
    · cases follows.symm.trans (command?_of_unsent waits outcome)
  | turned commands events follows unsent linked =>
    rw [exchanged_nothing commands events, List.append_nil]
    refine ⟨?_, fun command same => ?_, ?_, tells.answered⟩
    · rw [unsent, linked]
      exact brackets
    · obtain kept | ⟨-, spent⟩ := follows
      · exact tells.follows command (kept.symm.trans same)
      · cases spent.symm.trans same
    · rw [unsent]
      exact tells.decided
  | @ended profile window event idle commands events ran spent sent unsent ends linked =>
    have outcome : event.isOutcome = true := by cases event <;> first | rfl | cases ends
    rw [exchanged_nothing commands events, List.append_nil]
    rw [sent, List.append_nil] at brackets
    refine ⟨?_, fun command same => ?_, fun other waits _ => ?_, tells.answered⟩
    · rw [unsent, List.foldlM_append, brackets]
      simpa using bracket?_of_unsent unsent outcome linked
    · cases spent.symm.trans same
    · rw [unsent] at waits
      cases List.mem_singleton.1 waits
      exact ⟨profile, window, tells.follows _ ran, ends⟩
  | lost commands events follows sent unsent linked free =>
    rw [exchanged_nothing commands events, List.append_nil]
    rw [sent, List.append_nil, linked] at brackets
    refine ⟨?_, fun command same => tells.follows command (follows.symm.trans same),
      fun event waits outcome => ?_, tells.answered⟩
    · rw [unsent, List.foldlM_append, brackets, free]
      rfl
    · rw [unsent] at waits
      cases List.mem_singleton.1 waits
      cases outcome
  | @reported event commands events report follows unsent sent linked =>
    have waits : event ∈ task.unsent := by simp [unsent]
    rw [exchanged_sent commands events]
    refine ⟨?_, fun command same => ?_, ?_, tells.answered.concat ?_⟩
    · rw [eventsSent_append, sent, linked, List.append_nil]
      rw [unsent] at brackets
      exact brackets
    · have followed := follows.symm.trans same
      rw [unanswered_concat, tells.follows command followed, Exchange.leaves]
      -- A task that follows a command has no report on a window to make.
      cases outcome : event.isOutcome with
      | false => rfl
      | true => cases followed.symm.trans (command?_of_unsent waits outcome)
    · rw [sent]
      exact fun _ waits => absurd waits List.not_mem_nil
    · rintro _ ⟨⟩ outcome
      exact tells.decided event waits outcome

theorem Serves.tells (serves : Serves log task) : Tells log task := by
  induction serves with
  | new => exact ⟨rfl, nofun, nofun, .nil⟩
  | move serves moves ih => exact ih.moved (step?_moves moves)
  | @handled log task serves event ih =>
    have same : eventsSent (log ++ [.handled event]) = eventsSent log := by
      rw [eventsSent_append]
      exact List.append_nil _
    refine ⟨same ▸ ih.brackets, ?_, ?_, ih.answered.concat nofun⟩
    · rw [unanswered_concat]
      exact ih.follows
    · rw [unanswered_concat]
      exact ih.decided

theorem Serves.bracketed (serves : Serves log task) : Bracketed (eventsSent log) := by
  have bracketed : Bracketed (eventsSent log ++ task.unsent) :=
    Option.isSome_of_eq_some serves.tells.brackets
  exact bracketed.of_append

theorem Serves.wellBracketed (serves : Serves log task) : WellBracketed log where
  bracketed := serves.bracketed
  between := by
    intro before peer handle between outcome after sent next silent
    have bracketed := serves.bracketed
    rw [sent] at bracketed
    exact bracketed.between next silent
  yields := by
    rintro before command between after rfl untaken
    have answered := serves.tells.answered
    rw [← List.cons_append, ← List.append_assoc] at answered
    exact (answered.of_append.yields untaken).1
  silent := by
    rintro before after rfl untaken
    exact serves.tells.answered.of_append.silent untaken

/-- A report on a window is made for the command that was taken last, and only while no other waits
to replace that. -/
theorem Serves.ended {event : RadioEvent} (serves : Serves log task)
    (moves : step? unit task = some (next, result)) (made : event ∈ result.unsent)
    (outcome : event.isOutcome = true) :
    event ∈ task.unsent ∨ unit.commands.items = [] ∧
      ∃ profile window, unanswered log = some (.start profile window) ∧ event.ends window = true := by
  cases step?_moves moves with
  | took waited events follows unsent linked => exact .inl (unsent ▸ made)
  | turned commands events follows unsent linked => exact .inl (unsent ▸ made)
  | ended idle commands events ran spent sent unsent ends linked =>
    rw [unsent] at made
    cases List.mem_singleton.1 made
    exact .inr ⟨idle, _, _, serves.tells.follows _ ran, ends⟩
  | lost commands events follows sent unsent linked =>
    rw [unsent] at made
    cases List.mem_singleton.1 made
    cases outcome
  | reported commands events report follows unsent sent linked =>
    rw [sent] at made
    cases made

end Advertiser

end BondedMouse
