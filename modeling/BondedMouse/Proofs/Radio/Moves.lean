import BondedMouse.Proofs.Radio.Postings
import BondedMouse.Radio.Advertiser.Poll

/-! # Moves of the advertiser

For the party at the other end of the two channels a state of the advertiser comes down
to four things: the command that it has taken, the window that it runs, the report that
it could not send yet, and whether it holds a link.  `Moves` says how a move changes
these, for all places at which the task can wait.
-/

namespace BondedMouse

/-! ## What shows of a state -/

namespace Advertiser

/-- The command that is kept for later. -/
def kept? : Advertiser → Option AdvertiserCommand
  | .ready kept | .holding kept _ | .closing kept => kept
  | .advertising _ _ _ | .announcing _ | .connecting _ _ => none

/-- The window that the task runs. -/
def runs? : Advertiser → Option (Profile × Window)
  | .advertising profile window _ => some (profile, window)
  | .ready _ | .announcing _ | .connecting _ _ | .holding _ _ | .closing _ => none

/-- The command that starts a window. -/
def starting : Profile × Window → AdvertiserCommand
  | (profile, window) => .start profile window

/-- The command that the task follows, now or once its link is down. -/
def command? (task : Advertiser) : Option AdvertiserCommand :=
  task.kept?.or (task.runs?.map starting)

/-- The report that is not sent yet. -/
def unsent : Advertiser → List RadioEvent
  | .announcing window => [.timedOut window]
  | .connecting peer handle => [.connected peer ⟨handle⟩]
  | .closing _ => [.disconnected]
  | .ready _ | .advertising _ _ _ | .holding _ _ => []

/-- There is a link once all reports are sent. -/
def linked : Advertiser → Bool
  | .connecting _ _ | .holding _ _ => true
  | .ready _ | .advertising _ _ _ | .announcing _ | .closing _ => false

end Advertiser

namespace RadioEvent

/-- The report is of the end of a window. -/
def ends (window : Window) : RadioEvent → Bool
  | .connected _ _ => true
  | .timedOut ended => ended = window
  | .disconnected | .bonded _ | .storageFull | .bondsErased => false

/-- Whether there is a link after a report; `none` if the report does not fit. -/
def linkAfter? (linked : Bool) : RadioEvent → Option Bool
  | .connected _ _ => if linked then none else some true
  | .disconnected => if linked then some false else none
  | .timedOut _ | .bonded _ | .storageFull | .bondsErased => some linked

end RadioEvent

/-! ## Kinds of moves -/

/-- How a move changes what shows of the advertiser. -/
inductive Moves (unit : RadioUnit) (task : Advertiser) (next : RadioUnit) (result : Advertiser) : Prop
  | took {command : AdvertiserCommand} (waited : unit.commands.items = command :: next.commands.items)
      (events : next.events = unit.events) (follows : result.command? = some command)
      (unsent : result.unsent = task.unsent) (linked : result.linked = task.linked)
  | turned (commands : next.commands = unit.commands) (events : next.events = unit.events)
      (follows : result.command? = task.command? ∨
        task.command? = some .stop ∧ result.command? = none)
      (unsent : result.unsent = task.unsent) (linked : result.linked = task.linked)
  | ended {profile : Profile} {window : Window} {event : RadioEvent}
      (idle : unit.commands.items = []) (commands : next.commands = unit.commands)
      (events : next.events = unit.events) (ran : task.command? = some (.start profile window))
      (spent : result.command? = none) (sent : task.unsent = []) (unsent : result.unsent = [event])
      (ends : event.ends window = true) (linked : event.linkAfter? task.linked = some result.linked)
  | lost (commands : next.commands = unit.commands) (events : next.events = unit.events)
      (follows : result.command? = task.command?) (sent : task.unsent = [])
      (unsent : result.unsent = [.disconnected]) (linked : task.linked = true)
      (free : result.linked = false)
  | reported {event : RadioEvent} (commands : next.commands = unit.commands)
      (events : next.events.items = unit.events.items ++ [event]) (report : event.isReport = true)
      (follows : result.command? = task.command?) (unsent : task.unsent = [event])
      (sent : result.unsent = []) (linked : result.linked = task.linked)

/-- The advertiser posts no commands to itself. -/
theorem Moves.length_commands_le {unit next : RadioUnit} {task result : Advertiser}
    (moves : Moves unit task next result) :
    next.commands.items.length ≤ unit.commands.items.length := by
  cases moves with
  | took waited => simp [waited]
  | turned commands | lost commands | reported commands => exact Nat.le_of_eq (by rw [commands])
  | ended idle commands => exact Nat.le_of_eq (by rw [commands])

namespace Advertiser

variable {unit next : RadioUnit} {task result after : Advertiser}

theorem report?_moves {event : RadioEvent} (sent : report? unit event after = some (next, result))
    (report : event.isReport = true) (follows : after.command? = task.command?)
    (unsent : task.unsent = [event]) (clear : after.unsent = [])
    (linked : after.linked = task.linked) : Moves unit task next result := by
  simp only [report?, Option.map_eq_some_iff, Prod.mk.injEq] at sent
  obtain ⟨events, sent, rfl, rfl⟩ := sent
  exact .reported rfl (Channel.send?_eq_some_iff.1 sent) report follows unsent clear linked

theorem take_moves {profile : Profile} {window : Window} {board : Board} {outcome : Outcome}
    (idle : unit.commands.items = [])
    (taken : take { unit with board } window outcome = (next, result)) :
    Moves unit (.advertising profile window true) next result := by
  cases outcome with
  | connected address handle =>
    cases handle with
    | none =>
      cases taken
      exact .ended idle rfl rfl rfl rfl rfl rfl (decide_eq_true rfl) rfl
    | some handle =>
      cases taken
      exact .ended idle rfl rfl rfl rfl rfl rfl rfl rfl
  -- Whatever else ends the advertisement is reported as the end of its window.
  | timeout | noFreeLink | failed =>
    cases taken
    exact .ended idle rfl rfl rfl rfl rfl rfl (decide_eq_true rfl) rfl

theorem stepWindow?_moves {profile : Profile} {window : Window} {started : Bool}
    (moves : stepWindow? unit profile window started = some (next, result)) :
    Moves unit (.advertising profile window started) next result := by
  unfold stepWindow? at moves
  split at moves
  · next command commands received =>
    obtain ⟨rfl, rfl⟩ := Prod.mk.inj (Option.some.inj moves)
    exact .took (Channel.receive?_eq_some_iff.1 received) rfl rfl rfl rfl
  · next idle =>
    rw [Channel.receive?_eq_none_iff] at idle
    cases started with
    | true =>
      simp only [if_true] at moves
      split at moves
      · cases moves
      · exact take_moves idle (Option.some.inj moves)
    | false =>
      obtain ⟨rfl, rfl⟩ := Prod.mk.inj (Option.some.inj moves)
      exact .turned rfl rfl (.inl rfl) rfl rfl

theorem stepLink?_moves {kept : Option AdvertiserCommand} {deadline : Option Nat}
    (moves : stepLink? unit kept deadline = some (next, result)) :
    Moves unit (.holding kept deadline) next result := by
  cases deadline with
  | none =>
    simp only [stepLink?] at moves
    split at moves
    · obtain ⟨rfl, rfl⟩ := Prod.mk.inj (Option.some.inj moves)
      exact .turned rfl rfl (.inl rfl) rfl rfl
    · obtain ⟨rfl, rfl⟩ := Prod.mk.inj (Option.some.inj moves)
      exact .lost rfl rfl rfl rfl rfl rfl rfl
  | some deadline =>
    simp only [stepLink?] at moves
    split at moves
    · next command commands received =>
      obtain ⟨rfl, rfl⟩ := Prod.mk.inj (Option.some.inj moves)
      exact .took (Channel.receive?_eq_some_iff.1 received) rfl rfl rfl rfl
    · split at moves
      · obtain ⟨rfl, rfl⟩ := Prod.mk.inj (Option.some.inj moves)
        exact .turned rfl rfl (.inl rfl) rfl rfl
      · cases moves

theorem step?_moves (moves : step? unit task = some (next, result)) : Moves unit task next result := by
  cases task with
  | ready kept =>
    cases kept with
    | none =>
      simp only [step?, Option.map_eq_some_iff, Prod.mk.injEq] at moves
      obtain ⟨⟨command, commands⟩, received, rfl, rfl⟩ := moves
      exact .took (Channel.receive?_eq_some_iff.1 received) rfl rfl rfl rfl
    | some command =>
      cases command with
      | stop =>
        obtain ⟨rfl, rfl⟩ := Prod.mk.inj (Option.some.inj moves)
        -- A stop is followed by doing nothing.
        exact .turned rfl rfl (.inr ⟨rfl, rfl⟩) rfl rfl
      | start profile window =>
        obtain ⟨rfl, rfl⟩ := Prod.mk.inj (Option.some.inj moves)
        exact .turned rfl rfl (.inl rfl) rfl rfl
  | advertising profile window started => exact stepWindow?_moves moves
  | announcing window => exact report?_moves moves rfl rfl rfl rfl rfl
  | connecting peer handle => exact report?_moves moves rfl rfl rfl rfl rfl
  | holding kept deadline => exact stepLink?_moves moves
  | closing kept => exact report?_moves moves rfl (by cases kept <;> rfl) rfl rfl rfl

/-- What every move keeps, a poll keeps. -/
theorem poll_keeps (holds : RadioUnit → Advertiser → Prop)
    (keeps : ∀ {unit next task result}, holds unit task → step? unit task = some (next, result) →
      holds next result)
    (held : holds unit task) : holds (task.poll unit).1 (task.poll unit).2 := by
  induction unit, task using Advertiser.poll.induct with
  | case1 unit task waits =>
    -- The equation of `poll` keeps its proof of descent, so it is opened by its cases.
    unfold Advertiser.poll
    split
    · exact held
    · next moves => cases waits.symm.trans moves
  | case2 unit task after result moves ih =>
    unfold Advertiser.poll
    split
    · next waits => cases waits.symm.trans moves
    · next same =>
      cases moves.symm.trans same
      exact ih (keeps held moves)

/-- The only events that a poll posts are reports. -/
theorem mem_events_poll {event : RadioEvent} (posted : event ∈ (task.poll unit).1.events.items) :
    event ∈ unit.events.items ∨ event.isReport = true := by
  refine poll_keeps (fun after _ => event ∈ after.events.items →
    event ∈ unit.events.items ∨ event.isReport = true) (fun held moves posted => ?_) .inl posted
  cases step?_moves moves with
  | took waited events | turned commands events | ended idle commands events
  | lost commands events => exact held (events ▸ posted)
  | reported commands events report =>
    rw [events] at posted
    obtain before | own := List.mem_append.1 posted
    · exact held before
    · rw [List.mem_singleton.1 own]
      exact .inr report

end Advertiser

end BondedMouse
