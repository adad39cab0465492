import BondedMouse.Proofs.Firmware.Interleaving
import BondedMouse.Proofs.Session.Discipline

/-! # Pushes under a running window

The controller stops a window before it pushes another whitelist.  But the stop is only
posted, and the push goes to the radio at once; so the advertiser may still run the
window at that moment.  What the order of the requests is good for is that the stop
waits by then.  Only a window whose start was overtaken is not stopped at all.
-/

namespace BondedMouse

open Controller Firmware

/-! ## Calls that push -/

/-- The call changes the whitelist or the identities. -/
def BoardCall.isPush : BoardCall → Bool
  | .whitelist _ | .identities _ => true
  | .disconnect _ _ | .notify _ _ _ | .advertise _ _ _ _ _ | .advertiseDropped | .inputPin _
  | .priority _ _ | .enable _ => false

def RadioRequest.isPush : RadioRequest → Bool
  | .whitelist _ | .identities _ => true
  | .start _ _ | .stop | .disconnect _ | .forgetBonds | .movement _ _ => false

namespace RadioUnit

theorem board_postCommand (unit : RadioUnit) (command : AdvertiserCommand) :
    (unit.postCommand command).2.board = unit.board := by
  unfold postCommand
  split <;> rfl

theorem isPrefix_commands_postCommand (unit : RadioUnit) (command : AdvertiserCommand) :
    unit.commands.items <+: (unit.postCommand command).2.commands.items := by
  unfold postCommand
  split
  · next commands sent =>
    rw [Channel.send?_eq_some_iff.1 sent]
    exact List.prefix_append _ _
  · exact List.prefix_rfl

/-- Only a request to push makes a call that pushes. -/
theorem calls_request (unit : RadioUnit) (request : RadioRequest) :
    ∃ calls, (unit.request request).2.board.calls = unit.board.calls ++ calls ∧
      ∀ call ∈ calls, call.isPush = true → request.isPush = true := by
  cases request with
  | whitelist | identities => exact ⟨_, rfl, fun _ _ _ => rfl⟩
  | start | stop => exact ⟨[], by simp [RadioUnit.request, board_postCommand], by simp⟩
  | disconnect link => exact ⟨_, rfl, by simp [BoardCall.isPush]⟩
  | forgetBonds => exact ⟨[], (List.append_nil _).symm, by simp⟩
  | movement link movement =>
    simp only [RadioUnit.request, moveCursor]
    split
    · exact ⟨[], by simp, by simp⟩
    · split
      · exact ⟨[], by simp, by simp⟩
      · exact ⟨_, rfl, by simp [BoardCall.isPush]⟩

/-- What waits goes on waiting while requests are made, refused ones included. -/
theorem isPrefix_commands_request (unit : RadioUnit) (request : RadioRequest) :
    unit.commands.items <+: (unit.request request).2.commands.items := by
  cases request with
  | start | stop => exact unit.isPrefix_commands_postCommand _
  | whitelist | identities | disconnect | forgetBonds => exact List.prefix_rfl
  | movement link movement =>
    obtain ⟨board, moved⟩ := unit.moveCursor_board link movement
    simp [RadioUnit.request, moved]

end RadioUnit

section Rows

variable {σ : Type} [RecordStore σ] {requests : List RadioRequest} {env last : RadioUnit × σ}

theorem Issues.commands (issues : Issues env requests last) :
    last.1.commands.items = env.1.commands.items ++ requests.filterMap RadioRequest.command? := by
  induction issues with
  | none => simp
  | @request requests last issues request answered ih =>
    have posted : (RadioStack.request request last).2.1.commands.items =
        last.1.commands.items ++ request.command?.toList := RadioUnit.commands_request answered
    rw [posted, ih, List.filterMap_append, List.append_assoc]
    cases command : request.command? <;> simp [command]
  -- The record store has no part in it.
  | read | write | reclaim => assumption

/-- The commands of all requests but the last wait for the advertiser. -/
theorem Issued.commands (issued : Issued env requests last) :
    env.1.commands.items ++ requests.dropLast.filterMap RadioRequest.command? <+:
      last.1.commands.items := by
  cases issued with
  | answered issues =>
    rw [issues.commands, List.prefix_append_right_inj]
    exact (List.dropLast_prefix requests).filterMap _
  | @refused requests request error middle issues refused =>
    have first := issues.commands
    rw [List.dropLast_concat, ← first]
    exact middle.1.isPrefix_commands_request request

/-- A call that pushes comes from a request that does. -/
def PushesOnly (requests : List RadioRequest) (env last : RadioUnit × σ) : Prop :=
  ∃ calls, last.1.board.calls = env.1.board.calls ++ calls ∧
    ∀ call ∈ calls, call.isPush = true → ∃ request ∈ requests, request.isPush = true

omit [RecordStore σ] in
theorem PushesOnly.request {middle : RadioUnit × σ} (pushes : PushesOnly requests env middle)
    (request : RadioRequest) :
    PushesOnly (requests ++ [request]) env (RadioStack.request request middle).2 := by
  obtain ⟨calls, appended, pushed⟩ := pushes
  obtain ⟨more, called, pushing⟩ := middle.1.calls_request request
  have noted : (RadioStack.request request middle).2.1.board.calls = middle.1.board.calls ++ more :=
    called
  refine ⟨calls ++ more, by rw [noted, appended, List.append_assoc], fun call member push => ?_⟩
  obtain member | member := List.mem_append.1 member
  · obtain ⟨earlier, made, pushes⟩ := pushed call member push
    exact ⟨earlier, List.mem_append_left _ made, pushes⟩
  · exact ⟨request, List.mem_append_right _ List.mem_cons_self, pushing call member push⟩

theorem Issues.pushes (issues : Issues env requests last) : PushesOnly requests env last := by
  induction issues with
  | none => exact ⟨[], by simp, by simp⟩
  | request issues request answered ih => exact ih.request request
  | read | write | reclaim => assumption

theorem Issued.pushes (issued : Issued env requests last) : PushesOnly requests env last := by
  cases issued with
  | answered issues => exact issues.pushes
  | refused issues refused => exact issues.pushes.request _

end Rows

/-! ## Behind a stop -/

/-- What was on is off again because of a stop. -/
theorem Watch.stop_mem {watch : Watch} {requests : List RadioRequest} (on : watch.on = true)
    (off : (watch.seesAll requests).on = false) : RadioRequest.stop ∈ requests := by
  induction requests generalizing watch with
  | nil => simp [seesAll, on] at off
  | cons request rest ih =>
    cases request with
    | stop => exact List.mem_cons_self
    | _ => exact List.mem_cons_of_mem _ (ih (by first | exact on | rfl) off)

/-- In an orderly row a push stands behind a stop, if the radio was on. -/
theorem Orderly.stop_mem {controller : Controller} {watch : Watch} {requests : List RadioRequest}
    {request : RadioRequest} (orderly : Orderly controller watch requests) (on : watch.on = true)
    (member : request ∈ requests) (push : request.isPush = true) :
    RadioRequest.stop ∈ requests.dropLast := by
  obtain ⟨before, after, rfl⟩ := List.append_of_mem member
  have off : (watch.seesAll before).on = false := by
    have allowed := orderly.allowed
    cases request with
    | whitelist | identities => exact allowed
    | start | stop | disconnect | forgetBonds | movement => cases push
  rw [List.dropLast_append_cons]
  exact List.mem_append_left _ (Watch.stop_mem on off)

/-- What runs although the controller wants nothing to run is about to be stopped, unless its start
was overtaken. -/
theorem Concord.stop_mem {device : Device Platform} {task : Advertiser} {crossed : Bool}
    {described : Profile × Window} (concord : Concord device task crossed)
    (off : device.running = false) (fresh : crossed = false) (runs : task.runs? = some described) :
    AdvertiserCommand.stop ∈ device.env.1.commands.items := by
  have told : ∀ profile window, course device.env.1 task ≠ some (.start profile window) := by
    intro profile window start
    have := concord.told profile window start
    simp [off, fresh] at this
  obtain ⟨profile, window⟩ := described
  have follows : task.command? = some (.start profile window) := by
    cases task with
    | advertising => cases runs; rfl
    | ready | announcing | connecting | holding | closing => cases runs
  unfold course at told
  cases last : device.env.1.commands.items.getLast? with
  | none => exact absurd (by rw [last, follows]; rfl) (told profile window)
  | some command =>
    cases command with
    | stop => exact List.mem_of_getLast? last
    | start profile window => exact absurd (by rw [last]; rfl) (told profile window)

/-- The watch hears of a report what the controller's flag becomes. -/
theorem Watch.Tracks.on_hears {watch : Watch} {device : Device Platform}
    (tracks : watch.Tracks device.toController) (event : RadioEvent) :
    (watch.hears device.toController event).on = (device.received event).running := by
  cases event with
  | connected peer handle =>
    rw [Watch.hears, Device.received]
    by_cases down : device.link = .down
    · rw [if_pos down, if_pos down]
      rfl
    · rw [if_neg down, if_neg down]
      exact tracks.on
  | disconnected =>
    rw [Watch.hears, Device.received]
    by_cases down : device.link = .down
    · rw [if_pos down, if_pos down]
      exact tracks.on
    · rw [if_neg down, if_neg down]
      rfl
  | timedOut window =>
    rw [Watch.hears, Device.received]
    by_cases present : window = device.window
    · rw [if_pos present, if_pos present]
      rfl
    · rw [if_neg present, if_neg present]
      exact tracks.on
  | bonded | storageFull | bondsErased => exact tracks.on

theorem Watch.begins_own {watch : Watch} {operation : Operation} (own : operation.isReport = false)
    (controller : Controller) : watch.begins controller operation = watch := by
  cases operation with
  | event event =>
    cases event with
    | bonded | storageFull | bondsErased => rfl
    | connected | disconnected | timedOut => cases own
  | _ => rfl

/-- Where the watch and the flag of the controller agree, a push stands behind a stop or finds
nothing running. -/
theorem Session.Conducted.stop_waits {session : Session Platform} {operation : Operation}
    {watch : Watch} {device : Device Platform} {task : Advertiser} {crossed : Bool}
    {call : BoardCall}
    (conducted : session.Conducted watch operation) (concord : Concord device task crossed)
    (on : watch.on = device.running)
    (unchanged : device.env.1.commands = session.device.env.1.commands)
    (made : call ∈ (session.perform operation).2.device.env.1.board.calls.drop
      session.device.env.1.board.calls.length)
    (push : call.isPush = true) :
    task.runs? = none ∨
      AdvertiserCommand.stop ∈ (session.perform operation).2.device.env.1.commands.items ∨
      crossed = true := by
  obtain ⟨requests, issued, orderly, -⟩ := conducted
  have commands := issued.commands
  obtain ⟨calls, appended, pushed⟩ := issued.pushes
  rw [appended, List.drop_left] at made
  obtain ⟨request, member, pushes⟩ := pushed call made push
  cases running : device.running with
  | true =>
    -- The row of the operation has a stop in it, and what is posted there waits.
    have stop := orderly.stop_mem (on.trans running) member pushes
    refine .inr (.inl (commands.subset (List.mem_append_right _ ?_)))
    exact List.mem_filterMap.2 ⟨.stop, stop, rfl⟩
  | false =>
    -- What runs all the same was told to stop before, and the stop still waits.
    cases runs : task.runs? with
    | none => exact .inl rfl
    | some described =>
      cases fresh : crossed with
      | true => exact .inr (.inr rfl)
      | false =>
        have stop := concord.stop_mem running fresh runs
        rw [unchanged] at stop
        exact .inr (.inl (commands.subset (List.mem_append_left _ stop)))

namespace Parties

variable {parties next : Parties} {crossed : Bool}

/-- The controller takes its turn, whatever the stack makes of it. -/
inductive Acts (parties : Parties) : Parties → Prop
  | event {event : RadioEvent} {events : Channel RadioEvent 8}
      (waits : parties.unit.events.receive? = some (event, events)) :
      Acts parties ((parties.tuned { parties.unit with events }).made (.operation (.event event)))
  | operation {operation : Operation} (own : operation.isReport = false) :
      Acts parties (parties.made (.operation operation))

/-- The calls to the board between two states of the parties. -/
def callsUntil (parties next : Parties) : List BoardCall :=
  next.unit.board.calls.drop parties.unit.board.calls.length

theorem Run.known {ranking : Ranking} {env : Platform} {reserved : Nat} {started : Session Platform}
    (powered : Session.powerUp ranking env reserved = .ok started)
    (idle : env.1.commands.items = []) (silent : env.1.reports = [])
    (run : Run started parties crossed) :
    ∃ watch : Watch, watch.Knows parties.session.device.toController := by
  induction run with
  | start => exact ⟨_, Watch.knows_powerUp powered⟩
  | @turn parties next crossed run turn ih =>
    obtain ⟨watch, knows⟩ := ih
    obtain ⟨wired, calm, concord⟩ := run.sound (.powerUp powered idle silent)
    cases turn with
    | @event event events waits untroubled =>
      -- Taking the event from the channel is a change of the environment only.
      have flags : FlagsAgree (parties.tuned { parties.unit with events }).session.device :=
        { calm.toFlagsAgree with }
      obtain ⟨requests, issued, orderly, after⟩ :=
        Session.perform_conducted (wired.moved (.outside _)) flags knows (.event event)
      exact ⟨_, after untroubled⟩
    | @operation operation own untroubled =>
      obtain ⟨requests, issued, orderly, after⟩ :=
        Session.perform_conducted wired calm.toFlagsAgree knows operation
      exact ⟨_, after untroubled⟩
    | advertiser moves => exact ⟨watch, knows⟩
    | outside commands reports => exact ⟨watch, knows⟩

/-- At each push that the controller makes, the advertiser runs no window, or it is told to stop it,
or it runs a window whose start was overtaken. -/
theorem push_behind_stop {ranking : Ranking} {env : Platform} {reserved : Nat}
    {started : Session Platform} (powered : Session.powerUp ranking env reserved = .ok started)
    (idle : env.1.commands.items = []) (silent : env.1.reports = [])
    (run : Run started parties crossed) (acts : Acts parties next) {call : BoardCall}
    (made : call ∈ parties.callsUntil next) (push : call.isPush = true) :
    parties.advertiser.runs? = none ∨ AdvertiserCommand.stop ∈ next.unit.commands.items ∨
      crossed = true := by
  obtain ⟨watch, knows⟩ := run.known powered idle silent
  obtain ⟨wired, calm, concord⟩ := run.sound (.powerUp powered idle silent)
  cases acts with
  | @event event events waits =>
    have flags : FlagsAgree (parties.tuned { parties.unit with events }).session.device :=
      { calm.toFlagsAgree with }
    have tracks :
        watch.Tracks (parties.tuned { parties.unit with events }).session.device.toController :=
      knows.toTracks
    have conducted :=
      Session.perform_conducted (wired.moved (.outside _)) flags knows (.event event)
    have received := concord.received calm.toFlagsAgree waits
    exact conducted.stop_waits received (tracks.on_hears event) (by rw [Device.env_received]; rfl)
      made push
  | @operation operation own =>
    have conducted := Session.perform_conducted wired calm.toFlagsAgree knows operation
    rw [Watch.begins_own own] at conducted
    exact conducted.stop_waits concord knows.on rfl made push

section Bench

/-- The parties after the user has asked for another pairing window while one runs. -/
def pairedAgain : Parties :=
  (benched pairingCues).made (.operation (.request .pairingWindow))

theorem pairing_push_behind_stop :
    BoardCall.whitelist [] ∈ (benched pairingCues).callsUntil pairedAgain ∧
      AdvertiserCommand.stop ∈ pairedAgain.unit.commands.items := by
  have run : Run unbonded (benched pairingCues) false := .benched rfl
  have acts : Acts (benched pairingCues) pairedAgain := .operation rfl
  have made : BoardCall.whitelist [] ∈ (benched pairingCues).callsUntil pairedAgain := by decide
  have stopped := push_behind_stop (Session.powerUp_fresh _ _) rfl rfl run acts made rfl
  have runs : (benched pairingCues).advertiser.runs? ≠ none := by decide
  exact ⟨made, (stopped.resolve_left runs).resolve_right nofun⟩

/-- The pairing window is still advertised when the whitelist for the next one is pushed. -/
theorem whitelist_pushed_while_advertising :
    Run unbonded (benched pairingCues) false ∧ Acts (benched pairingCues) pairedAgain ∧
    BoardCall.whitelist [] ∈ (benched pairingCues).callsUntil pairedAgain ∧
    (benched pairingCues).advertiser.isAdvertising = true :=
  ⟨.benched rfl, .operation rfl, by decide, rfl⟩

end Bench

end Parties

end BondedMouse
