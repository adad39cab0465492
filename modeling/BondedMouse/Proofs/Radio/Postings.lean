import BondedMouse.Controller.Platform
import BondedMouse.Proofs.Controller.Requests
import BondedMouse.Radio.Unit

/-! # What requests post

Starting and stopping of advertising do not happen at once: a request for one of them
posts a command, or is refused because the channel is full.  So a row of requests that
is answered leaves its commands waiting, in the order of the row.  No request touches
the reports of the advertiser that wait in the other channel.
-/

namespace BondedMouse

def RadioRequest.command? : RadioRequest → Option AdvertiserCommand
  | .start profile window => some (.start profile window)
  | .stop => some .stop
  | .whitelist _ | .identities _ | .disconnect _ | .forgetBonds | .movement _ _ => none

def RadioEvent.isReport : RadioEvent → Bool
  | .connected _ _ | .disconnected | .timedOut _ => true
  | .bonded _ | .storageFull | .bondsErased => false

namespace RadioUnit

/-- The reports of the advertiser that wait. -/
def reports (unit : RadioUnit) : List RadioEvent :=
  unit.events.items.filter (·.isReport)

theorem reports_postEvent (unit : RadioUnit) {event : RadioEvent} (other : event.isReport = false) :
    (unit.postEvent event).reports = unit.reports := by
  unfold postEvent reports Channel.sendOrDrop
  cases sent : unit.events.send? event with
  | none => rfl
  | some events =>
    have appended := Channel.send?_eq_some_iff.1 sent
    -- The event is not a report, so the reports do not see it.
    simp [appended, other]

theorem commands_postCommand {unit : RadioUnit} {command : AdvertiserCommand}
    {allowed : List StackError} (strict : .noResources ∉ allowed)
    (answered : tolerate allowed (unit.postCommand command).1 = .ok ()) :
    (unit.postCommand command).2.commands.items = unit.commands.items ++ [command] := by
  unfold postCommand at answered ⊢
  cases sent : unit.commands.send? command with
  -- A full channel is a refusal that commands do not tolerate.
  | none => simp [sent, tolerate, strict] at answered
  | some commands => exact Channel.send?_eq_some_iff.1 sent

theorem reports_postCommand (unit : RadioUnit) (command : AdvertiserCommand) :
    (unit.postCommand command).2.reports = unit.reports := by
  unfold postCommand
  split <;> rfl

theorem moveCursor_board (unit : RadioUnit) (link : LinkHandle) (movement : Movement) :
    ∃ board, (unit.moveCursor link movement).2 = { unit with board } := by
  unfold moveCursor
  split
  · exact ⟨unit.board, rfl⟩
  · split
    · exact ⟨unit.board, rfl⟩
    · exact ⟨_, rfl⟩

theorem commands_request {unit : RadioUnit} {request : RadioRequest}
    (answered : tolerate request.tolerated (unit.request request).1 = .ok ()) :
    (unit.request request).2.commands.items =
      unit.commands.items ++ request.command?.toList := by
  cases request with
  | start profile window =>
    exact commands_postCommand (by simp [RadioRequest.tolerated]) answered
  | stop => exact commands_postCommand (by decide) answered
  | whitelist | identities | disconnect | forgetBonds => exact (List.append_nil _).symm
  | movement link movement =>
    obtain ⟨board, moved⟩ := unit.moveCursor_board link movement
    simp [request, moved, RadioRequest.command?]

theorem reports_request (unit : RadioUnit) (request : RadioRequest) :
    (unit.request request).2.reports = unit.reports := by
  cases request with
  | start | stop => exact unit.reports_postCommand _
  | whitelist | identities | disconnect => rfl
  | forgetBonds => exact reports_postEvent _ rfl
  | movement link movement =>
    obtain ⟨board, moved⟩ := unit.moveCursor_board link movement
    simp [request, moved, reports]

/-- The only event that a request posts is that the bonds are erased. -/
theorem mem_events_request {unit : RadioUnit} {request : RadioRequest} {event : RadioEvent}
    (posted : event ∈ (unit.request request).2.events.items) :
    event ∈ unit.events.items ∨ event = .bondsErased := by
  cases request with
  | start | stop =>
    simp only [RadioUnit.request, postCommand] at posted
    split at posted <;> exact .inl posted
  | whitelist | identities | disconnect => exact .inl posted
  | forgetBonds =>
    change event ∈ (unit.events.sendOrDrop .bondsErased).items at posted
    rw [Channel.items_sendOrDrop] at posted
    simpa using List.mem_of_mem_take posted
  | movement link movement =>
    obtain ⟨board, moved⟩ := unit.moveCursor_board link movement
    simp only [RadioUnit.request, moved] at posted
    exact .inl posted

end RadioUnit

section Rows

variable {σ : Type} {requests : List RadioRequest} {env last : RadioUnit × σ}

theorem Answers.commands (answers : Answers requests env last) :
    last.1.commands.items =
      env.1.commands.items ++ requests.filterMap RadioRequest.command? := by
  induction answers with
  | done => simp
  | @next request requests env last answered rest ih =>
    have posted : (RadioStack.request request env).2.1.commands.items =
        env.1.commands.items ++ request.command?.toList := RadioUnit.commands_request answered
    rw [ih, posted, List.append_assoc, List.filterMap_cons]
    cases request.command? <;> rfl

theorem Answers.reports (answers : Answers requests env last) : last.1.reports = env.1.reports := by
  induction answers with
  | done => rfl
  | @next request requests env last answered rest ih =>
    exact ih.trans (env.1.reports_request request)

end Rows

end BondedMouse
