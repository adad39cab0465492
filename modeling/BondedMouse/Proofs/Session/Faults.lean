import BondedMouse.Proofs.Controller.Conclusions
import BondedMouse.Proofs.Session.Recency
import BondedMouse.Proofs.Session.Wish
import Mathlib.Data.List.Induction

/-! # What becomes of a fault of the stack

A request that the stack refuses is the last call of its operation.  Whoever asked for
the operation is told the code; the scheduler cannot be told, so it finds the code in
the device's record, and the next tick reports it.  The record holds one fault.  It is
enough, as long as a tick comes between two steps of the scheduler: nothing else writes
to the record.
-/

namespace BondedMouse

open Simulation

/-- The scheduler runs, and with it perhaps the end of the scan timer. -/
def Operation.schedules : Operation → Bool
  | .scanTimeout | .timerStep => true
  | .start | .startSequence | .setMode _ _ | .event _ | .request _ | .tick | .timerTick => false

def Move.schedules {ε : Type} : Move ε → Bool
  | .operation performed => performed.schedules
  | .outside _ => false

/-- A tick lies between any two steps of the scheduler. -/
def Paced {ε : Type} (moves : List (Move ε)) : Prop :=
  ∀ before first between second behind, moves = before ++ first :: (between ++ second :: behind) →
    first.schedules = true → second.schedules = true → .operation .tick ∈ between

theorem paced_of_countP_le_one {ε : Type} {moves : List (Move ε)}
    (few : moves.countP Move.schedules ≤ 1) : Paced moves := by
  rintro before first between second behind rfl scheduled again
  simp [List.countP_append, scheduled, again] at few
  omega

/-! ## Refusals -/

/-- The answers with a code that are no refusal. -/
inductive Tolerates : RadioRequest → StackError → Prop
  /-- The stack resolves no private addresses. -/
  | unresolved (peers : List PeerId) : Tolerates (.identities peers) .notSupported
  /-- There is nothing to stop. -/
  | stopped : Tolerates .stop .invalidState
  /-- There is no link to drop. -/
  | dropped (link : LinkHandle) : Tolerates (.disconnect link) .invalidState
  | erasing : Tolerates .forgetBonds .busy
  /-- A movement that cannot be reported now is lost. -/
  | unlinked (link : LinkHandle) (movement : Movement) :
      Tolerates (.movement link movement) .invalidState
  | crowded (link : LinkHandle) (movement : Movement) :
      Tolerates (.movement link movement) .noResources
  | unsubscribed (link : LinkHandle) (movement : Movement) :
      Tolerates (.movement link movement) .sysAttrMissing
  | busy (link : LinkHandle) (movement : Movement) : Tolerates (.movement link movement) .busy

/-- These are the codes that the controller lets pass. -/
theorem mem_tolerated_iff {request : RadioRequest} {error : StackError} :
    error ∈ request.tolerated ↔ Tolerates request error := by
  constructor
  · intro member
    cases request with
    | whitelist | start => cases member
    | identities | stop | disconnect | forgetBonds =>
      obtain rfl := List.mem_singleton.1 member
      constructor
    | movement =>
      simp only [RadioRequest.tolerated, List.mem_cons, List.not_mem_nil, or_false] at member
      obtain rfl | rfl | rfl | rfl := member <;> constructor
  · intro tolerates
    cases tolerates <;> simp [RadioRequest.tolerated]

/-- A call is refused with a code if that is the stack's answer to a request, and the request does
not tolerate it. -/
theorem Simulation.Call.refusal?_eq_some_iff {call : Call} {error : StackError} :
    call.refusal? = some error ↔
      ∃ request, call = .radio request (.error error) ∧ ¬Tolerates request error := by
  constructor
  · intro refused
    cases call with
    | radio request result =>
      cases result with
      | ok value => cases refused
      | error code =>
        simp only [Call.refusal?, Option.ite_none_left_eq_some, Option.some.injEq] at refused
        obtain ⟨foreign, rfl⟩ := refused
        exact ⟨request, rfl, fun tolerates => foreign (mem_tolerated_iff.2 tolerates)⟩
    | read | write | reclaim => cases refused
  · rintro ⟨request, rfl, foreign⟩
    exact if_neg fun member => foreign (mem_tolerated_iff.1 member)

section Operations

variable {ε : Type} [RadioStack ε] [RecordStore ε]

namespace Session

/-- The operation goes on with the journal, and of its calls none but the last is refused. -/
structure StopsAtRefusal (session : Session (Journaled ε)) (operation : Operation) : Prop where
  continued : session.device.env.calls <+: (session.perform operation).2.device.env.calls
  last : ∀ call ∈ (session.callsOf operation).dropLast, call.refusal? = none

/-- A refusal is what the operation returns, and it returns no other fault of the stack. -/
structure Returns (session : Session (Journaled ε)) (operation : Operation) : Prop
    extends StopsAtRefusal session operation where
  returned : ∀ error, (session.perform operation).1 = .error (.stack error) ↔
    ∃ call ∈ session.callsOf operation, call.refusal? = some error
  recorded : (session.perform operation).2.device.fault = session.device.fault

/-- A refusal is recorded, and without one the record is left alone. -/
structure Records (session : Session (Journaled ε)) (operation : Operation) : Prop
    extends StopsAtRefusal session operation where
  returned : (session.perform operation).1 = .ok ()
  recorded : ∀ error, (∃ call ∈ session.callsOf operation, call.refusal? = some error) →
    (session.perform operation).2.device.fault = some (.stack error)
  spared : (∀ call ∈ session.callsOf operation, call.refusal? = none) →
    (session.perform operation).2.device.fault = session.device.fault

variable {session : Session (Journaled ε)} {operation : Operation}

theorem callsOf_eq {calls : List Call}
    (listed : (session.perform operation).2.device.env.calls = session.device.env.calls ++ calls) :
    session.callsOf operation = calls := by
  simp [callsOf, listed]

/-- Without a refusal there is nothing to return. -/
theorem no_refusal (unrefused : ∀ call ∈ session.callsOf operation, call.refusal? = none)
    {error : StackError} : ¬∃ call ∈ session.callsOf operation, call.refusal? = some error := by
  rintro ⟨call, member, refusal⟩
  simp [unrefused call member] at refusal

theorem stops_of_answered
    (answered : session.device.env.Answered (session.perform operation).2.device.env) :
    session.StopsAtRefusal operation ∧
      ∀ call ∈ session.callsOf operation, call.refusal? = none := by
  obtain ⟨calls, listed, unrefused⟩ := answered
  have same := callsOf_eq listed
  refine ⟨⟨⟨calls, listed.symm⟩, fun call member => ?_⟩, by rwa [same]⟩
  rw [same] at member
  exact unrefused call (List.dropLast_subset calls member)

theorem stops_of_failed {fault : Fault}
    (failed : session.device.env.Failed fault (session.perform operation).2.device.env) :
    session.StopsAtRefusal operation ∧
      ∀ error, (∃ call ∈ session.callsOf operation, call.refusal? = some error) ↔
        fault = .stack error := by
  obtain ⟨calls, call, listed, unrefused, cause⟩ := failed
  have same := callsOf_eq listed
  refine ⟨⟨⟨calls ++ [call], listed.symm⟩, by rwa [same, List.dropLast_concat]⟩, fun error => ?_⟩
  rw [same]
  constructor
  · rintro ⟨other, member, refusal⟩
    obtain inside | rfl := (List.mem_append.1 member).imp_right List.mem_singleton.1
    · simp [unrefused other inside] at refusal
    · exact Option.some.inj (cause.symm.trans (Call.fault?_eq_stack_iff.2 refusal))
  · rintro rfl
    exact ⟨call, by simp, Call.fault?_eq_stack_iff.1 cause⟩

/-! ## Operations of the controller -/

theorem returns_of_answered
    (answered : session.device.env.Answered (session.perform operation).2.device.env)
    (returned : (session.perform operation).1 = .ok ())
    (recorded : (session.perform operation).2.device.fault = session.device.fault) :
    session.Returns operation := by
  obtain ⟨stops, unrefused⟩ := stops_of_answered answered
  exact ⟨stops, fun error => iff_of_false (by simp [returned]) (no_refusal unrefused), recorded⟩

theorem returns_of_concludes {program : ControlM (Journaled ε) Unit}
    (performs : session.perform operation = session.control program)
    (concludes : Concludes session.device (program session.device)) :
    session.Returns operation := by
  rw [control_apply] at performs
  generalize program session.device = ended at concludes performs
  cases concludes with
  | done answered recorded =>
    exact returns_of_answered (by rwa [performs]) (by rw [performs]) (by rwa [performs])
  | @failed fault last failed recorded =>
    have left : (session.perform operation).2.device = last := by rw [performs]
    rw [← left] at failed recorded
    obtain ⟨stops, refusals⟩ := stops_of_failed failed
    refine ⟨stops, fun error => ?_, recorded⟩
    rw [refusals error, performs, Except.error.injEq]

/-- A tick is no exception, unless it has a fault to report. -/
theorem perform_returns (direct : operation.schedules = false)
    (clear : operation = .tick → session.device.fault = none) : session.Returns operation := by
  cases operation with
  | start => exact returns_of_concludes rfl (start_concludes _)
  | startSequence => exact returns_of_concludes rfl (startSequence_concludes _)
  | setMode mode target => exact returns_of_concludes rfl (setMode_concludes mode target _)
  | event event => exact returns_of_concludes rfl (onEvent_concludes event _)
  | request request => exact returns_of_concludes rfl (onRequest_concludes request _)
  | tick => exact returns_of_concludes rfl (tick_concludes (clear rfl))
  | timerTick => exact returns_of_answered (.none rfl) rfl rfl
  | scanTimeout | timerStep => cases direct

/-! ## Steps of the scheduler -/

theorem records_of_answered
    (answered : session.device.env.Answered (session.perform operation).2.device.env)
    (returned : (session.perform operation).1 = .ok ())
    (spared : (session.perform operation).2.device.fault = session.device.fault) :
    session.Records operation := by
  obtain ⟨stops, unrefused⟩ := stops_of_answered answered
  exact ⟨stops, returned, fun _ refusal => absurd refusal (no_refusal unrefused), fun _ => spared⟩

theorem records_of_failed {error : StackError}
    (failed : session.device.env.Failed (.stack error) (session.perform operation).2.device.env)
    (returned : (session.perform operation).1 = .ok ())
    (recorded : (session.perform operation).2.device.fault = some (.stack error)) :
    session.Records operation := by
  obtain ⟨stops, refusals⟩ := stops_of_failed failed
  refine ⟨stops, returned, fun code refusal => ?_, fun unrefused => ?_⟩
  · rw [recorded, (refusals code).1 refusal]
  · exact absurd ((refusals error).2 rfl) (no_refusal unrefused)

theorem perform_records (wired : session.Wired) (schedules : operation.schedules = true) :
    session.Records operation := by
  cases operation with
  | scanTimeout =>
    obtain ⟨answered, spared⟩ | ⟨error, failed, recorded⟩ :=
      (Controller.onScanTimer_rings session.device).concludes
    · exact records_of_answered answered rfl spared
    · exact records_of_failed failed rfl recorded
  | timerStep =>
    have steps := timerStep_steps wired
    rw [show session.timerStep = (session.perform .timerStep).2 from rfl] at steps
    generalize stepped : (session.perform .timerStep).2.device = last at steps
    cases steps with
    | quiet timers => exact records_of_answered (.none (by rw [stepped])) rfl (by rw [stepped])
    | rung before after rung rings =>
      obtain ⟨answered, spared⟩ | ⟨error, failed, recorded⟩ := rings.concludes
      · exact records_of_answered (by rwa [stepped]) rfl (by rwa [stepped])
      · exact records_of_failed (by rwa [stepped]) rfl (by rwa [stepped])
  | start | startSequence | setMode | event | request | tick | timerTick => cases schedules

/-- A tick that has a fault to report does that and nothing else. -/
theorem perform_tick_of_fault {fault : Fault} (recorded : session.device.fault = some fault) :
    session.perform .tick =
      (.error fault, { session with device := { session.device with fault := none } }) := by
  rw [perform, control_apply, Controller.tick_fault recorded]

end Session

end Operations

/-! ## The record along a run -/

section Runs

variable {ε : Type} [RadioStack ε] [RecordStore ε] {session started : Session (Journaled ε)}
  {moves : List (Move (Journaled ε))}

namespace Session

/-- Nothing but the scheduler and the ticks writes to the record. -/
theorem fault_moved {move : Move (Journaled ε)} (direct : move.schedules = false)
    (other : move ≠ .operation .tick) :
    (session.moved move).2.device.fault = session.device.fault := by
  cases move with
  | outside env => rfl
  | operation operation =>
    exact (perform_returns direct fun tick => absurd (congrArg Move.operation tick) other).recorded

theorem fault_after (direct : ∀ move ∈ moves, move.schedules = false)
    (unticked : .operation .tick ∉ moves) :
    (session.after moves).device.fault = session.device.fault := by
  induction moves using List.reverseRecOn with
  | nil => rfl
  | append_singleton moves move ih =>
    simp only [List.mem_append, List.mem_singleton, not_or] at unticked
    rw [after_concat, fault_moved (direct move (by simp)) (Ne.symm unticked.2)]
    exact ih (fun move member => direct move (by simp [member])) unticked.1

theorem fault_tick : (session.perform .tick).2.device.fault = none := by
  cases recorded : session.device.fault with
  | none => exact (perform_returns rfl fun _ => recorded).recorded.trans recorded
  | some fault => rw [perform_tick_of_fault recorded]

/-- Only faults of the stack are ever recorded. -/
theorem stack_of_fault_moved (wired : session.Wired) (move : Move (Journaled ε))
    (stack : ∀ error, session.device.fault ≠ some (.storage error)) (error : StorageError) :
    (session.moved move).2.device.fault ≠ some (.storage error) := by
  cases schedules : move.schedules with
  | false =>
    by_cases tick : move = .operation .tick
    · subst tick
      simp [moved, fault_tick]
    · rw [fault_moved schedules tick]
      exact stack error
  | true =>
    cases move with
    | outside env => cases schedules
    | operation operation =>
      have records := perform_records wired schedules
      by_cases refused : ∃ call ∈ session.callsOf operation, call.refusal? ≠ none
      · obtain ⟨call, member, refusal⟩ := refused
        obtain ⟨code, refusal⟩ := Option.ne_none_iff_exists'.1 refusal
        simp [moved, records.recorded code ⟨call, member, refusal⟩]
      · have unrefused := fun call member =>
          not_not.1 fun refusal => refused ⟨call, member, refusal⟩
        rw [moved, records.spared unrefused]
        exact stack error

/-- A fault in the record is there since a step of the scheduler, and no tick came since. -/
theorem schedules_of_fault (clear : started.device.fault = none)
    (recorded : (started.after moves).device.fault ≠ none) :
    ∃ before step behind, moves = before ++ step :: behind ∧ step.schedules = true ∧
      .operation .tick ∉ behind := by
  induction moves using List.reverseRecOn with
  | nil => exact absurd clear recorded
  | append_singleton moves move ih =>
    rw [after_concat] at recorded
    cases schedules : move.schedules with
    | true => exact ⟨moves, move, [], rfl, schedules, by simp⟩
    | false =>
      have other : move ≠ .operation .tick := by
        rintro rfl
        exact recorded fault_tick
      rw [fault_moved schedules other] at recorded
      obtain ⟨before, step, behind, rfl, scheduled, unticked⟩ := ih recorded
      exact ⟨before, step, behind ++ [move], by simp, scheduled, by simp [unticked, other.symm]⟩

/-- In a paced run a fault stays in the record until the next tick. -/
theorem fault_kept (clear : started.device.fault = none)
    {before between behind : List (Move (Journaled ε))}
    (paced : Paced (before ++ (between ++ behind)))
    (unticked : .operation .tick ∉ between)
    (recorded : (started.after before).device.fault ≠ none) :
    (started.after (before ++ between)).device.fault = (started.after before).device.fault := by
  have onward : started.after (before ++ between) = (started.after before).after between := by
    simp [after]
  rw [onward]
  refine fault_after (fun move member => Bool.eq_false_iff.2 fun schedules => ?_) unticked
  -- A second step of the scheduler would have a tick before it, since the first one.
  obtain ⟨earlier, step, later, rfl, scheduled, untickedLater⟩ := schedules_of_fault clear recorded
  obtain ⟨first, last, rfl⟩ := List.append_of_mem member
  have ticked := paced earlier step (later ++ first) move (last ++ behind) (by simp) scheduled
    schedules
  obtain inside | inside := List.mem_append.1 ticked
  · exact untickedLater inside
  · exact unticked (List.mem_append_left _ inside)

end Session

/-- No fault of the stack is lost, invented or worked past.  An operation returns one exactly if a
call of its own was refused, and then that was its last call; the scheduler records it, and a
tick that finds it in the record reports it and does nothing else.  If a tick comes between any
two steps of the scheduler, a recorded fault stays until the next tick.  The codes that are no
refusal are those of `Tolerates`. -/
theorem stack_faults_are_reported {ranking : Ranking} {env : Journaled ε} {reserved : Nat}
    (powered : Session.powerUp ranking env reserved = .ok started)
    (moves : List (Move (Journaled ε))) :
    (∀ operation : Operation, operation.schedules = false →
      (started.after moves).device.fault = none → (started.after moves).Returns operation) ∧
    (∀ operation : Operation, operation.schedules = true →
      (started.after moves).Records operation) ∧
    (∀ fault, (started.after moves).device.fault = some fault →
      (started.after moves).perform .tick = (.error fault, { started.after moves with
        device := { (started.after moves).device with fault := none } })) ∧
    (∀ before between behind, moves = before ++ (between ++ behind) → Paced moves →
      .operation .tick ∉ between → ∀ fault, (started.after before).device.fault = some fault →
        (started.after (before ++ between)).device.fault = some fault) := by
  obtain ⟨wired, scanTimer, timers, device⟩ := Session.powerUp_eq_ok powered
  have clear : started.device.fault = none := by rw [device]; rfl
  refine ⟨fun operation direct unrecorded => Session.perform_returns direct fun _ => unrecorded,
    fun operation schedules => Session.perform_records (wired.after moves) schedules,
    fun fault recorded => Session.perform_tick_of_fault recorded, ?_⟩
  rintro before between behind rfl paced unticked fault recorded
  rw [Session.fault_kept clear paced unticked (by simp [recorded]), recorded]

end Runs

/-! ## A scan that cannot be stopped -/

section Bench

/-- A session on a platform that refuses to stop advertising. -/
def stubbornSession : Session (Journaled Platform) :=
  .fresh .empty (.new { Platform.new [nearPeer] .empty with failures := { stop := some (.raw 9) } })

/-- The scan ends, and before the next tick the user asks for the link to be dropped. -/
def stubbornMoves : List (Move (Journaled Platform)) :=
  [.operation .start, .operation .scanTimeout, .operation (.request .disconnect)]

/-- The fault is still in the record when the tick comes, which reports it. -/
theorem stack_fault_waits_for_tick :
    (stubbornSession.after (stubbornMoves.take 2)).device.fault = some (.stack (.raw 9)) ∧
    ((stubbornSession.after stubbornMoves).perform .tick).1 = .error (.stack (.raw 9)) := by
  have recorded : (stubbornSession.after (stubbornMoves.take 2)).device.fault =
      some (.stack (.raw 9)) := rfl
  have paced : Paced stubbornMoves := paced_of_countP_le_one (by decide)
  have powered : Session.powerUp _ _ 0 = .ok stubbornSession := Session.powerUp_fresh _ _
  have faults := stack_faults_are_reported powered stubbornMoves
  have kept := faults.2.2.2 (stubbornMoves.take 2) (stubbornMoves.drop 2) [] rfl paced
    (by simp [stubbornMoves]) _ recorded
  exact ⟨recorded, by rw [faults.2.2.1 _ kept]⟩

end Bench

end BondedMouse
