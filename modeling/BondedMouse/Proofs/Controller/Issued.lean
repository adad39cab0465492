import BondedMouse.Proofs.Controller.Requests
import BondedMouse.Simulation.Journal

/-! # The requests that an operation makes

Between two requests to the radio stack an operation may call the record store.
`Issues` lists the requests of a stretch in which the stack answers all of them.  A
request that it refuses is the last of its operation; with it the list is what was
`Issued`.  A journal shows these requests and no others.
-/

namespace BondedMouse

section Issued

variable {ε : Type} [RadioStack ε] [RecordStore ε]

/-- Calls to the stack and the store lead from one environment to another; the requests to the
stack are listed, and each is answered with success or with a code that it tolerates. -/
inductive Issues (env : ε) : List RadioRequest → ε → Prop
  | none : Issues env [] env
  | request {requests : List RadioRequest} {last : ε} (issues : Issues env requests last)
      (request : RadioRequest)
      (answered : tolerate request.tolerated (RadioStack.request request last).1 = .ok ()) :
      Issues env (requests ++ [request]) (RadioStack.request request last).2
  | read {requests : List RadioRequest} {last : ε} (issues : Issues env requests last)
      (key : UInt16) (room : Nat) : Issues env requests (RecordStore.read key room last).2
  | write {requests : List RadioRequest} {last : ε} (issues : Issues env requests last)
      (key : UInt16) (bytes : List UInt8) : Issues env requests (RecordStore.write key bytes last).2
  | reclaim {requests : List RadioRequest} {last : ε} (issues : Issues env requests last) :
      Issues env requests (RecordStore.reclaim last).2

/-- All requests were answered, or all but the last. -/
inductive Issued (env : ε) : List RadioRequest → ε → Prop
  | answered {requests : List RadioRequest} {last : ε} (issues : Issues env requests last) :
      Issued env requests last
  | refused {requests : List RadioRequest} {request : RadioRequest} {error : StackError}
      {middle : ε} (issues : Issues env requests middle)
      (refused :
        tolerate request.tolerated (RadioStack.request request middle).1 = .error (.stack error)) :
      Issued env (requests ++ [request]) (RadioStack.request request middle).2

variable {requests more : List RadioRequest} {env middle last : ε}

theorem Issues.trans (first : Issues env requests middle) (rest : Issues middle more last) :
    Issues env (requests ++ more) last := by
  induction rest with
  | none => simpa using first
  | request _ request answered ih =>
    rw [← List.append_assoc]
    exact ih.request request answered
  | read _ key room ih => exact ih.read key room
  | write _ key bytes ih => exact ih.write key bytes
  | reclaim _ ih => exact ih.reclaim

theorem Issues.single {request : RadioRequest}
    (answered : tolerate request.tolerated (RadioStack.request request env).1 = .ok ()) :
    Issues env [request] (RadioStack.request request env).2 :=
  Issues.none.request request answered

theorem Issues.issued (first : Issues env requests middle) (rest : Issued middle more last) :
    Issued env (requests ++ more) last := by
  cases rest with
  | answered issues => exact .answered (first.trans issues)
  | refused issues refused =>
    rw [← List.append_assoc]
    exact .refused (first.trans issues) refused

theorem Answers.issues (answers : Answers requests env last) : Issues env requests last := by
  induction answers with
  | done => exact .none
  | next answered _ ih => exact (Issues.single answered).trans ih

/-- Of a refused row the requests up to the refused one are made. -/
theorem Refuses.issued {error : StackError} (refuses : Refuses requests error env last) :
    ∃ made, made <+: requests ∧ Issued env made last := by
  induction refuses with
  | here refused => exact ⟨[_], by simp, .refused .none refused⟩
  | later answered _ ih =>
    obtain ⟨made, first, issued⟩ := ih
    exact ⟨_ :: made, by simpa using first, (Issues.single answered).issued issued⟩

end Issued

/-! ## Journals -/

namespace Simulation

/-- The request to the radio stack that a call is. -/
def Call.request? : Call → Option RadioRequest
  | .radio request _ => some request
  | .read _ _ | .write _ _ _ | .reclaim _ => none

namespace Journaled

variable {ε : Type} {requests : List RadioRequest} {env middle last : Journaled ε}

/-- Behind what the first journal lists, the second lists these requests among other calls. -/
def Shows (env : Journaled ε) (requests : List RadioRequest) (last : Journaled ε) : Prop :=
  ∃ calls, last.calls = env.calls ++ calls ∧ calls.filterMap Call.request? = requests

theorem Shows.note (shows : Shows env requests middle) (call : Call)
    (noted : last.calls = middle.calls ++ [call]) :
    Shows env (requests ++ call.request?.toList) last := by
  obtain ⟨calls, appended, listed⟩ := shows
  refine ⟨calls ++ [call], by rw [noted, appended, List.append_assoc], ?_⟩
  rw [List.filterMap_append, listed]
  cases call <;> rfl

theorem Shows.other (shows : Shows env requests middle) (call : Call)
    (noted : last.calls = middle.calls ++ [call]) (store : call.request? = none) :
    Shows env requests last := by
  have more := shows.note call noted
  rwa [store, Option.toList_none, List.append_nil] at more

variable [RadioStack ε] [RecordStore ε]

theorem shows_of_issues (issues : Issues env requests last) : Shows env requests last := by
  induction issues with
  | none => exact ⟨[], by simp⟩
  | request _ request answered ih => exact ih.note (.radio request _) rfl
  | read _ key room ih => exact ih.other (.read key _) rfl rfl
  | write _ key bytes ih => exact ih.other (.write key bytes _) rfl rfl
  | reclaim _ ih => exact ih.other (.reclaim _) rfl rfl

theorem shows_of_issued (issued : Issued env requests last) : Shows env requests last := by
  cases issued with
  | answered issues => exact shows_of_issues issues
  | refused issues refused => exact (shows_of_issues issues).note (.radio _ _) rfl

end Journaled

end Simulation

end BondedMouse
