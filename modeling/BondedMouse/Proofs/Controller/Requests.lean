import BondedMouse.Controller.Windows

/-! # Rows of requests

An operation of the controller makes its requests to the radio stack one after the
other and stops at the first that is refused.  `Answers` and `Refuses` are the two ways
in which a row of requests can go, and `Asks` says where an operation ends in either
case.  The link and the flags of advertising are set before the request that may fail;
so a refused operation has everything else in place already.

`Calls` forgets the requests and keeps that none of them erased the bonds.
-/

namespace BondedMouse

/-! ## Running an operation -/

namespace Controller

variable {ε α β : Type}

/-- The device that an operation leaves behind, however it ended. -/
def final : EStateM.Result Fault (Device ε) α → Device ε
  | .ok _ device | .error _ device => device

@[simp] theorem pure_apply (value : α) (device : Device ε) :
    (pure value : ControlM ε α) device = .ok value device := rfl

@[simp] theorem get_apply (device : Device ε) :
    (get : ControlM ε (Device ε)) device = .ok device device := rfl

@[simp] theorem set_apply (next device : Device ε) :
    (set next : ControlM ε PUnit) device = .ok ⟨⟩ next := rfl

@[simp] theorem modify_apply (change : Device ε → Device ε) (device : Device ε) :
    (modify change : ControlM ε PUnit) device = .ok ⟨⟩ (change device) := rfl

@[simp] theorem throw_apply (fault : Fault) (device : Device ε) :
    (throw fault : ControlM ε α) device = .error fault device := rfl

/-- What follows an operation runs on the device that it leaves, unless it failed. -/
@[simp] theorem bind_apply (first : ControlM ε α) (rest : α → ControlM ε β) (device : Device ε) :
    (first >>= rest) device =
      match first device with
      | .ok value next => rest value next
      | .error fault next => .error fault next := by
  change EStateM.bind first rest device = _
  unfold EStateM.bind
  cases first device <;> rfl

/-- What an operation leaves behind, and what the next one keeps, both leave behind. -/
theorem final_bind (property : Device ε → Prop) {first rest : ControlM ε Unit}
    {device : Device ε} (holds : property (final (first device)))
    (keeps : ∀ next, property next → property (final (rest next))) :
    property (final ((first >>= fun _ => rest) device)) := by
  rw [bind_apply]
  generalize first device = result at holds
  cases result with
  | ok value next => exact keeps next holds
  | error fault next => exact holds

end Controller

/-! ## Answered and refused rows -/

section Rows

variable {ε : Type} [RadioStack ε]

/-- The stack answers a row of requests, each with success or with a code that it tolerates. -/
inductive Answers : List RadioRequest → ε → ε → Prop
  | done {env : ε} : Answers [] env env
  | next {request : RadioRequest} {requests : List RadioRequest} {env last : ε}
      (answered : tolerate request.tolerated (RadioStack.request request env).1 = .ok ())
      (rest : Answers requests (RadioStack.request request env).2 last) :
      Answers (request :: requests) env last

/-- The stack answers the first requests of a row and refuses the next with a code that is not
tolerated.  Those behind it are not made. -/
inductive Refuses : List RadioRequest → StackError → ε → ε → Prop
  | here {request : RadioRequest} {requests : List RadioRequest} {error : StackError} {env : ε}
      (refused :
        tolerate request.tolerated (RadioStack.request request env).1 = .error (.stack error)) :
      Refuses (request :: requests) error env (RadioStack.request request env).2
  | later {request : RadioRequest} {requests : List RadioRequest} {error : StackError} {env last : ε}
      (answered : tolerate request.tolerated (RadioStack.request request env).1 = .ok ())
      (rest : Refuses requests error (RadioStack.request request env).2 last) :
      Refuses (request :: requests) error env last

theorem Answers.append {requests more : List RadioRequest} {env middle last : ε}
    (first : Answers requests env middle) (rest : Answers more middle last) :
    Answers (requests ++ more) env last := by
  induction first with
  | done => exact rest
  | next answered _ ih => exact .next answered (ih rest)

theorem Answers.append_refuses {requests more : List RadioRequest} {error : StackError}
    {env middle last : ε} (first : Answers requests env middle)
    (rest : Refuses more error middle last) : Refuses (requests ++ more) error env last := by
  induction first with
  | done => exact rest
  | next answered _ ih => exact .later answered (ih rest)

theorem Refuses.append {requests more : List RadioRequest} {error : StackError} {env last : ε}
    (first : Refuses requests error env last) : Refuses (requests ++ more) error env last := by
  induction first with
  | here refused => exact .here refused
  | later answered _ ih => exact .later answered ih

/-- How an operation ends that makes a row of requests on the way to a target.  When all are
answered it ends in the target; else it ends there up to the link and the flags. -/
inductive Asks (requests : List RadioRequest) (device target : Device ε) :
    EStateM.Result Fault (Device ε) Unit → Prop
  | answered {env : ε} (answers : Answers requests device.env env) :
      Asks requests device target (.ok () { target with env })
  | refused {link : Link} {wanted running : Bool} {error : StackError} {env : ε}
      (refuses : Refuses requests error device.env env) :
      Asks requests device target (.error (.stack error) { target with link, wanted, running, env })

namespace Asks

/-- The rows of two operations, the one after the other, make one row.  The two targets may
differ only in what a refusal leaves open. -/
theorem bind {first rest : ControlM ε Unit} {requests more : List RadioRequest}
    {device target : Device ε} (middle : Device ε)
    (asksFirst : Asks requests device middle (first device))
    (asksRest : ∀ env,
      Asks more { middle with env } { target with env } (rest { middle with env }))
    (agree : ∀ link wanted running env, ({ middle with link, wanted, running, env } : Device ε) =
      { target with link, wanted, running, env }) :
    Asks (requests ++ more) device target ((first >>= fun _ => rest) device) := by
  rw [Controller.bind_apply]
  generalize first device = result at asksFirst
  cases asksFirst with
  | @answered env answers =>
    have continued := asksRest env
    dsimp only
    generalize rest { middle with env } = result at continued
    cases continued with
    | answered answersRest => exact .answered (answers.append answersRest)
    | refused refuses => exact .refused (answers.append_refuses refuses)
  | @refused link wanted running error env refuses =>
    dsimp only
    rw [agree]
    exact .refused refuses.append

/-- An operation without requests ends in its target. -/
theorem nothing {device target last : Device ε} (same : target = last)
    (stays : last.env = device.env) : Asks [] device target (.ok () last) := by
  subst same
  have answers : Answers [] device.env target.env := stays ▸ .done
  exact .answered answers

/-- Where the requests start from, only the environment counts. -/
theorem of_env {requests : List RadioRequest} {device other target : Device ε}
    {result : EStateM.Result Fault (Device ε) Unit} (asks : Asks requests other target result)
    (stays : other.env = device.env) : Asks requests device target result := by
  cases asks with
  | answered answers => exact .answered (stays ▸ answers)
  | refused refuses => exact .refused (stays ▸ refuses)

/-- Only refusals of the stack end such an operation early. -/
theorem error {requests : List RadioRequest} {device target last : Device ε} {fault : Fault}
    (asks : Asks requests device target (.error fault last)) :
    ∃ error, fault = .stack error := by
  cases asks with
  | refused refuses => exact ⟨_, rfl⟩

end Asks

namespace Controller

/-- A single request is a row. -/
theorem ask_asks (request : RadioRequest) (device : Device ε) :
    Asks [request] device device (ask request device) := by
  unfold ask
  cases outcome : tolerate request.tolerated (RadioStack.request request device.env).1 with
  | ok =>
    simp only [outcome]
    exact .answered (.next outcome .done)
  | error fault =>
    obtain ⟨error, -, -, rfl⟩ := tolerate_eq_error_iff.1 outcome
    simp only [outcome]
    exact .refused (.here outcome)

/-- A request that is made when the link and the flags are set already. -/
theorem ask_asks_of {request : RadioRequest} (device : Device ε) {target : Device ε}
    (stays : target.env = device.env) : Asks [request] device target (ask request target) :=
  (ask_asks request target).of_env stays

end Controller

end Rows

/-! ## Calls that keep the bonds -/

section Calls

variable {ε : Type} [RadioStack ε] [RecordStore ε]

/-- Calls to the radio stack and the record store lead from one environment to another, and none
of them erases the bonds. -/
inductive Calls : ε → ε → Prop
  | refl {env : ε} : Calls env env
  | request {env last : ε} (calls : Calls env last) (request : RadioRequest)
      (keeps : request ≠ .forgetBonds) : Calls env (RadioStack.request request last).2
  | read {env last : ε} (calls : Calls env last) (key : UInt16) (room : Nat) :
      Calls env (RecordStore.read key room last).2
  | write {env last : ε} (calls : Calls env last) (key : UInt16) (bytes : List UInt8) :
      Calls env (RecordStore.write key bytes last).2
  | reclaim {env last : ε} (calls : Calls env last) : Calls env (RecordStore.reclaim last).2

theorem Calls.trans {env middle last : ε} (first : Calls env middle) (rest : Calls middle last) :
    Calls env last := by
  induction rest with
  | refl => exact first
  | request _ request keeps ih => exact ih.request request keeps
  | read _ key room ih => exact ih.read key room
  | write _ key bytes ih => exact ih.write key bytes
  | reclaim _ ih => exact ih.reclaim

theorem Calls.single (env : ε) (request : RadioRequest) (keeps : request ≠ .forgetBonds) :
    Calls env (RadioStack.request request env).2 :=
  Calls.refl.request request keeps

theorem Answers.calls {requests : List RadioRequest} {env last : ε}
    (answers : Answers requests env last) (keeps : .forgetBonds ∉ requests) : Calls env last := by
  induction answers with
  | done => exact .refl
  | @next request requests env last answered rest ih =>
    have first := Calls.single env request (fun same => keeps (same ▸ List.mem_cons_self))
    exact first.trans (ih fun member => keeps (List.mem_cons_of_mem _ member))

theorem Refuses.calls {requests : List RadioRequest} {error : StackError} {env last : ε}
    (refuses : Refuses requests error env last) (keeps : .forgetBonds ∉ requests) :
    Calls env last := by
  induction refuses with
  | here refused => exact Calls.single _ _ (fun same => keeps (same ▸ List.mem_cons_self))
  | @later request requests error env last answered rest ih =>
    have first := Calls.single env request (fun same => keeps (same ▸ List.mem_cons_self))
    exact first.trans (ih fun member => keeps (List.mem_cons_of_mem _ member))

end Calls

end BondedMouse
