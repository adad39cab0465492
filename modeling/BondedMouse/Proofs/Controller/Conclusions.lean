import BondedMouse.Proofs.Controller.Issued
import BondedMouse.Proofs.Controller.Saving

/-! # How an operation ends, by the calls it made

An operation fails at its last call: a request that the stack refuses, with a code that the
request does not tolerate, or a call to the store that fails.  Nothing is called behind it,
and what the operation returns is the cause.  An operation that succeeds was refused
nothing.  `Concludes` is these two ways to end, read off the journal.

The end of the scan timer has nobody to return a fault to and records it instead; it is
the only one to touch the record, besides the tick that reports it.
-/

namespace BondedMouse

/-! ## Refused and failed calls -/

namespace Simulation

/-- The code with which the stack refused a call, unless the request tolerates it. -/
def Call.refusal? : Call → Option StackError
  | .radio request (.error error) => if error ∈ request.tolerated then none else some error
  | .radio _ (.ok ()) | .read _ _ | .write _ _ _ | .reclaim _ => none

/-- The fault that a call can end an operation with.  A store that is busy need not collect, and
what cannot be read is taken as missing. -/
def Call.fault? : Call → Option Fault
  | .write _ _ (.error error) => some (.storage error)
  | .reclaim (.error error) => if error = .busy then none else some (.storage error)
  | .radio request result => (Call.radio request result).refusal?.map .stack
  | .write _ _ (.ok ()) | .reclaim (.ok ()) | .read _ _ => none

theorem Call.fault?_eq_stack_iff {call : Call} {error : StackError} :
    call.fault? = some (.stack error) ↔ call.refusal? = some error := by
  cases call with
  | radio request result => simp [fault?]
  | read key result => simp [fault?, refusal?]
  | write key bytes result => cases result <;> simp [fault?, refusal?]
  | reclaim result => cases result <;> simp [fault?, refusal?]

/-- A call with any other fault was one to the store. -/
theorem Call.request?_of_fault? {call : Call} {fault : Fault} (failed : call.fault? = some fault) :
    (∃ error, fault = .stack error) ∨ call.request? = none ∧ ∃ error, fault = .storage error := by
  cases call with
  | radio request result =>
    obtain ⟨error, refused, rfl⟩ := Option.map_eq_some_iff.1 failed
    exact .inl ⟨error, rfl⟩
  | read key result => cases failed
  | write key bytes result =>
    cases result with
    | ok => cases failed
    | error error => exact .inr ⟨rfl, error, (Option.some.inj failed).symm⟩
  | reclaim result =>
    cases result with
    | ok => cases failed
    | error error =>
      simp only [fault?, Option.ite_none_left_eq_some, Option.some.injEq] at failed
      exact .inr ⟨rfl, error, failed.2.symm⟩

theorem Call.refusal?_radio_eq_none {request : RadioRequest} {result : Except StackError Unit}
    (answered : tolerate request.tolerated result = .ok ()) :
    (Call.radio request result).refusal? = none := by
  cases result with
  | ok => rfl
  | error error => simpa [tolerate, refusal?] using answered

theorem Call.fault?_radio_eq_some {request : RadioRequest} {result : Except StackError Unit}
    {error : StackError} (refused : tolerate request.tolerated result = .error (.stack error)) :
    (Call.radio request result).fault? = some (.stack error) := by
  obtain ⟨code, rfl, foreign, same⟩ := tolerate_eq_error_iff.1 refused
  cases same
  simp [fault?, refusal?, foreign]

namespace Journaled

variable {ε : Type}

/-- The second journal goes on where the first ends, with calls that the stack did not refuse. -/
def Answered (env last : Journaled ε) : Prop :=
  ∃ calls, last.calls = env.calls ++ calls ∧ ∀ call ∈ calls, call.refusal? = none

/-- The same with one more call, which failed. -/
def Failed (env : Journaled ε) (fault : Fault) (last : Journaled ε) : Prop :=
  ∃ calls call, last.calls = env.calls ++ (calls ++ [call]) ∧
    (∀ call ∈ calls, call.refusal? = none) ∧ call.fault? = some fault

variable {env middle last : Journaled ε} {fault : Fault}

namespace Answered

theorem none (same : last.calls = env.calls) : Answered env last := ⟨[], by simp [same]⟩

theorem single {call : Call} (noted : last.calls = env.calls ++ [call])
    (unrefused : call.refusal? = .none) : Answered env last :=
  ⟨[call], noted, by simp [unrefused]⟩

theorem trans (first : Answered env middle) (rest : Answered middle last) : Answered env last := by
  obtain ⟨calls, listed, answered⟩ := first
  obtain ⟨more, listedMore, answeredMore⟩ := rest
  refine ⟨calls ++ more, by rw [listedMore, listed, List.append_assoc], ?_⟩
  exact List.forall_mem_append.2 ⟨answered, answeredMore⟩

theorem failed (first : Answered env middle) (rest : Failed middle fault last) :
    Failed env fault last := by
  obtain ⟨calls, listed, answered⟩ := first
  obtain ⟨more, call, listedMore, answeredMore, cause⟩ := rest
  refine ⟨calls ++ more, call, by rw [listedMore, listed]; simp, ?_, cause⟩
  exact List.forall_mem_append.2 ⟨answered, answeredMore⟩

end Answered

theorem Failed.single {call : Call} (noted : last.calls = env.calls ++ [call])
    (cause : call.fault? = some fault) : Failed env fault last :=
  ⟨[], call, noted, by simp, cause⟩

end Journaled

end Simulation

open Simulation Journaled

section Rows

variable {ε : Type} [RadioStack ε] {requests : List RadioRequest} {env last : Journaled ε}

theorem Answers.answered (answers : Answers requests env last) : Answered env last := by
  induction answers with
  | done => exact .none rfl
  | @next request requests env last answered _ ih =>
    have noted : Answered env (RadioStack.request request env).2 :=
      .single rfl (Call.refusal?_radio_eq_none answered)
    exact noted.trans ih

theorem Refuses.failed {error : StackError} (refuses : Refuses requests error env last) :
    Failed env (.stack error) last := by
  induction refuses with
  | here refused => exact .single rfl (Call.fault?_radio_eq_some refused)
  | @later request requests error env last answered _ ih =>
    have noted : Answered env (RadioStack.request request env).2 :=
      .single rfl (Call.refusal?_radio_eq_none answered)
    exact noted.failed ih

end Rows

/-! ## Conclusions -/

section Concludes

variable {ε : Type}

open Controller

/-- Either the operation succeeds and was refused nothing, or its last call failed and is the
cause of its own failure.  The record of a fault is untouched. -/
inductive Concludes (device : Device (Journaled ε)) :
    EStateM.Result Fault (Device (Journaled ε)) Unit → Prop
  | done {last : Device (Journaled ε)} (answered : Answered device.env last.env)
      (recorded : last.fault = device.fault) : Concludes device (.ok () last)
  | failed {fault : Fault} {last : Device (Journaled ε)} (failed : Failed device.env fault last.env)
      (recorded : last.fault = device.fault) : Concludes device (.error fault last)

namespace Concludes

variable {device middle : Device (Journaled ε)}
  {result : EStateM.Result Fault (Device (Journaled ε)) Unit}

/-- An operation that calls nobody. -/
theorem silent {last : Device (Journaled ε)} (stays : last.env = device.env)
    (recorded : last.fault = device.fault) : Concludes device (.ok () last) :=
  .done (.none (by rw [stays])) recorded

theorem recorded (concludes : Concludes device result) : (final result).fault = device.fault := by
  cases concludes with
  | done answered recorded => exact recorded
  | failed failed recorded => exact recorded

theorem after (concludes : Concludes middle result) (answered : Answered device.env middle.env)
    (recorded : middle.fault = device.fault) : Concludes device result := by
  cases concludes with
  | done more recordedMore => exact .done (answered.trans more) (recordedMore.trans recorded)
  | failed failed recordedMore =>
    exact .failed (answered.failed failed) (recordedMore.trans recorded)

/-- What follows is left out if the first operation failed. -/
theorem bind {first rest : ControlM (Journaled ε) Unit}
    (concludes : Concludes device (first device))
    (continues : ∀ next, Concludes next (rest next)) :
    Concludes device ((first >>= fun _ => rest) device) := by
  rw [bind_apply]
  generalize first device = result at concludes
  cases concludes with
  | @done next answered recorded => exact (continues next).after answered recorded
  | failed failed recorded => exact .failed failed recorded

end Concludes

variable [RadioStack ε] {device target middle described : Device (Journaled ε)}
  {result : EStateM.Result Fault (Device (Journaled ε)) Unit} {requests : List RadioRequest}

theorem Asks.concludes (asks : Asks requests device target result)
    (recorded : target.fault = device.fault) : Concludes device result := by
  cases asks with
  | answered answers => exact .done answers.answered recorded
  | refused refuses => exact .failed refuses.failed recorded

theorem putInForce_concludes (device : Device (Journaled ε)) :
    Concludes device (putInForce device) :=
  (putInForce_asks device).concludes rfl

/-- To describe a window neither calls anybody nor touches the record. -/
theorem Describes.concludes (describes : Describes middle described)
    (answered : Answered device.env middle.env) (recorded : middle.fault = device.fault) :
    Concludes device (putInForce described) := by
  cases describes
  exact (putInForce_concludes _).after answered recorded

theorem Closes.concludes (closes : Closes device result) : Concludes device result := by
  cases closes with
  | refused refuses => exact .failed refuses.failed rfl
  | turned answers => exact (Describes.targets _).concludes answers.answered rfl

theorem Detects.concludes {peer : PeerId} (detects : Detects device peer result) :
    Concludes device result := by
  cases detects with
  | refused refuses => exact .failed refuses.failed rfl
  | noted answers more => exact .done answers.answered rfl
  | complete answers all => exact (Describes.targets _).concludes answers.answered rfl

theorem dropLink_concludes (device : Device (Journaled ε)) : Concludes device (dropLink device) :=
  (dropLink_asks device).concludes rfl

theorem Receives.concludes {peer : Option PeerId} (receives : Receives device peer result) :
    Concludes device result := by
  cases receives with
  | ignored idle => exact .silent rfl rfl
  | paired mode => exact .silent rfl rfl
  | kept meant => exact .silent rfl rfl
  | dropped advertises stranger => exact dropLink_concludes device
  | detected scans detects => exact detects.concludes

theorem Expires.concludes (expires : Expires device result) : Concludes device result := by
  have stopped : Answered device.env device.stopped.env := .none rfl
  cases expires with
  | ignored undirected closed => exact .silent rfl rfl
  | rested mode => exact .silent rfl rfl
  | scanned mode phase => exact (Describes.targets _).concludes stopped rfl
  | offered mode phase => exact (Describes.next _).concludes stopped rfl

/-! ## Outcomes of the stack and requests -/

theorem onConnected_concludes (peer : Option PeerId) (handle : LinkHandle)
    (device : Device (Journaled ε)) : Concludes device (onConnected peer handle device) := by
  by_cases down : device.link = .down
  · exact (onConnected_down peer handle down).concludes.after (.none rfl) rfl
  · rw [onConnected_linked peer handle down]
    exact .silent rfl rfl

theorem onDisconnected_concludes (device : Device (Journaled ε)) :
    Concludes device (onDisconnected device) := by
  have freed : Answered device.env device.unlinked.env := .none rfl
  rw [onDisconnected_apply]
  split
  · exact .silent rfl rfl
  · exact .silent rfl rfl
  · split
    · exact (Describes.pairing _).concludes freed rfl
    · exact (Describes.sequence _).concludes freed rfl

theorem onTimedOut_concludes (window : Window) (device : Device (Journaled ε)) :
    Concludes device (onTimedOut window device) := by
  by_cases present : window = device.window
  · subst present
    exact (onTimedOut_expires device).concludes
  · rw [onTimedOut_stale present]
    exact .silent rfl rfl

theorem startSequence_concludes (device : Device (Journaled ε)) :
    Concludes device (startSequence device) := by
  rw [startSequence_apply]
  exact (Describes.sequence device).concludes (.none rfl) rfl

theorem setMode_concludes (mode : Mode) (target : Option PeerId) (device : Device (Journaled ε)) :
    Concludes device (setMode mode target device) := by
  by_cases idle : mode = .idle
  · subst idle
    exact ((silence_asks device.forRest).concludes rfl).after (.none rfl) rfl
  · obtain ⟨described, describes, opens⟩ := setMode_opens target device idle
    rw [opens]
    exact describes.concludes (.none rfl) rfl

theorem onRequest_concludes (request : Request) (device : Device (Journaled ε)) :
    Concludes device (onRequest request device) := by
  cases request with
  | moveCursor movement =>
    rw [onRequest_moveCursor]
    split
    · exact (ask_asks _ device).concludes rfl
    · exact .silent rfl rfl
    · exact .silent rfl rfl
  | pairingWindow => exact (Describes.pairing device).concludes (.none rfl) rfl
  | eraseBonds => exact .silent rfl rfl
  | disconnect => exact dropLink_concludes device

theorem eraseWhenDown_concludes (device : Device (Journaled ε)) :
    Concludes device (eraseWhenDown device) := by
  have erases := eraseWhenDown_erases device
  generalize eraseWhenDown device = result at erases
  cases erases with
  | spared keeps => exact .silent rfl rfl
  | refused pending down refuses => exact .failed refuses.failed rfl
  | erased pending down answers => exact .done answers.answered rfl

/-! ## The scan timer -/

/-- The end of the scan timer records the fault that it failed with, and else leaves the record
alone. -/
theorem Rings.concludes {last : Device (Journaled ε)} (rings : Rings device last) :
    (Answered device.env last.env ∧ last.fault = device.fault) ∨
      ∃ error, Failed device.env (.stack error) last.env ∧ last.fault = some (.stack error) := by
  cases rings with
  | ignored quiet => exact .inl ⟨.none rfl, rfl⟩
  | closed mode phase closes ok =>
    subst ok
    cases closes.concludes with
    | done answered recorded => exact .inl ⟨answered, recorded⟩
  | failed mode phase closes error =>
    obtain ⟨code, rfl⟩ := closes.error error
    subst error
    cases closes.concludes with
    | failed failed recorded => exact .inr ⟨code, failed, rfl⟩

/-! ## Calls to the store -/

variable [RecordStore ε]

omit [RadioStack ε] in
theorem saveRanking_concludes (device : Device (Journaled ε)) :
    Concludes device (saveRanking device) := by
  have written : Answered device.env (device.ranking.persist device.env).2 := .single rfl rfl
  have flushes := saveRanking_flushes device
  generalize saveRanking device = result at flushes
  cases flushes with
  | clean saved => exact .silent rfl rfl
  | written unsaved done => exact .done written rfl
  | waits unsaved busy few => exact .done written rfl
  | @givenUp error unsaved failed spent =>
    have cause : (Call.write Ranking.Record.key device.ranking.encode
        (device.ranking.persist device.env).1).fault? = some (.storage error) := by
      rw [failed]
      rfl
    exact .failed (.single rfl cause) rfl

omit [RadioStack ε] in
theorem onBonded_concludes (peer : PeerId) (device : Device (Journaled ε)) :
    Concludes device (onBonded peer device) := by
  rw [onBonded_apply]
  split
  · dsimp only
    split
    · exact (saveRanking_concludes _).after (.none rfl) rfl
    · exact .silent rfl rfl
  · exact .silent rfl rfl
  · exact .silent rfl rfl

omit [RadioStack ε] in
theorem onStorageFull_concludes (device : Device (Journaled ε)) :
    Concludes device (onStorageFull device) := by
  have reclaimed : Answered device.env (RecordStore.reclaim device.env).2 := .single rfl rfl
  unfold onStorageFull
  dsimp only
  split
  · exact .done reclaimed rfl
  · exact .done reclaimed rfl
  · next error busy failed =>
    have cause : (Call.reclaim (RecordStore.reclaim device.env).1).fault? =
        some (.storage error) := by
      rw [failed]
      exact if_neg busy
    exact .failed (.single rfl cause) rfl

theorem onEvent_concludes (event : RadioEvent) (device : Device (Journaled ε)) :
    Concludes device (onEvent event device) := by
  cases event with
  | connected peer handle => exact onConnected_concludes peer handle device
  | disconnected => exact onDisconnected_concludes device
  | bonded peer => exact onBonded_concludes peer device
  | timedOut window => exact onTimedOut_concludes window device
  | storageFull => exact onStorageFull_concludes device
  | bondsErased => exact startSequence_concludes device

/-! ## Ticks and the start -/

/-- A tick that has no fault to report. -/
theorem tick_concludes {device : Device (Journaled ε)} (clear : device.fault = none) :
    Concludes device (tick device) := by
  rw [tick_apply clear]
  exact ((reconcile_asks device).concludes rfl).bind fun reconciled =>
    (eraseWhenDown_concludes reconciled).bind saveRanking_concludes

theorem start_concludes (device : Device (Journaled ε)) : Concludes device (start device) := by
  have read : Answered device.env device.restored.pruned.forSequence.env := by
    have noted : device.restored.env.calls = device.env.calls ++ [.read Ranking.Record.key
        (RecordStore.read Ranking.Record.key Ranking.Record.room device.env).1] := by
      rw [device.env_restored]
      rfl
    rw [(Describes.sequence device.restored.pruned).env]
    exact .single noted rfl
  have recorded : device.restored.pruned.forSequence.fault = device.fault := by
    generalize described : device.restored.pruned.forSequence = opened
    have describes := Describes.sequence device.restored.pruned
    rw [described] at describes
    cases describes
    rfl
  rw [start_apply]
  exact ((putInForce_concludes _).bind saveRanking_concludes).after read recorded

end Concludes

end BondedMouse
