import BondedMouse.Proofs.Controller.Conclusions
import BondedMouse.Proofs.Controller.Twins

/-! # The tries to save a ranking

The journal shows each attempt to write a record, with the answer of the store.  An
operation makes one attempt at most, for the ranking that it leaves behind; `Tries` says
what the answer does to a change that waits to be saved, and to the count of tries.

The count belongs to the controller and not to a change.  It starts over when a ranking
is saved or given up, and at no other time.
-/

namespace BondedMouse

/-! ## Attempts in a journal -/

namespace Simulation

/-- An attempt to write a record, and the answer of the store. -/
structure Attempt where
  key : UInt16
  bytes : List UInt8
  answer : Except StorageError Unit

def Call.attempt? : Call → Option Attempt
  | .write key bytes answer => some ⟨key, bytes, answer⟩
  | .radio _ _ | .read _ _ | .reclaim _ => none

namespace Journaled

variable {ε : Type} {env middle last : Journaled ε} {attempts more : List Attempt}

/-- Behind what the first journal lists, the second lists these attempts among other calls. -/
def Attempts (env : Journaled ε) (attempts : List Attempt) (last : Journaled ε) : Prop :=
  ∃ calls, last.calls = env.calls ++ calls ∧ calls.filterMap Call.attempt? = attempts

namespace Attempts

theorem none (same : last.calls = env.calls) : Attempts env [] last := ⟨[], by simp [same]⟩

theorem single (call : Call) (noted : last.calls = env.calls ++ [call]) :
    Attempts env call.attempt?.toList last :=
  ⟨[call], noted, by cases call <;> rfl⟩

theorem trans (first : Attempts env attempts middle) (rest : Attempts middle more last) :
    Attempts env (attempts ++ more) last := by
  obtain ⟨calls, listed, rfl⟩ := first
  obtain ⟨others, listedMore, rfl⟩ := rest
  exact ⟨calls ++ others, by rw [listedMore, listed, List.append_assoc], List.filterMap_append⟩

end Attempts

end Journaled

end Simulation

open Simulation Journaled

/-- The attempt to save a ranking. -/
def Ranking.attempt (ranking : Ranking) (answer : Except StorageError Unit) : Attempt :=
  ⟨Record.key, ranking.encode, answer⟩

section Spares

variable {ε : Type} [RadioStack ε] {env last : Journaled ε}

theorem SparesRecords.requests (spares : SparesRecords env last) :
    ∃ calls, last.calls = env.calls ++ calls ∧ ∀ call ∈ calls, call.request? ≠ .none := by
  induction spares with
  | none => exact ⟨[], by simp⟩
  | @request last _ request ih =>
    obtain ⟨calls, listed, requests⟩ := ih
    refine ⟨calls ++ [.radio request (RadioStack.request request last.env).1], ?_, ?_⟩
    · rw [← List.append_assoc, ← listed]
      rfl
    · exact List.forall_mem_append.2 ⟨requests, by simp [Call.request?]⟩

theorem SparesRecords.attempts (spares : SparesRecords env last) : Attempts env [] last := by
  obtain ⟨calls, listed, requests⟩ := spares.requests
  refine ⟨calls, listed, List.filterMap_eq_nil_iff.2 fun call member => ?_⟩
  cases call with
  | write key bytes answer => exact absurd rfl (requests _ member)
  | radio | read | reclaim => rfl

/-- Without a call to the store there is no fault of the store. -/
theorem Concludes.spared {device : Device (Journaled ε)}
    {result : EStateM.Result Fault (Device (Journaled ε)) Unit}
    (concludes : Concludes device result)
    (spares : SparesRecords device.env (Controller.final result).env) (error : StorageError) :
    Controller.returned result ≠ .error (.storage error) := by
  cases concludes with
  | done answered recorded => simp [Controller.returned]
  | @failed fault last failed recorded =>
    intro returned
    obtain rfl : fault = .storage error := by simpa [Controller.returned] using returned
    obtain ⟨calls, call, listed, -, cause⟩ := failed
    obtain ⟨others, same, requests⟩ := spares.requests
    have all : others = calls ++ [call] := List.append_cancel_left (same.symm.trans listed)
    have request := requests call (by simp [all])
    obtain ⟨_, stack⟩ | ⟨store, _⟩ := Call.request?_of_fault? cause
    · cases stack
    · exact request store

end Spares

/-! ## What an operation does with a change -/

section Tries

variable {ε : Type}

/-- The attempts of an operation, and what becomes of a change that waits to be saved. -/
inductive Tries (device : Device ε) (attempts : List Attempt) (returned : Except Fault Unit)
    (after : Device ε) : Prop
  | none (nothing : attempts = []) (kept : device.unsaved = true → after.unsaved = true)
      (tries : after.saveTries = device.saveTries) (other : returned ≠ .error (.storage .busy))
  | written (attempted : attempts = [after.ranking.attempt (.ok ())]) (done : returned = .ok ())
      (saved : after.unsaved = false) (fresh : after.saveTries = 0)
  | waits (attempted : attempts = [after.ranking.attempt (.error .busy)]) (done : returned = .ok ())
      (unsaved : after.unsaved = true) (few : device.saveTries + 1 < storageTries)
      (more : after.saveTries = device.saveTries + 1)
  | givenUp (error : StorageError)
      (attempted : attempts = [after.ranking.attempt (.error error)])
      (failed : returned = .error (.storage error)) (dropped : after.unsaved = false)
      (fresh : after.saveTries = 0) (spent : error = .busy → storageTries ≤ device.saveTries + 1)

/-- The count is within the budget, and there is none while nothing waits to be saved. -/
structure Budgeted (device : Device ε) : Prop where
  few : device.saveTries < storageTries
  fresh : device.unsaved = false → device.saveTries = 0

theorem Tries.budgeted {device after : Device ε} {attempts : List Attempt}
    {returned : Except Fault Unit} (tries : Tries device attempts returned after)
    (budgeted : Budgeted device) : Budgeted after := by
  cases tries with
  | none nothing kept tries other =>
    refine ⟨by rw [tries]; exact budgeted.few, fun saved => ?_⟩
    rw [tries]
    exact budgeted.fresh (Bool.eq_false_iff.2 fun unsaved => by simp [kept unsaved] at saved)
  | written attempted done saved fresh => exact ⟨by simp [fresh, storageTries], fun _ => fresh⟩
  | waits attempted done unsaved few more => exact ⟨by rw [more]; exact few, by simp [unsaved]⟩
  | givenUp error attempted failed dropped fresh spent =>
    exact ⟨by simp [fresh, storageTries], fun _ => fresh⟩

open Controller

/-- The journal shows the attempts. -/
def Tried (device : Device (Journaled ε)) (returned : Except Fault Unit)
    (after : Device (Journaled ε)) : Prop :=
  ∃ attempts, Attempts device.env attempts after.env ∧ Tries device attempts returned after

/-- Nobody tried to save the ranking, and a change that waits still waits. -/
structure Untried (device after : Device (Journaled ε)) : Prop where
  attempts : Attempts device.env [] after.env
  kept : device.unsaved = true → after.unsaved = true
  tries : after.saveTries = device.saveTries

variable {device middle last : Device (Journaled ε)} {result : Except Fault Unit}

theorem Untried.tried (untried : Untried device last)
    (other : result ≠ .error (.storage .busy)) : Tried device result last :=
  ⟨[], untried.attempts, .none rfl untried.kept untried.tries other⟩

theorem Tried.after (tried : Tried middle result last) (untried : Untried device middle) :
    Tried device result last := by
  obtain ⟨attempts, shown, tries⟩ := tried
  refine ⟨attempts, untried.attempts.trans shown, ?_⟩
  cases tries with
  | none nothing kept tries other =>
    exact .none nothing (kept ∘ untried.kept) (tries.trans untried.tries) other
  | written attempted done saved fresh => exact .written attempted done saved fresh
  | waits attempted done unsaved few more =>
    rw [untried.tries] at few more
    exact .waits attempted done unsaved few more
  | givenUp error attempted failed dropped fresh spent =>
    rw [untried.tries] at spent
    exact .givenUp error attempted failed dropped fresh spent

/-- What an operation returns and leaves behind. -/
def TriedBy (device : Device (Journaled ε))
    (result : EStateM.Result Fault (Device (Journaled ε)) Unit) : Prop :=
  Tried device (returned result) (final result)

/-- A change that waits is tried, unless the stack refuses something first. -/
def Insists (device : Device (Journaled ε))
    (result : EStateM.Result Fault (Device (Journaled ε)) Unit) : Prop :=
  device.unsaved = true → (∀ error, returned result ≠ .error (.stack error)) →
    ∃ attempt, Attempts device.env [attempt] (final result).env

section Bind

variable {first rest : ControlM (Journaled ε) Unit}

theorem TriedBy.bind (untried : Untried device (final (first device)))
    (stack : ∀ fault last, first device = .error fault last → ∃ error, fault = .stack error)
    (continues : ∀ next, TriedBy next (rest next)) :
    TriedBy device ((first >>= fun _ => rest) device) := by
  rw [bind_apply]
  generalize first device = result at untried stack
  cases result with
  | ok value next => exact (continues next).after untried
  | error fault next =>
    obtain ⟨error, rfl⟩ := stack fault next rfl
    exact untried.tried (by simp [returned])

theorem Insists.bind (untried : Untried device (final (first device)))
    (stack : ∀ fault last, first device = .error fault last → ∃ error, fault = .stack error)
    (continues : ∀ next, Insists next (rest next)) :
    Insists device ((first >>= fun _ => rest) device) := by
  intro unsaved unrefused
  rw [bind_apply] at unrefused ⊢
  generalize first device = result at untried stack unrefused
  cases result with
  | ok value next =>
    obtain ⟨attempt, shown⟩ := continues next (untried.kept unsaved) unrefused
    exact ⟨attempt, untried.attempts.trans shown⟩
  | error fault next =>
    obtain ⟨error, rfl⟩ := stack fault next rfl
    exact absurd rfl (unrefused error)

end Bind

section Radio

variable [RadioStack ε] {result : EStateM.Result Fault (Device (Journaled ε)) Unit}

theorem Spares.untried (spares : Spares device last) : Untried device last :=
  ⟨spares.records.attempts, fun unsaved => spares.unsaved.trans unsaved, spares.saveTries⟩

theorem Spares.tried (spares : Spares device (final result)) (concludes : Concludes device result) :
    TriedBy device result :=
  spares.untried.tried (concludes.spared spares.records .busy)

theorem eraseWhenDown_untried (device : Device (Journaled ε)) :
    Untried device (final (eraseWhenDown device)) := by
  have erases := eraseWhenDown_erases device
  generalize eraseWhenDown device = result at erases
  cases erases with
  | spared keeps => exact (Spares.refl device).untried
  | refused pending down refuses => exact ⟨refuses.sparesRecords.attempts, id, rfl⟩
  | erased pending down answers => exact ⟨answers.sparesRecords.attempts, fun _ => rfl, rfl⟩

theorem eraseWhenDown_error (device : Device (Journaled ε)) (fault : Fault)
    (last : Device (Journaled ε)) (failed : eraseWhenDown device = .error fault last) :
    ∃ error, fault = .stack error := by
  have erases := eraseWhenDown_erases device
  rw [failed] at erases
  cases erases with
  | refused pending down refuses => exact ⟨_, rfl⟩

theorem reconcile_error (device : Device (Journaled ε)) (fault : Fault)
    (last : Device (Journaled ε)) (failed : reconcile device = .error fault last) :
    ∃ error, fault = .stack error := by
  have asks := reconcile_asks device
  rw [failed] at asks
  exact asks.error

end Radio

variable [RecordStore ε]

theorem saveRanking_tried (device : Device (Journaled ε)) :
    TriedBy device (saveRanking device) ∧ Insists device (saveRanking device) := by
  have written : Attempts device.env
      [device.ranking.attempt (device.ranking.persist device.env).1]
      (device.ranking.persist device.env).2 :=
    Attempts.single (.write Ranking.Record.key device.ranking.encode _) rfl
  have flushes := saveRanking_flushes device
  generalize saveRanking device = result at flushes
  cases flushes with
  | clean saved =>
    have nothing : Untried device device := ⟨.none rfl, id, rfl⟩
    exact ⟨nothing.tried (by simp [returned]), fun unsaved => by simp [saved] at unsaved⟩
  | written unsaved done =>
    rw [done] at written
    exact ⟨⟨_, written, .written rfl rfl rfl rfl⟩, fun _ _ => ⟨_, written⟩⟩
  | waits unsaved busy few =>
    rw [busy] at written
    exact ⟨⟨_, written, .waits rfl rfl unsaved few rfl⟩, fun _ _ => ⟨_, written⟩⟩
  | @givenUp error unsaved failed spent =>
    rw [failed] at written
    exact ⟨⟨_, written, .givenUp error rfl rfl rfl rfl spent⟩, fun _ _ => ⟨_, written⟩⟩

theorem onBonded_tried (peer : PeerId) (device : Device (Journaled ε)) :
    TriedBy device (onBonded peer device) := by
  have nothing : ∀ after : Device (Journaled ε), after.env = device.env →
      after.unsaved = device.unsaved → after.saveTries = device.saveTries →
      TriedBy device (.ok () after) := fun after stays unsaved tries =>
    Untried.tried ⟨.none (by simp [final, stays]), unsaved.trans, tries⟩ (by simp [returned])
  rw [onBonded_apply]
  split
  · dsimp only
    split
    · -- The change is counted with the tries that were made before it.
      exact (saveRanking_tried _).1.after ⟨.none rfl, fun _ => rfl, rfl⟩
    · exact nothing _ rfl rfl rfl
  · exact nothing _ rfl rfl rfl
  · exact nothing _ rfl rfl rfl

theorem onStorageFull_tried (device : Device (Journaled ε)) :
    TriedBy device (onStorageFull device) := by
  have reclaimed : Untried device { device with env := (RecordStore.reclaim device.env).2 } :=
    ⟨Attempts.single (.reclaim _) rfl, id, rfl⟩
  unfold onStorageFull
  dsimp only
  split
  · exact reclaimed.tried (by simp [returned])
  · exact reclaimed.tried (by simp [returned])
  · next error busy failed => exact reclaimed.tried (by simpa [returned] using busy)

variable [RadioStack ε]

theorem onEvent_tried (event : RadioEvent) (device : Device (Journaled ε)) :
    TriedBy device (onEvent event device) := by
  cases event with
  | connected peer handle =>
    exact (onConnected_spares peer handle device).tried (onConnected_concludes peer handle device)
  | disconnected => exact (onDisconnected_spares device).tried (onDisconnected_concludes device)
  | bonded peer => exact onBonded_tried peer device
  | timedOut window =>
    exact (onTimedOut_spares window device).tried (onTimedOut_concludes window device)
  | storageFull => exact onStorageFull_tried device
  | bondsErased => exact (startSequence_spares device).tried (startSequence_concludes device)

theorem tick_tried {device : Device (Journaled ε)}
    (foreign : ∀ error, device.fault ≠ some (.storage error)) : TriedBy device (tick device) := by
  cases recorded : device.fault with
  | some fault =>
    rw [tick_fault recorded]
    have nothing : Untried device { device with fault := none } := ⟨.none rfl, id, rfl⟩
    exact nothing.tried (by simpa [returned, recorded] using foreign .busy)
  | none =>
    rw [tick_apply recorded]
    exact .bind (reconcile_spares device).untried (reconcile_error device) fun next =>
      .bind (eraseWhenDown_untried next) (eraseWhenDown_error next) fun erased =>
        (saveRanking_tried erased).1

theorem tick_insists {device : Device (Journaled ε)} (clear : device.fault = none) :
    Insists device (tick device) := by
  rw [tick_apply clear]
  exact .bind (reconcile_spares device).untried (reconcile_error device) fun next =>
    .bind (eraseWhenDown_untried next) (eraseWhenDown_error next) fun erased =>
      (saveRanking_tried erased).2

theorem start_tried (device : Device (Journaled ε)) : TriedBy device (start device) := by
  have pruned : Untried device device.restored.pruned := by
    refine ⟨Attempts.single (.read _ _) (congrArg Journaled.calls (Device.env_restored device)),
      fun unsaved => ?_, rfl⟩
    have kept : device.restored.unsaved = true := unsaved
    simp [Device.pruned, kept]
  have described := ((Spares.refl _).describes (.sequence device.restored.pruned)).untried
  rw [start_apply]
  refine Tried.after (Tried.after (TriedBy.bind (putInForce_spares _).untried ?_ fun opened =>
    (saveRanking_tried opened).1) described) pruned
  intro fault last failed
  have asks := putInForce_asks device.restored.pruned.forSequence
  rw [failed] at asks
  exact asks.error

end Tries

end BondedMouse
