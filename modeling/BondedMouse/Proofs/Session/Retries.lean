import BondedMouse.Proofs.Controller.Tries
import BondedMouse.Proofs.Session.Faults

/-! # How often a change of the ranking is tried

A change that finds the store busy waits, and each tick tries again.  The count of tries
is the controller's: a change that is made while an earlier one waits finds the tries of
that one spent.  So a change has as many tries as the count leaves it, the full number
exactly if no busy store stood in the way of the ranking before it; what is left is used
up in full before the change is given up for a busy store.
-/

namespace BondedMouse

open Simulation Journaled

section Runs

variable {ε : Type} [RadioStack ε] [RecordStore ε]

namespace Session

/-- The attempts of a move to write a record. -/
def attempts (session : Session (Journaled ε)) : Move (Journaled ε) → List Attempt
  | .operation operation => (session.callsOf operation).filterMap Call.attempt?
  | .outside _ => []

def attemptsAlong (session : Session (Journaled ε)) : List (Move (Journaled ε)) → List Attempt
  | [] => []
  | move :: moves => session.attempts move ++ (session.moved move).2.attemptsAlong moves

/-- A move does with a change what its attempts say. -/
def Retries (session : Session (Journaled ε)) (move : Move (Journaled ε)) : Prop :=
  Tries session.device (session.attempts move) (session.moved move).1 (session.moved move).2.device

omit [RadioStack ε] [RecordStore ε] in
theorem control_returned (program : ControlM ε Unit) (session : Session ε) :
    (session.control program).1 = Controller.returned (program session.device) := by
  rw [control_apply]
  cases program session.device <;> rfl

variable {session : Session (Journaled ε)} {operation : Operation}

theorem attempts_eq {attempts : List Attempt}
    (shown : session.device.env.Attempts attempts (session.perform operation).2.device.env) :
    session.attempts (.operation operation) = attempts := by
  obtain ⟨calls, listed, rfl⟩ := shown
  rw [Session.attempts, callsOf_eq listed]

theorem retries_of_tried
    (tried : Tried session.device (session.perform operation).1
      (session.perform operation).2.device) : session.Retries (.operation operation) := by
  obtain ⟨attempts, shown, tries⟩ := tried
  rw [← attempts_eq shown] at tries
  exact tries

theorem retries_of_triedBy {program : ControlM (Journaled ε) Unit}
    (performs : session.perform operation = session.control program)
    (tried : TriedBy session.device (program session.device)) :
    session.Retries (.operation operation) := by
  apply retries_of_tried
  rw [performs, control_returned, control_device]
  exact tried

theorem moved_retries (wired : session.Wired)
    (stack : ∀ error, session.device.fault ≠ some (.storage error)) (move : Move (Journaled ε)) :
    session.Retries move := by
  cases move with
  | outside env => exact .none rfl id rfl (by simp [moved])
  | operation operation =>
    cases operation with
    | start => exact retries_of_triedBy rfl (start_tried _)
    | startSequence =>
      exact retries_of_triedBy rfl ((startSequence_spares _).tried (startSequence_concludes _))
    | setMode mode target =>
      exact retries_of_triedBy rfl
        ((setMode_spares mode target _).tried (setMode_concludes mode target _))
    | event event => exact retries_of_triedBy rfl (onEvent_tried event _)
    | request request =>
      exact retries_of_triedBy rfl
        ((onRequest_spares request _).tried (onRequest_concludes request _))
    | tick => exact retries_of_triedBy rfl (tick_tried stack)
    | scanTimeout =>
      have spares := (Controller.onScanTimer_rings session.device).spares
      exact retries_of_tried (spares.untried.tried (by simp [perform]))
    | timerStep =>
      exact retries_of_tried ((timerStep_spares wired).untried.tried (by simp [perform]))
    | timerTick => exact retries_of_tried (Untried.tried ⟨.none rfl, id, rfl⟩ (by simp [perform]))

/-- What a session keeps from power-up on. -/
structure Thrifty (session : Session (Journaled ε)) : Prop where
  wired : session.Wired
  stack : ∀ error, session.device.fault ≠ some (.storage error)
  budgeted : Budgeted session.device

namespace Thrifty

omit [RecordStore ε] in
theorem powerUp {ranking : Ranking} {env : Journaled ε} {reserved : Nat}
    {started : Session (Journaled ε)}
    (powered : Session.powerUp ranking env reserved = .ok started) : started.Thrifty := by
  obtain ⟨wired, scanTimer, timers, device⟩ := powerUp_eq_ok powered
  refine ⟨wired, fun error => ?_, ?_⟩
  · simp [device, Controller.idle]
  · rw [device]
    exact ⟨by simp [Controller.idle, storageTries], fun _ => rfl⟩

theorem moved (thrifty : session.Thrifty) (move : Move (Journaled ε)) :
    (session.moved move).2.Thrifty where
  wired := thrifty.wired.moved move
  stack := stack_of_fault_moved thrifty.wired move thrifty.stack
  budgeted := (moved_retries thrifty.wired thrifty.stack move).budgeted thrifty.budgeted

theorem after (thrifty : session.Thrifty) (moves : List (Move (Journaled ε))) :
    (session.after moves).Thrifty := by
  induction moves generalizing session with
  | nil => exact thrifty
  | cons move moves ih => exact ih (thrifty.moved move)

end Thrifty

/-- The ranking waits to be saved. -/
structure Awaits (session : Session (Journaled ε)) (ranking : Ranking) : Prop where
  ranking : session.device.ranking = ranking
  unsaved : session.device.unsaved = true

/-- A ranking that waits until it is given up for a busy store has used up the tries that the
count left it. -/
theorem attemptsAlong_of_givenUp (thrifty : session.Thrifty) {ranking : Ranking}
    {during : List (Move (Journaled ε))} {move : Move (Journaled ε)}
    (awaits : ∀ before, before <+: during → before ≠ [] → (session.after before).Awaits ranking)
    (dropped : ((session.after during).moved move).1 = .error (.storage .busy))
    (same : ((session.after during).moved move).2.device.ranking = ranking) :
    session.attemptsAlong (during ++ [move]) =
      List.replicate (storageTries - session.device.saveTries) (ranking.attempt (.error .busy)) := by
  -- Each move either makes no try or counts one, so the count and the tries left go together.
  induction during generalizing session with
  | nil =>
    have few := thrifty.budgeted.few
    replace same : (session.moved move).2.device.ranking = ranking := same
    have retries := moved_retries thrifty.wired thrifty.stack move
    cases retries with
    | none nothing kept tries other => exact absurd dropped other
    | written attempted done saved fresh => cases done.symm.trans dropped
    | waits attempted done unsaved few more => cases done.symm.trans dropped
    | givenUp error attempted failed _ fresh spent =>
      obtain rfl : error = .busy := by
        have returned := failed.symm.trans dropped
        simpa using returned
      have one : storageTries - session.device.saveTries = 1 := by
        have := spent rfl
        omega
      rw [same] at attempted
      simp [attemptsAlong, attempted, one]
  | cons first during ih =>
    have waits : (session.moved first).2.Awaits ranking := awaits [first] (by simp) (by simp)
    have rest := ih (thrifty.moved first)
      (fun before begins some => awaits (first :: before) (by simpa using begins) (by simp))
      dropped same
    rw [List.cons_append, attemptsAlong, rest]
    have retries := moved_retries thrifty.wired thrifty.stack first
    cases retries with
    | none nothing kept tries other => rw [nothing, tries, List.nil_append]
    | written attempted done saved fresh => simp [waits.unsaved] at saved
    | waits attempted done unsaved few more =>
      have left : storageTries - session.device.saveTries =
          storageTries - (session.device.saveTries + 1) + 1 := by omega
      rw [attempted, waits.ranking, more, left, List.replicate_succ]
      rfl
    | givenUp error attempted failed dropped fresh spent => simp [waits.unsaved] at dropped

/-- A change that waits is tried by the next tick that the stack refuses nothing. -/
theorem attempts_tick_ne_nil (unsaved : session.device.unsaved = true)
    (clear : session.device.fault = none)
    (unrefused : ∀ error, (session.perform .tick).1 ≠ .error (.stack error)) :
    session.attempts (.operation .tick) ≠ [] := by
  rw [perform, control_returned] at unrefused
  obtain ⟨attempt, shown⟩ := tick_insists clear unsaved unrefused
  rw [← control_device] at shown
  rw [attempts_eq shown]
  simp

end Session

/-- Of a ranking that waits to be saved, each operation makes one attempt at most, and does with
it as the answer says: a failure is reported at once, only a busy store is tried again, by the next
tick.  Before a ranking is given up for a busy store it has been tried as often as the count left
when it came up: the full number of times if the ranking before it was saved, and less often if
that one had found the store busy. -/
theorem change_gets_the_tries_left {ranking : Ranking} {env : Journaled ε} {reserved : Nat}
    {started : Session (Journaled ε)}
    (powered : Session.powerUp ranking env reserved = .ok started)
    (moves : List (Move (Journaled ε))) :
    let session := started.after moves
    Budgeted session.device ∧ (∀ move, session.Retries move) ∧
    (session.device.unsaved = true → session.device.fault = none →
      (∀ error, (session.perform .tick).1 ≠ .error (.stack error)) →
      session.attempts (.operation .tick) ≠ []) ∧
    (∀ during move (content : Ranking),
      (∀ before, before <+: during → before ≠ [] → (session.after before).Awaits content) →
      ((session.after during).moved move).1 = .error (.storage .busy) →
      ((session.after during).moved move).2.device.ranking = content →
      session.attemptsAlong (during ++ [move]) =
        List.replicate (storageTries - session.device.saveTries)
          (content.attempt (.error .busy))) := by
  have thrifty := (Session.Thrifty.powerUp powered).after moves
  exact ⟨thrifty.budgeted, Session.moved_retries thrifty.wired thrifty.stack,
    Session.attempts_tick_ne_nil, fun during move content awaits dropped same =>
      Session.attemptsAlong_of_givenUp thrifty awaits dropped same⟩

end Runs

section Bench

deriving instance DecidableEq for Attempt

/-- A session on a platform that is busy for three writes. -/
def busySession : Session (Journaled Platform) :=
  .fresh .empty (.new { Platform.new [] .empty with failures := { busyWrites := 3 } })

/-- A central connects to the pairing window. -/
def busyMoves : List (Move (Journaled Platform)) :=
  [.operation .start, .operation (.event (.connected none ⟨7⟩))]

/-- A bond that finds the store busy is tried by two more ticks. -/
theorem change_given_up_after_all_tries :
    let session := busySession.after busyMoves
    let during : List (Move (Journaled Platform)) :=
      [.operation (.event (.bonded nearPeer)), .operation .tick]
    ((session.after during).perform .tick).1 = .error (.storage .busy) ∧
    session.attemptsAlong (during ++ [.operation .tick]) =
      List.replicate storageTries ((Ranking.ofList [nearPeer]).attempt (.error .busy)) := by
  intro session during
  have powered : Session.powerUp _ _ 0 = .ok busySession := Session.powerUp_fresh _ _
  have dropped : ((session.after during).perform .tick).1 = .error (.storage .busy) := by
    decide +kernel
  have awaits : ∀ before, before <+: during → before ≠ [] →
      (session.after before).Awaits (.ofList [nearPeer]) := by
    intro before begins some
    simp only [during, List.prefix_cons_iff, List.prefix_nil] at begins
    obtain rfl | ⟨_, rfl, rfl | ⟨_, rfl, rfl⟩⟩ := begins
    · exact absurd rfl some
    · exact ⟨by decide +kernel, by decide +kernel⟩
    · exact ⟨by decide +kernel, by decide +kernel⟩
  have tried := (change_gets_the_tries_left powered busyMoves).2.2.2 during (.operation .tick) _
    awaits dropped (by decide +kernel)
  exact ⟨dropped, tried⟩

/-- A second central that bonds in between is tried once: the tries of the first are counted. -/
theorem second_change_finds_tries_spent :
    let bonds : List (Move (Journaled Platform)) :=
      [.operation (.event (.bonded nearPeer)), .operation .tick]
    let session := busySession.after (busyMoves ++ bonds)
    let second : Operation := .event (.bonded farPeer)
    (session.perform second).1 = .error (.storage .busy) ∧
    (session.perform second).2.device.unsaved = false ∧
    (session.perform second).2.device.ranking = .ofList [farPeer, nearPeer] ∧
    busySession.attemptsAlong (busyMoves ++ bonds ++ [.operation second]) =
      [(Ranking.ofList [nearPeer]).attempt (.error .busy),
        (Ranking.ofList [nearPeer]).attempt (.error .busy),
        (Ranking.ofList [farPeer, nearPeer]).attempt (.error .busy)] :=
  ⟨by decide +kernel, by decide +kernel, by decide +kernel, by decide +kernel⟩

end Bench

end BondedMouse
