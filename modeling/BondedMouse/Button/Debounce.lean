import BondedMouse.Button.Press
import BondedMouse.Channel
import BondedMouse.Firmware.Board

/-! # The button task

Each button has a task that waits for the pin to go low, looks again after the
debounce time, measures how long the button is held, reports the press and waits for
the release.  An edge counts only if both its levels are seen while it is waited for.
-/

namespace BondedMouse

/-- Where a button's task waits: for an edge, for the contact to settle, for the release or the
deadline of a long press, or for room for a press. -/
inductive ButtonState
  | unstarted
  | falling (seenHigh : Bool)
  | settling (deadline : Nat)
  | measuring (seenLow : Bool) (deadline : Nat)
  | sending (length : PressLength)
  | releasing (seenLow : Bool)
  | resting (deadline : Nat)
  deriving DecidableEq, Repr

structure ButtonTask where
  button : Button
  pin : Nat
  state : ButtonState
  deriving DecidableEq, Repr

namespace ButtonTask

/-- How long a contact takes to settle, in milliseconds. -/
def debounce : Nat := 50

/-- How long a button is held for a long press, in milliseconds. -/
def longPress : Nat := 1000

def new (button : Button) (pin : Nat) : ButtonTask := ⟨button, pin, .unstarted⟩

/-- The hardware and the channel of presses that the task sees. -/
structure Surroundings where
  board : Board
  presses : Channel Press 4

/-- One move of the task at the given level and time; `none` where it waits. -/
def next? (low : Bool) (clock : Nat) : ButtonState → Option ButtonState
  | .unstarted => some (.falling false)
  | .falling seenHigh =>
    if low then if seenHigh then some (.settling (clock + debounce)) else none
    else if seenHigh then none else some (.falling true)
  | .settling deadline =>
    if deadline ≤ clock then
      some (if low then .measuring false (clock + (longPress - debounce)) else .falling false)
    else
      none
  | .measuring seenLow deadline =>
    if !low && seenLow then some (.sending .short)
    else if low && !seenLow then some (.measuring true deadline)
    else if deadline ≤ clock then some (.sending .long)
    else none
  | .sending _ => some (if low then .releasing false else .resting (clock + debounce))
  | .releasing seenLow =>
    if low then if seenLow then none else some (.releasing true)
    else if seenLow then some (.resting (clock + debounce)) else none
  | .resting deadline => if deadline ≤ clock then some (.falling false) else none

/-- What a move does besides: the pin is set up, or the press is sent; `none` if there is no room
for it. -/
def effect? (task : ButtonTask) (surroundings : Surroundings) : Option Surroundings :=
  match task.state with
  | .unstarted =>
    some { surroundings with board := surroundings.board.note (.inputPin task.pin) }
  | .sending length =>
    (surroundings.presses.send? ⟨task.button, length⟩).map fun presses =>
      { surroundings with presses }
  | _ => some surroundings

def step? (surroundings : Surroundings) (task : ButtonTask) :
    Option (Surroundings × ButtonTask) := do
  let after ← task.effect? surroundings
  let state ← next? (surroundings.board.isLow task.pin) surroundings.board.clock task.state
  return (after, { task with state })

/-! ## Polls

At one time and level the task passes its states in one direction, which bounds the
moves of a poll. -/

/-- How far a state is from waiting. -/
def rank (clock : Nat) : ButtonState → Nat
  | .unstarted => 9
  | .settling deadline => if deadline ≤ clock then 8 else 0
  | .measuring false _ => 7
  | .measuring true _ => 6
  | .sending _ => 5
  | .releasing false => 4
  | .releasing true => 3
  | .resting deadline => if deadline ≤ clock then 3 else 0
  | .falling false => 2
  | .falling true => 1

theorem rank_next? {low : Bool} {clock : Nat} {state result : ButtonState}
    (h : next? low clock state = some result) : rank clock result < rank clock state := by
  cases state with
  | unstarted => grind [next?, rank]
  | falling seenHigh => grind [next?, rank, debounce]
  | settling deadline => grind [next?, rank]
  | measuring seenLow deadline => cases seenLow <;> grind [next?, rank]
  | sending length => grind [next?, rank, debounce]
  | releasing seenLow => cases seenLow <;> grind [next?, rank, debounce]
  | resting deadline => grind [next?, rank]

theorem clock_effect? {surroundings after : Surroundings} {task : ButtonTask}
    (h : task.effect? surroundings = some after) :
    after.board.clock = surroundings.board.clock := by
  unfold effect? at h
  split at h
  · obtain rfl := Option.some.inj h; rfl
  · obtain ⟨presses, _, rfl⟩ := Option.map_eq_some_iff.1 h; rfl
  · obtain rfl := Option.some.inj h; rfl

/-- Each move brings the task nearer to waiting. -/
theorem rank_step? {surroundings after : Surroundings} {task result : ButtonTask}
    (h : step? surroundings task = some (after, result)) :
    rank after.board.clock result.state < rank surroundings.board.clock task.state := by
  simp only [step?, Option.bind_eq_bind, Option.bind_eq_some_iff, Option.pure_def,
    Option.some.injEq, Prod.mk.injEq] at h
  obtain ⟨_, effected, state, moved, rfl, rfl⟩ := h
  rw [clock_effect? effected]
  exact rank_next? moved

/-- Lets the task run until it waits. -/
def poll (surroundings : Surroundings) (task : ButtonTask) : Surroundings × ButtonTask :=
  match _ : step? surroundings task with
  | none => (surroundings, task)
  | some (after, result) => poll after result
termination_by rank surroundings.board.clock task.state
decreasing_by exact rank_step? ‹_›

/-! ## A button by itself -/

/-- A button's task with its surroundings and the times at which it sent a press. -/
structure Trial where
  surroundings : Surroundings
  task : ButtonTask
  sent : List Nat

namespace Trial

def new (button : Button) (pin : Nat) : Trial := ⟨⟨.powerOff, .empty⟩, .new button pin, []⟩

def board (trial : Trial) : Board :=
  trial.surroundings.board

def setBoard (trial : Trial) (board : Board) : Trial :=
  { trial with surroundings := { trial.surroundings with board } }

def poll (trial : Trial) : Trial :=
  let (surroundings, task) := trial.task.poll trial.surroundings
  { trial with surroundings, task }

/-- One millisecond passes and the task is polled; the time is noted if it sent a press. -/
def millisecond (trial : Trial) : Trial :=
  let polled := (trial.setBoard trial.board.advanceClock).poll
  if trial.surroundings.presses.items.length < polled.surroundings.presses.items.length then
    { polled with sent := polled.sent ++ [polled.board.clock] }
  else
    polled

end Trial

end ButtonTask

end BondedMouse
