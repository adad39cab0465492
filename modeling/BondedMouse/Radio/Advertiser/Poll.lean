import BondedMouse.Radio.Advertiser.Basic

/-! # Polls of the advertiser

A poll lets the advertiser run until it has to wait.  Commands and outcomes are used
up, and between two of them the task passes its states in one direction; `fuel_step?`
says so, and bounds the moves of a poll.
-/

namespace BondedMouse

namespace Advertiser

/-- How far a state is from waiting when neither command nor outcome is left. -/
def rank (clock : Nat) : Advertiser → Nat
  | .connecting _ _ => 10
  | .holding _ none => 8
  | .holding _ (some deadline) => if deadline ≤ clock then 9 else 7
  | .closing _ => 6
  | .ready (some _) => 5
  | .advertising _ _ false => 4
  | .advertising _ _ true => 3
  | .announcing _ => 3
  | .ready none => 2

/-- A bound on the moves of a poll. -/
def fuel (unit : RadioUnit) (task : Advertiser) : Nat :=
  11 * (unit.commands.items.length + unit.board.outcomes.length) + task.rank unit.board.clock

theorem fuel_report? {unit next : RadioUnit} {event : RadioEvent} {task after result : Advertiser}
    (h : report? unit event after = some (next, result))
    (lower : after.rank unit.board.clock < task.rank unit.board.clock) :
    fuel next result < fuel unit task := by
  simp only [report?, Option.map_eq_some_iff, Prod.mk.injEq] at h
  obtain ⟨events, _, rfl, rfl⟩ := h
  simpa [fuel] using lower

theorem fuel_take (unit : RadioUnit) (window : Window) (outcome : Outcome) :
    fuel (take unit window outcome).1 (take unit window outcome).2 ≤
      11 * (unit.commands.items.length + unit.board.outcomes.length) + 10 := by
  cases outcome with
  | connected address handle => cases handle <;> simp [take, fuel, rank]
  | timeout | noFreeLink | failed => simp [take, fuel, rank]

theorem fuel_stepWindow? {unit next : RadioUnit} {profile : Profile} {window : Window}
    {started : Bool} {result : Advertiser}
    (h : stepWindow? unit profile window started = some (next, result)) :
    fuel next result < fuel unit (.advertising profile window started) := by
  unfold stepWindow? at h
  split at h
  · next command commands received =>
    have shorter := Channel.length_of_receive? received
    obtain ⟨rfl, rfl⟩ := Prod.mk.inj (Option.some.inj h)
    cases started <;> simp [fuel, rank, Board.note] <;> omega
  · cases started with
    | true =>
      simp only [if_true] at h
      split at h
      · cases h
      · next outcome outcomes rest =>
        have taken := fuel_take { unit with board := { unit.board with outcomes } } window outcome
        rw [Option.some.inj h] at taken
        simp only [fuel, rank, rest, List.length_cons] at taken ⊢
        omega
    | false =>
      obtain ⟨rfl, rfl⟩ := Prod.mk.inj (Option.some.inj h)
      simp [fuel, rank, Board.note]

theorem fuel_stepLink? {unit next : RadioUnit} {kept : Option AdvertiserCommand}
    {deadline : Option Nat} {result : Advertiser}
    (h : stepLink? unit kept deadline = some (next, result)) :
    fuel next result < fuel unit (.holding kept deadline) := by
  cases deadline with
  | none =>
    have later : ¬unit.board.clock + linkPoll ≤ unit.board.clock := by simp [linkPoll]
    simp only [stepLink?] at h
    split at h <;> obtain ⟨rfl, rfl⟩ := Prod.mk.inj (Option.some.inj h) <;>
      simp [fuel, rank, later]
  | some deadline =>
    simp only [stepLink?] at h
    split at h
    · next command commands received =>
      have shorter := Channel.length_of_receive? received
      obtain ⟨rfl, rfl⟩ := Prod.mk.inj (Option.some.inj h)
      simp only [fuel, rank]
      omega
    · split at h
      · next expired =>
        obtain ⟨rfl, rfl⟩ := Prod.mk.inj (Option.some.inj h)
        simp [fuel, rank, expired]
      · cases h

/-- Each move brings the task nearer to waiting. -/
theorem fuel_step? {unit next : RadioUnit} {task result : Advertiser}
    (h : step? unit task = some (next, result)) : fuel next result < fuel unit task := by
  match task with
  | .ready none =>
    simp only [step?, Option.map_eq_some_iff, Prod.mk.injEq] at h
    obtain ⟨⟨command, commands⟩, received, rfl, rfl⟩ := h
    have shorter := Channel.length_of_receive? received
    simp only [fuel, rank]
    omega
  | .ready (some .stop) =>
    obtain ⟨rfl, rfl⟩ := Prod.mk.inj (Option.some.inj h)
    simp [fuel, rank]
  | .ready (some (.start profile window)) =>
    obtain ⟨rfl, rfl⟩ := Prod.mk.inj (Option.some.inj h)
    simp [fuel, rank]
  | .advertising profile window started => exact fuel_stepWindow? h
  | .announcing window => exact fuel_report? h (by simp [rank])
  | .connecting peer handle => exact fuel_report? h (by simp [rank])
  | .holding kept deadline => exact fuel_stepLink? h
  | .closing kept => exact fuel_report? h (by cases kept <;> simp [rank])

/-- Lets the task run until it waits. -/
def poll (unit : RadioUnit) (task : Advertiser) : RadioUnit × Advertiser :=
  match _ : step? unit task with
  | none => (unit, task)
  | some (next, result) => poll next result
termination_by fuel unit task
decreasing_by exact fuel_step? ‹_›

end Advertiser

/-! ## The radio with its advertiser -/

/-- A radio unit and the advertiser that serves it. -/
structure Radio where
  unit : RadioUnit
  advertiser : Advertiser

namespace Radio

/-- The radio at power-up. -/
def new (board : Board) (reportHandle : Option UInt16) : Radio :=
  ⟨.new board reportHandle, .new⟩

def board (radio : Radio) : Board :=
  radio.unit.board

def setBoard (radio : Radio) (board : Board) : Radio :=
  { radio with unit := { radio.unit with board } }

/-- Polls the advertiser. -/
def poll (radio : Radio) : Radio :=
  let (unit, advertiser) := radio.advertiser.poll radio.unit
  ⟨unit, advertiser⟩

/-- One millisecond passes and the advertiser is polled. -/
def millisecond (radio : Radio) : Radio :=
  (radio.setBoard radio.board.advanceClock).poll

end Radio

end BondedMouse
