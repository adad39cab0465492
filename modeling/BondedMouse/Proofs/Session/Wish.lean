import BondedMouse.Proofs.Session.Passes

/-! # The wish to advertise

A device without a link and without the wish to advertise is out of reach until somebody
presses a button.  Two things bring it there: the pairing window ran out, or the user
let go of a link.  Everything else that ends a link or a window leaves the wish behind,
and the next tick follows it.
-/

namespace BondedMouse

variable {ε : Type}

/-- A device that keeps no link wants to advertise, unless it rests or the user let go. -/
def Seeks (letGo : Prop) (device : Device ε) : Prop :=
  (∀ handle, device.link ≠ .up handle) → device.wanted = false → device.mode = .idle ∨ letGo

namespace Seeks

variable {letGo still : Prop} {device after : Device ε}

theorem of_wanted (wanted : after.wanted = true) : Seeks letGo after := by
  intro _ unwanted
  simp [wanted] at unwanted

/-- The window goes on, and with it what the user did in it. -/
theorem keep (seeks : Seeks letGo device) (wish : KeepsWish device after)
    (mode : after.mode = device.mode) (stays : letGo → still) : Seeks still after := by
  intro unlinked unwanted
  obtain ⟨handle, up⟩ | ⟨free, same⟩ := wish
  · exact absurd up (unlinked handle)
  · rw [mode]
    exact (seeks free (same.symm.trans unwanted)).imp_right stays

theorem course [RadioStack ε] (seeks : Seeks letGo device) (course : Course device True after)
    (stays : after.window = device.window → letGo → still) : Seeks still after := by
  cases course with
  | stays same wish => exact seeks.keep (wish trivial) same.mode (stays same.window)
  | noted scans peer same wish => exact seeks.keep (wish trivial) same.mode (stays same.window)
  | opened follows same wish =>
    obtain idle | wanted := wish trivial
    · exact fun _ _ => .inl idle
    · exact .of_wanted wanted

end Seeks

section Runs

variable [RadioStack ε] [RecordStore ε]

/-- Moves of the firmware, the stack refusing nothing. -/
inductive CleanMoves (started : Session ε) : List (Move ε) → Prop
  | none : CleanMoves started []
  | move {moves : List (Move ε)} (clean : CleanMoves started moves) {move : Move ε}
      (regular : move.Regular) (untroubled : (started.after moves).Untroubled move) :
      CleanMoves started (moves ++ [move])

/-- At the user's request a kept link began to close, and the mode was not changed since. -/
inductive LetGo (started : Session ε) : List (Move ε) → Prop
  | here {moves : List (Move ε)} {handle : LinkHandle}
      (up : (started.after moves).device.link = .up handle)
      (closing : (started.after (moves ++ [.operation (.request .disconnect)])).device.link =
        .closing handle) :
      LetGo started (moves ++ [.operation (.request .disconnect)])
  | still {moves : List (Move ε)} {move : Move ε} (letGo : LetGo started moves)
      (stays : (started.after (moves ++ [move])).device.window =
        (started.after moves).device.window) :
      LetGo started (moves ++ [move])

theorem Session.after_concat (started : Session ε) (moves : List (Move ε)) (move : Move ε) :
    started.after (moves ++ [move]) = ((started.after moves).moved move).2 := by
  simp [Session.after]

theorem LetGo.requested {started : Session ε} {moves : List (Move ε)} (letGo : LetGo started moves) :
    .operation (.request .disconnect) ∈ moves := by
  induction letGo with
  | here up closing => simp
  | still letGo stays ih => simp [ih]

theorem CleanMoves.run {started : Session ε} {moves : List (Move ε)}
    (clean : CleanMoves started moves) : CleanRun started (started.after moves) := by
  induction clean with
  | none => exact .start
  | move clean regular untroubled ih =>
    rw [Session.after_concat]
    exact .move ih _ untroubled

/-- A move that succeeds, and leaves no fault behind, is clean. -/
theorem CleanMoves.granted {started : Session ε} {moves : List (Move ε)}
    (clean : CleanMoves started moves) (move : Move ε) (regular : move.Regular)
    (returned : ((started.after moves).moved move).1 = .ok ())
    (clear : ((started.after moves).moved move).2.device.fault = .none) :
    CleanMoves started (moves ++ [move]) :=
  clean.move regular ⟨by simp [returned], by simp [clear]⟩

theorem Seeks.moved {started : Session ε} {moves : List (Move ε)} {move : Move ε}
    (seeks : Seeks (LetGo started moves) (started.after moves).device)
    (wired : (started.after moves).Wired) (regular : move.Regular)
    (untroubled : (started.after moves).Untroubled move) :
    Seeks (LetGo started (moves ++ [move])) (started.after (moves ++ [move])).device := by
  have goes := (Session.moved_goes wired regular).mono fun _ : True => untroubled
  rw [← Session.after_concat] at goes
  have stays : (started.after (moves ++ [move])).device.window = (started.after moves).device.window →
      LetGo started moves → LetGo started (moves ++ [move]) := fun same letGo => .still letGo same
  cases goes with
  | on course => exact seeks.course course stays
  | @clocked before timers rung timed course ends =>
    have waiting : Seeks (LetGo started moves)
      { (started.after moves).device with timers := before } := seeks
    rw [ends] at stays ⊢
    have rings : Seeks (LetGo started (moves ++ [move])) rung := waiting.course course stays
    exact rings
  | turned expires mode phase same wish => exact .of_wanted (wish trivial)
  | restarted resets restarts =>
    obtain ⟨same, opened, wish⟩ := restarts
    exact .of_wanted (wish trivial)
  | released request up same closing =>
    subst request
    exact fun _ _ => .inr (.here up (closing trivial))

theorem CleanMoves.seeks {started : Session ε} (wired : started.Wired)
    (idle : started.device.mode = .idle) {moves : List (Move ε)}
    (clean : CleanMoves started moves) :
    Seeks (LetGo started moves) (started.after moves).device := by
  induction clean with
  | none => exact fun _ _ => .inl idle
  | move clean regular untroubled ih => exact ih.moved (wired.after _) regular untroubled

/-- In a run in which the stack refuses nothing, a device without a link and without the wish to
advertise is at rest, or the user let go of its last link.  Whatever else ended a link or a window,
the device wants to advertise, and does so behind the next tick. -/
theorem silent_only_at_rest_or_let_go {ranking : Ranking} {env : ε} {reserved : Nat}
    {started : Session ε} (powered : Session.powerUp ranking env reserved = .ok started)
    {moves : List (Move ε)} (clean : CleanMoves started moves) :
    let session := started.after moves
    (session.device.link = .down → session.device.wanted = false →
      session.device.mode = .idle ∨ LetGo started moves) ∧
    (session.device.mode ≠ .idle → ¬LetGo started moves →
      ((∀ handle, session.device.link ≠ .up handle) → session.device.wanted = true) ∧
      (session.device.link = .down →
        (∀ error, (session.perform .tick).1 ≠ .error (.stack error)) →
          (session.perform .tick).2.device.running = true)) := by
  obtain ⟨wired, scanTimer, timers, device⟩ := Session.powerUp_eq_ok powered
  have seeks := clean.seeks wired (by rw [device]; rfl)
  have calm := clean.run.calm .trivial wired (.powerUp powered trivial)
  intro session
  have wants : session.device.mode ≠ .idle → ¬LetGo started moves →
      (∀ handle, session.device.link ≠ .up handle) → session.device.wanted = true := by
    intro active kept unlinked
    cases wanted : session.device.wanted with
    | true => rfl
    | false => exact (seeks unlinked wanted).elim (absurd · active) (absurd · kept)
  refine ⟨fun down => seeks (by simp [session, down]), fun active kept =>
    ⟨wants active kept, fun down returned => ?_⟩⟩
  have wanted := wants active kept (by simp [down])
  have settled := (tick_survives .trivial calm).control returned
  have beside := tick_beside session.device
  -- The tick leaves the wish alone, and what is wanted runs behind it.
  rw [Session.perform, settled.settled down, Session.control_device,
    beside.wanted (Session.unrefused_of_control returned), wanted]

end Runs

section Bench

open Simulation

/-- The bonded peer is offered a directed window and takes it. -/
def takenWindow : List (Move Platform) :=
  [.operation .start, .operation (.event (.connected (some nearPeer) ⟨7⟩)),
    .operation (.event .disconnected), .operation (.event (.connected (some nearPeer) ⟨8⟩))]

/-- The user lets go of the link, and nothing is wanted any more; a link that is lost instead is
looked for again. -/
theorem silent_once_let_go :
    LetGo nearBench
      (takenWindow ++ [.operation (.request .disconnect), .operation (.event .disconnected)]) ∧
    ((nearBench.after (takenWindow ++ [.operation (.event .disconnected)])).perform
      .tick).2.device.running = true := by
  have powered : Session.powerUp _ _ 0 = .ok nearBench := Session.powerUp_fresh _ _
  have started : CleanMoves nearBench [.operation .start] :=
    CleanMoves.none.granted (.operation .start) trivial rfl rfl
  have detected := started.granted (.operation (.event (.connected (some nearPeer) ⟨7⟩)))
    trivial rfl rfl
  have dropped := detected.granted (.operation (.event .disconnected)) trivial rfl rfl
  have taken : CleanMoves nearBench takenWindow :=
    dropped.granted (.operation (.event (.connected (some nearPeer) ⟨8⟩))) trivial rfl rfl
  have closing := taken.granted (.operation (.request .disconnect)) trivial rfl rfl
  have letGo := closing.granted (.operation (.event .disconnected)) trivial rfl rfl
  have lost := taken.granted (.operation (.event .disconnected)) trivial rfl rfl
  refine ⟨((silent_only_at_rest_or_let_go powered letGo).1 rfl rfl).resolve_left nofun, ?_⟩
  have kept : ¬LetGo nearBench (takenWindow ++ [.operation (.event .disconnected)]) :=
    fun letGo => absurd letGo.requested (by simp [takenWindow])
  exact ((silent_only_at_rest_or_let_go powered lost).2 nofun kept).2 rfl nofun

end Bench

end BondedMouse
