import BondedMouse.Proofs.Session.Courses
import BondedMouse.Proofs.Session.Targets

/-! # The passes of the directed sequence

A pass of directed windows counts when its last window runs out, and at no other time.
So the counter survives scans, strangers and stale timeouts, only the start of a new
sequence clears it, and the sequence is given up after three passes.

`InPace` is what holds of the sequence wherever a run has come to, `Paces` what a move
does to the counter, and `allowance` the number of passes that may still begin; a move
that begins no new sequence never raises it.
-/

namespace BondedMouse

variable {ε : Type}

namespace Device

/-- The directed window in force is for the last target of its pass. -/
def OffersLast (device : Device ε) : Prop :=
  device.mode = .directed ∧ device.sequence.index + 1 = device.sequence.targets.length

/-- The passes that may still begin in the present sequence. -/
def allowance (device : Device ε) : Nat :=
  match device.mode with
  | .scan => Sequence.maxPasses - device.sequence.passes
  | .directed => Sequence.maxPasses - (device.sequence.passes + 1)
  | .idle | .pairing | .anyBonded => 0

theorem allowance_le (device : Device ε) : device.allowance ≤ Sequence.maxPasses := by
  unfold allowance
  split <;> omega

theorem allowance_of_other {device : Device ε} (undirected : device.mode ≠ .directed)
    (quiet : device.mode ≠ .scan) : device.allowance = 0 := by
  unfold allowance
  split <;> simp_all

end Device

/-- The sequence of a device that scans or offers directed windows: there were fewer passes than
make it give up, and it has come to one of its targets. -/
structure InPace (device : Device ε) : Prop where
  scan : device.mode = .scan → device.sequence.phase = .scanning ∧ device.sequence.Tallied ∧
    device.sequence.passes < Sequence.maxPasses
  directed : device.mode = .directed →
    device.sequence.Walks device.sequence.targets device.sequence.index ∧
      device.sequence.index < device.sequence.targets.length ∧
        device.sequence.passes < Sequence.maxPasses

namespace InPace

variable {device other : Device ε}

theorem of_same (inPace : InPace device) (mode : other.mode = device.mode)
    (sequence : other.sequence = device.sequence) : InPace other where
  scan := by
    rw [mode, sequence]
    exact inPace.scan
  directed := by
    rw [mode, sequence]
    exact inPace.directed

theorem of_other (undirected : device.mode ≠ .directed) (quiet : device.mode ≠ .scan) :
    InPace device where
  scan := fun mode => absurd mode quiet
  directed := fun mode => absurd mode undirected

theorem few (inPace : InPace device) (mode : device.mode = .scan ∨ device.mode = .directed) :
    device.sequence.passes < Sequence.maxPasses := by
  obtain mode | mode := mode
  · exact (inPace.scan mode).2.2
  · exact (inPace.directed mode).2.2

/-- Directed windows are offered in the other phase, so it is a scan that scans. -/
theorem mode_of_scans (inPace : InPace device) (scans : device.Scans) : device.mode = .scan := by
  obtain ⟨mode | mode, phase⟩ := scans
  · exact mode
  · have walks := (inPace.directed mode).1
    exact absurd (walks.phase.symm.trans phase) (by decide)

/-- A directed window has a target, which stands in the place of the index. -/
theorem target (inPace : InPace device) (mode : device.mode = .directed) :
    ∃ peer, device.sequence.target? = some peer ∧
      device.sequence.targets[device.sequence.index]? = some peer := by
  obtain ⟨walks, inside, few⟩ := inPace.directed mode
  have found := List.getElem?_eq_getElem inside
  exact ⟨_, walks.target?.trans found, found⟩

theorem noted (inPace : InPace device) (scans : device.Scans) (peer : PeerId) :
    InPace (device.noted peer) := by
  have mode := inPace.mode_of_scans scans
  obtain ⟨scanning, tallied, few⟩ := inPace.scan mode
  refine ⟨fun _ => ⟨(device.phase_noted peer).trans scanning, ?_, ?_⟩, fun directed => ?_⟩
  · unfold Device.noted
    cases device.ranking.rankOf? peer with
    | none => exact tallied
    | some rank => exact tallied.note rank peer
  · rw [device.passes_noted]
    exact few
  · exact absurd (mode.symm.trans directed) (by decide)

end InPace

/-! ## What a move does to the counter -/

section Windows

variable [RadioStack ε] {device after : Device ε}

/-- The passes are the same, and no mode leads back to the sequence from outside. -/
structure KeepsPasses (device after : Device ε) : Prop where
  inPace : InPace after
  passes : after.sequence.passes = device.sequence.passes
  mode : after.mode = device.mode ∨ (device.mode = .scan ∧ after.mode = .directed) ∨
    (after.mode ≠ .directed ∧ after.mode ≠ .scan)

namespace KeepsPasses

omit [RadioStack ε] in
theorem of_same {middle : Device ε} (keeps : KeepsPasses device middle)
    (mode : after.mode = middle.mode) (sequence : after.sequence = middle.sequence) :
    KeepsPasses device after :=
  ⟨keeps.inPace.of_same mode sequence, sequence ▸ keeps.passes, mode ▸ keeps.mode⟩

theorem forScan (mode : device.mode = .scan) (few : device.sequence.passes < Sequence.maxPasses) :
    KeepsPasses device device.forScan := by
  unfold Device.forScan
  dsimp only
  split
  · exact ⟨.of_other nofun nofun, rfl, .inr (.inr ⟨nofun, nofun⟩)⟩
  · exact ⟨⟨fun _ => ⟨rfl, Sequence.tallied_restart _, few⟩, nofun⟩, rfl, .inl mode.symm⟩

/-- A scan that detects nobody does not count, and one that detects somebody does not count yet. -/
theorem forTargets (inPace : InPace device) (mode : device.mode = .scan) :
    KeepsPasses device device.forTargets := by
  obtain ⟨scanning, tallied, few⟩ := inPace.scan mode
  unfold Device.forTargets
  cases targets : device.sequence.targets with
  | nil =>
    simp only [Sequence.closeScan_nil targets]
    have scanned : KeepsPasses { device with sequence := { device.sequence with
        detected := Vector.ofFn fun _ => none, index := 0 } } _ := forScan mode few
    exact ⟨scanned.inPace, scanned.passes, scanned.mode⟩
  | cons peer peers =>
    have walks := Sequence.walks_closeScan targets tallied
    have same := walks.targets_eq
    have some : 0 < device.sequence.targets.length := by simp [targets]
    rw [← same] at walks some
    simp only [Sequence.closeScan_cons targets] at walks some ⊢
    exact ⟨⟨nofun, fun _ => ⟨walks, some, few⟩⟩, rfl, .inr (.inl ⟨mode, rfl⟩)⟩

theorem forNext (inPace : InPace device) (mode : device.mode = .directed)
    (more : ¬device.OffersLast) : KeepsPasses device device.stopped.forNext := by
  obtain ⟨walks, inside, few⟩ := inPace.directed mode
  have behind : device.sequence.index + 1 < device.sequence.targets.length := by
    have notLast : device.sequence.index + 1 ≠ device.sequence.targets.length :=
      fun last => more ⟨mode, last⟩
    omega
  have turn : device.stopped.sequence.turn = _ :=
    walks.turn_next (List.getElem?_eq_getElem behind)
  unfold Device.forNext
  rw [turn]
  exact ⟨⟨nofun, fun _ => ⟨walks.advance, behind, few⟩⟩, rfl, .inl mode.symm⟩

end KeepsPasses

/-- A pass has run out and counts.  Behind the last pass the device advertises for every bonded
peer, behind another it scans; for an empty registry it opens the pairing window instead. -/
structure CountsPass (device after : Device ε) : Prop where
  inPace : InPace after
  passes : after.sequence.passes = device.sequence.passes + 1
  mode : after.mode =
    if (Registry.whitelist device.env).isEmpty then .pairing
    else if device.sequence.passes + 1 = Sequence.maxPasses then .anyBonded else .scan

theorem CountsPass.of_same {middle : Device ε} (counts : CountsPass device middle)
    (same : SameCourse middle after) : CountsPass device after :=
  ⟨counts.inPace.of_same same.mode same.sequence, same.sequence ▸ counts.passes,
    same.mode.trans counts.mode⟩

theorem CountsPass.forAnyBonded (passes : after.sequence.passes = device.sequence.passes + 1)
    (env : after.env = device.env) (spent : device.sequence.passes + 1 = Sequence.maxPasses) :
    CountsPass device after.forAnyBonded := by
  unfold Device.forAnyBonded
  dsimp only
  rw [env]
  split
  · next empty => exact ⟨.of_other nofun nofun, passes, (if_pos empty).symm⟩
  · next filled =>
    exact ⟨.of_other nofun nofun, passes, ((if_neg filled).trans (if_pos spent)).symm⟩

theorem CountsPass.forScan (passes : after.sequence.passes = device.sequence.passes + 1)
    (env : after.env = device.env) (fewer : device.sequence.passes + 1 < Sequence.maxPasses) :
    CountsPass device after.forScan := by
  unfold Device.forScan
  dsimp only
  rw [env]
  split
  · next empty => exact ⟨.of_other nofun nofun, passes, (if_pos empty).symm⟩
  · next filled =>
    have paced : device.sequence.passes + 1 < Sequence.maxPasses → after.sequence.passes <
        Sequence.maxPasses := by simp [passes]
    exact ⟨⟨fun _ => ⟨rfl, Sequence.tallied_restart _, paced fewer⟩, nofun⟩, passes,
      ((if_neg filled).trans (if_neg (Nat.ne_of_lt fewer))).symm⟩

theorem CountsPass.forNext (inPace : InPace device) (last : device.OffersLast) :
    CountsPass device device.stopped.forNext := by
  obtain ⟨mode, last⟩ := last
  obtain ⟨walks, inside, few⟩ := inPace.directed mode
  have turn : device.stopped.sequence.turn = _ := walks.turn_last (by simp [last])
  unfold Device.forNext
  rw [turn]
  -- The counter tells which window follows, the registry whether it can be opened.
  by_cases spent : device.sequence.passes + 1 = Sequence.maxPasses
  · have reached : device.sequence.passes + 1 ≥ Sequence.maxPasses := Nat.le_of_eq spent.symm
    rw [if_pos reached]
    exact .forAnyBonded rfl rfl spent
  · have fewer : device.sequence.passes + 1 < Sequence.maxPasses := by omega
    rw [if_neg (Nat.not_le_of_lt fewer)]
    exact .forScan rfl rfl fewer

theorem InPace.forSequence (device : Device ε) : InPace device.forSequence := by
  unfold Device.forSequence Device.forScan
  dsimp only
  split
  · exact .of_other nofun nofun
  · exact ⟨fun _ => ⟨rfl, Sequence.tallied_restart _, Nat.zero_lt_succ _⟩, nofun⟩

theorem passes_forSequence (device : Device ε) : device.forSequence.sequence.passes = 0 := by
  unfold Device.forSequence Device.forScan
  dsimp only
  split <;> rfl

namespace Restarts

variable {clean : Prop}

theorem inPace (restarts : Restarts device clean after) : InPace after := by
  obtain ⟨same, opened, wish⟩ := restarts
  exact (InPace.forSequence _).of_same opened.mode opened.sequence

theorem passes (restarts : Restarts device clean after) : after.sequence.passes = 0 := by
  obtain ⟨same, opened, wish⟩ := restarts
  rw [opened.sequence, passes_forSequence]

end Restarts

/-- What a move does to the counter of passes. -/
inductive Paces (device : Device ε) (move : Move ε) (after : Device ε) : Prop
  | keeps (early : ¬(move.Expires device ∧ device.OffersLast)) (keeps : KeepsPasses device after)
  | counts (expires : move.Expires device) (last : device.OffersLast)
      (counts : CountsPass device after)
  | resets (resets : move.Resets device) (inPace : InPace after)
      (passes : after.sequence.passes = 0)

end Windows

section Moves

variable [RadioStack ε] [RecordStore ε] {device after : Device ε} {move : Move ε}

omit [RecordStore ε] in
theorem Course.keepsPasses {clean : Prop} (inPace : InPace device)
    (course : Course device clean after) : KeepsPasses device after := by
  cases course with
  | stays same wish =>
    exact ⟨inPace.of_same same.mode same.sequence, by rw [same.sequence], .inl same.mode⟩
  | noted scans peer same wish =>
    refine ⟨(inPace.noted scans peer).of_same same.mode same.sequence, ?_, .inl same.mode⟩
    rw [same.sequence, device.passes_noted]
  | @opened described follows same wish =>
    have keeps : KeepsPasses device described := by
      cases follows with
      | rest => exact ⟨.of_other nofun nofun, rfl, .inr (.inr ⟨nofun, nofun⟩)⟩
      | pairing => exact ⟨.of_other nofun nofun, rfl, .inr (.inr ⟨nofun, nofun⟩)⟩
      | @targets middle scans held =>
        have mode := held.mode.trans (inPace.mode_of_scans scans)
        obtain ⟨paced, passes, modes⟩ :=
          KeepsPasses.forTargets (inPace.of_same held.mode held.sequence) mode
        exact ⟨paced, by rw [passes, held.sequence], held.mode ▸ modes⟩
      | @completed middle scans peer held =>
        have noted := inPace.noted scans peer
        have mode : middle.mode = .scan := held.mode.trans (inPace.mode_of_scans scans)
        obtain ⟨paced, passes, modes⟩ :=
          KeepsPasses.forTargets (noted.of_same held.mode held.sequence) mode
        refine ⟨paced, by rw [passes, held.sequence, device.passes_noted], ?_⟩
        rw [held.mode] at modes
        exact modes
    exact keeps.of_same same.mode same.sequence

theorem Session.expires_turns {session : Session ε} (expires : move.Expires session.device)
    (mode : session.device.mode = .directed) (phase : session.device.sequence.phase = .connection) :
    SameCourse session.device.stopped.forNext (session.moved move).2.device := by
  rw [expires, Session.moved, Session.perform, Session.control_device]
  have ends := Controller.onTimedOut_expires session.device
  change SameCourse _ (Controller.final (Controller.onTimedOut session.device.window session.device))
  generalize Controller.onTimedOut session.device.window session.device = result at ends
  cases ends with
  | ignored undirected closed => exact absurd mode undirected
  | rested pairing => exact absurd (pairing.symm.trans mode) (by decide)
  | scanned directed scanning => exact absurd (scanning.symm.trans phase) (by decide)
  | offered => exact putInForce_sameCourse _

theorem Session.expires_counts {session : Session ε} (inPace : InPace session.device)
    (expires : move.Expires session.device) (last : session.device.OffersLast) :
    CountsPass session.device (session.moved move).2.device :=
  (CountsPass.forNext inPace last).of_same
    (Session.expires_turns expires last.1 (inPace.directed last.1).1.phase)

theorem Session.moved_paces {session : Session ε} (wired : session.Wired)
    (regular : move.Regular) (inPace : InPace session.device) :
    Paces session.device move (session.moved move).2.device := by
  by_cases last : move.Expires session.device ∧ session.device.OffersLast
  · obtain ⟨expires, last⟩ := last
    exact .counts expires last (Session.expires_counts inPace expires last)
  · cases Session.moved_goes wired regular with
    | on course => exact .keeps last (course.keepsPasses inPace)
    | @clocked before timers rung timed course ends =>
      have waiting : InPace { session.device with timers := before } := inPace.of_same rfl rfl
      obtain ⟨paced, passes, modes⟩ := course.keepsPasses waiting
      rw [ends]
      exact .keeps last ⟨paced.of_same rfl rfl, passes, modes⟩
    | turned expires mode phase same wish =>
      have more : ¬session.device.OffersLast := fun offers => last ⟨expires, offers⟩
      exact .keeps last ((KeepsPasses.forNext inPace mode more).of_same same.mode same.sequence)
    | restarted resets restarts =>
      exact .resets resets restarts.inPace restarts.passes
    | released request up same closing =>
      exact .keeps last ⟨inPace.of_same same.mode same.sequence, by rw [same.sequence],
        .inl same.mode⟩

omit [RecordStore ε] in
theorem Paces.inPace (paces : Paces device move after) : InPace after := by
  cases paces with
  | keeps early keeps => exact keeps.inPace
  | counts expires last counts => exact counts.inPace
  | resets resets inPace passes => exact inPace

/-- A pass of directed windows begins where the mode becomes directed. -/
def Device.Begins (device after : Device ε) : Prop :=
  device.mode ≠ .directed ∧ after.mode = .directed

instance (device after : Device ε) : Decidable (device.Begins after) := by
  unfold Device.Begins
  infer_instance

omit [RecordStore ε] in
/-- A pass that begins was allowed before, and is not any more. -/
theorem Paces.allowance_le (paces : Paces device move after) (inPace : InPace device)
    (goesOn : ¬move.Resets device) :
    (if device.Begins after then 1 else 0) + after.allowance ≤ device.allowance := by
  cases paces with
  | keeps early keeps =>
    obtain ⟨paced, passes, same | ⟨scan, directed⟩ | ⟨undirected, quiet⟩⟩ := keeps
    · have begins : ¬device.Begins after := fun begins => begins.1 (same.symm.trans begins.2)
      simp [begins, Device.allowance, same, passes]
    · have few := inPace.few (.inl scan)
      have begins : device.Begins after := ⟨by simp [scan], directed⟩
      simp only [begins, if_true, Device.allowance, scan, directed, passes]
      omega
    · have begins : ¬device.Begins after := fun begins => undirected begins.2
      simp [begins, Device.allowance_of_other undirected quiet]
  | counts expires last counts =>
    have begins : ¬device.Begins after := fun begins => begins.1 last.1
    obtain ⟨paced, passes, mode⟩ := counts
    simp only [begins, if_false, Nat.zero_add]
    split at mode
    · rw [Device.allowance_of_other (by simp [mode]) (by simp [mode])]
      exact Nat.zero_le _
    · split at mode
      · rw [Device.allowance_of_other (by simp [mode]) (by simp [mode])]
        exact Nat.zero_le _
      · simp [Device.allowance, mode, last.1, passes]
  | resets resets => exact absurd resets goesOn

/-! ## Runs -/

theorem InPace.along {session : Session ε} (inPace : InPace session.device) (wired : session.Wired)
    {moves : List (Move ε)} (regular : ∀ move ∈ moves, move.Regular) :
    InPace (session.after moves).device ∧ (session.after moves).Wired := by
  induction moves generalizing session with
  | nil => exact ⟨inPace, wired⟩
  | cons move moves ih =>
    have paces := Session.moved_paces wired (regular move List.mem_cons_self) inPace
    exact ih paces.inPace (wired.moved move) fun move member =>
      regular move (List.mem_cons_of_mem _ member)

/-- Moves that begin no new sequence, with the number of passes of directed windows that begin. -/
inductive SequenceRun (first : Session ε) : Nat → Session ε → Prop
  | none : SequenceRun first 0 first
  | move {begun : Nat} {session : Session ε} (run : SequenceRun first begun session) {move : Move ε}
      (regular : move.Regular) (goesOn : ¬move.Resets session.device) :
      SequenceRun first
        (begun + if session.device.Begins (session.moved move).2.device then 1 else 0)
        (session.moved move).2

theorem SequenceRun.inPace {first session : Session ε} {begun : Nat}
    (run : SequenceRun first begun session) (inPace : InPace first.device) (wired : first.Wired) :
    InPace session.device ∧ session.Wired := by
  induction run with
  | none => exact ⟨inPace, wired⟩
  | move run regular goesOn ih =>
    exact ⟨(Session.moved_paces ih.2 regular ih.1).inPace, ih.2.moved _⟩

theorem SequenceRun.begun_le {first session : Session ε} {begun : Nat}
    (run : SequenceRun first begun session) (inPace : InPace first.device) (wired : first.Wired) :
    begun + session.device.allowance ≤ first.device.allowance := by
  induction run with
  | none => exact Nat.le_of_eq (Nat.zero_add _)
  | move run regular goesOn ih =>
    obtain ⟨paced, wiredHere⟩ := run.inPace inPace wired
    have step := (Session.moved_paces wiredHere regular paced).allowance_le paced goesOn
    omega

/-- The directed sequence at a place of a run. -/
structure SequenceBounded (session : Session ε) : Prop where
  bounded : session.device.mode = .scan ∨ session.device.mode = .directed →
    session.device.sequence.passes < Sequence.maxPasses
  /-- A directed window is for the target in the place of the index. -/
  target : session.device.mode = .directed →
    ∃ peer, session.device.sequence.target? = some peer ∧
      session.device.sequence.targets[session.device.sequence.index]? = some peer
  counted : ∀ move : Move ε, move.Regular →
    ((session.moved move).2.device.sequence.passes = session.device.sequence.passes + 1 ↔
      move.Expires session.device ∧ session.device.OffersLast)
  uncounted : ∀ move : Move ε, move.Regular → ¬move.Resets session.device →
    ¬(move.Expires session.device ∧ session.device.OffersLast) →
    (session.moved move).2.device.sequence.passes = session.device.sequence.passes
  cleared : ∀ move : Move ε, move.Regular → move.Resets session.device →
    (session.moved move).2.device.sequence.passes = 0
  /-- What follows a pass that counts. -/
  follows : ∀ move : Move ε, move.Expires session.device → session.device.OffersLast →
    (session.moved move).2.device.mode =
      if (Registry.whitelist session.device.env).isEmpty then .pairing
      else if session.device.sequence.passes + 1 = Sequence.maxPasses then .anyBonded else .scan
  /-- However a run goes on, as long as it begins no new sequence. -/
  passes : ∀ {begun : Nat} {last : Session ε}, SequenceRun session begun last →
    begun ≤ Sequence.maxPasses

theorem InPace.sequenceBounded {session : Session ε} (inPace : InPace session.device)
    (wired : session.Wired) : SequenceBounded session where
  bounded := inPace.few
  target := inPace.target
  counted := by
    intro move regular
    refine ⟨fun counted => ?_, fun ⟨expires, last⟩ => ?_⟩
    · cases Session.moved_paces wired regular inPace with
      | keeps early keeps =>
        have same := keeps.passes
        omega
      | counts expires last counts => exact ⟨expires, last⟩
      | resets resets paced passes => omega
    · exact (Session.expires_counts inPace expires last).passes
  uncounted := by
    intro move regular goesOn early
    cases Session.moved_paces wired regular inPace with
    | keeps early keeps => exact keeps.passes
    | counts expires last counts => exact absurd ⟨expires, last⟩ early
    | resets resets => exact absurd resets goesOn
  cleared := fun _ _ resets => resets.restarts.passes
  follows := fun _ expires last => (Session.expires_counts inPace expires last).mode
  passes := by
    intro begun last run
    have most := session.device.allowance_le
    have bounded := run.begun_le inPace wired
    omega

/-- Wherever a run has come to, the directed sequence is within its bound: only the end of a pass
counts, and until a new sequence begins there are at most three passes. -/
theorem directed_sequence_bounded {ranking : Ranking} {env : ε} {reserved : Nat}
    {started : Session ε} (powered : Session.powerUp ranking env reserved = .ok started)
    (moves : List (Move ε)) (regular : ∀ move ∈ moves, move.Regular) :
    SequenceBounded (started.after moves) := by
  obtain ⟨wired, scanTimer, timers, device⟩ := Session.powerUp_eq_ok powered
  have idle : InPace started.device := by
    rw [device]
    exact .of_other nofun nofun
  obtain ⟨inPace, wired⟩ := idle.along wired regular
  exact inPace.sequenceBounded wired

end Moves

section Bench

open Simulation

/-- A session with one bonded peer, which has a rank. -/
def nearBench : Session Platform := .fresh (.ofList [nearPeer]) (.new [nearPeer] .empty)

/-- The bonded peer answers the scan and is offered a directed window, which it does not take. -/
def fruitlessPass (window : Window) : List (Move Platform) :=
  [.operation (.event (.connected (some nearPeer) ⟨7⟩)),
    .operation (.event .disconnected), .operation (.event (.timedOut window))]

/-- Two passes, and the third up to its window. -/
def threePasses : List (Move Platform) :=
  .operation .start :: fruitlessPass ⟨2⟩ ++ fruitlessPass ⟨4⟩ ++ (fruitlessPass ⟨6⟩).take 2

/-- The third pass is the last; then any bonded peer may connect. -/
theorem directed_sequence_given_up :
    let session := nearBench.after threePasses
    session.device.mode = .directed ∧ session.device.sequence.passes = 2 ∧
      session.expired.device.mode = .anyBonded := by
  have regular : ∀ move ∈ threePasses, move.Regular := by
    simp [threePasses, fruitlessPass, Move.Regular]
  have bounded := directed_sequence_bounded
    (Session.powerUp_fresh (.ofList [nearPeer]) (Platform.new [nearPeer] .empty)) threePasses regular
  exact ⟨rfl, rfl, bounded.follows _ rfl ⟨rfl, rfl⟩⟩

end Bench

end BondedMouse
