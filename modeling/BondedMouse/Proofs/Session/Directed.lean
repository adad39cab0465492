import BondedMouse.Proofs.Session.Discipline
import BondedMouse.Proofs.Session.Targets
import BondedMouse.Proofs.Session.Wish

/-! # Who takes a directed window

A directed window is for one peer, and the whitelist lets no other in.  The controller
relies on it: it keeps the link of any known peer, for it does not compare the peer with
the target.  So a connection that was made under an earlier whitelist, and is reported
once the directed window is in force, takes the window of another.
-/

namespace BondedMouse

variable {ε : Type}

/-! ## The target of a directed window -/

/-- A directed window is for the target of the sequence, and for nobody else. -/
def Aimed (device : Device ε) : Prop :=
  device.mode = .directed →
    device.sequence.phase = .connection ∧
      ∃ target, device.sequence.target? = some target ∧ device.whitelist = [target]

namespace Aimed

variable {device after : Device ε}

theorem of_same (aimed : Aimed device) (same : SameWindow device after) : Aimed after := by
  unfold Aimed
  rw [same.mode, same.sequence, same.whitelist]
  exact aimed

variable [RadioStack ε] [RecordStore ε]

theorem turned (aimed : Aimed device) {accepted : List PeerId}
    (turns : Turns device accepted after) : Aimed after := by
  cases turns with
  | beside same quiet => exact aimed.of_same same
  | detected scans single mode =>
    intro directed
    -- Nobody is detected behind the scan.
    have connection := (aimed (mode.symm.trans directed)).1
    exact absurd (scans.2.symm.trans connection) (by decide)
  | opened opens window first same rest =>
    intro directed
    obtain ⟨phase, -, target⟩ := opens.coherent.directed (same.mode.symm.trans directed)
    rw [same.sequence, same.whitelist]
    exact ⟨phase, target⟩

theorem after_moves {session : Session ε} (wired : session.Wired) (aimed : Aimed session.device)
    (moves : List (Move ε)) (regular : ∀ move ∈ moves, move.Regular) :
    Aimed (session.after moves).device := by
  induction moves generalizing session with
  | nil => exact aimed
  | cons move moves ih =>
    have turns := Session.moved_turns wired (regular move List.mem_cons_self)
    exact ih (wired.moved move) (aimed.turned turns)
      fun other member => regular other (List.mem_cons_of_mem _ member)

end Aimed

/-! ## Centrals that connect -/

section Connections

open Controller

variable [RadioStack ε] {device : Device ε} {handle : LinkHandle}

theorem final_ask (request : RadioRequest) (device : Device ε) :
    final (ask request device) =
      { device with env := (RadioStack.request request device.env).2 } := by
  unfold ask
  dsimp only
  split <;> rfl

/-- In a directed window of the sequence every known peer keeps its link. -/
theorem onConnected_known (mode : device.mode = .directed)
    (phase : device.sequence.phase = .connection) (down : device.link = .down) (peer : PeerId) :
    onConnected (some peer) handle device =
      .ok () { device.linked (some peer) handle with wanted := false } := by
  have receives := onConnected_down (some peer) handle down
  generalize onConnected (some peer) handle device = result at receives
  cases receives with
  | ignored idle => exact absurd (mode.symm.trans idle) (by decide)
  | kept meant => rfl
  | dropped advertises stranger => exact absurd (mode.symm.trans (stranger rfl)) (by decide)
  | detected scans => exact absurd (phase.symm.trans scans.2) (by decide)

/-- A stranger is asked to leave a directed window. -/
theorem onConnected_unknown (mode : device.mode = .directed) (down : device.link = .down) :
    onConnected none handle device =
      ask (.disconnect handle) { device.linked none handle with link := .closing handle } := by
  have receives := onConnected_down none handle down
  generalize onConnected none handle device = result at receives
  cases receives with
  | ignored idle => exact absurd (mode.symm.trans idle) (by decide)
  | paired pairing => exact absurd (mode.symm.trans pairing) (by decide)
  | dropped => exact dropLink_apply _

/-- A peer that is detected is asked to leave, unless the stack refuses a request. -/
theorem Detects.sends_away [RecordStore ε] {peer : PeerId}
    {result : EStateM.Result Fault (Device ε) Unit} (detects : Detects device peer result)
    (up : device.link = .up handle)
    (unrefused : Unrefused result) :
    (final result).link = .closing handle ∧
      ∃ requests, Issued device.env requests (final result).env ∧ .disconnect handle ∈ requests := by
  have asked : .disconnect handle ∈ device.detectRequests peer := by
    simp [Device.detectRequests, up, Link.dropRequests]
  have closing : device.link.dropped = .closing handle := by simp [up, Link.dropped]
  cases detects with
  | refused refuses => exact absurd rfl (unrefused _ _)
  | noted answers more => exact ⟨closing, _, .answered answers.issues, asked⟩
  | @complete env answers all =>
    let middle : Device ε := { device.detected peer with wanted := false, env }
    have link : middle.forTargets.link = device.link.dropped := (Describes.targets middle).link
    have stays : middle.forTargets.env = env := (Describes.targets middle).env
    have asks := putInForce_asks middle.forTargets
    rw [show putInForce _ = putInForce middle.forTargets from rfl] at unrefused ⊢
    generalize putInForce middle.forTargets = result at asks unrefused
    cases asks with
    | refused refuses => exact absurd rfl (unrefused _ _)
    | answered more =>
      -- The link that is on its way down stays so when the next window is put into force.
      have dropped : middle.forTargets.link.dropped = .closing handle := by
        rw [link, closing, Link.dropped]
      rw [stays] at more
      exact ⟨dropped, _, .answered (answers.issues.trans more.issues), List.mem_append_left _ asked⟩

/-- A mode that was set from outside leaves the phase of the scan, in which nobody is kept. -/
theorem onConnected_detected [RecordStore ε] (mode : device.mode = .directed)
    (phase : device.sequence.phase = .scanning) (down : device.link = .down) {peer : PeerId}
    (unrefused : Unrefused (onConnected (some peer) handle device)) :
    (final (onConnected (some peer) handle device)).link = .closing handle ∧
      ∃ requests, Issued device.env requests (final (onConnected (some peer) handle device)).env ∧
        .disconnect handle ∈ requests := by
  have receives := onConnected_down (some peer) handle down
  generalize onConnected (some peer) handle device = result at receives unrefused
  cases receives with
  | ignored idle => exact absurd (mode.symm.trans idle) (by decide)
  | kept meant =>
    obtain other | ⟨-, connection⟩ := meant
    · exact absurd (mode.symm.trans other) (by decide)
    · exact absurd (phase.symm.trans connection) (by decide)
  | dropped advertises stranger => exact absurd (mode.symm.trans (stranger rfl)) (by decide)
  | detected scans detects => exact detects.sends_away rfl unrefused

end Connections

/-! ## Runs -/

section Runs

open Simulation

variable [RadioStack ε] [RecordStore ε]

section Receptions

variable {session : Session (Journaled ε)} {handle : LinkHandle}

theorem Session.receives_known (mode : session.device.mode = .directed)
    (phase : session.device.sequence.phase = .connection) (down : session.device.link = .down)
    (peer : PeerId) :
    let connection : Operation := .event (.connected (some peer) handle)
    (session.perform connection).2.device.link = .up handle ∧
      session.requests connection = [] := by
  have received : (session.perform (.event (.connected (some peer) handle))).2.device =
      { session.device.linked (some peer) handle with wanted := false } := by
    rw [Session.perform, Session.control_device]
    exact congrArg Controller.final (onConnected_known mode phase down peer)
  have issued : Issued session.device.env []
      (session.perform (.event (.connected (some peer) handle))).2.device.env := by
    rw [received]
    exact .answered .none
  exact ⟨by rw [received]; rfl, (Session.requests_of_issued issued).2⟩

theorem Session.receives_unknown (mode : session.device.mode = .directed)
    (down : session.device.link = .down) :
    let connection : Operation := .event (.connected none handle)
    (session.perform connection).2.device.link = .closing handle ∧
      session.requests connection = [.disconnect handle] := by
  have received : (session.perform (.event (.connected none handle))).2.device =
      { session.device.linked none handle with
        link := .closing handle
        env := (RadioStack.request (.disconnect handle) session.device.env).2 } := by
    rw [Session.perform, Session.control_device]
    exact (congrArg Controller.final (onConnected_unknown mode down)).trans
      (final_ask _ _)
  refine ⟨by rw [received], ?_⟩
  rw [Session.requests, received]
  -- The journal has one call more, the request to drop the link.
  show ((session.device.env.calls ++ [Call.radio (.disconnect handle) _]).drop
    session.device.env.calls.length).filterMap Call.request? = _
  rw [List.drop_left]
  rfl

theorem Session.receives_detected (mode : session.device.mode = .directed)
    (phase : session.device.sequence.phase = .scanning) (down : session.device.link = .down)
    {peer : PeerId}
    (answered : ∀ error,
      (session.perform (.event (.connected (some peer) handle))).1 ≠ .error (.stack error)) :
    let connection : Operation := .event (.connected (some peer) handle)
    (session.perform connection).2.device.link = .closing handle ∧
      .disconnect handle ∈ session.requests connection := by
  obtain ⟨closing, requests, issued, asked⟩ :=
    onConnected_detected mode phase down (Session.unrefused_of_control answered)
  rw [← Session.control_device] at closing issued
  refine ⟨closing, ?_⟩
  rw [(Session.requests_of_issued issued).2]
  exact asked

end Receptions

/-- A device in a directed window and without a link keeps the link of every peer that is known,
whether or not it is the target, and asks every stranger to leave.  If the mode was set from
outside during a scan, it asks everybody to leave.  In the firmware's own runs the whitelist is
the target's; so if the central obeyed the whitelist in force, then its link is kept exactly if it
is the target. -/
theorem directed_window_keeps_known_peers {ranking : Ranking} {env : Journaled ε} {reserved : Nat}
    {started : Session (Journaled ε)}
    (powered : Session.powerUp ranking env reserved = .ok started)
    (moves : List (Move (Journaled ε))) (peer : Option PeerId) (handle : LinkHandle)
    (directed : (started.after moves).device.mode = .directed)
    (down : (started.after moves).device.link = .down) :
    let session := started.after moves
    let connection : Operation := .event (.connected peer handle)
    let after := (session.perform connection).2
    (session.device.sequence.phase = .connection →
      (after.device.link = .up handle ↔ peer.isSome) ∧
      (after.device.link ≠ .up handle → after.device.link = .closing handle) ∧
      session.requests connection = if peer.isSome then [] else [.disconnect handle]) ∧
    (session.device.sequence.phase = .scanning →
      (∀ error, (session.perform connection).1 ≠ .error (.stack error)) →
        after.device.link = .closing handle ∧ .disconnect handle ∈ session.requests connection) ∧
    ((∀ move ∈ moves, move.Regular) →
      session.device.sequence.phase = .connection ∧
      ∃ target, session.device.sequence.target? = some target ∧
        session.device.whitelist = [target] ∧
        ((∀ known, peer = some known → known ∈ session.device.whitelist) →
          (after.device.link = .up handle ↔ peer = some target))) := by
  intro session connection after
  have wired := (Session.powerUp_eq_ok powered).1
  have up_ne : ∀ {link : Link}, link = .closing handle → link ≠ .up handle := by
    rintro _ rfl
    nofun
  have received (phase : session.device.sequence.phase = .connection) :
      (after.device.link = .up handle ↔ peer.isSome) ∧
      (after.device.link ≠ .up handle → after.device.link = .closing handle) ∧
      session.requests connection = if peer.isSome then [] else [.disconnect handle] := by
    cases peer with
    | some peer =>
      obtain ⟨up, silent⟩ := Session.receives_known directed phase down peer
      exact ⟨⟨fun _ => rfl, fun _ => up⟩, fun other => absurd up other, silent⟩
    | none =>
      obtain ⟨closing, asked⟩ := Session.receives_unknown directed down
      exact ⟨⟨fun up => absurd up (up_ne closing), nofun⟩, fun _ => closing, asked⟩
  refine ⟨received, fun phase answered => ?_, fun regular => ?_⟩
  · cases peer with
    | some peer => exact Session.receives_detected directed phase down answered
    | none =>
      obtain ⟨closing, asked⟩ := Session.receives_unknown directed down
      exact ⟨closing, asked ▸ List.mem_singleton_self _⟩
  · have idle : Aimed started.device := by
      obtain ⟨-, scanTimer, timers, device⟩ := Session.powerUp_eq_ok powered
      rw [device]
      nofun
    obtain ⟨phase, target, sought, whitelist⟩ := idle.after_moves wired moves regular directed
    refine ⟨phase, target, sought, whitelist, fun obeys => (received phase).1.trans ?_⟩
    cases peer with
    | none => exact ⟨nofun, nofun⟩
    | some peer =>
      have listed : peer = target := by
        simpa [session, whitelist] using obeys peer rfl
      simp [listed]

end Runs

section Bench

open Simulation

/-- A session in memory whose ranking and registry have two peers. -/
def pairBench : Session (Journaled Platform) :=
  .fresh (.ofList [nearPeer, farPeer]) (.new (.new [nearPeer, farPeer] .empty))

/-- One of the two answers the scan, and the scan ends by its timer. -/
def scanForOne : List (Move (Journaled Platform)) :=
  [.operation .start, .operation (.event (.connected (some nearPeer) ⟨7⟩)),
    .operation (.event .disconnected), .operation .tick, .operation .scanTimeout]

/-- The target takes the window that is for it, and a stranger is asked to leave. -/
theorem directed_window_keeps_near_peer :
    let session := pairBench.after scanForOne
    (session.perform (.event (.connected (some nearPeer) ⟨8⟩))).2.device.link = .up ⟨8⟩ ∧
    session.requests (.event (.connected none ⟨8⟩)) = [.disconnect ⟨8⟩] := by
  have powered : Session.powerUp _ _ 0 = .ok pairBench := Session.powerUp_fresh _ _
  have regular : ∀ move ∈ scanForOne, move.Regular := by simp [scanForOne, Move.Regular]
  have taken := directed_window_keeps_known_peers powered scanForOne (some nearPeer) ⟨8⟩ rfl rfl
  have left := directed_window_keeps_known_peers powered scanForOne none ⟨8⟩ rfl rfl
  exact ⟨(taken.1 rfl).1.2 rfl, (left.1 rfl).2.2⟩

/-- The other peer, whose connection was made during the scan and is reported behind it, takes the
window of the target. -/
theorem far_peer_takes_near_window :
    let session := pairBench.after scanForOne
    let connection : Operation := .event (.connected (some farPeer) ⟨8⟩)
    CleanMoves pairBench scanForOne ∧ session.device.mode = .directed ∧
    session.device.link = .down ∧ session.device.sequence.target? = some nearPeer ∧
    farPeer ≠ nearPeer ∧ (session.perform connection).2.device.link = .up ⟨8⟩ ∧
    session.requests connection = [] := by
  have started : CleanMoves pairBench [.operation .start] :=
    CleanMoves.none.granted (.operation .start) trivial rfl rfl
  have answered := started.granted (.operation (.event (.connected (some nearPeer) ⟨7⟩)))
    trivial rfl rfl
  have dropped := answered.granted (.operation (.event .disconnected)) trivial rfl rfl
  have resumed := dropped.granted (.operation .tick) trivial rfl rfl
  have ended := resumed.granted (.operation .scanTimeout) trivial rfl rfl
  exact ⟨ended, rfl, rfl, rfl, by decide, rfl, rfl⟩

end Bench

end BondedMouse
