import BondedMouse.Proofs.Reconnect.Detections
import BondedMouse.Proofs.Session.Flags
import BondedMouse.Proofs.Session.Windows

/-! # From a scan to its directed windows

A scan window collects the peers that show up; the directed windows after it are for
those among them that have a rank, one window each, in the order of the ranks.

`ScanStep` lists what a move can do in a scan window, and `Scanning` is what holds there
from the move that opens the window to the one that ends it.  The directed windows are
followed by `Expirations`, a run in which every window ends by its own timeout.
-/

namespace BondedMouse

variable {ε : Type}

/-! ## The end of a scan window -/

/-- The scan is the same on both devices. -/
structure SameScan (device other : Device ε) : Prop where
  mode : other.mode = device.mode
  window : other.window = device.window
  ranking : other.ranking = device.ranking
  sequence : other.sequence = device.sequence

theorem SameScan.refl (device : Device ε) : SameScan device device := ⟨rfl, rfl, rfl, rfl⟩

section Turned

variable [RadioStack ε] [RecordStore ε] {sequence : Sequence} {before after : Device ε}

/-- A scan that noted peers in a sequence has given way to the window behind it. -/
inductive Turned (sequence : Sequence) (before after : Device ε) : Prop
  | intro {middle : Device ε} (held : middle.sequence = sequence)
      (window : middle.window = before.window) (first : Calls before.env middle.env)
      (same : SameWindow middle.forTargets after) (rest : Calls middle.forTargets.env after.env)

/-- The registry was read anew and is scanned, unless it turned out to be empty. -/
def Rescans (before after : Device ε) : Prop :=
  ∃ reading, Calls before.env reading ∧ Calls reading after.env ∧
    if (Registry.whitelist reading).isEmpty then after.mode = .pairing
    else after.mode = .scan ∧ after.whitelist = Registry.whitelist reading

/-- The device offers a directed window to the target at a place. -/
structure Offering (targets : List PeerId) (place passes : Nat) (device : Device ε) : Prop where
  mode : device.mode = .directed
  walks : device.sequence.Walks targets place
  passes : device.sequence.passes = passes
  whitelist : ∃ peer, targets[place]? = some peer ∧ device.whitelist = [peer]

open Controller

theorem putInForce_turned {middle : Device ε} (held : middle.sequence = sequence)
    (window : middle.window = before.window) (first : Calls before.env middle.env) :
    Turned sequence before (final (putInForce middle.forTargets)) := by
  have asks := putInForce_asks middle.forTargets
  have shifted : SameWindow middle.forTargets middle.forTargets.silenced.advertised :=
    ⟨rfl, rfl, rfl, rfl, rfl⟩
  exact .intro held window first (shifted.trans asks.sameWindow)
    (asks.calls middle.forTargets.forgetBonds_not_mem_openingRequests)

namespace Turned

theorem of_timers {timers : TimerPool} {last : Device ε}
    (turned : Turned sequence { before with timers } last) (after : TimerPool) :
    Turned sequence before { last with timers := after } := by
  obtain ⟨held, window, first, same, rest⟩ := turned
  exact .intro held window first (same.trans ⟨rfl, rfl, rfl, rfl, rfl⟩) rest

theorem numbered (turned : Turned sequence before after) : after.window ≠ before.window := by
  obtain ⟨held, window, first, same, rest⟩ := turned
  rw [same.window, ← window]
  exact Opens.targets.numbered

theorem rescans (turned : Turned sequence before after) (nobody : sequence.targets = []) :
    Rescans before after := by
  obtain @⟨middle, held, window, first, same, rest⟩ := turned
  -- With nobody detected the scan gives way to another scan.
  have scanned : middle.forTargets =
      ({ middle with sequence := sequence.closeScan.2 } : Device ε).forScan := by
    unfold Device.forTargets
    rw [held]
    simp only [Sequence.closeScan_nil nobody]
  have stays : middle.forTargets.env = middle.env := Opens.targets.env
  rw [stays] at rest
  rw [scanned] at same
  refine ⟨middle.env, first, rest, ?_⟩
  unfold Device.forScan at same
  dsimp only at same
  split
  · next empty =>
    rw [if_pos empty] at same
    exact same.mode
  · next filled =>
    rw [if_neg filled] at same
    exact ⟨same.mode, same.whitelist⟩

theorem offering (turned : Turned sequence before after) (somebody : sequence.targets ≠ [])
    (count : sequence.count = sequence.targets.length) :
    Offering sequence.targets 0 sequence.passes after := by
  obtain @⟨middle, held, window, first, same, rest⟩ := turned
  obtain ⟨peer, others, targets⟩ := List.exists_cons_of_ne_nil somebody
  -- The first of the detected peers has the next window, and its place is 0.
  have offered : middle.forTargets =
      ({ middle with sequence := sequence.closeScan.2 } : Device ε).forPeer peer := by
    unfold Device.forTargets
    rw [held]
    simp only [Sequence.closeScan_cons targets]
  rw [offered] at same
  refine ⟨same.mode, ?_, ?_, peer, by rw [targets]; rfl, same.whitelist⟩
  · rw [same.sequence]
    exact Sequence.walks_closeScan targets count
  · rw [same.sequence]
    change sequence.closeScan.2.passes = sequence.passes
    rw [Sequence.closeScan_cons targets]

end Turned

end Turned

/-! ## Steps in a scan window -/

/-- The moves in which the scan timer can ring. -/
inductive Move.Rings : Move ε → Prop
  | scanTimeout : Rings (.operation .scanTimeout)
  | timerStep : Rings (.operation .timerStep)

/-- The moves that open a window of their own: the first of a new sequence, or the pairing window. -/
inductive Move.Restarts : Move ε → Prop
  | start : Restarts (.operation .start)
  | startSequence : Restarts (.operation .startSequence)
  | pairingWindow : Restarts (.operation (.request .pairingWindow))
  | bondsErased : Restarts (.operation (.event .bondsErased))

/-- The device waits in a scan window, in which it accepted some peers. -/
structure Scanning (ranking : Ranking) (accepted : List PeerId) (device : Device ε) : Prop
    extends Calm Ranking.WellFormed device where
  mode : device.mode = .scan
  holds : device.ranking = ranking
  notes : device.sequence.Notes ranking accepted
  more : Controller.allDetected device = false

namespace Scanning

variable {ranking : Ranking} {accepted : List PeerId} {device : Device ε}

theorem of_timers (scanning : Scanning ranking accepted device) (timers : TimerPool) :
    Scanning ranking accepted { device with timers } :=
  { scanning with }

/-- A device that scans wants to advertise, and so keeps no link. -/
theorem unkept (scanning : Scanning ranking accepted device) (handle : LinkHandle) :
    device.link ≠ .up handle := by
  intro up
  -- A kept link and a wish to advertise exclude each other.
  have wanted := (scanning.scan scanning.mode).2
  rw [scanning.kept handle up] at wanted
  cases wanted

end Scanning

section Steps

variable [RadioStack ε] [RecordStore ε]

/-- What a move does in a scan window. -/
inductive ScanStep (device : Device ε) (move : Move ε) (after : Device ε) : Prop
  | waits (nobody : move.accepts device = []) (early : move ≠ .operation .scanTimeout)
      (same : SameScan device after)
  | notes {peer : PeerId} (somebody : move.accepts device = [peer])
      (more : Controller.allDetected (device.noted peer) = false)
      (same : SameScan (device.noted peer) after)
  | detects {peer : PeerId} (somebody : move.accepts device = [peer])
      (all : Controller.allDetected (device.noted peer) = true)
      (turned : Turned (device.noted peer).sequence device after)
  | rings (rings : move.Rings) (turned : Turned device.sequence device after)
  | restarts (restarts : move.Restarts) (numbered : after.window ≠ device.window)

open Controller

variable {ranking : Ranking} {accepted : List PeerId} {device : Device ε}

omit [RadioStack ε] [RecordStore ε] in
theorem Survives.of_final {property : Device ε → Prop}
    {result : EStateM.Result Fault (Device ε) Unit} (holds : property (final result)) :
    Survives property result := by
  cases result with
  | ok value next => exact holds
  | error fault next =>
    cases fault with
    | stack error => trivial
    | storage | timersExhausted | rankingsExhausted => exact holds

theorem onConnected_scanStep (scanning : Scanning ranking accepted device) (peer : Option PeerId)
    (handle : LinkHandle) :
    Survives (ScanStep device (.operation (.event (.connected peer handle))))
      (onConnected peer handle device) := by
  by_cases down : device.link = .down
  · have admitted : device.admits peer = peer.toList := if_pos down
    have scan : (device.linked peer handle).mode = .scan := scanning.mode
    have receives := onConnected_down peer handle down
    -- In a scan strangers are sent away and known peers detected; the rest is of other modes.
    generalize onConnected peer handle device = result at receives
    cases receives with
    | ignored idle => exact absurd (idle.symm.trans scan) (by decide)
    | paired pairing => exact absurd (pairing.symm.trans scan) (by decide)
    | kept meant =>
      obtain other | ⟨-, phase⟩ := meant
      · exact absurd (other.symm.trans scan) (by decide)
      · exact absurd (phase.symm.trans scanning.notes.phase) (by decide)
    | dropped advertises stranger =>
      cases peer with
      | some peer => exact absurd ((stranger rfl).symm.trans scan) (by decide)
      | none =>
        exact (dropLink_asks _).survives fun env => .waits admitted nofun ⟨rfl, rfl, rfl, rfl⟩
    | detected scans detects =>
      cases detects with
      | refused refuses => trivial
      | noted answers more => exact .notes admitted more ⟨rfl, rfl, rfl, rfl⟩
      | complete answers all =>
        have calls := answers.calls (Device.forgetBonds_not_mem_detectRequests _ _)
        -- The window behind the scan is described by now, whether or not the stack refuses it.
        exact .of_final (.detects admitted all (putInForce_turned rfl rfl calls))
  · rw [onConnected_linked peer handle down]
    exact .waits (if_neg down) nofun (.refl device)

theorem onDisconnected_scanStep (scanning : Scanning ranking accepted device) :
    Survives (ScanStep device (.operation (.event .disconnected))) (onDisconnected device) := by
  rw [onDisconnected_apply]
  split
  · exact .waits rfl nofun (.refl device)
  · exact .waits rfl nofun ⟨rfl, rfl, rfl, rfl⟩
  · next up => exact absurd up (scanning.unkept _)

omit [RadioStack ε] in
theorem onBonded_scanning (scanning : Scanning ranking accepted device) (peer : PeerId) :
    Survives (SameScan device) (onBonded peer device) := by
  rw [onBonded_apply]
  split
  · next up => exact absurd up (scanning.unkept _)
  · exact .refl device
  · exact .refl device

omit [RecordStore ε] in
theorem onTimedOut_scanning (scanning : Scanning ranking accepted device) (window : Window) :
    Survives (SameScan device) (onTimedOut window device) := by
  -- The end of its own window is nothing to a scan: the scan timer ends it.
  by_cases present : window = device.window
  · subst present
    have expires := onTimedOut_expires device
    generalize onTimedOut device.window device = result at expires
    cases expires with
    | ignored undirected closed => exact ⟨rfl, rfl, rfl, rfl⟩
    | rested mode => exact absurd (mode.symm.trans scanning.mode) (by decide)
    | scanned mode | offered mode => exact absurd (mode.symm.trans scanning.mode) (by decide)
  · rw [onTimedOut_stale present]
    exact .refl device

omit [RadioStack ε] in
theorem onStorageFull_scanning (device : Device ε) :
    Survives (SameScan device) (onStorageFull device) := by
  unfold onStorageFull
  dsimp only
  split <;> exact ⟨rfl, rfl, rfl, rfl⟩

omit [RecordStore ε] in
theorem onRequest_scanning (scanning : Scanning ranking accepted device) {request : Request}
    (other : request ≠ .pairingWindow) : Survives (SameScan device) (onRequest request device) := by
  cases request with
  | pairingWindow => exact absurd rfl other
  | eraseBonds => exact ⟨rfl, rfl, rfl, rfl⟩
  | moveCursor movement =>
    rw [onRequest_moveCursor]
    split
    · next up => exact absurd up (scanning.unkept _)
    · exact .refl device
    · exact .refl device
  | disconnect =>
    change Survives (SameScan device) (dropLink device)
    rw [dropLink_apply]
    split
    · next up => exact absurd up (scanning.unkept _)
    · exact .refl device
    · exact .refl device

/-- The scan is the same, and no erasure of the bonds is due. -/
structure Undisturbed (device next : Device ε) : Prop extends SameScan device next where
  keeps : ¬(next.erasePending = true ∧ next.link = .down)

/-- A tick that erases nothing leaves the scan alone. -/
theorem tick_scanning (scanning : Scanning ranking accepted device)
    (keeps : ¬(device.erasePending = true ∧ device.link = .down)) :
    Survives (Undisturbed device) (tick device) := by
  rw [tick_apply scanning.clear]
  have reconciled : Survives (Undisturbed device) (reconcile device) :=
    (reconcile_asks device).survives fun env => ⟨⟨rfl, rfl, rfl, rfl⟩, keeps⟩
  refine reconciled.bind fun next undisturbed => ?_
  have spared : Survives (Undisturbed device) (eraseWhenDown next) := by
    rw [eraseWhenDown_apply, if_neg undisturbed.keeps]
    exact undisturbed
  refine spared.bind fun next undisturbed => ?_
  obtain ⟨⟨mode, window, ranking, sequence⟩, keeps⟩ := undisturbed
  exact (saveRanking_saves next).survives ⟨⟨mode, window, ranking, sequence⟩, keeps⟩
    fun _ _ _ => ⟨⟨mode, window, ranking, sequence⟩, keeps⟩

omit [RecordStore ε] in
/-- A window that is put into force has the number of its description. -/
theorem window_putInForce (described : Device ε) :
    (final (putInForce described)).window = described.window :=
  (putInForce_asks described).sameWindow.window

theorem start_numbered (device : Device ε) : (final (start device)).window ≠ device.window := by
  have pruned : device.restored.pruned.window = device.window := rfl
  have numbered := Opens.numbered (.sequence : Opens device.restored.pruned _)
  -- The number is taken before anything can fail.
  rw [← window_putInForce, pruned] at numbered
  rw [start_apply, bind_apply]
  generalize putInForce device.restored.pruned.forSequence = result at numbered
  cases result with
  | ok value next => exact fun same => numbered ((saveRanking_saves next).sameWindow.window ▸ same)
  | error fault next => exact numbered

omit [RecordStore ε] in
theorem startSequence_numbered (device : Device ε) :
    (final (startSequence device)).window ≠ device.window := by
  rw [startSequence_apply, window_putInForce]
  exact Opens.sequence.numbered

/-- The scan timer ends a scan window when it rings. -/
theorem Rings.turned {last : Device ε} (rings : Rings device last)
    (scanning : Scanning ranking accepted device)
    (recorded : ∀ error, last.fault ≠ some (.stack error)) :
    Turned device.sequence device last := by
  cases rings with
  | ignored quiet => exact absurd ⟨scanning.mode, scanning.notes.phase⟩ quiet
  | closed mode phase closes ok =>
    cases closes with
    -- A close that was not refused went on to the targets.
    | refused refuses => cases ok
    | @turned env answers =>
      have turned : Turned device.sequence device
          (final (putInForce { device.silenced with env }.forTargets)) :=
        putInForce_turned rfl rfl (answers.calls device.forgetBonds_not_mem_stopRequests)
      rw [ok] at turned
      exact turned
  | failed mode phase closes error =>
    obtain ⟨refusal, rfl⟩ := closes.error error
    exact absurd rfl (recorded refusal)

/-! ## Moves in a scan window -/

/-- A move of the firmware that the stack does not refuse and that erases no bonds. -/
structure Session.Continues (session : Session ε) (move : Move ε) : Prop
    extends session.Untroubled move where
  regular : move.Regular
  keeps : move = .operation .tick →
    ¬(session.device.erasePending = true ∧ session.device.link = .down)

theorem Scanning.step {session : Session ε} (scanning : Scanning ranking accepted session.device)
    (wired : session.Wired) {move : Move ε} (continues : session.Continues move) :
    ScanStep session.device move (session.moved move).2.device := by
  obtain ⟨⟨returned, recorded⟩, regular, keeps⟩ := continues
  cases move with
  | outside env => exact .waits rfl (by simp) ⟨rfl, rfl, rfl, rfl⟩
  | operation operation =>
    cases operation with
    | setMode mode target => exact regular.elim
    | timerTick => exact .waits rfl (by simp) ⟨rfl, rfl, rfl, rfl⟩
    | start =>
      apply ScanStep.restarts .start
      rw [Session.moved, Session.perform, Session.control_device]
      exact start_numbered _
    | startSequence =>
      apply ScanStep.restarts .startSequence
      rw [Session.moved, Session.perform, Session.control_device]
      exact startSequence_numbered _
    | tick =>
      have undisturbed := (tick_scanning scanning (keeps rfl)).control returned
      exact .waits rfl (by simp) undisturbed.toSameScan
    | scanTimeout =>
      exact .rings .scanTimeout ((onScanTimer_rings session.device).turned scanning recorded)
    | timerStep =>
      have steps := Session.timerStep_steps wired
      change ∀ error, session.timerStep.device.fault ≠ _ at recorded
      change ScanStep session.device _ session.timerStep.device
      generalize session.timerStep.device = last at steps recorded
      cases steps with
      | quiet timers => exact .waits rfl (by simp) ⟨rfl, rfl, rfl, rfl⟩
      | rung before after rung rings =>
        exact .rings .timerStep ((rings.turned (scanning.of_timers before) recorded).of_timers after)
    | event event =>
      cases event with
      | connected peer handle => exact (onConnected_scanStep scanning peer handle).control returned
      | disconnected => exact (onDisconnected_scanStep scanning).control returned
      | bonded peer => exact .waits rfl (by simp) ((onBonded_scanning scanning peer).control returned)
      | timedOut window =>
        exact .waits rfl (by simp) ((onTimedOut_scanning scanning window).control returned)
      | storageFull => exact .waits rfl (by simp) ((onStorageFull_scanning _).control returned)
      | bondsErased =>
        apply ScanStep.restarts .bondsErased
        rw [Session.moved, Session.perform, Session.control_device]
        exact startSequence_numbered _
    | request request =>
      by_cases opens : request = .pairingWindow
      -- Of the requests only that for the pairing window opens one.
      · subst opens
        apply ScanStep.restarts .pairingWindow
        rw [Session.moved, Session.perform, Session.control_device, onRequest_pairingWindow,
          window_putInForce]
        exact Opens.pairing.numbered
      · exact .waits rfl (by simp) ((onRequest_scanning scanning opens).control returned)

end Steps

end BondedMouse
